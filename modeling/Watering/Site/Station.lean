import Watering.Octet

namespace Watering

inductive NetworkKind where
  /-- Valves wired to this controller's own outputs. -/
  | parallel
  /-- Valves behind a serial expander at this controller. -/
  | serial
  /-- A station of its own, reached by radio. -/
  | radio
deriving DecidableEq,Repr

namespace NetworkKind

def isLocal : NetworkKind → Bool
  | radio => false
  | _ => true

def name : NetworkKind → String
  | parallel => "parallel"
  | serial => "serial"
  | radio => "radio"

def ofName? (s : String) : Option NetworkKind := [parallel,serial,radio].find? (·.name==s)

end NetworkKind

/-- `remoteStatus` and `remoteControl` tell whether peers may read and command the station.
`address` is the output of channel 0 of a local station, `firstZone` the zone of channel 0. -/
structure Station where
  name : String
  enabled : Bool := true
  remoteStatus : Bool := true
  remoteControl : Bool := true
  network : NetworkKind := .parallel
  address : UInt16 := 0
  zoneCount : UInt8
  firstZone : UInt8 := 0
  sensorCount : UInt8 := 0
deriving DecidableEq,Repr

namespace Station

def wired (name : String) (zoneCount : UInt8) : Station := {name,zoneCount}

def remote (name : String) (zoneCount firstZone : UInt8) : Station :=
  {name,zoneCount,firstZone,network:=.radio}

def zoneOf (s : Station) (channel : UInt8) : UInt8 := addCapped s.firstZone channel

/-- The output of a channel, if outputs of sixteen bits reach that far. -/
def output? (s : Station) (channel : UInt8) : Option UInt16 :=
  let n := s.address.toNat+channel.toNat
  if n<65536 then some (UInt16.ofNat n) else none

end Station

structure Zone where
  name : String := ""
  enabled : Bool := false
  station : UInt8 := 0
  channel : UInt8 := 0
deriving DecidableEq,Repr

instance : Inhabited Zone := ⟨{}⟩

inductive SensorKind where
  | temperature
  | humidity
  | pressure
deriving DecidableEq,Repr

namespace SensorKind

def name : SensorKind → String
  | temperature => "temperature"
  | humidity => "humidity"
  | pressure => "pressure"

def ofName? (s : String) : Option SensorKind :=
  [temperature,humidity,pressure].find? (·.name==s)

end SensorKind

structure Sensor where
  kind : SensorKind
  station : UInt8
  channel : UInt8
deriving DecidableEq,Repr

end Watering
