import Watering.Site.Station

namespace Watering

namespace Config

structure StationEntry where
  id : UInt8
  name : String
  enabled : Bool := true
  remoteStatus : Bool := true
  remoteControl : Bool := true
  network : NetworkKind
  address : UInt16 := 0
  zoneCount : UInt8
  firstZone : UInt8 := 0
deriving DecidableEq,Repr

/-- Overrides for one zone; zones without an entry are enabled and have a default name. -/
structure ZoneEntry where
  station : UInt8
  channel : UInt8
  name : String := ""
  enabled : Bool := true
  /-- The pin that the zone's valve is wired to. -/
  pin : Option UInt8 := none
deriving DecidableEq,Repr

/-- Runs on the named days, or every `interval` days. -/
structure ScheduleEntry where
  name : String
  enabled : Bool := true
  days : List String := []
  interval : Option UInt8 := none
  startTimes : List String
  durations : List UInt8
  weatherAdjust : Bool := false
deriving DecidableEq,Repr

namespace StationEntry

/-- The zone behind the last one of the station. -/
def endZone (s : StationEntry) : Nat := s.firstZone.toNat+s.zoneCount.toNat

/-- The output behind the last one of the station. -/
def endOutput (s : StationEntry) : Nat := s.address.toNat+s.zoneCount.toNat

end StationEntry

end Config

structure Config where
  unit : UInt8
  /-- Minutes that no single run exceeds. -/
  maxRun : UInt8 := 99
  /-- Percentage for schedules that are adjusted to the weather. -/
  seasonal : UInt8 := 100
  schedulesEnabled : Bool := true
  /-- Minutes that local time is ahead of UTC. -/
  utcOffset : Int := 0
  stations : List Config.StationEntry := []
  zones : List Config.ZoneEntry := []
  sensors : List Sensor := []
  schedules : List Config.ScheduleEntry := []
deriving DecidableEq,Repr

/-- The entry of a station; the first one, if an id comes twice. -/
def Config.station? (c : Config) (id : UInt8) : Option Config.StationEntry :=
  c.stations.find? (·.id==id)

end Watering
