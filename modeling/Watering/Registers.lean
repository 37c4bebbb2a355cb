import Watering.Frame.Message
import Watering.Site.Station

namespace Watering

structure Registers where
  unit : UInt8
  status : UInt16 := 0
  network : UInt16 := 0
  /-- Takes the place of the configured longest run once written. -/
  maxRun : Option UInt8 := none
  /-- Seconds that the station clock is ahead of the system clock. -/
  clockOffset : Int := 0
deriving DecidableEq,Repr

/-- What a read depends on outside the register file. -/
structure RegisterContext where
  zoneCount : UInt8 := 0
  sensorKinds : List SensorKind := []
  now : Int := 0
  /-- Minutes left to each zone of the station. -/
  countdown : List UInt16 := []
  /-- The configured longest run. -/
  maxRun : UInt8 := 0

namespace RegisterContext

def firstCountdown : UInt8 := 22

def count (ctx : RegisterContext) : Nat := firstCountdown.toNat+ctx.zoneCount.toNat

def sensorsOf (ctx : RegisterContext) (kind : SensorKind) : UInt16 :=
  UInt16.ofNat (ctx.sensorKinds.filter (·==kind)).length

end RegisterContext

def clockBits (seconds : Int) : Nat := (seconds%4294967296).toNat

namespace Registers

/-- Station type, hardware and firmware, zones; sensors of each kind; unit, status and network; the
clock by halves; the longest run; seconds between samples; minutes left to each zone. -/
def read (r : Registers) (address : UInt8) (ctx : RegisterContext) : UInt16 :=
  match address.toNat with
  | 0 => 1
  | 1 => 1
  | 2 => 0x0100
  | 3 => ctx.zoneCount.toUInt16
  | 4 => ctx.sensorsOf .temperature
  | 5 => ctx.sensorsOf .humidity
  | 6 => ctx.sensorsOf .pressure
  | 10 => r.unit.toUInt16
  | 11 => r.status
  | 12 => r.network
  | 14 => UInt16.ofNat (clockBits ctx.now%65536)
  | 16 => UInt16.ofNat (clockBits ctx.now/65536)
  | 18 => (r.maxRun.getD ctx.maxRun).toUInt16
  | 19 | 20 | 21 => 60
  | n => if 22≤n then (ctx.countdown[n-22]?).getD 0 else 0

def octet? (value : UInt16) : Option UInt8 := if value<256 then some value.toUInt8 else none

/-- Write one register at the given system time; `none` for what cannot be written there. Writing
half of the clock keeps its other half. -/
def write? (r : Registers) (address : UInt8) (value : UInt16) (now : Int) : Option Registers :=
  match address.toNat with
  | 10 =>
    match octet? value with
    | none => none
    | some id => if id=broadcastUnit then none else some {r with unit:=id}
  | 11 => some {r with status:=value}
  | 12 => some {r with network:=value}
  | 14 =>
    let high := clockBits (now+r.clockOffset)/65536
    some {r with clockOffset:=(65536*high+value.toNat : Nat)-now}
  | 16 =>
    let low := clockBits (now+r.clockOffset)%65536
    some {r with clockOffset:=(65536*value.toNat+low : Nat)-now}
  | 18 => (octet? value).map fun minutes => {r with maxRun:=some minutes}
  | _ => none

end Registers

end Watering
