import Watering.Time.Calendar
import Watering.Zone.Status

namespace Watering

inductive Recurrence where
  /-- Bit `n` stands for the `n`-th day of the week; Sunday is bit 0. -/
  | weekdays (mask : UInt8)
  /-- Every `n` days, counted from the first of January 1970. -/
  | interval (n : UInt8)
deriving DecidableEq,Repr

def Recurrence.runsOn (day : Int) : Recurrence → Bool
  | weekdays mask => mask.toNat.testBit (weekday day)
  | interval n => n≠0 && day%n.toNat==0

def maxSchedules : Nat := 4

def maxStartTimes : Nat := 4

/-- Start times are minutes of the local day; durations are minutes, one for each zone from 0 on. -/
structure Schedule where
  name : String
  enabled : Bool := true
  recurrence : Recurrence
  startTimes : List Nat
  durations : List UInt8
  weatherAdjust : Bool := false
deriving DecidableEq,Repr

namespace Schedule

def watersAnything (s : Schedule) : Bool := s.durations.any (0<·)

def runsOn (s : Schedule) (day : Int) : Bool :=
  s.enabled && s.watersAnything && s.recurrence.runsOn day

end Schedule

/-- The schedule behind a run: one of those stored, or a quick run. -/
inductive ScheduleRef where
  | stored (index : UInt8)
  | quick
deriving DecidableEq,Repr

/-- Stored schedules count from 1, so that 0 can stand for a manual run. -/
def ScheduleRef.id : ScheduleRef → UInt8
  | stored i => i+1
  | quick => 100

def maxAdjusted : Nat := 254

/-- Minutes scaled by two percentages. The product of the percentages is cut to whole percents, the
minutes are rounded to the nearest. -/
def adjust (minutes seasonal weather : UInt8) : UInt8 :=
  let percent := seasonal.toNat*weather.toNat/100
  UInt8.ofNat (min ((minutes.toNat*percent+50)/100) maxAdjusted)

end Watering
