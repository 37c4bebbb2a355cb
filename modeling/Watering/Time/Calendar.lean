namespace Watering

/-- A point in time: seconds since the first of January 1970, and nanoseconds into the second. -/
structure Instant where
  seconds : Int := 0
  nanos : Nat := 0
deriving DecidableEq,Repr

def Instant.shift (i : Instant) (s : Int) : Instant := {i with seconds:=i.seconds+s}

structure Date where
  year : Int
  month : Nat
  day : Nat
deriving DecidableEq,Repr

namespace Date

/-- Days since the first of January 1970. Years are counted from March, so that a leap day ends
its year; 400 years have 146097 days. -/
def number (d : Date) : Int :=
  let y := if d.month≤2 then d.year-1 else d.year
  let m := if d.month≤2 then d.month+9 else d.month-3
  let ofYear := y%400*365+y%400/4-y%400/100
  y/400*146097+ofYear+(153*m+2)/5+d.day-1-719468

def ofNumber (n : Int) : Date :=
  let z := n+719468
  let inCycle := (z%146097).toNat
  let y := (inCycle-inCycle/1460+inCycle/36524-inCycle/146096)/365
  let inYear := inCycle-(365*y+y/4-y/100)
  let m := (5*inYear+2)/153
  let month := if m<10 then m+3 else m-9
  ⟨y+z/146097*400+(if month≤2 then 1 else 0),month,inYear-(153*m+2)/5+1⟩

end Date

/-- Days since Sunday of the day numbered `n`. -/
def weekday (n : Int) : Nat := ((n+4)%7).toNat

def minutesPerDay : Nat := 1440

/-- A minute of local time: the number of the day and the minute within it. -/
structure Moment where
  day : Int
  minute : Nat
  minute_lt : minute< minutesPerDay := by decide
deriving DecidableEq

namespace Moment

/-- The minute that an instant falls in where clocks are `offset` seconds ahead. -/
def ofInstant (i : Instant) (offset : Int) : Moment :=
  let s := i.seconds+offset
  ⟨s/86400,(s%86400/60).toNat,by simp only [minutesPerDay]; omega⟩

def later (m : Moment) (n : Nat) : Moment :=
  ⟨m.day+((m.minute+n)/1440 : Nat),(m.minute+n)%1440,Nat.mod_lt _ (by decide)⟩

end Moment

end Watering
