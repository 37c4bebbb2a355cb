import Watering.Schedule.Schedule

namespace Watering

inductive Action where
  | turnOn (run : ZoneRun)
  | turnOffAll (schedule : ScheduleRef)
  /-- Start time `slot` of a schedule has come. -/
  | expand (schedule : ScheduleRef) (slot : UInt8)
deriving DecidableEq,Repr

def Action.isExpand : Action → Bool
  | expand .. => true
  | _ => false

structure Agenda where
  /-- What is done or dropped stays, without a minute, until the agenda is compacted. -/
  entries : List (Option Nat×Action) := []
deriving DecidableEq,Repr

namespace Agenda

/-- The minutes and actions still ahead, in order. -/
def pending (a : Agenda) : List (Nat×Action) :=
  a.entries.filterMap fun (due,action) => due.map (·,action)

def isEmpty (a : Agenda) : Bool := a.pending.isEmpty

/-- Put an entry in front of the first that is due later. -/
def place (minute : Nat) (action : Action) : List (Option Nat×Action) → List (Option Nat×Action)
  | [] => [(some minute,action)]
  | (due,x)::rest =>
    if due.any (minute<·) then (some minute,action)::(due,x)::rest
    else (due,x)::place minute action rest

/-- Add an action; minutes past the end of the day are refused. -/
def insert (a : Agenda) (minute : Nat) (action : Action) : Agenda×Bool :=
  if minute< minutesPerDay then (⟨place minute action a.entries⟩,true) else (a,false)

def add (a : Agenda) (minute : Nat) (action : Action) : Agenda := (a.insert minute action).1

/-- Retire the first entry that is due. -/
def takeFirst (now : Nat) : List (Option Nat×Action) → Option (Action×List (Option Nat×Action))
  | [] => none
  | (due,x)::rest =>
    if due.any (·≤now) then some (x,(none,x)::rest)
    else (takeFirst now rest).map fun (y,rest) => (y,(due,x)::rest)

/-- Retire and hand out the earliest action that is due by a minute. -/
def takeDue? (a : Agenda) (now : Nat) : Option (Action×Agenda) :=
  (takeFirst now a.entries).map fun (x,entries) => (x,⟨entries⟩)

def retireWhere (a : Agenda) (p : Action → Bool) : Agenda :=
  ⟨a.entries.map fun (due,x) => (if p x then none else due,x)⟩

def compact (a : Agenda) : Agenda := ⟨a.entries.filter (·.1.isSome)⟩

def dueCount (a : Agenda) (now : Nat) : Nat := (a.pending.filter (·.1≤now)).length

end Agenda

end Watering
