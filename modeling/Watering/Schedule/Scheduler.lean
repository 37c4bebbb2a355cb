import Watering.Schedule.Actuator
import Watering.Schedule.Agenda

namespace Watering

/-- One schedule runs at a time; a start time that comes meanwhile is put off by a minute. -/
structure Scheduler where
  schedules : List Schedule
  /-- Minutes per zone of a quick run that was asked for and not yet expanded. -/
  quick : Option (List UInt8) := none
  agenda : Agenda := {}
  enabled : Bool
  /-- Percentages for schedules that are adjusted to the weather. -/
  seasonal : UInt8
  weather : UInt8 := 100
  active : Option ScheduleRef := none
  /-- The day that the agenda is laid out for. -/
  day : Option Int := none

namespace Scheduler

def ofSchedules (schedules : List Schedule) (enabled : Bool) (seasonal : UInt8) : Scheduler :=
  {schedules:=schedules.take maxSchedules,enabled,seasonal}

/-- The start times still ahead on a day, schedule after schedule. -/
def startsAhead (schedules : List Schedule) (now : Moment) : List (Nat×Action) :=
  schedules.zipIdx.flatMap fun (s,i) =>
    if s.runsOn now.day then
      (s.startTimes.take maxStartTimes).zipIdx.filterMap fun (minute,slot) =>
        if now.minute≤ minute ∧ minute< minutesPerDay then
          some (minute,.expand (.stored (UInt8.ofNat i)) (UInt8.ofNat slot))
        else none
    else []

/-- Drop the agenda and lay out the rest of the day anew. -/
def reload (s : Scheduler) (now : Moment) : Scheduler :=
  let starts := if s.enabled then startsAhead s.schedules now else []
  {s with
    agenda:=starts.foldl (fun a (minute,x) => a.add minute x) {}
    active:=none
    day:=some now.day}

def setEnabled (s : Scheduler) (enabled : Bool) (now : Moment) : Scheduler :=
  reload {s with enabled} now

def replaceSchedules (s : Scheduler) (schedules : List Schedule) (now : Moment) : Scheduler :=
  reload {s with schedules:=schedules.take maxSchedules} now

def setSeasonal (s : Scheduler) (percent : UInt8) : Scheduler := {s with seasonal:=percent}

def setWeather (s : Scheduler) (percent : UInt8) : Scheduler := {s with weather:=percent}

/-- Runs back to back from a minute on: minute, zone and length of each, and the minute after the
last. Zones without minutes are passed over, and so are all once the day is over. -/
def layOut (lengthOf : UInt8 → UInt8) (zone minute : Nat) :
    List UInt8 → List (Nat×UInt8×UInt8)×Nat
  | [] => ([],minute)
  | d::ds =>
    if minutesPerDay≤ minute then ([],minute)
    else if lengthOf d=0 then layOut lengthOf (zone+1) minute ds
    else
      let (runs,stop) := layOut lengthOf (zone+1) (minute+(lengthOf d).toNat) ds
      ((minute,UInt8.ofNat zone,lengthOf d)::runs,stop)

/-- Begin a schedule at a minute with the given minutes per zone and percentages. -/
def begin (s : Scheduler) (schedule : ScheduleRef) (minute : Nat) (cap : UInt8)
    (durations : List UInt8) (seasonal weather : UInt8) : Scheduler :=
  match layOut (fun d => min (adjust d seasonal weather) cap) 0 minute durations with
  | ([],_) => s
  | (runs,stop) =>
    let agenda := runs.foldl (fun a (start,zone,minutes) =>
      a.add start (.turnOn ⟨zone,minutes,some schedule.id,seasonal,weather⟩)) s.agenda
    {s with agenda:=agenda.add stop (.turnOffAll schedule),active:=some schedule}

/-- Turn a start time into runs. A schedule that was removed or disabled has none. -/
def expand (s : Scheduler) (schedule : ScheduleRef) (minute : Nat) (cap : UInt8) : Scheduler :=
  match schedule with
  | .stored i => match s.schedules[i.toNat]? with
    | some x =>
      if !x.enabled then s
      else if x.weatherAdjust then s.begin schedule minute cap x.durations s.seasonal s.weather
      else s.begin schedule minute cap x.durations 100 100
    | none => s
  | .quick => match s.quick with
    | some durations => begin {s with quick:=none} schedule minute cap durations 100 100
    | none => s

variable {α : Type} [Actuator α]

def perform (s : Scheduler) (a : α) (minute : Nat) : Action → Scheduler×α
  | .turnOn run => (s,(Actuator.turnOn a run).1)
  | .turnOffAll schedule =>
    (if s.active=some schedule then {s with active:=none} else s,Actuator.turnOffAll a)
  | .expand schedule slot =>
    match s.active with
    | some _ => ({s with agenda:=s.agenda.add (minute+1) (.expand schedule slot)},a)
    | none => (s.expand schedule minute (Actuator.maxRun a),a)

/-- Carry out what is due, at most `steps` actions of it. -/
def fire (minute : Nat) : Nat → Scheduler → α → Scheduler×α
  | 0,s,a => (s,a)
  | steps+1,s,a =>
    match s.agenda.takeDue? minute with
    | none => (s,a)
    | some (action,agenda) =>
      let (s,a) := perform {s with agenda} a minute action
      fire minute steps s a

/-- Carry out all that is due. An expansion brings one action at most that is due at once, hence
twice the number of actions bounds the steps. -/
def fireDue (s : Scheduler) (minute : Nat) (a : α) : Scheduler×α :=
  let (s,a) := fire minute (2*s.agenda.dueCount minute) s a
  ({s with agenda:=s.agenda.compact},a)

/-- On a new day stop everything and lay out its agenda. -/
def rollDay (s : Scheduler) (now : Moment) (a : α) : Scheduler×α :=
  match s.day with
  | none => (s.reload now,a)
  | some day => if day=now.day then (s,a) else (s.reload now,Actuator.stopAll a)

/-- Carry out what is due; to be called at least once a minute. -/
def tick (s : Scheduler) (now : Moment) (a : α) : Scheduler×α :=
  let (s,a) := s.rollDay now a
  s.fireDue now.minute a

/-- Drop the runs of the active schedule and keep the start times. -/
def dropRuns (s : Scheduler) : Scheduler :=
  {s with agenda:=s.agenda.retireWhere (!·.isExpand),active:=none}

def cancel (s : Scheduler) (a : α) : Scheduler×α :=
  if s.active.isSome then
    let s := s.dropRuns
    ({s with agenda:=s.agenda.compact},Actuator.turnOffAll a)
  else (s,a)

/-- Water right away, in place of whatever schedule is active. -/
def runQuick (s : Scheduler) (durations : List UInt8) (now : Moment) (a : α) : Scheduler×α :=
  let (s,a) := s.rollDay now a
  let (s,a) := s.cancel a
  let agenda := s.agenda.add now.minute (.expand .quick 0)
  fireDue {s with quick:=some durations,agenda} now.minute a

def stop (s : Scheduler) (a : α) : Scheduler×α :=
  let s := if s.active.isSome then s.dropRuns else s
  ({s with agenda:=s.agenda.compact},Actuator.stopAll a)

end Scheduler

end Watering
