import Mathlib.Data.List.Induction
import Watering.Proofs.Schedule.Operation

namespace Watering

namespace Action

def run? : Action → Option ZoneRun
  | turnOn run => some run
  | _ => none

end Action

/-- The runs that are still ahead, in order. -/
def Agenda.runs (a : Agenda) : List ZoneRun := a.pending.filterMap (·.2.run?)

inductive Happening where
  | called (call : Call)
  /-- A schedule began, with these runs. -/
  | began (schedule : ScheduleRef) (runs : List ZoneRun)
  /-- The agenda was laid out anew while a schedule was active. -/
  | abandoned
deriving DecidableEq

namespace Happening

def call? : Happening → Option Call
  | called call => some call
  | _ => none

/-- Calls that stop all zones, and the end of a schedule by a new agenda. -/
def ends : Happening → Bool
  | called (.turnOn _) | began .. => false
  | _ => true

end Happening

namespace Scheduler

open Happening

variable {α : Type} [Actuator α]

def performNotes (s : Scheduler) (a : α) (minute : Nat) (notes : List Happening) :
    Action → List Happening
  | .turnOn run => called (.turnOn run)::notes
  | .turnOffAll _ => called .turnOffAll::notes
  | .expand schedule _ =>
    match s.active with
    | some _ => notes
    | none =>
      let t := s.expand schedule minute (Actuator.maxRun a)
      if t.active=none then notes else began schedule t.agenda.runs::notes

def fireNotes (minute : Nat) : Nat → Scheduler → α → List Happening → List Happening
  | 0,_,_,notes => notes
  | steps+1,s,a,notes =>
    match s.agenda.takeDue? minute with
    | none => notes
    | some (action,agenda) =>
      let t := perform {s with agenda} a minute action
      fireNotes minute steps t.1 t.2 (performNotes {s with agenda} a minute notes action)

def fireDueNotes (s : Scheduler) (minute : Nat) (a : α) (notes : List Happening) : List Happening :=
  fireNotes minute (2*s.agenda.dueCount minute) s a notes

def reloadNotes (s : Scheduler) (notes : List Happening) : List Happening :=
  if s.active=none then notes else abandoned::notes

def rollDayNotes (s : Scheduler) (now : Moment) (notes : List Happening) : List Happening :=
  match s.day with
  | none => s.reloadNotes notes
  | some day => if day=now.day then notes else called .stopAll::notes

def cancelNotes (s : Scheduler) (notes : List Happening) : List Happening :=
  if s.active.isSome then called .turnOffAll::notes else notes

def handleNotes (s : Scheduler) (a : α) (notes : List Happening) : Operation → List Happening
  | .tick now =>
    let (t,b) := s.rollDay now a
    t.fireDueNotes now.minute b (s.rollDayNotes now notes)
  | .runQuick durations now =>
    let (t,b) := s.rollDay now a
    let (u,c) := t.cancel b
    let agenda := u.agenda.add now.minute (.expand .quick 0)
    fireDueNotes {u with quick:=some durations,agenda} now.minute c
      (t.cancelNotes (s.rollDayNotes now notes))
  | .stop => called .stopAll::notes
  | .reload _ | .setEnabled .. | .replaceSchedules .. => s.reloadNotes notes
  | .setSeasonal _ | .setWeather _ => notes

def notesFrom (s : Scheduler) (notes : List Happening) : List (α×Operation) → List Happening
  | [] => notes
  | (a,op)::ops => notesFrom (s.handle a op).1 (s.handleNotes a notes op) ops

/-- What happens over some operations, in order. -/
def history (s : Scheduler) (ops : List (α×Operation)) : List Happening :=
  (s.notesFrom [] ops).reverse

/-- The calls of the actuator over some operations, newest first. -/
def callsFrom (s : Scheduler) (callsRev : List Call) : List (α×Operation) → List Call
  | [] => callsRev
  | (actuator,op)::ops =>
    let (t,r) := s.handle ({actuator,callsRev} : Recorded α) op
    t.callsFrom r.callsRev ops

def calls (s : Scheduler) (ops : List (α×Operation)) : List Call := (s.callsFrom [] ops).reverse

variable {s t : Scheduler} {minute : Nat} {notes : List Happening}

/-- An actuator with the calls of some notes on its record. -/
def noted (a : α) (notes : List Happening) : Recorded α := ⟨a,notes.filterMap call?⟩

theorem perform_noted (s : Scheduler) (a : α) (notes : List Happening) (x : Action) :
    perform s (noted a notes) minute x=
      ((perform s a minute x).1,noted (perform s a minute x).2 (performNotes s a minute notes x)) := by
  cases x with
  | turnOn run => rfl
  | turnOffAll owner => rfl
  | expand schedule slot =>
    rw [perform,perform,performNotes]
    cases s.active with
    | some active => rfl
    | none =>
      dsimp only
      split_ifs
      · rfl
      · rfl

theorem fire_noted (steps : Nat) (s : Scheduler) (a : α) (notes : List Happening) :
    fire minute steps s (noted a notes)=
      ((fire minute steps s a).1,
        noted (fire minute steps s a).2 (fireNotes minute steps s a notes)) := by
  induction steps generalizing s a notes with
  | zero => rfl
  | succ steps ih =>
    rw [fire,fire,fireNotes]
    cases s.agenda.takeDue? minute with
    | none => rfl
    | some due =>
      dsimp only
      rw [perform_noted]
      exact ih _ _ _

theorem fireDue_noted (s : Scheduler) (minute : Nat) (a : α) (notes : List Happening) :
    s.fireDue minute (noted a notes)=
      ((s.fireDue minute a).1,noted (s.fireDue minute a).2 (s.fireDueNotes minute a notes)) := by
  rw [fireDue,fire_noted]
  rfl

theorem call?_reloadNotes (s : Scheduler) (notes : List Happening) :
    (s.reloadNotes notes).filterMap call?=notes.filterMap call? := by
  rw [reloadNotes]
  split_ifs <;> rfl

theorem rollDay_noted (s : Scheduler) (now : Moment) (a : α) (notes : List Happening) :
    s.rollDay now (noted a notes)=
      ((s.rollDay now a).1,noted (s.rollDay now a).2 (s.rollDayNotes now notes)) := by
  rw [rollDay,rollDay,rollDayNotes]
  cases s.day with
  | none =>
    dsimp only
    rw [noted,noted,call?_reloadNotes]
  | some day =>
    dsimp only
    split_ifs <;> rfl

theorem cancel_noted (s : Scheduler) (a : α) (notes : List Happening) :
    s.cancel (noted a notes)=((s.cancel a).1,noted (s.cancel a).2 (s.cancelNotes notes)) := by
  rw [cancel,cancel,cancelNotes]
  split_ifs <;> rfl

theorem handle_noted (s : Scheduler) (a : α) (notes : List Happening) (op : Operation) :
    s.handle (noted a notes) op=
      ((s.handle a op).1,noted (s.handle a op).2 (s.handleNotes a notes op)) := by
  cases op with
  | tick now =>
    rw [handle,tick,rollDay_noted]
    exact fireDue_noted ..
  | runQuick durations now =>
    rw [handle,runQuick,rollDay_noted]
    dsimp only
    rw [cancel_noted]
    exact fireDue_noted ..
  | stop => rfl
  | reload | setEnabled | replaceSchedules =>
    rw [handle,handle,handleNotes,noted,noted,call?_reloadNotes]
  | setSeasonal | setWeather => rfl

theorem callsFrom_eq (s : Scheduler) (notes : List Happening) (ops : List (α×Operation)) :
    s.callsFrom (notes.filterMap call?) ops=(s.notesFrom notes ops).filterMap call? := by
  induction ops generalizing s notes with
  | nil => rfl
  | cons step ops ih =>
    obtain ⟨a,op⟩ := step
    have hn := handle_noted s a notes op
    rw [noted] at hn
    rw [callsFrom,hn]
    exact ih _ _

/-- Operations that lay out the agenda anew on any day. -/
def Operation.laysOut : Operation → Bool
  | .reload _ | .setEnabled .. | .replaceSchedules .. => true
  | _ => false

/-- No schedule is active before the first day. -/
def Dated (s : Scheduler) : Prop := s.day=none → s.active=none

/-- What a start time is judged by: whether schedules run at all, the schedules themselves and the day
of the agenda. -/
def timetable (s : Scheduler) : Bool×List Schedule×Option Int := (s.enabled,s.schedules,s.day)

theorem Expanded.timetable_eq {schedule : ScheduleRef} (h : Expanded schedule minute s t) :
    t.timetable=s.timetable := by
  cases h <;> rfl

theorem perform_timetable (s : Scheduler) (a : α) (x : Action) :
    (perform s a minute x).1.timetable=s.timetable := by
  cases x with
  | turnOn run => rfl
  | turnOffAll owner =>
    change timetable (if s.active=some owner then _ else _)=s.timetable
    split_ifs <;> rfl
  | expand schedule slot =>
    by_cases idle : s.active=none
    · rw [perform_begun idle]
      exact (expanded_expand ..).timetable_eq
    · rw [perform_deferred idle]
      rfl

theorem fire_timetable (steps : Nat) (s : Scheduler) (a : α) :
    (fire minute steps s a).1.timetable=s.timetable := by
  induction steps generalizing s a with
  | zero => rfl
  | succ steps ih =>
    rw [fire]
    cases s.agenda.takeDue? minute with
    | none => rfl
    | some due => exact (ih _ _).trans (perform_timetable _ a due.1)

theorem fireDue_timetable (s : Scheduler) (minute : Nat) (a : α) :
    (s.fireDue minute a).1.timetable=s.timetable := by
  rw [fireDue]
  exact fire_timetable _ s a

theorem cancel_timetable (s : Scheduler) (a : α) : (s.cancel a).1.timetable=s.timetable := by
  rw [cancel]
  split_ifs <;> rfl

theorem rollDay_day (s : Scheduler) (now : Moment) (a : α) :
    (s.rollDay now a).1.day=some now.day := by
  rw [rollDay]
  cases hd : s.day with
  | none => rfl
  | some day =>
    dsimp only
    split_ifs with h
    · rw [hd,h]
    · rfl

theorem rollDay_same {now : Moment} (hd : s.day=some now.day) (a : α) : s.rollDay now a=(s,a) := by
  rw [rollDay,hd]
  exact if_pos rfl

/-- The day that an operation lays the agenda out for, or finds it laid out for. -/
def Operation.date? : Operation → Option Int
  | .tick now | .runQuick _ now | .reload now | .setEnabled _ now | .replaceSchedules _ now =>
    some now.day
  | .stop | .setSeasonal _ | .setWeather _ => none

theorem handle_day (s : Scheduler) (a : α) (op : Operation) :
    (s.handle a op).1.day=op.date?.or s.day := by
  have dayOf {t u : Scheduler} (h : t.timetable=u.timetable) : t.day=u.day := congrArg (·.2.2) h
  cases op with
  | tick now =>
    rw [handle,tick]
    exact (dayOf (fireDue_timetable ..)).trans (rollDay_day s now a)
  | runQuick durations now =>
    rw [handle,runQuick]
    exact (dayOf (fireDue_timetable ..)).trans
      ((dayOf (cancel_timetable ..)).trans (rollDay_day s now a))
  | stop =>
    rw [handle,stop]
    cases hs : s.active <;> simp [dropRuns,Operation.date?]
  | reload | setEnabled | replaceSchedules => rfl
  | setSeasonal | setWeather => rfl

theorem handleAll_day (s : Scheduler) (ops : List (α×Operation)) :
    (s.handleAll ops).day=(ops.filterMap (·.2.date?)).getLast?.or s.day := by
  induction ops using List.reverseRecOn with
  | nil => rfl
  | append_singleton ops step ih =>
    have last : s.handleAll (ops++[step])=((s.handleAll ops).handle step.1 step.2).1 :=
      List.foldl_append
    rw [last,handle_day,ih,List.filterMap_append,List.getLast?_append,Option.or_assoc]
    cases hd : step.2.date? with
    | none => simp [hd]
    | some day => simp [hd]

theorem Dated.handle (h : s.Dated) (a : α) (op : Operation) : (s.handle a op).1.Dated := by
  intro k
  rw [handle_day] at k
  cases op with
  | tick | runQuick => cases k
  | stop =>
    rw [Scheduler.handle,Scheduler.stop]
    cases hs : s.active <;> simp [hs,dropRuns]
  | reload | setEnabled | replaceSchedules => rfl
  | setSeasonal | setWeather => exact h k

theorem abandoned_of_perform {s : Scheduler} {a : α} {x : Action}
    (m : abandoned∈performNotes s a minute notes x) : abandoned∈notes := by
  cases x with
  | turnOn | turnOffAll => simpa [performNotes] using m
  | expand schedule slot =>
    rw [performNotes] at m
    cases hs : s.active with
    | some active => rwa [hs] at m
    | none =>
      rw [hs] at m
      dsimp only at m
      split_ifs at m
      · exact m
      · simpa using m

theorem abandoned_of_fire {steps : Nat} {s : Scheduler} {a : α}
    (m : abandoned∈fireNotes minute steps s a notes) : abandoned∈notes := by
  induction steps generalizing s a notes with
  | zero => exact m
  | succ steps ih =>
    rw [fireNotes] at m
    cases ht : s.agenda.takeDue? minute with
    | none => rwa [ht] at m
    | some due =>
      rw [ht] at m
      exact abandoned_of_perform (ih m)

theorem abandoned_of_rollDay {now : Moment} (h : s.Dated) (m : abandoned∈s.rollDayNotes now notes) :
    abandoned∈notes := by
  rw [rollDayNotes] at m
  cases hd : s.day with
  | none =>
    rw [hd] at m
    dsimp only at m
    rwa [reloadNotes,if_pos (h hd)] at m
  | some day =>
    rw [hd] at m
    dsimp only at m
    split_ifs at m
    · exact m
    · simpa using m

theorem abandoned_of_cancel (m : abandoned∈s.cancelNotes notes) : abandoned∈notes := by
  rw [cancelNotes] at m
  split_ifs at m
  · simpa using m
  · exact m

theorem abandoned_of_handle {a : α} {op : Operation} (h : s.Dated)
    (m : abandoned∈s.handleNotes a notes op) : op.laysOut=true ∨ abandoned∈notes := by
  cases op with
  | tick now => exact .inr (abandoned_of_rollDay h (abandoned_of_fire m))
  | runQuick durations now =>
    exact .inr (abandoned_of_rollDay h (abandoned_of_cancel (abandoned_of_fire m)))
  | stop => exact .inr (by simpa [handleNotes] using m)
  | reload | setEnabled | replaceSchedules => exact .inl rfl
  | setSeasonal | setWeather => exact .inr m

theorem laysOut_of_abandoned {ops : List (α×Operation)} (h : s.Dated)
    (m : abandoned∈s.notesFrom notes ops) :
    (∃ step∈ops,step.2.laysOut=true) ∨ abandoned∈notes := by
  induction ops generalizing s notes with
  | nil => exact .inr m
  | cons step ops ih =>
    obtain ⟨later,hm,hl⟩ | m := ih (h.handle step.1 step.2) m
    · exact .inl ⟨later,List.mem_cons_of_mem _ hm,hl⟩
    · obtain hl | m := abandoned_of_handle h m
      · exact .inl ⟨step,List.mem_cons_self,hl⟩
      · exact .inr m

end Scheduler

end Watering
