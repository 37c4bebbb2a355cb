import Watering.Proofs.Schedule.Operation

namespace Watering.Scheduler

variable {α : Type} [Actuator α]

/-- What each action that is due keeps, of a scheduler and its actuator, is kept by all of them. -/
theorem fire_induction {P : Scheduler → α → Prop} {minute : Nat}
    (step : ∀ {s : Scheduler} {a : α} {x : Action} {agenda : Agenda},P s a →
      s.agenda.takeDue? minute=some (x,agenda) →
      P (perform {s with agenda} a minute x).1 (perform {s with agenda} a minute x).2)
    {s : Scheduler} {a : α} (h : P s a) (steps : Nat) :
    P (fire minute steps s a).1 (fire minute steps s a).2 := by
  induction steps generalizing s a with
  | zero => exact h
  | succ steps ih =>
    rw [fire]
    cases ht : s.agenda.takeDue? minute with
    | none => exact h
    | some due => exact ih (step h ht)

/-- A property that holds on when an action is carried out, when runs are dropped, when a quick run
is asked for, when the agenda is laid out anew and when a setting changes. -/
structure Kept (α : Type) [Actuator α] (P : Scheduler → Prop) : Prop where
  perform {s : Scheduler} {x : Action} {agenda : Agenda} {minute : Nat} (h : P s) (o : Orderly s)
    (ht : s.agenda.takeDue? minute=some (x,agenda)) (a : α) :
    P (Scheduler.perform {s with agenda} a minute x).1
  dropRuns {s : Scheduler} (h : P s) : P s.dropRuns
  compact {s : Scheduler} (h : P s) : P {s with agenda:=s.agenda.compact}
  askQuick {s : Scheduler} (h : P s) (durations : List UInt8) (minute : Nat) :
    P {s with quick:=some durations,agenda:=s.agenda.add minute (.expand .quick 0)}
  reload {s : Scheduler} (h : P s) (now : Moment) : P (s.reload now)
  setEnabled {s : Scheduler} (h : P s) (enabled : Bool) (now : Moment) : P (s.setEnabled enabled now)
  replaceSchedules {s : Scheduler} (h : P s) (schedules : List Schedule) (now : Moment) :
    P (s.replaceSchedules schedules now)
  setSeasonal {s : Scheduler} (h : P s) (percent : UInt8) : P (s.setSeasonal percent)
  setWeather {s : Scheduler} (h : P s) (percent : UInt8) : P (s.setWeather percent)

namespace Kept

variable {P : Scheduler → Prop} {s : Scheduler}

theorem fire (k : Kept α P) (h : P s) (o : Orderly s) {minute : Nat} (steps : Nat) (a : α) :
    P (Scheduler.fire minute steps s a).1 := by
  have both : P (Scheduler.fire minute steps s a).1 ∧ Orderly (Scheduler.fire minute steps s a).1 :=
    fire_induction (P:=fun s _ => P s ∧ Orderly s)
      (fun ⟨h,o⟩ ht => ⟨k.perform h o ht _,o.perform ht _⟩) ⟨h,o⟩ steps
  exact both.1

theorem fireDue (k : Kept α P) (h : P s) (o : Orderly s) (minute : Nat) (a : α) :
    P (s.fireDue minute a).1 := by
  have hf : P (Scheduler.fire minute (2*s.agenda.dueCount minute) s a).1 := k.fire h o _ a
  exact k.compact hf

theorem rollDay (k : Kept α P) (h : P s) (now : Moment) (a : α) : P (s.rollDay now a).1 := by
  rw [Scheduler.rollDay]
  split
  · exact k.reload h now
  · split_ifs
    · exact h
    · exact k.reload h now

theorem cancel (k : Kept α P) (h : P s) (a : α) : P (s.cancel a).1 := by
  rw [Scheduler.cancel]
  split_ifs
  · exact k.compact (k.dropRuns h)
  · exact h

theorem stop (k : Kept α P) (h : P s) (a : α) : P (s.stop a).1 := by
  rw [Scheduler.stop]
  split_ifs
  · exact k.compact (k.dropRuns h)
  · exact k.compact h

theorem handle (k : Kept α P) (h : P s) (o : Orderly s) (a : α) (op : Operation) :
    P (s.handle a op).1 := by
  cases op with
  | tick now => exact k.fireDue (k.rollDay h now a) (o.rollDay now a) _ _
  | runQuick durations now =>
    have hc := k.cancel (k.rollDay h now a) (s.rollDay now a).2
    have oc := (o.rollDay now a).cancel (s.rollDay now a).2
    exact k.fireDue (k.askQuick hc durations now.minute) (oc.askQuick durations now.minute) _ _
  | stop => exact k.stop h a
  | reload now => exact k.reload h now
  | setEnabled enabled now => exact k.setEnabled h enabled now
  | replaceSchedules schedules now => exact k.replaceSchedules h schedules now
  | setSeasonal percent => exact k.setSeasonal h percent
  | setWeather percent => exact k.setWeather h percent

theorem handleAll (k : Kept α P) (h : P s) (o : Orderly s) (ops : List (α×Operation)) :
    P (s.handleAll ops) := by
  induction ops generalizing s with
  | nil => exact h
  | cons step ops ih => exact ih (k.handle h o step.1 step.2) (o.handle step.1 step.2)

end Kept

end Watering.Scheduler
