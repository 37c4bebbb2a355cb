import Watering.Proofs.Schedule.Firing

namespace Watering.Scheduler

inductive Operation where
  | tick (now : Moment)
  | runQuick (durations : List UInt8) (now : Moment)
  | stop
  | reload (now : Moment)
  | setEnabled (enabled : Bool) (now : Moment)
  | replaceSchedules (schedules : List Schedule) (now : Moment)
  | setSeasonal (percent : UInt8)
  | setWeather (percent : UInt8)

variable {α : Type} [Actuator α] {s : Scheduler}

def handle (s : Scheduler) (a : α) : Operation → Scheduler×α
  | .tick now => s.tick now a
  | .runQuick durations now => s.runQuick durations now a
  | .stop => s.stop a
  | .reload now => (s.reload now,a)
  | .setEnabled enabled now => (s.setEnabled enabled now,a)
  | .replaceSchedules schedules now => (s.replaceSchedules schedules now,a)
  | .setSeasonal percent => (s.setSeasonal percent,a)
  | .setWeather percent => (s.setWeather percent,a)

/-- Operations one after the other, each with the actuator as it finds it. -/
def handleAll (s : Scheduler) (ops : List (α×Operation)) : Scheduler :=
  ops.foldl (fun s (a,op) => (s.handle a op).1) s

theorem orderly_ofSchedules (schedules : List Schedule) (enabled : Bool) (seasonal : UInt8) :
    Orderly (ofSchedules schedules enabled seasonal) :=
  .of_starts Agenda.ordered_empty fun _ m => by cases m

namespace Orderly

theorem handle (h : Orderly s) (a : α) (op : Operation) : Orderly (s.handle a op).1 := by
  cases op with
  | tick now => exact h.tick now a
  | runQuick durations now => exact h.runQuick durations now a
  | stop => exact h.stop a
  | reload now => exact reload s now
  | setEnabled enabled now => exact reload {s with enabled} now
  | replaceSchedules schedules now => exact reload {s with schedules:=schedules.take maxSchedules} now
  | setSeasonal | setWeather => exact h.drop (.refl _) rfl

theorem handleAll (h : Orderly s) (ops : List (α×Operation)) : Orderly (s.handleAll ops) := by
  induction ops generalizing s with
  | nil => exact h
  | cons step ops ih => exact ih (h.handle step.1 step.2)

theorem tick_done (h : Orderly s) (now : Moment) (a : α) :
    ∀ p∈(s.tick now a).1.agenda.pending,now.minute<p.1 :=
  (h.rollDay now a).fireDue_done _ _

theorem runQuick_done (h : Orderly s) (durations : List UInt8) (now : Moment) (a : α) :
    ∀ p∈(s.runQuick durations now a).1.agenda.pending,now.minute<p.1 :=
  (((h.rollDay now a).cancel _).askQuick durations now.minute).fireDue_done _ _

end Orderly

/-- Whatever a scheduler is told, and whatever its actuator answers: its agenda is in order and
within the day; while no schedule is active there are only start times on it; the runs and the one
stop behind them are of the active schedule; and once a minute is dealt with all that is left is
later. -/
theorem agenda_of_active_schedule (schedules : List Schedule) (enabled : Bool) (seasonal : UInt8)
    (ops : List (α×Operation)) :
    let s := (ofSchedules schedules enabled seasonal).handleAll ops
    let live := s.agenda.pending
    (live.Pairwise fun p q => p.1≤q.1) ∧
    (∀ p∈live,p.1<1440) ∧
    (s.active=none → ∀ p∈live,∃ schedule slot,p.2=.expand schedule slot) ∧
    (∀ schedule,s.active=some schedule →
      (∀ t run,(t,.turnOn run)∈live → run.schedule=some schedule.id) ∧
      (∀ t owner,(t,.turnOffAll owner)∈live → owner=schedule) ∧
      live.countP (·.2.isStop)≤1 ∧
      ∀ t owner u run,(t,.turnOffAll owner)∈live → (u,.turnOn run)∈live → u<t) ∧
    ∀ (now : Moment) (a : α),
      (∀ p∈(s.tick now a).1.agenda.pending,now.minute<p.1) ∧
      ∀ durations,∀ p∈(s.runQuick durations now a).1.agenda.pending,now.minute<p.1 := by
  intro s live
  have h : Orderly s := (orderly_ofSchedules schedules enabled seasonal).handleAll ops
  refine ⟨h.ordered,h.today,?_,?_,?_⟩
  · intro idle p m
    have he := h.idle idle p m
    cases hx : p.2 with
    | expand schedule slot => exact ⟨schedule,slot,rfl⟩
    | turnOn | turnOffAll =>
      rw [hx] at he
      cases he
  · intro schedule active
    have owned := h.owned schedule active
    refine ⟨fun t run m => owned _ m,fun t owner m => owned _ m,?_,?_⟩
    · exact h.single
    · intro t owner u run hp hq
      exact h.last _ hp _ hq rfl rfl
  · intro now a
    exact ⟨h.tick_done now a,fun durations => h.runQuick_done durations now a⟩

/-- A schedule that has just begun: its second run and its stop are ahead. -/
example :
    let lawn : Schedule :=
      {name:="lawn",recurrence:=.weekdays 127,startTimes:=[360],durations:=[10,5]}
    let idle : IdleActuator := {maxRun:=99}
    let s := (ofSchedules [lawn] true 100).handleAll [(idle,.tick {day:=19877,minute:=360})]
    s.active=some (.stored 0) ∧
    s.agenda.pending=
      [(370,.turnOn ⟨1,5,some 1,100,100⟩),(375,.turnOffAll (.stored 0))] := by
  decide

/-- Whatever a scheduler was told, and whatever its actuator answers: carrying out what is due at a
minute comes to an end, after at most one action more than were due. One schedule at most becomes active
in the course of it, and only at a start time; and then nothing is due. -/
theorem firing_ends (schedules : List Schedule) (enabled : Bool) (seasonal : UInt8)
    (ops : List (α×Operation)) (minute : Nat) (a : α) :
    let s := (ofSchedules schedules enabled seasonal).handleAll ops
    ∃ rounds t b,Fires minute s a rounds t b ∧
      s.fireDue minute a=({t with agenda:=t.agenda.compact},b) ∧
      rounds.length≤ s.agenda.dueCount minute+1 ∧
      rounds.countP Round.begins≤1 ∧
      (∀ r∈rounds,r.begins=true → ∃ schedule slot,r.action=.expand schedule slot) ∧
      ∀ p∈(s.fireDue minute a).1.agenda.pending,minute<p.1 := by
  intro s
  have h : Orderly s := (orderly_ofSchedules schedules enabled seasonal).handleAll ops
  obtain ⟨rounds,t,b,fires,few,once,starts⟩ := h.fires minute a
  have ended := fires.fireDue_eq (Nat.le_trans few (Nat.min_le_right ..))
  have bound : rounds.length≤ s.agenda.dueCount minute+1 := Nat.le_trans few (Nat.min_le_left ..)
  refine ⟨rounds,t,b,fires,ended,bound,once,?_,h.fireDue_done minute a⟩
  intro r m begins
  have start := starts r m begins
  cases hx : r.action with
  | expand schedule slot => exact ⟨schedule,slot,rfl⟩
  | turnOn | turnOffAll =>
    rw [hx] at start
    cases start

/-- The one action more may be needed: a start time, and the first run that it brings. -/
example :
    let lawn : Schedule :=
      {name:="lawn",recurrence:=.weekdays 127,startTimes:=[360],durations:=[10,5]}
    let s := reload (ofSchedules [lawn] true 100) {day:=19877,minute:=300}
    let idle : IdleActuator := {maxRun:=99}
    s.agenda.dueCount 360=1 ∧ (fire 360 1 s idle).1.agenda.dueCount 360=1 ∧
    (fire 360 2 s idle).1.agenda.dueCount 360=0 := by
  decide

end Watering.Scheduler
