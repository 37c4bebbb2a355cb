import Watering.Proofs.Schedule.History

namespace Watering

namespace Agenda

variable {a b : Agenda} {now : Nat} {x : Action}

theorem runs_add_expand (a : Agenda) (minute : Nat) (schedule : ScheduleRef) (slot : UInt8) :
    (a.add minute (.expand schedule slot)).runs=a.runs := by
  rw [runs,runs,pending_add]
  split_ifs
  · rw [List.filterMap_append,List.filterMap_cons_none rfl,←List.filterMap_append,
      List.takeWhile_append_dropWhile]
  · rfl

theorem runs_compact (a : Agenda) : a.compact.runs=a.runs := by rw [runs,pending_compact,runs]

theorem Ordered.runs_takeDue? (h : a.Ordered) (ht : a.takeDue? now=some (x,b)) :
    a.runs=x.run?.toList++b.runs := by
  obtain ⟨t,_,hp⟩ := h.takeDue? ht
  rw [runs,hp,List.filterMap_cons]
  cases x.run? <;> rfl

end Agenda

namespace Happening

variable {notes : List Happening} {x : Happening}

/-- Nothing was turned on since a schedule last ended. -/
def Dry : List Happening → Prop
  | [] => True
  | called (.turnOn _)::_ => False
  | x::notes => x.ends=true ∨ Dry notes

/-- What the latest schedule to begin has still to turn on, nothing but its runs having happened
since. -/
inductive Ahead : List Happening → List ZoneRun → Prop where
  | began (schedule : ScheduleRef) (runs : List ZoneRun) (notes : List Happening) :
    Ahead (began schedule runs::notes) runs
  | turned {run : ZoneRun} {runs : List ZoneRun} {notes : List Happening}
    (before : Ahead notes (run::runs)) : Ahead (called (.turnOn run)::notes) runs

/-- A schedule begins over dry notes only, and what is turned on is the next of its runs. -/
def Lawful : List Happening → Prop
  | [] => True
  | began _ _::notes => Dry notes ∧ Lawful notes
  | called (.turnOn run)::notes => (∃ runs,Ahead notes (run::runs)) ∧ Lawful notes
  | _::notes => Lawful notes

/-- The ways in which a schedule ends. -/
theorem cases_ends (h : x.ends=true) :
    x=called .turnOffAll ∨ x=called .stopAll ∨ x=abandoned := by
  cases x with
  | called call =>
    cases call with
    | turnOn => cases h
    | turnOffAll => exact .inl rfl
    | stopAll => exact .inr (.inl rfl)
  | began => cases h
  | abandoned => exact .inr (.inr rfl)

theorem dry_of_ends (h : x.ends=true) : Dry (x::notes) := by
  obtain rfl | rfl | rfl := cases_ends h
  all_goals exact .inl rfl

theorem lawful_of_ends (h : x.ends=true) (k : Lawful notes) : Lawful (x::notes) := by
  obtain rfl | rfl | rfl := cases_ends h
  all_goals exact k

theorem Lawful.of_cons (h : Lawful (x::notes)) : Lawful notes := by
  cases x with
  | called call =>
    cases call with
    | turnOn => exact h.2
    | turnOffAll | stopAll => exact h
  | began => exact h.2
  | abandoned => exact h

theorem Lawful.of_append {newer : List Happening} (h : Lawful (newer++notes)) : Lawful notes := by
  induction newer with
  | nil => exact h
  | cons x newer ih => exact ih h.of_cons

/-- Over dry notes an end lies above whatever was turned on. -/
theorem Dry.exists_ends {newer : List Happening} {run : ZoneRun}
    (h : Dry (newer++called (.turnOn run)::notes)) : ∃ x∈newer,x.ends=true := by
  induction newer with
  | nil => exact absurd h id
  | cons x newer ih =>
    by_cases hx : x.ends=true
    · exact ⟨x,List.mem_cons_self,hx⟩
    · have rest : Dry (newer++called (.turnOn run)::notes) := by
        cases x with
        | called call =>
          cases call with
          | turnOn => exact absurd h id
          | turnOffAll | stopAll => exact absurd rfl hx
        | began => exact h.resolve_left hx
        | abandoned => exact absurd rfl hx
      obtain ⟨y,hy,he⟩ := ih rest
      exact ⟨y,List.mem_cons_of_mem _ hy,he⟩

/-- What is ahead follows what the schedule has turned on since it began. -/
theorem Ahead.exists_began {rest : List ZoneRun} (h : Ahead notes rest) :
    ∃ schedule past earlier,notes=
      (past.map fun run => called (.turnOn run)).reverse++
        Happening.began schedule (past++rest)::earlier := by
  induction h with
  | began schedule runs notes => exact ⟨schedule,[],notes,rfl⟩
  | @turned run runs notes before ih =>
    obtain ⟨schedule,past,earlier,he⟩ := ih
    refine ⟨schedule,past++[run],earlier,?_⟩
    rw [he]
    simp

namespace Lawful

variable {newer between older : List Happening} {run : ZoneRun}

/-- What is turned on is the next run of the schedule that began last. -/
theorem exists_turn (h : Lawful (newer++called (.turnOn run)::older)) :
    ∃ schedule past rest earlier,older=
      (past.map fun run => called (.turnOn run)).reverse++
        began schedule (past++run::rest)::earlier := by
  obtain ⟨⟨rest,ahead⟩,_⟩ := h.of_append
  obtain ⟨schedule,past,earlier,he⟩ := ahead.exists_began
  exact ⟨schedule,past,rest,earlier,he⟩

/-- After a run no schedule begins before an end. -/
theorem exists_ends {schedule : ScheduleRef} {runs : List ZoneRun}
    (h : Lawful (newer++began schedule runs::(between++called (.turnOn run)::older))) :
    ∃ x∈between,x.ends=true := by
  obtain ⟨dry,_⟩ := h.of_append
  exact dry.exists_ends

end Lawful

end Happening

namespace Scheduler

open Happening

variable {α : Type} [Actuator α] {s : Scheduler} {notes : List Happening} {minute : Nat}

/-- Notes that go with a scheduler: if no schedule is active they are dry, else its runs on the
agenda are those that it has still to turn on. -/
structure Follows (s : Scheduler) (notes : List Happening) : Prop where
  lawful : Lawful notes
  idle : s.active=none → Dry notes
  busy : s.active≠none → Ahead notes s.agenda.runs

namespace Follows

theorem ended (h : Lawful notes) {x : Happening} (hx : x.ends=true) (idle : s.active=none) :
    s.Follows (x::notes) :=
  ⟨lawful_of_ends hx h,fun _ => dry_of_ends hx,fun k => absurd idle k⟩

theorem perform (h : s.Follows notes) (o : Orderly s) {x : Action} {agenda : Agenda}
    (ht : s.agenda.takeDue? minute=some (x,agenda)) (a : α) :
    (Scheduler.perform {s with agenda} a minute x).1.Follows
      (performNotes {s with agenda} a minute notes x) := by
  obtain ⟨t,_,first⟩ := o.ordered.mem_takeDue? ht
  have runs := o.ordered.runs_takeDue? ht
  cases x with
  | turnOn run =>
    have active : s.active≠none := by
      intro k
      cases o.idle k _ first
    have ahead : Ahead notes (run::agenda.runs) := by
      have hb := h.busy active
      rwa [runs] at hb
    exact ⟨⟨⟨_,ahead⟩,h.lawful⟩,fun k => absurd k active,fun _ => .turned ahead⟩
  | turnOffAll owner =>
    have active : s.active=some owner := by
      cases hs : s.active with
      | none => cases o.idle hs _ first
      | some schedule =>
        have ho : owner=schedule := o.owned schedule hs _ first
        rw [ho]
    apply ended h.lawful rfl
    change Scheduler.active (if s.active=some owner then _ else _)=none
    rw [if_pos active]
  | expand schedule slot =>
    have same : s.agenda.runs=agenda.runs := runs
    rw [Scheduler.perform,performNotes]
    cases hs : s.active with
    | some active =>
      have busy : s.active≠none := by
        rw [hs]
        exact Option.some_ne_none active
      dsimp only
      refine ⟨h.lawful,fun k => absurd k (Option.some_ne_none active),fun _ => ?_⟩
      change Ahead notes (agenda.add _ _).runs
      rw [Agenda.runs_add_expand,←same]
      exact h.busy busy
    | none =>
      dsimp only
      split_ifs with hn
      · exact ⟨h.lawful,fun _ => h.idle hs,fun k => absurd hn k⟩
      · exact ⟨⟨h.idle hs,h.lawful⟩,fun k => absurd k hn,fun _ => .began ..⟩

theorem fire (h : s.Follows notes) (o : Orderly s) (steps : Nat) (a : α) :
    (Scheduler.fire minute steps s a).1.Follows (fireNotes minute steps s a notes) := by
  induction steps generalizing s a notes with
  | zero => exact h
  | succ steps ih =>
    rw [Scheduler.fire,fireNotes]
    cases ht : s.agenda.takeDue? minute with
    | none => exact h
    | some due => exact ih (h.perform o ht a) (o.perform ht a) _

theorem fireDue (h : s.Follows notes) (o : Orderly s) (minute : Nat) (a : α) :
    (s.fireDue minute a).1.Follows (s.fireDueNotes minute a notes) := by
  have hf : Follows (Scheduler.fire minute (2*s.agenda.dueCount minute) s a).1 _ := h.fire o _ a
  refine ⟨hf.lawful,hf.idle,fun k => ?_⟩
  change Ahead _ (Agenda.compact _).runs
  rw [Agenda.runs_compact]
  exact hf.busy k

theorem reload (h : s.Follows notes) (now : Moment) : (s.reload now).Follows (s.reloadNotes notes) := by
  rw [reloadNotes]
  split_ifs with hs
  · exact ⟨h.lawful,fun _ => h.idle hs,fun k => absurd rfl k⟩
  · exact ended h.lawful rfl rfl

theorem rollDay (h : s.Follows notes) (now : Moment) (a : α) :
    (s.rollDay now a).1.Follows (s.rollDayNotes now notes) := by
  rw [Scheduler.rollDay,rollDayNotes]
  cases s.day with
  | none => exact h.reload now
  | some day =>
    dsimp only
    split_ifs
    · exact h
    · exact ended h.lawful rfl rfl

theorem cancel (h : s.Follows notes) (a : α) : (s.cancel a).1.Follows (s.cancelNotes notes) := by
  rw [Scheduler.cancel,cancelNotes]
  split_ifs
  · exact ended h.lawful rfl rfl
  · exact h

theorem stop (h : s.Follows notes) (a : α) : (s.stop a).1.Follows (called .stopAll::notes) := by
  apply ended h.lawful rfl
  rw [Scheduler.stop]
  cases hs : s.active <;> simp [hs,dropRuns]

theorem askQuick (h : s.Follows notes) (durations : List UInt8) (minute : Nat) :
    Follows {s with
      quick:=some durations
      agenda:=s.agenda.add minute (.expand .quick 0)} notes := by
  refine ⟨h.lawful,h.idle,fun k => ?_⟩
  change Ahead notes (s.agenda.add _ _).runs
  rw [Agenda.runs_add_expand]
  exact h.busy k

theorem handle (h : s.Follows notes) (o : Orderly s) (a : α) (op : Operation) :
    (s.handle a op).1.Follows (s.handleNotes a notes op) := by
  cases op with
  | tick now => exact (h.rollDay now a).fireDue (o.rollDay now a) _ _
  | runQuick durations now =>
    have hc := (h.rollDay now a).cancel (s.rollDay now a).2
    have oc := (o.rollDay now a).cancel (s.rollDay now a).2
    exact (hc.askQuick durations now.minute).fireDue (oc.askQuick durations now.minute) _ _
  | stop => exact h.stop a
  | reload now => exact h.reload now
  | setEnabled enabled now =>
    have he : Follows {s with enabled} notes := ⟨h.lawful,h.idle,h.busy⟩
    exact he.reload now
  | replaceSchedules schedules now =>
    have hr : Follows {s with schedules:=schedules.take maxSchedules} notes :=
      ⟨h.lawful,h.idle,h.busy⟩
    exact hr.reload now
  | setSeasonal | setWeather => exact ⟨h.lawful,h.idle,h.busy⟩

theorem notesFrom (h : s.Follows notes) (o : Orderly s) (ops : List (α×Operation)) :
    Lawful (s.notesFrom notes ops) := by
  induction ops generalizing s notes with
  | nil => exact h.lawful
  | cons step ops ih => exact ih (h.handle o step.1 step.2) (o.handle step.1 step.2)

end Follows

/-- What an actuator is told, whatever the scheduler is told: whoever turns on a zone is the schedule
that began last, and it turns on its runs one after the other; between runs of different schedules
all zones are stopped, or an agenda was laid out anew over the first, which happens only where the
scheduler is told to. -/
theorem stop_between_schedules (schedules : List Schedule) (enabled : Bool) (seasonal : UInt8)
    (ops : List (α×Operation)) :
    let s := ofSchedules schedules enabled seasonal
    let happened := s.history ops
    s.calls ops=happened.filterMap call? ∧
    (∀ before run after,happened=before++called (.turnOn run)::after →
      ∃ earlier schedule past rest,before=
        earlier++began schedule (past++run::rest)::past.map fun r => called (.turnOn r)) ∧
    (∀ before run between run' after,
      happened=before++called (.turnOn run)::(between++called (.turnOn run')::after) →
      (∃ schedule runs,began schedule runs∈between) →
      called .turnOffAll∈between ∨ called .stopAll∈between ∨ abandoned∈between) ∧
    (abandoned∈happened → ∃ step∈ops,step.2.laysOut=true) := by
  intro s happened
  have start : s.Follows [] := ⟨trivial,fun _ => trivial,fun k => absurd rfl k⟩
  have lawful : Lawful (s.notesFrom [] ops) :=
    start.notesFrom (orderly_ofSchedules schedules enabled seasonal) ops
  have reversed {l : List Happening} (h : happened=l) : s.notesFrom [] ops=l.reverse := by
    rw [←h]
    exact (List.reverse_reverse _).symm
  refine ⟨?_,?_,?_,?_⟩
  · rw [calls,show happened=(s.notesFrom [] ops).reverse from rfl,List.filterMap_reverse]
    exact congrArg List.reverse (s.callsFrom_eq [] ops)
  · intro before run after h
    have hr := reversed h
    rw [List.reverse_append,List.reverse_cons,List.append_assoc] at hr
    rw [hr] at lawful
    obtain ⟨schedule,past,rest,earlier,he⟩ := lawful.exists_turn
    refine ⟨earlier.reverse,schedule,past,rest,?_⟩
    have hb := congrArg List.reverse he
    simpa using hb
  · intro before run between run' after h ⟨schedule,runs,hm⟩
    obtain ⟨older,newer,rfl⟩ := List.append_of_mem hm
    have hr := reversed h
    simp only [List.reverse_append,List.reverse_cons,List.append_assoc,List.cons_append,
      List.nil_append] at hr
    rw [hr] at lawful
    have begun : Lawful (newer.reverse++began schedule runs::_) := lawful.of_append.of_cons
    obtain ⟨x,hx,he⟩ := begun.exists_ends
    have hb : x∈older++began schedule runs::newer :=
      List.mem_append_left _ (List.mem_reverse.mp hx)
    obtain rfl | rfl | rfl := cases_ends he
    · exact .inl hb
    · exact .inr (.inl hb)
    · exact .inr (.inr hb)
  · intro m
    have idle : s.Dated := fun _ => rfl
    obtain later | none := laysOut_of_abandoned idle (List.mem_reverse.mp m)
    · exact later
    · cases none

/-- Schedules that are swapped while one of them waters take its stop along: the zone that is on
stays on, and the next schedule turns on another. -/
theorem schedules_overlap_after_replacement :
    let lawn : Schedule :=
      {name:="lawn",recurrence:=.weekdays 127,startTimes:=[360],durations:=[10]}
    let beds : Schedule :=
      {name:="beds",recurrence:=.weekdays 127,startTimes:=[365],durations:=[0,10]}
    let idle : IdleActuator := {maxRun:=99}
    let ops := [(idle,Operation.tick {day:=19877,minute:=360}),
      (idle,.replaceSchedules [lawn,beds] {day:=19877,minute:=364}),
      (idle,.tick {day:=19877,minute:=365})]
    let s := ofSchedules [lawn] true 100
    s.history ops=
      [began (.stored 0) [⟨0,10,some 1,100,100⟩],called (.turnOn ⟨0,10,some 1,100,100⟩),abandoned,
        began (.stored 1) [⟨1,10,some 2,100,100⟩],called (.turnOn ⟨1,10,some 2,100,100⟩)] ∧
    s.calls ops=[.turnOn ⟨0,10,some 1,100,100⟩,.turnOn ⟨1,10,some 2,100,100⟩] := by
  decide

end Scheduler

end Watering
