import Watering.Proofs.Schedule.History
import Watering.Proofs.Schedule.Kept

namespace Watering

namespace Action

/-- The action is one of a stored schedule. -/
def Concerns (i : UInt8) : Action → Prop
  | turnOn run => run.schedule=some (ScheduleRef.stored i).id
  | turnOffAll _ => False
  | expand schedule _ => schedule=.stored i

end Action

/-- Quick runs have a number of their own. -/
theorem ScheduleRef.eq_stored {schedule : ScheduleRef} {i : UInt8} (hi : i.toNat< maxSchedules)
    (h : schedule.id=(stored i).id) : schedule=stored i := by
  cases schedule with
  | stored j => simpa [id] using h
  | quick =>
    have hq : (100 : UInt8).toNat=(i+1).toNat := congrArg UInt8.toNat h
    simp only [maxSchedules] at hi
    rw [UInt8.toNat_add] at hq
    simp at hq
    omega

namespace Scheduler

open Happening

variable {α : Type} [Actuator α] {s t : Scheduler} {minute : Nat} {notes : List Happening}

/-- A stored schedule may water from a minute of the agenda's day on. -/
def Allows (s : Scheduler) (i : UInt8) (minute : Nat) : Prop :=
  s.enabled=true ∧ ∃ x day,s.schedules[i.toNat]?=some x ∧ s.day=some day ∧ x.runsOn day=true ∧
    ∃ start∈x.startTimes.take maxStartTimes,start≤ minute

namespace Allows

variable {i : UInt8} {later : Nat}

theorem mono (h : s.Allows i minute) (hm : minute≤ later) : s.Allows i later := by
  obtain ⟨on,x,day,hx,hd,hr,start,m,hs⟩ := h
  exact ⟨on,x,day,hx,hd,hr,start,m,Nat.le_trans hs hm⟩

theorem of_timetable (h : s.Allows i minute) (ht : t.timetable=s.timetable) : t.Allows i minute := by
  simp only [timetable,Prod.mk.injEq] at ht
  obtain ⟨he,hs,hd⟩ := ht
  rw [Allows,he,hs,hd]
  exact h

end Allows

/-- Nothing of a stored schedule is pending from before it may water. -/
structure Timely (s : Scheduler) : Prop where
  few : s.schedules.length≤ maxSchedules
  allowed : ∀ p∈s.agenda.pending,∀ i : UInt8,i.toNat< maxSchedules → p.2.Concerns i → s.Allows i p.1

namespace Timely

variable {x : Action} {agenda : Agenda}

/-- Dropping actions is harmless while the timetable stays. -/
theorem drop (h : s.Timely) (ht : t.timetable=s.timetable)
    (hp : t.agenda.pending⊆s.agenda.pending) : t.Timely where
  few := by
    have hs : t.schedules=s.schedules := congrArg (·.2.1) ht
    rw [hs]
    exact h.few
  allowed p m i hi hc := (h.allowed p (hp m) i hi hc).of_timetable ht

theorem addStart (h : s.Timely) (schedule : ScheduleRef) (slot : UInt8)
    (ha : ∀ i : UInt8,i.toNat< maxSchedules → schedule=.stored i → s.Allows i minute) :
    Timely {s with agenda:=s.agenda.add minute (.expand schedule slot)} where
  few := h.few
  allowed p m i hi hc := by
    obtain ⟨rfl,_⟩ | m := Agenda.mem_add.mp m
    · exact ha i hi hc
    · exact h.allowed p m i hi hc

/-- A schedule that may water begins with runs that are no earlier. -/
theorem expanded (h : s.Timely) {schedule : ScheduleRef}
    (ha : ∀ i : UInt8,i.toNat< maxSchedules → schedule=.stored i → s.Allows i minute)
    (e : Expanded schedule minute s t) : t.Timely := by
  cases e with
  | nothing quick => exact h.drop rfl (List.Subset.refl _)
  | @begun quick seasonal weather runs stop some_run chain =>
    refine ⟨h.few,fun p m i hi hc => ?_⟩
    obtain ⟨m,_⟩ | m := Agenda.mem_addAll.mp m
    · obtain ⟨run,hr,rfl⟩ | rfl := mem_course.mp m
      · have of_schedule := ScheduleRef.eq_stored hi (Option.some.inj hc)
        exact (ha i hi of_schedule).mono (chain.bounds hr).1
      · exact absurd hc id
    · exact h.allowed p m i hi hc

theorem perform (h : s.Timely) (o : Orderly s) (ht : s.agenda.takeDue? minute=some (x,agenda))
    (a : α) : (Scheduler.perform {s with agenda} a minute x).1.Timely := by
  obtain ⟨u,hu,first⟩ := o.ordered.mem_takeDue? ht
  have rest : Timely {s with agenda} := h.drop rfl (o.ordered.sublist_takeDue? ht).subset
  cases x with
  | turnOn run => exact rest
  | turnOffAll owner =>
    change Timely (if _ then _ else _)
    split_ifs
    · exact rest.drop rfl (List.Subset.refl _)
    · exact rest
  | expand schedule slot =>
    have due (i : UInt8) (hi : i.toNat< maxSchedules) (hs : schedule=.stored i) :
        Allows {s with agenda} i minute := (h.allowed _ first i hi hs).mono hu
    by_cases idle : Scheduler.active {s with agenda}=none
    · rw [perform_begun idle]
      exact rest.expanded due (expanded_expand ..)
    · rw [perform_deferred idle]
      exact rest.addStart schedule slot fun i hi hs => (due i hi hs).mono (Nat.le_succ minute)

theorem reload (few : s.schedules.length≤ maxSchedules) (now : Moment) : (s.reload now).Timely := by
  refine ⟨few,fun p m i hi hc => ?_⟩
  obtain ⟨on,ahead⟩ := mem_reload.mp m
  obtain ⟨k,x,slot,start,hx,hday,hs,_,rfl⟩ := mem_startsAhead.mp ahead
  obtain ⟨hk,_⟩ := List.getElem?_eq_some_iff.mp hx
  have index : i.toNat=k := by
    rw [←ScheduleRef.stored.inj hc,UInt8.toNat_ofNat']
    simp only [maxSchedules] at few
    omega
  rw [←index] at hx
  exact ⟨on,x,now.day,hx,rfl,hday,start,List.mem_of_getElem? hs,Nat.le_refl _⟩

theorem dropRuns (h : s.Timely) : s.dropRuns.Timely := by
  refine h.drop rfl ?_
  change (Agenda.retireWhere _ _).pending⊆_
  rw [Agenda.pending_retireWhere]
  exact List.filter_sublist.subset

theorem compact (h : s.Timely) : Timely {s with agenda:=s.agenda.compact} := by
  refine h.drop rfl ?_
  rw [Agenda.pending_compact]
  exact List.Subset.refl _

theorem askQuick (h : s.Timely) (durations : List UInt8) (minute : Nat) :
    Timely {s with
      quick:=some durations
      agenda:=s.agenda.add minute (.expand .quick 0)} := by
  have asked : Timely {s with quick:=some durations} := h.drop rfl (List.Subset.refl _)
  exact asked.addStart .quick 0 fun i _ hs => by cases hs

theorem kept : Kept α Timely where
  perform := perform
  dropRuns := dropRuns
  compact := compact
  askQuick := askQuick
  reload h now := reload h.few now
  setEnabled {s} h enabled now := reload (s:={s with enabled}) h.few now
  replaceSchedules {s} _ schedules now :=
    reload (s:={s with schedules:=schedules.take maxSchedules}) (List.length_take_le ..) now
  setSeasonal h _ := h.drop rfl (List.Subset.refl _)
  setWeather h _ := h.drop rfl (List.Subset.refl _)

theorem allows_of_perform (h : s.Timely) (o : Orderly s)
    (ht : s.agenda.takeDue? minute=some (x,agenda)) {a : α} {run : ZoneRun} {i : UInt8}
    (hi : i.toNat< maxSchedules) (hr : run.schedule=some (ScheduleRef.stored i).id)
    (m : called (.turnOn run)∈performNotes {s with agenda} a minute notes x) :
    s.Allows i minute ∨ called (.turnOn run)∈notes := by
  obtain ⟨u,hu,first⟩ := o.ordered.mem_takeDue? ht
  cases x with
  | turnOn due =>
    obtain same | m := List.mem_cons.mp m
    · obtain rfl : run=due := by simpa using same
      exact .inl ((h.allowed _ first i hi hr).mono hu)
    · exact .inr m
  | turnOffAll owner => exact .inr (by simpa [performNotes] using m)
  | expand schedule slot =>
    rw [performNotes] at m
    split at m
    · exact .inr m
    · dsimp only at m
      split_ifs at m
      · exact .inr m
      · exact .inr (by simpa using m)

theorem allows_of_fire (h : s.Timely) (o : Orderly s) {steps : Nat} {a : α} {run : ZoneRun}
    {i : UInt8} (hi : i.toNat< maxSchedules) (hr : run.schedule=some (ScheduleRef.stored i).id)
    (m : called (.turnOn run)∈fireNotes minute steps s a notes) :
    s.Allows i minute ∨ called (.turnOn run)∈notes := by
  induction steps generalizing s a notes with
  | zero => exact .inr m
  | succ steps ih =>
    rw [fireNotes] at m
    cases ht : s.agenda.takeDue? minute with
    | none =>
      rw [ht] at m
      exact .inr m
    | some due =>
      rw [ht] at m
      obtain allowed | m := ih (h.perform o ht a) (o.perform ht a) m
      · have same : (Scheduler.perform {s with agenda:=due.2} a minute due.1).1.timetable=
            s.timetable := perform_timetable ..
        exact .inl (allowed.of_timetable same.symm)
      · exact h.allows_of_perform o ht hi hr m

end Timely

theorem performNotes_eq_append (s : Scheduler) (a : α) (minute : Nat) (notes : List Happening)
    (x : Action) : ∃ newer,called .stopAll∉newer ∧ performNotes s a minute notes x=newer++notes := by
  cases x with
  | turnOn run => exact ⟨[called (.turnOn run)],by simp,rfl⟩
  | turnOffAll owner => exact ⟨[called .turnOffAll],by simp,rfl⟩
  | expand schedule slot =>
    rw [performNotes]
    split
    · exact ⟨[],List.not_mem_nil,rfl⟩
    · dsimp only
      split_ifs
      · exact ⟨[],List.not_mem_nil,rfl⟩
      · exact ⟨[began schedule _],by simp,rfl⟩

theorem fireNotes_eq_append (steps : Nat) (s : Scheduler) (a : α) (minute : Nat)
    (notes : List Happening) :
    ∃ newer,called .stopAll∉newer ∧ fireNotes minute steps s a notes=newer++notes := by
  induction steps generalizing s a notes with
  | zero => exact ⟨[],List.not_mem_nil,rfl⟩
  | succ steps ih =>
    rw [fireNotes]
    cases s.agenda.takeDue? minute with
    | none => exact ⟨[],List.not_mem_nil,rfl⟩
    | some due =>
      dsimp only
      obtain ⟨first,hf,he⟩ := performNotes_eq_append {s with agenda:=due.2} a minute notes due.1
      obtain ⟨later,hl,hr⟩ := ih (perform {s with agenda:=due.2} a minute due.1).1
        (perform {s with agenda:=due.2} a minute due.1).2 (first++notes)
      refine ⟨later++first,by simp [hf,hl],?_⟩
      rw [he,hr,List.append_assoc]

/-- The moment at which an operation carries out what is due. -/
def Operation.moment? : Operation → Option Moment
  | .tick now | .runQuick _ now => some now
  | _ => none

theorem calls_singleton (s : Scheduler) (a : α) (op : Operation) :
    s.calls [(a,op)]=((s.handleNotes a [] op).filterMap call?).reverse :=
  congrArg List.reverse (s.callsFrom_eq [] [(a,op)])

theorem mem_calls_singleton {call : Call} {a : α} {op : Operation} :
    call∈s.calls [(a,op)] ↔ called call∈s.handleNotes a [] op := by
  rw [calls_singleton,List.mem_reverse,List.mem_filterMap]
  constructor
  · rintro ⟨x,m,hx⟩
    cases x with
    | called c => rwa [←Option.some.inj hx]
    | began | abandoned => cases hx
  · exact fun m => ⟨_,m,rfl⟩

theorem not_mem_rollDayNotes {now : Moment} {run : ZoneRun} :
    called (.turnOn run)∉s.rollDayNotes now [] := by
  rw [rollDayNotes,reloadNotes]
  split <;> split_ifs <;> simp

theorem rollDay_schedules (s : Scheduler) (now : Moment) (a : α) :
    (s.rollDay now a).1.enabled=s.enabled ∧ (s.rollDay now a).1.schedules=s.schedules := by
  rw [rollDay]
  split
  · exact ⟨rfl,rfl⟩
  · split_ifs
    · exact ⟨rfl,rfl⟩
    · exact ⟨rfl,rfl⟩

/-- Only what is due turns on a zone of a stored schedule. -/
theorem Timely.allows_of_call (h : s.Timely) (o : Orderly s) {a : α} {op : Operation} {run : ZoneRun}
    {i : UInt8} (hi : i.toNat< maxSchedules) (hr : run.schedule=some (ScheduleRef.stored i).id)
    (m : Call.turnOn run∈s.calls [(a,op)]) :
    ∃ now,op.moment?=some now ∧ (s.rollDay now a).1.Allows i now.minute := by
  rw [mem_calls_singleton] at m
  cases op with
  | tick now =>
    refine ⟨now,rfl,?_⟩
    obtain allowed | m := (kept.rollDay h now a).allows_of_fire (o.rollDay now a) hi hr m
    · exact allowed
    · exact absurd m not_mem_rollDayNotes
  | runQuick durations now =>
    refine ⟨now,rfl,?_⟩
    have hc := kept.cancel (kept.rollDay h now a) (s.rollDay now a).2
    have oc := (o.rollDay now a).cancel (s.rollDay now a).2
    obtain allowed | m := (hc.askQuick durations now.minute).allows_of_fire
      (oc.askQuick durations now.minute) hi hr m
    · exact allowed.of_timetable (cancel_timetable (s.rollDay now a).1 (s.rollDay now a).2).symm
    · rw [cancelNotes] at m
      split_ifs at m
      · exact absurd m (by simp [not_mem_rollDayNotes])
      · exact absurd m not_mem_rollDayNotes
  | stop => simp [handleNotes] at m
  | reload | setEnabled | replaceSchedules =>
    rw [handleNotes,reloadNotes] at m
    split_ifs at m <;> simp at m
  | setSeasonal | setWeather => simp [handleNotes] at m

/-- On a new day everything is stopped once, before all else. -/
theorem stopAll_of_new_day {day : Int} {now : Moment} {op : Operation} (hop : op.moment?=some now)
    (hd : s.day=some day) (hn : day≠now.day) (a : α) :
    ∃ rest,s.calls [(a,op)]=.stopAll::rest ∧ .stopAll∉rest := by
  have rolled : s.rollDay now a=(s.reload now,Actuator.stopAll a) := by
    rw [rollDay,hd]
    exact if_neg hn
  have notes : s.rollDayNotes now []=[called .stopAll] := by
    rw [rollDayNotes,hd]
    exact if_neg hn
  have first : ∃ newer,called .stopAll∉newer ∧ s.handleNotes a [] op=newer++[called .stopAll] := by
    cases op with
    | tick m =>
      obtain rfl := Option.some.inj hop
      rw [handleNotes,notes]
      exact fireNotes_eq_append ..
    | runQuick durations m =>
      obtain rfl := Option.some.inj hop
      rw [handleNotes,notes,rolled]
      exact fireNotes_eq_append ..
    | stop | reload | setEnabled | replaceSchedules | setSeasonal | setWeather => cases hop
  obtain ⟨newer,hm,he⟩ := first
  refine ⟨(newer.filterMap call?).reverse,?_,?_⟩
  · rw [calls_singleton,he,List.filterMap_append,List.reverse_append]
    rfl
  · rw [List.mem_reverse,List.mem_filterMap]
    rintro ⟨x,m,hx⟩
    cases x with
    | called c =>
      rw [call?,Option.some.injEq] at hx
      exact hm (hx ▸ m)
    | began | abandoned => cases hx

/-- Whatever a scheduler is told, and whatever its actuators answer: a zone of a stored schedule is
turned on by a tick or a quick run only, with schedules switched on, and the schedule as it stands is
enabled, runs on that day and has a start time that has come; and where the day is not the one that
the agenda was last laid out for or carried out on, everything is stopped, once and first. -/
theorem stored_schedules_water_in_time (schedules : List Schedule) (enabled : Bool) (seasonal : UInt8)
    (ops : List (α×Operation)) (a : α) (op : Operation) :
    let s := (ofSchedules schedules enabled seasonal).handleAll ops
    let calls := s.calls [(a,op)]
    (∀ run (i : UInt8),i.toNat< maxSchedules → run.schedule=some (ScheduleRef.stored i).id →
      .turnOn run∈calls →
      ∃ now,op.moment?=some now ∧ s.enabled=true ∧ ∃ x,s.schedules[i.toNat]?=some x ∧
        x.enabled=true ∧ x.recurrence.runsOn now.day=true ∧
        ∃ start∈x.startTimes.take maxStartTimes,start≤now.minute) ∧
    ∀ now day,op.moment?=some now → (ops.filterMap (·.2.date?)).getLast?=some day → day≠now.day →
      ∃ rest,calls=.stopAll::rest ∧ .stopAll∉rest := by
  intro s calls
  have orderly : Orderly s := (orderly_ofSchedules schedules enabled seasonal).handleAll ops
  have timely : s.Timely := by
    have start : Timely (ofSchedules schedules enabled seasonal) :=
      ⟨List.length_take_le ..,fun _ m => by cases m⟩
    exact Timely.kept.handleAll start (orderly_ofSchedules schedules enabled seasonal) ops
  refine ⟨fun run i hi hr m => ?_,fun now day hop last hn => ?_⟩
  · obtain ⟨now,hop,on,x,day,hx,hd,runs,start,hs⟩ := timely.allows_of_call orderly hi hr m
    obtain ⟨he,hsame⟩ := s.rollDay_schedules now a
    obtain rfl : now.day=day := by
      rw [rollDay_day] at hd
      exact Option.some.inj hd
    simp only [Schedule.runsOn,Bool.and_eq_true] at runs
    exact ⟨now,hop,he ▸ on,x,hsame ▸ hx,runs.1.1,runs.2,start,hs⟩
  · have hd : s.day=some day := by
      rw [show s.day=_ from handleAll_day ..,last,Option.some_or]
    exact stopAll_of_new_day hop hd hn a

/-- The morning after: the schedule that was left unfinished is stopped and begins anew. -/
theorem stored_schedules_water_in_time_nextMorning :
    let lawn : Schedule :=
      {name:="lawn",recurrence:=.weekdays 127,startTimes:=[360],durations:=[10,5]}
    let idle : IdleActuator := {maxRun:=99}
    let ops := [(idle,Operation.tick {day:=19877,minute:=360})]
    let s := (ofSchedules [lawn] true 100).handleAll ops
    let now : Moment := {day:=19878,minute:=360}
    let run : ZoneRun := ⟨0,10,some 1,100,100⟩
    (s.calls [(idle,.tick now)]=[.stopAll,.turnOn run] ∧
      (ops.filterMap (·.2.date?)).getLast?=some 19877 ∧ (19877 : Int)≠now.day) ∧
    (∃ m,(Operation.tick now).moment?=some m ∧ s.enabled=true ∧ ∃ x,s.schedules[0]?=some x ∧
      x.enabled=true ∧ x.recurrence.runsOn m.day=true ∧
      ∃ start∈x.startTimes.take maxStartTimes,start≤ m.minute) ∧
    ∃ rest,s.calls [(idle,.tick now)]=.stopAll::rest ∧ .stopAll∉rest := by
  intro lawn idle ops s now run
  have told : s.calls [(idle,.tick now)]=[.stopAll,.turnOn run] := by decide
  obtain ⟨waters,stops⟩ :=
    stored_schedules_water_in_time [lawn] true 100 ops idle (.tick now)
  refine ⟨⟨told,rfl,by decide⟩,?_,stops now 19877 rfl rfl (by decide)⟩
  apply waters run 0 (by decide) rfl
  rw [told]
  exact List.mem_cons_of_mem _ List.mem_cons_self

end Scheduler

end Watering
