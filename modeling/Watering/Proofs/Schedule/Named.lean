import Watering.Proofs.Schedule.Quick
import Watering.Proofs.Schedule.Timeline
import Watering.Proofs.Schedule.Turns

namespace Watering

def ZoneRun.ofQuick (run : ZoneRun) : Bool := run.schedule=some ScheduleRef.quick.id

/-- A run for each entry with minutes; its zone is the octet of the entry's place. -/
def quickRuns (cap : UInt8) (durations : List UInt8) : List ZoneRun :=
  durations.zipIdx.filterMap fun (d,k) =>
    let minutes := min (min 254 d.toNat) cap.toNat
    if 0< minutes then some ⟨UInt8.ofNat k,UInt8.ofNat minutes,some 100,100,100⟩ else none

section

variable {cap : UInt8} {durations : List UInt8}

theorem mem_quickRuns {run : ZoneRun} (h : run∈quickRuns cap durations) :
    ∃ k d,durations[k]?=some d ∧ d≠0 ∧ run.zone=UInt8.ofNat k ∧
      run.minutes.toNat=min (min 254 d.toNat) cap.toNat := by
  obtain ⟨⟨d,k⟩,m,h⟩ := List.mem_filterMap.mp h
  dsimp only at h
  split_ifs at h with pos
  obtain rfl := Option.some.inj h
  refine ⟨k,d,List.mem_zipIdx_iff_getElem?.mp m,fun zero => ?_,rfl,?_⟩
  · rw [zero,UInt8.toNat_zero] at pos
    omega
  · have fits := cap.toNat_lt
    rw [UInt8.toNat_ofNat']
    omega

/-- Places below 256 have octets of their own. -/
theorem named_of_mem_quickRuns (short : durations.length≤256) {run : ZoneRun}
    (h : run∈quickRuns cap durations) : ∃ d,durations[run.zone.toNat]?=some d ∧ d≠0 ∧
      run.minutes.toNat=min (min 254 d.toNat) cap.toNat := by
  obtain ⟨k,d,hd,nonzero,zone,minutes⟩ := mem_quickRuns h
  have hk : k<durations.length := (List.getElem?_eq_some_iff.mp hd).1
  have place : run.zone.toNat=k := by
    rw [zone,UInt8.toNat_ofNat']
    omega
  exact ⟨d,place ▸ hd,nonzero,minutes⟩

theorem nodup_quickRuns (short : durations.length≤256) :
    ((quickRuns cap durations).map (·.zone)).Nodup := by
  have places : durations.zipIdx.Pairwise fun p q => p.2≠q.2 := by
    have distinct : (durations.zipIdx.map Prod.snd).Nodup := by
      rw [List.zipIdx_map_snd]
      exact List.nodup_range'
    exact List.pairwise_map.mp distinct
  refine List.pairwise_map.mpr (List.pairwise_filterMap.mpr (places.imp_of_mem ?_))
  intro p q hp hq ne run hr run' hr'
  dsimp only at hr hr'
  split_ifs at hr hr'
  obtain rfl := Option.some.inj hr
  obtain rfl := Option.some.inj hr'
  have hp := List.snd_lt_of_mem_zipIdx hp
  have hq := List.snd_lt_of_mem_zipIdx hq
  intro same
  have octets := congrArg UInt8.toNat same
  dsimp only at octets
  rw [UInt8.toNat_ofNat',UInt8.toNat_ofNat'] at octets
  omega

end

namespace Scheduler

open Happening

variable {α : Type} [Actuator α] {s t : Scheduler} {minute : Nat} {x : Action} {agenda : Agenda}
  {cap : UInt8} {durations : List UInt8} {notes : List Happening}

theorem runs_timeline_quick (minute : Nat) (cap : UInt8) (durations : List UInt8) :
    (timeline .quick 100 100 minute (durations.map (share 100 100 cap))).filterMap (·.2.run?)=
      quickRuns cap durations := by
  have stop : [(minute+(durations.map (share 100 100 cap)).sum,Action.turnOffAll .quick)].filterMap
      (·.2.run?)=[] := rfl
  rw [timeline,course,List.filterMap_append,stop,List.append_nil,List.filterMap_map,runsFrom,
    List.zipIdx_map,List.filterMap_map,List.filterMap_filterMap,quickRuns]
  refine congrArg (List.filterMap · _) (funext fun p => ?_)
  simp only [Function.comp,Prod.map,id,share_quick]
  split_ifs
  · simp [Action.run?,ScheduleRef.id]
  · rfl

/-- The runs on the agenda of a schedule that has begun are those that the day has room for. -/
theorem Begun.runs_sublist {schedule : ScheduleRef} {events : List (Nat×Action)}
    (b : Begun s t schedule minute cap events) (o : Orderly t)
    (starts : ∀ p∈s.agenda.pending,p.2.isExpand=true) :
    t.agenda.runs.Sublist ((timeline schedule (s.dose schedule).seasonal (s.dose schedule).weather
      minute ((s.dose schedule).shares cap)).filterMap (·.2.run?)) := by
  have runs_of_filter (l : List (Nat×Action)) :
      l.filterMap (·.2.run?)=(l.filter (·.2.isRun)).filterMap (·.2.run?) := by
    rw [List.filterMap_filter]
    refine congrArg (List.filterMap · l) (funext fun p => ?_)
    cases p.2 <;> rfl
  have pending := b.filter_pending_of (q:=(·.2.isRun)) o fun p m =>
    Bool.eq_false_iff.mpr fun k => by
      have start := Action.not_isExpand_of_isRun k
      rw [starts p m] at start
      cases start
  rw [Agenda.runs,runs_of_filter,pending]
  exact (List.filter_sublist.trans List.filter_sublist).filterMap _

/-- What was turned on for a quick run. -/
def watered (notes : List Happening) : List ZoneRun :=
  (((notes.filterMap call?).filterMap Call.run?).filter ZoneRun.ofQuick).reverse

/-- What was turned on for a quick run, and what is still ahead of it. -/
def quickCourse (s : Scheduler) (notes : List Happening) : List ZoneRun :=
  watered notes++s.agenda.runs.filter ZoneRun.ofQuick

theorem quick_begin (s : Scheduler) (schedule : ScheduleRef) (minute : Nat) (cap : UInt8)
    (durations : List UInt8) (seasonal weather : UInt8) :
    (s.begin schedule minute cap durations seasonal weather).quick=s.quick := by
  rw [begin]
  split <;> rfl

theorem Orderly.runs_idle (o : Orderly s) (idle : s.active=none) : s.agenda.runs=[] := by
  refine List.filterMap_eq_nil_iff.mpr fun p m => ?_
  have start := o.idle idle p m
  cases hx : p.2 with
  | expand => rfl
  | turnOn | turnOffAll =>
    rw [hx] at start
    cases start

/-- Stored schedules turn on nothing in the name of a quick run. -/
theorem Orderly.ofQuick_stored (o : Orderly t) {i : UInt8} (hi : i.toNat< maxSchedules)
    (active : t.active=some (.stored i)) : t.agenda.runs.filter ZoneRun.ofQuick=[] := by
  refine List.filter_eq_nil_iff.mpr fun run m quick => ?_
  obtain ⟨p,hp,hr⟩ := List.mem_filterMap.mp m
  have owned := o.owned _ active p hp
  cases hx : p.2 with
  | expand | turnOffAll =>
    rw [hx] at hr
    cases hr
  | turnOn due =>
    rw [hx] at hr owned
    obtain rfl : due=run := Option.some.inj hr
    have same : some ScheduleRef.quick.id=some (ScheduleRef.stored i).id :=
      (of_decide_eq_true quick).symm.trans owned
    cases ScheduleRef.eq_stored hi (Option.some.inj same)

theorem watered_turnOn (run : ZoneRun) (notes : List Happening) :
    watered (called (.turnOn run)::notes)=watered notes++[run].filter ZoneRun.ofQuick := by
  rw [watered,watered,←List.reverse_reverse ([run].filter _),←List.reverse_append]
  refine congrArg List.reverse ?_
  cases h : run.ofQuick <;> simp [call?,Call.run?,h]

theorem watered_expand (s : Scheduler) (a : α) (minute : Nat) (notes : List Happening)
    (schedule : ScheduleRef) (slot : UInt8) :
    watered (performNotes s a minute notes (.expand schedule slot))=watered notes := by
  rw [watered,call?_performNotes,watered]

theorem quick_perform_expand (idle : s.active=none) (schedule : ScheduleRef) (slot : UInt8)
    (minute : Nat) (a : α) :
    (Scheduler.perform s a minute (.expand schedule slot)).1.quick=(s.spend schedule).quick := by
  rw [perform_begun idle,expand_eq]
  exact quick_begin ..

/-- A start time of a stored schedule puts nothing ahead of a quick run. -/
theorem Orderly.ofQuick_expand_stored (o : Orderly s) (idle : s.active=none)
    (hday : minute< minutesPerDay) {i slot : UInt8} (hi : i.toNat< maxSchedules) {a : α}
    (ot : Orderly (Scheduler.perform s a minute (.expand (.stored i) slot)).1) :
    (Scheduler.perform s a minute (.expand (.stored i) slot)).1.agenda.runs.filter ZoneRun.ofQuick=
      [] := by
  obtain ⟨_,spent⟩ | ⟨_,events,b⟩ := perform_start idle hday (.stored i) slot a
  · have same : (Scheduler.perform s a minute (.expand (.stored i) slot)).1=s := spent
    rw [same,o.runs_idle idle]
    rfl
  · exact ot.ofQuick_stored hi b.active

/-- The start time of a quick run puts runs of its list ahead. -/
theorem Orderly.ofQuick_expand_quick (o : Orderly s) (idle : s.active=none)
    (hday : minute< minutesPerDay) {slot : UInt8} {a : α}
    (ot : Orderly (Scheduler.perform s a minute (.expand .quick slot)).1) :
    ((Scheduler.perform s a minute (.expand .quick slot)).1.agenda.runs.filter
      ZoneRun.ofQuick).Sublist (quickRuns (Actuator.maxRun a) (s.quick.getD [])) := by
  obtain ⟨_,spent⟩ | ⟨_,events,b⟩ := perform_start idle hday .quick slot a
  · have same : (Scheduler.perform s a minute (.expand .quick slot)).1.agenda.runs=[] := by
      rw [show _=s.spend .quick from spent,agenda_spend]
      exact o.runs_idle idle
    rw [same]
    exact List.nil_sublist _
  · have laid := b.runs_sublist ot (o.idle idle)
    have dose : s.dose .quick=⟨s.quick.getD [],100,100⟩ := rfl
    rw [dose,Dose.shares,runs_timeline_quick] at laid
    exact List.filter_sublist.trans laid

/-- Carrying out an action moves runs from the agenda to what was turned on, in order; but when a
quick run begins, its runs are added, and it is used up. -/
theorem Orderly.quickCourse_perform (o : Orderly s) (l : s.Listed) (hday : minute< minutesPerDay)
    (ht : s.agenda.takeDue? minute=some (x,agenda)) (a : α) (notes : List Happening) :
    let t := (Scheduler.perform {s with agenda} a minute x).1
    let told := performNotes {s with agenda} a minute notes x
    (t.quick=s.quick ∧ quickCourse t told=quickCourse s notes) ∨
    t.quick=none ∧ ∃ runs,quickCourse t told=quickCourse s notes++runs ∧
      runs.Sublist (quickRuns (Actuator.maxRun a) (s.quick.getD [])) := by
  obtain ⟨u,_,first⟩ := o.ordered.mem_takeDue? ht
  have runs := o.ordered.runs_takeDue? ht
  have taken := o.taken ht
  have ot := o.perform ht a
  cases x with
  | turnOn run =>
    refine .inl ⟨rfl,?_⟩
    rw [quickCourse,quickCourse,runs,List.filter_append,←List.append_assoc]
    exact congrArg (·++_) (watered_turnOn run notes)
  | turnOffAll owner =>
    have quick : (Scheduler.perform {s with agenda} a minute (.turnOffAll owner)).1.quick=
        s.quick := by
      rw [Scheduler.perform]
      split_ifs <;> rfl
    refine .inl ⟨quick,?_⟩
    rw [quickCourse,Agenda.runs,agenda_perform_turnOffAll,quickCourse,runs]
    rfl
  | expand schedule slot =>
    have same : s.agenda.runs=agenda.runs := runs
    dsimp only
    rw [quickCourse,watered_expand]
    by_cases idle : s.active=none
    · have before : quickCourse s notes=watered notes := by
        rw [quickCourse,o.runs_idle idle]
        exact List.append_nil _
      rw [before,quick_perform_expand (s:={s with agenda}) idle]
      cases schedule with
      | stored i =>
        have few : i.toNat< maxSchedules := by
          obtain ⟨_,hi,_⟩ := l.named _ first i slot rfl
          exact Nat.lt_of_lt_of_le (List.getElem?_eq_some_iff.mp hi).1 l.few
        rw [taken.ofQuick_expand_stored idle hday few ot,List.append_nil]
        exact .inl ⟨rfl,rfl⟩
      | quick => exact .inr ⟨rfl,_,rfl,taken.ofQuick_expand_quick idle hday ot⟩
    · rw [perform_deferred (s:={s with agenda}) idle]
      refine .inl ⟨rfl,?_⟩
      rw [quickCourse,same]
      exact congrArg (_++List.filter _ ·) (Agenda.runs_add_expand ..)

/-- An actuator whose cap no call changes. -/
structure CapFixed (α : Type) [Actuator α] : Prop where
  turnOn (a : α) (run : ZoneRun) : Actuator.maxRun (Actuator.turnOn a run).1=Actuator.maxRun a
  turnOffAll (a : α) : Actuator.maxRun (Actuator.turnOffAll a)=Actuator.maxRun a
  stopAll (a : α) : Actuator.maxRun (Actuator.stopAll a)=Actuator.maxRun a

theorem CapFixed.perform (f : CapFixed α) (s : Scheduler) (a : α) (x : Action) :
    Actuator.maxRun (Scheduler.perform s a minute x).2=Actuator.maxRun a := by
  cases x with
  | turnOn run => exact f.turnOn a run
  | turnOffAll owner => exact f.turnOffAll a
  | expand schedule slot =>
    rw [Scheduler.perform]
    cases s.active <;> rfl

/-- A quick run is asked for with some minutes, or it has begun, and what it waters are runs of
these minutes under one of the caps that it may have met. -/
inductive Quick (durations caps : List UInt8) (s : Scheduler) (notes : List Happening) : Prop where
  | waiting (asked : s.quick=some durations) (dry : quickCourse s notes=[])
  | begun {cap : UInt8} (met : cap∈caps) (spent : s.quick=none)
    (within : (quickCourse s notes).Sublist (quickRuns cap durations))

namespace Quick

variable {caps : List UInt8} {told : List Happening}

theorem congr (h : Quick durations caps s notes) (hq : t.quick=s.quick)
    (hc : quickCourse t told=quickCourse s notes) : Quick durations caps t told := by
  cases h with
  | waiting asked dry => exact .waiting (hq.trans asked) (hc.trans dry)
  | begun met spent within => exact .begun met (hq.trans spent) (hc ▸ within)

theorem perform (h : Quick durations caps s notes) (o : Orderly s) (l : s.Listed)
    (hday : minute< minutesPerDay) (ht : s.agenda.takeDue? minute=some (x,agenda)) {a : α}
    (ha : Actuator.maxRun a∈caps) :
    Quick durations caps (Scheduler.perform {s with agenda} a minute x).1
      (performNotes {s with agenda} a minute notes x) := by
  obtain ⟨hq,hc⟩ | ⟨spent,runs,hc,within⟩ := o.quickCourse_perform l hday ht a notes
  · exact h.congr hq hc
  · cases h with
    | waiting asked dry =>
      rw [dry,List.nil_append] at hc
      rw [asked] at within
      exact .begun ha spent (hc ▸ within)
    | begun met already before =>
      -- A quick run begins once: what comes for it later has nothing to add.
      rw [already] at within
      obtain rfl := List.sublist_nil.mp within
      rw [List.append_nil] at hc
      exact .begun met spent (hc ▸ before)

theorem fire (f : CapFixed α) (h : Quick durations caps s notes) (o : Orderly s) (l : s.Listed)
    (hday : minute< minutesPerDay) (steps : Nat) {a : α} (ha : Actuator.maxRun a∈caps) :
    Quick durations caps (Scheduler.fire minute steps s a).1
      (fireNotes minute steps s a notes) := by
  induction steps generalizing s a notes with
  | zero => exact h
  | succ steps ih =>
    rw [Scheduler.fire,fireNotes]
    cases ht : s.agenda.takeDue? minute with
    | none => exact h
    | some due =>
      have same : Actuator.maxRun (Scheduler.perform {s with agenda:=due.2} a minute due.1).2=
          Actuator.maxRun a := f.perform ..
      exact ih (h.perform o l hday ht ha) (o.perform ht a) (l.perform o ht a) (same.symm ▸ ha)

theorem fireDue (f : CapFixed α) (h : Quick durations caps s notes) (o : Orderly s) (l : s.Listed)
    (hday : minute< minutesPerDay) {a : α} (ha : Actuator.maxRun a∈caps) :
    Quick durations caps (s.fireDue minute a).1 (s.fireDueNotes minute a notes) := by
  refine (h.fire f o l hday _ ha).congr (t:=(s.fireDue minute a).1) rfl ?_
  rw [quickCourse,quickCourse]
  exact congrArg (_++List.filter _ ·) (Agenda.runs_compact _)

/-- Ticks on the day of the agenda. -/
theorem ticks (f : CapFixed α) (h : Quick durations caps s notes) (o : Orderly s) (l : s.Listed)
    {day : Int} (today : s.day=some day) {ticks : List (α×Moment)} (same : ∀ tick∈ticks,tick.2.day=day)
    (met : ∀ tick∈ticks,Actuator.maxRun tick.1∈caps) :
    ∃ t,Quick durations caps t
      (s.notesFrom notes (ticks.map fun tick => (tick.1,.tick tick.2))) := by
  induction ticks generalizing s notes with
  | nil => exact ⟨s,h⟩
  | cons tick ticks ih =>
    obtain ⟨a,now⟩ := tick
    rw [List.forall_mem_cons] at same met
    have here : s.day=some now.day := same.1 ▸ today
    have notes_eq : s.handleNotes a notes (.tick now)=s.fireDueNotes now.minute a notes := by
      rw [handleNotes,rollDay_same here,rollDayNotes,here]
      simp
    have state_eq : s.handle a (.tick now)=s.fireDue now.minute a := by
      rw [handle,tick,rollDay_same here]
    rw [List.map_cons,notesFrom,notes_eq,state_eq]
    refine ih (h.fireDue f o l now.minute_lt met.1) (o.fireDue _ a)
      (Listed.kept.fireDue l o _ a) ?_ same.2 met.2
    exact (congrArg (·.2.2) (fireDue_timetable s now.minute a)).trans today

theorem runQuick (f : CapFixed α) (o : Orderly s) (l : s.Listed) (durations : List UInt8)
    (now : Moment) {a : α} (ha : Actuator.maxRun a∈caps) :
    Quick durations caps (s.handle a (.runQuick durations now)).1
      (s.handleNotes a [] (.runQuick durations now)) := by
  let r := (s.rollDay now a).1
  let b := (s.rollDay now a).2
  have ot : Orderly (r.cancel b).1 := (o.rollDay now a).cancel b
  have lt : (r.cancel b).1.Listed := Listed.kept.cancel (Listed.kept.rollDay l now a) b
  have dry : watered (r.cancelNotes (s.rollDayNotes now []))=[] := by
    rw [watered,run?_before_quick s r now]
    rfl
  have waiting : Quick durations caps
      {(r.cancel b).1 with
        quick:=some durations
        agenda:=(r.cancel b).1.agenda.add now.minute (.expand .quick 0)}
      (r.cancelNotes (s.rollDayNotes now [])) := by
    refine .waiting rfl ?_
    rw [quickCourse,dry,Agenda.runs_add_expand,ot.runs_idle (cancel_idle r b)]
    rfl
  have same : Actuator.maxRun (r.cancel b).2=Actuator.maxRun a :=
    (maxRun_cancel (fun b => ⟨f.turnOffAll b,f.stopAll b⟩) r b).trans
      (maxRun_rollDay (fun b => ⟨f.turnOffAll b,f.stopAll b⟩) s now a)
  exact waiting.fireDue f (ot.askQuick durations now.minute)
    (Listed.kept.askQuick (α:=α) lt durations now.minute) now.minute_lt (same.symm ▸ ha)

/-- What was turned on by then is a part of the course under one of the caps. -/
theorem watered_sublist (h : Quick durations caps s notes) (some_cap : caps≠[]) :
    ∃ cap∈caps,(watered notes).Sublist (quickRuns cap durations) := by
  have part : (watered notes).Sublist (quickCourse s notes) := List.sublist_append_left ..
  cases h with
  | waiting asked dry =>
    obtain ⟨cap,met⟩ := List.exists_mem_of_ne_nil caps some_cap
    refine ⟨cap,met,?_⟩
    rw [dry,List.sublist_nil] at part
    rw [part]
    exact List.nil_sublist _
  | begun met spent within => exact ⟨_,met,part.trans within⟩

end Quick

theorem filter_run?_calls (s : Scheduler) (ops : List (α×Operation)) :
    ((s.calls ops).filterMap Call.run?).filter ZoneRun.ofQuick=watered (s.notesFrom [] ops) := by
  rw [watered,←List.filter_reverse,←List.filterMap_reverse,←List.filterMap_reverse,
    List.filterMap_reverse]
  exact congrArg (fun l : List Call => (l.reverse.filterMap Call.run?).filter _)
    (s.callsFrom_eq [] ops)

/-- Whatever a scheduler was told before: what a quick run and the ticks that follow it on that day
turn on for it are runs of entries with minutes, each entry once and in the order of the list, for
its minutes under the cap that the quick run met. With no more entries than a zone number can tell
apart each run is of the zone that its entry is named after, and no zone is turned on twice. -/
theorem quick_run_waters_listed_zones (f : CapFixed α) (schedules : List Schedule) (enabled : Bool)
    (seasonal : UInt8) (ops : List (α×Operation)) (a : α) (durations : List UInt8) (now : Moment)
    {ticks : List (α×Moment)} (same : ∀ tick∈ticks,tick.2.day=now.day) :
    let s := (ofSchedules schedules enabled seasonal).handleAll ops
    let calls := s.calls ((a,.runQuick durations now)::ticks.map fun tick => (tick.1,.tick tick.2))
    let turned := (calls.filterMap Call.run?).filter ZoneRun.ofQuick
    ∃ cap∈(a::ticks.map (·.1)).map Actuator.maxRun,
      turned.Sublist (quickRuns cap durations) ∧
      (durations.length≤256 →
        (∀ run∈turned,∃ d,durations[run.zone.toNat]?=some d ∧ d≠0 ∧
          run.minutes.toNat=min (min 254 d.toNat) cap.toNat) ∧
        (turned.map (·.zone)).Nodup) := by
  intro s calls turned
  have initial := orderly_ofSchedules schedules enabled seasonal
  have o : Orderly s := initial.handleAll ops
  have l : s.Listed :=
    Listed.kept.handleAll ⟨List.length_take_le ..,fun p m => by cases m⟩ initial ops
  have today : (s.handle a (.runQuick durations now)).1.day=some now.day := s.handle_day ..
  have asked : Quick durations ((a::ticks.map (·.1)).map Actuator.maxRun) _ _ :=
    .runQuick f o l durations now List.mem_cons_self
  obtain ⟨u,quick⟩ := asked.ticks f (o.runQuick durations now a)
    (Listed.kept.handle l o a (.runQuick durations now)) today same fun tick m =>
      List.mem_map_of_mem (List.mem_cons_of_mem _ (List.mem_map_of_mem m))
  obtain ⟨cap,met,sub⟩ := quick.watered_sublist (List.cons_ne_nil _ _)
  have turned_eq : turned=watered _ := s.filter_run?_calls _
  rw [turned_eq]
  exact ⟨cap,met,sub,fun short => ⟨fun run m => named_of_mem_quickRuns short (sub.subset m),
    (nodup_quickRuns short).sublist (sub.map _)⟩⟩

/-- A quick run of the first and the third zone, over a schedule that it replaces. -/
theorem quick_run_waters_listed_zones_evening :
    let lawn : Schedule :=
      {name:="lawn",recurrence:=.weekdays 127,startTimes:=[1198],durations:=[10]}
    let idle : IdleActuator := {maxRun:=4}
    let s := (ofSchedules [lawn] true 100).handleAll [(idle,.tick {day:=19877,minute:=1198})]
    let ticks : List (IdleActuator×Moment) := [(idle,{day:=19877,minute:=1204})]
    let calls := s.calls ((idle,.runQuick [5,0,3] {day:=19877,minute:=1200})::
      ticks.map fun tick => (tick.1,.tick tick.2))
    let turned := (calls.filterMap Call.run?).filter ZoneRun.ofQuick
    CapFixed IdleActuator ∧ (∀ tick∈ticks,tick.2.day=19877) ∧
    turned=[⟨0,4,some 100,100,100⟩,⟨2,3,some 100,100,100⟩] ∧
    (∀ run∈turned,∃ d,[(5 : UInt8),0,3][run.zone.toNat]?=some d ∧ d≠0 ∧
      run.minutes.toNat=min (min 254 d.toNat) 4) ∧
    (turned.map (·.zone)).Nodup := by
  intro lawn idle s ticks calls turned
  have fixed : CapFixed IdleActuator := ⟨fun _ _ => rfl,fun _ => rfl,fun _ => rfl⟩
  have same : ∀ tick∈ticks,tick.2.day=19877 := by decide
  obtain ⟨cap,met,_,named⟩ := quick_run_waters_listed_zones fixed [lawn] true 100
    [(idle,.tick {day:=19877,minute:=1198})] idle [5,0,3] {day:=19877,minute:=1200} same
  obtain rfl : cap=4 := by simpa [ticks,idle,Actuator.maxRun] using met
  obtain ⟨own,once⟩ := named (by decide)
  exact ⟨fixed,same,by decide,own,once⟩

/-- An entry past the 256th is run for the zone that its octet names: one without minutes. -/
theorem quick_run_wraps_zone_numbers :
    let idle : IdleActuator := {maxRun:=99}
    let s := ofSchedules [] true 100
    let durations : List UInt8 := List.replicate 256 0++[5]
    let calls := s.calls [(idle,.runQuick durations {day:=19877,minute:=360})]
    s.active=none ∧ s.agenda.pending=[] ∧ calls=[.turnOn ⟨0,5,some 100,100,100⟩] ∧
    durations[0]?=some 0 ∧
    ¬∀ run∈calls.filterMap Call.run?,∃ d,durations[run.zone.toNat]?=some d ∧ d≠0 := by
  decide +kernel

end Scheduler

end Watering
