import Watering.Proofs.Schedule.Dose
import Watering.Proofs.Schedule.Still

namespace Watering

namespace Action

/-- The schedule that a start time is of. -/
def start? : Action → Option ScheduleRef
  | expand schedule _ => some schedule
  | _ => none

theorem call?_of_isExpand {x : Action} (h : x.isExpand=true) : x.call?=none := by
  cases x with
  | expand => rfl
  | turnOn | turnOffAll => cases h

end Action

namespace Call

def run? : Call → Option ZoneRun
  | turnOn run => some run
  | _ => none

end Call

/-- The schedules of the start times that are due, in order. -/
def Agenda.starts (a : Agenda) (minute : Nat) : List ScheduleRef :=
  (a.due minute).filterMap (·.2.start?)

/-- What is added at a minute is the last that is due then. -/
theorem Agenda.Ordered.due_add {a : Agenda} {minute : Nat} (h : a.Ordered) (x : Action)
    (hday : minute< minutesPerDay) : (a.add minute x).due minute=a.due minute++[(minute,x)] := by
  have before : (a.pending.takeWhile (·.1≤ minute)).filter (·.1≤ minute)=
      a.pending.takeWhile (·.1≤ minute) :=
    List.filter_eq_self.mpr (List.all_eq_true.mp (List.all_takeWhile ..))
  have after : (a.pending.dropWhile (·.1≤ minute)).filter (·.1≤ minute)=[] :=
    List.filter_eq_nil_iff.mpr fun p m => by simpa using h.lt_of_mem_dropWhile m
  have due : (a.pending.takeWhile (·.1≤ minute)++a.pending.dropWhile (·.1≤ minute)).filter
      (·.1≤ minute)=a.pending.takeWhile (·.1≤ minute) := by
    rw [List.filter_append,before,after,List.append_nil]
  rw [List.takeWhile_append_dropWhile] at due
  rw [Agenda.due,Agenda.pending_add,if_pos hday,List.filter_append,
    List.filter_cons_of_pos (by simp),before,after,Agenda.due,due]

theorem Agenda.Ordered.starts_add {a : Agenda} {minute : Nat} (h : a.Ordered)
    (hday : minute< minutesPerDay) (schedule : ScheduleRef) (slot : UInt8) :
    (a.add minute (.expand schedule slot)).starts minute=a.starts minute++[schedule] := by
  rw [starts,h.due_add _ hday,List.filterMap_append]
  rfl

theorem Agenda.Ordered.starts_takeDue? {a b : Agenda} {minute : Nat} {schedule : ScheduleRef}
    {slot : UInt8} (h : a.Ordered) (ht : a.takeDue? minute=some (.expand schedule slot,b)) :
    a.starts minute=schedule::b.starts minute := by
  obtain ⟨_,_,_,due⟩ := h.due_takeDue? ht
  rw [starts,due]
  rfl

namespace Scheduler

open Happening

variable {α : Type} [Actuator α] {s t : Scheduler} {minute : Nat} {x : Action} {agenda : Agenda}
  {cap : UInt8} {schedule : ScheduleRef}

/-- A schedule with minutes for some zone. -/
def hasMinutes (s : Scheduler) (cap : UInt8) (schedule : ScheduleRef) : Bool :=
  ((s.dose schedule).shares cap).any (0<·)

theorem hasMinutes_eq_false : s.hasMinutes cap schedule=false ↔ ∀ m∈(s.dose schedule).shares cap,m=0 := by
  simp [hasMinutes]

/-- The first run of a timeline is all of it that is due at once. -/
theorem due_timeline (schedule : ScheduleRef) (seasonal weather : UInt8) (minute : Nat)
    {before : List Nat} {m : Nat} (after : List Nat) (none : ∀ n∈before,n=0) (hm : 0< m) :
    (timeline schedule seasonal weather minute (before++m::after)).filter (·.1≤ minute)=
      [(minute,.turnOn ⟨UInt8.ofNat before.length,UInt8.ofNat m,some schedule.id,seasonal,weather⟩)] := by
  rw [timeline,runsFrom_first 0 minute after none hm,Nat.zero_add,course,List.map_cons,
    List.cons_append,List.filter_cons_of_pos (by simp)]
  refine congrArg (_::·) (List.filter_eq_nil_iff.mpr fun p hp => ?_)
  have later : minute<p.1 := by
    obtain hp | hp := List.mem_append.mp hp
    · obtain ⟨run,hr,rfl⟩ := List.mem_map.mp hp
      have le := le_of_mem_runsFrom hr
      exact Nat.lt_of_lt_of_le (Nat.lt_add_of_pos_right hm) le
    · obtain rfl := List.mem_singleton.mp hp
      rw [List.sum_append,List.sum_cons]
      dsimp only
      omega
  simpa using later

/-- A schedule that has begun waters on, and no stop is due. -/
theorem Begun.engaged {events : List (Nat×Action)} (b : Begun s t schedule minute cap events)
    (starts : ∀ p∈s.agenda.pending,p.2.isExpand=true)
    (some_run : ¬∀ m∈(s.dose schedule).shares cap,m=0) : t.Engaged minute := by
  refine ⟨b.active ▸ Option.some_ne_none schedule,fun p m stop => ?_⟩
  rw [b.agenda] at m
  obtain ⟨m,today⟩ | m := Agenda.mem_addAll.mp m
  · have scheduled : p∈timeline schedule (s.dose schedule).seasonal (s.dose schedule).weather minute
        ((s.dose schedule).shares cap) := by
      have kept : p∈events.filter (·.1< minutesPerDay) :=
        List.mem_filter.mpr ⟨m,decide_eq_true today⟩
      rw [b.today] at kept
      exact (List.mem_filter.mp kept).1
    obtain ⟨run,_,rfl⟩ | rfl := mem_course.mp scheduled
    · cases stop
    · obtain ⟨before,n,after,hd,_,hn⟩ := exists_first some_run
      rw [hd,List.sum_append,List.sum_cons]
      dsimp only
      omega
  · have start := Action.not_isExpand_of_isStop stop
    rw [starts p m] at start
    cases start

/-- What a schedule that has begun adds to what is due is its first run. -/
theorem Begun.calls_due {events : List (Nat×Action)} {before after : List Nat} {m : Nat}
    (b : Begun s t schedule minute cap events) (starts : ∀ p∈s.agenda.pending,p.2.isExpand=true)
    (hday : minute< minutesPerDay) (hd : (s.dose schedule).shares cap=before++m::after)
    (none : ∀ n∈before,n=0) (hm : 0< m) :
    (t.agenda.due minute).filterMap (·.2.call?)=
      [.turnOn ⟨UInt8.ofNat before.length,UInt8.ofNat m,some schedule.id,
        (s.dose schedule).seasonal,(s.dose schedule).weather⟩] := by
  have within := filter_today (q:=fun p => p.1≤ minute) fun p le =>
    Nat.lt_of_le_of_lt (of_decide_eq_true le) hday
  have first := congrArg (fun l : List (Nat×Action) => l.filter (·.1≤ minute)) b.today
  rw [hd,within,within,due_timeline _ _ _ _ after none hm] at first
  have rest : (s.agenda.due minute).filterMap (·.2.call?)=[] := by
    rw [List.filterMap_eq_nil_iff]
    intro p m
    exact Action.call?_of_isExpand (starts p (List.mem_filter.mp m).1)
  have perm := ((s.agenda.pending_addAll_perm events).filter (·.1≤ minute)).filterMap (·.2.call?)
  rw [List.filter_append,within,first,List.filterMap_append,←b.agenda] at perm
  exact List.perm_singleton.mp (rest ▸ perm)

theorem Orderly.active_fire (o : Orderly s) (e : s.Engaged minute) (steps : Nat) (a : α) :
    (Scheduler.fire minute steps s a).1.active=s.active := by
  induction steps generalizing s a with
  | zero => rfl
  | succ steps ih =>
    rw [Scheduler.fire]
    cases ht : s.agenda.takeDue? minute with
    | none => rfl
    | some due =>
      obtain ⟨x,agenda⟩ := due
      obtain ⟨u,hu,first⟩ := o.ordered.mem_takeDue? ht
      have same : (Scheduler.perform {s with agenda} a minute x).1.active=s.active := by
        cases x with
        | turnOn run => rfl
        | turnOffAll owner => exact absurd hu (Nat.not_le.mpr (e.2 _ first rfl))
        | expand schedule slot => rw [perform_deferred (s:={s with agenda}) e.1]
      exact (ih (o.perform ht a) (o.perform_engaged e ht a).2 _).trans same

/-- A start time makes no call. -/
theorem call?_performNotes (s : Scheduler) (a : α) (minute : Nat) (notes : List Happening)
    (schedule : ScheduleRef) (slot : UInt8) :
    (performNotes s a minute notes (.expand schedule slot)).filterMap Happening.call?=
      notes.filterMap Happening.call? := by
  rw [performNotes]
  cases s.active with
  | some active => rfl
  | none =>
    dsimp only
    split_ifs <;> rfl

/-- Without a quick run that has no minutes other schedules ask for what they asked. -/
theorem dose_spend {other : ScheduleRef} (h : s.hasMinutes cap other=false)
    (hs : s.hasMinutes cap schedule=true) : (s.spend other).dose schedule=s.dose schedule := by
  cases other with
  | stored => rfl
  | quick =>
    cases schedule with
    | stored => rfl
    | quick =>
      rw [h] at hs
      cases hs

theorem hasMinutes_spend {other : ScheduleRef} (h : s.hasMinutes cap other=false) :
    (s.spend other).hasMinutes cap=s.hasMinutes cap := by
  funext schedule
  cases other with
  | stored => rfl
  | quick =>
    cases schedule with
    | stored => rfl
    | quick => exact h.symm

/-- A schedule that has begun makes the call of its first run. -/
theorem Begun.fire {events : List (Nat×Action)} {before after : List Nat} {m : Nat}
    (b : Begun s t schedule minute cap events) (o : Orderly t)
    (starts : ∀ p∈s.agenda.pending,p.2.isExpand=true) (hday : minute< minutesPerDay)
    (hd : (s.dose schedule).shares cap=before++m::after) (none : ∀ n∈before,n=0) (hm : 0< m)
    {steps : Nat} (hs : t.agenda.dueCount minute≤ steps) (a : α) (notes : List Happening) :
    (Scheduler.fire minute steps t a).1.active=some schedule ∧
    (fireNotes minute steps t a notes).filterMap Happening.call?=
      .turnOn ⟨UInt8.ofNat before.length,UInt8.ofNat m,some schedule.id,
        (s.dose schedule).seasonal,(s.dose schedule).weather⟩::
        notes.filterMap Happening.call? := by
  have some_run : ¬∀ n∈(s.dose schedule).shares cap,n=0 := by
    intro k
    have zero := k m (by rw [hd]; exact List.mem_append_right _ List.mem_cons_self)
    omega
  have engaged := b.engaged starts some_run
  refine ⟨(o.active_fire engaged steps a).trans b.active,?_⟩
  have still : t.Still minute := .inl engaged
  rw [still.fireNotes o hs,call?_called,b.calls_due starts hday hd none hm]
  rfl

omit [Actuator α] in
theorem hasMinutes_agenda (s : Scheduler) (agenda : Agenda) (cap : UInt8) :
    hasMinutes {s with agenda} cap=s.hasMinutes cap := by
  funext schedule
  cases schedule <;> rfl

/-- Where a start time leads that is due first: past it if its schedule has no minutes, and into the
schedule if it has some. -/
theorem first_start (agenda : Agenda) (idle : s.active=none) (hday : minute< minutesPerDay)
    (other : ScheduleRef) (slot : UInt8) (a : α) :
    let t := (Scheduler.perform {s with agenda} a minute (.expand other slot)).1
    let cap := Actuator.maxRun a
    (s.hasMinutes cap other=false ∧ t.agenda=agenda ∧ t.active=none ∧
      t.hasMinutes cap=s.hasMinutes cap ∧
      ∀ schedule,s.hasMinutes cap schedule=true → t.dose schedule=s.dose schedule) ∨
    s.hasMinutes cap other=true ∧ ∃ events,Begun {s with agenda} t other minute cap events := by
  intro t cap
  have minutes := s.hasMinutes_agenda agenda cap
  obtain ⟨empty,spent⟩ | ⟨some_run,began⟩ := perform_start (s:={s with agenda}) idle hday other slot a
  · left
    have skipped : s.hasMinutes cap other=false := by
      rw [←minutes]
      exact hasMinutes_eq_false.mpr empty
    have without := minutes.symm ▸ skipped
    have now : t=Scheduler.spend {s with agenda} other := spent
    rw [now]
    refine ⟨skipped,agenda_spend _ other,(active_spend _ other).trans idle,
      (hasMinutes_spend without).trans minutes,fun schedule waters => ?_⟩
    exact (dose_spend without (minutes.symm ▸ waters)).trans (by cases schedule <;> rfl)
  · right
    refine ⟨?_,began⟩
    rw [←minutes,←Bool.not_eq_false]
    exact fun k => some_run (hasMinutes_eq_false.mp k)

/-- Of the start times that are due the first with minutes begins; those behind it are put off. -/
theorem Orderly.fire_starts (o : Orderly s) (idle : s.active=none) (hday : minute< minutesPerDay)
    {before after : List Nat} {m : Nat}
    (first : (s.agenda.starts minute).find? (s.hasMinutes cap)=some schedule)
    (hd : (s.dose schedule).shares cap=before++m::after) (none : ∀ n∈before,n=0) (hm : 0< m)
    {steps : Nat} (hs : s.agenda.dueCount minute+1≤ steps) {a : α} (ha : Actuator.maxRun a=cap)
    (notes : List Happening) :
    (Scheduler.fire minute steps s a).1.active=some schedule ∧
    (fireNotes minute steps s a notes).filterMap Happening.call?=
      .turnOn ⟨UInt8.ofNat before.length,UInt8.ofNat m,some schedule.id,
        (s.dose schedule).seasonal,(s.dose schedule).weather⟩::
        notes.filterMap Happening.call? := by
  obtain rfl := ha
  induction steps generalizing s notes with
  | zero => exact absurd hs (Nat.not_succ_le_zero _)
  | succ steps ih =>
    rw [Scheduler.fire,fireNotes]
    cases ht : s.agenda.takeDue? minute with
    | none =>
      rw [Agenda.starts,Agenda.due_eq_nil (Agenda.lt_of_takeDue?_eq_none ht)] at first
      cases first
    | some due =>
      obtain ⟨x,agenda⟩ := due
      obtain ⟨_,_,hp,_⟩ := o.ordered.due_takeDue? ht
      have starts := o.idle idle
      rw [hp,List.forall_mem_cons] at starts
      cases x with
      | turnOn | turnOffAll => cases starts.1
      | expand other slot =>
        have orderly := o.perform ht a
        have silent := call?_performNotes {s with agenda} a minute notes other slot
        have same_actuator : (Scheduler.perform {s with agenda} a minute (.expand other slot)).2=a := by
          rw [perform_begun (s:={s with agenda}) idle a]
        rw [o.ordered.starts_takeDue? ht] at first
        dsimp only
        rw [same_actuator,←silent]
        obtain ⟨skipped,left,idle',minutes,dose⟩ | ⟨begins,events,b⟩ :=
          first_start agenda idle hday other slot a
        · rw [List.find?_cons_of_neg (by rw [skipped]; exact Bool.false_ne_true)] at first
          have count := o.ordered.dueCount_takeDue? ht
          rw [←dose schedule (List.find?_some first)] at hd ⊢
          refine ih orderly idle' ?_ _ ?_ hd
          · rw [left]
            omega
          · rwa [left,minutes]
        · rw [List.find?_cons_of_pos begins] at first
          obtain rfl := Option.some.inj first
          have count : (Scheduler.perform {s with agenda} a minute
              (.expand other slot)).1.agenda.dueCount minute≤ steps := by
            obtain fewer | ⟨_,fewer⟩ := o.perform_due ht a
            · exact Nat.le_of_succ_le (Nat.le_trans fewer (Nat.le_of_succ_le_succ hs))
            · exact Nat.le_trans fewer (Nat.le_of_succ_le_succ hs)
          have same : s.dose other=Scheduler.dose {s with agenda} other := by cases other <;> rfl
          rw [same] at hd ⊢
          exact b.fire orderly starts.2 hday hd none hm count a _

theorem cancel_idle (s : Scheduler) (a : α) : (s.cancel a).1.active=none := by
  rw [cancel]
  split_ifs with h
  · rfl
  · exact Option.not_isSome_iff_eq_none.mp h

section

variable (steady : ∀ b : α,Actuator.maxRun (Actuator.turnOffAll b)=Actuator.maxRun b ∧
  Actuator.maxRun (Actuator.stopAll b)=Actuator.maxRun b)

include steady

theorem maxRun_rollDay (s : Scheduler) (now : Moment) (a : α) :
    Actuator.maxRun (s.rollDay now a).2=Actuator.maxRun a := by
  rw [rollDay]
  split
  · rfl
  · split_ifs
    · rfl
    · exact (steady a).2

theorem maxRun_cancel (s : Scheduler) (a : α) :
    Actuator.maxRun (s.cancel a).2=Actuator.maxRun a := by
  rw [cancel]
  split_ifs
  · exact (steady a).1
  · rfl

end

/-- Turning to a new day and dropping a schedule turn no zone on. -/
theorem run?_before_quick (s t : Scheduler) (now : Moment) :
    (((t.cancelNotes (s.rollDayNotes now [])).filterMap Happening.call?).filterMap Call.run?)=[] := by
  rw [List.filterMap_filterMap,List.filterMap_eq_nil_iff]
  intro x m
  rw [cancelNotes] at m
  have before : x=called .turnOffAll ∨ x∈s.rollDayNotes now [] := by
    split_ifs at m
    · exact List.mem_cons.mp m
    · exact .inr m
  obtain rfl | m := before
  · rfl
  · cases x with
    | called call =>
      cases call with
      | turnOn run => exact absurd m not_mem_rollDayNotes
      | turnOffAll | stopAll => rfl
    | began | abandoned => rfl

/-- A share of a quick run. -/
theorem share_quick (cap d : UInt8) : share 100 100 cap d=min (min 254 d.toNat) cap.toNat := by
  have percent : (100 : UInt8).toNat*(100 : UInt8).toNat/100=100 := by decide
  rw [share,percent]
  omega

/-- The first zone with a share is the first that was asked for. -/
theorem exists_first_quick {durations : List UInt8} {before after : List Nat} {m : Nat} (pos : 0<cap)
    (hd : durations.map (share 100 100 cap)=before++m::after) (none : ∀ n∈before,n=0) (hm : 0< m) :
    ∃ before' d after',durations=before'++d::after' ∧ (∀ e∈before',e=0) ∧ d≠0 ∧
      before'.length=before.length ∧ m=min (min 254 d.toNat) cap.toNat := by
  obtain ⟨before',rest,rfl,rfl,hr⟩ := List.map_eq_append_iff.mp hd
  obtain ⟨d,after',rfl,rfl,rfl⟩ := List.map_eq_cons_iff.mp hr
  have hpos : 0<cap.toNat := UInt8.lt_iff_toNat_lt.mp pos
  refine ⟨before',d,after',rfl,fun e he => ?_,fun zero => ?_,(List.length_map ..).symm,share_quick ..⟩
  · have empty := none _ (List.mem_map.mpr ⟨e,he,rfl⟩)
    rw [share_quick] at empty
    have zero : e.toNat=0 := by omega
    exact UInt8.toNat_inj.mp zero
  · rw [zero,share_quick,UInt8.toNat_zero] at hm
    omega

omit [Actuator α] in
/-- A quick run has minutes if it was asked for with some. -/
theorem hasMinutes_quick (s : Scheduler) {durations : List UInt8} (pos : 0<cap)
    (some_minutes : ∃ d∈durations,d≠0) :
    hasMinutes {s with quick:=some durations} cap .quick=true := by
  obtain ⟨d,hd,nonzero⟩ := some_minutes
  have positive : 0<share 100 100 cap d := by
    have hpos : 0<cap.toNat := UInt8.lt_iff_toNat_lt.mp pos
    have hne : d.toNat≠0 := fun k => nonzero (UInt8.toNat_inj.mp k)
    rw [share_quick]
    omega
  exact List.any_eq_true.mpr ⟨_,List.mem_map.mpr ⟨d,hd,rfl⟩,decide_eq_true positive⟩

omit [Actuator α] in
theorem exists_first_run (h : s.hasMinutes cap schedule=true) : ∃ before m after,
    (s.dose schedule).shares cap=before++m::after ∧ (∀ n∈before,n=0) ∧ 0< m := by
  refine exists_first fun empty => ?_
  rw [hasMinutes_eq_false.mpr empty] at h
  cases h

/-- A quick run stands behind the start times that are due, and is begun if none of these has
minutes. -/
theorem Orderly.runQuick_first (o : Orderly s) {a : α}
    (steady : ∀ b : α,Actuator.maxRun (Actuator.turnOffAll b)=Actuator.maxRun b ∧
      Actuator.maxRun (Actuator.stopAll b)=Actuator.maxRun b) {durations : List UInt8}
    {now : Moment} {before after : List Nat} {m : Nat} :
    let cap := Actuator.maxRun a
    let t := ((s.rollDay now a).1.cancel (s.rollDay now a).2).1
    let asked := {t with quick:=some durations}
    (t.agenda.starts now.minute++[ScheduleRef.quick]).find? (asked.hasMinutes cap)=some schedule →
    (asked.dose schedule).shares cap=before++m::after → (∀ n∈before,n=0) → 0< m →
    (s.runQuick durations now a).1.active=some schedule ∧
    (s.calls [(a,.runQuick durations now)]).filterMap Call.run?=[⟨UInt8.ofNat before.length,
      UInt8.ofNat m,some schedule.id,(asked.dose schedule).seasonal,
      (asked.dose schedule).weather⟩] := by
  intro cap t asked first hd none hm
  let b := (s.rollDay now a).2
  have ot : Orderly t := (o.rollDay now a).cancel b
  let u : Scheduler := {asked with agenda:=t.agenda.add now.minute (.expand .quick 0)}
  have ou : Orderly u := ot.askQuick durations now.minute
  have dose : u.dose schedule=asked.dose schedule := by cases schedule <;> rfl
  rw [←ot.ordered.starts_add now.minute_lt .quick 0,←asked.hasMinutes_agenda u.agenda] at first
  rw [←dose] at hd ⊢
  have enough : u.agenda.dueCount now.minute+1≤2*u.agenda.dueCount now.minute := by
    have one : u.agenda.dueCount now.minute=_ := congrArg List.length
      (ot.ordered.due_add (.expand .quick 0) now.minute_lt)
    rw [List.length_append] at one
    simp only [List.length_singleton] at one
    omega
  have same_cap : Actuator.maxRun ((s.rollDay now a).1.cancel b).2=cap :=
    (maxRun_cancel steady ..).trans (maxRun_rollDay steady ..)
  obtain ⟨started,told⟩ := ou.fire_starts (cancel_idle ..) now.minute_lt first hd none hm enough
    same_cap ((s.rollDay now a).1.cancelNotes (s.rollDayNotes now []))
  refine ⟨started,?_⟩
  have calls : s.calls [(a,.runQuick durations now)]=_ := calls_singleton ..
  have notes : (s.handleNotes a [] (.runQuick durations now)).filterMap Happening.call?=_ := told
  rw [notes,List.reverse_cons] at calls
  rw [calls,List.filterMap_append,List.filterMap_reverse,run?_before_quick]
  rfl

omit [Actuator α] in
/-- If no stored schedule among them has minutes it is the quick run that begins. -/
theorem eq_quick_of_find? {starts : List ScheduleRef}
    (first : (starts++[ScheduleRef.quick]).find? (s.hasMinutes cap)=some schedule)
    (empty : ∀ i,.stored i∈starts → s.hasMinutes cap (.stored i)=false) : schedule=.quick := by
  cases schedule with
  | quick => rfl
  | stored i =>
    have waters := List.find?_some first
    obtain m | m := List.mem_append.mp (List.mem_of_find?_eq_some first)
    · rw [empty i m] at waters
      cases waters
    · cases List.mem_singleton.mp m

/-- Whatever a scheduler was told before: a quick run with minutes drops what is active, and then the
start times that are due come first. The first of them with minutes begins, the quick run if there is
none, and the zone of its first run is the only one that is turned on. -/
theorem quick_run_yields_to_due_start (schedules : List Schedule) (enabled : Bool) (seasonal : UInt8)
    (ops : List (α×Operation)) (steady : ∀ b : α,Actuator.maxRun (Actuator.turnOffAll b)=
      Actuator.maxRun b ∧ Actuator.maxRun (Actuator.stopAll b)=Actuator.maxRun b)
    {a : α} (pos : 0<Actuator.maxRun a) {durations : List UInt8} (short : durations.length≤256)
    (some_minutes : ∃ d∈durations,d≠0) (now : Moment) :
    let cap := Actuator.maxRun a
    let s := (ofSchedules schedules enabled seasonal).handleAll ops
    let t := ((s.rollDay now a).1.cancel (s.rollDay now a).2).1
    let asked := {t with quick:=some durations}
    let starts := t.agenda.starts now.minute
    let active := (s.runQuick durations now a).1.active
    let turned := (s.calls [(a,.runQuick durations now)]).filterMap Call.run?
    (∃ schedule before m after,
      (starts++[ScheduleRef.quick]).find? (asked.hasMinutes cap)=some schedule ∧
      active=some schedule ∧
      (asked.dose schedule).shares cap=before++m::after ∧ (∀ n∈before,n=0) ∧ 0< m ∧
      turned=[⟨UInt8.ofNat before.length,UInt8.ofNat m,some schedule.id,
        (asked.dose schedule).seasonal,(asked.dose schedule).weather⟩]) ∧
    ((∀ i,.stored i∈starts → asked.hasMinutes cap (.stored i)=false) →
      active=some .quick ∧
      ∃ before d after,durations=before++d::after ∧ (∀ e∈before,e=0) ∧ d≠0 ∧
        (UInt8.ofNat before.length).toNat=before.length ∧
        turned=[⟨UInt8.ofNat before.length,UInt8.ofNat (min (min 254 d.toNat) cap.toNat),
          some 100,100,100⟩]) := by
  intro cap s t asked starts active turned
  have o : Orderly s := (orderly_ofSchedules schedules enabled seasonal).handleAll ops
  obtain ⟨schedule,first⟩ : ∃ schedule,
      (starts++[ScheduleRef.quick]).find? (asked.hasMinutes cap)=some schedule := by
    have waters := t.hasMinutes_quick pos some_minutes
    refine Option.isSome_iff_exists.mp (List.find?_isSome.mpr ⟨.quick,?_,waters⟩)
    exact List.mem_append_right _ List.mem_cons_self
  obtain ⟨before,m,after,hd,none,hm⟩ := exists_first_run (List.find?_some first)
  have fired : active=some schedule ∧ turned=[⟨UInt8.ofNat before.length,UInt8.ofNat m,
      some schedule.id,(asked.dose schedule).seasonal,(asked.dose schedule).weather⟩] :=
    o.runQuick_first steady first hd none hm
  refine ⟨⟨schedule,before,m,after,first,fired.1,hd,none,hm,fired.2⟩,fun empty => ?_⟩
  obtain rfl := eq_quick_of_find? first empty
  obtain ⟨before',d,after',split,zeros,nonzero,length,rfl⟩ := exists_first_quick pos hd none hm
  refine ⟨fired.1,before',d,after',split,zeros,nonzero,?_,?_⟩
  · have listed : durations=before'++d::after' := split
    have total := congrArg List.length listed
    rw [List.length_append,List.length_cons] at total
    rw [UInt8.toNat_ofNat']
    omega
  · rw [length]
    exact fired.2

theorem quick_run_yields_to_due_start_evening :
    let lawn : Schedule :=
      {name:="lawn",recurrence:=.weekdays 127,startTimes:=[360],durations:=[10]}
    let idle : IdleActuator := {maxRun:=99}
    let s := ofSchedules [lawn] true 100
    let now : Moment := {day:=19877,minute:=1200}
    0<Actuator.maxRun idle ∧ [(0 : UInt8),4].length≤256 ∧ (∃ d∈[(0 : UInt8),4],d≠0) ∧
    (s.runQuick [0,4] now idle).1.active=some .quick := by
  intro lawn idle s now
  have pos : 0<Actuator.maxRun idle := by decide
  have some_minutes : ∃ d∈[(0 : UInt8),4],d≠0 := ⟨4,by decide,by decide⟩
  have free : ((s.rollDay now idle).1.cancel (s.rollDay now idle).2).1.agenda.starts 1200=[] := by
    decide
  have taken := (quick_run_yields_to_due_start [lawn] true 100 [] (fun _ => ⟨rfl,rfl⟩) pos
    (by decide) some_minutes now).2 fun i m => absurd (free ▸ m) List.not_mem_nil
  exact ⟨pos,by decide,some_minutes,taken.1⟩

/-- A quick run that is asked for in the minute that a schedule starts: the schedule waters its zone,
and the quick run waits. -/
theorem due_start_takes_turn_of_quick_run :
    let lawn : Schedule :=
      {name:="lawn",recurrence:=.weekdays 127,startTimes:=[360],durations:=[10]}
    let idle : IdleActuator := {maxRun:=99}
    let s := ofSchedules [lawn] true 100
    let now : Moment := {day:=19877,minute:=360}
    let t := (s.runQuick [0,4] now idle).1
    t.active=some (.stored 0) ∧ t.active≠some .quick ∧
    s.calls [(idle,.runQuick [0,4] now)]=[.turnOn ⟨0,10,some 1,100,100⟩] ∧
    t.agenda.pending=[(361,.expand .quick 0),(370,.turnOffAll (.stored 0))] := by
  decide

end Scheduler

end Watering
