import Mathlib.Data.List.Basic
import Watering.Proofs.Schedule.Timely

namespace Watering

namespace Action

/-- The call that an action makes. -/
def call? : Action → Option Call
  | turnOn run => some (.turnOn run)
  | turnOffAll _ => some .turnOffAll
  | expand .. => none

end Action

namespace Scheduler

open Happening

variable {α : Type} [Actuator α] {s : Scheduler} {minute : Nat} {x : Action} {agenda : Agenda}

/-- No start time is due, or none can begin. -/
def Still (s : Scheduler) (minute : Nat) : Prop :=
  s.Engaged minute ∨ ∀ p∈s.agenda.due minute,p.2.isExpand=false

/-- Each action makes its call, and start times are put off. -/
theorem Still.perform (h : s.Still minute) (o : Orderly s)
    (ht : s.agenda.takeDue? minute=some (x,agenda)) (a : α) (notes : List Happening) :
    let t := (Scheduler.perform {s with agenda} a minute x).1
    t.Still minute ∧ (∃ u,s.agenda.due minute=(u,x)::t.agenda.due minute) ∧
      performNotes {s with agenda} a minute notes x=(x.call?.map called).toList++notes := by
  obtain ⟨u,hu,hp,hd⟩ := o.ordered.due_takeDue? ht
  cases x with
  | turnOn run =>
    refine ⟨?_,⟨u,hd⟩,rfl⟩
    obtain ⟨active,stops⟩ | plain := h
    · exact .inl ⟨active,fun p m => stops p (by rw [hp]; exact List.mem_cons_of_mem _ m)⟩
    · exact .inr fun p m => plain p (by rw [hd]; exact List.mem_cons_of_mem _ m)
  | turnOffAll owner =>
    obtain ⟨_,stops⟩ | plain := h
    · have later := stops (u,.turnOffAll owner) (by rw [hp]; exact List.mem_cons_self) rfl
      exact absurd hu (Nat.not_le.mpr later)
    · have same : (Scheduler.perform {s with agenda} a minute (.turnOffAll owner)).1.agenda=agenda :=
        agenda_perform_turnOffAll ..
      refine ⟨.inr fun p m => plain p ?_,⟨u,?_⟩,rfl⟩
      · rw [same] at m
        rw [hd]
        exact List.mem_cons_of_mem _ m
      · rw [same,hd]
  | expand schedule slot =>
    obtain engaged | plain := h
    · have kept := (o.perform_engaged engaged ht a).2
      rw [perform_deferred (s:={s with agenda}) engaged.1] at kept ⊢
      obtain ⟨active,busy⟩ := Option.ne_none_iff_exists'.mp engaged.1
      refine ⟨.inl kept,⟨u,?_⟩,?_⟩
      · rw [hd,Agenda.due_add_later _ _ (Nat.lt_add_one minute)]
      · rw [performNotes,busy]
        rfl
    · have start := plain (u,.expand schedule slot) (by rw [hd]; exact List.mem_cons_self)
      cases start

theorem Still.fireNotes (h : s.Still minute) (o : Orderly s) {steps : Nat}
    (hs : s.agenda.dueCount minute≤ steps) (a : α) (notes : List Happening) :
    Scheduler.fireNotes minute steps s a notes=
      ((s.agenda.due minute).filterMap fun p => p.2.call?.map called).reverse++notes := by
  induction steps generalizing s a notes with
  | zero =>
    rw [Agenda.due_eq_nil (Agenda.dueCount_eq_zero (Nat.le_zero.mp hs))]
    rfl
  | succ steps ih =>
    rw [Scheduler.fireNotes]
    cases ht : s.agenda.takeDue? minute with
    | none =>
      rw [Agenda.due_eq_nil (Agenda.lt_of_takeDue?_eq_none ht)]
      rfl
    | some due =>
      obtain ⟨x,agenda⟩ := due
      obtain ⟨still,⟨u,hd⟩,noted⟩ := h.perform o ht a notes
      dsimp only at hd ⊢
      have count : (Scheduler.perform {s with agenda} a minute x).1.agenda.dueCount minute≤ steps := by
        have length : s.agenda.dueCount minute=_+1 := congrArg List.length hd
        rw [length] at hs
        exact Nat.le_of_succ_le_succ hs
      rw [ih still (o.perform ht a) count,noted,hd,List.filterMap_cons]
      cases x.call? with
      | none => rfl
      | some call => simp

/-- Steps beyond what is due do nothing. -/
theorem Still.fire_add (h : s.Still minute) (o : Orderly s) {steps : Nat}
    (hs : s.agenda.dueCount minute≤ steps) (more : Nat) (a : α) :
    Scheduler.fire minute (steps+more) s a=Scheduler.fire minute steps s a := by
  induction steps generalizing s a with
  | zero =>
    have later := Agenda.dueCount_eq_zero (Nat.le_zero.mp hs)
    cases more with
    | zero => rfl
    | succ more =>
      cases ht : s.agenda.takeDue? minute with
      | none => rw [Nat.zero_add,Scheduler.fire,Scheduler.fire,ht]
      | some due =>
        obtain ⟨u,hu,m⟩ := o.ordered.mem_takeDue? ht
        exact absurd hu (Nat.not_le.mpr (later _ m))
  | succ steps ih =>
    rw [Nat.add_right_comm,Scheduler.fire,Scheduler.fire]
    cases ht : s.agenda.takeDue? minute with
    | none => rfl
    | some due =>
      obtain ⟨x,agenda⟩ := due
      obtain ⟨still,⟨u,hd⟩,_⟩ := h.perform o ht a []
      have count : (Scheduler.perform {s with agenda} a minute x).1.agenda.dueCount minute≤ steps := by
        have length : s.agenda.dueCount minute=_+1 := congrArg List.length hd
        rw [length] at hs
        exact Nat.le_of_succ_le_succ hs
      exact ih still (o.perform ht a) count _

/-- Without a start time that is due all that is due is done. -/
theorem Orderly.pending_fire (o : Orderly s) (plain : ∀ p∈s.agenda.due minute,p.2.isExpand=false)
    {steps : Nat} (hs : s.agenda.dueCount minute≤ steps) (a : α) :
    (Scheduler.fire minute steps s a).1.agenda.pending=s.agenda.pending.filter (minute<·.1) := by
  induction steps generalizing s a with
  | zero =>
    have later := Agenda.dueCount_eq_zero (Nat.le_zero.mp hs)
    exact (List.filter_eq_self.mpr fun p m => by simpa using later p m).symm
  | succ steps ih =>
    rw [Scheduler.fire]
    cases ht : s.agenda.takeDue? minute with
    | none =>
      have later := Agenda.lt_of_takeDue?_eq_none ht
      exact (List.filter_eq_self.mpr fun p m => by simpa using later p m).symm
    | some due =>
      obtain ⟨x,agenda⟩ := due
      obtain ⟨u,hu,hp,hd⟩ := o.ordered.due_takeDue? ht
      have start : x.isExpand=false := plain (u,x) (by rw [hd]; exact List.mem_cons_self)
      have same : (Scheduler.perform {s with agenda} a minute x).1.agenda=agenda := by
        cases x with
        | turnOn run => rfl
        | turnOffAll owner => exact agenda_perform_turnOffAll ..
        | expand => cases start
      have count : agenda.dueCount minute≤ steps := by
        have length : s.agenda.dueCount minute=_+1 := congrArg List.length hd
        rw [length] at hs
        exact Nat.le_of_succ_le_succ hs
      have rest := ih (o.perform ht a)
        (fun p m => plain p (by rw [hd]; exact List.mem_cons_of_mem _ (same ▸ m)))
        (same.symm ▸ count) (Scheduler.perform {s with agenda} a minute x).2
      rw [same] at rest
      rw [hp,List.filter_cons_of_neg (by simpa using hu)]
      exact rest

/-- Calls with the minutes that they are due at. -/
def callsOf (events : List (Nat×Action)) : List (Nat×Call) :=
  events.filterMap fun p => p.2.call?.map (p.1,·)

def callsAt (s : Scheduler) : List (α×Moment) → List (Nat×Call)
  | [] => []
  | (a,now)::ticks =>
    (s.calls [(a,.tick now)]).map (now.minute,·)++(s.tick now a).1.callsAt ticks

theorem callsOf_append (events events' : List (Nat×Action)) :
    callsOf (events++events')=callsOf events++callsOf events' := List.filterMap_append

/-- Calls that are all due at one minute. -/
theorem callsOf_eq_map {events : List (Nat×Action)} (h : ∀ p∈events,p.1=minute) :
    callsOf events=(events.filterMap (·.2.call?)).map (minute,·) := by
  rw [callsOf,List.map_filterMap]
  refine List.filterMap_congr fun p m => ?_
  rw [h p m]

theorem calls_tick {now : Moment} (today : s.day=some now.day) (a : α) :
    s.calls [(a,.tick now)]=((s.fireDueNotes now.minute a []).filterMap Happening.call?).reverse := by
  have notes : s.handleNotes a [] (.tick now)=s.fireDueNotes now.minute a [] := by
    rw [handleNotes,rollDay_same today,rollDayNotes,today]
    dsimp only
    rw [if_pos rfl]
  rw [calls_singleton,notes]

theorem call?_called (events : List (Nat×Action)) (notes : List Happening) :
    ((events.filterMap fun p => p.2.call?.map called).reverse++notes).filterMap Happening.call?=
      (events.filterMap (·.2.call?)).reverse++notes.filterMap Happening.call? := by
  rw [List.filterMap_append,List.filterMap_reverse,List.filterMap_filterMap]
  refine congrArg (fun l : List Call => l.reverse++_) (List.filterMap_congr fun p _ => ?_)
  cases p.2.call? <;> rfl

/-- A tick at which no start time is due. -/
theorem Orderly.tick_plain (o : Orderly s) {now : Moment} (today : s.day=some now.day)
    (plain : ∀ p∈s.agenda.due now.minute,p.2.isExpand=false) (a : α) :
    s.calls [(a,.tick now)]=(s.agenda.due now.minute).filterMap (·.2.call?) ∧
    (s.tick now a).1.agenda.pending=s.agenda.pending.filter (now.minute<·.1) := by
  have enough : s.agenda.dueCount now.minute≤2*s.agenda.dueCount now.minute := by omega
  refine ⟨?_,?_⟩
  · have still : s.Still now.minute := .inr plain
    rw [calls_tick today,fireDueNotes,still.fireNotes o enough,call?_called]
    simp
  · have fired := o.pending_fire plain enough a
    rw [Scheduler.tick,rollDay_same today]
    exact (Agenda.pending_compact _).trans fired

/-- Tick by tick what is pending is done at its minute. -/
theorem Orderly.callsAt_eq (o : Orderly s) {day : Int} (today : s.day=some day)
    {ticks : List (α×Moment)} (same : ∀ tick∈ticks,tick.2.day=day)
    (minutes : ticks.map (·.2.minute)=List.range' minute ticks.length)
    (ahead : ∀ p∈s.agenda.pending,minute≤p.1)
    (plain : ∀ p∈s.agenda.pending,p.1< minute+ticks.length → p.2.isExpand=false) :
    s.callsAt ticks=callsOf (s.agenda.pending.filter (·.1< minute+ticks.length)) := by
  induction ticks generalizing s minute with
  | nil =>
    have none : s.agenda.pending.filter (·.1< minute+0)=[] := by
      rw [List.filter_eq_nil_iff]
      intro p m
      simpa using ahead p m
    rw [List.length_nil,none]
    rfl
  | cons tick ticks ih =>
    obtain ⟨a,now⟩ := tick
    rw [List.map_cons,List.length_cons,List.range'_succ,List.cons.injEq] at minutes
    obtain ⟨rfl,minutes⟩ := minutes
    obtain rfl : now.day=day := same _ List.mem_cons_self
    have plain_now : ∀ p∈s.agenda.due now.minute,p.2.isExpand=false := by
      intro p m
      obtain ⟨m,le⟩ := List.mem_filter.mp m
      have le : p.1≤now.minute := by simpa using le
      exact plain p m (by simp only [List.length_cons]; omega)
    obtain ⟨calls,pending⟩ := o.tick_plain today plain_now a
    have day : (s.tick now a).1.day=some now.day := handle_day s a (.tick now)
    have later : (s.tick now a).1.callsAt ticks=_ := ih (o.tick now a) day
      (fun tick m => same tick (List.mem_cons_of_mem _ m)) minutes
      (fun p m => by
        rw [pending] at m
        exact of_decide_eq_true (List.mem_filter.mp m).2)
      (fun p m lt => by
        rw [pending] at m
        exact plain p (List.mem_filter.mp m).1 (by rw [List.length_cons]; omega))
    have now_due : ∀ p∈s.agenda.due now.minute,p.1=now.minute := by
      intro p m
      obtain ⟨m,le⟩ := List.mem_filter.mp m
      have le : p.1≤now.minute := by simpa using le
      exact Nat.le_antisymm le (ahead p m)
    rw [callsAt,calls,later,pending,←callsOf_eq_map now_due,←callsOf_append]
    conv_rhs => rw [←o.ordered.due_append now.minute]
    rw [List.filter_append]
    refine congrArg₂ (fun l l' => callsOf (l++l')) ?_ ?_
    · refine (List.filter_eq_self.mpr fun p m => ?_).symm
      have le := now_due p m
      simp only [decide_eq_true_eq,List.length_cons]
      omega
    · rw [List.length_cons,Nat.add_assoc,Nat.add_comm 1]

end Scheduler

end Watering
