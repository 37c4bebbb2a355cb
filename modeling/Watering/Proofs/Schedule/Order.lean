import Watering.Proofs.Schedule.Expansion
import Watering.Proofs.Schedule.Starts

namespace Watering

namespace Action

def isRun : Action → Bool
  | turnOn _ => true
  | _ => false

/-- The action is none of another schedule. -/
def BelongsTo (schedule : ScheduleRef) : Action → Prop
  | turnOn run => run.schedule=some schedule.id
  | turnOffAll owner => owner=schedule
  | expand .. => True

theorem belongsTo_of_isExpand {x : Action} (schedule : ScheduleRef) (h : x.isExpand=true) :
    x.BelongsTo schedule := by
  cases x with
  | expand => trivial
  | turnOn | turnOffAll => cases h

theorem isExpand_of_neither {x : Action} (hr : x.isRun=false) (hs : x.isStop=false) :
    x.isExpand=true := by
  cases x with
  | expand => rfl
  | turnOn => cases hr
  | turnOffAll => cases hs

theorem not_isExpand_of_isRun {x : Action} (h : x.isRun=true) : x.isExpand=false := by
  cases x with
  | turnOn => rfl
  | turnOffAll | expand => cases h

theorem not_isExpand_of_isStop {x : Action} (h : x.isStop=true) : x.isExpand=false := by
  cases x with
  | turnOffAll => rfl
  | turnOn | expand => cases h

theorem countP_isStop_eq_zero {l : List (Nat×Action)} (h : ∀ p∈l,p.2.isExpand=true) :
    l.countP (·.2.isStop)=0 := by
  rw [List.countP_eq_zero]
  intro p m k
  have he := not_isExpand_of_isStop k
  rw [h p m] at he
  cases he

end Action

namespace Scheduler

structure Orderly (s : Scheduler) : Prop where
  ordered : s.agenda.Ordered
  today : ∀ p∈s.agenda.pending,p.1< minutesPerDay
  idle : s.active=none → ∀ p∈s.agenda.pending,p.2.isExpand=true
  owned : ∀ schedule,s.active=some schedule → ∀ p∈s.agenda.pending,p.2.BelongsTo schedule
  single : s.agenda.pending.countP (·.2.isStop)≤1
  last : ∀ p∈s.agenda.pending,∀ q∈s.agenda.pending,p.2.isStop=true → q.2.isRun=true → q.1<p.1

namespace Orderly

variable {s t : Scheduler} {minute : Nat} {x : Action} {agenda : Agenda}

/-- Dropping actions keeps the order. -/
theorem drop (h : Orderly s) (hp : t.agenda.pending.Sublist s.agenda.pending)
    (ha : t.active=s.active) : Orderly t where
  ordered := List.Pairwise.sublist hp h.ordered
  today p m := h.today p (hp.subset m)
  idle k p m := h.idle (ha ▸ k) p (hp.subset m)
  owned schedule k p m := h.owned schedule (ha ▸ k) p (hp.subset m)
  single := Nat.le_trans hp.countP_le h.single
  last p m q n := h.last p (hp.subset m) q (hp.subset n)

theorem compact (h : Orderly s) : Orderly {s with agenda:=s.agenda.compact} :=
  h.drop (by simp) rfl

/-- An agenda of nothing but start times suits any scheduler. -/
theorem of_starts (ho : s.agenda.Ordered)
    (hs : ∀ p∈s.agenda.pending,p.1< minutesPerDay ∧ p.2.isExpand=true) : Orderly s where
  ordered := ho
  today p m := (hs p m).1
  idle _ p m := (hs p m).2
  owned schedule _ p m := Action.belongsTo_of_isExpand schedule (hs p m).2
  single := by
    rw [Action.countP_isStop_eq_zero fun p m => (hs p m).2]
    exact Nat.zero_le _
  last p m q _ hp _ := by
    have he := Action.not_isExpand_of_isStop hp
    rw [(hs p m).2] at he
    cases he

/-- A start time may be put anywhere. -/
theorem addStart (h : Orderly s) (minute : Nat) (schedule : ScheduleRef) (slot : UInt8) :
    Orderly {s with agenda:=s.agenda.add minute (.expand schedule slot)} where
  ordered := h.ordered.add ..
  today p m := by
    obtain ⟨rfl,hm⟩ | m := Agenda.mem_add.mp m
    · exact hm
    · exact h.today p m
  idle k p m := by
    obtain ⟨rfl,_⟩ | m := Agenda.mem_add.mp m
    · rfl
    · exact h.idle k p m
  owned owner k p m := by
    obtain ⟨rfl,_⟩ | m := Agenda.mem_add.mp m
    · trivial
    · exact h.owned owner k p m
  single := by
    by_cases hm : minute< minutesPerDay
    · have hp := (Agenda.pending_add_perm s.agenda (.expand schedule slot) hm).countP_eq
        fun p => p.2.isStop
      rw [List.countP_cons_of_neg (by simp [Action.isStop])] at hp
      exact Nat.le_trans (Nat.le_of_eq hp) h.single
    · change ((s.agenda.add minute _).pending.countP _)≤1
      rw [Agenda.pending_add,if_neg hm]
      exact h.single
  last p m q n hp hq := by
    obtain ⟨rfl,_⟩ | m := Agenda.mem_add.mp m
    · cases hp
    · obtain ⟨rfl,_⟩ | n := Agenda.mem_add.mp n
      · cases hq
      · exact h.last p m q n hp hq

theorem of_retire (h : Orderly s) (active : Option ScheduleRef) :
    Orderly {s with agenda:=s.agenda.retireWhere (!·.isExpand),active} := by
  have hp : (s.agenda.retireWhere (!·.isExpand)).pending=
      s.agenda.pending.filter fun q => q.2.isExpand := by
    rw [Agenda.pending_retireWhere]
    simp
  apply of_starts
  · change List.Pairwise _ _
    rw [hp]
    exact List.Pairwise.sublist List.filter_sublist h.ordered
  · intro p m
    change p∈(s.agenda.retireWhere (!·.isExpand)).pending at m
    rw [hp,List.mem_filter] at m
    exact ⟨h.today p m.1,m.2⟩

/-- While no schedule is active another can begin. -/
theorem expanded (h : Orderly s) (idle : s.active=none) {schedule : ScheduleRef}
    (e : Expanded schedule minute s t) : Orderly t := by
  cases e with
  | nothing quick => exact h.drop (.refl _) rfl
  | @begun quick seasonal weather runs stop some_run chain =>
    have starts := h.idle idle
    have new {p : Nat×Action}
        (m : p∈(s.agenda.addAll (course schedule seasonal weather runs stop)).pending)
        (he : p.2.isExpand=false) : p∈course schedule seasonal weather runs stop := by
      obtain ⟨m,_⟩ | m := Agenda.mem_addAll.mp m
      · exact m
      · rw [starts p m] at he
        cases he
    refine ⟨h.ordered.addAll _,?_,?_,?_,?_,?_⟩
    · intro p m
      obtain ⟨_,hm⟩ | m := Agenda.mem_addAll.mp m
      · exact hm
      · exact h.today p m
    · intro k
      cases k
    · intro owner k p m
      obtain rfl : schedule=owner := Option.some.inj k
      cases he : p.2.isExpand with
      | true => exact Action.belongsTo_of_isExpand _ he
      | false =>
        obtain ⟨run,_,rfl⟩ | rfl := mem_course.mp (new m he)
        · exact rfl
        · exact rfl
    · have hc := (Agenda.pending_addAll_perm s.agenda
        (course schedule seasonal weather runs stop)).countP_eq fun p => p.2.isStop
      have hold := Action.countP_isStop_eq_zero starts
      have hnew := countP_isStop_course schedule seasonal weather runs stop
      have hle := (List.filter_sublist
        (p:=fun p : Nat×Action => decide (p.1< minutesPerDay))
        (l:=course schedule seasonal weather runs stop)).countP_le (p:=fun p => p.2.isStop)
      rw [List.countP_append,hold] at hc
      change (s.agenda.addAll _).pending.countP _≤1
      omega
    · intro p m q n hp hq
      have hp' := mem_course.mp (new m (Action.not_isExpand_of_isStop hp))
      have hq' := mem_course.mp (new n (Action.not_isExpand_of_isRun hq))
      obtain ⟨run,_,rfl⟩ | rfl := hp'
      · cases hp
      · obtain ⟨run,hr,rfl⟩ | rfl := hq'
        · exact (chain.bounds hr).2.1
        · cases hq

/-- After the stop there are only start times left. -/
theorem after_stop (h : Orderly s) {owner : ScheduleRef}
    (ht : s.agenda.takeDue? minute=some (.turnOffAll owner,agenda)) :
    ∀ p∈agenda.pending,p.2.isExpand=true := by
  obtain ⟨t,_,hp⟩ := h.ordered.takeDue? ht
  have ho := h.ordered
  have hc := h.single
  rw [Agenda.Ordered,hp,List.pairwise_cons] at ho
  rw [hp,List.countP_cons_of_pos rfl] at hc
  have hz : agenda.pending.countP (·.2.isStop)=0 := by omega
  rw [List.countP_eq_zero] at hz
  intro p m
  apply Action.isExpand_of_neither
  · by_contra hr
    have hlt := h.last (t,.turnOffAll owner) (by rw [hp]; exact List.mem_cons_self) p
      (by rw [hp]; exact List.mem_cons_of_mem _ m) rfl (by simpa using hr)
    have hle := ho.1 p m
    dsimp only at hlt hle
    omega
  · simpa using hz p m

theorem taken (h : Orderly s) (ht : s.agenda.takeDue? minute=some (x,agenda)) :
    Orderly {s with agenda} := h.drop (h.ordered.sublist_takeDue? ht) rfl

variable {α : Type} [Actuator α]

/-- Carrying out the action that comes first keeps the order. -/
theorem perform (h : Orderly s) (ht : s.agenda.takeDue? minute=some (x,agenda)) (a : α) :
    Orderly (Scheduler.perform {s with agenda} a minute x).1 := by
  have rest := h.taken ht
  cases x with
  | turnOn run => exact rest
  | turnOffAll owner =>
    change Orderly (if _ then _ else _)
    split_ifs
    · exact of_starts rest.ordered fun p m => ⟨rest.today p m,h.after_stop ht p m⟩
    · exact rest
  | expand schedule slot =>
    by_cases idle : Scheduler.active {s with agenda}=none
    · rw [perform_begun idle]
      exact rest.expanded idle (expanded_expand ..)
    · rw [perform_deferred idle]
      exact rest.addStart _ _ _

theorem fire (h : Orderly s) (steps : Nat) (a : α) :
    Orderly (Scheduler.fire minute steps s a).1 := by
  induction steps generalizing s a with
  | zero => exact h
  | succ steps ih =>
    rw [Scheduler.fire]
    split
    · exact h
    · rename_i x agenda ht
      exact ih (h.perform ht a) _

theorem fireDue (h : Orderly s) (minute : Nat) (a : α) : Orderly (s.fireDue minute a).1 := by
  have hf : Orderly (Scheduler.fire minute (2*s.agenda.dueCount minute) s a).1 := h.fire _ a
  exact hf.compact

theorem reload (s : Scheduler) (now : Moment) : Orderly (s.reload now) := by
  apply of_starts
  · exact Agenda.ordered_empty.addAll _
  · intro p m
    obtain ⟨_,ahead⟩ := mem_reload.mp m
    obtain ⟨_,_,_,_,_,_,_,⟨_,today⟩,rfl⟩ := mem_startsAhead.mp ahead
    exact ⟨today,rfl⟩

theorem rollDay (h : Orderly s) (now : Moment) (a : α) : Orderly (s.rollDay now a).1 := by
  rw [Scheduler.rollDay]
  split
  · exact reload s now
  · split_ifs
    · exact h
    · exact reload s now

theorem tick (h : Orderly s) (now : Moment) (a : α) : Orderly (s.tick now a).1 :=
  (h.rollDay now a).fireDue _ _

theorem cancel (h : Orderly s) (a : α) : Orderly (s.cancel a).1 := by
  rw [Scheduler.cancel]
  split_ifs
  · exact (h.of_retire none).compact
  · exact h

theorem askQuick (h : Orderly s) (durations : List UInt8) (minute : Nat) :
    Orderly {s with
      quick:=some durations
      agenda:=s.agenda.add minute (.expand .quick 0)} :=
  (h.addStart minute .quick 0).drop (.refl _) rfl

theorem runQuick (h : Orderly s) (durations : List UInt8) (now : Moment) (a : α) :
    Orderly (s.runQuick durations now a).1 :=
  (((h.rollDay now a).cancel _).askQuick durations now.minute).fireDue _ _

theorem stop (h : Orderly s) (a : α) : Orderly (s.stop a).1 := by
  rw [Scheduler.stop]
  apply compact
  split_ifs
  · exact h.of_retire none
  · exact h

end Orderly

end Scheduler

end Watering
