import Watering.Proofs.Schedule.Kept

namespace Watering

/-- Two runs of which the earlier is over when the later starts, or no two runs at all. -/
def Clear (p q : Nat×Action) : Prop :=
  ∀ run run',p.2=.turnOn run → q.2=.turnOn run' →
    p.1<q.1 ∧ p.1+run.minutes.toNat≤q.1 ∨ q.1<p.1 ∧ q.1+run'.minutes.toNat≤p.1

theorem Clear.symm {p q : Nat×Action} (h : Clear p q) : Clear q p :=
  fun run run' hq hp => (h run' run hp hq).symm

theorem clear_of_isExpand {p : Nat×Action} (q : Nat×Action) (h : p.2.isExpand=true) : Clear p q := by
  intro run _ hp
  rw [hp] at h
  cases h

theorem BackToBack.pairwise {minute stop : Nat} {runs : List (Nat×UInt8×UInt8)}
    (h : BackToBack minute runs stop) :
    runs.Pairwise fun r r' => r.1<r'.1 ∧ r.1+r.2.2.toNat≤r'.1 := by
  induction runs generalizing minute with
  | nil => exact .nil
  | cons run runs ih =>
    obtain ⟨start,zone,length⟩ := run
    obtain ⟨rfl,_,pos,rest⟩ := h
    have hpos : 0<length.toNat := UInt8.lt_iff_toNat_lt.mp pos
    refine .cons (fun r hr => ?_) (ih rest)
    have hb := (rest.bounds hr).1
    dsimp only
    omega

namespace Scheduler

def Spaced (s : Scheduler) : Prop := s.agenda.pending.Pairwise Clear

variable {α : Type} [Actuator α] {s t : Scheduler} {minute : Nat} {x : Action} {agenda : Agenda}

namespace Spaced

theorem drop (h : s.Spaced) (hp : t.agenda.pending.Sublist s.agenda.pending) : t.Spaced :=
  List.Pairwise.sublist hp h

theorem of_starts (h : ∀ p∈s.agenda.pending,p.2.isExpand=true) : s.Spaced :=
  List.pairwise_of_forall_mem_list fun p m q _ => clear_of_isExpand q (h p m)

theorem addStart (h : s.Spaced) (minute : Nat) (schedule : ScheduleRef) (slot : UInt8) :
    Spaced {s with agenda:=s.agenda.add minute (.expand schedule slot)} := by
  by_cases hm : minute< minutesPerDay
  · have perm := Agenda.pending_add_perm s.agenda (.expand schedule slot) hm
    apply (perm.pairwise_iff Clear.symm).mpr
    exact .cons (fun q _ => clear_of_isExpand q rfl) h
  · rw [Spaced,Agenda.pending_add,if_neg hm]
    exact h

/-- The runs of a schedule that begins are back to back, and there are no others. -/
theorem expanded (o : Orderly s) (h : s.Spaced) (idle : s.active=none) {schedule : ScheduleRef}
    (e : Expanded schedule minute s t) : t.Spaced := by
  cases e with
  | nothing => exact h
  | @begun quick seasonal weather runs stop some_run chain =>
    have perm := s.agenda.pending_addAll_perm (course schedule seasonal weather runs stop)
    apply (perm.pairwise_iff Clear.symm).mpr
    refine List.pairwise_append.mpr ⟨.filter _ ?_,h,fun p _ q m => ?_⟩
    · refine List.pairwise_append.mpr ⟨?_,List.pairwise_singleton .. ,fun p _ q m => ?_⟩
      · refine List.pairwise_map.mpr (chain.pairwise.imp ?_)
        rintro r r' apart run run' hp hq
        obtain rfl := Action.turnOn.inj hp
        exact .inl apart
      · obtain rfl := List.mem_singleton.mp m
        intro _ _ _ hq
        cases hq
    · exact (clear_of_isExpand p (o.idle idle q m)).symm

theorem perform (h : s.Spaced) (o : Orderly s) (ht : s.agenda.takeDue? minute=some (x,agenda))
    (a : α) : (Scheduler.perform {s with agenda} a minute x).1.Spaced := by
  have rest : Spaced {s with agenda} := h.drop (o.ordered.sublist_takeDue? ht)
  cases x with
  | turnOn run => exact rest
  | turnOffAll owner =>
    change Spaced (if _ then _ else _)
    split_ifs
    · exact rest
    · exact rest
  | expand schedule slot =>
    by_cases idle : Scheduler.active {s with agenda}=none
    · rw [perform_begun idle]
      exact expanded (o.taken ht) rest idle (expanded_expand ..)
    · rw [perform_deferred idle]
      exact rest.addStart _ schedule slot

theorem reload (s : Scheduler) (now : Moment) : (s.reload now).Spaced :=
  of_starts ((Orderly.reload s now).idle rfl)

theorem kept : Kept α Spaced where
  perform := perform
  dropRuns {s} h := by
    refine h.drop ?_
    change (Agenda.retireWhere _ _).pending.Sublist _
    rw [Agenda.pending_retireWhere]
    exact List.filter_sublist
  compact h := h.drop (by simp)
  askQuick h _ minute := h.addStart minute .quick 0
  reload {s} _ := reload s
  setEnabled {s} _ enabled := reload {s with enabled}
  replaceSchedules {s} _ schedules := reload {s with schedules:=schedules.take maxSchedules}
  setSeasonal h _ := h
  setWeather h _ := h

/-- When a run is due, all others are a run's length away. -/
theorem after_run (h : s.Spaced) (o : Orderly s) {run : ZoneRun}
    (ht : s.agenda.takeDue? minute=some (.turnOn run,agenda)) :
    ∃ u,u≤ minute ∧ s.agenda.pending=(u,.turnOn run)::agenda.pending ∧
      ∀ q∈agenda.pending,q.2.isRun=true → u<q.1 ∧ u+run.minutes.toNat≤q.1 := by
  obtain ⟨u,hu,hp⟩ := o.ordered.takeDue? ht
  have ordered := o.ordered
  rw [Agenda.Ordered,hp,List.pairwise_cons] at ordered
  rw [Spaced,hp,List.pairwise_cons] at h
  refine ⟨u,hu,hp,fun q m hq => ?_⟩
  cases hx : q.2 with
  | turnOn run' =>
    have le := ordered.1 q m
    obtain apart | ⟨lt,_⟩ := h.1 q m run run' rfl hx
    · exact apart
    · dsimp only at le lt
      omega
  | turnOffAll | expand =>
    rw [hx] at hq
    cases hq

end Spaced

end Scheduler

end Watering
