import Watering.Proofs.Schedule.Order

namespace Watering.Scheduler

variable {s t : Scheduler} {minute : Nat} {x : Action} {agenda : Agenda}

/-- A schedule is active and its stop is not due, so that no other begins. -/
def Engaged (s : Scheduler) (minute : Nat) : Prop :=
  s.active≠none ∧ ∀ p∈s.agenda.pending,p.2.isStop=true → minute<p.1

/-- Beginning brings one action at most that is due at once. -/
theorem Orderly.engaged_or_same (h : Orderly s) (idle : s.active=none) {schedule : ScheduleRef}
    (e : Expanded schedule minute s t) :
    t.agenda=s.agenda ∧ t.active=s.active ∨
      t.Engaged minute ∧ t.agenda.dueCount minute≤ s.agenda.dueCount minute+1 := by
  cases e with
  | nothing => exact .inl ⟨rfl,rfl⟩
  | @begun quick seasonal weather runs stop some_run chain =>
    have hlt := chain.lt_stop some_run
    refine .inr ⟨⟨Option.some_ne_none _,?_⟩,?_⟩
    · intro p m hp
      obtain ⟨m,_⟩ | m := Agenda.mem_addAll.mp m
      · obtain ⟨run,_,rfl⟩ | rfl := mem_course.mp m
        · cases hp
        · exact hlt
      · have he := Action.not_isExpand_of_isStop hp
        rw [h.idle idle p m] at he
        cases he
    · have hd := s.agenda.dueCount_addAll (course schedule seasonal weather runs stop) minute
      have hone := chain.due_le_one
      have hc : ((course schedule seasonal weather runs stop).filter (·.1≤ minute)).length=
          (runs.filter (·.1≤ minute)).length := by
        rw [course,List.filter_append,List.filter_map,List.filter_cons_of_neg (by simpa using hlt),
          List.filter_nil,List.append_nil,List.length_map]
        rfl
      change (s.agenda.addAll _).dueCount minute≤_
      omega

variable {α : Type} [Actuator α]

/-- A step uses up an action that was due and makes no other schedule active, or it is a start time
that engages the scheduler. -/
theorem Orderly.perform_turn (h : Orderly s) (ht : s.agenda.takeDue? minute=some (x,agenda))
    (a : α) : let t := (Scheduler.perform {s with agenda} a minute x).1
    t.agenda.dueCount minute+1≤ s.agenda.dueCount minute ∧ (t.active=none ∨ t.active=s.active) ∨
      t.Engaged minute ∧ t.agenda.dueCount minute≤ s.agenda.dueCount minute ∧ x.isExpand=true := by
  have hd := h.ordered.dueCount_takeDue? ht
  cases x with
  | turnOn run => exact .inl ⟨Nat.le_of_eq hd.symm,.inr rfl⟩
  | turnOffAll owner =>
    left
    change Agenda.dueCount (Scheduler.agenda (if _ then _ else _)) minute+1≤_ ∧
      (Scheduler.active (if _ then _ else _)=none ∨ Scheduler.active (if _ then _ else _)=_)
    split_ifs
    · exact ⟨Nat.le_of_eq hd.symm,.inl rfl⟩
    · exact ⟨Nat.le_of_eq hd.symm,.inr rfl⟩
  | expand schedule slot =>
    by_cases idle : Scheduler.active {s with agenda}=none
    · rw [perform_begun idle]
      have rest := h.taken ht
      obtain ⟨hs,hactive⟩ | ⟨he,hc⟩ := rest.engaged_or_same idle
        (expanded_expand {s with agenda} schedule minute (Actuator.maxRun a))
      · left
        dsimp only
        rw [hs]
        exact ⟨Nat.le_of_eq hd.symm,.inr hactive⟩
      · right
        exact ⟨he,Nat.le_trans hc (Nat.le_of_eq hd.symm),rfl⟩
    · left
      rw [perform_deferred idle]
      have hl := agenda.dueCount_add_later (.expand schedule slot) (Nat.lt_add_one minute)
      refine ⟨?_,.inr rfl⟩
      dsimp only
      omega

/-- A step uses up an action that was due, or it engages the scheduler. -/
theorem Orderly.perform_due (h : Orderly s) (ht : s.agenda.takeDue? minute=some (x,agenda))
    (a : α) : let t := (Scheduler.perform {s with agenda} a minute x).1
    t.agenda.dueCount minute+1≤ s.agenda.dueCount minute ∨
      t.Engaged minute ∧ t.agenda.dueCount minute≤ s.agenda.dueCount minute := by
  obtain ⟨fewer,_⟩ | ⟨engaged,count,_⟩ := h.perform_turn ht a
  · exact .inl fewer
  · exact .inr ⟨engaged,count⟩

/-- A step of an engaged scheduler keeps it engaged. -/
theorem Orderly.perform_engaged (h : Orderly s) (e : s.Engaged minute)
    (ht : s.agenda.takeDue? minute=some (x,agenda)) (a : α) :
    let t := (Scheduler.perform {s with agenda} a minute x).1
    t.agenda.dueCount minute+1≤ s.agenda.dueCount minute ∧ t.Engaged minute := by
  have hd := h.ordered.dueCount_takeDue? ht
  obtain ⟨u,hu,first⟩ := h.ordered.mem_takeDue? ht
  obtain ⟨hactive,hstop⟩ := e
  have later {p : Nat×Action} (m : p∈agenda.pending) (hp' : p.2.isStop=true) : minute<p.1 :=
    hstop p ((h.ordered.sublist_takeDue? ht).subset m) hp'
  cases x with
  | turnOn run => exact ⟨Nat.le_of_eq hd.symm,hactive,fun p m => later m⟩
  | turnOffAll owner =>
    have hlt := hstop _ first rfl
    dsimp only at hlt
    omega
  | expand schedule slot =>
    have busy : ¬Scheduler.active {s with agenda}=none := hactive
    rw [perform_deferred busy]
    have hl := agenda.dueCount_add_later (.expand schedule slot) (Nat.lt_add_one minute)
    refine ⟨?_,hactive,?_⟩
    · dsimp only
      omega
    · intro p m hp'
      obtain ⟨rfl,_⟩ | m := Agenda.mem_add.mp m
      · cases hp'
      · exact later m hp'

/-- While a schedule is active it may come to its end, and no other takes its place. -/
theorem active_perform (busy : s.active≠none) (a : α) (x : Action) :
    (perform s a minute x).1.active=none ∨ (perform s a minute x).1.active=s.active := by
  cases x with
  | turnOn run => exact .inr rfl
  | turnOffAll owner =>
    change Scheduler.active (if _ then _ else _)=none ∨ Scheduler.active (if _ then _ else _)=_
    split_ifs
    · exact .inl rfl
    · exact .inr rfl
  | expand schedule slot =>
    rw [perform_deferred busy]
    exact .inr rfl

/-- An action that was due, and the scheduler before and after it was carried out. -/
structure Round where
  before : Scheduler
  action : Action
  after : Scheduler

namespace Round

/-- The round made a schedule active. -/
def begins (r : Round) : Bool := decide (r.after.active≠none ∧ r.after.active≠r.before.active)

theorem begins_eq_false {r : Round} (h : r.after.active=none ∨ r.after.active=r.before.active) :
    r.begins=false := by
  rw [begins,decide_eq_false_iff_not]
  rintro ⟨busy,changed⟩
  exact h.elim busy changed

end Round

/-- While anything is due the first of it is carried out: the rounds that this takes, and what the
scheduler and its actuator are in the end. -/
inductive Fires (minute : Nat) : Scheduler → α → List Round → Scheduler → α → Prop where
  | done {s : Scheduler} {a : α} : s.agenda.takeDue? minute=none → Fires minute s a [] s a
  | next {s t : Scheduler} {a b : α} {x : Action} {agenda : Agenda} {rounds : List Round} :
    s.agenda.takeDue? minute=some (x,agenda) →
    Fires minute (perform {s with agenda} a minute x).1 (perform {s with agenda} a minute x).2
      rounds t b →
    Fires minute s a (⟨s,x,(perform {s with agenda} a minute x).1⟩::rounds) t b

section Fires

variable {a b : α} {rounds : List Round}

theorem Fires.later (f : Fires minute s a rounds t b) : ∀ p∈t.agenda.pending,minute<p.1 := by
  induction f with
  | done idle => exact Agenda.lt_of_takeDue?_eq_none idle
  | next _ _ ih => exact ih

/-- A bound on the steps changes nothing once it is no less than the rounds that the loop takes. -/
theorem Fires.fire_eq (f : Fires minute s a rounds t b) {steps : Nat}
    (enough : rounds.length≤ steps) : fire minute steps s a=(t,b) := by
  induction f generalizing steps with
  | done idle =>
    cases steps with
    | zero => rfl
    | succ steps => rw [fire,idle]
  | next ht _ ih =>
    cases steps with
    | zero => simp at enough
    | succ steps =>
      rw [fire,ht]
      exact ih (by simpa using enough)

/-- While a schedule is active and does not end, each round uses up an action that was due. -/
theorem Orderly.fires_engaged (h : Orderly s) (e : s.Engaged minute) (a : α) :
    ∃ rounds t b,Fires minute s a rounds t b ∧ rounds.length≤ s.agenda.dueCount minute ∧
      ∀ r∈rounds,r.begins=false := by
  induction hn : s.agenda.dueCount minute using Nat.strongRecOn generalizing s a with
  | _ n ih =>
    cases ht : s.agenda.takeDue? minute with
    | none => exact ⟨[],s,a,.done ht,Nat.zero_le _,by simp⟩
    | some due =>
      obtain ⟨x,agenda⟩ := due
      obtain ⟨fewer,engaged⟩ := h.perform_engaged e ht a
      obtain ⟨rounds,t,b,fires,few,still⟩ := ih _ (by omega) (h.perform ht a) engaged _ rfl
      refine ⟨_,t,b,.next ht fires,?_,?_⟩
      · rw [List.length_cons]
        omega
      · intro r m
        obtain rfl | m := List.mem_cons.mp m
        · have busy : Scheduler.active {s with agenda}≠none := e.1
          exact Round.begins_eq_false (active_perform busy a x)
        · exact still r m

/-- The loop ends. It takes one round at most for each action that is due, and one more if a schedule
begins, which only a start time does; after that no other begins. -/
theorem Orderly.fires (h : Orderly s) (minute : Nat) (a : α) :
    ∃ rounds t b,Fires minute s a rounds t b ∧
      rounds.length≤ min (s.agenda.dueCount minute+1) (2*s.agenda.dueCount minute) ∧
      rounds.countP Round.begins≤1 ∧ ∀ r∈rounds,r.begins=true → r.action.isExpand=true := by
  induction hn : s.agenda.dueCount minute using Nat.strongRecOn generalizing s a with
  | _ n ih =>
    cases ht : s.agenda.takeDue? minute with
    | none => exact ⟨[],s,a,.done ht,Nat.zero_le _,Nat.zero_le _,by simp⟩
    | some due =>
      obtain ⟨x,agenda⟩ := due
      have some_due := h.ordered.dueCount_takeDue? ht
      obtain ⟨fewer,same⟩ | ⟨engaged,no_more,start⟩ := h.perform_turn ht a
      · obtain ⟨rounds,t,b,fires,few,once,starts⟩ := ih _ (by omega) (h.perform ht a) _ rfl
        have still := Round.begins_eq_false
          (r:=⟨s,x,(Scheduler.perform {s with agenda} a minute x).1⟩) same
        refine ⟨_,t,b,.next ht fires,?_,?_,?_⟩
        · rw [List.length_cons]
          omega
        · rwa [List.countP_cons_of_neg (by simp [still])]
        · intro r m begins
          obtain rfl | m := List.mem_cons.mp m
          · rw [still] at begins
            cases begins
          · exact starts r m begins
      · obtain ⟨rounds,t,b,fires,few,still⟩ := (h.perform ht a).fires_engaged engaged
          (Scheduler.perform {s with agenda} a minute x).2
        have none_begins : rounds.countP Round.begins=0 := by
          rw [List.countP_eq_zero]
          intro r m
          simp [still r m]
        refine ⟨_,t,b,.next ht fires,?_,?_,?_⟩
        · rw [List.length_cons]
          omega
        · rw [List.countP_cons,none_begins]
          split_ifs
          · exact Nat.le_refl 1
          · exact Nat.zero_le 1
        · intro r m begins
          obtain rfl | m := List.mem_cons.mp m
          · exact start
          · rw [still r m] at begins
            cases begins

/-- Twice the number of actions that are due bounds the rounds of the loop. -/
theorem Fires.fireDue_eq (f : Fires minute s a rounds t b)
    (enough : rounds.length≤2*s.agenda.dueCount minute) :
    s.fireDue minute a=({t with agenda:=t.agenda.compact},b) := by
  rw [fireDue,f.fire_eq enough]

/-- Afterwards nothing is due. -/
theorem Orderly.fireDue_done (h : Orderly s) (minute : Nat) (a : α) :
    ∀ p∈(s.fireDue minute a).1.agenda.pending,minute<p.1 := by
  obtain ⟨rounds,t,b,fires,few,-⟩ := h.fires minute a
  rw [fires.fireDue_eq (Nat.le_trans few (Nat.min_le_right ..))]
  dsimp only
  rw [Agenda.pending_compact]
  exact fires.later

end Fires

end Watering.Scheduler
