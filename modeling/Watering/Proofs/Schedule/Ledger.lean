import Watering.Proofs.Schedule.Agenda

namespace Watering.Agenda

/-- All that can be done to an agenda. -/
inductive Edit where
  | insert (minute : Nat) (x : Action)
  | takeDue (now : Nat)
  | retireWhere (p : Action → Bool)
  | compact
  | clear

def edit (a : Agenda) : Edit → Agenda
  | .insert minute x => (a.insert minute x).1
  | .takeDue now =>
    match a.takeDue? now with
    | some (_,b) => b
    | none => a
  | .retireWhere p => a.retireWhere p
  | .compact => a.compact
  | .clear => {}

def editAll (a : Agenda) (edits : List Edit) : Agenda := edits.foldl edit a

/-- Of the entries that none comes before, the one that was put in first. -/
def earliest? (l : List (Nat×Action)) : Option (Nat×Action) :=
  (l.filter fun p => l.all fun q => p.1≤q.1).head?

theorem mem_of_earliest? {l : List (Nat×Action)} {e : Nat×Action} (h : earliest? l=some e) : e∈l :=
  (List.mem_filter.mp (List.mem_of_head? h)).1

/-- The ledger after an edit. -/
def post (l : List (Nat×Action)) : Edit → List (Nat×Action)
  | .insert minute x => if minute< minutesPerDay then l++[(minute,x)] else l
  | .takeDue now =>
    match earliest? l with
    | some e => if e.1≤now then l.erase e else l
    | none => l
  | .retireWhere p => l.filter fun q => !p q.2
  | .compact => l
  | .clear => []

/-- What was accepted and neither handed out nor retired nor cleared since, in the order it came. -/
def ledger (edits : List Edit) : List (Nat×Action) := edits.foldl post []

/-- What is pending is in the order of its minutes, and at each minute it is the ledger's. -/
structure Sorts (a : Agenda) (l : List (Nat×Action)) : Prop where
  ordered : a.Ordered
  each (t : Nat) : a.pending.filter (·.1==t)=l.filter (·.1==t)

namespace Sorts

variable {a b : Agenda} {l : List (Nat×Action)} {minute now t : Nat} {x : Action}

theorem perm (h : Sorts a l) : a.pending.Perm l := by
  rw [List.perm_iff_count]
  intro p
  have own : (p.1==p.1)=true := beq_self_eq_true p.1
  rw [←List.count_filter (l:=a.pending) (p:=(·.1==p.1)) own,
    ←List.count_filter (l:=l) (p:=(·.1==p.1)) own,h.each]

theorem insert (h : Sorts a l) (minute : Nat) (x : Action) :
    Sorts (a.insert minute x).1 (post l (.insert minute x)) where
  ordered := h.ordered.add minute x
  each t := by
    change (a.add minute x).pending.filter _=(if _ then _ else _ : List (Nat×Action)).filter _
    rw [pending_add]
    split_ifs
    · have later : (a.pending.dropWhile (·.1≤ minute)).filter (·.1== minute)=[] := by
        rw [List.filter_eq_nil_iff]
        intro p hp
        have lt := h.ordered.lt_of_mem_dropWhile hp
        simp only [beq_iff_eq]
        omega
      have split := congrArg (List.filter (·.1==t))
        (List.takeWhile_append_dropWhile (p:=(·.1≤ minute)) (l:=a.pending))
      rw [List.filter_append] at split
      rw [List.filter_append,List.filter_append,←h.each,←split]
      obtain rfl | ht := eq_or_ne minute t
      · simp [later]
      · simp [ht]
    · exact h.each t

theorem retireWhere (h : Sorts a l) (p : Action → Bool) :
    Sorts (a.retireWhere p) (l.filter fun q => !p q.2) where
  ordered := by
    rw [Ordered,pending_retireWhere]
    exact List.Pairwise.sublist List.filter_sublist h.ordered
  each t := by
    have swap (m : List (Nat×Action)) : (m.filter fun q => !p q.2).filter (·.1==t)=
        (m.filter (·.1==t)).filter fun q => !p q.2 := by
      rw [List.filter_filter,List.filter_filter]
      exact List.filter_congr fun q _ => Bool.and_comm ..
    rw [pending_retireWhere,swap,swap,h.each]

/-- The first that is pending is the earliest of the ledger. -/
theorem earliest? (h : Sorts a l) {rest : List (Nat×Action)} (hp : a.pending=(t,x)::rest) :
    Agenda.earliest? l=some (t,x) := by
  have first : ∀ q∈l,t≤q.1 := by
    intro q hq
    have ho := h.ordered
    rw [Ordered,hp,List.pairwise_cons] at ho
    obtain rfl | hr := List.mem_cons.mp (hp ▸ h.perm.mem_iff.mpr hq)
    · exact Nat.le_refl t
    · exact ho.1 q hr
  have held : (t,x)∈l := h.perm.mem_iff.mp (hp ▸ List.mem_cons_self)
  have least : l.filter (fun p => l.all fun q => p.1≤q.1)=l.filter (·.1==t) := by
    apply List.filter_congr
    intro p hm
    rw [Bool.eq_iff_iff,List.all_eq_true,beq_iff_eq]
    simp only [decide_eq_true_eq]
    constructor
    · exact fun le => Nat.le_antisymm (le (t,x) held) (first p hm)
    · rintro rfl
      exact first
  rw [Agenda.earliest?,least,←h.each,hp,List.filter_cons_of_pos (by simp),List.head?_cons]

/-- The first that is pending is struck off the ledger. -/
theorem erase (h : Sorts a l) (hp : a.pending=(t,x)::b.pending) : Sorts b (l.erase (t,x)) where
  ordered := by
    have ho := h.ordered
    rw [Ordered,hp,List.pairwise_cons] at ho
    exact ho.2
  each u := by
    rw [←List.erase_filter,←h.each,hp]
    by_cases hu : t=u
    · rw [List.filter_cons_of_pos (by simpa using hu),List.erase_cons_head]
    · rw [List.filter_cons_of_neg (by simpa using hu),List.erase_of_not_mem]
      intro m
      have same := (List.mem_filter.mp m).2
      exact hu (by simpa using same)

/-- What is due first is handed out and struck off the ledger; if nothing is due, nothing changes. -/
theorem takeDue? (h : Sorts a l) (now : Nat) :
    (∃ t x b,t≤now ∧ Agenda.earliest? l=some (t,x) ∧ a.takeDue? now=some (x,b) ∧
      Sorts b (l.erase (t,x))) ∨
    (∀ p∈l,now<p.1) ∧ a.takeDue? now=none := by
  cases ht : a.takeDue? now with
  | some due =>
    obtain ⟨x,b⟩ := due
    obtain ⟨t,le,hp⟩ := h.ordered.takeDue? ht
    exact .inl ⟨t,x,b,le,h.earliest? hp,rfl,h.erase hp⟩
  | none =>
    exact .inr ⟨fun p hp => lt_of_takeDue?_eq_none ht p (h.perm.mem_iff.mpr hp),rfl⟩

theorem edit (h : Sorts a l) (e : Edit) : Sorts (a.edit e) (post l e) := by
  cases e with
  | insert minute x => exact h.insert minute x
  | takeDue now =>
    rw [Agenda.edit,post]
    obtain ⟨t,x,b,le,first,taken,rest⟩ | ⟨later,kept⟩ := h.takeDue? now
    · rw [taken,first]
      dsimp only
      rwa [if_pos le]
    · rw [kept]
      cases first : Agenda.earliest? l with
      | none => exact h
      | some e =>
        dsimp only
        rwa [if_neg (Nat.not_le_of_lt (later e (mem_of_earliest? first)))]
  | retireWhere p => exact h.retireWhere p
  | compact => exact ⟨by rw [Agenda.edit,Ordered,pending_compact]; exact h.ordered,fun t => by
      rw [Agenda.edit,pending_compact]
      exact h.each t⟩
  | clear => exact ⟨ordered_empty,fun _ => rfl⟩

theorem editAll (h : Sorts a l) (edits : List Edit) : Sorts (a.editAll edits) (edits.foldl post l) := by
  induction edits generalizing a l with
  | nil => exact h
  | cons e edits ih => exact ih (h.edit e)

end Sorts

/-- Whatever was done to an agenda that was empty at first: what is pending is what was accepted and
neither handed out nor retired nor cleared since, in the order of its minutes, and at one minute in the
order it came. An action is accepted if its minute is within the day. Of what is pending, what came first
at the least minute is handed out and no more pending, if that minute has come; otherwise nothing is and
nothing changes. Compacting never shows. -/
theorem pending_follows_ledger (edits : List Edit) :
    let a := editAll {} edits
    let l := ledger edits
    (a.pending.Pairwise fun p q => p.1≤q.1) ∧ a.pending.Perm l ∧
    (∀ t,a.pending.filter (·.1==t)=l.filter (·.1==t)) ∧
    (∀ minute x,((a.insert minute x).2=true ↔ minute<1440) ∧
      (1440≤ minute → (a.insert minute x).1=a)) ∧
    (∀ now,(∃ t x b,t≤now ∧ earliest? l=some (t,x) ∧ a.takeDue? now=some (x,b) ∧
        a.pending=(t,x)::b.pending) ∨
      (∀ p∈l,now<p.1) ∧ a.takeDue? now=none ∧ a.edit (.takeDue now)=a) ∧
    a.compact.pending=a.pending := by
  intro a l
  have h : Sorts a l := Sorts.editAll ⟨ordered_empty,fun _ => rfl⟩ edits
  refine ⟨h.ordered,h.perm,h.each,fun minute x => ?_,fun now => ?_,pending_compact a⟩
  · rw [insert,minutesPerDay]
    split_ifs with today
    · exact ⟨iff_of_true rfl today,fun late => absurd today (Nat.not_lt_of_le late)⟩
    · exact ⟨iff_of_false (by simp) today,fun _ => rfl⟩
  · obtain ⟨t,x,b,le,first,taken,_⟩ | ⟨later,kept⟩ := h.takeDue? now
    · obtain ⟨u,_,hp⟩ := h.ordered.takeDue? taken
      obtain rfl : u=t := congrArg Prod.fst (Option.some.inj ((h.earliest? hp).symm.trans first))
      exact .inl ⟨u,x,b,le,first,taken,hp⟩
    · exact .inr ⟨later,kept,by rw [edit,kept]⟩

/-- The second of two actions at one minute stays behind the first, through a retired one between them. -/
example :
    let stop (i : UInt8) : Action := .turnOffAll (.stored i)
    let edits : List Edit := [.insert 10 (stop 0),.insert 5 (stop 1),.insert 10 (stop 2),
      .insert 1440 (stop 3),.takeDue 7,.insert 10 (stop 4),.retireWhere (·==stop 2)]
    (editAll {} edits).pending=[(10,stop 0),(10,stop 4)] ∧
    ledger edits=[(10,stop 0),(10,stop 4)] := by
  decide

end Watering.Agenda
