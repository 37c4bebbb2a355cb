import Mathlib.Tactic.Common
import Watering.Schedule.Agenda

namespace Watering

namespace Action

def isStop : Action → Bool
  | turnOffAll _ => true
  | _ => false

end Action

namespace Agenda

variable {a b : Agenda} {minute now : Nat} {x : Action}

/-- Pending actions are in the order of their minutes. -/
def Ordered (a : Agenda) : Prop := a.pending.Pairwise fun p q => p.1≤q.1

def addAll (a : Agenda) (l : List (Nat×Action)) : Agenda := l.foldl (fun a p => a.add p.1 p.2) a

@[simp] theorem pending_retired (x : Action) (rest : List (Option Nat×Action)) :
    (⟨(none,x)::rest⟩ : Agenda).pending=(⟨rest⟩ : Agenda).pending := rfl

@[simp] theorem pending_live (t : Nat) (x : Action) (rest : List (Option Nat×Action)) :
    (⟨(some t,x)::rest⟩ : Agenda).pending=(t,x)::(⟨rest⟩ : Agenda).pending := rfl

theorem pending_place (minute : Nat) (x : Action) (entries : List (Option Nat×Action)) :
    (⟨place minute x entries⟩ : Agenda).pending=
      (⟨entries⟩ : Agenda).pending.takeWhile (·.1≤ minute)++
        (minute,x)::(⟨entries⟩ : Agenda).pending.dropWhile (·.1≤ minute) := by
  induction entries with
  | nil => rfl
  | cons e rest ih =>
    obtain ⟨due,y⟩ := e
    cases due with
    | none =>
      change (⟨(none,y)::place minute x rest⟩ : Agenda).pending=_
      rw [pending_retired,pending_retired,ih]
    | some t =>
      by_cases h : minute<t
      · have hp : place minute x ((some t,y)::rest)=(some minute,x)::(some t,y)::rest := by
          simp [place,h]
        rw [hp,pending_live,pending_live]
        simp [h]
      · have hp : place minute x ((some t,y)::rest)=(some t,y)::place minute x rest := by
          simp [place,h]
        rw [hp,pending_live,pending_live,ih]
        simp [Nat.le_of_not_lt h]

theorem pending_add (a : Agenda) (minute : Nat) (x : Action) : (a.add minute x).pending=
    if minute< minutesPerDay then
      a.pending.takeWhile (·.1≤ minute)++(minute,x)::a.pending.dropWhile (·.1≤ minute)
    else a.pending := by
  rw [add,insert]
  split_ifs
  · exact pending_place minute x a.entries
  · rfl

theorem pending_add_perm (a : Agenda) (x : Action) (h : minute< minutesPerDay) :
    (a.add minute x).pending.Perm ((minute,x)::a.pending) := by
  rw [pending_add,if_pos h]
  have hp : (a.pending.takeWhile (·.1≤ minute)++(minute,x)::a.pending.dropWhile (·.1≤ minute)).Perm
      ((minute,x)::(a.pending.takeWhile (·.1≤ minute)++a.pending.dropWhile (·.1≤ minute))) :=
    List.perm_middle
  rwa [List.takeWhile_append_dropWhile] at hp

theorem pending_addAll_perm (a : Agenda) (l : List (Nat×Action)) :
    (a.addAll l).pending.Perm (l.filter (·.1< minutesPerDay)++a.pending) := by
  induction l generalizing a with
  | nil => exact .refl _
  | cons p l ih =>
    have h := ih (a.add p.1 p.2)
    change ((a.add p.1 p.2).addAll l).pending.Perm _
    by_cases hp : p.1< minutesPerDay
    · rw [List.filter_cons_of_pos (by simpa using hp)]
      have hm := (pending_add_perm a p.2 hp).append_left (l.filter (·.1< minutesPerDay))
      exact (h.trans hm).trans List.perm_middle
    · rw [List.filter_cons_of_neg (by simpa using hp)]
      rwa [pending_add,if_neg hp] at h

theorem mem_addAll {p : Nat×Action} {l : List (Nat×Action)} :
    p∈(a.addAll l).pending ↔ p∈l ∧ p.1< minutesPerDay ∨ p∈a.pending := by
  rw [(pending_addAll_perm a l).mem_iff,List.mem_append,List.mem_filter,decide_eq_true_eq]

theorem mem_add {p : Nat×Action} :
    p∈(a.add minute x).pending ↔ p=(minute,x) ∧ minute< minutesPerDay ∨ p∈a.pending := by
  have h := mem_addAll (a:=a) (p:=p) (l:=[(minute,x)])
  change p∈(a.add minute x).pending ↔ _ at h
  rw [h,List.mem_singleton]
  constructor
  · rintro (⟨rfl,hm⟩ | hp)
    · exact .inl ⟨rfl,hm⟩
    · exact .inr hp
  · rintro (⟨rfl,hm⟩ | hp)
    · exact .inl ⟨rfl,hm⟩
    · exact .inr hp

/-- In the order of their minutes, and at the same minute in the order of a relation. -/
def InOrder (R : Action → Action → Prop) (p q : Nat×Action) : Prop :=
  p.1<q.1 ∨ p.1=q.1 ∧ R p.2 q.2

section InOrder

variable {R : Action → Action → Prop}

theorem ordered_of_pairwise (h : a.pending.Pairwise (InOrder R)) : a.Ordered := by
  apply h.imp
  rintro p q (lt | ⟨same,_⟩)
  · exact Nat.le_of_lt lt
  · exact Nat.le_of_eq same

end InOrder

namespace Ordered

theorem lt_of_mem_dropWhile (h : a.Ordered) {p : Nat×Action}
    (hp : p∈a.pending.dropWhile (·.1≤ minute)) : minute<p.1 := by
  have hs : (a.pending.dropWhile (·.1≤ minute)).Pairwise fun p q => p.1≤q.1 :=
    List.Pairwise.sublist (List.dropWhile_sublist _) h
  cases hd : a.pending.dropWhile (·.1≤ minute) with
  | nil =>
    rw [hd] at hp
    cases hp
  | cons q rest =>
    have hq : minute<q.1 := by
      have hn := List.head?_dropWhile_not (fun p : Nat×Action => decide (p.1≤ minute)) a.pending
      rw [hd] at hn
      simpa using hn
    rw [hd] at hp hs
    obtain rfl | hr := List.mem_cons.mp hp
    · exact hq
    · have hle := (List.pairwise_cons.mp hs).1 p hr
      omega

/-- What is added goes behind all that is pending at its minute. -/
theorem pairwise_add {R : Action → Action → Prop} (h : a.Ordered)
    (hr : a.pending.Pairwise (InOrder R)) (last : ∀ p∈a.pending,p.1= minute → R p.2 x) :
    (a.add minute x).pending.Pairwise (InOrder R) := by
  rw [pending_add]
  split_ifs
  · rw [List.pairwise_append]
    refine ⟨List.Pairwise.sublist (List.takeWhile_sublist _) hr,?_,?_⟩
    · rw [List.pairwise_cons]
      refine ⟨?_,List.Pairwise.sublist (List.dropWhile_sublist _) hr⟩
      intro q hq
      exact .inl (h.lt_of_mem_dropWhile hq)
    · intro p hp q hq
      have before : p.1≤ minute := by
        simpa using List.all_eq_true.mp (List.all_takeWhile ..) p hp
      obtain rfl | hq' := List.mem_cons.mp hq
      · obtain lt | same := Nat.lt_or_eq_of_le before
        · exact .inl lt
        · exact .inr ⟨same,last p ((List.takeWhile_sublist _).subset hp) same⟩
      · have hlt := h.lt_of_mem_dropWhile hq'
        exact .inl (by omega)
  · exact hr

theorem add (h : a.Ordered) (minute : Nat) (x : Action) : (a.add minute x).Ordered := by
  have unranked : a.pending.Pairwise (InOrder fun _ _ => True) := h.imp fun le =>
    (Nat.lt_or_eq_of_le le).imp id fun same => ⟨same,trivial⟩
  exact ordered_of_pairwise (h.pairwise_add unranked fun _ _ _ => trivial)

theorem addAll (h : a.Ordered) (l : List (Nat×Action)) : (a.addAll l).Ordered := by
  induction l generalizing a with
  | nil => exact h
  | cons p l ih => exact ih (h.add p.1 p.2)

end Ordered

/-- Actions of one minute stay in the order in which they were added. -/
theorem pairwise_addAll {R : Action → Action → Prop} {l : List (Nat×Action)}
    (hr : a.pending.Pairwise (InOrder R)) (hl : l.Pairwise fun p q => R p.2 q.2)
    (last : ∀ p∈a.pending,∀ q∈l,R p.2 q.2) : (a.addAll l).pending.Pairwise (InOrder R) := by
  induction l generalizing a with
  | nil => exact hr
  | cons p l ih =>
    obtain ⟨first,rest⟩ := List.pairwise_cons.mp hl
    have added : (a.add p.1 p.2).pending.Pairwise (InOrder R) :=
      (ordered_of_pairwise hr).pairwise_add hr fun q hq _ => last q hq p List.mem_cons_self
    refine ih added rest ?_
    intro q hq r hr'
    obtain ⟨rfl,_⟩ | hq' := mem_add.mp hq
    · exact first r hr'
    · exact last q hq' r (List.mem_cons_of_mem _ hr')

theorem ordered_empty : ({} : Agenda).Ordered := .nil

/-- What is taken is the first of the pending actions that is due. -/
theorem takeFirst_eq_some {entries rest : List (Option Nat×Action)}
    (h : takeFirst now entries=some (x,rest)) : ∃ t l l',t≤now ∧ (∀ p∈l,now<p.1) ∧
      (⟨entries⟩ : Agenda).pending=l++(t,x)::l' ∧ (⟨rest⟩ : Agenda).pending=l++l' := by
  induction entries generalizing rest with
  | nil => cases h
  | cons e entries ih =>
    obtain ⟨due,y⟩ := e
    rw [takeFirst] at h
    split_ifs at h with hd
    · obtain ⟨t,rfl,ht⟩ := (Option.any_eq_true _ _).mp hd
      obtain ⟨rfl,rfl⟩ : y=x ∧ _=rest := by simpa using h
      exact ⟨t,[],_,by simpa using ht,by simp,rfl,rfl⟩
    · obtain ⟨⟨z,es⟩,he,hz⟩ := Option.map_eq_some_iff.mp h
      obtain ⟨rfl,rfl⟩ : z=x ∧ _=rest := by simpa using hz
      obtain ⟨t,l,l',ht,hl,hp,hr⟩ := ih he
      cases due with
      | none => exact ⟨t,l,l',ht,hl,hp,hr⟩
      | some u =>
        have hu : now<u := by simpa using hd
        refine ⟨t,(u,y)::l,l',ht,?_,?_,?_⟩
        · intro p hp'
          obtain rfl | hm := List.mem_cons.mp hp'
          · exact hu
          · exact hl p hm
        · rw [pending_live,hp,List.cons_append]
        · rw [pending_live,hr,List.cons_append]

theorem takeFirst_eq_none {entries : List (Option Nat×Action)} (h : takeFirst now entries=none) :
    ∀ p∈(⟨entries⟩ : Agenda).pending,now<p.1 := by
  induction entries with
  | nil =>
    intro p hp
    cases hp
  | cons e entries ih =>
    obtain ⟨due,y⟩ := e
    rw [takeFirst] at h
    split_ifs at h with hd
    have hrest := ih (by simpa using h)
    cases due with
    | none => exact hrest
    | some u =>
      intro p hp
      obtain rfl | hm := List.mem_cons.mp hp
      · simpa using hd
      · exact hrest p hm

theorem lt_of_takeDue?_eq_none (h : a.takeDue? now=none) : ∀ p∈a.pending,now<p.1 :=
  takeFirst_eq_none (by simpa [takeDue?] using h)

/-- In an ordered agenda the first of all pending actions is taken. -/
theorem Ordered.takeDue? (h : a.Ordered) (ht : a.takeDue? now=some (x,b)) :
    ∃ t,t≤now ∧ a.pending=(t,x)::b.pending := by
  obtain ⟨⟨y,rest⟩,hf,he⟩ := Option.map_eq_some_iff.mp ht
  obtain ⟨rfl,rfl⟩ : y=x ∧ _=b := by simpa using he
  obtain ⟨t,l,l',ht',hl,hp,hr⟩ := takeFirst_eq_some hf
  have hnil : l=[] := by
    cases l with
    | nil => rfl
    | cons p l =>
      have hlt := hl p List.mem_cons_self
      have hs : ((p::l)++(t,y)::l').Pairwise fun p q => p.1≤q.1 := hp ▸ h
      have hle : p.1≤t := (List.pairwise_append.mp hs).2.2 p List.mem_cons_self _ List.mem_cons_self
      omega
  subst hnil
  exact ⟨t,ht',by rw [hr]; exact hp⟩

theorem Ordered.mem_takeDue? (h : a.Ordered) (ht : a.takeDue? now=some (x,b)) :
    ∃ t,t≤now ∧ (t,x)∈a.pending := by
  obtain ⟨t,hle,hp⟩ := h.takeDue? ht
  rw [hp]
  exact ⟨t,hle,List.mem_cons_self⟩

theorem Ordered.sublist_takeDue? (h : a.Ordered) (ht : a.takeDue? now=some (x,b)) :
    b.pending.Sublist a.pending := by
  obtain ⟨t,_,hp⟩ := h.takeDue? ht
  rw [hp]
  exact List.sublist_cons_self ..

theorem pending_retireWhere (a : Agenda) (p : Action → Bool) :
    (a.retireWhere p).pending=a.pending.filter fun q => !p q.2 := by
  obtain ⟨entries⟩ := a
  induction entries with
  | nil => rfl
  | cons e rest ih =>
    obtain ⟨due,y⟩ := e
    change (⟨(if p y then none else due,y)::_⟩ : Agenda).pending=_
    cases due with
    | none =>
      rw [ite_self,pending_retired,pending_retired]
      exact ih
    | some t =>
      cases hy : p y with
      | true =>
        rw [if_pos rfl,pending_retired,pending_live,List.filter_cons_of_neg (by simp [hy])]
        exact ih
      | false =>
        rw [if_neg Bool.false_ne_true,pending_live,pending_live,
          List.filter_cons_of_pos (by simp [hy])]
        exact congrArg _ ih

@[simp] theorem pending_compact (a : Agenda) : a.compact.pending=a.pending := by
  obtain ⟨entries⟩ := a
  induction entries with
  | nil => rfl
  | cons e rest ih =>
    obtain ⟨due,y⟩ := e
    cases due with
    | none => exact ih
    | some t => exact congrArg ((t,y)::·) ih

theorem dueCount_eq_zero (h : a.dueCount now=0) : ∀ p∈a.pending,now<p.1 := by
  intro p hp
  have hf := List.eq_nil_of_length_eq_zero h
  rw [List.filter_eq_nil_iff] at hf
  simpa using hf p hp

theorem Ordered.dueCount_takeDue? (h : a.Ordered) (ht : a.takeDue? now=some (x,b)) :
    a.dueCount now=b.dueCount now+1 := by
  obtain ⟨t,hle,hp⟩ := h.takeDue? ht
  rw [dueCount,hp,List.filter_cons_of_pos (by simpa using hle)]
  rfl

theorem dueCount_addAll (a : Agenda) (l : List (Nat×Action)) (now : Nat) :
    (a.addAll l).dueCount now≤(l.filter (·.1≤now)).length+a.dueCount now := by
  have hp := ((pending_addAll_perm a l).filter (·.1≤now)).length_eq
  have hl : ((l.filter (·.1< minutesPerDay)).filter (·.1≤now)).length≤
      (l.filter (·.1≤now)).length := (List.filter_sublist.filter _).length_le
  rw [List.filter_append,List.length_append] at hp
  rw [dueCount,dueCount]
  omega

theorem dueCount_add_later (a : Agenda) (x : Action) (h : now< minute) :
    (a.add minute x).dueCount now≤a.dueCount now := by
  have hd := dueCount_addAll a [(minute,x)] now
  rw [List.filter_cons_of_neg (by simpa using h),List.filter_nil,List.length_nil,Nat.zero_add] at hd
  exact hd

def due (a : Agenda) (now : Nat) : List (Nat×Action) := a.pending.filter (·.1≤now)

theorem due_eq_nil (h : ∀ p∈a.pending,now<p.1) : a.due now=[] := by
  rw [due,List.filter_eq_nil_iff]
  intro p m
  have lt := h p m
  simp only [decide_eq_true_eq]
  omega

theorem due_add_later (a : Agenda) (x : Action) (h : now< minute) :
    (a.add minute x).due now=a.due now := by
  rw [due,pending_add]
  split_ifs
  · rw [List.filter_append,List.filter_cons_of_neg (by simpa using h),←List.filter_append,
      List.takeWhile_append_dropWhile,due]
  · rfl

/-- What is due comes before what is not. -/
theorem Ordered.due_append (h : a.Ordered) (now : Nat) :
    a.due now++a.pending.filter (now<·.1)=a.pending := by
  rw [Ordered] at h
  rw [due]
  generalize a.pending=l at h ⊢
  induction l with
  | nil => rfl
  | cons p rest ih =>
    obtain ⟨first,rest_ordered⟩ := List.pairwise_cons.mp h
    by_cases hp : p.1≤now
    · rw [List.filter_cons_of_pos (by simpa using hp),List.filter_cons_of_neg (by simpa using hp),
        List.cons_append,ih rest_ordered]
    · have later : ∀ q∈p::rest,now<q.1 := by
        intro q m
        obtain rfl | m := List.mem_cons.mp m
        · exact Nat.lt_of_not_le hp
        · exact Nat.lt_of_lt_of_le (Nat.lt_of_not_le hp) (first q m)
      rw [List.filter_eq_nil_iff.mpr fun q m => by simpa using later q m,List.nil_append,
        List.filter_eq_self.mpr fun q m => by simpa using later q m]

theorem Ordered.due_takeDue? (h : a.Ordered) (ht : a.takeDue? now=some (x,b)) :
    ∃ t,t≤now ∧ a.pending=(t,x)::b.pending ∧ a.due now=(t,x)::b.due now := by
  obtain ⟨t,hle,hp⟩ := h.takeDue? ht
  refine ⟨t,hle,hp,?_⟩
  rw [due,hp,List.filter_cons_of_pos (by simpa using hle),due]

end Agenda

end Watering
