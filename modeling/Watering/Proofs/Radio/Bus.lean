import Mathlib.Data.List.Nodup
import Watering.Radio.Bus

namespace Watering

/-- A hardware address ends in the id. -/
theorem toUInt8_hardwareOf (u : UInt8) : (hardwareOf u).toUInt8=u := by
  rw [hardwareOf,UInt64.toUInt8_or,UInt8.toUInt8_toUInt64]
  exact UInt8.zero_or

theorem hardwareOf_inj {u v : UInt8} (h : hardwareOf u=hardwareOf v) : u=v := by
  rw [←toUInt8_hardwareOf u,h,toUInt8_hardwareOf]

namespace Bus

variable {b : Bus} {number : UInt8 → Option Nat} {u v : UInt8} {n : Nat} {i : Inbound}

/-- What waits for the transceiver under an id, oldest first. -/
def waiting (b : Bus) (number : UInt8 → Option Nat) (u : UInt8) : List Inbound :=
  match number u with
  | none => []
  | some n => b.queues[n]?.getD []

/-- Each id that has a number was attached once, and has a queue of its own. -/
structure Holds (b : Bus) (number : UInt8 → Option Nat) : Prop where
  listeners (u : UInt8) : b.listeners[u]?=number u
  queued {u : UInt8} {n : Nat} : number u=some n → ∃ q,b.queues[n]?=some q
  old {u : UInt8} {n : Nat} : number u=some n → n<b.attached
  inj {u v : UInt8} {n : Nat} : number u=some n → number v=some n → u=v

theorem holds_empty : Bus.Holds {} fun _ => none :=
  ⟨fun _ => Std.TreeMap.getElem?_emptyc,nofun,nofun,nofun⟩

theorem Holds.attach (h : b.Holds number) (u : UInt8) (addressing : Addressing) :
    (b.attach u addressing).1.Holds fun v => if v=u then some b.attached else number v where
  listeners v := by
    simp only [Bus.attach,Std.TreeMap.getElem?_insert,h.listeners]
    by_cases e : v=u
    · simp [e]
    · have : u≠v := fun k => e k.symm
      simp [e,this]
  queued {v n} hv := by
    simp only [Bus.attach,Std.TreeMap.getElem?_insert]
    split_ifs at hv with e
    · exact ⟨[],by simp [Option.some.inj hv]⟩
    · have : b.attached≠n := Nat.ne_of_gt (h.old hv)
      obtain ⟨q,hq⟩ := h.queued hv
      exact ⟨q,by simp [this,hq]⟩
  old {v n} hv := by
    simp only [Bus.attach]
    split_ifs at hv with e
    · rw [←Option.some.inj hv]
      exact Nat.lt_succ_self _
    · exact Nat.lt_succ_of_lt (h.old hv)
  inj {v w n} hv hw := by
    split_ifs at hv hw with e e' e'
    · rw [e,e']
    · rw [←Option.some.inj hv] at hw
      exact absurd (h.old hw) (Nat.lt_irrefl _)
    · rw [←Option.some.inj hw] at hv
      exact absurd (h.old hv) (Nat.lt_irrefl _)
    · exact h.inj hv hw

theorem Holds.waiting_attach (h : b.Holds number) (u : UInt8) (addressing : Addressing)
    (v : UInt8) :
    (b.attach u addressing).1.waiting (fun v => if v=u then some b.attached else number v) v=
      if v=u then [] else b.waiting number v := by
  simp only [waiting,Bus.attach]
  by_cases e : v=u
  · simp [e]
  · rw [if_neg e,if_neg e]
    cases hv : number v with
    | none => rfl
    | some n =>
      have : b.attached≠n := Nat.ne_of_gt (h.old hv)
      simp [Std.TreeMap.getElem?_insert,this]

theorem Holds.listener? (h : b.Holds number) (u : UInt8) : b.listener? u=number u := by
  rw [Bus.listener?,h.listeners]
  cases hu : number u with
  | none => rfl
  | some n =>
    obtain ⟨q,hq⟩ := h.queued hu
    have : b.queues.contains n=true := by
      rw [←Std.TreeMap.isSome_getElem?_eq_contains,hq]
      rfl
    simp [Option.filter,this]

theorem getElem?_put (b : Bus) (n k : Nat) (i : Inbound) :
    (b.put n i).queues[k]?=if k=n then b.queues[k]?.map (·++[i]) else b.queues[k]? := by
  simp only [put,Std.TreeMap.getElem?_modify]
  by_cases e : k=n
  · simp [e]
  · have : n≠k := fun h => e h.symm
    simp [e,this]

/-- Letters put one after the other are appended in all the queues that they are meant for. -/
theorem getElem?_foldl_put (b : Bus) (ns : List Nat) (i : Inbound) (k : Nat) :
    (ns.foldl (·.put · i) b).queues[k]?=
      b.queues[k]?.map (·++List.replicate (ns.count k) i) := by
  induction ns generalizing b with
  | nil => simp
  | cons n ns ih =>
    rw [List.foldl_cons,ih,getElem?_put,List.count_cons]
    by_cases e : k=n
    · subst e
      cases b.queues[k]? with
      | none => simp
      | some q => simp [List.replicate_succ]
    · have : (n==k)=false := by simpa using fun h => e h.symm
      simp [e,this]

theorem Holds.put (h : b.Holds number) (n : Nat) (i : Inbound) : (b.put n i).Holds number :=
  ⟨h.listeners,fun {u k} hu => by
    obtain ⟨q,hq⟩ := h.queued hu
    rw [getElem?_put,hq]
    split_ifs
    · exact ⟨_,rfl⟩
    · exact ⟨_,rfl⟩,h.old,h.inj⟩

theorem Holds.foldl_put (h : b.Holds number) (ns : List Nat) (i : Inbound) :
    (ns.foldl (·.put · i) b).Holds number := by
  induction ns generalizing b with
  | nil => exact h
  | cons n ns ih => exact ih (h.put n i)

theorem Holds.waiting_put (h : b.Holds number) (hu : number u=some n) (v : UInt8) (i : Inbound) :
    (b.put n i).waiting number v=b.waiting number v++if v=u then [i] else [] := by
  unfold waiting
  cases hv : number v with
  | none =>
    have : v≠u := by
      rintro rfl
      rw [hv] at hu
      cases hu
    simp [this]
  | some k =>
    dsimp only
    rw [getElem?_put]
    by_cases e : v=u
    · subst e
      obtain rfl := Option.some.inj (hv.symm.trans hu)
      obtain ⟨q,hq⟩ := h.queued hu
      simp [hq]
    · have : k≠n := by
        rintro rfl
        exact e (h.inj hv hu)
      simp [e,this]

/-- The queues that a broadcast goes to. -/
def hearers (b : Bus) (source : UInt8) : List Nat :=
  (b.listeners.keys.filter (·≠source)).filterMap b.listener?

theorem Holds.mem_hearers (h : b.Holds number) (source : UInt8) :
    n∈b.hearers source ↔ ∃ u,u≠source ∧ number u=some n := by
  simp only [hearers,List.mem_filterMap,List.mem_filter,Std.TreeMap.mem_keys,decide_eq_true_eq,
    h.listener?]
  constructor
  · rintro ⟨u,⟨_,hne⟩,hu⟩
    exact ⟨u,hne,hu⟩
  · rintro ⟨u,hne,hu⟩
    refine ⟨u,⟨?_,hne⟩,hu⟩
    rw [Std.TreeMap.mem_iff_isSome_getElem?,h.listeners,hu]
    rfl

theorem Holds.nodup_hearers (h : b.Holds number) (source : UInt8) : (b.hearers source).Nodup := by
  refine (Std.TreeMap.nodup_keys.filter _).filterMap fun u v n hu hv => ?_
  rw [h.listener?] at hu hv
  exact h.inj hu hv

/-- A broadcast comes once to every id but the sender's. -/
theorem Holds.waiting_broadcast (h : b.Holds number) (source v : UInt8) (i : Inbound) :
    ((b.hearers source).foldl (·.put · i) b).waiting number v=
      b.waiting number v++if v≠source ∧ (number v).isSome=true then [i] else [] := by
  unfold waiting
  cases hv : number v with
  | none => simp
  | some n =>
    obtain ⟨q,hq⟩ := h.queued hv
    have hmem : n∈b.hearers source ↔ v≠source := by
      rw [h.mem_hearers]
      constructor
      · rintro ⟨u,hne,hu⟩
        rwa [←h.inj hu hv]
      · exact fun hne => ⟨v,hne,hv⟩
    dsimp only
    rw [getElem?_foldl_put,hq,(h.nodup_hearers source).count]
    by_cases e : v=source
    · simp [hmem,e]
    · simp [hmem,e]

theorem waiting_insert (b : Bus) (hinj : ∀ {v n},number u=some n → number v=some n → u=v)
    (hu : number u=some n) (q : List Inbound) (v : UInt8) :
    Bus.waiting {b with queues:=b.queues.insert n q} number v=
      if v=u then q else b.waiting number v := by
  unfold waiting
  cases hv : number v with
  | none =>
    have : v≠u := by
      rintro rfl
      rw [hv] at hu
      cases hu
    simp [this]
  | some k =>
    simp only [Std.TreeMap.getElem?_insert]
    by_cases e : v=u
    · subst e
      simp [Option.some.inj (hv.symm.trans hu)]
    · have : n≠k := by
        rintro rfl
        exact e (hinj hu hv).symm
      simp [e,this]

theorem Holds.collect (h : b.Holds number) {t : Transceiver} (hu : number u=some t.number) :
    (b.collect t).1.Holds number ∧ (b.collect t).2=(b.waiting number u).head? ∧
    ∀ v,(b.collect t).1.waiting number v=
      if v=u then (b.waiting number u).tail else b.waiting number v := by
  obtain ⟨q,hq⟩ := h.queued hu
  have hw : b.waiting number u=q := by
    simp [waiting,hu,hq]
  rw [hw]
  cases q with
  | nil =>
    have hc : b.collect t=(b,none) := by simp only [Bus.collect,hq]
    rw [hc]
    refine ⟨h,rfl,fun v => ?_⟩
    split_ifs with e
    · rw [e,hw]
      rfl
    · rfl
  | cons i q =>
    have hc : b.collect t=({b with queues:=b.queues.insert t.number q},some i) := by
      simp only [Bus.collect,hq]
    rw [hc]
    refine ⟨⟨h.listeners,fun {v n} hv => ?_,h.old,h.inj⟩,rfl,
      waiting_insert b h.inj hu q⟩
    obtain ⟨r,hr⟩ := h.queued hv
    simp only [Std.TreeMap.getElem?_insert]
    split_ifs
    · exact ⟨_,rfl⟩
    · exact ⟨r,hr⟩

end Bus

end Watering
