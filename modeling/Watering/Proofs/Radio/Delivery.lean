import Mathlib.Data.List.Chain
import Watering.Proofs.Radio.Air

namespace Watering.Air

/-- What can be seen along a run, act by act. -/
def trace {β : Type} (see : Air → Act → List β) (a : Air) : List Act → List β
  | [] => []
  | x::xs => see a x++trace see (a.step x) xs

/-- Where a unit's frame goes and what becomes of it. -/
def sending? (a : Air) (source : UInt8) (target : Destination) : Option (Destination×Fate) :=
  (a.links source).map fun l =>
    let d := (l.withCarrier (l.carrier,a.bus)).heading target
    (d,l.carrier.fate a.number d)

/-- The frames of `s` that come to `d`: those sent to `d` alone, and those sent to everyone. -/
def carried (s d : UInt8) (a : Air) : Act → List (List UInt8)
  | .send source target frame =>
    match a.sending? source target with
    | some (heading,fate) =>
      if source=s ∧ fate=.carried ∧ heading.reaches s d=true ∧ (a.links d).isSome=true then [frame]
      else []
    | none => []
  | _ => []

/-- Whether frames of `s` for `d` alone get lost, for each that the carrier takes. -/
def losses (s d : UInt8) (a : Air) : Act → List Bool
  | .send source target _ =>
    match a.sending? source target with
    | some (.unit id,.lost) => if source=s ∧ id=d then [true] else []
    | some (.unit id,.carried) => if source=s ∧ id=d then [false] else []
    | _ => []
  | _ => []

/-- The frames of `s` that `d` takes in. -/
def yielded (s d : UInt8) (a : Air) : Act → List (List UInt8)
  | .receive unit =>
    if unit=d then
      (((a.act unit (·.receive)).2.join.filter (·.source==s)).map (·.frame)).toList
    else []
  | _ => []

/-- The letters of `s` among things that wait, each with its number if it has one. -/
def lettersOf (s : UInt8) (q : List Inbound) : List (Option UInt8×List UInt8) :=
  q.filterMap fun i => ((Link.letter? i).filter (·.2.1==s)).map fun (n,_,frame) => (n,frame)

/-- The frames of `s` that wait for `d`. -/
def waiting (s d : UInt8) (a : Air) : List (List UInt8) :=
  (lettersOf s (a.bus.waiting a.number d)).map (·.2)

variable {k : Addressing} {number : UInt8 → Option Nat} {a : Air} {u v s d : UInt8}
  {l : Link Transceiver}

/-- The numbers of what waits, oldest first. -/
def numbers (s : UInt8) (q : List Inbound) : List UInt8 := (lettersOf s q).filterMap (·.1)

/-- No number follows itself, and the next to be given out is not the last, unless more than 253
were lost since. -/
structure Ordered (outbound last : UInt8) (losses : Nat) (nums : List UInt8) : Prop where
  chain : (last::nums).IsChain (·≠·)
  next : nums.getLastD last=unseen ∨
    outbound.toNat=((nums.getLastD last).toNat+1+losses)%255

namespace Ordered

variable {outbound last n : UInt8} {losses : Nat} {nums : List UInt8}

theorem lose (h : Ordered outbound last losses nums) (hn : outbound.toNat<255) :
    Ordered (nextSequence outbound) last (losses+1) nums where
  chain := h.chain
  next := by
    obtain hu | he := h.next
    · exact Or.inl hu
    · refine Or.inr ?_
      rw [nextSequence_toNat hn]
      omega

/-- A number that is carried differs from the one before it. -/
theorem carry (h : Ordered outbound last losses nums) (hn : outbound.toNat<255)
    (few : losses<254) : Ordered (nextSequence outbound) last 0 (nums++[outbound]) where
  chain := by
    rw [←List.cons_append]
    refine h.chain.append (List.isChain_singleton _) ?_
    intro x hx y hy e
    obtain rfl : y=outbound := by simpa using hy.symm
    rw [List.getLast?_cons] at hx
    have hl : nums.getLastD last=x := by simpa using hx
    obtain hu | he := h.next
    · rw [hl,e] at hu
      rw [hu] at hn
      exact absurd hn (by decide)
    · rw [hl,e] at he
      omega
  next := by
    refine Or.inr ?_
    rw [nextSequence_toNat hn,List.getLastD_concat]

/-- The first number that waits is not the last that was seen. -/
theorem take (h : Ordered outbound last losses (n::nums)) :
    last≠n ∧ Ordered outbound n losses nums := by
  have hc := List.isChain_cons_cons.mp h.chain
  refine ⟨hc.1,hc.2,?_⟩
  have := h.next
  rwa [List.getLastD_cons] at this

end Ordered

/-- The numbers from `s` to `d` are in order, with so many losses since the last. -/
def InOrder (number : UInt8 → Option Nat) (s d : UInt8) (losses : Nat) (a : Air) : Prop :=
  ∀ ls ld,a.links s=some ls → a.links d=some ld →
    Ordered (ls.outbound.get d) (ld.lastSeen.get s) losses (numbers s (a.bus.waiting number d))

/-- How many in a row are lost, after some were lost before. -/
def tally (m : Nat) (ls : List Bool) : Nat := ls.foldl (fun m lost => if lost then m+1 else 0) m

theorem lettersOf_append (s : UInt8) (p q : List Inbound) :
    lettersOf s (p++q)=lettersOf s p++lettersOf s q := List.filterMap_append

theorem lettersOf_cons {i : Inbound} {m : Option UInt8} {frame : List UInt8}
    (h : Link.letter? i=some (m,v,frame)) (s : UInt8) (q : List Inbound) :
    lettersOf s (i::q)=(if v=s then [(m,frame)] else [])++lettersOf s q := by
  unfold lettersOf
  rw [List.filterMap_cons,h]
  by_cases e : v=s <;> simp [e,Option.filter]

theorem lettersOf_unread {i : Inbound} (h : Link.letter? i=none) (s : UInt8) (q : List Inbound) :
    lettersOf s (i::q)=lettersOf s q := by
  unfold lettersOf
  rw [List.filterMap_cons,h]
  rfl

section Send

variable {target : Destination} {frame : List UInt8}

theorem sending?_eq (h : a.Sound k number) (hl : a.links u=some l) (target : Destination) :
    a.sending? u target=
      some ((a.onBus l).heading target,l.carrier.fate number ((a.onBus l).heading target)) := by
  unfold sending?
  rw [hl,h.number_fun]
  rfl

/-- A frame of `u` comes to `d`. -/
def Comes (number : UInt8 → Option Nat) (l : Link Transceiver) (e : Destination) (u d : UInt8) :
    Prop := l.carrier.fate number e=.carried ∧ e.reaches u d=true ∧ (number d).isSome=true

instance (l : Link Transceiver) (e : Destination) : Decidable (Comes number l e u d) :=
  inferInstanceAs (Decidable (_ ∧ _))

theorem lettersOf_send (h : a.Sound k number) (hl : a.links u=some l)
    (hf : Frame.peekSource frame=some u) (s d : UInt8) :
    let e := (a.onBus l).heading target
    lettersOf s ((a.put u ((a.onBus l).send target frame).1).bus.waiting number d)=
      lettersOf s (a.bus.waiting number d)++
        if u=s ∧ Comes number l e u d then [((a.onBus l).stamp e,frame)] else [] := by
  intro e
  obtain ⟨sent,_⟩ := Link.send_sent (l:=a.onBus l) h.holds (h.knows hl) target frame
  have hw : ((a.onBus l).send target frame).1.carrier.2.waiting number d=
      a.bus.waiting number d++if Comes number l e u d then
        [⟨(a.onBus l).numbered frame e,l.carrier.address,0,
          e.address l.carrier.addressing=.broadcast⟩] else [] := by
    rw [sent.waiting d,show (a.onBus l).carrier.1.id=u from (h.own hl).1]
    rfl
  have hletter := Link.letter?_numbered (a.onBus l) e l.carrier.addressing l.carrier.address hf
  refine (congrArg (lettersOf s) hw).trans ?_
  rw [lettersOf_append]
  congr 1
  by_cases hc : Comes number l e u d
  · rw [if_pos hc,lettersOf_cons hletter]
    by_cases es : u=s
    · rw [if_pos es,if_pos ⟨es,hc⟩]
      rfl
    · rw [if_neg es,if_neg fun c => es c.1]
      rfl
  · rw [if_neg hc,if_neg fun c => hc c.2]
    rfl

theorem carried_send (h : a.Sound k number) (hl : a.links u=some l) (s d : UInt8) :
    carried s d a (.send u target frame)=
      if u=s ∧ Comes number l ((a.onBus l).heading target) u d then [frame] else [] := by
  have hd : (a.links d).isSome=(number d).isSome := by
    rw [←h.number_eq d,Option.isSome_map]
  simp only [carried,sending?_eq h hl,hd]
  refine if_congr (and_congr_right fun es => ?_) rfl rfl
  rw [es,Comes]

theorem losses_send (h : a.Sound k number) (hl : a.links u=some l) (s d : UInt8) :
    losses s d a (.send u target frame)=
      if u=s ∧ (a.onBus l).heading target=.unit d then
        match l.carrier.fate number (.unit d) with
        | .refused => []
        | .lost => [true]
        | .carried => [false]
      else [] := by
  simp only [losses,sending?_eq h hl]
  cases (a.onBus l).heading target with
  | everyone => cases l.carrier.fate number .everyone <;> simp
  | unit id =>
    by_cases e : id=d
    · subst e
      cases l.carrier.fate number (.unit id) <;> simp
    · cases l.carrier.fate number (.unit id) <;> simp [e]

theorem waiting_send (h : a.Sound k number) (hl : a.links u=some l) (target : Destination)
    (hf : Frame.peekSource frame=some u) (s d : UInt8) :
    (a.step (.send u target frame)).waiting s d=
      a.waiting s d++carried s d a (.send u target frame) := by
  rw [carried_send h hl,step,act_eq hl,waiting,(h.send hl target hf).number_fun,
    lettersOf_send h hl hf,List.map_append,waiting,h.number_fun]
  congr 1
  split_ifs <;> rfl

theorem InOrder.send (h : a.Sound k number) {m : Nat} (o : InOrder number s d m a) (few : m<254)
    (hl : a.links u=some l) (target : Destination) (hf : Frame.peekSource frame=some u) :
    InOrder number s d (tally m (losses s d a (.send u target frame)))
      (a.step (.send u target frame)) := by
  have hn : (l.outbound.get d).toNat<255 := (h.own hl).2.2.counter d
  obtain ⟨sent,_⟩ := Link.send_sent (l:=a.onBus l) h.holds (h.knows hl) target frame
  rw [losses_send h hl,step,act_eq hl]
  intro ls' ld' hs' hd'
  -- The receiver's memory stays, and so does every counter but that of the sender for `d`.
  obtain ⟨ld,hd,hseen⟩ : ∃ ld,a.links d=some ld ∧ ld'.lastSeen=ld.lastSeen := by
    obtain ⟨rfl,rfl⟩ | ⟨_,hd⟩ := link_of_put hd'
    · exact ⟨l,hl,sent.lastSeen⟩
    · exact ⟨ld',hd,rfl⟩
  have hdn : (number d).isSome=true := by simp [h.number_of hd]
  rw [numbers,lettersOf_send h hl hf,List.filterMap_append,hseen]
  by_cases es : u=s
  · subst es
    have hs := o l ld hl hd
    rw [links_put,if_pos rfl] at hs'
    have hout := sent.outbound d
    rw [show ((a.onBus l).send target frame).1.outbound=ls'.outbound by
      rw [←Option.some.inj hs']
      rfl] at hout
    rw [hout]
    by_cases he : (a.onBus l).heading target=.unit d
    · have hcomes : Comes number l (.unit d) u d ↔ l.carrier.fate number (.unit d)=.carried :=
        and_iff_left ⟨beq_self_eq_true d,hdn⟩
      change Ordered (if l.carrier.fate number _≠.refused ∧ _ then _ else _) _ _ _
      simp only [he,hcomes,true_and,and_true,if_true]
      cases hfate : l.carrier.fate number (.unit d) with
      | refused => simpa [tally,numbers] using hs
      | lost => simpa [tally,numbers] using hs.lose hn
      | carried => simpa [tally,numbers,Link.stamp] using hs.carry hn few
    · have hnone : (if u=u ∧ Comes number l ((a.onBus l).heading target) u d then
          [((a.onBus l).stamp ((a.onBus l).heading target),frame)] else []).filterMap (·.1)=[] := by
        cases hh : (a.onBus l).heading target with
        | everyone => split_ifs <;> rfl
        | unit v =>
          have hv : v≠d := fun e => he (by rw [hh,e])
          have : ¬Comes number l (.unit v) u d := by
            rintro ⟨_,hr,_⟩
            exact hv (by simpa [Destination.reaches] using hr : d=v).symm
          rw [if_neg fun c => this c.2]
          rfl
      rw [hnone,List.append_nil,if_neg fun c => he c.2,if_neg fun c => he c.2]
      exact hs
  · rw [if_neg fun c => es c.1,if_neg fun c => es c.1,List.filterMap_nil,List.append_nil]
    have hs : a.links s=some ls' := by
      rwa [links_put,if_neg fun e => es e.symm] at hs'
    exact o ls' ld hs hd

end Send

/-- What a link makes of the next letter, as far as `s` is concerned: it lets through a letter of
`s` whose number is not the one last seen, and takes no other for one of `s`. -/
theorem accept_cases {σ : Type} (l : Link σ) (i : Inbound) (s : UInt8) (q : List Inbound)
    (fresh : ∀ n frame,Link.letter? i=some (some n,s,frame) → l.lastSeen.get s≠n) :
    (((l.accept i).2.filter (·.source==s)).map (·.frame)).toList++(lettersOf s q).map (·.2)=
      (lettersOf s (i::q)).map (·.2) ∧
    (numbers s (i::q)=numbers s q ∧ (l.accept i).1.lastSeen.get s=l.lastSeen.get s ∨
      numbers s (i::q)=(l.accept i).1.lastSeen.get s::numbers s q) := by
  have learned (v : UInt8) (dup : Bool) :
      ((l.learn v i.sender).note v i.rssi dup).lastSeen=l.lastSeen := Link.lastSeen_learn ..
  cases hl : Link.letter? i with
  | none =>
    rw [Link.accept_unread hl,numbers,lettersOf_unread hl]
    exact ⟨rfl,Or.inl ⟨rfl,rfl⟩⟩
  | some x =>
    obtain ⟨n,v,frame⟩ := x
    rw [numbers,lettersOf_cons hl]
    by_cases e : v=s
    · subst e
      rw [if_pos rfl]
      cases n with
      | none =>
        rw [Link.accept_bare hl]
        exact ⟨by simp [Option.filter],Or.inl ⟨rfl,by rw [learned]⟩⟩
      | some n =>
        rw [Link.accept_numbered hl,if_neg (fresh n frame hl)]
        refine ⟨by simp [Option.filter],Or.inr ?_⟩
        change _=(l.lastSeen.set v n).get v::_
        rw [UnitTable.get_set,if_pos rfl]
        rfl
    · rw [if_neg e]
      have hv : (v==s)=false := beq_eq_false_iff_ne.mpr e
      cases n with
      | none =>
        rw [Link.accept_bare hl]
        exact ⟨by simp [Option.filter,hv],Or.inl ⟨rfl,by rw [learned]⟩⟩
      | some n =>
        rw [Link.accept_numbered hl]
        split_ifs
        · exact ⟨rfl,Or.inl ⟨rfl,by rw [learned]⟩⟩
        · refine ⟨by simp [Option.filter,hv],Or.inl ⟨rfl,?_⟩⟩
          change (l.lastSeen.set v n).get s=_
          rw [UnitTable.get_set,if_neg fun k => e k.symm]

/-- What a link takes in, for its part in what waits for it from `s`. -/
theorem receive_cases {l : Link (Transceiver×Bus)} (hb : l.carrier.2.Holds number)
    (hu : number u=some l.carrier.1.number) (s : UInt8)
    (fresh : ∀ i q n frame,l.carrier.2.waiting number u=i::q →
      Link.letter? i=some (some n,s,frame) → l.lastSeen.get s≠n) :
    ((l.receive.2.filter (·.source==s)).map (·.frame)).toList++
        (lettersOf s (l.carrier.2.waiting number u).tail).map (·.2)=
      (lettersOf s (l.carrier.2.waiting number u)).map (·.2) ∧
    (numbers s (l.carrier.2.waiting number u)=numbers s (l.carrier.2.waiting number u).tail ∧
        l.receive.1.lastSeen.get s=l.lastSeen.get s ∨
      numbers s (l.carrier.2.waiting number u)=
        l.receive.1.lastSeen.get s::numbers s (l.carrier.2.waiting number u).tail) := by
  obtain ⟨b,_,_,he⟩ := Link.receive_eq hb hu
  rw [he]
  cases hq : l.carrier.2.waiting number u with
  | nil => exact ⟨rfl,Or.inl ⟨rfl,rfl⟩⟩
  | cons i q =>
    exact accept_cases {l with carrier:=(l.carrier.1,b)} i s q fun n frame =>
      fresh i q n frame hq

/-- Who receives gives out no numbers. -/
theorem outbound_of_receive (h : a.Sound k number) (hl : a.links u=some l) {ls' : Link Transceiver}
    (hs : (a.put u (a.onBus l).receive.1).links s=some ls') :
    ∃ ls,a.links s=some ls ∧ ls'.outbound=ls.outbound := by
  have got := Link.receive_received (l:=a.onBus l) h.holds (h.number_of hl)
  obtain ⟨rfl,rfl⟩ | ⟨_,hs⟩ := link_of_put hs
  · exact ⟨l,hl,got.outbound⟩
  · exact ⟨ls',hs,rfl⟩

theorem receive_elsewhere (h : a.Sound k number) {m : Nat} (o : InOrder number s d m a)
    (hl : a.links u=some l) (hne : d≠u) :
    (a.step (.receive u)).waiting s d=a.waiting s d ∧
    InOrder number s d m (a.step (.receive u)) := by
  have got := Link.receive_received (l:=a.onBus l) h.holds (h.number_of hl)
  have same : (a.put u (a.onBus l).receive.1).bus.waiting number d=a.bus.waiting number d :=
    (got.waiting d).trans (if_neg hne)
  rw [step,act_eq hl,waiting,waiting,(h.receive hl).number_fun,h.number_fun,same]
  refine ⟨rfl,?_⟩
  intro ls' ld' hs hd
  obtain ⟨ls,hs',ho⟩ := outbound_of_receive h hl hs
  obtain ⟨e,_⟩ | ⟨_,hd⟩ := link_of_put hd
  · exact absurd e hne
  · rw [same,ho]
    exact o ls ld' hs' hd

theorem receive_here (h : a.Sound k number) {m : Nat} (o : InOrder number s u m a)
    (hl : a.links u=some l) :
    yielded s u a (.receive u)++(a.step (.receive u)).waiting s u=a.waiting s u ∧
    InOrder number s u m (a.step (.receive u)) := by
  have got := Link.receive_received (l:=a.onBus l) h.holds (h.number_of hl)
  have left : (a.put u (a.onBus l).receive.1).bus.waiting number u=
      (a.bus.waiting number u).tail := (got.waiting u).trans (if_pos rfl)
  have hy : yielded s u a (.receive u)=
      (((a.onBus l).receive.2.filter (·.source==s)).map (·.frame)).toList := by
    rw [yielded,if_pos rfl,act_eq hl]
    rfl
  obtain ⟨hframes,hnums⟩ := receive_cases (l:=a.onBus l) h.holds (h.number_of hl) s (by
    intro i q n frame hq hn
    change a.bus.waiting number u=i::q at hq
    obtain ⟨ls,hs⟩ : ∃ ls,a.links s=some ls := by
      have := (h.letters (by rw [hq]; exact List.mem_cons_self) hn).1
      rwa [←h.number_eq,Option.isSome_map,Option.isSome_iff_exists] at this
    have ho := o ls l hs hl
    rw [hq,numbers,lettersOf_cons hn,if_pos rfl] at ho
    exact (show Ordered _ _ _ (n::numbers s q) from ho).take.1)
  rw [hy,step,act_eq hl,waiting,waiting,(h.receive hl).number_fun,h.number_fun,left]
  refine ⟨hframes,?_⟩
  intro ls' ld' hs hd
  obtain ⟨ls,hs',hout⟩ := outbound_of_receive h hl hs
  have ho := o ls l hs' hl
  obtain ⟨_,rfl⟩ | ⟨e,_⟩ := link_of_put hd
  · rw [left,hout]
    obtain ⟨hn,hlast⟩ | hn := hnums
    · rw [show numbers s (a.bus.waiting number u)=_ from hn] at ho
      change Ordered _ ((a.onBus l).receive.1.lastSeen.get s) _ _
      rw [hlast]
      exact ho
    · rw [show numbers s (a.bus.waiting number u)=_ from hn] at ho
      exact ho.take.2
  · exact absurd rfl e

theorem receive_step (h : a.Sound k number) {m : Nat} (o : InOrder number s d m a)
    (hl : a.links u=some l) :
    yielded s d a (.receive u)++(a.step (.receive u)).waiting s d=a.waiting s d ∧
    InOrder number s d m (a.step (.receive u)) := by
  by_cases e : u=d
  · subst e
    exact receive_here h o hl
  · rw [yielded,if_neg e,List.nil_append]
    exact receive_elsewhere h o hl fun k => e k.symm

theorem modify_step (h : a.Sound k number) {m : Nat} (o : InOrder number s d m a)
    (f : Transceiver → Transceiver)
    (hf : ∀ t,(f t).number=t.number ∧ (f t).id=t.id ∧ (f t).addressing=t.addressing) :
    (a.modify u f).waiting s d=a.waiting s d ∧ InOrder number s d m (a.modify u f) := by
  have kept {v : UInt8} {l' : Link Transceiver} (hv : (a.modify u f).links v=some l') :
      ∃ l,a.links v=some l ∧ l'.outbound=l.outbound ∧ l'.lastSeen=l.lastSeen := by
    change (if v=u then (a.links v).map _ else a.links v)=some l' at hv
    split_ifs at hv
    · obtain ⟨l,hl,rfl⟩ := Option.map_eq_some_iff.mp hv
      exact ⟨l,hl,rfl,rfl⟩
    · exact ⟨l',hv,rfl,rfl⟩
  refine ⟨by rw [waiting,(h.modify f hf).number_fun,waiting,h.number_fun]; rfl,?_⟩
  intro ls' ld' hs hd
  obtain ⟨ls,hs',ho,_⟩ := kept hs
  obtain ⟨ld,hd',_,hl⟩ := kept hd
  rw [ho,hl]
  exact o ls ld hs' hd'

/-- What is yielded leaves what waits, what is carried joins it, and the numbers stay in order. -/
theorem in_order_step (h : a.Sound k number) {m : Nat} (o : InOrder number s d m a) (few : m<254)
    {x : Act} (hx : Honest x) :
    yielded s d a x++(a.step x).waiting s d=a.waiting s d++carried s d a x ∧
    InOrder number s d (tally m (losses s d a x)) (a.step x) := by
  cases x with
  | send source target frame =>
    cases hl : a.links source with
    | none =>
      have hs : a.sending? source target=none := by rw [sending?,hl]; rfl
      rw [step,act_none hl,carried,hs,losses,hs,List.append_nil]
      exact ⟨rfl,o⟩
    | some l => exact ⟨waiting_send h hl _ hx s d,o.send h few hl _ hx⟩
  | receive unit =>
    cases hl : a.links unit with
    | none =>
      have hy : yielded s d a (.receive unit)=[] := by
        rw [yielded,act_none hl]
        split_ifs <;> rfl
      rw [step,hy,act_none hl,show carried s d a (.receive unit)=[] from rfl,List.append_nil]
      exact ⟨rfl,o⟩
    | some l =>
      rw [show carried s d a (.receive unit)=[] from rfl,List.append_nil]
      exact receive_step h o hl
  | setLink unit up =>
    rw [show carried s d a (.setLink unit up)=[] from rfl,List.append_nil]
    exact modify_step h o (fun t => {t with linkUp:=up}) fun _ => ⟨rfl,rfl,rfl⟩
  | setLoss unit count =>
    rw [show carried s d a (.setLoss unit count)=[] from rfl,List.append_nil]
    exact modify_step h o (fun t => {t with loseNext:=count}) fun _ => ⟨rfl,rfl,rfl⟩

theorem suffix_tally (m : Nat) (ls : List Bool) :
    List.replicate (tally m ls) true<:+List.replicate m true++ls := by
  induction ls generalizing m with
  | nil =>
    rw [List.append_nil]
    exact List.suffix_refl _
  | cons lost ls ih =>
    cases lost with
    | true =>
      have := ih (m+1)
      rwa [List.replicate_succ',List.append_assoc] at this
    | false =>
      refine (ih 0).trans ?_
      exact ⟨List.replicate m true++[false],by simp⟩

theorem in_order_run (h : a.Sound k number) {m : Nat} (o : InOrder number s d m a)
    {acts : List Act} (honest : ∀ x∈acts,Honest x)
    (few : ¬List.replicate 254 true<:+:List.replicate m true++a.trace (losses s d) acts) :
    a.trace (yielded s d) acts++(a.run acts).waiting s d=
      a.waiting s d++a.trace (carried s d) acts := by
  induction acts generalizing a m with
  | nil => simp [trace,run]
  | cons x xs ih =>
    have hm : m<254 := by
      by_contra hm
      have hsplit : List.replicate m true=
          List.replicate 254 true++List.replicate (m-254) true := by
        rw [List.replicate_append_replicate,Nat.add_sub_cancel' (Nat.le_of_not_lt hm)]
      apply few
      rw [hsplit,List.append_assoc]
      exact (List.prefix_append _ _).isInfix
    have hx : Honest x := honest x List.mem_cons_self
    obtain ⟨hframes,hnext⟩ := in_order_step h o hm hx
    have hrest := ih (h.step hx) hnext (fun y hy => honest y (List.mem_cons_of_mem _ hy)) (by
      intro hin
      apply few
      rw [trace,←List.append_assoc]
      obtain ⟨t,ht⟩ := suffix_tally m (losses s d a x)
      rw [←ht,List.append_assoc]
      exact hin.trans (List.suffix_append _ _).isInfix)
    calc a.trace (yielded s d) (x::xs)++(a.run (x::xs)).waiting s d
        =yielded s d a x++((a.step x).trace (yielded s d) xs++
          ((a.step x).run xs).waiting s d) := List.append_assoc ..
      _=(yielded s d a x++(a.step x).waiting s d)++(a.step x).trace (carried s d) xs := by
        rw [hrest,List.append_assoc]
      _=a.waiting s d++a.trace (carried s d) (x::xs) := by
        rw [hframes,trace,List.append_assoc]

/-- How many things wait for `d`. -/
def pending (d : UInt8) (a : Air) : Nat := (a.bus.waiting a.number d).length

/-- A unit that receives takes one thing off what waits for it. -/
theorem pending_receive (h : a.Sound k number) (d : UInt8) :
    (a.step (.receive d)).pending d=a.pending d-1 := by
  cases hl : a.links d with
  | none =>
    have absent : a.bus.waiting a.number d=[] := by
      rw [Bus.waiting,Air.number,hl]
      rfl
    rw [step,act_none hl,pending,absent]
    rfl
  | some l =>
    have got := Link.receive_received (l:=a.onBus l) h.holds (h.number_of hl)
    have taken : (a.put d (a.onBus l).receive.1).bus.waiting number d=
        (a.bus.waiting number d).tail := (got.waiting d).trans (if_pos rfl)
    rw [step,act_eq hl,pending,(h.receive hl).number_fun,taken,List.length_tail,pending,h.number_fun]

theorem pending_receives (h : a.Sound k number) (d : UInt8) (n : Nat) :
    (a.run (List.replicate n (.receive d))).pending d=a.pending d-n := by
  induction n generalizing a with
  | zero => rfl
  | succ n ih =>
    rw [List.replicate_succ]
    refine (ih (h.step (x:=.receive d) trivial)).trans ?_
    rw [pending_receive h]
    omega

theorem waiting_eq_nil (s : UInt8) (h : a.pending d=0) : a.waiting s d=[] := by
  rw [waiting,List.length_eq_zero_iff.mp h]
  rfl

theorem Sound.run (h : a.Sound k number) {acts : List Act} (honest : ∀ x∈acts,Honest x) :
    (a.run acts).Sound k number := by
  induction acts generalizing a with
  | nil => exact h
  | cons x xs ih =>
    obtain ⟨hx,hxs⟩ := List.forall_mem_cons.mp honest
    exact ih (h.step hx) hxs

section Trace

variable {β : Type} (see : Air → Act → List β)

theorem trace_append (a : Air) (xs ys : List Act) :
    a.trace see (xs++ys)=a.trace see xs++(a.run xs).trace see ys := by
  induction xs generalizing a with
  | nil => rfl
  | cons x xs ih =>
    rw [List.cons_append,trace,ih,trace,List.append_assoc]
    rfl

/-- Nothing is seen of acts of one kind if nothing is to be seen of any of them. -/
theorem trace_replicate {x : Act} (silent : ∀ a,see a x=[]) (a : Air) (n : Nat) :
    a.trace see (List.replicate n x)=[] := by
  induction n generalizing a with
  | zero => rfl
  | succ n ih => rw [List.replicate_succ,trace,silent,ih,List.append_nil]

end Trace

/-- Whatever units send and receive, in any order, with sends refused or lost on the way: as long as
no 254 frames from `s` for `d` alone are lost in a row, what `d` takes in from `s`, followed by what
still waits for it, is what the bus carried from `s` to `d`, in order and each frame once. Each time that
`d` receives, it takes one thing off what waits; when it has received as often as things wait for it, it
has taken in from `s` all that the bus carried. -/
theorem delivered_once_in_order (k : Addressing) (units : List UInt8) {acts : List Act}
    (honest : ∀ x∈acts,Honest x) {s d : UInt8}
    (few : ¬List.replicate 254 true<:+:(ofUnits k units).trace (losses s d) acts) :
    let a := ofUnits k units
    a.trace (yielded s d) acts++(a.run acts).waiting s d=a.trace (carried s d) acts ∧
    ((a.run acts).step (.receive d)).pending d=(a.run acts).pending d-1 ∧
    ∀ n,(a.run acts).pending d≤ n →
      let received := acts++List.replicate n (.receive d)
      (a.run received).waiting s d=[] ∧
      a.trace (yielded s d) received=a.trace (carried s d) acts := by
  intro a
  obtain ⟨number,hs,hw,hl⟩ := ofUnits_fresh k units
  have hempty : a.waiting s d=[] := by
    rw [waiting,hs.number_fun,hw]
    rfl
  have order : InOrder number s d 0 a := by
    intro ls ld _ hd
    rw [hw,hl d ld hd]
    exact ⟨List.isChain_singleton _,Or.inl rfl⟩
  have total {acts : List Act} (honest : ∀ x∈acts,Honest x)
      (few : ¬List.replicate 254 true<:+:a.trace (losses s d) acts) :
      a.trace (yielded s d) acts++(a.run acts).waiting s d=a.trace (carried s d) acts := by
    have h := in_order_run hs order honest few
    rwa [hempty] at h
  have sound : (a.run acts).Sound k number := hs.run honest
  refine ⟨total honest few,pending_receive sound d,?_⟩
  intro n enough received
  have drained : (a.run received).waiting s d=[] := by
    apply waiting_eq_nil
    rw [run,List.foldl_append]
    refine (pending_receives sound d n).trans ?_
    omega
  have honest' : ∀ x∈received,Honest x := by
    refine List.forall_mem_append.mpr ⟨honest,fun x hx => ?_⟩
    rw [List.eq_of_mem_replicate hx]
    trivial
  have lost : a.trace (losses s d) received=a.trace (losses s d) acts := by
    rw [trace_append,trace_replicate _ fun _ => rfl,List.append_nil]
  have brought : a.trace (carried s d) received=a.trace (carried s d) acts := by
    rw [trace_append,trace_replicate _ fun _ => rfl,List.append_nil]
  have all := total honest' (by rwa [lost])
  rw [drained,List.append_nil,brought] at all
  exact ⟨drained,all⟩

/-- A frame whose header names its source, with a note of four octets. -/
def hello (source target n : UInt8) : List UInt8 := [protocolId,0,target,source,52,4,n,0,0,0]

/-- Unit 1 calls, learns where unit 2 is from its answer, and then has one frame lost and one
refused; another waits. -/
def calls : List Act :=
  [.send 1 (.unit 2) (hello 1 2 1),.receive 2,.send 2 (.unit 1) (hello 2 1 2),.receive 1,
    .setLoss 1 1,.send 1 (.unit 2) (hello 1 2 3),.send 1 (.unit 2) (hello 1 2 4),.setLink 1 false,
    .send 1 (.unit 2) (hello 1 2 5)]

/-- When unit 2 receives again, it has both calls that were carried. -/
theorem delivered_once_in_order_calls :
    let a := ofUnits .long [1,2]
    a.trace (yielded 1 2) calls++(a.run calls).waiting 1 2=[hello 1 2 1,hello 1 2 4] ∧
    (a.run calls).pending 2=1 ∧
    a.trace (yielded 1 2) (calls++[.receive 2])=[hello 1 2 1,hello 1 2 4] := by
  have honest : ∀ x∈calls,Honest x := by decide
  have few : ¬List.replicate 254 true<:+:(ofUnits .long [1,2]).trace (losses 1 2) calls := by
    rw [show (ofUnits .long [1,2]).trace (losses 1 2) calls=[true,false] by decide +kernel]
    intro h
    exact absurd h.length_le (by rw [List.length_replicate]; decide)
  have brought : (ofUnits .long [1,2]).trace (carried 1 2) calls=[hello 1 2 1,hello 1 2 4] := by
    decide +kernel
  have one : ((ofUnits .long [1,2]).run calls).pending 2=1 := by decide +kernel
  obtain ⟨kept,_,drained⟩ := delivered_once_in_order .long [1,2] honest few
  exact ⟨kept.trans brought,one,(drained 1 one.le).2.trans brought⟩

end Watering.Air
