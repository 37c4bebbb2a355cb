import Watering.Proofs.Radio.Bus
import Watering.Radio.Link

namespace Watering

/-- What becomes of something that is sent. -/
inductive Fate where
  | refused
  /-- Taken, but lost on the air. -/
  | lost
  | carried
deriving DecidableEq,Repr

namespace Destination

/-- The address that a carrier knows a destination under. -/
def address (k : Addressing) : Destination → Address
  | everyone => .broadcast
  | unit id => match k with
    | .short => .short id
    | .long => .long (hardwareOf id)

/-- Somebody is there to hear. -/
def isHeard (number : UInt8 → Option Nat) : Destination → Bool
  | everyone => true
  | unit id => (number id).isSome

/-- What a source sends to a destination comes to a unit. -/
def reaches (source v : UInt8) : Destination → Bool
  | everyone => v != source
  | unit id => v==id

end Destination

namespace Bus

variable {b : Bus} {number : UInt8 → Option Nat}

theorem Holds.find_hardware (h : b.Holds number) (id : UInt8) :
    (b.listeners.keys.find? (hardwareOf ·==hardwareOf id)).bind b.listener?=number id := by
  cases hf : b.listeners.keys.find? (hardwareOf ·==hardwareOf id) with
  | none =>
    have := List.find?_eq_none.mp hf id
    rw [Std.TreeMap.mem_keys,Std.TreeMap.mem_iff_isSome_getElem?,h.listeners] at this
    cases hn : number id with
    | none => rfl
    | some n => exact absurd (beq_self_eq_true _) (this (by simp [hn]))
  | some v =>
    have e : v=id := hardwareOf_inj (by simpa using List.find?_some hf)
    rw [Option.bind_some,h.listener?,e]

theorem deliver_short (b : Bus) (source id : UInt8) (i : Inbound) :
    b.deliver source (.short id) i=
      (b.listener? id).elim (b,false) fun n => (b.put n i,true) := by
  simp only [deliver]
  cases b.listener? id <;> rfl

theorem deliver_long (b : Bus) (source : UInt8) (hardware : UInt64) (i : Inbound) :
    b.deliver source (.long hardware) i=
      ((b.listeners.keys.find? (hardwareOf ·==hardware)).bind b.listener?).elim (b,false)
        fun n => (b.put n i,true) := by
  simp only [deliver]
  cases (b.listeners.keys.find? (hardwareOf ·==hardware)).bind b.listener? <;> rfl

/-- A bus appends what it carries to the queues of those that it reaches. -/
theorem Holds.deliver (h : b.Holds number) (source : UInt8) (k : Addressing) (d : Destination)
    (i : Inbound) :
    (b.deliver source (d.address k) i).1.Holds number ∧
    (b.deliver source (d.address k) i).2=d.isHeard number ∧
    ∀ v,(b.deliver source (d.address k) i).1.waiting number v=
      b.waiting number v++if d.reaches source v && (number v).isSome then [i] else [] := by
  cases d with
  | everyone =>
    refine ⟨h.foldl_put (b.hearers source) i,rfl,fun v => ?_⟩
    refine (h.waiting_broadcast source v i).trans ?_
    simp [Destination.reaches]
  | unit id =>
    have hd : b.deliver source (Destination.address k (.unit id)) i=
        (number id).elim (b,false) fun n => (b.put n i,true) := by
      cases k with
      | short => exact (b.deliver_short source id i).trans (by rw [h.listener?])
      | long => exact (b.deliver_long source (hardwareOf id) i).trans (by rw [h.find_hardware])
    rw [hd]
    cases hn : number id with
    | none =>
      refine ⟨h,by simp [Destination.isHeard,hn],fun v => ?_⟩
      by_cases e : v=id
      · simp [e,hn]
      · simp [Destination.reaches,e]
    | some n =>
      refine ⟨h.put n i,by simp [Destination.isHeard,hn],fun v => ?_⟩
      rw [Option.elim_some,h.waiting_put hn]
      by_cases e : v=id
      · simp [Destination.reaches,e,hn]
      · simp [Destination.reaches,e]

end Bus

namespace Transceiver

/-- What becomes of what a transceiver sends to a destination. -/
def fate (t : Transceiver) (number : UInt8 → Option Nat) (d : Destination) : Fate :=
  if !t.linkUp then .refused
  else if 0<t.loseNext then .lost
  else if d.isHeard number then .carried else .refused

/-- The same transceiver, but for what it sent and what it loses next. -/
structure Same (t u : Transceiver) : Prop where
  number : u.number=t.number
  id : u.id=t.id
  addressing : u.addressing=t.addressing
  linkUp : u.linkUp=t.linkUp

section Send

variable {t : Transceiver} {b : Bus} {number : UInt8 → Option Nat} {a : Address}
  {bytes : List UInt8}

theorem send_down (h : t.linkUp=false) : t.send b a bytes=((t,b),false) := by
  simp [send,h]

theorem send_lost (h : t.linkUp=true) (hl : 0<t.loseNext) :
    t.send b a bytes=(({t with loseNext:=t.loseNext-1}.logSent a bytes,b),true) := by
  simp [send,h,hl]

theorem send_up (h : t.linkUp=true) (hl : ¬0<t.loseNext) :
    let r := b.deliver t.id a ⟨bytes,t.address,0,a=.broadcast⟩
    t.send b a bytes=((if r.2 then t.logSent a bytes else t,r.1),r.2) := by
  simp only [send,h,hl]
  cases b.deliver t.id a ⟨bytes,t.address,0,a=.broadcast⟩ with
  | mk b' ok => cases ok <;> simp

/-- What is carried is appended where it is heard; what is lost or refused changes no queue. -/
theorem send_spec (h : b.Holds number) (t : Transceiver) (k : Addressing) (d : Destination)
    (bytes : List UInt8) :
    let r := t.send b (d.address k) bytes
    t.Same r.1.1 ∧ (r.1.1.loseNext=if t.fate number d=.lost then t.loseNext-1 else t.loseNext) ∧
    r.1.2.Holds number ∧ (r.2=true ↔ t.fate number d≠.refused) ∧
    ∀ v,r.1.2.waiting number v=b.waiting number v++
      if t.fate number d=.carried ∧ d.reaches t.id v=true ∧ (number v).isSome=true then
        [⟨bytes,t.address,0,d.address k=.broadcast⟩]
      else [] := by
  cases hup : t.linkUp with
  | false =>
    have hf : t.fate number d=.refused := by simp [fate,hup]
    rw [send_down hup,hf]
    exact ⟨⟨rfl,rfl,rfl,rfl⟩,rfl,h,by simp,fun v => by simp⟩
  | true =>
    by_cases hl : 0<t.loseNext
    · have hf : t.fate number d=.lost := by simp [fate,hup,hl]
      rw [send_lost hup hl,hf]
      exact ⟨⟨rfl,rfl,rfl,rfl⟩,rfl,h,by simp,fun v => by simp⟩
    have hf : t.fate number d=if d.isHeard number then .carried else .refused := by
      simp [fate,hup,hl]
    obtain ⟨hb,hok,hw⟩ := h.deliver t.id k d ⟨bytes,t.address,0,d.address k=.broadcast⟩
    rw [send_up hup hl,hf,hok]
    cases hh : d.isHeard number with
    | false =>
      refine ⟨⟨rfl,rfl,rfl,rfl⟩,rfl,hb,by simp,fun v => (hw v).trans ?_⟩
      cases d with
      | everyone => cases hh
      | unit id =>
        have : ¬(v=id ∧ (number v).isSome=true) := by
          rintro ⟨rfl,hv⟩
          rw [Destination.isHeard,hv] at hh
          cases hh
        simp [Destination.reaches,this]
    | true =>
      refine ⟨⟨rfl,rfl,rfl,rfl⟩,rfl,hb,by simp,fun v => (hw v).trans ?_⟩
      simp

end Send

end Transceiver

/-- Numbers go round below 255. -/
theorem nextSequence_toNat {n : UInt8} (h : n.toNat<255) :
    (nextSequence n).toNat=(n.toNat+1)%255 := by
  unfold nextSequence
  by_cases e : 254≤n
  · have : 254≤n.toNat := e
    rw [if_pos e,show n.toNat=254 by omega]
    rfl
  · have : ¬254≤n.toNat := e
    rw [if_neg e,UInt8.toNat_add]
    change (n.toNat+1)%256=_
    omega

namespace Link

variable {σ : Type}

/-- The numbers that a link gives out are below 255, and it takes hardware addresses for those of
attached units only. -/
structure Knows (number : UInt8 → Option Nat) (l : Link σ) : Prop where
  counter (v : UInt8) : (l.outbound.get v).toNat<255
  learned {v : UInt8} {hardware : UInt64} : l.learned[v]?=some hardware →
    hardware=hardwareOf v ∧ (number v).isSome=true

theorem knows_fresh {number : UInt8 → Option Nat} (carrier : σ) :
    Knows number ({carrier} : Link σ) where
  counter v := by
    change (UnitTable.get (.fill (0 : UInt8)) v).toNat<255
    rw [UnitTable.get_fill]
    decide
  learned {v hardware} h := by
    change ({} : Std.TreeMap UInt8 UInt64)[v]?=some hardware at h
    rw [Std.TreeMap.getElem?_emptyc] at h
    cases h

/-- The octets that go out to a destination. -/
def numbered (l : Link σ) (frame : List UInt8) : Destination → List UInt8
  | .everyone => frame
  | .unit id => l.outbound.get id::frame

/-- The number that a frame to a destination bears. -/
def stamp (l : Link σ) : Destination → Option UInt8
  | .everyone => none
  | .unit id => some (l.outbound.get id)

section Send

variable [Carrier σ] {l : Link σ} {number : UInt8 → Option Nat}

/-- Where a frame goes: to everyone, if the unit's hardware address is unknown. -/
def heading (l : Link σ) : Destination → Destination
  | .everyone => .everyone
  | .unit id => if l.resolve id=.broadcast then .everyone else .unit id

theorem resolve_of_ne (hk : l.Knows number) {id : UInt8} (h : l.resolve id≠.broadcast) :
    l.resolve id=(Destination.unit id).address (Carrier.addressing l.carrier) := by
  unfold resolve at h ⊢
  cases hk' : Carrier.addressing l.carrier with
  | short => rfl
  | long =>
    rw [hk'] at h
    dsimp only at h ⊢
    cases hl : l.learned[id]? with
    | none => simp [hl] at h
    | some hardware =>
      rw [(hk.learned hl).1]
      rfl

theorem send_eq (hk : l.Knows number) (d : Destination) (frame : List UInt8) :
    let e := l.emit ((l.heading d).address (Carrier.addressing l.carrier))
      (l.numbered frame (l.heading d))
    l.send d frame=
      match l.heading d with
      | .everyone => e
      | .unit id => (if e.2 then {e.1 with
          outbound:=l.outbound.set id (nextSequence (l.outbound.get id))} else e.1,e.2) := by
  cases d with
  | everyone => rfl
  | unit id =>
    by_cases h : l.resolve id=.broadcast
    · simp only [send,heading,h,if_true]
      rfl
    · simp only [heading,if_neg h]
      rw [←resolve_of_ne hk h]
      cases ha : l.resolve id with
      | broadcast => exact absurd ha h
      | short =>
        simp only [send,ha]
        rfl
      | long =>
        simp only [send,ha]
        rfl

end Send

/-- What sending a frame to a destination makes of a link and its bus. -/
structure Sent (number : UInt8 → Option Nat) (l : Link (Transceiver×Bus)) (d : Destination)
    (frame : List UInt8) (r : Link (Transceiver×Bus)) : Prop where
  same : l.carrier.1.Same r.carrier.1
  loseNext : r.carrier.1.loseNext=
    if l.carrier.1.fate number d=.lost then l.carrier.1.loseNext-1 else l.carrier.1.loseNext
  holds : r.carrier.2.Holds number
  waiting (v : UInt8) : r.carrier.2.waiting number v=l.carrier.2.waiting number v++
    if l.carrier.1.fate number d=.carried ∧ d.reaches l.carrier.1.id v=true ∧
      (number v).isSome=true then
      [⟨l.numbered frame d,l.carrier.1.address,0,
        d.address l.carrier.1.addressing=.broadcast⟩]
    else []
  lastSeen : r.lastSeen=l.lastSeen
  learned : r.learned=l.learned
  outbound (v : UInt8) : r.outbound.get v=
    if l.carrier.1.fate number d≠.refused ∧ d=.unit v then nextSequence (l.outbound.get v)
    else l.outbound.get v

theorem send_sent {l : Link (Transceiver×Bus)} {number : UInt8 → Option Nat}
    (hb : l.carrier.2.Holds number) (hk : l.Knows number) (d : Destination) (frame : List UInt8) :
    Sent number l (l.heading d) frame (l.send d frame).1 ∧
    ((l.send d frame).2=true ↔ l.carrier.1.fate number (l.heading d)≠.refused) := by
  obtain ⟨hs,hl,hb',hok,hw⟩ := Transceiver.send_spec hb l.carrier.1 l.carrier.1.addressing
    (l.heading d) (l.numbered frame (l.heading d))
  rw [send_eq hk]
  cases hd : l.heading d with
  | everyone =>
    rw [hd] at hs hl hb' hok hw
    exact ⟨⟨hs,hl,hb',hw,rfl,rfl,fun v => by simp [emit]⟩,hok⟩
  | unit id =>
    rw [hd] at hs hl hb' hok hw
    set e := l.emit ((Destination.unit id).address (Carrier.addressing l.carrier))
      (l.numbered frame (.unit id))
    have he : e.2=true ↔ l.carrier.1.fate number (.unit id)≠.refused := hok
    dsimp only
    by_cases h : e.2=true
    · rw [if_pos h]
      refine ⟨⟨hs,hl,hb',hw,rfl,rfl,fun v => ?_⟩,hok⟩
      change (l.outbound.set id (nextSequence (l.outbound.get id))).get v=_
      rw [UnitTable.get_set]
      by_cases k : v=id
      · rw [if_pos k,if_pos ⟨he.mp h,by rw [k]⟩,k]
      · rw [if_neg k,if_neg fun k' => k (Destination.unit.inj k'.2).symm]
    · rw [if_neg h]
      refine ⟨⟨hs,hl,hb',hw,rfl,rfl,fun v => ?_⟩,hok⟩
      rw [if_neg fun k => h (he.mpr k.1)]
      rfl

section Accept

/-- What is read off something that arrived: its number, if it has one, the unit that its header
names, and the frame. -/
def letter? (i : Inbound) : Option (Option UInt8×UInt8×List UInt8) :=
  (open? i).bind fun (n,frame) => (Frame.peekSource frame).map (n,·,frame)

variable {l : Link σ} {i : Inbound} {n s : UInt8} {frame : List UInt8}

theorem letter?_eq {m : Option UInt8} :
    letter? i=some (m,s,frame) ↔ open? i=some (m,frame) ∧ Frame.peekSource frame=some s := by
  unfold letter?
  constructor
  · intro h
    obtain ⟨x,ho,h⟩ := Option.bind_eq_some_iff.mp h
    obtain ⟨s',hp,he⟩ := Option.map_eq_some_iff.mp h
    obtain ⟨rfl,rfl,rfl⟩ := by simpa using he
    exact ⟨ho,hp⟩
  · rintro ⟨ho,hp⟩
    simp [ho,hp]

/-- What a link sends can be read again. -/
theorem letter?_numbered (l : Link σ) (d : Destination) (k : Addressing) (a : Address)
    (h : Frame.peekSource frame=some s) :
    letter? ⟨l.numbered frame d,a,0,d.address k=.broadcast⟩=some (l.stamp d,s,frame) := by
  rw [letter?_eq]
  refine ⟨?_,h⟩
  cases d with
  | everyone => rfl
  | unit id => cases k <;> rfl

theorem lastSeen_learn (l : Link σ) (s : UInt8) (a : Address) :
    (l.learn s a).lastSeen=l.lastSeen := by
  unfold learn
  split <;> rfl

theorem accept_unread (h : letter? i=none) : l.accept i=(l,none) := by
  unfold accept
  cases ho : open? i with
  | none => rfl
  | some x =>
    cases hp : Frame.peekSource x.2 with
    | none => simp [hp]
    | some s =>
      rw [letter?_eq.mpr ⟨ho,hp⟩] at h
      cases h

theorem accept_bare (h : letter? i=some (none,s,frame)) :
    l.accept i=((l.learn s i.sender).note s i.rssi false,
      some ⟨frame,s,i.rssi,i.broadcast⟩) := by
  obtain ⟨ho,hp⟩ := letter?_eq.mp h
  simp only [accept,ho,hp]

theorem accept_numbered (h : letter? i=some (some n,s,frame)) :
    l.accept i=
      if l.lastSeen.get s=n then ((l.learn s i.sender).note s i.rssi true,none)
      else ({(l.learn s i.sender).note s i.rssi false with lastSeen:=l.lastSeen.set s n},
        some ⟨frame,s,i.rssi,i.broadcast⟩) := by
  obtain ⟨ho,hp⟩ := letter?_eq.mp h
  simp only [accept,ho,hp,lastSeen_learn]

/-- A link keeps carrier and counters when something arrives, and takes a hardware address only
from a letter that came from there. -/
theorem accept_frame (l : Link σ) (i : Inbound) :
    (l.accept i).1.carrier=l.carrier ∧ (l.accept i).1.outbound=l.outbound ∧
    ∀ v hardware,(l.accept i).1.learned[v]?=some hardware →
      l.learned[v]?=some hardware ∨
        i.sender=.long hardware ∧ ∃ m frame,letter? i=some (m,v,frame) := by
  have learn_frame (s : UInt8) : (l.learn s i.sender).carrier=l.carrier ∧
      (l.learn s i.sender).outbound=l.outbound ∧
      ∀ v hardware,(l.learn s i.sender).learned[v]?=some hardware →
        l.learned[v]?=some hardware ∨ i.sender=.long hardware ∧ v=s := by
    unfold learn
    split
    · next hw hs =>
      refine ⟨rfl,rfl,fun v hardware h => ?_⟩
      simp only [Std.TreeMap.getElem?_insert] at h
      split_ifs at h with e
      · exact Or.inr ⟨hs.trans (congrArg _ (Option.some.inj h)),
          (Std.LawfulEqCmp.eq_of_compare e).symm⟩
      · exact Or.inl h
    · exact ⟨rfl,rfl,fun _ _ h => Or.inl h⟩
  cases hl : letter? i with
  | none =>
    rw [accept_unread hl]
    exact ⟨rfl,rfl,fun _ _ h => Or.inl h⟩
  | some x =>
    obtain ⟨m,s,frame⟩ := x
    obtain ⟨hc,ho,hk⟩ := learn_frame s
    have known (v : UInt8) (hardware : UInt64)
        (h : (l.learn s i.sender).learned[v]?=some hardware) : l.learned[v]?=some hardware ∨
          i.sender=.long hardware ∧ ∃ m' frame',some (m,s,frame)=some (m',v,frame') := by
      obtain hold | ⟨hw,rfl⟩ := hk v hardware h
      · exact Or.inl hold
      · exact Or.inr ⟨hw,m,frame,rfl⟩
    cases m with
    | none =>
      rw [accept_bare hl]
      exact ⟨hc,ho,known⟩
    | some n =>
      rw [accept_numbered hl]
      split_ifs
      · exact ⟨hc,ho,known⟩
      · exact ⟨hc,ho,known⟩

end Accept

/-- A link takes the head of its own queue. -/
theorem receive_eq {l : Link (Transceiver×Bus)} {number : UInt8 → Option Nat} {u : UInt8}
    (hb : l.carrier.2.Holds number) (hu : number u=some l.carrier.1.number) :
    ∃ b : Bus,b.Holds number ∧
      (∀ v,b.waiting number v=
        if v=u then (l.carrier.2.waiting number u).tail else l.carrier.2.waiting number v) ∧
      l.receive=
        match l.carrier.2.waiting number u with
        | [] => ({l with carrier:=(l.carrier.1,b)},none)
        | i::_ => accept {l with carrier:=(l.carrier.1,b)} i := by
  obtain ⟨hb',hi,hw⟩ := hb.collect hu
  refine ⟨_,hb',hw,?_⟩
  have hp : Carrier.poll l.carrier=((l.carrier.1,(l.carrier.2.collect l.carrier.1).1),
    (l.carrier.2.collect l.carrier.1).2) := rfl
  unfold receive
  rw [hp,hi]
  cases l.carrier.2.waiting number u <;> rfl

/-- What receiving makes of a link and its bus. -/
structure Received (number : UInt8 → Option Nat) (u : UInt8) (l r : Link (Transceiver×Bus)) :
    Prop where
  transceiver : r.carrier.1=l.carrier.1
  outbound : r.outbound=l.outbound
  holds : r.carrier.2.Holds number
  waiting (v : UInt8) : r.carrier.2.waiting number v=
    if v=u then (l.carrier.2.waiting number u).tail else l.carrier.2.waiting number v

theorem Received.kept {l r : Link (Transceiver×Bus)} {number : UInt8 → Option Nat} {u v : UInt8}
    {i : Inbound} (h : l.Received number u r) (hi : i∈r.carrier.2.waiting number v) :
    i∈l.carrier.2.waiting number v := by
  rw [h.waiting] at hi
  split_ifs at hi with e
  · rw [e]
    exact List.mem_of_mem_tail hi
  · exact hi

theorem receive_received {l : Link (Transceiver×Bus)} {number : UInt8 → Option Nat} {u : UInt8}
    (hb : l.carrier.2.Holds number) (hu : number u=some l.carrier.1.number) :
    l.Received number u l.receive.1 := by
  obtain ⟨b,hb',hw,he⟩ := receive_eq hb hu
  have hr : l.receive.1.carrier=(l.carrier.1,b) ∧ l.receive.1.outbound=l.outbound := by
    rw [he]
    cases l.carrier.2.waiting number u with
    | nil => exact ⟨rfl,rfl⟩
    | cons i q =>
      obtain ⟨hc,ho,_⟩ := accept_frame {l with carrier:=(l.carrier.1,b)} i
      exact ⟨hc,ho⟩
  refine ⟨by rw [hr.1],hr.2,?_,fun v => ?_⟩
  · rw [hr.1]
    exact hb'
  · rw [hr.1]
    exact hw v

end Link

end Watering
