import Watering.Proofs.Radio.Link

namespace Watering

/-- Links on one bus, by the id of their unit. -/
structure Air where
  bus : Bus := {}
  links : UInt8 → Option (Link Transceiver) := fun _ => none

/-- What may happen on the air. -/
inductive Act where
  | send (source : UInt8) (target : Destination) (frame : List UInt8)
  | receive (unit : UInt8)
  /-- From now on a unit's carrier refuses all sends, or none. -/
  | setLink (unit : UInt8) (up : Bool)
  /-- The next sends that a unit's carrier takes get lost. -/
  | setLoss (unit : UInt8) (count : Nat)

namespace Air

def attach (a : Air) (k : Addressing) (u : UInt8) : Air :=
  {bus:=(a.bus.attach u k).1,
    links:=fun v => if v=u then some {carrier:=(a.bus.attach u k).2} else a.links v}

def ofUnits (k : Addressing) (units : List UInt8) : Air := units.foldl (·.attach k ·) {}

def act {β : Type} (a : Air) (u : UInt8)
    (f : Link (Transceiver×Bus) → Link (Transceiver×Bus)×β) : Air×Option β :=
  match a.links u with
  | none => (a,none)
  | some l =>
    let (l,answer) := f (l.withCarrier (l.carrier,a.bus))
    ({bus:=l.carrier.2,
      links:=fun v => if v=u then some (l.withCarrier l.carrier.1) else a.links v},some answer)

def modify (a : Air) (u : UInt8) (f : Transceiver → Transceiver) : Air :=
  {a with links:=fun v =>
    if v=u then (a.links v).map fun l => {l with carrier:=f l.carrier} else a.links v}

def step (a : Air) : Act → Air
  | .send source target frame => (a.act source (·.send target frame)).1
  | .receive unit => (a.act unit (·.receive)).1
  | .setLink unit up => a.modify unit fun t => {t with linkUp:=up}
  | .setLoss unit count => a.modify unit fun t => {t with loseNext:=count}

def run (a : Air) (acts : List Act) : Air := acts.foldl step a

/-- The numbers of the transceivers that units hold. -/
def number (a : Air) (u : UInt8) : Option Nat := (a.links u).map (·.carrier.number)

variable {k : Addressing} {number : UInt8 → Option Nat} {a : Air} {u v s d : UInt8}
  {l : Link Transceiver}

/-- Every unit has its own transceiver, and what waits or was learned names attached units. -/
structure Sound (k : Addressing) (number : UInt8 → Option Nat) (a : Air) : Prop where
  holds : a.bus.Holds number
  number_eq (u : UInt8) : (a.links u).map (·.carrier.number)=number u
  own {u : UInt8} {l : Link Transceiver} : a.links u=some l →
    l.carrier.id=u ∧ l.carrier.addressing=k ∧ l.Knows number
  letters {u : UInt8} {i : Inbound} {m : Option UInt8} {v : UInt8} {frame : List UInt8} :
    i∈a.bus.waiting number u → Link.letter? i=some (m,v,frame) →
    (number v).isSome=true ∧ ∀ hardware,i.sender=.long hardware → hardware=hardwareOf v

theorem Sound.number_of (h : a.Sound k number) (hl : a.links u=some l) :
    number u=some l.carrier.number := by
  rw [←h.number_eq,hl]
  rfl

theorem Sound.number_fun (h : a.Sound k number) : a.number=number := funext h.number_eq

/-- The link of a unit, given the bus. -/
def onBus (a : Air) (l : Link Transceiver) : Link (Transceiver×Bus) :=
  l.withCarrier (l.carrier,a.bus)

@[simp] theorem outbound_onBus (a : Air) (l : Link Transceiver) :
    (a.onBus l).outbound=l.outbound := rfl

@[simp] theorem lastSeen_onBus (a : Air) (l : Link Transceiver) :
    (a.onBus l).lastSeen=l.lastSeen := rfl

/-- The bus and the units after one of them acted. -/
def put (a : Air) (u : UInt8) (r : Link (Transceiver×Bus)) : Air :=
  {bus:=r.carrier.2,
    links:=fun v => if v=u then some (r.withCarrier r.carrier.1) else a.links v}

theorem links_put (a : Air) (u v : UInt8) (r : Link (Transceiver×Bus)) :
    (a.put u r).links v=if v=u then some (r.withCarrier r.carrier.1) else a.links v := rfl

theorem link_of_put {r : Link (Transceiver×Bus)} {l' : Link Transceiver}
    (h : (a.put u r).links v=some l') :
    v=u ∧ l'=r.withCarrier r.carrier.1 ∨ v≠u ∧ a.links v=some l' := by
  rw [links_put] at h
  split_ifs at h with e
  · exact Or.inl ⟨e,(Option.some.inj h).symm⟩
  · exact Or.inr ⟨e,h⟩

theorem act_eq {β : Type} (hl : a.links u=some l)
    (f : Link (Transceiver×Bus) → Link (Transceiver×Bus)×β) :
    a.act u f=(a.put u (f (a.onBus l)).1,some (f (a.onBus l)).2) := by
  unfold act
  rw [hl]
  rfl

theorem act_none {β : Type} (hl : a.links u=none)
    (f : Link (Transceiver×Bus) → Link (Transceiver×Bus)×β) : a.act u f=(a,none) := by
  unfold act
  rw [hl]

theorem Sound.knows (h : a.Sound k number) (hl : a.links u=some l) :
    (a.onBus l).Knows number :=
  ⟨(h.own hl).2.2.counter,(h.own hl).2.2.learned⟩

/-- Acting keeps the air sound if it keeps what the unit holds and what waits. -/
theorem Sound.put (h : a.Sound k number) (hl : a.links u=some l) {r : Link (Transceiver×Bus)}
    (same : l.carrier.Same r.carrier.1) (knows : r.Knows number) (holds : r.carrier.2.Holds number)
    (letters : ∀ v i m w frame,i∈r.carrier.2.waiting number v →
      Link.letter? i=some (m,w,frame) →
      (number w).isSome=true ∧ ∀ hardware,i.sender=.long hardware → hardware=hardwareOf w) :
    (a.put u r).Sound k number where
  holds := holds
  number_eq v := by
    rw [links_put]
    split_ifs with e
    · rw [e,h.number_of hl,Option.map_some]
      exact congrArg some same.number
    · exact h.number_eq v
  own {v l'} hv := by
    rw [links_put] at hv
    split_ifs at hv with e
    · obtain rfl := Option.some.inj hv
      obtain ⟨hid,hk,_⟩ := h.own hl
      exact ⟨same.id.trans (hid.trans e.symm),same.addressing.trans hk,knows.counter,knows.learned⟩
    · exact h.own hv
  letters := letters _ _ _ _ _

theorem Sound.send (h : a.Sound k number) (hl : a.links u=some l) (target : Destination)
    {frame : List UInt8} (hf : Frame.peekSource frame=some u) :
    (a.put u ((a.onBus l).send target frame).1).Sound k number := by
  have hk := h.knows hl
  obtain ⟨sent,_⟩ := Link.send_sent (l:=a.onBus l) h.holds hk target frame
  refine h.put hl sent.same ⟨fun v => ?_,?_⟩ sent.holds ?_
  · rw [sent.outbound]
    split_ifs
    · rw [nextSequence_toNat (hk.counter v)]
      exact Nat.mod_lt _ (by decide)
    · exact hk.counter v
  · rw [sent.learned]
    exact hk.learned
  · intro v i m w frame' hi hm
    rw [sent.waiting,List.mem_append] at hi
    obtain hi | hi := hi
    · exact h.letters hi hm
    · split_ifs at hi
      · obtain rfl := List.mem_singleton.mp hi
        rw [Link.letter?_numbered _ _ _ _ hf] at hm
        obtain ⟨rfl,rfl,rfl⟩ := by simpa using hm
        have hid := (h.own hl).1
        refine ⟨by simp [h.number_of hl],fun hardware hs => ?_⟩
        have ha : (a.onBus l).carrier.1.address=.long hardware := hs
        unfold Transceiver.address at ha
        split at ha
        · cases ha
        · rw [←Address.long.inj ha,←hid]
          rfl
      · cases hi

theorem Sound.receive (h : a.Sound k number) (hl : a.links u=some l) :
    (a.put u (a.onBus l).receive.1).Sound k number := by
  have got := Link.receive_received (l:=a.onBus l) h.holds (h.number_of hl)
  refine h.put hl ?_ ⟨?_,?_⟩ got.holds fun v i _ _ _ hi hm => h.letters (got.kept hi) hm
  · rw [got.transceiver]
    exact ⟨rfl,rfl,rfl,rfl⟩
  · rw [got.outbound]
    exact (h.knows hl).counter
  · intro v hardware hv
    obtain ⟨b,_,_,he⟩ := Link.receive_eq (l:=a.onBus l) h.holds (h.number_of hl)
    rw [he] at hv
    cases hq : (a.onBus l).carrier.2.waiting number u with
    | nil =>
      rw [hq] at hv
      exact (h.knows hl).learned hv
    | cons i q =>
      rw [hq] at hv
      obtain hold | ⟨hs,m,frame,hm⟩ := (Link.accept_frame _ i).2.2 v hardware hv
      · exact (h.knows hl).learned hold
      · have hmem : i∈(a.onBus l).carrier.2.waiting number u := by
          rw [hq]
          exact List.mem_cons_self
        obtain ⟨hw,hh⟩ := h.letters hmem hm
        exact ⟨hh hardware hs,hw⟩

theorem Sound.modify (h : a.Sound k number) (f : Transceiver → Transceiver)
    (hf : ∀ t,(f t).number=t.number ∧ (f t).id=t.id ∧ (f t).addressing=t.addressing) :
    (a.modify u f).Sound k number where
  holds := h.holds
  number_eq v := by
    unfold Air.modify
    dsimp only
    split_ifs
    · rw [Option.map_map,←h.number_eq v]
      exact congrArg (Option.map · (a.links v)) (funext fun l => (hf l.carrier).1)
    · exact h.number_eq v
  own {v l'} hv := by
    unfold Air.modify at hv
    dsimp only at hv
    split_ifs at hv
    · obtain ⟨l,hl,rfl⟩ := Option.map_eq_some_iff.mp hv
      obtain ⟨hid,hk,hn⟩ := h.own hl
      exact ⟨(hf _).2.1.trans hid,(hf _).2.2.trans hk,hn.counter,hn.learned⟩
    · exact h.own hv
  letters := h.letters

/-- A frame that is sent has a header that can be read, and names its sender there. -/
def Honest : Act → Prop
  | .send source _ frame => Frame.peekSource frame=some source
  | _ => True

instance : DecidablePred Honest
  | .send source _ frame => inferInstanceAs (Decidable (Frame.peekSource frame=some source))
  | .receive _ => .isTrue trivial
  | .setLink .. => .isTrue trivial
  | .setLoss .. => .isTrue trivial

theorem Sound.step (h : a.Sound k number) {x : Act} (hx : Honest x) : (a.step x).Sound k number := by
  cases x with
  | send source target frame =>
    cases hl : a.links source with
    | none =>
      rw [Air.step,act_none hl]
      exact h
    | some l =>
      rw [Air.step,act_eq hl]
      exact h.send hl target hx
  | receive unit =>
    cases hl : a.links unit with
    | none =>
      rw [Air.step,act_none hl]
      exact h
    | some l =>
      rw [Air.step,act_eq hl]
      exact h.receive hl
  | setLink _ up => exact h.modify (fun t => {t with linkUp:=up}) fun _ => ⟨rfl,rfl,rfl⟩
  | setLoss _ count => exact h.modify (fun t => {t with loseNext:=count}) fun _ => ⟨rfl,rfl,rfl⟩

/-- Units that were just attached hold nothing and have seen nothing. -/
theorem ofUnits_fresh (k : Addressing) (units : List UInt8) :
    ∃ number,(ofUnits k units).Sound k number ∧
      (∀ u,(ofUnits k units).bus.waiting number u=[]) ∧
      ∀ u l,(ofUnits k units).links u=some l → ∀ v,l.lastSeen.get v=unseen := by
  suffices h : ∀ (a : Air) number,a.Sound k number → (∀ u,a.bus.waiting number u=[]) →
      (∀ u l,a.links u=some l → ∀ v,l.lastSeen.get v=unseen) →
      ∃ number,(units.foldl (·.attach k ·) a).Sound k number ∧
        (∀ u,(units.foldl (·.attach k ·) a).bus.waiting number u=[]) ∧
        ∀ u l,(units.foldl (·.attach k ·) a).links u=some l → ∀ v,l.lastSeen.get v=unseen from
    h {} (fun _ => none) ⟨Bus.holds_empty,fun _ => rfl,nofun,nofun⟩ (fun _ => rfl) nofun
  induction units with
  | nil => exact fun a number hs hw hl => ⟨number,hs,hw,hl⟩
  | cons u units ih =>
    intro a number hs hw hl
    have hw' (v : UInt8) : (a.attach k u).bus.waiting
        (fun v => if v=u then some a.bus.attached else number v) v=[] := by
      refine (hs.holds.waiting_attach u k v).trans ?_
      rw [hw,ite_self]
    refine ih (a.attach k u) (fun v => if v=u then some a.bus.attached else number v)
      ⟨hs.holds.attach u k,?_,?_,?_⟩ hw' ?_
    · intro v
      change (if v=u then _ else a.links v : Option (Link Transceiver)).map _=_
      split_ifs
      · rfl
      · exact hs.number_eq v
    · intro v l hv
      change (if v=u then _ else a.links v)=some l at hv
      split_ifs at hv with e
      · obtain rfl := Option.some.inj hv
        exact ⟨e.symm,rfl,Link.knows_fresh _⟩
      · obtain ⟨hid,hk,hn⟩ := hs.own hv
        refine ⟨hid,hk,hn.counter,fun {w hardware} hw => ⟨(hn.learned hw).1,?_⟩⟩
        split_ifs
        · rfl
        · exact (hn.learned hw).2
    · intro v i m w frame hi
      rw [hw'] at hi
      cases hi
    · intro v l hv
      change (if v=u then _ else a.links v)=some l at hv
      split_ifs at hv with e
      · obtain rfl := Option.some.inj hv
        exact fun w => UnitTable.get_fill ..
      · exact hl v l hv

end Air

end Watering
