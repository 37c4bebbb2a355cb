import Watering.Proofs.Radio.Delivery

namespace Watering.Air

/-- All that waits for `d` are letters of `s`. -/
def Lettered (number : UInt8 → Option Nat) (s d : UInt8) (a : Air) : Prop :=
  ∀ i∈a.bus.waiting number d,∃ m frame,Link.letter? i=some (m,s,frame)

/-- Two units alone, with nothing lost or refused on their side. -/
structure Pair (k : Addressing) (number : UInt8 → Option Nat) (u v : UInt8) (a : Air) : Prop where
  ne : u≠v
  sound : a.Sound k number
  attached (w : UInt8) : (number w).isSome=true ↔ w=u ∨ w=v
  up {w : UInt8} {l : Link Transceiver} : a.links w=some l →
    l.carrier.linkUp=true ∧ l.carrier.loseNext=0
  out : InOrder number u v 0 a
  back : InOrder number v u 0 a
  outLetters : Lettered number u v a
  backLetters : Lettered number v u a

variable {k : Addressing} {number : UInt8 → Option Nat} {a : Air} {u v w : UInt8}
  {l : Link Transceiver} {r : Link (Transceiver×Bus)} {target : Destination} {frame : List UInt8}

namespace Pair

theorem symm (h : a.Pair k number u v) : a.Pair k number v u :=
  ⟨h.ne.symm,h.sound,fun w => (h.attached w).trans Or.comm,h.up,h.back,h.out,h.backLetters,
    h.outLetters⟩

/-- What is sent is carried, if anybody hears it. -/
theorem fate (h : a.Pair k number u v) (hl : a.links w=some l) (d : Destination) :
    l.carrier.fate number d=if d.isHeard number then .carried else .refused := by
  obtain ⟨hup,hlose⟩ := h.up hl
  simp [Transceiver.fate,hup,hlose]

theorem fate_ne_lost (h : a.Pair k number u v) (hl : a.links w=some l) (d : Destination) :
    l.carrier.fate number d≠.lost := by
  rw [h.fate hl]
  split_ifs <;> simp

theorem inOrder_send (h : a.Pair k number u v) {s d : UInt8} (o : InOrder number s d 0 a)
    (hl : a.links w=some l) (hf : Frame.peekSource frame=some w) :
    InOrder number s d 0 (a.put w ((a.onBus l).send target frame).1) := by
  have hs := o.send h.sound (by decide) hl target hf
  rw [step,act_eq hl,losses_send h.sound hl] at hs
  have hne := h.fate_ne_lost hl (.unit d)
  cases hfate : l.carrier.fate number (.unit d) with
  | lost => exact absurd hfate hne
  | refused => simpa [hfate,tally] using hs
  | carried =>
    rw [hfate] at hs
    dsimp only at hs
    split_ifs at hs
    · exact hs
    · exact hs

theorem lettered_send (h : a.Pair k number u v) (hl : a.links u=some l)
    (hf : Frame.peekSource frame=some u) (ht : target≠.unit u) :
    Lettered number u v (a.put u ((a.onBus l).send target frame).1) ∧
    Lettered number v u (a.put u ((a.onBus l).send target frame).1) := by
  obtain ⟨sent,_⟩ := Link.send_sent (l:=a.onBus l) h.sound.holds (h.sound.knows hl) target frame
  have hid : (a.onBus l).carrier.1.id=u := (h.sound.own hl).1
  refine ⟨fun i hi => ?_,fun i hi => ?_⟩
  · change i∈((a.onBus l).send target frame).1.carrier.2.waiting number v at hi
    rw [sent.waiting,List.mem_append] at hi
    obtain hi | hi := hi
    · exact h.outLetters i hi
    · split_ifs at hi
      · rw [List.mem_singleton.mp hi]
        exact ⟨_,_,Link.letter?_numbered _ _ _ _ hf⟩
      · cases hi
  · change i∈((a.onBus l).send target frame).1.carrier.2.waiting number u at hi
    have alone : ((a.onBus l).heading target).reaches u u=false := by
      cases target with
      | everyone => simp [Link.heading,Destination.reaches]
      | unit id =>
        have : u≠id := fun e => ht (by rw [e])
        unfold Link.heading
        dsimp only
        split_ifs <;> simp [Destination.reaches,this]
    rw [sent.waiting,hid,if_neg (by simp [alone]),List.append_nil] at hi
    exact h.backLetters i hi

theorem send (h : a.Pair k number u v) (hl : a.links u=some l) (target : Destination)
    (hf : Frame.peekSource frame=some u) (ht : target≠.unit u) :
    (a.put u ((a.onBus l).send target frame).1).Pair k number u v where
  ne := h.ne
  sound := h.sound.send hl target hf
  attached := h.attached
  up {w l'} hw := by
    rw [links_put] at hw
    split_ifs at hw with e
    · obtain ⟨sent,_⟩ :=
        Link.send_sent (l:=a.onBus l) h.sound.holds (h.sound.knows hl) target frame
      rw [←Option.some.inj hw]
      exact ⟨sent.same.linkUp.trans (h.up hl).1,
        sent.loseNext.trans ((if_neg (h.fate_ne_lost hl _)).trans (h.up hl).2)⟩
    · exact h.up hw
  out := h.inOrder_send h.out hl hf
  back := h.inOrder_send h.back hl hf
  outLetters := (h.lettered_send hl hf ht).1
  backLetters := (h.lettered_send hl hf ht).2

theorem waiting_put (h : a.Pair k number u v) (hl : a.links u=some l)
    (hf : Frame.peekSource frame=some u) (s d : UInt8) :
    (a.put u ((a.onBus l).send target frame).1).waiting s d=
      a.waiting s d++carried s d a (.send u target frame) := by
  have hw := waiting_send h.sound hl target hf s d
  rwa [step,act_eq hl] at hw

/-- What is sent to somebody who is not there comes to the other, if to anybody. -/
theorem waiting_away (h : a.Pair k number u v) (hl : a.links u=some l) (target : Destination)
    (hf : Frame.peekSource frame=some u) :
    (a.put u ((a.onBus l).send target frame).1).waiting v u=a.waiting v u ∧
    ((a.put u ((a.onBus l).send target frame).1).waiting u v=a.waiting u v ∨
      (a.put u ((a.onBus l).send target frame).1).waiting u v=a.waiting u v++[frame]) := by
  rw [h.waiting_put hl hf,h.waiting_put hl hf,carried_send h.sound hl,carried_send h.sound hl,
    if_neg fun e => h.ne e.1,List.append_nil]
  refine ⟨rfl,?_⟩
  split_ifs
  · exact Or.inr rfl
  · exact Or.inl (List.append_nil _)

/-- What is sent to the other comes to it. -/
theorem waiting_other (h : a.Pair k number u v) (hl : a.links u=some l)
    (hf : Frame.peekSource frame=some u) :
    ((a.onBus l).send (.unit v) frame).2=true ∧
    (a.put u ((a.onBus l).send (.unit v) frame).1).waiting u v=a.waiting u v++[frame] := by
  have hv : (number v).isSome=true := (h.attached v).mpr (Or.inr rfl)
  obtain ⟨_,hok⟩ :=
    Link.send_sent (l:=a.onBus l) h.sound.holds (h.sound.knows hl) (.unit v) frame
  have hcase : (a.onBus l).heading (.unit v)=.everyone ∨
      (a.onBus l).heading (.unit v)=.unit v := by
    unfold Link.heading
    dsimp only
    split_ifs
    · exact Or.inl rfl
    · exact Or.inr rfl
  have heard : ((a.onBus l).heading (.unit v)).isHeard number=true := by
    obtain e | e := hcase
    · rw [e]
      rfl
    · rw [e]
      exact hv
  have reaches : ((a.onBus l).heading (.unit v)).reaches u v=true := by
    obtain e | e := hcase
    · rw [e]
      exact bne_iff_ne.mpr h.ne.symm
    · rw [e]
      exact beq_self_eq_true v
  have hfate : l.carrier.fate number ((a.onBus l).heading (.unit v))=.carried := by
    rw [h.fate hl,heard]
    rfl
  refine ⟨hok.mpr ?_,?_⟩
  · change l.carrier.fate number _≠_
    rw [hfate]
    decide
  · rw [h.waiting_put hl hf,carried_send h.sound hl,if_pos ⟨rfl,hfate,reaches,hv⟩]

theorem lettersOf_of_lettered {q : List Inbound} {s : UInt8}
    (h : ∀ i∈q,∃ m frame,Link.letter? i=some (m,s,frame)) : (lettersOf s q).length=q.length := by
  induction q with
  | nil => rfl
  | cons i q ih =>
    obtain ⟨m,frame,hi⟩ := h i List.mem_cons_self
    rw [lettersOf_cons hi,if_pos rfl]
    simp [ih fun j hj => h j (List.mem_cons_of_mem _ hj)]

/-- As many frames wait for the other unit as things do. -/
theorem length_waiting (h : a.Pair k number u v) :
    (a.waiting u v).length=(a.bus.waiting number v).length := by
  rw [waiting,List.length_map,h.sound.number_fun,lettersOf_of_lettered h.outLetters]

/-- Where one frame less waits than before, it was taken in. -/
theorem exists_delivery {x : Option Delivery} {s : UInt8} {frames rest : List (List UInt8)}
    (h : ((x.filter (·.source==s)).map (·.frame)).toList++rest=frames)
    (len : frames.length=rest.length+1) :
    ∃ delivery,x=some delivery ∧ frames=delivery.frame::rest := by
  have hlen := congrArg List.length h
  cases x with
  | none =>
    rw [len] at hlen
    simp at hlen
  | some delivery =>
    cases hs : delivery.source==s with
    | false =>
      rw [len] at hlen
      simp [Option.filter,hs] at hlen
    | true =>
      simp only [Option.filter_some,hs,if_true,Option.map_some,Option.toList_some] at h
      exact ⟨delivery,rfl,h.symm⟩

theorem receive_pair (h : a.Pair k number u v) (hl : a.links v=some l) :
    (a.put v (a.onBus l).receive.1).Pair k number u v := by
  have got := Link.receive_received (l:=a.onBus l) h.sound.holds (h.sound.number_of hl)
  have hout := (receive_step h.sound h.out hl).2
  have hback := (receive_step h.sound h.back hl).2
  rw [step,act_eq hl] at hout hback
  refine ⟨h.ne,h.sound.receive hl,h.attached,?_,hout,hback,?_,?_⟩
  · intro w l' hw
    obtain ⟨_,rfl⟩ | ⟨_,hw⟩ := link_of_put hw
    · change (a.onBus l).receive.1.carrier.1.linkUp=true ∧ (a.onBus l).receive.1.carrier.1.loseNext=0
      rw [got.transceiver]
      exact h.up hl
    · exact h.up hw
  · exact fun i hi => h.outLetters i (got.kept hi)
  · exact fun i hi => h.backLetters i (got.kept hi)

/-- The other unit takes in the next frame that waits for it. -/
theorem receive (h : a.Pair k number u v) (hl : a.links v=some l) :
    (a.put v (a.onBus l).receive.1).Pair k number u v ∧
    (a.put v (a.onBus l).receive.1).waiting v u=a.waiting v u ∧
    match a.waiting u v with
    | [] => (a.onBus l).receive.2=none ∧ (a.put v (a.onBus l).receive.1).waiting u v=[]
    | frame::rest => (a.put v (a.onBus l).receive.1).waiting u v=rest ∧
      ∃ delivery,(a.onBus l).receive.2=some delivery ∧ delivery.frame=frame := by
  have h' := h.receive_pair hl
  have got := Link.receive_received (l:=a.onBus l) h.sound.holds (h.sound.number_of hl)
  obtain ⟨hout,_⟩ := receive_step h.sound h.out hl
  obtain ⟨hback,_⟩ := receive_elsewhere h.sound h.back hl h.ne
  rw [step,act_eq hl] at hout hback
  refine ⟨h',hback,?_⟩
  have hy : yielded u v a (.receive v)=
      (((a.onBus l).receive.2.filter (·.source==u)).map (·.frame)).toList := by
    rw [yielded,if_pos rfl,act_eq hl]
    rfl
  rw [hy] at hout
  have hlen := h.length_waiting
  have hlen' : ((a.put v (a.onBus l).receive.1).waiting u v).length=
      (a.bus.waiting number v).tail.length := by
    rw [h'.length_waiting]
    exact congrArg List.length ((got.waiting v).trans (if_pos rfl))
  cases hq : a.bus.waiting number v with
  | nil =>
    rw [hq] at hlen hlen'
    rw [List.eq_nil_of_length_eq_zero hlen]
    refine ⟨?_,List.eq_nil_of_length_eq_zero hlen'⟩
    obtain ⟨b,_,_,he⟩ := Link.receive_eq (l:=a.onBus l) h.sound.holds (h.sound.number_of hl)
    rw [he,show (a.onBus l).carrier.2.waiting number v=[] from hq]
  | cons i q =>
    rw [hq] at hlen hlen'
    rw [List.tail_cons] at hlen'
    obtain ⟨delivery,hr,hw⟩ := exists_delivery hout (by rw [hlen,hlen',List.length_cons])
    rw [hw]
    exact ⟨rfl,delivery,hr,rfl⟩

end Pair

theorem put_onBus (hl : a.links u=some l) : a.put u (a.onBus l)=a := by
  obtain ⟨bus,links⟩ := a
  refine congrArg (Air.mk bus) (funext fun w => ?_)
  change (if w=u then _ else links w)=links w
  split_ifs with e
  · rw [e]
    exact hl.symm
  · rfl

theorem put_put (a : Air) (u : UInt8) (q r : Link (Transceiver×Bus)) :
    (a.put u q).put u r=a.put u r := by
  refine congrArg (Air.mk r.carrier.2) (funext fun w => ?_)
  change (if w=u then _ else if w=u then _ else a.links w)=if w=u then _ else a.links w
  split_ifs <;> rfl

theorem links_put_self (a : Air) (u : UInt8) (r : Link (Transceiver×Bus)) :
    (a.put u r).links u=some (r.withCarrier r.carrier.1) := if_pos rfl

/-- Two units that were just attached. -/
theorem pair_fresh (k : Addressing) (h : u≠v) :
    ∃ number,(ofUnits k [u,v]).Pair k number u v ∧
      (ofUnits k [u,v]).waiting u v=[] ∧ (ofUnits k [u,v]).waiting v u=[] := by
  obtain ⟨number,hs,hw,hl⟩ := ofUnits_fresh k [u,v]
  have links (w : UInt8) : (ofUnits k [u,v]).links w=
      if w=v then some {carrier:=((({} : Air).attach k u).bus.attach v k).2}
      else if w=u then some {carrier:=(({} : Air).bus.attach u k).2} else none := rfl
  have order (s d : UInt8) : InOrder number s d 0 (ofUnits k [u,v]) := by
    intro ls ld _ hd
    rw [hw,hl d ld hd]
    exact ⟨List.isChain_singleton _,Or.inl rfl⟩
  have empty (s d : UInt8) : (ofUnits k [u,v]).waiting s d=[] := by
    rw [waiting,hs.number_fun,hw]
    rfl
  have lettered (s d : UInt8) : Lettered number s d (ofUnits k [u,v]) := by
    intro i hi
    rw [hw] at hi
    cases hi
  refine ⟨number,⟨h,hs,fun w => ?_,?_,order u v,order v u,lettered u v,lettered v u⟩,empty u v,
    empty v u⟩
  · rw [←hs.number_eq,Option.isSome_map,links]
    by_cases e : w=v
    · simp [e]
    · by_cases e' : w=u
      · simp [e',h]
      · simp [e,e']
  · intro w l hw
    rw [links] at hw
    split_ifs at hw
    · rw [←Option.some.inj hw]
      exact ⟨rfl,rfl⟩
    · rw [←Option.some.inj hw]
      exact ⟨rfl,rfl⟩

end Watering.Air
