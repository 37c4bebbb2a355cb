import Watering.Proofs.Frame.RoundTrip
import Watering.Radio.Link
import Watering.Radio.Scripted

namespace Watering

namespace Carrier

variable {σ : Type} [Carrier σ] {x : σ}

/-- The carrier after many sends. -/
def sendAll (x : σ) (sends : List (Address×List UInt8)) : σ :=
  sends.foldl (fun x s => (send x s.1 s.2).1) x

/-- Whatever was sent before, the next is taken. -/
def Willing (x : σ) : Prop := ∀ sends target bytes,(send (sendAll x sends) target bytes).2=true

theorem Willing.takes (h : Willing x) (target : Address) (bytes : List UInt8) :
    (send x target bytes).2=true := h [] target bytes

theorem Willing.send (h : Willing x) (target : Address) (bytes : List UInt8) :
    Willing (send x target bytes).1 := fun sends => h ((target,bytes)::sends)

end Carrier

/-- A script without refusals. -/
theorem ScriptedRadio.willing {r : ScriptedRadio} (h : ∀ n,r.verdict n=true) :
    Carrier.Willing r := by
  intro sends
  induction sends generalizing r with
  | nil => exact fun _ _ => h _
  | cons s sends ih => exact ih (r:=(Carrier.send r s.1 s.2).1) h

/-- Any carrier, with all that it took, newest first. -/
structure Logged (σ : Type) where
  carrier : σ
  taken : List (Address×List UInt8) := []

instance {σ : Type} [Carrier σ] : Carrier (Logged σ) where
  addressing l := Carrier.addressing l.carrier
  send l target bytes :=
    let (carrier,ok) := Carrier.send l.carrier target bytes
    (⟨carrier,if ok then (target,bytes)::l.taken else l.taken⟩,ok)
  poll l :=
    let (carrier,i) := Carrier.poll l.carrier
    ({l with carrier},i)

namespace Logged

variable {σ : Type}

/-- The octets of the frame inside: all that went to everyone, and what stands behind the number of
anything else. -/
def inner : Address×List UInt8 → List UInt8
  | (.broadcast,bytes) => bytes
  | (_,bytes) => bytes.tail

/-- The frames that were taken, newest first. -/
def frames (l : Logged σ) : List Frame :=
  (l.taken.map inner).filterMap fun bytes => (Frame.decode bytes).toOption

end Logged

namespace Link

variable {σ : Type} [Carrier σ] (l : Link (Logged σ))

theorem taken_emit (target : Address) (bytes : List UInt8) :
    (l.emit target bytes).1.carrier.taken=
      if (l.emit target bytes).2=true then (target,bytes)::l.carrier.taken else l.carrier.taken :=
  rfl

/-- A link adds to the log the one frame that it was given, if the carrier takes it. -/
theorem inner_send (target : Destination) (bytes : List UInt8) :
    (l.send target bytes).1.carrier.taken.map Logged.inner=
      if (l.send target bytes).2=true then bytes::l.carrier.taken.map Logged.inner
      else l.carrier.taken.map Logged.inner := by
  have bare : (l.emit .broadcast bytes).1.carrier.taken.map Logged.inner=
      if (l.emit .broadcast bytes).2=true then bytes::l.carrier.taken.map Logged.inner
      else l.carrier.taken.map Logged.inner := by
    rw [taken_emit]
    split_ifs <;> rfl
  cases target with
  | everyone => exact bare
  | unit id =>
    have numbered {a : Address} (ha : a≠.broadcast) :
        (l.emit a (l.outbound.get id::bytes)).1.carrier.taken.map Logged.inner=
          if (l.emit a (l.outbound.get id::bytes)).2=true then
            bytes::l.carrier.taken.map Logged.inner
          else l.carrier.taken.map Logged.inner := by
      rw [taken_emit]
      split_ifs
      · cases a with
        | broadcast => exact absurd rfl ha
        | short => rfl
        | long => rfl
      · rfl
    cases ha : l.resolve id with
    | broadcast =>
      simp only [send,ha]
      exact bare
    | short unit =>
      have logged := numbered (a:=.short unit) nofun
      simp only [send,ha]
      split_ifs at logged ⊢ <;> exact logged
    | long hardware =>
      have logged := numbered (a:=.long hardware) nofun
      simp only [send,ha]
      split_ifs at logged ⊢ <;> exact logged

/-- How a unit is reached: under its own address, or through everyone if that is unknown. -/
def Reaches {τ : Type} (l : Link τ) (unit : UInt8) : Address → Prop
  | .broadcast => True
  | .short id => id=unit
  | .long hardware => l.learned[unit]?=some hardware

/-- Nothing but these frames was sent, all of them to one unit and in this order, over a carrier that
takes everything. -/
structure Tells (unit : UInt8) (frames : List (List UInt8)) (l r : Link (Logged σ)) : Prop where
  sent : ∃ new,r.carrier.taken=new++l.carrier.taken ∧ new.map Logged.inner=frames.reverse ∧
    ∀ x∈new,l.Reaches unit x.1
  learned : r.learned=l.learned
  willing : Carrier.Willing r.carrier.carrier

theorem tells_nothing (unit : UInt8) {l : Link (Logged σ)}
    (h : Carrier.Willing l.carrier.carrier) : Tells unit [] l l :=
  ⟨⟨[],rfl,rfl,nofun⟩,rfl,h⟩

theorem Tells.trans {unit : UInt8} {l m r : Link (Logged σ)} {a b : List (List UInt8)}
    (h : Tells unit a l m) (h' : Tells unit b m r) : Tells unit (a++b) l r := by
  obtain ⟨new,htaken,hinner,hreach⟩ := h.sent
  obtain ⟨new',htaken',hinner',hreach'⟩ := h'.sent
  refine ⟨⟨new'++new,?_,?_,fun x hx => ?_⟩,h'.learned.trans h.learned,h'.willing⟩
  · rw [htaken',htaken,List.append_assoc]
  · rw [List.map_append,hinner,hinner',List.reverse_append]
  · obtain hx | hx := List.mem_append.mp hx
    · have reach := hreach' x hx
      unfold Reaches at reach ⊢
      rwa [h.learned] at reach
    · exact hreach x hx

theorem tells_send {l : Link (Logged σ)} (h : Carrier.Willing l.carrier.carrier) (unit : UInt8)
    (bytes : List UInt8) : Tells unit [bytes] l (l.send (.unit unit) bytes).1 := by
  have ok (a : Address) (bs : List UInt8) : (l.emit a bs).2=true := h.takes a bs
  have emitted (a : Address) (bs : List UInt8) :
      (l.emit a bs).1.carrier.taken=[(a,bs)]++l.carrier.taken := by
    rw [taken_emit,if_pos (ok a bs)]
    rfl
  have known : l.Reaches unit (l.resolve unit) := by
    unfold resolve
    cases Carrier.addressing l.carrier with
    | short => rfl
    | long =>
      dsimp only
      cases hl : l.learned[unit]? with
      | none => trivial
      | some hardware => exact hl
  cases ha : l.resolve unit with
  | broadcast =>
    simp only [send,ha]
    exact ⟨⟨_,emitted .broadcast bytes,rfl,by simp [Reaches]⟩,rfl,h.send _ _⟩
  | short id =>
    rw [ha] at known
    simp only [send,ha,ok,if_true]
    exact ⟨⟨_,emitted (.short id) _,rfl,List.forall_mem_singleton.mpr known⟩,rfl,h.send _ _⟩
  | long hardware =>
    rw [ha] at known
    simp only [send,ha,ok,if_true]
    exact ⟨⟨_,emitted (.long hardware) _,rfl,List.forall_mem_singleton.mpr known⟩,rfl,h.send _ _⟩

/-- Listening adds nothing to the log. -/
theorem taken_receive : l.receive.1.carrier.taken=l.carrier.taken := by
  have learn (m : Link (Logged σ)) (source : UInt8) (a : Address) :
      (m.learn source a).carrier=m.carrier := by
    cases a <;> rfl
  have accept (m : Link (Logged σ)) (i : Inbound) : (m.accept i).1.carrier=m.carrier := by
    unfold Link.accept
    cases open? i with
    | none => rfl
    | some x =>
      dsimp only
      cases Frame.peekSource x.2 with
      | none => rfl
      | some source =>
        dsimp only
        cases x.1 with
        | none => exact learn ..
        | some n =>
          dsimp only
          split_ifs
          · exact learn ..
          · exact learn ..
  unfold receive
  cases h : Carrier.poll l.carrier with
  | mk carrier o =>
    have same : carrier.taken=l.carrier.taken := congrArg (fun x => x.1.taken) h.symm
    cases o with
    | none => exact same
    | some i => exact (congrArg Logged.taken (accept ..)).trans same

end Link

end Watering
