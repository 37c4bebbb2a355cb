import Watering.Proofs.Radio.Logged

namespace Watering

/-- Any carrier, with all that it was given and what it said to that, newest first. -/
structure Attempted (σ : Type) where
  carrier : σ
  attempts : List ((Address×List UInt8)×Bool) := []

instance {σ : Type} [Carrier σ] : Carrier (Attempted σ) where
  addressing a := Carrier.addressing a.carrier
  send a target bytes :=
    let (carrier,ok) := Carrier.send a.carrier target bytes
    (⟨carrier,((target,bytes),ok)::a.attempts⟩,ok)
  poll a :=
    let (carrier,i) := Carrier.poll a.carrier
    ({a with carrier},i)

/-- The frames that the carrier was given, each with whether it was taken, newest first. -/
def Attempted.frames {σ : Type} (a : Attempted σ) : List (Frame×Bool) :=
  a.attempts.filterMap fun x =>
    (Frame.decode (Logged.inner x.1)).toOption.map (·,x.2)

variable {σ : Type} [Carrier σ]

/-- A link gives the carrier one frame, and passes on what the carrier says. -/
theorem Link.attempts_send (l : Link (Attempted σ)) (target : Destination) (bytes : List UInt8) :
    ∃ x,(l.send target bytes).1.carrier.attempts=
      (x,(l.send target bytes).2)::l.carrier.attempts ∧ Logged.inner x=bytes := by
  have counted (m : Link (Attempted σ)) (ok : Bool) (outbound : UnitTable UInt8) :
      (if ok then {m with outbound} else m).carrier=m.carrier := by
    split_ifs <;> rfl
  cases target with
  | everyone => exact ⟨_,rfl,rfl⟩
  | unit id =>
    cases ha : l.resolve id with
    | broadcast =>
      simp only [send,ha]
      exact ⟨_,rfl,rfl⟩
    | short | long =>
      simp only [send,ha,counted]
      exact ⟨_,rfl,rfl⟩

end Watering
