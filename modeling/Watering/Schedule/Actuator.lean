import Watering.Zone.Status

namespace Watering

class Actuator (α : Type) where
  turnOn : α → ZoneRun → α×Bool
  turnOffAll : α → α
  /-- Stop everything, whatever it is. -/
  stopAll : α → α
  /-- Minutes that no single run exceeds. -/
  maxRun : α → UInt8

inductive Call where
  | turnOn (run : ZoneRun)
  | turnOffAll
  | stopAll
deriving DecidableEq,Repr

/-- An actuator with a record of its calls, newest first. -/
structure Recorded (α : Type) where
  actuator : α
  callsRev : List Call := []

def Recorded.calls {α : Type} (r : Recorded α) : List Call := r.callsRev.reverse

instance {α : Type} [Actuator α] : Actuator (Recorded α) where
  turnOn r run :=
    let (actuator,ok) := Actuator.turnOn r.actuator run
    (⟨actuator,.turnOn run::r.callsRev⟩,ok)
  turnOffAll r := ⟨Actuator.turnOffAll r.actuator,.turnOffAll::r.callsRev⟩
  stopAll r := ⟨Actuator.stopAll r.actuator,.stopAll::r.callsRev⟩
  maxRun r := Actuator.maxRun r.actuator

/-- An actuator without zones that starts what it is allowed to. -/
structure IdleActuator where
  maxRun : UInt8
  accepts : ZoneRun → Bool := fun _ => true

instance : Actuator IdleActuator where
  turnOn a run := (a,a.accepts run)
  turnOffAll a := a
  stopAll a := a
  maxRun a := a.maxRun

end Watering
