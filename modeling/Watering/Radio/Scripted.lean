import Watering.Radio.Carrier

namespace Watering

structure ScriptedRadio where
  kind : Addressing
  /-- Whether the `n`-th send is taken. -/
  verdict : Nat → Bool := fun _ => true
  /-- What is still to arrive, in order. -/
  arrivals : List Inbound := []
  /-- Every send and its verdict, newest first. -/
  sendsRev : List (Address×List UInt8×Bool) := []

namespace ScriptedRadio

def sends (r : ScriptedRadio) : List (Address×List UInt8×Bool) := r.sendsRev.reverse

end ScriptedRadio

instance : Carrier ScriptedRadio where
  addressing r := r.kind
  send r target bytes :=
    let ok := r.verdict r.sendsRev.length
    ({r with sendsRev:=(target,bytes,ok)::r.sendsRev},ok)
  poll r := match r.arrivals with
    | i::arrivals => ({r with arrivals},some i)
    | [] => (r,none)

end Watering
