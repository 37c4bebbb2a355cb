import Watering.Controller.Inbox
import Watering.Controller.Upkeep
import Watering.Radio.Bus

namespace Watering

namespace Controller

def onBus {β : Type} (c : Controller Transceiver) (bus : Bus)
    (f : Controller (Transceiver×Bus) → Controller (Transceiver×Bus)×β) :
    Controller Transceiver×Bus×β :=
  let (c,answer) := f (c.withCarrier (c.link.carrier,bus))
  (c.withCarrier c.link.carrier.1,c.link.carrier.2,answer)

end Controller

/-- Controllers on one bus; each holds its transceiver only, and is given the bus to act. -/
structure Network where
  bus : Bus := {}
  nodes : List (Controller Transceiver) := []

namespace Network

/-- Attach a transceiver to the bus and switch on a controller with it. -/
def join (n : Network) (id : UInt8) (addressing : Addressing)
    (controller : Transceiver → Controller Transceiver) : Network :=
  let (bus,t) := n.bus.attach id addressing
  {bus,nodes:=n.nodes++[controller t]}

def act {β : Type} (n : Network) (i : Nat)
    (f : Controller (Transceiver×Bus) → Controller (Transceiver×Bus)×β) : Network×Option β :=
  match n.nodes[i]? with
  | none => (n,none)
  | some c =>
    let (c,bus,answer) := c.onBus n.bus f
    ({bus,nodes:=n.nodes.set i c},some answer)

def modify (n : Network) (i : Nat) (f : Controller Transceiver → Controller Transceiver) :
    Network := {n with nodes:=n.nodes.modify i f}

def setClock (n : Network) (clock : Instant) : Network :=
  {n with nodes:=n.nodes.map fun c => {c with clock}}

/-- Let seconds pass, each with a tick of the `i`-th controller. -/
def pass (n : Network) (i : Nat) (clock : Instant) : Nat → Network
  | 0 => n
  | seconds+1 =>
    let clock := clock.shift 1
    let (n,_) := (n.setClock clock).act i fun c => (c.tick,())
    n.pass i clock seconds

/-- Let each of some controllers in turn take in at most one frame; what became of the frames, by
controller. -/
def pollEach (n : Network) : List Nat → Network×List (Nat×Outcome)
  | [] => (n,[])
  | i::rest =>
    let (n,outcome) := n.act i Controller.poll
    let (n,outcomes) := n.pollEach rest
    (n,((outcome.join.map (i,·)).toList++outcomes))

end Network

end Watering
