import Watering.Controller.Reports
import Watering.Controller.Service

namespace Watering.Controller

variable {σ : Type} [Carrier σ]

/-- A frame concerns its target; some requests may go to all units at once. -/
def isAddressed (c : Controller σ) (f : Frame) : Bool :=
  f.target==c.unit || (f.target==broadcastUnit && f.function.isBroadcastable)

def process (c : Controller σ) (bytes : List UInt8) : Controller σ×Outcome :=
  match Frame.decode bytes with
  | .error e => (c,.dropped (.malformed e))
  | .ok f =>
    if !c.isAddressed f then (c,.dropped (.notForUs f.target))
    else if f.function.isRequest then
      if c.role.serves then c.serve f else (c,.dropped (.wrongRole f.function))
    else if c.role.consumes then c.consume f
    else (c,.dropped (.wrongRole f.function))

/-- Take in at most one frame. -/
def poll (c : Controller σ) : Controller σ×Option Outcome :=
  match c.link.receive with
  | (link,none) => ({c with link},none)
  | (link,some delivery) =>
    let (c,outcome) := process {c with link} delivery.frame
    (c,some outcome)

end Watering.Controller
