namespace Watering

inductive Address where
  | broadcast
  /-- The unit id itself. -/
  | short (unit : UInt8)
  /-- A hardware address, to be learned. -/
  | long (hardware : UInt64)
deriving DecidableEq,Repr

inductive Addressing where
  | short
  | long
deriving DecidableEq,Repr

/-- What a carrier hands over; `rssi` is 0 for a carrier that measures none. -/
structure Inbound where
  payload : List UInt8
  sender : Address
  rssi : UInt8 := 0
  broadcast : Bool := false
deriving DecidableEq,Repr

/-- `send` tells whether the carrier took the octets, `poll` hands over the next that arrived. -/
class Carrier (σ : Type) where
  addressing : σ → Addressing
  send : σ → Address → List UInt8 → σ×Bool
  poll : σ → σ×Option Inbound

end Watering
