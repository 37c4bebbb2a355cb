import Std.Data.TreeMap
import Watering.Frame.Wire
import Watering.Radio.Carrier
import Watering.Radio.UnitTable

namespace Watering

inductive Destination where
  | everyone
  | unit (id : UInt8)
deriving DecidableEq,Repr

structure Delivery where
  frame : List UInt8
  source : UInt8
  rssi : UInt8
  broadcast : Bool
deriving DecidableEq,Repr

structure LinkStats where
  rssi : UInt8 := 0
  lastTick : Nat := 0
  frames : Nat := 0
  duplicates : Nat := 0
deriving DecidableEq,Repr

instance : Inhabited LinkStats := ⟨{}⟩

/-- Stands for the number of a unit that no frame came from yet; no frame carries it. -/
def unseen : UInt8 := 255

def nextSequence (n : UInt8) : UInt8 := if 254≤n then 0 else n+1

/-- Letters to one unit are numbered, and what arrives twice in a row is dropped. -/
structure Link (σ : Type) where
  carrier : σ
  outbound : UnitTable UInt8 := .fill 0
  lastSeen : UnitTable UInt8 := .fill unseen
  learned : Std.TreeMap UInt8 UInt64 := {}
  stats : Std.TreeMap UInt8 LinkStats := {}
  tick : Nat := 0

namespace Link

variable {σ τ : Type}

def withCarrier (l : Link σ) (carrier : τ) : Link τ :=
  ⟨carrier,l.outbound,l.lastSeen,l.learned,l.stats,l.tick⟩

variable [Carrier σ]

def resolve (l : Link σ) (unit : UInt8) : Address :=
  match Carrier.addressing l.carrier with
  | .short => .short unit
  | .long => match l.learned[unit]? with
    | some hardware => .long hardware
    | none => .broadcast

def emit (l : Link σ) (target : Address) (bytes : List UInt8) : Link σ×Bool :=
  let (carrier,ok) := Carrier.send l.carrier target bytes
  ({l with carrier},ok)

/-- Send a frame; a unit's counter moves on only when the carrier took it. -/
def send (l : Link σ) (target : Destination) (frame : List UInt8) : Link σ×Bool :=
  match target with
  | .everyone => l.emit .broadcast frame
  | .unit id =>
    match l.resolve id with
    | .broadcast => l.emit .broadcast frame
    | address =>
      let n := l.outbound.get id
      let (l,ok) := l.emit address (n::frame)
      (if ok then {l with outbound:=l.outbound.set id (nextSequence n)} else l,ok)

/-- The number and the frame inside what the carrier handed over. -/
def open? (i : Inbound) : Option (Option UInt8×List UInt8) :=
  if i.broadcast then some (none,i.payload)
  else match i.payload with
    | [] => none
    | n::frame => some (some n,frame)

/-- Remember the hardware address that a unit's frame came from. -/
def learn (l : Link σ) (source : UInt8) : Address → Link σ
  | .long hardware => {l with learned:=l.learned.insert source hardware}
  | _ => l

def note (l : Link σ) (source rssi : UInt8) (duplicate : Bool) : Link σ :=
  let s := l.stats.getD source default
  let frames := if duplicate then s.frames else s.frames+1
  let duplicates := if duplicate then s.duplicates+1 else s.duplicates
  {l with stats:=l.stats.insert source ⟨rssi,l.tick,frames,duplicates⟩}

def accept (l : Link σ) (i : Inbound) : Link σ×Option Delivery :=
  match open? i with
  | none => (l,none)
  | some (number,frame) =>
    match Frame.peekSource frame with
    | none => (l,none)
    | some source =>
      let l := l.learn source i.sender
      let delivery : Delivery := ⟨frame,source,i.rssi,i.broadcast⟩
      match number with
      | none => (l.note source i.rssi false,some delivery)
      | some n =>
        if l.lastSeen.get source=n then (l.note source i.rssi true,none)
        else ({l.note source i.rssi false with lastSeen:=l.lastSeen.set source n},some delivery)

/-- The next frame, if one arrived that is no duplicate and has a readable header. -/
def receive (l : Link σ) : Link σ×Option Delivery :=
  match Carrier.poll l.carrier with
  | (carrier,none) => ({l with carrier},none)
  | (carrier,some i) => accept {l with carrier} i

end Link

end Watering
