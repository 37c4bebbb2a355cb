import Std.Data.TreeMap
import Watering.Radio.Carrier

namespace Watering

structure Bus where
  /-- Which transceiver hears an id: the latest attached under it. -/
  listeners : Std.TreeMap UInt8 Nat := {}
  /-- What waits for each transceiver that somebody holds, oldest first. -/
  queues : Std.TreeMap Nat (List Inbound) := {}
  /-- How many transceivers were attached so far. -/
  attached : Nat := 0

/-- The hardware address of an id on the bus. -/
def hardwareOf (id : UInt8) : UInt64 := 0x0013A20000000000 ||| id.toUInt64

structure Transceiver where
  number : Nat
  id : UInt8
  addressing : Addressing
  /-- While down, every send is refused. -/
  linkUp : Bool := true
  /-- How many of the next sends get lost on the air. -/
  loseNext : Nat := 0
  /-- All that was taken for sending, newest first. -/
  sentRev : List (Address×List UInt8) := []

namespace Bus

/-- Attach a transceiver; it takes over the id from an earlier one. -/
def attach (b : Bus) (id : UInt8) (addressing : Addressing) : Bus×Transceiver :=
  ({listeners:=b.listeners.insert id b.attached,queues:=b.queues.insert b.attached [],
    attached:=b.attached+1},{number:=b.attached,id,addressing})

/-- Let go of a transceiver; it hears nothing any more. -/
def detach (b : Bus) (t : Transceiver) : Bus := {b with queues:=b.queues.erase t.number}

/-- The transceiver that hears an id, if somebody holds it. -/
def listener? (b : Bus) (id : UInt8) : Option Nat := (b.listeners[id]?).filter b.queues.contains

def put (b : Bus) (number : Nat) (i : Inbound) : Bus :=
  {b with queues:=b.queues.modify number (·++[i])}

/-- Carry something to those that its address names; a broadcast reaches every other id. -/
def deliver (b : Bus) (source : UInt8) (target : Address) (i : Inbound) : Bus×Bool :=
  match target with
  | .broadcast =>
    (((b.listeners.keys.filter (·≠source)).filterMap b.listener?).foldl (·.put · i) b,true)
  | .short id => match b.listener? id with
    | some n => (b.put n i,true)
    | none => (b,false)
  | .long hardware =>
    match (b.listeners.keys.find? (hardwareOf ·==hardware)).bind b.listener? with
    | some n => (b.put n i,true)
    | none => (b,false)

def collect (b : Bus) (t : Transceiver) : Bus×Option Inbound :=
  match b.queues[t.number]? with
  | some (i::queue) => ({b with queues:=b.queues.insert t.number queue},some i)
  | _ => (b,none)

def drain (b : Bus) (t : Transceiver) : Bus×List Inbound :=
  match b.queues[t.number]? with
  | some queue => ({b with queues:=b.queues.insert t.number []},queue)
  | none => (b,[])

end Bus

namespace Transceiver

def address (t : Transceiver) : Address :=
  match t.addressing with
  | .short => .short t.id
  | .long => .long (hardwareOf t.id)

def sent (t : Transceiver) : List (Address×List UInt8) := t.sentRev.reverse

def logSent (t : Transceiver) (target : Address) (bytes : List UInt8) : Transceiver :=
  {t with sentRev:=(target,bytes)::t.sentRev}

def send (t : Transceiver) (b : Bus) (target : Address) (bytes : List UInt8) :
    (Transceiver×Bus)×Bool :=
  if !t.linkUp then ((t,b),false)
  else if 0<t.loseNext then (({t with loseNext:=t.loseNext-1}.logSent target bytes,b),true)
  else
    match b.deliver t.id target ⟨bytes,t.address,0,target=.broadcast⟩ with
    | (b,true) => ((t.logSent target bytes,b),true)
    | (b,false) => ((t,b),false)

end Transceiver

/-- A transceiver together with the bus it is attached to. -/
instance : Carrier (Transceiver×Bus) where
  addressing t := t.1.addressing
  send t target bytes := t.1.send t.2 target bytes
  poll t :=
    let (b,i) := t.2.collect t.1
    ((t.1,b),i)

end Watering
