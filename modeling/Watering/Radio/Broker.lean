import Watering.Radio.Carrier
import Watering.Text.Blank
import Watering.Text.Numeral

namespace Watering

abbrev Topic := List Char

namespace Topic

def segments (t : Topic) : List (List Char) := Text.splitOn (·== '/') t

end Topic

namespace Broker

def unicastTopic (network : List Char) (unit : UInt8) : Topic :=
  "rf/".toList++network++ '/'::(toString unit.toNat).toList

def broadcastTopic (network : List Char) : Topic := "rf/".toList++network++"/bcast".toList

/-- Whom a topic of the network addresses. -/
def target? (network : List Char) (t : Topic) : Option Address :=
  match t.segments with
  | [root,name,last] =>
    if root="rf".toList ∧ name=network then
      if last="bcast".toList then some .broadcast else (Numeral.octet? last).map .short
    else none
  | _ => none

/-- Bit 0 of the flags marks a broadcast. -/
def wrap (sender : UInt8) (broadcast : Bool) (frame : List UInt8) : List UInt8 :=
  sender::(if broadcast then 1 else 0)::frame

def unwrap? : List UInt8 → Option (UInt8×UInt8×List UInt8)
  | sender::flags::frame => some (sender,flags,frame)
  | _ => none

/-- What a unit takes from a publish; its own publishes come back from the broker and are no news. -/
def inbound? (network : List Char) (unit : UInt8) (t : Topic) (payload : List UInt8) :
    Option Inbound :=
  match target? network t,unwrap? payload with
  | some target,some (sender,flags,frame) =>
    if sender=unit then none
    else some ⟨frame,.short sender,0,target=.broadcast || flags &&& 1 != 0⟩
  | _,_ => none

structure Publication where
  topic : Topic
  payload : List UInt8
deriving DecidableEq

/-- What is between a station and the broker; `publish` tells whether it took the publication. -/
class Client (κ : Type) where
  publish : κ → Publication → κ×Bool

end Broker

structure BrokerRadio (κ : Type) where
  client : κ
  network : List Char
  unit : UInt8
  /-- What arrived and was not polled yet, oldest first. -/
  arrived : List Inbound := []

namespace BrokerRadio

variable {κ : Type}

def subscriptions (r : BrokerRadio κ) : List Topic :=
  [Broker.unicastTopic r.network r.unit,Broker.broadcastTopic r.network]

def hear (r : BrokerRadio κ) (p : Broker.Publication) : BrokerRadio κ :=
  match Broker.inbound? r.network r.unit p.topic p.payload with
  | some i => {r with arrived:=r.arrived++[i]}
  | none => r

/-- What goes out for an address; hardware addresses have no topic. -/
def publication? (r : BrokerRadio κ) (frame : List UInt8) : Address → Option Broker.Publication
  | .broadcast => some ⟨Broker.broadcastTopic r.network,Broker.wrap r.unit true frame⟩
  | .short unit => some ⟨Broker.unicastTopic r.network unit,Broker.wrap r.unit false frame⟩
  | .long _ => none

end BrokerRadio

instance {κ : Type} [Broker.Client κ] : Carrier (BrokerRadio κ) where
  addressing _ := .short
  send r target frame := match r.publication? frame target with
    | some p =>
      let (client,taken) := Broker.Client.publish r.client p
      ({r with client},taken)
    | none => (r,false)
  poll r := match r.arrived with
    | i::arrived => ({r with arrived},some i)
    | [] => (r,none)

end Watering
