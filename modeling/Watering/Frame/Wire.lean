import Watering.Frame.Payload

namespace Watering

def protocolId : UInt8 := 1

def headerLength : Nat := 6

def maxPayload : Nat := 255

inductive FrameError where
  | tooShort (length : Nat)
  | protocolId (found : UInt8)
  | lengthMismatch (declared actual : Nat)
  | unknownFunction (code : UInt8)
  | payload (function : Function) (length : Nat)
  | oversized (length : Nat)
deriving DecidableEq,Repr

namespace FrameError

def message : FrameError → String
  | tooShort n => "frame too short ("++toString n++" bytes)"
  | protocolId p => "bad protocol id "++toString p.toNat
  | lengthMismatch d a =>
    "declared length "++toString d++" does not match payload length "++toString a
  | unknownFunction c => "unknown function code "++toString c.toNat
  | payload f n => "malformed "++f.name++" payload ("++toString n++" bytes)"
  | oversized n => "payload of "++toString n++" bytes does not fit in one frame"

end FrameError

namespace Frame

def encode (f : Frame) : Except FrameError (List UInt8) :=
  let payload := f.message.payload
  if maxPayload<payload.length then .error (.oversized payload.length)
  else .ok ([Watering.protocolId,f.transaction,f.target,f.source,UInt8.ofNat payload.length,
    f.function.code]++payload)

def decode (bytes : List UInt8) : Except FrameError Frame :=
  match bytes with
  | protocol::transaction::target::source::declared::code::payload =>
    if protocol≠Watering.protocolId then .error (.protocolId protocol)
    else if declared.toNat≠payload.length then
      .error (.lengthMismatch declared.toNat payload.length)
    else match Function.ofCode? code with
      | none => .error (.unknownFunction code)
      | some function => match Message.ofPayload? function payload with
        | none => .error (.payload function payload.length)
        | some message => .ok ⟨transaction,target,source,message⟩
  | _ => .error (.tooShort bytes.length)

/-- The unit that a run of octets claims to come from, if it has room for a header of ours. -/
def peekSource (bytes : List UInt8) : Option UInt8 :=
  match bytes with
  | protocol::_::_::source::_::_::_ => if protocol=Watering.protocolId then some source else none
  | _ => none

end Frame

end Watering
