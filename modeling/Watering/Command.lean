import Watering.Document.Json
import Watering.Radio.Broker
import Watering.Text.UpperCase
import Watering.Text.Utf8

namespace Watering

inductive Command where
  | zoneOn (zone minutes : UInt8)
  | zoneOff (zone : UInt8)
  | stopAll
  | quickRun (durations : List UInt8)
deriving DecidableEq,Repr

inductive CommandError where
  | badMinutes (word : List Char)
  | noMinutes
  | unknownCommand (payload : List Char)
  | badQuickRun
  | unknownTopic (topic : Topic)
deriving DecidableEq,Repr

namespace CommandError

/-- The text of an error; that of a bad quick run is left open. -/
def message? : CommandError → Option String
  | badMinutes word => some ("bad run time '"++String.ofList word++"' (1-255 minutes)")
  | noMinutes => some "ON needs a run time in minutes"
  | unknownCommand payload => some ("unknown zone command '"++String.ofList payload++"'")
  | badQuickRun => none
  | unknownTopic topic => some ("unhandled topic="++String.ofList topic)

end CommandError

namespace Command

def zone? (t : Topic) : Option UInt8 :=
  match t.segments with
  | [root,n,last] =>
    if root="zone".toList ∧ last="set".toList then Numeral.octet? n else none
  | _ => none

/-- Trimmed text in upper case. -/
def normal (payload : List UInt8) : List Char := Text.upper (Text.trim (Utf8.decodeLossy payload))

/-- Minutes to turn a zone on for, none to turn it off. -/
def minutes? (payload : List UInt8) : Except CommandError (Option UInt8) :=
  let s := normal payload
  match Text.words s with
  | [word] =>
    if word="OFF".toList then .ok none
    else if word="ON".toList then .error .noMinutes
    else .error (.unknownCommand s)
  | [word,minutes] =>
    if word="ON".toList then
      match Numeral.octet? minutes with
      | some m => if m=0 then .error (.badMinutes minutes) else .ok (some m)
      | none => .error (.badMinutes minutes)
    else .error (.unknownCommand s)
  | _ => .error (.unknownCommand s)

def duration? : Document.Value → Option UInt8
  | .integer n => if 0≤n ∧ n≤255 then some (UInt8.ofNat n.toNat) else none
  | _ => none

/-- A list of minutes, or a table with such a list as its only `durations`. -/
def durations? : Document.Value → Option (List UInt8)
  | .list items => items.mapM duration?
  | .table fields =>
    match fields.filter (·.1=="durations") with
    | [(_,.list items)] => items.mapM duration?
    | _ => none
  | _ => none

/-- Levels of nesting that a quick run may hold. -/
def quickRunDepth : Nat := 127

def quickRun? (payload : List UInt8) : Option (List UInt8) := do
  durations? (← Document.Json.parse? quickRunDepth (← Utf8.decode? payload))

def parse (topic : Topic) (payload : List UInt8) : Except CommandError Command :=
  match zone? topic with
  | some zone =>
    match minutes? payload with
    | .error e => .error e
    | .ok (some minutes) => .ok (.zoneOn zone minutes)
    | .ok none => .ok (.zoneOff zone)
  | none =>
    if topic="zones/stop".toList then .ok .stopAll
    else if topic="quick/run".toList then
      match quickRun? payload with
      | some durations => .ok (.quickRun durations)
      | none => .error .badQuickRun
    else .error (.unknownTopic topic)

end Command

end Watering
