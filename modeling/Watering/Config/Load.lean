import Watering.Config.Finding
import Watering.Config.Reader
import Watering.Document.Toml
import Watering.Text.Utf8

namespace Watering

inductive LoadError where
  /-- No file, or one that is no text. -/
  | unreadable
  /-- No TOML, or fields that are missing or of another kind. -/
  | malformed
  | invalid (findings : List Config.Finding)
deriving DecidableEq,Repr

def Config.load (file : Option (List UInt8)) : Except LoadError Config :=
  match file.bind Utf8.decode? with
  | none => .error .unreadable
  | some text =>
    match (Document.Toml.parse? text).bind (Config.ofValue? .toml) with
    | none => .error .malformed
    | some c => if c.Valid then .ok c else .error (.invalid c.findings)

end Watering
