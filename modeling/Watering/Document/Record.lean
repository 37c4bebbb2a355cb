import Watering.Document.Value

namespace Watering.Document

/-- What the formats of documents differ in. -/
structure Dialect where
  /-- Whether a record written as a list may have more items than the record has keys. -/
  allowsSurplus : Bool
  /-- What stands for nothing behind a name. -/
  isNothing : Value → Bool

namespace Dialect

def json : Dialect where
  allowsSurplus := false
  isNothing
    | .null => true
    | _ => false

def toml : Dialect where
  allowsSurplus := true
  isNothing
    | .list [] | .table [] => true
    | _ => false

end Dialect

/-- The values of a record by their keys. -/
abbrev Record := String → Option Value

namespace Value

/-- A table, or a list with the values in the order of the keys. -/
def record? (d : Dialect) (keys : List String) (v : Value) : Option Record :=
  match v with
  | table _ => some v.field?
  | list items =>
    if !d.allowsSurplus && keys.length< items.length then none
    else some fun key => items[keys.idxOf key]?
  | _ => none

def boolean? : Value → Option Bool
  | boolean b => some b
  | _ => none

def text? : Value → Option String
  | text s => some s
  | _ => none

def integer? (low high : Int) : Value → Option Int
  | integer n => if low≤n ∧ n≤high then some n else none
  | _ => none

def octet? (v : Value) : Option UInt8 := (v.integer? 0 255).map fun n => UInt8.ofNat n.toNat

def word? (v : Value) : Option UInt16 := (v.integer? 0 65535).map fun n => UInt16.ofNat n.toNat

def list? {α : Type} (f : Value → Option α) : Value → Option (List α)
  | list items => items.mapM f
  | _ => none

def orNull? {α : Type} (f : Value → Option α) : Value → Option (Option α)
  | null => some none
  | v => (f v).map some

/-- One of several names, written as a text or as the only key of a table with nothing behind it. -/
def name? {α : Type} (d : Dialect) (ofName? : String → Option α) : Value → Option α
  | text s => ofName? s
  | table fields =>
    match fields.reverse with
    | (key,v)::rest => if rest.all (·.1==key) && d.isNothing v then ofName? key else none
    | [] => none
  | _ => none

end Value

namespace Record

variable {α : Type}

def need (r : Record) (key : String) (f : Value → Option α) : Option α := (r key).bind f

def take (r : Record) (key : String) (f : Value → Option α) (default : α) : Option α :=
  match r key with
  | none => some default
  | some v => f v

end Record

end Watering.Document
