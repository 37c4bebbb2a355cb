namespace Watering.Document

inductive Value where
  | null
  | boolean (b : Bool)
  | integer (n : Int)
  /-- A number that is not written as an integer: `mantissa*10^exponent`. -/
  | decimal (mantissa exponent : Int)
  /-- An infinity, or what is no number. -/
  | nonFinite
  | text (s : String)
  /-- A date, a time or both. -/
  | moment
  | list (items : List Value)
  /-- Fields in the order they are written. -/
  | table (fields : List (String×Value))

/-- Numbers from here on round to no finite binary number of 64 bits. -/
def finiteBound : Nat := (1<<<1024)-(1<<<970)

namespace Value

instance : Inhabited Value := ⟨null⟩

/-- The value of a field; where a key comes twice, its last value. -/
def field? (v : Value) (key : String) : Option Value :=
  match v with
  | table fields => fields.reverse.lookup key
  | _ => none

end Value

end Watering.Document
