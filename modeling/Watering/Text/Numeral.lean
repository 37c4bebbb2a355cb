namespace Watering.Numeral

def isDigit (c : Char) : Bool := '0'≤c && c≤ '9'

def value (digits : List Char) : Nat := digits.foldl (fun n d => 10*n+(d.toNat-48)) 0

def unsigned : List Char → List Char
  | '+'::s => s
  | s => s

/-- The value of a numeral that is at most `limit`. -/
def upTo? (limit : Nat) (s : List Char) : Option Nat :=
  let digits := unsigned s
  if digits≠[] ∧ digits.all isDigit ∧ value digits≤limit then some (value digits) else none

def octet? (s : List Char) : Option UInt8 := (upTo? 255 s).map UInt8.ofNat

end Watering.Numeral
