import Watering.Document.Value
import Watering.Text.Hex
import Watering.Text.Numeral

namespace Watering.Document.Toml

/-- Integers lie below this number, and not below its negative. -/
def integerBound : Nat := 0x8000000000000000

def isDigit (radix : Nat) (c : Char) : Bool := (Hex.digit? c).any (·<radix)

/-- The digits behind a digit, single underscores between them, and what follows. -/
def moreDigits? (radix : Nat) : List Char → Option (List Char×List Char)
  | '_'::c::s =>
    if isDigit radix c then (moreDigits? radix s).map fun (ds,s) => (c::ds,s) else none
  | c::s =>
    if isDigit radix c then (moreDigits? radix s).map fun (ds,s) => (c::ds,s)
    else if c== '_' then none
    else some ([],c::s)
  | [] => some ([],[])

/-- Digits below `radix`, at least one, with single underscores between them. -/
def digits? (radix : Nat) : List Char → Option (List Char×List Char)
  | c::s =>
    if isDigit radix c then (moreDigits? radix s).map fun (ds,s) => (c::ds,s) else none
  | [] => none

def whole? : List Char → Option (List Char×List Char)
  | '0'::s => some (['0'],s)
  | s => digits? 10 s

def radixInteger? (radix : Nat) (s : List Char) : Option (Value×List Char) := do
  let (ds,s) ← digits? radix s
  let n := ds.foldl (fun n c => radix*n+(Hex.digit? c).getD 0) 0
  if n< integerBound then some (.integer n,s) else none

def exponent? (s : List Char) : Option (Int×List Char) := do
  let (negative,s) : Bool×List Char := match s with
    | '+'::s => (false,s)
    | '-'::s => (true,s)
    | s => (false,s)
  let (ds,s) ← digits? 10 s
  return (if negative then -(Numeral.value ds : Int) else Numeral.value ds,s)

/-- `mantissa*10^exponent` rounds to a finite binary number of 64 bits. -/
def isFinite (mantissa : Nat) (exponent : Int) : Bool :=
  let magnitude := (Nat.toDigits 10 mantissa).length+exponent
  if mantissa=0 ∨ magnitude<300 then true
  else if 310< magnitude then false
  else mantissa*Nat.pow 10 exponent.toNat<finiteBound*Nat.pow 10 (-exponent).toNat

/-- A decimal number; a positive one is refused if it is too large for a binary number of 64 bits. -/
def decimal? (negative : Bool) (digits : List Char) (exponent : Int) : Option Value :=
  let m := Numeral.value digits
  if isFinite m exponent then some (.decimal (if negative then -m else m) exponent)
  else if negative then some .nonFinite else none

/-- A number behind its sign. -/
def unsigned? (negative : Bool) (s : List Char) : Option (Value×List Char) :=
  match s with
  | 'i':: 'n':: 'f'::s => some (.nonFinite,s)
  | 'n':: 'a':: 'n'::s => some (.nonFinite,s)
  | s => do
    let (ds,s) ← whole? s
    match s with
    | '.'::s =>
      let (fs,s) ← digits? 10 s
      let (e,s) ← match s with
        | c::r => if c== 'e' || c== 'E' then exponent? r else some (0,s)
        | [] => some (0,[])
      return (← decimal? negative (ds++fs) (e-fs.length),s)
    | c::r =>
      if c== 'e' || c== 'E' then
        let (e,s) ← exponent? r
        return (← decimal? negative ds e,s)
      else integer? ds s
    | [] => integer? ds []
where
  integer? (ds s : List Char) : Option (Value×List Char) :=
    let n := Numeral.value ds
    if n< integerBound ∨ (negative ∧ n=integerBound) then
      some (.integer (if negative then -n else n),s)
    else none

def number? : List Char → Option (Value×List Char)
  | '0':: 'x'::s => radixInteger? 16 s
  | '0':: 'o'::s => radixInteger? 8 s
  | '0':: 'b'::s => radixInteger? 2 s
  | '+'::s => unsigned? false s
  | '-'::s => unsigned? true s
  | s => unsigned? false s

def pair? (low high : Nat) : List Char → Option (Nat×List Char)
  | a::b::s =>
    let n := Numeral.value [a,b]
    if Numeral.isDigit a ∧ Numeral.isDigit b ∧ low≤n ∧ n≤high then some (n,s) else none
  | _ => none

def expect? (c : Char) : List Char → Option (List Char)
  | d::s => if c==d then some s else none
  | [] => none

/-- The text behind a time of the day. -/
def time? (s : List Char) : Option (List Char) := do
  let (_,s) ← pair? 0 23 s
  let (_,s) ← pair? 0 59 (← expect? ':' s)
  let (_,s) ← pair? 0 60 (← expect? ':' s)
  match s with
  | '.'::d::r => return if Numeral.isDigit d then r.dropWhile Numeral.isDigit else s
  | s => return s

def offset? : List Char → Option (List Char)
  | 'Z'::s | 'z'::s => some s
  | c::s =>
    if c== '+' || c== '-' then do
      let (_,s) ← pair? 0 23 s
      let (_,s) ← pair? 0 59 (← expect? ':' s)
      return s
    else some (c::s)
  | [] => some []

def daysIn (year month : Nat) : Nat :=
  if month=2 then if year%4=0 ∧ (year%100≠0 ∨ year%400=0) then 29 else 28
  else if month=4 ∨ month=6 ∨ month=9 ∨ month=11 then 30
  else 31

/-- The text behind a date and the time that may follow it, behind a `T` or one blank. -/
def date? (year : Nat) (s : List Char) : Option (List Char) := do
  let (month,s) ← pair? 1 12 s
  let (_,s) ← pair? 1 (daysIn year month) (← expect? '-' s)
  match s with
  | c::r =>
    if c== 'T' || c== 't' then offset? (← time? r)
    else if c== ' ' ∧ (pair? 0 23 r).any (fun (_,r) => r.head?==some ':') then offset? (← time? r)
    else return s
  | [] => return []

/-- Digits that a hyphen or a colon follows begin a date or a time; all else is a number. -/
def scalarNumber? (s : List Char) : Option (Value×List Char) :=
  match s with
  | a::b::c::d:: '-'::r =>
    if [a,b,c,d].all Numeral.isDigit then
      (date? (Numeral.value [a,b,c,d]) r).map (Value.moment,·)
    else number? s
  | a::b:: ':'::_ =>
    if Numeral.isDigit a && Numeral.isDigit b then (time? s).map (Value.moment,·) else number? s
  | s => number? s

end Watering.Document.Toml
