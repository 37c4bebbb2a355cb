import Watering.Document.Value
import Watering.Text.Numeral

namespace Watering.Document.Json

def digits? (s : List Char) : Option (List Char×List Char) :=
  match s.takeWhile Numeral.isDigit with
  | [] => none
  | ds => some (ds,s.dropWhile Numeral.isDigit)

def whole? : List Char → Option (List Char×List Char)
  | '0'::s => some (['0'],s)
  | s => digits? s

def fraction? : List Char → Option (List Char×List Char)
  | '.'::s => digits? s
  | s => some ([],s)

/-- The exponent behind `e` or `E`; none is written for `none`. -/
def exponent? : List Char → Option (Option Int×List Char)
  | c::s =>
    if c== 'e' || c== 'E' then
      let (negative,s) : Bool×List Char := match s with
        | '+'::s => (false,s)
        | '-'::s => (true,s)
        | s => (false,s)
      (digits? s).map fun (ds,s) =>
        (some (if negative then -(Numeral.value ds : Int) else Numeral.value ds),s)
    else some (none,c::s)
  | [] => some (none,[])

def significandBound : Nat := 1<<<64

/-- A significand that takes in digits up to the first without room, and the digits from there on. -/
def fill (n : Nat) : List Char → Nat×List Char
  | c::s =>
    let next := Numeral.value [c]+10*n
    if next< significandBound then fill next s else (n,c::s)
  | [] => (n,[])

/-- The nearest number whose binary digits behind the first 53 are zeros; a tie goes to the even
neighbour. -/
def nearest (n : Nat) : Nat :=
  let shift := n.log2-52
  let q := n>>>shift
  let rest := n-(q<<<shift)
  if 1<<<shift<2*rest ∨ (1<<<shift=2*rest ∧ q%2=1) then (q+1)<<<shift else q<<<shift

def exponentLimit : Nat := 308

def power (exponent : Nat) : Nat := nearest (Nat.pow 10 (min exponentLimit exponent))

/-- Scaled by a power of ten a significand rounds to no finite number. -/
def overflows (significand : Nat) (exponent : Int) : Bool :=
  if significand=0 ∨ exponent<0 then false
  else exponentLimit<exponent || finiteBound≤nearest significand*power exponent.toNat

/-- The binary number that stands for `mantissa*10^exponent`. -/
def float (mantissa exponent : Int) : Float :=
  let x := Float.ofInt mantissa
  let n := exponent.natAbs
  if 0≤exponent then x*Float.ofNat (power n)
  else if n≤exponentLimit then x/Float.ofNat (power n)
  else x/Float.ofNat (power exponentLimit)/Float.ofNat (power (n-exponentLimit))

/-- Without fraction and exponent an integer if it has 64 bits, `-0` apart. -/
def number? (s : List Char) : Option (Value×List Char) := do
  let (negative,s) : Bool×List Char := match s with
    | '-'::s => (true,s)
    | s => (false,s)
  let (ds,s) ← whole? s
  let (fs,s) ← fraction? s
  let (e,s) ← exponent? s
  let (n,surplus) := fill 0 ds
  let (m,cut) := fill n fs
  let exponent := e.getD 0+surplus.length-(fs.length-cut.length)
  let signed : Int := if negative then -m else m
  let isInteger := fs==[] && e==none && surplus==[]
  if isInteger && !(negative && (m==0 || significandBound<2*m)) then return (.integer signed,s)
  else if overflows m exponent then none
  else return (.decimal signed exponent,s)

end Watering.Document.Json
