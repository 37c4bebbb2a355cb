namespace Watering.Hex

def digit? (c : Char) : Option Nat :=
  if '0'≤c ∧ c≤ '9' then some (c.toNat-48)
  else if 'a'≤c ∧ c≤ 'f' then some (c.toNat-87)
  else if 'A'≤c ∧ c≤ 'F' then some (c.toNat-55)
  else none

def value? (digits : List Char) : Option Nat :=
  digits.foldlM (fun n c => (digit? c).map (16*n+·)) 0

def digit (n : Nat) : Char := Char.ofNat (if n<10 then 48+n else 87+n)

def digits (width n : Nat) : List Char :=
  ((List.range width).map fun i => digit (n>>>(4*i)%16)).reverse

def render (bytes : List UInt8) : List Char := bytes.flatMap fun b => digits 2 b.toNat

def octets? : List Char → Option (List UInt8)
  | [] => some []
  | a::b::s => do
    let n ← value? [a,b]
    return UInt8.ofNat n::(← octets? s)
  | _ => none

end Watering.Hex
