namespace Watering.Utf8

/-- A character under way: its bits so far, the octets it still needs, and the bounds of the next. -/
structure Partial where
  code : Nat
  need : Nat
  low : UInt8
  high : UInt8

/-- What the first octet of a character says: the character itself, or what has to follow. -/
def lead (b : UInt8) : Option (Char ⊕ Partial) :=
  let n := b.toNat
  if b<0x80 then some (.inl (Char.ofNat n))
  else if b<0xC2 then none
  else if b<0xE0 then some (.inr ⟨n-0xC0,1,0x80,0xBF⟩)
  else if b=0xE0 then some (.inr ⟨0,2,0xA0,0xBF⟩)
  else if b=0xED then some (.inr ⟨0xD,2,0x80,0x9F⟩)
  else if b<0xF0 then some (.inr ⟨n-0xE0,2,0x80,0xBF⟩)
  else if b=0xF0 then some (.inr ⟨0,3,0x90,0xBF⟩)
  else if b<0xF4 then some (.inr ⟨n-0xF0,3,0x80,0xBF⟩)
  else if b=0xF4 then some (.inr ⟨4,3,0x80,0x8F⟩)
  else none

/-- The characters, newest first, each fault as `none`, and the character under way. -/
structure State where
  done : List (Option Char) := []
  underWay : Option Partial := none

namespace State

def begin (s : State) (b : UInt8) : State :=
  match lead b with
  | none => ⟨none::s.done,none⟩
  | some (.inl c) => ⟨some c::s.done,none⟩
  | some (.inr p) => ⟨s.done,some p⟩

def feed (s : State) (b : UInt8) : State :=
  match s.underWay with
  | none => s.begin b
  | some p =>
    if p.low≤b ∧ b≤p.high then
      let code := p.code*64+(b.toNat-0x80)
      if p.need=1 then ⟨some (Char.ofNat code)::s.done,none⟩
      else ⟨s.done,some ⟨code,p.need-1,0x80,0xBF⟩⟩
    else begin ⟨none::s.done,none⟩ b

def finish (s : State) : List (Option Char) :=
  match s.underWay with
  | none => s.done.reverse
  | some _ => (none::s.done).reverse

end State

def read (bytes : List UInt8) : List (Option Char) := (bytes.foldl State.feed {}).finish

def decode? (bytes : List UInt8) : Option (List Char) := (read bytes).mapM id

/-- The text of octets, with a replacement character for each fault. -/
def decodeLossy (bytes : List UInt8) : List Char := (read bytes).map (·.getD '\uFFFD')

end Watering.Utf8
