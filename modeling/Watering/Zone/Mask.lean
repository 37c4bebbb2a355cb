import Watering.Octet

namespace Watering

/-- Width in bytes of a bitmap over the channels `0..first+count`. -/
def bitmapLength (first count : UInt8) : Nat := max ((first.toNat+count.toNat+7)/8) 1

/-- A set of channels: bit `c%8` of byte `c/8` stands for channel `c`. -/
@[ext] structure ZoneMask where
  bytes : List UInt8 := []
deriving DecidableEq

namespace ZoneMask

def empty (first count : UInt8) : ZoneMask := ⟨List.replicate (bitmapLength first count) 0⟩

/-- The byte in which only the bit of channel `c` is set. -/
def bit (c : UInt8) : UInt8 := 1<<<(c%8)

def get (m : ZoneMask) (c : UInt8) : Bool :=
  match m.bytes[c.toNat/8]? with
  | some b => b &&& bit c != 0
  | none => false

/-- Switch one channel, widening the mask as far as its byte. -/
def set (m : ZoneMask) (c : UInt8) (on : Bool) : ZoneMask :=
  let wide := m.bytes++List.replicate (c.toNat/8+1-m.bytes.length) 0
  ⟨wide.modify (c.toNat/8) fun b => if on then b ||| bit c else b &&& ~~~(bit c)⟩

/-- A mask over `first..first+count` with those channels set that `on` picks. -/
def build (first count : UInt8) (on : UInt8 → Bool) : ZoneMask :=
  (span first count).foldl (fun m c => m.set c (on c)) (empty first count)

def range (first count : UInt8) : ZoneMask := build first count fun _ => true

def single (c : UInt8) : ZoneMask := range c 1

def trim (m : ZoneMask) : ZoneMask := ⟨(m.bytes.reverse.dropWhile (·==0)).reverse⟩

/-- The same channels are set, whatever the width. -/
def Same (a b : ZoneMask) : Prop := a.trim=b.trim

instance (a b : ZoneMask) : Decidable (Same a b) := inferInstanceAs (Decidable (_=_))

def fit (m : ZoneMask) (n : Nat) : List UInt8 := m.bytes.take n++List.replicate (n-m.bytes.length) 0

@[simp] theorem fit_length (m : ZoneMask) (n : Nat) : (m.fit n).length=n := by
  simp [fit]; omega

/-- Eight binary digits, the highest first. -/
def digits (b : UInt8) : String :=
  String.ofList ((List.range 8).map fun i => if b.toNat.testBit (7-i) then '1' else '0')

/-- The mask in binary, its last byte first. -/
def render (m : ZoneMask) : String := "ZoneMask("++String.join (m.bytes.reverse.map digits)++")"

end ZoneMask

end Watering
