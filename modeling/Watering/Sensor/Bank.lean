import Watering.Octet

namespace Watering

structure SensorBank where
  values : List UInt16 := []
  /-- Some value changed since the last sample. -/
  dirty : Bool := false
deriving DecidableEq,Repr

namespace SensorBank

def count (b : SensorBank) : UInt8 := lengthCapped b.values

def read (b : SensorBank) (index : UInt8) : UInt16 := (b.values[index.toNat]?).getD 0

/-- Set one reading; what is there already is no change. -/
def set (b : SensorBank) (index : UInt8) (value : UInt16) : SensorBank :=
  match b.values[index.toNat]? with
  | none => b
  | some old => if old=value then b else ⟨b.values.set index.toNat value,true⟩

/-- Take a sample: did a reading change since the last one? -/
def sample (b : SensorBank) : SensorBank×Bool := ({b with dirty:=false},b.dirty)

/-- The readings of as many channels as an octet can count. -/
def readings (b : SensorBank) : List UInt16 :=
  (List.range b.count.toNat).map fun i => b.read (UInt8.ofNat i)

end SensorBank

end Watering
