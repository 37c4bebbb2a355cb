namespace Watering

/-- Which answers the sender of a change wants. -/
@[ext] structure AckFlags where
  bits : UInt8 := 0
deriving DecidableEq,Repr

namespace AckFlags

/-- An error response on failure. -/
def error : AckFlags := ⟨1⟩

/-- A short response on success. -/
def brief : AckFlags := ⟨2⟩

/-- The full report on success. -/
def report : AckFlags := ⟨4⟩

/-- An error response on failure, the full report on success. -/
def standard : AckFlags := ⟨5⟩

def contains (f g : AckFlags) : Bool := f.bits &&& g.bits==g.bits

def union (f g : AckFlags) : AckFlags := ⟨f.bits ||| g.bits⟩

end AckFlags

@[ext] structure EventFlags where
  bits : UInt16 := 0
deriving DecidableEq,Repr

namespace EventFlags

/-- The sender of the request is the master, whatever its other fields name. -/
def registerSelf : EventFlags := ⟨1⟩

def reportZones : EventFlags := ⟨4⟩

def reportSensors : EventFlags := ⟨8⟩

def contains (f g : EventFlags) : Bool := f.bits &&& g.bits==g.bits

def union (f g : EventFlags) : EventFlags := ⟨f.bits ||| g.bits⟩

end EventFlags

inductive Exception where
  | illegalAddress
  | applyFailure
  | other (code : UInt8)
deriving DecidableEq,Repr

namespace Exception

def code : Exception → UInt8
  | illegalAddress => 2
  | applyFailure => 4
  | other c => c

def ofCode (c : UInt8) : Exception :=
  if c=2 then illegalAddress else if c=4 then applyFailure else other c

theorem code_ofCode (c : UInt8) : (ofCode c).code=c := by
  unfold ofCode
  split
  · simp_all [code]
  · split <;> simp_all [code]

def name : Exception → String
  | illegalAddress => "IllegalAddress"
  | applyFailure => "ApplyFailure"
  | other c => "Other("++toString c.toNat++")"

end Exception

end Watering
