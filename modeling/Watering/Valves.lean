import Std.Data.TreeMap

namespace Watering

structure ValveBoard where
  /-- Each wired output and whether it is on. -/
  outputs : Std.TreeMap UInt16 Bool := {}
  /-- How often an output was switched one at a time. -/
  switched : Nat := 0

namespace ValveBoard

def ofOutputs (outputs : List UInt16) : ValveBoard :=
  {outputs:=outputs.foldl (fun m o => m.insert o false) {}}

def isWired (b : ValveBoard) (output : UInt16) : Bool := b.outputs.contains output

def isOn (b : ValveBoard) (output : UInt16) : Bool := b.outputs.getD output false

/-- Switch one output; the answer tells whether it is wired. -/
def set (b : ValveBoard) (output : UInt16) (on : Bool) : ValveBoard×Bool :=
  if b.isWired output then (⟨b.outputs.insert output on,b.switched+1⟩,true) else (b,false)

def allOff (b : ValveBoard) : ValveBoard := {b with outputs:=b.outputs.map fun _ _ => false}

def onOutputs (b : ValveBoard) : List UInt16 := (b.outputs.toList.filter (·.2)).map (·.1)

end ValveBoard

end Watering
