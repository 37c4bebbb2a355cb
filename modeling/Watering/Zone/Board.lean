import Watering.Zone.Status

namespace Watering

structure ZoneBoard where
  zones : List ZoneStatus
deriving DecidableEq

structure Transition where
  zone : UInt8
  expiry : Expiry
deriving DecidableEq,Repr

namespace ZoneBoard

def ofCount (count : Nat) : ZoneBoard := ⟨List.replicate count {}⟩

def size (b : ZoneBoard) : Nat := b.zones.length

def status? (b : ZoneBoard) (zone : UInt8) : Option ZoneStatus := b.zones[zone.toNat]?

/-- The state of a zone; one that is not on the board is off. -/
def state (b : ZoneBoard) (zone : UInt8) : ZoneState := ((b.status? zone).getD {}).state

def modify (b : ZoneBoard) (zone : UInt8) (f : ZoneStatus → ZoneStatus) : ZoneBoard :=
  ⟨b.zones.modify zone.toNat f⟩

@[simp] theorem size_modify (b : ZoneBoard) (zone : UInt8) (f : ZoneStatus → ZoneStatus) :
    (b.modify zone f).size=b.size := List.length_modify ..

theorem status?_modify (b : ZoneBoard) (zone z : UInt8) (f : ZoneStatus → ZoneStatus) :
    (b.modify zone f).status? z=if z=zone then (b.status? z).map f else b.status? z := by
  simp only [modify,status?,List.getElem?_modify]
  by_cases h : z=zone
  · simp [h]
  · have : zone.toNat≠z.toNat := fun e => h (UInt8.toNat_inj.mp e).symm
    simp [h,this]

/-- Grow with zones that are off, or drop the last ones. -/
def resize (b : ZoneBoard) (count : Nat) : ZoneBoard :=
  ⟨b.zones.take count++List.replicate (count-b.zones.length) default⟩

def active (b : ZoneBoard) : List UInt8 :=
  (b.zones.zipIdx.filter (·.1.state.isOn)).map fun (_,i) => UInt8.ofNat i

/-- Start a run, whatever its zone was doing. -/
def start (b : ZoneBoard) (run : ZoneRun) (confirmed : Bool) (now : Instant) : ZoneBoard :=
  b.modify run.zone fun _ => .start run confirmed now

def stop (b : ZoneBoard) (zone : UInt8) (confirmed : Bool) : ZoneBoard :=
  b.modify zone (·.stop confirmed)

def forceOff (b : ZoneBoard) (zone : UInt8) : ZoneBoard := b.modify zone fun _ => {}

def allOff (b : ZoneBoard) : ZoneBoard := ⟨b.zones.map fun _ => {}⟩

/-- Take over a station's report of one zone; the answer tells whether the state changed. -/
def confirm (b : ZoneBoard) (zone : UInt8) (on : Bool) : ZoneBoard×Bool :=
  match b.status? zone with
  | none => (b,false)
  | some z => (b.modify zone (·.confirm on),(z.confirm on).state≠z.state)

def tick (b : ZoneBoard) : ZoneBoard×List Transition :=
  (⟨b.zones.map fun z => z.tick.1⟩,
    (b.zones.zipIdx).filterMap fun (z,i) => z.tick.2.map fun e => ⟨UInt8.ofNat i,e⟩)

end ZoneBoard

end Watering
