import Watering.Network
import Watering.Proofs.Controller.Line

namespace Watering

namespace Controller

/-- A controller together with the bus it acts on. -/
def aboard (c : Controller Transceiver) (bus : Bus) : Controller (Transceiver×Bus) :=
  c.withCarrier (c.link.carrier,bus)

/-- A controller at rest again. -/
def ashore (c : Controller (Transceiver×Bus)) : Controller Transceiver :=
  c.withCarrier c.link.carrier.1

end Controller

namespace Network

variable {k : Addressing} {number : UInt8 → Option Nat} {u v : UInt8} {n : Network} {bus : Bus}
  {i j : Nat} {c d : Controller Transceiver} {e : Controller (Transceiver×Bus)} {β : Type}

/-- The bus with the links of two controllers. -/
def airOf (u v : UInt8) (bus : Bus) (c d : Controller Transceiver) : Air :=
  ⟨bus,fun w => if w=u then some c.link else if w=v then some d.link else none⟩

theorem airOf_comm (h : u≠v) (bus : Bus) (c d : Controller Transceiver) :
    airOf v u bus d c=airOf u v bus c d := by
  refine congrArg (Air.mk bus) (funext fun w => ?_)
  by_cases e : w=u
  · subst e
    rw [if_neg h,if_pos rfl,if_pos rfl]
  · rw [if_neg e,if_neg e]

/-- The line between two controllers, seen from the first. -/
def lineOf (k : Addressing) (number : UInt8 → Option Nat) (u v : UInt8) (bus : Bus)
    (c d : Controller Transceiver) : Line := ⟨airOf u v bus c d,k,number,u,v⟩

theorem lineOf_now : (lineOf k number u v bus c d).now (c.aboard bus).link=airOf u v bus c d :=
  Air.put_onBus (a:=airOf u v bus c d) (if_pos rfl)

theorem airOf_ashore :
    airOf u v e.link.carrier.2 e.ashore d=(lineOf k number u v bus c d).now e.link := by
  refine congrArg (Air.mk e.link.carrier.2) (funext fun w => ?_)
  change (if w=u then _ else if w=v then _ else none)=
    if w=u then _ else if w=u then _ else if w=v then _ else none
  by_cases h : w=u
  · rw [if_pos h,if_pos h]
    rfl
  · rw [if_neg h,if_neg h,if_neg h]

/-- A controller acts: with the bus, and then it is at rest again. -/
theorem act_eq (h : n.nodes[i]?=some c)
    (f : Controller (Transceiver×Bus) → Controller (Transceiver×Bus)×β) :
    n.act i f=(⟨(f (c.aboard n.bus)).1.link.carrier.2,n.nodes.set i (f (c.aboard n.bus)).1.ashore⟩,
      some (f (c.aboard n.bus)).2) := by
  unfold act
  rw [h]
  rfl

/-- Two controllers alone in a network, on a bus that loses nothing between them. -/
structure Linked (k : Addressing) (number : UInt8 → Option Nat) (u v : UInt8) (n : Network)
    (i j : Nat) (c d : Controller Transceiver) : Prop where
  near : n.nodes[i]?=some c
  far : n.nodes[j]?=some d
  ne : i≠j
  alone {l : Nat} : l≠i → l≠j → n.nodes[l]?=none
  pair : (airOf u v n.bus c d).Pair k number u v

namespace Linked

theorem symm (h : Linked k number u v n i j c d) : Linked k number v u n j i d c where
  near := h.far
  far := h.near
  ne := h.ne.symm
  alone hj hi := h.alone hi hj
  pair := by
    rw [airOf_comm h.pair.ne]
    exact h.pair.symm

theorem line (h : Linked k number u v n i j c d) :
    (lineOf k number u v n.bus c d).Open (c.aboard n.bus).link := by
  rw [Line.Open,lineOf_now]
  exact h.pair

/-- The ends of the line as the first of the two finds it. -/
theorem ends (h : Linked k number u v n i j c d) :
    let L := lineOf k number u v n.bus c d
    L.Open (c.aboard n.bus).link ∧
    L.out (c.aboard n.bus).link=(airOf u v n.bus c d).waiting u v ∧
    L.back (c.aboard n.bus).link=(airOf u v n.bus c d).waiting v u := by
  refine ⟨h.line,?_,?_⟩
  · rw [Line.out,lineOf_now]
    rfl
  · rw [Line.back,lineOf_now]
    rfl

/-- What the first of the two does happens to its line. -/
theorem act (h : Linked k number u v n i j c d)
    (f : Controller (Transceiver×Bus) → Controller (Transceiver×Bus)×β)
    (he : (f (c.aboard n.bus)).1=e) (ho : (lineOf k number u v n.bus c d).Open e.link) :
    Linked k number u v (n.act i f).1 i j e.ashore d ∧
    airOf u v (n.act i f).1.bus e.ashore d=(lineOf k number u v n.bus c d).now e.link := by
  have hact : (n.act i f).1=⟨e.link.carrier.2,n.nodes.set i e.ashore⟩ := by
    rw [act_eq h.near f,←he]
  have hi : i<n.nodes.length := (List.getElem?_eq_some_iff.mp h.near).1
  rw [hact]
  refine ⟨⟨?_,?_,h.ne,fun {l} hl hj => ?_,?_⟩,airOf_ashore⟩
  · exact List.getElem?_set_self hi
  · exact (List.getElem?_set_ne h.ne).trans h.far
  · exact (List.getElem?_set_ne hl.symm).trans (h.alone hl hj)
  · dsimp only
    rw [show airOf u v e.link.carrier.2 e.ashore d=_ from airOf_ashore]
    exact ho

end Linked

end Network

end Watering
