import Watering.Proofs.Controller.Setting
import Watering.Proofs.Frame.RoundTrip
import Watering.Proofs.Radio.Pair

namespace Watering

/-- The bus as one unit found it, the other unit's link with it. -/
structure Line where
  air : Air
  addressing : Addressing
  number : UInt8 → Option Nat
  near : UInt8
  far : UInt8

namespace Line

variable {L : Line} {r : Link (Transceiver×Bus)} {frame : List UInt8} {id : UInt8}

/-- The bus now, with what the near unit did since. -/
def now (L : Line) (r : Link (Transceiver×Bus)) : Air := L.air.put L.near r

def Open (L : Line) (r : Link (Transceiver×Bus)) : Prop :=
  (L.now r).Pair L.addressing L.number L.near L.far

/-- The frames on their way to the far unit. -/
def out (L : Line) (r : Link (Transceiver×Bus)) : List (List UInt8) := (L.now r).waiting L.near L.far

/-- The frames on their way to the near unit. -/
def back (L : Line) (r : Link (Transceiver×Bus)) : List (List UInt8) :=
  (L.now r).waiting L.far L.near

theorem now_put (L : Line) (q r : Link (Transceiver×Bus)) :
    (L.now q).put L.near r=L.now r := Air.put_put ..

/-- What the near unit sends to the far one arrives. -/
theorem Open.send_far (h : L.Open r) (hf : Frame.peekSource frame=some L.near) :
    (r.send (.unit L.far) frame).2=true ∧ L.Open (r.send (.unit L.far) frame).1 ∧
    L.out (r.send (.unit L.far) frame).1=L.out r++[frame] ∧
    L.back (r.send (.unit L.far) frame).1=L.back r := by
  have hl := Air.links_put_self L.air L.near r
  have hs := h.send hl (.unit L.far) hf fun e => h.ne (Destination.unit.inj e).symm
  obtain ⟨hok,hout⟩ := h.waiting_other hl hf
  obtain ⟨hback,_⟩ := h.waiting_away hl (.unit L.far) hf
  rw [now_put] at hs hout hback
  exact ⟨hok,hs,hout,hback⟩

/-- What it sends to others comes to the far unit or to nobody. -/
theorem Open.send_away (h : L.Open r) (hf : Frame.peekSource frame=some L.near) (hid : id≠L.near) :
    L.Open (r.send (.unit id) frame).1 ∧ L.back (r.send (.unit id) frame).1=L.back r ∧
    (L.out (r.send (.unit id) frame).1=L.out r ∨
      L.out (r.send (.unit id) frame).1=L.out r++[frame]) := by
  have hl := Air.links_put_self L.air L.near r
  have hs := h.send hl (.unit id) hf fun e => hid (Destination.unit.inj e)
  obtain ⟨hback,hout⟩ := h.waiting_away hl (.unit id) hf
  rw [now_put] at hs hout hback
  exact ⟨hs,hback,hout⟩

/-- The near unit takes in the next frame that waits for it. -/
theorem Open.receive (h : L.Open r) :
    L.Open r.receive.1 ∧ L.out r.receive.1=L.out r ∧
    match L.back r with
    | [] => r.receive.2=none ∧ L.back r.receive.1=[]
    | frame::rest => L.back r.receive.1=rest ∧
      ∃ delivery,r.receive.2=some delivery ∧ delivery.frame=frame := by
  have hl := Air.links_put_self L.air L.near r
  obtain ⟨hp,hout,hback⟩ := h.symm.receive hl
  rw [now_put] at hp hout hback
  exact ⟨hp.symm,hout,hback⟩

end Line

namespace Controller

variable {L : Line} {c : Controller (Transceiver×Bus)} {f : Frame} {id : UInt8}

theorem sendFrame_eq {σ : Type} [Carrier σ] {c : Controller σ}
    (hf : f.message.payload.length ≤ maxPayload) (target : Destination) :
    c.sendFrame target f=
      ({c with link:=(c.link.send target f.octets).1},(c.link.send target f.octets).2) := by
  unfold sendFrame
  rw [Frame.encode_eq hf]

theorem sendFrame_far (h : L.Open c.link) (hf : f.message.payload.length ≤ maxPayload)
    (hs : f.source=L.near) :
    (c.sendFrame (.unit L.far) f).2=true ∧ L.Open (c.sendFrame (.unit L.far) f).1.link ∧
    L.out (c.sendFrame (.unit L.far) f).1.link=L.out c.link++[f.octets] ∧
    L.back (c.sendFrame (.unit L.far) f).1.link=L.back c.link := by
  rw [sendFrame_eq hf]
  exact h.send_far ((Frame.peekSource_octets f).trans (congrArg some hs))

theorem sendFrame_away (h : L.Open c.link) (hf : f.message.payload.length ≤ maxPayload)
    (hs : f.source=L.near) (hid : id≠L.near) :
    L.Open (c.sendFrame (.unit id) f).1.link ∧
    L.back (c.sendFrame (.unit id) f).1.link=L.back c.link ∧
    (L.out (c.sendFrame (.unit id) f).1.link=L.out c.link ∨
      L.out (c.sendFrame (.unit id) f).1.link=L.out c.link++[f.octets]) := by
  rw [sendFrame_eq hf]
  exact h.send_away ((Frame.peekSource_octets f).trans (congrArg some hs)) hid

/-- A poll takes in what was received, if anything was. -/
theorem poll_eq {σ : Type} [Carrier σ] (c : Controller σ) : c.poll=
    match c.link.receive.2 with
    | none => ({c with link:=c.link.receive.1},none)
    | some delivery =>
      ((process {c with link:=c.link.receive.1} delivery.frame).1,
        some (process {c with link:=c.link.receive.1} delivery.frame).2) := by
  unfold poll
  cases c.link.receive with
  | mk link o => cases o <;> rfl

/-- With something waiting, a poll acts on the next frame. -/
theorem poll_next (h : L.Open c.link) {frame : List UInt8} {rest : List (List UInt8)}
    (hb : L.back c.link=frame::rest) :
    c.poll=((process {c with link:=c.link.receive.1} frame).1,
      some (process {c with link:=c.link.receive.1} frame).2) := by
  obtain ⟨_,_,next⟩ := h.receive
  rw [hb] at next
  obtain ⟨_,delivery,hd,rfl⟩ := next
  rw [poll_eq,hd]

/-- A poll with nothing waiting does nothing else; with something waiting, it acts on the next
frame. -/
theorem poll_line (h : L.Open c.link) :
    L.Open c.link.receive.1 ∧ L.out c.link.receive.1=L.out c.link ∧
    match L.back c.link with
    | [] => c.poll.1={c with link:=c.link.receive.1} ∧ L.back c.link.receive.1=[]
    | frame::rest => c.poll.1=(process {c with link:=c.link.receive.1} frame).1 ∧
      L.back c.link.receive.1=rest := by
  obtain ⟨ho,hout,hback⟩ := h.receive
  refine ⟨ho,hout,?_⟩
  cases hb : L.back c.link with
  | nil =>
    rw [hb] at hback
    obtain ⟨silent,empty⟩ := hback
    rw [poll_eq,silent]
    exact ⟨rfl,empty⟩
  | cons frame rest =>
    rw [hb] at hback
    rw [poll_next h hb]
    exact ⟨rfl,hback.1⟩

end Controller

end Watering
