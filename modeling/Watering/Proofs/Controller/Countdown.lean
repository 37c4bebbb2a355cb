import Watering.Proofs.Controller.Agreement

namespace Watering

/-- The latest accepted start of each zone, with the ticks since. -/
abbrev Ledger := UInt8 → Option (Start×Nat)

namespace Ledger

def enter (l : Ledger) (s : Start) : Ledger := fun i => if i=s.zone then some (s,0) else l i

def enterAll (l : Ledger) (starts : List Start) : Ledger := starts.foldl enter l

def tick (l : Ledger) : Ledger := fun i => (l i).map fun (s,n) => (s,n+1)

theorem enterAll_append (l : Ledger) (xs ys : List Start) :
    l.enterAll (xs++ys)=(l.enterAll xs).enterAll ys := List.foldl_append

theorem enterAll_toList_ne (l : Ledger) {o : Option Start} {i j : UInt8} (ho : ∀ s∈o,s.zone=i)
    (h : j≠i) : l.enterAll o.toList j=l j := by
  cases o with
  | none => rfl
  | some s =>
    obtain rfl := ho s rfl
    exact if_neg h

end Ledger

namespace Plant

variable {site : Site} {p q : Plant} {l l' : Ledger}

/-- A local zone that runs was started, and runs for what is left of the minutes it was given. -/
def Timed (site : Site) (p : Plant) (l : Ledger) : Prop :=
  ∀ ⦃i o z⦄,site.Wires i o → p.zones.status? i=some z → z.state=.running →
    ∃ s n,l i=some (s,n) ∧ 0<z.remaining ∧ z.remaining+n=s.minutes.toNat*ticksPerMinute

namespace Timed

/-- A change of one zone keeps the countdowns if it keeps that of the zone itself. -/
theorem update (h : p.Timed site l) {i : UInt8}
    (zones : ∀ j,j≠i → q.zones.status? j=p.zones.status? j) (ledger : ∀ j,j≠i → l' j=l j)
    (own : ∀ o z,site.Wires i o → q.zones.status? i=some z → z.state=.running →
      ∃ s n,l' i=some (s,n) ∧ 0<z.remaining ∧ z.remaining+n=s.minutes.toNat*ticksPerMinute) :
    q.Timed site l' := by
  intro j o z w hz hr
  by_cases e : j=i
  · subst e
    exact own o z w hz hr
  · rw [zones j e] at hz
    rw [ledger j e]
    exact h w hz hr

theorem turnOff (h : p.Timed site l) {i : UInt8}
    (zones : ∀ j,j≠i → q.zones.status? j=p.zones.status? j) (ledger : ∀ j,j≠i → l' j=l j)
    (off : q.zones.state i=.off) : q.Timed site l' := by
  refine h.update zones ledger fun o z _ hz hr => ?_
  rw [ZoneBoard.state_of_status? hz,hr] at off
  cases off

theorem changeRadio (h : p.Timed site l) {i : UInt8} (hw : ∀ o,¬site.Wires i o)
    (zones : ∀ j,j≠i → q.zones.status? j=p.zones.status? j) (ledger : ∀ j,j≠i → l' j=l j) :
    q.Timed site l' := h.update zones ledger fun o _ w => absurd w (hw o)

end Timed

theorem Move.timed {o : Option Start} (laid : site.Laid) (h : p.Timed site l) (m : Move site p o q) :
    q.Timed site (l.enterAll o.toList) := by
  cases m with
  | @opened s z st out run now hz hs hn ho hw hr hm h0 =>
    refine h.update (i:=s.zone) (fun j hj => ZoneBoard.status?_modify_ne _ _ (hr ▸ hj))
      (fun j hj => if_neg hj) ?_
    intro o x w hx _
    refine ⟨s,0,if_pos rfl,?_⟩
    have hrem : x.remaining=s.minutes.toNat*ticksPerMinute := by
      change (p.zones.modify run.zone _).status? s.zone=some x at hx
      rw [ZoneBoard.status?_modify,if_pos hr.symm] at hx
      obtain ⟨y,_,rfl⟩ := Option.map_eq_some_iff.mp hx
      rw [ZoneStatus.start_remaining,hm]
    have hpos : 0 < s.minutes.toNat := by
      rw [Nat.pos_iff_ne_zero]
      exact fun k => h0 (UInt8.toNat_inj.mp k)
    exact ⟨hrem ▸ Nat.mul_pos hpos (by decide),hrem⟩
  | @asked s z st run now hz hs hn hr =>
    exact h.changeRadio (fun _ => Site.not_wires_of_radio laid hz.1 hs hn)
      (fun j hj => ZoneBoard.status?_modify_ne _ _ (hr ▸ hj)) fun j hj => if_neg hj
  | skipped h0 hoff => exact h.turnOff (fun _ _ => rfl) (fun j hj => if_neg hj) hoff
  | closed hz hs hn hl =>
    exact h.turnOff (fun j hj => ZoneBoard.status?_modify_ne _ _ hj)
      (fun j hj => Ledger.enterAll_toList_ne l (fun s hs => (hl s hs).1) hj)
      (ZoneBoard.state_stop_self ..)
  | toldOff hz hs hn hl =>
    exact h.changeRadio (fun _ => Site.not_wires_of_radio laid hz.1 hs hn)
      (fun j hj => ZoneBoard.status?_modify_ne _ _ hj)
      fun j hj => Ledger.enterAll_toList_ne l (fun s hs => (hl s hs).1) hj
  | failed hz =>
    exact h.turnOff (fun j hj => ZoneBoard.status?_modify_ne _ _ hj) (fun _ _ => rfl)
      (ZoneBoard.state_forceOff_self ..)
  | released => exact h
  | dropped =>
    exact h.turnOff (fun j hj => ZoneBoard.status?_modify_ne _ _ hj) (fun _ _ => rfl)
      (ZoneBoard.state_forceOff_self ..)
  | allOff =>
    intro i o z _ hz hr
    have hoff : p.zones.allOff.state i=z.state := ZoneBoard.state_of_status? hz
    rw [ZoneBoard.state_allOff,hr] at hoff
    cases hoff

theorem Moves.timed {starts : List Start} (laid : site.Laid) (h : p.Timed site l)
    (m : Moves site p starts q) : q.Timed site (l.enterAll starts) := by
  induction m with
  | refl => exact h
  | tail _ m ih =>
    rw [Ledger.enterAll_append]
    exact m.timed laid ih

end Plant

namespace Controller

variable {σ : Type} [Carrier σ] {site : Site} {c : Controller σ} {l : Ledger}

/-- What an operation adds to the ledger. -/
def note (c : Controller σ) (l : Ledger) (op : Operation σ) : Ledger :=
  match op with
  | .tick => l.tick
  | op => l.enterAll (c.starts op)

def ledger (c : Controller σ) (l : Ledger) : List (Operation σ) → Ledger
  | [] => l
  | op::ops => (c.perform op).ledger (c.note l op) ops

end Controller

end Watering
