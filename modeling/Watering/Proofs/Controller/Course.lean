import Mathlib.Logic.Function.Iterate
import Watering.Proofs.Controller.Handling
import Watering.Proofs.Controller.Operation

namespace Watering

namespace Controller

/-- All that can be done to a controller: an operation, any request to any station, or a call to
all. -/
inductive Action (σ : Type) where
  | operate (op : Operation σ)
  | ask (id : UInt8) (m : Message)
  | scan
  | broadcastTime

/-- Taking in a frame. -/
def Action.hears {σ : Type} : Action σ → Bool
  | operate (.process _) | operate .poll => true
  | _ => false

variable {σ : Type} [Carrier σ] {E : ZoneBoard → ZoneBoard → Prop} (c : Controller σ)

def act (c : Controller σ) : Action σ → Controller σ
  | .operate op => c.perform op
  | .ask id m => (c.request id m).1
  | .scan => c.scan.1
  | .broadcastTime => c.broadcastTime.1

def actAll (c : Controller σ) (actions : List (Action σ)) : Controller σ := actions.foldl act c

/-- So many seconds in which nothing is done. -/
def seconds (n : Nat) : List (Action σ) := List.replicate n (.operate .tick)

theorem actAll_append (as bs : List (Action σ)) :
    c.actAll (as++bs)=(c.actAll as).actAll bs := List.foldl_append

theorem strides_scan : Strides E c c.scan.1 := by
  have taken : Strides E c c.takeTransaction.1 := strides_aside rfl rfl rfl rfl
  exact taken.tail (.sent .everyone (by nofun))

theorem strides_broadcastTime : Strides E c c.broadcastTime.1 := .single (.sent .everyone (by nofun))

/-- An action in strides, unless it is what changes outside. -/
theorem act_cases {a : Action σ} (ha : ∀ x s t,a≠.operate (.outside x s t)) :
    a=.operate .tick ∨ Strides (Commanded c.site) c (c.act a) ∨
      a.hears=true ∧ Strides Reported c (c.act a) := by
  cases a with
  | ask id m => exact Or.inr (Or.inl (c.strides_request id m))
  | scan => exact Or.inr (Or.inl c.strides_scan)
  | broadcastTime => exact Or.inr (Or.inl c.strides_broadcastTime)
  | operate op =>
    cases op with
    | startZone run => exact Or.inr (Or.inl (strides_startZoneFrom rfl run .here))
    | stopZone i => exact Or.inr (Or.inl (strides_stopZoneFrom rfl i .here))
    | turnOffAll => exact Or.inr (Or.inl (strides_turnOffAll rfl))
    | stopAll => exact Or.inr (Or.inl (strides_stopAll rfl))
    | tick => exact Or.inl rfl
    | process bytes =>
      obtain h | h := c.process_cases bytes
      · exact Or.inr (Or.inl h)
      · exact Or.inr (Or.inr ⟨rfl,h⟩)
    | poll =>
      obtain h | h := c.poll_cases
      · exact Or.inr (Or.inl h)
      · exact Or.inr (Or.inr ⟨rfl,h⟩)
    | outside x s t => exact absurd rfl (ha x s t)

/-- The board has all zones of a site. -/
structure Fits (site : Site) (c : Controller σ) : Prop where
  site_eq : c.site=site
  size : c.zones.size=site.zoneCount.toNat

omit [Carrier σ] in
theorem fits_start (role : Role) (carrier : σ) (site : Site) (valves : ValveBoard)
    (sensors : SensorBank) (clock : Instant) :
    Fits site (start role carrier site valves sensors clock) :=
  ⟨rfl,List.length_replicate⟩

variable {c} {site : Site}

theorem Fits.zones_tick (h : Fits site c) : c.tick.zones=c.zones.tick.1 :=
  congrArg (fun g => g.2.zones) (c.ground_tick (by rw [h.size,h.site_eq]))

/-- What an action leaves on the board: a second, or the edits of commands or of reports. -/
theorem Fits.board (h : Fits site c) (a : Action σ) :
    a=.operate .tick ∧ (c.act a).zones=c.zones.tick.1 ∨
    Relation.ReflTransGen (Commanded site) c.zones (c.act a).zones ∨
    a.hears=true ∧ Relation.ReflTransGen Reported c.zones (c.act a).zones := by
  by_cases ha : ∃ x s t,a=.operate (.outside x s t)
  · obtain ⟨x,s,t,rfl⟩ := ha
    exact Or.inr (Or.inl .refl)
  obtain rfl | strides | ⟨hears,strides⟩ := c.act_cases fun x s t k => ha ⟨x,s,t,k⟩
  · exact Or.inl ⟨rfl,h.zones_tick⟩
  · have board := strides.board
    rw [h.site_eq] at board
    exact Or.inr (Or.inl board)
  · exact Or.inr (Or.inr ⟨hears,strides.board⟩)

theorem Fits.act (h : Fits site c) (a : Action σ) : Fits site (c.act a) where
  site_eq := by
    refine Eq.trans ?_ h.site_eq
    by_cases ha : ∃ x s t,a=.operate (.outside x s t)
    · obtain ⟨x,s,t,rfl⟩ := ha
      rfl
    obtain rfl | strides | ⟨_,strides⟩ := c.act_cases fun x s t k => ha ⟨x,s,t,k⟩
    · exact c.strides_tick.site
    · exact strides.site
    · exact strides.site
  size := by
    refine Eq.trans ?_ h.size
    obtain ⟨_,board⟩ | edits | ⟨_,edits⟩ := h.board a
    · rw [board]
      exact ZoneBoard.size_tick _
    · exact size_of_edits (fun _ _ => Commanded.size) edits
    · exact size_of_edits (fun _ _ => Reported.size) edits

theorem Fits.actAll (h : Fits site c) (actions : List (Action σ)) : Fits site (c.actAll actions) := by
  induction actions generalizing c with
  | nil => exact h
  | cons a actions ih => exact ih (h.act a)

/-- What holds of every zone is kept by every action, if commands, reports and seconds keep it. -/
theorem Fits.keeps {P : UInt8 → ZoneStatus → Prop} (h : Fits site c)
    (command : ∀ i y z,Commanded.Zone site i y z → P i y → P i z)
    (report : ∀ i y on,P i y → P i (ZoneStatus.confirm y on)) (second : ∀ i y,P i y → P i y.tick.1)
    (all : ∀ i z,c.zones.status? i=some z → P i z) (actions : List (Action σ)) :
    ∀ i z,(c.actAll actions).zones.status? i=some z → P i z := by
  induction actions generalizing c with
  | nil => exact all
  | cons a actions ih =>
    refine ih (h.act a) fun i z hz => ?_
    obtain ⟨_,board⟩ | edits | ⟨_,edits⟩ := h.board a
    · rw [board,ZoneBoard.status?_tick] at hz
      obtain ⟨y,hy,rfl⟩ := Option.map_eq_some_iff.mp hz
      exact second i y (all i y hy)
    · exact keeps_of_commanded command edits all i z hz
    · obtain ⟨y,hy,rfl | rfl | rfl | rfl⟩ := zone_of_reported edits hz
      · exact all i _ hy
      · exact command i y {} .off (all i y hy)
      · exact report i y true (all i y hy)
      · exact report i {} true (command i y {} .off (all i y hy))

/-- Seconds pass for each zone by itself. -/
theorem Fits.status?_seconds (h : Fits site c) (n : Nat) (i : UInt8) :
    (c.actAll (seconds n)).zones.status? i=
      (c.zones.status? i).map ((fun z : ZoneStatus => z.tick.1)^[n]) := by
  induction n generalizing c with
  | zero => exact (congrFun Option.map_id (c.zones.status? i)).symm
  | succ n ih =>
    have board : (c.act (.operate .tick)).zones=c.zones.tick.1 := h.zones_tick
    refine (ih (h.act (.operate .tick))).trans ?_
    rw [board,ZoneBoard.status?_tick,Option.map_map]
    rfl

end Controller

end Watering
