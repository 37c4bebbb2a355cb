import Watering.Proofs.Controller.Batch
import Watering.Proofs.Controller.Served
import Watering.Proofs.Controller.Upkeep

namespace Watering

inductive Operation (σ : Type) where
  | startZone (run : ZoneRun)
  | stopZone (zone : UInt8)
  | turnOffAll
  | stopAll
  | tick
  | process (bytes : List UInt8)
  | poll
  /-- What changes outside: what the carrier holds, what is measured and what time it is. -/
  | outside (carrier : σ) (sensors : SensorBank) (clock : Instant)

namespace Controller

open Plant (Move Moves)

variable {σ : Type} [Carrier σ]

def perform (c : Controller σ) : Operation σ → Controller σ
  | .startZone run => (c.startZone run).1
  | .stopZone zone => (c.stopZone zone).1
  | .turnOffAll => c.turnOffAll
  | .stopAll => c.stopAll
  | .tick => c.tick
  | .process bytes => (c.process bytes).1
  | .poll => c.poll.1
  | .outside carrier sensors clock => {c with link:={c.link with carrier},sensors,clock}

def performAll (c : Controller σ) (ops : List (Operation σ)) : Controller σ := ops.foldl perform c

/-- The starts that an operation accepts, in order. -/
def starts (c : Controller σ) : Operation σ → List Start
  | .startZone run => c.startOf run .here
  | .process bytes => c.frameStarts bytes
  | .poll => c.pollStarts
  | _ => []

variable {c : Controller σ}

theorem place_perform (h : c.role.consumes=false) (op : Operation σ)
    (size : c.zones.size=c.site.zoneCount.toNat) : (c.perform op).place=c.place := by
  cases op with
  | startZone => exact place_of_setting (setting_startZoneFrom ..)
  | stopZone => exact place_of_setting (setting_stopZoneFrom ..)
  | turnOffAll => exact place_of_setting (setting_turnOffAll ..)
  | stopAll => exact place_of_setting (setting_stopAll ..)
  | tick => exact congrArg Prod.fst (c.ground_tick size)
  | process => exact place_process h _
  | poll => exact place_poll h
  | outside => rfl

theorem perform_moves (h : c.role.consumes=false) (idle : c.plant.Idle c.site)
    (size : c.zones.size≤256) {op : Operation σ} (ht : op≠.tick) :
    Moves c.site c.plant (c.starts op) (c.perform op).plant := by
  cases op with
  | startZone run => exact startZoneFrom_moves run .here idle
  | stopZone zone =>
    have m := stopZoneFrom_moves (i:=zone) .here none (by simp) idle
    rwa [Option.toList_none,ite_self] at m
  | turnOffAll => exact turnOffAll_moves idle size
  | stopAll => exact c.stopAll_moves
  | tick => exact absurd rfl ht
  | process bytes => exact process_moves h idle bytes
  | poll => exact poll_moves h idle
  | outside => exact Moves.refl

/-- All that an operation of a station that only serves does to outputs and board is moves, or a
second. -/
theorem perform_cases {site : Site} (laid : site.Laid) (place : c.place=(.responder,site))
    (size : c.zones.size=site.zones.length) (idle : c.plant.Idle site) (op : Operation σ) :
    (c.perform op).place=c.place ∧
    (op=.tick ∧ (c.perform op).plant=c.plant.tick site ∨
      op≠.tick ∧ Moves site c.plant (c.starts op) (c.perform op).plant) := by
  have same : c.site=site := congrArg Prod.snd place
  have serves : c.role.consumes=false := by
    rw [show c.role=.responder from congrArg Prod.fst place]
    rfl
  have le := laid.length_le
  have count : c.zones.size=c.site.zoneCount.toNat := by
    rw [size,same,Site.zoneCount,lengthCapped,Nat.min_eq_left le,
      UInt8.toNat_ofNat_of_lt' (Nat.lt_succ_of_le le)]
  refine ⟨place_perform serves op count,?_⟩
  by_cases ht : op=.tick
  · subst ht
    have ticked := congrArg Prod.snd (c.ground_tick count)
    rw [same] at ticked
    exact Or.inl ⟨rfl,ticked⟩
  · have m := perform_moves serves (by rwa [same]) (by rw [size]; exact Nat.le_succ_of_le le) ht
    rw [same] at m
    exact Or.inr ⟨ht,m⟩

end Controller

end Watering
