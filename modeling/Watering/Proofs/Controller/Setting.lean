import Mathlib.Tactic.Common
import Watering.Controller.Inbox
import Watering.Controller.Upkeep
import Watering.Proofs.Plant

namespace Watering.Controller

/-- What commands to zones do not change. -/
structure Setting where
  role : Role
  site : Site
  registers : Registers
  eventMaster : Option EventMaster
  sensors : SensorBank
  remote : RemoteView
  ticks : Nat
  lastReadings : List UInt16
  clock : Instant

variable {σ : Type}

def setting (c : Controller σ) : Setting :=
  ⟨c.role,c.site,c.registers,c.eventMaster,c.sensors,c.remote,c.ticks,c.lastReadings,c.clock⟩

def plant (c : Controller σ) : Plant := ⟨c.valves,c.zones⟩

/-- All but the link, the journal and the transactions. -/
def still (c : Controller σ) : Setting×Plant := (c.setting,c.plant)

/-- What no frame changes. -/
def place (c : Controller σ) : Role×Site := (c.role,c.site)

/-- All that has to do with water, but for what commands depend on besides the site. -/
def ground (c : Controller σ) : (Role×Site)×Plant := (c.place,c.plant)

section Setting

variable {c d : Controller σ}

theorem setting_of_still (h : d.still=c.still) : d.setting=c.setting := congrArg Prod.fst h

theorem plant_of_still (h : d.still=c.still) : d.plant=c.plant := congrArg Prod.snd h

theorem site_of_setting (h : d.setting=c.setting) : d.site=c.site := congrArg Setting.site h

theorem site_of_still (h : d.still=c.still) : d.site=c.site := site_of_setting (setting_of_still h)

theorem zones_of_still (h : d.still=c.still) : d.zones=c.zones :=
  congrArg Plant.zones (plant_of_still h)

theorem role_of_setting (h : d.setting=c.setting) : d.role=c.role := congrArg Setting.role h

theorem place_of_setting (h : d.setting=c.setting) : d.place=c.place :=
  congrArg₂ Prod.mk (role_of_setting h) (site_of_setting h)

theorem ground_of_still (h : d.still=c.still) : d.ground=c.ground :=
  congrArg₂ Prod.mk (place_of_setting (setting_of_still h)) (plant_of_still h)

end Setting

section Start

variable (role : Role) (carrier : σ) (site : Site) (valves : ValveBoard) (sensors : SensorBank)
  (clock : Instant)

/-- The board of a controller that was just switched on has all zones of its site. -/
theorem size_start (h : site.zones.length≤255) :
    (start role carrier site valves sensors clock).zones.size=site.zones.length := by
  change (List.replicate site.zoneCount.toNat _).length=_
  rw [List.length_replicate,Site.zoneCount,lengthCapped,Nat.min_eq_left h,
    UInt8.toNat_ofNat_of_lt' (Nat.lt_succ_of_le h)]

theorem state_start (i : UInt8) :
    (start role carrier site valves sensors clock).zones.state i=.off := ZoneBoard.state_ofCount ..

end Start

variable (c : Controller σ)

@[simp] theorem still_record (e : Event) : (c.record e).still=c.still := rfl

@[simp] theorem setting_setValve (s : Station) (ch : UInt8) (on : Bool) :
    (c.setValve s ch on).1.setting=c.setting := by
  unfold setValve
  split <;> rfl

theorem plant_setValve_true {s : Station} {ch : UInt8} {o : UInt16} (ho : s.output? ch=some o) :
    (c.setValve s ch true).1.plant=⟨(c.valves.set o true).1,c.zones⟩ := by
  simp [setValve,ho,plant]

theorem plant_setValve_false (s : Station) (ch : UInt8) :
    (c.setValve s ch false).1.plant=⟨c.valves.release (s.output? ch),c.zones⟩ := by
  unfold setValve
  split <;> simp_all [plant,ValveBoard.release]

/-- Driving an output succeeds if there is one and it is wired. -/
theorem setValve_snd (s : Station) (ch : UInt8) (on : Bool) :
    (c.setValve s ch on).2=true ↔ ∃ o,s.output? ch=some o ∧ c.valves.isWired o=true := by
  unfold setValve
  split <;> simp_all [ValveBoard.set_snd]

theorem plant_setValve_of_refused {s : Station} {ch : UInt8} {on : Bool}
    (h : (c.setValve s ch on).2=false) : (c.setValve s ch on).1.plant=c.plant := by
  unfold setValve at h ⊢
  split
  · rfl
  · rename_i o ho
    have hw : ¬c.valves.isWired o=true := by simpa [ho,ValveBoard.set_snd] using h
    simp [plant,ValveBoard.set,hw]

/-- Driving an output sends nothing, and changes neither the wiring nor the board. -/
theorem setValve_frame (s : Station) (ch : UInt8) (on : Bool) :
    (c.setValve s ch on).1.link=c.link ∧ (c.setValve s ch on).1.inFlight=c.inFlight ∧
    (∀ o,(c.setValve s ch on).1.valves.isWired o=c.valves.isWired o) ∧
    (c.setValve s ch on).1.zones=c.zones := by
  unfold setValve
  split
  · exact ⟨rfl,rfl,fun _ => rfl,rfl⟩
  · exact ⟨rfl,rfl,fun _ => ValveBoard.isWired_set ..,rfl⟩

theorem plant_releaseValve (z : Zone) :
    (c.releaseValve z).plant=⟨c.valves.release (c.site.outputOf? z),c.zones⟩ := by
  unfold releaseValve Site.outputOf?
  cases c.site.station? z.station with
  | none => rfl
  | some s =>
    dsimp only
    split_ifs
    · exact plant_setValve_false ..
    · rfl

@[simp] theorem setting_releaseValve (z : Zone) : (c.releaseValve z).setting=c.setting := by
  unfold releaseValve
  split
  · split_ifs
    · exact setting_setValve ..
    · rfl
  · rfl

@[simp] theorem setting_failSafeOff (i : UInt8) : (c.failSafeOff i).setting=c.setting := by
  simp only [failSafeOff]
  cases c.site.zone? i with
  | none => split_ifs <;> rfl
  | some z => split_ifs <;> exact setting_releaseValve ..

theorem plant_failSafeOff {i : UInt8} {z : Zone} (hz : c.site.zone? i=some z) :
    (c.failSafeOff i).plant=⟨c.valves.release (c.site.outputOf? z),
      if c.zones.state i=.off then c.zones else c.zones.forceOff i⟩ := by
  have hr := c.plant_releaseValve z
  have hv : (c.releaseValve z).valves=_ := congrArg Plant.valves hr
  have hb : (c.releaseValve z).zones=_ := congrArg Plant.zones hr
  simp only [failSafeOff,hz]
  rw [hb]
  split_ifs with h
  · rw [hr]
  · change Plant.mk (c.releaseValve z).valves _=_
    rw [hv]
    rfl

@[simp] theorem still_takeTransaction : c.takeTransaction.1.still=c.still := rfl

variable [Carrier σ]

@[simp] theorem still_sendFrame (t : Destination) (f : Frame) :
    (c.sendFrame t f).1.still=c.still := by
  unfold sendFrame
  split <;> rfl

@[simp] theorem still_request (s : UInt8) (m : Message) : (c.request s m).1.still=c.still := by
  simp only [request]
  split_ifs <;> exact still_sendFrame ..

@[simp] theorem still_reply (f : Frame) (m : Message) : (c.reply f m).still=c.still :=
  still_sendFrame ..

@[simp] theorem still_notify (t : UInt8) (m : Message) : (c.notify t m).still=c.still :=
  still_sendFrame ..

@[simp] theorem still_pushZones (s : UInt8) : (c.pushZones s).still=c.still := by
  unfold pushZones
  split
  · split_ifs
    · exact still_notify ..
    · rfl
  · rfl

@[simp] theorem still_pushSensors (v : List UInt16) : (c.pushSensors v).still=c.still := by
  unfold pushSensors
  split
  · split_ifs
    · exact still_notify ..
    · rfl
  · rfl

@[simp] theorem still_allChannelsOff (s : UInt8) : (c.allChannelsOff s).1.still=c.still := by
  unfold allChannelsOff
  split
  · rfl
  · exact still_request ..

end Watering.Controller
