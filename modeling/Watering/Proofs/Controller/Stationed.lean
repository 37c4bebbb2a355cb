import Watering.Proofs.Controller.Change
import Watering.Proofs.Controller.Commanding
import Watering.Proofs.Controller.Isolation

namespace Watering

/-- Zone `i` is a channel of some station. -/
def Site.IsChannel (s : Site) (i : UInt8) : Prop := ∃ id,s.HasZone id i

namespace Controller

variable {σ : Type} {c d e : Controller σ} {i : UInt8} {l : List (UInt8×UInt8)} {site : Site}

/-- All zones but those listed are as they were, and no output was opened. -/
structure Closing (l : List (UInt8×UInt8)) (c d : Controller σ) : Prop where
  site : d.site=c.site
  zones {i : UInt8} : i∉l.map (·.1) → d.zones.status? i=c.zones.status? i
  outputs {o : UInt16} : c.valves.isOn o=false → d.valves.isOn o=false

theorem Closing.refl (l : List (UInt8×UInt8)) (c : Controller σ) : Closing l c c :=
  ⟨rfl,fun _ => rfl,fun h => h⟩

theorem Closing.trans (h : Closing l c d) (h' : Closing l d e) : Closing l c e :=
  ⟨h'.site.trans h.site,fun hi => (h'.zones hi).trans (h.zones hi),
    fun ho => h'.outputs (h.outputs ho)⟩

theorem outputs_failSafeOff {z : Zone} (hz : c.site.zone? i=some z) (o : UInt16) :
    (c.failSafeOff i).valves.isOn o=(c.valves.isOn o && !(some o==c.site.feed? i)) := by
  have valves : (c.failSafeOff i).valves=_ := congrArg Plant.valves (c.plant_failSafeOff hz)
  rw [valves,ValveBoard.isOn_release,Site.feed?_eq hz]

theorem closing_failSafeOff {x : UInt8×UInt8} (hx : x∈l) {z : Zone}
    (hz : c.site.zone? x.1=some z) : Closing l c (c.failSafeOff x.1) where
  site := site_of_setting (setting_failSafeOff ..)
  zones hi := (failSafeOff_shuts hz).spares.zones fun e => hi (e ▸ List.mem_map_of_mem hx)
  outputs ho := by rw [outputs_failSafeOff hz,ho,Bool.false_and]

theorem closing_stopZones (c : Controller σ) (l : List (UInt8×UInt8)) (confirmed : Bool) :
    Closing l c (c.stopZones (l.map (·.1)) confirmed) where
  site := site_of_setting (setting_stopZones ..)
  zones hi := by rw [zones_stopZones,ZoneBoard.status?_foldl_stop,if_neg hi]
  outputs ho := by
    have valves : (c.stopZones (l.map (·.1)) confirmed).valves=c.valves :=
      congrArg Plant.valves (c.plant_stopZones ..)
    rwa [valves]

theorem outputs_setValves (c : Controller σ) (st : Station) (l : List (UInt8×UInt8)) (o : UInt16) :
    (l.foldl (fun c (_,channel) => (c.setValve st channel false).1) c).valves.isOn o=
      (c.valves.isOn o && !(l.map fun x => st.output? x.2).contains (some o)) := by
  have valves : (l.foldl (fun c (_,channel) => (c.setValve st channel false).1) c).valves=_ :=
    congrArg Plant.valves (c.plant_setValves st l)
  rw [valves,←ValveBoard.isOn_foldl_release,List.foldl_map]

theorem closing_setValves (c : Controller σ) (st : Station) (l : List (UInt8×UInt8)) :
    Closing l c (l.foldl (fun c (_,channel) => (c.setValve st channel false).1) c) where
  site := site_of_setting (foldl_same (f:=fun d (x : UInt8×UInt8) => (d.setValve st x.2 false).1)
    (fun d x => setting_setValve d st x.2 false) l c)
  zones _ := by rw [zones_setValves]
  outputs ho := by rw [outputs_setValves,ho,Bool.false_and]

theorem closing_of_still (h : d.still=c.still) : Closing l c d :=
  ⟨site_of_still h,fun _ => by rw [zones_of_still h],fun ho => by
    rwa [show d.valves=c.valves from congrArg Plant.valves (plant_of_still h)]⟩

theorem status?_pruned {z : Zone} (hz : c.site.zone? i=some z) :
    c.pruned.status? i=c.zones.status? i := by
  unfold pruned
  refine List.foldlRecOn _ _ (motive:=fun b : ZoneBoard => b.status? i=c.zones.status? i) rfl
    fun b same j _ => ?_
  split_ifs with hj
  · exact same
  · refine (ZoneBoard.status?_modify_ne b _ ?_).trans same
    rintro rfl
    exact hj (by rw [hz]; rfl)

variable [Carrier σ]

theorem closing_turnOffStation {id : UInt8} (hl : ∀ x∈l,∃ z,c.site.zone? x.1=some z) :
    Closing l c (c.turnOffStation id l) := by
  cases hs : c.site.enabledStation? id with
  | none =>
    rw [c.turnOffStation_out hs]
    refine List.foldlRecOn l _ (motive:=Closing l c) (.refl l c) fun d h x hx => ?_
    obtain ⟨z,hz⟩ := hl x hx
    exact h.trans (closing_failSafeOff hx (by rw [h.site]; exact hz))
  | some st =>
    have pushed (d : Controller σ) : Closing l d (d.pushZones id) :=
      closing_of_still (still_pushZones ..)
    rw [c.turnOffStation_eq hs]
    split_ifs
    · exact ((c.closing_setValves st l).trans (closing_stopZones ..)).trans (pushed _)
    · exact ((closing_of_still (still_request ..)).trans (closing_stopZones ..)).trans (pushed _)
    · exact closing_of_still (still_request ..)

/-- A stop of all zones leaves those alone that are not on. -/
theorem status?_turnOffAll (size : c.zones.size≤256) (off : (c.zones.state i).isOn=false) :
    c.turnOffAll.zones.status? i=c.zones.status? i := by
  have idle : i∉c.zones.active := fun h => by
    rw [(ZoneBoard.mem_active size).mp h] at off
    cases off
  have pruned : c.pruned.status? i=c.zones.status? i := by
    unfold pruned
    refine List.foldlRecOn _ _ (motive:=fun b : ZoneBoard => b.status? i=c.zones.status? i) rfl
      fun b same j hj => ?_
    split_ifs
    · exact same
    · refine (ZoneBoard.status?_modify_ne b _ ?_).trans same
      rintro rfl
      exact idle hj
  rw [c.turnOffAll_foldl]
  refine (List.foldlRecOn (motive:=fun d : Controller σ =>
    d.site=c.site ∧ d.zones.status? i=c.zones.status? i) c.activeStations _
    (b:={c with zones:=c.pruned}) ⟨rfl,pruned⟩ fun d h id _ => ?_).2
  have turn : Closing (c.activeOf id) d (d.turnOffStation id (c.activeOf id)) := by
    refine closing_turnOffStation fun x hx => ?_
    obtain ⟨_,z,hz,_⟩ := c.zone_of_activeOf hx
    exact ⟨z,by rw [h.1]; exact hz⟩
  refine ⟨turn.site.trans h.1,(turn.zones fun m => ?_).trans h.2⟩
  obtain ⟨x,hx,rfl⟩ := List.mem_map.mp m
  exact idle (c.zone_of_activeOf hx).1

section Strangers

variable (laid : c.site.Laid) (alien : ¬c.site.IsChannel i) (off : c.zones.state i=.off)
include off

theorem off_stopZoneFrom (j : UInt8) (origin : Origin) :
    (c.stopZoneFrom j origin).1.zones.state i=.off := by
  by_cases e : i=j
  · subst e
    refine stopZoneFrom_cases (P:=fun r => r.1.zones.state i=.off) ?unknown ?off ?out ?refused ?done
    case unknown => exact fun _ => off
    case off => exact fun _ => off
    case out => exact fun _ _ on _ => absurd off on
    case refused => exact fun _ _ _ on _ _ => absurd off on
    case done => exact fun _ _ _ on _ _ => absurd off on
  · have same : (c.stopZoneFrom j origin).1.zones.status? i=c.zones.status? i :=
      (stopZoneFrom_spares ..).zones e
    rwa [ZoneBoard.state,same]

include laid alien

theorem off_startZoneFrom (run : ZoneRun) (origin : Origin) :
    (c.startZoneFrom run origin).1.zones.state i=.off := by
  by_cases e : i=run.zone
  · subst e
    have idle : ∀ z,¬c.site.MayRun run.zone z := by
      rintro z ⟨hz,he⟩
      obtain ⟨st,hs,hc,hi⟩ := laid.owner hz he
      exact alien ⟨z.station,st,z.channel,hs,hc,hi⟩
    rw [(c.startZoneFrom_else run origin).1 idle]
    exact off
  · have same : (c.startZoneFrom run origin).1.zones.status? i=c.zones.status? i :=
      (startZoneFrom_spares ..).zones e
    rwa [ZoneBoard.state,same]

theorem off_applyZones (st : Station) (schedule minutes : UInt8) (channels : List UInt8) :
    (c.applyZones st schedule minutes channels).1.zones.state i=.off := by
  induction channels generalizing c with
  | nil => exact off
  | cons ch channels ih =>
    have one : (c.applyOne st schedule minutes ch).1.zones.state i=.off := by
      unfold applyOne
      split_ifs
      · exact off_stopZoneFrom off ..
      · exact off_startZoneFrom laid alien off ..
    have site : (c.applyOne st schedule minutes ch).1.site=c.site :=
      site_of_setting (setting_applyOne ..)
    rw [applyZones_cons]
    split_ifs
    · exact ih (by rwa [site]) (by rwa [site]) one
    · exact one

theorem off_serve (f : Frame) : (c.serve f).1.zones.state i=.off := by
  by_cases h : f.function=.zonesSet
  · obtain ⟨transaction,target,source,m⟩ := f
    cases m <;> cases h
    next flags schedule first minutes count mask =>
    change (c.serveZonesSet _ flags schedule first minutes count mask).1.zones.state i=_
    cases hg : c.grant first count mask with
    | none => rwa [zones_of_still (still_serveZonesSet_refused hg)]
    | some g =>
      rw [zones_of_still (still_serveZonesSet_granted hg)]
      exact off_applyZones laid alien off g.1 schedule minutes g.2
  · have same : (c.serve f).1.zones=c.zones := congrArg (·.2.zones) (c.ground_serve h)
    rwa [same]

theorem off_process (homed : c.Homed) (bytes : List UInt8) :
    (c.process bytes).1.zones.state i=.off := by
  cases hf : Frame.decode bytes with
  | error e =>
    unfold process
    rwa [hf]
  | ok f =>
    rw [c.process_decoded hf]
    split_ifs
    · exact off_serve laid alien off f
    · exact off
    · rwa [ZoneBoard.state,zones_of_others laid homed f fun h => alien ⟨f.source,h⟩]
    · exact off
    · exact off

theorem off_poll (homed : c.Homed) : c.poll.1.zones.state i=.off := by
  unfold poll
  split
  · exact off
  · next link delivery _ =>
    exact off_process (c:={c with link}) laid alien off homed delivery.frame

/-- Nothing that is done turns on a zone of no station. -/
theorem off_act (fits : Fits c.site c) (homed : c.Homed) (a : Action σ) :
    (c.act a).zones.state i=.off := by
  cases a with
  | ask id m => rwa [act,zones_request]
  | scan => exact (congrArg (ZoneBoard.state · i) (zones_of_still (still_sendFrame ..))).trans off
  | broadcastTime =>
    exact (congrArg (ZoneBoard.state · i) (zones_of_still (still_sendFrame ..))).trans off
  | operate op =>
    cases op with
    | startZone run => exact off_startZoneFrom laid alien off run .here
    | stopZone j => exact off_stopZoneFrom off j .here
    | turnOffAll =>
      have size : c.zones.size≤256 := by
        rw [fits.size]
        exact Nat.le_of_lt c.site.zoneCount.toNat_lt
      have same : c.turnOffAll.zones.status? i=c.zones.status? i :=
        status?_turnOffAll size (by rw [off]; rfl)
      change c.turnOffAll.zones.state i=.off
      rwa [ZoneBoard.state,same]
    | stopAll =>
      have board : c.stopAll.zones=c.zones.allOff := congrArg (·.2.zones) c.still_stopAll
      exact (congrArg (ZoneBoard.state · i) board).trans (ZoneBoard.state_allOff ..)
    | tick =>
      change c.tick.zones.state i=.off
      rw [fits.zones_tick,ZoneBoard.state,ZoneBoard.status?_tick]
      cases hs : c.zones.status? i with
      | none => rfl
      | some s =>
        rw [ZoneBoard.state_of_status? hs] at off
        rw [Option.map_some,ZoneStatus.tick_off off]
        exact off
    | process bytes => exact off_process laid alien off homed bytes
    | poll => exact off_poll laid alien off homed
    | outside => exact off

end Strangers

/-- In every state that a controller reaches, what is not off is a channel of a station. -/
theorem isChannel_of_reached {cfg : Config} (hv : cfg.Valid) (role : Role) (carrier : σ)
    (valves : ValveBoard) (sensors : SensorBank) (clock : Instant) (actions : List (Action σ))
    (on : ((start role carrier cfg.site valves sensors clock).actAll actions).zones.state i≠.off) :
    cfg.site.IsChannel i := by
  by_contra alien
  refine on (List.foldlRecOn (motive:=fun d : Controller σ =>
    Fits cfg.site d ∧ d.Homed ∧ d.zones.state i=.off) actions act
    ⟨fits_start role carrier cfg.site valves sensors clock,nofun,state_start ..⟩
    fun d ⟨fits,homed,off⟩ a _ => ?_).2.2
  have site := fits.site_eq
  refine ⟨fits.act a,homed.act a,off_act ?_ ?_ off ?_ homed a⟩
  · rw [site]
    exact hv.laid
  · rwa [site]
  · rwa [site]

end Controller

end Watering
