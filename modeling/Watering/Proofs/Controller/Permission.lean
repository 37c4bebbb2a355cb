import Watering.Proofs.Controller.Change
import Watering.Proofs.Controller.Grounds
import Watering.Proofs.Controller.Intake

namespace Watering

/-- Peers may not command the station, or it is out of service. -/
def Station.Closed (st : Station) : Prop := st.enabled=false ∨ st.remoteControl=false

namespace Plant

/-- No channel of a station changed, on the board or at its output. -/
structure Untouched (st : Station) (p q : Plant) : Prop where
  zones {ch : UInt8} : ch < st.zoneCount →
    q.zones.status? (st.zoneOf ch)=p.zones.status? (st.zoneOf ch)
  outputs {ch : UInt8} {o : UInt16} : ch < st.zoneCount → st.output? ch=some o →
    q.valves.isOn o=p.valves.isOn o

variable {site : Site} {st other : Station} {id id' ch : UInt8} {p q r : Plant}

theorem Untouched.refl (p : Plant) : Untouched st p p := ⟨fun _ => rfl,fun _ _ => rfl⟩

theorem Untouched.trans (h : Untouched st p q) (h' : Untouched st q r) : Untouched st p r :=
  ⟨fun hc => (h'.zones hc).trans (h.zones hc),
    fun hc ho => (h'.outputs hc ho).trans (h.outputs hc ho)⟩

/-- What happens to a channel of another station is nothing to a station wired here. -/
theorem Spares.untouched (laid : site.Laid) (distinct : site.OutputsDistinct)
    (hs : site.station? id=some st) (hn : st.network.isLocal=true)
    (hs' : site.station? id'=some other) (hc : ch < other.zoneCount) (hne : id≠id')
    (h : Spares site (other.zoneOf ch) p q) : Untouched st p q := by
  refine ⟨fun hj => h.zones (laid.zoneOf_ne hs hj hs' hc hne),fun {j o} hj ho => h.outputs ?_⟩
  obtain ⟨z,hz,rfl,rfl⟩ := laid.zone_of hs' hc
  rw [Site.feed?_eq hz,Site.outputOf?,hs']
  dsimp only
  split_ifs with hn'
  · exact fun ho' => hne (distinct o id st j _ other _ hs hn hj hs' hn' hc ho ho').1
  · intro ho'
    cases ho'

end Plant

namespace Controller

open Plant (Untouched)

variable {σ : Type} [Carrier σ] {c : Controller σ} {site : Site} {st other : Station} {id : UInt8}

omit [Carrier σ] in
/-- The channels that a granted request goes through are channels of the station whose name the
controller goes by, which is in service and takes commands. -/
theorem grant_eq_some {first count : UInt8} {mask : ZoneMask} {channels : List UInt8}
    (h : c.grant first count mask=some (other,channels)) :
    c.Usable .control other ∧ ∀ ch∈channels,ch < other.zoneCount := by
  by_cases k : ∃ t,c.Commandable first count t
  · obtain ⟨t,commandable⟩ := k
    rw [grant_of_commandable commandable] at h
    obtain ⟨rfl,rfl⟩ := Prod.mk.inj (Option.some.inj h)
    obtain ⟨usable,counted,within⟩ := commandable
    refine ⟨usable,fun ch hch => within.lt_limit ?_⟩
    rw [expand_of_ne counted]
    exact (List.mem_filter.mp hch).1
  · rw [grant_of_not_commandable k] at h
    cases h

theorem applyOne_spares (st : Station) (schedule minutes ch : UInt8) :
    Plant.Spares c.site (st.zoneOf ch) c.plant (c.applyOne st schedule minutes ch).1.plant := by
  unfold applyOne
  split_ifs
  · exact stopZoneFrom_spares ..
  · exact startZoneFrom_spares (channelRun st schedule minutes ch) .peer

theorem applyZones_untouched (laid : site.Laid) (distinct : site.OutputsDistinct) {id' : UInt8}
    (hs : site.station? id=some st) (hn : st.network.isLocal=true)
    (hs' : site.station? id'=some other) (hne : id≠id') (schedule minutes : UInt8)
    {channels : List UInt8} (hc : ∀ ch∈channels,ch < other.zoneCount) (hsite : c.site=site) :
    Untouched st c.plant (c.applyZones other schedule minutes channels).1.plant := by
  induction channels generalizing c with
  | nil => exact .refl _
  | cons ch channels ih =>
    have setting : (c.applyOne other schedule minutes ch).1.setting=c.setting := setting_applyOne c ch
    have spares := c.applyOne_spares other schedule minutes ch
    rw [hsite] at spares
    have one := spares.untouched laid distinct hs hn hs' (hc ch List.mem_cons_self) hne
    rw [applyZones_cons]
    split_ifs
    · exact one.trans
        (ih (fun j hj => hc j (List.mem_cons_of_mem _ hj)) ((site_of_setting setting).trans hsite))
    · exact one

section Own

variable (laid : site.Laid) (distinct : site.OutputsDistinct)
  (own : site.station? site.unit=some st) (closed : st.Closed) (hsite : c.site=site)
include laid distinct own closed hsite

theorem serveZonesSet_untouched (f : Frame) (flags : AckFlags)
    (schedule first minutes count : UInt8) (mask : ZoneMask) :
    Untouched st c.plant (c.serveZonesSet f flags schedule first minutes count mask).1.plant := by
  cases h : c.grant first count mask with
  | none =>
    rw [plant_of_still (still_serveZonesSet_refused h)]
    exact .refl _
  | some g =>
    obtain ⟨other,channels⟩ := g
    obtain ⟨⟨hother,enabled,allowed⟩,hc⟩ := grant_eq_some h
    rw [hsite] at hother
    have hne : site.unit≠c.unit := by
      intro e
      rw [←e,own] at hother
      obtain rfl := Option.some.inj hother
      obtain disabled | kept := closed
      · exact Bool.false_ne_true (disabled.symm.trans enabled)
      · exact Bool.false_ne_true (kept.symm.trans allowed)
    rw [plant_of_still (still_serveZonesSet_granted h)]
    exact applyZones_untouched laid distinct own (laid.own own) hother hne schedule minutes hc hsite

theorem serve_untouched (f : Frame) : Untouched st c.plant (c.serve f).1.plant := by
  by_cases h : f.function=.zonesSet
  · obtain ⟨transaction,target,source,m⟩ := f
    cases m <;> cases h
    exact serveZonesSet_untouched laid distinct own closed hsite ..
  · rw [show (c.serve f).1.plant=c.plant from congrArg Prod.snd (c.ground_serve h)]
    exact .refl _

theorem process_untouched (role : c.role.consumes=false) (bytes : List UInt8) :
    Untouched st c.plant (c.process bytes).1.plant := by
  rw [c.process_eq role]
  split
  · exact .refl _
  · split_ifs
    · exact serve_untouched laid distinct own closed hsite _
    · exact .refl _

end Own

/-- Frames that come in one after the other. -/
def processAll (c : Controller σ) (frames : List (List UInt8)) : Controller σ :=
  frames.foldl (fun c bytes => (c.process bytes).1) c

/-- No frames, whoever sends them, change a zone or an output of the own station if that takes no
commands or is out of service, under whatever name the controller goes. -/
theorem closed_station_untouched {cfg : Config} (hv : cfg.Valid)
    (distinct : cfg.site.OutputsDistinct) (own : cfg.site.station? cfg.site.unit=some st)
    (closed : st.Closed) (hc : c.place=(.responder,cfg.site)) (frames : List (List UInt8)) :
    Untouched st c.plant (c.processAll frames).plant := by
  refine (List.foldlRecOn frames _ (motive:=fun d : Controller σ =>
    d.place=(.responder,cfg.site) ∧ Untouched st c.plant d.plant) ⟨hc,.refl _⟩ ?_).2
  rintro d ⟨place,untouched⟩ bytes _
  have role : d.role.consumes=false := by
    rw [show d.role=.responder from congrArg Prod.fst place]
    rfl
  exact ⟨(d.place_process role bytes).trans place,untouched.trans
    (process_untouched hv.laid distinct own closed (congrArg Prod.snd place) role bytes)⟩

/-- A station on the estate that starts the first zone of its plot, which peers may not command. -/
def closedPlot : Controller ScriptedRadio :=
  ((start .responder {kind:=.short} Config.estate.site (.ofOutputs [0,1,2]) {} ⟨0,0⟩).startZone
    {zone:=0,minutes:=10}).1

/-- The station is renamed to the annex, whose channel is then run. -/
def takeOver : List (List UInt8) :=
  [Frame.octets ⟨1,1,7,.registersSet .standard 10 [2]⟩,
    Frame.octets ⟨2,2,7,.zonesSet .standard 0 0 5 1 (.single 0)⟩]

/-- The annex obeys, and the plot stays as it is. -/
theorem closed_station_untouched_estate :
    let d := closedPlot.processAll takeOver
    d.unit=2 ∧ d.zones.state 2=.running ∧ d.valves.isOn 2=true ∧
      d.zones.status? 0=closedPlot.zones.status? 0 ∧ d.valves.isOn 0=closedPlot.valves.isOn 0 := by
  intro d
  obtain ⟨st,own,closed,count,zone,output⟩ : ∃ st,
      Config.estate.site.station? Config.estate.site.unit=some st ∧ st.Closed ∧
        0 < st.zoneCount ∧ st.zoneOf 0=0 ∧ st.output? 0=some 0 :=
    ⟨_,by rw [Config.estate_valid.station?_site]; rfl,Or.inr rfl,by decide,by decide,by decide⟩
  have untouched := closed_station_untouched Config.estate_valid Config.estate_outputsDistinct own
    closed (c:=closedPlot) (by rfl) takeOver
  have zones := untouched.zones count
  rw [zone] at zones
  exact ⟨by decide +kernel,by decide +kernel,by decide +kernel,zones,
    untouched.outputs count output⟩

end Controller

end Watering
