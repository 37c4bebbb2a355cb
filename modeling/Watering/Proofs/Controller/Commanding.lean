import Watering.Proofs.Controller.Operation
import Watering.Proofs.Controller.Switching

namespace Watering

namespace Controller

variable {L : Line} {site : Site} {st : Station} {c d : Controller (Transceiver×Bus)}

theorem stopZones_silent {σ : Type} (c : Controller σ) (zones : List UInt8) (confirmed : Bool) :
    (c.stopZones zones confirmed).link=c.link ∧
    (c.stopZones zones confirmed).inFlight=c.inFlight := by
  induction zones generalizing c with
  | nil => exact ⟨rfl,rfl⟩
  | cons i zones ih => exact ⟨(ih _).1.trans rfl,(ih _).2.trans rfl⟩

theorem zones_stopZones {σ : Type} (c : Controller σ) (zones : List UInt8) (confirmed : Bool) :
    (c.stopZones zones confirmed).zones=zones.foldl (fun b i => b.stop i confirmed) c.zones :=
  congrArg Plant.zones (c.plant_stopZones zones confirmed)

theorem setValves_silent {σ : Type} (c : Controller σ) (s : Station) (l : List (UInt8×UInt8)) :
    (l.foldl (fun c (_,channel) => (c.setValve s channel false).1) c).link=c.link ∧
    (l.foldl (fun c (_,channel) => (c.setValve s channel false).1) c).inFlight=c.inFlight := by
  induction l generalizing c with
  | nil => exact ⟨rfl,rfl⟩
  | cons x l ih =>
    obtain ⟨hl,hi,_⟩ := c.setValve_frame s x.2 false
    exact ⟨(ih _).1.trans hl,(ih _).2.trans hi⟩

theorem zones_setValves {σ : Type} (c : Controller σ) (s : Station) (l : List (UInt8×UInt8)) :
    (l.foldl (fun c (_,channel) => (c.setValve s channel false).1) c).zones=c.zones :=
  congrArg Plant.zones (c.plant_setValves s l)

section Station

variable {id : UInt8} {l : List (UInt8×UInt8)}

theorem foreign_of_owned (hl : ∀ x∈l,Owned site id x) (hid : id≠L.far) :
    ∀ i∈l.map (·.1),∀ z,site.zone? i=some z → z.station≠L.far := by
  intro i hi z hz
  obtain ⟨x,hx,rfl⟩ := List.mem_map.mp hi
  obtain ⟨y,hy,hs,_⟩ := hl x hx
  rwa [Option.some.inj (hz.symm.trans hy.1),hs]

theorem Aside.stopZones (R : L.Reaches site st) (h : L.Hush c d) (same : d.zones=c.zones)
    {zones : List UInt8} (hz : ∀ i∈zones,∀ z,site.zone? i=some z → z.station≠L.far)
    (confirmed : Bool) : Aside L st c (d.stopZones zones confirmed) := by
  obtain ⟨hlink,hin⟩ := d.stopZones_silent zones confirmed
  refine ⟨h.trans (.of_silent h.line hlink hin),fun {ch} hc => ?_⟩
  rw [zones_stopZones,same]
  refine (ZoneBoard.state_foldl_stop c.zones zones confirmed _).1 fun hm => ?_
  exact R.foreign (hz _ hm) hc rfl

theorem Holds.turnOffStation_aside (R : L.Reaches site st) (h : Holds L site c)
    (hl : ∀ x∈l,Owned site id x) (hid : id≠L.far) : Aside L st c (c.turnOffStation id l) := by
  have foreign := foreign_of_owned (L:=L) hl hid
  cases hs : c.site.enabledStation? id with
  | none =>
    rw [c.turnOffStation_out hs]
    induction l generalizing c with
    | nil => exact .refl h.line
    | cons x l ih =>
      obtain ⟨z,hz,hst,_⟩ := hl x List.mem_cons_self
      have one := failSafeOff_aside (i:=x.1) R h.line h.site_eq hz.1 (by rwa [hst])
      have h' := h.of_setting one.hush.line (setting_failSafeOff c x.1)
      have hl' : ∀ y∈l,Owned site id y := fun y hy => hl y (List.mem_cons_of_mem _ hy)
      exact one.trans (ih h' hl' (foreign_of_owned hl' hid)
        (by rw [h'.site_eq,←h.site_eq]; exact hs))
  | some s =>
    rw [c.turnOffStation_eq hs]
    rw [h.site_eq] at hs
    cases hn : s.network.isLocal with
    | true =>
      rw [if_pos rfl]
      obtain ⟨hlink,hin⟩ := c.setValves_silent s l
      have alone : ((l.foldl (fun c (_,channel) => (c.setValve s channel false).1) c).stopZones
          (l.map (·.1)) true).eventMaster=none := by
        refine (eventMaster_of_setting ((setting_stopZones ..).trans ?_)).trans h.alone
        exact foldl_same (f:=fun d (x : UInt8×UInt8) => (d.setValve s x.2 false).1)
          (fun d x => setting_setValve d s x.2 false) l c
      rw [pushZones_alone alone]
      exact .stopZones R (.of_silent h.line hlink hin) (c.zones_setValves s l) foreign true
    | false =>
      rw [if_neg (by simp)]
      have hh : L.Hush c (c.request id (offRequest s l)).1 := request_away h.line h.unit
        (q:=⟨c.nextTransaction,0,0,0,s.zoneCount,_⟩) (R.ne_near hs hn) hid
      have alone : ((c.request id (offRequest s l)).1.stopZones (l.map (·.1)) false).eventMaster=
          none := (eventMaster_of_setting ((setting_stopZones ..).trans
            (setting_of_still (still_request ..)))).trans h.alone
      rw [pushZones_alone alone]
      split_ifs
      · exact .stopZones R hh (zones_request ..) foreign false
      · exact .of_same hh (zones_request ..)

/-- The one request that turns off some channels of a station. -/
def offOf (transaction : UInt8) (st : Station) (l : List (UInt8×UInt8)) : ZonesRequest :=
  .off transaction st.zoneCount
    (l.foldl (fun m (_,channel) => m.set channel true) (.empty 0 st.zoneCount))

theorem get_offOf {t ch : UInt8} : (offOf t st l).mask.get ch=true ↔ ch∈l.map (·.2) := by
  have set := ZoneMask.get_foldl_set (.empty 0 st.zoneCount) ch (fun _ => true) (l.map (·.2))
  rw [List.foldl_map,ZoneMask.get_empty] at set
  rw [show (offOf t st l).mask.get ch=_ from set]
  split_ifs with hm <;> simp [hm]

theorem mem_channels_offOf {t ch : UInt8} :
    ch∈(offOf t st l).channels ↔ ch < st.zoneCount ∧ ch∈l.map (·.2) :=
  ZonesRequest.mem_channels_off.trans (and_congr_right' (get_offOf (t:=t)))

theorem Holds.turnOffStation_asked (R : L.Reaches site st) (h : Holds L site c)
    (hl : ∀ x∈l,Owned site L.far x) (hne : l≠[]) :
    ∃ q,Asked L site st q c (c.turnOffStation L.far l) := by
  have channel {x : UInt8×UInt8} (hx : x∈l) : x.2 < st.zoneCount ∧ st.zoneOf x.2=x.1 := by
    obtain ⟨z,hz,hs,hch⟩ := hl x hx
    rw [←hch]
    exact R.channel hz hs
  obtain ⟨x,hx⟩ := List.exists_mem_of_ne_nil l hne
  obtain ⟨hxc,_⟩ := channel hx
  set q := offOf c.nextTransaction st l
  have hq : q.Within st.zoneCount := by
    refine ZonesRequest.within_off (UInt8.le_iff_toNat_le.mpr ?_)
    exact Nat.succ_le_of_lt (Nat.zero_lt_of_lt (UInt8.lt_iff_toNat_lt.mp hxc))
  have hmem (ch : UInt8) : ch∈q.channels ↔ ch < st.zoneCount ∧ ch∈l.map (·.2) :=
    mem_channels_offOf
  have chosen : q.channels≠[] :=
    List.ne_nil_of_mem ((hmem x.2).mpr ⟨hxc,List.mem_map_of_mem hx⟩)
  obtain ⟨hok,tells⟩ := h.request_tells R hq chosen rfl
  have hreq : c.request L.far (offRequest st l)=c.request L.far q.message := rfl
  have alone : ((c.request L.far q.message).1.stopZones (l.map (·.1)) false).eventMaster=none :=
    (eventMaster_of_setting ((setting_stopZones ..).trans
      (setting_of_still (still_request ..)))).trans h.alone
  obtain ⟨hlink,hin⟩ := (c.request L.far q.message).1.stopZones_silent (l.map (·.1)) false
  have stop := ZoneBoard.state_foldl_stop c.zones (l.map (·.1)) false
  rw [c.turnOffStation_eq (by rw [h.site_eq]; exact R.station),R.radio,if_neg (by simp),hreq,
    if_pos hok,pushZones_alone alone]
  refine ⟨q,tells.hush (.of_silent tells.line hlink hin),hq,fun {ch} hch hn => ?_,
    fun {ch} hc => ?_,fun h0 => absurd rfl h0⟩
  · rw [zones_stopZones,zones_request]
    refine (stop _).1 fun hm => hn ((hmem ch).mpr ⟨hch,?_⟩)
    obtain ⟨y,hy,he⟩ := List.mem_map.mp hm
    obtain ⟨hyc,hyz⟩ := channel hy
    rw [←Station.zoneOf_inj (R.laid.fits R.station?) hyc hch (hyz.trans he)]
    exact List.mem_map_of_mem hy
  · rw [zones_stopZones,zones_request]
    obtain ⟨_,hm⟩ := (hmem ch).mp hc
    obtain ⟨y,hy,rfl⟩ := List.mem_map.mp hm
    rw [(channel hy).2]
    exact (stop _).2 (List.mem_map_of_mem hy)

end Station

/-- Dropping the zones that the site does not have. -/
theorem Aside.pruned (R : L.Reaches site st) (h : Holds L site c) :
    Aside L st c {c with zones:=c.pruned} := by
  refine ⟨.of_silent h.line rfl rfl,fun {ch} hc => ?_⟩
  obtain ⟨z,hz,_⟩ := R.laid.zone_of R.station? hc
  change c.pruned.state _=_
  rw [Controller.pruned,h.site_eq]
  generalize c.zones.active=l
  generalize c.zones=b
  induction l generalizing b with
  | nil => rfl
  | cons i l ih =>
    rw [List.foldl_cons,ih]
    split_ifs with hi
    · rfl
    · refine ZoneBoard.state_modify_ne b _ ?_
      rintro rfl
      exact hi (by rw [hz]; rfl)

theorem Leads.turnOffAll (R : L.Reaches site st) (h : c.Leads site) (ho : L.Open c.link) :
    Effect L site st c c.turnOffAll := by
  have hh := h.holds R ho
  have hp : Aside L st c {c with zones:=c.pruned} := .pruned R hh
  obtain ⟨ids,nodup,busy,heq⟩ := c.turnOffAll_eq
  have owned (id : UInt8) : ∀ x∈c.activeOf id,Owned site id x := by
    rw [←h.site_eq]
    exact owned_of_activeOf (by rw [h.site_eq]; exact h.idle)
      (by rw [h.size]; exact Nat.le_succ_of_le R.laid.length_le)
  have all := foldl_once (A:=Aside L st) (B:=fun x y => ∃ q,Asked L site st q x y)
    (I:=Holds L site) (f:=fun d id => d.turnOffStation id (c.activeOf id)) (s:=L.far)
    (fun x hx => .refl hx.line) (fun hxy hyz => hxy.trans hyz)
    (fun hxy ⟨q,hyz⟩ => ⟨q,hxy.asked hyz⟩) (fun ⟨q,hxy⟩ hyz => ⟨q,hxy.aside hyz⟩)
    (fun x id hx hid => by
      have := hx.turnOffStation_aside R (owned id) hid
      exact ⟨this,hx.of_setting this.hush.line (setting_turnOffStation ..)⟩)
    (fun hfar x hx => by
      obtain ⟨q,this⟩ := hx.turnOffStation_asked R (owned L.far) ((busy _).mp hfar)
      exact ⟨⟨q,this⟩,hx.of_setting this.tells.line (setting_turnOffStation ..)⟩)
    nodup (hh.of_setting hp.hush.line (d:={c with zones:=c.pruned}) rfl)
  rw [heq]
  split_ifs at all
  · obtain ⟨q,hq⟩ := all
    exact Or.inr ⟨q,hp.asked hq⟩
  · exact Or.inl (hp.trans all)

/-- The request that turns off all channels of a station. -/
def allOffOf (transaction : UInt8) (st : Station) : ZonesRequest :=
  .off transaction st.zoneCount (.range 0 st.zoneCount)

theorem mem_channels_allOffOf {t ch : UInt8} :
    ch∈(allOffOf t st).channels ↔ ch < st.zoneCount := by
  rw [allOffOf,ZonesRequest.mem_channels_off,ZoneMask.get_range,decide_eq_true_eq,mem_span_zero,
    and_self_iff]

/-- Telling another station leaves this one out of it. -/
theorem Holds.tellStation_hush {id : UInt8} (R : L.Reaches site st) (h : Holds L site c)
    (hid : id≠L.far) : L.Hush c (c.tellStation id) := by
  unfold tellStation
  cases hs : c.site.enabledStation? id with
  | none => exact .of_silent h.line rfl rfl
  | some s =>
    dsimp only
    split_ifs with hn
    · exact .of_silent h.line rfl rfl
    · have hreq : c.allChannelsOff id=c.request id (allOffOf c.nextTransaction s).message := by
        simp only [allChannelsOff,(Site.station?_of_enabledStation? hs).1]
        rfl
      rw [h.site_eq] at hs
      rw [hreq]
      exact request_away h.line h.unit (q:=allOffOf c.nextTransaction s)
        (R.ne_near hs (by simpa using hn)) hid

/-- Telling this station asks it for all of its channels. -/
theorem Holds.tellStation_tells (R : L.Reaches site st) (pos : 1 ≤ st.zoneCount)
    (h : Holds L site c) : ∃ t,
    L.Tells ((allOffOf t st).frame L.far L.near) ((allOffOf t st).channels.map st.zoneOf) c
      (c.tellStation L.far) := by
  have hst : c.site.enabledStation? L.far=some st := by
    rw [h.site_eq]
    exact R.station
  have hst' := (Site.station?_of_enabledStation? hst).1
  have htell : c.tellStation L.far=
      (c.request L.far (allOffOf c.nextTransaction st).message).1 := by
    simp only [tellStation,hst,R.radio,allChannelsOff,hst']
    rfl
  have first : (0 : UInt8)∈(allOffOf c.nextTransaction st).channels :=
    mem_channels_allOffOf.mpr (UInt8.lt_iff_toNat_lt.mpr (UInt8.le_iff_toNat_le.mp pos))
  obtain ⟨_,tells⟩ := h.request_tells R (q:=allOffOf c.nextTransaction st)
    (ZonesRequest.within_off pos) (List.ne_nil_of_mem first) rfl
  rw [htell]
  exact ⟨_,tells⟩

theorem Leads.stopStations (R : L.Reaches site st) (pos : 1 ≤ st.zoneCount) (h : c.Leads site)
    (ho : L.Open c.link) : ∃ t,
    L.Tells ((allOffOf t st).frame L.far L.near) ((allOffOf t st).channels.map st.zoneOf) c
      c.stopStations := by
  have hmem : L.far∈c.site.stationIds := by
    rw [Site.stationIds,Std.TreeMap.mem_keys,Std.TreeMap.mem_iff_isSome_getElem?,h.site_eq]
    have := R.station?
    rw [Site.station?] at this
    rw [this]
    rfl
  have all := foldl_once (A:=L.Hush) (s:=L.far) (I:=Holds L site) (B:=fun x y => ∃ t,
      L.Tells ((allOffOf t st).frame L.far L.near) ((allOffOf t st).channels.map st.zoneOf) x y)
    (f:=tellStation) (fun x hx => .of_silent hx.line rfl rfl) (fun hxy hyz => hxy.trans hyz)
    (fun hxy => .imp fun t hyz => hxy.tells hyz) (fun hxy hyz => hxy.imp fun t h => h.hush hyz)
    (fun x id hx hid => by
      have hush := hx.tellStation_hush R hid
      exact ⟨hush,hx.of_setting hush.line (setting_of_still (x.still_tellStation id))⟩)
    (fun _ x hx => by
      obtain ⟨t,tells⟩ := hx.tellStation_tells R pos
      exact ⟨⟨t,tells⟩,hx.of_setting tells.line (setting_of_still (x.still_tellStation _))⟩)
    (Std.TreeMap.nodup_keys (t:=c.site.stations)) (h.holds R ho)
  exact (if_pos hmem).mp all

/-- What remains of stopping everything once the stations were told. -/
def emptied {σ : Type} (c : Controller σ) (zones : List UInt8) : Controller σ :=
  zones.foldl (fun c z => c.record (.zoneStopped z .commanded)) {c with zones:=c.zones.allOff}

theorem emptied_silent {σ : Type} (c : Controller σ) (zones : List UInt8) :
    (c.emptied zones).link=c.link ∧ (c.emptied zones).inFlight=c.inFlight ∧
    (c.emptied zones).eventMaster=c.eventMaster := by
  suffices h : ∀ d : Controller σ,
      (zones.foldl (fun c z => c.record (.zoneStopped z .commanded)) d).link=d.link ∧
      (zones.foldl (fun c z => c.record (.zoneStopped z .commanded)) d).inFlight=d.inFlight ∧
      (zones.foldl (fun c z => c.record (.zoneStopped z .commanded)) d).eventMaster=
        d.eventMaster from h {c with zones:=c.zones.allOff}
  induction zones with
  | nil => exact fun _ => ⟨rfl,rfl,rfl⟩
  | cons z zones ih =>
    exact fun d => ⟨(ih _).1.trans rfl,(ih _).2.1.trans rfl,(ih _).2.2.trans rfl⟩

theorem stopAll_parts {σ : Type} [Carrier σ] {c : Controller σ} (h : c.eventMaster=none) :
    c.stopAll.link=(Controller.stopStations {c with valves:=c.valves.allOff}).link ∧
    c.stopAll.inFlight=(Controller.stopStations {c with valves:=c.valves.allOff}).inFlight ∧
    c.stopAll.zones=c.zones.allOff := by
  obtain ⟨zones,unit,heq⟩ : ∃ zones unit,c.stopAll=
      ((Controller.stopStations {c with valves:=c.valves.allOff}).emptied zones).pushZones unit :=
    ⟨_,_,rfl⟩
  obtain ⟨hlink,hin,hmaster⟩ :=
    (Controller.stopStations {c with valves:=c.valves.allOff}).emptied_silent zones
  have hs : (Controller.stopStations {c with valves:=c.valves.allOff}).eventMaster=none :=
    (eventMaster_of_setting (setting_of_still (still_stopStations _))).trans h
  refine ⟨?_,?_,zones_of_still c.still_stopAll⟩
  · rw [heq,pushZones_alone (hmaster.trans hs),hlink]
  · rw [heq,pushZones_alone (hmaster.trans hs),hin]

theorem Leads.stopAll (R : L.Reaches site st) (pos : 1 ≤ st.zoneCount) (h : c.Leads site)
    (ho : L.Open c.link) : Effect L site st c c.stopAll := by
  obtain ⟨hlink,hin,hzones⟩ := stopAll_parts h.alone
  have h' : ({c with valves:=c.valves.allOff} : Controller (Transceiver×Bus)).Leads site :=
    ⟨h.consumes,h.site_eq,h.unit,h.alone,h.size,h.idle⟩
  obtain ⟨t,tells⟩ := h'.stopStations R pos ho
  have start : L.Hush c {c with valves:=c.valves.allOff} := .of_silent ho rfl rfl
  refine Or.inr ⟨allOffOf t st,(start.tells tells).hush (.of_silent tells.line hlink hin),
    ZonesRequest.within_off pos,fun {ch} hc hn => ?_,fun {ch} _ => ?_,
    fun {ch} h0 => absurd rfl h0⟩
  · exact absurd (mem_channels_allOffOf.mpr hc) hn
  · rw [hzones]
    exact Or.inl (ZoneBoard.state_allOff ..)

end Controller

namespace Operation

/-- What a user tells a controller to do. -/
def isCommand {σ : Type} : Operation σ → Bool
  | .startZone _ | .stopZone _ | .turnOffAll | .stopAll => true
  | _ => false

end Operation

namespace Controller

variable {L : Line} {site : Site} {st : Station} {c : Controller (Transceiver×Bus)}
  {op : Operation (Transceiver×Bus)}

theorem Leads.command_outcome (R : L.Reaches site st) (pos : 1 ≤ st.zoneCount) (h : c.Leads site)
    (ho : L.Open c.link) (hop : op.isCommand=true) : Effect L site st c (c.perform op) := by
  cases op with
  | startZone run => exact h.startZone R ho run
  | stopZone i => exact h.stopZone R ho i
  | turnOffAll => exact h.turnOffAll R ho
  | stopAll => exact h.stopAll R pos ho
  | _ => cases hop

/-- A command leaves a master as it is, but for its zones. -/
theorem Leads.command (laid : site.Laid) (h : c.Leads site) (hop : op.isCommand=true) :
    (c.perform op).Leads site := by
  have idle : c.plant.Idle c.site := by
    rw [h.site_eq]
    exact h.idle
  cases op with
  | startZone run => exact h.of_moves (setting_startZoneFrom ..) (startZoneFrom_moves run .here idle)
  | stopZone i =>
    exact h.of_moves (setting_stopZoneFrom ..) (stopZoneFrom_moves (i:=i) .here none (by simp) idle)
  | turnOffAll =>
    refine h.of_moves (setting_turnOffAll ..) (turnOffAll_moves idle ?_)
    rw [h.size]
    exact Nat.le_succ_of_le laid.length_le
  | stopAll => exact h.of_moves (setting_stopAll ..) c.stopAll_moves
  | _ => cases hop

end Controller

end Watering
