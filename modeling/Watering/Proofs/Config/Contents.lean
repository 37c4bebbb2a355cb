import Watering.Proofs.Config.Sharing
import Watering.Proofs.Config.Timetable

namespace Watering.Config

namespace StationEntry

/-- One of the zones of the station has this index. -/
def covers (e : StationEntry) (j : Nat) : Bool := e.firstZone.toNat ≤ j && j<e.endZone

/-- The station has zones, and they do not all come before this index. -/
def reaches (e : StationEntry) (j : Nat) : Bool := 0<e.zoneCount.toNat && j<e.endZone

variable {e : StationEntry} {j : Nat}

theorem covers_iff : e.covers j=true ↔
    e.firstZone.toNat ≤ j ∧ j<e.firstZone.toNat+e.zoneCount.toNat := by
  rw [covers,Bool.and_eq_true,decide_eq_true_eq,decide_eq_true_eq,endZone]

theorem reaches_iff : e.reaches j=true ↔
    j<e.firstZone.toNat+e.zoneCount.toNat ∧ 0<e.zoneCount.toNat := by
  rw [reaches,Bool.and_eq_true,decide_eq_true_eq,decide_eq_true_eq,endZone,and_comm]

theorem reaches_of_covers (h : e.covers j=true) : e.reaches j=true := by
  rw [covers_iff] at h
  rw [reaches_iff]
  omega

theorem not_covers_of_apart {e' : StationEntry} {sensors : List Sensor}
    (apart : (e.station sensors).Apart (e'.station sensors)) (h : e.covers j=true) :
    e'.covers j=false := by
  refine eq_false_of_ne_true fun k => ?_
  rw [covers_iff] at h k
  exact apart ⟨Nat.lt_of_le_of_lt h.1 k.2,Nat.lt_of_le_of_lt k.1 h.2⟩

theorem covers_channel {ch : UInt8} (h : ch<e.zoneCount) :
    e.covers (e.firstZone.toNat+ch.toNat)=true := by
  have := UInt8.lt_iff_toNat_lt.mp h
  rw [covers_iff]
  omega

/-- A covered index is that of a channel. -/
theorem exists_channel (h : e.covers j=true) :
    ∃ ch<e.zoneCount,e.firstZone.toNat+ch.toNat=j := by
  rw [covers_iff] at h
  have hn : (UInt8.ofNat (j-e.firstZone.toNat)).toNat=j-e.firstZone.toNat :=
    UInt8.toNat_ofNat_of_lt' (by
      have := e.zoneCount.toNat_lt
      simp only [UInt8.size]
      omega)
  exact ⟨UInt8.ofNat (j-e.firstZone.toNat),UInt8.lt_iff_toNat_lt.mpr (by omega),by omega⟩

end StationEntry

section Stations

variable {sensors : List Sensor} {xs : List StationEntry} {s : Site} {j : Nat}

theorem getElem?_addEntry {e : StationEntry} (fits : e.endZone≤255) :
    (s.addStation e.id (e.station sensors)).zones[j]?=
      if e.covers j then some (Site.channelZone e.id (e.station sensors) (j-e.firstZone.toNat))
      else (s.zones[j]?).or (if e.reaches j then some default else none) := by
  rw [Site.getElem?_addStation s e.id (e.station sensors) j fits]
  exact if_congr StationEntry.covers_iff.symm rfl
    (congrArg _ (if_congr StationEntry.reaches_iff.symm rfl rfl))

/-- An index that no station covers is filled as soon as one lies behind it. -/
theorem getElem?_foldl_uncovered (fits : ∀ e∈xs,e.endZone≤255)
    (gap : ∀ e∈xs,e.covers j=false) :
    (xs.foldl (fun s e => s.addStation e.id (e.station sensors)) s).zones[j]?=
      (s.zones[j]?).or (if xs.any (·.reaches j) then some default else none) := by
  induction xs generalizing s with
  | nil => exact (Option.or_none).symm
  | cons e xs ih =>
    have he := List.mem_cons_self (a:=e) (l:=xs)
    rw [List.foldl_cons,ih (fun y hy => fits y (List.mem_cons_of_mem _ hy))
      (fun y hy => gap y (List.mem_cons_of_mem _ hy)),getElem?_addEntry (fits e he),gap e he,
      if_neg Bool.false_ne_true,Option.or_assoc,List.any_cons]
    cases e.reaches j <;> rfl

/-- The zone of a channel is that which its station brought. -/
theorem getElem?_foldl_covered (fits : ∀ e∈xs,e.endZone≤255)
    (apart : xs.Pairwise fun a b => (a.station sensors).Apart (b.station sensors))
    {e : StationEntry} (he : e∈xs) (h : e.covers j=true) :
    (xs.foldl (fun s e => s.addStation e.id (e.station sensors)) s).zones[j]?=
      some (Site.channelZone e.id (e.station sensors) (j-e.firstZone.toNat)) := by
  induction xs generalizing s with
  | nil => cases he
  | cons x xs ih =>
    obtain ⟨hx,hxs⟩ := List.pairwise_cons.mp apart
    have rest : ∀ y∈xs,y.endZone≤255 := fun y hy => fits y (List.mem_cons_of_mem _ hy)
    rw [List.foldl_cons]
    obtain rfl | he := List.mem_cons.mp he
    · rw [getElem?_foldl_uncovered rest fun y hy => StationEntry.not_covers_of_apart (hx y hy) h,
        getElem?_addEntry (fits e List.mem_cons_self),if_pos h]
      rfl
    · exact ih rest hxs he

end Stations

variable {c : Config}

/-- The override is for the zone with this index. -/
def hits (c : Config) (j : Nat) (o : ZoneEntry) : Bool :=
  match c.station? o.station with
  | some e => (addCapped e.firstZone o.channel).toNat==j
  | none => false

theorem getElem?_applyOverride (s : Site) (o : ZoneEntry) (j : Nat) :
    (c.applyOverride s o).zones[j]?=
      if c.hits j o then (s.zones[j]?).map o.override else s.zones[j]? := by
  unfold applyOverride hits
  cases c.station? o.station with
  | none => rfl
  | some e =>
    dsimp only
    rw [Site.getElem?_modifyZone]
    exact if_congr beq_iff_eq.symm rfl rfl

/-- A zone that no override is for stays as it is. -/
theorem getElem?_foldl_missed {os : List ZoneEntry} {s : Site} {j : Nat}
    (miss : ∀ o∈os,c.hits j o=false) :
    (os.foldl c.applyOverride s).zones[j]?=s.zones[j]? := by
  induction os generalizing s with
  | nil => rfl
  | cons o os ih =>
    rw [List.foldl_cons,ih fun y hy => miss y (List.mem_cons_of_mem _ hy),getElem?_applyOverride,
      miss o List.mem_cons_self,if_neg Bool.false_ne_true]

/-- A zone that one override is for becomes what that says. -/
theorem getElem?_foldl_hit {os : List ZoneEntry} {s : Site} {j : Nat}
    (once : os.Pairwise fun o o' => c.hits j o=true → c.hits j o'=false) {o : ZoneEntry}
    (ho : o∈os) (h : c.hits j o=true) :
    (os.foldl c.applyOverride s).zones[j]?=(s.zones[j]?).map o.override := by
  induction os generalizing s with
  | nil => cases ho
  | cons x os ih =>
    obtain ⟨hx,hos⟩ := List.pairwise_cons.mp once
    rw [List.foldl_cons]
    obtain rfl | ho := List.mem_cons.mp ho
    · rw [getElem?_foldl_missed fun y hy => hx y hy h,getElem?_applyOverride,if_pos h]
    · have hmiss : c.hits j x=false := by
        by_contra k
        rw [hx o ho (eq_true_of_ne_false k)] at h
        cases h
      rw [ih hos ho,getElem?_applyOverride,hmiss,if_neg Bool.false_ne_true]

/-- The index of a channel is an octet, and not the last one. -/
theorem Valid.index_lt (h : c.Valid) {e : StationEntry} {ch : UInt8} (he : e∈c.stations)
    (hc : ch<e.zoneCount) : e.firstZone.toNat+ch.toNat<255 := by
  have fits := (h.sound he).endZone_le
  have := UInt8.lt_iff_toNat_lt.mp hc
  unfold StationEntry.endZone at fits
  omega

theorem Valid.toNat_zone (h : c.Valid) {e : StationEntry} {ch : UInt8} (he : e∈c.stations)
    (hc : ch<e.zoneCount) : (addCapped e.firstZone ch).toNat=e.firstZone.toNat+ch.toNat := by
  rw [addCapped_toNat]
  exact Nat.min_eq_left (Nat.le_of_lt (h.index_lt he hc))

theorem Valid.toNat_index (h : c.Valid) {e : StationEntry} {ch : UInt8} (he : e∈c.stations)
    (hc : ch<e.zoneCount) : (e.firstZone+ch).toNat=e.firstZone.toNat+ch.toNat := by
  rw [UInt8.toNat_add]
  exact Nat.mod_eq_of_lt (Nat.lt_succ_of_lt (h.index_lt he hc))

/-- The index of a channel tells its station and its channel. -/
theorem Valid.channel_inj (h : c.Valid) {e e' : StationEntry} {ch ch' : UInt8}
    (he : e∈c.stations) (hc : ch<e.zoneCount) (he' : e'∈c.stations) (hc' : ch'<e'.zoneCount)
    (same : e.firstZone.toNat+ch.toNat=e'.firstZone.toNat+ch'.toNat) : e.id=e'.id ∧ ch=ch' := by
  have listed {e : StationEntry} {ch : UInt8} (he : e∈c.stations) (hc : ch<e.zoneCount) :
      ∃ z,c.site.zone? (addCapped e.firstZone ch)=some z ∧ z.station=e.id ∧ z.channel=ch := by
    have hs : c.site.station? e.id=some (e.station c.sensors) := by
      rw [h.station?_site,h.station?_of_mem he,Option.map_some]
    exact h.laid.zone_of hs hc
  obtain ⟨z,hz,hid,hch⟩ := listed he hc
  obtain ⟨z',hz',hid',hch'⟩ := listed he' hc'
  have index : addCapped e.firstZone ch=addCapped e'.firstZone ch' :=
    UInt8.toNat_inj.mp ((h.toNat_zone he hc).trans (same.trans (h.toNat_zone he' hc').symm))
  rw [index,hz'] at hz
  obtain rfl := Option.some.inj hz
  exact ⟨hid.symm.trans hid',hch.symm.trans hch'⟩

theorem Valid.hits_iff (h : c.Valid) {o : ZoneEntry} (ho : o∈c.zones) {e : StationEntry}
    {ch : UInt8} (he : e∈c.stations) (hc : ch<e.zoneCount) :
    c.hits (e.firstZone.toNat+ch.toNat) o=true ↔ o.station=e.id ∧ o.channel=ch := by
  obtain ⟨e',he',hc'⟩ := h.override ho
  obtain ⟨hmem,hid⟩ := mem_of_station? he'
  rw [hits,he',beq_iff_eq,h.toNat_zone hmem hc']
  constructor
  · intro same
    rw [←hid]
    exact h.channel_inj hmem hc' he hc same
  · rintro ⟨k,rfl⟩
    rw [k,h.station?_of_mem he] at he'
    rw [Option.some.inj he']

theorem Valid.covers_of_hits (h : c.Valid) {o : ZoneEntry} (ho : o∈c.zones) {j : Nat}
    (hit : c.hits j o=true) : ∃ e∈c.stations,e.covers j=true := by
  obtain ⟨e,he,hc⟩ := h.override ho
  obtain ⟨hmem,_⟩ := mem_of_station? he
  rw [hits,he,beq_iff_eq,h.toNat_zone hmem hc] at hit
  exact ⟨e,hmem,hit ▸ StationEntry.covers_channel hc⟩

theorem zones_site (c : Config) :
    c.site.zones=(c.zones.foldl c.applyOverride c.stationSite).zones := by
  rw [site_eq,foldl_addSensor]

/-- A channel without an override is enabled, and is named after its station. -/
theorem Valid.zone_plain (h : c.Valid) {e : StationEntry} {ch : UInt8} (he : e∈c.stations)
    (hc : ch<e.zoneCount) (none : ∀ o∈c.zones,¬(o.station=e.id ∧ o.channel=ch)) :
    c.site.zones[e.firstZone.toNat+ch.toNat]?=
      some (Site.channelZone e.id (e.station c.sensors) ch.toNat) := by
  rw [zones_site,getElem?_foldl_missed,stationSite,
    getElem?_foldl_covered (fun e he => (h.sound he).endZone_le) h.apart he
      (StationEntry.covers_channel hc),Nat.add_sub_cancel_left]
  intro o ho
  exact eq_false_of_ne_true fun k => none o ho ((h.hits_iff ho he hc).mp k)

/-- A channel with an override is what that says. -/
theorem Valid.zone_overridden (h : c.Valid) {e : StationEntry} {ch : UInt8} (he : e∈c.stations)
    (hc : ch<e.zoneCount) {o : ZoneEntry} (ho : o∈c.zones) (hid : o.station=e.id)
    (hch : o.channel=ch) :
    c.site.zones[e.firstZone.toNat+ch.toNat]?=
      some (o.override (Site.channelZone e.id (e.station c.sensors) ch.toNat)) := by
  have once : c.zones.Pairwise fun o o' => c.hits (e.firstZone.toNat+ch.toNat) o=true →
      c.hits (e.firstZone.toNat+ch.toNat) o'=false := by
    refine h.overridesDistinct.imp_of_mem fun {a b} ha hb hne k => eq_false_of_ne_true fun k' => ?_
    obtain ⟨ha,hac⟩ := (h.hits_iff ha he hc).mp k
    obtain ⟨hb,hbc⟩ := (h.hits_iff hb he hc).mp k'
    exact hne ⟨ha.trans hb.symm,hac.trans hbc.symm⟩
  rw [zones_site,getElem?_foldl_hit once ho ((h.hits_iff ho he hc).mpr ⟨hid,hch⟩),stationSite,
    getElem?_foldl_covered (fun e he => (h.sound he).endZone_le) h.apart he
      (StationEntry.covers_channel hc),Nat.add_sub_cancel_left]
  rfl

theorem Valid.exists_zone (h : c.Valid) {e : StationEntry} {ch : UInt8} (he : e∈c.stations)
    (hc : ch<e.zoneCount) : ∃ z,c.site.zones[e.firstZone.toNat+ch.toNat]?=some z := by
  by_cases listed : ∃ o∈c.zones,o.station=e.id ∧ o.channel=ch
  · obtain ⟨o,ho,hid,hch⟩ := listed
    exact ⟨_,h.zone_overridden he hc ho hid hch⟩
  · exact ⟨_,h.zone_plain he hc fun o ho k => listed ⟨o,ho,k⟩⟩

/-- An index that is no channel's holds a disabled zone, if any. -/
theorem Valid.zone_gap (h : c.Valid) {j : Nat} (gap : ∀ e∈c.stations,e.covers j=false) :
    c.site.zones[j]?=if c.stations.any (·.reaches j) then some default else none := by
  rw [zones_site,getElem?_foldl_missed,stationSite,
    getElem?_foldl_uncovered (fun e he => (h.sound he).endZone_le) gap]
  · rfl
  · intro o ho
    by_contra k
    obtain ⟨e,he,hcov⟩ := h.covers_of_hits ho (eq_true_of_ne_false k)
    rw [gap e he] at hcov
    cases hcov

/-- The list ends where the last station that has zones does. -/
theorem Valid.lt_length_iff (h : c.Valid) (j : Nat) :
    j<c.site.zones.length ↔ ∃ e∈c.stations,e.reaches j=true := by
  rw [←List.any_eq_true,←not_iff_not,Nat.not_lt,←List.getElem?_eq_none_iff]
  by_cases covered : ∃ e∈c.stations,e.covers j=true
  · obtain ⟨e,he,hcov⟩ := covered
    obtain ⟨ch,hc,rfl⟩ := StationEntry.exists_channel hcov
    have reached : c.stations.any (·.reaches (e.firstZone.toNat+ch.toNat))=true :=
      List.any_eq_true.mpr ⟨e,he,StationEntry.reaches_of_covers hcov⟩
    obtain ⟨z,hz⟩ := h.exists_zone he hc
    rw [hz]
    exact ⟨nofun,fun k => absurd reached k⟩
  · have gap : ∀ e∈c.stations,e.covers j=false :=
      fun e he => eq_false_of_ne_true fun k => covered ⟨e,he,k⟩
    rw [h.zone_gap gap]
    split_ifs with k
    · exact ⟨nofun,fun k' => absurd k k'⟩
    · exact ⟨fun _ => k,fun _ => rfl⟩

/-- Every channel is in the list, as it is described; what else is in the list is disabled; and the
list ends with the last station that has zones, at an index that an octet can tell. -/
structure Describes (c : Config) (s : Site) : Prop where
  station {e : StationEntry} : e∈c.stations → s.station? e.id=some
    {name:=e.name,enabled:=e.enabled,remoteStatus:=e.remoteStatus,remoteControl:=e.remoteControl,
      network:=e.network,address:=e.address,zoneCount:=e.zoneCount,firstZone:=e.firstZone,
      sensorCount:=UInt8.ofNat (min (c.sensors.countP (·.station==e.id)) 255)}
  index {e : StationEntry} {ch : UInt8} : e∈c.stations → ch<e.zoneCount →
    (e.firstZone+ch).toNat=e.firstZone.toNat+ch.toNat
  plain {e : StationEntry} {ch : UInt8} : e∈c.stations → ch<e.zoneCount →
    (∀ o∈c.zones,¬(o.station=e.id ∧ o.channel=ch)) → s.zone? (e.firstZone+ch)=some
      {name:=e.name++" "++toString (ch.toNat+1),enabled:=true,station:=e.id,channel:=ch}
  overridden {e : StationEntry} {ch : UInt8} {o : ZoneEntry} : e∈c.stations → ch<e.zoneCount →
    o∈c.zones → o.station=e.id → o.channel=ch → s.zone? (e.firstZone+ch)=some
      {name:=if o.name="" then e.name++" "++toString (ch.toNat+1) else o.name,enabled:=o.enabled,
        station:=e.id,channel:=ch}
  distinct {e e' : StationEntry} {ch ch' : UInt8} : e∈c.stations → ch<e.zoneCount →
    e'∈c.stations → ch'<e'.zoneCount → e.firstZone+ch=e'.firstZone+ch' → e=e' ∧ ch=ch'
  gap {i : UInt8} : i<s.zoneCount →
    (∀ e∈c.stations,∀ ch<e.zoneCount,i≠e.firstZone+ch) →
    ∃ z,s.zone? i=some z ∧ z.enabled=false
  unclipped : s.zoneCount.toNat=s.zones.length
  within {e : StationEntry} : e∈c.stations → 0<e.zoneCount → e.endZone ≤ s.zoneCount.toNat
  reached : s.zoneCount=0 ∨ ∃ e∈c.stations,0<e.zoneCount ∧ e.endZone=s.zoneCount.toNat

theorem Valid.zoneCount_eq (h : c.Valid) : c.site.zoneCount.toNat=c.site.zones.length := by
  have := h.laid.length_le
  rw [Site.zoneCount,lengthCapped,Nat.min_eq_left this,
    UInt8.toNat_ofNat_of_lt' (Nat.lt_succ_of_le this)]

theorem Valid.endZone_le (h : c.Valid) {e : StationEntry} (he : e∈c.stations)
    (pos : 0<e.zoneCount.toNat) : e.endZone ≤ c.site.zones.length := by
  have last := (h.lt_length_iff (e.endZone-1)).mpr ⟨e,he,StationEntry.reaches_iff.mpr (by
    unfold StationEntry.endZone
    omega)⟩
  omega

theorem Valid.reached (h : c.Valid) : c.site.zoneCount=0 ∨
    ∃ e∈c.stations,0<e.zoneCount ∧ e.endZone=c.site.zoneCount.toNat := by
  rw [h.zoneCount_eq]
  by_cases hz : c.site.zones.length=0
  · left
    apply UInt8.toNat_inj.mp
    rw [h.zoneCount_eq,hz]
    rfl
  · right
    obtain ⟨e,he,hr⟩ := (h.lt_length_iff (c.site.zones.length-1)).mp (by omega)
    obtain ⟨last,pos⟩ := StationEntry.reaches_iff.mp hr
    refine ⟨e,he,UInt8.lt_iff_toNat_lt.mpr pos,?_⟩
    have := h.endZone_le he pos
    unfold StationEntry.endZone at this ⊢
    omega

theorem Valid.describes (h : c.Valid) : c.Describes c.site where
  station {e} he := by
    rw [h.station?_site,h.station?_of_mem he,Option.map_some,List.countP_eq_length_filter]
    rfl
  index he hc := h.toNat_index he hc
  plain {e ch} he hc none := by
    rw [Site.zone?,h.toNat_index he hc,h.zone_plain he hc none,Site.channelZone,
      UInt8.ofNat_toNat]
    rfl
  overridden {e ch o} he hc ho hid hch := by
    rw [Site.zone?,h.toNat_index he hc,h.zone_overridden he hc ho hid hch,Site.channelZone,
      UInt8.ofNat_toNat]
    rfl
  distinct {e e' ch ch'} he hc he' hc' same := by
    have same := congrArg UInt8.toNat same
    rw [h.toNat_index he hc,h.toNat_index he' hc'] at same
    obtain ⟨hid,hch⟩ := h.channel_inj he hc he' hc' same
    have hs := h.station?_of_mem he
    rw [hid,h.station?_of_mem he'] at hs
    exact ⟨(Option.some.inj hs).symm,hch⟩
  gap {i} hi none := by
    have uncovered : ∀ e∈c.stations,e.covers i.toNat=false := by
      intro e he
      refine eq_false_of_ne_true fun k => ?_
      obtain ⟨ch,hc,e'⟩ := StationEntry.exists_channel k
      exact none e he ch hc (UInt8.toNat_inj.mp (e'.symm.trans (h.toNat_index he hc).symm))
    have hi := UInt8.lt_iff_toNat_lt.mp hi
    rw [h.zoneCount_eq,h.lt_length_iff] at hi
    refine ⟨default,?_,rfl⟩
    rw [Site.zone?,h.zone_gap uncovered,if_pos (List.any_eq_true.mpr hi)]
  unclipped := h.zoneCount_eq
  within he pos := by
    rw [h.zoneCount_eq]
    exact h.endZone_le he (UInt8.lt_iff_toNat_lt.mp pos)
  reached := h.reached

/-- A valid configuration is what it says: its site holds the stations and zones that it describes,
and its schedules are all kept. -/
theorem site_as_described (h : c.Valid) :
    c.Describes c.site ∧ List.Forall₂ ScheduleEntry.Kept c.schedules c.allSchedules :=
  ⟨h.describes,h.schedules_kept⟩

def garden : StationEntry := {id:=0,name:="Garden",network:=.parallel,zoneCount:=2}

def distantTrees : StationEntry :=
  {id:=4,name:="Orchard",network:=.radio,zoneCount:=1,firstZone:=3}

def lawn : ZoneEntry := {station:=0,channel:=1,name:="Lawn",enabled:=false}

/-- A garden whose second zone has a name of its own, trees elsewhere behind a gap, a schedule. -/
def farm : Config :=
  {unit:=0,stations:=[garden,distantTrees],zones:=[lawn],
    sensors:=[{kind:=.humidity,station:=4,channel:=0}],
    schedules:=[{name:="Dawn",days:=["mon","Friday"],startTimes:=["06:30"],durations:=[10]}]}

theorem farm_valid : farm.Valid := by decide

theorem site_as_described_farm : farm.Valid ∧
    farm.site.zone? 1=some {name:="Lawn",enabled:=false,station:=0,channel:=1} ∧
    (∃ z,farm.site.zone? 2=some z ∧ z.enabled=false) ∧
    farm.site.zone? 3=some {name:="Orchard 1",enabled:=true,station:=4,channel:=0} ∧
    (∃ st,farm.site.station? 4=some st ∧ st.sensorCount=1) ∧
    List.Forall₂ ScheduleEntry.Kept farm.schedules farm.allSchedules := by
  obtain ⟨site,kept⟩ := site_as_described farm_valid
  have hg : garden∈farm.stations := by decide
  have ht : distantTrees∈farm.stations := by decide
  have second : farm.site.zone? (garden.firstZone+1)=_ :=
    site.overridden (o:=lawn) hg (by decide) (by decide) rfl rfl
  have third : ∀ e∈farm.stations,∀ ch∈span 0 e.zoneCount,2≠e.firstZone+ch := by decide +kernel
  have fourth : farm.site.zone? (distantTrees.firstZone+0)=_ :=
    site.plain ht (by decide) (by decide)
  have count : (2 : UInt8)<farm.site.zoneCount :=
    UInt8.lt_iff_toNat_lt.mpr (Nat.lt_of_lt_of_le (by decide) (site.within ht (by decide)))
  exact ⟨farm_valid,second,
    site.gap count fun e he ch hc => third e he ch (mem_span_zero.mpr hc),fourth,
    ⟨_,site.station ht,by decide⟩,kept⟩

end Watering.Config
