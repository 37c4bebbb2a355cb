import Watering.Config.Build
import Watering.Config.Finding
import Watering.Proofs.Site.Layout

namespace Watering.Config

section Findings

variable {α β : Type}

theorem when_eq_nil {p : Bool} {x : α} : when p x=[] ↔ p=false := by
  cases p <;> simp [when]

theorem review_eq_nil {f : List α → Nat → α → List β} {xs : List α} (h : review f xs=[])
    {i : Nat} {x : α} (hx : xs[i]?=some x) : f (xs.take i) i x=[] := by
  apply List.flatMap_eq_nil_iff.mp h (x,i)
  exact List.mk_mem_zipIdx_iff_getElem?.mpr hx

/-- A relation to all earlier entries holds pairwise. -/
theorem pairwise_of_earlier {R : α → α → Prop} {xs : List α}
    (h : ∀ i x,xs[i]?=some x → ∀ y∈xs.take i,R y x) : xs.Pairwise R := by
  apply List.pairwise_iff_getElem.mpr
  intro i j hi hj hij
  apply h j xs[j] (List.getElem?_eq_getElem hj)
  exact List.mem_take_iff_getElem.mpr ⟨i,by omega,rfl⟩

theorem pairwise_of_overlapFindings : ∀ {xs : List StationEntry}, overlapFindings xs=[] →
    xs.Pairwise fun a b => a.overlaps b=false
  | [],_ => List.Pairwise.nil
  | a::rest,h => by
    obtain ⟨h1,h2⟩ := List.append_eq_nil_iff.mp h
    refine List.Pairwise.cons ?_ (pairwise_of_overlapFindings h2)
    intro b hb
    have := List.filter_eq_nil_iff.mp (List.map_eq_nil_iff.mp h1) b hb
    simpa using this

end Findings

variable {c : Config}

/-- What is checked of each station by itself. -/
structure StationEntry.Sound (c : Config) (e : StationEntry) : Prop where
  id_ne : e.id≠broadcastUnit
  own : e.id=c.unit → e.network.isLocal=true
  endZone_le : e.endZone≤255
  endOutput_le : e.network.isLocal=true → e.endOutput≤65535

theorem Valid.parts (h : c.Valid) :
    c.settingFindings=[] ∧ c.stationFindings=[] ∧ overlapFindings c.stations=[] ∧
      c.zoneFindings=[] ∧ c.sensorFindings=[] ∧ c.scheduleFindings=[] := by
  simpa only [Valid,findings,List.append_eq_nil_iff,and_assoc] using h

theorem Valid.unit_ne (h : c.Valid) : c.unit≠broadcastUnit := by
  have h := h.parts.1
  simp only [settingFindings,List.append_eq_nil_iff,when_eq_nil] at h
  simpa using h.1.1.1

theorem Valid.maxRun_ne (h : c.Valid) : c.maxRun≠0 := by
  have h := h.parts.1
  simp only [settingFindings,List.append_eq_nil_iff,when_eq_nil] at h
  have := h.1.1.2
  simp only [Bool.or_eq_false_iff,beq_eq_false_iff_ne] at this
  exact this.1

theorem Valid.stationFaults_eq_nil (h : c.Valid) {i : Nat} {e : StationEntry}
    (he : c.stations[i]?=some e) : c.stationFaults (c.stations.take i) e=[] :=
  List.map_eq_nil_iff.mp (review_eq_nil h.parts.2.1 he)

theorem Valid.sound (h : c.Valid) {e : StationEntry} (he : e∈c.stations) : e.Sound c := by
  obtain ⟨i,hi⟩ := List.mem_iff_getElem?.mp he
  have hf := h.stationFaults_eq_nil hi
  simp only [stationFaults,List.append_eq_nil_iff,when_eq_nil] at hf
  obtain ⟨⟨⟨⟨_,hid⟩,hown⟩,hzone⟩,hout⟩ := hf
  refine ⟨?_,?_,?_,?_⟩
  · intro k
    simp [k] at hid
  · intro k
    cases hn : e.network with
    | radio => simp [k,hn] at hown
    | _ => rfl
  · simpa using hzone
  · intro k
    simpa [k] using hout

theorem Valid.ids (h : c.Valid) : c.stations.Pairwise fun a b => a.id≠b.id := by
  apply pairwise_of_earlier
  intro i e he y hy
  have hf := h.stationFaults_eq_nil he
  simp only [stationFaults,List.append_eq_nil_iff] at hf
  have hid := hf.1.1.1.2
  rw [if_neg (h.sound (List.mem_of_getElem? he)).id_ne,when_eq_nil] at hid
  have := List.any_eq_false.mp hid y hy
  simpa using this

theorem Valid.apart (h : c.Valid) :
    c.stations.Pairwise fun a b => (a.station c.sensors).Apart (b.station c.sensors) := by
  refine (pairwise_of_overlapFindings h.parts.2.2.1).imp ?_
  rintro a b hab ⟨h1,h2⟩
  simp only [StationEntry.overlaps,Bool.and_eq_false_iff] at hab
  exact hab.elim (fun k => of_decide_eq_false k h1) fun k => of_decide_eq_false k h2

theorem mem_of_station? {id : UInt8} {e : StationEntry} (h : c.station? id=some e) :
    e∈c.stations ∧ e.id=id :=
  ⟨List.mem_of_find?_eq_some h,by simpa using List.find?_some h⟩

/-- An override names a channel of a station. -/
theorem Valid.override (h : c.Valid) {z : ZoneEntry} (hz : z∈c.zones) :
    ∃ e,c.station? z.station=some e ∧ z.channel<e.zoneCount := by
  obtain ⟨i,hi⟩ := List.mem_iff_getElem?.mp hz
  have hf : c.zoneFaults (c.zones.take i) z=[] :=
    List.map_eq_nil_iff.mp (review_eq_nil h.parts.2.2.2.1 hi)
  unfold zoneFaults at hf
  cases he : c.station? z.station with
  | none => simp [he] at hf
  | some e =>
    simp only [he,List.append_eq_nil_iff,when_eq_nil,decide_eq_false_iff_not] at hf
    exact ⟨e,rfl,UInt8.not_le.mp hf.1.1⟩

def stationSite (c : Config) : Site :=
  c.stations.foldl (fun s e => s.addStation e.id (e.station c.sensors))
    {unit:=c.unit,maxRun:=c.maxRun}

def applyOverride (c : Config) (s : Site) (z : ZoneEntry) : Site :=
  match c.station? z.station with
  | some e => s.modifyZone (addCapped e.firstZone z.channel) z.override
  | none => s

theorem site_eq (c : Config) :
    c.site=c.sensors.foldl (fun s x => s.addSensor x) (c.zones.foldl c.applyOverride c.stationSite) :=
  rfl

theorem station?_foldl (xs : List StationEntry) (sensors : List Sensor) (s : Site) (id : UInt8)
    (ids : xs.Pairwise fun a b => a.id≠b.id) :
    (xs.foldl (fun s e => s.addStation e.id (e.station sensors)) s).station? id=
      ((xs.find? (·.id==id)).map (·.station sensors)).or (s.station? id) := by
  induction xs generalizing s with
  | nil => rfl
  | cons e xs ih =>
    obtain ⟨hne,hrest⟩ := List.pairwise_cons.mp ids
    rw [List.foldl_cons,ih _ hrest,Site.station?_addStation,List.find?_cons]
    by_cases k : id=e.id
    · have hn : xs.find? (·.id==id)=none := by
        apply List.find?_eq_none.mpr
        intro y hy
        have := hne y hy
        simpa [k] using this.symm
      rw [hn]
      simp [k]
    · have : (e.id==id)=false := by simpa using Ne.symm k
      simp [k,this]

theorem station?_stationSite (h : c.Valid) (id : UInt8) :
    c.stationSite.station? id=(c.station? id).map (·.station c.sensors) := by
  rw [stationSite,station?_foldl _ _ _ _ h.ids]
  exact Option.or_none

theorem tiled_foldl (sensors : List Sensor) (xs : List StationEntry) {s : Site} (hs : s.Tiled)
    (fits : ∀ e∈xs,e.endZone≤255) (ids : xs.Pairwise fun a b => a.id≠b.id)
    (apart : xs.Pairwise fun a b => (a.station sensors).Apart (b.station sensors))
    (fresh : ∀ e∈xs,s.station? e.id=none)
    (away : ∀ e∈xs,∀ k t,s.station? k=some t → (e.station sensors).Apart t) :
    (xs.foldl (fun s e => s.addStation e.id (e.station sensors)) s).Tiled := by
  induction xs generalizing s with
  | nil => exact hs
  | cons e xs ih =>
    obtain ⟨hid,hids⟩ := List.pairwise_cons.mp ids
    obtain ⟨hap,haps⟩ := List.pairwise_cons.mp apart
    have he := List.mem_cons_self (a:=e) (l:=xs)
    have hfit : (e.station sensors).firstZone.toNat+(e.station sensors).zoneCount.toNat≤255 :=
      fits e he
    apply ih (hs.addStation hfit (fresh e he) (away e he))
    · exact fun y hy => fits y (List.mem_cons_of_mem _ hy)
    · exact hids
    · exact haps
    · intro y hy
      rw [Site.station?_addStation,if_neg (hid y hy).symm]
      exact fresh y (List.mem_cons_of_mem _ hy)
    · intro y hy k t hk
      rw [Site.station?_addStation] at hk
      split_ifs at hk with e'
      · rw [←Option.some.inj hk]
        exact (hap y hy).symm
      · exact away y (List.mem_cons_of_mem _ hy) k t hk

theorem Valid.tiled_stationSite (h : c.Valid) : c.stationSite.Tiled := by
  apply tiled_foldl
  · refine ⟨Nat.zero_le _,?_,?_,?_⟩ <;> intros <;> simp_all [Site.station?,Site.zone?]
  · exact fun e he => (h.sound he).endZone_le
  · exact h.ids
  · exact h.apart
  · exact fun _ _ => rfl
  · intro e _ k t hk
    exact absurd hk (by simp [Site.station?])

/-- Overrides change zones only, and leave the layout as it is. -/
theorem Valid.tiled_overrides (h : c.Valid) :
    (c.zones.foldl c.applyOverride c.stationSite).Tiled ∧
      ∀ id,(c.zones.foldl c.applyOverride c.stationSite).station? id=c.stationSite.station? id := by
  suffices hs : ∀ (zs : List ZoneEntry) (s : Site),(∀ z∈zs,z∈c.zones) → s.Tiled →
      (∀ id,s.station? id=c.stationSite.station? id) →
      (zs.foldl c.applyOverride s).Tiled ∧
        ∀ id,(zs.foldl c.applyOverride s).station? id=c.stationSite.station? id from
    hs _ _ (fun _ hz => hz) h.tiled_stationSite fun _ => rfl
  intro zs
  induction zs with
  | nil => exact fun s _ ht hst => ⟨ht,hst⟩
  | cons z zs ih =>
    intro s hz ht hst
    obtain ⟨e,he,hc⟩ := h.override (hz z (List.mem_cons_self ..))
    have hstep : c.applyOverride s z=s.modifyZone ((e.station c.sensors).zoneOf z.channel)
        z.override := by
      rw [applyOverride,he]
      rfl
    have hs : s.station? z.station=some (e.station c.sensors) := by
      rw [hst,station?_stationSite h,he]
      rfl
    apply ih
    · exact fun y hy => hz y (List.mem_cons_of_mem _ hy)
    · rw [hstep]
      exact ht.modifyZone hs hc _ fun _ => ⟨rfl,rfl⟩
    · intro id
      rw [hstep]
      exact hst id

theorem foldl_addSensor (s : Site) (xs : List Sensor) :
    xs.foldl (fun s x => s.addSensor x) s={s with sensors:=s.sensors++xs} := by
  induction xs generalizing s with
  | nil => simp
  | cons x xs ih => rw [List.foldl_cons,ih]; simp [Site.addSensor]

theorem unit_site (c : Config) : c.site.unit=c.unit ∧ c.site.maxRun=c.maxRun := by
  have hst (xs : List StationEntry) (s : Site) :
      (xs.foldl (fun s e => s.addStation e.id (e.station c.sensors)) s).unit=s.unit ∧
      (xs.foldl (fun s e => s.addStation e.id (e.station c.sensors)) s).maxRun=s.maxRun := by
    induction xs generalizing s with
    | nil => exact ⟨rfl,rfl⟩
    | cons e xs ih => exact ih (s.addStation e.id (e.station c.sensors))
  have hz (zs : List ZoneEntry) (s : Site) : (zs.foldl c.applyOverride s).unit=s.unit ∧
      (zs.foldl c.applyOverride s).maxRun=s.maxRun := by
    induction zs generalizing s with
    | nil => exact ⟨rfl,rfl⟩
    | cons z zs ih =>
      have hstep : (c.applyOverride s z).unit=s.unit ∧ (c.applyOverride s z).maxRun=s.maxRun := by
        unfold applyOverride
        split <;> exact ⟨rfl,rfl⟩
      rw [List.foldl_cons,(ih _).1,(ih _).2]
      exact hstep
  rw [site_eq,foldl_addSensor]
  exact ⟨(hz _ _).1.trans (hst _ _).1,(hz _ _).2.trans (hst _ _).2⟩

/-- A station of the site is the station of its entry. -/
theorem Valid.station?_site (h : c.Valid) (id : UInt8) :
    c.site.station? id=(c.station? id).map (·.station c.sensors) := by
  rw [site_eq,foldl_addSensor]
  exact (h.tiled_overrides.2 id).trans (station?_stationSite h id)

/-- A valid configuration stands for a site that is laid out as it should be. -/
theorem Valid.laid (h : c.Valid) : c.site.Laid := by
  have hentry {id : UInt8} {st : Station} (hs : c.site.station? id=some st) :
      ∃ e∈c.stations,e.id=id ∧ e.station c.sensors=st := by
    rw [h.station?_site] at hs
    obtain ⟨e,he,hst⟩ := Option.map_eq_some_iff.mp hs
    obtain ⟨hmem,hid⟩ := mem_of_station? he
    exact ⟨e,hmem,hid,hst⟩
  have htiled : c.site.Tiled := by
    rw [site_eq,foldl_addSensor]
    exact ⟨h.tiled_overrides.1.length_le,h.tiled_overrides.1.fits,h.tiled_overrides.1.zone_of,
      h.tiled_overrides.1.owner⟩
  refine ⟨htiled,?_,?_,?_,?_,?_⟩
  · intro id st hs hn
    obtain ⟨e,he,_,rfl⟩ := hentry hs
    exact (h.sound he).endOutput_le hn
  · intro st hs
    obtain ⟨e,he,hid,rfl⟩ := hentry hs
    exact (h.sound he).own (hid.trans (unit_site c).1)
  · rw [(unit_site c).1]
    exact h.unit_ne
  · intro id st hs
    obtain ⟨e,he,rfl,_⟩ := hentry hs
    exact (h.sound he).id_ne
  · rw [(unit_site c).2]
    exact h.maxRun_ne

end Watering.Config
