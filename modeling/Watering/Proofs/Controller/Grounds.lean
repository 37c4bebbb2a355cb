import Mathlib.Data.List.Nodup
import Watering.Proofs.Controller.Answer

namespace Watering

/-- The number of items that a range has: from 0 on, `everything` stands for all of them. -/
def expand (first count limit : UInt8) : UInt8 :=
  if first=0 ∧ count=everything then limit else count

/-- The range has an item, and none beyond the limit. -/
def Within (first count limit : UInt8) : Prop :=
  0<(expand first count limit).toNat ∧
    first.toNat+(expand first count limit).toNat ≤ limit.toNat

theorem resolveRange_within {first count limit : UInt8} (h : Within first count limit) :
    resolveRange first count limit=some (first,expand first count limit) :=
  if_pos ⟨UInt8.le_iff_toNat_le.mpr h.1,h.2⟩

theorem resolveRange_without {first count limit : UInt8} (h : ¬Within first count limit) :
    resolveRange first count limit=none :=
  if_neg fun k => h ⟨(UInt8.le_iff_toNat_le.mp k.1 : 1≤_),k.2⟩

theorem expand_everything (limit : UInt8) : expand 0 everything limit=limit := rfl

theorem expand_of_ne {first count limit : UInt8} (h : count≠everything) :
    expand first count limit=count := if_neg fun k => h k.2

/-- The channels of a range lie below its limit. -/
theorem Within.lt_limit {first count limit ch : UInt8} (h : Within first count limit)
    (hc : ch∈span first (expand first count limit)) : ch < limit := lt_of_mem_span hc h.2

theorem nodup_span (first count : UInt8) : (span first count).Nodup := by
  refine List.Nodup.map_on (fun i hi j hj e => ?_) List.nodup_range
  have hi := List.mem_range.mp hi
  have hj := List.mem_range.mp hj
  have e := congrArg UInt8.toNat e
  rw [UInt8.toNat_ofNat_of_lt' (by simp only [UInt8.size]; omega),
    UInt8.toNat_ofNat_of_lt' (by simp only [UInt8.size]; omega)] at e
  omega

theorem length_span_le (first count : UInt8) : (span first count).length ≤ count.toNat := by
  rw [span,List.length_map,List.length_range]
  exact Nat.min_le_left ..

theorem length_span_zero (count : UInt8) : (span 0 count).length=count.toNat := by
  have := count.toNat_lt
  rw [span,List.length_map,List.length_range,show (0 : UInt8).toNat=0 from rfl]
  omega

theorem getElem?_span_zero {count x : UInt8} (h : x < count) : (span 0 count)[x.toNat]?=some x := by
  have hx : x.toNat < (span 0 count).length := by
    rw [length_span_zero]
    exact UInt8.lt_iff_toNat_lt.mp h
  rw [List.getElem?_eq_getElem hx]
  simp [span]

namespace Registers

/-- A register that can be written, and with this value: the unit id with one that is not reserved,
status, network id and clock with any, the longest run with an octet. -/
def Writable (address : Nat) (value : UInt16) : Prop :=
  address=10 ∧ value.toNat<255 ∨ address∈[11,12,14,16] ∨ address=18 ∧ value.toNat<256

theorem octet?_isSome (v : UInt16) : (octet? v).isSome=true ↔ v.toNat<256 := by
  unfold octet?
  have : v<256 ↔ v.toNat<256 := UInt16.lt_iff_toNat_lt
  split_ifs with h
  · simp [this.mp h]
  · simp [mt this.mpr h]

theorem octet?_toNat {v : UInt16} {id : UInt8} (h : octet? v=some id) : id.toNat=v.toNat := by
  unfold octet? at h
  split_ifs at h with hv
  have hlt : v.toNat<256 := UInt16.lt_iff_toNat_lt.mp hv
  rw [←Option.some.inj h,UInt16.toNat_toUInt8]
  omega

theorem octet?_ne_broadcast {v : UInt16} {id : UInt8} (h : octet? v=some id) :
    id≠broadcastUnit ↔ v.toNat<255 := by
  have hid := octet?_toNat h
  have hlt := id.toNat_lt
  have hb : broadcastUnit.toNat=255 := rfl
  rw [ne_eq,←UInt8.toNat_inj,hid,hb]
  omega

/-- Whether a register takes a value depends on nothing else. -/
theorem write?_isSome (r : Registers) (address : UInt8) (value : UInt16) (now : Int) :
    (r.write? address value now).isSome=true ↔ Writable address.toNat value := by
  have any {a : Nat} (h : a∈[11,12,14,16]) : Writable a value := Or.inr (Or.inl h)
  unfold write?
  generalize address.toNat=a
  split
  · rw [show Writable 10 value ↔ value.toNat<255 by simp [Writable]]
    cases h : octet? value with
    | none =>
      have : ¬value.toNat<256 := fun k => by simpa [h] using (octet?_isSome value).mpr k
      exact ⟨nofun,fun k => absurd (Nat.lt_succ_of_lt k) this⟩
    | some id =>
      have free := octet?_ne_broadcast h
      dsimp only
      split_ifs with hid
      · exact ⟨nofun,fun k => absurd hid (free.mpr k)⟩
      · exact ⟨fun _ => free.mp hid,fun _ => rfl⟩
  · exact ⟨fun _ => any (by decide),fun _ => rfl⟩
  · exact ⟨fun _ => any (by decide),fun _ => rfl⟩
  · exact ⟨fun _ => any (by decide),fun _ => rfl⟩
  · exact ⟨fun _ => any (by decide),fun _ => rfl⟩
  · rw [Option.isSome_map,octet?_isSome]
    simp [Writable]
  · next h10 h11 h12 h14 h16 h18 =>
    refine ⟨nofun,?_⟩
    rintro (⟨e,_⟩ | h | ⟨e,_⟩)
    · exact absurd e h10
    · simp only [List.mem_cons,List.not_mem_nil,or_false] at h
      obtain e | e | e | e := h
      · exact absurd e h11
      · exact absurd e h12
      · exact absurd e h14
      · exact absurd e h16
    · exact absurd e h18

/-- A run of values is written if each of them can be. -/
theorem writeAll_snd (r : Registers) (now : Int) {first : UInt8} {values : List UInt16}
    (fits : first.toNat+values.length≤255) : (r.writeAll now first values).2=true ↔
      ∀ i v,values[i]?=some v → Writable (first.toNat+i) v := by
  induction values generalizing r first with
  | nil => exact ⟨fun _ => nofun,fun _ => rfl⟩
  | cons v values ih =>
    rw [List.length_cons] at fits
    have next : (first+1).toNat=first.toNat+1 := by
      rw [UInt8.toNat_add]
      change (first.toNat+1)%256=_
      omega
    have own := r.write?_isSome first v now
    unfold writeAll
    cases hw : r.write? first v now with
    | none =>
      rw [hw] at own
      refine ⟨nofun,fun all => ?_⟩
      exact absurd (own.mpr (all 0 v rfl)) nofun
    | some r' =>
      rw [hw] at own
      refine (ih r' (by omega)).trans ⟨fun rest i => ?_,fun all i v' hv => ?_⟩
      · cases i with
        | zero =>
          rintro v' hv
          obtain rfl := Option.some.inj hv
          exact own.mp rfl
        | succ i =>
          intro v' hv
          have := rest i v' hv
          rwa [next,Nat.add_assoc,Nat.add_comm 1] at this
      · have := all (i+1) v' hv
        rwa [next,Nat.add_assoc,Nat.add_comm 1]

end Registers

namespace Controller

variable {σ : Type} {c d e : Controller σ} {st : Station} {ch minutes : UInt8}
  {channels : List UInt8}

/-- The station that the controller itself is, if it is in service and peers may use it so. -/
def Usable (c : Controller σ) (access : Access) (st : Station) : Prop :=
  c.site.station? c.unit=some st ∧ st.enabled=true ∧ access.allowedBy st=true

theorem addressable?_eq_some {access : Access} :
    c.addressable? access=some st ↔ c.Usable access st := by
  simp only [addressable?,Site.enabledStation?,Option.filter_eq_some_iff,Usable,and_assoc]

theorem addressable?_eq_none {access : Access} :
    c.addressable? access=none ↔ ¬∃ st,c.Usable access st := by
  rw [Option.eq_none_iff_forall_ne_some,not_exists]
  exact forall_congr' fun st => not_congr addressable?_eq_some

theorem Usable.of_still {τ : Type} {d : Controller τ} {access : Access} (h : c.Usable access st)
    (same : d.still=c.still) : d.Usable access st := by
  unfold Usable at h ⊢
  rwa [show d.site=c.site from congrArg (·.1.site) same,
    show d.unit=c.unit from congrArg (·.1.registers.unit) same]

/-- The channel has an output, and it is wired. -/
def Drives (c : Controller σ) (st : Station) (ch : UInt8) : Prop :=
  ∃ o,st.output? ch=some o ∧ c.valves.isWired o=true

/-- A channel can be run for some minutes, or stopped if there are none: only zones that are enabled
start, and an output that is not wired is no matter to a stop where nothing runs. -/
def Switches (c : Controller σ) (st : Station) (minutes ch : UInt8) : Prop :=
  (minutes≠0 → ∃ z,c.site.MayRun (st.zoneOf ch) z) ∧
    (c.Drives st ch ∨ min minutes c.maxRun=0 ∧ c.zones.state (st.zoneOf ch)=.off)

/-- What happened touched some channels only, and no wiring. -/
structure Confined (st : Station) (channels : List UInt8) (c d : Controller σ) : Prop extends
    Touches st channels c d where
  wires (o : UInt16) : d.valves.isWired o=c.valves.isWired o

theorem Confined.refl (c : Controller σ) : Confined st channels c c := ⟨Touches.refl c,fun _ => rfl⟩

theorem Confined.cons (h : Confined st [ch] c d) (h' : Confined st channels d e) :
    Confined st (ch::channels) c e :=
  ⟨h.toTouches.cons h'.toTouches,fun o => (h'.wires o).trans (h.wires o)⟩

/-- Other channels can be switched as before. -/
theorem Confined.switches (h : Confined st channels c d) (hc : ch < st.zoneCount)
    (away : ch∉channels) : d.Switches st minutes ch ↔ c.Switches st minutes ch := by
  have site : d.site=c.site := site_of_setting h.setting
  have registers : d.registers=c.registers := congrArg Setting.registers h.setting
  simp only [Switches,Drives,maxRun,site,registers,h.wires,h.others hc away]

/-- A station in service that is wired here, at a site that is laid out. -/
structure Here (c : Controller σ) (id : UInt8) (st : Station) : Prop where
  laid : c.site.Laid
  station : c.site.station? id=some st
  enabled : st.enabled=true
  isLocal : st.network.isLocal=true

namespace Here

variable {id : UInt8}

theorem enabledStation? (h : c.Here id st) : c.site.enabledStation? id=some st := by
  rw [Site.enabledStation?,h.station,Option.filter_some,if_pos h.enabled]

theorem of_setting (h : c.Here id st) (same : d.setting=c.setting) : d.Here id st := by
  have site : d.site=c.site := site_of_setting same
  constructor
  · rw [site]
    exact h.laid
  · rw [site]
    exact h.station
  · exact h.enabled
  · exact h.isLocal

/-- A step that edits the record of one channel. -/
theorem confined_modify (h : c.Here id st) (hc : ch < st.zoneCount) (f : ZoneStatus → ZoneStatus)
    (zones : d.zones=c.zones.modify (st.zoneOf ch) f) (link : d.link=c.link)
    (setting : d.setting=c.setting) (wires : ∀ o,d.valves.isWired o=c.valves.isWired o) :
    Confined st [ch] c d := by
  refine ⟨⟨link,setting,fun {j} hj hn => ?_⟩,wires⟩
  rw [zones]
  refine ZoneBoard.state_modify_ne _ _ fun e => hn ?_
  exact List.mem_singleton.mpr (Station.zoneOf_inj (h.laid.fits h.station) hj hc e)

end Here

theorem confined_setValve (on : Bool) : Confined st [ch] c (c.setValve st ch on).1 := by
  obtain ⟨link,_,wires,zones⟩ := c.setValve_frame st ch on
  exact ⟨⟨link,setting_setValve ..,fun _ _ => by rw [zones]⟩,wires⟩

namespace Here

variable [Carrier σ] {id : UInt8}

/-- A stop for a peer is done if the channel is off, or its output can be driven. -/
theorem stop (h : c.Here id st) (hc : ch < st.zoneCount) :
    ((c.stopZoneFrom (st.zoneOf ch) .peer).2=true ↔
      c.Drives st ch ∨ c.zones.state (st.zoneOf ch)=.off) ∧
    ((c.stopZoneFrom (st.zoneOf ch) .peer).2=true →
      (c.stopZoneFrom (st.zoneOf ch) .peer).1.zones.state (st.zoneOf ch)=.off) ∧
    Confined st [ch] c (c.stopZoneFrom (st.zoneOf ch) .peer).1 := by
  obtain ⟨z,hz,hid,rfl⟩ := h.laid.zone_of h.station hc
  by_cases hoff : c.zones.state (st.zoneOf z.channel)=.off
  · rw [(stopZoneFrom_else .peer).2.1 z hz hoff]
    exact ⟨iff_of_true rfl (Or.inr hoff),fun _ => hoff,Confined.refl c⟩
  have hst : c.site.enabledStation? z.station=some st := by
    rw [hid]
    exact h.enabledStation?
  have hclose : c.close z st=c.setValve st z.channel false := by rw [close,if_pos h.isLocal]
  have driven : (c.setValve st z.channel false).2=true ↔ c.Drives st z.channel :=
    c.setValve_snd st z.channel false
  rw [stopZoneFrom_eq .peer hz hoff hst,hclose,h.isLocal]
  by_cases hok : (c.setValve st z.channel false).2=true
  · obtain ⟨link,_,wires,zones⟩ := c.setValve_frame st z.channel false
    have hzones := (zones_stopped (c.setValve st z.channel false).1 (st.zoneOf z.channel) true
      z.station).trans (congrArg (ZoneBoard.stop · _ true) zones)
    rw [if_pos hok]
    refine ⟨iff_of_true rfl (Or.inl (driven.mp hok)),fun _ => ?_,h.confined_modify hc _ hzones link
      ((setting_stopped ..).trans (setting_setValve ..)) wires⟩
    rw [hzones]
    exact ZoneBoard.state_stop_self ..
  · rw [if_neg hok]
    exact ⟨iff_of_false Bool.false_ne_true (not_or.mpr ⟨mt driven.mpr hok,hoff⟩),
      fun k => absurd k Bool.false_ne_true,confined_setValve false⟩

/-- A start for a peer is done if the zone may run and its output can be driven; one of no length is
a stop. -/
theorem start (h : c.Here id st) (hc : ch < st.zoneCount) (run : ZoneRun)
    (hrun : run.zone=st.zoneOf ch) :
    ((c.startZoneFrom run .peer).2=true ↔ (∃ z,c.site.MayRun (st.zoneOf ch) z) ∧
      (c.Drives st ch ∨
        min run.minutes c.maxRun=0 ∧ c.zones.state (st.zoneOf ch)=.off)) ∧
    Confined st [ch] c (c.startZoneFrom run .peer).1 := by
  by_cases may : ∃ z,c.site.MayRun (st.zoneOf ch) z
  · obtain ⟨z,hz⟩ := may
    obtain ⟨y,hy,hid,rfl⟩ := h.laid.zone_of h.station hc
    obtain rfl := Option.some.inj (hy.symm.trans hz.1)
    have hst : c.site.enabledStation? y.station=some st := by
      rw [hid]
      exact h.enabledStation?
    have hopen : c.openFor y st (c.capped run)=c.setValve st y.channel true := by
      rw [openFor,if_pos h.isLocal]
    have hmay : c.site.MayRun run.zone y := by rwa [hrun]
    have short : (c.capped run).minutes=0 ↔ min run.minutes c.maxRun=0 := Iff.rfl
    have may : ∃ z,c.site.MayRun (st.zoneOf y.channel) z := ⟨y,hz⟩
    rw [startZoneFrom_eq .peer hmay hst,and_iff_right may]
    by_cases h0 : (c.capped run).minutes=0
    · obtain ⟨done,_,confined⟩ := h.stop hc
      rw [if_pos h0,hrun,done,and_iff_right (short.mp h0)]
      exact ⟨Iff.rfl,confined⟩
    have driven : (c.setValve st y.channel true).2=true ↔ c.Drives st y.channel :=
      c.setValve_snd st y.channel true
    rw [if_neg h0,hopen,h.isLocal]
    by_cases hok : (c.setValve st y.channel true).2=true
    · obtain ⟨link,_,wires,zones⟩ := c.setValve_frame st y.channel true
      have hzones : ((c.setValve st y.channel true).1.started (c.capped run) true c.now y.station
          .peer).zones=c.zones.modify (st.zoneOf y.channel) fun _ =>
            .start (c.capped run) true c.now := by
        rw [←hrun]
        exact (zones_started ..).trans
          (congrArg (ZoneBoard.start · (c.capped run) true c.now) zones)
      rw [if_pos hok]
      exact ⟨iff_of_true rfl (Or.inl (driven.mp hok)),h.confined_modify hc _ hzones link
        ((setting_started ..).trans (setting_setValve ..)) wires⟩
    · rw [if_neg hok]
      refine ⟨iff_of_false Bool.false_ne_true ?_,confined_setValve true⟩
      exact not_or.mpr ⟨mt driven.mpr hok,fun k => h0 (short.mpr k.1)⟩
  · rw [(c.startZoneFrom_else run .peer).1 fun z hz => may ⟨z,by rwa [←hrun]⟩]
    exact ⟨iff_of_false Bool.false_ne_true fun k => may k.1,Confined.refl c⟩

theorem applyOne (h : c.Here id st) (schedule minutes : UInt8) (hc : ch < st.zoneCount) :
    ((c.applyOne st schedule minutes ch).2=true ↔ c.Switches st minutes ch) ∧
    Confined st [ch] c (c.applyOne st schedule minutes ch).1 := by
  unfold Controller.applyOne Switches
  by_cases h0 : minutes=0
  · obtain ⟨done,_,confined⟩ := h.stop hc
    have zero : min minutes c.maxRun=0 := by
      rw [h0]
      exact if_pos (UInt8.le_iff_toNat_le.mpr (Nat.zero_le _))
    rw [if_pos h0,done,and_iff_right (fun k => absurd h0 k),and_iff_right zero]
    exact ⟨Iff.rfl,confined⟩
  · obtain ⟨done,confined⟩ := h.start hc (channelRun st schedule minutes ch) rfl
    rw [if_neg h0,done,imp_iff_right h0]
    exact ⟨Iff.rfl,confined⟩

/-- Channels are switched if each of them can be as things are before the first. -/
theorem applyZones (h : c.Here id st) (schedule minutes : UInt8)
    (hch : ∀ ch∈channels,ch < st.zoneCount) (distinct : channels.Nodup) :
    ((c.applyZones st schedule minutes channels).2=true ↔
      ∀ ch∈channels,c.Switches st minutes ch) ∧
    (c.applyZones st schedule minutes channels).1.link=c.link ∧
    (c.applyZones st schedule minutes channels).1.setting=c.setting := by
  induction channels generalizing c with
  | nil => exact ⟨iff_of_true rfl nofun,rfl,rfl⟩
  | cons ch channels ih =>
    obtain ⟨hnew,hrest⟩ := List.nodup_cons.mp distinct
    have hlt : ∀ j∈channels,j < st.zoneCount := fun j hj => hch j (List.mem_cons_of_mem _ hj)
    obtain ⟨done,confined⟩ := h.applyOne schedule minutes (hch ch List.mem_cons_self)
    obtain ⟨done',link,setting⟩ := ih (h.of_setting confined.setting) hlt hrest
    have rest : (∀ j∈channels,
        (c.applyOne st schedule minutes ch).1.Switches st minutes j) ↔
        ∀ j∈channels,c.Switches st minutes j :=
      forall₂_congr fun j hj => confined.switches (hlt j hj) fun k => hnew (by
        rwa [List.mem_singleton.mp k] at hj)
    rw [applyZones_cons]
    by_cases hok : (c.applyOne st schedule minutes ch).2=true
    · rw [if_pos hok,done',rest,List.forall_mem_cons,and_iff_right (done.mp hok)]
      exact ⟨Iff.rfl,link.trans confined.link,setting.trans confined.setting⟩
    · rw [if_neg hok,List.forall_mem_cons]
      exact ⟨iff_of_false Bool.false_ne_true fun k => hok (done.mpr k.1),confined.link,
        confined.setting⟩

/-- Channels that can be driven are all stopped. -/
theorem stopEach (h : c.Here id st) (schedule : UInt8) (hch : ∀ ch∈channels,ch < st.zoneCount)
    (driven : ∀ ch∈channels,c.Drives st ch) :
    (c.applyZones st schedule 0 channels).2=true ∧
    Confined st channels c (c.applyZones st schedule 0 channels).1 ∧
    ∀ ch∈channels,(c.applyZones st schedule 0 channels).1.zones.state (st.zoneOf ch)=.off := by
  induction channels generalizing c with
  | nil => exact ⟨rfl,Confined.refl c,nofun⟩
  | cons ch channels ih =>
    have hc : ch < st.zoneCount := hch ch List.mem_cons_self
    have one : c.applyOne st schedule 0 ch=c.stopZoneFrom (st.zoneOf ch) .peer := if_pos rfl
    obtain ⟨done,off,confined⟩ := h.stop hc
    have hok := done.mpr (Or.inl (driven ch List.mem_cons_self))
    obtain ⟨hok',confined',off'⟩ := ih (h.of_setting confined.setting)
      (fun j hj => hch j (List.mem_cons_of_mem _ hj))
      fun j hj => (driven j (List.mem_cons_of_mem _ hj)).imp fun o k =>
        ⟨k.1,(confined.wires o).trans k.2⟩
    rw [applyZones_cons,one,if_pos hok]
    refine ⟨hok',confined.cons confined',fun j hj => ?_⟩
    by_cases hmem : j∈channels
    · exact off' j hmem
    · obtain rfl | hj := List.mem_cons.mp hj
      · rw [confined'.others hc hmem,off hok]
      · exact absurd hj hmem

end Here

/-- Who goes by the name of its own station is at that station. -/
theorem Usable.here {access : Access} (h : c.Usable access st) (laid : c.site.Laid)
    (unit : c.unit=c.site.unit) : c.Here c.unit st := by
  refine ⟨laid,h.1,h.2.1,?_⟩
  have own := h.1
  rw [unit] at own
  exact laid.own own

/-- The registers that can be addressed: the fixed ones, and one for each zone of the own station. -/
def registerCount (c : Controller σ) : UInt8 :=
  UInt8.ofNat (min (22+((c.site.station? c.unit).map (·.zoneCount.toNat)).getD 0) 255)

theorem min_registerContext_count (c : Controller σ) :
    min c.registerContext.count 255=c.registerCount.toNat := by
  have count : c.registerContext.count=
      22+((c.site.station? c.unit).map (·.zoneCount.toNat)).getD 0 := by
    unfold RegisterContext.count registerContext
    cases c.site.station? c.unit <;> rfl
  rw [count,registerCount,UInt8.toNat_ofNat_of_lt' (Nat.lt_succ_of_le (Nat.min_le_right ..))]

/-- Registers that there are are told whatever they hold. -/
theorem serveRegistersRead_within [Carrier σ] (c : Controller σ) (f : Frame) {first count : UInt8}
    (h : Within first count c.registerCount) : c.serveRegistersRead f first count=
      (c.reply f (c.registersReport first (expand first count c.registerCount)),
        .handled f.function) := by
  unfold serveRegistersRead
  rw [min_registerContext_count,UInt8.ofNat_toNat,resolveRange_within h]
  rfl

theorem serveRegistersRead_without [Carrier σ] (c : Controller σ) (f : Frame) {first count : UInt8}
    (h : ¬Within first count c.registerCount) : c.serveRegistersRead f first count=
      c.reject f .illegalAddress true := by
  unfold serveRegistersRead
  rw [min_registerContext_count,UInt8.ofNat_toNat,resolveRange_without h]

/-- The own station takes commands, and has the channels that this one is for; a command has to
count them. -/
def Commandable (c : Controller σ) (first count : UInt8) (st : Station) : Prop :=
  c.Usable .control st ∧ count≠everything ∧ Within first count st.zoneCount

theorem grant_of_commandable {first count : UInt8} {mask : ZoneMask}
    (h : c.Commandable first count st) :
    c.grant first count mask=some (st,(span first count).filter mask.get) := by
  obtain ⟨usable,counted,within⟩ := h
  unfold grant
  rw [addressable?_eq_some.mpr usable]
  dsimp only
  rw [resolveRange_within within]
  exact if_neg (not_or.mpr ⟨Option.some_ne_none _,counted⟩)

theorem grant_of_not_commandable {first count : UInt8} {mask : ZoneMask}
    (h : ¬∃ st,c.Commandable first count st) : c.grant first count mask=none := by
  unfold grant
  cases ha : c.addressable? .control with
  | none => rfl
  | some st =>
    have usable := addressable?_eq_some.mp ha
    refine if_pos ?_
    by_cases counted : count=everything
    · exact Or.inr counted
    · exact Or.inl (resolveRange_without fun within => h ⟨st,usable,counted,within⟩)

/-- The registers that are to be written can be addressed, and there are some. -/
def Addresses (c : Controller σ) (first : UInt8) (values : List UInt16) : Prop :=
  values≠[] ∧ first.toNat+values.length ≤ c.registerCount.toNat

/-- Requests that are refused, and what for. Whatever is not a read or a change of zones, sensors or
registers is never refused. -/
def Refuses (c : Controller σ) : Message → Exception → Prop
  | .zonesRead first count,.illegalAddress =>
    ¬∃ st,c.Usable .status st ∧ Within first count st.zoneCount
  | .sensorsRead first count,.illegalAddress =>
    ¬((∃ st,c.Usable .status st) ∧ Within first count c.sensors.count)
  | .registersRead first count,.illegalAddress => ¬Within first count c.registerCount
  | .zonesSet _ _ first _ count _,.illegalAddress => ¬∃ st,c.Commandable first count st
  | .zonesSet _ _ first minutes count mask,.applyFailure =>
    ∃ st,c.Commandable first count st ∧
      ∃ ch∈span first count,mask.get ch=true ∧ ¬c.Switches st minutes ch
  | .registersSet _ first values,.illegalAddress => ¬c.Addresses first values
  | .registersSet _ first values,.applyFailure =>
    c.Addresses first values ∧
      ∃ i v,values[i]?=some v ∧ ¬Registers.Writable (first.toNat+i) v
  | _,_ => False

/-- There is one ground at most. -/
theorem Refuses.unique {m : Message} {a b : Exception} (ha : c.Refuses m a) (hb : c.Refuses m b) :
    a=b := by
  cases m with
  | zonesSet flags schedule first minutes count mask =>
    cases a with
    | illegalAddress =>
      cases b with
      | illegalAddress => rfl
      | applyFailure => exact absurd (hb.imp fun _ k => k.1) ha
      | other => cases hb
    | applyFailure =>
      cases b with
      | illegalAddress => exact absurd (ha.imp fun _ k => k.1) hb
      | applyFailure => rfl
      | other => cases hb
    | other => cases ha
  | registersSet flags first values =>
    cases a with
    | illegalAddress =>
      cases b with
      | illegalAddress => rfl
      | applyFailure => exact absurd hb.1 ha
      | other => cases hb
    | applyFailure =>
      cases b with
      | illegalAddress => exact absurd ha.1 hb
      | applyFailure => rfl
      | other => cases hb
    | other => cases ha
  | _ => cases a <;> cases b <;> first | rfl | cases ha | cases hb

end Controller

end Watering
