import Watering.Proofs.Controller.Served

namespace Watering

/-- A channel of the own station that peers can start. None of this depends on what zones do. -/
structure Site.Runs (s : Site) (wired : UInt16 → Bool) (st : Station) (ch : UInt8) : Prop where
  zone : ∃ z,s.MayRun (st.zoneOf ch) z
  enabled : st.enabled=true
  control : st.remoteControl=true
  output : ∃ o,st.output? ch=some o ∧ wired o=true

namespace Controller

variable {σ : Type} {site : Site} {wired : UInt16 → Bool} {st : Station} {c d e : Controller σ}
  {ch : UInt8} {channels : List UInt8}

/-- A station whose channels run if they are on, and could be started then. -/
structure Serves (site : Site) (wired : UInt16 → Bool) (st : Station) (c : Controller σ) : Prop where
  place : c.place=(.responder,site)
  unit : c.unit=site.unit
  wires (o : UInt16) : c.valves.isWired o=wired o
  size : c.zones.size=site.zones.length
  runs {ch : UInt8} : ch < st.zoneCount → c.zones.state (st.zoneOf ch)≠.off →
    c.zones.state (st.zoneOf ch)=.running ∧ site.Runs wired st ch

/-- Nothing was sent, and no channels changed but some. -/
structure Touches (st : Station) (channels : List UInt8) (c d : Controller σ) : Prop where
  link : d.link=c.link
  setting : d.setting=c.setting
  others {ch : UInt8} : ch < st.zoneCount → ch∉channels →
    d.zones.state (st.zoneOf ch)=c.zones.state (st.zoneOf ch)

theorem Touches.refl (c : Controller σ) : Touches st channels c c := ⟨rfl,rfl,fun _ _ => rfl⟩

theorem Touches.cons (h : Touches st [ch] c d) (h' : Touches st channels d e) :
    Touches st (ch::channels) c e where
  link := h'.link.trans h.link
  setting := h'.setting.trans h.setting
  others {j} hj hn := by
    rw [List.mem_cons,not_or] at hn
    rw [h'.others hj hn.2,h.others hj (by simpa using hn.1)]

theorem Touches.of_still (t : Touches st channels c d) (hs : e.still=d.still)
    (hl : e.link=d.link) : Touches st channels c e where
  link := hl.trans t.link
  setting := (setting_of_still hs).trans t.setting
  others {ch} hc hn := by
    rw [show e.zones=d.zones from zones_of_still hs]
    exact t.others hc hn

theorem unit_of_setting (h : d.setting=c.setting) : d.unit=c.unit :=
  congrArg Registers.unit (congrArg Setting.registers h : d.registers=c.registers)

namespace Serves

theorem site_eq (h : c.Serves site wired st) : c.site=site := congrArg Prod.snd h.place

theorem withCarrier {τ : Type} (h : c.Serves site wired st) (t : τ) :
    (c.withCarrier t).Serves site wired st :=
  ⟨h.place,h.unit,h.wires,h.size,h.runs⟩

theorem of_still (h : c.Serves site wired st) (hs : d.still=c.still) :
    d.Serves site wired st where
  place := (place_of_setting (setting_of_still hs)).trans h.place
  unit := (unit_of_setting (setting_of_still hs)).trans h.unit
  wires o := by
    rw [show d.valves=c.valves from congrArg Plant.valves (plant_of_still hs)]
    exact h.wires o
  size := by
    rw [show d.zones=c.zones from zones_of_still hs]
    exact h.size
  runs {ch} := by
    rw [show d.zones=c.zones from zones_of_still hs]
    exact h.runs

/-- A change of one channel keeps the others, and what is known of the station. -/
theorem modify (laid : site.Laid) (own : site.station? site.unit=some st)
    (h : c.Serves site wired st) (hc : ch < st.zoneCount) {f : ZoneStatus → ZoneStatus}
    (zones : d.zones=c.zones.modify (st.zoneOf ch) f) (link : d.link=c.link)
    (setting : d.setting=c.setting) (wires : ∀ o,d.valves.isWired o=c.valves.isWired o)
    (now : d.zones.state (st.zoneOf ch)≠.off →
      d.zones.state (st.zoneOf ch)=.running ∧ site.Runs wired st ch) :
    Touches st [ch] c d ∧ d.Serves site wired st := by
  have t : Touches st [ch] c d := by
    refine ⟨link,setting,fun {j} hj hn => ?_⟩
    rw [zones]
    refine ZoneBoard.state_modify_ne _ _ fun e => hn ?_
    exact List.mem_singleton.mpr (Station.zoneOf_inj (laid.fits own) hj hc e)
  refine ⟨t,(place_of_setting setting).trans h.place,(unit_of_setting setting).trans h.unit,
    fun o => (wires o).trans (h.wires o),?_,?_⟩
  · rw [zones,ZoneBoard.size_modify]
    exact h.size
  · intro j hj hon
    by_cases e : j=ch
    · subst e
      exact now hon
    · rw [t.others hj (by simpa using e)] at hon ⊢
      exact h.runs hj hon

theorem zone (laid : site.Laid) (own : site.station? site.unit=some st)
    (h : c.Serves site wired st) (hc : ch < st.zoneCount) :
    ∃ z s,c.site.zone? (st.zoneOf ch)=some z ∧ z.station=site.unit ∧ z.channel=ch ∧
      c.zones.status? (st.zoneOf ch)=some s := by
  obtain ⟨z,hz,hs,hch⟩ := laid.zone_of own hc
  obtain ⟨s,hs'⟩ : ∃ s,c.zones.status? (st.zoneOf ch)=some s := by
    apply Option.isSome_iff_exists.mp
    rw [ZoneBoard.status?_isSome,h.size]
    exact (List.getElem?_eq_some_iff.mp hz).1
  exact ⟨z,s,by rw [h.site_eq]; exact hz,hs,hch,hs'⟩

theorem station (own : site.station? site.unit=some st) (h : c.Serves site wired st)
    (he : st.enabled=true) : c.site.enabledStation? site.unit=some st := by
  rw [h.site_eq,Site.enabledStation?,own]
  simp [Option.filter,he]

theorem addressable? (own : site.station? site.unit=some st) (h : c.Serves site wired st) :
    c.addressable? .control=if st.enabled && st.remoteControl then some st else none := by
  unfold Controller.addressable?
  rw [h.unit,h.site_eq,Site.enabledStation?,own]
  cases he : st.enabled <;> cases hr : st.remoteControl <;>
    simp [Option.filter,Access.allowedBy,he,hr]

/-- A channel that is on has an output to drive. -/
theorem setValve_ok (h : c.Serves site wired st) (hc : ch < st.zoneCount)
    (hon : c.zones.state (st.zoneOf ch)≠.off) (on : Bool) : (c.setValve st ch on).2=true := by
  obtain ⟨o,ho,hw⟩ := (h.runs hc hon).2.output
  exact (c.setValve_snd st ch on).mpr ⟨o,ho,(h.wires o).trans hw⟩

end Serves

variable [Carrier σ]

theorem zones_stopped (c : Controller σ) (i : UInt8) (confirmed : Bool) (station : UInt8) :
    (c.stopped i confirmed station .peer).zones=c.zones.stop i confirmed := rfl

theorem zones_started (c : Controller σ) (run : ZoneRun) (confirmed : Bool) (now : Instant)
    (station : UInt8) :
    (c.started run confirmed now station .peer).zones=c.zones.start run confirmed now := rfl

namespace Serves

section Own

variable (laid : site.Laid) (own : site.station? site.unit=some st) (h : c.Serves site wired st)
include laid own h

/-- A stop that a peer asks for is always done. -/
theorem stop (hc : ch < st.zoneCount) :
    (c.stopZoneFrom (st.zoneOf ch) .peer).2=true ∧
    Touches st [ch] c (c.stopZoneFrom (st.zoneOf ch) .peer).1 ∧
    (c.stopZoneFrom (st.zoneOf ch) .peer).1.Serves site wired st ∧
    (c.stopZoneFrom (st.zoneOf ch) .peer).1.zones.state (st.zoneOf ch)=.off := by
  obtain ⟨z,s,hz,hid,rfl,_⟩ := h.zone laid own hc
  by_cases hoff : c.zones.state (st.zoneOf z.channel)=.off
  · rw [(stopZoneFrom_else .peer).2.1 z hz hoff]
    exact ⟨rfl,Touches.refl c,h,hoff⟩
  have hn := laid.own own
  have hst : c.site.enabledStation? z.station=some st := by
    rw [hid]
    exact h.station own (h.runs hc hoff).2.enabled
  have hclose : c.close z st=c.setValve st z.channel false := by rw [close,if_pos hn]
  obtain ⟨link,_,wires,zones⟩ := c.setValve_frame st z.channel false
  have hzones := (zones_stopped (c.setValve st z.channel false).1 (st.zoneOf z.channel) true
    z.station).trans (congrArg (ZoneBoard.stop · _ true) zones)
  rw [stopZoneFrom_eq .peer hz hoff hst,hclose,if_pos (h.setValve_ok hc hoff false),hn]
  have hstate : ((c.setValve st z.channel false).1.stopped (st.zoneOf z.channel) true z.station
      .peer).zones.state (st.zoneOf z.channel)=.off := by
    rw [hzones]
    exact ZoneBoard.state_stop_self ..
  obtain ⟨t,hserves⟩ := h.modify laid own hc hzones link
    ((setting_stopped ..).trans (setting_setValve ..)) wires fun k => absurd hstate k
  exact ⟨rfl,t,hserves,hstate⟩

/-- A channel whose output opened runs. -/
theorem opened (he : st.enabled=true) (hr : st.remoteControl=true) (hc : ch < st.zoneCount)
    (run : ZoneRun) (hrun : run.zone=st.zoneOf ch) {z : Zone} (hmay : c.site.MayRun run.zone z)
    (hok : (c.setValve st ch true).2=true) :
    Touches st [ch] c ((c.setValve st ch true).1.started run true c.now z.station .peer) ∧
    ((c.setValve st ch true).1.started run true c.now z.station .peer).Serves site wired st := by
  obtain ⟨_,x,_,_,_,hx⟩ := h.zone laid own hc
  obtain ⟨link,_,wires,zones⟩ := c.setValve_frame st ch true
  have hzones : ((c.setValve st ch true).1.started run true c.now z.station .peer).zones=
      c.zones.modify (st.zoneOf ch) fun _ => .start run true c.now := by
    rw [←hrun]
    exact (zones_started ..).trans (congrArg (ZoneBoard.start · run true c.now) zones)
  refine h.modify laid own hc hzones link ((setting_started ..).trans (setting_setValve ..)) wires
    fun _ => ?_
  obtain ⟨o,ho,hw⟩ := (c.setValve_snd st ch true).mp hok
  refine ⟨?_,⟨z,?_⟩,he,hr,o,ho,(h.wires o).symm.trans hw⟩
  · rw [hzones]
    exact ZoneBoard.state_modify_self _ hx
  · rw [←hrun,←h.site_eq]
    exact hmay

omit [Carrier σ] in
/-- A channel whose output did not open was off, and stays so. -/
theorem unopened (hc : ch < st.zoneCount) (hok : (c.setValve st ch true).2≠true) :
    Touches st [ch] c (c.setValve st ch true).1 ∧
    (c.setValve st ch true).1.Serves site wired st ∧
    (c.setValve st ch true).1.zones.state (st.zoneOf ch)=.off := by
  obtain ⟨link,_,wires,zones⟩ := c.setValve_frame st ch true
  have hstate : (c.setValve st ch true).1.zones.state (st.zoneOf ch)=.off := by
    rw [zones]
    by_contra hon
    exact hok (h.setValve_ok hc hon true)
  have same : (c.setValve st ch true).1.zones=c.zones.modify (st.zoneOf ch) id := by
    rw [zones]
    exact congrArg ZoneBoard.mk (List.modify_id _ _).symm
  obtain ⟨t,hserves⟩ := h.modify laid own hc same link (setting_setValve ..) wires
    fun k => absurd hstate k
  exact ⟨t,hserves,hstate⟩

/-- A start that a peer asks for is done, or leaves a channel off that was off before. -/
theorem start (he : st.enabled=true) (hr : st.remoteControl=true) (hc : ch < st.zoneCount)
    (run : ZoneRun) (hrun : run.zone=st.zoneOf ch) :
    Touches st [ch] c (c.startZoneFrom run .peer).1 ∧
    (c.startZoneFrom run .peer).1.Serves site wired st ∧
    ((c.startZoneFrom run .peer).2=false →
      (c.startZoneFrom run .peer).1.zones.state (st.zoneOf ch)=.off) := by
  obtain ⟨z,_,hz,hid,rfl,_⟩ := h.zone laid own hc
  by_cases hmay : c.site.MayRun run.zone z
  · have hn := laid.own own
    have hst : c.site.enabledStation? z.station=some st := by
      rw [hid]
      exact h.station own he
    have hopen : c.openFor z st (c.capped run)=c.setValve st z.channel true := by
      rw [openFor,if_pos hn]
    rw [startZoneFrom_eq .peer hmay hst]
    by_cases h0 : (c.capped run).minutes=0
    · rw [if_pos h0,hrun]
      obtain ⟨hok,t,hserves,_⟩ := h.stop laid own hc
      exact ⟨t,hserves,fun k => absurd (hok.symm.trans k) (by decide)⟩
    rw [if_neg h0,hopen]
    by_cases hok : (c.setValve st z.channel true).2=true
    · rw [if_pos hok,hn]
      obtain ⟨t,hserves⟩ := h.opened laid own he hr hc (c.capped run) hrun hmay hok
      exact ⟨t,hserves,fun k => by cases k⟩
    · obtain ⟨t,hserves,hstate⟩ := h.unopened laid own hc hok
      rw [if_neg hok]
      exact ⟨t,hserves,fun _ => hstate⟩
  · have hnone : ∀ y,¬c.site.MayRun run.zone y := by
      rintro y ⟨hy,hen⟩
      rw [hrun,hz] at hy
      rw [←Option.some.inj hy] at hen
      exact hmay ⟨by rw [hrun,hz],hen⟩
    rw [(c.startZoneFrom_else run .peer).1 hnone]
    refine ⟨Touches.refl c,h,fun _ => ?_⟩
    by_contra hon
    obtain ⟨y,hy⟩ := (h.runs hc hon).2.zone
    rw [←hrun,←h.site_eq] at hy
    exact hnone y hy

theorem stopEach (schedule : UInt8) (hch : ∀ ch∈channels,ch < st.zoneCount) :
    (c.applyZones st schedule 0 channels).2=true ∧
    Touches st channels c (c.applyZones st schedule 0 channels).1 ∧
    (c.applyZones st schedule 0 channels).1.Serves site wired st ∧
    ∀ ch∈channels,(c.applyZones st schedule 0 channels).1.zones.state (st.zoneOf ch)=.off := by
  induction channels generalizing c with
  | nil => exact ⟨rfl,Touches.refl c,h,nofun⟩
  | cons ch channels ih =>
    have hc : ch < st.zoneCount := hch ch List.mem_cons_self
    have hrest : ∀ j∈channels,j < st.zoneCount := fun j hj => hch j (List.mem_cons_of_mem _ hj)
    have hone : c.applyOne st schedule 0 ch=c.stopZoneFrom (st.zoneOf ch) .peer := if_pos rfl
    obtain ⟨hok,t,hserves,hoff⟩ := h.stop laid own hc
    obtain ⟨hok',t',hserves',hoff'⟩ := ih hserves hrest
    rw [applyZones_cons,hone,if_pos hok]
    refine ⟨hok',t.cons t',hserves',fun j hj => ?_⟩
    by_cases hmem : j∈channels
    · exact hoff' j hmem
    · obtain rfl | hj := List.mem_cons.mp hj
      · rw [t'.others hc hmem,hoff]
      · exact absurd hj hmem

/-- What comes of a request that stops channels or starts one: what was not done is off. -/
theorem applied (schedule : UInt8) {minutes : UInt8} (he : st.enabled=true)
    (hr : st.remoteControl=true) (hch : ∀ ch∈channels,ch < st.zoneCount) (few : minutes=0 ∨ channels.length≤1) :
    Touches st channels c (c.applyZones st schedule minutes channels).1 ∧
    (c.applyZones st schedule minutes channels).1.Serves site wired st ∧
    (minutes=0 ∨ (c.applyZones st schedule minutes channels).2=false → ∀ ch∈channels,
      (c.applyZones st schedule minutes channels).1.zones.state (st.zoneOf ch)=.off) := by
  by_cases h0 : minutes=0
  · subst h0
    obtain ⟨_,t,hserves,hoff⟩ := h.stopEach laid own schedule hch
    exact ⟨t,hserves,fun _ => hoff⟩
  match channels,few.resolve_left h0 with
  | [],_ => exact ⟨Touches.refl c,h,fun _ => nofun⟩
  | [ch],_ =>
    have hone : c.applyOne st schedule minutes ch=
        c.startZoneFrom (channelRun st schedule minutes ch) .peer := if_neg h0
    obtain ⟨t,hserves,hoff⟩ := h.start laid own he hr (hch ch List.mem_cons_self)
      (channelRun st schedule minutes ch) rfl
    rw [applyZones_cons,hone]
    by_cases hok : (c.startZoneFrom (channelRun st schedule minutes ch) .peer).2=true
    · rw [if_pos hok]
      exact ⟨t,hserves,fun k => absurd k (by simp [h0,applyZones])⟩
    · rw [if_neg hok]
      refine ⟨t,hserves,fun _ j hj => ?_⟩
      rw [List.mem_singleton.mp hj]
      exact hoff (by simpa using hok)

end Own

end Serves

/-- A station that did as it was asked reports the channels as they are now; one that refused left
all channels that were asked for off. -/
def Answers (st : Station) (first count : UInt8) (channels : List UInt8) (d : Controller σ)
    (m : Message) : Prop :=
  (∃ service,m=.zonesReport service first count
    (.build first count fun ch => (d.zones.state (st.zoneOf ch)).isOn)) ∨
  ∃ e,m=.responseError Function.zonesSet.code e ∧
    ∀ ch∈channels,d.zones.state (st.zoneOf ch)=.off

theorem reject_eq (f : Frame) (e : Exception) : ∃ d : Controller σ,
    d.still=c.still ∧ d.link=c.link ∧
      (c.reject f e true).1=d.reply f (.responseError f.function.code e) := by
  unfold reject
  dsimp only
  rw [if_pos rfl]
  split_ifs
  · exact ⟨c.record _,rfl,rfl,rfl⟩
  · exact ⟨c,rfl,rfl,rfl⟩

theorem acknowledge_standard (f : Frame) (report : Controller σ → Message) :
    (c.acknowledge f .standard report).1=c.reply f (report c) := rfl

/-- A refusal, where all that was asked for is off. -/
theorem Serves.refuse (h : d.Serves site wired st) {channels : List UInt8}
    (t : Touches st channels c d) (off : ∀ ch∈channels,d.zones.state (st.zoneOf ch)=.off)
    {f : Frame} (hf : f.function=.zonesSet) (e : Exception) (first count : UInt8) :
    ∃ d' m,(d.reject f e true).1=d'.reply f m ∧ Touches st channels c d' ∧
      d'.Serves site wired st ∧ (∀ ch∈channels,d'.zones.state (st.zoneOf ch)=.off) ∧
      Answers st first count channels d' m := by
  obtain ⟨d',hs,hl,hd⟩ := reject_eq (c:=d) f e
  have off' : ∀ ch∈channels,d'.zones.state (st.zoneOf ch)=.off := by
    rw [show d'.zones=d.zones from zones_of_still hs]
    exact off
  rw [hf] at hd
  exact ⟨d',_,hd,t.of_still hs hl,h.of_still hs,off',Or.inr ⟨_,rfl,off'⟩⟩

omit [Carrier σ] in
/-- What a station grants of a request for channels that it has. -/
theorem Serves.grant_eq (own : site.station? site.unit=some st) (h : c.Serves site wired st)
    {first count : UInt8} (mask : ZoneMask) (hc : 1≤count)
    (hr : first.toNat+count.toNat ≤ st.zoneCount.toNat) (hn : st.zoneCount.toNat≤254) :
    c.grant first count mask=if st.enabled && st.remoteControl then
      some (st,(span first count).filter mask.get) else none := by
  have hcount : count≠everything := by
    rintro rfl
    have : everything.toNat=255 := rfl
    omega
  have hrange : resolveRange first count st.zoneCount≠none := by
    simp only [resolveRange,hcount,and_false,if_false,if_pos (And.intro hc hr)]
    exact Option.some_ne_none _
  unfold grant
  rw [h.addressable? own]
  by_cases hopen : (st.enabled && st.remoteControl)=true
  · rw [if_pos hopen,if_pos hopen]
    exact if_neg (not_or.mpr ⟨hrange,hcount⟩)
  · rw [if_neg hopen,if_neg hopen]

/-- A request for channels that the station has is answered: with a report if it was done, else
with a refusal, and then all that was asked for is off. -/
theorem Serves.serve (laid : site.Laid) (own : site.station? site.unit=some st)
    (h : c.Serves site wired st) {f : Frame} {schedule first minutes count : UInt8}
    {mask : ZoneMask} (hm : f.message=.zonesSet .standard schedule first minutes count mask)
    (hc : 1≤count) (hr : first.toNat+count.toNat ≤ st.zoneCount.toNat)
    (hn : st.zoneCount.toNat≤254)
    (few : minutes=0 ∨ ((span first count).filter mask.get).length≤1) :
    ∃ d m,(c.serve f).1=d.reply f m ∧
      Touches st ((span first count).filter mask.get) c d ∧ d.Serves site wired st ∧
      (minutes=0 → ∀ ch∈(span first count).filter mask.get,
        d.zones.state (st.zoneOf ch)=.off) ∧
      Answers st first count ((span first count).filter mask.get) d m := by
  have hf : f.function=.zonesSet := by rw [Frame.function,hm]; rfl
  have hch : ∀ ch∈(span first count).filter mask.get,ch < st.zoneCount := by
    intro ch hmem
    obtain ⟨_,hlt,_⟩ := mem_span.mp (List.mem_filter.mp hmem).1
    exact UInt8.lt_iff_toNat_lt.mpr (by omega)
  have hserve : c.serve f=c.serveZonesSet f .standard schedule first minutes count mask := by
    unfold Controller.serve
    rw [hm]
  have hg := h.grant_eq own mask hc hr hn
  rw [hserve]
  by_cases hopen : (st.enabled && st.remoteControl)=true
  · rw [if_pos hopen] at hg
    obtain ⟨he,hrc⟩ := Bool.and_eq_true_iff.mp hopen
    obtain ⟨t,hserves,hoff⟩ := h.applied laid own schedule he hrc hch few
    rw [serveZonesSet_granted hg]
    by_cases hok : (c.applyZones st schedule minutes ((span first count).filter mask.get)).2=true
    · rw [if_pos hok,acknowledge_standard]
      exact ⟨_,_,rfl,t,hserves,fun h0 => hoff (Or.inl h0),Or.inl ⟨_,rfl⟩⟩
    · rw [if_neg hok]
      obtain ⟨d,m,hd,t',hserves',off,answers⟩ := hserves.refuse t
        (hoff (Or.inr (by simpa using hok))) hf .applyFailure first count
      exact ⟨d,m,hd,t',hserves',fun _ => off,answers⟩
  · rw [if_neg hopen] at hg
    rw [serveZonesSet_refused hg]
    obtain ⟨d,m,hd,t,hserves,off,answers⟩ := h.refuse (Touches.refl c) (fun ch hmem => by
      by_contra hon
      have hruns := (h.runs (hch ch hmem) hon).2
      exact hopen (by rw [hruns.enabled,hruns.control]; rfl)) hf .illegalAddress first count
    exact ⟨d,m,hd,t,hserves,fun _ => off,answers⟩

end Controller

end Watering
