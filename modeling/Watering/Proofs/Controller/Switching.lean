import Watering.Proofs.Controller.Asking

namespace Watering

open Plant (Moves)

/-- The far end of a line is a station elsewhere, as the site at the near end knows it. -/
structure Line.Reaches (L : Line) (site : Site) (st : Station) : Prop where
  laid : site.Laid
  near : L.near=site.unit
  station : site.enabledStation? L.far=some st
  radio : st.network.isLocal=false
  few : st.zoneCount.toNat≤254

namespace Line.Reaches

variable {L : Line} {site : Site} {st s : Station} {i id ch : UInt8} {z : Zone}

theorem station? (R : L.Reaches site st) : site.station? L.far=some st :=
  (Site.station?_of_enabledStation? R.station).1

theorem foreign (R : L.Reaches site st) (hz : ∀ z,site.zone? i=some z → z.station≠L.far)
    (hc : ch < st.zoneCount) : st.zoneOf ch≠i := by
  rintro rfl
  obtain ⟨z,hz',hid,_⟩ := R.laid.zone_of R.station? hc
  exact hz z hz' hid

theorem channel (R : L.Reaches site st) (hz : site.MayRun i z) (hid : z.station=L.far) :
    z.channel < st.zoneCount ∧ st.zoneOf z.channel=i := by
  obtain ⟨t,ht,hc,hi⟩ := R.laid.owner hz.1 hz.2
  rw [hid,R.station?] at ht
  obtain rfl := Option.some.inj ht
  exact ⟨hc,hi⟩

theorem ne_near (R : L.Reaches site st) (hs : site.enabledStation? id=some s)
    (hn : s.network.isLocal=false) : id≠L.near := by
  rintro rfl
  have hs := (Site.station?_of_enabledStation? hs).1
  rw [R.near] at hs
  rw [R.laid.own hs] at hn
  cases hn

theorem ne_far (R : L.Reaches site st) (hs : site.enabledStation? id=some s)
    (hn : s.network.isLocal=true) : id≠L.far := by
  rintro rfl
  rw [R.station] at hs
  rw [←Option.some.inj hs,R.radio] at hn
  cases hn

end Line.Reaches

namespace Controller

/-- A master with a fixed site that reports to nobody, and whose zones are off unless they may
run. -/
structure Leads {σ : Type} (site : Site) (c : Controller σ) : Prop where
  consumes : c.role.consumes=true
  site_eq : c.site=site
  unit : c.unit=site.unit
  alone : c.eventMaster=none
  size : c.zones.size=site.zones.length
  idle : c.plant.Idle site

theorem eventMaster_of_setting {σ : Type} {c d : Controller σ} (h : d.setting=c.setting) :
    d.eventMaster=c.eventMaster := congrArg Setting.eventMaster h

theorem Leads.of_moves {σ : Type} {site : Site} {c d : Controller σ} {l : List Start}
    (h : c.Leads site) (hs : d.setting=c.setting) (m : Moves c.site c.plant l d.plant) :
    d.Leads site where
  consumes := by
    rw [role_of_setting hs]
    exact h.consumes
  site_eq := (site_of_setting hs).trans h.site_eq
  unit := (congrArg (·.unit) (congrArg Setting.registers hs : d.registers=c.registers)).trans h.unit
  alone := (eventMaster_of_setting hs).trans h.alone
  size := (m.size : d.zones.size=c.zones.size).trans h.size
  idle := (h.site_eq ▸ m).idle h.idle

theorem Leads.withCarrier {σ τ : Type} {site : Site} {c : Controller σ} (h : c.Leads site) (t : τ) :
    (c.withCarrier t).Leads site :=
  ⟨h.consumes,h.site_eq,h.unit,h.alone,h.size,h.idle⟩

variable {L : Line} {site : Site} {st : Station} {c d e : Controller (Transceiver×Bus)}
  {q : ZonesRequest} {i : UInt8} {z : Zone}

/-- A master as it was when the command came, as far as the command does not change it. -/
structure Holds (L : Line) (site : Site) (c : Controller (Transceiver×Bus)) : Prop where
  line : L.Open c.link
  site_eq : c.site=site
  unit : c.unit=L.near
  alone : c.eventMaster=none

theorem Leads.holds (R : L.Reaches site st) (h : c.Leads site) (ho : L.Open c.link) :
    Holds L site c := ⟨ho,h.site_eq,h.unit.trans R.near.symm,h.alone⟩

theorem Holds.of_setting (h : Holds L site c) (ho : L.Open d.link) (hs : d.setting=c.setting) :
    Holds L site d where
  line := ho
  site_eq := (site_of_setting hs).trans h.site_eq
  unit := (congrArg Registers.unit (congrArg Setting.registers hs : d.registers=c.registers)).trans
    h.unit
  alone := (eventMaster_of_setting hs).trans h.alone

/-- A request for channels of the station arrives there, and is noted. -/
theorem Holds.request_tells (R : L.Reaches site st) (h : Holds L site c)
    (hq : q.Within st.zoneCount) (chosen : q.channels≠[]) (ht : q.transaction=c.nextTransaction) :
    (c.request L.far q.message).2=true ∧
    L.Tells (q.frame L.far L.near) (q.channels.map st.zoneOf) c
      (c.request L.far q.message).1 := by
  have hzones : c.commandedZones L.far q.message=q.channels.map st.zoneOf :=
    commandedZones_eq (by rw [h.site_eq]; exact R.station?) hq
  obtain ⟨hok,tells⟩ := request_far h.line h.unit (q:=q) (by rw [hzones]; simpa using chosen) ht
  rw [hzones] at tells
  exact ⟨hok,tells⟩

/-- The station hears nothing, and its zones stay as they are. -/
structure Aside (L : Line) (st : Station) (c d : Controller (Transceiver×Bus)) : Prop where
  hush : L.Hush c d
  spares {ch : UInt8} : ch < st.zoneCount → d.zones.state (st.zoneOf ch)=c.zones.state (st.zoneOf ch)

/-- The station is sent one request; the zones that it is about wait for the answer or are off, and
all others stay as they are. -/
structure Asked (L : Line) (site : Site) (st : Station) (q : ZonesRequest)
    (c d : Controller (Transceiver×Bus)) : Prop where
  tells : L.Tells (q.frame L.far L.near) (q.channels.map st.zoneOf) c d
  within : q.Within st.zoneCount
  spares {ch : UInt8} : ch < st.zoneCount → ch∉q.channels →
    d.zones.state (st.zoneOf ch)=c.zones.state (st.zoneOf ch)
  waits {ch : UInt8} : ch∈q.channels →
    d.zones.state (st.zoneOf ch)=.off ∨ (d.zones.state (st.zoneOf ch)).isPending=true
  may {ch : UInt8} : q.minutes≠0 → ch∈q.channels → ∃ z,site.MayRun (st.zoneOf ch) z

theorem Aside.trans (h : Aside L st c d) (h' : Aside L st d e) : Aside L st c e :=
  ⟨h.hush.trans h'.hush,fun hc => (h'.spares hc).trans (h.spares hc)⟩

theorem Aside.asked (h : Aside L st c d) (h' : Asked L site st q d e) : Asked L site st q c e :=
  ⟨h.hush.tells h'.tells,h'.within,fun hc hn => (h'.spares hc hn).trans (h.spares hc),h'.waits,
    h'.may⟩

theorem Asked.aside (h : Asked L site st q c d) (h' : Aside L st d e) : Asked L site st q c e where
  tells := h.tells.hush h'.hush
  within := h.within
  spares hc hn := (h'.spares hc).trans (h.spares hc hn)
  waits {ch} hc := by
    rw [h'.spares (h.within.lt (ZonesRequest.mem_channels.mp hc).1)]
    exact h.waits hc
  may := h.may

/-- What a command comes to. -/
def Effect (L : Line) (site : Site) (st : Station) (c d : Controller (Transceiver×Bus)) : Prop :=
  Aside L st c d ∨ ∃ q,Asked L site st q c d

theorem Aside.of_modify (h : L.Hush c d) (R : L.Reaches site st) {f : ZoneStatus → ZoneStatus}
    (zones : d.zones=c.zones.modify i f) (hz : ∀ z,site.zone? i=some z → z.station≠L.far) :
    Aside L st c d where
  hush := h
  spares hc := by
    rw [zones]
    exact ZoneBoard.state_modify_ne _ _ (R.foreign hz hc)

theorem Aside.of_same (h : L.Hush c d) (zones : d.zones=c.zones) : Aside L st c d :=
  ⟨h,fun _ => by rw [zones]⟩

theorem Aside.refl (h : L.Open c.link) : Aside L st c c := .of_same (.of_silent h rfl rfl) rfl

/-- A change of the zone that the station was asked for. -/
theorem Asked.of_modify (R : L.Reaches site st) (hz : site.MayRun i z) (hfar : z.station=L.far)
    (tells : L.Tells (q.frame L.far L.near) (q.channels.map st.zoneOf) c d)
    (within : q.Within st.zoneCount) (channels : q.channels=[z.channel])
    {f : ZoneStatus → ZoneStatus} (zones : d.zones=c.zones.modify i f)
    (waits : ∀ x,(f x).state=.off ∨ (f x).state.isPending=true) : Asked L site st q c d := by
  obtain ⟨hc,hi⟩ := R.channel hz hfar
  refine ⟨tells,within,fun {ch} hch hne => ?_,fun {ch} hmem => ?_,fun {ch} _ hmem => ?_⟩
  · rw [zones]
    refine ZoneBoard.state_modify_ne _ _ fun e => ?_
    rw [channels,List.mem_singleton] at hne
    rw [←hi] at e
    exact hne (Station.zoneOf_inj (R.laid.fits R.station?) hch hc e)
  · rw [channels,List.mem_singleton] at hmem
    rw [hmem,hi,zones]
    cases hx : c.zones.status? i with
    | none =>
      left
      rw [ZoneBoard.state,ZoneBoard.status?_modify,hx]
      simp
    | some x =>
      rw [ZoneBoard.state_modify_self f hx]
      exact waits x
  · rw [channels,List.mem_singleton] at hmem
    rw [hmem,hi]
    exact ⟨z,hz⟩

theorem failSafeOff_silent {σ : Type} (c : Controller σ) (i : UInt8) :
    (c.failSafeOff i).link=c.link ∧ (c.failSafeOff i).inFlight=c.inFlight := by
  have release (z : Zone) : (c.releaseValve z).link=c.link ∧
      (c.releaseValve z).inFlight=c.inFlight := by
    unfold releaseValve
    split
    · split_ifs
      · obtain ⟨hl,hi,_⟩ := c.setValve_frame ‹_› z.channel false
        exact ⟨hl,hi⟩
      · exact ⟨rfl,rfl⟩
    · exact ⟨rfl,rfl⟩
  unfold failSafeOff
  cases c.site.zone? i with
  | none => dsimp only; split_ifs <;> exact ⟨rfl,rfl⟩
  | some z => dsimp only; split_ifs <;> exact release z

theorem failSafeOff_aside (R : L.Reaches site st) (h : L.Open c.link) (hs : c.site=site)
    (hz : site.zone? i=some z) (hne : z.station≠L.far) : Aside L st c (c.failSafeOff i) := by
  obtain ⟨hlink,hin⟩ := c.failSafeOff_silent i
  have hp := c.plant_failSafeOff (by rw [hs]; exact hz)
  have hzones : (c.failSafeOff i).zones=_ := congrArg Plant.zones hp
  have hf : ∀ y,site.zone? i=some y → y.station≠L.far := by
    intro y hy
    rwa [←Option.some.inj (hz.symm.trans hy)]
  dsimp only at hzones
  split_ifs at hzones
  · exact .of_same (.of_silent h hlink hin) hzones
  · exact .of_modify (.of_silent h hlink hin) R hzones hf

theorem zones_request {σ : Type} [Carrier σ] (c : Controller σ) (id : UInt8) (m : Message) :
    (c.request id m).1.zones=c.zones := zones_of_still (still_request ..)

/-- Driving the output of a zone or asking its station for it, and noting that on the board if it
was done. -/
theorem Leads.switch (R : L.Reaches site st) (h : c.Leads site) (ho : L.Open c.link)
    (hz : site.MayRun i z) {s : Station} (hs : site.enabledStation? z.station=some s) (on : Bool)
    (schedule minutes : UInt8) {r : Controller (Transceiver×Bus)×Bool}
    (hr : r=if s.network.isLocal then c.setValve s z.channel on
      else c.request z.station
        (ZonesRequest.single c.nextTransaction schedule minutes z.channel).message)
    {f : ZoneStatus → ZoneStatus} (link : d.link=r.1.link) (inFlight : d.inFlight=r.1.inFlight)
    (zones : d.zones=r.1.zones.modify i f) (waits : s.network.isLocal=false →
      ∀ x,(f x).state=.off ∨ (f x).state.isPending=true) :
    Effect L site st c (if r.2=true then d else r.1) := by
  have hu : c.unit=L.near := h.unit.trans R.near.symm
  have others (hne : z.station≠L.far) : ∀ y,site.zone? i=some y → y.station≠L.far := by
    intro y hy
    rwa [←Option.some.inj (hz.1.symm.trans hy)]
  have aside (hh : L.Hush c r.1) (same : r.1.zones=c.zones) (hne : z.station≠L.far) :
      Effect L site st c (if r.2=true then d else r.1) := by
    have hd : L.Hush c d := hh.trans (.of_silent hh.line link inFlight)
    refine Or.inl ?_
    split_ifs
    · exact .of_modify hd R (zones.trans (by rw [same])) (others hne)
    · exact .of_same hh same
  cases hn : s.network.isLocal with
  | true =>
    rw [hn,if_pos rfl] at hr
    obtain ⟨hl,hi,_,same⟩ := c.setValve_frame s z.channel on
    rw [←hr] at hl hi same
    exact aside (.of_silent ho hl hi) same (R.ne_far hs hn)
  | false =>
    rw [hn,if_neg (by simp)] at hr
    have same : r.1.zones=c.zones := by rw [hr,zones_request]
    by_cases hfar : z.station=L.far
    · obtain ⟨hc,_⟩ := R.channel hz hfar
      set q := ZonesRequest.single c.nextTransaction schedule minutes z.channel
      have hlt := UInt8.lt_iff_toNat_lt.mp hc
      have channels : q.channels=[z.channel] :=
        ZonesRequest.channels_single _ _ _ (Nat.lt_of_lt_of_le hlt (Nat.le_succ_of_le R.few))
      have within : q.Within st.zoneCount := ZonesRequest.within_single _ _ _ hc R.few
      obtain ⟨hok,tells⟩ := (h.holds R ho).request_tells R within (by simp [channels]) rfl
      rw [hfar] at hr
      rw [←hr] at hok tells
      rw [if_pos hok]
      have hd := tells.hush (.of_silent tells.line link inFlight)
      exact Or.inr ⟨q,.of_modify R hz hfar hd within channels (zones.trans (by rw [same]))
        (waits hn)⟩
    · have hh := request_away ho hu (q:=ZonesRequest.single c.nextTransaction schedule minutes
        z.channel) (R.ne_near hs hn) hfar
      rw [←hr] at hh
      exact aside hh same hfar

theorem pushZones_alone {σ : Type} [Carrier σ] {c : Controller σ} (h : c.eventMaster=none)
    (id : UInt8) : c.pushZones id=c := by
  unfold pushZones
  rw [h]

theorem Leads.failSafeOff (R : L.Reaches site st) (h : c.Leads site) (ho : L.Open c.link)
    (hz : c.site.zone? i=some z) (hs : c.site.enabledStation? z.station=none) :
    Effect L site st c (c.failSafeOff i) := by
  rw [h.site_eq] at hz hs
  refine Or.inl (failSafeOff_aside R ho h.site_eq hz fun e => ?_)
  rw [e,R.station] at hs
  cases hs

theorem Leads.stopZone (R : L.Reaches site st) (h : c.Leads site) (ho : L.Open c.link)
    (i : UInt8) : Effect L site st c (c.stopZoneFrom i .here).1 := by
  have switched (z : Zone) (s : Station) (hz : c.site.zone? i=some z) (hstate : c.zones.state i≠.off)
      (hs : c.site.enabledStation? z.station=some s) : if (c.close z s).2=true then
        Effect L site st c ((c.close z s).1.stopped i s.network.isLocal z.station .here)
      else Effect L site st c (c.close z s).1 := by
    have hmay : site.MayRun i z := by
      obtain ⟨y,hy⟩ := h.idle i hstate
      have hz' : site.zone? i=some z := by rwa [←h.site_eq]
      exact ⟨hz',by rw [Option.some.inj (hz'.symm.trans hy.1)]; exact hy.2⟩
    have alone : (c.close z s).1.eventMaster=none :=
      (eventMaster_of_setting (c.close_setting z s)).trans h.alone
    have hd : (c.close z s).1.stopped i s.network.isLocal z.station .here=
        record {(c.close z s).1 with zones:=(c.close z s).1.zones.stop i s.network.isLocal}
          (.zoneStopped i .commanded) := by
      unfold stopped
      exact pushZones_alone (c:=record {(c.close z s).1 with
        zones:=(c.close z s).1.zones.stop i s.network.isLocal} _) alone z.station
    have out := h.switch R ho hmay (by rwa [←h.site_eq]) false 0 0 (r:=c.close z s)
      (d:=(c.close z s).1.stopped i s.network.isLocal z.station .here)
      (f:=(·.stop s.network.isLocal)) rfl (by rw [hd]; rfl) (by rw [hd]; rfl)
      (by rw [hd]; rfl) fun hn x => by
        obtain hx | ⟨_,_,hx⟩ := x.stop_cases s.network.isLocal
        · exact Or.inl hx
        · exact Or.inr (by rw [hx]; rfl)
    split_ifs at out ⊢ <;> exact out
  refine stopZoneFrom_cases (P:=fun r => Effect L site st c r.1) ?unknown ?off ?out ?refused ?done
  case unknown => exact fun _ => Or.inl (.refl ho)
  case off => exact fun _ => Or.inl (.refl ho)
  case out => exact fun z hz _ hs => h.failSafeOff R ho hz hs
  case refused =>
    intro z s hz hstate hs hok
    have out := switched z s hz hstate hs
    rwa [hok] at out
  case done =>
    intro z s hz hstate hs hok
    have out := switched z s hz hstate hs
    rwa [hok] at out

theorem Leads.startZone (R : L.Reaches site st) (h : c.Leads site) (ho : L.Open c.link)
    (run : ZoneRun) : Effect L site st c (c.startZoneFrom run .here).1 := by
  have switched (z : Zone) (s : Station) (hz : c.site.MayRun run.zone z)
      (hs : c.site.enabledStation? z.station=some s) :
      if (c.openFor z s (c.capped run)).2=true then Effect L site st c
        ((c.openFor z s (c.capped run)).1.started (c.capped run) s.network.isLocal c.now z.station .here)
      else Effect L site st c (c.openFor z s (c.capped run)).1 := by
    set r := c.openFor z s (c.capped run) with hr
    have alone : r.1.eventMaster=none :=
      (eventMaster_of_setting (c.openFor_setting z s (c.capped run))).trans h.alone
    have hd : r.1.started (c.capped run) s.network.isLocal c.now z.station .here=
        record {r.1 with zones:=r.1.zones.start (c.capped run) s.network.isLocal c.now}
          (.zoneStarted (c.capped run)) := by
      unfold started
      exact pushZones_alone (c:=record {r.1 with
        zones:=r.1.zones.start (c.capped run) s.network.isLocal c.now} _) alone z.station
    have out := h.switch R ho (by rwa [←h.site_eq]) (by rwa [←h.site_eq]) true
      ((c.capped run).schedule.getD 0) (c.capped run).minutes (r:=r)
      (d:=r.1.started (c.capped run) s.network.isLocal c.now z.station .here)
      (f:=fun _ => .start (c.capped run) s.network.isLocal c.now) rfl (by rw [hd]; rfl)
      (by rw [hd]; rfl) (by rw [hd]; rfl) fun hn x => by
        rw [hn]
        exact Or.inr rfl
    split_ifs at out ⊢ <;> exact out
  refine startZoneFrom_cases (P:=fun r => Effect L site st c r.1) ?unfit ?out ?stop ?refused ?done
  case unfit => exact fun _ => Or.inl (.refl ho)
  case out => exact fun z hz hs => h.failSafeOff R ho hz.1 hs
  case stop => exact fun _ _ _ _ _ => h.stopZone R ho run.zone
  case refused =>
    intro z s hz hs _ hok
    have out := switched z s hz hs
    rwa [hok] at out
  case done =>
    intro z s hz hs _ hok
    have out := switched z s hz hs
    rwa [hok] at out

end Controller

end Watering
