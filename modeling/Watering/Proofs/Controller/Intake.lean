import Watering.Proofs.Controller.Agreement
import Watering.Proofs.Controller.Course
import Watering.Proofs.Controller.Settling
import Watering.Radio.Scripted

namespace Watering

namespace Site

/-- Zone `i` is a channel of a station wired here. -/
def IsLocal (s : Site) (i : UInt8) : Prop :=
  ∃ id st ch,s.station? id=some st ∧ st.network.isLocal=true ∧ ch < st.zoneCount ∧ st.zoneOf ch=i

variable {s : Site} {i : UInt8}

theorem IsLocal.station (laid : s.Laid) (h : s.IsLocal i) {z : Zone} {st : Station}
    (hz : s.zone? i=some z) (hs : s.enabledStation? z.station=some st) :
    st.network.isLocal=true := by
  obtain ⟨id,own,ch,hown,hn,hc,rfl⟩ := h
  obtain ⟨y,hy,rfl,_⟩ := laid.zone_of hown hc
  rw [hy] at hz
  obtain rfl := Option.some.inj hz
  have hst := (station?_of_enabledStation? hs).1
  rw [hown] at hst
  rwa [←Option.some.inj hst]

/-- Channels of two stations are never the same zone. -/
theorem Laid.zoneOf_ne (laid : s.Laid) {id id' ch ch' : UInt8} {st st' : Station}
    (hs : s.station? id=some st) (hc : ch < st.zoneCount) (hs' : s.station? id'=some st')
    (hc' : ch' < st'.zoneCount) (hne : id≠id') : st.zoneOf ch≠st'.zoneOf ch' := by
  intro e
  obtain ⟨z,hz,hid,_⟩ := laid.zone_of hs hc
  obtain ⟨z',hz',hid',_⟩ := laid.zone_of hs' hc'
  rw [e,hz'] at hz
  obtain rfl := Option.some.inj hz
  exact hne (hid.symm.trans hid')

end Site

namespace Controller

variable {σ : Type} {site : Site} {c : Controller σ}

section Settled

variable [Carrier σ]

theorem Fits.local_settled (laid : site.Laid) (h : Fits site c)
    (settled : ∀ i,site.IsLocal i → (c.zones.state i).isPending=false)
    (actions : List (Action σ)) {i : UInt8} (hi : site.IsLocal i) :
    ((c.actAll actions).zones.state i).isPending=false := by
  have keeps := h.keeps (P:=fun i z => site.IsLocal i → z.state.isPending=false) ?_ ?_ ?_ ?_ actions
  · cases hz : (c.actAll actions).zones.status? i with
    | none =>
      rw [ZoneBoard.state,hz]
      rfl
    | some z =>
      rw [ZoneBoard.state_of_status? hz]
      exact keeps i z hz hi
  · rintro j y z made hy hj
    cases made with
    | same => exact hy hj
    | off => rfl
    | stopped hzone hst =>
      rw [hj.station laid hzone hst]
      rfl
    | started now hzone hst =>
      rw [hj.station laid hzone hst]
      rfl
  · rintro j y on - -
    cases on <;> rfl
  · rintro j y hy hj
    exact (ZoneStatus.tick_settled (hy hj)).1
  · intro j z hz hj
    rw [←ZoneBoard.state_of_status? hz]
    exact settled j hj

end Settled

theorem valves_consume (f : Frame) : (c.consume f).1.valves=c.valves := by
  obtain ⟨_,_,_,_,taken⟩ := c.consume_leaves f
  rw [taken]

theorem zones_consume_cases (f : Frame) : (c.consume f).1.zones=c.zones ∨
    (∃ service first count mask st,f.message=.zonesReport service first count mask ∧
      c.site.enabledStation? f.source=some st ∧
      first.toNat+count.toNat ≤ st.zoneCount.toNat ∧ (c.consume f).1.zones=(span first count).foldl
        (fun b ch => b.modify (st.zoneOf ch) (·.confirm (mask.get ch))) c.zones) ∨
    ∃ e,f.message=.responseError Function.zonesSet.code e := by
  obtain none | ⟨service,first,count,mask,st,hm,hs,range,_⟩ | ⟨e,hm,_⟩ := c.news_cases f
  · left
    rw [zones_consume,none]
    rfl
  · exact .inr (.inl ⟨service,first,count,mask,st,hm,hs,range,zones_reported hm hs range⟩)
  · exact .inr (.inr ⟨e,hm⟩)

/-- A zone that is wired here and does not wait keeps its record, unless the report that is taken in
claims to come from its own station. -/
theorem status?_consume (laid : c.site.Laid) (f : Frame) {id ch : UInt8} {st : Station}
    (hs : c.site.station? id=some st) (hc : ch < st.zoneCount)
    (settled : (c.zones.state (st.zoneOf ch)).isPending=false) :
    (c.consume f).1.zones.status? (st.zoneOf ch)=c.zones.status? (st.zoneOf ch) ∨
    ∃ service first count mask,f.message=.zonesReport service first count mask ∧ f.source=id ∧
      ch∈span first count ∧ (c.consume f).1.zones.status? (st.zoneOf ch)=
        (c.zones.status? (st.zoneOf ch)).map (·.confirm (mask.get ch)) := by
  obtain same | ⟨service,first,count,mask,own,hm,hown,range,edited⟩ | ⟨e,hm⟩ := c.zones_consume_cases f
  · exact Or.inl (by rw [same])
  · have hown := (Site.station?_of_enabledStation? hown).1
    have below : ∀ i∈span first count,i < own.zoneCount := fun i hi => lt_of_mem_span hi range
    obtain ⟨others,reported⟩ := ZoneBoard.status?_foldl_confirm own.zoneOf mask.get
      (b:=c.zones) (l:=span first count) fun i hi j hj =>
        Station.zoneOf_inj (laid.fits hown) (below i hi) (below j hj)
    rw [edited]
    by_cases hid : f.source=id
    · subst hid
      rw [hs] at hown
      obtain rfl := Option.some.inj hown
      by_cases hmem : ch∈span first count
      · exact Or.inr ⟨service,first,count,mask,hm,rfl,hmem,reported ch hmem⟩
      · refine Or.inl (others _ fun i hi e => hmem ?_)
        rwa [Station.zoneOf_inj (laid.fits hs) hc (below i hi) e]
    · exact Or.inl (others _ fun i hi => laid.zoneOf_ne hs hc hown (below i hi) (Ne.symm hid))
  · left
    rw [zones_refused hm,ZoneBoard.status?_foldl_forceOff,if_neg]
    rintro ⟨_,waits⟩
    rw [settled] at waits
    cases waits

section Process

variable [Carrier σ]

/-- A frame that asks for nothing is taken in, or it is dropped. -/
theorem process_of_answer {bytes : List UInt8} {f : Frame} (hf : Frame.decode bytes=.ok f)
    (answer : f.function.isRequest=false) : (c.process bytes).1=
      if c.isAddressed f=true ∧ c.role.consumes=true then (c.consume f).1 else c := by
  rw [process_decoded hf,answer,if_neg Bool.false_ne_true,ite_and]

/-- In every state that a controller reaches, a frame that asks for nothing switches no output, and
leaves alone each zone that is wired here, unless it is a report of that zone under the name of its
own station. -/
theorem answer_spares_local_zones {cfg : Config} (hv : cfg.Valid) (role : Role) (carrier : σ)
    (valves : ValveBoard) (sensors : SensorBank) (clock : Instant) (actions : List (Action σ))
    {bytes : List UInt8} {f : Frame} (hf : Frame.decode bytes=.ok f)
    (answer : f.function.isRequest=false) :
    let c := (start role carrier cfg.site valves sensors clock).actAll actions
    let d := (c.process bytes).1
    d.valves=c.valves ∧ ∀ id st ch,cfg.site.station? id=some st → st.network.isLocal=true →
      ch < st.zoneCount → d.zones.status? (st.zoneOf ch)=c.zones.status? (st.zoneOf ch) ∨
      ∃ service first count mask,f.message=.zonesReport service first count mask ∧ f.source=id ∧
        ch∈span first count ∧ d.zones.status? (st.zoneOf ch)=
          (c.zones.status? (st.zoneOf ch)).map (·.confirm (mask.get ch)) := by
  intro c d
  have fits := fits_start role carrier cfg.site valves sensors clock
  have site : c.site=cfg.site := (fits.actAll actions).site_eq
  have taken : d=if c.isAddressed f=true ∧ c.role.consumes=true then (c.consume f).1 else c :=
    process_of_answer hf answer
  rw [taken]
  split_ifs
  · refine ⟨valves_consume f,fun id st ch hs hn hc => ?_⟩
    have settled := fits.local_settled hv.laid
      (fun i _ => by rw [state_start]; rfl) actions ⟨id,st,ch,hs,hn,hc,rfl⟩
    rw [←site] at hs
    exact status?_consume (by rw [site]; exact hv.laid) f hs hc settled
  · exact ⟨rfl,fun _ _ _ _ _ _ => Or.inl rfl⟩

end Process

/-- A gateway at the plot that starts its first zone for ten minutes. -/
def wateringPlot : Controller ScriptedRadio :=
  (start .gateway {kind:=.short} Config.plot.site (.ofOutputs [0,1]) {} ⟨0,0⟩).actAll
    [.operate (.startZone {zone:=0,minutes:=10})]

/-- A report of that zone, under the name of some station. -/
def offReport (source : UInt8) : Frame := ⟨0,1,source,.zonesReport 0 0 1 ⟨[0]⟩⟩

theorem answer_spares_local_zones_plot :
    Frame.decode (offReport 7).octets=.ok (offReport 7) ∧
    (wateringPlot.process (offReport 7).octets).1.valves=wateringPlot.valves ∧
    (wateringPlot.process (offReport 7).octets).1.zones.status? 0=wateringPlot.zones.status? 0 := by
  have hf : Frame.decode (offReport 7).octets=.ok (offReport 7) := by decide
  obtain ⟨st,hs,hn,hc,hz,_⟩ := Config.plot_station
  obtain ⟨valves,spared⟩ := answer_spares_local_zones Config.plot_valid .gateway
    ({kind:=.short} : ScriptedRadio) (.ofOutputs [0,1]) {} ⟨0,0⟩
    [.operate (.startZone {zone:=0,minutes:=10})] hf rfl
  obtain same | ⟨_,_,_,_,_,hid,_⟩ := spared 1 st 0 hs hn hc
  · rw [hz] at same
    exact ⟨hf,valves,same⟩
  · exact absurd hid (by decide)

/-- Under the name of the gateway itself the report is believed: the zone is off on the board, its
countdown is gone, and its output stays on. -/
theorem own_name_turns_zone_off : Config.plot.Valid ∧
    Frame.decode (offReport 1).octets=.ok (offReport 1) ∧
    (offReport 1).function.isRequest=false ∧
    wateringPlot.zones.state 0=.running ∧
    (wateringPlot.process (offReport 1).octets).1.zones.state 0=.off ∧
    (wateringPlot.process (offReport 1).octets).1.valves.isOn 0=true :=
  ⟨Config.plot_valid,by decide,rfl,by decide +kernel,by decide +kernel,by decide +kernel⟩

end Controller

end Watering
