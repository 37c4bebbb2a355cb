import Watering.Proofs.Controller.Accounted
import Watering.Proofs.Controller.Dialogue
import Watering.Proofs.Controller.Grounds

namespace Watering

/-- A station wired here that peers may control, each of its channels with an output to drive. -/
structure Site.Operable (s : Site) (wired : UInt16 → Bool) (id : UInt8) (st : Station) : Prop where
  station : s.station? id=some st
  isLocal : st.network.isLocal=true
  enabled : st.enabled=true
  control : st.remoteControl=true
  pos : 1 ≤ st.zoneCount
  output {ch : UInt8} : ch < st.zoneCount → ∃ o,st.output? ch=some o ∧ wired o=true

namespace Plant

/-- All channels of a station are off, and so is each of its outputs unless it is shared with a zone
of another station that runs. -/
structure Cleared (site : Site) (id : UInt8) (st : Station) (p : Plant) : Prop where
  zones {ch : UInt8} : ch < st.zoneCount → p.zones.state (st.zoneOf ch)=.off
  outputs {ch : UInt8} {o : UInt16} : ch < st.zoneCount → st.output? ch=some o →
    p.valves.isOn o=false ∨ ∃ k t x,k≠id ∧ site.station? k=some t ∧ t.network.isLocal=true ∧
      x < t.zoneCount ∧ t.output? x=some o ∧ p.zones.state (t.zoneOf x)=.running

variable {site : Site} {wired : UInt16 → Bool} {id : UInt8} {st : Station} {p : Plant}

theorem Accounted.cleared (h : p.Accounted site wired) (hs : site.station? id=some st)
    (off : ∀ ch < st.zoneCount,p.zones.state (st.zoneOf ch)=.off) : p.Cleared site id st where
  zones := off _
  outputs {ch o} _ _ := by
    refine or_iff_not_imp_left.mpr fun on => ?_
    obtain ⟨i,⟨k,t,x,hk,hn,hx,rfl,ho⟩,running⟩ := h.lit (by simpa using on)
    refine ⟨k,t,x,?_,hk,hn,hx,ho,running⟩
    rintro rfl
    obtain rfl := Option.some.inj (hs.symm.trans hk)
    rw [off x hx] at running
    cases running

/-- Where no outputs are shared, all of them are off. -/
theorem Cleared.dark (d : site.OutputsDistinct) (h : p.Cleared site id st)
    (hs : site.station? id=some st) (hn : st.network.isLocal=true) {ch : UInt8} {o : UInt16}
    (hc : ch < st.zoneCount) (ho : st.output? ch=some o) : p.valves.isOn o=false := by
  obtain off | ⟨k,t,x,hne,hk,hn',hx,ho',_⟩ := h.outputs hc ho
  · exact off
  · exact absurd (d o k t x id st ch hk hn' hx hs hn hc ho' ho).1 hne

end Plant

namespace Controller

variable {σ : Type} {site : Site} {wired : UInt16 → Bool} {st : Station} {c : Controller σ}
  {f : Frame} {t : UInt8}

/-- As it arrives, the request to turn off all channels is for each of them, unless it counts as
many as would stand for all. -/
theorem grant_allOff (usable : c.Usable .control st) (pos : 1 ≤ st.zoneCount) :
    c.grant 0 st.zoneCount ⟨(allOffOf t st).mask.fit (bitmapLength 0 st.zoneCount)⟩=
      if st.zoneCount=everything then none else some (st,(allOffOf t st).channels) := by
  by_cases all : st.zoneCount=everything
  · rw [if_pos all]
    exact grant_of_not_commandable fun ⟨_,h⟩ => h.2.1 all
  · have within : Within 0 st.zoneCount st.zoneCount := by
      rw [Within,expand_of_ne all]
      exact ⟨UInt8.le_iff_toNat_le.mp pos,Nat.le_of_eq (Nat.zero_add _)⟩
    rw [if_neg all,grant_of_commandable ⟨usable,all,within⟩]
    exact congrArg (fun l => some (st,l)) (channels_onWire (allOffOf t st))

variable [Carrier σ]

theorem serve_allOff (hm : f.message=(allOffOf t st).message.onWire) :
    c.serve f=c.serveZonesSet f .standard 0 0 0 st.zoneCount
      ⟨(allOffOf t st).mask.fit (bitmapLength 0 st.zoneCount)⟩ := by
  unfold serve
  rw [hm]
  rfl

/-- The request is done. -/
theorem Tended.serve_allOff_done (laid : site.Laid) (h : c.Tended site wired)
    (operable : site.Operable wired c.unit st) (few : st.zoneCount≠everything)
    (hm : f.message=(allOffOf t st).message.onWire) :
    (c.serve f).2=.handled .zonesSet ∧ (c.serve f).1.plant.Cleared site c.unit st := by
  have same : c.site=site := congrArg Prod.snd h.place
  have here : c.Here c.unit st :=
    ⟨by rwa [same],by rw [same]; exact operable.station,operable.enabled,operable.isLocal⟩
  obtain ⟨done,_,off⟩ := here.stopEach 0
    (fun ch (hc : ch∈(allOffOf t st).channels) => mem_channels_allOffOf.mp hc) fun ch hc => by
      obtain ⟨o,ho,hw⟩ := operable.output (mem_channels_allOffOf.mp hc)
      exact ⟨o,ho,(h.accounted.wires o).trans hw⟩
  have moves : Plant.Moves c.site c.plant _
      (c.applyZones st 0 0 (allOffOf t st).channels).1.plant :=
    applyZones_moves _ (by rw [same]; exact h.accounted.idle)
  rw [same] at moves
  have granted := grant_allOff (c:=c) (t:=t)
    ⟨here.station,operable.enabled,operable.control⟩ operable.pos
  rw [if_neg few] at granted
  rw [serve_allOff hm,serveZonesSet_granted granted,if_pos done]
  constructor
  · exact congrArg (Outcome.handled ∘ Message.function) hm
  · rw [plant_of_still (still_acknowledge ..)]
    exact (moves.accounted laid h.accounted).cleared operable.station fun ch hc =>
      off ch (mem_channels_allOffOf.mpr hc)

/-- The request is refused, and nothing is turned off. -/
theorem serve_allOff_refused (usable : c.Usable .control st) (all : st.zoneCount=everything)
    (hm : f.message=(allOffOf t st).message.onWire) :
    (c.serve f).2=.rejected .zonesSet .illegalAddress ∧ (c.serve f).1.plant=c.plant := by
  have refused := grant_allOff (c:=c) (t:=t) usable (by rw [all]; decide)
  rw [if_pos all] at refused
  rw [serve_allOff hm,serveZonesSet_refused refused]
  constructor
  · exact congrArg (fun m => Outcome.rejected (Message.function m) .illegalAddress) hm
  · exact plant_of_still (still_reject ..)

end Controller

end Watering
