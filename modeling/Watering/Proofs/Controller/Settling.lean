import Watering.Proofs.Controller.Answer
import Watering.Proofs.Controller.Commanding
import Watering.Proofs.Controller.Takings

namespace Watering

/-- Master and station hold the same of a channel, and the master waits for nothing there. -/
def AgreeAt (mst sst : Station) (m s : ZoneBoard) (ch : UInt8) : Prop :=
  (m.state (mst.zoneOf ch)).isPending=false ∧
    (m.state (mst.zoneOf ch)).isOn=(s.state (sst.zoneOf ch)).isOn

theorem AgreeAt.of_same {mst sst : Station} {m m' s s' : ZoneBoard} {ch : UInt8}
    (h : AgreeAt mst sst m s ch) (hm : m'.state (mst.zoneOf ch)=m.state (mst.zoneOf ch))
    (hs : s'.state (sst.zoneOf ch)=s.state (sst.zoneOf ch)) : AgreeAt mst sst m' s' ch := by
  rw [AgreeAt,hm,hs]
  exact h

/-- The channels that a station has on may run, as far as its master knows. -/
def MayBeOn (site : Site) (mst sst : Station) (s : ZoneBoard) : Prop :=
  ∀ ch < mst.zoneCount,(s.state (sst.zoneOf ch)).isOn=true → ∃ z,site.MayRun (mst.zoneOf ch) z

namespace Controller

variable {σ : Type} {c d : Controller σ} {site : Site} {mst sst : Station} {far t : UInt8}
  {b : ZoneBoard} {m : Message}

/-- All that taking in an answer to a change of zones leaves as it is. -/
def root (c : Controller σ) : Role×Site×Registers×Option EventMaster×Link σ :=
  (c.role,c.site,c.registers,c.eventMaster,c.link)

theorem Leads.of_root (h : c.Leads site) (hr : d.root=c.root) (size : d.zones.size=c.zones.size)
    (idle : d.plant.Idle site) : d.Leads site where
  consumes := by
    rw [show d.role=c.role from congrArg (·.1) hr]
    exact h.consumes
  site_eq := (congrArg (·.2.1) hr : d.site=c.site).trans h.site_eq
  unit := (congrArg (·.unit) (congrArg (·.2.2.1) hr : d.registers=c.registers)).trans h.unit
  alone := (congrArg (·.2.2.2.1) hr : d.eventMaster=c.eventMaster).trans h.alone
  size := size.trans h.size
  idle := idle

theorem link_of_root (h : d.root=c.root) : d.link=c.link := congrArg (·.2.2.2.2) h

theorem root_consume (f : Frame) : (c.consume f).1.root=c.root := by
  obtain ⟨_,_,_,_,taken⟩ := c.consume_leaves f
  rw [taken]
  rfl

/-- The board once channels were confirmed one after the other. -/
theorem state_foldl_confirm {st : Station} (inj : ∀ i < st.zoneCount,∀ j < st.zoneCount,
      st.zoneOf i=st.zoneOf j → i=j) (mask : ZoneMask) {channels : List UInt8}
    (hch : ∀ ch∈channels,ch < st.zoneCount ∧ (st.zoneOf ch).toNat<b.size) :
    let b' := channels.foldl (fun b ch => b.modify (st.zoneOf ch) (·.confirm (mask.get ch))) b
    b'.size=b.size ∧ (∀ z,(∀ ch∈channels,z≠st.zoneOf ch) → b'.state z=b.state z) ∧
    ∀ ch∈channels,b'.state (st.zoneOf ch)=if mask.get ch then .running else .off := by
  obtain ⟨others,own⟩ := ZoneBoard.status?_foldl_confirm st.zoneOf mask.get (b:=b) (l:=channels)
    fun i hi j hj => inj i (hch i hi).1 j (hch j hj).1
  refine ⟨foldl_same (g:=ZoneBoard.size) (fun _ _ => ZoneBoard.size_modify ..) _ _,
    fun z hz => ?_,fun ch hm => ?_⟩
  · rw [ZoneBoard.state,others z hz,ZoneBoard.state]
  · obtain ⟨x,hx⟩ := Option.isSome_iff_exists.mp (ZoneBoard.status?_isSome.mpr (hch ch hm).2)
    rw [ZoneBoard.state,own ch hm,hx]
    cases mask.get ch <;> rfl

/-- Zones that waited are off, all others as they were. -/
theorem state_foldl_forceOff (b : ZoneBoard) (zones : List UInt8) (z : UInt8) :
    let b' := zones.foldl (fun b i => if (b.state i).isPending then b.forceOff i else b) b
    b'.size=b.size ∧
    b'.state z=if z∈zones ∧ (b.state z).isPending=true then .off else b.state z := by
  refine ⟨foldl_same (g:=ZoneBoard.size) (fun b i => ?_) zones b,?_⟩
  · split_ifs
    · exact ZoneBoard.size_forceOff ..
    · rfl
  · rw [ZoneBoard.state,ZoneBoard.status?_foldl_forceOff]
    split_ifs <;> rfl

/-- An answer after which master and station agree, if the master has some zones pending. -/
inductive Settles (mst sst : Station) (pending : Option (List UInt8)) (m s : ZoneBoard) :
    Message → Prop
  | report {service first count : UInt8} {mask : ZoneMask} :
    first.toNat+count.toNat ≤ mst.zoneCount.toNat →
    (∀ ch∈span first count,mask.get ch=(s.state (sst.zoneOf ch)).isOn) →
    (∀ ch < mst.zoneCount,ch∉span first count → AgreeAt mst sst m s ch) →
    Settles mst sst pending m s (.zonesReport service first count mask)
  | refusal {zones : List UInt8} {e : Exception} : pending=some zones →
    (∀ ch < mst.zoneCount,AgreeAt mst sst m s ch ∨ (s.state (sst.zoneOf ch)).isOn=false ∧
      (m.state (mst.zoneOf ch)=.off ∨
        mst.zoneOf ch∈zones ∧ (m.state (mst.zoneOf ch)).isPending=true)) →
    Settles mst sst pending m s (.responseError Function.zonesSet.code e)

theorem Leads.confirm (h : c.Leads site) (laid : site.Laid)
    (hs : site.enabledStation? far=some mst) (on : MayBeOn site mst sst b) {first count : UInt8}
    {mask : ZoneMask} (range : first.toNat+count.toNat ≤ mst.zoneCount.toNat)
    (same : ∀ ch∈span first count,mask.get ch=(b.state (sst.zoneOf ch)).isOn)
    (others : ∀ ch < mst.zoneCount,ch∉span first count → AgreeAt mst sst c.zones b ch)
    (root : d.root=c.root) (zones : d.zones=(span first count).foldl
      (fun b ch => b.modify (mst.zoneOf ch) (·.confirm (mask.get ch))) c.zones) :
    d.Leads site ∧ ∀ ch < mst.zoneCount,AgreeAt mst sst d.zones b ch := by
  have hst := (Site.station?_of_enabledStation? hs).1
  have inj : ∀ i < mst.zoneCount,∀ j < mst.zoneCount,mst.zoneOf i=mst.zoneOf j → i=j :=
    fun i hi j hj => Station.zoneOf_inj (laid.fits hst) hi hj
  have hch : ∀ ch∈span first count,ch < mst.zoneCount ∧ (mst.zoneOf ch).toNat<c.zones.size := by
    intro ch hm
    have hlt : ch < mst.zoneCount := lt_of_mem_span hm range
    obtain ⟨z,hz,_⟩ := laid.zone_of hst hlt
    rw [h.size]
    exact ⟨hlt,(List.getElem?_eq_some_iff.mp hz).1⟩
  obtain ⟨size,outside,inside⟩ := state_foldl_confirm inj mask hch
  rw [←zones] at size outside inside
  refine ⟨h.of_root root size fun i hi => ?_,fun ch hc => ?_⟩
  · by_cases hm : ∃ ch∈span first count,i=mst.zoneOf ch
    · obtain ⟨ch,hm,rfl⟩ := hm
      refine on ch (hch ch hm).1 ?_
      rw [←same ch hm]
      by_contra k
      exact hi ((inside ch hm).trans (if_neg k))
    · refine h.idle i ?_
      rwa [show d.plant.zones.state i=_ from outside i fun ch hch e => hm ⟨ch,hch,e⟩] at hi
  · by_cases hm : ch∈span first count
    · rw [AgreeAt,inside ch hm,←same ch hm]
      cases mask.get ch <;> exact ⟨rfl,rfl⟩
    · refine (others ch hc hm).of_same (outside _ fun j hj e => hm ?_) rfl
      rw [inj ch hc j (hch j hj).1 e]
      exact hj

/-- A master that takes in a settling answer agrees with its station. -/
theorem Leads.consume (h : c.Leads site) (laid : site.Laid)
    (hs : site.enabledStation? far=some mst) (on : MayBeOn site mst sst b)
    (hm : Settles mst sst (c.outstanding? far t) c.zones b m) (target : UInt8) :
    (c.consume ⟨t,target,far,m⟩).1.Leads site ∧ (c.consume ⟨t,target,far,m⟩).1.link=c.link ∧
    ∀ ch < mst.zoneCount,AgreeAt mst sst (c.consume ⟨t,target,far,m⟩).1.zones b ch := by
  have root := c.root_consume ⟨t,target,far,m⟩
  cases hm with
  | @report service first count mask range same others =>
    have own : c.site.enabledStation? far=some mst := by
      rw [h.site_eq]
      exact hs
    obtain ⟨leads,agree⟩ := h.confirm laid hs on range same others root
      (zones_reported rfl own range)
    exact ⟨leads,link_of_root root,agree⟩
  | @refusal zones e pending each =>
    have refused : (c.consume ⟨t,target,far,.responseError Function.zonesSet.code e⟩).1.zones=
        zones.foldl (fun b i => if (b.state i).isPending then b.forceOff i else b) c.zones := by
      rw [zones_refused rfl,pending,Option.getD_some]
    have board := state_foldl_forceOff c.zones zones
    rw [←refused] at board
    refine ⟨h.of_root root (board 0).1 fun i hi => ?_,link_of_root root,fun ch hc => ?_⟩
    · refine h.idle i fun hoff => hi ((board i).2.trans ?_)
      rw [show c.zones.state i=.off from hoff,ite_self]
    · have state := (board (mst.zoneOf ch)).2
      obtain hagree | ⟨hoff,hwait⟩ := each ch hc
      · refine hagree.of_same (state.trans (if_neg fun k => ?_)) rfl
        rw [hagree.1] at k
        exact absurd k.2 (by decide)
      · have now : (c.consume ⟨t,target,far,.responseError Function.zonesSet.code e⟩).1.zones.state
            (mst.zoneOf ch)=.off := by
          rw [state]
          obtain hz | hz := hwait
          · rw [hz,ite_self]
          · exact if_pos hz
        rw [AgreeAt,now,hoff]
        exact ⟨rfl,rfl⟩

end Controller

end Watering
