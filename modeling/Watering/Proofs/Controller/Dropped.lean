import Watering.Controller.Inbox
import Watering.Proofs.Controller.Refusal

namespace Watering

def Outcome.isDropped : Outcome → Bool
  | dropped _ => true
  | _ => false

namespace Controller

variable {σ : Type} (c : Controller σ) (f : Frame)

section Serve

variable [Carrier σ]

theorem isDropped_reject (e : Exception) (tell : Bool) :
    (c.reject f e tell).2.isDropped=false := rfl

theorem isDropped_acknowledge (flags : AckFlags) (report : Controller σ → Message) :
    (c.acknowledge f flags report).2.isDropped=false := rfl

theorem isDropped_serveZonesRead (first count : UInt8) :
    (c.serveZonesRead f first count).2.isDropped=false := by
  unfold serveZonesRead
  cases c.addressable? .status with
  | none => rfl
  | some st =>
    dsimp only
    cases resolveRange first count st.zoneCount <;> rfl

theorem isDropped_serveSensorsRead (first count : UInt8) :
    (c.serveSensorsRead f first count).2.isDropped=false := by
  unfold serveSensorsRead
  cases c.addressable? .status with
  | none => rfl
  | some st =>
    dsimp only
    cases resolveRange first count c.sensors.count <;> rfl

theorem isDropped_serveRegistersRead (first count : UInt8) :
    (c.serveRegistersRead f first count).2.isDropped=false := by
  unfold serveRegistersRead
  cases resolveRange first count (UInt8.ofNat (min c.registerContext.count 255)) <;> rfl

theorem isDropped_serveZonesSet (flags : AckFlags) (schedule first minutes count : UInt8)
    (mask : ZoneMask) :
    (c.serveZonesSet f flags schedule first minutes count mask).2.isDropped=false := by
  cases h : c.grant first count mask with
  | none =>
    rw [serveZonesSet_refused h]
    exact isDropped_reject ..
  | some g =>
    rw [serveZonesSet_granted h]
    split_ifs
    · exact isDropped_acknowledge ..
    · exact isDropped_reject ..

theorem isDropped_serveRegistersSet (flags : AckFlags) (first : UInt8) (values : List UInt16) :
    (c.serveRegistersSet f flags first values).2.isDropped=false := by
  unfold serveRegistersSet
  dsimp only
  split_ifs
  · exact isDropped_reject ..
  · split
    · exact isDropped_reject ..
    · exact isDropped_acknowledge ..

/-- A request that is served is handled or rejected. -/
theorem isDropped_serve : (c.serve f).2.isDropped=false := by
  obtain ⟨transaction,target,source,m⟩ := f
  cases m with
  | zonesRead => exact isDropped_serveZonesRead ..
  | zonesSet => exact isDropped_serveZonesSet ..
  | sensorsRead => exact isDropped_serveSensorsRead ..
  | registersRead => exact isDropped_serveRegistersRead ..
  | registersSet => exact isDropped_serveRegistersSet ..
  | eventMasterSet => exact isDropped_acknowledge ..
  | _ => rfl

end Serve

/-- A report of zones that is not believed: no enabled station has that name, or the one that has it
has fewer channels. -/
inductive Disbelieves (c : Controller σ) (f : Frame) : DropReason → Prop
  | stranger {service first count : UInt8} {mask : ZoneMask} :
    f.message=.zonesReport service first count mask → c.site.enabledStation? f.source=none →
      c.Disbelieves f (.unknownStation f.source)
  | range {service first count : UInt8} {mask : ZoneMask} {st : Station} :
    f.message=.zonesReport service first count mask →
      c.site.enabledStation? f.source=some st → st.zoneCount.toNat<first.toNat+count.toNat →
      c.Disbelieves f (.outOfRange .zonesReport)

variable {c f} {r : DropReason}

theorem consumeZones_dropped {source first count : UInt8} {mask : ZoneMask}
    (h : (c.consumeZones source first count mask).2=.dropped r) :
    (c.consumeZones source first count mask).1=c ∧
    (c.site.enabledStation? source=none ∧ r=.unknownStation source ∨
      ∃ st,c.site.enabledStation? source=some st ∧
        st.zoneCount.toNat<first.toNat+count.toNat ∧ r=.outOfRange .zonesReport) := by
  unfold consumeZones at h ⊢
  cases hs : c.site.enabledStation? source with
  | none =>
    rw [hs] at h
    exact ⟨rfl,Or.inl ⟨rfl,(Outcome.dropped.inj h).symm⟩⟩
  | some st =>
    rw [hs] at h
    dsimp only at h ⊢
    split_ifs at h ⊢ with range
    exact ⟨rfl,Or.inr ⟨st,rfl,range,(Outcome.dropped.inj h).symm⟩⟩

/-- What is taken in is dropped only if it is a report of zones that is not believed; by then it has
settled its transaction. -/
theorem consume_dropped (h : (c.consume f).2=.dropped r) :
    c.Disbelieves f r ∧
      (c.consume f).1=if f.transaction=0 then c else c.settle f.source f.transaction := by
  obtain ⟨transaction,target,source,m⟩ := f
  cases m with
  | zonesReport service first count mask =>
    set d := if transaction=0 then c else c.settle source transaction with hd
    have same : d.site=c.site := by
      rw [hd]
      split_ifs <;> rfl
    change (d.consumeZones source first count mask).2=_ at h
    obtain ⟨kept,why⟩ := consumeZones_dropped h
    rw [same] at why
    refine ⟨?_,kept⟩
    obtain ⟨hs,rfl⟩ | ⟨st,hs,range,rfl⟩ := why
    · exact .stranger rfl hs
    · exact .range rfl hs range
  | _ => cases h

variable [Carrier σ]

/-- A frame that is dropped was not let in, and changed nothing, or was taken in. -/
theorem process_dropped {bytes : List UInt8} (h : (c.process bytes).2=.dropped r) :
    (c.process bytes).1=c ∨ ∃ f,Frame.decode bytes=.ok f ∧ c.isAddressed f=true ∧
      c.role.consumes=true ∧ c.process bytes=c.consume f := by
  unfold process at h ⊢
  cases hf : Frame.decode bytes with
  | error e => exact Or.inl rfl
  | ok f =>
    rw [hf] at h
    dsimp only at h ⊢
    split_ifs at h ⊢ with away request serves consumes
    · exact Or.inl rfl
    · have served := c.isDropped_serve f
      rw [h] at served
      cases served
    · exact Or.inl rfl
    · exact Or.inr ⟨f,rfl,by simpa using away,consumes,rfl⟩
    · exact Or.inl rfl

/-- A frame that is dropped changes nothing, save that a report of zones which answers a transaction
and is not believed settles that transaction. -/
theorem dropped_settles_at_most {bytes : List UInt8} (h : (c.process bytes).2=.dropped r) :
    let d := (c.process bytes).1
    ({d with inFlight:=c.inFlight} : Controller σ)=c ∧
    (d=c ∨ ∃ f,Frame.decode bytes=.ok f ∧ c.isAddressed f=true ∧ c.role.consumes=true ∧
      c.Disbelieves f r ∧ f.transaction≠0 ∧ d=c.settle f.source f.transaction) := by
  intro d
  obtain same | ⟨f,hf,addressed,consumes,taken⟩ := process_dropped h
  · have same : d=c := same
    exact ⟨by rw [same],Or.inl same⟩
  rw [taken] at h
  obtain ⟨why,left'⟩ := consume_dropped h
  have left' : d=if f.transaction=0 then c else c.settle f.source f.transaction :=
    (congrArg Prod.fst taken).trans left'
  by_cases zero : f.transaction=0
  · rw [if_pos zero] at left'
    exact ⟨by rw [left'],Or.inl left'⟩
  · rw [if_neg zero] at left'
    exact ⟨by rw [left']; rfl,Or.inr ⟨f,hf,addressed,consumes,why,zero,left'⟩⟩

/-- A report of more channels than the orchard has, under the first request's transaction. -/
def tooWide : Frame := ⟨1,0,4,.zonesReport 1 1 2 ⟨[0]⟩⟩

theorem process_tooWide : Frame.decode tooWide.octets=.ok tooWide ∧
    ((startOrchard [{zone:=0,minutes:=1}]).process tooWide.octets).2=
      .dropped (.outOfRange .zonesReport) := by
  decide +kernel

theorem dropped_settles_at_most_orchard :
    let c := startOrchard [{zone:=0,minutes:=1}]
    let d := (c.process tooWide.octets).1
    (c.process tooWide.octets).2=.dropped (.outOfRange .zonesReport) ∧ d.zones=c.zones ∧
      d.valves=c.valves ∧ d.remote=c.remote ∧ d.registers=c.registers ∧
      d.eventMaster=c.eventMaster ∧ d.journal=c.journal ∧ d.link=c.link := by
  intro c d
  have h : (c.process tooWide.octets).2=.dropped (.outOfRange .zonesReport) := process_tooWide.2
  obtain ⟨same,_⟩ := dropped_settles_at_most h
  exact ⟨h,congrArg (·.zones) same,congrArg (·.valves) same,congrArg (·.remote) same,
    congrArg (·.registers) same,congrArg (·.eventMaster) same,congrArg (·.journal) same,
    congrArg (·.link) same⟩

/-- The report is dropped, and yet the request that it answers is no longer outstanding: when the
orchard then refuses it, the zone goes on waiting, which else would be off. -/
theorem dropped_report_settles :
    let c := startOrchard [{zone:=0,minutes:=1}]
    let d := (c.process tooWide.octets).1
    Config.orchard.Valid ∧ Frame.decode tooWide.octets=.ok tooWide ∧
      (c.process tooWide.octets).2=.dropped (.outOfRange .zonesReport) ∧
      c.inFlight=[⟨4,1,[0]⟩] ∧ d.inFlight=[] ∧
      (c.process firstRefusal.octets).1.zones.state 0=.off ∧
      (d.process firstRefusal.octets).1.zones.state 0=.starting 5 := by
  intro c d
  exact ⟨Config.orchard_valid,process_tooWide.1,process_tooWide.2,by decide +kernel,
    by decide +kernel,by decide +kernel,by decide +kernel⟩

end Controller

end Watering
