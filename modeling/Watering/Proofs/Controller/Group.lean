import Watering.Proofs.Config.Contents
import Watering.Proofs.Controller.Halt
import Watering.Proofs.Controller.Stationed
import Watering.Proofs.Radio.Attempted

namespace Watering

namespace Site

/-- A station elsewhere that is in service. -/
def away? (s : Site) (id : UInt8) : Option Station :=
  (s.enabledStation? id).filter (!·.network.isLocal)

/-- Zone `i` is listed under station `id`. -/
def Lists (s : Site) (id i : UInt8) : Prop := ∃ z,s.zone? i=some z ∧ z.station=id

theorem away?_eq_some {s : Site} {id : UInt8} {st : Station} :
    s.away? id=some st ↔ s.enabledStation? id=some st ∧ st.network.isLocal=false := by
  simp [away?,Option.filter_eq_some_iff]

end Site

/-- The zone is off, and so is its output if it has one here. -/
def Plant.IsShut (site : Site) (i : UInt8) (p : Plant) : Prop :=
  p.zones.state i=.off ∧ ∀ o,site.feed? i=some o → p.valves.isOn o=false

namespace Controller

variable {σ : Type} {c d e : Controller (Attempted σ)} {id k i : UInt8} {site : Site} {st : Station}
  {l : List (UInt8×UInt8)}

/-- The changes of zones that a station was sent, each with whether the carrier took it, newest
first. -/
def changesTo (c : Controller (Attempted σ)) (id : UInt8) : List (Frame×Bool) :=
  c.link.carrier.frames.filter fun x => x.1.function==.zonesSet && x.1.target==id

theorem changesTo_congr (link : d.link=c.link) (id : UInt8) : d.changesTo id=c.changesTo id := by
  rw [changesTo,link,changesTo]

section Sending

variable [Carrier σ]

theorem frames_attempt (c : Controller (Attempted σ)) (t : Destination) {f : Frame}
    {bytes : List UInt8} (h : f.encode=.ok bytes) : (c.sendFrame t f).1.link.carrier.frames=
      ({f with message:=f.message.onWire},(c.sendFrame t f).2)::c.link.carrier.frames := by
  obtain ⟨x,sent,inner⟩ := c.link.attempts_send t bytes
  simp only [sendFrame,h,Attempted.frames]
  rw [sent,List.filterMap_cons,inner,Frame.decode_encode h]
  rfl

/-- Other frames, and changes for other stations, are no changes for a station. -/
theorem changesTo_sendFrame_ne (c : Controller (Attempted σ)) (t : Destination) {f : Frame}
    (h : f.function≠.zonesSet ∨ f.target≠id) : (c.sendFrame t f).1.changesTo id=c.changesTo id := by
  cases he : f.encode with
  | error e =>
    unfold sendFrame
    rw [he]
  | ok bytes =>
    rw [changesTo,frames_attempt c t he,List.filter_cons_of_neg,changesTo]
    rw [Bool.and_eq_true,beq_iff_eq,beq_iff_eq,not_and_or]
    exact h.imp_left fun hf k => hf ((Message.function_onWire _).symm.trans k)

theorem changesTo_request_ne (h : k≠id) (m : Message) :
    (c.request k m).1.changesTo id=c.changesTo id := by
  obtain ⟨_,link,_⟩ := c.request_parts k m
  rw [changesTo_congr link,changesTo_sendFrame_ne _ _ (Or.inr h)]
  rfl

/-- A change that fits in a frame is given to the carrier. -/
theorem changesTo_request {m : Message} (hm : m.function=.zonesSet)
    (fits : m.payload.length ≤ maxPayload) : (c.request id m).1.changesTo id=
      (⟨c.nextTransaction,id,c.unit,m.onWire⟩,(c.request id m).2)::c.changesTo id := by
  obtain ⟨ok,link,_⟩ := c.request_parts id m
  have encoded := Frame.encode_eq (f:=⟨c.nextTransaction,id,c.unit,m⟩) fits
  rw [changesTo_congr link,ok,changesTo,frames_attempt _ _ encoded,List.filter_cons_of_pos]
  · rfl
  · have own : m.onWire.function=.zonesSet := (Message.function_onWire m).trans hm
    simpa [Frame.function] using own

theorem changesTo_pushZones (c : Controller (Attempted σ)) (k id : UInt8) :
    (c.pushZones k).changesTo id=c.changesTo id := by
  unfold pushZones
  split
  · split_ifs
    · exact changesTo_sendFrame_ne _ _ (Or.inl (by nofun))
    · rfl
  · rfl

/-- The turn of a station changes nothing elsewhere but at that station. -/
theorem changesTo_turnOffStation (h : k≠id ∨ c.site.away? k=none) :
    (c.turnOffStation k l).changesTo id=c.changesTo id := by
  cases hs : c.site.enabledStation? k with
  | none =>
    rw [c.turnOffStation_out hs]
    exact foldl_same (g:=fun d : Controller (Attempted σ) => d.changesTo id)
      (f:=fun d (x : UInt8×UInt8) => d.failSafeOff x.1)
      (fun d x => changesTo_congr (d.failSafeOff_silent x.1).1 id) l c
  | some st =>
    have stopped (d : Controller (Attempted σ)) (b : Bool) :
        ((d.stopZones (l.map (·.1)) b).pushZones k).changesTo id=d.changesTo id :=
      (changesTo_pushZones ..).trans (changesTo_congr (d.stopZones_silent _ b).1 id)
    rw [c.turnOffStation_eq hs]
    by_cases hn : st.network.isLocal=true
    · rw [if_pos hn,stopped]
      exact changesTo_congr (c.setValves_silent st l).1 id
    · have other : k≠id := h.resolve_right fun none => by
        rw [Site.away?_eq_some.mpr ⟨hs,Bool.eq_false_iff.mpr hn⟩] at none
        cases none
      rw [if_neg hn]
      split_ifs
      · rw [stopped]
        exact changesTo_request_ne other _
      · exact changesTo_request_ne other _

end Sending

/-- Zone `i` is on, and listed under station `id`. -/
def RunsAt (c : Controller (Attempted σ)) (id i : UInt8) : Prop :=
  c.site.Lists id i ∧ (c.zones.state i).isOn=true

/-- A request to turn off the zones of a station that are on: its mask has their channels and no
others. -/
structure Names (c : Controller (Attempted σ)) (id : UInt8) (st : Station) (f : Frame) : Prop where
  mask : ∃ mask,f.message=.zonesSet .standard 0 0 0 st.zoneCount mask ∧
    ∀ ch,mask.get ch=true ↔ ch < st.zoneCount ∧ c.RunsAt id (st.zoneOf ch)
  zones {i : UInt8} : i∈c.commandedZones id f.message ↔ c.RunsAt id i

theorem mem_activeOf (size : c.zones.size≤256) {x : UInt8×UInt8} :
    x∈c.activeOf id ↔ (c.zones.state x.1).isOn=true ∧
      ∃ z,c.site.zone? x.1=some z ∧ z.station=id ∧ z.channel=x.2 := by
  refine ⟨fun hx => ?_,fun ⟨on,z,hz,hid,hch⟩ => ?_⟩
  · obtain ⟨active,zone⟩ := c.zone_of_activeOf hx
    exact ⟨(ZoneBoard.mem_active size).mp active,zone⟩
  · have found : (x.1,z)∈c.zones.active.filterMap fun i => (c.site.zone? i).map (i,·) :=
      List.mem_filterMap.mpr ⟨x.1,(ZoneBoard.mem_active size).mpr on,by rw [hz,Option.map_some]⟩
    exact List.mem_map.mpr ⟨(x.1,z),List.mem_filter.mpr ⟨found,by simpa using hid⟩,
      Prod.ext rfl hch⟩

theorem runsAt_iff (size : c.zones.size≤256) : c.RunsAt id i ↔ ∃ x∈c.activeOf id,x.1=i := by
  constructor
  · rintro ⟨⟨z,hz,hid⟩,on⟩
    exact ⟨(i,z.channel),(mem_activeOf size).mpr ⟨on,z,hz,hid,rfl⟩,rfl⟩
  · rintro ⟨x,hx,rfl⟩
    obtain ⟨on,z,hz,hid,_⟩ := (mem_activeOf size).mp hx
    exact ⟨⟨z,hz,hid⟩,on⟩

section Named

variable (laid : c.site.Laid) (size : c.zones.size≤256)
  (channels : ∀ i,(c.zones.state i).isOn=true → c.site.IsChannel i)
  (hs : c.site.station? id=some st)
include laid size channels hs

/-- What is on at a station is a channel of it, if whatever is on is a channel of some station. -/
theorem channel_of_activeOf {x : UInt8×UInt8} (hx : x∈c.activeOf id) :
    x.2 < st.zoneCount ∧ st.zoneOf x.2=x.1 := by
  obtain ⟨on,z,hz,hid,hch⟩ := (mem_activeOf size).mp hx
  obtain ⟨k,s,ch,hk,hc,hi⟩ := channels x.1 on
  obtain ⟨y,hy,hyk,hych⟩ := laid.zone_of hk hc
  rw [hi,hz] at hy
  obtain rfl := Option.some.inj hy
  rw [←hyk,hid,hs] at hk
  obtain rfl := Option.some.inj hk
  rw [←hch,hych]
  exact ⟨hc,hi⟩

theorem mem_channels_activeOf {ch : UInt8} : ch∈(c.activeOf id).map (·.2) ↔
    ch < st.zoneCount ∧ c.RunsAt id (st.zoneOf ch) := by
  have own {x : UInt8×UInt8} (hx : x∈c.activeOf id) :=
    channel_of_activeOf laid size channels hs hx
  rw [runsAt_iff size,List.mem_map]
  constructor
  · rintro ⟨x,hx,rfl⟩
    exact ⟨(own hx).1,x,hx,(own hx).2.symm⟩
  · rintro ⟨hc,x,hx,e⟩
    exact ⟨x,hx,Station.zoneOf_inj (laid.fits hs) (own hx).1 hc ((own hx).2.trans e)⟩

/-- The one request of a station names what is on there, also on the wire. -/
theorem names_offRequest (busy : c.activeOf id≠[]) {f : Frame}
    (message : f.message=(offRequest st (c.activeOf id)).onWire) : c.Names id st f := by
  have channel {ch : UInt8} : ch∈(c.activeOf id).map (·.2) ↔
      ch < st.zoneCount ∧ c.RunsAt id (st.zoneOf ch) := mem_channels_activeOf laid size channels hs
  have masked {ch : UInt8} : (offOf 0 st (c.activeOf id)).mask.get ch=true ↔
      ch∈(c.activeOf id).map (·.2) := get_offOf
  have selected : c.commandedZones id f.message=
      (offOf 0 st (c.activeOf id)).channels.map st.zoneOf := by
    obtain ⟨x,hx⟩ := List.exists_mem_of_ne_nil _ busy
    have hc := (channel_of_activeOf laid size channels hs hx).1
    have pos : 1 ≤ st.zoneCount := UInt8.le_iff_toNat_le.mpr
      (Nat.succ_le_of_lt (Nat.zero_lt_of_lt (UInt8.lt_iff_toNat_lt.mp hc)))
    rw [message,commandedZones_onWire]
    exact commandedZones_eq (q:=offOf 0 st (c.activeOf id)) hs (ZonesRequest.within_off pos)
  refine ⟨⟨_,message,fun ch => ?_⟩,fun {i} => ?_⟩
  · rw [←channel,←masked]
    constructor
    · intro h
      rw [ZoneMask.get_fit] at h
      split_ifs at h
      exact h
    · intro h
      obtain ⟨hc,_⟩ := channel.mp (get_offOf.mp h)
      exact (ZoneMask.get_fit_of_mem _ _ _ _ (mem_span_zero.mpr hc)).trans h
  · rw [selected,List.mem_map]
    constructor
    · rintro ⟨ch,hch,rfl⟩
      exact (channel.mp (mem_channels_offOf.mp hch).2).2
    · intro runs
      obtain ⟨x,hx,rfl⟩ := (runsAt_iff size).mp runs
      obtain ⟨hc,hi⟩ := channel_of_activeOf laid size channels hs hx
      exact ⟨x.2,mem_channels_offOf.mpr ⟨hc,List.mem_map_of_mem hx⟩,hi⟩

end Named

theorem isShut_failSafeOff {τ : Type} {c : Controller τ} {z : Zone} (hz : c.site.zone? i=some z) :
    (c.failSafeOff i).plant.IsShut c.site i := by
  rw [c.plant_failSafeOff hz]
  refine ⟨?_,fun o ho => ?_⟩
  · dsimp only
    split_ifs with off
    · exact off
    · exact ZoneBoard.state_forceOff_self ..
  · rw [ValveBoard.isOn_release,←Site.feed?_eq hz,ho,beq_self_eq_true,Bool.not_true,Bool.and_false]

theorem Closing.isShut {τ : Type} {c d : Controller τ} (h : Closing l c d) (hi : i∉l.map (·.1))
    (shut : c.plant.IsShut site i) : d.plant.IsShut site i := by
  have same : d.plant.zones.status? i=c.plant.zones.status? i := h.zones hi
  refine ⟨?_,fun o ho => h.outputs (shut.2 o ho)⟩
  rw [ZoneBoard.state,same]
  exact shut.1

/-- The turn of another station. -/
structure Beside (site : Site) (id : UInt8) (c d : Controller (Attempted σ)) : Prop where
  zones {i : UInt8} : site.Lists id i → d.zones.status? i=c.zones.status? i
  outputs {o : UInt16} : c.valves.isOn o=false → d.valves.isOn o=false
  changes : d.changesTo id=c.changesTo id

/-- The turn of a station that has these zones on, each with its channel. -/
inductive Turned (site : Site) (id : UInt8) (l : List (UInt8×UInt8))
    (c d : Controller (Attempted σ)) : Prop
  | here : site.away? id=none → d.changesTo id=c.changesTo id →
    (∀ x∈l,d.plant.IsShut site x.1) → Turned site id l c d
  | asked (st : Station) (f : Frame) (taken : Bool) : site.away? id=some st →
    f.message=(offRequest st l).onWire → d.changesTo id=(f,taken)::c.changesTo id →
    (∀ x∈l,d.zones.status? x.1=
      if taken then (c.zones.status? x.1).map (·.stop false) else c.zones.status? x.1) →
    Turned site id l c d

theorem Beside.refl (site : Site) (id : UInt8) (c : Controller (Attempted σ)) :
    Beside site id c c := ⟨fun _ => rfl,fun h => h,rfl⟩

theorem Beside.trans (h : Beside site id c d) (h' : Beside site id d e) : Beside site id c e :=
  ⟨fun hi => (h'.zones hi).trans (h.zones hi),fun ho => h'.outputs (h.outputs ho),
    h'.changes.trans h.changes⟩

theorem Beside.turned (hl : ∀ x∈l,site.Lists id x.1) (h : Beside site id c d)
    (h' : Turned site id l d e) : Turned site id l c e := by
  cases h' with
  | here none changes off => exact .here none (changes.trans h.changes) off
  | asked st f taken away message changes zones =>
    refine .asked st f taken away message (by rw [changes,h.changes]) fun x hx => ?_
    rw [zones x hx,h.zones (hl x hx)]

theorem Turned.beside (hl : ∀ x∈l,site.Lists id x.1) (h : Turned site id l c d)
    (h' : Beside site id d e) : Turned site id l c e := by
  cases h with
  | here none changes off =>
    refine .here none (h'.changes.trans changes) fun x hx => ⟨?_,fun o ho => ?_⟩
    · have same : e.plant.zones.status? x.1=d.plant.zones.status? x.1 := h'.zones (hl x hx)
      rw [ZoneBoard.state,same]
      exact (off x hx).1
    · exact h'.outputs ((off x hx).2 o ho)
  | asked st f taken away message changes zones =>
    refine .asked st f taken away message (by rw [h'.changes,changes]) fun x hx => ?_
    rw [h'.zones (hl x hx),zones x hx]

variable [Carrier σ]

theorem beside_turnOffStation (hk : k≠id) (hl : ∀ x∈l,c.site.Lists k x.1) :
    Beside c.site id c (c.turnOffStation k l) := by
  have closing : Closing l c (c.turnOffStation k l) :=
    closing_turnOffStation fun x hx => (hl x hx).imp fun _ => And.left
  refine ⟨fun {i} hi => closing.zones fun m => ?_,closing.outputs,
    changesTo_turnOffStation (Or.inl hk)⟩
  obtain ⟨x,hx,rfl⟩ := List.mem_map.mp m
  obtain ⟨z,hz,rfl⟩ := hi
  obtain ⟨y,hy,he⟩ := hl x hx
  exact hk (he.symm.trans (congrArg Zone.station (Option.some.inj (hy.symm.trans hz))))

/-- A station out of service, or unknown: its zones fail safe, one after the other. -/
theorem shut_of_out (hs : c.site.enabledStation? id=none) (hl : ∀ x∈l,c.site.Lists id x.1)
    {x : UInt8×UInt8} (hx : x∈l) : (c.turnOffStation id l).plant.IsShut c.site x.1 := by
  have own (d : Controller (Attempted σ)) (hd : d.site=c.site) :
      (d.failSafeOff x.1).plant.IsShut c.site x.1 := by
    obtain ⟨z,hz,_⟩ := hl x hx
    rw [←hd] at hz ⊢
    exact isShut_failSafeOff hz
  rw [c.turnOffStation_out hs]
  refine foldl_brings (I:=fun d : Controller (Attempted σ) => d.site=c.site)
    (P:=fun d => d.plant.IsShut c.site x.1) hx
    (fun d y _ hd => (site_of_setting (setting_failSafeOff d y.1)).trans hd) own
    (fun d y hy hd shut => ?_) rfl
  by_cases e : x.1=y.1
  · rw [←e]
    exact own d hd
  · obtain ⟨z,hz,_⟩ := hl y hy
    rw [←hd] at hz
    have spared : Closing [y] d (d.failSafeOff y.1) :=
      closing_failSafeOff List.mem_cons_self hz
    exact spared.isShut (by simpa using e) shut

/-- A station that is wired here: its outputs are closed, and then its zones stopped. -/
theorem shut_of_local (hs : c.site.enabledStation? id=some st) (hn : st.network.isLocal=true)
    (hl : ∀ x∈l,∃ z,c.site.zone? x.1=some z ∧ z.station=id ∧ z.channel=x.2) {x : UInt8×UInt8}
    (hx : x∈l) : (c.turnOffStation id l).plant.IsShut c.site x.1 := by
  rw [c.turnOffStation_eq hs,if_pos hn,plant_of_still (still_pushZones ..),plant_stopZones]
  refine ⟨?_,fun o ho => ?_⟩
  · rw [ZoneBoard.state,ZoneBoard.status?_foldl_stop,if_pos (List.mem_map_of_mem hx)]
    generalize ZoneBoard.status? _ x.1=y
    cases y <;> rfl
  · obtain ⟨z,hz,rfl,hch⟩ := hl x hx
    rw [Site.feed?_of_enabledStation? hz hs,if_pos hn,hch] at ho
    have mem : some o∈l.map fun x => st.output? x.2 := List.mem_map.mpr ⟨x,hx,ho⟩
    refine (outputs_setValves c st l o).trans ?_
    rw [List.contains_iff_mem.mpr mem,Bool.not_true,Bool.and_false]

theorem fits_offRequest (st : Station) (l : List (UInt8×UInt8)) :
    (offRequest st l).payload.length ≤ maxPayload := (offOf 0 st l).fits

/-- A station elsewhere is sent one request for all of the zones. -/
theorem asked_turnOffStation (hs : c.site.enabledStation? id=some st)
    (hn : st.network.isLocal=false) : Turned c.site id l c (c.turnOffStation id l) := by
  have sent : (c.request id (offRequest st l)).1.changesTo id=_ :=
    changesTo_request rfl (fits_offRequest st l)
  have same := c.zones_request id (offRequest st l)
  have stop (d : Controller (Attempted σ)) : let e := (d.stopZones (l.map (·.1)) false).pushZones id
      e.changesTo id=d.changesTo id ∧
      e.zones=(l.map (·.1)).foldl (fun b i => b.stop i false) d.zones :=
    ⟨(changesTo_pushZones ..).trans (changesTo_congr (d.stopZones_silent _ false).1 id),
      (zones_of_still (still_pushZones ..)).trans (zones_stopZones ..)⟩
  refine .asked st ⟨c.nextTransaction,id,c.unit,(offRequest st l).onWire⟩
    (c.request id (offRequest st l)).2 (Site.away?_eq_some.mpr ⟨hs,hn⟩) rfl ?_ fun x hx => ?_
  · rw [c.turnOffStation_eq hs,hn,if_neg Bool.false_ne_true,←sent]
    split_ifs
    · exact (stop _).1
    · rfl
  · rw [c.turnOffStation_eq hs,hn,if_neg Bool.false_ne_true]
    split_ifs
    · rw [(stop _).2,ZoneBoard.status?_foldl_stop,if_pos (List.mem_map_of_mem hx),same]
    · rw [same]

theorem turned_turnOffStation
    (hl : ∀ x∈l,∃ z,c.site.zone? x.1=some z ∧ z.station=id ∧ z.channel=x.2) :
    Turned c.site id l c (c.turnOffStation id l) := by
  have listed : ∀ x∈l,c.site.Lists id x.1 := fun x hx =>
    (hl x hx).imp fun _ h => ⟨h.1,h.2.1⟩
  cases hs : c.site.enabledStation? id with
  | none =>
    have none : c.site.away? id=none := by rw [Site.away?,hs,Option.filter_none]
    exact .here none (changesTo_turnOffStation (Or.inr none)) fun x hx => shut_of_out hs listed hx
  | some st =>
    cases hn : st.network.isLocal with
    | true =>
      have none : c.site.away? id=none := by
        rw [Site.away?,hs,Option.filter_some,if_neg (by simp [hn])]
      exact .here none (changesTo_turnOffStation (Or.inr none))
        fun x hx => shut_of_local hs hn hl hx
    | false => exact asked_turnOffStation hs hn

/-- Each station has its turn, if a zone of it is on, and no other turn concerns it. -/
theorem turned_turnOffAll (id : UInt8) :
    (c.activeOf id=[] → Beside c.site id c c.turnOffAll) ∧
    (c.activeOf id≠[] → Turned c.site id (c.activeOf id) c c.turnOffAll) := by
  have zones (k : UInt8) : ∀ x∈c.activeOf k,
      ∃ z,c.site.zone? x.1=some z ∧ z.station=k ∧ z.channel=x.2 :=
    fun x hx => (c.zone_of_activeOf hx).2
  have listed (k : UInt8) : ∀ x∈c.activeOf k,c.site.Lists k x.1 := fun x hx =>
    (zones k x hx).imp fun _ h => ⟨h.1,h.2.1⟩
  have pruned : Beside c.site id c {c with zones:=c.pruned} :=
    ⟨fun ⟨z,hz,_⟩ => status?_pruned hz,fun h => h,rfl⟩
  obtain ⟨ids,nodup,busy,heq⟩ := c.turnOffAll_eq
  have all := foldl_once (A:=Beside c.site id) (B:=Turned c.site id (c.activeOf id))
    (I:=fun d => d.site=c.site) (f:=fun d k => d.turnOffStation k (c.activeOf k)) (s:=id)
    (fun x _ => .refl c.site id x) (fun hxy hyz => hxy.trans hyz)
    (fun hxy hyz => hxy.turned (listed id) hyz) (fun hxy hyz => hxy.beside (listed id) hyz)
    (fun d k hd hk => by
      refine ⟨?_,(site_of_setting (setting_turnOffStation ..)).trans hd⟩
      rw [←hd]
      exact beside_turnOffStation hk (hd ▸ listed k))
    (fun _ d hd => by
      refine ⟨?_,(site_of_setting (setting_turnOffStation ..)).trans hd⟩
      rw [←hd]
      exact turned_turnOffStation (hd ▸ zones id))
    nodup (x:={c with zones:=c.pruned}) rfl
  rw [if_congr (busy id) rfl rfl,←heq] at all
  refine ⟨fun none => ?_,fun some => ?_⟩
  · rw [if_neg (not_not.mpr none)] at all
    exact pruned.trans all
  · rw [if_pos some] at all
    exact pruned.turned (listed id) all

/-- What a stop of all zones that are on comes to at one station. -/
inductive GroupStop (c d : Controller (Attempted σ)) (id : UInt8) : Prop
  /-- Nothing is on there. -/
  | idle : (∀ i,¬c.RunsAt id i) → d.changesTo id=c.changesTo id → GroupStop c d id
  /-- The station is wired here, or is out of service or unknown. -/
  | here : c.site.away? id=none → d.changesTo id=c.changesTo id →
    (∀ i,c.RunsAt id i → d.plant.IsShut c.site i) → GroupStop c d id
  | taken (st : Station) (f : Frame) : c.site.away? id=some st → c.Names id st f →
    d.changesTo id=(f,true)::c.changesTo id →
    (∀ i,c.RunsAt id i → d.zones.state i=.stopping confirmTicks) → GroupStop c d id
  | refused (st : Station) (f : Frame) : c.site.away? id=some st → c.Names id st f →
    d.changesTo id=(f,false)::c.changesTo id →
    (∀ i,c.RunsAt id i → d.zones.status? i=c.zones.status? i) → GroupStop c d id

theorem groupStop_turnOffAll (laid : c.site.Laid) (size : c.zones.size≤256)
    (channels : ∀ i,(c.zones.state i).isOn=true → c.site.IsChannel i) (id : UInt8) :
    GroupStop c c.turnOffAll id := by
  obtain ⟨idle,turn⟩ := c.turned_turnOffAll id
  by_cases busy : c.activeOf id=[]
  · refine .idle (fun i hi => ?_) (idle busy).changes
    obtain ⟨x,hx,_⟩ := (runsAt_iff size).mp hi
    rw [busy] at hx
    cases hx
  · cases turn busy with
    | here none changes off =>
      refine .here none changes fun i hi => ?_
      obtain ⟨x,hx,rfl⟩ := (runsAt_iff size).mp hi
      exact off x hx
    | asked st f taken away message changes zones =>
      have hs := (Site.station?_of_enabledStation? (Site.away?_eq_some.mp away).1).1
      have names := names_offRequest laid size channels hs busy message
      cases taken with
      | true =>
        refine .taken st f away names changes fun i hi => ?_
        obtain ⟨x,hx,rfl⟩ := (runsAt_iff size).mp hi
        obtain ⟨s,status,state⟩ := ZoneBoard.exists_status (ZoneState.ne_off hi.2)
        have on : s.state≠.off := state ▸ ZoneState.ne_off hi.2
        rw [ZoneBoard.state,zones x hx,if_pos rfl,status,Option.map_some]
        simp [ZoneStatus.stop,on]
      | false =>
        refine .refused st f away names changes fun i hi => ?_
        obtain ⟨x,hx,rfl⟩ := (runsAt_iff size).mp hi
        exact zones x hx

/-- Everything is off after a stop of everything, whatever became of the requests. -/
theorem off_stopAll {τ : Type} [Carrier τ] (c : Controller τ) :
    (∀ i,c.stopAll.zones.state i=.off) ∧ ∀ o,c.stopAll.valves.isOn o=false := by
  have plant := plant_of_still c.still_stopAll
  have board : c.stopAll.zones=c.zones.allOff := congrArg Plant.zones plant
  have valves : c.stopAll.valves=c.valves.allOff := congrArg Plant.valves plant
  rw [board,valves]
  exact ⟨fun _ => ZoneBoard.state_allOff ..,fun _ => ValveBoard.isOn_allOff ..⟩

/-- In every state that a controller reaches, whatever the carrier takes: a stop of all zones that
are on turns off those of stations that are wired here, out of service or unknown; each other
station with zones on is sent one request that names these, and they are stopping if it was taken
and as they were if not. A stop of everything turns off all zones and all outputs. -/
theorem group_stops_are_complete {cfg : Config} (hv : cfg.Valid) (role : Role)
    (carrier : Attempted σ) (valves : ValveBoard) (sensors : SensorBank) (clock : Instant)
    (actions : List (Action (Attempted σ))) :
    let c := (start role carrier cfg.site valves sensors clock).actAll actions
    (∀ i,(c.zones.state i).isOn=true → ∃ id,c.RunsAt id i) ∧
    (∀ id,GroupStop c c.turnOffAll id) ∧
    (∀ i,(c.zones.state i).isOn=false → c.turnOffAll.zones.status? i=c.zones.status? i) ∧
    (∀ i,c.stopAll.zones.state i=.off) ∧ ∀ o,c.stopAll.valves.isOn o=false := by
  intro c
  have fits : Fits cfg.site c :=
    (fits_start role carrier cfg.site valves sensors clock).actAll actions
  have laid : c.site.Laid := by
    rw [fits.site_eq]
    exact hv.laid
  have size : c.zones.size≤256 := by
    rw [fits.size]
    exact Nat.le_of_lt cfg.site.zoneCount.toNat_lt
  have channels (i : UInt8) (on : (c.zones.state i).isOn=true) : c.site.IsChannel i := by
    rw [fits.site_eq]
    exact isChannel_of_reached hv role carrier valves sensors clock actions (ZoneState.ne_off on)
  refine ⟨fun i on => ?_,groupStop_turnOffAll laid size channels,fun i => status?_turnOffAll size,
    c.off_stopAll⟩
  obtain ⟨id,st,ch,hs,hc,rfl⟩ := channels i on
  obtain ⟨z,hz,hid,_⟩ := laid.zone_of hs hc
  exact ⟨id,⟨z,hz,hid⟩,on⟩

/-- A garden that is wired here and trees elsewhere, both on; the carrier refuses to tell the trees
to stop. -/
theorem group_stops_are_complete_farm :
    let c := (start .gateway (⟨{kind:=.short,verdict:=(·==0)},[]⟩ : Attempted ScriptedRadio)
      Config.farm.site (.ofOutputs [0,1]) {} ⟨0,0⟩).actAll
        [.operate (.startZone {zone:=0,minutes:=1}),.operate (.startZone {zone:=3,minutes:=1})]
    Config.farm.Valid ∧ c.RunsAt 0 0 ∧ c.RunsAt 4 3 ∧ c.site.feed? 0=some 0 ∧
    c.valves.isOn 0=true ∧ c.turnOffAll.plant.IsShut c.site 0 ∧
    c.turnOffAll.zones.status? 3=c.zones.status? 3 ∧
    ∃ st f,c.Names 4 st f ∧ c.turnOffAll.changesTo 4=(f,false)::c.changesTo 4 := by
  intro c
  have listed (id i : UInt8) (h : (c.site.zone? i).map (·.station)=some id) : c.site.Lists id i :=
    Option.map_eq_some_iff.mp h
  have garden : c.RunsAt 0 0 := ⟨listed 0 0 (by decide +kernel),by decide +kernel⟩
  have trees : c.RunsAt 4 3 := ⟨listed 4 3 (by decide +kernel),by decide +kernel⟩
  have wired : (c.site.away? 0).isSome=false := by decide +kernel
  have apart : (c.site.away? 4).isSome=true := by decide +kernel
  have refused : (c.turnOffAll.zones.state 3).isOn=true := by decide +kernel
  obtain ⟨_,stop,_⟩ := group_stops_are_complete Config.farm_valid .gateway
    (⟨{kind:=.short,verdict:=(·==0)},[]⟩ : Attempted ScriptedRadio) (.ofOutputs [0,1]) {} ⟨0,0⟩
    [.operate (.startZone {zone:=0,minutes:=1}),.operate (.startZone {zone:=3,minutes:=1})]
  have shut : c.turnOffAll.plant.IsShut c.site 0 := by
    cases stop 0 with
    | idle none => exact absurd garden (none 0)
    | here _ _ off => exact off 0 garden
    | taken st _ away => simp [show c.site.away? 0=some st from away] at wired
    | refused st _ away => simp [show c.site.away? 0=some st from away] at wired
  have kept : c.turnOffAll.zones.status? 3=c.zones.status? 3 ∧
      ∃ st f,c.Names 4 st f ∧ c.turnOffAll.changesTo 4=(f,false)::c.changesTo 4 := by
    cases stop 4 with
    | idle none => exact absurd trees (none 3)
    | here absent => simp [show c.site.away? 4=none from absent] at apart
    | taken _ _ _ _ _ stopping =>
      rw [show c.turnOffAll.zones.state 3=_ from stopping 3 trees] at refused
      cases refused
    | refused st f _ names sent same => exact ⟨same 3 trees,st,f,names,sent⟩
  exact ⟨Config.farm_valid,garden,trees,by decide +kernel,by decide +kernel,shut,kept⟩

end Controller

end Watering
