import Watering.Proofs.Controller.Refusal

namespace Watering

/-- Zone `i` is a channel of station `id`. -/
def Site.HasZone (s : Site) (id i : UInt8) : Prop :=
  ∃ st ch,s.station? id=some st ∧ ch < st.zoneCount ∧ st.zoneOf ch=i

/-- The same is known of all stations but one. -/
structure RemoteView.SameBut (id : UInt8) (u v : RemoteView) : Prop where
  sensors {k : UInt8} : k≠id → v.sensors[k]?=u.sensors[k]?
  registers {k : UInt8} : k≠id → v.registers[k]?=u.registers[k]?
  eventMasters {k : UInt8} : k≠id → v.eventMasters[k]?=u.eventMasters[k]?
  discovered {k : UInt8} : k≠id → v.discovered.contains k=u.discovered.contains k
  pings {k : UInt8} : k≠id → v.pings[k]?=u.pings[k]?
  errors {k : UInt8} : k≠id → v.errors[k]?=u.errors[k]?

namespace RemoteView

variable {u : RemoteView} {id k : UInt8}

theorem SameBut.refl (id : UInt8) (u : RemoteView) : SameBut id u u :=
  ⟨fun _ => rfl,fun _ => rfl,fun _ => rfl,fun _ => rfl,fun _ => rfl,fun _ => rfl⟩

theorem getElem?_insert_ne {β : Type} (t : Std.TreeMap UInt8 β) (h : k≠id) (v : β) :
    (t.insert id v)[k]?=t[k]? := by
  rw [Std.TreeMap.getElem?_insert,if_neg]
  simpa using fun e => h e.symm

/-- Values are stored under the station that told them. -/
theorem getElem?_putAll_ne (t : Std.TreeMap UInt8 (Std.TreeMap UInt8 UInt16)) (h : k≠id)
    (first : UInt8) (values : List UInt16) : (putAll t id first values)[k]?=t[k]? :=
  List.foldlRecOn values.zipIdx _ (motive:=fun t' => t'[k]?=t[k]?) rfl
    fun t' ih _ _ => (getElem?_insert_ne t' h _).trans ih

end RemoteView

namespace Controller

variable {σ : Type} {c d : Controller σ} {site : Site}

/-- Every outstanding change is of zones of its own station. -/
def Homed (c : Controller σ) : Prop := ∀ o∈c.inFlight,∀ i∈o.zones,c.site.HasZone o.station i

theorem hasZone_of_commanded {id i : UInt8} {m : Message} (h : i∈c.commandedZones id m) :
    c.site.HasZone id i := by
  unfold commandedZones at h
  split at h
  · split at h
    · cases h
    · next st hs =>
      obtain ⟨ch,hch,rfl⟩ := List.mem_map.mp h
      have below := (List.mem_filter.mp hch).2
      rw [Bool.and_eq_true,decide_eq_true_eq] at below
      exact ⟨st,ch,hs,below.1,rfl⟩
  · cases h

theorem Homed.of_inFlight (h : c.Homed) (site : d.site=c.site)
    (inFlight : ∀ o∈d.inFlight,o∈c.inFlight) : d.Homed := by
  intro o ho
  rw [site]
  exact h o (inFlight o ho)

theorem Homed.outstanding (h : c.Homed) {id t i : UInt8}
    (hi : i∈(c.outstanding? id t).getD []) : c.site.HasZone id i := by
  unfold outstanding? at hi
  cases ho : c.inFlight.find? fun o => o.station==id && o.transaction==t with
  | none =>
    rw [ho] at hi
    cases hi
  | some o =>
    have key := List.find?_some ho
    rw [Bool.and_eq_true,beq_iff_eq] at key
    rw [ho] at hi
    rw [←key.1]
    exact h o (List.mem_of_find?_eq_some ho) i hi

section Actions

variable [Carrier σ] {E : ZoneBoard → ZoneBoard → Prop}

theorem Homed.request (h : c.Homed) (id : UInt8) (m : Message) : (c.request id m).1.Homed := by
  obtain ⟨_,_,inFlight⟩ := c.request_parts id m
  have site : (c.request id m).1.site=c.site := site_of_still (still_request ..)
  intro o ho
  rw [inFlight] at ho
  rw [site]
  split_ifs at ho
  · obtain rfl | ho := List.mem_cons.mp ho
    · exact fun i hi => hasZone_of_commanded hi
    · exact h o (List.mem_filter.mp ho).1
  · exact h o ho

theorem Stride.homed (s : Stride E c d) (h : c.Homed) : d.Homed := by
  cases s with
  | aside site _ _ inFlight => exact h.of_inFlight site fun o ho => by rwa [inFlight] at ho
  | ticked => exact h
  | heard => exact h
  | sent t hf =>
    exact h.of_inFlight (site_of_still (still_sendFrame ..)) fun o ho => by
      rwa [inFlight_sendFrame] at ho
  | asked id m => exact h.request id m
  | settled p => exact h.of_inFlight rfl fun o ho => (List.mem_filter.mp ho).1
  | edited => exact h

theorem Strides.homed (s : Strides E c d) (h : c.Homed) : d.Homed := by
  induction s with
  | refl => exact h
  | tail _ s ih => exact s.homed ih

theorem Homed.act (h : c.Homed) (a : Action σ) : (c.act a).Homed := by
  by_cases ha : ∃ x s t,a=.operate (.outside x s t)
  · obtain ⟨x,s,t,rfl⟩ := ha
    exact h
  obtain rfl | strides | ⟨_,strides⟩ := c.act_cases fun x s t k => ha ⟨x,s,t,k⟩
  · exact Strides.homed c.strides_tick h
  · exact Strides.homed strides h
  · exact Strides.homed strides h

theorem Homed.actAll (h : c.Homed) (actions : List (Action σ)) : (c.actAll actions).Homed :=
  List.foldlRecOn actions _ (motive:=Homed) h fun _ h a _ => h.act a

end Actions

/-- All but the board and the journal. -/
def apart (c : Controller σ) : Controller σ := {c with zones:=⟨[]⟩,journal:={}}

/-- What a frame from station `x` may do: change that station's zones, what is known of it and what is
outstanding with it, and write to the journal. -/
structure Isolates (x : UInt8) (c d : Controller σ) : Prop where
  zones {i : UInt8} : ¬c.site.HasZone x i → d.zones.status? i=c.zones.status? i
  remote : c.remote.SameBut x d.remote
  inFlight : (d.inFlight.filter fun o => o.station != x)=c.inFlight.filter fun o => o.station != x
  rest : {d.apart with remote:={},inFlight:=[]}={c.apart with remote:={},inFlight:=[]}

theorem inFlight_settle (x t : UInt8) : ((c.settle x t).inFlight.filter fun o => o.station != x)=
    c.inFlight.filter fun o => o.station != x := by
  rw [settle,List.filter_filter]
  refine List.filter_congr fun o _ => ?_
  by_cases e : o.station=x <;> simp [e]

/-- What a frame from station `x` may take in, where `u` is known. -/
def Taking.Concerns (x : UInt8) (u : RemoteView) : Taking → Prop
  | settled station _ => station=x
  | knows remote => u.SameBut x remote
  | noted _ _ => True

theorem takings_concern (f : Frame) : ∀ t∈c.takings f,t.Concerns f.source c.remote := by
  have same := RemoteView.SameBut.refl f.source c.remote
  obtain ⟨transaction,target,x,m⟩ := f
  cases m with
  | zonesReport =>
    unfold takings
    dsimp only
    split_ifs
    · nofun
    · exact List.forall_mem_singleton.mpr rfl
  | sensorsReport first values =>
    refine List.forall_mem_cons.mpr ⟨?_,List.forall_mem_map.mpr fun _ _ => trivial⟩
    exact {same with sensors:=fun hk => RemoteView.getElem?_putAll_ne _ hk first values}
  | registersReport first values =>
    refine List.forall_mem_singleton.mpr ?_
    exact {same with registers:=fun hk => RemoteView.getElem?_putAll_ne _ hk first values}
  | eventMasterReport events master address =>
    refine List.forall_mem_singleton.mpr ?_
    exact {same with eventMasters:=fun hk => RemoteView.getElem?_insert_ne _ hk _}
  | scanReply =>
    refine List.forall_mem_singleton.mpr {same with discovered:=fun {k} hk => ?_}
    have hk : x≠k := hk.symm
    rw [Std.TreeSet.contains_insert]
    simp [hk]
  | pingReply cookie =>
    refine List.forall_mem_singleton.mpr ?_
    exact {same with pings:=fun hk => RemoteView.getElem?_insert_ne _ hk _}
  | responseOk => exact List.forall_mem_singleton.mpr rfl
  | responseError code e =>
    refine List.forall_mem_cons.mpr ⟨?_,List.forall_mem_cons.mpr ⟨trivial,?_⟩⟩
    · exact {same with errors:=fun hk => RemoteView.getElem?_insert_ne _ hk _}
    · split_ifs
      · exact List.forall_mem_singleton.mpr rfl
      · nofun
  | _ => nofun

/-- What concerns one station leaves what is known of others and outstanding with them. -/
theorem taken_concerns (f : Frame) : c.remote.SameBut f.source (c.taken f).remote ∧
    ((c.taken f).inFlight.filter fun o => o.station != f.source)=
      c.inFlight.filter fun o => o.station != f.source := by
  refine List.foldlRecOn (motive:=fun d : Controller σ => c.remote.SameBut f.source d.remote ∧
    (d.inFlight.filter fun o => o.station != f.source)=
      c.inFlight.filter fun o => o.station != f.source) (c.takings f) Taking.act
    ⟨.refl _ _,rfl⟩ fun d ⟨known,others⟩ t ht => ?_
  have concerns := c.takings_concern f t ht
  cases t with
  | settled station transaction =>
    obtain rfl : station=f.source := concerns
    exact ⟨known,(d.inFlight_settle f.source transaction).trans others⟩
  | knows remote => exact ⟨concerns,others⟩
  | noted e => exact ⟨known,others⟩

theorem zones_of_others (laid : c.site.Laid) (homed : c.Homed) (f : Frame) {i : UInt8}
    (hi : ¬c.site.HasZone f.source i) : (c.consume f).1.zones.status? i=c.zones.status? i := by
  obtain same | ⟨_,first,count,mask,st,_,hs,range,edited⟩ | ⟨e,hm⟩ := c.zones_consume_cases f
  · rw [same]
  · have hs := (Site.station?_of_enabledStation? hs).1
    have below : ∀ ch∈span first count,ch < st.zoneCount := fun ch hch => lt_of_mem_span hch range
    have others := (ZoneBoard.status?_foldl_confirm st.zoneOf mask.get (b:=c.zones)
      fun i hi j hj => Station.zoneOf_inj (laid.fits hs) (below i hi) (below j hj)).1
    rw [edited]
    exact others i fun ch hch e => hi ⟨st,ch,hs,below ch hch,e.symm⟩
  · rw [zones_refused hm,ZoneBoard.status?_foldl_forceOff,if_neg]
    exact fun k => hi (homed.outstanding k.1)

theorem consume_isolates (laid : c.site.Laid) (homed : c.Homed) (f : Frame) :
    c.Isolates f.source (c.consume f).1 where
  zones := zones_of_others laid homed f
  remote := by
    rw [remote_consume]
    exact (c.taken_concerns f).1
  inFlight := by
    rw [inFlight_consume]
    exact (c.taken_concerns f).2
  rest := by
    obtain ⟨_,_,_,_,taken⟩ := c.consume_leaves f
    rw [taken]
    rfl

/-- A report of zones is applied to all of its channels, and to no other zone, if it is handled, and not
at all otherwise; an answer that refuses turns off zones that wait; nothing else touches the board. -/
def Applies (site : Site) (x : UInt8) (outcome : Watering.Outcome) (b b' : ZoneBoard) : Message → Prop
  | .zonesReport _ first count mask =>
    (outcome=.handled .zonesReport → ∃ st,site.enabledStation? x=some st ∧
      (∀ ch∈span first count,ch < st.zoneCount ∧
        b'.state (st.zoneOf ch)=if mask.get ch then .running else .off) ∧
      ∀ i,(∀ ch∈span first count,i≠st.zoneOf ch) → b'.status? i=b.status? i) ∧
    (outcome≠.handled .zonesReport → b'=b)
  | .responseError _ _ => ∀ i,b'.status? i=b.status? i ∨
      (b.state i).isPending=true ∧ b'.status? i=some {}
  | _ => b'=b

theorem Applies.unchanged {x : UInt8} {outcome : Watering.Outcome} {b : ZoneBoard} {m : Message}
    (h : outcome≠.handled .zonesReport) : Applies site x outcome b b m := by
  cases m with
  | zonesReport => exact ⟨fun k => absurd k h,fun _ => rfl⟩
  | responseError => exact fun _ => Or.inl rfl
  | _ => rfl

/-- The board of a controller that was switched on at a site has every channel of it. -/
theorem Fits.zoneOf_lt (laid : site.Laid) (h : Fits site c) {id ch : UInt8} {st : Station}
    (hs : site.station? id=some st) (hc : ch < st.zoneCount) :
    (st.zoneOf ch).toNat<c.zones.size := by
  obtain ⟨z,hz,_⟩ := laid.zone_of hs hc
  have list : (st.zoneOf ch).toNat<site.zones.length := (List.getElem?_eq_some_iff.mp hz).1
  have hl := laid.length_le
  rw [h.size,Site.zoneCount,lengthCapped,Nat.min_eq_left hl,
    UInt8.toNat_ofNat_of_lt' (Nat.lt_succ_of_le hl)]
  exact list

/-- A report is handled if an enabled station of that name has the channels, and changes no zone
otherwise. -/
theorem consume_report {f : Frame} {service first count : UInt8} {mask : ZoneMask}
    (hm : f.message=.zonesReport service first count mask) :
    (∃ st,c.site.enabledStation? f.source=some st ∧ first.toNat+count.toNat ≤ st.zoneCount.toNat ∧
      (c.consume f).2=.handled .zonesReport) ∨
    (c.consume f).2≠.handled .zonesReport ∧ (c.consume f).1.zones=c.zones := by
  obtain ⟨transaction,target,x,m⟩ := f
  obtain rfl : m=_ := hm
  set d := if transaction=0 then c else c.settle x transaction with hd
  have site : d.site=c.site := by
    rw [hd]
    split_ifs <;> rfl
  have outcome : (c.consume ⟨transaction,target,x,.zonesReport service first count mask⟩).2=
      (d.consumeZones x first count mask).2 := rfl
  rw [outcome,zones_consume]
  unfold consumeZones news
  rw [site]
  cases c.site.enabledStation? x with
  | none => exact .inr ⟨nofun,rfl⟩
  | some st =>
    dsimp only
    split_ifs with beyond
    · exact .inr ⟨nofun,rfl⟩
    · exact .inl ⟨st,rfl,Nat.not_lt.mp beyond,rfl⟩

theorem Fits.report_applies (laid : site.Laid) (h : Fits site c) {f : Frame}
    {service first count : UInt8} {mask : ZoneMask}
    (hm : f.message=.zonesReport service first count mask) :
    Applies site f.source (c.consume f).2 c.zones (c.consume f).1.zones
      (.zonesReport service first count mask) := by
  obtain ⟨st,hs,range,handled⟩ | ⟨refused,same⟩ := c.consume_report hm
  swap
  · rw [same]
    exact .unchanged refused
  refine ⟨fun _ => ⟨st,by rwa [h.site_eq] at hs,?_⟩,fun k => absurd handled k⟩
  rw [zones_reported hm hs range]
  rw [h.site_eq] at hs
  have hst := (Site.station?_of_enabledStation? hs).1
  have below : ∀ ch∈span first count,ch < st.zoneCount := fun ch hch => lt_of_mem_span hch range
  have inj : ∀ i < st.zoneCount,∀ j < st.zoneCount,st.zoneOf i=st.zoneOf j → i=j :=
    fun i hi j hj => Station.zoneOf_inj (laid.fits hst) hi hj
  have others := (ZoneBoard.status?_foldl_confirm st.zoneOf mask.get (b:=c.zones)
    fun i hi j hj => inj i (below i hi) j (below j hj)).1
  obtain ⟨_,_,told⟩ := state_foldl_confirm (b:=c.zones) inj mask
    fun ch hch => ⟨below ch hch,h.zoneOf_lt laid hst (below ch hch)⟩
  exact ⟨fun ch hch => ⟨below ch hch,told ch hch⟩,others⟩

theorem Fits.consume_applies (laid : site.Laid) (h : Fits site c) (f : Frame) :
    Applies site f.source (c.consume f).2 c.zones (c.consume f).1.zones f.message := by
  have other (hm : c.news f=[]) : (c.consume f).1.zones=c.zones := by
    rw [zones_consume,hm]
    rfl
  cases hm : f.message with
  | zonesReport => exact h.report_applies laid hm
  | responseError code e =>
    intro i
    obtain same | ⟨_,_,_,_,_,hm',_⟩ | ⟨e',hm'⟩ := c.zones_consume_cases f
    · exact .inl (by rw [same])
    · cases hm.symm.trans hm'
    · rw [zones_refused hm',ZoneBoard.status?_foldl_forceOff]
      split_ifs with waits
      · exact .inr ⟨waits.2,rfl⟩
      · exact .inl rfl
  | _ => exact other (by rw [news,hm])

section Process

variable [Carrier σ]

/-- A frame that asks for nothing is taken in, or dropped. -/
theorem process_answered {bytes : List UInt8} {f : Frame} (hf : Frame.decode bytes=.ok f)
    (answer : f.function.isRequest=false) :
    c.process bytes=c.consume f ∨ ∃ why,c.process bytes=(c,.dropped why) := by
  unfold process
  rw [hf]
  simp only [answer,Bool.false_eq_true,if_false]
  split_ifs
  · exact Or.inr ⟨_,rfl⟩
  · exact Or.inl rfl
  · exact Or.inr ⟨_,rfl⟩

/-- In every state that a controller reaches, a frame that asks for nothing concerns none but its
sender; a report is applied as a whole or not at all, and a refusal turns off only what waits. -/
theorem answers_concern_their_sender {cfg : Config} (hv : cfg.Valid) (role : Role) (carrier : σ)
    (valves : ValveBoard) (sensors : SensorBank) (clock : Instant) (actions : List (Action σ))
    {bytes : List UInt8} {f : Frame} (hf : Frame.decode bytes=.ok f)
    (answer : f.function.isRequest=false) :
    let c := (start role carrier cfg.site valves sensors clock).actAll actions
    c.Isolates f.source (c.process bytes).1 ∧
    Applies cfg.site f.source (c.process bytes).2 c.zones (c.process bytes).1.zones f.message := by
  intro c
  have fits : Fits cfg.site c := (fits_start role carrier cfg.site valves sensors clock).actAll actions
  have homed : c.Homed := Homed.actAll (by nofun) actions
  have laid : c.site.Laid := by
    rw [fits.site_eq]
    exact hv.laid
  obtain taken | ⟨why,dropped⟩ := c.process_answered hf answer
  · rw [taken]
    exact ⟨consume_isolates laid homed f,fits.consume_applies hv.laid f⟩
  · rw [dropped]
    exact ⟨⟨fun _ => rfl,.refl ..,rfl,rfl⟩,.unchanged nofun⟩

end Process

/-- The orchard's report that of two zones the first is on. -/
def firstOn : Frame := ⟨1,0,4,.zonesReport 1 0 2 (.single 0)⟩

/-- Both zones were asked for, and the report settles both. -/
theorem answers_concern_their_sender_orchard :
    let c := (start .requester ({kind:=.short} : ScriptedRadio) Config.orchard.site {} {}
      ⟨0,0⟩).actAll [.operate (.startZone {zone:=0,minutes:=1}),
        .operate (.startZone {zone:=1,minutes:=1})]
    let d := (c.process firstOn.octets).1
    Frame.decode firstOn.octets=.ok firstOn ∧ (c.zones.state 0).isPending=true ∧
      (c.zones.state 1).isPending=true ∧ d.zones.state 0=.running ∧ d.zones.state 1=.off ∧
      c.Isolates 4 d := by
  intro c d
  have hf : Frame.decode firstOn.octets=.ok firstOn := by decide
  have handled : (c.process firstOn.octets).2=.handled .zonesReport := by decide +kernel
  have zones : ∀ st,Config.orchard.site.enabledStation? 4=some st →
      st.zoneOf 0=0 ∧ st.zoneOf 1=1 := by
    intro st hs
    have hs := (Site.station?_of_enabledStation? hs).1
    rw [Config.orchard_valid.station?_site] at hs
    obtain rfl := Option.some.inj hs
    decide
  obtain ⟨isolates,applies⟩ := answers_concern_their_sender Config.orchard_valid .requester
    ({kind:=.short} : ScriptedRadio) {} {} ⟨0,0⟩ [.operate (.startZone {zone:=0,minutes:=1}),
      .operate (.startZone {zone:=1,minutes:=1})] hf rfl
  obtain ⟨st,hs,told,_⟩ := applies.1 handled
  obtain ⟨zero,one⟩ := zones st hs
  have first := (told 0 (by decide)).2
  have second := (told 1 (by decide)).2
  rw [zero] at first
  rw [one] at second
  exact ⟨hf,by decide +kernel,by decide +kernel,first,second,isolates⟩

end Controller

end Watering
