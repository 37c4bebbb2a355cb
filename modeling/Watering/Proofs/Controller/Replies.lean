import Watering.Proofs.Config.Outputs
import Watering.Proofs.Controller.Grounds
import Watering.Proofs.Frame.Canonical
import Watering.Proofs.Frame.Fidelity
import Watering.Proofs.Radio.Logged

namespace Watering

namespace Message

/-- Which answers the sender of a change wants; other requests have no flags. -/
def flags? : Message → Option AckFlags
  | zonesSet flags .. | registersSet flags .. | eventMasterSet flags .. => some flags
  | _ => none

/-- A flag of a change; a request without flags has it if `otherwise`. -/
def asks (m : Message) (flag : AckFlags) (otherwise : Bool) : Bool :=
  (m.flags?.map (·.contains flag)).getD otherwise

/-- The message fits in a frame. -/
def fits (m : Message) : Bool := m.payload.length ≤ maxPayload

theorem fits_iff (m : Message) : m.fits=true ↔ ¬m.Overfull := by
  rw [fits,decide_eq_true_eq,overfull_iff,Nat.not_lt]

end Message

namespace Controller

variable {σ : Type} {c d : Controller σ} {f : Frame}

/-- The report that a request is answered with. -/
def report? (c : Controller σ) : Message → Option Message
  | .zonesRead first count | .zonesSet _ _ first _ count _ =>
    (c.site.station? c.unit).map fun st =>
      c.zonesReport st first (expand first count st.zoneCount)
  | .sensorsRead first count =>
    some (.sensorsReport first ((span first (expand first count c.sensors.count)).map
      c.sensors.read))
  | .registersRead first count =>
    some (c.registersReport first (expand first count c.registerCount))
  | .registersSet _ first values => some (c.registersReport first (UInt8.ofNat values.length))
  | .eventMasterRead | .eventMasterSet .. => some c.eventMasterReport
  | .ping cookie => some (.pingReply cookie)
  | .scan => some .scanReply
  | _ => none

/-- The answers to a request in order, given what it was refused for if it was. Refusals are told to
who reads, or asks for them; reports to who reads, or asks for them; short responses to who asks. -/
def answers (c : Controller σ) (m : Message) : Option Exception → List Message
  | some e => if m.asks .error true then [.responseError m.function.code e] else []
  | none => (if m.asks .report true then (c.report? m).toList else [])++
    if m.asks .brief false then [.responseOk m.function.code] else []

/-- Reports depend neither on the link nor on the journal. -/
theorem report?_of_still {τ : Type} {e : Controller τ} (h : e.still=c.still) :
    e.report?=c.report? := by
  have site : e.site=c.site := congrArg (·.1.site) h
  have zones : e.zones=c.zones := congrArg (·.2.zones) h
  have registers : e.registers=c.registers := congrArg (·.1.registers) h
  have sensors : e.sensors=c.sensors := congrArg (·.1.sensors) h
  have eventMaster : e.eventMaster=c.eventMaster := congrArg (·.1.eventMaster) h
  have clock : e.clock=c.clock := congrArg (·.1.clock) h
  funext m
  unfold report?
  cases m <;> simp only [zonesReport,registersReport,registerContext,registerCount,
    eventMasterReport,unit,now,site,zones,registers,sensors,eventMaster,clock]

theorem answers_of_still (h : d.still=c.still) : d.answers=c.answers := by
  funext m refusal
  simp only [answers,report?_of_still h]

/-- What becomes of a request. -/
def verdict (f : Frame) : Option Exception → Outcome
  | some e => .rejected f.function e
  | none => .handled f.function

variable [Carrier σ]

/-- What does not fit is not sent. -/
theorem reply_eq_self {m : Message} (long : ¬m.fits=true) : c.reply f m=c := by
  have : maxPayload < m.payload.length := by simpa [Message.fits] using long
  unfold reply sendFrame
  rw [Frame.encode,if_pos this]

/-- Answer a request with several messages in order. -/
def answerAll (c : Controller σ) (f : Frame) (ms : List Message) : Controller σ :=
  ms.foldl (fun c m => c.reply f m) c

theorem still_answerAll (ms : List Message) : (c.answerAll f ms).still=c.still := by
  induction ms generalizing c with
  | nil => rfl
  | cons m ms ih => exact (ih (c:=c.reply f m)).trans (still_reply ..)

/-- Nothing is sent until the request is decided, and then its answers are. -/
def Decides (c : Controller σ) (f : Frame) (x : Controller σ×Outcome) : Prop :=
  ∃ refusal,(∀ e,refusal=some e ↔ c.Refuses f.message e) ∧
    ∃ d : Controller σ,d.link=c.link ∧
      x=(d.answerAll f (d.answers f.message refusal),verdict f refusal)

theorem decides_refused {e : Exception} (h : c.Refuses f.message e) (link : d.link=c.link) :
    c.Decides f (d.reject f e (f.message.asks .error true)) := by
  refine ⟨some e,fun e' => ⟨fun k => Option.some.inj k ▸ h,fun k => congrArg some (h.unique k)⟩,?_⟩
  unfold reject
  simp only [answers]
  split_ifs
  · exact ⟨d.record _,link,rfl⟩
  · exact ⟨d,link,rfl⟩
  · exact ⟨d.record _,link,rfl⟩
  · exact ⟨d,link,rfl⟩

theorem decides_granted (h : ∀ e,¬c.Refuses f.message e) (link : d.link=c.link)
    {x : Controller σ×Outcome}
    (hx : x=(d.answerAll f (d.answers f.message none),.handled f.function)) : c.Decides f x :=
  ⟨none,fun e => ⟨nofun,fun k => absurd k (h e)⟩,d,link,hx⟩

theorem decides_acknowledged {flags : AckFlags} {report : Controller σ → Message}
    (h : ∀ e,¬c.Refuses f.message e) (link : d.link=c.link) (hf : f.message.flags?=some flags)
    (hr : d.report? f.message=some (report d)) : c.Decides f (d.acknowledge f flags report) := by
  have asks (flag : AckFlags) (b : Bool) : f.message.asks flag b=flags.contains flag := by
    rw [Message.asks,hf]
    rfl
  refine decides_granted h link ?_
  unfold acknowledge
  simp only [answers,asks,hr]
  cases flags.contains .report <;> cases flags.contains .brief <;> rfl

theorem asks_of_flags?_none {m : Message} (hf : m.flags?=none) (flag : AckFlags) (b : Bool) :
    m.asks flag b=b := by
  rw [Message.asks,hf]
  rfl

theorem decides_told {e : Exception} (hf : f.message.flags?=none) (h : c.Refuses f.message e) :
    c.Decides f (c.reject f e true) := by
  have decides := decides_refused h (rfl : c.link=c.link)
  rwa [asks_of_flags?_none hf] at decides

theorem decides_replied {m : Message} (hf : f.message.flags?=none)
    (hr : c.report? f.message=some m) (h : ∀ e,¬c.Refuses f.message e) :
    c.Decides f ((c.reply f m).handle f) := by
  refine decides_granted h (rfl : c.link=c.link) ?_
  simp only [answers,asks_of_flags?_none hf,hr]
  rfl

omit [Carrier σ] in
theorem Usable.unique {a b : Access} {st st' : Station} (h : c.Usable a st) (h' : c.Usable b st') :
    st=st' := Option.some.inj (h.1.symm.trans h'.1)

section Reads

variable {first count : UInt8}

theorem decides_zonesRead (hm : f.message=.zonesRead first count) :
    c.Decides f (c.serveZonesRead f first count) := by
  obtain ⟨transaction,target,source,m⟩ := f
  obtain rfl : m=_ := hm
  unfold serveZonesRead
  cases ha : c.addressable? .status with
  | none => exact decides_told rfl fun k => addressable?_eq_none.mp ha (k.imp fun _ k => k.1)
  | some st =>
    have usable : c.Usable .status st := addressable?_eq_some.mp ha
    dsimp only
    by_cases hr : Within first count st.zoneCount
    · rw [resolveRange_within hr]
      refine decides_replied rfl (by unfold report?; rw [usable.1]; rfl) fun e k => ?_
      cases e with
      | illegalAddress => exact k ⟨st,usable,hr⟩
      | _ => cases k
    · rw [resolveRange_without hr]
      refine decides_told rfl ?_
      rintro ⟨st',usable',hr'⟩
      rw [usable'.unique usable] at hr'
      exact hr hr'

theorem decides_sensorsRead (hm : f.message=.sensorsRead first count) :
    c.Decides f (c.serveSensorsRead f first count) := by
  obtain ⟨transaction,target,source,m⟩ := f
  obtain rfl : m=_ := hm
  unfold serveSensorsRead
  cases ha : c.addressable? .status with
  | none => exact decides_told rfl fun k => addressable?_eq_none.mp ha k.1
  | some st =>
    have usable : c.Usable .status st := addressable?_eq_some.mp ha
    dsimp only
    by_cases hr : Within first count c.sensors.count
    · rw [resolveRange_within hr]
      refine decides_replied rfl rfl fun e k => ?_
      cases e with
      | illegalAddress => exact k ⟨⟨st,usable⟩,hr⟩
      | _ => cases k
    · rw [resolveRange_without hr]
      exact decides_told rfl fun k => hr k.2

theorem decides_registersRead (hm : f.message=.registersRead first count) :
    c.Decides f (c.serveRegistersRead f first count) := by
  obtain ⟨transaction,target,source,m⟩ := f
  obtain rfl : m=_ := hm
  by_cases hr : Within first count c.registerCount
  · rw [c.serveRegistersRead_within _ hr]
    refine decides_replied rfl rfl fun e k => ?_
    cases e with
    | illegalAddress => exact k hr
    | _ => cases k
  · rw [c.serveRegistersRead_without _ hr]
    exact decides_told rfl hr

end Reads

theorem decides_zonesSet (laid : c.site.Laid) (unit : c.unit=c.site.unit) {flags : AckFlags}
    {schedule first minutes count : UInt8} {mask : ZoneMask}
    (hm : f.message=.zonesSet flags schedule first minutes count mask) :
    c.Decides f (c.serveZonesSet f flags schedule first minutes count mask) := by
  obtain ⟨transaction,target,source,m⟩ := f
  obtain rfl : m=_ := hm
  by_cases granted : ∃ st,c.Commandable first count st
  · obtain ⟨st,h⟩ := granted
    have here := h.1.here laid unit
    have range : expand first count st.zoneCount=count := expand_of_ne h.2.1
    have below : ∀ ch∈(span first count).filter mask.get,ch < st.zoneCount := fun ch hc =>
      h.2.2.lt_limit (by rw [range]; exact (List.mem_filter.mp hc).1)
    obtain ⟨done,link,setting⟩ := here.applyZones schedule minutes below
      ((nodup_span first count).filter _)
    rw [serveZonesSet_granted (grant_of_commandable h)]
    by_cases hok : (c.applyZones st schedule minutes ((span first count).filter mask.get)).2=true
    · rw [if_pos hok]
      refine decides_acknowledged (fun e k => ?_) link rfl ?_
      · cases e with
        | illegalAddress => exact k ⟨st,h⟩
        | applyFailure =>
          obtain ⟨st',h',ch,hc,hget,hno⟩ := k
          rw [h'.1.unique h.1] at hno
          exact hno (done.mp hok ch (List.mem_filter.mpr ⟨hc,hget⟩))
        | other => cases k
      · unfold report?
        rw [unit_of_setting setting,(here.of_setting setting).station]
        dsimp only
        rw [Option.map_some,range]
    · rw [if_neg hok]
      refine decides_refused (e:=.applyFailure) ⟨st,h,?_⟩ link
      rw [done] at hok
      push Not at hok
      obtain ⟨ch,hc,hno⟩ := hok
      obtain ⟨hc,hget⟩ := List.mem_filter.mp hc
      exact ⟨ch,hc,hget,hno⟩
  · rw [serveZonesSet_refused (grant_of_not_commandable granted)]
    exact decides_refused granted rfl

theorem decides_registersSet {flags : AckFlags} {first : UInt8} {values : List UInt16}
    (hm : f.message=.registersSet flags first values) :
    c.Decides f (c.serveRegistersSet f flags first values) := by
  obtain ⟨transaction,target,source,m⟩ := f
  obtain rfl : m=_ := hm
  unfold serveRegistersSet
  rw [min_registerContext_count]
  dsimp only
  by_cases addressed : c.Addresses first values
  · have within : ¬(values=[] ∨ c.registerCount.toNat<first.toNat+values.length) :=
      not_or.mpr ⟨addressed.1,Nat.not_lt.mpr addressed.2⟩
    have written := Registers.writeAll_snd c.registers c.clock.seconds
      (Nat.le_trans addressed.2 (Nat.le_of_lt_succ c.registerCount.toNat_lt))
    rw [if_neg within]
    cases hw : c.registers.writeAll c.clock.seconds first values with
    | mk registers ok =>
      rw [hw] at written
      cases ok with
      | true =>
        refine decides_acknowledged (fun e k => ?_) rfl rfl rfl
        cases e with
        | illegalAddress => exact k addressed
        | applyFailure =>
          obtain ⟨_,i,v,hv,hno⟩ := k
          exact hno (written.mp rfl i v hv)
        | other => cases k
      | false =>
        have refused : ∃ i v,values[i]?=some v ∧ ¬Registers.Writable (first.toNat+i) v := by
          by_contra all
          push Not at all
          exact Bool.false_ne_true (written.mpr all)
        exact decides_refused (e:=.applyFailure) ⟨addressed,refused⟩ rfl
  · have without : values=[] ∨ c.registerCount.toNat<first.toNat+values.length := by
      by_contra k
      rw [not_or,Nat.not_lt] at k
      exact addressed k
    rw [if_pos without]
    exact decides_refused addressed rfl

theorem decides_eventMasterSet {flags : AckFlags} {events : EventFlags} {master : UInt8}
    {address : UInt16} (hm : f.message=.eventMasterSet flags events master address) :
    c.Decides f (c.serveEventMasterSet f flags events master address) := by
  obtain ⟨transaction,target,source,m⟩ := f
  obtain rfl : m=_ := hm
  exact decides_acknowledged (fun e k => by cases e <;> cases k) rfl rfl rfl

/-- Every request is decided: refused on its ground, or granted if there is none. -/
theorem decides_serve (laid : c.site.Laid) (unit : c.unit=c.site.unit)
    (request : f.function.isRequest=true) : c.Decides f (c.serve f) := by
  obtain ⟨transaction,target,source,m⟩ := f
  cases m with
  | zonesRead => exact decides_zonesRead rfl
  | zonesSet => exact decides_zonesSet laid unit rfl
  | sensorsRead => exact decides_sensorsRead rfl
  | registersRead => exact decides_registersRead rfl
  | registersSet => exact decides_registersSet rfl
  | eventMasterSet => exact decides_eventMasterSet rfl
  | eventMasterRead => exact decides_replied rfl rfl fun e k => by cases e <;> cases k
  | ping => exact decides_replied rfl rfl fun e k => by cases e <;> cases k
  | scan => exact decides_replied rfl rfl fun e k => by cases e <;> cases k
  | timeBroadcast time =>
    refine decides_granted (d:=(c.serve ⟨transaction,target,source,.timeBroadcast time⟩).1)
      (fun e k => by cases e <;> cases k) ?_ ?_
    · rfl
    · rfl
  | _ => cases request

section Log

variable {c d : Controller (Logged σ)}

theorem tells_reply (h : Carrier.Willing c.link.carrier.carrier) (m : Message) :
    Link.Tells f.source
      (([m].filter (·.fits)).map fun m => (⟨f.transaction,f.source,c.unit,m⟩ : Frame).octets)
      c.link (c.reply f m).link := by
  by_cases hm : m.fits=true
  · have short : m.payload.length ≤ maxPayload := of_decide_eq_true hm
    rw [List.filter_cons_of_pos hm]
    unfold reply sendFrame
    rw [Frame.encode_eq short]
    exact Link.tells_send h ..
  · rw [List.filter_cons_of_neg hm,reply_eq_self hm]
    exact Link.tells_nothing _ h

/-- What fits of some answers is sent, in order. -/
theorem tells_answerAll (h : Carrier.Willing c.link.carrier.carrier) (ms : List Message) :
    Link.Tells f.source
      ((ms.filter (·.fits)).map fun m => (⟨f.transaction,f.source,c.unit,m⟩ : Frame).octets)
      c.link (c.answerAll f ms).link := by
  induction ms generalizing c with
  | nil => exact Link.tells_nothing _ h
  | cons m ms ih =>
    have first := tells_reply (f:=f) h m
    have rest := ih first.willing
    rw [unit_of_setting (setting_of_still (c.still_reply f m))] at rest
    rw [←List.singleton_append,List.filter_append,List.map_append]
    exact first.trans rest

omit [Carrier σ] in
theorem report_of_answer {q m : Message} {refusal : Option Exception}
    (hm : m∈d.answers q refusal) : d.report? q=some m ∨ m.words=none := by
  unfold answers at hm
  split at hm
  · split_ifs at hm
    · rw [List.mem_singleton.mp hm]
      exact Or.inr rfl
    · cases hm
  · obtain hm | hm := List.mem_append.mp hm
    · split_ifs at hm
      · exact Or.inl (Option.mem_toList.mp hm)
      · cases hm
    · split_ifs at hm
      · rw [List.mem_singleton.mp hm]
        exact Or.inr rfl
      · cases hm

omit [Carrier σ] in
/-- Only what was read of sensors and registers can be too long for a frame. -/
theorem read_of_overfull {bytes : List UInt8} (hf : Frame.decode bytes=.ok f)
    {refusal : Option Exception} {m : Message} (hm : m∈d.answers f.message refusal)
    (long : m.Overfull) : f.function=.sensorsRead ∨ f.function=.registersRead := by
  obtain ⟨ws,hws,many⟩ := long
  obtain report | short := report_of_answer hm
  swap
  · rw [short] at hws
    cases hws
  obtain ⟨transaction,target,source,q⟩ := f
  cases q with
  | sensorsRead => exact Or.inl rfl
  | registersRead => exact Or.inr rfl
  | registersSet flags first values =>
    have few : ¬(Message.registersSet flags first values).Overfull := by
      intro k
      have encoded := Frame.encode_of_decode hf
      rw [Frame.encode,if_pos ((Message.overfull_iff _).mp k)] at encoded
      cases encoded
    have few : values.length≤126 := Nat.not_lt.mp fun k => few ⟨values,rfl,k⟩
    obtain rfl := Option.some.inj report
    obtain rfl := Option.some.inj hws
    rw [List.length_map] at many
    have := length_span_le first (UInt8.ofNat values.length)
    rw [UInt8.toNat_ofNat_of_lt' (by simp only [UInt8.size]; omega)] at this
    omega
  | zonesRead | zonesSet =>
    obtain ⟨st,_,rfl⟩ := Option.map_eq_some_iff.mp report
    cases hws
  | eventMasterRead | eventMasterSet | ping | scan =>
    obtain rfl := Option.some.inj report
    cases hws
  | _ => cases report

/-- A request that comes in is refused exactly on its grounds, and what is sent for it are the answers
that it asks for and that fit in a frame, all to its sender and under its transaction. -/
theorem answers_as_asked {cfg : Config} (hv : cfg.Valid) (site : c.site=cfg.site)
    (unit : c.unit=cfg.unit) (serves : c.role.serves=true)
    (willing : Carrier.Willing c.link.carrier.carrier) {bytes : List UInt8}
    (hf : Frame.decode bytes=.ok f) (here : c.isAddressed f=true)
    (request : f.function.isRequest=true) :
    let d := (c.process bytes).1
    ∃ refusal,(∀ e,refusal=some e ↔ c.Refuses f.message e) ∧
      (c.process bytes).2=verdict f refusal ∧
      Link.Tells f.source (((d.answers f.message refusal).filter (·.fits)).map fun m =>
        (⟨f.transaction,f.source,d.unit,m⟩ : Frame).octets) c.link d.link ∧
      ∀ m∈d.answers f.message refusal,m.fits=false →
        m.Overfull ∧ (f.function=.sensorsRead ∨ f.function=.registersRead) := by
  intro d
  have served : c.process bytes=c.serve f := by
    unfold process
    rw [hf]
    dsimp only
    rw [here,request,serves]
    rfl
  have laid : c.site.Laid := by
    rw [site]
    exact hv.laid
  have own : c.unit=c.site.unit := by
    rw [site,unit,(Config.unit_site cfg).1]
  obtain ⟨refusal,grounds,e,link,he⟩ := decides_serve laid own request
  have hd : d=e.answerAll f (e.answers f.message refusal) := congrArg Prod.fst (served.trans he)
  have still : d.still=e.still := by
    rw [hd]
    exact still_answerAll _
  refine ⟨refusal,grounds,congrArg Prod.snd (served.trans he),?_,fun m hm long => ?_⟩
  · rw [answers_of_still still,unit_of_setting (setting_of_still still),hd,←link]
    refine tells_answerAll ?_ _
    rw [link]
    exact willing
  · have full : m.Overfull := by
      by_contra k
      rw [(m.fits_iff).mpr k] at long
      cases long
    exact ⟨full,read_of_overfull hf hm full⟩

end Log

/-- A station on the plot, with nothing sent yet. -/
def servingPlot : Controller (Logged ScriptedRadio) :=
  start .responder ⟨{kind:=.short},[]⟩ Config.plot.site (.ofOutputs [0,1]) {} ⟨0,0⟩

/-- Water both zones for ten minutes, and answer with the report and the short response. -/
def waterBoth : Frame := ⟨9,1,4,.zonesSet ⟨6⟩ 0 0 10 2 ⟨[3]⟩⟩

theorem answers_as_asked_plot :
    let d := (servingPlot.process waterBoth.octets).1
    Config.plot.Valid ∧ Frame.decode waterBoth.octets=.ok waterBoth ∧
      (servingPlot.process waterBoth.octets).2=.handled .zonesSet ∧
      (∀ e,¬servingPlot.Refuses waterBoth.message e) ∧
      Link.Tells 4 [(⟨9,4,1,.zonesReport 1 0 2 ⟨[3]⟩⟩ : Frame).octets,
        (⟨9,4,1,.responseOk 2⟩ : Frame).octets] servingPlot.link d.link := by
  intro d
  have hf : Frame.decode waterBoth.octets=.ok waterBoth := by decide
  have handled : (servingPlot.process waterBoth.octets).2=.handled .zonesSet := by
    decide +kernel
  obtain ⟨refusal,grounds,outcome,tells,_⟩ := answers_as_asked (c:=servingPlot)
    Config.plot_valid rfl (by decide +kernel) rfl (ScriptedRadio.willing fun _ => rfl) hf
    (by decide +kernel) rfl
  rw [handled] at outcome
  cases refusal with
  | some e => cases outcome
  | none =>
    refine ⟨Config.plot_valid,hf,handled,fun e k => absurd ((grounds e).mpr k) nofun,?_⟩
    have sent : (((d.answers waterBoth.message none).filter (·.fits)).map fun m =>
        (⟨9,4,d.unit,m⟩ : Frame).octets)=[(⟨9,4,1,.zonesReport 1 0 2 ⟨[3]⟩⟩ : Frame).octets,
          (⟨9,4,1,.responseOk 2⟩ : Frame).octets] := by
      decide +kernel
    rw [←sent]
    exact tells

end Controller

end Watering
