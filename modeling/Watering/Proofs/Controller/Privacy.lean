import Watering.Controller.Inbox
import Watering.Proofs.Config.Outputs
import Watering.Proofs.Controller.Grounds
import Watering.Proofs.Radio.Logged

namespace Watering

/-- Peers may neither read nor command the station, or it is out of service. -/
def Station.Private (st : Station) : Prop :=
  st.enabled=false ∨ st.remoteStatus=false ∧ st.remoteControl=false

theorem Station.Private.not_allowed {st : Station} (h : st.Private) (enabled : st.enabled=true)
    (access : Access) : access.allowedBy st=false := by
  obtain off | ⟨status,control⟩ := h
  · exact absurd (off.symm.trans enabled) Bool.false_ne_true
  · cases access with
    | status => exact status
    | control => exact control

namespace Registers

/-- Only the registers from 22 on depend on the countdowns. -/
theorem read_fixed (r : Registers) {a : UInt8} (h : a.toNat<22) (ctx : RegisterContext)
    (countdown : List UInt16) : r.read a {ctx with countdown}=r.read a ctx := by
  unfold read
  split <;> first | rfl | rw [if_neg (Nat.not_le.mpr h),if_neg (Nat.not_le.mpr h)]

theorem Writable.fixed {a : Nat} {v : UInt16} (h : Writable a v) : a<22 := by
  obtain ⟨rfl,_⟩ | h | ⟨rfl,_⟩ := h
  · decide
  · simp only [List.mem_cons,List.not_mem_nil,or_false] at h
    omega
  · decide

theorem fixed_of_written {r : Registers} {now : Int} {first : UInt8} {values : List UInt16}
    (fits : first.toNat+values.length≤255) (written : (r.writeAll now first values).2=true) :
    ∀ a∈span first (UInt8.ofNat values.length),a.toNat<22 := by
  intro a ha
  obtain ⟨below,above,_⟩ := mem_span.mp ha
  rw [UInt8.toNat_ofNat_of_lt' (by simp only [UInt8.size]; omega)] at above
  have hi : a.toNat-first.toNat<values.length := by omega
  have writable := (r.writeAll_snd now fits).mp written _ _ (List.getElem?_eq_getElem hi)
  rw [Nat.add_sub_cancel' below] at writable
  exact writable.fixed

end Registers

/-- What a controller holds of its own zones and sensors. -/
structure Premises where
  valves : ValveBoard
  zones : ZoneBoard
  sensors : SensorBank

namespace Controller

variable {σ : Type} (c : Controller σ) (p : Premises)

/-- The controller with other outputs, board and sensors. -/
def amid : Controller σ := {c with valves:=p.valves,zones:=p.zones,sensors:=p.sensors}

/-- The station whose name the controller goes by is private, if there is one. -/
def Private : Prop := ∀ st,c.site.station? c.unit=some st → st.Private

variable {c} in
theorem Private.not_addressable (h : c.Private) (access : Access) : c.addressable? access=none := by
  rw [addressable?_eq_none]
  rintro ⟨st,own,enabled,allowed⟩
  exact Bool.false_ne_true (((h st own).not_allowed enabled access).symm.trans allowed)

section Send

variable [Carrier σ]

theorem sendFrame_amid (t : Destination) (f : Frame) :
    (c.amid p).sendFrame t f=(c.sendFrame t f).map (amid · p) id := by
  unfold sendFrame
  split <;> rfl

theorem reply_amid (f : Frame) (m : Message) : (c.amid p).reply f m=(c.reply f m).amid p :=
  congrArg Prod.fst (c.sendFrame_amid p (.unit f.source) ⟨f.transaction,f.source,c.unit,m⟩)

theorem reject_amid (f : Frame) (e : Exception) (tell : Bool) :
    (c.amid p).reject f e tell=(c.reject f e tell).map (amid · p) id := by
  unfold reject
  dsimp only
  split_ifs
  · exact congrArg (·,_) ((c.record _).reply_amid p f _)
  · exact congrArg (·,_) (c.reply_amid p f _)
  · rfl
  · rfl

theorem acknowledge_amid (f : Frame) (flags : AckFlags) {report : Controller σ → Message}
    (same : report (c.amid p)=report c) : (c.amid p).acknowledge f flags report=
      (c.acknowledge f flags report).map (amid · p) id := by
  unfold acknowledge handle
  dsimp only
  rw [same]
  split_ifs
  · rw [reply_amid,reply_amid]
    rfl
  · rw [reply_amid]
    rfl
  · rw [reply_amid]
    rfl
  · rfl

end Send

theorem registerContext_amid : (c.amid p).registerContext=
    {c.registerContext with countdown:=(c.amid p).registerContext.countdown} := rfl

/-- A read asks for a countdown that the two differ in. -/
def Discloses (first count : UInt8) : Prop :=
  ∃ a∈span first count,22≤a.toNat ∧
    c.registers.read a (c.amid p).registerContext≠c.registers.read a c.registerContext

variable {c p} in
theorem registersReport_amid {first count : UInt8} (h : ¬c.Discloses p first count) :
    (c.amid p).registersReport first count=c.registersReport first count := by
  unfold registersReport
  refine congrArg (Message.registersReport first) (List.map_congr_left fun a ha => ?_)
  by_cases low : a.toNat<22
  · rw [registerContext_amid]
    exact Registers.read_fixed _ low _ _
  · by_contra differ
    exact h ⟨a,ha,Nat.not_lt.mp low,differ⟩

section Serve

variable [Carrier σ] {c p}

section Closed

variable (priv : c.Private)
include priv

theorem serveZonesRead_amid (f : Frame) (first count : UInt8) :
    (c.amid p).serveZonesRead f first count=
      (c.serveZonesRead f first count).map (amid · p) id := by
  have closed : (c.amid p).addressable? .status=none := priv.not_addressable .status
  unfold serveZonesRead
  rw [closed,priv.not_addressable .status]
  exact c.reject_amid p f .illegalAddress true

theorem serveSensorsRead_amid (f : Frame) (first count : UInt8) :
    (c.amid p).serveSensorsRead f first count=
      (c.serveSensorsRead f first count).map (amid · p) id := by
  have closed : (c.amid p).addressable? .status=none := priv.not_addressable .status
  unfold serveSensorsRead
  rw [closed,priv.not_addressable .status]
  exact c.reject_amid p f .illegalAddress true

theorem serveZonesSet_amid (f : Frame) (flags : AckFlags) (schedule first minutes count : UInt8)
    (mask : ZoneMask) : (c.amid p).serveZonesSet f flags schedule first minutes count mask=
      (c.serveZonesSet f flags schedule first minutes count mask).map (amid · p) id := by
  have closed : (c.amid p).addressable? .control=none := priv.not_addressable .control
  unfold serveZonesSet
  rw [closed,priv.not_addressable .control]
  exact c.reject_amid p f .illegalAddress (flags.contains .error)

end Closed

theorem serveRegistersRead_amid (f : Frame) {first count : UInt8}
    (h : Within first count c.registerCount →
      ¬c.Discloses p first (expand first count c.registerCount)) :
    (c.amid p).serveRegistersRead f first count=
      (c.serveRegistersRead f first count).map (amid · p) id := by
  have same : (c.amid p).registerCount=c.registerCount := rfl
  by_cases range : Within first count c.registerCount
  · rw [(c.amid p).serveRegistersRead_within f range,c.serveRegistersRead_within f range,same,
      registersReport_amid (h range),reply_amid]
    rfl
  · rw [(c.amid p).serveRegistersRead_without f range,c.serveRegistersRead_without f range]
    exact c.reject_amid p f .illegalAddress true

theorem serveRegistersSet_amid (f : Frame) (flags : AckFlags) (first : UInt8)
    (values : List UInt16) : (c.amid p).serveRegistersSet f flags first values=
      (c.serveRegistersSet f flags first values).map (amid · p) id := by
  have same : (c.amid p).registerCount=c.registerCount := rfl
  unfold serveRegistersSet
  rw [min_registerContext_count,min_registerContext_count,same]
  dsimp only
  by_cases without : values=[] ∨ c.registerCount.toNat<first.toNat+values.length
  · rw [if_pos without,if_pos without]
    exact c.reject_amid p f .illegalAddress _
  rw [if_neg without,if_neg without]
  have fits : first.toNat+values.length≤255 := by
    have := c.registerCount.toNat_lt
    rw [not_or,Nat.not_lt] at without
    omega
  have low : (c.registers.writeAll c.clock.seconds first values).2=true →
      ∀ a∈span first (UInt8.ofNat values.length),a.toNat<22 := Registers.fixed_of_written fits
  rw [show (c.amid p).registers.writeAll (c.amid p).clock.seconds first values=
    c.registers.writeAll c.clock.seconds first values from rfl]
  cases hw : c.registers.writeAll c.clock.seconds first values with
  | mk registers ok =>
    rw [hw] at low
    cases ok with
    | false => exact reject_amid {c with registers} p f .applyFailure _
    | true =>
      refine acknowledge_amid {c with registers} p f flags (registersReport_amid ?_)
      rintro ⟨a,ha,high,_⟩
      exact Nat.not_lt.mpr high (low rfl a ha)

/-- The frame asks for registers that there are, among them a countdown that the two differ in. -/
def Exposes (c : Controller σ) (p : Premises) (f : Frame) : Prop :=
  ∃ first count,f.message=.registersRead first count ∧ Within first count c.registerCount ∧
    c.Discloses p first (expand first count c.registerCount)

theorem serve_amid (priv : c.Private) {f : Frame} (h : ¬c.Exposes p f) :
    (c.amid p).serve f=(c.serve f).map (amid · p) id := by
  obtain ⟨transaction,target,source,m⟩ := f
  cases m with
  | zonesRead first count => exact serveZonesRead_amid priv _ first count
  | zonesSet flags schedule first minutes count mask =>
    exact serveZonesSet_amid priv _ flags schedule first minutes count mask
  | sensorsRead first count => exact serveSensorsRead_amid priv _ first count
  | registersRead first count =>
    exact serveRegistersRead_amid _ fun within told => h ⟨first,count,rfl,within,told⟩
  | registersSet flags first values => exact serveRegistersSet_amid _ flags first values
  | eventMasterRead => exact congrArg (·,_) (c.reply_amid p _ _)
  | eventMasterSet flags events master address =>
    let m : EventMaster :=
      if events.contains .registerSelf then ⟨source,source.toUInt16,events⟩
      else ⟨master,address,events⟩
    exact acknowledge_amid {c with eventMaster:=some m} p _ flags rfl
  | ping cookie => exact congrArg (·,_) (c.reply_amid p _ _)
  | scan => exact congrArg (·,_) (c.reply_amid p _ _)
  | _ => rfl

variable (c) in
theorem reply_eq (f : Frame) (m : Message) : c.reply f m={c with link:=(c.reply f m).link} := by
  unfold reply sendFrame
  split <;> rfl

variable (c) in
/-- What an answer says matters to the link alone. -/
theorem reply_apart (f : Frame) (m m' : Message) :
    {(c.amid p).reply f m with link:=(c.reply f m').link}=(c.reply f m').amid p := by
  rw [(c.amid p).reply_eq]
  exact congrArg (amid · p) (c.reply_eq f m').symm

/-- Where a countdown is exposed, only what is sent differs. -/
theorem serve_exposed {f : Frame} (h : c.Exposes p f) :
    ((c.amid p).serve f).2=(c.serve f).2 ∧
      {((c.amid p).serve f).1 with link:=(c.serve f).1.link}=(c.serve f).1.amid p := by
  obtain ⟨transaction,target,source,m⟩ := f
  obtain ⟨first,count,rfl,within,_⟩ := h
  set f : Frame := ⟨transaction,target,source,.registersRead first count⟩
  have told : (c.amid p).serve f=((c.amid p).reply f _,.handled f.function) :=
    (c.amid p).serveRegistersRead_within f within
  have asked : c.serve f=(c.reply f _,.handled f.function) :=
    c.serveRegistersRead_within f within
  rw [told,asked]
  exact ⟨rfl,c.reply_apart f _ _⟩

/-- Whether a frame is served does not depend on the premises. -/
theorem process_served_or_dropped (role : c.role=.responder) (p : Premises) (bytes : List UInt8) :
    (∃ f,Frame.decode bytes=.ok f ∧ c.isAddressed f=true ∧ c.process bytes=c.serve f ∧
      (c.amid p).process bytes=(c.amid p).serve f) ∨
    ∃ why,c.process bytes=(c,.dropped why) ∧ (c.amid p).process bytes=(c.amid p,.dropped why) := by
  unfold process
  cases Frame.decode bytes with
  | error e => exact Or.inr ⟨_,rfl,rfl⟩
  | ok f =>
    have address : (c.amid p).isAddressed f=c.isAddressed f := rfl
    have same : (c.amid p).role=.responder := role
    dsimp only
    rw [address,same,role]
    cases ha : c.isAddressed f with
    | false => exact Or.inr ⟨_,rfl,rfl⟩
    | true =>
      cases f.function.isRequest with
      | false => exact Or.inr ⟨_,rfl,rfl⟩
      | true => exact Or.inl ⟨f,rfl,ha,rfl,rfl⟩

/-- For a private station it makes no difference amid what a frame is taken in, except that a read of
registers tells the countdowns. -/
theorem private_unless_countdowns_asked (role : c.role=.responder) (priv : c.Private)
    (p : Premises) (bytes : List UInt8) :
    let x := c.process bytes
    let y := (c.amid p).process bytes
    y.2=x.2 ∧ {y.1 with link:=x.1.link}=x.1.amid p ∧ (y.1.link=x.1.link ∨
      ∃ f,Frame.decode bytes=.ok f ∧ c.isAddressed f=true ∧ c.Exposes p f) := by
  intro x y
  obtain ⟨f,hf,ha,hx,hy⟩ | ⟨why,hx,hy⟩ := process_served_or_dropped role p bytes
  · have hx : x=c.serve f := hx
    have hy : y=(c.amid p).serve f := hy
    rw [hx,hy]
    by_cases exposes : c.Exposes p f
    · obtain ⟨outcome,rest⟩ := serve_exposed exposes
      exact ⟨outcome,rest,Or.inr ⟨f,hf,ha,exposes⟩⟩
    · rw [serve_amid priv exposes]
      exact ⟨rfl,rfl,Or.inl rfl⟩
  · have hx : x=(c,.dropped why) := hx
    have hy : y=(c.amid p,.dropped why) := hy
    rw [hx,hy]
    exact ⟨rfl,rfl,Or.inl rfl⟩

end Serve

/-- A station whose plot peers may neither read nor command. -/
def idlePlot : Controller (Logged ScriptedRadio) :=
  start .responder ⟨{kind:=.short},[]⟩ Config.estate.site (.ofOutputs [0,1,2]) {} ⟨0,0⟩

/-- What the station holds once the first zone of its plot runs for ten minutes. -/
def tenMinutes : Premises :=
  let c := (idlePlot.startZone {zone:=0,minutes:=10}).1
  ⟨c.valves,c.zones,c.sensors⟩

theorem private_idlePlot : idlePlot.Private := by
  intro st own
  rw [show idlePlot.site=Config.estate.site from rfl,Config.estate_valid.station?_site] at own
  obtain rfl := Option.some.inj own
  exact Or.inr ⟨rfl,rfl⟩

/-- Asked for its zones, the station answers the same, and nothing but a refusal. -/
theorem private_unless_countdowns_asked_estate :
    let bytes := Frame.octets ⟨9,1,7,.zonesRead 0 everything⟩
    let x := idlePlot.process bytes
    let y := (idlePlot.amid tenMinutes).process bytes
    tenMinutes.zones.state 0=.running ∧ idlePlot.zones.state 0=.off ∧
      x.2=.rejected .zonesRead .illegalAddress ∧ y.2=x.2 ∧
      y.1.link.carrier.taken=x.1.link.carrier.taken := by
  intro bytes x y
  obtain ⟨outcome,_,link | ⟨f,hf,_,first,count,asked,_⟩⟩ :=
    private_unless_countdowns_asked (c:=idlePlot) rfl private_idlePlot tenMinutes bytes
  · exact ⟨by decide +kernel,by decide +kernel,by decide +kernel,outcome,
      congrArg (·.carrier.taken) link⟩
  · obtain rfl := Except.ok.inj (hf.symm.trans
      (show Frame.decode bytes=.ok ⟨9,1,7,.zonesRead 0 everything⟩ by decide))
    cases asked

/-- Asked for the countdown of its first zone, the station tells how long that runs. -/
theorem countdown_disclosed :
    let bytes := Frame.octets ⟨9,1,7,.registersRead 22 1⟩
    let x := idlePlot.process bytes
    let y := (idlePlot.amid tenMinutes).process bytes
    idlePlot.role=.responder ∧ idlePlot.Private ∧
      x.1.link.carrier.frames=[⟨9,7,1,.registersReport 22 [0]⟩] ∧
      y.1.link.carrier.frames=[⟨9,7,1,.registersReport 22 [10]⟩] ∧
      y.1.link.carrier.taken≠x.1.link.carrier.taken :=
  ⟨rfl,private_idlePlot,by decide +kernel,by decide +kernel,by decide +kernel⟩

end Controller

end Watering
