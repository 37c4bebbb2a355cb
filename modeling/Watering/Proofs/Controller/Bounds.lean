import Watering.Controller.Inbox
import Watering.Proofs.Controller.Checked

namespace Watering.Checked

variable {σ : Type}

section Serve

variable [Carrier σ]

def reject (c : Controller σ) (f : Frame) (e : Exception) (tell : Bool) :
    Option (Controller σ×Outcome) := do
  let c :=
    if e=.applyFailure then
      c.record (.error (f.function.name++" from station "++toString f.source.toNat++
        " could not be applied"))
    else c
  let c ← if tell then reply c f (.responseError f.function.code e) else some c
  some (c,.rejected f.function e)

def acknowledge (c : Controller σ) (f : Frame) (flags : AckFlags)
    (report : Controller σ → Option Message) : Option (Controller σ×Outcome) := do
  let c ← if flags.contains .report then (report c).bind (reply c f) else some c
  let c ← if flags.contains .brief then reply c f (.responseOk f.function.code) else some c
  some (c.handle f)

def serveZonesRead (c : Controller σ) (f : Frame) (first count : UInt8) :
    Option (Controller σ×Outcome) :=
  match c.addressable? .status with
  | none => reject c f .illegalAddress true
  | some st =>
    match resolveRange first count st.zoneCount with
    | none => reject c f .illegalAddress true
    | some (first,count) => do
      let report ← zonesReport c st first count
      let c ← reply c f report
      some (c.handle f)

def serveZonesSet (c : Controller σ) (f : Frame) (flags : AckFlags)
    (schedule first minutes count : UInt8) (mask : ZoneMask) : Option (Controller σ×Outcome) := do
  let channels := (range first (addCapped first count)).filter mask.get
  let tell := flags.contains .error
  match c.addressable? .control with
  | none => reject c f .illegalAddress tell
  | some st =>
    if resolveRange first count st.zoneCount=none ∨ count=everything then
      reject c f .illegalAddress tell
    else
      match ← applyZones c st schedule minutes channels with
      | (c,false) => reject c f .applyFailure tell
      | (c,true) => acknowledge c f flags fun c => zonesReport c st first count

def serveSensorsRead (c : Controller σ) (f : Frame) (first count : UInt8) :
    Option (Controller σ×Outcome) :=
  match c.addressable? .status with
  | none => reject c f .illegalAddress true
  | some _ =>
    match resolveRange first count c.sensors.count with
    | none => reject c f .illegalAddress true
    | some (first,count) => do
      let last ← add first count
      let c ← reply c f (.sensorsReport first ((range first last).map c.sensors.read))
      some (c.handle f)

def registersReport (c : Controller σ) (first count : UInt8) : Option Message := do
  let ctx := c.registerContext
  let last ← add first count
  let values ← (range first last).mapM fun a => read c.registers a ctx
  some (.registersReport first values)

def serveRegistersRead (c : Controller σ) (f : Frame) (first count : UInt8) :
    Option (Controller σ×Outcome) :=
  match resolveRange first count (UInt8.ofNat (min c.registerContext.count 255)) with
  | none => reject c f .illegalAddress true
  | some (first,count) => do
    let report ← registersReport c first count
    let c ← reply c f report
    some (c.handle f)

def serveRegistersSet (c : Controller σ) (f : Frame) (flags : AckFlags) (first : UInt8)
    (values : List UInt16) : Option (Controller σ×Outcome) := do
  let tell := flags.contains .error
  if values=[] ∨ min c.registerContext.count 255<first.toNat+values.length then
    reject c f .illegalAddress tell
  else
    match ← writeAll c.registers c.clock.seconds first 0 values with
    | (registers,false) => reject {c with registers} f .applyFailure tell
    | (registers,true) =>
      acknowledge {c with registers} f flags fun c =>
        registersReport c first (UInt8.ofNat values.length)

def serve (c : Controller σ) (f : Frame) : Option (Controller σ×Outcome) :=
  match f.message with
  | .zonesRead first count => serveZonesRead c f first count
  | .zonesSet flags schedule first minutes count mask =>
    serveZonesSet c f flags schedule first minutes count mask
  | .sensorsRead first count => serveSensorsRead c f first count
  | .registersRead first count => serveRegistersRead c f first count
  | .registersSet flags first values => serveRegistersSet c f flags first values
  | .eventMasterRead => do
    let c ← reply c f c.eventMasterReport
    some (c.handle f)
  | .eventMasterSet flags events master address =>
    let m : EventMaster :=
      if events.contains .registerSelf then ⟨f.source,f.source.toUInt16,events⟩
      else ⟨master,address,events⟩
    acknowledge {c with eventMaster:=some m} f flags fun c => some c.eventMasterReport
  | .ping cookie => do
    let c ← reply c f (.pingReply cookie)
    some (c.handle f)
  | .scan => do
    let c ← reply c f .scanReply
    some (c.handle f)
  | .timeBroadcast time =>
    let registers := {c.registers with clockOffset:=time.toNat-c.clock.seconds}
    some (Controller.handle {c with registers} f)
  | _ => some (c.handle f)

theorem reject_eq (c : Controller σ) (f : Frame) (e : Exception) (tell : Bool) :
    reject c f e tell=some (c.reject f e tell) := by
  unfold reject Controller.reject
  cases tell with
  | false => rfl
  | true =>
    simp only [if_true,reply_eq,Option.bind_eq_bind,Option.bind_some]

theorem acknowledge_eq (c : Controller σ) (f : Frame) (flags : AckFlags)
    {report : Controller σ → Option Message} {report' : Controller σ → Message}
    (h : ∀ d,report d=some (report' d)) :
    acknowledge c f flags report=some (c.acknowledge f flags report') := by
  unfold acknowledge Controller.acknowledge
  simp only [h,reply_eq,Option.bind_some,←apply_ite some,Option.bind_eq_bind]
  split_ifs <;> rfl

theorem replied_eq (c : Controller σ) (f : Frame) (m : Message) :
    ((reply c f m).bind fun d => some (d.handle f))=some ((c.reply f m).handle f) := by
  rw [reply_eq]
  rfl

theorem serveZonesRead_eq (c : Controller σ) (f : Frame) (first count : UInt8) :
    serveZonesRead c f first count=some (c.serveZonesRead f first count) := by
  unfold serveZonesRead Controller.serveZonesRead
  cases c.addressable? .status with
  | none => exact reject_eq ..
  | some st =>
    dsimp only
    cases resolveRange first count st.zoneCount with
    | none => exact reject_eq ..
    | some r => simp only [zonesReport_eq,reply_eq,Option.bind_eq_bind,Option.bind_some]

theorem serveZonesSet_eq (c : Controller σ) (f : Frame) (flags : AckFlags)
    (schedule first minutes count : UInt8) (mask : ZoneMask) :
    serveZonesSet c f flags schedule first minutes count mask=
      some (c.serveZonesSet f flags schedule first minutes count mask) := by
  unfold serveZonesSet Controller.serveZonesSet
  rw [range_eq (addCapped_toNat first count)]
  cases c.addressable? .control with
  | none => exact reject_eq ..
  | some st =>
    dsimp only
    split_ifs
    · exact reject_eq ..
    · rw [applyZones_eq]
      cases c.applyZones st schedule minutes ((span first count).filter mask.get) with
      | mk d ok =>
        cases ok with
        | false => exact reject_eq ..
        | true => exact acknowledge_eq d f flags fun d => zonesReport_eq ..

/-- A range that was resolved ends with an octet. -/
theorem lt_of_resolved {first count limit : UInt8} {r : UInt8×UInt8}
    (h : resolveRange first count limit=some r) : r.1.toNat+r.2.toNat<256 := by
  unfold resolveRange at h
  dsimp only at h
  generalize (if first=0 ∧ count=everything then limit else count)=n at h
  split_ifs at h with within
  rw [←Option.some.inj h]
  exact Nat.lt_of_le_of_lt within.2 limit.toNat_lt

theorem serveSensorsRead_eq (c : Controller σ) (f : Frame) (first count : UInt8) :
    serveSensorsRead c f first count=some (c.serveSensorsRead f first count) := by
  unfold serveSensorsRead Controller.serveSensorsRead
  cases c.addressable? .status with
  | none => exact reject_eq ..
  | some st =>
    dsimp only
    cases hr : resolveRange first count c.sensors.count with
    | none => exact reject_eq ..
    | some r =>
      have ends := lt_of_resolved hr
      simp only [add_eq ends,range_add ends,reply_eq,Option.bind_eq_bind,Option.bind_some]

omit [Carrier σ] in
theorem registersReport_eq (c : Controller σ) {first count : UInt8}
    (ends : first.toNat+count.toNat<256) :
    registersReport c first count=some (c.registersReport first count) := by
  have each : (fun a => read c.registers a c.registerContext)=
      fun a => some (c.registers.read a c.registerContext) := funext fun a => read_eq ..
  have all : (span first count).mapM (fun a => read c.registers a c.registerContext)=
      some ((span first count).map fun a => c.registers.read a c.registerContext) := by
    rw [each]
    exact List.mapM_pure
  simp only [registersReport,add_eq ends,range_add ends,all,Option.bind_eq_bind,Option.bind_some]
  rfl

theorem serveRegistersRead_eq (c : Controller σ) (f : Frame) (first count : UInt8) :
    serveRegistersRead c f first count=some (c.serveRegistersRead f first count) := by
  unfold serveRegistersRead Controller.serveRegistersRead
  cases hr : resolveRange first count (UInt8.ofNat (min c.registerContext.count 255)) with
  | none => exact reject_eq ..
  | some r =>
    simp only [registersReport_eq c (lt_of_resolved hr),reply_eq,Option.bind_eq_bind,Option.bind_some]

theorem serveRegistersSet_eq (c : Controller σ) (f : Frame) (flags : AckFlags) (first : UInt8)
    (values : List UInt16) :
    serveRegistersSet c f flags first values=some (c.serveRegistersSet f flags first values) := by
  unfold serveRegistersSet Controller.serveRegistersSet
  dsimp only
  split_ifs with refused
  · exact reject_eq ..
  have ends : first.toNat+values.length<256 := by
    rw [not_or] at refused
    omega
  have length : (UInt8.ofNat values.length).toNat=values.length :=
    UInt8.toNat_ofNat_of_lt' (Nat.lt_of_le_of_lt (Nat.le_add_left ..) ends)
  have written := writeAll_eq c.registers c.clock.seconds first 0 values (by omega)
  rw [show first+UInt8.ofNat 0=first from UInt8.add_zero first] at written
  rw [written]
  cases c.registers.writeAll c.clock.seconds first values with
  | mk registers ok =>
    cases ok with
    | false => exact reject_eq ..
    | true =>
      refine acknowledge_eq _ f flags fun d => registersReport_eq d ?_
      rw [length]
      exact ends

theorem serve_eq (c : Controller σ) (f : Frame) : serve c f=some (c.serve f) := by
  obtain ⟨transaction,target,source,m⟩ := f
  cases m with
  | zonesRead => exact serveZonesRead_eq ..
  | zonesSet => exact serveZonesSet_eq ..
  | sensorsRead => exact serveSensorsRead_eq ..
  | registersRead => exact serveRegistersRead_eq ..
  | registersSet => exact serveRegistersSet_eq ..
  | eventMasterRead => exact replied_eq ..
  | eventMasterSet => exact acknowledge_eq _ _ _ fun _ => rfl
  | ping cookie => exact replied_eq ..
  | scan => exact replied_eq ..
  | _ => rfl

end Serve

def consumeZones (c : Controller σ) (source first count : UInt8) (mask : ZoneMask) :
    Option (Controller σ×Outcome) :=
  match c.site.enabledStation? source with
  | none => some (c,.dropped (.unknownStation source))
  | some st =>
    if st.zoneCount.toNat<first.toNat+count.toNat then some (c,.dropped (.outOfRange .zonesReport))
    else do
      let last ← add first count
      some (c.confirmZones st mask (range first last),.handled .zonesReport)

/-- Only a report of zones goes through a range; channels and registers that others report are sums
held at 255. -/
def consume (c : Controller σ) (f : Frame) : Option (Controller σ×Outcome) :=
  match f.message with
  | .zonesReport _ first count mask =>
    let c := if f.transaction=0 then c else c.settle f.source f.transaction
    consumeZones c f.source first count mask
  | _ => some (c.consume f)

theorem consumeZones_eq (c : Controller σ) (source first count : UInt8) (mask : ZoneMask) :
    consumeZones c source first count mask=some (c.consumeZones source first count mask) := by
  unfold consumeZones Controller.consumeZones
  cases c.site.enabledStation? source with
  | none => rfl
  | some st =>
    dsimp only
    split_ifs with beyond
    · rfl
    -- The zones of a station are counted by an octet, and the report was held against them.
    · have ends : first.toNat+count.toNat<256 :=
        Nat.lt_of_le_of_lt (Nat.le_of_not_lt beyond) st.zoneCount.toNat_lt
      simp only [add_eq ends,range_add ends,Option.bind_eq_bind,Option.bind_some]

theorem consume_eq (c : Controller σ) (f : Frame) : consume c f=some (c.consume f) := by
  obtain ⟨transaction,target,source,m⟩ := f
  cases m with
  | zonesReport => exact consumeZones_eq ..
  | _ => rfl

variable [Carrier σ]

def process (c : Controller σ) (bytes : List UInt8) : Option (Controller σ×Outcome) := do
  match ← decode bytes with
  | .error e => some (c,.dropped (.malformed e))
  | .ok f =>
    if !c.isAddressed f then some (c,.dropped (.notForUs f.target))
    else if f.function.isRequest then
      if c.role.serves then serve c f else some (c,.dropped (.wrongRole f.function))
    else if c.role.consumes then consume c f
    else some (c,.dropped (.wrongRole f.function))

/-- Whatever comes in, in whatever state, every checked operation on the way has its result, and what
they lead to is what is done without the checks. -/
theorem process_in_range (c : Controller σ) (bytes : List UInt8) :
    process c bytes=some (c.process bytes) := by
  unfold process Controller.process
  rw [decode_eq]
  change (match Frame.decode bytes with
    | .error e => _
    | .ok f => _)=_
  cases Frame.decode bytes with
  | error e => rfl
  | ok f =>
    simp only [serve_eq,consume_eq]
    split_ifs <;> rfl

end Watering.Checked
