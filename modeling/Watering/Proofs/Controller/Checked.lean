import Watering.Proofs.Controller.Moves
import Watering.Proofs.Frame.Bounds

namespace Watering.Checked

/-- The octets from the first up to the last, which is left out. -/
def range (first last : UInt8) : List UInt8 :=
  (List.range (last.toNat-first.toNat)).map fun i => UInt8.ofNat (first.toNat+i)

/-- Switch one channel: the mask is widened first, and then it has the byte of the channel. -/
def set (m : ZoneMask) (ch : UInt8) (on : Bool) : Option ZoneMask := do
  let byte := ch.toNat/8
  let wide := if m.bytes.length≤byte then m.bytes++List.replicate (byte+1-m.bytes.length) 0
    else m.bytes
  let b ← wide[byte]?
  some ⟨wide.set byte (if on then b ||| ZoneMask.bit ch else b &&& ~~~(ZoneMask.bit ch))⟩

def build (first count : UInt8) (on : UInt8 → Bool) : Option ZoneMask :=
  (range first (addCapped first count)).foldlM (fun m ch => set m ch (on ch)) (.empty first count)

theorem range_eq {first last count : UInt8} (h : last.toNat=min (first.toNat+count.toNat) 255) :
    range first last=span first count := by
  have bound := first.toNat_lt
  rw [range,span,h]
  congr 2
  omega

theorem add_eq {a b : UInt8} (h : a.toNat+b.toNat<256) : add a b=some (a+b) := if_pos h

example : add 200 55=some 255 ∧ add 200 56=none := by decide

theorem range_add {first count : UInt8} (h : first.toNat+count.toNat<256) :
    range first (first+count)=span first count := by
  apply range_eq
  rw [UInt8.toNat_add]
  omega

theorem set_eq (m : ZoneMask) (ch : UInt8) (on : Bool) : set m ch on=some (m.set ch on) := by
  have wide : (if m.bytes.length≤ch.toNat/8 then
      m.bytes++List.replicate (ch.toNat/8+1-m.bytes.length) 0 else m.bytes)=
      m.bytes++List.replicate (ch.toNat/8+1-m.bytes.length) 0 := by
    split_ifs with h
    · rfl
    · rw [Nat.sub_eq_zero_of_le (Nat.lt_of_not_le h),List.replicate_zero,List.append_nil]
  have there : ch.toNat/8<(m.bytes++List.replicate (ch.toNat/8+1-m.bytes.length) 0).length := by
    rw [List.length_append,List.length_replicate]
    omega
  rw [set,ZoneMask.set,wide,List.getElem?_eq_getElem there,List.modify_eq_set_get _ there]
  rfl

theorem build_eq (first count : UInt8) (on : UInt8 → Bool) :
    build first count on=some (.build first count on) := by
  rw [build,range_eq (addCapped_toNat first count),ZoneMask.build]
  generalize ZoneMask.empty first count=m
  induction span first count generalizing m with
  | nil => rfl
  | cons ch rest ih =>
    rw [List.foldlM_cons,set_eq]
    exact ih _

variable {σ : Type}

/-- Read a register; those of the zones are counted from the first of them. -/
def read (r : Registers) (address : UInt8) (ctx : RegisterContext) : Option UInt16 :=
  if RegisterContext.firstCountdown≤address then do
    let i ← sub address RegisterContext.firstCountdown
    some ((ctx.countdown[i.toNat]?).getD 0)
  else some (r.read address ctx)

/-- Write values from the `i`-th on, each to the register so far behind the first. -/
def writeAll (r : Registers) (now : Int) (first : UInt8) : Nat → List UInt16 → Option (Registers×Bool)
  | _,[] => some (r,true)
  | i,value::values => do
    let address ← add first (UInt8.ofNat i)
    match r.write? address value now with
    | none => some (r,false)
    | some r => writeAll r now first (i+1) values

theorem read_eq (r : Registers) (address : UInt8) (ctx : RegisterContext) :
    read r address ctx=some (r.read address ctx) := by
  unfold read
  split_ifs with h
  · have offset : sub address RegisterContext.firstCountdown=
        some (address-RegisterContext.firstCountdown) := if_pos h
    have behind : (address-RegisterContext.firstCountdown).toNat=address.toNat-22 :=
      UInt8.toNat_sub_of_le _ _ h
    have zones : 22≤address.toNat := UInt8.le_iff_toNat_le.mp h
    rw [offset]
    change some ((ctx.countdown[(address-RegisterContext.firstCountdown).toNat]?).getD 0)=_
    rw [behind,Registers.read]
    split <;> first | omega | rw [if_pos zones]
  · rfl

theorem writeAll_eq (r : Registers) (now : Int) (first : UInt8) (i : Nat) (values : List UInt16)
    (h : first.toNat+i+values.length<256) :
    writeAll r now first i values=some (r.writeAll now (first+UInt8.ofNat i) values) := by
  induction values generalizing r i with
  | nil => rfl
  | cons value values ih =>
    rw [List.length_cons] at h
    have small : i<256 := by omega
    have place : add first (UInt8.ofNat i)=some (first+UInt8.ofNat i) :=
      add_eq (by rw [UInt8.toNat_ofNat_of_lt' small]; omega)
    rw [writeAll,place,Registers.writeAll]
    change (match r.write? (first+UInt8.ofNat i) value now with
      | none => some (r,false)
      | some r => writeAll r now first (i+1) values)=_
    cases r.write? (first+UInt8.ofNat i) value now with
    | none => rfl
    | some r =>
      dsimp only
      rw [ih r (i+1) (by omega),UInt8.ofNat_add,UInt8.add_assoc]
      rfl

section Send

variable [Carrier σ]

def nextSequence (n : UInt8) : Option UInt8 := if 254≤n then some 0 else add n 1

/-- The entry of a unit, and a new one in its place. -/
def look (t : UnitTable UInt8) (id : UInt8) : Option UInt8 := t.entries[id.toNat]?

def put (t : UnitTable UInt8) (id a : UInt8) : Option (UnitTable UInt8) :=
  if h : id.toNat<256 then some ⟨t.entries.set id.toNat a h⟩ else none

def send (l : Link σ) (target : Destination) (frame : List UInt8) : Option (Link σ×Bool) :=
  match target with
  | .everyone => some (l.emit .broadcast frame)
  | .unit id =>
    match l.resolve id with
    | .broadcast => some (l.emit .broadcast frame)
    | address => do
      let n ← look l.outbound id
      let (l,ok) := l.emit address (n::frame)
      if ok then
        let next ← nextSequence n
        let outbound ← put l.outbound id next
        some ({l with outbound},ok)
      else some (l,ok)

def sendFrame (c : Controller σ) (target : Destination) (f : Frame) : Option (Controller σ×Bool) :=
  match f.encode with
  | .error _ => some (c,false)
  | .ok bytes => do
    let (link,ok) ← send c.link target bytes
    some ({c with link},ok)

/-- Take a transaction id; behind the last octet they start again from 1. -/
def takeTransaction (c : Controller σ) : Controller σ×UInt8 :=
  let n := c.nextTransaction
  ({c with nextTransaction:=(add n 1).getD 1},n)

def request (c : Controller σ) (station : UInt8) (m : Message) : Option (Controller σ×Bool) := do
  let (c,transaction) := takeTransaction c
  let zones := c.commandedZones station m
  let (c,sent) ← sendFrame c (.unit station) ⟨transaction,station,c.unit,m⟩
  if sent && !zones.isEmpty then
    let c := c.settle station transaction
    some ({c with inFlight:=⟨station,transaction,zones⟩::c.inFlight},true)
  else some (c,sent)

def reply (c : Controller σ) (request : Frame) (m : Message) : Option (Controller σ) := do
  let (c,_) ← sendFrame c (.unit request.source) ⟨request.transaction,request.source,c.unit,m⟩
  some c

theorem nextSequence_eq (n : UInt8) : nextSequence n=some (Watering.nextSequence n) := by
  unfold nextSequence Watering.nextSequence
  split_ifs with h
  · rfl
  · refine add_eq ?_
    have small : n.toNat<254 := UInt8.lt_iff_toNat_lt.mp (UInt8.not_le.mp h)
    have one : (1 : UInt8).toNat=1 := rfl
    omega

theorem look_eq (t : UnitTable UInt8) (id : UInt8) : look t id=some (t.get id) :=
  Vector.getElem?_eq_getElem id.toNat_lt

theorem put_eq (t : UnitTable UInt8) (id a : UInt8) : put t id a=some (t.set id a) :=
  dif_pos id.toNat_lt

theorem send_eq (l : Link σ) (target : Destination) (frame : List UInt8) :
    send l target frame=some (l.send target frame) := by
  cases target with
  | everyone => rfl
  | unit id =>
    unfold send Link.send
    dsimp only
    cases l.resolve id with
    | broadcast => rfl
    | short | long =>
      simp only [look_eq,nextSequence_eq,put_eq,Option.bind_eq_bind,Option.bind_some]
      split_ifs <;> rfl

theorem sendFrame_eq (c : Controller σ) (target : Destination) (f : Frame) :
    sendFrame c target f=some (c.sendFrame target f) := by
  unfold sendFrame Controller.sendFrame
  cases f.encode with
  | error => rfl
  | ok bytes =>
    dsimp only
    rw [send_eq]
    rfl

omit [Carrier σ] in
theorem takeTransaction_eq (c : Controller σ) : takeTransaction c=c.takeTransaction := by
  have next : (add c.nextTransaction 1).getD 1=
      if c.nextTransaction=255 then 1 else c.nextTransaction+1 := by
    have one : (1 : UInt8).toNat=1 := rfl
    have bound := c.nextTransaction.toNat_lt
    unfold add
    split_ifs with h h' h'
    · rw [h'] at h
      exact absurd h (by decide)
    · rfl
    · rfl
    · refine absurd (UInt8.toNat_inj.mp ?_) h'
      change _=255
      omega
  rw [takeTransaction,next]
  rfl

theorem request_eq (c : Controller σ) (station : UInt8) (m : Message) :
    request c station m=some (c.request station m) := by
  unfold request Controller.request
  simp only [takeTransaction_eq,sendFrame_eq,Option.bind_eq_bind,Option.bind_some]
  split_ifs <;> rfl

theorem reply_eq (c : Controller σ) (f : Frame) (m : Message) : reply c f m=some (c.reply f m) := by
  rw [reply,sendFrame_eq]
  rfl

end Send

section Zones

variable [Carrier σ]

def zonesReport (c : Controller σ) (station : Station) (first count : UInt8) : Option Message := do
  let mask ← build first count fun ch => (c.zones.state (station.zoneOf ch)).isOn
  some (.zonesReport (if station.enabled then 1 else 0) first count mask)

def pushZones (c : Controller σ) (station : UInt8) : Option (Controller σ) :=
  match c.eventMaster,c.site.station? station with
  | some master,some s =>
    if station=c.unit ∧ master.events.contains .reportZones then do
      let report ← zonesReport c s 0 s.zoneCount
      let (c,_) ← sendFrame c (.unit master.station) ⟨0,master.station,c.unit,report⟩
      some c
    else some c
  | _,_ => some c

/-- Ask another station to switch one channel. -/
def switch (c : Controller σ) (station channel minutes schedule : UInt8) :
    Option (Controller σ×Bool) := do
  let mask ← build channel 1 fun _ => true
  request c station (.zonesSet .standard schedule channel minutes 1 mask)

def close (c : Controller σ) (z : Zone) (st : Station) : Option (Controller σ×Bool) :=
  if st.network.isLocal then some (c.setValve st z.channel false)
  else switch c z.station z.channel 0 0

def stopped (c : Controller σ) (i : UInt8) (confirmed : Bool) (station : UInt8) (origin : Origin) :
    Option (Controller σ) :=
  let c := Controller.record {c with zones:=c.zones.stop i confirmed} (.zoneStopped i .commanded)
  if origin=.here then pushZones c station else some c

def stopZoneFrom (c : Controller σ) (i : UInt8) (origin : Origin) : Option (Controller σ×Bool) :=
  match c.site.zone? i with
  | none => some (c,false)
  | some z =>
    if c.zones.state i=.off then some (c,true)
    else match c.site.enabledStation? z.station with
      | none => some (c.failSafeOff i,false)
      | some st => do
        let (c,ok) ← close c z st
        if ok then
          let c ← stopped c i st.network.isLocal z.station origin
          some (c,true)
        else some (c,false)

def openFor (c : Controller σ) (z : Zone) (st : Station) (run : ZoneRun) :
    Option (Controller σ×Bool) :=
  if st.network.isLocal then some (c.setValve st z.channel true)
  else switch c z.station z.channel run.minutes (run.schedule.getD 0)

def started (c : Controller σ) (run : ZoneRun) (confirmed : Bool) (now : Instant) (station : UInt8)
    (origin : Origin) : Option (Controller σ) :=
  let c := Controller.record {c with zones:=c.zones.start run confirmed now} (.zoneStarted run)
  if origin=.here then pushZones c station else some c

def startZoneFrom (c : Controller σ) (run : ZoneRun) (origin : Origin) : Option (Controller σ×Bool) :=
  match c.site.zone? run.zone with
  | none => some (c,false)
  | some z =>
    if !z.enabled then some (c,false)
    else match c.site.enabledStation? z.station with
      | none => some (c.failSafeOff run.zone,false)
      | some st =>
        let run := c.capped run
        if run.minutes=0 then stopZoneFrom c run.zone origin
        else do
          let now := c.now
          let (c,ok) ← openFor c z st run
          if ok then
            let c ← started c run st.network.isLocal now z.station origin
            some (c,true)
          else some (c,false)

def applyZones (c : Controller σ) (station : Station) (schedule minutes : UInt8) :
    List UInt8 → Option (Controller σ×Bool)
  | [] => some (c,true)
  | channel::channels => do
    let zone := station.zoneOf channel
    let run : ZoneRun := {zone,minutes,schedule:=if schedule=0 then none else some schedule}
    let (c,ok) ← if minutes=0 then stopZoneFrom c zone .peer else startZoneFrom c run .peer
    if ok then applyZones c station schedule minutes channels else some (c,false)

omit [Carrier σ] in
theorem zonesReport_eq (c : Controller σ) (station : Station) (first count : UInt8) :
    zonesReport c station first count=some (c.zonesReport station first count) := by
  rw [zonesReport,build_eq]
  rfl

theorem pushZones_eq (c : Controller σ) (station : UInt8) :
    pushZones c station=some (c.pushZones station) := by
  unfold pushZones Controller.pushZones
  cases c.eventMaster with
  | none => rfl
  | some master =>
    cases c.site.station? station with
    | none => rfl
    | some s =>
      simp only [zonesReport_eq,sendFrame_eq,Option.bind_eq_bind,Option.bind_some]
      split_ifs <;> rfl

theorem switch_on_eq (c : Controller σ) (station channel minutes schedule : UInt8) :
    switch c station channel minutes schedule=some (c.channelOn station channel minutes schedule) := by
  rw [switch,build_eq]
  exact request_eq ..

theorem switch_off_eq (c : Controller σ) (station channel : UInt8) :
    switch c station channel 0 0=some (c.channelOff station channel) := switch_on_eq ..

theorem close_eq (c : Controller σ) (z : Zone) (st : Station) : close c z st=some (c.close z st) := by
  unfold close Controller.close
  rw [switch_off_eq,←apply_ite some]

theorem stopped_eq (c : Controller σ) (i : UInt8) (confirmed : Bool) (station : UInt8)
    (origin : Origin) :
    stopped c i confirmed station origin=some (c.stopped i confirmed station origin) := by
  unfold stopped Controller.stopped
  dsimp only
  rw [pushZones_eq,←apply_ite some]

theorem stopZoneFrom_eq (c : Controller σ) (i : UInt8) (origin : Origin) :
    stopZoneFrom c i origin=some (c.stopZoneFrom i origin) := by
  unfold stopZoneFrom
  cases hz : c.site.zone? i with
  | none => rw [(Controller.stopZoneFrom_else origin).1 hz]
  | some z =>
    dsimp only
    by_cases off : c.zones.state i=.off
    · rw [if_pos off,(Controller.stopZoneFrom_else origin).2.1 z hz off]
    rw [if_neg off]
    cases hs : c.site.enabledStation? z.station with
    | none => rw [(Controller.stopZoneFrom_else origin).2.2 z hz off hs]
    | some st =>
      simp only [Controller.stopZoneFrom_eq origin hz off hs,close_eq,stopped_eq,Option.bind_eq_bind,
        Option.bind_some]
      exact (apply_ite some ..).symm

theorem openFor_eq (c : Controller σ) (z : Zone) (st : Station) (run : ZoneRun) :
    openFor c z st run=some (c.openFor z st run) := by
  unfold openFor Controller.openFor
  rw [switch_on_eq,←apply_ite some]

theorem started_eq (c : Controller σ) (run : ZoneRun) (confirmed : Bool) (now : Instant)
    (station : UInt8) (origin : Origin) :
    started c run confirmed now station origin=some (c.started run confirmed now station origin) := by
  unfold started Controller.started
  dsimp only
  rw [pushZones_eq,←apply_ite some]

theorem startZoneFrom_eq (c : Controller σ) (run : ZoneRun) (origin : Origin) :
    startZoneFrom c run origin=some (c.startZoneFrom run origin) := by
  unfold startZoneFrom
  cases hz : c.site.zone? run.zone with
  | none => rw [(c.startZoneFrom_else run origin).1 fun z may => by rw [may.1] at hz; cases hz]
  | some z =>
    dsimp only
    cases he : z.enabled with
    | false =>
      rw [(c.startZoneFrom_else run origin).1 fun y may => ?_]
      · rfl
      · obtain rfl := Option.some.inj (hz.symm.trans may.1)
        rw [may.2] at he
        cases he
    | true =>
      have may : c.site.MayRun run.zone z := ⟨hz,he⟩
      cases hs : c.site.enabledStation? z.station with
      | none =>
        rw [(c.startZoneFrom_else run origin).2 z may hs]
        rfl
      | some st =>
        simp only [Controller.startZoneFrom_eq origin may hs,stopZoneFrom_eq,openFor_eq,started_eq,
          Option.bind_eq_bind,Option.bind_some,←apply_ite some]
        rfl

theorem applyZones_eq (c : Controller σ) (station : Station) (schedule minutes : UInt8)
    (channels : List UInt8) : applyZones c station schedule minutes channels=
      some (c.applyZones station schedule minutes channels) := by
  induction channels generalizing c with
  | nil => rfl
  | cons channel channels ih =>
    rw [applyZones,Controller.applyZones]
    by_cases off : minutes=0
    · simp only [if_pos off,stopZoneFrom_eq,ih,←apply_ite some,Option.bind_eq_bind,Option.bind_some]
    · simp only [if_neg off,startZoneFrom_eq,ih,←apply_ite some,Option.bind_eq_bind,Option.bind_some]

end Zones

end Watering.Checked
