import Watering.Controller.Outcome
import Watering.Controller.Zones

namespace Watering

inductive Access where
  | status
  | control
deriving DecidableEq,Repr

def Access.allowedBy (s : Station) : Access → Bool
  | status => s.remoteStatus
  | control => s.remoteControl

/-- A range of at least one item below `limit`; from 0 on, `everything` stands for all of them. -/
def resolveRange (first count limit : UInt8) : Option (UInt8×UInt8) :=
  let count := if first=0 ∧ count=everything then limit else count
  if 1≤count ∧ first.toNat+count.toNat≤limit.toNat then some (first,count) else none

namespace Registers

/-- Write values to consecutive registers up to the first that cannot be written; the answer tells
whether all were. -/
def writeAll (r : Registers) (now : Int) (address : UInt8) : List UInt16 → Registers×Bool
  | [] => (r,true)
  | value::values =>
    match r.write? address value now with
    | none => (r,false)
    | some r => r.writeAll now (address+1) values

end Registers

namespace Controller

variable {σ : Type}

/-- The own station, if peers may use it so. -/
def addressable? (c : Controller σ) (access : Access) : Option Station :=
  (c.site.enabledStation? c.unit).filter access.allowedBy

variable [Carrier σ]

/-- Refuse a request, and tell the asker if `tell`. -/
def reject (c : Controller σ) (request : Frame) (e : Exception) (tell : Bool) :
    Controller σ×Outcome :=
  let f := request.function
  let c :=
    if e=.applyFailure then
      c.record (.error (f.name++" from station "++toString request.source.toNat++
        " could not be applied"))
    else c
  let c := if tell then c.reply request (.responseError f.code e) else c
  (c,.rejected f e)

def handle (c : Controller σ) (request : Frame) : Controller σ×Outcome :=
  (c,.handled request.function)

/-- Acknowledge a change as its flags ask: with the report, and with a short response. -/
def acknowledge (c : Controller σ) (request : Frame) (flags : AckFlags)
    (report : Controller σ → Message) : Controller σ×Outcome :=
  let c := if flags.contains .report then c.reply request (report c) else c
  let c := if flags.contains .brief then c.reply request (.responseOk request.function.code) else c
  c.handle request

def serveZonesRead (c : Controller σ) (request : Frame) (first count : UInt8) :
    Controller σ×Outcome :=
  match c.addressable? .status with
  | none => c.reject request .illegalAddress true
  | some station =>
    match resolveRange first count station.zoneCount with
    | none => c.reject request .illegalAddress true
    | some (first,count) =>
      (c.reply request (c.zonesReport station first count)).handle request

/-- Run or stop channels of the own station up to the first that fails; the answer tells whether
none did. -/
def applyZones (c : Controller σ) (station : Station) (schedule minutes : UInt8) :
    List UInt8 → Controller σ×Bool
  | [] => (c,true)
  | channel::channels =>
    let zone := station.zoneOf channel
    let (c,ok) :=
      if minutes=0 then c.stopZoneFrom zone .peer
      else
        c.startZoneFrom
          {zone,minutes,schedule:=if schedule=0 then none else some schedule} .peer
    if ok then c.applyZones station schedule minutes channels else (c,false)

def serveZonesSet (c : Controller σ) (request : Frame) (flags : AckFlags)
    (schedule first minutes count : UInt8) (mask : ZoneMask) : Controller σ×Outcome :=
  let tell := flags.contains .error
  match c.addressable? .control with
  | none => c.reject request .illegalAddress tell
  | some station =>
    if resolveRange first count station.zoneCount=none ∨ count=everything then
      c.reject request .illegalAddress tell
    else
      match c.applyZones station schedule minutes ((span first count).filter mask.get) with
      | (c,false) => c.reject request .applyFailure tell
      | (c,true) => c.acknowledge request flags fun c => c.zonesReport station first count

def serveSensorsRead (c : Controller σ) (request : Frame) (first count : UInt8) :
    Controller σ×Outcome :=
  match c.addressable? .status with
  | none => c.reject request .illegalAddress true
  | some _ =>
    match resolveRange first count c.sensors.count with
    | none => c.reject request .illegalAddress true
    | some (first,count) =>
      (c.reply request (.sensorsReport first ((span first count).map c.sensors.read))).handle request

def registersReport (c : Controller σ) (first count : UInt8) : Message :=
  let ctx := c.registerContext
  .registersReport first ((span first count).map fun a => c.registers.read a ctx)

def serveRegistersRead (c : Controller σ) (request : Frame) (first count : UInt8) :
    Controller σ×Outcome :=
  match resolveRange first count (UInt8.ofNat (min c.registerContext.count 255)) with
  | none => c.reject request .illegalAddress true
  | some (first,count) => (c.reply request (c.registersReport first count)).handle request

def serveRegistersSet (c : Controller σ) (request : Frame) (flags : AckFlags) (first : UInt8)
    (values : List UInt16) : Controller σ×Outcome :=
  let tell := flags.contains .error
  if values=[] ∨ min c.registerContext.count 255<first.toNat+values.length then
    c.reject request .illegalAddress tell
  else
    match c.registers.writeAll c.clock.seconds first values with
    | (registers,false) => reject {c with registers} request .applyFailure tell
    | (registers,true) =>
      acknowledge {c with registers} request flags fun c =>
        c.registersReport first (UInt8.ofNat values.length)

def eventMasterReport (c : Controller σ) : Message :=
  let m := c.eventMaster.getD {}
  .eventMasterReport m.events m.station m.address

def serveEventMasterSet (c : Controller σ) (request : Frame) (flags : AckFlags)
    (events : EventFlags) (master : UInt8) (address : UInt16) : Controller σ×Outcome :=
  let m : EventMaster :=
    if events.contains .registerSelf then ⟨request.source,request.source.toUInt16,events⟩
    else ⟨master,address,events⟩
  acknowledge {c with eventMaster:=some m} request flags eventMasterReport

def serve (c : Controller σ) (request : Frame) : Controller σ×Outcome :=
  match request.message with
  | .zonesRead first count => c.serveZonesRead request first count
  | .zonesSet flags schedule first minutes count mask =>
    c.serveZonesSet request flags schedule first minutes count mask
  | .sensorsRead first count => c.serveSensorsRead request first count
  | .registersRead first count => c.serveRegistersRead request first count
  | .registersSet flags first values => c.serveRegistersSet request flags first values
  | .eventMasterRead => (c.reply request c.eventMasterReport).handle request
  | .eventMasterSet flags events master address =>
    c.serveEventMasterSet request flags events master address
  | .ping cookie => (c.reply request (.pingReply cookie)).handle request
  | .scan => (c.reply request .scanReply).handle request
  | .timeBroadcast time =>
    let registers := {c.registers with clockOffset:=time.toNat-c.clock.seconds}
    handle {c with registers} request
  | _ => c.handle request

end Controller

end Watering
