import Std.Data.TreeSet
import Watering.Frame.Wire
import Watering.Journal
import Watering.Radio.Link
import Watering.Registers
import Watering.Sensor.Bank
import Watering.Site.Site
import Watering.Valves
import Watering.Zone.Board

namespace Watering

inductive Role where
  /-- Asks stations and takes in what they report. -/
  | requester
  /-- Serves what is asked of it. -/
  | responder
  /-- Does both. -/
  | gateway
deriving DecidableEq,Repr

namespace Role

def serves : Role → Bool
  | requester => false
  | _ => true

def consumes : Role → Bool
  | responder => false
  | _ => true

def name : Role → String
  | requester => "Requester"
  | responder => "Responder"
  | gateway => "Gateway"

end Role

/-- Who asked for a change of a zone; what a peer asked for is not reported back unasked. -/
inductive Origin where
  | here
  | peer
deriving DecidableEq,Repr

/-- Whom a station sends its reports to. -/
structure EventMaster where
  station : UInt8 := 0
  address : UInt16 := 0
  events : EventFlags := {}
deriving DecidableEq,Repr

/-- What other stations told: readings and registers by station and index, masters, cookies of pings
and the latest refusal by station. -/
structure RemoteView where
  sensors : Std.TreeMap UInt8 (Std.TreeMap UInt8 UInt16) := {}
  registers : Std.TreeMap UInt8 (Std.TreeMap UInt8 UInt16) := {}
  eventMasters : Std.TreeMap UInt8 EventMaster := {}
  discovered : Std.TreeSet UInt8 := {}
  pings : Std.TreeMap UInt8 UInt32 := {}
  errors : Std.TreeMap UInt8 (UInt8×Exception) := {}

/-- A change of zones that a station has not answered yet. -/
structure Outstanding where
  station : UInt8
  transaction : UInt8
  zones : List UInt8
deriving DecidableEq,Repr

structure Controller (σ : Type) where
  role : Role
  link : Link σ
  site : Site
  valves : ValveBoard
  sensors : SensorBank
  zones : ZoneBoard
  registers : Registers
  eventMaster : Option EventMaster := none
  remote : RemoteView := {}
  journal : Journal := {}
  inFlight : List Outstanding := []
  nextTransaction : UInt8 := 1
  ticks : Nat := 0
  /-- The readings that changes are measured against. -/
  lastReadings : List UInt16 := []
  /-- The system clock; it is moved from outside. -/
  clock : Instant

namespace Controller

variable {σ τ : Type}

def unit (c : Controller σ) : UInt8 := c.registers.unit

/-- The station clock: the system clock and what was set against it. -/
def now (c : Controller σ) : Instant := c.clock.shift c.registers.clockOffset

def maxRun (c : Controller σ) : UInt8 := c.registers.maxRun.getD c.site.maxRun

def record (c : Controller σ) (e : Event) : Controller σ :=
  {c with journal:=c.journal.push ⟨⟨c.now,0⟩,e⟩}

def start (role : Role) (carrier : σ) (site : Site) (valves : ValveBoard) (sensors : SensorBank)
    (clock : Instant) : Controller σ :=
  let c : Controller σ :=
    {role,site,valves,sensors,clock,link:={carrier},registers:={unit:=site.unit},
      zones:=.ofCount site.zoneCount.toNat}
  c.record (.system (role.name++" controller started as unit "++toString site.unit.toNat))

def withCarrier (c : Controller σ) (carrier : τ) : Controller τ :=
  {role:=c.role,link:=c.link.withCarrier carrier,site:=c.site,valves:=c.valves,sensors:=c.sensors,
    zones:=c.zones,registers:=c.registers,eventMaster:=c.eventMaster,remote:=c.remote,
    journal:=c.journal,inFlight:=c.inFlight,nextTransaction:=c.nextTransaction,ticks:=c.ticks,
    lastReadings:=c.lastReadings,clock:=c.clock}

def settle (c : Controller σ) (station transaction : UInt8) : Controller σ :=
  {c with inFlight:=c.inFlight.filter fun o => !(o.station==station && o.transaction==transaction)}

def outstanding? (c : Controller σ) (station transaction : UInt8) : Option (List UInt8) :=
  (c.inFlight.find? fun o => o.station==station && o.transaction==transaction).map (·.zones)

/-- The zones that a change sent to a station selects. -/
def commandedZones (c : Controller σ) (station : UInt8) : Message → List UInt8
  | .zonesSet _ _ first _ count mask =>
    match c.site.station? station with
    | none => []
    | some s =>
      ((span first count).filter fun ch => ch<s.zoneCount && mask.get ch).map s.zoneOf
  | _ => []

def zonesReport (c : Controller σ) (station : Station) (first count : UInt8) : Message :=
  .zonesReport (if station.enabled then 1 else 0) first count
    (.build first count fun ch => (c.zones.state (station.zoneOf ch)).isOn)

/-- What reads of the own registers depend on. -/
def registerContext (c : Controller σ) : RegisterContext :=
  let station := c.site.station? c.unit
  let minutesLeft (s : Station) (ch : UInt8) : UInt16 :=
    let remaining := ((c.zones.status? (s.zoneOf ch)).map (·.remaining)).getD 0
    UInt16.ofNat ((remaining+(ticksPerMinute-1))/ticksPerMinute)
  {zoneCount:=(station.map (·.zoneCount)).getD 0,
    sensorKinds:=(c.site.sensors.filter (·.station==c.unit)).map (·.kind),
    now:=c.now.seconds,
    countdown:=(station.map fun s => (span 0 s.zoneCount).map (minutesLeft s)).getD [],
    maxRun:=c.site.maxRun}

variable [Carrier σ]

/-- Send a frame; one that does not fit is not sent. -/
def sendFrame (c : Controller σ) (target : Destination) (f : Frame) : Controller σ×Bool :=
  match f.encode with
  | .error _ => (c,false)
  | .ok bytes =>
    let (link,ok) := c.link.send target bytes
    ({c with link},ok)

/-- Take the next transaction id; ids run from 1 to 255 and around. -/
def takeTransaction (c : Controller σ) : Controller σ×UInt8 :=
  let n := c.nextTransaction
  ({c with nextTransaction:=if n=255 then 1 else n+1},n)

/-- Ask something of a station. A change that went out is outstanding until answered. -/
def request (c : Controller σ) (station : UInt8) (m : Message) : Controller σ×Bool :=
  let (c,transaction) := c.takeTransaction
  let zones := c.commandedZones station m
  let (c,sent) := c.sendFrame (.unit station) ⟨transaction,station,c.unit,m⟩
  if sent && !zones.isEmpty then
    let c := c.settle station transaction
    ({c with inFlight:=⟨station,transaction,zones⟩::c.inFlight},true)
  else (c,sent)

/-- Answer a request under its own transaction id. -/
def reply (c : Controller σ) (request : Frame) (m : Message) : Controller σ :=
  (c.sendFrame (.unit request.source) ⟨request.transaction,request.source,c.unit,m⟩).1

/-- Tell a unit something that it did not ask for. -/
def notify (c : Controller σ) (target : UInt8) (m : Message) : Controller σ :=
  (c.sendFrame (.unit target) ⟨0,target,c.unit,m⟩).1

/-- Report a station's zones to the event master, if it is the own station and the master wants it. -/
def pushZones (c : Controller σ) (station : UInt8) : Controller σ :=
  match c.eventMaster,c.site.station? station with
  | some master,some s =>
    if station=c.unit ∧ master.events.contains .reportZones then
      c.notify master.station (c.zonesReport s 0 s.zoneCount)
    else c
  | _,_ => c

def pushSensors (c : Controller σ) (values : List UInt16) : Controller σ :=
  match c.eventMaster with
  | some master =>
    if master.events.contains .reportSensors then c.notify master.station (.sensorsReport 0 values)
    else c
  | none => c

end Controller

end Watering
