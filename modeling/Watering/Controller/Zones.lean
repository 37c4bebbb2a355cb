import Watering.Controller.Requests
import Watering.Schedule.Actuator

namespace Watering.Controller

variable {σ : Type}

/-- Drive the output of a local channel; the answer tells whether there is one. -/
def setValve (c : Controller σ) (station : Station) (channel : UInt8) (on : Bool) :
    Controller σ×Bool :=
  match station.output? channel with
  | none => (c,false)
  | some output =>
    let (valves,ok) := c.valves.set output on
    ({c with valves},ok)

def releaseValve (c : Controller σ) (zone : Zone) : Controller σ :=
  match c.site.station? zone.station with
  | some s => if s.network.isLocal then (c.setValve s zone.channel false).1 else c
  | none => c

/-- Turn off a zone whose station is disabled or unknown, whatever it was doing. -/
def failSafeOff (c : Controller σ) (index : UInt8) : Controller σ :=
  let c := match c.site.zone? index with
    | some zone => c.releaseValve zone
    | none => c
  if c.zones.state index=.off then c
  else record {c with zones:=c.zones.forceOff index} (.zoneStopped index .stationDisabled)

variable [Carrier σ]

/-- Stop one zone; the answer tells whether it was done or was not needed. -/
def stopZoneFrom (c : Controller σ) (index : UInt8) (origin : Origin) : Controller σ×Bool :=
  match c.site.zone? index with
  | none => (c,false)
  | some zone =>
    if c.zones.state index=.off then (c,true)
    else match c.site.enabledStation? zone.station with
      | none => (c.failSafeOff index,false)
      | some station =>
        let isLocal := station.network.isLocal
        let (c,ok) :=
          if isLocal then c.setValve station zone.channel false
          else c.channelOff zone.station zone.channel
        if !ok then (c,false)
        else
          let c := record {c with zones:=c.zones.stop index isLocal} (.zoneStopped index .commanded)
          (if origin=.here then c.pushZones zone.station else c,true)

/-- Start a run, cut to the longest allowed; one of no length is a stop. -/
def startZoneFrom (c : Controller σ) (run : ZoneRun) (origin : Origin) : Controller σ×Bool :=
  match c.site.zone? run.zone with
  | none => (c,false)
  | some zone =>
    if !zone.enabled then (c,false)
    else match c.site.enabledStation? zone.station with
      | none => (c.failSafeOff run.zone,false)
      | some station =>
        let run := {run with minutes:=min run.minutes c.maxRun}
        if run.minutes=0 then c.stopZoneFrom run.zone origin
        else
          let isLocal := station.network.isLocal
          let now := c.now
          let (c,ok) :=
            if isLocal then c.setValve station zone.channel true
            else c.channelOn zone.station zone.channel run.minutes (run.schedule.getD 0)
          if !ok then (c,false)
          else
            let c := record {c with zones:=c.zones.start run isLocal now} (.zoneStarted run)
            (if origin=.here then c.pushZones zone.station else c,true)

def startZone (c : Controller σ) (run : ZoneRun) : Controller σ×Bool := c.startZoneFrom run .here

def stopZone (c : Controller σ) (index : UInt8) : Controller σ×Bool := c.stopZoneFrom index .here

def stopZones (c : Controller σ) (zones : List UInt8) (confirmed : Bool) : Controller σ :=
  zones.foldl (fun c index =>
    record {c with zones:=c.zones.stop index confirmed} (.zoneStopped index .commanded)) c

def turnOffStation (c : Controller σ) (id : UInt8) (zones : List (UInt8×UInt8)) : Controller σ :=
  match c.site.enabledStation? id with
  | none => zones.foldl (fun c (index,_) => c.failSafeOff index) c
  | some station =>
    if station.network.isLocal then
      let c := zones.foldl (fun c (_,channel) => (c.setValve station channel false).1) c
      (c.stopZones (zones.map (·.1)) true).pushZones id
    else
      let mask := zones.foldl (fun (m : ZoneMask) (_,channel) => m.set channel true)
        (.empty 0 station.zoneCount)
      match c.request id (.zonesSet .standard 0 0 0 station.zoneCount mask) with
      | (c,false) => c
      | (c,true) => (c.stopZones (zones.map (·.1)) false).pushZones id

/-- Stop every zone that is on, with one request to each station. -/
def turnOffAll (c : Controller σ) : Controller σ :=
  let active := c.zones.active
  let owned := active.filterMap fun index => (c.site.zone? index).map (index,·)
  let zones := active.foldl (fun (b : ZoneBoard) index =>
    if (c.site.zone? index).isSome then b else b.forceOff index) c.zones
  let ids := ((List.range 256).map UInt8.ofNat).filter fun id => owned.any (·.2.station==id)
  ids.foldl (fun c id =>
    c.turnOffStation id ((owned.filter (·.2.station==id)).map fun (index,z) => (index,z.channel)))
    {c with zones}

/-- Tell every enabled station elsewhere to turn all of its channels off. -/
def stopStations (c : Controller σ) : Controller σ :=
  c.site.stationIds.foldl (fun c id =>
    match c.site.enabledStation? id with
    | some station => if station.network.isLocal then c else (c.allChannelsOff id).1
    | none => c) c

/-- Stop everything: release all outputs, tell all stations, and turn all zones off at once. -/
def stopAll (c : Controller σ) : Controller σ :=
  let c := stopStations {c with valves:=c.valves.allOff}
  let zones := (List.range (UInt8.ofNat c.zones.size).toNat).map UInt8.ofNat
  let active := zones.filter fun z => c.zones.state z≠.off
  let c := {c with zones:=c.zones.allOff}
  let c := active.foldl (fun c z => c.record (.zoneStopped z .commanded)) c
  c.pushZones c.unit

instance : Actuator (Controller σ) where
  turnOn := startZone
  turnOffAll := turnOffAll
  stopAll := stopAll
  maxRun := maxRun

end Watering.Controller
