import Watering.Config.Entry
import Watering.Config.Timing
import Watering.Schedule.Schedule
import Watering.Site.Site

namespace Watering.Config

/-- A station as installed, with the number of sensors listed for it. -/
def StationEntry.station (s : StationEntry) (sensors : List Sensor) : Station :=
  {name:=s.name,enabled:=s.enabled,remoteStatus:=s.remoteStatus,remoteControl:=s.remoteControl,
    network:=s.network,address:=s.address,zoneCount:=s.zoneCount,firstZone:=s.firstZone,
    sensorCount:=lengthCapped (sensors.filter (·.station==s.id))}

def ZoneEntry.override (e : ZoneEntry) (z : Zone) : Zone :=
  {z with enabled:=e.enabled,name:=if e.name="" then z.name else e.name}

def site (c : Config) : Site :=
  let s : Site := {unit:=c.unit,maxRun:=c.maxRun}
  let s := c.stations.foldl (fun s e => s.addStation e.id (e.station c.sensors)) s
  let s := c.zones.foldl (fun (s : Site) z =>
    match c.station? z.station with
    | some e => s.modifyZone (addCapped e.firstZone z.channel) z.override
    | none => s) s
  c.sensors.foldl (fun s x => s.addSensor x) s

namespace ScheduleEntry

/-- Days that have no meaning are left out. -/
def recurrence (s : ScheduleEntry) : Recurrence :=
  match s.interval with
  | some n => .interval n
  | none => .weekdays ((s.days.filterMap dayBit?).foldl (·|||·) 0)

def schedule (s : ScheduleEntry) : Schedule :=
  {name:=s.name,enabled:=s.enabled,recurrence:=s.recurrence,
    startTimes:=s.startTimes.filterMap startMinute?,durations:=s.durations,
    weatherAdjust:=s.weatherAdjust}

end ScheduleEntry

def allSchedules (c : Config) : List Schedule := c.schedules.map (·.schedule)

/-- The outputs of zones wired here, each with its pin. -/
def valvePins (c : Config) : List (UInt16×UInt8) :=
  c.zones.filterMap fun z => do
    let e ← c.station? z.station
    let pin ← z.pin
    let output ← if e.network.isLocal then (e.station c.sensors).output? z.channel else none
    return (output,pin)

/-- Seconds that local time is ahead of UTC; an offset of 26 hours or more counts as none. -/
def utcOffsetSeconds (c : Config) : Int :=
  let s := 60*c.utcOffset
  if s.natAbs<26*3600 then s else 0

end Watering.Config
