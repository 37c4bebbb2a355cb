import Watering.Config.Entry
import Watering.Document.Record

namespace Watering

open Document

namespace Config

def StationEntry.ofValue? (d : Dialect) (v : Value) : Option StationEntry := do
  let r ← v.record? d ["id","name","enabled","remote_status","remote_control","network",
    "network_address","zone_count","first_zone"]
  return {
    id:=← r.need "id" Value.octet?
    name:=← r.need "name" Value.text?
    enabled:=← r.take "enabled" Value.boolean? true
    remoteStatus:=← r.take "remote_status" Value.boolean? true
    remoteControl:=← r.take "remote_control" Value.boolean? true
    network:=← r.need "network" (Value.name? d NetworkKind.ofName?)
    address:=← r.take "network_address" Value.word? 0
    zoneCount:=← r.need "zone_count" Value.octet?
    firstZone:=← r.take "first_zone" Value.octet? 0}

def ZoneEntry.ofValue? (d : Dialect) (v : Value) : Option ZoneEntry := do
  let r ← v.record? d ["station","channel","name","enabled","valve_gpio_pin"]
  return {
    station:=← r.need "station" Value.octet?
    channel:=← r.need "channel" Value.octet?
    name:=← r.take "name" Value.text? ""
    enabled:=← r.take "enabled" Value.boolean? true
    pin:=← r.take "valve_gpio_pin" (Value.orNull? Value.octet?) none}

def sensorOfValue? (d : Dialect) (v : Value) : Option Sensor := do
  let r ← v.record? d ["kind","station","channel"]
  return {
    kind:=← r.need "kind" (Value.name? d SensorKind.ofName?)
    station:=← r.need "station" Value.octet?
    channel:=← r.need "channel" Value.octet?}

def ScheduleEntry.ofValue? (d : Dialect) (v : Value) : Option ScheduleEntry := do
  let r ← v.record? d ["name","enabled","days","interval","start_times","durations",
    "weather_adjust"]
  return {
    name:=← r.need "name" Value.text?
    enabled:=← r.take "enabled" Value.boolean? true
    days:=← r.take "days" (Value.list? Value.text?) []
    interval:=← r.take "interval" (Value.orNull? Value.octet?) none
    startTimes:=← r.need "start_times" (Value.list? Value.text?)
    durations:=← r.need "durations" (Value.list? Value.octet?)
    weatherAdjust:=← r.take "weather_adjust" Value.boolean? false}

/-- The configuration that a document describes, whether or not it makes sense. -/
def ofValue? (d : Dialect) (v : Value) : Option Config := do
  let r ← v.record? d ["station_id","max_run_duration","seasonal_adjust","schedules_enabled",
    "utc_offset_min","stations","zones","sensors","schedules"]
  return {
    unit:=← r.need "station_id" Value.octet?
    maxRun:=← r.take "max_run_duration" Value.octet? 99
    seasonal:=← r.take "seasonal_adjust" Value.octet? 100
    schedulesEnabled:=← r.take "schedules_enabled" Value.boolean? true
    utcOffset:=← r.take "utc_offset_min" (Value.integer? (-32768) 32767) 0
    stations:=← r.take "stations" (Value.list? (StationEntry.ofValue? d)) []
    zones:=← r.take "zones" (Value.list? (ZoneEntry.ofValue? d)) []
    sensors:=← r.take "sensors" (Value.list? (sensorOfValue? d)) []
    schedules:=← r.take "schedules" (Value.list? (ScheduleEntry.ofValue? d)) []}

end Config

end Watering
