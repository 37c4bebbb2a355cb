import Std.Data.TreeMap
import Watering.Site.Station

namespace Watering

structure Site where
  unit : UInt8
  maxRun : UInt8
  stations : Std.TreeMap UInt8 Station := {}
  zones : List Zone := []
  sensors : List Sensor := []

namespace Site

def station? (s : Site) (id : UInt8) : Option Station := s.stations[id]?

def enabledStation? (s : Site) (id : UInt8) : Option Station := (s.station? id).filter (·.enabled)

def zone? (s : Site) (index : UInt8) : Option Zone := s.zones[index.toNat]?

def zoneCount (s : Site) : UInt8 := lengthCapped s.zones

def stationIds (s : Site) : List UInt8 := s.stations.keys

def sensorKind? (s : Site) (station channel : UInt8) : Option SensorKind :=
  (s.sensors.find? fun x => x.station==station && x.channel==channel).map (·.kind)

/-- Write a zone; disabled zones fill the list as far as it. -/
def setZone (zones : List Zone) (index : Nat) (zone : Zone) : List Zone :=
  (zones++List.replicate (index+1-zones.length) default).set index zone

/-- Add a station and an enabled zone for each of its channels, named after the station and
counted from 1. -/
def addStation (s : Site) (id : UInt8) (station : Station) : Site :=
  {s with
    stations:=s.stations.insert id station
    zones:=(List.range station.zoneCount.toNat).foldl (fun zones c =>
      setZone zones (station.zoneOf (UInt8.ofNat c)).toNat
        {name:=station.name++" "++toString (c+1),enabled:=true,station:=id,
          channel:=UInt8.ofNat c}) s.zones}

def addSensor (s : Site) (sensor : Sensor) : Site := {s with sensors:=s.sensors++[sensor]}

def modifyStation (s : Site) (id : UInt8) (f : Station → Station) : Site :=
  {s with stations:=s.stations.modify id f}

def modifyZone (s : Site) (index : UInt8) (f : Zone → Zone) : Site :=
  {s with zones:=s.zones.modify index.toNat f}

def setMaxRun (s : Site) (minutes : UInt8) : Site := {s with maxRun:=minutes}

end Site

end Watering
