import Watering.Controller.Zones

namespace Watering.Controller

variable {σ : Type}

/-- Match the board to the number of zones of the site. -/
def resizeBoard (c : Controller σ) : Controller σ :=
  let count := c.site.zoneCount.toNat
  if count=c.zones.size then c else {c with zones:=c.zones.resize count}

/-- Forget outstanding changes none of whose zones waits any more. -/
def dropSettled (c : Controller σ) : Controller σ :=
  {c with inFlight:=c.inFlight.filter fun o => o.zones.any fun z => (c.zones.state z).isPending}

variable [Carrier σ]

def finishRun (c : Controller σ) (index : UInt8) : Controller σ :=
  match c.site.zone? index with
  | none => c
  | some zone =>
    ((c.releaseValve zone).record (.zoneStopped index .finished)).pushZones zone.station

def conclude (c : Controller σ) (t : Transition) : Controller σ :=
  match t.expiry with
  | .unconfirmed _ => c.record (.zoneStopped t.zone .unconfirmed)
  | .finished => c.finishRun t.zone

/-- Note the readings that changed, and report all of them if one did. -/
def checkSensors (c : Controller σ) : Controller σ :=
  let values := c.sensors.readings
  if values=c.lastReadings then c
  else
    let last := c.lastReadings
    let c := values.zipIdx.foldl (fun c (value,i) =>
      if last[i]?=some value then c
      else
        let channel := UInt8.ofNat i
        c.record (.sensorReading c.unit channel (c.site.sensorKind? c.unit channel) value)) c
    pushSensors {c with lastReadings:=values} values

def tick (c : Controller σ) : Controller σ :=
  let ticks := c.ticks+1
  let c := ({c with ticks,link:={c.link with tick:=ticks}} : Controller σ)
  let c := c.resizeBoard.dropSettled
  let (zones,transitions) := c.zones.tick
  let c := transitions.foldl conclude {c with zones}
  match c.sensors.sample with
  | (sensors,true) => checkSensors {c with sensors}
  | (sensors,false) => {c with sensors}

end Watering.Controller
