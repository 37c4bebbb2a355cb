import Watering.Controller.Outcome
import Watering.Controller.State

namespace Watering

namespace RemoteView

/-- Store values from an index on, the last index taking all that lie beyond it. -/
def putAll (t : Std.TreeMap UInt8 (Std.TreeMap UInt8 UInt16)) (station first : UInt8)
    (values : List UInt16) : Std.TreeMap UInt8 (Std.TreeMap UInt8 UInt16) :=
  values.zipIdx.foldl (fun t (value,i) =>
    t.insert station ((t.getD station {}).insert (addCapped first (UInt8.ofNat i)) value)) t

end RemoteView

namespace Controller

variable {σ : Type}

/-- Take over the reported state of channels. A zone that turns out to be off was stopped. -/
def confirmZones (c : Controller σ) (station : Station) (mask : ZoneMask) (channels : List UInt8) :
    Controller σ :=
  channels.foldl (fun c channel =>
    let zone := station.zoneOf channel
    let before := c.zones.state zone
    let on := mask.get channel
    let (zones,changed) := c.zones.confirm zone on
    let c := {c with zones}
    if changed && !on && before.isOn then c.record (.zoneStopped zone .reported) else c) c

def consumeZones (c : Controller σ) (source first count : UInt8) (mask : ZoneMask) :
    Controller σ×Outcome :=
  match c.site.enabledStation? source with
  | none => (c,.dropped (.unknownStation source))
  | some station =>
    if station.zoneCount.toNat<first.toNat+count.toNat then
      (c,.dropped (.outOfRange .zonesReport))
    else (c.confirmZones station mask (span first count),.handled .zonesReport)

def consumeSensors (c : Controller σ) (source first : UInt8) (values : List UInt16) :
    Controller σ :=
  let remote := {c.remote with sensors:=RemoteView.putAll c.remote.sensors source first values}
  values.zipIdx.foldl (fun c (value,i) =>
    let channel := addCapped first (UInt8.ofNat i)
    c.record (.sensorReading source channel (c.site.sensorKind? source channel) value))
    {c with remote}

/-- A station refused a change: the zones that it left waiting are off. -/
def revert (c : Controller σ) (station transaction : UInt8) : Controller σ :=
  match c.outstanding? station transaction with
  | none => c
  | some zones =>
    zones.foldl (fun c zone =>
      if (c.zones.state zone).isPending then
        record {c with zones:=c.zones.forceOff zone} (.zoneStopped zone .rejected)
      else c) (c.settle station transaction)

def consumeError (c : Controller σ) (source transaction function : UInt8) (e : Exception) :
    Controller σ :=
  let remote := {c.remote with errors:=c.remote.errors.insert source (function,e)}
  let c := record {c with remote} (.error ("station "++toString source.toNat++
    " refused function "++toString function.toNat++": "++e.name))
  if function=Function.zonesSet.code then c.revert source transaction else c

def consume (c : Controller σ) (f : Frame) : Controller σ×Outcome :=
  let source := f.source
  let handled (c : Controller σ) : Controller σ×Outcome := (c,.handled f.function)
  match f.message with
  | .zonesReport _ first count mask =>
    let c := if f.transaction=0 then c else c.settle source f.transaction
    c.consumeZones source first count mask
  | .sensorsReport first values => handled (c.consumeSensors source first values)
  | .registersReport first values =>
    let registers := RemoteView.putAll c.remote.registers source first values
    handled {c with remote:={c.remote with registers}}
  | .eventMasterReport events master address =>
    let eventMasters := c.remote.eventMasters.insert source ⟨master,address,events⟩
    handled {c with remote:={c.remote with eventMasters}}
  | .scanReply =>
    handled {c with remote:={c.remote with discovered:=c.remote.discovered.insert source}}
  | .pingReply cookie =>
    handled {c with remote:={c.remote with pings:=c.remote.pings.insert source cookie}}
  | .responseOk _ => handled (c.settle source f.transaction)
  | .responseError function e => handled (c.consumeError source f.transaction function e)
  | _ => handled c

end Controller

end Watering
