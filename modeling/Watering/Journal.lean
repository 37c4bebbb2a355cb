import Watering.Site.Station
import Watering.Time.Stamp
import Watering.Zone.Status

namespace Watering

inductive StopReason where
  /-- An explicit stop, or the end of a schedule. -/
  | commanded
  | finished
  /-- The station never answered. -/
  | unconfirmed
  /-- The station reported the zone off. -/
  | reported
  /-- The owning station is disabled or unknown. -/
  | stationDisabled
  /-- The station refused the command. -/
  | rejected
deriving DecidableEq,Repr

def StopReason.name : StopReason → String
  | commanded => "commanded"
  | finished => "finished"
  | unconfirmed => "unconfirmed"
  | reported => "reported"
  | stationDisabled => "station_disabled"
  | rejected => "rejected"

inductive Event where
  | zoneStarted (run : ZoneRun)
  | zoneStopped (zone : UInt8) (reason : StopReason)
  | sensorReading (station channel : UInt8) (sensor : Option SensorKind) (value : UInt16)
  | error (detail : String)
  | system (detail : String)
deriving DecidableEq,Repr

structure Notification where
  stamp : Stamp
  event : Event
deriving DecidableEq,Repr

/-- Notifications that either window holds at most. -/
def journalSize : Nat := 200

/-- Both windows are kept oldest first. -/
structure Journal where
  history : List Notification := []
  pending : List Notification := []
deriving DecidableEq,Repr

namespace Journal

/-- Add to the end of a window; a full window loses its oldest. -/
def roll (window : List Notification) (n : Notification) : List Notification :=
  (if journalSize≤window.length then window.tail else window)++[n]

def push (j : Journal) (n : Notification) : Journal :=
  ⟨roll j.history n,roll j.pending n⟩

def recent (j : Journal) : List Notification := j.history.reverse

/-- Hand over what is pending, oldest first. -/
def take (j : Journal) : Journal×List Notification := ({j with pending:=[]},j.pending)

end Journal

end Watering
