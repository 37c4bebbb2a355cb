import Watering.Journal
import Watering.Zone.Document

namespace Watering

open Document (Value)

def Event.fields : Event → List (String×Value)
  | zoneStarted run => ("kind",.text "zone_started")::run.fields
  | zoneStopped zone reason =>
    [("kind",.text "zone_stopped"),("zone",.integer zone.toNat),("reason",.text reason.name)]
  | sensorReading station channel sensor value =>
    [("kind",.text "sensor_reading"),("station",.integer station.toNat),
      ("channel",.integer channel.toNat),
      ("sensor",(sensor.map fun k => Value.text k.name).getD .null),
      ("value",.integer value.toNat)]
  | error detail => [("kind",.text "error"),("detail",.text detail)]
  | system detail => [("kind",.text "system"),("detail",.text detail)]

/-- A notification whose stamp has no text has no document. -/
def Notification.document? (n : Notification) : Option Value :=
  n.stamp.render?.map fun ts => .table (("ts",.text ts)::n.event.fields)

end Watering
