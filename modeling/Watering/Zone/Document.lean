import Watering.Document.Value
import Watering.Zone.Status

namespace Watering

open Document (Value)

def ZoneState.document : ZoneState → Value
  | off => .table [("state",.text "off")]
  | starting n => .table [("state",.text "starting"),("ticks_left",.integer n)]
  | running => .table [("state",.text "running")]
  | stopping n => .table [("state",.text "stopping"),("ticks_left",.integer n)]

namespace ZoneRun

def fields (r : ZoneRun) : List (String×Value) :=
  [("zone",.integer r.zone.toNat),("minutes",.integer r.minutes.toNat),
    ("schedule",(r.schedule.map fun n => Value.integer n.toNat).getD .null),
    ("seasonal",.integer r.seasonal.toNat),("weather",.integer r.weather.toNat)]

def document (r : ZoneRun) : Value := .table r.fields

end ZoneRun

end Watering
