import Watering.Config.Entry
import Watering.Config.Timing
import Watering.Frame.Message
import Watering.Schedule.Schedule

namespace Watering.Config

inductive StationFault where
  | unnamed
  | reservedId
  | duplicateId (id : UInt8)
  /-- The controller's own station is reached by radio. -/
  | remoteSelf
  /-- The zones do not end before the last index. -/
  | zonesBeyond (first stop : Nat)
  | outputsBeyond (first stop : Nat)
deriving DecidableEq,Repr

inductive ZoneFault where
  | noStation
  | noChannel (zoneCount : UInt8)
  | duplicate
  | pinOnRadio
  | badPin (pin : UInt8)
  | usedPin (pin : UInt8)
deriving DecidableEq,Repr

inductive SensorFault where
  | noStation
  | duplicate
deriving DecidableEq,Repr

inductive ScheduleFault where
  | unnamed
  | never
  | daysAndInterval
  | zeroInterval
  | unknownDay (name : String)
  | startCount (n : Nat)
  | badStart (text : String)
  | surplusDurations (n zones : Nat)
deriving DecidableEq,Repr

/-- A fault with the entry that has it, given by its index and what it is told by. -/
inductive Finding where
  | reservedUnit
  | maxRun (minutes : UInt8)
  | seasonal (percent : UInt8)
  | utcOffset (minutes : Int)
  | station (index : Nat) (name : String) (fault : StationFault)
  | overlap (later earlier : String)
  | zone (index : Nat) (station channel : UInt8) (fault : ZoneFault)
  | sensor (index : Nat) (station channel : UInt8) (fault : SensorFault)
  | scheduleCount (n : Nat)
  | schedule (index : Nat) (name : String) (fault : ScheduleFault)
deriving DecidableEq,Repr

def StationFault.message : StationFault → String
  | unnamed => "name is empty"
  | reservedId => "id 255 is reserved"
  | duplicateId id => "duplicate station id "++toString id.toNat
  | remoteSelf => "this controller's own station must be wired locally"
  | zonesBeyond first stop =>
    "zones "++toString first++".."++toString stop++" exceed the 255-zone address space"
  | outputsBeyond first stop =>
    "output channels "++toString first++".."++toString stop++" exceed the 16-bit channel space"

def ZoneFault.message : ZoneFault → String
  | noStation => "station does not exist"
  | noChannel n => "channel outside station range [0, "++toString n.toNat++")"
  | duplicate => "duplicate zone"
  | pinOnRadio => "valve_gpio_pin set on a radio station"
  | badPin pin =>
    "valve_gpio_pin "++toString pin.toNat++" is not a valid BCM GPIO pin (allowed: 2-27)"
  | usedPin pin => "valve_gpio_pin "++toString pin.toNat++" is already used by another zone"

def SensorFault.message : SensorFault → String
  | noStation => "station does not exist"
  | duplicate => "duplicate sensor"

def ScheduleFault.message : ScheduleFault → String
  | unnamed => "name is empty"
  | never => "needs either days or interval"
  | daysAndInterval => "days and interval are mutually exclusive"
  | zeroInterval => "interval must be at least 1"
  | unknownDay name => "unknown day '"++name++"'"
  | startCount n => toString n++" start times, expected 1 to 4"
  | badStart text => "start time '"++text++"' is not HH:MM"
  | surplusDurations n zones =>
    toString n++" durations but only "++toString zones++" zones configured"

/-- An entry told by its name, or by its place if it has none. -/
def named (kind list name : String) (index : Nat) : String :=
  if name="" then list++"["++toString index++"]" else kind++" '"++name++"'"

/-- An entry told by its place, its station and its channel. -/
def placed (list : String) (index : Nat) (station channel : UInt8) : String :=
  list++"["++toString index++"] (station "++toString station.toNat++" channel "++
    toString channel.toNat++")"

def Finding.message : Finding → String
  | reservedUnit => "station_id 255 is reserved for broadcast"
  | maxRun n => "max_run_duration "++toString n.toNat++" out of range [1, 254]"
  | seasonal n => "seasonal_adjust "++toString n.toNat++" out of range [0, 200]"
  | utcOffset n => "utc_offset_min "++toString n++" out of range [-720, 840]"
  | station i name fault => named "station" "stations" name i++": "++fault.message
  | overlap later earlier => "station '"++later++"': zones overlap with station '"++earlier++"'"
  | zone i s ch fault => placed "zones" i s ch++": "++fault.message
  | sensor i s ch fault => placed "sensors" i s ch++": "++fault.message
  | scheduleCount n => toString n++" schedules defined, at most 4 allowed"
  | schedule i name fault => named "schedule" "schedules" name i++": "++fault.message

/-- `x` alone if `p` holds. -/
def when {α : Type} (p : Bool) (x : α) : List α := if p then [x] else []

def isUnnamed (name : String) : Bool := (Text.trim name.toList).isEmpty

/-- What each entry of a list has wrong, given the entries before it. -/
def review {α β : Type} (f : List α → Nat → α → List β) (xs : List α) : List β :=
  xs.zipIdx.flatMap fun (x,i) => f (xs.take i) i x

def settingFindings (c : Config) : List Finding :=
  when (c.unit==broadcastUnit) .reservedUnit++
  when (c.maxRun==0 || c.maxRun==255) (.maxRun c.maxRun)++
  when (200<c.seasonal) (.seasonal c.seasonal)++
  when (c.utcOffset< -720 || 840<c.utcOffset) (.utcOffset c.utcOffset)

def stationFaults (c : Config) (earlier : List StationEntry) (s : StationEntry) :
    List StationFault :=
  when (isUnnamed s.name) .unnamed++
  (if s.id=broadcastUnit then [.reservedId]
    else when (earlier.any (·.id==s.id)) (.duplicateId s.id))++
  when (s.id==c.unit && s.network==.radio) .remoteSelf++
  when (255<s.endZone) (.zonesBeyond s.firstZone.toNat s.endZone)++
  when (s.network.isLocal && 65535<s.endOutput) (.outputsBeyond s.address.toNat s.endOutput)

def StationEntry.overlaps (a b : StationEntry) : Bool :=
  a.firstZone.toNat<b.endZone && b.firstZone.toNat<a.endZone

def stationFindings (c : Config) : List Finding :=
  review (fun earlier i s => (c.stationFaults earlier s).map (.station i s.name)) c.stations

/-- Stations with zones in common, by the earlier one first. -/
def overlapFindings : List StationEntry → List Finding
  | [] => []
  | a::rest => (rest.filter a.overlaps).map (.overlap ·.name a.name)++overlapFindings rest

def isPin (pin : UInt8) : Bool := 2≤pin && pin≤27

def pinFaults (c : Config) (earlier : List ZoneEntry) (station : StationEntry) (pin : UInt8) :
    List ZoneFault :=
  when (!station.network.isLocal) .pinOnRadio++
  (if !isPin pin then [.badPin pin]
    else when (earlier.any fun z => z.pin==some pin && (c.station? z.station).isSome)
      (.usedPin pin))

def zoneFaults (c : Config) (earlier : List ZoneEntry) (z : ZoneEntry) : List ZoneFault :=
  match c.station? z.station with
  | none => [.noStation]
  | some station =>
    when (station.zoneCount≤z.channel) (.noChannel station.zoneCount)++
    when (earlier.any fun y => y.station==z.station && y.channel==z.channel) .duplicate++
    match z.pin with
    | some pin => c.pinFaults earlier station pin
    | none => []

def zoneFindings (c : Config) : List Finding :=
  review (fun earlier i z => (c.zoneFaults earlier z).map (.zone i z.station z.channel)) c.zones

def sensorFaults (c : Config) (earlier : List Sensor) (x : Sensor) : List SensorFault :=
  when (c.station? x.station).isNone .noStation++
  when (earlier.any fun y => y.station==x.station && y.channel==x.channel) .duplicate

def sensorFindings (c : Config) : List Finding :=
  review (fun earlier i x => (c.sensorFaults earlier x).map (.sensor i x.station x.channel))
    c.sensors

/-- The zone behind the last one of all stations. -/
def zoneTotal (c : Config) : Nat := (c.stations.map (·.endZone)).foldl max 0

def recurrenceFaults (s : ScheduleEntry) : List ScheduleFault :=
  match s.days,s.interval with
  | [],none => [.never]
  | [],some n => when (n==0) .zeroInterval
  | _::_,some _ => [.daysAndInterval]
  | _::_,none => []

def scheduleFaults (c : Config) (s : ScheduleEntry) : List ScheduleFault :=
  when (isUnnamed s.name) .unnamed++
  recurrenceFaults s++
  (s.days.filter fun d => (dayBit? d).isNone).map .unknownDay++
  when (s.startTimes.isEmpty || maxStartTimes<s.startTimes.length)
    (.startCount s.startTimes.length)++
  (s.startTimes.filter fun t => (startMinute? t).isNone).map .badStart++
  when (c.zoneTotal<s.durations.length) (.surplusDurations s.durations.length c.zoneTotal)

def scheduleFindings (c : Config) : List Finding :=
  when (maxSchedules<c.schedules.length) (.scheduleCount c.schedules.length)++
  review (fun _ i s => (c.scheduleFaults s).map (.schedule i s.name)) c.schedules

def findings (c : Config) : List Finding :=
  c.settingFindings++c.stationFindings++overlapFindings c.stations++c.zoneFindings++
    c.sensorFindings++c.scheduleFindings

def Valid (c : Config) : Prop := c.findings=[]

instance (c : Config) : Decidable c.Valid := inferInstanceAs (Decidable (_=_))

def refusal (findings : List Finding) : String :=
  "config validation failed ("++toString findings.length++" error"++
    (if findings.length=1 then "" else "s")++"):\n  - "++
    "\n  - ".intercalate (findings.map (·.message))

end Watering.Config
