namespace Watering

inductive Function where
  | zonesRead
  | zonesSet
  | zonesReport
  | sensorsRead
  | sensorsReport
  | registersRead
  | registersSet
  | registersReport
  | eventMasterRead
  | eventMasterSet
  | eventMasterReport
  | scan
  | scanReply
  | ping
  | pingReply
  | timeBroadcast
  | responseOk
  | responseError
deriving DecidableEq,Repr

namespace Function

def code : Function → UInt8
  | zonesRead => 1
  | zonesSet => 2
  | zonesReport => 3
  | sensorsRead => 4
  | sensorsReport => 5
  | registersRead => 6
  | registersSet => 7
  | registersReport => 8
  | eventMasterRead => 12
  | eventMasterSet => 13
  | eventMasterReport => 14
  | scan => 50
  | scanReply => 51
  | ping => 52
  | pingReply => 53
  | timeBroadcast => 55
  | responseOk => 127
  | responseError => 128

def all : List Function :=
  [zonesRead,zonesSet,zonesReport,sensorsRead,sensorsReport,registersRead,registersSet,
    registersReport,eventMasterRead,eventMasterSet,eventMasterReport,scan,scanReply,ping,pingReply,
    timeBroadcast,responseOk,responseError]

def ofCode? (c : UInt8) : Option Function := all.find? (·.code==c)

@[simp] theorem ofCode?_code (f : Function) : ofCode? f.code=some f := by cases f <;> rfl

theorem code_of_ofCode? {c : UInt8} {f : Function} (h : ofCode? c=some f) : f.code=c := by
  simpa using List.find?_some h

/-- Requests ask a station for something; all else reports or answers. -/
def isRequest : Function → Bool
  | zonesRead | zonesSet | sensorsRead | registersRead | registersSet | eventMasterRead
  | eventMasterSet | scan | ping | timeBroadcast => true
  | _ => false

/-- Requests that may be addressed to every station at once. -/
def isBroadcastable : Function → Bool
  | scan | timeBroadcast => true
  | _ => false

def name : Function → String
  | zonesRead => "ZonesRead"
  | zonesSet => "ZonesSet"
  | zonesReport => "ZonesReport"
  | sensorsRead => "SensorsRead"
  | sensorsReport => "SensorsReport"
  | registersRead => "RegistersRead"
  | registersSet => "RegistersSet"
  | registersReport => "RegistersReport"
  | eventMasterRead => "EventMasterRead"
  | eventMasterSet => "EventMasterSet"
  | eventMasterReport => "EventMasterReport"
  | scan => "Scan"
  | scanReply => "ScanReply"
  | ping => "Ping"
  | pingReply => "PingReply"
  | timeBroadcast => "TimeBroadcast"
  | responseOk => "ResponseOk"
  | responseError => "ResponseError"

end Function

end Watering
