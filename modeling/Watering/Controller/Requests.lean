import Watering.Controller.State

namespace Watering.Controller

variable {σ : Type} [Carrier σ]

def channelOn (c : Controller σ) (station channel minutes schedule : UInt8) : Controller σ×Bool :=
  c.request station (.zonesSet .standard schedule channel minutes 1 (.single channel))

def channelOff (c : Controller σ) (station channel : UInt8) : Controller σ×Bool :=
  c.request station (.zonesSet .standard 0 channel 0 1 (.single channel))

def allChannelsOff (c : Controller σ) (station : UInt8) : Controller σ×Bool :=
  match c.site.station? station with
  | none => (c,false)
  | some s => c.request station (.zonesSet .standard 0 0 0 s.zoneCount (.range 0 s.zoneCount))

def readZones (c : Controller σ) (station : UInt8) : Controller σ×Bool :=
  c.request station (.zonesRead 0 everything)

def pollSensors (c : Controller σ) (station : UInt8) : Controller σ×Bool :=
  c.request station (.sensorsRead 0 everything)

def readRegisters (c : Controller σ) (station first count : UInt8) : Controller σ×Bool :=
  c.request station (.registersRead first count)

def writeRegisters (c : Controller σ) (station first : UInt8) (values : List UInt16) :
    Controller σ×Bool :=
  c.request station (.registersSet .standard first values)

def readEventMaster (c : Controller σ) (station : UInt8) : Controller σ×Bool :=
  c.request station .eventMasterRead

def subscribe (c : Controller σ) (station : UInt8) (events : EventFlags) : Controller σ×Bool :=
  c.request station
    (.eventMasterSet .standard (events.union .registerSelf) c.unit c.unit.toUInt16)

def ping (c : Controller σ) (station : UInt8) (cookie : UInt32) : Controller σ×Bool :=
  c.request station (.ping cookie)

def scan (c : Controller σ) : Controller σ×Bool :=
  let (c,transaction) := c.takeTransaction
  c.sendFrame .everyone ⟨transaction,broadcastUnit,c.unit,.scan⟩

def broadcastTime (c : Controller σ) : Controller σ×Bool :=
  let time := UInt32.ofNat (clockBits c.now.seconds)
  c.sendFrame .everyone ⟨0,broadcastUnit,c.unit,.timeBroadcast time⟩

end Watering.Controller
