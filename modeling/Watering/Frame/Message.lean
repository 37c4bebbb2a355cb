import Watering.Frame.Flags
import Watering.Frame.Function
import Watering.Zone.Mask

namespace Watering

/-- The unit that frames for every station are addressed to. -/
def broadcastUnit : UInt8 := 255

/-- As the count of a request from 0 on: everything there is. -/
def everything : UInt8 := 255

inductive Message where
  | zonesRead (first count : UInt8)
  /-- Water the masked channels; 0 minutes turn them off. -/
  | zonesSet (flags : AckFlags) (schedule first minutes count : UInt8) (mask : ZoneMask)
  | zonesReport (station first count : UInt8) (mask : ZoneMask)
  | sensorsRead (first count : UInt8)
  | sensorsReport (first : UInt8) (values : List UInt16)
  | registersRead (first count : UInt8)
  | registersSet (flags : AckFlags) (first : UInt8) (values : List UInt16)
  | registersReport (first : UInt8) (values : List UInt16)
  | eventMasterRead
  | eventMasterSet (flags : AckFlags) (events : EventFlags) (master : UInt8) (address : UInt16)
  | eventMasterReport (events : EventFlags) (master : UInt8) (address : UInt16)
  | scan
  | scanReply
  | ping (cookie : UInt32)
  | pingReply (cookie : UInt32)
  | timeBroadcast (time : UInt32)
  | responseOk (function : UInt8)
  | responseError (function : UInt8) (exception : Exception)
deriving DecidableEq

namespace Message

def function : Message → Function
  | zonesRead .. => .zonesRead
  | zonesSet .. => .zonesSet
  | zonesReport .. => .zonesReport
  | sensorsRead .. => .sensorsRead
  | sensorsReport .. => .sensorsReport
  | registersRead .. => .registersRead
  | registersSet .. => .registersSet
  | registersReport .. => .registersReport
  | eventMasterRead => .eventMasterRead
  | eventMasterSet .. => .eventMasterSet
  | eventMasterReport .. => .eventMasterReport
  | scan => .scan
  | scanReply => .scanReply
  | ping _ => .ping
  | pingReply _ => .pingReply
  | timeBroadcast _ => .timeBroadcast
  | responseOk _ => .responseOk
  | responseError .. => .responseError

/-- The message with its mask, if any, as short as can be. -/
def trim : Message → Message
  | zonesSet flags schedule first minutes count mask =>
    zonesSet flags schedule first minutes count mask.trim
  | zonesReport station first count mask => zonesReport station first count mask.trim
  | m => m

/-- Equal but for the width of masks. -/
def Same (a b : Message) : Prop := a.trim=b.trim

instance (a b : Message) : Decidable (Same a b) := inferInstanceAs (Decidable (_=_))

end Message

/-- A message and its addresses. Transaction 0 marks what nobody asked for. -/
structure Frame where
  transaction : UInt8
  target : UInt8
  source : UInt8
  message : Message
deriving DecidableEq

namespace Frame

def function (f : Frame) : Function := f.message.function

def isUnsolicited (f : Frame) : Bool := f.transaction==0

/-- Equal but for the width of masks. -/
def Same (f g : Frame) : Prop :=
  f.transaction=g.transaction ∧ f.target=g.target ∧ f.source=g.source ∧ f.message.Same g.message

instance (f g : Frame) : Decidable (Same f g) :=
  inferInstanceAs (Decidable (_=_ ∧ _=_ ∧ _=_ ∧ f.message.Same g.message))

end Frame

end Watering
