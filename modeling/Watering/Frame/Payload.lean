import Watering.Frame.Message

namespace Watering.Message

/-- A count and that many words. The count is one octet; a list that outgrows it also outgrows
every frame. -/
def wordsBytes (ws : List UInt16) : List UInt8 :=
  UInt8.ofNat ws.length::ws.flatMap Word.bytes16

def payload : Message → List UInt8
  | zonesRead first count | sensorsRead first count | registersRead first count => [first,count]
  | zonesSet flags schedule first minutes count mask =>
    [flags.bits,schedule,first,minutes,count]++mask.fit (bitmapLength first count)
  | zonesReport station first count mask =>
    [station,first,count]++mask.fit (bitmapLength first count)
  | sensorsReport first values | registersReport first values => first::wordsBytes values
  | registersSet flags first values => flags.bits::first::wordsBytes values
  | eventMasterRead | scan | scanReply => []
  | eventMasterSet flags events master address =>
    [flags.bits]++Word.bytes16 events.bits++[master]++Word.bytes16 address
  | eventMasterReport events master address =>
    Word.bytes16 events.bits++[master]++Word.bytes16 address
  | ping cookie | pingReply cookie => Word.bytes32 cookie
  | timeBroadcast time => Word.bytes32 time
  | responseOk function => [function]
  | responseError function exception => [function,exception.code]

/-- Read `count` words that fill the payload exactly. -/
def words? (count : UInt8) (bytes : List UInt8) : Option (List UInt16) :=
  if bytes.length=2*count.toNat then Word.ofBytes? bytes else none

/-- Read a bitmap that fills the payload exactly. -/
def mask? (first count : UInt8) (bytes : List UInt8) : Option ZoneMask :=
  if bytes.length=bitmapLength first count then some ⟨bytes⟩ else none

/-- Read the payload of one function; every octet has to be accounted for. -/
def ofPayload? : Function → List UInt8 → Option Message
  | .zonesRead,[first,count] => some (zonesRead first count)
  | .zonesSet,flags::schedule::first::minutes::count::rest =>
    (mask? first count rest).map (zonesSet ⟨flags⟩ schedule first minutes count)
  | .zonesReport,station::first::count::rest =>
    (mask? first count rest).map (zonesReport station first count)
  | .sensorsRead,[first,count] => some (sensorsRead first count)
  | .sensorsReport,first::count::rest => (words? count rest).map (sensorsReport first)
  | .registersRead,[first,count] => some (registersRead first count)
  | .registersSet,flags::first::count::rest => (words? count rest).map (registersSet ⟨flags⟩ first)
  | .registersReport,first::count::rest => (words? count rest).map (registersReport first)
  | .eventMasterRead,[] => some eventMasterRead
  | .eventMasterSet,[flags,e0,e1,master,a0,a1] =>
    some (eventMasterSet ⟨flags⟩ ⟨Word.join16 e0 e1⟩ master (Word.join16 a0 a1))
  | .eventMasterReport,[e0,e1,master,a0,a1] =>
    some (eventMasterReport ⟨Word.join16 e0 e1⟩ master (Word.join16 a0 a1))
  | .scan,[] => some scan
  | .scanReply,[] => some scanReply
  | .ping,[a,b,c,d] => some (ping (Word.join32 a b c d))
  | .pingReply,[a,b,c,d] => some (pingReply (Word.join32 a b c d))
  | .timeBroadcast,[a,b,c,d] => some (timeBroadcast (Word.join32 a b c d))
  | .responseOk,[function] => some (responseOk function)
  | .responseError,[function,exception] => some (responseError function (.ofCode exception))
  | _,_ => none

end Watering.Message
