import Mathlib.Tactic.Common
import Watering.Frame.Wire

namespace Watering

namespace Message

/-- What a reader makes of a message: masks are as wide as their range, exceptions known by their
code. -/
def onWire : Message → Message
  | zonesSet flags schedule first minutes count mask =>
    zonesSet flags schedule first minutes count ⟨mask.fit (bitmapLength first count)⟩
  | zonesReport station first count mask =>
    zonesReport station first count ⟨mask.fit (bitmapLength first count)⟩
  | responseError function exception => responseError function (.ofCode exception.code)
  | m => m

@[simp] theorem function_onWire (m : Message) : m.onWire.function=m.function := by cases m <;> rfl

theorem mask?_fit (first count : UInt8) (mask : ZoneMask) :
    mask? first count (mask.fit (bitmapLength first count))=
      some ⟨mask.fit (bitmapLength first count)⟩ :=
  if_pos (mask.fit_length _)

theorem length_flatMap_bytes16 (ws : List UInt16) :
    (ws.flatMap Word.bytes16).length=2*ws.length := by
  induction ws with
  | nil => rfl
  | cons w ws ih => simp [ih]; omega

theorem length_wordsBytes (ws : List UInt16) : (wordsBytes ws).length=1+2*ws.length := by
  rw [wordsBytes,List.length_cons,length_flatMap_bytes16]
  omega

theorem words?_wordsBytes {ws : List UInt16} (h : ws.length≤126) :
    words? (UInt8.ofNat ws.length) (ws.flatMap Word.bytes16)=some ws := by
  have hn : (UInt8.ofNat ws.length).toNat=ws.length :=
    UInt8.toNat_ofNat_of_lt' (by simp only [UInt8.size]; omega)
  rw [words?,hn,length_flatMap_bytes16,if_pos rfl,Word.ofBytes?_flatMap]

/-- A payload that fits in a frame is read as it was meant. -/
theorem ofPayload?_payload {m : Message} (h : m.payload.length ≤ maxPayload) :
    ofPayload? m.function m.payload=some m.onWire := by
  have few {ws : List UInt16} (hw : (wordsBytes ws).length < maxPayload) : ws.length≤126 := by
    rw [length_wordsBytes,maxPayload] at hw
    omega
  cases m with
  | zonesSet flags schedule first minutes count mask =>
    change (mask? first count (mask.fit (bitmapLength first count))).map
      (zonesSet flags schedule first minutes count)=_
    rw [mask?_fit]
    rfl
  | zonesReport station first count mask =>
    change (mask? first count (mask.fit (bitmapLength first count))).map
      (zonesReport station first count)=_
    rw [mask?_fit]
    rfl
  | sensorsReport first values =>
    change (words? _ (values.flatMap Word.bytes16)).map (sensorsReport first)=_
    rw [words?_wordsBytes (few h)]
    rfl
  | registersSet flags first values =>
    change (words? _ (values.flatMap Word.bytes16)).map (registersSet flags first)=_
    rw [words?_wordsBytes (few (Nat.lt_of_succ_lt h))]
    rfl
  | registersReport first values =>
    change (words? _ (values.flatMap Word.bytes16)).map (registersReport first)=_
    rw [words?_wordsBytes (few h)]
    rfl
  | eventMasterSet flags events master address =>
    exact congrArg₂ (fun e a => some (eventMasterSet flags ⟨e⟩ master a))
      (Word.join16_bytes16 events.bits) (Word.join16_bytes16 address)
  | eventMasterReport events master address =>
    exact congrArg₂ (fun e a => some (eventMasterReport ⟨e⟩ master a))
      (Word.join16_bytes16 events.bits) (Word.join16_bytes16 address)
  | ping cookie => exact congrArg (some <| ping ·) (Word.join32_bytes32 cookie)
  | pingReply cookie => exact congrArg (some <| pingReply ·) (Word.join32_bytes32 cookie)
  | timeBroadcast time => exact congrArg (some <| timeBroadcast ·) (Word.join32_bytes32 time)
  | _ => rfl

end Message

namespace Frame

variable {f : Frame} {bytes : List UInt8}

/-- The octets of a frame that fits. -/
def octets (f : Frame) : List UInt8 :=
  [protocolId,f.transaction,f.target,f.source,UInt8.ofNat f.message.payload.length,
    f.function.code]++f.message.payload

theorem encode_eq (h : f.message.payload.length ≤ maxPayload) : f.encode=.ok f.octets :=
  if_neg (Nat.not_lt.mpr h)

theorem peekSource_octets (f : Frame) : peekSource f.octets=some f.source := rfl

/-- A frame that fits is read as it was meant. -/
theorem decode_octets (h : f.message.payload.length ≤ maxPayload) :
    decode f.octets=.ok {f with message:=f.message.onWire} := by
  have hn : (UInt8.ofNat f.message.payload.length).toNat=f.message.payload.length := by
    apply UInt8.toNat_ofNat_of_lt'
    simp only [UInt8.size,maxPayload] at h ⊢
    omega
  simp only [octets,decode,List.cons_append,List.nil_append,hn,ne_eq,not_true_eq_false,if_false,
    Function.ofCode?_code]
  rw [show f.function=f.message.function from rfl,Message.ofPayload?_payload h]

/-- Whatever is encoded is decoded to the same frame, but for the width of its mask. -/
theorem decode_encode (h : f.encode=.ok bytes) :
    decode bytes=.ok {f with message:=f.message.onWire} := by
  by_cases hl : f.message.payload.length ≤ maxPayload
  · rw [encode_eq hl] at h
    obtain rfl := Except.ok.inj h
    exact decode_octets hl
  · simp [encode,Nat.lt_of_not_le hl] at h

end Frame

end Watering
