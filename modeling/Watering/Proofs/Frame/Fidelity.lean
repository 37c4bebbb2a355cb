import Watering.Proofs.Frame.RoundTrip
import Watering.Proofs.Zone.Mask

namespace Watering

namespace Message

/-- The words that a message carries, however many. -/
def words : Message → Option (List UInt16)
  | sensorsReport _ values | registersSet _ _ values | registersReport _ values => some values
  | _ => none

/-- The range and the mask of a message about zones. -/
def bitmap : Message → Option (UInt8×UInt8×ZoneMask)
  | zonesSet _ _ first _ count mask | zonesReport _ first count mask => some (first,count,mask)
  | _ => none

def exception : Message → Option Exception
  | responseError _ exception => some exception
  | _ => none

/-- There are words too many for one frame. -/
def Overfull (m : Message) : Prop := ∃ ws,m.words=some ws ∧ 126<ws.length

/-- No bit of the mask lies beyond the width of the range. -/
def Covered (m : Message) : Prop :=
  ∀ first count mask,m.bitmap=some (first,count,mask) →
    ∀ n,8*bitmapLength first count≤n → mask.bitAt n=false

theorem bitmapLength_le (first count : UInt8) : bitmapLength first count≤64 := by
  have hf := first.toNat_lt
  have hc := count.toNat_lt
  unfold bitmapLength
  omega

/-- Only words can outgrow a frame. -/
theorem overfull_iff (m : Message) : m.Overfull ↔ maxPayload < m.payload.length := by
  have carrying {ws : List UInt16} (hw : m.words=some ws) : m.Overfull ↔ 126<ws.length := by
    constructor
    · rintro ⟨vs,hv,hl⟩
      rw [hw] at hv
      rwa [Option.some.inj hv]
    · intro hl
      exact ⟨ws,hw,hl⟩
  have without (hw : m.words=none) (hl : m.payload.length≤69) :
      m.Overfull ↔ maxPayload < m.payload.length := by
    have short : ¬maxPayload < m.payload.length := by
      rw [maxPayload]
      omega
    constructor
    · rintro ⟨ws,hv,_⟩
      rw [hw] at hv
      cases hv
    · intro h
      exact absurd h short
  cases m with
  | sensorsReport first values | registersReport first values =>
    rw [carrying rfl,payload,List.length_cons,length_wordsBytes,maxPayload]
    omega
  | registersSet flags first values =>
    rw [carrying rfl,payload,List.length_cons,List.length_cons,length_wordsBytes,maxPayload]
    omega
  | zonesSet flags schedule first minutes count mask =>
    apply without rfl
    have hb := bitmapLength_le first count
    rw [payload,List.length_append,ZoneMask.fit_length]
    change 5+bitmapLength first count≤69
    omega
  | zonesReport station first count mask =>
    apply without rfl
    have hb := bitmapLength_le first count
    rw [payload,List.length_append,ZoneMask.fit_length]
    change 3+bitmapLength first count≤69
    omega
  | _ => exact without rfl (by simp [payload,Word.bytes16,Word.bytes32])

/-- A mask comes back with the bits below the width of its range and no others. -/
theorem bitmap_onWire {m : Message} {first count : UInt8} {mask : ZoneMask}
    (h : m.bitmap=some (first,count,mask)) : ∃ kept,m.onWire.bitmap=some (first,count,kept) ∧
      ∀ n,kept.bitAt n=(decide (n<8*bitmapLength first count) && mask.bitAt n) := by
  cases m with
  | zonesSet | zonesReport =>
    obtain ⟨rfl,rfl,rfl⟩ : _=first ∧ _=count ∧ _=mask := by simpa [bitmap] using h
    exact ⟨_,rfl,fun n => ZoneMask.bitAt_fit _ _ n⟩
  | _ => simp [bitmap] at h

theorem ofCode_code_eq_iff (e : Exception) :
    Exception.ofCode e.code=e ↔ e≠.other 2 ∧ e≠.other 4 := by
  cases e with
  | illegalAddress => simp [Exception.code,Exception.ofCode]
  | applyFailure => simp [Exception.code,Exception.ofCode]
  | other c =>
    rw [Exception.code,Exception.ofCode]
    by_cases h2 : c=2
    · simp [h2]
    · by_cases h4 : c=4
      · simp [h4]
      · simp [h2,h4]

/-- What is read back equals what was written unless a bit or the form of an exception is lost. -/
theorem onWire_same_iff (m : Message) : m.onWire.Same m ↔
    m.Covered ∧ m.exception≠some (.other 2) ∧ m.exception≠some (.other 4) := by
  have covered {first count : UInt8} {mask : ZoneMask} (hb : m.bitmap=some (first,count,mask)) :
      (⟨mask.fit (bitmapLength first count)⟩ : ZoneMask).trim=mask.trim ↔ m.Covered := by
    have hfit := mask.fit_same_iff (bitmapLength first count)
    rw [ZoneMask.Same] at hfit
    rw [hfit]
    constructor
    · intro h f c k hk
      rw [hb] at hk
      obtain ⟨rfl,rfl,rfl⟩ : first=f ∧ count=c ∧ mask=k := by simpa using hk
      exact h
    · intro h
      exact h first count mask hb
  cases m with
  | zonesSet flags schedule first minutes count mask =>
    rw [←covered rfl]
    simp [Same,onWire,trim,exception]
  | zonesReport station first count mask =>
    rw [←covered rfl]
    simp [Same,onWire,trim,exception]
  | responseError function e =>
    have hc : (responseError function e).Covered := by
      intro first count mask hk
      cases hk
    have h := ofCode_code_eq_iff e
    simpa [Same,onWire,trim,exception,hc] using h
  | _ => simp [Same,onWire,trim,exception,Covered,bitmap]

end Message

namespace Frame

/-- A frame is refused, as oversized, exactly if it carries more than 126 words. Any other frame is
read back with its addresses and its message, but for the bits of a mask beyond the width of its
range and the exceptions that have a name. It is read back as it was exactly if there are none of
these. -/
theorem read_back (f : Frame) :
    ((∃ n,f.encode=.error (.oversized n)) ↔ f.message.Overfull) ∧
    ((∃ bytes,f.encode=.ok bytes) ↔ ¬f.message.Overfull) ∧
    ∀ bytes,f.encode=.ok bytes → ∃ g,decode bytes=.ok g ∧
      g.transaction=f.transaction ∧ g.target=f.target ∧ g.source=f.source ∧
      g.message=f.message.onWire ∧
      (∀ first count mask,f.message.bitmap=some (first,count,mask) →
        ∃ kept,g.message.bitmap=some (first,count,kept) ∧
          ∀ n,kept.bitAt n=(decide (n<8*bitmapLength first count) && mask.bitAt n)) ∧
      (g.Same f ↔ f.message.Covered ∧ f.message.exception≠some (.other 2) ∧
        f.message.exception≠some (.other 4)) := by
  have overfull := f.message.overfull_iff
  have fits : ¬f.message.Overfull → f.message.payload.length ≤ maxPayload := by
    intro h
    rw [overfull] at h
    omega
  refine ⟨?_,?_,?_⟩
  · constructor
    · rintro ⟨n,hn⟩
      by_contra h
      rw [encode_eq (fits h)] at hn
      cases hn
    · intro h
      exact ⟨_,if_pos (overfull.mp h)⟩
  · constructor
    · rintro ⟨bytes,hb⟩ h
      rw [encode,if_pos (overfull.mp h)] at hb
      cases hb
    · intro h
      exact ⟨_,encode_eq (fits h)⟩
  · intro bytes hb
    refine ⟨_,decode_encode hb,rfl,rfl,rfl,rfl,?_,?_⟩
    · intro first count mask hm
      exact Message.bitmap_onWire hm
    · rw [←Message.onWire_same_iff]
      simp [Same]

/-- Bit 9 of the mask is beyond the one byte that a range of eight channels has. -/
theorem read_back_wide_mask :
    let f : Frame := ⟨1,4,0,.zonesSet .standard 0 0 5 8 ⟨[1,2]⟩⟩
    (∃ bytes,f.encode=.ok bytes) ∧ ∃ g,(f.encode.bind decode)=.ok g ∧ ¬g.Same f := by
  intro f
  obtain ⟨_,_,h⟩ := read_back f
  have hb : f.encode=.ok [1,1,4,0,6,2,5,0,0,5,8,1] := by decide
  obtain ⟨g,hg,_,_,_,_,_,hs⟩ := h _ hb
  refine ⟨⟨_,hb⟩,g,by rw [hb]; exact hg,?_⟩
  rw [hs]
  rintro ⟨hc,_⟩
  have hbit := hc 0 8 ⟨[1,2]⟩ rfl 9 (by decide)
  exact absurd hbit (by decide)

end Frame

end Watering
