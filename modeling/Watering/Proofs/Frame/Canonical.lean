import Watering.Proofs.Frame.RoundTrip
import Watering.Proofs.Zone.Mask

namespace Watering

namespace Word

theorem bytes16_join16 (low high : UInt8) : bytes16 (join16 low high)=[low,high] := by
  have hl := low.toNat_lt
  have hh := high.toNat_lt
  have hw : (join16 low high).toNat=low.toNat+256*high.toNat := by
    rw [join16,UInt16.toNat_ofNat']
    omega
  have h0 : (join16 low high).toUInt8=low := by
    apply UInt8.toNat_inj.mp
    rw [UInt16.toNat_toUInt8,hw]
    omega
  have h1 : UInt8.ofNat ((join16 low high).toNat/256)=high := by
    apply UInt8.toNat_inj.mp
    rw [UInt8.toNat_ofNat',hw]
    omega
  rw [bytes16,h0,h1]

theorem bytes32_join32 (a b c d : UInt8) : bytes32 (join32 a b c d)=[a,b,c,d] := by
  have ha := a.toNat_lt
  have hb := b.toNat_lt
  have hc := c.toNat_lt
  have hd := d.toNat_lt
  have hw : (join32 a b c d).toNat=
      a.toNat+256*b.toNat+65536*c.toNat+16777216*d.toNat := by
    rw [join32,UInt32.toNat_ofNat']
    omega
  have h0 : (join32 a b c d).toUInt8=a := by
    apply UInt8.toNat_inj.mp
    rw [UInt32.toNat_toUInt8,hw]
    omega
  have digit {n : Nat} {x : UInt8} (hx : n%256=x.toNat) : UInt8.ofNat n=x := by
    apply UInt8.toNat_inj.mp
    rw [UInt8.toNat_ofNat',hx]
  rw [bytes32,h0,digit (x:=b) (by omega),digit (x:=c) (by omega),digit (x:=d) (by omega)]

/-- Words that were read from octets are written as these octets. -/
theorem flatMap_of_ofBytes? {bytes : List UInt8} {ws : List UInt16} (h : ofBytes? bytes=some ws) :
    ws.flatMap bytes16=bytes := by
  induction bytes using ofBytes?.induct generalizing ws with
  | case1 =>
    obtain rfl := Option.some.inj h
    rfl
  | case2 => cases h
  | case3 low high rest ih =>
    obtain ⟨vs,hv,rfl⟩ := Option.map_eq_some_iff.mp h
    rw [List.flatMap_cons,bytes16_join16,ih hv]
    rfl

end Word

namespace Message

variable {bytes : List UInt8} {m : Message}

/-- A message was read from octets: it is of the function asked for and is written as the octets. -/
def Fills (fn : Function) (bytes : List UInt8) (m : Message) : Prop :=
  m.function=fn ∧ m.payload=bytes

theorem wordsBytes_of_words? {count : UInt8} {ws : List UInt16} (h : words? count bytes=some ws) :
    wordsBytes ws=count::bytes := by
  rw [words?] at h
  split_ifs at h with hl
  have hb := Word.flatMap_of_ofBytes? h
  have hn : ws.length=count.toNat := by
    rw [←hb,length_flatMap_bytes16] at hl
    omega
  rw [wordsBytes,hb,hn,UInt8.ofNat_toNat]

theorem fit_of_mask? {first count : UInt8} {mask : ZoneMask} (h : mask? first count bytes=some mask) :
    mask.fit (bitmapLength first count)=bytes := by
  rw [mask?] at h
  split_ifs at h with hl
  obtain rfl := Option.some.inj h
  rw [←hl]
  simp [ZoneMask.fit]

/-- Whatever the function, a payload that is read leaves no octet out. -/
theorem fills_of_ofPayload? {fn : Function} (h : ofPayload? fn bytes=some m) : Fills fn bytes m := by
  cases fn with
  | zonesRead | sensorsRead | registersRead =>
    match bytes,h with
    | [first,count],h =>
      obtain rfl := Option.some.inj h
      exact ⟨rfl,rfl⟩
  | zonesSet =>
    match bytes,h with
    | flags::schedule::first::minutes::count::rest,h =>
      obtain ⟨mask,hm,rfl⟩ := Option.map_eq_some_iff.mp h
      refine ⟨rfl,?_⟩
      rw [payload,fit_of_mask? hm]
      rfl
  | zonesReport =>
    match bytes,h with
    | station::first::count::rest,h =>
      obtain ⟨mask,hm,rfl⟩ := Option.map_eq_some_iff.mp h
      refine ⟨rfl,?_⟩
      rw [payload,fit_of_mask? hm]
      rfl
  | sensorsReport | registersReport =>
    match bytes,h with
    | first::count::rest,h =>
      obtain ⟨ws,hw,rfl⟩ := Option.map_eq_some_iff.mp h
      exact ⟨rfl,congrArg (first::·) (wordsBytes_of_words? hw)⟩
  | registersSet =>
    match bytes,h with
    | flags::first::count::rest,h =>
      obtain ⟨ws,hw,rfl⟩ := Option.map_eq_some_iff.mp h
      exact ⟨rfl,congrArg (flags::first::·) (wordsBytes_of_words? hw)⟩
  | eventMasterRead | scan | scanReply =>
    match bytes,h with
    | [],h =>
      obtain rfl := Option.some.inj h
      exact ⟨rfl,rfl⟩
  | eventMasterSet =>
    match bytes,h with
    | [flags,e0,e1,master,a0,a1],h =>
      obtain rfl := Option.some.inj h
      refine ⟨rfl,?_⟩
      rw [payload,Word.bytes16_join16,Word.bytes16_join16]
      rfl
  | eventMasterReport =>
    match bytes,h with
    | [e0,e1,master,a0,a1],h =>
      obtain rfl := Option.some.inj h
      refine ⟨rfl,?_⟩
      rw [payload,Word.bytes16_join16,Word.bytes16_join16]
      rfl
  | ping | pingReply | timeBroadcast =>
    match bytes,h with
    | [a,b,c,d],h =>
      obtain rfl := Option.some.inj h
      exact ⟨rfl,Word.bytes32_join32 a b c d⟩
  | responseOk =>
    match bytes,h with
    | [function],h =>
      obtain rfl := Option.some.inj h
      exact ⟨rfl,rfl⟩
  | responseError =>
    match bytes,h with
    | [function,code],h =>
      obtain rfl := Option.some.inj h
      refine ⟨rfl,?_⟩
      rw [payload,Exception.code_ofCode]

theorem function_trim (m : Message) : m.trim.function=m.function := by cases m <;> rfl

/-- The width of a mask does not show on the wire. -/
theorem payload_trim (m : Message) : m.trim.payload=m.payload := by
  cases m with
  | zonesSet | zonesReport => simp only [trim,payload,ZoneMask.fit_trim]
  | _ => rfl

end Message

namespace Frame

variable {f g : Frame} {bytes : List UInt8}

theorem encode_of_decode (h : decode bytes=.ok f) : f.encode=.ok bytes := by
  unfold decode at h
  split at h
  · rename_i protocol transaction target source declared code payload
    split_ifs at h with hp hd
    split at h
    · cases h
    · rename_i function hf
      split at h
      · cases h
      · rename_i message hm
        obtain rfl := Except.ok.inj h
        obtain ⟨hfn,hpl⟩ := Message.fills_of_ofPayload? hm
        have hl : declared.toNat=payload.length := not_not.mp hd
        have hlt := declared.toNat_lt
        have hcode : function.code=code := Function.code_of_ofCode? hf
        have hfit : message.payload.length ≤ maxPayload := by
          rw [hpl,maxPayload]
          omega
        have hdec : UInt8.ofNat payload.length=declared := by rw [←hl,UInt8.ofNat_toNat]
        rw [encode_eq hfit,octets,Frame.function,hpl,hfn,hcode,hdec,not_not.mp hp]
        rfl
  · cases h

/-- Frames that are the same are written as the same octets. -/
theorem encode_of_same (h : f.Same g) : f.encode=g.encode := by
  obtain ⟨ht,hg,hs,hm⟩ := h
  have htrim : f.message.trim=g.message.trim := hm
  have hfn : f.function=g.function := by
    rw [function,function,←f.message.function_trim,htrim,g.message.function_trim]
  have hpl : f.message.payload=g.message.payload := by
    rw [←f.message.payload_trim,htrim,g.message.payload_trim]
  rw [encode,encode,ht,hg,hs,hfn,hpl]

/-- Whatever is read is written as the octets that it was read from; hence different octets are
never read as the same frame. -/
theorem one_form_on_wire :
    (∀ bytes f,decode bytes=.ok f → f.encode=.ok bytes) ∧
    ∀ bytes bytes' f f',decode bytes=.ok f → decode bytes'=.ok f' → f.Same f' → bytes=bytes' := by
  constructor
  · intro bytes f h
    exact encode_of_decode h
  · intro bytes bytes' f f' h h' same
    have he := encode_of_decode h
    rw [encode_of_same same,encode_of_decode h'] at he
    exact (Except.ok.inj he).symm

/-- Bits of the mask that stand for no zone of the range are kept too. -/
theorem one_form_on_wire_report :
    let bytes : List UInt8 := [1,7,0,4,4,3,1,2,3,0xE7]
    let f : Frame := ⟨7,0,4,.zonesReport 1 2 3 ⟨[0xE7]⟩⟩
    decode bytes=.ok f ∧ f.encode=.ok bytes ∧
    ∀ bytes' f',decode bytes'=.ok f' → f.Same f' → bytes'=bytes := by
  intro bytes f
  obtain ⟨written,apart⟩ := one_form_on_wire
  have hd : decode bytes=.ok f := by decide
  refine ⟨hd,written bytes f hd,?_⟩
  intro bytes' f' h same
  exact (apart bytes bytes' f f' hd h same).symm

end Frame

end Watering
