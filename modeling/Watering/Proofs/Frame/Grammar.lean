import Watering.Proofs.Frame.RoundTrip

namespace Watering

/-- How long the payload of a function has to be, as the octets in it tell. An octet that is not there
counts as 0, and then no length is right. -/
def Function.payloadLength (payload : List UInt8) : Function → Nat
  | zonesRead | sensorsRead | registersRead => 2
  | zonesSet => 5+bitmapLength (payload.getD 2 0) (payload.getD 4 0)
  | zonesReport => 3+bitmapLength (payload.getD 1 0) (payload.getD 2 0)
  | sensorsReport | registersReport => 2+2*(payload.getD 1 0).toNat
  | registersSet => 3+2*(payload.getD 2 0).toNat
  | eventMasterRead | scan | scanReply => 0
  | eventMasterSet => 6
  | eventMasterReport => 5
  | ping | pingReply | timeBroadcast => 4
  | responseOk => 1
  | responseError => 2

theorem Function.code_injective {f g : Function} (h : f.code=g.code) : f=g := by
  have hf := f.ofCode?_code
  rw [h,g.ofCode?_code] at hf
  exact (Option.some.inj hf).symm

namespace Word

/-- Octets in pairs are words. -/
theorem ofBytes?_isSome (n : Nat) {bytes : List UInt8} (h : bytes.length=2*n) :
    (ofBytes? bytes).isSome=true := by
  induction n generalizing bytes with
  | zero =>
    rw [List.eq_nil_of_length_eq_zero h]
    rfl
  | succ n ih =>
    match bytes,h with
    | low::high::rest,h =>
      have half : rest.length=2*n := by
        simp only [List.length_cons] at h
        omega
      rw [ofBytes?,Option.isSome_map]
      exact ih half

end Word

namespace Message

theorem words?_isSome (count : UInt8) (bytes : List UInt8) :
    (words? count bytes).isSome=true ↔ bytes.length=2*count.toNat := by
  unfold words?
  split_ifs with h
  · exact iff_of_true (Word.ofBytes?_isSome _ h) h
  · exact iff_of_false Bool.false_ne_true h

theorem mask?_isSome (first count : UInt8) (bytes : List UInt8) :
    (mask? first count bytes).isSome=true ↔ bytes.length=bitmapLength first count := by
  unfold mask?
  split_ifs with h
  · exact iff_of_true rfl h
  · exact iff_of_false Bool.false_ne_true h

/-- A payload can be read exactly if it is as long as its function and its own octets say. -/
theorem ofPayload?_isSome (function : Function) (payload : List UInt8) :
    (ofPayload? function payload).isSome=true ↔
      payload.length=function.payloadLength payload := by
  cases function with
  | zonesRead | sensorsRead | registersRead | responseError =>
    match payload with
    | [] | [_] | _::_::_::_ => exact iff_of_false Bool.false_ne_true nofun
    | [_,_] => exact iff_of_true rfl rfl
  | eventMasterRead | scan | scanReply =>
    match payload with
    | [] => exact iff_of_true rfl rfl
    | _::_ => exact iff_of_false Bool.false_ne_true nofun
  | responseOk =>
    match payload with
    | [] | _::_::_ => exact iff_of_false Bool.false_ne_true nofun
    | [_] => exact iff_of_true rfl rfl
  | ping | pingReply | timeBroadcast =>
    match payload with
    | [] | [_] | [_,_] | [_,_,_] | _::_::_::_::_::_ => exact iff_of_false Bool.false_ne_true nofun
    | [_,_,_,_] => exact iff_of_true rfl rfl
  | eventMasterSet =>
    match payload with
    | [] | [_] | [_,_] | [_,_,_] | [_,_,_,_] | [_,_,_,_,_] | _::_::_::_::_::_::_::_ =>
      exact iff_of_false Bool.false_ne_true nofun
    | [_,_,_,_,_,_] => exact iff_of_true rfl rfl
  | eventMasterReport =>
    match payload with
    | [] | [_] | [_,_] | [_,_,_] | [_,_,_,_] | _::_::_::_::_::_::_ =>
      exact iff_of_false Bool.false_ne_true nofun
    | [_,_,_,_,_] => exact iff_of_true rfl rfl
  | sensorsReport | registersReport =>
    match payload with
    | [] | [_] => exact iff_of_false Bool.false_ne_true (by simp [Function.payloadLength])
    | first::count::rest =>
      change ((words? count rest).map _).isSome=true ↔ _
      rw [Option.isSome_map,words?_isSome]
      simp [Function.payloadLength]
      omega
  | registersSet =>
    match payload with
    | [] | [_] | [_,_] => exact iff_of_false Bool.false_ne_true (by simp [Function.payloadLength])
    | flags::first::count::rest =>
      change ((words? count rest).map _).isSome=true ↔ _
      rw [Option.isSome_map,words?_isSome]
      simp [Function.payloadLength]
      omega
  | zonesReport =>
    match payload with
    | [] | [_] | [_,_] =>
      exact iff_of_false Bool.false_ne_true (by simp [Function.payloadLength]; omega)
    | station::first::count::rest =>
      change ((mask? first count rest).map _).isSome=true ↔ _
      rw [Option.isSome_map,mask?_isSome]
      simp [Function.payloadLength]
      omega
  | zonesSet =>
    match payload with
    | [] | [_] | [_,_] | [_,_,_] | [_,_,_,_] =>
      exact iff_of_false Bool.false_ne_true (by simp [Function.payloadLength]; omega)
    | flags::schedule::first::minutes::count::rest =>
      change ((mask? first count rest).map _).isSome=true ↔ _
      rw [Option.isSome_map,mask?_isSome]
      simp [Function.payloadLength]
      omega

end Message

/-- What a reader checks. -/
inductive Check where
  | size
  | protocol
  | length
  | function
  | payload
deriving DecidableEq

namespace Check

/-- The order of the checks. -/
def rank : Check → Nat
  | size => 0
  | protocol => 1
  | length => 2
  | function => 3
  | payload => 4

theorem rank_injective {j k : Check} (h : j.rank=k.rank) : j=k := by
  cases j <;> cases k <;> first | rfl | cases h

/-- There is room for a header, which names the protocol, gives the length of the rest and has a code
that is known; and the rest has the length that is right for that code. -/
def Passes (bytes : List UInt8) : Check → Prop
  | size => headerLength≤bytes.length
  | protocol => bytes[0]?=some protocolId
  | length => bytes[4]?.map (·.toNat)=some (bytes.length-headerLength)
  | function => ∃ f : Function,bytes[5]?=some f.code
  | payload => ∃ f : Function,bytes[5]?=some f.code ∧
      (bytes.drop headerLength).length=f.payloadLength (bytes.drop headerLength)

/-- The first check that is not passed. -/
structure Stops (bytes : List UInt8) (k : Check) : Prop where
  fails : ¬k.Passes bytes
  before : ∀ j : Check,j.rank<k.rank → j.Passes bytes

/-- What is said to octets that do not pass a check. -/
inductive Refuses (bytes : List UInt8) : Check → FrameError → Prop
  | size : Refuses bytes size (.tooShort bytes.length)
  | protocol {found : UInt8} : bytes[0]?=some found → Refuses bytes protocol (.protocolId found)
  | length {declared : UInt8} : bytes[4]?=some declared →
    Refuses bytes length (.lengthMismatch declared.toNat (bytes.length-headerLength))
  | function {code : UInt8} : bytes[5]?=some code → Refuses bytes function (.unknownFunction code)
  | payload {f : Function} : bytes[5]?=some f.code →
    Refuses bytes payload (.payload f (bytes.length-headerLength))

variable {bytes : List UInt8} {j k : Check} {e e' : FrameError}

/-- One check further. -/
theorem passes_next (k : Check) (passed : ∀ j : Check,j.rank<k.rank → j.Passes bytes)
    (h : k.Passes bytes) :
    ∀ j : Check,j.rank<k.rank+1 → j.Passes bytes := by
  intro j hj
  obtain lt | eq := Nat.lt_succ_iff_lt_or_eq.mp hj
  · exact passed j lt
  · rwa [rank_injective eq]

theorem Stops.unique (hj : j.Stops bytes) (hk : k.Stops bytes) : j=k := by
  obtain lt | eq | gt := Nat.lt_trichotomy j.rank k.rank
  · exact absurd (hk.before j lt) hj.fails
  · exact rank_injective eq
  · exact absurd (hj.before k gt) hk.fails

theorem Refuses.unique (h : k.Refuses bytes e) (h' : k.Refuses bytes e') : e=e' := by
  cases h with
  | size =>
    cases h'
    rfl
  | protocol h =>
    cases h' with
    | protocol h' => rw [Option.some.inj (h.symm.trans h')]
  | length h =>
    cases h' with
    | length h' => rw [Option.some.inj (h.symm.trans h')]
  | function h =>
    cases h' with
    | function h' => rw [Option.some.inj (h.symm.trans h')]
  | payload h =>
    cases h' with
    | payload h' => rw [Function.code_injective (Option.some.inj (h.symm.trans h'))]

end Check

namespace Frame

open Check (Stops Refuses)

variable {bytes other : List UInt8} {f g : Frame} {e : FrameError}

/-- What is done with octets whose header is in order. -/
theorem decode_body {transaction target source declared code : UInt8} {payload : List UInt8}
    (hb : bytes=protocolId::transaction::target::source::declared::code::payload)
    (hd : declared.toNat=payload.length) (passed : ∀ j : Check,j.rank<3 → j.Passes bytes) :
    (∃ f,decode bytes=.ok f) ∧ (∀ k : Check,k.Passes bytes) ∨
      ∃ k e,decode bytes=.error e ∧ Stops bytes k ∧ Refuses bytes k e := by
  have fifth : bytes[5]?=some code := by rw [hb]; rfl
  have body : bytes.drop headerLength=payload := by rw [hb]; rfl
  have left : bytes.length-headerLength=payload.length := by rw [←body,List.length_drop]
  cases hc : Function.ofCode? code with
  | none =>
    have unknown : decode bytes=.error (.unknownFunction code) := by simp [hb,decode,hd,hc]
    refine .inr ⟨.function,_,unknown,⟨?_,passed⟩,.function fifth⟩
    rintro ⟨f,hf⟩
    rw [Option.some.inj (fifth.symm.trans hf),f.ofCode?_code] at hc
    cases hc
  | some function =>
    rw [←Function.code_of_ofCode? hc] at fifth
    have known := Check.passes_next .function passed ⟨function,fifth⟩
    cases hm : Message.ofPayload? function payload with
    | none =>
      have unread : decode bytes=.error (.payload function (bytes.length-headerLength)) := by
        rw [left]
        simp [hb,decode,hd,hc,hm]
      refine .inr ⟨.payload,_,unread,⟨?_,known⟩,.payload fifth⟩
      rintro ⟨f,hf,fits⟩
      obtain rfl := Function.code_injective (Option.some.inj (fifth.symm.trans hf))
      rw [body,←Message.ofPayload?_isSome,hm] at fits
      cases fits
    | some message =>
      have read : decode bytes=.ok ⟨transaction,target,source,message⟩ := by
        simp [hb,decode,hd,hc,hm]
      have fits := (Message.ofPayload?_isSome function payload).mp (Option.isSome_of_eq_some hm)
      rw [←body] at fits
      have all := Check.passes_next .payload known ⟨function,fifth,fits⟩
      exact .inl ⟨⟨_,read⟩,fun k => all k (by cases k <;> decide)⟩

/-- A reader goes through the checks in their order. -/
theorem decode_checked (bytes : List UInt8) :
    (∃ f,decode bytes=.ok f) ∧ (∀ k : Check,k.Passes bytes) ∨
      ∃ k e,decode bytes=.error e ∧ Stops bytes k ∧ Refuses bytes k e := by
  match bytes with
  | [] | [_] | [_,_] | [_,_,_] | [_,_,_,_] | [_,_,_,_,_] =>
    exact .inr ⟨.size,_,rfl,⟨by simp [Check.Passes,headerLength],nofun⟩,.size⟩
  | protocol::transaction::target::source::declared::code::payload =>
    have roomy (j : Check) : j.rank<1 →
        j.Passes (protocol::transaction::target::source::declared::code::payload) :=
      Check.passes_next .size nofun (Nat.le_add_left ..) j
    by_cases hp : protocol=protocolId
    · have ours := Check.passes_next .protocol roomy (congrArg some hp)
      subst hp
      by_cases hd : declared.toNat=payload.length
      · exact decode_body rfl hd (Check.passes_next .length ours (congrArg some hd))
      · refine .inr ⟨.length,_,?_,⟨fun k => hd (Option.some.inj k),ours⟩,.length rfl⟩
        rw [decode,if_neg (not_not_intro rfl),if_pos hd]
        rfl
    · exact .inr ⟨.protocol,_,if_pos hp,⟨fun k => hp (Option.some.inj k),roomy⟩,.protocol rfl⟩

theorem decode_ok_iff (bytes : List UInt8) :
    (∃ f,decode bytes=.ok f) ↔ ∀ k : Check,k.Passes bytes := by
  obtain ⟨read,all⟩ | ⟨k,e,h,stops,-⟩ := decode_checked bytes
  · exact iff_of_true read all
  · refine iff_of_false ?_ fun all => stops.fails (all k)
    rintro ⟨f,hf⟩
    cases h.symm.trans hf

theorem decode_error_iff (bytes : List UInt8) (e : FrameError) :
    decode bytes=.error e ↔ ∃ k,Stops bytes k ∧ Refuses bytes k e := by
  obtain ⟨⟨f,hf⟩,all⟩ | ⟨k,e',h,stops,refuses⟩ := decode_checked bytes
  · refine iff_of_false (fun h => ?_) ?_
    · cases h.symm.trans hf
    · rintro ⟨k,stops,-⟩
      exact stops.fails (all k)
  · rw [h]
    constructor
    · intro he
      obtain rfl := Except.error.inj he
      exact ⟨k,stops,refuses⟩
    · rintro ⟨j,stopsj,refusesj⟩
      obtain rfl := stops.unique stopsj
      rw [refuses.unique refusesj]

/-- The fifth octet of a frame says where it ends. -/
theorem eq_of_leading (hf : decode bytes=.ok f) (hg : decode other=.ok g) (h : other<+:bytes) :
    other=bytes := by
  have ends := (decode_ok_iff bytes).mp ⟨f,hf⟩ .length
  have room := (decode_ok_iff other).mp ⟨g,hg⟩ .size
  have ends' := (decode_ok_iff other).mp ⟨g,hg⟩ .length
  have shorter := h.length_le
  obtain ⟨rest,rfl⟩ := h
  simp only [Check.Passes,headerLength,List.length_append] at ends room ends' shorter
  rw [List.getElem?_append_left (by omega),ends',Option.some.injEq] at ends
  have none_left : rest=[] := List.eq_nil_of_length_eq_zero (by omega)
  rw [none_left,List.append_nil]

/-- Octets are read exactly if they pass every check; otherwise the error is that of the first check
that they do not pass. A frame that lacks octets at its end, or has more of them, is refused. -/
theorem decoded_iff_grammatical (bytes : List UInt8) :
    ((∃ f,decode bytes=.ok f) ↔ ∀ k : Check,k.Passes bytes) ∧
    (∀ e,decode bytes=.error e ↔ ∃ k,Stops bytes k ∧ Refuses bytes k e) ∧
    ∀ f other,decode bytes=.ok f → other≠bytes → other<+:bytes ∨ bytes<+:other →
      ∃ e,decode other=.error e := by
  refine ⟨decode_ok_iff bytes,decode_error_iff bytes,fun f other hf apart cut => ?_⟩
  cases hg : decode other with
  | error e => exact ⟨e,rfl⟩
  | ok g =>
    obtain shorter | longer := cut
    · exact absurd (eq_of_leading hf hg shorter) apart
    · exact absurd (eq_of_leading hg hf longer).symm apart

/-- A report on three zones; the same with a count that asks for more octets than there are; and the
same with an octet less or more. -/
theorem decoded_iff_grammatical_report :
    let bytes : List UInt8 := [1,7,0,4,4,3,1,2,3,0xE7]
    let miscounted : List UInt8 := [1,7,0,4,4,3,1,2,9,0xE7]
    (∀ k : Check,k.Passes bytes) ∧
    (∃ k,Stops miscounted k ∧ Refuses miscounted k (.payload .zonesReport 4)) ∧
    (∃ e,decode (bytes.take 9)=.error e) ∧ ∃ e,decode (bytes++[0])=.error e := by
  intro bytes miscounted
  have hd : decode bytes=.ok ⟨7,0,4,.zonesReport 1 2 3 ⟨[0xE7]⟩⟩ := by decide
  have he : decode miscounted=.error (.payload .zonesReport 4) := by decide
  obtain ⟨accepted,-,cut⟩ := decoded_iff_grammatical bytes
  refine ⟨accepted.mp ⟨_,hd⟩,((decoded_iff_grammatical miscounted).2.1 _).mp he,?_,?_⟩
  · exact cut _ _ hd (by decide) (.inl (List.take_prefix 9 bytes))
  · exact cut _ _ hd (by decide) (.inr (List.prefix_append bytes [0]))

end Frame

end Watering
