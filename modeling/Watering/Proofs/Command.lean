import Watering.Command
import Watering.Proofs.Radio.Broker
import Watering.Proofs.Text.Words

namespace Watering

namespace Utf8

/-- The text of ASCII octets. -/
def ascii (payload : List UInt8) : List Char := payload.map fun b => Char.ofNat b.toNat

theorem toNat_of_mem_ascii {payload : List UInt8} (h : ∀ b∈payload,b<128) :
    ∀ c∈ascii payload,c.toNat<128 := by
  intro c m
  obtain ⟨b,hb,rfl⟩ := List.mem_map.mp m
  have lt : b.toNat<128 := UInt8.lt_iff_toNat_lt.mp (h b hb)
  have kept : ∀ n<128,(Char.ofNat n).toNat=n := by decide
  rwa [kept _ lt]

theorem foldl_feed_ascii {payload : List UInt8} (h : ∀ b∈payload,b<128) (done : List (Option Char)) :
    payload.foldl State.feed ⟨done,none⟩=⟨((ascii payload).map some).reverse++done,none⟩ := by
  induction payload generalizing done with
  | nil => rfl
  | cons b payload ih =>
    obtain ⟨hb,rest⟩ := List.forall_mem_cons.mp h
    have fed : State.feed ⟨done,none⟩ b=⟨some (Char.ofNat b.toNat)::done,none⟩ := by
      change State.begin _ b=_
      rw [State.begin,lead,if_pos hb]
    rw [List.foldl_cons,fed,ih rest,ascii,ascii,List.map_cons,List.map_cons,List.reverse_cons,
      List.append_assoc]
    rfl

/-- ASCII octets are the text of their codes. -/
theorem decodeLossy_ascii {payload : List UInt8} (h : ∀ b∈payload,b<128) :
    decodeLossy payload=ascii payload := by
  rw [decodeLossy,read,foldl_feed_ascii h]
  change (((ascii payload).map some).reverse++[]).reverse.map _=_
  rw [List.append_nil,List.reverse_reverse,List.map_map]
  exact List.map_id _

end Utf8

namespace Text

theorem upper_ascii {s : List Char} (h : ∀ c∈s,c.toNat<128) : upper s=s.map Char.toUpper := by
  induction s with
  | nil => rfl
  | cons c s ih =>
    obtain ⟨hc,hs⟩ := List.forall_mem_cons.mp h
    have one : upperChar c=[c.toUpper] := if_pos hc
    rw [List.map_cons,←ih hs]
    exact congrArg (·++upper s) one

theorem isBlank_toUpper {c : Char} (h : c.toNat<128) : isBlank c.toUpper=isBlank c :=
  forall_ascii (P:=fun c => isBlank c.toUpper=isBlank c) (by decide +kernel) c h

end Text

namespace Numeral

variable {s : List Char} {n : Nat}

/-- Characters of numerals have no other case, nor are they the upper case of any other. -/
theorem toUpper_of_numeral {c : Char} (hc : c.toNat<128)
    (h : (isDigit c=true ∨ c= '+') ∨ isDigit c.toUpper=true ∨ c.toUpper= '+') : c.toUpper=c :=
  Text.forall_ascii (P:=fun c => (isDigit c=true ∨ c= '+') ∨ isDigit c.toUpper=true ∨ c.toUpper= '+' →
    c.toUpper=c) (by decide +kernel) c hc h

theorem denotes_toUpper_iff (hs : ∀ c∈s,c.toNat<128) :
    Denotes (s.map Char.toUpper) n ↔ Denotes s n := by
  have kept (h : ∀ c∈s,c.toUpper=c) : s.map Char.toUpper=s :=
    (List.map_congr_left h).trans (List.map_id' s)
  constructor
  · intro h
    have same := kept fun c m => toUpper_of_numeral (hs c m) (.inr (h.char _ (List.mem_map_of_mem m)))
    rwa [same] at h
  · intro h
    have same := kept fun c m => toUpper_of_numeral (hs c m) (.inl (h.char c m))
    rwa [same]

end Numeral

namespace Command

open Text Utf8

variable {topic : Topic} {payload : List UInt8} {zone m : UInt8}

/-- A topic that commands a zone. -/
def Addresses (topic : Topic) (zone : UInt8) : Prop :=
  ∃ n,topic="zone/".toList++n++"/set".toList ∧ Numeral.Denotes n zone.toNat

/-- The one word of a text is `OFF`, in any case. -/
def SaysOff (s : List Char) : Prop := ∃ off,Worded s [off] ∧ off.map Char.toUpper="OFF".toList

/-- The words of a text are `ON`, in any case, and a numeral of so many minutes, at least one. -/
def SaysOn (s : List Char) (minutes : UInt8) : Prop :=
  ∃ on n,Worded s [on,n] ∧ on.map Char.toUpper="ON".toList ∧ Numeral.Denotes n minutes.toNat ∧
    1≤ minutes

theorem segments_addressing {n : List Char} (plain : '/'∉n) :
    Topic.segments ("zone/".toList++n++"/set".toList)=["zone".toList,n,"set".toList] := by
  have split : "zone/".toList++n++"/set".toList=['/'].intercalate ["zone".toList,n,"set".toList] := by
    simp [List.intercalate]
  rw [Topic.segments,splitOn_eq_splitOnP,split]
  refine List.splitOn_intercalate '/' ?_ (List.cons_ne_nil _ _)
  intro part hp
  simp only [List.mem_cons,List.not_mem_nil,or_false] at hp
  obtain rfl | rfl | rfl := hp
  · decide
  · exact plain
  · decide

theorem zone?_eq_some_iff : zone? topic=some zone ↔ Addresses topic zone := by
  constructor
  · intro h
    have joined : ['/'].intercalate topic.segments=topic := by
      rw [Topic.segments,splitOn_eq_splitOnP]
      exact List.intercalate_splitOn '/'
    unfold zone? at h
    split at h
    · next root n last parts =>
      split_ifs at h with k
      obtain ⟨rfl,rfl⟩ := k
      refine ⟨n,?_,Numeral.octet?_eq_some_iff.mp h⟩
      rw [←joined,parts]
      simp [List.intercalate]
    · cases h
  · rintro ⟨n,rfl,h⟩
    have plain : '/'∉n := fun k => by obtain k | k := h.char _ k <;> cases k
    rw [zone?,segments_addressing plain]
    exact (if_pos ⟨rfl,rfl⟩).trans (Numeral.octet?_eq_some_iff.mpr h)

theorem minutes?_eq_none_iff : minutes? payload=.ok none ↔ words (normal payload)=["OFF".toList] := by
  constructor
  · intro h
    unfold minutes? at h
    dsimp only at h
    split at h
    · next word hw =>
      split_ifs at h with off
      rw [hw,off]
    · split_ifs at h
      split at h
      · split_ifs at h
        cases h
      · cases h
    · cases h
  · intro h
    rw [minutes?,h]
    exact if_pos rfl

theorem minutes?_eq_some_iff : minutes? payload=.ok (some m) ↔
    ∃ n,words (normal payload)=["ON".toList,n] ∧ Numeral.octet? n=some m ∧ m≠0 := by
  constructor
  · intro h
    unfold minutes? at h
    dsimp only at h
    split at h
    · split_ifs at h
      cases h
    · next word n hw =>
      split_ifs at h with on
      split at h
      · next k hn =>
        split_ifs at h with zero
        obtain rfl := Option.some.inj (Except.ok.inj h)
        exact ⟨n,by rw [hw,on],hn,zero⟩
      · cases h
    · cases h
  · rintro ⟨n,hw,hn,positive⟩
    rw [minutes?,hw]
    dsimp only
    rw [if_pos rfl,hn]
    exact if_neg positive

/-- The words of an ASCII payload, in upper case. -/
theorem words_normal (h : ∀ b∈payload,b<128) :
    words (normal payload)=(words (ascii payload)).map (·.map Char.toUpper) := by
  have small := toNat_of_mem_ascii h
  have trimmed : ∀ c∈trim (ascii payload),c.toNat<128 := by
    intro c m
    apply small
    have back := (List.rdropWhile_prefix (p:=isBlank) ((ascii payload).dropWhile isBlank)).subset m
    exact (List.dropWhile_sublist _).subset back
  rw [normal,decodeLossy_ascii h,upper_ascii trimmed,
    words_map fun c m => isBlank_toUpper (trimmed c m),
    words_trim]

theorem minutes?_eq_none_iff_saysOff (h : ∀ b∈payload,b<128) :
    minutes? payload=.ok none ↔ SaysOff (ascii payload) := by
  rw [minutes?_eq_none_iff,words_normal h]
  constructor
  · intro e
    obtain ⟨off,hw,same⟩ := List.map_eq_singleton_iff.mp e
    exact ⟨off,worded_iff.mpr hw,same⟩
  · rintro ⟨off,hw,same⟩
    rw [worded_iff.mp hw,List.map_singleton,same]

theorem minutes?_eq_some_iff_saysOn (h : ∀ b∈payload,b<128) :
    minutes? payload=.ok (some m) ↔ SaysOn (ascii payload) m := by
  have spelt {ws : List (List Char)} {n : List Char} (hw : Worded (ascii payload) ws) (hn : n∈ws) :
      ∀ c∈n,c.toNat<128 := fun c k => toNat_of_mem_ascii h c (hw.mem hn c k)
  have positive : 1 ≤ m ↔ m≠0 := by
    rw [UInt8.le_iff_toNat_le,ne_eq,←UInt8.toNat_inj]
    exact Nat.one_le_iff_ne_zero
  rw [minutes?_eq_some_iff,words_normal h]
  constructor
  · rintro ⟨n,e,hn,hm⟩
    obtain ⟨on,_,hw,same,last⟩ := List.map_eq_cons_iff.mp e
    obtain ⟨n,rfl,rfl⟩ := List.map_eq_singleton_iff.mp last
    have worded := worded_iff.mpr hw
    refine ⟨on,n,worded,same,?_,positive.mpr hm⟩
    exact (Numeral.denotes_toUpper_iff (spelt worded (by simp))).mp (Numeral.octet?_eq_some_iff.mp hn)
  · rintro ⟨on,n,worded,same,hn,hm⟩
    refine ⟨n.map Char.toUpper,?_,?_,positive.mp hm⟩
    · rw [worded_iff.mp worded,List.map_cons,List.map_singleton,same]
    · exact Numeral.octet?_eq_some_iff.mpr
        ((Numeral.denotes_toUpper_iff (spelt worded (by simp))).mpr hn)

theorem parse_addressing (h : Addresses topic zone) (payload : List UInt8) : parse topic payload=
    match minutes? payload with
    | .error e => .error e
    | .ok (some minutes) => .ok (.zoneOn zone minutes)
    | .ok none => .ok (.zoneOff zone) := by
  cases hm : minutes? payload with
  | error e => simp only [parse,zone?_eq_some_iff.mpr h,hm]
  | ok minutes => cases minutes <;> simp only [parse,zone?_eq_some_iff.mpr h,hm]

/-- Elsewhere nothing is said to a zone. -/
theorem parse_elsewhere (h : ∀ zone,¬Addresses topic zone) (payload : List UInt8) :
    (∃ e,parse topic payload=.error e) ∨ parse topic payload=.ok .stopAll ∨
      ∃ durations,parse topic payload=.ok (.quickRun durations) := by
  have other : zone? topic=none := by
    cases hz : zone? topic with
    | none => rfl
    | some zone => exact absurd (zone?_eq_some_iff.mp hz) (h zone)
  rw [parse,other]
  dsimp only
  split_ifs
  · exact .inr (.inl rfl)
  · cases quickRun? payload with
    | none => exact .inl ⟨_,rfl⟩
    | some durations => exact .inr (.inr ⟨durations,rfl⟩)
  · exact .inl ⟨_,rfl⟩

/-- A zone is turned on or off on its own topic only, whose middle is a numeral of it; there an ASCII
payload turns it off if its one word is `OFF`, on if its words are `ON` and a numeral of the minutes, and
is refused if it is anything else. Cases of letters make no difference, nor do leading zeros. Whatever
is said on the topic for stops stops everything. -/
theorem zone_command_iff (topic : Topic) (payload : List UInt8) :
    ((∀ b∈payload,b<128) → ∀ zone,Addresses topic zone →
      (parse topic payload=.ok (.zoneOff zone) ↔ SaysOff (ascii payload)) ∧
      (∀ minutes,parse topic payload=.ok (.zoneOn zone minutes) ↔ SaysOn (ascii payload) minutes) ∧
      (¬SaysOff (ascii payload) → (∀ minutes,¬SaysOn (ascii payload) minutes) →
        ∃ e,parse topic payload=.error e)) ∧
    (∀ zone,parse topic payload=.ok (.zoneOff zone) ∨
      (∃ minutes,parse topic payload=.ok (.zoneOn zone minutes)) → Addresses topic zone) ∧
    parse "zones/stop".toList payload=.ok .stopAll := by
  refine ⟨fun hp zone hz => ?_,fun zone said => ?_,?_⟩
  · have off := minutes?_eq_none_iff_saysOff hp
    have on (m : UInt8) := minutes?_eq_some_iff_saysOn (m:=m) hp
    simp only [parse_addressing hz,←off,←on]
    cases minutes? payload with
    | error e => simp
    | ok minutes => cases minutes <;> simp
  · by_cases somewhere : ∃ other,Addresses topic other
    · obtain ⟨other,hz⟩ := somewhere
      rw [parse_addressing hz] at said
      cases hm : minutes? payload with
      | error e => simp [hm] at said
      | ok minutes => cases minutes <;> simp_all
    · obtain ⟨e,h⟩ | h | ⟨durations,h⟩ :=
        parse_elsewhere (fun other k => somewhere ⟨other,k⟩) payload <;> simp [h] at said
  · have other : zone? "zones/stop".toList=none := rfl
    rw [parse,other]
    exact if_pos rfl

/-- ` on`, a tab and `+010` turn a zone on for ten minutes. -/
theorem zone_seven_on :
    Addresses "zone/+007/set".toList 7 ∧
    parse "zone/+007/set".toList [32,111,110,9,43,48,49,48,10]=.ok (.zoneOn 7 10) ∧
    parse "zone/+007/set".toList [32,111,110,10]≠.ok (.zoneOff 7) := by
  have here : Addresses "zone/+007/set".toList 7 := zone?_eq_some_iff.mp (by decide +kernel)
  have said : SaysOn (ascii [32,111,110,9,43,48,49,48,10]) 10 :=
    ⟨"on".toList,"+010".toList,worded_iff.mpr (by decide +kernel),by decide +kernel,
      Numeral.octet?_eq_some_iff.mp (by decide +kernel),by decide⟩
  refine ⟨here,(((zone_command_iff _ _).1 (by decide +kernel) 7 here).2.1 10).mpr said,?_⟩
  rw [ne_eq,((zone_command_iff _ _).1 (by decide +kernel) 7 here).1]
  rintro ⟨off,worded,same⟩
  obtain rfl : off="on".toList := by
    have one := worded_iff.mp worded
    rw [show words (ascii [32,111,110,10])=["on".toList] from by decide +kernel] at one
    exact (List.singleton_inj.mp one).symm
  revert same
  decide

end Command

end Watering
