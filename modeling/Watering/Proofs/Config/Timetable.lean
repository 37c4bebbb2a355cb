import Mathlib.Data.List.Forall2
import Watering.Proofs.Config.Layout
import Watering.Proofs.Text.Words

namespace Watering

/-- It names a day of the week, or counts days. -/
def Recurrence.CanFire : Recurrence → Prop
  | weekdays mask => mask≠0
  | interval n => 1≤n

namespace Config

/-- A text that tells a time of day, in minutes since midnight: its one word is hours and minutes, with a
colon between. -/
inductive Tells : List Char → Nat → Prop
  | clock {s h m : List Char} {hour minute : Nat} (word : Text.Worded s [h++ ':'::m])
      (hh : Numeral.Denotes h hour) (hm : Numeral.Denotes m minute) (hour_le : hour≤23)
      (minute_le : minute≤59) : Tells s (60*hour+minute)

/-- The three letters of each day of the week, from Sunday on. -/
inductive DayLetters : List Char → Nat → Prop
  | sunday : DayLetters ['s','u','n'] 0
  | monday : DayLetters ['m','o','n'] 1
  | tuesday : DayLetters ['t','u','e'] 2
  | wednesday : DayLetters ['w','e','d'] 3
  | thursday : DayLetters ['t','h','u'] 4
  | friday : DayLetters ['f','r','i'] 5
  | saturday : DayLetters ['s','a','t'] 6

/-- A text that names a day: behind blanks it begins with the letters of the day, in any case. -/
def NamesDay (s : List Char) (day : Nat) : Prop :=
  ∃ b letters rest,s=b++letters++rest ∧ (∀ c∈b,Text.isBlank c=true) ∧
    DayLetters (letters.map Char.toLower) day

theorem Tells.lt {s : List Char} {n : Nat} (h : Tells s n) : n< minutesPerDay := by
  obtain ⟨_,_,_,hour_le,minute_le⟩ := h
  rw [minutesPerDay]
  omega

theorem isBlank_of_numeral {c : Char} (h : Numeral.isDigit c=true ∨ c= '+') :
    Text.isBlank c=false := by
  obtain h | rfl := h
  · have range := Numeral.isDigit_iff.mp h
    simp only [Text.isBlank,Text.blankRanges,List.any_cons,List.any_nil,Bool.or_false,
      Bool.or_eq_false_iff,Bool.and_eq_false_iff,decide_eq_false_iff_not]
    omega
  · decide

theorem clock_solid {h m : List Char} {hour minute : Nat} (hh : Numeral.Denotes h hour)
    (hm : Numeral.Denotes m minute) : ∀ c∈h++ ':'::m,Text.isBlank c=false := by
  refine List.forall_mem_append.mpr ⟨fun c hc => isBlank_of_numeral (hh.char c hc),?_⟩
  exact List.forall_mem_cons.mpr ⟨by decide,fun c hc => isBlank_of_numeral (hm.char c hc)⟩

/-- Times are read as they are told, and nothing else is read as one. -/
theorem startMinute?_eq_some_iff {text : String} {n : Nat} :
    startMinute? text=some n ↔ Tells text.toList n := by
  constructor
  · intro read
    unfold startMinute? at read
    dsimp only at read
    split at read
    · cases read
    · next colon m hs =>
      split at read
      · next hour minute hh hm =>
        obtain ⟨hh,hour_le⟩ := Numeral.upTo?_eq_some_iff.mp hh
        obtain ⟨hm,minute_le⟩ := Numeral.upTo?_eq_some_iff.mp hm
        obtain rfl := Option.some.inj read
        have parts := List.takeWhile_append_dropWhile (p:=(·≠ ':')) (l:=Text.trim text.toList)
        have found := List.head?_dropWhile_not (·≠ ':') (Text.trim text.toList)
        rw [hs] at parts found
        obtain rfl : colon= ':' := by simpa using found
        refine .clock ?_ hh hm hour_le minute_le
        exact (Text.worded_singleton_iff (List.append_ne_nil_of_right_ne_nil _ (List.cons_ne_nil _ _))
          (clock_solid hh hm)).mpr parts.symm
      · cases read
  · intro told
    obtain ⟨word,hh,hm,hour_le,minute_le⟩ := told
    next h m hour minute =>
    have trimmed := (Text.worded_singleton_iff
      (List.append_ne_nil_of_right_ne_nil _ (List.cons_ne_nil _ _)) (clock_solid hh hm)).mp word
    have plain : ∀ c∈h,decide (c≠ ':')=true := by
      intro c hc
      obtain k | rfl := hh.char c hc
      · refine decide_eq_true ?_
        rintro rfl
        cases k
      · decide
    have before : (h++ ':'::m).takeWhile (·≠ ':')=h := by
      rw [List.takeWhile_append_of_pos plain,List.takeWhile_cons_of_neg (by decide),List.append_nil]
    have behind : (h++ ':'::m).dropWhile (·≠ ':')= ':'::m := by
      rw [List.dropWhile_append_of_pos plain,List.dropWhile_cons_of_neg (by decide)]
    simp only [startMinute?,trimmed,before,behind,Numeral.upTo?_eq_some_iff.mpr ⟨hh,hour_le⟩,
      Numeral.upTo?_eq_some_iff.mpr ⟨hm,minute_le⟩]

theorem dayLetters_iff {letters : List Char} {day : Nat} :
    DayLetters letters day ↔ dayNames[day]?=some letters := by
  constructor
  · intro h
    cases h <;> rfl
  · intro h
    obtain ⟨hlt,rfl⟩ := List.getElem?_eq_some_iff.mp h
    have each : ∀ i : Fin 7,DayLetters (dayNames.get ⟨i.val,i.isLt⟩) i.val := by
      intro i
      match i with
      | 0 => exact .sunday
      | 1 => exact .monday
      | 2 => exact .tuesday
      | 3 => exact .wednesday
      | 4 => exact .thursday
      | 5 => exact .friday
      | 6 => exact .saturday
    exact each ⟨day,hlt⟩

namespace DayLetters

variable {letters : List Char} {day : Nat}

theorem length_eq (h : DayLetters letters day) : letters.length=3 := by
  cases h <;> rfl

theorem solid (h : DayLetters letters day) : ∀ c∈letters,Text.isBlank c=false := by
  have none : letters.any Text.isBlank=false := by cases h <;> decide
  exact fun c hc => eq_false_of_ne_true (List.any_eq_false.mp none c hc)

theorem lt (h : DayLetters letters day) : day<7 := by
  cases h <;> decide

theorem inj {other : Nat} (h : DayLetters letters day) (ho : DayLetters letters other) :
    day=other := by
  have nodup : dayNames.Nodup := by decide
  exact (List.getElem?_inj h.lt nodup).mp ((dayLetters_iff.mp h).trans (dayLetters_iff.mp ho).symm)

end DayLetters

/-- The day that is found is the one whose letters come first; no two have the same. -/
theorem findIdx?_dayNames {key : List Char} {day : Nat} :
    dayNames.findIdx? (·.isPrefixOf key)=some day ↔
      ∃ letters,DayLetters letters day ∧ letters<+:key := by
  rw [List.findIdx?_eq_some_iff_getElem]
  constructor
  · rintro ⟨hlt,first,_⟩
    exact ⟨_,dayLetters_iff.mpr (List.getElem?_eq_getElem hlt),List.isPrefixOf_iff_prefix.mp first⟩
  · rintro ⟨letters,h,first⟩
    obtain ⟨hlt,rfl⟩ := List.getElem?_eq_some_iff.mp (dayLetters_iff.mp h)
    refine ⟨hlt,List.isPrefixOf_iff_prefix.mpr first,fun j hj also => ?_⟩
    have ho : DayLetters dayNames[j] j := dayLetters_iff.mpr (List.getElem?_eq_getElem _)
    have same := List.prefix_iff_eq_take.mp (List.isPrefixOf_iff_prefix.mp also)
    rw [ho.length_eq,←h.length_eq,←List.prefix_iff_eq_take.mp first] at same
    rw [same] at ho
    exact absurd (ho.inj h) (Nat.ne_of_lt hj)

theorem namesDay_iff {s : List Char} {day : Nat} : NamesDay s day ↔
    ∃ letters,DayLetters letters day ∧ letters<+:(Text.trim s).map Char.toLower := by
  constructor
  · rintro ⟨b,letters,rest,rfl,hb,h⟩
    have solid : ∀ c∈letters,Text.isBlank c=false := by
      intro c hc
      rw [←Text.isBlank_toLower]
      exact h.solid _ (List.mem_map_of_mem hc)
    have some_letter : letters≠[] := by
      rintro rfl
      cases h.length_eq
    rw [Text.trim_append hb some_letter solid,List.map_append]
    exact ⟨_,h,List.prefix_append _ _⟩
  · rintro ⟨letters,h,first⟩
    obtain ⟨b,e,hs,hb,_⟩ := Text.exists_trim s
    refine ⟨b,(Text.trim s).take 3,(Text.trim s).drop 3++e,?_,hb,?_⟩
    · rw [List.append_assoc,←List.append_assoc _ _ e,List.take_append_drop,←List.append_assoc]
      exact hs
    · rwa [List.map_take,←h.length_eq,←List.prefix_iff_eq_take.mp first]

/-- Names of days are read as the bits of the days that they name, and nothing else is read as one. -/
theorem dayBit?_eq_some_iff {name : String} {bit : UInt8} :
    dayBit? name=some bit ↔ ∃ day,NamesDay name.toList day ∧ bit=1<<<UInt8.ofNat day := by
  simp only [dayBit?,Option.map_eq_some_iff,findIdx?_dayNames,namesDay_iff,eq_comm (b:=bit)]

theorem testBit_dayBit {day : Nat} (h : day<7) (i : Nat) :
    ((1 : UInt8)<<<UInt8.ofNat day).toNat.testBit i=decide (day=i) := by
  have power : ∀ day<7,((1 : UInt8)<<<UInt8.ofNat day).toNat=2^day := by decide
  rw [power day h,Nat.testBit_two_pow]

theorem testBit_foldl_or (bits : List UInt8) (a : UInt8) (i : Nat) :
    (bits.foldl (·|||·) a).toNat.testBit i=
      (a.toNat.testBit i || bits.any (·.toNat.testBit i)) := by
  induction bits generalizing a with
  | nil => simp
  | cons b bits ih =>
    rw [List.foldl_cons,ih,UInt8.toNat_or,Nat.testBit_or,List.any_cons,Bool.or_assoc]

/-- The bits of a list of names are those of the days that it names. -/
theorem testBit_dayBits {names : List String} {day : Nat} :
    ((names.filterMap dayBit?).foldl (·|||·) 0).toNat.testBit day=true ↔
      ∃ d∈names,NamesDay d.toList day := by
  rw [testBit_foldl_or,UInt8.toNat_zero,Nat.zero_testBit,Bool.false_or,List.any_eq_true]
  constructor
  · rintro ⟨bit,hm,hbit⟩
    obtain ⟨d,hd,hb⟩ := List.mem_filterMap.mp hm
    obtain ⟨other,named,rfl⟩ := dayBit?_eq_some_iff.mp hb
    obtain ⟨_,letters,_⟩ := namesDay_iff.mp named
    rw [testBit_dayBit letters.lt] at hbit
    obtain rfl := of_decide_eq_true hbit
    exact ⟨d,hd,named⟩
  · rintro ⟨d,hd,named⟩
    obtain ⟨_,letters,_⟩ := namesDay_iff.mp named
    refine ⟨_,List.mem_filterMap.mpr ⟨d,hd,dayBit?_eq_some_iff.mpr ⟨day,named,rfl⟩⟩,?_⟩
    rw [testBit_dayBit letters.lt]
    exact decide_eq_true rfl

namespace ScheduleEntry

/-- The schedule says what its entry says: it starts at the times that the entry tells, comes back after
as many days as that says or else on the days that it names, and runs on some day. -/
structure Kept (s : ScheduleEntry) (t : Schedule) : Prop where
  name : t.name=s.name
  enabled : t.enabled=s.enabled
  durations : t.durations=s.durations
  weatherAdjust : t.weatherAdjust=s.weatherAdjust
  startTimes : List.Forall₂ (fun text m => Tells text.toList m) s.startTimes t.startTimes
  startTimes_lt : ∀ m∈t.startTimes,m< minutesPerDay
  interval {n : UInt8} : s.interval=some n → t.recurrence=.interval n ∧ s.days=[]
  weekdays : s.interval=none → ∃ mask : UInt8,t.recurrence=.weekdays mask ∧
    (∀ day,mask.toNat.testBit day=true ↔ ∃ d∈s.days,NamesDay d.toList day) ∧
    ∀ d∈s.days,∃ day,NamesDay d.toList day
  canFire : t.recurrence.CanFire
  runs : ∃ day,t.recurrence.runsOn day=true

/-- What is checked of how a schedule comes back, and of when. -/
structure Sound (s : ScheduleEntry) : Prop where
  recurrence : recurrenceFaults s=[]
  days : ∀ d∈s.days,(dayBit? d).isSome=true
  startTimes : ∀ t∈s.startTimes,(startMinute? t).isSome=true

variable {s : ScheduleEntry}

theorem Sound.tells (h : s.Sound) : List.Forall₂ (fun text m => Tells text.toList m) s.startTimes
    (s.startTimes.filterMap startMinute?) := by
  have all := h.startTimes
  generalize s.startTimes=texts at all ⊢
  induction texts with
  | nil => exact .nil
  | cons t ts ih =>
    obtain ⟨ht,hts⟩ := List.forall_mem_cons.mp all
    obtain ⟨m,hm⟩ := Option.isSome_iff_exists.mp ht
    rw [List.filterMap_cons_some hm]
    exact .cons (startMinute?_eq_some_iff.mp hm) (ih hts)

theorem Sound.named (h : s.Sound) {d : String} (hd : d∈s.days) : ∃ day,NamesDay d.toList day := by
  obtain ⟨bit,hb⟩ := Option.isSome_iff_exists.mp (h.days d hd)
  obtain ⟨day,named,_⟩ := dayBit?_eq_some_iff.mp hb
  exact ⟨day,named⟩

/-- Days of the week, if it is told by days, and at least one of them. -/
theorem Sound.exists_day (h : s.Sound) (hn : s.interval=none) :
    ∃ day<7,((s.days.filterMap dayBit?).foldl (·|||·) 0).toNat.testBit day=true := by
  cases hd : s.days with
  | nil =>
    have faults := h.recurrence
    rw [recurrenceFaults,hd,hn] at faults
    cases faults
  | cons d ds =>
    obtain ⟨day,named⟩ := h.named (d:=d) (by rw [hd]; exact List.mem_cons_self)
    obtain ⟨_,letters,_⟩ := namesDay_iff.mp named
    exact ⟨day,letters.lt,testBit_dayBits.mpr ⟨d,List.mem_cons_self,named⟩⟩

theorem Sound.days_eq_nil (h : s.Sound) {n : UInt8} (hn : s.interval=some n) : s.days=[] := by
  have faults := h.recurrence
  rw [recurrenceFaults,hn] at faults
  cases hd : s.days with
  | nil => rfl
  | cons d ds => simp [hd] at faults

theorem Sound.interval_pos (h : s.Sound) {n : UInt8} (hn : s.interval=some n) : n≠0 := by
  rintro rfl
  have faults := h.recurrence
  rw [recurrenceFaults,hn] at faults
  cases hd : s.days <;> simp [hd,when] at faults

theorem Sound.canFire (h : s.Sound) :
    s.recurrence.CanFire ∧ ∃ day,s.recurrence.runsOn day=true := by
  unfold ScheduleEntry.recurrence
  cases hn : s.interval with
  | some n =>
    have hpos := h.interval_pos hn
    refine ⟨?_,0,?_⟩
    · have : n.toNat≠0 := fun e => hpos (UInt8.toNat_inj.mp e)
      exact UInt8.le_iff_toNat_le.mpr (Nat.one_le_iff_ne_zero.mpr this)
    · simp [Recurrence.runsOn,hpos]
  | none =>
    obtain ⟨i,hi,hbit⟩ := h.exists_day hn
    refine ⟨fun e => ?_,(i+3 : Nat),?_⟩
    · rw [e] at hbit
      simp at hbit
    · have hday : weekday (i+3 : Nat)=i := by
        unfold weekday
        omega
      rw [Recurrence.runsOn,hday]
      exact hbit

theorem Sound.kept (h : s.Sound) : s.Kept s.schedule where
  name := rfl
  enabled := rfl
  durations := rfl
  weatherAdjust := rfl
  startTimes := h.tells
  startTimes_lt m hm := by
    obtain ⟨t,_,ht⟩ := List.mem_filterMap.mp hm
    exact (startMinute?_eq_some_iff.mp ht).lt
  interval {n} hn := by
    refine ⟨?_,h.days_eq_nil hn⟩
    change s.recurrence=_
    rw [ScheduleEntry.recurrence,hn]
  weekdays hn := by
    refine ⟨_,?_,fun day => testBit_dayBits,fun d hd => h.named hd⟩
    change s.recurrence=_
    rw [ScheduleEntry.recurrence,hn]
  canFire := h.canFire.1
  runs := h.canFire.2

end ScheduleEntry

variable {c : Config}

theorem Valid.schedule_sound (h : c.Valid) {s : ScheduleEntry} (hs : s∈c.schedules) : s.Sound := by
  obtain ⟨i,hi⟩ := List.mem_iff_getElem?.mp hs
  have hf := (List.append_eq_nil_iff.mp h.parts.2.2.2.2.2).2
  have hf : c.scheduleFaults s=[] := List.map_eq_nil_iff.mp (review_eq_nil hf hi)
  simp only [scheduleFaults,List.append_eq_nil_iff,List.map_eq_nil_iff,List.filter_eq_nil_iff,
    Bool.not_eq_true,Option.isNone_eq_false_iff] at hf
  obtain ⟨⟨⟨⟨⟨_,recurrence⟩,days⟩,_⟩,startTimes⟩,_⟩ := hf
  exact ⟨recurrence,days,startTimes⟩

/-- Entry by entry, in order. -/
theorem Valid.schedules_kept (h : c.Valid) :
    List.Forall₂ ScheduleEntry.Kept c.schedules c.allSchedules := by
  rw [allSchedules,List.forall₂_map_right_iff,List.forall₂_same]
  exact fun s hs => (h.schedule_sound hs).kept

end Config

end Watering
