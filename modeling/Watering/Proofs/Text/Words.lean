import Mathlib.Data.List.DropRight
import Mathlib.Tactic.Common
import Watering.Text.Blank
import Watering.Text.Numeral

namespace Watering

namespace Text

/-- A text and its words: runs without a blank, and blanks around and between them. -/
inductive Worded : List Char → List (List Char) → Prop
  | blank {b : List Char} (hb : ∀ c∈b,isBlank c=true) : Worded b []
  | word {b w s : List Char} {ws : List (List Char)} (hb : ∀ c∈b,isBlank c=true) (hw : w≠[])
      (solid : ∀ c∈w,isBlank c=false) (apart : ∀ c∈s.head?,isBlank c=true) (rest : Worded s ws) :
      Worded (b++w++s) (w::ws)

theorem forall_ascii {P : Char → Prop} (h : ∀ n<128,P (Char.ofNat n)) (c : Char) (hc : c.toNat<128) :
    P c := by
  have own := h c.toNat hc
  rwa [Char.ofNat_toNat] at own

section SplitOn

theorem splitOn_ne_nil (isSeparator : Char → Bool) (s : List Char) : splitOn isSeparator s≠[] := by
  cases s with
  | nil => exact List.cons_ne_nil _ _
  | cons c s =>
    rw [splitOn]
    split_ifs
    · exact List.cons_ne_nil _ _
    · split <;> exact List.cons_ne_nil _ _

variable {isSeparator : Char → Bool}

/-- What stands in front of the first separator joins the first part. -/
theorem splitOn_append {w s part : List Char} {parts : List (List Char)}
    (solid : ∀ c∈w,isSeparator c=false) (h : splitOn isSeparator s=part::parts) :
    splitOn isSeparator (w++s)=(w++part)::parts := by
  induction w with
  | nil => exact h
  | cons c w ih =>
    obtain ⟨hc,hw⟩ := List.forall_mem_cons.mp solid
    rw [List.cons_append,splitOn,hc,ih hw]
    rfl

theorem splitOn_concat {c : Char} (hc : isSeparator c=true) (s : List Char) :
    splitOn isSeparator (s++[c])=splitOn isSeparator s++[[]] := by
  induction s with
  | nil => simp [splitOn,hc]
  | cons d s ih =>
    obtain ⟨part,parts,h⟩ := List.exists_cons_of_ne_nil (splitOn_ne_nil isSeparator s)
    rw [List.cons_append,splitOn,splitOn,ih,h]
    split_ifs <;> rfl

/-- Characters may be changed before or after, if separators stay separators. -/
theorem splitOn_map {f : Char → Char} {s : List Char}
    (h : ∀ c∈s,isSeparator (f c)=isSeparator c) :
    splitOn isSeparator (s.map f)=(splitOn isSeparator s).map (·.map f) := by
  induction s with
  | nil => rfl
  | cons c s ih =>
    obtain ⟨hc,hs⟩ := List.forall_mem_cons.mp h
    obtain ⟨part,parts,hp⟩ := List.exists_cons_of_ne_nil (splitOn_ne_nil isSeparator s)
    rw [List.map_cons,splitOn,splitOn,hc,ih hs,hp]
    split_ifs <;> rfl

end SplitOn

theorem words_cons_blank {c : Char} (hc : isBlank c=true) (s : List Char) : words (c::s)=words s := by
  rw [words,splitOn,if_pos hc,List.filter_cons_of_neg (by simp),words]

theorem words_append_blank {b : List Char} (hb : ∀ c∈b,isBlank c=true) (s : List Char) :
    words (b++s)=words s := by
  induction b with
  | nil => rfl
  | cons c b ih =>
    obtain ⟨hc,hb⟩ := List.forall_mem_cons.mp hb
    rw [List.cons_append,words_cons_blank hc,ih hb]

theorem words_concat_blank {c : Char} (hc : isBlank c=true) (s : List Char) :
    words (s++[c])=words s := by
  rw [words,splitOn_concat hc,List.filter_append,List.filter_cons_of_neg (by simp),List.filter_nil,
    List.append_nil,words]

/-- A run without a blank is a word if it is followed by a blank or by nothing. -/
theorem words_append {w s : List Char} (hw : w≠[]) (solid : ∀ c∈w,isBlank c=false)
    (apart : ∀ c∈s.head?,isBlank c=true) : words (w++s)=w::words s := by
  cases s with
  | nil =>
    rw [words,splitOn_append solid rfl,List.append_nil,List.filter_cons_of_pos (by simpa using hw)]
    rfl
  | cons c s =>
    have hc : isBlank c=true := apart c rfl
    have parts : splitOn isBlank (c::s)=[]::splitOn isBlank s := by rw [splitOn,if_pos hc]
    rw [words,splitOn_append solid parts,List.append_nil,
      List.filter_cons_of_pos (by simpa using hw),words_cons_blank hc,words]

theorem words_dropWhile (s : List Char) : words (s.dropWhile isBlank)=words s := by
  induction s with
  | nil => rfl
  | cons c s ih =>
    rw [List.dropWhile_cons]
    split_ifs with hc
    · rw [ih,words_cons_blank hc]
    · rfl

theorem words_rdropWhile (s : List Char) : words (s.rdropWhile isBlank)=words s := by
  induction s using List.reverseRecOn with
  | nil => rfl
  | append_singleton s c ih =>
    rw [List.rdropWhile_concat]
    split_ifs with hc
    · rw [ih,words_concat_blank hc]
    · rfl

theorem words_trim (s : List Char) : words (trim s)=words s :=
  (words_rdropWhile _).trans (words_dropWhile s)

theorem isBlank_toLower (c : Char) : isBlank c.toLower=isBlank c := by
  by_cases hc : c.toNat<128
  · exact forall_ascii (P:=fun c => isBlank c.toLower=isBlank c) (by decide +kernel) c hc
  · have kept : c.toLower=c := by
      unfold Char.toLower
      refine dif_neg fun upper => hc ?_
      have last : c.val.toNat≤90 := upper.2
      exact Nat.lt_of_le_of_lt last (by decide)
    rw [kept]

/-- A text is what is left of it when it is trimmed, with blanks on either side. -/
theorem exists_trim (s : List Char) :
    ∃ b e,s=b++trim s++e ∧ (∀ c∈b,isBlank c=true) ∧ ∀ c∈e,isBlank c=true := by
  refine ⟨s.takeWhile isBlank,(s.dropWhile isBlank).rtakeWhile isBlank,?_,?_,?_⟩
  · rw [List.append_assoc]
    refine List.takeWhile_append_dropWhile.symm.trans (congrArg _ ?_)
    exact List.rdropWhile_append_rtakeWhile.symm
  · exact fun c hc => List.mem_takeWhile_imp hc
  · exact fun c hc => List.mem_rtakeWhile_imp hc

theorem rdropWhile_append {w : List Char} (solid : ∀ c∈w,isBlank c=false) (s : List Char) :
    (w++s).rdropWhile isBlank=w++s.rdropWhile isBlank := by
  induction s using List.reverseRecOn with
  | nil =>
    rw [List.append_nil,List.rdropWhile_nil,List.append_nil,List.rdropWhile_eq_self_iff]
    intro hw
    rw [solid _ (List.getLast_mem hw)]
    exact Bool.false_ne_true
  | append_singleton s c ih =>
    rw [←List.append_assoc,List.rdropWhile_concat,List.rdropWhile_concat]
    split_ifs
    · exact ih
    · exact List.append_assoc ..

/-- Blanks in front go, and a run without a blank behind them stays. -/
theorem trim_append {b w : List Char} (hb : ∀ c∈b,isBlank c=true) (hw : w≠[])
    (solid : ∀ c∈w,isBlank c=false) (s : List Char) : trim (b++w++s)=w++s.rdropWhile isBlank := by
  have front : (b++w++s).dropWhile isBlank=w++s := by
    obtain ⟨c,w,rfl⟩ := List.exists_cons_of_ne_nil hw
    rw [List.append_assoc,List.dropWhile_append_of_pos hb,List.cons_append,
      List.dropWhile_cons_of_neg (by rw [solid c List.mem_cons_self]; exact Bool.false_ne_true)]
  rw [trim,front]
  exact rdropWhile_append solid s

theorem words_map {f : Char → Char} {s : List Char} (h : ∀ c∈s,isBlank (f c)=isBlank c) :
    words (s.map f)=(words s).map (·.map f) := by
  rw [words,splitOn_map h,List.filter_map,words]
  congr 1
  apply List.filter_congr
  intro part _
  simp

namespace Worded

theorem words_eq {s : List Char} {ws : List (List Char)} (h : Worded s ws) : words s=ws := by
  induction h with
  | @blank b hb =>
    have none := words_append_blank hb []
    rwa [List.append_nil] at none
  | word hb hw solid apart _ ih =>
    rw [List.append_assoc,words_append_blank hb,words_append hw solid apart,ih]

/-- A word is made of characters of its text. -/
theorem mem {s w : List Char} {ws : List (List Char)} (h : Worded s ws) (hw : w∈ws) : ∀ c∈w,c∈s := by
  induction h with
  | blank => cases hw
  | word _ _ _ _ _ ih =>
    intro c m
    obtain rfl | hw := List.mem_cons.mp hw
    · exact List.mem_append_left _ (List.mem_append_right _ m)
    · exact List.mem_append_right _ (ih hw c m)

theorem cons_blank {c : Char} {s : List Char} {ws : List (List Char)} (hc : isBlank c=true)
    (h : Worded s ws) : Worded (c::s) ws := by
  cases h with
  | blank hb => exact .blank (List.forall_mem_cons.mpr ⟨hc,hb⟩)
  | @word b w s ws hb hw solid apart rest =>
    exact .word (b:=c::b) (List.forall_mem_cons.mpr ⟨hc,hb⟩) hw solid apart rest

/-- A character more makes the first word longer, or is a word of its own. -/
theorem cons_solid {c : Char} {s : List Char} {ws : List (List Char)} (hc : isBlank c=false)
    (h : Worded s ws) : ∃ ws',Worded (c::s) ws' := by
  have alone (apart : ∀ d∈s.head?,isBlank d=true) : ∃ ws',Worded (c::s) ws' :=
    ⟨_,.word (b:=[]) (w:=[c]) nofun (List.cons_ne_nil _ _) (List.forall_mem_singleton.mpr hc) apart h⟩
  cases h with
  | blank hb => exact alone fun d hd => hb d (List.mem_of_mem_head? hd)
  | @word b w t ws hb hw solid apart rest =>
    cases b with
    | nil =>
      exact ⟨_,.word (b:=[]) (w:=c::w) nofun (List.cons_ne_nil _ _)
        (List.forall_mem_cons.mpr ⟨hc,solid⟩) apart rest⟩
    | cons e b => exact alone fun d hd => Option.some.inj hd ▸ hb e List.mem_cons_self

theorem exists_words (s : List Char) : ∃ ws,Worded s ws := by
  induction s with
  | nil => exact ⟨[],.blank nofun⟩
  | cons c s ih =>
    obtain ⟨ws,h⟩ := ih
    cases hc : isBlank c with
    | true => exact ⟨ws,h.cons_blank hc⟩
    | false => exact h.cons_solid hc

end Worded

/-- The words of a text are those of the grammar. -/
theorem worded_iff {s : List Char} {ws : List (List Char)} : Worded s ws ↔ words s=ws := by
  refine ⟨Worded.words_eq,?_⟩
  rintro rfl
  obtain ⟨ws,h⟩ := Worded.exists_words s
  rwa [h.words_eq]

/-- A text has one word iff that is what is left of it when it is trimmed. -/
theorem worded_singleton_iff {s w : List Char} (hw : w≠[]) (solid : ∀ c∈w,isBlank c=false) :
    Worded s [w] ↔ trim s=w := by
  constructor
  · intro h
    cases h with
    | @word b _ t _ hb _ _ _ rest =>
      cases rest with
      | blank ht => rw [trim_append hb hw solid,List.rdropWhile_eq_nil_iff.mpr ht,List.append_nil]
  · intro h
    rw [worded_iff,←words_trim,h]
    have alone := words_append (s:=[]) hw solid nofun
    rwa [List.append_nil] at alone

end Text

namespace Numeral

/-- Digits and the number that they stand for; zeros may lead. -/
inductive Digits : List Char → Nat → Prop
  | one {k : Nat} (hk : k<10) : Digits [Char.ofNat (48+k)] k
  | more {s : List Char} {n k : Nat} (h : Digits s n) (hk : k<10) :
      Digits (s++[Char.ofNat (48+k)]) (10*n+k)

/-- A numeral of a number: its digits, with a plus sign in front or without. -/
inductive Denotes : List Char → Nat → Prop
  | plain {s : List Char} {n : Nat} (h : Digits s n) : Denotes s n
  | signed {s : List Char} {n : Nat} (h : Digits s n) : Denotes ('+'::s) n

theorem toNat_digit {k : Nat} (hk : k<10) : (Char.ofNat (48+k)).toNat=48+k := by
  have all : ∀ k<10,(Char.ofNat (48+k)).toNat=48+k := by decide
  exact all k hk

theorem isDigit_iff {c : Char} : isDigit c=true ↔ 48≤c.toNat ∧ c.toNat≤57 := by
  rw [isDigit,Bool.and_eq_true,decide_eq_true_eq,decide_eq_true_eq]
  exact Iff.rfl

theorem isDigit_digit {k : Nat} (hk : k<10) : isDigit (Char.ofNat (48+k))=true := by
  rw [isDigit_iff,toNat_digit hk]
  omega

theorem value_concat (s : List Char) (c : Char) : value (s++[c])=10*value s+(c.toNat-48) := by
  rw [value,List.foldl_append]
  rfl

theorem Digits.read {s : List Char} {n : Nat} (h : Digits s n) :
    s≠[] ∧ (∀ c∈s,isDigit c=true) ∧ value s=n := by
  induction h with
  | @one k hk =>
    refine ⟨List.cons_ne_nil _ _,List.forall_mem_singleton.mpr (isDigit_digit hk),?_⟩
    rw [←List.nil_append [_],value_concat,toNat_digit hk,Nat.add_sub_cancel_left]
    exact Nat.zero_add k
  | @more s n k _ hk ih =>
    obtain ⟨_,digits,read⟩ := ih
    refine ⟨List.append_ne_nil_of_right_ne_nil _ (List.cons_ne_nil _ _),?_,?_⟩
    · exact List.forall_mem_append.mpr ⟨digits,List.forall_mem_singleton.mpr (isDigit_digit hk)⟩
    · rw [value_concat,toNat_digit hk,read,Nat.add_sub_cancel_left]

theorem digits_value {s : List Char} (hs : s≠[]) (digits : ∀ c∈s,isDigit c=true) :
    Digits s (value s) := by
  induction s using List.reverseRecOn with
  | nil => exact absurd rfl hs
  | append_singleton s c ih =>
    obtain ⟨before,last⟩ := List.forall_mem_append.mp digits
    have range := isDigit_iff.mp (last c List.mem_cons_self)
    have hk : c.toNat-48<10 := by omega
    have hc : Char.ofNat (48+(c.toNat-48))=c := by
      rw [Nat.add_sub_cancel' range.1,Char.ofNat_toNat]
    rw [value_concat,←congrArg (s++[·]) hc,hc]
    cases s with
    | nil =>
      have one := Digits.one hk
      rw [hc] at one
      rwa [List.nil_append,show value []=0 from rfl,Nat.mul_zero,Nat.zero_add]
    | cons d s =>
      have more := (ih (List.cons_ne_nil _ _) before).more hk
      rwa [hc] at more

theorem plus_of_signed {s : List Char} {n : Nat} (h : Digits ('+'::s) n) : False := by
  have plus := h.read.2.1 '+' List.mem_cons_self
  cases plus

theorem unsigned_of_digits {s : List Char} {n : Nat} (h : Digits s n) : unsigned s=s := by
  unfold unsigned
  split
  · exact (plus_of_signed h).elim
  · rfl

theorem denotes_of_unsigned {s : List Char} {n : Nat} (h : Digits (unsigned s) n) : Denotes s n := by
  unfold unsigned at h
  split at h
  · exact .signed h
  · exact .plain h

theorem Denotes.char {s : List Char} {n : Nat} (h : Denotes s n) : ∀ c∈s,isDigit c=true ∨ c= '+' := by
  cases h with
  | plain h => exact fun c m => .inl (h.read.2.1 c m)
  | signed h => exact List.forall_mem_cons.mpr ⟨.inr rfl,fun c m => .inl (h.read.2.1 c m)⟩

/-- Numerals are read as the numbers that they denote, as far as the limit. -/
theorem upTo?_eq_some_iff {limit n : Nat} {s : List Char} :
    upTo? limit s=some n ↔ Denotes s n ∧ n≤limit := by
  have reads {digits : List Char} (hu : unsigned s=digits) (h : Digits digits n) (le : n≤limit) :
      upTo? limit s=some n := by
    obtain ⟨some_digit,all,rfl⟩ := h.read
    rw [upTo?,hu]
    exact if_pos ⟨some_digit,List.all_eq_true.mpr all,le⟩
  constructor
  · intro h
    rw [upTo?] at h
    split_ifs at h with k
    obtain ⟨some_digit,all,le⟩ := k
    obtain rfl := Option.some.inj h
    exact ⟨denotes_of_unsigned (digits_value some_digit (List.all_eq_true.mp all)),le⟩
  · rintro ⟨h,le⟩
    cases h with
    | plain h => exact reads (unsigned_of_digits h) h le
    | signed h => exact reads rfl h le

theorem octet?_eq_some_iff {u : UInt8} {s : List Char} : octet? s=some u ↔ Denotes s u.toNat := by
  rw [octet?,Option.map_eq_some_iff]
  constructor
  · rintro ⟨n,h,rfl⟩
    obtain ⟨denotes,le⟩ := upTo?_eq_some_iff.mp h
    rwa [UInt8.toNat_ofNat_of_lt' (Nat.lt_succ_of_le le)]
  · intro h
    have le : u.toNat≤255 := Nat.le_of_lt_succ u.toNat_lt
    exact ⟨u.toNat,upTo?_eq_some_iff.mpr ⟨h,le⟩,UInt8.ofNat_toNat⟩

end Numeral

end Watering
