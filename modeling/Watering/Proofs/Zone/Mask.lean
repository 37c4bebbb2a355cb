import Mathlib.Data.Nat.Bitwise
import Watering.Zone.Mask

namespace Watering

namespace ZoneMask

variable (m : ZoneMask) (c d first count : UInt8)

/-- The byte at a place; there are only zero bytes beyond the width. -/
def byteAt (m : ZoneMask) (i : Nat) : UInt8 := m.bytes[i]?.getD 0

theorem bit_eq : bit c=1<<<UInt8.ofNat (c.toNat%8) := by
  have hc : c%8=UInt8.ofNat (c.toNat%8) := by
    apply UInt8.toNat_inj.mp
    rw [UInt8.toNat_mod,UInt8.toNat_ofNat_of_lt' (by simp only [UInt8.size]; omega)]
    rfl
  rw [bit,hc]

theorem toNat_bit : (bit c).toNat=2^(c.toNat%8) := by
  have bits : ∀ i : Fin 8,((1 : UInt8)<<<UInt8.ofNat i.val).toNat=2^i.val := by decide
  rw [bit_eq]
  exact bits ⟨c.toNat%8,Nat.mod_lt _ (by decide)⟩

theorem testBit_not_bit : (~~~bit c).toNat.testBit (d.toNat%8)=decide (d.toNat%8≠c.toNat%8) := by
  have bits : ∀ i j : Fin 8,(~~~((1 : UInt8)<<<UInt8.ofNat i.val)).toNat.testBit j.val=
      decide (j.val≠i.val) := by decide
  rw [bit_eq]
  exact bits ⟨c.toNat%8,Nat.mod_lt _ (by decide)⟩ ⟨d.toNat%8,Nat.mod_lt _ (by decide)⟩

theorem and_bit (b : UInt8) : (b &&& bit c != 0)=b.toNat.testBit (c.toNat%8) := by
  have h : (b &&& bit c=0) ↔ b.toNat.testBit (c.toNat%8)=false := by
    rw [←UInt8.toNat_inj,UInt8.toNat_and,toNat_bit,Nat.and_two_pow]
    cases b.toNat.testBit (c.toNat%8) <;> simp
  cases hb : b.toNat.testBit (c.toNat%8) with
  | false => simp [h.mpr hb]
  | true => simp [h,hb]

theorem get_eq : m.get c=(m.byteAt (c.toNat/8)).toNat.testBit (c.toNat%8) := by
  unfold get byteAt
  cases m.bytes[c.toNat/8]? with
  | none => simp
  | some b => exact and_bit c b

/-- Zero bytes at the end do not show. -/
theorem byteAt_pad (k i : Nat) : (⟨m.bytes++List.replicate k 0⟩ : ZoneMask).byteAt i=m.byteAt i := by
  unfold byteAt
  rw [List.getElem?_append]
  split_ifs with h
  · rfl
  · rw [List.getElem?_replicate,List.getElem?_eq_none (by omega : m.bytes.length ≤ i)]
    split_ifs <;> rfl

theorem byteAt_set (on : Bool) (i : Nat) : (m.set c on).byteAt i=
    if i=c.toNat/8 then
      if on then m.byteAt i ||| bit c else m.byteAt i &&& ~~~bit c
    else m.byteAt i := by
  have wide : (m.bytes++List.replicate (c.toNat/8+1-m.bytes.length) 0)[i]?.getD 0=m.byteAt i :=
    m.byteAt_pad _ i
  unfold byteAt set
  dsimp only
  rw [List.getElem?_modify]
  by_cases h : i=c.toNat/8
  · subst h
    obtain ⟨b,hb⟩ : ∃ b,(m.bytes++List.replicate (c.toNat/8+1-m.bytes.length) 0)[c.toNat/8]?=
        some b := by
      apply Option.isSome_iff_exists.mp
      rw [isSome_getElem?,List.length_append,List.length_replicate]
      omega
    rw [hb,Option.getD_some] at wide
    rw [hb,if_pos rfl]
    change (if c.toNat/8=c.toNat/8 then _ else b)=_
    rw [if_pos rfl,wide]
    rfl
  · have hc : c.toNat/8≠i := fun k => h k.symm
    simp only [if_neg h,if_neg hc]
    exact (congrArg (Option.getD · 0) (id_map _)).trans wide

/-- Switching a channel switches that channel alone. -/
theorem get_set (on : Bool) : (m.set c on).get d=if d=c then on else m.get d := by
  rw [get_eq,get_eq,byteAt_set]
  by_cases h : d=c
  · subst h
    cases on with
    | true => simp [UInt8.toNat_or,toNat_bit]
    | false =>
      rw [if_pos rfl,if_neg Bool.false_ne_true,UInt8.toNat_and,Nat.testBit_and,testBit_not_bit]
      simp
  · rw [if_neg h]
    split_ifs with hbyte hon
    · have : c.toNat%8≠d.toNat%8 := fun k => h (UInt8.toNat_inj.mp (by omega))
      simp [UInt8.toNat_or,toNat_bit,this]
    · have : d.toNat%8≠c.toNat%8 := fun k => h (UInt8.toNat_inj.mp (by omega))
      rw [UInt8.toNat_and,Nat.testBit_and,testBit_not_bit]
      simp [this]
    · rfl

theorem get_foldl_set (on : UInt8 → Bool) (l : List UInt8) :
    (l.foldl (fun m c => m.set c (on c)) m).get d=if d∈l then on d else m.get d := by
  induction l generalizing m with
  | nil => simp
  | cons c l ih =>
    rw [List.foldl_cons,ih,get_set]
    by_cases hl : d∈l
    · simp [hl]
    · by_cases hc : d=c
      · subst hc
        simp
      · simp [hl,hc]

@[simp] theorem get_empty : (empty first count).get c=false := by
  rw [get_eq,byteAt,empty,List.getElem?_replicate]
  split_ifs <;> simp

theorem get_build (on : UInt8 → Bool) :
    (build first count on).get c=if c∈span first count then on c else false := by
  rw [build,get_foldl_set,get_empty]

theorem get_range : (range first count).get c=decide (c∈span first count) := by
  rw [range,get_build]
  split_ifs with h <;> simp [h]

/-- The width of a range has room for all of its channels. -/
theorem lt_bitmapLength (h : c∈span first count) : c.toNat/8<bitmapLength first count := by
  obtain ⟨_,h,_⟩ := mem_span.mp h
  unfold bitmapLength
  omega

theorem byteAt_fit (n i : Nat) : (⟨m.fit n⟩ : ZoneMask).byteAt i=if i<n then m.byteAt i else 0 := by
  have cut : (⟨m.fit n⟩ : ZoneMask).byteAt i=(⟨m.bytes.take n⟩ : ZoneMask).byteAt i :=
    byteAt_pad ⟨m.bytes.take n⟩ _ i
  rw [cut,byteAt,List.getElem?_take]
  split_ifs <;> rfl

/-- Cutting a mask to a width drops the channels beyond it. -/
theorem get_fit (n : Nat) : (⟨m.fit n⟩ : ZoneMask).get c=if c.toNat/8<n then m.get c else false := by
  rw [get_eq,byteAt_fit]
  split_ifs
  · rw [get_eq]
  · simp

/-- A mask cut to the width of a range names the same channels of the range. -/
theorem get_fit_of_mem (h : c∈span first count) :
    (⟨m.fit (bitmapLength first count)⟩ : ZoneMask).get c=m.get c := by
  rw [get_fit,if_pos (lt_bitmapLength c first count h)]

theorem filter_fit : (span first count).filter (⟨m.fit (bitmapLength first count)⟩ : ZoneMask).get=
    (span first count).filter m.get :=
  List.filter_congr fun _ h => get_fit_of_mem m _ first count h

/-- A cut mask is the run of its first bytes. -/
theorem fit_eq (n : Nat) : m.fit n=(List.range n).map m.byteAt := by
  apply List.ext_getElem?
  intro i
  have h := m.byteAt_fit n i
  rw [List.getElem?_map]
  by_cases hi : i<n
  · rw [List.getElem?_range hi,Option.map_some]
    have hl : i < (m.fit n).length := by rw [fit_length]; exact hi
    rw [if_pos hi,byteAt,List.getElem?_eq_getElem hl,Option.getD_some] at h
    rw [List.getElem?_eq_getElem hl,h]
  · have hl : (m.fit n).length ≤ i := by rw [fit_length]; omega
    rw [List.getElem?_eq_none hl,List.getElem?_eq_none (by simpa using hi),Option.map_none]

/-- Bit `n%8` of byte `n/8`; the bits up to 255 are the channels. -/
def bitAt (m : ZoneMask) (n : Nat) : Bool := (m.byteAt (n/8)).toNat.testBit (n%8)

theorem trim_cons (b : UInt8) (bs : List UInt8) : (trim ⟨b::bs⟩).bytes=
    if (trim ⟨bs⟩).bytes=[] ∧ b=0 then [] else b::(trim ⟨bs⟩).bytes := by
  simp only [trim,List.reverse_cons,List.dropWhile_append,List.isEmpty_iff,
    List.reverse_eq_nil_iff]
  by_cases hz : bs.reverse.dropWhile (·==0)=[]
  · rw [if_pos hz]
    by_cases hb : b=0
    · simp [hz,hb]
    · simp [hz,hb]
  · simp [hz]

theorem trim_eq_of_byteAt {a b : ZoneMask} (h : ∀ i,a.byteAt i=b.byteAt i) : a.trim=b.trim := by
  obtain ⟨as⟩ := a
  obtain ⟨bs⟩ := b
  have empty (xs : List UInt8) (hx : ∀ i,(⟨xs⟩ : ZoneMask).byteAt i=0) : (trim ⟨xs⟩).bytes=[] := by
    induction xs with
    | nil => rfl
    | cons x xs ih =>
      have h0 : x=0 := hx 0
      have hs : (trim ⟨xs⟩).bytes=[] := ih fun i => hx (i+1)
      rw [trim_cons,if_pos ⟨hs,h0⟩]
  apply ZoneMask.ext
  induction as generalizing bs with
  | nil => exact (empty bs fun i => (h i).symm).symm
  | cons x xs ih =>
    cases bs with
    | nil => exact empty _ h
    | cons y ys =>
      have h0 : x=y := h 0
      have hs := ih ys fun i => h (i+1)
      rw [trim_cons,trim_cons,hs,h0]

theorem byteAt_trim (i : Nat) : m.trim.byteAt i=m.byteAt i := by
  obtain ⟨bs⟩ := m
  induction bs generalizing i with
  | nil => rfl
  | cons b bs ih =>
    have hc := trim_cons b bs
    unfold byteAt
    rw [hc]
    split_ifs with hz
    · cases i with
      | zero => simp [hz.2]
      | succ i =>
        have h := ih i
        unfold byteAt at h
        rw [hz.1] at h
        simpa using h
    · cases i with
      | zero => rfl
      | succ i => exact ih i

theorem same_iff_byteAt {a b : ZoneMask} : a.Same b ↔ ∀ i,a.byteAt i=b.byteAt i := by
  constructor
  · intro h i
    rw [←a.byteAt_trim,←b.byteAt_trim,show a.trim=b.trim from h]
  · exact trim_eq_of_byteAt

/-- Masks are the same if they have the same bits. -/
theorem same_iff_bitAt {a b : ZoneMask} : a.Same b ↔ ∀ n,a.bitAt n=b.bitAt n := by
  rw [same_iff_byteAt]
  constructor
  · intro h n
    rw [bitAt,bitAt,h]
  · intro h i
    apply UInt8.toNat_inj.mp
    apply Nat.eq_of_testBit_eq
    intro j
    by_cases hj : j<8
    · have hn := h (8*i+j)
      have hd : (8*i+j)/8=i := by omega
      have hr : (8*i+j)%8=j := by omega
      rwa [bitAt,bitAt,hd,hr] at hn
    · have wide (x : UInt8) : x.toNat.testBit j=false := by
        apply Nat.testBit_lt_two_pow
        have hx := x.toNat_lt
        have hp : 2^8≤2^j := Nat.pow_le_pow_right (by decide) (by omega)
        omega
      rw [wide,wide]

theorem bitAt_fit (n k : Nat) : (⟨m.fit n⟩ : ZoneMask).bitAt k=(decide (k<8*n) && m.bitAt k) := by
  rw [bitAt,byteAt_fit,bitAt]
  by_cases h : k<8*n
  · rw [if_pos (by omega : k/8<n)]
    simp [h]
  · rw [if_neg (by omega : ¬k/8<n)]
    simp [h]

/-- Cutting a mask changes nothing exactly if no bit lies beyond the cut. -/
theorem fit_same_iff (n : Nat) :
    (⟨m.fit n⟩ : ZoneMask).Same m ↔ ∀ k,8*n≤k → m.bitAt k=false := by
  rw [same_iff_bitAt]
  constructor
  · intro h k hk
    have hb := h k
    rw [bitAt_fit,decide_eq_false (by omega : ¬k<8*n),Bool.false_and] at hb
    exact hb.symm
  · intro h k
    rw [bitAt_fit]
    by_cases hk : k<8*n
    · simp [hk]
    · simp [hk,h k (by omega)]

theorem fit_trim (n : Nat) : m.trim.fit n=m.fit n := by
  rw [fit_eq,fit_eq]
  apply List.map_congr_left
  intro i _
  exact m.byteAt_trim i

theorem get_eq_bitAt : m.get c=m.bitAt c.toNat := m.get_eq c

/-- Beyond its bytes a mask has no bits. -/
theorem bitAt_of_length_le {n : Nat} (h : m.bytes.length≤n/8) : m.bitAt n=false := by
  have hb : m.byteAt (n/8)=0 := by rw [byteAt,List.getElem?_eq_none h,Option.getD_none]
  rw [bitAt,hb,UInt8.toNat_zero,Nat.zero_testBit]

theorem equivalence_same : Equivalence Same where
  refl _ := Eq.refl _
  symm h := Eq.symm h
  trans h h' := Eq.trans h h'

theorem fit_of_length_le {n : Nat} (h : m.bytes.length≤n) :
    m.fit n=m.bytes++List.replicate (n-m.bytes.length) 0 := by
  rw [fit,List.take_of_length_le h]

/-- Masks are the same if zero bytes at their ends make them equal. -/
theorem same_iff_pad {a b : ZoneMask} : a.Same b ↔
    ∃ k l,a.bytes++List.replicate k 0=b.bytes++List.replicate l 0 := by
  constructor
  · intro h
    let n := max a.bytes.length b.bytes.length
    have hf : a.fit n=b.fit n := by
      rw [←a.fit_trim,←b.fit_trim,show a.trim=b.trim from h]
    rw [a.fit_of_length_le (Nat.le_max_left ..),b.fit_of_length_le (Nat.le_max_right ..)] at hf
    exact ⟨_,_,hf⟩
  · rintro ⟨k,l,h⟩
    rw [same_iff_byteAt]
    intro i
    rw [←a.byteAt_pad k,h,byteAt_pad]

/-- The channels see every bit of 32 bytes. -/
theorem same_iff_get {a b : ZoneMask} (ha : a.bytes.length≤32) (hb : b.bytes.length≤32) :
    a.Same b ↔ ∀ c,a.get c=b.get c := by
  rw [same_iff_bitAt]
  constructor
  · intro h c
    rw [get_eq_bitAt,get_eq_bitAt,h]
  · intro h n
    by_cases hn : n<256
    · have hc := h (UInt8.ofNat n)
      rwa [get_eq_bitAt,get_eq_bitAt,UInt8.toNat_ofNat_of_lt' hn] at hc
    · rw [a.bitAt_of_length_le (by omega),b.bitAt_of_length_le (by omega)]

theorem length_set (on : Bool) : (m.set c on).bytes.length=max m.bytes.length (c.toNat/8+1) := by
  simp only [set,List.length_modify,List.length_append,List.length_replicate]
  omega

/-- Switching channels for which there is room leaves the width. -/
theorem length_foldl_set (on : UInt8 → Bool) (l : List UInt8)
    (room : ∀ c∈l,c.toNat/8 < m.bytes.length) :
    (l.foldl (fun m c => m.set c (on c)) m).bytes.length=m.bytes.length := by
  induction l generalizing m with
  | nil => rfl
  | cons c l ih =>
    have hc := room c List.mem_cons_self
    have same : (m.set c (on c)).bytes.length=m.bytes.length := by
      rw [length_set]
      omega
    rw [List.foldl_cons,ih,same]
    intro d hd
    rw [same]
    exact room d (List.mem_cons_of_mem c hd)

theorem length_build (on : UInt8 → Bool) :
    (build first count on).bytes.length=bitmapLength first count := by
  have width : (empty first count).bytes.length=bitmapLength first count := List.length_replicate
  rw [build,length_foldl_set,width]
  intro c hc
  rw [width]
  exact lt_bitmapLength c first count hc

/-- A channel is switched and no other is. Masks are equal if they have the same bits, those beyond
their bytes being 0; this is an equivalence that sees all of a mask but the zero bytes at its end, and
no more of 32 bytes than their channels. A range up to channel 254 has the width of its bitmap and holds
its channels alone. -/
theorem masks_are_sets :
    (∀ (m : ZoneMask) (c d : UInt8) (on : Bool),(m.set c on).get d=if d=c then on else m.get d) ∧
    (∀ a b : ZoneMask,a.Same b ↔ ∀ n,a.bitAt n=b.bitAt n) ∧
    Equivalence Same ∧
    (∀ a b : ZoneMask,a.Same b ↔
      ∃ k l,a.bytes++List.replicate k 0=b.bytes++List.replicate l 0) ∧
    (∀ a b : ZoneMask,a.bytes.length≤32 → b.bytes.length≤32 →
      (a.Same b ↔ ∀ c,a.get c=b.get c)) ∧
    ∀ first count : UInt8,first.toNat+count.toNat≤255 →
      (range first count).bytes.length=bitmapLength first count ∧
      ∀ c,(range first count).get c=true ↔
        first.toNat≤c.toNat ∧ c.toNat<first.toNat+count.toNat := by
  refine ⟨fun m c d on => m.get_set c d on,fun a b => same_iff_bitAt,equivalence_same,
    fun a b => same_iff_pad,fun a b ha hb => same_iff_get ha hb,?_⟩
  intro first count within
  refine ⟨length_build first count _,?_⟩
  intro c
  rw [get_range,decide_eq_true_iff,mem_span]
  omega

/-- Channel 3 alone, in one byte and in two, and the last channels that there are. -/
theorem masks_are_sets_wide :
    let wide := (empty 0 16).set 3 true
    wide.bytes.length≤32 ∧ (single 3).bytes.length≤32 ∧ wide≠single 3 ∧
      (∀ c,wide.get c=(single 3).get c) ∧
      (250 : UInt8).toNat+(5 : UInt8).toNat≤255 ∧ (range 250 5).bytes.length=32 ∧
      (range 250 5).get 249=false ∧ (range 250 5).get 254=true := by
  intro wide
  obtain ⟨_,_,_,_,agree,ranges⟩ := masks_are_sets
  have hw : wide.bytes.length≤32 := by decide
  have hs : (single 3).bytes.length≤32 := by decide
  have same : wide.Same (single 3) := by decide
  obtain ⟨width,holds⟩ := ranges 250 5 (by decide)
  have out : (range 250 5).get 249≠true := by
    rw [ne_eq,holds]
    decide
  exact ⟨hw,hs,by decide,(agree wide (single 3) hw hs).mp same,by decide,width.trans (by decide),
    Bool.eq_false_iff.mpr out,(holds 254).mpr (by decide)⟩

end ZoneMask

end Watering
