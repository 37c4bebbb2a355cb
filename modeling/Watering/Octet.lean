namespace Watering

/-- Sum held at 255. -/
def addCapped (a b : UInt8) : UInt8 :=
  if a.toNat+b.toNat<256 then a+b else 255

theorem addCapped_toNat (a b : UInt8) : (addCapped a b).toNat=min (a.toNat+b.toNat) 255 := by
  unfold addCapped
  split
  · rw [UInt8.toNat_add]; omega
  · rw [Nat.min_eq_right (by omega)]; rfl

/-- The octets from `first` on, `count` of them, none beyond 254. -/
def span (first count : UInt8) : List UInt8 :=
  (List.range (min count.toNat (255-first.toNat))).map fun i => UInt8.ofNat (first.toNat+i)

theorem mem_span {first count c : UInt8} :
    c∈span first count ↔ first.toNat≤c.toNat ∧ c.toNat<first.toNat+count.toNat ∧ c.toNat<255 := by
  have hf := first.toNat_lt
  simp only [span,List.mem_map,List.mem_range]
  constructor
  · rintro ⟨i,hi,rfl⟩
    rw [UInt8.toNat_ofNat_of_lt' (by simp only [UInt8.size]; omega)]
    omega
  · rintro ⟨h1,h2,h3⟩
    exact ⟨c.toNat-first.toNat,by omega,by rw [Nat.add_sub_cancel' h1]; exact UInt8.ofNat_toNat⟩

/-- What a range holds lies below any limit that it keeps to. -/
theorem lt_of_mem_span {first count limit c : UInt8} (h : c∈span first count)
    (range : first.toNat+count.toNat≤limit.toNat) : c < limit := by
  obtain ⟨_,hlt,_⟩ := mem_span.mp h
  exact UInt8.lt_iff_toNat_lt.mpr (Nat.lt_of_lt_of_le hlt range)

theorem mem_span_zero {n c : UInt8} : c∈span 0 n ↔ c<n := by
  have hn := n.toNat_lt
  have h0 : (0 : UInt8).toNat=0 := rfl
  rw [mem_span,UInt8.lt_iff_toNat_lt]
  omega

/-- The number of items, as far as an octet can tell. -/
def lengthCapped {α : Type} (xs : List α) : UInt8 := UInt8.ofNat (min xs.length 255)

/-- Positions in a list ascend as octets too, as long as there are enough of these. -/
theorem pairwise_zipIdx {α : Type} {xs : List α} (h : xs.length≤256) :
    xs.zipIdx.Pairwise fun p q => UInt8.ofNat p.2<UInt8.ofNat q.2 := by
  have positions : (xs.zipIdx.map Prod.snd).Pairwise (·<·) := by
    rw [List.zipIdx_map_snd]
    exact List.pairwise_lt_range'
  refine (List.pairwise_map.mp positions).imp_of_mem ?_
  intro p q _ m lt
  have hq : q.2<xs.length := (List.getElem?_eq_some_iff.mp (List.mem_zipIdx_iff_getElem?.mp m)).1
  rw [UInt8.lt_iff_toNat_lt,UInt8.toNat_ofNat',UInt8.toNat_ofNat']
  omega

namespace Word

/-- Two octets, the low one first. -/
def bytes16 (w : UInt16) : List UInt8 := [w.toUInt8,UInt8.ofNat (w.toNat/256)]

def join16 (low high : UInt8) : UInt16 := UInt16.ofNat (low.toNat+256*high.toNat)

/-- Four octets, the lowest first. -/
def bytes32 (w : UInt32) : List UInt8 :=
  [w.toUInt8,UInt8.ofNat (w.toNat/256),UInt8.ofNat (w.toNat/65536),
    UInt8.ofNat (w.toNat/16777216)]

def join32 (a b c d : UInt8) : UInt32 :=
  UInt32.ofNat (a.toNat+256*b.toNat+65536*c.toNat+16777216*d.toNat)

@[simp] theorem join16_bytes16 (w : UInt16) :
    join16 w.toUInt8 (UInt8.ofNat (w.toNat/256))=w := by
  apply UInt16.toNat_inj.mp
  have h := w.toNat_lt
  simp only [join16,UInt16.toNat_toUInt8,UInt8.toNat_ofNat',UInt16.toNat_ofNat']
  omega

@[simp] theorem join32_bytes32 (w : UInt32) :
    join32 w.toUInt8 (UInt8.ofNat (w.toNat/256)) (UInt8.ofNat (w.toNat/65536))
      (UInt8.ofNat (w.toNat/16777216))=w := by
  apply UInt32.toNat_inj.mp
  have h := w.toNat_lt
  simp only [join32,UInt32.toNat_toUInt8,UInt8.toNat_ofNat',UInt32.toNat_ofNat']
  omega

@[simp] theorem bytes16_length (w : UInt16) : (bytes16 w).length=2 := rfl

@[simp] theorem bytes32_length (w : UInt32) : (bytes32 w).length=4 := rfl

/-- Octets in pairs, as words; none for an odd number of octets. -/
def ofBytes? : List UInt8 → Option (List UInt16)
  | [] => some []
  | [_] => none
  | low::high::rest => (ofBytes? rest).map (join16 low high::·)

theorem ofBytes?_flatMap (ws : List UInt16) : ofBytes? (ws.flatMap bytes16)=some ws := by
  induction ws with
  | nil => rfl
  | cons w ws ih => simp [bytes16,ofBytes?,ih]

end Word

end Watering
