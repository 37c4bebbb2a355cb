import Mathlib.Data.List.Basic
import Watering.Frame.Message
import Watering.Site.Site

namespace Watering

namespace Site

/-- The zone that a new station puts into the list for one of its channels. -/
def channelZone (id : UInt8) (st : Station) (n : Nat) : Zone :=
  {name:=st.name++" "++toString (n+1),enabled:=true,station:=id,channel:=UInt8.ofNat n}

theorem getElem?_setZone (zones : List Zone) (i j : Nat) (z : Zone) :
    (setZone zones i z)[j]?=
      if j=i then some z else if j<zones.length then zones[j]?
        else if j < i+1 then some default else none := by
  have hl : i<(zones++List.replicate (i+1-zones.length) default).length := by
    simp only [List.length_append,List.length_replicate]
    omega
  unfold setZone
  by_cases h : j=i
  · subst h
    rw [List.getElem?_set_self hl,if_pos rfl]
  · rw [List.getElem?_set_ne (Ne.symm h),if_neg h,List.getElem?_append]
    split_ifs with h1 h2
    · rfl
    · exact List.getElem?_replicate_of_lt (by omega)
    · rw [List.getElem?_replicate,if_neg (by omega)]

/-- Zones of several channels written one after the other, the first at `first`. -/
theorem getElem?_foldl_setZone (zones : List Zone) (first n j : Nat) (f : Nat → Zone) :
    ((List.range n).foldl (fun zs c => setZone zs (first+c) (f c)) zones)[j]?=
      if first≤j ∧ j<first+n then some (f (j-first))
      else (zones[j]?).or (if j<first+n ∧ 0<n then some default else none) := by
  induction n with
  | zero =>
    simp only [List.range_zero,List.foldl_nil,Nat.lt_irrefl,and_false,if_false,Option.or_none]
    rw [if_neg (by omega)]
  | succ n ih =>
    have hlen : j<((List.range n).foldl (fun zs c => setZone zs (first+c) (f c)) zones).length ↔
        (first≤j ∧ j<first+n) ∨ j<zones.length ∨ (j<first+n ∧ 0<n) := by
      rw [←not_iff_not,Nat.not_lt,←List.getElem?_eq_none_iff,ih]
      by_cases h : first≤j ∧ j<first+n
      · simp [h]
      · rw [if_neg h,Option.or_eq_none_iff]
        by_cases h' : j<first+n ∧ 0<n <;> simp [h,h']
    rw [List.range_succ,List.foldl_append,List.foldl_cons,List.foldl_nil,getElem?_setZone,ih]
    by_cases hj : j=first+n
    · subst hj
      simp
    · by_cases hz : j<zones.length
      · have hs : zones[j]?=some zones[j] := List.getElem?_eq_getElem hz
        simp only [hj,if_false,hs,Option.some_or]
        split_ifs <;> first | rfl | omega
      · have hn : zones[j]?=none := List.getElem?_eq_none_iff.mpr (by omega)
        simp only [hj,if_false,hn,Option.none_or]
        split_ifs <;> first | rfl | omega

end Site

namespace Station

theorem zoneOf_toNat {st : Station} {ch : UInt8}
    (fits : st.firstZone.toNat+st.zoneCount.toNat≤255) (hc : ch < st.zoneCount) :
    (st.zoneOf ch).toNat=st.firstZone.toNat+ch.toNat := by
  have := UInt8.lt_iff_toNat_lt.mp hc
  rw [zoneOf,addCapped_toNat]
  omega

/-- Distinct channels of a station are distinct zones. -/
theorem zoneOf_inj {st : Station} {a b : UInt8}
    (fits : st.firstZone.toNat+st.zoneCount.toNat≤255) (ha : a < st.zoneCount)
    (hb : b < st.zoneCount) (h : st.zoneOf a=st.zoneOf b) : a=b := by
  have h' := congrArg UInt8.toNat h
  rw [zoneOf_toNat fits ha,zoneOf_toNat fits hb] at h'
  exact UInt8.toNat_inj.mp (by omega)

/-- No zone is before the end of both stations and behind the start of both. -/
def Apart (a b : Station) : Prop :=
  ¬(a.firstZone.toNat<b.firstZone.toNat+b.zoneCount.toNat ∧
    b.firstZone.toNat<a.firstZone.toNat+a.zoneCount.toNat)

theorem Apart.symm {a b : Station} (h : a.Apart b) : b.Apart a := fun k => h k.symm

end Station

namespace Site

/-- The zones of the stations lie side by side in a list that an octet can index; a zone that may
run is a channel of a station. -/
structure Tiled (s : Site) : Prop where
  length_le : s.zones.length≤255
  fits {id : UInt8} {st : Station} : s.station? id=some st →
    st.firstZone.toNat+st.zoneCount.toNat≤255
  zone_of {id : UInt8} {st : Station} {ch : UInt8} : s.station? id=some st → ch < st.zoneCount →
    ∃ z, s.zone? (st.zoneOf ch)=some z ∧ z.station=id ∧ z.channel=ch
  owner {i : UInt8} {z : Zone} : s.zone? i=some z → z.enabled=true →
    ∃ st, s.station? z.station=some st ∧ z.channel < st.zoneCount ∧ st.zoneOf z.channel=i

theorem station?_addStation (s : Site) (id k : UInt8) (st : Station) :
    (s.addStation id st).station? k=if k=id then some st else s.station? k := by
  simp only [station?,addStation,Std.TreeMap.getElem?_insert]
  by_cases h : k=id
  · simp [h]
  · have : id≠k := fun e => h e.symm
    simp [h,this]

/-- What is in the list of zones once a station was added. -/
theorem getElem?_addStation (s : Site) (id : UInt8) (st : Station) (j : Nat)
    (fits : st.firstZone.toNat+st.zoneCount.toNat≤255) :
    (s.addStation id st).zones[j]?=
      if st.firstZone.toNat≤j ∧ j < st.firstZone.toNat+st.zoneCount.toNat
      then some (channelZone id st (j-st.firstZone.toNat))
      else (s.zones[j]?).or
        (if j < st.firstZone.toNat+st.zoneCount.toNat ∧ 0 < st.zoneCount.toNat then some default
          else none) := by
  rw [←getElem?_foldl_setZone]
  congr 1
  apply List.foldl_ext
  intro zs c hc
  have hc := List.mem_range.mp hc
  have hn : (UInt8.ofNat c).toNat=c := UInt8.toNat_ofNat_of_lt' (by
    have := st.zoneCount.toNat_lt
    simp only [UInt8.size]
    omega)
  have hi : (st.zoneOf (UInt8.ofNat c)).toNat=st.firstZone.toNat+c := by
    rw [Station.zoneOf_toNat fits (UInt8.lt_iff_toNat_lt.mpr (by omega)),hn]
  rw [hi]
  rfl

/-- An enabled zone was added with the station, or was there before. -/
theorem zone?_addStation {s : Site} {id : UInt8} {st : Station} {i : UInt8} {z : Zone}
    (fits : st.firstZone.toNat+st.zoneCount.toNat≤255) (hz : (s.addStation id st).zone? i=some z)
    (he : z.enabled=true) :
    (∃ ch,ch < st.zoneCount ∧ st.zoneOf ch=i ∧ z=channelZone id st ch.toNat) ∨ s.zone? i=some z := by
  rw [zone?,getElem?_addStation s id st _ fits] at hz
  split_ifs at hz with hnew hfill
  · have hn : (UInt8.ofNat (i.toNat-st.firstZone.toNat)).toNat=i.toNat-st.firstZone.toNat :=
      UInt8.toNat_ofNat_of_lt' (by
        have := i.toNat_lt
        simp only [UInt8.size]
        omega)
    have hc : UInt8.ofNat (i.toNat-st.firstZone.toNat) < st.zoneCount :=
      UInt8.lt_iff_toNat_lt.mpr (by omega)
    refine Or.inl ⟨_,hc,?_,?_⟩
    · apply UInt8.toNat_inj.mp
      rw [Station.zoneOf_toNat fits hc,hn]
      omega
    · rw [hn]
      exact (Option.some.inj hz).symm
  · cases hs : s.zones[i.toNat]? with
    | none =>
      rw [hs] at hz
      rw [←Option.some.inj hz] at he
      exact absurd he (by decide)
    | some y =>
      rw [hs] at hz
      exact Or.inr (hs.trans hz)
  · rw [Option.or_none] at hz
    exact Or.inr hz

theorem Tiled.addStation {s : Site} (h : s.Tiled) {id : UInt8} {st : Station}
    (fits : st.firstZone.toNat+st.zoneCount.toNat≤255) (fresh : s.station? id=none)
    (apart : ∀ k t, s.station? k=some t → st.Apart t) : (s.addStation id st).Tiled where
  length_le := by
    have hl := h.length_le
    apply List.getElem?_eq_none_iff.mp
    rw [getElem?_addStation s id st 255 fits,if_neg (by omega),
      List.getElem?_eq_none_iff.mpr hl,if_neg (by omega)]
    rfl
  fits {k t} hk := by
    rw [station?_addStation] at hk
    split_ifs at hk with e
    · rwa [←Option.some.inj hk]
    · exact h.fits hk
  zone_of {k t ch} hk hc := by
    rw [station?_addStation] at hk
    split_ifs at hk with e
    · rw [←Option.some.inj hk] at hc ⊢
      have hn := UInt8.lt_iff_toNat_lt.mp hc
      refine ⟨channelZone id st ch.toNat,?_,e.symm,UInt8.ofNat_toNat⟩
      rw [zone?,getElem?_addStation s id st _ fits,Station.zoneOf_toNat fits hc,
        if_pos (by omega),Nat.add_sub_cancel_left]
    · obtain ⟨z,hz,hid,hch⟩ := h.zone_of hk hc
      have ha := apart k t hk
      have hi := Station.zoneOf_toNat (h.fits hk) hc
      have hn := UInt8.lt_iff_toNat_lt.mp hc
      refine ⟨z,?_,hid,hch⟩
      rw [zone?] at hz ⊢
      rw [getElem?_addStation s id st _ fits,hz,if_neg]
      · rfl
      · rw [hi]
        rintro ⟨h1,h2⟩
        exact ha ⟨by omega,by omega⟩
  owner {i z} hz he := by
    obtain ⟨ch,hc,hi,rfl⟩ | hold := zone?_addStation fits hz he
    · have hch : (channelZone id st ch.toNat).channel=ch := UInt8.ofNat_toNat
      rw [hch]
      refine ⟨st,?_,hc,hi⟩
      rw [station?_addStation]
      exact if_pos rfl
    · obtain ⟨t,ht,hc,hi⟩ := h.owner hold he
      refine ⟨t,?_,hc,hi⟩
      rw [station?_addStation,if_neg,ht]
      intro e
      rw [e,fresh] at ht
      cases ht

theorem getElem?_modifyZone (s : Site) (i : UInt8) (f : Zone → Zone) (j : Nat) :
    (s.modifyZone i f).zones[j]?=if i.toNat=j then (s.zones[j]?).map f else s.zones[j]? := by
  simp only [Site.modifyZone,List.getElem?_modify]
  split_ifs
  · rfl
  · exact id_map _

/-- Changing the name or the switch of a zone that is a channel of a station. -/
theorem Tiled.modifyZone {s : Site} (h : s.Tiled) {id : UInt8} {st : Station} {ch : UInt8}
    (hs : s.station? id=some st) (hc : ch < st.zoneCount) (f : Zone → Zone)
    (hf : ∀ z,(f z).station=z.station ∧ (f z).channel=z.channel) :
    (s.modifyZone (st.zoneOf ch) f).Tiled := by
  have hget (i : UInt8) : (s.modifyZone (st.zoneOf ch) f).zone? i=
      if st.zoneOf ch=i then (s.zone? i).map f else s.zone? i := by
    rw [zone?,zone?,getElem?_modifyZone]
    exact if_congr UInt8.toNat_inj rfl rfl
  refine ⟨?_,h.fits,?_,?_⟩
  · exact Nat.le_trans (Nat.le_of_eq (List.length_modify ..)) h.length_le
  · intro k t c hk hlt
    obtain ⟨z,hz,hid,hch⟩ := h.zone_of hk hlt
    rw [hget]
    split_ifs with e
    · exact ⟨f z,by rw [hz]; rfl,(hf z).1.trans hid,(hf z).2.trans hch⟩
    · exact ⟨z,hz,hid,hch⟩
  · intro i z hz he
    rw [hget] at hz
    split_ifs at hz with e
    · obtain ⟨y,hy,hid,hch⟩ := h.zone_of hs hc
      rw [←e,hy] at hz
      rw [←Option.some.inj hz,(hf y).1,(hf y).2,hid,hch]
      exact ⟨st,hs,hc,e⟩
    · exact h.owner hz he

/-- A site as a valid configuration describes it. -/
structure Laid (s : Site) : Prop extends Tiled s where
  wired {id : UInt8} {st : Station} : s.station? id=some st → st.network.isLocal=true →
    st.address.toNat+st.zoneCount.toNat≤65535
  own {st : Station} : s.station? s.unit=some st → st.network.isLocal=true
  unit_ne : s.unit≠broadcastUnit
  id_ne {id : UInt8} {st : Station} : s.station? id=some st → id≠broadcastUnit
  maxRun_ne : s.maxRun≠0

theorem Laid.output? {s : Site} (h : s.Laid) {id : UInt8} {st : Station} {ch : UInt8}
    (hs : s.station? id=some st) (hn : st.network.isLocal=true) (hc : ch < st.zoneCount) :
    ∃ o,st.output? ch=some o := by
  have := h.wired hs hn
  have := UInt8.lt_iff_toNat_lt.mp hc
  exact ⟨_,if_pos (by omega)⟩

end Site

end Watering
