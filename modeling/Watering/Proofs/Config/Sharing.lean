import Mathlib.Data.List.Pairwise
import Watering.Proofs.Config.Outputs

namespace Watering

theorem Station.output?_eq_some {st : Station} {ch : UInt8} {o : UInt16} :
    st.output? ch=some o ↔ st.address.toNat+ch.toNat=o.toNat := by
  simp only [output?]
  have ho := o.toNat_lt
  constructor
  · intro h
    split_ifs at h with hn
    rw [←Option.some.inj h,UInt16.toNat_ofNat_of_lt' hn]
  · intro h
    rw [if_pos (by omega),h,UInt16.ofNat_toNat]

namespace Config

/-- Both stations are wired here, and there is an output that both count as their own. -/
def StationEntry.sharesOutput (a b : StationEntry) : Bool :=
  a.network.isLocal && b.network.isLocal &&
    decide (max a.address.toNat b.address.toNat < min a.endOutput b.endOutput)

/-- A shared output is one that a channel of each station has. -/
theorem StationEntry.sharesOutput_iff {a b : StationEntry} :
    a.sharesOutput b=true ↔ a.network.isLocal=true ∧ b.network.isLocal=true ∧
      ∃ ch ch' : UInt8,ch < a.zoneCount ∧ ch' < b.zoneCount ∧
        a.address.toNat+ch.toNat=b.address.toNat+ch'.toNat := by
  simp only [sharesOutput,Bool.and_eq_true,decide_eq_true_eq,and_assoc]
  refine and_congr_right' (and_congr_right' ?_)
  unfold endOutput
  have ha := a.zoneCount.toNat_lt
  have hb := b.zoneCount.toNat_lt
  constructor
  · intro h
    have octet {n : Nat} (hn : n<256) : ∃ ch : UInt8,ch.toNat=n :=
      ⟨UInt8.ofNat n,UInt8.toNat_ofNat_of_lt' hn⟩
    let m := max a.address.toNat b.address.toNat
    obtain ⟨ch,hc⟩ := octet (n:=m-a.address.toNat) (by omega)
    obtain ⟨ch',hc'⟩ := octet (n:=m-b.address.toNat) (by omega)
    refine ⟨ch,ch',UInt8.lt_iff_toNat_lt.mpr (by omega),UInt8.lt_iff_toNat_lt.mpr (by omega),?_⟩
    omega
  · rintro ⟨ch,ch',hc,hc',e⟩
    have := UInt8.lt_iff_toNat_lt.mp hc
    have := UInt8.lt_iff_toNat_lt.mp hc'
    omega

theorem StationEntry.sharesOutput_comm (a b : StationEntry) :
    a.sharesOutput b=b.sharesOutput a := by
  simp only [sharesOutput,Bool.and_comm,Nat.max_comm,Nat.min_comm]

variable {c : Config}

/-- Ids tell the entries of a valid configuration apart. -/
theorem Valid.station?_of_mem (h : c.Valid) {e : StationEntry} (he : e∈c.stations) :
    c.station? e.id=some e := by
  have hnodup : (c.stations.map (·.id)).Nodup := List.pairwise_map.mpr h.ids
  obtain ⟨y,hy⟩ : ∃ y,c.station? e.id=some y :=
    Option.isSome_iff_exists.mp (List.find?_isSome.mpr ⟨e,he,by simp⟩)
  obtain ⟨hmem,hid⟩ := mem_of_station? hy
  rw [hy,List.inj_on_of_nodup_map hnodup hmem he hid]

/-- No channel has two overrides. -/
theorem Valid.overridesDistinct (h : c.Valid) :
    c.zones.Pairwise fun y z => ¬(y.station=z.station ∧ y.channel=z.channel) := by
  apply pairwise_of_earlier
  intro i z hz y hy
  have hf : c.zoneFaults (c.zones.take i) z=[] :=
    List.map_eq_nil_iff.mp (review_eq_nil h.parts.2.2.2.1 hz)
  obtain ⟨e,he,_⟩ := h.override (List.mem_of_getElem? hz)
  simp only [zoneFaults,he,List.append_eq_nil_iff,when_eq_nil] at hf
  have := List.any_eq_false.mp hf.1.2 y hy
  simpa using this

/-- Whether outputs are told apart is a matter of the address ranges, two stations at a time. -/
theorem Valid.outputsDistinct_iff (h : c.Valid) :
    c.site.OutputsDistinct ↔ c.stations.Pairwise fun a b => a.sharesOutput b=false := by
  have hsite {e : StationEntry} (he : e∈c.stations) :
      c.site.station? e.id=some (e.station c.sensors) := by
    rw [h.station?_site,h.station?_of_mem he,Option.map_some]
  constructor
  · intro hd
    refine h.ids.imp_of_mem fun {a b} ha hb hne => ?_
    by_contra hs
    obtain ⟨hla,hlb,ch,ch',hc,hc',e⟩ :=
      StationEntry.sharesOutput_iff.mp (eq_true_of_ne_false hs)
    have hfit := (h.sound ha).endOutput_le hla
    have hlt := UInt8.lt_iff_toNat_lt.mp hc
    obtain ⟨o,ho⟩ := h.laid.output? (hsite ha) hla hc
    have ho' : (b.station c.sensors).output? ch'=some o :=
      Station.output?_eq_some.mpr (e.symm.trans (Station.output?_eq_some.mp ho))
    exact hne (hd o _ _ ch _ _ ch' (hsite ha) hla hc (hsite hb) hlb hc' ho ho').1
  · intro hp o id st ch id' st' ch' hs hl hc hs' hl' hc' ho ho'
    have e := (Station.output?_eq_some.mp ho).trans (Station.output?_eq_some.mp ho').symm
    rw [h.station?_site] at hs hs'
    obtain ⟨a,ha,rfl⟩ := Option.map_eq_some_iff.mp hs
    obtain ⟨b,hb,rfl⟩ := Option.map_eq_some_iff.mp hs'
    obtain ⟨hma,hid⟩ := mem_of_station? ha
    obtain ⟨hmb,hid'⟩ := mem_of_station? hb
    by_cases k : a=b
    · subst k
      refine ⟨hid.symm.trans hid',UInt8.toNat_inj.mp ?_⟩
      omega
    · have hsym : Std.Symm fun a b : StationEntry => a.sharesOutput b=false :=
        ⟨fun a b hab => (StationEntry.sharesOutput_comm b a).trans hab⟩
      have hfalse := hp.forall hma hmb k
      rw [StationEntry.sharesOutput_iff.mpr ⟨hl,hl',ch,ch',hc,hc',e⟩] at hfalse
      cases hfalse

/-- The output and the pin that an override wires. -/
def wiring? (c : Config) (z : ZoneEntry) : Option (UInt16×UInt8) := do
  let e ← c.station? z.station
  let pin ← z.pin
  let output ← if e.network.isLocal then (e.station c.sensors).output? z.channel else none
  return (output,pin)

theorem valvePins_eq (c : Config) : c.valvePins=c.zones.filterMap c.wiring? := rfl

/-- A wired output is that of the override's own channel. -/
theorem Valid.channel_of_wiring? (h : c.Valid) {z : ZoneEntry} (hz : z∈c.zones)
    {x : UInt16×UInt8} (hx : c.wiring? z=some x) :
    ∃ st,c.site.station? z.station=some st ∧ st.network.isLocal=true ∧
      z.channel < st.zoneCount ∧ st.output? z.channel=some x.1 := by
  obtain ⟨e,he,hc⟩ := h.override hz
  simp only [wiring?,he,bind,pure,Option.bind_eq_some_iff,Option.some.injEq] at hx
  obtain ⟨_,rfl,pin,_,hx⟩ := hx
  split_ifs at hx with hn
  · obtain ⟨o,ho,hpair⟩ := Option.bind_eq_some_iff.mp hx
    obtain rfl := Option.some.inj hpair
    exact ⟨_,by rw [h.station?_site,he,Option.map_some],hn,hc,ho⟩
  · cases hx

theorem Valid.valvePins_nodup (h : c.Valid) (hd : c.site.OutputsDistinct) :
    (c.valvePins.map (·.1)).Nodup := by
  rw [valvePins_eq,List.Nodup,List.pairwise_map,List.pairwise_filterMap]
  refine h.overridesDistinct.imp_of_mem fun {y z} hy hz hne x hx x' hx' e => hne ?_
  obtain ⟨st,hs,hn,hc,ho⟩ := h.channel_of_wiring? hy hx
  obtain ⟨st',hs',hn',hc',ho'⟩ := h.channel_of_wiring? hz hx'
  exact hd x.1 _ st _ _ st' _ hs hn hc hs' hn' hc' ho (e ▸ ho')

/-- Each channel of a station wired here has an output, and no other channel of the station has it.
Those of different stations are told apart if and only if no two stations share any, and then no
output has two pins. -/
theorem outputs_distinct_unless_ranges_meet (h : c.Valid) :
    (∀ id st ch,c.site.station? id=some st → st.network.isLocal=true → ch < st.zoneCount →
      ∃ o,st.output? ch=some o ∧ ∀ ch',st.output? ch'=some o → ch'=ch) ∧
    (c.site.OutputsDistinct ↔ c.stations.Pairwise fun a b => a.sharesOutput b=false) ∧
    (c.site.OutputsDistinct → (c.valvePins.map (·.1)).Nodup) := by
  refine ⟨?_,h.outputsDistinct_iff,h.valvePins_nodup⟩
  intro id st ch hs hn hc
  obtain ⟨o,ho⟩ := h.laid.output? hs hn hc
  refine ⟨o,ho,fun ch' ho' => UInt8.toNat_inj.mp ?_⟩
  have e := Station.output?_eq_some.mp ho
  have e' := Station.output?_eq_some.mp ho'
  omega

theorem outputs_distinct_unless_ranges_meet_plot :
    plot.Valid ∧ plot.site.OutputsDistinct ∧ plot.stations.Pairwise (fun a b =>
      a.sharesOutput b=false) ∧ (plot.valvePins.map (·.1)).Nodup :=
  have k := outputs_distinct_unless_ranges_meet plot_valid
  have hd := k.2.1.mpr (by decide)
  ⟨plot_valid,hd,k.2.1.mp hd,k.2.2 hd⟩

/-- Two stations that each count their outputs from 0. -/
def twins : Config :=
  {unit:=0,
    stations:=[{id:=0,name:="Garden",network:=.parallel,zoneCount:=1},
      {id:=1,name:="Yard",network:=.serial,zoneCount:=1,firstZone:=1}],
    zones:=[{station:=0,channel:=0,pin:=some 17},{station:=1,channel:=0,pin:=some 27}]}

theorem twins_valid : twins.Valid := by decide

/-- A valid configuration may wire one output for two zones, and list it with two pins. -/
theorem twins_share_output :
    twins.Valid ∧ (∃ st st',twins.site.station? 0=some st ∧ twins.site.station? 1=some st' ∧
      st.network.isLocal=true ∧ st'.network.isLocal=true ∧ 0 < st.zoneCount ∧ 0 < st'.zoneCount ∧
      st.zoneOf 0≠st'.zoneOf 0 ∧ st.output? 0=some 0 ∧ st'.output? 0=some 0) ∧
    twins.valvePins=[(0,17),(0,27)] ∧ ¬twins.site.OutputsDistinct := by
  have h0 : ∃ st,twins.site.station? 0=some st ∧ st.network.isLocal=true ∧ 0 < st.zoneCount ∧
      st.zoneOf 0=0 ∧ st.output? 0=some 0 :=
    ⟨_,by rw [twins_valid.station?_site]; rfl,by decide,by decide,by decide,by decide⟩
  have h1 : ∃ st,twins.site.station? 1=some st ∧ st.network.isLocal=true ∧ 0 < st.zoneCount ∧
      st.zoneOf 0=1 ∧ st.output? 0=some 0 :=
    ⟨_,by rw [twins_valid.station?_site]; rfl,by decide,by decide,by decide,by decide⟩
  obtain ⟨st,hs,hn,hc,hz,ho⟩ := h0
  obtain ⟨st',hs',hn',hc',hz',ho'⟩ := h1
  refine ⟨twins_valid,⟨st,st',hs,hs',hn,hn',hc,hc',?_,ho,ho'⟩,by decide,?_⟩
  · rw [hz,hz']
    decide
  · intro hd
    have := (hd 0 _ _ _ _ _ _ hs hn hc hs' hn' hc' ho ho').1
    exact absurd this (by decide)

end Config

end Watering
