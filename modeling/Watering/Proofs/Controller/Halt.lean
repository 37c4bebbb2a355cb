import Watering.Proofs.Controller.Stray

namespace Watering

/-- Every zone is a channel of a station wired here. -/
def Site.AllLocal (s : Site) : Prop :=
  ∀ i z,s.zone? i=some z → ∃ st,s.station? z.station=some st ∧ st.network.isLocal=true

theorem Site.AllLocal.isLocal {s : Site} (h : s.AllLocal) {i : UInt8} {z : Zone} {st : Station}
    (hz : s.zone? i=some z) (hs : s.enabledStation? z.station=some st) : st.network.isLocal=true := by
  obtain ⟨t,ht,local_⟩ := h i z hz
  rwa [Option.some.inj ((Site.station?_of_enabledStation? hs).1.symm.trans ht)]

namespace Plant

variable {site : Site} {p q : Plant} {i : UInt8} {z : ZoneStatus}

/-- The zone at an index was left as it was, turned off, or started by one of some starts. -/
def Follows (p : Plant) (starts : List Start) (i : UInt8) (z : ZoneStatus) : Prop :=
  p.zones.status? i=some z ∨ z.state=.off ∨
    ∃ s∈starts,s.zone=i ∧ s.minutes≠0 ∧ z.state=.running ∧
      z.remaining=s.minutes.toNat*ticksPerMinute

theorem Move.follows {o : Option Start} (wired : site.AllLocal) (m : Move site p o q)
    (hz : q.zones.status? i=some z) : p.Follows o.toList i z := by
  have edited {j : UInt8} {f : ZoneStatus → ZoneStatus}
      (h : (p.zones.modify j f).status? i=some z) (off : ∀ y,(f y).state=.off) :
      p.Follows o.toList i z := by
    obtain ⟨y,hy,rfl | ⟨_,rfl⟩⟩ := ZoneBoard.status?_modify_cases h
    · exact .inl hy
    · exact .inr (.inl (off y))
  cases m with
  | @opened s z' st out run now hzone hs hn ho hw hr hm h0 =>
    obtain ⟨y,hy,rfl | ⟨rfl,rfl⟩⟩ := ZoneBoard.status?_modify_cases hz
    · exact .inl hy
    · refine .inr (.inr ⟨s,List.mem_singleton_self s,hr.symm,h0,rfl,?_⟩)
      rw [ZoneStatus.start_remaining,hm]
  | asked now hzone hs hn =>
    rw [wired.isLocal hzone.1 hs] at hn
    cases hn
  | skipped => exact .inl hz
  | closed => exact edited hz fun _ => rfl
  | toldOff hzone hs hn =>
    rw [wired.isLocal hzone.1 hs] at hn
    cases hn
  | failed => exact edited hz fun _ => rfl
  | released => exact .inl hz
  | dropped => exact edited hz fun _ => rfl
  | allOff =>
    have off : p.zones.allOff.state i=z.state := ZoneBoard.state_of_status? hz
    rw [ZoneBoard.state_allOff] at off
    exact .inr (.inl off.symm)

theorem Moves.follows {starts : List Start} (wired : site.AllLocal) (m : Moves site p starts q)
    (hz : q.zones.status? i=some z) : p.Follows starts i z := by
  induction m generalizing z with
  | refl => exact .inl hz
  | tail _ m ih =>
    obtain before | off | ⟨s,hs,started⟩ := m.follows wired hz
    · obtain same | off | ⟨s,hs,started⟩ := ih before
      · exact .inl same
      · exact .inr (.inl off)
      · exact .inr (.inr ⟨s,List.mem_append_left _ hs,started⟩)
    · exact .inr (.inl off)
    · exact .inr (.inr ⟨s,List.mem_append_right _ hs,started⟩)

/-- What was off stays off when nothing is started. -/
theorem Moves.off (wired : site.AllLocal) (m : Moves site p [] q) (h : p.zones.state i=.off) :
    q.zones.state i=.off := by
  by_contra hon
  obtain ⟨z,hz,hs⟩ := ZoneBoard.exists_status hon
  obtain same | off | ⟨s,hm,_⟩ := m.follows wired hz
  · rw [ZoneBoard.state_of_status? same] at h
    exact hon (hs.symm.trans h)
  · exact hon (hs.symm.trans off)
  · cases hm

end Plant

namespace Controller

variable {σ : Type} {c d : Controller σ}

/-- A zone runs, and from local second `x` on will do so until second `e`. -/
def RunsUntil (c : Controller σ) (x : Int) (i : UInt8) (e : Int) : Prop :=
  ∃ z,c.zones.status? i=some z ∧ z.state=.running ∧ x+z.remaining=e

/-- All zones are wired here, and each of them is off or has time left to run. -/
structure AtHome (c : Controller σ) : Prop where
  wired : c.site.AllLocal
  size : c.zones.size≤255
  idle : c.plant.Idle c.site
  timed : ∀ i z,c.zones.status? i=some z → z.state=.off ∨ z.state=.running ∧ 0<z.remaining

namespace AtHome

variable {starts : List Start} {x e : Int} {i : UInt8}

theorem of_off (wired : c.site.AllLocal) (size : c.zones.size≤255)
    (off : ∀ i,c.zones.state i=.off) : c.AtHome where
  wired := wired
  size := size
  idle i k := absurd (off i) k
  timed i _ hz := .inl ((ZoneBoard.state_of_status? hz).symm.trans (off i))

theorem lt (h : c.AtHome) (hr : c.RunsUntil x i e) : x<e := by
  obtain ⟨z,hz,hrun,he⟩ := hr
  obtain off | ⟨_,pos⟩ := h.timed i z hz
  · rw [hrun] at off
    cases off
  · omega

theorem moves (h : c.AtHome) (hs : d.site=c.site) (m : Plant.Moves c.site c.plant starts d.plant) :
    d.AtHome where
  wired := hs ▸ h.wired
  size := Nat.le_trans (Nat.le_of_eq m.size) h.size
  idle := hs ▸ m.idle h.idle
  timed i z hz := by
    obtain same | off | ⟨s,_,_,h0,hrun,hrem⟩ := m.follows h.wired hz
    · exact h.timed i z same
    · exact .inl off
    · refine .inr ⟨hrun,?_⟩
      have pos : 0<s.minutes.toNat := Nat.pos_of_ne_zero fun k => h0 (UInt8.toNat_inj.mp k)
      rw [hrem]
      exact Nat.mul_pos pos (by decide)

/-- What runs after some moves ran before, or was started by one of them. -/
theorem runsUntil_of_moves (h : c.AtHome) (m : Plant.Moves c.site c.plant starts d.plant)
    (hr : d.RunsUntil x i e) : c.RunsUntil x i e ∨
      ∃ s∈starts,s.zone=i ∧ 0<s.minutes.toNat ∧ e=x+60*s.minutes.toNat := by
  obtain ⟨z,hz,hrun,he⟩ := hr
  obtain same | off | ⟨s,hs,hi,h0,_,hrem⟩ := m.follows h.wired hz
  · exact .inl ⟨z,same,hrun,he⟩
  · rw [hrun] at off
    cases off
  · refine .inr ⟨s,hs,hi,Nat.pos_of_ne_zero fun k => h0 (UInt8.toNat_inj.mp k),?_⟩
    rw [hrem,ticksPerMinute] at he
    omega

variable [Carrier σ]

theorem startZone (h : c.AtHome) (run : ZoneRun) : (c.startZone run).1.AtHome :=
  h.moves (site_of_setting (setting_startZoneFrom ..)) (startZoneFrom_moves run .here h.idle)

/-- A start adds at most one zone to those that run, for at most the minutes asked for. -/
theorem runsUntil_startZone (h : c.AtHome) {run : ZoneRun} (hr : (c.startZone run).1.RunsUntil x i e) :
    c.RunsUntil x i e ∨ i=run.zone ∧ x+60≤e ∧ e≤x+60*run.minutes.toNat := by
  obtain before | ⟨s,hs,hi,pos,he⟩ := h.runsUntil_of_moves (startZoneFrom_moves run .here h.idle) hr
  · exact .inl before
  · rw [startOf] at hs
    split_ifs at hs
    · obtain rfl := List.mem_singleton.mp hs
      have le : (min run.minutes c.maxRun).toNat≤run.minutes.toNat :=
        UInt8.le_iff_toNat_le.mp Std.min_le_left
      change 0<(min run.minutes c.maxRun).toNat at pos
      change e=x+60*(min run.minutes c.maxRun).toNat at he
      exact .inr ⟨hi.symm,by omega,by omega⟩
    · cases hs

omit [Carrier σ] in
theorem off_or_running (h : c.AtHome) (i : UInt8) : c.zones.state i=.off ∨ c.zones.state i=.running := by
  by_cases hon : c.zones.state i=.off
  · exact .inl hon
  · obtain ⟨z,hz,hs⟩ := ZoneBoard.exists_status hon
    obtain off | ⟨hrun,_⟩ := h.timed i z hz
    · exact .inl (hs.symm.trans off)
    · exact .inr (hs.symm.trans hrun)

omit [Carrier σ] in
theorem not_runsUntil (off : c.zones.state i=.off) : ¬c.RunsUntil x i e := by
  rintro ⟨z,hz,hrun,_⟩
  rw [ZoneBoard.state_of_status? hz,hrun] at off
  cases off

end AtHome

/-- What one step of many brings about, and the others keep, holds after all of them. -/
theorem foldl_brings {α β : Type} {I P : β → Prop} {f : β → α → β} {x : α} {l : List α} (m : x∈l)
    (all : ∀ b,∀ y∈l,I b → I (f b y)) (own : ∀ b,I b → P (f b x))
    (keep : ∀ b,∀ y∈l,I b → P b → P (f b y)) {b : β} (hb : I b) : P (l.foldl f b) := by
  obtain ⟨before,after,rfl⟩ := List.append_of_mem m
  rw [List.foldl_append,List.foldl_cons]
  have reached : I (before.foldl f b) :=
    List.foldlRecOn before f hb fun b hb y hy => all b y (List.mem_append_left _ hy) hb
  have done := List.foldlRecOn (motive:=fun b => I b ∧ P b) after f
    ⟨all _ x m reached,own _ reached⟩ fun b ⟨hi,hp⟩ y hy => by
      have hm := List.mem_append_right before (List.mem_cons_of_mem x hy)
      exact ⟨all b y hm hi,keep b y hm hi hp⟩
  exact done.2

section Stations

variable [Carrier σ] {id : UInt8} {l : List (UInt8×UInt8)} {x : UInt8×UInt8}

/-- A station that is told to turn zones off turns them off. -/
theorem state_turnOffStation (wired : c.site.AllLocal) (hl : ∀ x∈l,Owned c.site id x) (m : x∈l) :
    (c.turnOffStation id l).zones.state x.1=.off := by
  cases hs : c.site.enabledStation? id with
  | none =>
    rw [c.turnOffStation_out hs]
    have all (d : Controller σ) (y : UInt8×UInt8) (_ : y∈l) (hd : d.site=c.site) :
        (d.failSafeOff y.1).site=c.site := (site_of_setting (setting_failSafeOff d y.1)).trans hd
    have own (d : Controller σ) (hd : d.site=c.site) : (d.failSafeOff x.1).zones.state x.1=.off := by
      obtain ⟨z,hz,_⟩ := hl x m
      have board : (d.failSafeOff x.1).zones=_ :=
        congrArg Plant.zones (plant_failSafeOff (c:=d) (hd ▸ hz.1))
      rw [board]
      split_ifs with hoff
      · exact hoff
      · exact ZoneBoard.state_forceOff_self ..
    have keep (d : Controller σ) (y : UInt8×UInt8) (hy : y∈l) (hd : d.site=c.site)
        (hoff : d.zones.state x.1=.off) : (d.failSafeOff y.1).zones.state x.1=.off := by
      obtain ⟨z,hz,rfl,_⟩ := hl y hy
      rw [←hd] at hz hs wired
      exact (failSafeOff_moves hz hs).off wired hoff
    exact foldl_brings (P:=fun d => d.zones.state x.1=.off) m all own keep rfl
  | some st =>
    obtain ⟨z,hz,rfl,_⟩ := hl x m
    rw [c.turnOffStation_eq hs,if_pos (wired.isLocal hz.1 hs),zones_of_still (still_pushZones ..),
      show (stopZones _ _ _).zones=_ from congrArg Plant.zones (plant_stopZones ..)]
    have keep (b : ZoneBoard) (i : UInt8) (hoff : b.state x.1=.off) : (b.stop i true).state x.1=.off := by
      by_cases e : x.1=i
      · rw [e]
        exact ZoneBoard.state_stop_self b i
      · exact (ZoneBoard.state_modify_ne b _ e).trans hoff
    exact foldl_brings (I:=fun _ => True) (P:=fun b => b.state x.1=.off) (List.mem_map_of_mem m)
      (fun _ _ _ _ => trivial) (fun b _ => ZoneBoard.state_stop_self b x.1)
      (fun b i _ _ => keep b i) trivial

end Stations

namespace AtHome

variable [Carrier σ]

theorem state_turnOffAll (h : c.AtHome) (i : UInt8) : c.turnOffAll.zones.state i=.off := by
  have size : c.zones.size≤256 := Nat.le_succ_of_le h.size
  obtain hoff | hrun := h.off_or_running i
  · exact (turnOffAll_moves h.idle size).off h.wired hoff
  obtain ⟨z,hz⟩ := h.idle i (by rw [show c.plant.zones.state i=.running from hrun]; decide)
  have active : i∈c.zones.active := (ZoneBoard.mem_active size).mpr (by rw [hrun]; rfl)
  have listed : (i,z.channel)∈c.activeOf z.station := by
    have found : (i,z)∈c.zones.active.filterMap fun i => (c.site.zone? i).map (i,·) :=
      List.mem_filterMap.mpr ⟨i,active,by rw [hz.1,Option.map_some]⟩
    exact List.mem_map.mpr ⟨(i,z),List.mem_filter.mpr ⟨found,beq_self_eq_true _⟩,rfl⟩
  have owned (id : UInt8) : ∀ x∈c.activeOf id,Owned c.site id x := owned_of_activeOf h.idle size
  obtain ⟨ids,_,busy,heq⟩ := c.turnOffAll_eq
  rw [heq]
  have turn : z.station∈ids := (busy _).mpr (List.ne_nil_of_mem listed)
  have own (d : Controller σ) (hd : d.site=c.site) :
      (d.turnOffStation z.station (c.activeOf z.station)).zones.state i=.off :=
    state_turnOffStation (x:=(i,z.channel)) (hd ▸ h.wired) (hd ▸ owned _) listed
  have keep (d : Controller σ) (id : UInt8) (_ : id∈ids) (hd : d.site=c.site)
      (hoff : d.zones.state i=.off) : (d.turnOffStation id (c.activeOf id)).zones.state i=.off := by
    have m : Plant.Moves d.site d.plant [] (d.turnOffStation id (c.activeOf id)).plant :=
      d.turnOffStation_moves (hd ▸ owned id)
    exact m.off (hd ▸ h.wired) hoff
  have all (d : Controller σ) (id : UInt8) (_ : id∈ids) (hd : d.site=c.site) :
      (d.turnOffStation id (c.activeOf id)).site=c.site :=
    (site_of_setting (setting_turnOffStation ..)).trans hd
  exact foldl_brings (P:=fun d => d.zones.state i=.off) turn all own keep
    (b:={c with zones:=c.pruned}) rfl

theorem turnOffAll (h : c.AtHome) : c.turnOffAll.AtHome :=
  h.moves (site_of_setting c.setting_turnOffAll)
    (turnOffAll_moves h.idle (Nat.le_succ_of_le h.size))

theorem stopAll (h : c.AtHome) : c.stopAll.AtHome :=
  h.moves (site_of_setting c.setting_stopAll) c.stopAll_moves

theorem state_stopAll (i : UInt8) : c.stopAll.zones.state i=.off := by
  rw [show c.stopAll.zones=c.zones.allOff from congrArg (·.2.zones) c.still_stopAll]
  exact ZoneBoard.state_allOff ..

end AtHome

variable [Carrier σ]

/-- A zone that is on the board after a second counted down, or is new on it. -/
theorem zone_of_tick {z : ZoneStatus} {i : UInt8} (hz : c.tick.zones.status? i=some z) :
    z={} ∨ ∃ y,c.zones.status? i=some y ∧ z=y.tick.1 := by
  have board : c.tick.zones=c.resizeBoard.zones.tick.1 :=
    congrArg (fun g => g.2.zones) c.ground_tick_resized
  rw [board,ZoneBoard.status?_tick] at hz
  obtain ⟨y,hy,rfl⟩ := Option.map_eq_some_iff.mp hz
  rw [resizeBoard] at hy
  split_ifs at hy
  · exact .inr ⟨y,hy,rfl⟩
  · obtain rfl | old := ZoneBoard.status?_resize_cases hy
    · exact .inl rfl
    · exact .inr ⟨y,old,rfl⟩

namespace AtHome

theorem tick (h : c.AtHome) : c.tick.AtHome := by
  have site : c.tick.site=c.site := congrArg (fun g => g.1.2) c.ground_tick_resized
  have timed (i : UInt8) (z : ZoneStatus) (hz : c.tick.zones.status? i=some z) :
      z.state=.off ∨ z.state=.running ∧ 0<z.remaining ∧ c.zones.state i=.running := by
    obtain rfl | ⟨y,hy,rfl⟩ := zone_of_tick hz
    · exact .inl rfl
    obtain off | ⟨hrun,pos⟩ := h.timed i y hy
    · left
      rw [ZoneStatus.tick_off off]
      exact off
    · rw [ZoneStatus.tick_running hrun,if_neg (by omega)]
      split_ifs
      · exact .inl rfl
      · refine .inr ⟨hrun,?_,(ZoneBoard.state_of_status? hy).trans hrun⟩
        dsimp only
        omega
  refine ⟨site ▸ h.wired,?_,?_,fun i z hz => ?_⟩
  · rw [size_tick]
    exact Site.zoneCount_le _
  · intro i hon
    obtain ⟨z,hz,hs⟩ := ZoneBoard.exists_status hon
    obtain off | ⟨_,_,hrun⟩ := timed i z hz
    · exact absurd (hs.symm.trans off) hon
    · rw [site]
      exact h.idle i (by rw [show c.plant.zones.state i=.running from hrun]; decide)
  · obtain off | ⟨hrun,pos,_⟩ := timed i z hz
    · exact .inl off
    · exact .inr ⟨hrun,pos⟩

/-- What runs after a second ran before it, until the same second. -/
theorem runsUntil_tick (h : c.AtHome) {x e : Int} {i : UInt8} (hr : c.tick.RunsUntil (x+1) i e) :
    c.RunsUntil x i e := by
  obtain ⟨z,hz,hrun,he⟩ := hr
  obtain rfl | ⟨y,hy,rfl⟩ := zone_of_tick hz
  · cases hrun
  have before := y.running_of_tick hrun
  obtain off | ⟨_,pos⟩ := h.timed i y hy
  · rw [before] at off
    cases off
  rw [ZoneStatus.tick_running before,if_neg (by omega)] at hrun he
  by_cases last : y.remaining=1
  · rw [if_pos last] at hrun
    cases hrun
  · rw [if_neg last] at he
    refine ⟨y,hy,before,?_⟩
    dsimp only at he
    omega

end AtHome

end Controller

end Watering
