import Mathlib.Data.List.Nodup
import Watering.Proofs.Controller.Moves

namespace Watering.Controller

open Plant (Move Moves)

variable {σ : Type}

/-- What no step changes is not changed by many. -/
theorem foldl_same {α β γ : Type} {g : β → γ} {f : β → α → β} (h : ∀ b a,g (f b a)=g b)
    (l : List α) (b : β) : g (l.foldl f b)=g b := by
  induction l generalizing b with
  | nil => rfl
  | cons a l ih => exact (ih _).trans (h b a)

/-- Steps for distinct things, all but one of which leave something aside. -/
theorem foldl_once {α β : Type} [DecidableEq α] {A B : β → β → Prop} {I : β → Prop}
    {f : β → α → β} {s : α} (refl : ∀ x,I x → A x x)
    (trans : ∀ {x y z},A x y → A y z → A x z) (before : ∀ {x y z},A x y → B y z → B x z)
    (after : ∀ {x y z},B x y → A y z → B x z)
    (others : ∀ x i,I x → i≠s → A x (f x i) ∧ I (f x i)) {l : List α}
    (own : s∈l → ∀ x,I x → B x (f x s) ∧ I (f x s)) (nodup : l.Nodup) {x : β} (hx : I x) :
    if s∈l then B x (l.foldl f x) else A x (l.foldl f x) := by
  induction l generalizing x with
  | nil => exact refl x hx
  | cons i l ih =>
    obtain ⟨hi,hl⟩ := List.nodup_cons.mp nodup
    have ih := fun {y} (hy : I y) => ih (fun hs => own (List.mem_cons_of_mem _ hs)) hl hy
    rw [List.foldl_cons]
    by_cases e : i=s
    · subst e
      obtain ⟨hb,hy⟩ := own List.mem_cons_self x hx
      have rest := ih hy
      rw [if_neg hi] at rest
      rw [if_pos List.mem_cons_self]
      exact after hb rest
    · obtain ⟨ha,hy⟩ := others x i hx e
      have rest := ih hy
      have hs : s∈i::l ↔ s∈l := by
        rw [List.mem_cons]
        exact or_iff_right fun k => e k.symm
      rw [if_congr hs rfl rfl]
      split_ifs at rest ⊢
      · exact before ha rest
      · exact trans ha rest

theorem foldl_moves {α : Type} {f : Controller σ → α → Controller σ} {s : Site} {l : List α}
    (same : ∀ c x,(f c x).site=c.site)
    (step : ∀ c : Controller σ,c.site=s → ∀ x∈l,Moves s c.plant [] (f c x).plant)
    (c : Controller σ) (hs : c.site=s) : Moves s c.plant [] (l.foldl f c).plant := by
  induction l generalizing c with
  | nil => exact Moves.refl
  | cons x l ih =>
    exact (step c hs x List.mem_cons_self).trans
      (ih (fun c hc y hy => step c hc y (List.mem_cons_of_mem _ hy)) _ ((same c x).trans hs))

variable (c : Controller σ)

theorem setting_stopZones (zones : List UInt8) (confirmed : Bool) :
    (c.stopZones zones confirmed).setting=c.setting := by
  induction zones generalizing c with
  | nil => rfl
  | cons i zones ih => exact (ih _).trans rfl

theorem plant_stopZones (zones : List UInt8) (confirmed : Bool) :
    (c.stopZones zones confirmed).plant=
      ⟨c.plant.valves,zones.foldl (fun b i => b.stop i confirmed) c.plant.zones⟩ := by
  induction zones generalizing c with
  | nil => rfl
  | cons i zones ih => exact ih _

theorem plant_setValves (st : Station) (l : List (UInt8×UInt8)) :
    (l.foldl (fun c (_,channel) => (c.setValve st channel false).1) c).plant=
      ⟨l.foldl (fun v x => v.release (st.output? x.2)) c.valves,c.zones⟩ := by
  induction l generalizing c with
  | nil => rfl
  | cons x l ih =>
    have h := c.plant_setValve_false st x.2
    have hv : (c.setValve st x.2 false).1.valves=_ := congrArg Plant.valves h
    have hz : (c.setValve st x.2 false).1.zones=_ := congrArg Plant.zones h
    rw [List.foldl_cons,ih,List.foldl_cons]
    dsimp only
    rw [hv,hz]

/-- A zone that may run, as a station's channel. -/
def Owned (s : Site) (id : UInt8) (x : UInt8×UInt8) : Prop :=
  ∃ z,s.MayRun x.1 z ∧ z.station=id ∧ z.channel=x.2

section Station

variable {s : Site} {id : UInt8} {st : Station} {l : List (UInt8×UInt8)}

theorem closeAll_moves (hs : s.enabledStation? id=some st) (hn : st.network.isLocal=true)
    (hl : ∀ x∈l,Owned s id x) (p : Plant) :
    Moves s p [] ⟨l.foldl (fun v x => v.release (st.output? x.2)) p.valves,
      (l.map (·.1)).foldl (fun b i => b.stop i true) p.zones⟩ := by
  induction l generalizing p with
  | nil => exact Moves.refl
  | cons x l ih =>
    obtain ⟨z,hz,rfl,hch⟩ := hl x List.mem_cons_self
    have m := (Move.closed (p:=p) (l:=none) hz hs hn (by simp)).moves
    rw [Site.outputOf?_local (Site.station?_of_enabledStation? hs).1 hn,hch] at m
    exact m.trans (ih (fun y hy => hl y (List.mem_cons_of_mem _ hy)) _)

theorem tellAllOff_moves (hs : s.enabledStation? id=some st) (hn : st.network.isLocal=false)
    (hl : ∀ x∈l,Owned s id x) (p : Plant) :
    Moves s p [] ⟨p.valves,(l.map (·.1)).foldl (fun b i => b.stop i false) p.zones⟩ := by
  induction l generalizing p with
  | nil => exact Moves.refl
  | cons x l ih =>
    obtain ⟨z,hz,rfl,_⟩ := hl x List.mem_cons_self
    have m := (Move.toldOff (p:=p) (l:=none) hz hs hn (by simp)).moves
    exact m.trans (ih (fun y hy => hl y (List.mem_cons_of_mem _ hy)) _)

theorem failAll_moves (hs : c.site.enabledStation? id=none) (hl : ∀ x∈l,Owned c.site id x) :
    Moves c.site c.plant [] (l.foldl (fun c x => c.failSafeOff x.1) c).plant := by
  have step (d : Controller σ) (hd : d.site=c.site) (x : UInt8×UInt8) (hx : x∈l) :
      Moves c.site d.plant [] (d.failSafeOff x.1).plant := by
    obtain ⟨z,hz,he,_⟩ := hl x hx
    rw [←hd] at hz hs ⊢
    exact failSafeOff_moves hz (by rw [he,hs])
  have same (d : Controller σ) (x : UInt8×UInt8) : (d.failSafeOff x.1).site=d.site :=
    site_of_setting (setting_failSafeOff d x.1)
  exact foldl_moves (f:=fun d (x : UInt8×UInt8) => d.failSafeOff x.1) (s:=c.site) same step c rfl

end Station

/-- The board without the zones that the site does not have. -/
def pruned (c : Controller σ) : ZoneBoard :=
  c.zones.active.foldl (fun b i => if (c.site.zone? i).isSome then b else b.forceOff i) c.zones

/-- The zones of a station that are on. -/
def activeOf (c : Controller σ) (id : UInt8) : List (UInt8×UInt8) :=
  ((c.zones.active.filterMap fun i => (c.site.zone? i).map (i,·)).filter (·.2.station==id)).map
    fun (i,z) => (i,z.channel)

theorem prune_moves (s : Site) (l : List UInt8) (p : Plant) :
    Moves s p [] ⟨p.valves,
      l.foldl (fun b i => if (s.zone? i).isSome then b else b.forceOff i) p.zones⟩ := by
  induction l generalizing p with
  | nil => exact Moves.refl
  | cons i l ih =>
    rw [List.foldl_cons]
    cases hz : s.zone? i with
    | none => exact ((Move.dropped (p:=p) hz).moves).trans (ih _)
    | some z => exact ih p

/-- The zones that a station has on are channels of that station. -/
theorem zone_of_activeOf {id : UInt8} {x : UInt8×UInt8} (hx : x∈c.activeOf id) :
    x.1∈c.zones.active ∧ ∃ z,c.site.zone? x.1=some z ∧ z.station=id ∧ z.channel=x.2 := by
  simp only [activeOf,List.mem_map,List.mem_filter,List.mem_filterMap,Option.map_eq_some_iff,
    beq_iff_eq,Prod.exists] at hx
  obtain ⟨i,z,⟨⟨j,hj,y,hy,he⟩,rfl⟩,rfl⟩ := hx
  obtain ⟨rfl,rfl⟩ := Prod.mk.inj he
  exact ⟨hj,y,hy,rfl,rfl⟩

theorem owned_of_activeOf {c : Controller σ} (idle : c.plant.Idle c.site)
    (size : c.zones.size≤256) {id : UInt8} :
    ∀ x∈c.activeOf id,Owned c.site id x := by
  intro x hx
  obtain ⟨active,z,hz,hid,hch⟩ := c.zone_of_activeOf hx
  obtain ⟨w,hw⟩ := idle x.1 (ZoneState.ne_off ((ZoneBoard.mem_active size).mp active))
  refine ⟨z,⟨hz,?_⟩,hid,hch⟩
  rw [Option.some.inj (hz.symm.trans hw.1)]
  exact hw.2

/-- The stations with a zone that is on, each once. -/
def activeStations (c : Controller σ) : List UInt8 :=
  let owned := c.zones.active.filterMap fun i => (c.site.zone? i).map (i,·)
  ((List.range 256).map UInt8.ofNat).filter fun id => owned.any (·.2.station==id)

theorem nodup_activeStations : c.activeStations.Nodup := by
  refine List.Nodup.filter _ (List.Nodup.map_on (fun i hi j hj h => ?_) List.nodup_range)
  have h := congrArg UInt8.toNat h
  rwa [UInt8.toNat_ofNat_of_lt' (List.mem_range.mp hi),
    UInt8.toNat_ofNat_of_lt' (List.mem_range.mp hj)] at h

theorem mem_activeStations {id : UInt8} : id∈c.activeStations ↔ c.activeOf id≠[] := by
  have listed : id∈(List.range 256).map UInt8.ofNat :=
    List.mem_map.mpr ⟨id.toNat,List.mem_range.mpr id.toNat_lt,UInt8.ofNat_toNat⟩
  rw [activeStations,List.mem_filter,and_iff_right listed,List.any_eq_true,activeOf,ne_eq,
    List.map_eq_nil_iff,List.filter_eq_nil_iff]
  simp only [not_forall,not_not,exists_prop]

variable [Carrier σ]

/-- The one request that turns off zones of a station elsewhere. -/
def offRequest (st : Station) (zones : List (UInt8×UInt8)) : Message :=
  .zonesSet .standard 0 0 0 st.zoneCount
    (zones.foldl (fun m (_,channel) => m.set channel true) (.empty 0 st.zoneCount))

theorem turnOffStation_eq {id : UInt8} {st : Station} {l : List (UInt8×UInt8)}
    (hs : c.site.enabledStation? id=some st) :
    c.turnOffStation id l=
      if st.network.isLocal then
        ((l.foldl (fun c (_,channel) => (c.setValve st channel false).1) c).stopZones
          (l.map (·.1)) true).pushZones id
      else if (c.request id (offRequest st l)).2=true then
        ((c.request id (offRequest st l)).1.stopZones (l.map (·.1)) false).pushZones id
      else (c.request id (offRequest st l)).1 := by
  simp only [turnOffStation,hs]
  split_ifs with hn hok
  · rfl
  · split
    · next h => simp [offRequest,h] at hok
    · next h => rw [offRequest,h]
  · split
    · next h => rw [offRequest,h]
    · next h => simp [offRequest,h] at hok

theorem turnOffStation_out {id : UInt8} {l : List (UInt8×UInt8)}
    (hs : c.site.enabledStation? id=none) :
    c.turnOffStation id l=l.foldl (fun c x => c.failSafeOff x.1) c := by
  simp only [turnOffStation,hs]

theorem setting_turnOffStation (id : UInt8) (l : List (UInt8×UInt8)) :
    (c.turnOffStation id l).setting=c.setting := by
  cases hs : c.site.enabledStation? id with
  | none =>
    rw [c.turnOffStation_out hs]
    exact foldl_same (f:=fun d (x : UInt8×UInt8) => d.failSafeOff x.1)
      (fun d x => setting_failSafeOff d x.1) l c
  | some st =>
    rw [c.turnOffStation_eq hs]
    split_ifs
    · refine (setting_of_still (still_pushZones ..)).trans ((setting_stopZones ..).trans ?_)
      exact foldl_same (f:=fun d (x : UInt8×UInt8) => (d.setValve st x.2 false).1)
        (fun d x => setting_setValve d st x.2 false) l c
    · refine (setting_of_still (still_pushZones ..)).trans ((setting_stopZones ..).trans ?_)
      exact setting_of_still (still_request ..)
    · exact setting_of_still (still_request ..)

theorem turnOffStation_moves {id : UInt8} {l : List (UInt8×UInt8)}
    (hl : ∀ x∈l,Owned c.site id x) :
    Moves c.site c.plant [] (c.turnOffStation id l).plant := by
  cases hs : c.site.enabledStation? id with
  | none =>
    rw [c.turnOffStation_out hs]
    exact c.failAll_moves hs hl
  | some st =>
    rw [c.turnOffStation_eq hs]
    cases hn : st.network.isLocal with
    | true =>
      rw [if_pos rfl,plant_of_still (still_pushZones ..),plant_stopZones,plant_setValves]
      exact closeAll_moves hs hn hl c.plant
    | false =>
      have hp : (c.request id (offRequest st l)).1.plant=c.plant :=
        plant_of_still (still_request ..)
      rw [if_neg (by simp)]
      split_ifs
      · rw [plant_of_still (still_pushZones ..),plant_stopZones,hp]
        exact tellAllOff_moves hs hn hl c.plant
      · rw [hp]
        exact Moves.refl

theorem turnOffAll_foldl : c.turnOffAll=c.activeStations.foldl
    (fun d id => d.turnOffStation id (c.activeOf id)) {c with zones:=c.pruned} := rfl

/-- Each station with a zone that is on has its turn once, and no other has. -/
theorem turnOffAll_eq : ∃ ids : List UInt8,ids.Nodup ∧ (∀ id,id∈ids ↔ c.activeOf id≠[]) ∧
    c.turnOffAll=
      ids.foldl (fun d id => d.turnOffStation id (c.activeOf id)) {c with zones:=c.pruned} :=
  ⟨_,c.nodup_activeStations,fun _ => c.mem_activeStations,c.turnOffAll_foldl⟩

theorem setting_turnOffAll : c.turnOffAll.setting=c.setting := by
  obtain ⟨ids,_,_,h⟩ := c.turnOffAll_eq
  rw [h]
  exact foldl_same (fun d id => setting_turnOffStation d id (c.activeOf id)) ids
    {c with zones:=c.pruned}

theorem turnOffAll_moves {c : Controller σ} (idle : c.plant.Idle c.site)
    (size : c.zones.size≤256) : Moves c.site c.plant [] c.turnOffAll.plant := by
  obtain ⟨ids,_,_,h⟩ := c.turnOffAll_eq
  rw [h]
  refine (prune_moves c.site c.zones.active c.plant).trans ?_
  refine foldl_moves (f:=fun d id => d.turnOffStation id (c.activeOf id))
    (fun d id => site_of_setting (setting_turnOffStation d id _)) ?_ {c with zones:=c.pruned} rfl
  intro d hd id _
  rw [←hd]
  exact d.turnOffStation_moves (hd ▸ owned_of_activeOf idle size)

/-- Telling a station to turn all channels off, if it is in service elsewhere. -/
def tellStation (c : Controller σ) (id : UInt8) : Controller σ :=
  match c.site.enabledStation? id with
  | some station => if station.network.isLocal then c else (c.allChannelsOff id).1
  | none => c

theorem stopStations_eq : c.stopStations=c.site.stationIds.foldl tellStation c := rfl

theorem still_tellStation (id : UInt8) : (c.tellStation id).still=c.still := by
  unfold tellStation
  split
  · split_ifs
    · rfl
    · exact still_allChannelsOff ..
  · rfl

theorem still_stopStations : c.stopStations.still=c.still := by
  rw [stopStations_eq]
  exact foldl_same (fun d id => d.still_tellStation id) _ c

theorem still_stopAll : c.stopAll.still=
    still {c with valves:=c.valves.allOff,zones:=c.zones.allOff} := by
  have h := still_stopStations {c with valves:=c.valves.allOff}
  have note (l : List UInt8) (d : Controller σ) :
      (l.foldl (fun d z => d.record (.zoneStopped z .commanded)) d).still=d.still :=
    foldl_same (f:=fun d z => d.record (.zoneStopped z .commanded)) (fun _ _ => rfl) l d
  unfold stopAll
  dsimp only
  rw [still_pushZones,note]
  have hs : (stopStations {c with valves:=c.valves.allOff}).setting=c.setting :=
    congrArg Prod.fst h
  have hp := plant_of_still h
  exact congrArg₂ Prod.mk hs
    (congrArg₂ Plant.mk (congrArg Plant.valves hp)
      (congrArg ZoneBoard.allOff (congrArg Plant.zones hp)))

theorem setting_stopAll : c.stopAll.setting=c.setting := congrArg Prod.fst c.still_stopAll

theorem stopAll_moves : Moves c.site c.plant [] c.stopAll.plant := by
  rw [show c.stopAll.plant=_ from congrArg Prod.snd c.still_stopAll]
  exact Move.allOff.moves

end Watering.Controller
