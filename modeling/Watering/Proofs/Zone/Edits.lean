import Mathlib.Logic.Relation
import Watering.Proofs.Zone.Board
import Watering.Site.Site

namespace Watering

/-- What commands and requests do to the board. -/
inductive Commanded (site : Site) (b : ZoneBoard) : ZoneBoard → Prop
  | started {run : ZoneRun} {z : Zone} {st : Station} (now : Instant) :
    site.zone? run.zone=some z → site.enabledStation? z.station=some st → run.minutes≠0 →
    Commanded site b (b.start run st.network.isLocal now)
  | stopped {i : UInt8} {z : Zone} {st : Station} :
    site.zone? i=some z → site.enabledStation? z.station=some st →
    Commanded site b (b.stop i st.network.isLocal)
  | off (i : UInt8) : Commanded site b (b.forceOff i)
  | allOff : Commanded site b b.allOff

/-- What a report of a station does to the board, channel after channel. -/
inductive Reported (b : ZoneBoard) : ZoneBoard → Prop
  | confirmed (i : UInt8) (on : Bool) : Reported b (b.modify i (·.confirm on))

theorem ZoneStatus.confirm_confirm (z : ZoneStatus) (on : Bool) :
    (z.confirm on).confirm on=z.confirm on := by
  cases on <;> rfl

theorem ZoneStatus.stop_stop (z : ZoneStatus) (confirmed : Bool) :
    (z.stop confirmed).stop confirmed=z.stop confirmed := by
  cases confirmed with
  | true => rfl
  | false =>
    by_cases off : z.state=.off <;> simp [ZoneStatus.stop,off]

namespace ZoneBoard

theorem status?_modify_cases {b : ZoneBoard} {zone i : UInt8} {f : ZoneStatus → ZoneStatus}
    {z : ZoneStatus} (h : (b.modify zone f).status? i=some z) :
    ∃ y,b.status? i=some y ∧ (z=y ∨ i=zone ∧ z=f y) := by
  rw [status?_modify] at h
  split_ifs at h with e
  · obtain ⟨y,hy,rfl⟩ := Option.map_eq_some_iff.mp h
    exact ⟨y,hy,Or.inr ⟨e,rfl⟩⟩
  · exact ⟨z,h,Or.inl rfl⟩

/-- Confirming many zones, each as `on` says, touches only these, and each of them once. -/
theorem status?_foldl_confirm {α : Type} (zoneOf : α → UInt8) (on : α → Bool) {b : ZoneBoard}
    {l : List α} (inj : ∀ i∈l,∀ j∈l,zoneOf i=zoneOf j → i=j) :
    (∀ z,(∀ i∈l,z≠zoneOf i) →
      (l.foldl (fun b i => b.modify (zoneOf i) (·.confirm (on i))) b).status? z=b.status? z) ∧
    ∀ i∈l,(l.foldl (fun b i => b.modify (zoneOf i) (·.confirm (on i))) b).status? (zoneOf i)=
      (b.status? (zoneOf i)).map (·.confirm (on i)) := by
  induction l generalizing b with
  | nil => exact ⟨fun _ _ => rfl,nofun⟩
  | cons j l ih =>
    obtain ⟨others,own⟩ := ih (b:=b.modify (zoneOf j) (·.confirm (on j))) fun i hi k hk =>
      inj i (List.mem_cons_of_mem _ hi) k (List.mem_cons_of_mem _ hk)
    refine ⟨fun z hz => ?_,fun i hi => ?_⟩
    · rw [List.foldl_cons,others z fun i hi => hz i (List.mem_cons_of_mem _ hi)]
      exact status?_modify_ne _ _ (hz j List.mem_cons_self)
    · rw [List.foldl_cons]
      by_cases e : zoneOf i=zoneOf j
      · obtain rfl := inj i hi j List.mem_cons_self e
        by_cases hmem : i∈l
        · rw [own i hmem,status?_modify,if_pos rfl,Option.map_map]
          refine congrArg (Option.map · _) (funext fun z => ?_)
          exact ZoneStatus.confirm_confirm z (on i)
        · rw [others _ fun k hk e => hmem ?_,status?_modify,if_pos rfl]
          rwa [inj i List.mem_cons_self k (List.mem_cons_of_mem _ hk) e]
      · have hmem : i∈l := (List.mem_cons.mp hi).resolve_left fun k => e (k ▸ rfl)
        rw [own i hmem,status?_modify_ne _ _ e]

/-- Turning off those of many zones that wait: these are off, all others as they were. -/
theorem status?_foldl_forceOff (b : ZoneBoard) (zones : List UInt8) (z : UInt8) :
    (zones.foldl (fun b i => if (b.state i).isPending then b.forceOff i else b) b).status? z=
      if z∈zones ∧ (b.state z).isPending=true then some {} else b.status? z := by
  induction zones generalizing b with
  | nil => simp
  | cons i zones ih =>
    rw [List.foldl_cons,ih]
    by_cases e : z=i
    · subst e
      by_cases hp : (b.state z).isPending=true
      · obtain ⟨s,hs,_⟩ := exists_status (b:=b) (z:=z) fun k => by
          rw [k] at hp
          cases hp
        have off : (b.forceOff z).status? z=some {} := by
          rw [forceOff,status?_modify,if_pos rfl,hs,Option.map_some]
        rw [if_pos hp,off,ite_self,if_pos ⟨List.mem_cons_self,hp⟩]
      · simp [hp]
    · have same : (if (b.state i).isPending then b.forceOff i else b).status? z=b.status? z := by
        split_ifs
        · exact status?_modify_ne _ _ e
        · rfl
      rw [state,same,←state]
      simp [e]

/-- Stopping many zones touches only these, and each of them once. -/
theorem status?_foldl_stop (b : ZoneBoard) (zones : List UInt8) (confirmed : Bool) (z : UInt8) :
    (zones.foldl (fun b i => b.stop i confirmed) b).status? z=
      if z∈zones then (b.status? z).map (·.stop confirmed) else b.status? z := by
  induction zones generalizing b with
  | nil => rfl
  | cons i zones ih =>
    rw [List.foldl_cons,ih,stop,status?_modify]
    by_cases e : z=i
    · subst e
      rw [if_pos rfl,if_pos List.mem_cons_self,Option.map_map,ite_eq_right_iff]
      intro _
      exact congrArg (Option.map · _) (funext fun s => s.stop_stop confirmed)
    · have listed : z∈i::zones ↔ z∈zones := by rw [List.mem_cons,or_iff_right e]
      rw [if_neg e,if_congr listed rfl rfl]

theorem status?_allOff (b : ZoneBoard) (i : UInt8) :
    b.allOff.status? i=(b.status? i).map fun _ => {} := List.getElem?_map ..

end ZoneBoard

variable {site : Site} {b b' : ZoneBoard}

/-- What a command may make of the record of zone `i`. -/
inductive Commanded.Zone (site : Site) (i : UInt8) (y : ZoneStatus) : ZoneStatus → Prop
  | same : Commanded.Zone site i y y
  | off : Commanded.Zone site i y {}
  | stopped {z : Watering.Zone} {st : Station} :
    site.zone? i=some z → site.enabledStation? z.station=some st →
    Commanded.Zone site i y (y.stop st.network.isLocal)
  | started {run : ZoneRun} {z : Watering.Zone} {st : Station} (now : Instant) :
    site.zone? i=some z → site.enabledStation? z.station=some st → run.minutes≠0 →
    Commanded.Zone site i y (.start run st.network.isLocal now)

theorem Commanded.zone (h : Commanded site b b') {i : UInt8} {z : ZoneStatus}
    (hz : b'.status? i=some z) : ∃ y,b.status? i=some y ∧ Commanded.Zone site i y z := by
  cases h with
  | started now hzone hst h0 =>
    obtain ⟨y,hy,rfl | ⟨rfl,rfl⟩⟩ := ZoneBoard.status?_modify_cases hz
    · exact ⟨_,hy,.same⟩
    · exact ⟨y,hy,.started now hzone hst h0⟩
  | stopped hzone hst =>
    obtain ⟨y,hy,rfl | ⟨rfl,rfl⟩⟩ := ZoneBoard.status?_modify_cases hz
    · exact ⟨_,hy,.same⟩
    · exact ⟨y,hy,.stopped hzone hst⟩
  | off =>
    obtain ⟨y,hy,rfl | ⟨rfl,rfl⟩⟩ := ZoneBoard.status?_modify_cases hz
    · exact ⟨_,hy,.same⟩
    · exact ⟨y,hy,.off⟩
  | allOff =>
    rw [ZoneBoard.status?_allOff] at hz
    obtain ⟨y,hy,rfl⟩ := Option.map_eq_some_iff.mp hz
    exact ⟨y,hy,.off⟩

theorem Commanded.size (h : Commanded site b b') : b'.size=b.size := by
  cases h with
  | started => exact ZoneBoard.size_start ..
  | stopped => exact ZoneBoard.size_stop ..
  | off => exact ZoneBoard.size_forceOff ..
  | allOff => exact ZoneBoard.size_allOff _

theorem Reported.size (h : Reported b b') : b'.size=b.size := by
  cases h with
  | confirmed => exact ZoneBoard.size_modify ..

/-- What holds of every zone is kept by commands if each way to command one zone keeps it. -/
theorem keeps_of_commanded {P : UInt8 → ZoneStatus → Prop}
    (one : ∀ i y z,Commanded.Zone site i y z → P i y → P i z)
    (h : Relation.ReflTransGen (Commanded site) b b') (all : ∀ i z,b.status? i=some z → P i z) :
    ∀ i z,b'.status? i=some z → P i z := by
  induction h with
  | refl => exact all
  | tail _ edit ih =>
    intro i z hz
    obtain ⟨y,hy,made⟩ := edit.zone hz
    exact one i y z made (ih i y hy)

/-- Of several reports of a zone only the last one counts, and whether one said that it is off. -/
theorem zone_of_reported (h : Relation.ReflTransGen Reported b b') {i : UInt8} {z : ZoneStatus}
    (hz : b'.status? i=some z) : ∃ y,b.status? i=some y ∧
      (z=y ∨ z={} ∨ z=y.confirm true ∨ z=ZoneStatus.confirm {} true) := by
  induction h generalizing z with
  | refl => exact ⟨z,hz,Or.inl rfl⟩
  | tail _ edit ih =>
    cases edit with
    | confirmed j on =>
      obtain ⟨x,hx,same⟩ := ZoneBoard.status?_modify_cases hz
      obtain ⟨y,hy,made⟩ := ih hx
      refine ⟨y,hy,?_⟩
      obtain rfl | ⟨rfl,rfl⟩ := same
      · exact made
      · cases on with
        | false => exact Or.inr (Or.inl rfl)
        | true =>
          obtain rfl | rfl | rfl | rfl := made
          · exact Or.inr (Or.inr (Or.inl rfl))
          · exact Or.inr (Or.inr (Or.inr rfl))
          · exact Or.inr (Or.inr (Or.inl rfl))
          · exact Or.inr (Or.inr (Or.inr rfl))

/-- The number of zones stays if each edit leaves it. -/
theorem size_of_edits {E : ZoneBoard → ZoneBoard → Prop} (one : ∀ a b,E a b → b.size=a.size)
    (h : Relation.ReflTransGen E b b') : b'.size=b.size := by
  induction h with
  | refl => rfl
  | tail _ edit ih => exact (one _ _ edit).trans ih

end Watering
