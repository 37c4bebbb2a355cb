import Watering.Proofs.Zone.Timers

namespace Watering

/-- What a state says of the rest of its record. A zone that waits to start has used up as many
seconds of its run as of its wait. -/
def ZoneState.Fits (s : ZoneStatus) : ZoneState → Prop
  | off => s={}
  | starting n => 1≤n ∧ n≤5 ∧ ∃ run,s.run=some run ∧ s.remaining+(5-n)=60*run.minutes.toNat
  | running => s.run=none → s.remaining=0
  | stopping n => 1≤n ∧ n≤5 ∧ s.remaining=0

namespace ZoneStatus

/-- The fields of a record fit together. -/
structure Coherent (s : ZoneStatus) : Prop where
  fits : s.state.Fits s
  dated : s.run.isSome=s.startedAt.isSome
  within {run : ZoneRun} : s.run=some run → run.minutes≠0 ∧ s.remaining≤60*run.minutes.toNat

theorem coherent_default : Coherent {} := ⟨rfl,rfl,nofun⟩

theorem coherent_start {run : ZoneRun} (lasts : run.minutes≠0) (confirmed : Bool) (now : Instant) :
    (start run confirmed now).Coherent where
  fits := by
    cases confirmed with
    | true => exact nofun
    | false => exact ⟨by decide,by decide,run,rfl,Nat.mul_comm ..⟩
  dated := rfl
  within hr := by
    cases hr
    exact ⟨lasts,Nat.le_of_eq (Nat.mul_comm ..)⟩

namespace Coherent

variable {s t : ZoneStatus}

/-- Another state for the same run, of which no more is left. -/
theorem restate (h : s.Coherent) (run : t.run=s.run) (dated : t.startedAt=s.startedAt)
    (left : t.remaining ≤ s.remaining) (fits : t.state.Fits t) : t.Coherent where
  fits := fits
  dated := by rw [run,dated,h.dated]
  within hr := by
    obtain ⟨lasts,within⟩ := h.within (run ▸ hr)
    exact ⟨lasts,Nat.le_trans left within⟩

/-- There is no countdown without a run. -/
theorem remaining_eq_zero (h : s.Coherent) (none : s.run=none) : s.remaining=0 := by
  have fits := h.fits
  cases hs : s.state with
  | off =>
    rw [hs] at fits
    exact congrArg remaining fits
  | starting n =>
    rw [hs] at fits
    obtain ⟨_,_,run,hrun,_⟩ := fits
    cases none.symm.trans hrun
  | running =>
    rw [hs] at fits
    exact fits none
  | stopping n =>
    rw [hs] at fits
    exact fits.2.2

theorem stop (h : s.Coherent) (confirmed : Bool) : (s.stop confirmed).Coherent := by
  unfold ZoneStatus.stop
  split_ifs
  · exact coherent_default
  · exact h.restate rfl rfl (Nat.zero_le _) ⟨by decide,by decide,rfl⟩

theorem confirm (h : s.Coherent) (on : Bool) : (s.confirm on).Coherent := by
  cases on with
  | false => exact coherent_default
  | true => exact h.restate rfl rfl (Nat.le_refl _) h.remaining_eq_zero

theorem tick (h : s.Coherent) : s.tick.1.Coherent := by
  have fits := h.fits
  have less : s.remaining-1 ≤ s.remaining := Nat.sub_le ..
  cases hs : s.state with
  | off =>
    rw [tick_off hs]
    exact h
  | starting n =>
    rw [hs] at fits
    obtain ⟨_,_,run,hrun,left⟩ := fits
    have lasts : run.minutes.toNat≠0 := fun k => (h.within hrun).1 (UInt8.toNat_inj.mp k)
    simp only [ZoneStatus.tick,hs]
    split_ifs
    · exact h.restate rfl rfl less ⟨by omega,by omega,run,hrun,by dsimp only; omega⟩
    · exact coherent_default
  | running =>
    rw [tick_running hs]
    split_ifs
    · exact h
    · exact coherent_default
    · refine h.restate rfl rfl less ?_
      dsimp only
      rw [hs]
      intro none
      have := h.remaining_eq_zero none
      dsimp only
      omega
  | stopping n =>
    rw [hs] at fits
    obtain ⟨_,_,left⟩ := fits
    simp only [ZoneStatus.tick,hs]
    split_ifs
    · exact h.restate rfl rfl less ⟨by omega,by omega,by dsimp only; omega⟩
    · exact coherent_default

end Coherent

/-- A second reports a zone exactly if it turns the zone off. -/
theorem exists_tick_iff (s : ZoneStatus) :
    (∃ e,s.tick.2=some e) ↔ s.state≠.off ∧ s.tick.1.state=.off := by
  cases hs : s.state with
  | off => simp [tick_off hs]
  | starting n | stopping n =>
    simp only [tick,hs]
    split_ifs <;> simp
  | running =>
    rw [tick_running hs]
    split_ifs <;> simp [hs]

end ZoneStatus

namespace ZoneBoard

open ZoneStatus (Coherent coherent_default coherent_start)

namespace Operation

/-- The zone that an operation is about, if it is about one. -/
def zone? : Operation → Option UInt8
  | start run _ _ => some run.zone
  | stop zone _ | forceOff zone | confirm zone _ => some zone
  | allOff | resize _ | tick => none

/-- Any run that is started has a minute at least. -/
def Lasts : Operation → Prop
  | start run _ _ => run.minutes≠0
  | _ => True

instance : (op : Operation) → Decidable op.Lasts
  | start _ _ _ => inferInstanceAs (Decidable (_≠_))
  | stop _ _ | forceOff _ | confirm _ _ | allOff | resize _ | tick => inferInstanceAs (Decidable True)

end Operation

variable {b : ZoneBoard} {z zone : UInt8} {s : ZoneStatus} {f : ZoneStatus → ZoneStatus}
  {op : Operation}

theorem perform_of_zone? (h : op.zone?=some zone) : ∃ f,b.perform op=b.modify zone f := by
  cases op with
  | start | stop | forceOff =>
    cases h
    exact ⟨_,rfl⟩
  | confirm =>
    cases h
    exact ⟨_,confirm_fst ..⟩
  | allOff | resize | tick => cases h

/-- What is done to one zone leaves the records of the others, on a board of any size. -/
theorem getElem?_perform_of_zone? (h : op.zone?=some zone) {i : Nat} (hi : i≠zone.toNat) :
    (b.perform op).zones[i]?=b.zones[i]? := by
  obtain ⟨f,hf⟩ := perform_of_zone? (b:=b) h
  rw [hf]
  exact List.getElem?_modify_ne _ _ hi.symm

theorem mem_zones_modify (h : s∈(b.modify zone f).zones) : s∈b.zones ∨ ∃ y∈b.zones,s=f y := by
  obtain ⟨i,hi⟩ := List.mem_iff_getElem?.mp h
  rw [modify,List.getElem?_modify] at hi
  obtain ⟨y,hy,same⟩ := Option.map_eq_some_iff.mp hi
  have held : y∈b.zones := List.mem_of_getElem? hy
  split_ifs at same
  · exact .inr ⟨y,held,same.symm⟩
  · exact .inl (same ▸ held)

/-- Records stay coherent if one of them is edited and the edit keeps them so. -/
theorem coherent_modify (all : ∀ s∈b.zones,s.Coherent) (keeps : ∀ {s},Coherent s → (f s).Coherent) :
    ∀ s∈(b.modify zone f).zones,s.Coherent := by
  intro s hs
  obtain held | ⟨y,held,rfl⟩ := mem_zones_modify hs
  · exact all s held
  · exact keeps (all y held)

theorem coherent_perform (all : ∀ s∈b.zones,s.Coherent) (lasts : op.Lasts) :
    ∀ s∈(b.perform op).zones,s.Coherent := by
  cases op with
  | start run confirmed now => exact coherent_modify all fun _ => coherent_start lasts confirmed now
  | stop zone confirmed => exact coherent_modify all (·.stop confirmed)
  | forceOff zone => exact coherent_modify all fun _ => coherent_default
  | confirm zone on =>
    rw [perform,confirm_fst]
    exact coherent_modify all (·.confirm on)
  | allOff =>
    intro s hs
    obtain ⟨_,_,rfl⟩ := List.mem_map.mp hs
    exact coherent_default
  | resize count =>
    intro s hs
    obtain kept | new := List.mem_append.mp hs
    · exact all s (List.mem_of_mem_take kept)
    · rw [List.eq_of_mem_replicate new]
      exact coherent_default
  | tick =>
    intro s hs
    obtain ⟨y,held,rfl⟩ := List.mem_map.mp hs
    exact (all y held).tick

theorem coherent_performAll {ops : List Operation} (all : ∀ s∈b.zones,s.Coherent)
    (lasts : ∀ op∈ops,op.Lasts) : ∀ s∈(b.performAll ops).zones,s.Coherent := by
  induction ops generalizing b with
  | nil => exact all
  | cons op ops ih =>
    have first : op.Lasts := lasts op List.mem_cons_self
    exact ih (coherent_perform all first) fun op h => lasts op (List.mem_cons_of_mem _ h)

theorem coherent_ofCount (count : Nat) : ∀ s∈(ofCount count).zones,s.Coherent := by
  intro s hs
  rw [List.eq_of_mem_replicate hs]
  exact coherent_default

/-- The zones that a second reports are those that it turns off. -/
theorem reported_iff (small : b.size≤256) :
    (∃ t∈b.tick.2,t.zone=z) ↔ b.state z≠.off ∧ b.tick.1.state z=.off := by
  have after {s : ZoneStatus} (hs : b.status? z=some s) : b.tick.1.state z=s.tick.1.state :=
    state_of_status? (by rw [status?_tick,hs,Option.map_some])
  constructor
  · rintro ⟨t,ht,rfl⟩
    obtain ⟨s,hs,he⟩ := (mem_tick small).mp ht
    rw [state_of_status? hs,after hs]
    exact s.exists_tick_iff.mp ⟨_,he⟩
  · rintro ⟨on,off⟩
    obtain ⟨s,hs,state⟩ := exists_status on
    rw [←state] at on
    rw [after hs] at off
    obtain ⟨e,he⟩ := s.exists_tick_iff.mpr ⟨on,off⟩
    exact ⟨⟨z,e⟩,(mem_tick small).mpr ⟨s,hs,he⟩,rfl⟩

/-- Whatever was done to a board, with no run of less than a minute: the fields of each record fit
together. What is done to one zone leaves the other records and the size of the board. A second reports,
in the order of the zones and each of them once, those that it turns off. -/
theorem records_are_coherent (count : Nat) (ops : List Operation) (lasts : ∀ op∈ops,op.Lasts) :
    let b := (ofCount count).performAll ops
    (∀ s∈b.zones,s.Coherent) ∧
    (∀ op zone,op.zone?=some zone →
      (b.perform op).size=b.size ∧ ∀ i≠zone.toNat,(b.perform op).zones[i]?=b.zones[i]?) ∧
    (b.size≤256 →
      (b.tick.2.Pairwise fun t u => t.zone<u.zone) ∧
      ∀ z,(∃ t∈b.tick.2,t.zone=z) ↔ b.state z≠.off ∧ b.tick.1.state z=.off) := by
  intro b
  refine ⟨coherent_performAll (coherent_ofCount count) lasts,?_,?_⟩
  · intro op zone h
    refine ⟨?_,fun i hi => getElem?_perform_of_zone? h hi⟩
    obtain ⟨f,hf⟩ := perform_of_zone? (b:=b) h
    rw [hf,size_modify]
  · intro small
    exact ⟨ascending_tick small,fun z => reported_iff small⟩

/-- A zone waits to start, one waits to stop, one was only reported on, and one is new. -/
def variedUse : List Operation :=
  [.start {zone:=0,minutes:=1} false {},.start {zone:=1,minutes:=9} true {},.confirm 2 true,.tick,
    .stop 1 false,.tick,.tick,.tick,.resize 4]

theorem records_are_coherent_variedUse :
    let b := (ofCount 3).performAll variedUse
    (∀ op∈variedUse,op.Lasts) ∧ b.size≤256 ∧
      b.zones.map ZoneStatus.state=[.starting 1,.stopping 2,.running,.off] ∧
      (∀ s∈b.zones,s.Coherent) ∧ (b.perform (.forceOff 1)).zones[0]?=b.zones[0]? ∧
      b.tick.2=[⟨0,.unconfirmed (.starting 1)⟩] ∧ b.tick.1.state 0=.off ∧
      ¬(b.state 1≠.off ∧ b.tick.1.state 1=.off) := by
  intro b
  have lasts : ∀ op∈variedUse,op.Lasts := by decide
  have small : b.size≤256 := by decide
  have reports : b.tick.2=[⟨0,.unconfirmed (.starting 1)⟩] := by decide
  obtain ⟨coherent,others,told⟩ := records_are_coherent 3 variedUse lasts
  obtain ⟨_,ends⟩ := told small
  have first := (ends 0).mp ⟨⟨0,.unconfirmed (.starting 1)⟩,by rw [reports]; simp,rfl⟩
  have second : ¬∃ t∈b.tick.2,t.zone=1 := by
    rw [reports]
    decide
  exact ⟨lasts,small,by decide,coherent,(others (.forceOff 1) 1 rfl).2 0 (by decide),reports,first.2,
    fun k => second ((ends 1).mpr k)⟩

end ZoneBoard

end Watering
