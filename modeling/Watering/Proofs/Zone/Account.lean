import Watering.Journal
import Watering.Proofs.Plant

namespace Watering

/-- The zone that an event tells of. -/
def Event.zone? : Event → Option UInt8
  | zoneStarted run => some run.zone
  | zoneStopped zone _ => some zone
  | _ => none

/-- A stop of this zone. -/
def Event.stops (i : UInt8) : Event → Bool
  | zoneStopped zone _ => zone==i
  | _ => false

/-- What is told of one zone. -/
def about (i : UInt8) (es : List Event) : List Event := es.filter (·.zone?==some i)

@[simp] theorem about_append (i : UInt8) (es es' : List Event) :
    about i (es++es')=about i es++about i es' := List.filter_append ..

theorem about_eq_nil {i : UInt8} {es : List Event} (h : ∀ e∈es,e.zone?≠some i) : about i es=[] :=
  List.filter_eq_nil_iff.mpr fun e he k => h e he (beq_iff_eq.mp k)

theorem about_eq_self {i : UInt8} {es : List Event} (h : ∀ e∈es,e.zone?=some i) : about i es=es :=
  List.filter_eq_self.mpr fun e he => beq_iff_eq.mpr (h e he)

/-- Of things that concern different zones each is told where its zone is asked for. -/
theorem about_map {α : Type} {zone : α → UInt8} {event : α → Event} {l : List α}
    (own : ∀ x,(event x).zone?=some (zone x)) (apart : l.Pairwise fun x y => zone x≠zone y) :
    ∀ x∈l,about (zone x) (l.map event)=[event x] := by
  induction l with
  | nil => nofun
  | cons y l ih =>
    obtain ⟨first,rest⟩ := List.pairwise_cons.mp apart
    rintro x (_ | ⟨_,hx⟩)
    · have later : about (zone y) (l.map event)=[] := about_eq_nil fun e he k => by
        obtain ⟨x,hx,rfl⟩ := List.mem_map.mp he
        exact first x hx (Option.some.inj (k.symm.trans (own x)))
      rw [List.map_cons,←List.singleton_append,about_append,later,
        about_eq_self (List.forall_mem_singleton.mpr (own y)),List.append_nil]
    · have before : about (zone x) [event y]=[] :=
        about_eq_nil (List.forall_mem_singleton.mpr fun k =>
          first x hx (Option.some.inj ((own y).symm.trans k)))
      rw [List.map_cons,←List.singleton_append,about_append,before,List.nil_append]
      exact ih rest x hx

/-- The record of a zone; one that is not on the board is off. -/
def ZoneBoard.status (b : ZoneBoard) (i : UInt8) : ZoneStatus := (b.status? i).getD {}

/-- A second ends a wait or a run of a zone that was not off, or leaves it as on or off as it was. -/
theorem ZoneStatus.tick_cases (y : ZoneStatus) :
    y.tick.2=none ∧ y.tick.1.state.isOn=y.state.isOn ∨
      (∃ e,y.tick.2=some e) ∧ y.state≠.off ∧ y.tick.1={} := by
  unfold tick
  cases h : y.state with
  | off => exact .inl ⟨rfl,congrArg ZoneState.isOn h⟩
  | starting n =>
    dsimp only
    split_ifs
    · exact .inl ⟨rfl,rfl⟩
    · exact .inr ⟨⟨_,rfl⟩,nofun,rfl⟩
  | stopping n =>
    dsimp only
    split_ifs
    · exact .inl ⟨rfl,rfl⟩
    · exact .inr ⟨⟨_,rfl⟩,nofun,rfl⟩
  | running =>
    dsimp only
    split_ifs
    · exact .inl ⟨rfl,congrArg ZoneState.isOn h⟩
    · exact .inr ⟨⟨_,rfl⟩,nofun,rfl⟩
    · exact .inl ⟨rfl,rfl⟩

theorem ZoneBoard.status_tick (b : ZoneBoard) (i : UInt8) :
    b.tick.1.status i=(b.status i).tick.1 := by
  rw [status,status?_tick,status]
  cases b.status? i <;> rfl

/-- What the account may tell of a zone whose record was `y` before and is `z` now: nothing if it did
not go off, a stop if it did, or a start that was accepted and is under way. -/
inductive Page (starts : List Start) (i : UInt8) (y z : ZoneStatus) : List Event → Prop
  | silent : (y.state.isOn=true → z.state.isOn=true) → Page starts i y z []
  | stopped (r : StopReason) : y.state≠.off → z.state.isOn=false →
    Page starts i y z [.zoneStopped i r]
  | started {s : Start} {run : ZoneRun} : s∈starts → s.zone=run.zone → s.minutes=run.minutes →
    run.zone=i → z.state.isOn=true → z.run=some run → Page starts i y z [.zoneStarted run]

theorem Page.accepting {starts starts' : List Start} (h : ∀ s∈starts,s∈starts') {i : UInt8}
    {y z : ZoneStatus} {es : List Event} (p : Page starts i y z es) : Page starts' i y z es := by
  cases p with
  | silent on => exact .silent on
  | stopped r off gone => exact .stopped r off gone
  | started hs zone minutes own on run => exact .started (h _ hs) zone minutes own on run

theorem Page.zone? {starts : List Start} {i : UInt8} {y z : ZoneStatus} {es : List Event}
    (p : Page starts i y z es) : ∀ e∈es,e.zone?=some i := by
  cases p with
  | silent => nofun
  | stopped => exact List.forall_mem_singleton.mpr rfl
  | started _ _ _ own => exact List.forall_mem_singleton.mpr (congrArg some own)

/-- An account of what became of the zones in `K`; the others were left alone and are not told of. -/
structure Account (K : UInt8 → Prop) (starts : List Start) (b b' : ZoneBoard) (es : List Event) :
    Prop where
  page {i : UInt8} : K i → Page starts i (b.status i) (b'.status i) (about i es)
  others {i : UInt8} : ¬K i → b'.status i=b.status i ∧ about i es=[]

namespace Account

variable {K K' : UInt8 → Prop} {starts starts' : List Start} {b b' b'' : ZoneBoard}
  {es es' : List Event}

/-- What tells of no zone is an account of a board that is left alone. -/
theorem aside (same : b'=b) (h : ∀ e∈es,e.zone?=none) : Account K starts b b' es := by
  have none (i : UInt8) : about i es=[] := about_eq_nil fun e he k => by
    rw [h e he] at k
    cases k
  subst same
  exact ⟨fun _ => none _ ▸ .silent id,fun _ => ⟨rfl,none _⟩⟩

theorem mono (h : ∀ i,K i → K' i) (a : Account K starts b b' es) : Account K' starts b b' es where
  page {i} _ := by
    by_cases k : K i
    · exact a.page k
    · rw [(a.others k).1,(a.others k).2]
      exact .silent id
  others k := a.others fun k' => k (h _ k')

theorem accepting (h : ∀ s∈starts,s∈starts') (a : Account K starts b b' es) :
    Account K starts' b b' es := ⟨fun k => (a.page k).accepting h,a.others⟩

/-- Accounts of different zones, one after the other. -/
theorem trans (a : Account K starts b b' es) (a' : Account K' starts b' b'' es')
    (apart : ∀ i,K i → ¬K' i) : Account (fun i => K i ∨ K' i) starts b b'' (es++es') where
  page {i} k := by
    rw [about_append]
    by_cases hK : K i
    · obtain ⟨same,none⟩ := a'.others (apart i hK)
      rw [same,none,List.append_nil]
      exact a.page hK
    · obtain ⟨same,none⟩ := a.others hK
      rw [none,List.nil_append,←same]
      exact a'.page (k.resolve_left hK)
  others k := by
    obtain ⟨same,none⟩ := a.others fun h => k (.inl h)
    obtain ⟨same',none'⟩ := a'.others fun h => k (.inr h)
    rw [about_append,same',none,none']
    exact ⟨same,rfl⟩

/-- What an edit of one zone tells. -/
theorem one {i : UInt8} {f : ZoneStatus → ZoneStatus}
    (p : Page starts i (b.status i) ((b.modify i f).status i) es) :
    Account (·=i) starts b (b.modify i f) es where
  page h := by
    rw [h,about_eq_self p.zone?]
    exact p
  others h := by
    refine ⟨congrArg (·.getD {}) (ZoneBoard.status?_modify_ne b f h),about_eq_nil fun e he k => ?_⟩
    exact h (Option.some.inj (k.symm.trans (p.zone? e he)))

/-- An account of the whole board, with one entry for each of some zones and none for the others. -/
theorem whole {α : Type} (zone : α → UInt8) {event : α → Event} {l : List α}
    (own : ∀ x,(event x).zone?=some (zone x)) (apart : l.Pairwise fun x y => zone x≠zone y)
    (listed : ∀ x∈l,Page starts (zone x) (b.status (zone x)) (b'.status (zone x)) [event x])
    (unlisted : ∀ i,(∀ x∈l,zone x≠i) → Page starts i (b.status i) (b'.status i) []) :
    Account (fun _ => True) starts b b' (l.map event) where
  page {i} _ := by
    by_cases h : ∃ x∈l,zone x=i
    · obtain ⟨x,hx,rfl⟩ := h
      rw [about_map own apart x hx]
      exact listed x hx
    · have none : about i (l.map event)=[] := about_eq_nil fun e he k => by
        obtain ⟨x,hx,rfl⟩ := List.mem_map.mp he
        exact h ⟨x,hx,Option.some.inj ((own x).symm.trans k)⟩
      rw [none]
      exact unlisted i fun x hx e => h ⟨x,hx,e⟩
  others h := absurd trivial h

/-- All stops of a zone are about that zone. -/
theorem countP_about (i : UInt8) (es : List Event) :
    es.countP (Event.stops i)=(about i es).countP (Event.stops i) := by
  rw [about,List.countP_filter]
  refine List.countP_congr fun e _ => ?_
  cases e <;> simp [Event.stops,Event.zone?]

/-- A zone that goes off is told to stop once. -/
theorem stops_once (a : Account (fun _ => True) starts b b' es) {i : UInt8}
    (on : (b.state i).isOn=true) (off : (b'.state i).isOn=false) : es.countP (Event.stops i)=1 := by
  have page := a.page (i:=i) trivial
  rw [countP_about]
  cases h : about i es with
  | nil =>
    rw [h] at page
    cases page with
    | silent kept => exact absurd (kept on) (by rw [show (b'.status i).state.isOn=_ from off]; nofun)
  | cons e rest =>
    rw [h] at page
    cases page with
    | stopped r => simp [Event.stops]
    | started _ _ _ _ kept =>
      rw [show (b'.status i).state.isOn=_ from off] at kept
      cases kept

theorem mem_about {i : UInt8} {e : Event} (h : e∈es) (own : e.zone?=some i) : e∈about i es :=
  List.mem_filter.mpr ⟨h,beq_iff_eq.mpr own⟩

theorem of_stop (a : Account (fun _ => True) starts b b' es) {i : UInt8} {r : StopReason}
    (h : .zoneStopped i r∈es) : b.state i≠.off ∧ (b'.state i).isOn=false := by
  have told := mem_about h rfl
  have page := a.page (i:=i) trivial
  generalize about i es=l at told page
  cases page with
  | silent => cases told
  | stopped _ busy gone => exact ⟨busy,gone⟩
  | started => cases List.mem_singleton.mp told

theorem of_start (a : Account (fun _ => True) starts b b' es) {run : ZoneRun}
    (h : .zoneStarted run∈es) : (∃ s∈starts,s.zone=run.zone ∧ s.minutes=run.minutes) ∧
      ∃ z,b'.status? run.zone=some z ∧ z.state.isOn=true ∧ z.run=some run := by
  have told := mem_about h rfl
  have page := a.page (i:=run.zone) trivial
  generalize about run.zone es=l at told page
  cases page with
  | silent => cases told
  | stopped => cases List.mem_singleton.mp told
  | started hs zone minutes _ on hrun =>
    cases List.mem_singleton.mp told
    refine ⟨⟨_,hs,zone,minutes⟩,?_⟩
    obtain ⟨z,hz,_⟩ := ZoneBoard.exists_status (b:=b') (z:=run.zone) (ZoneState.ne_off on)
    rw [ZoneBoard.status,hz] at on hrun
    exact ⟨z,hz,on,hrun⟩

end Account

end Watering
