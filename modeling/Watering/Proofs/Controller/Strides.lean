import Watering.Proofs.Controller.Batch
import Watering.Proofs.Controller.Served
import Watering.Proofs.Controller.Upkeep
import Watering.Proofs.Zone.Edits

namespace Watering

namespace Controller

variable {σ : Type} [Carrier σ]

/-- One stride; `E` says how the board may be edited. -/
inductive Stride (E : ZoneBoard → ZoneBoard → Prop) (c : Controller σ) : Controller σ → Prop
  /-- Nothing is sent, noted or edited. -/
  | aside {d : Controller σ} : d.site=c.site → d.zones=c.zones → d.link=c.link →
    d.inFlight=c.inFlight → Stride E c d
  | ticked (n : Nat) : Stride E c {c with link:={c.link with tick:=n}}
  | heard : Stride E c {c with link:=c.link.receive.1}
  | sent (t : Destination) {f : Frame} : f.function≠.zonesSet → Stride E c (c.sendFrame t f).1
  | asked (id : UInt8) (m : Message) : Stride E c (c.request id m).1
  | settled (p : Outstanding → Bool) : Stride E c {c with inFlight:=c.inFlight.filter p}
  | edited {b : ZoneBoard} : E c.zones b → Stride E c {c with zones:=b}

abbrev Strides (E : ZoneBoard → ZoneBoard → Prop) : Controller σ → Controller σ → Prop :=
  Relation.ReflTransGen (Stride E)

section Laws

variable {E : ZoneBoard → ZoneBoard → Prop} {c d e : Controller σ}

theorem Stride.site (h : Stride E c d) : d.site=c.site := by
  cases h with
  | aside site => exact site
  | ticked => rfl
  | heard => rfl
  | sent => exact site_of_still (still_sendFrame ..)
  | asked => exact site_of_still (still_request ..)
  | settled => rfl
  | edited => rfl

theorem Stride.board (h : Stride E c d) : d.zones=c.zones ∨ E c.zones d.zones := by
  cases h with
  | aside _ zones => exact Or.inl zones
  | ticked => exact Or.inl rfl
  | heard => exact Or.inl rfl
  | sent => exact Or.inl (zones_of_still (still_sendFrame ..))
  | asked => exact Or.inl (zones_of_still (still_request ..))
  | settled => exact Or.inl rfl
  | edited he => exact Or.inr he

theorem Strides.site (h : Strides E c d) : d.site=c.site := by
  induction h with
  | refl => rfl
  | tail _ s ih => exact s.site.trans ih

/-- On the board nothing shows but the edits. -/
theorem Strides.board (h : Strides E c d) : Relation.ReflTransGen E c.zones d.zones := by
  induction h with
  | refl => exact .refl
  | tail _ s ih =>
    obtain same | he := s.board
    · rwa [same]
    · exact ih.tail he

theorem strides_aside (site : d.site=c.site) (zones : d.zones=c.zones) (link : d.link=c.link)
    (inFlight : d.inFlight=c.inFlight) : Strides E c d := .single (.aside site zones link inFlight)

/-- What is done for one after the other, at one site. -/
theorem strides_foldl {α : Type} {f : Controller σ → α → Controller σ} {s : Site} {l : List α}
    (step : ∀ d : Controller σ,d.site=s → ∀ x∈l,Strides E d (f d x)) (hs : c.site=s) :
    Strides E c (l.foldl f c) := by
  induction l generalizing c with
  | nil => exact .refl
  | cons x l ih =>
    have first := step c hs x List.mem_cons_self
    exact first.trans
      (ih (fun d hd y hy => step d hd y (List.mem_cons_of_mem _ hy)) (first.site.trans hs))

end Laws

variable {E : ZoneBoard → ZoneBoard → Prop} (c : Controller σ)

theorem strides_edited {b : ZoneBoard} (he : E c.zones b) : Strides E c {c with zones:=b} :=
  .single (.edited he)

theorem strides_record (e : Event) : Strides E c (c.record e) := strides_aside rfl rfl rfl rfl

theorem strides_setValve (st : Station) (ch : UInt8) (on : Bool) :
    Strides E c (c.setValve st ch on).1 := by
  obtain ⟨link,inFlight,_,zones⟩ := c.setValve_frame st ch on
  exact strides_aside (site_of_setting (setting_setValve ..)) zones link inFlight

theorem strides_releaseValve (z : Zone) : Strides E c (c.releaseValve z) := by
  unfold releaseValve
  split
  · split_ifs
    · exact c.strides_setValve ..
    · exact .refl
  · exact .refl

theorem strides_failSafeOff (site : Site) (i : UInt8) :
    Strides (Commanded site) c (c.failSafeOff i) := by
  have off (d : Controller σ) : Strides (Commanded site) d
      (if d.zones.state i=.off then d
      else record {d with zones:=d.zones.forceOff i} (.zoneStopped i .stationDisabled)) := by
    split_ifs
    · exact .refl
    · exact (d.strides_edited (.off i)).trans (strides_record _ _)
  unfold failSafeOff
  cases c.site.zone? i with
  | none => exact off c
  | some z => exact (c.strides_releaseValve z).trans (off _)

section Sent

variable {m : Message} (hm : m.function≠.zonesSet)
include hm

theorem strides_reply (f : Frame) : Strides E c (c.reply f m) := .single (.sent _ hm)

theorem strides_notify (t : UInt8) : Strides E c (c.notify t m) := .single (.sent _ hm)

end Sent

theorem strides_pushZones (id : UInt8) : Strides E c (c.pushZones id) := by
  unfold pushZones
  split
  · split_ifs
    · exact c.strides_notify (by nofun) _
    · exact .refl
  · exact .refl

theorem strides_pushSensors (values : List UInt16) : Strides E c (c.pushSensors values) := by
  unfold pushSensors
  split
  · split_ifs
    · exact c.strides_notify (by nofun) _
    · exact .refl
  · exact .refl

theorem strides_request (id : UInt8) (m : Message) : Strides E c (c.request id m).1 :=
  .single (.asked id m)

theorem strides_allChannelsOff (id : UInt8) : Strides E c (c.allChannelsOff id).1 := by
  unfold allChannelsOff
  split
  · exact .refl
  · exact c.strides_request ..

section Commands

variable {c} {s : Site} (hs : c.site=s)
include hs

theorem strides_stopZoneFrom (i : UInt8) (origin : Origin) :
    Strides (Commanded s) c (c.stopZoneFrom i origin).1 := by
  subst hs
  have close (z : Zone) (st : Station) : Strides (Commanded c.site) c (c.close z st).1 := by
    unfold close
    split_ifs
    · exact c.strides_setValve ..
    · exact c.strides_request ..
  refine stopZoneFrom_cases (P:=fun r => Strides (Commanded c.site) c r.1)
    ?unknown ?off ?out ?refused ?done
  case unknown => exact fun _ => .refl
  case off => exact fun _ => .refl
  case out => exact fun _ _ _ _ => c.strides_failSafeOff ..
  case refused => exact fun z st _ _ _ _ => close z st
  case done =>
    intro z st hz _ hst _
    refine ((close z st).tail (.edited (.stopped hz hst))).trans ?_
    unfold stopped
    dsimp only
    split_ifs
    · exact (strides_record _ _).trans (strides_pushZones _ _)
    · exact strides_record _ _

theorem strides_startZoneFrom (run : ZoneRun) (origin : Origin) :
    Strides (Commanded s) c (c.startZoneFrom run origin).1 := by
  subst hs
  have openFor (z : Zone) (st : Station) :
      Strides (Commanded c.site) c (c.openFor z st (c.capped run)).1 := by
    unfold openFor
    split_ifs
    · exact c.strides_setValve ..
    · exact c.strides_request ..
  refine startZoneFrom_cases (P:=fun r => Strides (Commanded c.site) c r.1)
    ?unfit ?out ?stop ?refused ?done
  case unfit => exact fun _ => .refl
  case out => exact fun _ _ _ => c.strides_failSafeOff ..
  case stop => exact fun _ _ _ _ _ => strides_stopZoneFrom rfl ..
  case refused => exact fun z st _ _ _ _ => openFor z st
  case done =>
    intro z st hz hst h0 _
    have start (b : ZoneBoard) :
        Commanded c.site b (b.start (c.capped run) st.network.isLocal c.now) :=
      .started c.now hz.1 hst h0
    refine ((openFor z st).tail (.edited (start _))).trans ?_
    unfold started
    dsimp only
    split_ifs
    · exact (strides_record _ _).trans (strides_pushZones _ _)
    · exact strides_record _ _

theorem strides_stopZones {id : UInt8} {st : Station} (hst : s.enabledStation? id=some st)
    {zones : List UInt8} (hz : ∀ i∈zones,∃ z,s.zone? i=some z ∧ z.station=id) :
    Strides (Commanded s) c (c.stopZones zones st.network.isLocal) := by
  unfold stopZones
  refine strides_foldl (s:=s) (fun d hd i hi => ?_) hs
  obtain ⟨z,hzone,rfl⟩ := hz i hi
  exact (d.strides_edited (.stopped hzone hst)).trans (strides_record _ _)

theorem strides_turnOffStation {id : UInt8} {l : List (UInt8×UInt8)}
    (hl : ∀ x∈l,∃ z,s.zone? x.1=some z ∧ z.station=id) :
    Strides (Commanded s) c (c.turnOffStation id l) := by
  have hzones : ∀ i∈l.map (·.1),∃ z,s.zone? i=some z ∧ z.station=id := by
    intro i hi
    obtain ⟨x,hx,rfl⟩ := List.mem_map.mp hi
    exact hl x hx
  cases hst : c.site.enabledStation? id with
  | none =>
    rw [c.turnOffStation_out hst]
    exact strides_foldl (fun d _ x _ => d.strides_failSafeOff s x.1) hs
  | some st =>
    rw [c.turnOffStation_eq hst]
    rw [hs] at hst
    split_ifs with hn
    · have valves : Strides (Commanded s) c
          (l.foldl (fun d x => (d.setValve st x.2 false).1) c) :=
        strides_foldl (fun d _ x _ => d.strides_setValve st x.2 false) hs
      have stops := strides_stopZones (valves.site.trans hs) hst hzones
      rw [hn] at stops
      exact (valves.trans stops).trans (strides_pushZones _ _)
    · have ask : Strides (Commanded s) c (c.request id (offRequest st l)).1 :=
        c.strides_request ..
      have stops := strides_stopZones (ask.site.trans hs) hst hzones
      rw [Bool.eq_false_iff.mpr hn] at stops
      exact (ask.trans stops).trans (strides_pushZones _ _)
    · exact c.strides_request ..

omit hs in
theorem strides_prune (c : Controller σ) (s : Site) :
    Strides (Commanded s) c {c with zones:=c.pruned} := by
  have prune (l : List UInt8) (d : Controller σ) : Strides (Commanded s) d {d with
      zones:=l.foldl (fun b i => if (c.site.zone? i).isSome then b else b.forceOff i) d.zones} := by
    induction l generalizing d with
    | nil => exact .refl
    | cons i l ih =>
      rw [List.foldl_cons]
      split_ifs
      · exact ih d
      · exact (d.strides_edited (.off i)).trans (ih _)
  exact prune _ c

theorem strides_turnOffAll : Strides (Commanded s) c c.turnOffAll := by
  obtain ⟨ids,_,_,h⟩ := c.turnOffAll_eq
  rw [h]
  refine (c.strides_prune s).trans (strides_foldl (s:=s) (fun d hd id _ => ?_) hs)
  refine strides_turnOffStation hd fun x hx => ?_
  obtain ⟨_,z,hz,hid,_⟩ := c.zone_of_activeOf hx
  rw [←hs]
  exact ⟨z,hz,hid⟩

theorem strides_stopAll : Strides (Commanded s) c c.stopAll := by
  have tell (d : Controller σ) (id : UInt8) : Strides (Commanded s) d (d.tellStation id) := by
    unfold tellStation
    split
    · split_ifs
      · exact .refl
      · exact d.strides_allChannelsOff id
    · exact .refl
  have valves : Strides (Commanded s) c {c with valves:=c.valves.allOff} :=
    strides_aside rfl rfl rfl rfl
  have tellAll : Strides (Commanded s) {c with valves:=c.valves.allOff}
      (stopStations {c with valves:=c.valves.allOff}) := by
    rw [stopStations_eq]
    exact strides_foldl (fun d _ id _ => tell d id) hs
  refine ((valves.trans tellAll).tail (.edited .allOff)).trans ?_
  refine Relation.ReflTransGen.trans ?_ (strides_pushZones _ _)
  exact strides_foldl (s:=s) (fun d _ z _ => d.strides_record _)
    ((Strides.site (valves.trans tellAll)).trans hs)

end Commands

end Controller

end Watering
