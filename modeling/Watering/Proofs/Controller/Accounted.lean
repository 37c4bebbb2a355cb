import Watering.Proofs.Controller.Course

namespace Watering

namespace Plant

/-- The outputs are those that were wired, the board has every zone of the site, what may not run is
off, and what is on belongs to a zone that runs. -/
structure Accounted (site : Site) (wired : UInt16 → Bool) (p : Plant) : Prop where
  wires (o : UInt16) : p.valves.isWired o=wired o
  size : p.zones.size=site.zones.length
  idle : p.Idle site
  lit {o : UInt16} : p.valves.isOn o=true → ∃ i,site.Wires i o ∧ p.zones.state i=.running

variable {site : Site} {wired : UInt16 → Bool} {p q : Plant} {l : List Start} {s : Option Start}

namespace Accounted

/-- A change of one zone keeps the account if it leaves the zone's own output on only for a run. -/
theorem update (h : p.Accounted site wired) {i : UInt8}
    (wires : ∀ o,q.valves.isWired o=p.valves.isWired o) (size : q.zones.size=p.zones.size)
    (zones : ∀ j,j≠i → q.zones.state j=p.zones.state j)
    (idle : q.zones.state i≠.off → ∃ z,site.MayRun i z)
    (others : ∀ k,q.valves.isOn k=true → ¬site.Wires i k → p.valves.isOn k=true)
    (own : ∀ k,q.valves.isOn k=true → site.Wires i k → q.zones.state i=.running) :
    q.Accounted site wired where
  wires o := (wires o).trans (h.wires o)
  size := size.trans h.size
  idle := h.idle.update zones idle
  lit {k} on := by
    by_cases w : site.Wires i k
    · exact ⟨i,w,own k on w⟩
    · obtain ⟨j,wj,running⟩ := h.lit (others k on w)
      refine ⟨j,wj,?_⟩
      rw [zones j]
      · exact running
      · rintro rfl
        exact w wj

/-- A zone is off whose output was released. -/
theorem release (laid : site.Laid) (h : p.Accounted site wired) {i : UInt8} {z : Zone}
    (hz : site.MayRun i z) {zones : ZoneBoard} (size : zones.size=p.zones.size)
    (same : ∀ j,j≠i → zones.state j=p.zones.state j) (off : zones.state i=.off) :
    Accounted site wired ⟨p.valves.release (site.outputOf? z),zones⟩ := by
  have before {k : UInt16} (on : (p.valves.release (site.outputOf? z)).isOn k=true) :
      p.valves.isOn k=true ∧ some k≠site.outputOf? z := by
    simpa [ValveBoard.isOn_release] using on
  refine h.update (fun _ => ValveBoard.isWired_release ..) size same (fun k => absurd off k)
    (fun k on _ => (before on).1) fun k on w => ?_
  exact absurd (w.outputOf? laid hz.1).symm (before on).2

/-- A zone without an output of its own changed. -/
theorem radio (h : p.Accounted site wired) {i : UInt8} (hw : ∀ o,¬site.Wires i o)
    {zones : ZoneBoard} (size : zones.size=p.zones.size) (same : ∀ j,j≠i → zones.state j=p.zones.state j)
    (idle : zones.state i≠.off → ∃ z,site.MayRun i z) : Accounted site wired ⟨p.valves,zones⟩ :=
  h.update (fun _ => rfl) size same idle (fun _ on _ => on) fun k _ w => absurd w (hw k)

end Accounted

theorem Move.accounted (laid : site.Laid) (h : p.Accounted site wired) (m : Move site p s q) :
    q.Accounted site wired := by
  cases m with
  | @opened s z st out run now hz hs hn ho hw hr hm h0 =>
    have w := Site.wires_of_outputOf? laid hz
      ((Site.outputOf?_local (Site.station?_of_enabledStation? hs).1 hn).trans ho)
    obtain ⟨y,hy⟩ := status?_of_zone? h.size hz.1
    rw [←hr] at w hy hz
    have running : (p.zones.start run true now).state run.zone=.running :=
      ZoneBoard.state_modify_self _ hy
    refine h.update (i:=run.zone) (fun _ => ValveBoard.isWired_set ..) (ZoneBoard.size_start ..)
      (fun j hj => ZoneBoard.state_modify_ne _ _ hj) (fun _ => ⟨z,hz⟩) ?_ fun _ _ _ => running
    intro k on hk
    rw [ValveBoard.isOn_set,if_neg] at on
    · exact on
    · rintro ⟨rfl,_⟩
      exact hk w
  | @asked s z st run now hz hs hn hr hm h0 =>
    rw [←hr] at hz
    exact h.radio (fun _ => Site.not_wires_of_radio laid hz.1 hs hn) (ZoneBoard.size_start ..)
      (fun j hj => ZoneBoard.state_modify_ne _ _ hj) fun _ => ⟨z,hz⟩
  | skipped => exact h
  | closed hz =>
    exact h.release laid hz (ZoneBoard.size_stop ..)
      (fun j hj => ZoneBoard.state_modify_ne _ _ hj) (ZoneBoard.state_stop_self ..)
  | @toldOff _ _ z _ hz hs hn =>
    exact h.radio (fun _ => Site.not_wires_of_radio laid hz.1 hs hn) (ZoneBoard.size_stop ..)
      (fun j hj => ZoneBoard.state_modify_ne _ _ hj) fun _ => ⟨z,hz⟩
  | failed hz =>
    exact h.release laid hz (ZoneBoard.size_forceOff ..)
      (fun j hj => ZoneBoard.state_modify_ne _ _ hj) (ZoneBoard.state_forceOff_self ..)
  | released hz _ off => exact h.release laid hz rfl (fun _ _ => rfl) off
  | @dropped i hz =>
    have unknown : ∀ o,¬site.Wires i o := fun o w => by
      obtain ⟨z,hz'⟩ := w.zone laid
      rw [hz] at hz'
      cases hz'
    exact h.radio unknown (ZoneBoard.size_forceOff ..)
      (fun j hj => ZoneBoard.state_modify_ne _ _ hj)
      fun k => absurd (ZoneBoard.state_forceOff_self ..) k
  | allOff =>
    refine ⟨fun o => (ValveBoard.isWired_allOff ..).trans (h.wires o),
      (ZoneBoard.size_allOff _).trans h.size,fun i hi => ?_,fun {o} on => ?_⟩
    · exact absurd (ZoneBoard.state_allOff ..) hi
    · rw [ValveBoard.isOn_allOff] at on
      cases on

theorem Moves.accounted (laid : site.Laid) (h : p.Accounted site wired) (m : Moves site p l q) :
    q.Accounted site wired := by
  induction m with
  | refl => exact h
  | tail _ m ih => exact m.accounted laid ih

/-- A run that ends in a second releases its output. -/
theorem Accounted.tick (laid : site.Laid) (h : p.Accounted site wired) :
    (p.tick site).Accounted site wired where
  wires o := (ValveBoard.isWired_foldl_release ..).trans (h.wires o)
  size := (ZoneBoard.size_tick _).trans h.size
  idle := h.idle.tick
  lit {o} on := by
    rw [isOn_tick,Bool.and_eq_true,Bool.not_eq_true'] at on
    obtain ⟨i,w,running⟩ := h.lit on.1
    obtain ⟨z,hz⟩ := w.zone laid
    obtain ⟨s,hs⟩ := status?_of_zone? h.size hz
    rw [ZoneBoard.state_of_status? hs] at running
    have goes : s.tick.2≠some .finished := fun ended => by
      have released := contains_ended_of_finished laid
        (by rw [h.size]; exact Nat.le_succ_of_le laid.length_le) w hs ended
      rw [on.2] at released
      cases released
    have next : (p.tick site).zones.status? i=some s.tick.1 := by
      rw [Plant.tick,ZoneBoard.status?_tick,hs,Option.map_some]
    refine ⟨i,w,?_⟩
    rw [ZoneBoard.state_of_status? next]
    exact (ZoneStatus.tick_settled (by rw [running]; rfl)).2.mpr ⟨running,goes⟩

end Plant

namespace Controller

variable {σ : Type} {site : Site} {wired : UInt16 → Bool} {c : Controller σ}

/-- A station that only serves, with what is on accounted for. -/
structure Tended (site : Site) (wired : UInt16 → Bool) (c : Controller σ) : Prop where
  place : c.place=(.responder,site)
  accounted : c.plant.Accounted site wired

theorem Tended.of_still {τ : Type} {d : Controller τ} (h : c.Tended site wired)
    (same : d.still=c.still) : d.Tended site wired where
  place := (congrArg (fun x => (x.1.role,x.1.site)) same).trans h.place
  accounted := by
    rw [show d.plant=c.plant from congrArg (·.2) same]
    exact h.accounted

theorem tended_start (laid : site.Laid) (carrier : σ) {valves : ValveBoard}
    (off : ∀ o,valves.isOn o=false) (sensors : SensorBank) (clock : Instant) :
    Tended site valves.isWired (start .responder carrier site valves sensors clock) where
  place := rfl
  accounted := by
    refine ⟨fun _ => rfl,size_start .responder carrier site valves sensors clock laid.length_le,?_,
      ?_⟩
    · intro i hi
      exact absurd (state_start .responder carrier site valves sensors clock i) hi
    · intro o on
      exact absurd (on.symm.trans (off o)) (by decide)

variable [Carrier σ]

theorem Tended.perform (laid : site.Laid) (h : c.Tended site wired) (op : Operation σ) :
    (c.perform op).Tended site wired := by
  obtain ⟨place,⟨_,second⟩ | ⟨_,moves⟩⟩ :=
    perform_cases laid h.place h.accounted.size h.accounted.idle op
  · exact ⟨place.trans h.place,by rw [second]; exact h.accounted.tick laid⟩
  · exact ⟨place.trans h.place,moves.accounted laid h.accounted⟩

theorem Tended.act (laid : site.Laid) (h : c.Tended site wired) (a : Action σ) :
    (c.act a).Tended site wired := by
  cases a with
  | operate op => exact h.perform laid op
  | ask id m => exact h.of_still (still_request ..)
  | scan => exact h.of_still ((still_sendFrame ..).trans rfl)
  | broadcastTime => exact h.of_still (still_sendFrame ..)

theorem Tended.actAll (laid : site.Laid) (h : c.Tended site wired) (actions : List (Action σ)) :
    (c.actAll actions).Tended site wired := by
  induction actions generalizing c with
  | nil => exact h
  | cons a actions ih => exact ih (h.act laid a)

end Controller

end Watering
