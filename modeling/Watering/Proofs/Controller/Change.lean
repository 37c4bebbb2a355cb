import Watering.Proofs.Controller.Batch

namespace Watering

/-- The output of the zone at an index, if its station is wired here. -/
def Site.feed? (s : Site) (i : UInt8) : Option UInt16 := (s.zone? i).bind s.outputOf?

theorem Site.feed?_eq {s : Site} {i : UInt8} {z : Zone} (hz : s.zone? i=some z) :
    s.feed? i=s.outputOf? z := by
  rw [feed?,hz,Option.bind_some]

theorem Site.feed?_of_enabledStation? {s : Site} {i : UInt8} {z : Zone} {st : Station}
    (hz : s.zone? i=some z) (hs : s.enabledStation? z.station=some st) :
    s.feed? i=if st.network.isLocal=true then st.output? z.channel else none := by
  rw [feed?_eq hz,outputOf?,(station?_of_enabledStation? hs).1]

namespace Plant

/-- The output of a zone is closed, if it has one here, and its record edited; or nothing is done. -/
inductive Shuts (site : Site) (i : UInt8) (p : Plant) : Plant → Prop
  | spared : Shuts site i p p
  | shut (f : ZoneStatus → ZoneStatus) :
    Shuts site i p ⟨p.valves.release (site.feed? i),p.zones.modify i f⟩

/-- The output of a zone is opened, and its run recorded if the board has the zone. -/
inductive Opens (site : Site) (run : ZoneRun) (p : Plant) : Plant → Prop
  | opened {o : UInt16} (now : Instant) : site.feed? run.zone=some o → p.valves.isWired o=true →
    Opens site run p ⟨(p.valves.set o true).1,p.zones.start run true now⟩

/-- Nothing happened to other zones and other outputs. -/
structure Spares (site : Site) (i : UInt8) (p q : Plant) : Prop where
  size : q.zones.size=p.zones.size
  zones {j : UInt8} : j≠i → q.zones.status? j=p.zones.status? j
  outputs {o : UInt16} : site.feed? i≠some o → q.valves.isOn o=p.valves.isOn o

variable {site : Site} {i : UInt8} {run : ZoneRun} {p q : Plant}

theorem Shuts.spares (h : Shuts site i p q) : Spares site i p q := by
  cases h with
  | spared => exact ⟨rfl,fun _ => rfl,fun _ => rfl⟩
  | shut f =>
    refine ⟨ZoneBoard.size_modify ..,fun hj => ZoneBoard.status?_modify_ne _ _ hj,fun {o} ho => ?_⟩
    have : (some o==site.feed? i)=false := beq_eq_false_iff_ne.mpr fun e => ho e.symm
    simp [ValveBoard.isOn_release,this]

theorem Opens.spares (h : Opens site run p q) : Spares site run.zone p q := by
  cases h with
  | opened now ho hw =>
    refine ⟨ZoneBoard.size_start ..,fun hj => ZoneBoard.status?_modify_ne _ _ hj,fun {k} hk => ?_⟩
    rw [ValveBoard.isOn_set,if_neg]
    rintro ⟨rfl,_⟩
    exact hk ho

/-- Closing what has no output here is no more than an edit of the board. -/
theorem Shuts.of_feed_none (h : site.feed? i=none) (f : ZoneStatus → ZoneStatus) :
    Shuts site i p ⟨p.valves,p.zones.modify i f⟩ := by
  have s : Shuts site i p _ := .shut f
  rwa [h] at s

end Plant

namespace Controller

open Plant (Shuts Opens)

variable {σ : Type} {c : Controller σ}

theorem failSafeOff_shuts {i : UInt8} {z : Zone} (hz : c.site.zone? i=some z) :
    Shuts c.site i c.plant (c.failSafeOff i).plant := by
  have kept : c.zones.modify i id=c.zones := congrArg ZoneBoard.mk (List.modify_id ..)
  rw [c.plant_failSafeOff hz,←Site.feed?_eq hz]
  split_ifs
  · have s : Shuts c.site i c.plant _ := .shut id
    rwa [show c.plant.zones.modify i id=c.zones from kept] at s
  · exact .shut fun _ => {}

variable [Carrier σ]

theorem stopZoneFrom_shuts (i : UInt8) (origin : Origin) :
    Shuts c.site i c.plant (c.stopZoneFrom i origin).1.plant := by
  refine stopZoneFrom_cases (P:=fun r => Shuts c.site i c.plant r.1.plant)
    ?unknown ?off ?out ?refused ?done
  case unknown => exact fun _ => .spared
  case off => exact fun _ => .spared
  case out => exact fun z hz _ _ => failSafeOff_shuts hz
  case refused =>
    intro z st _ _ _ hok
    rw [close_refused hok]
    exact .spared
  case done =>
    intro z st hz _ hs _
    have feed := Site.feed?_of_enabledStation? hz hs
    rw [plant_stopped]
    cases hn : st.network.isLocal with
    | true =>
      rw [if_pos hn] at feed
      rw [close,if_pos hn,plant_setValve_false,←feed]
      exact .shut (p:=c.plant) (·.stop true)
    | false =>
      rw [if_neg (by simp [hn])] at feed
      rw [plant_close_away hn]
      exact .of_feed_none feed (·.stop false)

/-- A start that opens an output was accepted, and has some length. -/
theorem startZoneFrom_opens (run : ZoneRun) (origin : Origin) :
    Shuts c.site run.zone c.plant (c.startZoneFrom run origin).1.plant ∨
    (c.startZoneFrom run origin).2=true ∧ (c.capped run).minutes≠0 ∧
      Opens c.site (c.capped run) c.plant (c.startZoneFrom run origin).1.plant := by
  refine startZoneFrom_cases (P:=fun r => Shuts c.site run.zone c.plant r.1.plant ∨
    r.2=true ∧ (c.capped run).minutes≠0 ∧ Opens c.site (c.capped run) c.plant r.1.plant)
    ?unfit ?out ?stop ?refused ?done
  case unfit => exact fun _ => Or.inl .spared
  case out => exact fun z hz _ => Or.inl (failSafeOff_shuts hz.1)
  case stop => exact fun _ _ _ _ _ => Or.inl (stopZoneFrom_shuts ..)
  case refused =>
    intro z st _ _ _ hok
    rw [openFor_refused hok]
    exact Or.inl .spared
  case done =>
    intro z st hz hs h0 hok
    have feed := Site.feed?_of_enabledStation? hz.1 hs
    rw [plant_started]
    cases hn : st.network.isLocal with
    | true =>
      rw [if_pos hn] at feed
      rw [openFor,if_pos hn] at hok ⊢
      obtain ⟨o,ho,hw⟩ := (c.setValve_snd ..).mp hok
      rw [plant_setValve_true c ho]
      exact Or.inr ⟨rfl,h0,.opened c.now (feed.trans ho) hw⟩
    | false =>
      rw [if_neg (by simp [hn])] at feed
      rw [plant_openFor_away hn]
      exact Or.inl (.of_feed_none feed fun _ => .start (c.capped run) false c.now)

/-- An accepted start of some length starts the run on the board. -/
theorem startZoneFrom_accepted {run : ZoneRun} {origin : Origin}
    (accepted : (c.startZoneFrom run origin).2=true) (length : (c.capped run).minutes≠0) :
    ∃ confirmed,(c.startZoneFrom run origin).1.zones=
      c.zones.start (c.capped run) confirmed c.now := by
  obtain ⟨hnone,hdis⟩ := c.startZoneFrom_else run origin
  by_cases may : ∃ z,c.site.MayRun run.zone z
  · obtain ⟨z,hz⟩ := may
    cases hs : c.site.enabledStation? z.station with
    | none =>
      rw [hdis z hz hs] at accepted
      cases accepted
    | some st =>
      have asked := c.zones_openFor z st (c.capped run)
      rw [startZoneFrom_eq origin hz hs,if_neg length] at accepted ⊢
      split_ifs at accepted ⊢
      have board := congrArg Plant.zones (plant_started (c.openFor z st (c.capped run)).1
        (c.capped run) st.network.isLocal c.now z.station origin)
      exact ⟨_,board.trans (congrArg (ZoneBoard.start · _ _ _) asked)⟩
  · rw [hnone fun z hz => may ⟨z,hz⟩] at accepted
    cases accepted

theorem stopZoneFrom_spares (i : UInt8) (origin : Origin) :
    Plant.Spares c.site i c.plant (c.stopZoneFrom i origin).1.plant := (stopZoneFrom_shuts ..).spares

theorem startZoneFrom_spares (run : ZoneRun) (origin : Origin) :
    Plant.Spares c.site run.zone c.plant (c.startZoneFrom run origin).1.plant := by
  obtain shuts | ⟨_,_,opens⟩ := c.startZoneFrom_opens run origin
  · exact shuts.spares
  · exact opens.spares

end Controller

end Watering
