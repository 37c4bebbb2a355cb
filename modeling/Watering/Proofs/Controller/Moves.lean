import Watering.Proofs.Controller.Setting

namespace Watering.Controller

open Plant (Move Moves)

variable {σ : Type} {c : Controller σ}

theorem moves_of_still {d : Controller σ} (h : d.still=c.still) :
    Moves c.site c.plant [] d.plant := by
  rw [plant_of_still h]
  exact Moves.refl

theorem failSafeOff_moves {i : UInt8} {z : Zone} (hz : c.site.MayRun i z)
    (hs : c.site.enabledStation? z.station=none) :
    Moves c.site c.plant [] (c.failSafeOff i).plant := by
  rw [c.plant_failSafeOff hz.1]
  split_ifs with h
  · exact (Move.released (p:=c.plant) hz hs h).moves
  · exact (Move.failed (p:=c.plant) hz hs).moves

variable [Carrier σ]

/-- What remains of a stop once the output was driven or the station was asked. -/
def stopped (c : Controller σ) (i : UInt8) (confirmed : Bool) (station : UInt8)
    (origin : Origin) : Controller σ :=
  let c := record {c with zones:=c.zones.stop i confirmed} (.zoneStopped i .commanded)
  if origin=.here then c.pushZones station else c

theorem setting_stopped (c : Controller σ) (i : UInt8) (confirmed : Bool) (station : UInt8)
    (origin : Origin) : (c.stopped i confirmed station origin).setting=c.setting := by
  unfold stopped
  dsimp only
  split_ifs
  · exact (setting_of_still (still_pushZones ..)).trans rfl
  · rfl

theorem plant_stopped (c : Controller σ) (i : UInt8) (confirmed : Bool) (station : UInt8)
    (origin : Origin) : (c.stopped i confirmed station origin).plant=
      ⟨c.plant.valves,c.plant.zones.stop i confirmed⟩ := by
  unfold stopped
  dsimp only
  split_ifs
  · exact (plant_of_still (still_pushZones ..)).trans rfl
  · rfl

/-- Asking for the output of a zone to be closed: driven if it is here, else by its station. -/
def close (c : Controller σ) (z : Zone) (st : Station) : Controller σ×Bool :=
  if st.network.isLocal then c.setValve st z.channel false else c.channelOff z.station z.channel

theorem close_setting (c : Controller σ) (z : Zone) (st : Station) :
    (c.close z st).1.setting=c.setting := by
  unfold close
  split_ifs
  · exact setting_setValve ..
  · exact setting_of_still (still_request ..)

theorem zones_close (c : Controller σ) (z : Zone) (st : Station) : (c.close z st).1.zones=c.zones := by
  unfold close
  split_ifs
  · exact (c.setValve_frame ..).2.2.2
  · exact zones_of_still (still_request ..)

/-- A station elsewhere is only asked. -/
theorem plant_close_away {st : Station} (hn : st.network.isLocal=false) (z : Zone) :
    (c.close z st).1.plant=c.plant := by
  rw [close,hn]
  exact plant_of_still (still_request ..)

theorem close_refused {z : Zone} {st : Station} (h : (c.close z st).2=false) :
    (c.close z st).1.plant=c.plant := by
  unfold close at h ⊢
  split_ifs at h ⊢
  · exact plant_setValve_of_refused c h
  · exact plant_of_still (still_request ..)

theorem stopZoneFrom_eq {i : UInt8} {z : Zone} {st : Station} (origin : Origin)
    (hz : c.site.zone? i=some z) (hon : c.zones.state i≠.off)
    (hs : c.site.enabledStation? z.station=some st) :
    c.stopZoneFrom i origin=
      if (c.close z st).2=true then
        ((c.close z st).1.stopped i st.network.isLocal z.station origin,true)
      else ((c.close z st).1,false) := by
  have h : c.stopZoneFrom i origin=
      if !(c.close z st).2 then ((c.close z st).1,false)
      else ((c.close z st).1.stopped i st.network.isLocal z.station origin,true) := by
    simp only [stopZoneFrom,hz,hon,hs,if_false]
    rfl
  rw [h]
  cases (c.close z st).2 <;> rfl

/-- A stop that is not a stop: no such zone, a zone that is off, or a station out of service. -/
theorem stopZoneFrom_else {i : UInt8} (origin : Origin) :
    (c.site.zone? i=none → c.stopZoneFrom i origin=(c,false)) ∧
    (∀ z,c.site.zone? i=some z → c.zones.state i=.off → c.stopZoneFrom i origin=(c,true)) ∧
    (∀ z,c.site.zone? i=some z → c.zones.state i≠.off → c.site.enabledStation? z.station=none →
      c.stopZoneFrom i origin=(c.failSafeOff i,false)) := by
  refine ⟨?_,?_,?_⟩
  · intro hz
    simp only [stopZoneFrom,hz]
  · intro z hz hoff
    simp only [stopZoneFrom,hz,hoff,if_true]
  · intro z hz hon hs
    simp only [stopZoneFrom,hz,hon,hs,if_false]

/-- All that a stop can do. -/
theorem stopZoneFrom_cases {i : UInt8} {origin : Origin} {P : Controller σ×Bool → Prop}
    (unknown : c.site.zone? i=none → P (c,false)) (off : c.zones.state i=.off → P (c,true))
    (out : ∀ z,c.site.zone? i=some z → c.zones.state i≠.off →
      c.site.enabledStation? z.station=none → P (c.failSafeOff i,false))
    (refused : ∀ z st,c.site.zone? i=some z → c.zones.state i≠.off →
      c.site.enabledStation? z.station=some st → (c.close z st).2=false → P ((c.close z st).1,false))
    (done : ∀ z st,c.site.zone? i=some z → c.zones.state i≠.off →
      c.site.enabledStation? z.station=some st → (c.close z st).2=true →
      P ((c.close z st).1.stopped i st.network.isLocal z.station origin,true)) :
    P (c.stopZoneFrom i origin) := by
  obtain ⟨hnone,hoff,hout⟩ := stopZoneFrom_else (c:=c) (i:=i) origin
  cases hz : c.site.zone? i with
  | none =>
    rw [hnone hz]
    exact unknown hz
  | some z =>
    by_cases h : c.zones.state i=.off
    · rw [hoff z hz h]
      exact off h
    cases hs : c.site.enabledStation? z.station with
    | none =>
      rw [hout z hz h hs]
      exact out z hz h hs
    | some st =>
      rw [stopZoneFrom_eq origin hz h hs]
      cases hok : (c.close z st).2 with
      | false => exact refused z st hz h hs hok
      | true => exact done z st hz h hs hok

theorem setting_stopZoneFrom (c : Controller σ) (i : UInt8) (origin : Origin) :
    (c.stopZoneFrom i origin).1.setting=c.setting := by
  refine stopZoneFrom_cases (P:=fun r => r.1.setting=c.setting) ?unknown ?off ?out ?refused ?done
  case unknown => exact fun _ => rfl
  case off => exact fun _ => rfl
  case out => exact fun _ _ _ _ => setting_failSafeOff ..
  case refused => exact fun _ _ _ _ _ _ => close_setting ..
  case done => exact fun _ _ _ _ _ _ => (setting_stopped ..).trans (close_setting ..)

/-- A stop is one move or none. As the end of a start of no length, it accepts that start. -/
theorem stopZoneFrom_moves {i : UInt8} (origin : Origin) (l : Option Start)
    (hl : ∀ s∈l,s.zone=i ∧ s.minutes=0) (idle : c.plant.Idle c.site) :
    Moves c.site c.plant (if (c.stopZoneFrom i origin).2=true then l.toList else [])
      (c.stopZoneFrom i origin).1.plant := by
  have may {z : Zone} (hz : c.site.zone? i=some z) (on : c.zones.state i≠.off) :
      c.site.MayRun i z := by
    obtain ⟨y,hy⟩ := idle i on
    exact ⟨hz,by rw [Option.some.inj (hz.symm.trans hy.1)]; exact hy.2⟩
  refine stopZoneFrom_cases (P:=fun r =>
    Moves c.site c.plant (if r.2=true then l.toList else []) r.1.plant) ?unknown ?off ?out ?refused ?done
  case unknown => exact fun _ => Moves.refl
  case off =>
    intro h
    rw [if_pos rfl]
    cases l with
    | none => exact Moves.refl
    | some s =>
      obtain ⟨rfl,h0⟩ := hl s rfl
      exact (Move.skipped (p:=c.plant) h0 h).moves
  case out => exact fun z hz h hs => failSafeOff_moves (may hz h) hs
  case refused =>
    intro z st _ _ _ hok
    rw [if_neg Bool.false_ne_true,close_refused hok]
    exact Moves.refl
  case done =>
    intro z st hz h hs _
    rw [if_pos rfl,plant_stopped]
    cases hn : st.network.isLocal with
    | true =>
      have ho := Site.outputOf?_local (Site.station?_of_enabledStation? hs).1 hn
      rw [close,if_pos hn,plant_setValve_false,←ho]
      exact (Move.closed (p:=c.plant) (may hz h) hs hn hl).moves
    | false =>
      rw [plant_close_away hn]
      exact (Move.toldOff (may hz h) hs hn hl).moves

/-- What remains of a start once the output was driven or the station was asked. -/
def started (c : Controller σ) (run : ZoneRun) (confirmed : Bool) (now : Instant)
    (station : UInt8) (origin : Origin) : Controller σ :=
  let c := record {c with zones:=c.zones.start run confirmed now} (.zoneStarted run)
  if origin=.here then c.pushZones station else c

theorem setting_started (c : Controller σ) (run : ZoneRun) (confirmed : Bool) (now : Instant)
    (station : UInt8) (origin : Origin) :
    (c.started run confirmed now station origin).setting=c.setting := by
  unfold started
  dsimp only
  split_ifs
  · exact (setting_of_still (still_pushZones ..)).trans rfl
  · rfl

theorem plant_started (c : Controller σ) (run : ZoneRun) (confirmed : Bool) (now : Instant)
    (station : UInt8) (origin : Origin) : (c.started run confirmed now station origin).plant=
      ⟨c.plant.valves,c.plant.zones.start run confirmed now⟩ := by
  unfold started
  dsimp only
  split_ifs
  · exact (plant_of_still (still_pushZones ..)).trans rfl
  · rfl

/-- Asking for the output of a zone to be opened: driven if it is here, else by its station. -/
def openFor (c : Controller σ) (z : Zone) (st : Station) (run : ZoneRun) : Controller σ×Bool :=
  if st.network.isLocal then c.setValve st z.channel true
  else c.channelOn z.station z.channel run.minutes (run.schedule.getD 0)

theorem openFor_setting (c : Controller σ) (z : Zone) (st : Station) (run : ZoneRun) :
    (c.openFor z st run).1.setting=c.setting := by
  unfold openFor
  split_ifs
  · exact setting_setValve ..
  · exact setting_of_still (still_request ..)

theorem zones_openFor (c : Controller σ) (z : Zone) (st : Station) (run : ZoneRun) :
    (c.openFor z st run).1.zones=c.zones := by
  unfold openFor
  split_ifs
  · exact (c.setValve_frame ..).2.2.2
  · exact zones_of_still (still_request ..)

theorem plant_openFor_away {st : Station} (hn : st.network.isLocal=false) (z : Zone) (run : ZoneRun) :
    (c.openFor z st run).1.plant=c.plant := by
  rw [openFor,hn]
  exact plant_of_still (still_request ..)

theorem openFor_refused {z : Zone} {st : Station} {run : ZoneRun}
    (h : (c.openFor z st run).2=false) : (c.openFor z st run).1.plant=c.plant := by
  unfold openFor at h ⊢
  split_ifs at h ⊢
  · exact plant_setValve_of_refused c h
  · exact plant_of_still (still_request ..)

/-- The run that is started for the one asked for. -/
def capped (c : Controller σ) (run : ZoneRun) : ZoneRun :=
  {run with minutes:=min run.minutes c.maxRun}

theorem startZoneFrom_eq {run : ZoneRun} {z : Zone} {st : Station} (origin : Origin)
    (hz : c.site.MayRun run.zone z) (hs : c.site.enabledStation? z.station=some st) :
    c.startZoneFrom run origin=
      if (c.capped run).minutes=0 then c.stopZoneFrom run.zone origin
      else if (c.openFor z st (c.capped run)).2=true then
        ((c.openFor z st (c.capped run)).1.started (c.capped run) st.network.isLocal c.now
          z.station origin,true)
      else ((c.openFor z st (c.capped run)).1,false) := by
  have h : c.startZoneFrom run origin=
      if (c.capped run).minutes=0 then c.stopZoneFrom run.zone origin
      else if !(c.openFor z st (c.capped run)).2 then ((c.openFor z st (c.capped run)).1,false)
      else ((c.openFor z st (c.capped run)).1.started (c.capped run) st.network.isLocal c.now
        z.station origin,true) := by
    simp only [startZoneFrom,hz.1,hz.2,hs]
    rfl
  rw [h]
  cases (c.openFor z st (c.capped run)).2 <;> rfl

/-- A start that is refused outright: no zone that may run, or a station out of service. -/
theorem startZoneFrom_else (c : Controller σ) (run : ZoneRun) (origin : Origin) :
    ((∀ z,¬c.site.MayRun run.zone z) → c.startZoneFrom run origin=(c,false)) ∧
    (∀ z,c.site.MayRun run.zone z → c.site.enabledStation? z.station=none →
      c.startZoneFrom run origin=(c.failSafeOff run.zone,false)) := by
  refine ⟨?_,?_⟩
  · intro h
    unfold startZoneFrom
    cases hz : c.site.zone? run.zone with
    | none => rfl
    | some z =>
      have he : z.enabled=false := by
        cases he : z.enabled with
        | false => rfl
        | true => exact absurd ⟨hz,he⟩ (h z)
      simp only [he]
      rfl
  · intro z hz hs
    simp only [startZoneFrom,hz.1,hz.2,hs]
    rfl

/-- All that a start can do. -/
theorem startZoneFrom_cases {run : ZoneRun} {origin : Origin} {P : Controller σ×Bool → Prop}
    (unfit : (∀ z,¬c.site.MayRun run.zone z) → P (c,false))
    (out : ∀ z,c.site.MayRun run.zone z → c.site.enabledStation? z.station=none →
      P (c.failSafeOff run.zone,false))
    (stop : ∀ z st,c.site.MayRun run.zone z → c.site.enabledStation? z.station=some st →
      (c.capped run).minutes=0 → P (c.stopZoneFrom run.zone origin))
    (refused : ∀ z st,c.site.MayRun run.zone z → c.site.enabledStation? z.station=some st →
      (c.capped run).minutes≠0 → (c.openFor z st (c.capped run)).2=false →
      P ((c.openFor z st (c.capped run)).1,false))
    (done : ∀ z st,c.site.MayRun run.zone z → c.site.enabledStation? z.station=some st →
      (c.capped run).minutes≠0 → (c.openFor z st (c.capped run)).2=true →
      P ((c.openFor z st (c.capped run)).1.started (c.capped run) st.network.isLocal c.now z.station
        origin,true)) : P (c.startZoneFrom run origin) := by
  obtain ⟨hnone,hout⟩ := c.startZoneFrom_else run origin
  by_cases may : ∃ z,c.site.MayRun run.zone z
  · obtain ⟨z,hz⟩ := may
    cases hs : c.site.enabledStation? z.station with
    | none =>
      rw [hout z hz hs]
      exact out z hz hs
    | some st =>
      rw [startZoneFrom_eq origin hz hs]
      by_cases h0 : (c.capped run).minutes=0
      · rw [if_pos h0]
        exact stop z st hz hs h0
      rw [if_neg h0]
      cases hok : (c.openFor z st (c.capped run)).2 with
      | false => exact refused z st hz hs h0 hok
      | true => exact done z st hz hs h0 hok
  · have none (z : Zone) (hz : c.site.MayRun run.zone z) : False := may ⟨z,hz⟩
    rw [hnone none]
    exact unfit none

theorem setting_startZoneFrom (c : Controller σ) (run : ZoneRun) (origin : Origin) :
    (c.startZoneFrom run origin).1.setting=c.setting := by
  refine startZoneFrom_cases (P:=fun r => r.1.setting=c.setting) ?unfit ?out ?stop ?refused ?done
  case unfit => exact fun _ => rfl
  case out => exact fun _ _ _ => setting_failSafeOff ..
  case stop => exact fun _ _ _ _ _ => setting_stopZoneFrom ..
  case refused => exact fun _ _ _ _ _ _ => openFor_setting ..
  case done => exact fun _ _ _ _ _ _ => (setting_started ..).trans (openFor_setting ..)

/-- The start that a command makes, if it is accepted. -/
def startOf (c : Controller σ) (run : ZoneRun) (origin : Origin) : List Start :=
  if (c.startZoneFrom run origin).2 then [⟨run.zone,run.minutes,c.maxRun⟩] else []

theorem startZoneFrom_moves (run : ZoneRun) (origin : Origin) (idle : c.plant.Idle c.site) :
    Moves c.site c.plant (c.startOf run origin) (c.startZoneFrom run origin).1.plant := by
  refine startZoneFrom_cases (P:=fun r => Moves c.site c.plant
    (if r.2 then [⟨run.zone,run.minutes,c.maxRun⟩] else []) r.1.plant) ?unfit ?out ?stop ?refused ?done
  case unfit => exact fun _ => Moves.refl
  case out => exact fun z hz hs => failSafeOff_moves hz hs
  case stop =>
    intro z st _ _ h0
    refine stopZoneFrom_moves origin (some ⟨run.zone,run.minutes,c.maxRun⟩) ?_ idle
    rintro s ⟨⟩
    exact ⟨rfl,h0⟩
  case refused =>
    intro z st _ _ _ hok
    rw [if_neg Bool.false_ne_true,openFor_refused hok]
    exact Moves.refl
  case done =>
    intro z st hz hs h0 hok
    rw [if_pos rfl,plant_started]
    cases hn : st.network.isLocal with
    | true =>
      rw [openFor,if_pos hn] at hok ⊢
      obtain ⟨o,ho,hw⟩ := (c.setValve_snd ..).mp hok
      rw [plant_setValve_true c ho]
      exact Move.moves (o:=some ⟨run.zone,run.minutes,c.maxRun⟩)
        (.opened c.now hz hs hn ho hw rfl rfl h0)
    | false =>
      rw [plant_openFor_away hn]
      exact Move.moves (o:=some ⟨run.zone,run.minutes,c.maxRun⟩)
        (.asked c.now hz hs hn rfl rfl h0)

end Watering.Controller
