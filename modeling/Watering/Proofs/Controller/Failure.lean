import Watering.Proofs.Config.Contents
import Watering.Proofs.Config.Outputs
import Watering.Proofs.Controller.Asking
import Watering.Proofs.Controller.Books
import Watering.Proofs.Controller.Change
import Watering.Proofs.Controller.Course
import Watering.Proofs.Controller.Switching
import Watering.Radio.Scripted

namespace Watering

/-- A unit's counter stands still when the carrier refuses. -/
theorem Link.outbound_of_refused {σ : Type} [Carrier σ] {l : Link σ} {target : Destination}
    {frame : List UInt8} (h : (l.send target frame).2=false) :
    (l.send target frame).1.outbound=l.outbound := by
  cases target with
  | everyone => rfl
  | unit id =>
    simp only [Link.send] at h ⊢
    cases hr : l.resolve id with
    | broadcast => rfl
    | short | long =>
      simp only [hr] at h ⊢
      rw [if_neg (by simpa using h)]
      rfl

namespace Controller

variable {σ : Type} {c : Controller σ} {i : UInt8} {z : Zone} {st : Station} {run : ZoneRun}

/-- Board, outputs, the requests that wait for an answer, the links' counters and the journal are as
they were. -/
structure Unaltered (c d : Controller σ) : Prop where
  board : d.zones=c.zones
  outputs : d.valves=c.valves
  inFlight : d.inFlight=c.inFlight
  counters : d.link.outbound=c.link.outbound
  journal : d.journal=c.journal

/-- A zone whose station is unknown or disabled is off, with a note of it unless it was off
before. -/
structure Retired (i : UInt8) (c d : Controller σ) : Prop where
  station : ∃ z,c.site.zone? i=some z ∧ c.site.enabledStation? z.station=none
  off : d.zones.state i=.off
  told : d.journal=if c.zones.state i=.off then c.journal
    else (c.record (.zoneStopped i .stationDisabled)).journal
  others {j : UInt8} : j≠i → d.zones.status? j=c.zones.status? j
  link : d.link=c.link
  inFlight : d.inFlight=c.inFlight

theorem unaltered_refl (c : Controller σ) : Unaltered c c := ⟨rfl,rfl,rfl,rfl,rfl⟩

theorem setValve_of_refused {ch : UInt8} {on : Bool} (h : (c.setValve st ch on).2=false) :
    (c.setValve st ch on).1=c := by
  unfold setValve at h ⊢
  cases ho : st.output? ch with
  | none => rfl
  | some o =>
    simp only [ho,ValveBoard.set_snd] at h ⊢
    simp [ValveBoard.set,h]

theorem journal_releaseValve (c : Controller σ) (z : Zone) :
    (c.releaseValve z).journal=c.journal ∧ (c.releaseValve z).now=c.now := by
  unfold releaseValve setValve
  split
  · split_ifs
    · split <;> exact ⟨rfl,rfl⟩
    · exact ⟨rfl,rfl⟩
  · exact ⟨rfl,rfl⟩

theorem retired_failSafeOff (hz : c.site.zone? i=some z)
    (hs : c.site.enabledStation? z.station=none) : Retired i c (c.failSafeOff i) := by
  have board : (c.failSafeOff i).zones=_ := congrArg Plant.zones (c.plant_failSafeOff hz)
  obtain ⟨link,inFlight⟩ := c.failSafeOff_silent i
  refine ⟨⟨z,hz,hs⟩,?_,?_,fun {j} hj => ?_,link,inFlight⟩
  · rw [board]
    dsimp only
    split_ifs with off
    · exact off
    · exact ZoneBoard.state_forceOff_self ..
  · obtain ⟨kept,now⟩ := c.journal_releaseValve z
    have same : (c.releaseValve z).zones=c.zones := congrArg Plant.zones (c.plant_releaseValve z)
    simp only [failSafeOff,hz]
    rw [same]
    split_ifs
    · exact kept
    · exact congrArg₂ (fun j n => Journal.push j ⟨⟨n,0⟩,.zoneStopped i .stationDisabled⟩) kept now
  · exact (failSafeOff_shuts hz).spares.zones hj

variable [Carrier σ]

theorem journal_sendFrame (c : Controller σ) (t : Destination) (f : Frame) :
    (c.sendFrame t f).1.journal=c.journal := by
  unfold sendFrame
  split <;> rfl

theorem journal_request (c : Controller σ) (id : UInt8) (m : Message) :
    (c.request id m).1.journal=c.journal := by
  simp only [request]
  split_ifs <;> exact journal_sendFrame ..

theorem outbound_of_refused {t : Destination} {f : Frame} (h : (c.sendFrame t f).2=false) :
    (c.sendFrame t f).1.link.outbound=c.link.outbound := by
  unfold sendFrame at h ⊢
  split
  · rfl
  · next e => exact Link.outbound_of_refused (by simpa [e] using h)

theorem unaltered_request {id : UInt8} {m : Message} (h : (c.request id m).2=false) :
    Unaltered c (c.request id m).1 := by
  obtain ⟨answer,link,inFlight⟩ := c.request_parts id m
  rw [answer] at h
  have still : (c.request id m).1.plant=c.plant := plant_of_still (still_request ..)
  refine ⟨congrArg Plant.zones still,congrArg Plant.valves still,?_,?_,journal_request ..⟩
  · rw [inFlight,if_neg fun k => Bool.false_ne_true (h.symm.trans k.1)]
  · rw [link]
    exact outbound_of_refused (c:=c.takeTransaction.1) h

theorem unaltered_close (h : (c.close z st).2=false) : Unaltered c (c.close z st).1 := by
  unfold close at h ⊢
  split_ifs at h ⊢
  · rw [setValve_of_refused h]
    exact unaltered_refl c
  · exact unaltered_request h

theorem unaltered_openFor (h : (c.openFor z st run).2=false) :
    Unaltered c (c.openFor z st run).1 := by
  unfold openFor at h ⊢
  split_ifs at h ⊢
  · rw [setValve_of_refused h]
    exact unaltered_refl c
  · exact unaltered_request h

theorem stopZoneFrom_of_refused {origin : Origin} (h : (c.stopZoneFrom i origin).2=false) :
    Retired i c (c.stopZoneFrom i origin).1 ∨ Unaltered c (c.stopZoneFrom i origin).1 := by
  revert h
  refine stopZoneFrom_cases (P:=fun r => r.2=false → Retired i c r.1 ∨ Unaltered c r.1)
    ?unknown ?off ?out ?refused ?done
  case unknown => exact fun _ _ => .inr (unaltered_refl c)
  case off => exact fun _ h => nomatch h
  case out => exact fun z hz _ hs _ => .inl (retired_failSafeOff hz hs)
  case refused => exact fun z st _ _ _ hok _ => .inr (unaltered_close hok)
  case done => exact fun _ _ _ _ _ _ h => nomatch h

theorem startZoneFrom_of_refused {origin : Origin} (h : (c.startZoneFrom run origin).2=false) :
    Retired run.zone c (c.startZoneFrom run origin).1 ∨
      Unaltered c (c.startZoneFrom run origin).1 := by
  revert h
  refine startZoneFrom_cases (P:=fun r => r.2=false → Retired run.zone c r.1 ∨ Unaltered c r.1)
    ?unfit ?out ?stop ?refused ?done
  case unfit => exact fun _ _ => .inr (unaltered_refl c)
  case out => exact fun z hz hs _ => .inl (retired_failSafeOff hz.1 hs)
  case stop => exact fun _ _ _ _ _ h => stopZoneFrom_of_refused h
  case refused => exact fun z st _ _ _ hok _ => .inr (unaltered_openFor hok)
  case done => exact fun _ _ _ _ _ _ h => nomatch h

/-- A zone that was stopped is not on. -/
theorem isOn_stopZoneFrom {origin : Origin} (h : (c.stopZoneFrom i origin).2=true) :
    ((c.stopZoneFrom i origin).1.zones.state i).isOn=false := by
  revert h
  refine stopZoneFrom_cases (P:=fun r => r.2=true → (r.1.zones.state i).isOn=false)
    ?unknown ?off ?out ?refused ?done
  case unknown => exact fun _ h => nomatch h
  case off =>
    intro off _
    rw [off]
    rfl
  case out => exact fun _ _ _ _ h => nomatch h
  case refused => exact fun _ _ _ _ _ _ h => nomatch h
  case done =>
    intro z st _ _ _ _ _
    have board : ((c.close z st).1.stopped i st.network.isLocal z.station origin).zones=_ :=
      congrArg Plant.zones (plant_stopped ..)
    rw [board]
    exact ZoneBoard.status_stop ..

/-- What an accepted start leaves of its zone, on a board that has all zones. -/
theorem startZoneFrom_of_accepted {origin : Origin}
    (all : ∀ z,c.site.zone? run.zone=some z → run.zone.toNat<c.zones.size)
    (h : (c.startZoneFrom run origin).2=true) :
    let d := (c.startZoneFrom run origin).1
    (c.capped run).minutes≠0 ∧ (d.zones.state run.zone).isOn=true ∧
      (d.zones.status? run.zone).bind (·.run)=some (c.capped run) ∨
    (c.capped run).minutes=0 ∧ (d.zones.state run.zone).isOn=false := by
  revert h
  refine startZoneFrom_cases (P:=fun r => r.2=true →
    (c.capped run).minutes≠0 ∧ (r.1.zones.state run.zone).isOn=true ∧
      (r.1.zones.status? run.zone).bind (·.run)=some (c.capped run) ∨
    (c.capped run).minutes=0 ∧ (r.1.zones.state run.zone).isOn=false)
    ?unfit ?out ?stop ?refused ?done
  case unfit => exact fun _ h => nomatch h
  case out => exact fun _ _ _ h => nomatch h
  case stop => exact fun z st _ _ h0 h => .inr ⟨h0,isOn_stopZoneFrom h⟩
  case refused => exact fun _ _ _ _ _ _ h => nomatch h
  case done =>
    intro z st hz _ h0 _ _
    have board : ((c.openFor z st (c.capped run)).1.started (c.capped run) st.network.isLocal c.now
        z.station origin).zones=c.zones.start (c.capped run) st.network.isLocal c.now :=
      (congrArg Plant.zones (plant_started ..)).trans
        (congrArg (ZoneBoard.start · _ _ _) (zones_openFor ..))
    have here := all z hz.1
    rw [board]
    refine .inl ⟨h0,(ZoneBoard.isOn_start ..).mpr here,?_⟩
    obtain ⟨s,hs⟩ := Option.isSome_iff_exists.mp (ZoneBoard.status?_isSome.mpr here)
    have same : run.zone=(c.capped run).zone := rfl
    rw [ZoneBoard.start,ZoneBoard.status?_modify,if_pos same,hs]
    rfl

/-- In any state of a controller whose board has the zones of a valid site, whoever asks: a start or
a stop that fails leaves board, outputs, outstanding requests, counters and journal as they were,
unless the zone's station is unknown or disabled, and then it turns off that zone and no other, with
one note at most. A start that succeeds has its run, cut to the longest allowed, on the board, or was
of no length and leaves the zone not on. -/
theorem failed_command_changes_nothing {cfg : Config} (hv : cfg.Valid) {c : Controller σ}
    (site : c.site=cfg.site) (size : c.zones.size=c.site.zoneCount.toNat) (origin : Origin) :
    (∀ i,(c.stopZoneFrom i origin).2=false →
      Retired i c (c.stopZoneFrom i origin).1 ∨ Unaltered c (c.stopZoneFrom i origin).1) ∧
    ∀ run,
      ((c.startZoneFrom run origin).2=false →
        Retired run.zone c (c.startZoneFrom run origin).1 ∨
          Unaltered c (c.startZoneFrom run origin).1) ∧
      ((c.startZoneFrom run origin).2=true →
        let d := (c.startZoneFrom run origin).1
        let minutes := min run.minutes c.maxRun
        minutes≠0 ∧ (d.zones.state run.zone).isOn=true ∧
          (d.zones.status? run.zone).bind (·.run)=some {run with minutes} ∨
        minutes=0 ∧ (d.zones.state run.zone).isOn=false) := by
  refine ⟨fun i h => stopZoneFrom_of_refused h,fun run =>
    ⟨fun h => startZoneFrom_of_refused h,fun accepted => startZoneFrom_of_accepted (fun z hz => ?_)
      accepted⟩⟩
  have reached := (List.getElem?_eq_some_iff.mp hz).1
  rwa [size,site,hv.zoneCount_eq,←site]

/-- A gateway with one of its three outputs wired. -/
theorem failed_command_changes_nothing_estate :
    let c : Controller ScriptedRadio :=
      start .gateway {kind:=.short} Config.estate.site (.ofOutputs [0]) {} ⟨0,0⟩
    Config.estate.Valid ∧ c.zones.size=c.site.zoneCount.toNat ∧
    (c.startZone {zone:=2,minutes:=1}).2=false ∧ Unaltered c (c.startZone {zone:=2,minutes:=1}).1 ∧
    (c.startZone {zone:=0,minutes:=200}).2=true ∧
    ((c.startZone {zone:=0,minutes:=200}).1.zones.state 0).isOn=true := by
  intro c
  have size : c.zones.size=c.site.zoneCount.toNat := (fits_start ..).size
  have refused : (c.startZone {zone:=2,minutes:=1}).2=false := by decide +kernel
  have accepted : (c.startZone {zone:=0,minutes:=200}).2=true := by decide +kernel
  have served : (c.site.zone? 2).bind (fun z => c.site.enabledStation? z.station)≠none := by
    decide +kernel
  obtain ⟨_,starts⟩ := failed_command_changes_nothing Config.estate_valid (c:=c) rfl size .here
  refine ⟨Config.estate_valid,size,refused,?_,accepted,?_⟩
  · refine ((starts _).1 refused).resolve_left fun r => served ?_
    obtain ⟨z,hz,hs⟩ := r.station
    rw [show c.site.zone? 2=some z from hz]
    exact hs
  · obtain ⟨_,on,_⟩ | ⟨empty,_⟩ := (starts _).2 accepted
    · exact on
    · cases empty

end Controller

end Watering
