import Watering.Proofs.Controller.Books
import Watering.Proofs.Controller.Course
import Watering.Proofs.Zone.Timers

namespace Watering

/-- No zone is listed twice as active. -/
theorem ZoneBoard.nodup_active {b : ZoneBoard} (small : b.size≤256) : b.active.Nodup := by
  unfold active
  exact List.pairwise_map.mpr (((pairwise_zipIdx small).imp UInt8.ne_of_lt).filter _)

namespace Controller

variable {σ : Type} {c : Controller σ} {starts : List Start}

theorem books_stopZones {zones : List UInt8} (confirmed : Bool) (nodup : zones.Nodup)
    (on : ∀ i∈zones,c.zones.state i≠.off) :
    Books (fun i => ∃ j∈zones,i=j) starts (·.stopZones zones confirmed) c := by
  refine books_foldl (K:=fun j i => i=j) (I:=fun _ => True) ?_ (fun d _ i hi same => ?_) trivial
  · exact nodup.imp fun ne i h h' => ne (h.symm.trans h')
  · refine ⟨books_stop i confirmed ?_,trivial⟩
    rw [show d.zones.state i=c.zones.state i from congrArg (·.state) (same i rfl)]
    exact on i hi

/-- Zones of one station that are told apart and are not off. -/
structure Batch (l : List (UInt8×UInt8)) (b : ZoneBoard) : Prop where
  apart : l.Pairwise fun x y => x.1≠y.1
  on : ∀ x∈l,b.state x.1≠.off

/-- The zones of a batch. -/
def InBatch (l : List (UInt8×UInt8)) (i : UInt8) : Prop := ∃ x∈l,i=x.1

/-- The zones that a station has on are such a batch. -/
theorem batch_activeOf (small : c.zones.size≤256) {id : UInt8} :
    Batch (c.activeOf id) c.zones where
  apart := by
    unfold activeOf
    refine List.pairwise_map.mpr (List.Pairwise.filter _ (List.pairwise_filterMap.mpr ?_))
    refine (ZoneBoard.nodup_active small).imp fun ne x hx y hy e => ne ?_
    obtain ⟨_,_,rfl⟩ := Option.map_eq_some_iff.mp hx
    obtain ⟨_,_,rfl⟩ := Option.map_eq_some_iff.mp hy
    exact e
  on x hx := ZoneState.ne_off ((ZoneBoard.mem_active small).mp (c.zone_of_activeOf hx).1)

theorem Fits.matched {site : Site} (laid : site.Laid) (h : Fits site c) :
    c.Matched := by
  have small := laid.length_le
  refine ⟨?_,by rw [h.site_eq]; exact small⟩
  rw [h.size,h.site_eq,Site.zoneCount,lengthCapped,Nat.min_eq_left small,
    UInt8.toNat_ofNat_of_lt' (Nat.lt_succ_of_le small)]

/-- No zone is dropped from a board whose zones the site knows. -/
theorem Matched.pruned (h : c.Matched) : c.pruned=c.zones := by
  have known (i : UInt8) (hi : i∈c.zones.active) : ∃ z,c.site.zone? i=some z := by
    have on := (ZoneBoard.mem_active h.indexed).mp hi
    obtain ⟨y,hy,_⟩ := ZoneBoard.exists_status (ZoneState.ne_off on)
    exact h.zone_of_status hy
  have keep (l : List UInt8) (hl : ∀ i∈l,∃ z,c.site.zone? i=some z) (b : ZoneBoard) :
      l.foldl (fun b i => if (c.site.zone? i).isSome then b else b.forceOff i) b=b := by
    induction l with
    | nil => rfl
    | cons i l ih =>
      obtain ⟨z,hz⟩ := hl i List.mem_cons_self
      rw [List.foldl_cons,hz]
      exact ih fun j hj => hl j (List.mem_cons_of_mem _ hj)
  exact keep c.zones.active known c.zones

/-- The zones that are doing something. -/
def busy (c : Controller σ) : List UInt8 :=
  ((List.range (UInt8.ofNat c.zones.size).toNat).map UInt8.ofNat).filter fun z => c.zones.state z≠.off

theorem mem_busy (h : c.Matched) {i : UInt8} : i∈c.busy ↔ c.zones.state i≠.off := by
  have count : (UInt8.ofNat c.zones.size).toNat=c.zones.size :=
    UInt8.toNat_ofNat_of_lt' (by rw [h.size]; exact Nat.lt_succ_of_le h.small)
  rw [busy,count,List.mem_filter,decide_eq_true_eq]
  refine and_iff_right_of_imp fun on => ?_
  obtain ⟨z,hz,_⟩ := ZoneBoard.exists_status on
  have room := ZoneBoard.status?_isSome.mp (Option.isSome_iff_exists.mpr ⟨z,hz⟩)
  exact List.mem_map.mpr ⟨i.toNat,List.mem_range.mpr room,UInt8.ofNat_toNat⟩

theorem nodup_busy : c.busy.Nodup := by
  refine List.Nodup.filter _ (List.Nodup.map_on (fun i hi j hj h => ?_) List.nodup_range)
  have small := (UInt8.ofNat c.zones.size).toNat_lt
  have h := congrArg UInt8.toNat h
  rwa [UInt8.toNat_ofNat_of_lt' (Nat.lt_trans (List.mem_range.mp hi) small),
    UInt8.toNat_ofNat_of_lt' (Nat.lt_trans (List.mem_range.mp hj) small)] at h

variable [Carrier σ]

section Station

variable {id : UInt8} {l : List (UInt8×UInt8)}

/-- What remains of turning a batch off, once outputs were closed or the station was asked. -/
theorem books_stopBatch (h : Batch l c.zones) (confirmed : Bool) : Books (InBatch l) starts
    (fun d => (d.stopZones (l.map (·.1)) confirmed).pushZones id) c := by
  have stops : Books (InBatch l) starts (·.stopZones (l.map (·.1)) confirmed) c := by
    refine (books_stopZones confirmed (List.pairwise_map.mpr h.apart) fun i hi => ?_).mono ?_
    · obtain ⟨x,hx,rfl⟩ := List.mem_map.mp hi
      exact h.on x hx
    · rintro i ⟨j,hj,rfl⟩
      obtain ⟨x,hx,rfl⟩ := List.mem_map.mp hj
      exact ⟨x,hx,rfl⟩
  exact stops.after (notes_pushZones id _).only (zones_of_still (still_pushZones ..))

theorem books_turnOffStation (h : Batch l c.zones) :
    Books (InBatch l) starts (·.turnOffStation id l) c := by
  cases hs : c.site.enabledStation? id with
  | none =>
    have out : Books (InBatch l) starts
        (fun d => l.foldl (fun c (x : UInt8×UInt8) => c.failSafeOff x.1) d) c := by
      refine books_foldl (K:=fun (x : UInt8×UInt8) i => i=x.1) (I:=fun _ => True) ?_
        (fun d _ x _ _ => ?_) trivial
      · exact h.apart.imp fun ne i e e' => ne (e.symm.trans e')
      · exact ⟨books_failSafeOff x.1,trivial⟩
    exact out.congr fun j => (c.withJournal j).turnOffStation_out hs
  | some st =>
    have eq (j : Journal) := (c.withJournal j).turnOffStation_eq (l:=l) hs
    by_cases hn : st.network.isLocal=true
    · have closed : Notes (fun d => l.foldl (fun c x => (c.setValve st x.2 false).1) d) c [] :=
        notes_foldl_nothing (f:=fun d (x : UInt8×UInt8) => (d.setValve st x.2 false).1)
          (fun x d => (responds_setValve st x.2 false d).notes) l c
      have same : (l.foldl (fun c x => (c.setValve st x.2 false).1) c).zones=c.zones :=
        congrArg Plant.zones (c.plant_setValves st l)
      refine (Books.before closed.only same (books_stopBatch ?_ true)).congr fun j =>
        (eq j).trans (if_pos hn)
      rwa [same]
    · have same : (c.request id (offRequest st l)).1.zones=c.zones :=
        zones_of_still (still_request ..)
      have asked := responds_request id (offRequest st l) c
      have stop : Books (InBatch l) starts
          (fun d => (d.stopZones (l.map (·.1)) false).pushZones id)
          (c.request id (offRequest st l)).1 := books_stopBatch (by rwa [same]) false
      refine (asked.booksWith same fun _ => stop).books.congr fun j => (eq j).trans ((if_neg hn).trans ?_)
      split_ifs <;> rfl

theorem books_turnOffAll (h : c.Matched) : Books (fun _ => True) starts turnOffAll c := by
  have stations : Books (fun i => ∃ id∈c.activeStations,InBatch (c.activeOf id) i) starts
      (fun d => c.activeStations.foldl (fun d id => d.turnOffStation id (c.activeOf id)) d) c := by
    refine books_foldl (I:=fun _ => True) ?_ (fun d _ id _ same => ⟨books_turnOffStation ?_,trivial⟩)
      trivial
    · refine c.nodup_activeStations.imp fun ne i hi hi' => ?_
      obtain ⟨x,hx,rfl⟩ := hi
      obtain ⟨y,hy,e⟩ := hi'
      obtain ⟨_,z,hz,hid,_⟩ := c.zone_of_activeOf hx
      obtain ⟨_,w,hw,hid',_⟩ := c.zone_of_activeOf hy
      rw [←e,hz] at hw
      exact ne (hid.symm.trans (Option.some.inj hw ▸ hid'))
    · refine ⟨(batch_activeOf h.indexed).apart,fun x hx => ?_⟩
      rw [show d.zones.state x.1=c.zones.state x.1 from congrArg (·.state) (same x.1 ⟨x,hx,rfl⟩)]
      exact (batch_activeOf h.indexed).on x hx
  refine (stations.mono fun _ _ => trivial).congr fun j => ?_
  have eq := (c.withJournal j).turnOffAll_foldl
  rw [show (c.withJournal j).pruned=c.zones from h.pruned] at eq
  exact eq

end Station

/-- Telling stations to turn off is not noted. -/
theorem notes_stopStations (c : Controller σ) : Notes stopStations c [] := by
  have tell (id : UInt8) (d : Controller σ) : Notes (·.tellStation id) d [] := by
    intro j
    have asked := (responds_request id · d j)
    dsimp only
    unfold tellStation
    rw [site_withJournal]
    cases d.site.enabledStation? id with
    | none => rfl
    | some st =>
      dsimp only
      split_ifs
      · rfl
      · unfold allChannelsOff
        rw [site_withJournal]
        cases d.site.station? id with
        | none => rfl
        | some st => exact congrArg Prod.fst (asked _)
  have all := notes_foldl_nothing tell c.site.stationIds c
  exact fun j => ((c.withJournal j).stopStations_eq).trans (all j)

/-- What is done of stopping everything before it is noted. -/
def shutDown (c : Controller σ) : Controller σ :=
  {stopStations {c with valves:=c.valves.allOff} with zones:=c.zones.allOff}

theorem stopAll_eq (c : Controller σ) : c.stopAll=
    (c.busy.foldl (fun d z => d.record (.zoneStopped z .commanded)) c.shutDown).pushZones c.unit := by
  have still := still_stopStations {c with valves:=c.valves.allOff}
  have zones : (stopStations {c with valves:=c.valves.allOff}).zones=c.zones :=
    congrArg (fun s => s.2.zones) still
  have same (l : List UInt8) (d : Controller σ) :
      (l.foldl (fun d z => d.record (.zoneStopped z .commanded)) d).unit=d.unit :=
    foldl_same (g:=unit) (f:=fun d z => d.record (.zoneStopped z .commanded)) (fun _ _ => rfl) l d
  have unit : c.shutDown.unit=c.unit :=
    congrArg (fun s => s.1.registers.unit) still
  rw [←unit,←same c.busy c.shutDown]
  simp only [stopAll,shutDown,busy,zones]

theorem books_stopAll (h : c.Matched) : Books (fun _ => True) starts stopAll c := by
  have shut : Notes shutDown c [] := fun j =>
    congrArg (fun d : Controller σ => {d with zones:=c.zones.allOff})
      (notes_stopStations {c with valves:=c.valves.allOff} j)
  have noted : Notes (fun d => c.busy.foldl (fun d z => d.record (.zoneStopped z .commanded)) d)
      c.shutDown (c.busy.map fun z => c.shutDown.notice (.zoneStopped z .commanded)) :=
    notes_foldl (f:=fun d z => d.record (.zoneStopped z .commanded)) fun d _ z _ =>
      ⟨notes_record _ d,rfl⟩
  have all := ((shut.comp noted).comp (notes_pushZones c.unit _)).congr (g:=stopAll) fun j =>
    (c.withJournal j).stopAll_eq
  refine ⟨_,all,?_⟩
  rw [List.append_nil,List.nil_append,List.map_map]
  have board : c.stopAll.zones=c.zones.allOff :=
    congrArg (fun s => s.2.zones) c.still_stopAll
  have gone (i : UInt8) : ((c.stopAll.zones).status i).state=.off := by
    rw [board]
    exact c.zones.state_allOff i
  refine Account.whole (fun z => z) (fun _ => rfl) nodup_busy (fun i hi => ?_) fun i hi => ?_
  · refine .stopped .commanded ((mem_busy h).mp hi) ?_
    rw [gone]
    rfl
  · exact .silent fun on => absurd rfl (hi i ((mem_busy h).mpr (ZoneState.ne_off on)))

/-- The end of a wait or of a run, as it is noted. -/
def ending (t : Transition) : Event :=
  .zoneStopped t.zone (match t.expiry with
    | .unconfirmed _ => .unconfirmed
    | .finished => .finished)

theorem notes_conclude {z : Zone} {t : Transition} (hz : c.site.zone? t.zone=some z) :
    Notes (·.conclude t) c [c.notice (ending t)] := by
  obtain ⟨i,e⟩ := t
  cases e with
  | unconfirmed was => exact notes_record _ c
  | finished =>
    have released := notes_releaseValve z c
    have setting : (c.releaseValve z).setting=c.setting := setting_releaseValve ..
    have noted := notes_record (.zoneStopped i .finished) (c.releaseValve z)
    rw [notice_of_setting setting] at noted
    refine ((released.comp noted).comp (notes_pushZones z.station _)).congr fun j => ?_
    change (c.withJournal j).finishRun i=_
    unfold finishRun
    rw [site_withJournal,show c.site.zone? i=some z from hz]

/-- A second before waits and runs are ended. -/
def counting (c : Controller σ) : Controller σ :=
  dropSettled {c with ticks:=c.ticks+1,link:={c.link with tick:=c.ticks+1}}

theorem counted_eq (size : c.zones.size=c.site.zoneCount.toNat) :
    c.counted=c.zones.tick.2.foldl conclude {c.counting with zones:=c.zones.tick.1} := by
  unfold counted resizeBoard
  dsimp only
  rw [if_pos size.symm]
  rfl

theorem books_counted (h : c.Matched) : Books (fun _ => True) starts counted c := by
  set d : Controller σ := {c.counting with zones:=c.zones.tick.1} with hd
  have begun : Notes (fun e => {e.counting with zones:=c.zones.tick.1}) c [] := fun _ => rfl
  have ended : Notes (fun e => c.zones.tick.2.foldl conclude e) d
      (c.zones.tick.2.map fun t => d.notice (ending t)) := by
    refine notes_foldl fun e he t ht => ⟨?_,setting_conclude ..⟩
    obtain ⟨y,hy,_⟩ := (ZoneBoard.mem_tick h.indexed).mp ht
    obtain ⟨z,hz⟩ := h.zone_of_status hy
    refine notes_conclude (z:=z) ?_
    rw [site_of_setting he]
    exact hz
  have board : c.counted.zones=c.zones.tick.1 :=
    (congrArg (fun g => g.2.zones) c.ground_tick_counted).symm.trans
      (congrArg (fun g => g.2.zones) (c.ground_tick h.size_eq_zoneCount))
  refine ⟨_,(begun.comp ended).congr fun j => (c.withJournal j).counted_eq h.size_eq_zoneCount,?_⟩
  rw [List.nil_append,List.map_map,board]
  refine Account.whole Transition.zone (fun _ => rfl) (ZoneBoard.nodup_tick h.indexed)
    (fun t ht => ?_) fun i hi => ?_
  · obtain ⟨y,hy,expiry⟩ := (ZoneBoard.mem_tick h.indexed).mp ht
    have now : c.zones.status t.zone=y := by rw [ZoneBoard.status,hy,Option.getD_some]
    rw [ZoneBoard.status_tick,now]
    obtain ⟨none,_⟩ | ⟨_,on,reset⟩ := y.tick_cases
    · rw [none] at expiry
      cases expiry
    · refine .stopped _ on ?_
      rw [reset]
      rfl
  · rw [ZoneBoard.status_tick]
    obtain ⟨_,same⟩ | ⟨⟨e,expiry⟩,on,_⟩ := (c.zones.status i).tick_cases
    · exact .silent fun on => same.trans on
    · obtain ⟨y,hy,_⟩ := ZoneBoard.exists_status (b:=c.zones) (z:=i) on
      have now : c.zones.status i=y := by rw [ZoneBoard.status,hy,Option.getD_some]
      rw [now] at expiry
      exact absurd rfl (hi ⟨i,e⟩ ((ZoneBoard.mem_tick h.indexed).mpr ⟨y,hy,expiry⟩))

theorem aside_checkSensors (c : Controller σ) : NotesAside checkSensors c := by
  have one (last : List UInt16) (x : UInt16×Nat) (d : Controller σ) :
      NotesAside (fun d => noteReading last d x) d := by
    by_cases h : last[x.2]?=some x.1
    · exact (notes_nothing d).only.congr fun _ => if_pos h
    · have noted : NotesAside (·.record (.sensorReading d.unit (UInt8.ofNat x.2)
          (d.site.sensorKind? d.unit (UInt8.ofNat x.2)) x.1)) d := notesOnly_record (by rfl) d
      exact noted.congr fun _ => if_neg h
  have read (values : List UInt16) (d : Controller σ) :
      NotesAside (fun e => {e with lastReadings:=values}) d := Notes.only fun _ => rfl
  by_cases h : c.sensors.readings=c.lastReadings
  · exact (notes_nothing c).only.congr fun _ => if_pos h
  · have noted := notesOnly_foldl (fun x (_ : x∈c.sensors.readings.zipIdx) => one c.lastReadings x) c
    have all := (noted.comp (read c.sensors.readings _)).comp
      (notes_pushSensors c.sensors.readings _).only
    exact all.congr fun _ => if_neg h

theorem aside_sampled (c : Controller σ) : NotesAside sampled c := by
  have sample : NotesAside (fun d => {d with sensors:=d.sensors.sample.1}) c := Notes.only fun _ => rfl
  by_cases h : c.sensors.sample.2=true
  · exact (sample.comp (aside_checkSensors _)).congr fun _ => if_pos h
  · exact sample.congr fun _ => if_neg h

theorem books_tick (h : c.Matched) : Books (fun _ => True) starts tick c := by
  have same : c.counted.sampled.zones=c.counted.zones := by
    rw [←tick_eq]
    exact congrArg (fun g => g.2.zones) c.ground_tick_counted
  exact ((books_counted h).after (aside_sampled _) same).congr fun j =>
    (c.withJournal j).tick_eq

end Controller

end Watering
