import Watering.Proofs.Controller.Setting

namespace Watering

/-- The output that a transition releases: that of a zone whose run is over. -/
def Site.ended? (s : Site) (t : Transition) : Option UInt16 :=
  match t.expiry with
  | .unconfirmed _ => none
  | .finished => (s.zone? t.zone).bind s.outputOf?

namespace Plant

/-- One second passes for outputs and board. -/
def tick (site : Site) (p : Plant) : Plant :=
  ⟨(p.zones.tick.2.map site.ended?).foldl ValveBoard.release p.valves,p.zones.tick.1⟩

variable {site : Site} {p : Plant}

theorem isOn_tick (site : Site) (p : Plant) (o : UInt16) :
    (p.tick site).valves.isOn o=
      (p.valves.isOn o && !(p.zones.tick.2.map site.ended?).contains (some o)) :=
  ValveBoard.isOn_foldl_release ..

theorem status?_tick (laid : site.Laid) (h : p.Agrees site) {i : UInt8} {o : UInt16}
    (w : site.Wires i o) :
    ∃ s,p.zones.status? i=some s ∧ (p.tick site).zones.status? i=some s.tick.1 := by
  obtain ⟨z,hz⟩ := w.zone laid
  obtain ⟨s,hs⟩ := h.status? hz
  exact ⟨s,hs,by rw [tick,ZoneBoard.status?_tick,hs,Option.map_some]⟩

/-- The output of a zone is released when its run is over. -/
theorem contains_ended_of_finished (laid : site.Laid) (size : p.zones.size≤256) {i : UInt8}
    {o : UInt16} (w : site.Wires i o) {s : ZoneStatus} (hs : p.zones.status? i=some s)
    (hx : s.tick.2=some .finished) :
    (p.zones.tick.2.map site.ended?).contains (some o)=true := by
  obtain ⟨z,hz⟩ := w.zone laid
  rw [List.contains_iff_mem,List.mem_map]
  exact ⟨⟨i,.finished⟩,(ZoneBoard.mem_tick size).mpr ⟨s,hs,hx⟩,
    Option.bind_eq_some_iff.mpr ⟨z,hz,w.outputOf? laid hz⟩⟩

/-- Nor is it released otherwise, unless it is shared. -/
theorem contains_ended (laid : site.Laid) (d : site.OutputsDistinct) (h : p.Agrees site)
    {i : UInt8} {o : UInt16} (w : site.Wires i o) {s : ZoneStatus} (hs : p.zones.status? i=some s) :
    (p.zones.tick.2.map site.ended?).contains (some o)=true ↔ s.tick.2=some .finished := by
  have size : p.zones.size≤256 := by
    rw [h.size]
    exact Nat.le_succ_of_le laid.length_le
  refine ⟨?_,contains_ended_of_finished laid size w hs⟩
  rw [List.contains_iff_mem,List.mem_map]
  rintro ⟨⟨j,e⟩,ht,he⟩
  obtain ⟨s',hs',hx⟩ := (ZoneBoard.mem_tick size).mp ht
  cases e with
  | unconfirmed => cases he
  | finished =>
    obtain ⟨z,hz,ho⟩ := Option.bind_eq_some_iff.mp he
    have hon : p.zones.state j≠.off := by
      rw [ZoneBoard.state_of_status? hs']
      intro k
      simp [ZoneStatus.tick,k] at hx
    obtain ⟨y,hy⟩ := h.idle j hon
    have hm : site.MayRun j z := ⟨hz,by rw [Option.some.inj (hz.symm.trans hy.1)]; exact hy.2⟩
    obtain rfl := (Site.wires_of_outputOf? laid hm ho).zone_unique d w
    rwa [Option.some.inj (hs.symm.trans hs')]

/-- A second turns nothing on. -/
theorem Idle.tick (h : p.Idle site) : (p.tick site).Idle site := by
  intro i hi
  apply h i
  intro k
  apply hi
  change ZoneBoard.state p.zones.tick.1 i=.off
  rw [ZoneBoard.state,ZoneBoard.status?_tick]
  cases hs : p.zones.status? i with
  | none => rfl
  | some s =>
    rw [ZoneBoard.state_of_status? hs] at k
    rw [Option.map_some,Option.getD_some,ZoneStatus.tick_off k,k]

theorem tick_agrees (laid : site.Laid) (d : site.OutputsDistinct) (h : p.Agrees site) :
    (p.tick site).Agrees site where
  size := (ZoneBoard.size_tick _).trans h.size
  idle := h.idle.tick
  settled {i o} w := by
    obtain ⟨s,hs,ht⟩ := status?_tick laid h w
    rw [ZoneBoard.state_of_status? ht]
    have := h.settled w
    rw [ZoneBoard.state_of_status? hs] at this
    exact (ZoneStatus.tick_settled this).1
  on_iff {i o} w := by
    obtain ⟨s,hs,ht⟩ := status?_tick laid h w
    have hp := h.settled w
    have hon := h.on_iff w
    have hx := contains_ended laid d h w hs
    rw [ZoneBoard.state_of_status? hs] at hp hon
    rw [ZoneBoard.state_of_status? ht,(ZoneStatus.tick_settled hp).2,isOn_tick,Bool.and_eq_true,hon,
      Bool.not_eq_true',Bool.eq_false_iff]
    exact and_congr_right fun _ => not_congr hx
  dark {o} ho := by
    rw [isOn_tick,h.dark ho,Bool.false_and]

end Plant

namespace Controller

variable {σ : Type} [Carrier σ] (c : Controller σ)

theorem setting_conclude (t : Transition) : (c.conclude t).setting=c.setting := by
  unfold conclude
  cases t.expiry with
  | unconfirmed => rfl
  | finished =>
    unfold finishRun
    dsimp only
    cases c.site.zone? t.zone with
    | none => rfl
    | some z =>
      exact (setting_of_still (still_pushZones ..)).trans (c.setting_releaseValve z)

theorem plant_conclude (t : Transition) :
    (c.conclude t).plant=⟨c.valves.release (c.site.ended? t),c.zones⟩ := by
  unfold conclude Site.ended?
  cases t.expiry with
  | unconfirmed => rfl
  | finished =>
    unfold finishRun
    dsimp only
    cases c.site.zone? t.zone with
    | none => rfl
    | some z => exact (plant_of_still (still_pushZones ..)).trans (c.plant_releaseValve z)

theorem setting_foldl_conclude (ts : List Transition) :
    (ts.foldl conclude c).setting=c.setting := by
  induction ts generalizing c with
  | nil => rfl
  | cons t ts ih => exact (ih _).trans (setting_conclude ..)

theorem plant_foldl_conclude (ts : List Transition) :
    (ts.foldl conclude c).plant=
      ⟨(ts.map c.site.ended?).foldl ValveBoard.release c.plant.valves,c.plant.zones⟩ := by
  induction ts generalizing c with
  | nil => rfl
  | cons t ts ih =>
    rw [List.foldl_cons,ih,plant_conclude,site_of_setting (c.setting_conclude t)]
    rfl

/-- Note a reading that changed. -/
def noteReading (last : List UInt16) (c : Controller σ) (x : UInt16×Nat) : Controller σ :=
  if last[x.2]?=some x.1 then c
  else
    let channel := UInt8.ofNat x.2
    c.record (.sensorReading c.unit channel (c.site.sensorKind? c.unit channel) x.1)

theorem checkSensors_eq : c.checkSensors=
    if c.sensors.readings=c.lastReadings then c
    else pushSensors {c.sensors.readings.zipIdx.foldl (noteReading c.lastReadings) c with
      lastReadings:=c.sensors.readings} c.sensors.readings := rfl

theorem ground_checkSensors : c.checkSensors.ground=c.ground := by
  have note (d : Controller σ) (x : UInt16×Nat) : (noteReading c.lastReadings d x).ground=d.ground := by
    unfold noteReading
    split_ifs <;> rfl
  rw [checkSensors_eq]
  split_ifs
  · rfl
  · rw [ground_of_still (still_pushSensors ..)]
    exact List.foldlRecOn (motive:=fun d => d.ground=c.ground) c.sensors.readings.zipIdx _ rfl
      fun d same x _ => (note d x).trans same

/-- A second before the sensors are looked at. -/
def counted (c : Controller σ) : Controller σ :=
  let d := ({c with ticks:=c.ticks+1,link:={c.link with tick:=c.ticks+1}} : Controller σ)
  let d := d.resizeBoard.dropSettled
  d.zones.tick.2.foldl conclude {d with zones:=d.zones.tick.1}

/-- Looking at the sensors. -/
def sampled (c : Controller σ) : Controller σ :=
  if c.sensors.sample.2 then checkSensors {c with sensors:=c.sensors.sample.1}
  else {c with sensors:=c.sensors.sample.1}

theorem tick_eq : c.tick=c.counted.sampled := by
  unfold tick sampled counted
  dsimp only
  split
  · next h => rw [h,if_pos rfl]
  · next h => rw [h,if_neg Bool.false_ne_true]

theorem ground_tick_counted : c.tick.ground=c.counted.ground := by
  rw [tick_eq,sampled]
  split_ifs
  · exact (ground_checkSensors _).trans rfl
  · rfl

/-- A second, as it shows in outputs and board: the board is matched to the site first. -/
theorem ground_tick_resized : c.tick.ground=(c.place,c.resizeBoard.plant.tick c.site) := by
  set d : Controller σ := {c with ticks:=c.ticks+1,link:={c.link with tick:=c.ticks+1}} with hd
  have resized : d.resizeBoard.ground=(c.place,c.resizeBoard.plant) := by
    rw [hd]
    unfold resizeBoard
    dsimp only
    split_ifs <;> rfl
  have site : d.resizeBoard.site=c.site := congrArg (fun g => g.1.2) resized
  have hp : c.counted.plant=d.resizeBoard.plant.tick d.resizeBoard.site :=
    plant_foldl_conclude ..
  have hs : c.counted.place=d.resizeBoard.place := place_of_setting (setting_foldl_conclude ..)
  rw [ground_tick_counted,ground,hp,hs,site]
  exact congrArg (fun g => (g.1,g.2.tick c.site)) resized

theorem ground_tick (size : c.zones.size=c.site.zoneCount.toNat) :
    c.tick.ground=(c.place,c.plant.tick c.site) := by
  rw [ground_tick_resized,resizeBoard,if_pos size.symm]

end Controller

end Watering
