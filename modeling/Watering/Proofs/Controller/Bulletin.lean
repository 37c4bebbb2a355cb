import Watering.Proofs.Controller.Halt
import Watering.Proofs.Controller.Telling
import Watering.Radio.Scripted

namespace Watering

namespace Site

/-- A station is taken out of service or put back. -/
def setService (s : Site) (id : UInt8) (on : Bool) : Site :=
  s.modifyStation id fun st => {st with enabled:=on}

variable {s : Site} {id k i : UInt8} {on : Bool} {st : Station}

theorem station?_setService : (s.setService id on).station? k=
    (s.station? k).map fun st => if id=k then {st with enabled:=on} else st := by
  simp only [station?,setService,modifyStation,Std.TreeMap.getElem?_modify,
    Std.LawfulEqCmp.compare_eq_iff_eq]
  by_cases h : id=k
  · rw [if_pos h,h]
    simp only [if_true]
  · simp only [if_neg h]
    exact (id_map _).symm

/-- A station stays what it was, but for being in service. -/
theorem of_station?_setService (h : (s.setService id on).station? k=some st) :
    ∃ x b,s.station? k=some x ∧ st={x with enabled:=b} := by
  rw [station?_setService] at h
  obtain ⟨x,hx,rfl⟩ := Option.map_eq_some_iff.mp h
  split_ifs
  · exact ⟨x,on,hx,rfl⟩
  · exact ⟨x,x.enabled,hx,rfl⟩

theorem Laid.setService (h : s.Laid) : (s.setService id on).Laid where
  length_le := h.length_le
  fits hs := by
    obtain ⟨x,b,hx,rfl⟩ := of_station?_setService hs
    exact (h.fits hx :)
  zone_of hs hc := by
    obtain ⟨x,b,hx,rfl⟩ := of_station?_setService hs
    exact (h.zone_of hx hc :)
  owner hz he := by
    obtain ⟨st,hs,hc,hi⟩ := h.owner hz he
    refine ⟨_,by rw [station?_setService,hs]; rfl,?_⟩
    split_ifs <;> exact ⟨hc,hi⟩
  wired hs hn := by
    obtain ⟨x,b,hx,rfl⟩ := of_station?_setService hs
    exact (h.wired hx hn :)
  own hs := by
    obtain ⟨x,b,hx,rfl⟩ := of_station?_setService hs
    exact (h.own hx :)
  unit_ne := h.unit_ne
  id_ne hs := by
    obtain ⟨x,b,hx,rfl⟩ := of_station?_setService hs
    exact h.id_ne hx
  maxRun_ne := h.maxRun_ne

theorem IsLocal.of_setService (h : (s.setService id on).IsLocal i) : s.IsLocal i := by
  obtain ⟨k,st,ch,hs,hn,hc,hi⟩ := h
  obtain ⟨x,b,hx,rfl⟩ := of_station?_setService hs
  exact ⟨k,x,ch,hx,hn,hc,hi⟩

end Site

/-- A command to zones, or a second. -/
def Operation.IsCommand {σ : Type} : Operation σ → Prop
  | .process _ | .poll | .outside .. => False
  | _ => True

/-- A command or a second of which the event master is told: stopping everything and seconds even
while the own station is out of service. -/
def Operation.Announced {σ : Type} (st : Station) : Operation σ → Prop
  | .startZone _ | .stopZone _ | .turnOffAll => st.enabled=true
  | .stopAll | .tick => True
  | _ => False

namespace Controller

section Telling

variable {σ : Type} [Carrier σ] {c d e : Controller (Logged σ)} {st : Station} {m : EventMaster}

theorem onward_stopZones (zones : List UInt8) (confirmed : Bool) :
    Onward c (c.stopZones zones confirmed) [] :=
  onward_of_carrier (foldl_same (g:=fun d : Controller (Logged σ) => d.link.carrier)
    (f:=fun d i => record {d with zones:=d.zones.stop i confirmed} (.zoneStopped i .commanded))
    (fun _ _ => rfl) zones c) (post_of_setting (setting_stopZones ..))

/-- Zones of one station that are stopped together. -/
theorem Reports.stopZones (h : c.Reports st m) {id : UInt8} {zones : List UInt8} (confirmed : Bool)
    (hl : ∀ i∈zones,∃ z,c.site.zone? i=some z ∧ z.station=id) :
    Abreast st m c ((c.stopZones zones confirmed).pushZones id) := by
  have onward : Onward c (c.stopZones zones confirmed) [] := onward_stopZones zones confirmed
  by_cases own : id=c.unit
  · rw [own]
    exact .inr (h.told onward)
  · rw [pushZones_else (onward.unit ▸ own)]
    refine .inl ⟨[],onward,nofun,fun ch hc => congrArg ZoneState.isOn ?_⟩
    have board : (c.stopZones zones confirmed).zones=_ :=
      congrArg Plant.zones (c.plant_stopZones zones confirmed)
    rw [board]
    refine (c.zones.state_foldl_stop zones confirmed (st.zoneOf ch)).1 fun mem => ?_
    obtain ⟨z,hz,rfl⟩ := hl _ mem
    exact h.apart hz own ch hc rfl

theorem Reports.turnOffStation (h : c.Reports st m) (on : st.enabled=true) {id : UInt8}
    {l : List (UInt8×UInt8)} (hl : ∀ x∈l,∃ z,c.site.zone? x.1=some z ∧ z.station=id) :
    Abreast st m c (c.turnOffStation id l) := by
  have listed {d : Controller (Logged σ)} (a : Abreast st m c d) :
      ∀ i∈l.map (·.1),∃ z,d.site.zone? i=some z ∧ z.station=id := by
    rw [a.site]
    exact fun i hi => by
      obtain ⟨x,hx,rfl⟩ := List.mem_map.mp hi
      exact hl x hx
  cases hs : c.site.enabledStation? id with
  | none =>
    rw [c.turnOffStation_out hs]
    refine abreast_foldl fun d a x hx => .inl ?_
    obtain ⟨z,hz,rfl⟩ := hl x hx
    rw [←a.site] at hz hs
    have hd := h.abreast a
    exact mute_failSafeOff hz (hd.apart hz (hd.ne_of_out on hs))
  | some s =>
    rw [c.turnOffStation_eq hs]
    split_ifs
    · have closed : Abreast st m c (l.foldl (fun c x => (c.setValve s x.2 false).1) c) :=
        .inl (mute_foldl (fun d x => mute_setValve s x.2 false) l)
      exact closed.trans ((h.abreast closed).stopZones true (listed closed))
    · have asked : Abreast st m c (c.request id (offRequest s l)).1 := .inl (mute_request id nofun)
      exact asked.trans ((h.abreast asked).stopZones false (listed asked))
    · exact .inl (mute_request id nofun)

theorem Reports.turnOffAll (h : c.Reports st m) (on : st.enabled=true) (board : c.Matched) :
    Abreast st m c c.turnOffAll := by
  rw [c.turnOffAll_foldl,board.pruned]
  refine abreast_foldl fun d a id _ => (h.abreast a).turnOffStation on fun x hx => ?_
  obtain ⟨_,z,hz,hid,_⟩ := c.zone_of_activeOf hx
  rw [a.site]
  exact ⟨z,hz,hid⟩

theorem mute_tellStation (c : Controller (Logged σ)) (id : UInt8) : Mute st m c (c.tellStation id) := by
  unfold tellStation
  split
  · split_ifs
    · exact .refl c
    · unfold allChannelsOff
      split
      · exact .refl c
      · exact mute_request id nofun
  · exact .refl c

/-- A stop of everything is told, whatever it changed. -/
theorem Reports.stopAll (h : c.Reports st m) : Informed st m c c.stopAll := by
  have asked : Mute st m {c with valves:=c.valves.allOff}
      (stopStations {c with valves:=c.valves.allOff}) := mute_foldl (fun d => d.mute_tellStation) _
  obtain ⟨new,s,_⟩ := asked
  have shut : Onward c c.shutDown new := ⟨s.frames,s.post,s.willing⟩
  have noted : Onward c.shutDown
      (c.busy.foldl (fun d z => d.record (.zoneStopped z .commanded)) c.shutDown) [] := by
    refine onward_of_carrier (foldl_same (g:=fun d : Controller (Logged σ) => d.link.carrier)
      (fun _ _ => ?_) c.busy c.shutDown) (foldl_same (g:=post) (fun _ _ => ?_) c.busy c.shutDown)
    · rfl
    · rfl
  rw [stopAll_eq]
  exact h.told (shut.trans noted)

theorem mute_releaseValve (z : Zone) : Mute st m c (c.releaseValve z) := by
  unfold releaseValve
  split
  · split_ifs
    · exact mute_setValve ..
    · exact .refl c
  · exact .refl c

/-- The end of a run of an own zone is told. -/
theorem Reports.finishRun (h : c.Reports st m) {i : UInt8} {z : Zone} (hz : c.site.zone? i=some z) :
    Abreast st m c (c.finishRun i) ∧ (z.station=c.unit → Informed st m c (c.finishRun i)) := by
  have quiet : Mute st m c ((c.releaseValve z).record (.zoneStopped i .finished)) :=
    (mute_releaseValve z).trans (mute_of_carrier rfl rfl fun _ _ => rfl)
  simp only [Controller.finishRun,hz]
  refine ⟨h.pushed quiet z.station,fun own => ?_⟩
  obtain ⟨_,s,_⟩ := quiet
  rw [own]
  exact h.told s

theorem Reports.conclude (h : c.Reports st m) {t : Transition} {z : Zone}
    (hz : c.site.zone? t.zone=some z) : Abreast st m c (c.conclude t) := by
  obtain ⟨i,e⟩ := t
  cases e with
  | unconfirmed => exact .inl (mute_of_carrier rfl rfl fun _ _ => rfl)
  | finished => exact (h.finishRun hz).1

theorem Reports.counted (h : c.Reports st m) (board : c.Matched)
    (settled : ∀ ch < st.zoneCount,(c.zones.state (st.zoneOf ch)).isPending=false) :
    Abreast st m c c.counted := by
  set e : Controller (Logged σ) := {c.counting with zones:=c.zones.tick.1} with he
  have begun : Onward c e [] := onward_of_carrier rfl rfl
  have each (d : Controller (Logged σ)) (a : Abreast st m e d) (t : Transition)
      (ht : t∈c.zones.tick.2) : Abreast st m d (d.conclude t) := by
    obtain ⟨y,hy,_⟩ := (ZoneBoard.mem_tick board.indexed).mp ht
    obtain ⟨z,hz⟩ := board.zone_of_status hy
    have hz : d.site.zone? t.zone=some z := by rwa [a.site]
    exact ((h.onward begun).abreast a).conclude hz
  rw [counted_eq board.size_eq_zoneCount]
  by_cases same : ∀ ch < st.zoneCount,
      (e.zones.state (st.zoneOf ch)).isOn=(c.zones.state (st.zoneOf ch)).isOn
  · have quiet : Abreast st m c e := .inl ⟨[],begun,nofun,same⟩
    exact quiet.trans (abreast_foldl each)
  · simp only [not_forall] at same
    obtain ⟨ch,hc,changed⟩ := same
    obtain ⟨z,hz,hid,_⟩ := h.laid.zone_of h.own hc
    have due := ZoneBoard.finished_of_tick board.indexed (settled ch hc) changed
    refine .inr (Informed.after begun (foldl_brings (I:=Abreast st m e) (P:=Informed st m e) due
      (fun d t ht a => a.trans (each d a t ht)) (fun d a => ?_)
      (fun d t ht a told => told.trans (each d a t ht)) (.inl (.refl e))))
    have hd := (h.onward begun).abreast a
    obtain ⟨_,s⟩ := a.onward
    have hz : d.site.zone? (st.zoneOf ch)=some z := by rwa [a.site]
    exact ((hd.finishRun hz).2 (hid.trans s.unit.symm)).after s

theorem mute_pushSensors (values : List UInt16) : Mute st m c (c.pushSensors values) := by
  unfold pushSensors
  split
  · split_ifs
    · exact mute_sendFrame _ nofun
    · exact .refl c
  · exact .refl c

theorem mute_checkSensors : Mute st m c c.checkSensors := by
  have note (d : Controller (Logged σ)) (x : UInt16×Nat) :
      Mute st m d (noteReading c.lastReadings d x) := by
    unfold noteReading
    split_ifs
    · exact .refl d
    · exact mute_of_carrier rfl rfl fun _ _ => rfl
  have read (d : Controller (Logged σ)) (values : List UInt16) :
      Mute st m d {d with lastReadings:=values} := mute_of_carrier rfl rfl fun _ _ => rfl
  rw [checkSensors_eq]
  split_ifs
  · exact .refl c
  · exact ((mute_foldl note c.sensors.readings.zipIdx).trans (read _ c.sensors.readings)).trans
      (mute_pushSensors c.sensors.readings)

/-- Looking at the sensors concerns no zone. -/
theorem mute_sampled : Mute st m c c.sampled := by
  have look : Mute st m c {c with sensors:=c.sensors.sample.1} := mute_of_carrier rfl rfl fun _ _ => rfl
  unfold sampled
  split_ifs
  · exact look.trans mute_checkSensors
  · exact look

theorem Reports.tick (h : c.Reports st m) (board : c.Matched)
    (settled : ∀ ch < st.zoneCount,(c.zones.state (st.zoneOf ch)).isPending=false) :
    Abreast st m c c.tick := by
  rw [tick_eq]
  exact (h.counted board settled).trans (.inl mute_sampled)

/-- What is announced keeps the master abreast. -/
theorem Reports.perform (h : c.Reports st m) (board : c.Matched)
    (settled : ∀ ch < st.zoneCount,(c.zones.state (st.zoneOf ch)).isPending=false)
    {op : Operation (Logged σ)} (announced : op.Announced st) : Abreast st m c (c.perform op) := by
  cases op with
  | startZone run => exact h.startZone announced run
  | stopZone i => exact h.stopZone announced i
  | turnOffAll => exact h.turnOffAll announced board
  | stopAll => exact .inr h.stopAll
  | tick => exact h.tick board settled
  | process | poll | outside => exact announced.elim

theorem onward_failSafeOff (i : UInt8) : Onward c (c.failSafeOff i) [] :=
  onward_of_carrier (congrArg Link.carrier (c.failSafeOff_silent i).1)
    (post_of_setting (setting_failSafeOff ..))

section Out

variable (out : c.site.enabledStation? c.unit=none)
include out

/-- A station that is in service is another one, and its push is none. -/
theorem untold_pushZones {id : UInt8} {s : Station} (hs : c.site.enabledStation? id=some s)
    (untold : Untold m c d) (edited : Onward d e []) : Untold m c (e.pushZones id) := by
  obtain ⟨new,onward,quiet⟩ := untold.onward edited
  have other : id≠e.unit := by
    rintro rfl
    rw [onward.unit,out] at hs
    cases hs
  rw [pushZones_else other]
  exact ⟨new,onward,quiet⟩

theorem untold_stopZone (i : UInt8) : Untold m c (c.stopZone i).1 := by
  refine stopZoneFrom_cases (P:=fun r => Untold m c r.1) ?unknown ?off ?out ?refused ?done
  case unknown => exact fun _ => .refl c
  case off => exact fun _ => .refl c
  case out => exact fun _ _ _ _ => (Untold.refl c).onward (onward_failSafeOff i)
  all_goals
    intro z s _ _ hs _
    have closed : Mute s m c (c.close z s).1 := mute_close z s
  case refused => exact closed.untold
  case done => exact untold_pushZones out hs closed.untold (onward_of_carrier rfl rfl)

theorem untold_startZone (run : ZoneRun) : Untold m c (c.startZone run).1 := by
  refine startZoneFrom_cases (P:=fun r => Untold m c r.1) ?unfit ?out ?stop ?refused ?done
  case unfit => exact fun _ => .refl c
  case out => exact fun _ _ _ => (Untold.refl c).onward (onward_failSafeOff run.zone)
  case stop => exact fun _ _ _ _ _ => untold_stopZone out run.zone
  all_goals
    intro z s _ hs _ _
    have opened : Mute s m c (c.openFor z s (c.capped run)).1 := mute_openFor z s _
  case refused => exact opened.untold
  case done => exact untold_pushZones out hs opened.untold (onward_of_carrier rfl rfl)

theorem untold_turnOffStation (id : UInt8) (l : List (UInt8×UInt8)) :
    Untold m c (c.turnOffStation id l) := by
  cases hs : c.site.enabledStation? id with
  | none =>
    rw [c.turnOffStation_out hs]
    exact untold_foldl fun d _ x _ => (Untold.refl d).onward (onward_failSafeOff x.1)
  | some s =>
    have closed : Mute s m c (l.foldl (fun c x => (c.setValve s x.2 false).1) c) :=
      mute_foldl (fun d x => mute_setValve s x.2 false) l
    have asked : Mute s m c (c.request id (offRequest s l)).1 := mute_request id nofun
    rw [c.turnOffStation_eq hs]
    split_ifs
    · exact untold_pushZones out hs closed.untold (onward_stopZones ..)
    · exact untold_pushZones out hs asked.untold (onward_stopZones ..)
    · exact asked.untold

theorem untold_turnOffAll : Untold m c c.turnOffAll := by
  have pruned : Untold m c {c with zones:=c.pruned} :=
    (Untold.refl c).onward (onward_of_carrier rfl rfl)
  rw [c.turnOffAll_foldl]
  refine pruned.trans (untold_foldl fun d untold id _ => untold_turnOffStation ?_ id _)
  obtain ⟨_,onward,_⟩ := untold
  rw [onward.site,onward.unit]
  exact out

end Out

/-- What is not announced happens while the own station is out of service, and tells nothing. -/
theorem untold_perform (own : c.site.station? c.unit=some st) {op : Operation (Logged σ)}
    (command : op.IsCommand) (unannounced : ¬op.Announced st) : Untold m c (c.perform op) := by
  have out (off : ¬st.enabled=true) : c.site.enabledStation? c.unit=none := by
    rw [Site.enabledStation?,own]
    exact Option.filter_some_neg (Bool.eq_false_iff.mpr off)
  cases op with
  | startZone run => exact untold_startZone (out unannounced) run
  | stopZone i => exact untold_stopZone (out unannounced) i
  | turnOffAll => exact untold_turnOffAll (out unannounced)
  | stopAll | tick => exact absurd trivial unannounced
  | process | poll | outside => exact command.elim

end Telling

/-- An action, or a station that is taken out of service or put back. -/
inductive Happening (σ : Type) where
  | action (a : Action σ)
  | service (station : UInt8) (on : Bool)

section Reached

variable {σ : Type} [Carrier σ] {c : Controller σ}

def meet (c : Controller σ) : Happening σ → Controller σ
  | .action a => c.act a
  | .service station on => {c with site:=c.site.setService station on}

def meetAll (c : Controller σ) (happenings : List (Happening σ)) : Controller σ :=
  happenings.foldl meet c

/-- The site is laid out, the board has its zones, and no zone that is wired here waits. -/
structure Sound (c : Controller σ) : Prop where
  laid : c.site.Laid
  board : c.Matched
  settled : ∀ i,c.site.IsLocal i → (c.zones.state i).isPending=false

theorem Sound.act (h : c.Sound) (a : Action σ) : (c.act a).Sound := by
  have fits : Fits c.site c := ⟨rfl,h.board.size_eq_zoneCount⟩
  have after := fits.act a
  refine ⟨by rw [after.site_eq]; exact h.laid,after.matched h.laid,fun i hi => ?_⟩
  rw [after.site_eq] at hi
  exact fits.local_settled h.laid h.settled [a] hi

theorem Sound.meet (h : c.Sound) : ∀ x,(c.meet x).Sound
  | .action a => h.act a
  | .service _ _ => ⟨h.laid.setService,⟨h.board.size,h.board.small⟩,fun i hi => h.settled i hi.of_setService⟩

theorem Sound.meetAll (h : c.Sound) (happenings : List (Happening σ)) :
    (c.meetAll happenings).Sound :=
  List.foldlRecOn happenings Controller.meet h fun _ h x _ => h.meet x

omit [Carrier σ] in
theorem sound_start {cfg : Config} (hv : cfg.Valid) (role : Role) (carrier : σ) (valves : ValveBoard)
    (sensors : SensorBank) (clock : Instant) :
    (start role carrier cfg.site valves sensors clock).Sound where
  laid := hv.laid
  board := (fits_start role carrier cfg.site valves sensors clock).matched hv.laid
  settled i _ := by
    rw [state_start]
    rfl

end Reached

/-- In every state that is reached, a command or a second that is announced and that turns a zone of
the own station on or off tells the event master, if it wants reports and the carrier takes them: the
last that it is told are the zones that are on afterwards. Of a command that is not announced it is
told nothing. -/
theorem own_changes_reach_master {σ : Type} [Carrier σ] {cfg : Config} (hv : cfg.Valid) (role : Role)
    (carrier : Logged σ) (valves : ValveBoard) (sensors : SensorBank) (clock : Instant)
    (happenings : List (Happening (Logged σ))) {c : Controller (Logged σ)}
    (hc : c=(start role carrier cfg.site valves sensors clock).meetAll happenings)
    {st : Station} {m : EventMaster} (own : c.site.station? c.unit=some st)
    (wired : st.network.isLocal=true) (master : c.eventMaster=some m)
    (wants : m.events.contains .reportZones=true) (willing : Carrier.Willing c.link.carrier.carrier)
    {op : Operation (Logged σ)} (command : op.IsCommand) {ch : UInt8} (below : ch < st.zoneCount)
    (changed : ((c.perform op).zones.state (st.zoneOf ch)).isOn≠(c.zones.state (st.zoneOf ch)).isOn) :
    ∃ new,(c.perform op).link.carrier.frames=new++c.link.carrier.frames ∧
      (op.Announced st → ∃ service mask,new.find? (·.pushes m.station)=
          some ⟨0,m.station,c.unit,.zonesReport service 0 st.zoneCount mask⟩ ∧
        ∀ ch,mask.get ch=true ↔
          ch < st.zoneCount ∧ ((c.perform op).zones.state (st.zoneOf ch)).isOn=true) ∧
      (¬op.Announced st → ∀ f∈new,f.pushes m.station=false) := by
  have sound : c.Sound := hc ▸ (sound_start hv role carrier valves sensors clock).meetAll happenings
  have reports : c.Reports st m := ⟨sound.laid,own,wired,master,wants,willing⟩
  have settled (ch : UInt8) (hc : ch < st.zoneCount) :
      (c.zones.state (st.zoneOf ch)).isPending=false :=
    sound.settled _ ⟨_,st,ch,own,wired,hc,rfl⟩
  by_cases announced : op.Announced st
  · obtain ⟨new,s,told⟩ := (reports.perform sound.board settled announced).informed below changed
    exact ⟨new,s.frames,fun _ => told,fun unannounced => absurd announced unannounced⟩
  · obtain ⟨new,s,quiet⟩ := untold_perform (m:=m) own command announced
    exact ⟨new,s.frames,fun said => absurd said announced,fun _ => quiet⟩

/-- Unit 9 makes itself the master of the plot, and wants its zones. -/
def registration : Frame := ⟨5,1,9,.eventMasterSet {} (.union .registerSelf .reportZones) 0 0⟩

/-- The plot with its master, and its first zone started for ten minutes. -/
def reportingPlot : Controller (Logged ScriptedRadio) :=
  meetAll (start .responder {carrier:={kind:=.short}} Config.plot.site (.ofOutputs [0,1]) {} ⟨0,0⟩)
    [.action (.operate (.process registration.octets)),
      .action (.operate (.startZone {zone:=0,minutes:=10}))]

theorem reportingPlot_own :
    reportingPlot.site.station? reportingPlot.unit=some {name:="Plot",zoneCount:=2} := by
  have unit : reportingPlot.unit=1 := by decide +kernel
  rw [unit]
  refine Eq.trans ?_ (Config.plot_valid.station?_site 1)
  rfl

theorem own_changes_reach_master_plot :
    Config.plot.Valid ∧ reportingPlot.zones.state 0=.running ∧
    (reportingPlot.stopZone 0).1.zones.state 0=.off ∧ ∃ new,
      (reportingPlot.stopZone 0).1.link.carrier.frames=new++reportingPlot.link.carrier.frames ∧
      ∃ service mask,new.find? (·.pushes 9)=some ⟨0,9,1,.zonesReport service 0 2 mask⟩ ∧
        mask.get 0=false := by
  have on : reportingPlot.zones.state 0=.running := by decide +kernel
  have off : (reportingPlot.stopZone 0).1.zones.state 0=.off := by decide +kernel
  have wants : EventFlags.contains (.union .registerSelf .reportZones) .reportZones=true := by decide
  have announced : (Operation.stopZone (σ:=Logged ScriptedRadio) 0).Announced
    {name:="Plot",zoneCount:=2} := rfl
  have command : (Operation.stopZone (σ:=Logged ScriptedRadio) 0).IsCommand := trivial
  have first : (0 : UInt8) < 2 := by decide
  obtain ⟨new,frames,told,_⟩ := own_changes_reach_master Config.plot_valid .responder
    ({carrier:={kind:=.short}} : Logged ScriptedRadio) (.ofOutputs [0,1]) {} ⟨0,0⟩ _
    (c:=reportingPlot) rfl reportingPlot_own rfl (m:=⟨9,9,.union .registerSelf .reportZones⟩)
    (by decide +kernel) wants (ScriptedRadio.willing fun _ => rfl)
    command first (by decide +kernel)
  obtain ⟨service,mask,last,told⟩ := told announced
  refine ⟨Config.plot_valid,on,off,new,frames,service,mask,last,Bool.eq_false_iff.mpr fun h => ?_⟩
  have still : ((reportingPlot.stopZone 0).1.zones.state 0).isOn=true := ((told 0).mp h).2
  rw [off] at still
  cases still

/-- A stop of a zone whose station is out of service is told to no one. -/
theorem stopZone_unannounced {σ : Type} [Carrier σ] {c : Controller σ} {i : UInt8} {z : Zone}
    (hz : c.site.zone? i=some z) (on : c.zones.state i≠.off)
    (out : c.site.enabledStation? z.station=none) :
    (c.stopZone i).1.zones.state i=.off ∧ (c.stopZone i).1.link=c.link := by
  have eq : (c.stopZone i).1=c.failSafeOff i := by
    rw [stopZone,stopZoneFrom_else .here |>.2.2 z hz on out]
  have zones : (c.failSafeOff i).zones=_ := congrArg Plant.zones (c.plant_failSafeOff hz)
  rw [eq,zones,if_neg on]
  exact ⟨ZoneBoard.state_forceOff_self ..,(c.failSafeOff_silent i).1⟩

/-- Once the plot is out of service, a stop turns its zone off and the master is told nothing. -/
theorem own_stop_untold_out_of_service :
    let c := reportingPlot.meet (.service 1 false)
    Config.plot.Valid ∧
    c.site.station? c.unit=some {name:="Plot",enabled:=false,zoneCount:=2} ∧
    c.eventMaster=some ⟨9,9,.union .registerSelf .reportZones⟩ ∧
    Carrier.Willing c.link.carrier.carrier ∧
    (c.zones.state 0).isOn=true ∧ ((c.stopZone 0).1.zones.state 0).isOn=false ∧
    (c.stopZone 0).1.link.carrier.frames=c.link.carrier.frames := by
  intro c
  have own : c.site.station? c.unit=some {name:="Plot",enabled:=false,zoneCount:=2} := by
    refine Site.station?_setService.trans ?_
    rw [show reportingPlot.site.station? c.unit=_ from reportingPlot_own]
    decide +kernel
  have on : c.zones.state 0=.running := by decide +kernel
  have sound : c.Sound := ((sound_start Config.plot_valid ..).meetAll _).meet _
  obtain ⟨z,hz,hid,_⟩ := sound.laid.zone_of own (show (0 : UInt8) < 2 by decide)
  obtain ⟨off,link⟩ := stopZone_unannounced (c:=c) (i:=0) hz (by rw [on]; nofun) (by
    rw [hid,Site.enabledStation?,own]
    rfl)
  refine ⟨Config.plot_valid,own,by decide +kernel,ScriptedRadio.willing fun _ => rfl,?_,?_,?_⟩
  · rw [on]
    rfl
  · rw [off]
    rfl
  · rw [link]

end Controller

end Watering
