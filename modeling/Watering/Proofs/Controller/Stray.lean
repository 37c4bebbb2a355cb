import Mathlib.Data.List.Induction
import Watering.Proofs.Config.Outputs
import Watering.Proofs.Controller.Change
import Watering.Proofs.Controller.Course
import Watering.Radio.Scripted

namespace Watering

theorem Site.zoneCount_le (s : Site) : s.zoneCount.toNat≤255 :=
  Nat.le_of_lt_succ s.zoneCount.toNat_lt

/-- Zones that both sites have keep their output. -/
def Site.Keeps (s t : Site) : Prop :=
  ∀ i,(s.zone? i).isSome=true → (t.zone? i).isSome=true → t.feed? i=s.feed? i

theorem Site.Keeps.symm {s t : Site} (h : s.Keeps t) : t.Keeps s :=
  fun i ht hs => (h i hs ht).symm

namespace Plant

/-- The output is that of a zone that runs. -/
def Used (site : Site) (p : Plant) (o : UInt16) : Prop :=
  ∃ i,site.feed? i=some o ∧ p.zones.state i=.running

/-- The output is on, and no zone runs that it is for. -/
def Astray (site : Site) (p : Plant) (o : UInt16) : Prop := p.valves.isOn o=true ∧ ¬p.Used site o

/-- No output goes astray. -/
def Tidies (site : Site) (p q : Plant) : Prop := ∀ o,q.Astray site o → p.Astray site o

variable {site : Site} {i : UInt8} {o : UInt16} {run : ZoneRun} {p q r : Plant}

theorem Tidies.refl (p : Plant) : Tidies site p p := fun _ h => h

theorem Tidies.trans (h : Tidies site p q) (h' : Tidies site q r) : Tidies site p r :=
  fun o ho => h o (h' o ho)

/-- Nothing goes astray if nothing is opened and the zones of what stays open go on. -/
theorem tidies_of_running (on : ∀ o,q.valves.isOn o=true → p.valves.isOn o=true)
    (run : ∀ i o,site.feed? i=some o → q.valves.isOn o=true → p.zones.state i=.running →
      q.zones.state i=.running) : Tidies site p q := by
  rintro o ⟨hon,unused⟩
  refine ⟨on o hon,?_⟩
  rintro ⟨i,ho,hi⟩
  exact unused ⟨i,ho,run i o ho hon hi⟩

theorem Shuts.tidies (h : Shuts site i p q) : Tidies site p q := by
  cases h with
  | spared => exact .refl p
  | shut f =>
    refine tidies_of_running (fun o ho => ?_) fun j o hj ho hrun => ?_
    · rw [ValveBoard.isOn_release,Bool.and_eq_true] at ho
      exact ho.1
    · refine (ZoneBoard.state_modify_ne _ _ ?_).trans hrun
      rintro rfl
      simp [ValveBoard.isOn_release,hj] at ho

/-- What goes astray by opening is the output itself, of a zone that is not on the board. -/
theorem Opens.stray (h : Opens site run p q) (hs : q.Astray site o) :
    p.Astray site o ∨ site.feed? run.zone=some o ∧ p.zones.size≤run.zone.toNat := by
  cases h with
  | @opened k now hk hw =>
    obtain ⟨hon,unused⟩ := hs
    by_cases e : o=k
    · subst e
      refine Or.inr ⟨hk,Nat.not_lt.mp fun hlt => unused ⟨run.zone,hk,?_⟩⟩
      obtain ⟨s,hs⟩ := Option.isSome_iff_exists.mp (ZoneBoard.status?_isSome.mpr hlt)
      exact ZoneBoard.state_modify_self _ hs
    · rw [ValveBoard.isOn_set,if_neg fun k => e k.1] at hon
      refine Or.inl ⟨hon,?_⟩
      rintro ⟨j,hj,hrun⟩
      refine unused ⟨j,hj,(ZoneBoard.state_modify_ne _ _ ?_).trans hrun⟩
      rintro rfl
      exact e (Option.some.inj (hj.symm.trans hk))

/-- A second releases the outputs of all zones whose run it ends. -/
theorem tick_tidies (size : p.zones.size≤256) : Tidies site p (p.tick site) := by
  refine tidies_of_running (fun o ho => ?_) fun i o hi ho hrun => ?_
  · rw [isOn_tick,Bool.and_eq_true] at ho
    exact ho.1
  · obtain ⟨s,hs,hst⟩ := ZoneBoard.exists_status (b:=p.zones) (z:=i) (by simp [hrun])
    have tick : (p.tick site).zones.status? i=some s.tick.1 := by
      rw [tick,ZoneBoard.status?_tick,hs,Option.map_some]
    rw [hrun] at hst
    rw [ZoneBoard.state_of_status? tick,
      (ZoneStatus.tick_settled (z:=s) (by rw [hst]; rfl)).2]
    refine ⟨hst,fun ended => ?_⟩
    have released : (p.zones.tick.2.map site.ended?).contains (some o)=true :=
      List.contains_iff_mem.mpr (List.mem_map.mpr
        ⟨⟨i,.finished⟩,(ZoneBoard.mem_tick size).mpr ⟨s,hs,ended⟩,hi⟩)
    rw [isOn_tick,released,Bool.not_true,Bool.and_false] at ho
    cases ho

theorem allOff_tidies : Tidies site p ⟨p.valves.allOff,p.zones.allOff⟩ :=
  fun o ho => absurd ho.1 (by simp)

/-- Matching the board to the site drops no zone that the site has. -/
theorem resize_tidies (size : p.zones.size≤255) :
    Tidies site p ⟨p.valves,p.zones.resize site.zoneCount.toNat⟩ := by
  refine tidies_of_running (fun _ ho => ho) fun i o hi _ hrun => ?_
  obtain ⟨s,hs,hst⟩ := ZoneBoard.exists_status (b:=p.zones) (z:=i) (by simp [hrun])
  obtain ⟨z,hz,_⟩ := Option.bind_eq_some_iff.mp hi
  have board : i.toNat<p.zones.size := (List.getElem?_eq_some_iff.mp hs).1
  have list : i.toNat<site.zones.length := (List.getElem?_eq_some_iff.mp hz).1
  have count : i.toNat<site.zoneCount.toNat := by
    rw [Site.zoneCount,lengthCapped,UInt8.toNat_ofNat_of_lt' (by simp only [UInt8.size]; omega)]
    omega
  rw [ZoneBoard.state_of_status? (ZoneBoard.status?_resize count hs),hst,hrun]

/-- Zones shut one after the other, outputs and board apart. -/
theorem shutAll_tidies {l : List (UInt8×UInt8)} {out : UInt8×UInt8 → Option UInt16}
    (feed : ∀ x∈l,site.feed? x.1=out x) (f : ZoneStatus → ZoneStatus) (p : Plant) :
    Tidies site p ⟨l.foldl (fun v x => v.release (out x)) p.valves,
      (l.map (·.1)).foldl (fun b i => b.modify i f) p.zones⟩ := by
  induction l generalizing p with
  | nil => exact .refl p
  | cons x l ih =>
    have first : Shuts site x.1 p _ := .shut f
    rw [feed x List.mem_cons_self] at first
    exact first.tidies.trans (ih (fun y hy => feed y (List.mem_cons_of_mem _ hy)) _)

/-- Zones that the site does not have are dropped from the board. -/
theorem prune_tidies (l : List UInt8) (p : Plant) : Tidies site p ⟨p.valves,
    l.foldl (fun b i => if (site.zone? i).isSome then b else b.forceOff i) p.zones⟩ := by
  induction l generalizing p with
  | nil => exact .refl p
  | cons i l ih =>
    rw [List.foldl_cons]
    split_ifs with h
    · exact ih p
    · have feed : site.feed? i=none := by
        rw [Site.feed?,Option.not_isSome_iff_eq_none.mp h,Option.bind_none]
      exact (Shuts.of_feed_none feed fun _ => {}).tidies.trans (ih _)

end Plant

namespace Controller

open Plant (Shuts Tidies)

variable {σ : Type} [Carrier σ] {c : Controller σ} {o : UInt16}

theorem turnOffStation_tidies {id : UInt8} {l : List (UInt8×UInt8)}
    (hl : ∀ x∈l,∃ z,c.site.zone? x.1=some z ∧ z.station=id ∧ z.channel=x.2) :
    Tidies c.site c.plant (c.turnOffStation id l).plant := by
  cases hs : c.site.enabledStation? id with
  | none =>
    rw [c.turnOffStation_out hs]
    refine (List.foldlRecOn l _ (motive:=fun d : Controller σ =>
      d.site=c.site ∧ Tidies c.site c.plant d.plant) ⟨rfl,.refl _⟩ ?_).2
    rintro d ⟨hd,tidy⟩ x hx
    obtain ⟨z,hz,_⟩ := hl x hx
    refine ⟨(site_of_setting (setting_failSafeOff ..)).trans hd,tidy.trans ?_⟩
    rw [←hd] at hz ⊢
    exact (failSafeOff_shuts hz).tidies
  | some st =>
    have feed : ∀ x∈l,c.site.feed? x.1=
        if st.network.isLocal=true then st.output? x.2 else none := by
      intro x hx
      obtain ⟨z,hz,rfl,hch⟩ := hl x hx
      rw [Site.feed?_of_enabledStation? hz hs,hch]
    rw [c.turnOffStation_eq hs]
    cases hn : st.network.isLocal with
    | true =>
      simp only [hn,if_true] at feed
      rw [if_pos rfl,plant_of_still (still_pushZones ..),plant_stopZones,plant_setValves]
      exact Plant.shutAll_tidies feed (·.stop true) c.plant
    | false =>
      simp only [hn,Bool.false_eq_true,if_false] at feed
      have asked : (c.request id (offRequest st l)).1.plant=c.plant :=
        plant_of_still (still_request ..)
      have stops := Plant.shutAll_tidies feed (·.stop false) c.plant
      rw [show l.foldl (fun v _ => ValveBoard.release v none) c.plant.valves=c.plant.valves from
        List.foldl_fixed l] at stops
      rw [if_neg (by simp)]
      split_ifs
      · rw [plant_of_still (still_pushZones ..),plant_stopZones,asked]
        exact stops
      · rw [asked]
        exact .refl _

theorem turnOffAll_tidies : Tidies c.site c.plant c.turnOffAll.plant := by
  obtain ⟨ids,_,_,h⟩ := c.turnOffAll_eq
  rw [h]
  have pruned : Tidies c.site c.plant (plant {c with zones:=c.pruned}) :=
    Plant.prune_tidies c.zones.active c.plant
  refine (List.foldlRecOn ids _ (b:={c with zones:=c.pruned}) (motive:=fun d : Controller σ =>
    d.site=c.site ∧ Tidies c.site c.plant d.plant) ⟨rfl,pruned⟩ ?_).2
  rintro d ⟨hd,tidy⟩ id _
  refine ⟨(site_of_setting (setting_turnOffStation ..)).trans hd,tidy.trans ?_⟩
  have owned : ∀ x∈c.activeOf id,∃ z,d.site.zone? x.1=some z ∧ z.station=id ∧ z.channel=x.2 := by
    intro x hx
    rw [hd]
    exact (c.zone_of_activeOf hx).2
  have tidies := d.turnOffStation_tidies owned
  rwa [hd] at tidies

theorem stopAll_tidies : Tidies c.site c.plant c.stopAll.plant := by
  rw [show c.stopAll.plant=_ from congrArg Prod.snd c.still_stopAll]
  exact Plant.allOff_tidies

omit [Carrier σ] in
theorem size_resizeBoard (c : Controller σ) : c.resizeBoard.zones.size=c.site.zoneCount.toNat := by
  unfold resizeBoard
  dsimp only
  split_ifs with h
  · exact h.symm
  · exact ZoneBoard.size_resize ..

/-- A second matches the board to the site. -/
theorem size_tick (c : Controller σ) : c.tick.zones.size=c.site.zoneCount.toNat := by
  have board : c.tick.zones=c.resizeBoard.zones.tick.1 :=
    congrArg (fun g => g.2.zones) c.ground_tick_resized
  rw [board,ZoneBoard.size_tick,size_resizeBoard]

theorem tick_tidies (size : c.zones.size≤255) : Tidies c.site c.plant c.tick.plant := by
  have resized : Tidies c.site c.plant c.resizeBoard.plant := by
    unfold resizeBoard
    dsimp only
    split_ifs
    · exact .refl _
    · exact Plant.resize_tidies size
  have second : c.tick.plant=c.resizeBoard.plant.tick c.site :=
    congrArg Prod.snd c.ground_tick_resized
  rw [second]
  refine resized.trans (Plant.tick_tidies ?_)
  rw [show c.resizeBoard.plant.zones.size=_ from c.size_resizeBoard]
  exact Nat.le_succ_of_le (Site.zoneCount_le _)

/-- What is done to a controller: an action, or an edit of its site. -/
inductive Deed (σ : Type) where
  | act (a : Action σ)
  | revise (site : Site)

/-- Taking in a frame. -/
def Deed.hears {σ : Type} : Deed σ → Bool
  | act a => a.hears
  | revise _ => false

def undergo (c : Controller σ) : Deed σ → Controller σ
  | .act a => c.act a
  | .revise site => {c with site}

def undergoAll (c : Controller σ) (deeds : List (Deed σ)) : Controller σ := deeds.foldl undergo c

omit [Carrier σ] in
/-- An output that is on without a zone that runs. -/
def Astray (c : Controller σ) (o : UInt16) : Prop := c.plant.Astray c.site o

/-- What leaves an output on: the start of a zone that the board does not have, and an edit that takes
the output from a zone that runs. -/
def Strands (c : Controller σ) (o : UInt16) : Deed σ → Prop
  | .act (.operate (.startZone run)) =>
    (c.startZone run).2=true ∧ (c.capped run).minutes≠0 ∧ c.site.feed? run.zone=some o ∧
      c.zones.size≤run.zone.toNat
  | .revise site => ∃ i,c.site.feed? i=some o ∧ c.zones.state i=.running ∧ site.feed? i≠some o
  | _ => False

/-- Some deed left the output on, and from then on it has been astray. -/
def Stranded (c : Controller σ) (deeds : List (Deed σ)) (o : UInt16) : Prop :=
  ∃ before d after,deeds=before++d::after ∧ (c.undergoAll before).Strands o d ∧
    ∀ p,p<+:after → (c.undergoAll (before++d::p)).Astray o

theorem undergoAll_concat (deeds : List (Deed σ)) (d : Deed σ) :
    c.undergoAll (deeds++[d])=(c.undergoAll deeds).undergo d := by
  rw [undergoAll,List.foldl_append]
  rfl

/-- Actions keep the site; those that take in no frame keep the size of the board, or match it to the
site. -/
theorem act_frame {a : Action σ} (deaf : a.hears=false) : (c.act a).site=c.site ∧
    ((c.act a).zones.size=c.zones.size ∨ (c.act a).zones.size=c.site.zoneCount.toNat) := by
  by_cases ha : ∃ x s t,a=.operate (.outside x s t)
  · obtain ⟨x,s,t,rfl⟩ := ha
    exact ⟨rfl,Or.inl rfl⟩
  obtain rfl | strides | ⟨hears,_⟩ := c.act_cases fun x s t k => ha ⟨x,s,t,k⟩
  · exact ⟨c.strides_tick.site,Or.inr c.size_tick⟩
  · exact ⟨strides.site,Or.inl (size_of_edits (fun _ _ => Commanded.size) strides.board)⟩
  · rw [deaf] at hears
    cases hears

theorem act_stray (size : c.zones.size≤255) {a : Action σ} (deaf : a.hears=false)
    (h : (c.act a).plant.Astray c.site o) : c.Astray o ∨ c.Strands o (.act a) := by
  have same {d : Controller σ} (still : d.still=c.still) : d.plant.Astray c.site o → c.Astray o := by
    rw [plant_of_still still]
    exact id
  cases a with
  | ask id m => exact Or.inl (same (still_request ..) h)
  | scan => exact Or.inl (same ((still_sendFrame ..).trans (still_takeTransaction c)) h)
  | broadcastTime => exact Or.inl (same (still_sendFrame ..) h)
  | operate op =>
    cases op with
    | startZone run =>
      obtain shuts | ⟨accepted,length,opens⟩ := c.startZoneFrom_opens run .here
      · exact Or.inl (shuts.tidies o h)
      · refine (opens.stray h).imp_right ?_
        rintro ⟨feed,beyond⟩
        exact ⟨accepted,length,feed,beyond⟩
    | stopZone i => exact Or.inl ((c.stopZoneFrom_shuts i .here).tidies o h)
    | turnOffAll => exact Or.inl (c.turnOffAll_tidies o h)
    | stopAll => exact Or.inl (c.stopAll_tidies o h)
    | tick => exact Or.inl (tick_tidies size o h)
    | outside => exact Or.inl h
    | process => cases deaf
    | poll => cases deaf

theorem undergo_stray (size : c.zones.size≤255) {d : Deed σ} (deaf : d.hears=false)
    (h : (c.undergo d).Astray o) : c.Astray o ∨ c.Strands o d := by
  cases d with
  | act a =>
    refine act_stray size deaf ?_
    have site : (c.act a).site=c.site := (c.act_frame deaf).1
    rw [←site]
    exact h
  | revise site =>
    obtain ⟨on,unused⟩ := h
    by_cases used : c.plant.Used c.site o
    · obtain ⟨i,ho,run⟩ := used
      exact Or.inr ⟨i,ho,run,fun k => unused ⟨i,k,run⟩⟩
    · exact Or.inl ⟨on,used⟩

theorem undergo_size (size : c.zones.size≤255) {d : Deed σ} (deaf : d.hears=false) :
    (c.undergo d).zones.size≤255 := by
  cases d with
  | act a =>
    obtain ⟨_,same | matched⟩ := c.act_frame deaf
    · exact Nat.le_trans (Nat.le_of_eq same) size
    · exact Nat.le_trans (Nat.le_of_eq matched) (Site.zoneCount_le _)
  | revise => exact size

theorem undergoAll_size (size : c.zones.size≤255) {deeds : List (Deed σ)}
    (deaf : ∀ d∈deeds,d.hears=false) : (c.undergoAll deeds).zones.size≤255 :=
  List.foldlRecOn deeds _ (motive:=fun d : Controller σ => d.zones.size≤255) size
    fun _ h d hd => undergo_size h (deaf d hd)

theorem stranded_of_stray (size : c.zones.size≤255) (tidy : ∀ o,¬c.Astray o)
    {deeds : List (Deed σ)} (deaf : ∀ d∈deeds,d.hears=false)
    (h : (c.undergoAll deeds).Astray o) : c.Stranded deeds o := by
  induction deeds using List.reverseRecOn with
  | nil => exact absurd h (tidy o)
  | append_singleton deeds d ih =>
    have deaf' : ∀ d∈deeds,d.hears=false := fun e he => deaf e (List.mem_append_left _ he)
    have last := h
    rw [undergoAll_concat] at h
    obtain stray | strands :=
      undergo_stray (undergoAll_size size deaf') (deaf d (by simp)) h
    · obtain ⟨before,e,after,rfl,strands,since⟩ := ih deaf' stray
      refine ⟨before,e,after++[d],by simp,strands,fun p hp => ?_⟩
      obtain rfl | hp := List.prefix_concat_iff.mp hp
      · rw [show before++e::(after++[d])=(before++e::after)++[d] by simp]
        exact last
      · exact since p hp
    · refine ⟨deeds,d,[],rfl,strands,fun p hp => ?_⟩
      obtain rfl := List.prefix_nil.mp hp
      exact last

/-- An accepted start of some length turns the zone on exactly if the board has it. -/
theorem isOn_startZone {run : ZoneRun} (accepted : (c.startZone run).2=true)
    (length : (c.capped run).minutes≠0) :
    ((c.startZone run).1.zones.state run.zone).isOn=true ↔ run.zone.toNat<c.zones.size := by
  obtain ⟨confirmed,hz⟩ := startZoneFrom_accepted accepted length
  rw [startZone,hz]
  exact ZoneBoard.isOn_start c.zones (c.capped run) confirmed c.now

/-- Whatever is done and edited, but for frames that come in, each output that is on is that of a zone
of the present site that runs, unless a deed left it on and it has been astray since. A second matches
the board to the site, and an accepted start turns its zone on exactly if the board has it. -/
theorem outputs_used_unless_stranded (role : Role) (carrier : σ) (site : Site) {valves : ValveBoard}
    (off : ∀ o,valves.isOn o=false) (sensors : SensorBank) (clock : Instant)
    {deeds : List (Deed σ)} (deaf : ∀ d∈deeds,d.hears=false) :
    let c₀ := start role carrier site valves sensors clock
    let c := c₀.undergoAll deeds
    (∀ o,c.valves.isOn o=true → c.plant.Used c.site o ∨ c₀.Stranded deeds o) ∧
    c.tick.zones.size=c.site.zoneCount.toNat ∧
    ∀ run,(c.startZone run).2=true → (c.capped run).minutes≠0 →
      (((c.startZone run).1.zones.state run.zone).isOn=true ↔ run.zone.toNat<c.zones.size) := by
  intro c₀ c
  have size : c₀.zones.size≤255 :=
    Nat.le_trans (Nat.le_of_eq List.length_replicate) site.zoneCount_le
  have tidy : ∀ o,¬c₀.Astray o := by
    rintro o ⟨on,_⟩
    exact Bool.false_ne_true ((off o).symm.trans on)
  refine ⟨fun o on => ?_,c.size_tick,fun run accepted length => isOn_startZone accepted length⟩
  by_cases used : c.plant.Used c.site o
  · exact Or.inl used
  · exact Or.inr (stranded_of_stray size tidy deaf ⟨on,used⟩)

/-- A gateway at a site, with three outputs. -/
def gatewayAt (site : Site) : Controller ScriptedRadio :=
  start .gateway {kind:=.short} site (.ofOutputs [0,1,2]) {} ⟨0,0⟩

/-- The annex is added, and its zone started for a minute once the board has it. -/
def annexed : List (Deed ScriptedRadio) :=
  [.revise Config.estate.site,.act (.operate .tick),.act (.operate (.startZone {zone:=2,minutes:=1}))]

theorem outputs_used_unless_stranded_estate :
    let c := (gatewayAt Config.plot.site).undergoAll annexed
    c.valves.isOn 2=true ∧
      (c.plant.Used c.site 2 ∨ (gatewayAt Config.plot.site).Stranded annexed 2) ∧
      c.tick.zones.size=3 ∧ ((c.startZone {zone:=2,minutes:=1}).1.zones.state 2).isOn=true := by
  intro c
  have on : c.valves.isOn 2=true := by decide +kernel
  obtain ⟨used,size,started⟩ := outputs_used_unless_stranded .gateway
    ({kind:=.short} : ScriptedRadio) Config.plot.site (ValveBoard.isOn_ofOutputs [0,1,2]) {} ⟨0,0⟩
    (show ∀ d∈annexed,d.hears=false by decide)
  refine ⟨on,used 2 on,size.trans (by decide +kernel),?_⟩
  exact (started {zone:=2,minutes:=1} (by decide +kernel) (by decide +kernel)).mpr (by decide +kernel)

theorem plot_keeps_estate : Config.plot.site.Keeps Config.estate.site := by
  intro i hi _
  obtain ⟨z,hz⟩ := Option.isSome_iff_exists.mp hi
  have below : i.toNat<Config.plot.site.zones.length := (List.getElem?_eq_some_iff.mp hz).1
  rw [show Config.plot.site.zones.length=2 by decide +kernel] at below
  obtain rfl | rfl : i=0 ∨ i=1 := by
    simp only [←UInt8.toNat_inj]
    have h0 : (0 : UInt8).toNat=0 := rfl
    have h1 : (1 : UInt8).toNat=1 := rfl
    omega
  · decide +kernel
  · decide +kernel

/-- Between an edit and the next second both go wrong: a zone that was just added is started, the
start is accepted, and the board does not know of it; a zone that runs is removed, and the second
forgets it with its output on. -/
theorem edits_strand_outputs :
    let grown := (gatewayAt Config.plot.site).undergoAll [.revise Config.estate.site]
    let c := (grown.startZone {zone:=2,minutes:=1}).1
    let shrunk := (gatewayAt Config.estate.site).undergoAll
      [.act (.operate (.startZone {zone:=2,minutes:=1})),.revise Config.plot.site]
    Config.plot.Valid ∧ Config.estate.Valid ∧ Config.plot.site.OutputsDistinct ∧
      Config.estate.site.OutputsDistinct ∧ Config.plot.site.Keeps Config.estate.site ∧
      Config.estate.site.Keeps Config.plot.site ∧
      (grown.startZone {zone:=2,minutes:=1}).2=true ∧ (c.zones.state 2).isOn=false ∧
      c.tick.valves.isOn 2=true ∧ (∀ i,c.tick.zones.state i=.off) ∧
      shrunk.tick.valves.isOn 2=true ∧ ∀ i,shrunk.tick.zones.state i=.off := by
  intro grown c shrunk
  have idle : c.tick.zones=.ofCount 3 := by decide +kernel
  have idle' : shrunk.tick.zones=.ofCount 2 := by decide +kernel
  refine ⟨Config.plot_valid,Config.estate_valid,Config.plot_outputsDistinct,
    Config.estate_outputsDistinct,plot_keeps_estate,plot_keeps_estate.symm,by decide +kernel,
    by decide +kernel,by decide +kernel,fun i => ?_,by decide +kernel,fun i => ?_⟩
  · rw [idle]
    exact ZoneBoard.state_ofCount 3 i
  · rw [idle']
    exact ZoneBoard.state_ofCount 2 i

end Controller

end Watering
