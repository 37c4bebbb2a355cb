import Watering.Proofs.Controller.Itemwise
import Watering.Proofs.Controller.Permission

namespace Watering

namespace Registers

/-- A register was written: the field that it stands for took the value, and all others were kept. Half
of the clock is written as the other half stands. -/
inductive Written (now : Int) (value : UInt16) (r : Registers) : Nat → Registers → Prop
  | unit {id : UInt8} : id.toNat=value.toNat → id≠broadcastUnit →
    Written now value r 10 {r with unit:=id}
  | status : Written now value r 11 {r with status:=value}
  | network : Written now value r 12 {r with network:=value}
  | low {offset : Int} : clockBits (now+offset)%65536=value.toNat →
    clockBits (now+offset)/65536=clockBits (now+r.clockOffset)/65536 →
    Written now value r 14 {r with clockOffset:=offset}
  | high {offset : Int} : clockBits (now+offset)/65536=value.toNat →
    clockBits (now+offset)%65536=clockBits (now+r.clockOffset)%65536 →
    Written now value r 16 {r with clockOffset:=offset}
  | maxRun {minutes : UInt8} : minutes.toNat=value.toNat →
    Written now value r 18 {r with maxRun:=some minutes}

/-- A clock that is set shows what it was set to. -/
theorem clockBits_set (now : Int) {n : Nat} (h : n<4294967296) : clockBits (now+(n-now))=n := by
  unfold clockBits
  omega

theorem clockBits_lt (seconds : Int) : clockBits seconds<4294967296 := by
  unfold clockBits
  omega

theorem write?_written {r r' : Registers} {address : UInt8} {value : UInt16} {now : Int}
    (h : r.write? address value now=some r') : Written now value r address.toNat r' := by
  have hv := value.toNat_lt
  have hb := clockBits_lt (now+r.clockOffset)
  unfold write? at h
  generalize address.toNat=a at h
  split at h
  · cases ho : octet? value with
    | none =>
      rw [ho] at h
      cases h
    | some id =>
      rw [ho] at h
      dsimp only at h
      split_ifs at h with free
      obtain rfl := Option.some.inj h
      exact .unit (octet?_toNat ho) free
  · obtain rfl := Option.some.inj h
    exact .status
  · obtain rfl := Option.some.inj h
    exact .network
  · obtain rfl := Option.some.inj h
    have shown := clockBits_set now
      (n:=65536*(clockBits (now+r.clockOffset)/65536)+value.toNat) (by omega)
    refine .low ?_ ?_
    · rw [shown]
      omega
    · rw [shown]
      omega
  · obtain rfl := Option.some.inj h
    have shown := clockBits_set now
      (n:=65536*value.toNat+clockBits (now+r.clockOffset)%65536) (by omega)
    refine .high ?_ ?_
    · rw [shown]
      omega
    · rw [shown]
      omega
  · obtain ⟨minutes,ho,rfl⟩ := Option.map_eq_some_iff.mp h
    exact .maxRun (octet?_toNat ho)
  · cases h

end Registers

namespace Controller

variable {σ : Type} [Carrier σ]

section Zones

variable {c d : Controller (Attempted σ)} {st : Station} {schedule minutes ch : UInt8}

theorem calm_applyOne (st : Station) (schedule minutes ch : UInt8) (c : Controller σ) :
    Calm (·.applyOne st schedule minutes ch) c := by
  by_cases h0 : minutes=0
  · exact (calm_stopZoneFrom _ .peer c).congr fun _ => if_pos h0
  · exact (calm_startZoneFrom (channelRun st schedule minutes ch) .peer c).congr fun _ => if_neg h0

/-- Other stations are asked for changes of their zones only. -/
def AsksForZones (g : Frame) : Prop := g.function=.zonesSet

theorem givesOnly_close (c : Controller (Attempted σ)) (z : Zone) (st : Station) :
    GivesOnly AsksForZones c (c.close z st).1 := by
  unfold close
  split_ifs
  · exact givesOnly_of_link (c.setValve_frame ..).1
  · exact givesOnly_request _ _ fun _ => rfl

theorem givesOnly_openFor (c : Controller (Attempted σ)) (z : Zone) (st : Station) (run : ZoneRun) :
    GivesOnly AsksForZones c (c.openFor z st run).1 := by
  unfold openFor
  split_ifs
  · exact givesOnly_of_link (c.setValve_frame ..).1
  · exact givesOnly_request _ _ fun _ => rfl

theorem givesOnly_stopZoneFrom (c : Controller (Attempted σ)) (i : UInt8) :
    GivesOnly AsksForZones c (c.stopZoneFrom i .peer).1 := by
  refine stopZoneFrom_cases (P:=fun r => GivesOnly AsksForZones c r.1)
    ?unknown ?off ?out ?refused ?done
  case unknown => exact fun _ => givesOnly_of_link rfl
  case off => exact fun _ => givesOnly_of_link rfl
  case out => exact fun _ _ _ _ => givesOnly_of_link (c.failSafeOff_silent i).1
  case refused => exact fun z st _ _ _ _ => givesOnly_close c z st
  case done => exact fun z st _ _ _ _ => (givesOnly_close c z st).trans (givesOnly_of_link rfl)

theorem givesOnly_startZoneFrom (c : Controller (Attempted σ)) (run : ZoneRun) :
    GivesOnly AsksForZones c (c.startZoneFrom run .peer).1 := by
  refine startZoneFrom_cases (P:=fun r => GivesOnly AsksForZones c r.1)
    ?unfit ?out ?stop ?refused ?done
  case unfit => exact fun _ => givesOnly_of_link rfl
  case out => exact fun _ _ _ => givesOnly_of_link (c.failSafeOff_silent run.zone).1
  case stop => exact fun _ _ _ _ _ => givesOnly_stopZoneFrom c run.zone
  case refused => exact fun z st _ _ _ _ => givesOnly_openFor c z st _
  case done =>
    exact fun z st _ _ _ _ => (givesOnly_openFor c z st _).trans (givesOnly_of_link rfl)

theorem givesOnly_applyOne (c : Controller (Attempted σ)) (st : Station)
    (schedule minutes ch : UInt8) :
    GivesOnly AsksForZones c (c.applyOne st schedule minutes ch).1 := by
  unfold applyOne
  split_ifs
  · exact givesOnly_stopZoneFrom ..
  · exact givesOnly_startZoneFrom ..

theorem applyZones_eq (c : Controller σ) (st : Station) (schedule minutes : UInt8)
    (channels : List UInt8) : c.applyZones st schedule minutes channels=
      applyWhile (fun d ch => d.applyOne st schedule minutes ch) c channels := by
  induction channels generalizing c with
  | nil => rfl
  | cons ch channels ih => rw [applyZones_cons,applyWhile,ih]

/-- A channel that cannot be switched is left as it was, unless its zone belongs to a station that is
out of service: then it is off. -/
theorem applyOne_of_refused {c : Controller σ} (h : (c.applyOne st schedule minutes ch).2=false) :
    Retired (st.zoneOf ch) c (c.applyOne st schedule minutes ch).1 ∨
      Unaltered c (c.applyOne st schedule minutes ch).1 := by
  unfold applyOne at h ⊢
  split_ifs at h ⊢
  · exact stopZoneFrom_of_refused h
  · exact startZoneFrom_of_refused h

/-- At a site that is laid out, the zones of the own station belong to no other. -/
theorem unaltered_applyOne {c : Controller σ} (laid : c.site.Laid) (usable : c.Usable .control st)
    (hc : ch < st.zoneCount) (h : (c.applyOne st schedule minutes ch).2=false) :
    Unaltered c (c.applyOne st schedule minutes ch).1 := by
  refine (applyOne_of_refused h).resolve_left fun retired => ?_
  obtain ⟨z,hz,out⟩ := retired.station
  obtain ⟨z',hz',hid,-⟩ := laid.zone_of usable.1 hc
  obtain rfl := Option.some.inj (hz.symm.trans hz')
  rw [hid,Site.enabledStation?,usable.1,Option.filter_some,if_pos usable.2.1] at out
  cases out

theorem ascending_span (first count : UInt8) : (span first count).Pairwise (·<·) := by
  refine List.pairwise_map.mpr (List.pairwise_lt_range.imp_of_mem fun {i j} hi hj lt => ?_)
  have hi := List.mem_range.mp hi
  have hj := List.mem_range.mp hj
  rw [UInt8.lt_iff_toNat_lt,UInt8.toNat_ofNat_of_lt' (by simp only [UInt8.size]; omega),
    UInt8.toNat_ofNat_of_lt' (by simp only [UInt8.size]; omega)]
  omega

/-- The channels of a request, switched at the own station. -/
def zoneItems (st : Station) (flags : AckFlags) (schedule first minutes count : UInt8)
    (mask : ZoneMask) : Items σ UInt8 where
  step d ch := d.applyOne st schedule minutes ch
  asks := AsksForZones
  items := (span first count).filter mask.get
  flags
  report d := d.zonesReport st first count

end Zones

section Registers

/-- Values for consecutive registers. -/
def consecutive (first : UInt8) : List UInt16 → List (UInt8×UInt16)
  | [] => []
  | value::values => (first,value)::consecutive (first+1) values

/-- Write one register; the answer tells whether it was written. -/
def writeOne (c : Controller σ) (x : UInt8×UInt16) : Controller σ×Bool :=
  match c.registers.write? x.1 x.2 c.clock.seconds with
  | none => (c,false)
  | some registers => ({c with registers},true)

omit [Carrier σ] in
theorem writeOne_of_refused {c : Controller σ} {x : UInt8×UInt16} (h : (c.writeOne x).2=false) :
    (c.writeOne x).1=c := by
  unfold writeOne at h ⊢
  cases hw : c.registers.write? x.1 x.2 c.clock.seconds with
  | none => rfl
  | some registers =>
    rw [hw] at h
    cases h

omit [Carrier σ] in
theorem writeOne_of_accepted {c : Controller σ} {x : UInt8×UInt16} (h : (c.writeOne x).2=true) :
    ∃ registers,Registers.Written c.clock.seconds x.2 c.registers x.1.toNat registers ∧
      (c.writeOne x).1={c with registers} := by
  unfold writeOne at h ⊢
  cases hw : c.registers.write? x.1 x.2 c.clock.seconds with
  | none =>
    rw [hw] at h
    cases h
  | some registers => exact ⟨registers,Registers.write?_written hw,rfl⟩

omit [Carrier σ] in
theorem calm_writeOne (x : UInt8×UInt16) (c : Controller σ) : Calm (·.writeOne x) c := by
  refine Responds.only fun j => ?_
  unfold writeOne
  rw [registers_withJournal,clock_withJournal]
  cases c.registers.write? x.1 x.2 c.clock.seconds <;> rfl

omit [Carrier σ] in
theorem writeAll_eq (c : Controller σ) (first : UInt8) (values : List UInt16) :
    applyWhile writeOne c (consecutive first values)=
      let r := c.registers.writeAll c.clock.seconds first values
      ({c with registers:=r.1},r.2) := by
  induction values generalizing c first with
  | nil => rfl
  | cons value values ih =>
    rw [consecutive,applyWhile,Registers.writeAll,writeOne]
    cases c.registers.write? first value c.clock.seconds with
    | none => rfl
    | some registers => exact ih {c with registers} (first+1)

theorem consecutive_addresses (first : UInt8) (values : List UInt16) :
    (consecutive first values).map (·.1)=
      (List.range values.length).map fun i => UInt8.ofNat (first.toNat+i) := by
  induction values generalizing first with
  | nil => rfl
  | cons value values ih =>
    have next (i : Nat) : UInt8.ofNat ((first+1).toNat+i)=UInt8.ofNat (first.toNat+(i+1)) := by
      have one : (1 : UInt8).toNat=1 := rfl
      rw [←UInt8.toNat_inj,UInt8.toNat_ofNat',UInt8.toNat_ofNat',UInt8.toNat_add]
      omega
    rw [consecutive,List.map_cons,ih,List.length_cons,List.range_succ_eq_map,List.map_cons,
      List.map_map,Nat.add_zero,UInt8.ofNat_toNat]
    exact congrArg (first::·) (List.map_congr_left fun i _ => next i)

/-- The registers of a request are those that its report is on. -/
theorem consecutive_eq_span {first : UInt8} {values : List UInt16}
    (fits : first.toNat+values.length≤255) :
    (consecutive first values).map (·.1)=span first (UInt8.ofNat values.length) := by
  rw [consecutive_addresses,span,UInt8.toNat_ofNat_of_lt' (by simp only [UInt8.size]; omega),
    Nat.min_eq_left (by omega)]

/-- The registers of a request. -/
def registerItems (flags : AckFlags) (first : UInt8) (values : List UInt16) :
    Items σ (UInt8×UInt16) where
  step := writeOne
  asks _ := False
  items := consecutive first values
  flags
  report d := .registersReport first
    ((consecutive first values).map fun x => d.registers.read x.1 d.registerContext)

theorem serveRegistersSet_addressed {c : Controller σ} {f : Frame} {flags : AckFlags} {first : UInt8}
    {values : List UInt16} (h : c.Addresses first values) :
    c.serveRegistersSet f flags first values=
      let r := applyWhile writeOne c (consecutive first values)
      if r.2=true then r.1.acknowledge f flags fun d => .registersReport first
        ((consecutive first values).map fun x => d.registers.read x.1 d.registerContext)
      else r.1.reject f .applyFailure (flags.contains .error) := by
  have within : ¬(values=[] ∨ c.registerCount.toNat<first.toNat+values.length) :=
    not_or.mpr ⟨h.1,Nat.not_lt.mpr h.2⟩
  have fits := Nat.le_trans h.2 (Nat.le_of_lt_succ c.registerCount.toNat_lt)
  have report (d : Controller σ) : d.registersReport first (UInt8.ofNat values.length)=
      .registersReport first
        ((consecutive first values).map fun x => d.registers.read x.1 d.registerContext) := by
    rw [registersReport,←consecutive_eq_span fits,List.map_map]
    rfl
  unfold serveRegistersSet
  rw [min_registerContext_count,writeAll_eq]
  simp only [if_neg within,report]
  cases c.registers.writeAll c.clock.seconds first values with
  | mk registers ok => cases ok <;> rfl

end Registers

section Sets

variable {c : Controller (Attempted σ)} {f : Frame}

/-- A granted request for zones is completed or cut short, at a channel that is left as it was or whose
zone is of a station out of service. -/
theorem serve_zonesSet {flags : AckFlags} {schedule first minutes count : UInt8} {mask : ZoneMask}
    {st : Station} (hm : f.message=.zonesSet flags schedule first minutes count mask)
    (granted : c.Commandable first count st) :
    let s := zoneItems st flags schedule first minutes count mask
    (∃ t,c.Completes f s t) ∨ ∃ done ch later t,c.CutShort f s done ch later t ∧
      (Retired (st.zoneOf ch) t (s.step t ch).1 ∨ Unaltered t (s.step t ch).1) ∧
      (c.site.Laid → Unaltered t (s.step t ch).1) := by
  intro s
  have served (j : Journal) : (c.withJournal j).serve f=
      let r := applyWhile s.step (c.withJournal j) s.items
      if r.2=true then r.1.acknowledge f s.flags s.report
      else r.1.reject f .applyFailure (s.flags.contains .error) := by
    have grant : (c.withJournal j).grant first count mask=
        some (st,(span first count).filter mask.get) := grant_of_commandable granted
    rw [serve,hm]
    dsimp only
    rw [serveZonesSet_granted grant,applyZones_eq]
    rfl
  obtain completes | ⟨done,ch,later,t,cut⟩ := serve_itemwise served
    (fun d ch => calm_applyOne st schedule minutes ch d)
    (fun d ch => d.givesOnly_applyOne st schedule minutes ch) fun _ _ => rfl
  · exact .inl completes
  obtain ⟨usable,counted,within⟩ := granted
  refine .inr ⟨done,ch,later,t,cut,applyOne_of_refused cut.refused,fun laid => ?_⟩
  have setting : t.setting=c.setting := cut.applied.keeps (P:=fun d => d.setting=c.setting)
    (fun d x h => (setting_applyOne d x).trans h) rfl
  have site : t.site=c.site := site_of_setting setting
  have usable' : t.Usable .control st := by
    rwa [Usable,site,unit_of_setting setting]
  have listed : ch∈span first count := by
    have hch : ch∈s.items := by
      rw [cut.items]
      exact List.mem_append_right _ List.mem_cons_self
    exact (List.mem_filter.mp hch).1
  refine unaltered_applyOne (site▸laid) usable' (within.lt_limit ?_) cut.refused
  rwa [expand_of_ne counted]

/-- A request for registers that can be addressed is completed or cut short, at a register that cannot
take its value. -/
theorem serve_registersSet {flags : AckFlags} {first : UInt8} {values : List UInt16}
    (hm : f.message=.registersSet flags first values) (addressed : c.Addresses first values) :
    let s := registerItems flags first values
    (∃ t,c.Completes f s t) ∨ ∃ done x later t,c.CutShort f s done x later t := by
  intro s
  have served (j : Journal) : (c.withJournal j).serve f=
      let r := applyWhile s.step (c.withJournal j) s.items
      if r.2=true then r.1.acknowledge f s.flags s.report
      else r.1.reject f .applyFailure (s.flags.contains .error) := by
    have addressed' : (c.withJournal j).Addresses first values := addressed
    rw [serve,hm]
    dsimp only
    rw [serveRegistersSet_addressed addressed']
    rfl
  refine serve_itemwise served (fun d x => calm_writeOne x d) (fun d x => givesOnly_of_link ?_)
    fun _ _ => rfl
  change (d.writeOne x).1.link=d.link
  unfold writeOne
  split <;> rfl

/-- Sets that are granted, or whose registers can be addressed, are applied item by item in ascending
order. If an item cannot be, those before it stay applied, those behind it are not, one error is noted
and nothing is sent but the refusal. Otherwise all are, and what is asked for is sent: the report shows
the channels, or the registers as they read then. A channel that was refused is as it was, unless its
zone is of a station out of service; a register that was refused leaves everything as it was, and one
that was accepted changes the field it stands for. -/
theorem sets_apply_in_order (c : Controller (Attempted σ)) (f : Frame) :
    (∀ flags schedule first minutes count mask st,
      f.message=.zonesSet flags schedule first minutes count mask → c.Commandable first count st →
      let s := zoneItems st flags schedule first minutes count mask
      s.items.Pairwise (·<·) ∧ (∀ t,(s.report t).fits=true) ∧
      ((∃ t,c.Completes f s t) ∨ ∃ done ch later t,c.CutShort f s done ch later t ∧
        (Retired (st.zoneOf ch) t (s.step t ch).1 ∨ Unaltered t (s.step t ch).1) ∧
        (c.site.Laid → Unaltered t (s.step t ch).1))) ∧
    ∀ flags first values,f.message=.registersSet flags first values → c.Addresses first values →
      let s := registerItems flags first values
      (s.items.map (·.1)).Pairwise (·<·) ∧ (values.length≤126 → ∀ t,(s.report t).fits=true) ∧
      ((∃ t,c.Completes f s t) ∨ ∃ done x later t,c.CutShort f s done x later t) ∧
      ∀ (t : Controller (Attempted σ)) x,((s.step t x).2=false → (s.step t x).1=t) ∧
        ((s.step t x).2=true → ∃ registers,
          Registers.Written t.clock.seconds x.2 t.registers x.1.toNat registers ∧
            (s.step t x).1={t with registers}) := by
  constructor
  · intro flags schedule first minutes count mask st hm granted s
    have ascending : s.items.Pairwise (·<·) := (ascending_span first count).filter _
    exact ⟨ascending,fun t => (Message.fits_iff _).mpr nofun,serve_zonesSet hm granted⟩
  · intro flags first values hm addressed s
    have ascending : (s.items.map (·.1)).Pairwise (·<·) := by
      rw [show s.items=consecutive first values from rfl,consecutive_eq_span (Nat.le_trans addressed.2
        (Nat.le_of_lt_succ c.registerCount.toNat_lt))]
      exact ascending_span ..
    refine ⟨ascending,fun short t => (Message.fits_iff _).mpr ?_,serve_registersSet hm addressed,
      fun t x => ⟨writeOne_of_refused,writeOne_of_accepted⟩⟩
    rintro ⟨ws,hw,long⟩
    obtain rfl := Option.some.inj hw
    rw [List.length_map,←List.length_map (·.1),consecutive_addresses,List.length_map,
      List.length_range] at long
    omega

/-- A plot with only its first output wired, whose second channel cannot be started; its name and status
can be changed together. -/
theorem sets_apply_in_order_plot :
    let c := start .responder (⟨{kind:=.short},[]⟩ : Attempted ScriptedRadio) Config.plot.site
      (.ofOutputs [0]) {} ⟨0,0⟩
    let zones : Frame := ⟨1,1,9,.zonesSet .standard 0 0 5 2 ⟨[3]⟩⟩
    let registers : Frame := ⟨2,1,9,.registersSet .standard 10 [3,7]⟩
    (c.serve zones).1.zones.state 0=.running ∧ (c.serve zones).1.zones.state 1=.off ∧
    (∃ st t,c.CutShort zones (zoneItems st .standard 0 0 5 2 ⟨[3]⟩) [0] 1 [] t ∧
      Unaltered t (t.applyOne st 0 5 1).1) ∧
    ∃ t,c.Completes registers (registerItems .standard 10 [3,7]) t ∧
      (registerItems .standard 10 [3,7]).report t=.registersReport 10 [3,7] := by
  intro c zones registers
  obtain ⟨st,granted,first⟩ : ∃ st,c.Commandable 0 2 st ∧ (c.applyOne st 0 5 0).2=true :=
    ⟨_,⟨⟨by rw [show c.site=Config.plot.site from rfl,show c.unit=1 from rfl,
      Config.plot_valid.station?_site]; rfl,by decide,by decide⟩,by decide,by decide,by decide⟩,
      by decide +kernel⟩
  obtain ⟨-,-,switched⟩ := (sets_apply_in_order c zones).1 _ _ _ _ _ _ st rfl granted
  obtain ⟨-,-,written,-⟩ := (sets_apply_in_order c registers).2 _ _ _ rfl
    ⟨List.cons_ne_nil _ _,by decide +kernel⟩
  refine ⟨by decide +kernel,by decide +kernel,?_,?_⟩
  · obtain ⟨t,completes⟩ | ⟨done,ch,later,t,cut,-,kept⟩ := switched
    · exact absurd completes.outcome (by decide +kernel)
    have items : [0,1]=done++ch::later := cut.items
    have refused := cut.refused
    obtain _ | ⟨_,_ | ⟨_,done⟩⟩ := done
    · obtain ⟨rfl,-⟩ := List.cons.inj items
      cases cut.applied
      exact absurd (first.symm.trans refused) (by decide)
    · obtain ⟨rfl,rest⟩ := List.cons.inj items
      obtain ⟨rfl,rfl⟩ := List.cons.inj rest
      exact ⟨st,t,cut,kept Config.plot_valid.laid⟩
    · have short := congrArg List.length items
      simp at short
  · obtain ⟨t,completes⟩ | ⟨_,_,_,_,cut⟩ := written
    · refine ⟨t,completes,?_⟩
      obtain _ | ⟨_,_ | ⟨_,⟨⟩⟩⟩ := completes.applied
      rfl
    · exact absurd cut.outcome (by decide +kernel)

end Sets

end Controller

end Watering
