import Watering.Proofs.Controller.Bookkeeping
import Watering.Proofs.Controller.Chronicle
import Watering.Proofs.Controller.Itemwise

namespace Watering

/-- The channel and the value that a reading tells. -/
def Event.told : Event → Option (UInt8×UInt16)
  | .sensorReading _ channel _ value => some (channel,value)
  | _ => none

def Event.isReading (e : Event) : Bool := e.told.isSome

/-- The channels that read otherwise than in the sample before; all of them if there was none. -/
def changed (last : Option (List UInt16)) (values : List UInt16) : List Nat :=
  (List.range values.length).filter fun i => last.all fun old => old[i]?≠values[i]?

/-- What is known of the channels once a reading was told. -/
def tell (known : UInt8 → Option UInt16) (x : UInt8×UInt16) : UInt8 → Option UInt16 :=
  Function.update known x.1 (some x.2)

/-- Readings put together: the latest of each channel. -/
def replay (es : List Event) : UInt8 → Option UInt16 :=
  (es.filterMap Event.told).foldl tell fun _ => none

section Changed

variable {last : Option (List UInt16)} {values : List UInt16}

theorem mem_changed {i : Nat} :
    i∈changed last values ↔ i<values.length ∧ ∀ old∈last,old[i]?≠values[i]? := by
  cases last <;> simp [changed]

/-- The values that are not those of the same place before, with their places. -/
def fresh (last values : List UInt16) : List (UInt16×Nat) :=
  values.zipIdx.filter fun x => last[x.2]?≠some x.1

theorem fresh_self (values : List UInt16) : fresh values values=[] := by
  refine List.filter_eq_nil_iff.mpr fun x m => ?_
  simpa using List.mem_zipIdx_iff_getElem?.mp m

theorem fresh_eq (last : Option (List UInt16)) (values : List UInt16) :
    fresh (last.getD []) values=(changed last values).map fun i => (values.getD i 0,i) := by
  have places : values.zipIdx=(List.range values.length).map fun i => (values.getD i 0,i) := by
    refine List.ext_getElem (by simp) fun i h _ => ?_
    simp only [List.length_zipIdx] at h
    simp [h]
  rw [fresh,places,List.filter_map,changed]
  congr 1
  refine List.filter_congr fun i hi => ?_
  have inside : i<values.length := List.mem_range.mp hi
  cases last <;> simp [inside]

/-- What is told of some channels replaces what was known of these. -/
theorem foldl_tell (is : List Nat) (small : ∀ i∈is,i<256) (known : UInt8 → Option UInt16)
    (channel : UInt8) :
    (is.map fun i => (UInt8.ofNat i,values.getD i 0)).foldl tell known channel=
      if channel.toNat∈is then some (values.getD channel.toNat 0) else known channel := by
  induction is generalizing known with
  | nil => rfl
  | cons i is ih =>
    obtain ⟨hi,rest⟩ := List.forall_mem_cons.mp small
    rw [List.map_cons,List.foldl_cons,ih rest]
    by_cases later : channel.toNat∈is
    · rw [if_pos later,if_pos (List.mem_cons_of_mem _ later)]
    · rw [if_neg later]
      by_cases here : channel.toNat=i
      · have same : channel=UInt8.ofNat i := by rw [←here,UInt8.ofNat_toNat]
        rw [if_pos (here ▸ List.mem_cons_self),same,tell,Function.update_self,
          UInt8.toNat_ofNat_of_lt' hi]
      · have other : channel≠UInt8.ofNat i := by
          rintro rfl
          exact here (UInt8.toNat_ofNat_of_lt' hi)
        rw [tell,Function.update_of_ne other,if_neg fun m => (List.mem_cons.mp m).elim here later]

end Changed

/-- What changed, told to who knows the sample before, makes the sample known. -/
theorem foldl_tell_changed {last : Option (List UInt16)} {values : List UInt16}
    (sized : ∀ old∈last,old.length=values.length) (small : values.length≤256)
    {known : UInt8 → Option UInt16} (before : ∀ channel,known channel=(last.getD [])[channel.toNat]?)
    (channel : UInt8) : ((changed last values).map fun i => (UInt8.ofNat i,values.getD i 0)).foldl
      tell known channel=values[channel.toNat]? := by
  rw [foldl_tell _ fun i hi => Nat.lt_of_lt_of_le (mem_changed.mp hi).1 small,before]
  by_cases h : channel.toNat∈changed last values
  · rw [if_pos h]
    simp [(mem_changed.mp h).1]
  rw [if_neg h]
  -- What did not change is known already, and beyond the last channel nothing ever was.
  by_cases inside : channel.toNat<values.length
  · by_contra differs
    refine h (mem_changed.mpr ⟨inside,fun old ho => ?_⟩)
    rwa [Option.mem_def.mp ho] at differs
  · have beyond : (last.getD [])[channel.toNat]?=none := by
      refine List.getElem?_eq_none ?_
      cases last with
      | none => exact Nat.zero_le _
      | some old =>
        rw [Option.getD_some,sized old rfl]
        exact Nat.le_of_not_lt inside
    rw [beyond,List.getElem?_eq_none (Nat.le_of_not_lt inside)]

theorem replay_append (es es' : List Event) :
    replay (es++es')=(es'.filterMap Event.told).foldl tell (replay es) := by
  rw [replay,List.filterMap_append,List.foldl_append,replay]

/-- Only readings tell anything. -/
theorem filterMap_told (es : List Event) :
    es.filterMap Event.told=(es.filter Event.isReading).filterMap Event.told := by
  rw [List.filterMap_filter]
  refine congrArg (List.filterMap · es) (funext fun e => ?_)
  cases e <;> rfl

namespace Controller

section Watch

variable {σ : Type} {c d : Controller σ}

/-- The sensors, and the readings that changes are measured against. -/
def watch (c : Controller σ) : SensorBank×List UInt16 := (c.sensors,c.lastReadings)

theorem watch_of_setting (h : d.setting=c.setting) : d.watch=c.watch :=
  congrArg (fun s => (s.sensors,s.lastReadings)) h

theorem watch_of_still (h : d.still=c.still) : d.watch=c.watch := watch_of_setting (setting_of_still h)

variable (c)

variable [Carrier σ]

end Watch

section Noted

variable {σ : Type} [Carrier σ] (c : Controller σ)

theorem unread_conclude (t : Transition) : NotesOnly (·.isReading=false) (·.conclude t) c := by
  cases hz : c.site.zone? t.zone with
  | some z => exact ⟨_,notes_conclude hz,List.forall_mem_singleton.mpr rfl⟩
  | none =>
    obtain ⟨i,e⟩ := t
    cases e with
    | unconfirmed was => exact notesOnly_record (by rfl) c
    | finished =>
      refine Notes.only fun j => ?_
      change (c.withJournal j).finishRun i=(c.finishRun i).withJournal j
      unfold finishRun
      rw [site_withJournal,show c.site.zone? i=none from hz]

/-- A second before waits and runs are counted down. -/
def begun (c : Controller σ) : Controller σ :=
  (resizeBoard {c with ticks:=c.ticks+1,link:={c.link with tick:=c.ticks+1}}).dropSettled

omit [Carrier σ] in
theorem notes_begun : Notes begun c [] := by
  intro j
  change dropSettled (ite (c.site.zoneCount.toNat=c.zones.size) _ _)=
    (dropSettled (ite (c.site.zoneCount.toNat=c.zones.size) _ _)).withJournal j
  split_ifs <;> rfl

/-- Before the sensors are looked at, no reading is noted. -/
theorem unread_counted : NotesOnly (·.isReading=false) counted c := by
  have down : Notes (fun d => {d with zones:=c.begun.zones.tick.1}) c.begun [] := fun _ => rfl
  have ended := notesOnly_foldl (l:=c.begun.zones.tick.2) (fun t _ d => unread_conclude d t)
    {c.begun with zones:=c.begun.zones.tick.1}
  obtain ⟨ns,notes,only⟩ := (c.notes_begun.comp down).only.comp ended
  refine ⟨ns,notes.congr fun j => ?_,only⟩
  have same : (c.withJournal j).begun=c.begun.withJournal j := c.notes_begun j
  change ((c.withJournal j).begun.zones.tick.2).foldl conclude
    {(c.withJournal j).begun with zones:=(c.withJournal j).begun.zones.tick.1}=_
  rw [same]
  rfl

theorem setting_counted : c.counted.setting={c.setting with ticks:=c.ticks+1} := by
  refine (setting_foldl_conclude _ c.begun.zones.tick.2).trans ?_
  change (dropSettled (ite (c.site.zoneCount.toNat=c.zones.size) _ _)).setting=_
  split_ifs <;> rfl

/-- How a reading is noted. -/
def reading (c : Controller σ) (channel : Nat) (value : UInt16) : Event :=
  .sensorReading c.unit (UInt8.ofNat channel) (c.site.sensorKind? c.unit (UInt8.ofNat channel)) value

omit [Carrier σ] in
theorem reading_of_setting {c d : Controller σ} (unit : d.registers=c.registers) (site : d.site=c.site)
    (channel : Nat) (value : UInt16) : d.reading channel value=c.reading channel value := by
  rw [reading,reading,Controller.unit,Controller.unit,unit,site]

omit [Carrier σ] in
theorem notes_readings (last values : List UInt16) :
    Notes (fun d => values.zipIdx.foldl (noteReading last) d) c
      ((fresh last values).map fun x => c.notice (c.reading x.2 x.1)) := by
  have one (d : Controller σ) (x : UInt16×Nat) : noteReading last d x=
      if decide (last[x.2]?≠some x.1)=true then d.record (d.reading x.2 x.1) else d := by
    unfold noteReading
    by_cases h : last[x.2]?=some x.1 <;> simp [h,reading]
  have fold (d : Controller σ) : values.zipIdx.foldl (noteReading last) d=
      (fresh last values).foldl (fun d x => d.record (d.reading x.2 x.1)) d := by
    rw [fresh,List.foldl_filter]
    exact congrArg (List.foldl · d values.zipIdx) (funext fun d => funext (one d))
  refine (notes_foldl (f:=fun d x => d.record (d.reading x.2 x.1)) fun d hd x _ => ?_).congr
    fun j => fold _
  have same : d.reading x.2 x.1=c.reading x.2 x.1 :=
    reading_of_setting (congrArg Setting.registers hd) (congrArg Setting.site hd) _ _
  rw [←same]
  exact ⟨fun _ => rfl,rfl⟩

theorem notes_checkSensors : Notes checkSensors c
    ((fresh c.lastReadings c.sensors.readings).map fun x => c.notice (c.reading x.2 x.1)) := by
  by_cases same : c.sensors.readings=c.lastReadings
  · rw [same,fresh_self]
    exact (notes_nothing c).congr fun _ => if_pos same
  · have kept (d : Controller σ) : Notes (fun d => {d with lastReadings:=c.sensors.readings}) d [] :=
      fun _ => rfl
    have all := ((c.notes_readings c.lastReadings c.sensors.readings).comp (kept _)).comp
      (notes_pushSensors c.sensors.readings _)
    rw [List.append_nil,List.append_nil] at all
    exact all.congr fun _ => if_neg same

theorem notes_sampled : Notes sampled c
    (if c.sensors.sample.2=true then (fresh c.lastReadings c.sensors.readings).map fun x =>
      c.notice (c.reading x.2 x.1) else []) := by
  have sample : Notes (fun d => {d with sensors:=d.sensors.sample.1}) c [] := fun _ => rfl
  split_ifs with dirty
  · exact (sample.comp (notes_checkSensors {c with sensors:=c.sensors.sample.1})).congr fun _ =>
      if_pos dirty
  · exact sample.congr fun _ => if_neg dirty

/-- What a second notes of readings: those that are fresh, if it is a sample. -/
theorem notes_tick : ∃ ns,Notes tick c ns ∧ (ns.map (·.event)).filter Event.isReading=
    if c.sensors.sample.2=true then (fresh c.lastReadings c.sensors.readings).map fun x =>
      c.reading x.2 x.1 else [] := by
  obtain ⟨ns,counted,unread⟩ := c.unread_counted
  have setting := c.setting_counted
  have sensors : c.counted.sensors=c.sensors := congrArg Setting.sensors setting
  have last : c.counted.lastReadings=c.lastReadings := congrArg Setting.lastReadings setting
  have told (i : Nat) (v : UInt16) : c.counted.reading i v=c.reading i v :=
    reading_of_setting (congrArg Setting.registers setting) (congrArg Setting.site setting) i v
  have quiet : (ns.map (·.event)).filter Event.isReading=[] := by
    refine List.filter_eq_nil_iff.mpr fun e he => ?_
    obtain ⟨n,hn,rfl⟩ := List.mem_map.mp he
    rw [unread n hn]
    exact Bool.false_ne_true
  refine ⟨_,(counted.comp c.counted.notes_sampled).congr fun j => tick_eq _,?_⟩
  rw [List.map_append,List.filter_append,quiet,sensors,last,List.nil_append]
  split_ifs
  · rw [List.map_map,List.filter_eq_self.mpr]
    · exact List.map_congr_left fun x _ => told x.2 x.1
    · intro e he
      obtain ⟨x,_,rfl⟩ := List.mem_map.mp he
      rfl
  · rfl

/-- Looking at the sensors ends with the report, if a reading changed. -/
theorem sampled_cases : ∃ d : Controller σ,
    (d.link=c.link ∧ d.eventMaster=c.eventMaster ∧ d.unit=c.unit) ∧
    d.watch=(c.sensors.sample.1,
      if c.sensors.sample.2=true then c.sensors.readings else c.lastReadings) ∧
    (c.sensors.sample.2=true ∧ c.sensors.readings≠c.lastReadings →
      c.sampled=d.pushSensors c.sensors.readings) ∧
    (¬(c.sensors.sample.2=true ∧ c.sensors.readings≠c.lastReadings) → c.sampled=d) := by
  set e : Controller σ := {c with sensors:=c.sensors.sample.1} with he
  by_cases dirty : c.sensors.sample.2=true
  swap
  · rw [if_neg dirty]
    exact ⟨e,⟨rfl,rfl,rfl⟩,rfl,fun k => absurd k.1 dirty,fun _ => if_neg dirty⟩
  have checked : c.sampled=e.checkSensors := if_pos dirty
  rw [checked,checkSensors_eq,if_pos dirty]
  by_cases same : c.sensors.readings=c.lastReadings
  · exact ⟨e,⟨rfl,rfl,rfl⟩,congrArg (e.sensors,·) same.symm,fun k => absurd same k.2,
      fun _ => if_pos same⟩
  · obtain ⟨parts,sensors⟩ := List.foldlRecOn (motive:=fun d : Controller σ =>
        (d.link=c.link ∧ d.eventMaster=c.eventMaster ∧ d.unit=c.unit) ∧ d.sensors=e.sensors)
      c.sensors.readings.zipIdx (noteReading c.lastReadings) (b:=e) ⟨⟨rfl,rfl,rfl⟩,rfl⟩
      fun d kept x _ => by
        unfold noteReading
        split_ifs <;> exact kept
    exact ⟨{c.sensors.readings.zipIdx.foldl (noteReading c.lastReadings) e with
      lastReadings:=c.sensors.readings},parts,congrArg (·,c.sensors.readings) sensors,
      fun _ => if_neg same,fun k => absurd ⟨dirty,same⟩ k⟩

/-- What is read is remembered if it is a sample. -/
theorem watch_tick : c.tick.watch=
    (c.sensors.sample.1,if c.sensors.sample.2=true then c.sensors.readings else c.lastReadings) := by
  have same : c.counted.watch=c.watch :=
    congrArg (fun s : Setting => (s.sensors,s.lastReadings)) c.setting_counted
  obtain ⟨sensors,last⟩ := Prod.mk.inj same
  obtain ⟨d,_,watch,differs,equal⟩ := c.counted.sampled_cases
  rw [sensors,last] at watch
  rw [tick_eq,←watch]
  by_cases news : c.counted.sensors.sample.2=true ∧ c.counted.sensors.readings≠c.counted.lastReadings
  · rw [differs news]
    exact watch_of_still (still_pushSensors ..)
  · rw [equal news]

end Noted

section Sent

variable {σ : Type} [Carrier σ] (c : Controller (Attempted σ))

/-- The report that a second owes to an event master that asked for such: of all the readings, if it is
a sample and a channel reads otherwise than in the last. -/
def due (c : Controller (Attempted σ)) (last : Option (List UInt16)) : Option Frame :=
  c.eventMaster.bind fun master =>
    if c.sensors.sample.2=true ∧ changed last c.sensors.readings≠[] ∧
        master.events.contains .reportSensors=true then
      some ⟨0,master.station,c.unit,.sensorsReport 0 c.sensors.readings⟩
    else none

end Sent

section Course

variable {σ : Type} [Carrier σ] {n : UInt8} {c : Controller σ} {es : List Event}
  {last : Option (List UInt16)}

/-- What is remembered is what was sampled last, and what was noted tells it. -/
structure Remembers (n : UInt8) (c : Controller σ) (es : List Event) (last : Option (List UInt16)) :
    Prop where
  count : c.sensors.count=n
  known : c.lastReadings=last.getD []
  sized : ∀ old∈last,old.length=n.toNat
  replayed : ∀ channel,replay es channel=(last.getD [])[channel.toNat]?

theorem Remembers.tick (h : Remembers n c es last) {ns : List Notification}
    (noted : c.Records .tick ns) : Remembers n c.tick (es++ns.map (·.event))
      (if c.sensors.sample.2=true then some c.sensors.readings else last) := by
  obtain ⟨sensors,remembered⟩ := Prod.mk.inj c.watch_tick
  have length : c.sensors.readings.length=n.toNat := by
    rw [SensorBank.readings,List.length_map,List.length_range,h.count]
  obtain ⟨ns',notes,readings⟩ := c.notes_tick
  obtain rfl : ns'=ns := noted.unique fun j => congrArg journal (notes j)
  have replayed (channel : UInt8) := congrFun (replay_append es (ns'.map (·.event))) channel
  rw [filterMap_told,readings,h.known,fresh_eq] at replayed
  have count : c.tick.sensors.count=n := (congrArg SensorBank.count sensors).trans h.count
  by_cases dirty : c.sensors.sample.2=true
  · rw [if_pos dirty] at remembered replayed ⊢
    refine ⟨count,remembered,fun old ho => ?_,fun channel => ?_⟩
    · rw [←Option.mem_some_iff.mp ho,length]
    · have told : (((changed last c.sensors.readings).map fun i => (c.sensors.readings.getD i 0,i)).map
          fun x => c.reading x.2 x.1).filterMap Event.told=(changed last c.sensors.readings).map fun i =>
            (UInt8.ofNat i,c.sensors.readings.getD i 0) := by
        rw [List.map_map,List.filterMap_map]
        exact congrFun List.filterMap_eq_map _
      rw [replayed channel,told]
      exact foldl_tell_changed (fun old ho => (h.sized old ho).trans length.symm)
        (by rw [length]; exact n.toNat_lt.le) h.replayed channel
  · rw [if_neg dirty] at remembered replayed ⊢
    exact ⟨count,remembered.trans h.known,h.sized,fun channel => (replayed channel).trans
      (h.replayed channel)⟩

end Course

end Controller

end Watering
