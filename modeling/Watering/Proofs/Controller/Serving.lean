import Watering.Proofs.Controller.Notes
import Watering.Proofs.Zone.Account

namespace Watering.Controller

variable {σ : Type}

/-- What a request that sets no zones can have done: an answer is sent, an event of no zone is noted,
registers are written, or an event master is named. -/
inductive Serving
  | told (m : Message) : m.function≠.zonesSet → Serving
  | noted (e : Event) : e.zone?=none → Serving
  | wrote : Registers → Serving
  | named : EventMaster → Serving

variable [Carrier σ]

def Serving.act (f : Frame) (c : Controller σ) : Serving → Controller σ
  | told m _ => c.reply f m
  | noted e _ => c.record e
  | wrote registers => {c with registers}
  | named m => {c with eventMaster:=some m}

/-- Whatever the journal holds, the same servings are all that is done. -/
def ServedBy (f : Frame) (g : Controller σ → Controller σ) (c : Controller σ) : Prop :=
  ∃ servings : List Serving,∀ j,g (c.withJournal j)=servings.foldl (Serving.act f) (c.withJournal j)

variable {f : Frame} {g k : Controller σ → Controller σ} {c : Controller σ}

theorem Serving.aside (f : Frame) (x : Serving) (c : Controller σ) :
    NotesOnly (·.zone?=none) (Serving.act f · x) c := by
  cases x with
  | told m => exact (notes_reply f m c).only
  | noted e h => exact notesOnly_record h c
  | wrote registers => exact Notes.only fun _ => rfl
  | named m => exact Notes.only fun _ => rfl

theorem servedBy_nothing (f : Frame) (c : Controller σ) : ServedBy f (fun d => d) c :=
  ⟨[],fun _ => rfl⟩

theorem servedBy_one (f : Frame) (x : Serving) (c : Controller σ) :
    ServedBy f (Serving.act f · x) c := ⟨[x],fun _ => rfl⟩

theorem ServedBy.congr (h : ServedBy f g c) (same : ∀ j,k (c.withJournal j)=g (c.withJournal j)) :
    ServedBy f k c := by
  obtain ⟨servings,done⟩ := h
  exact ⟨servings,fun j => (same j).trans (done j)⟩

theorem ServedBy.aside (h : ServedBy f g c) : NotesOnly (·.zone?=none) g c := by
  obtain ⟨servings,done⟩ := h
  exact (notesOnly_foldl (fun x _ => Serving.aside f x) c).congr done

theorem ServedBy.comp (h : ServedBy f g c) (h' : ServedBy f k (g c)) :
    ServedBy f (fun d => k (g d)) c := by
  obtain ⟨ns,notes,_⟩ := h.aside
  obtain ⟨servings,done⟩ := h
  obtain ⟨servings',done'⟩ := h'
  refine ⟨servings++servings',fun j => ?_⟩
  dsimp only
  rw [List.foldl_append,←done j,notes j,done']

/-- What every serving keeps. -/
theorem ServedBy.keeps {P : Controller σ → Prop} (h : ServedBy f g c)
    (step : ∀ d x,P d → P (Serving.act f d x)) (hc : P c) : P (g c) := by
  obtain ⟨servings,done⟩ := h
  rw [show g c=servings.foldl (Serving.act f) c from done c.journal]
  exact List.foldlRecOn servings _ hc fun d hd x _ => step d x hd

theorem servedBy_reply {m : Message} (h : m.function≠.zonesSet) (c : Controller σ) :
    ServedBy f (·.reply f m) c := servedBy_one f (.told m h) c

theorem servedBy_reject (f : Frame) (e : Exception) (tell : Bool) (c : Controller σ) :
    ServedBy f (fun d => (d.reject f e tell).1) c := by
  have noted : ServedBy f (fun d => if e=.applyFailure then
      d.record (.error (f.function.name++" from station "++toString f.source.toNat++
        " could not be applied")) else d) c := by
    by_cases h : e=.applyFailure
    · exact (servedBy_one f (.noted (.error _) rfl) c).congr fun _ => if_pos h
    · exact (servedBy_nothing f c).congr fun _ => if_neg h
  have told (d : Controller σ) : ServedBy f (fun d => if tell then
      d.reply f (.responseError f.function.code e) else d) d := by
    cases tell with
    | true => exact servedBy_reply (by nofun) d
    | false => exact servedBy_nothing f d
  exact noted.comp (told _)

theorem servedBy_acknowledge (f : Frame) (flags : AckFlags) (report : Controller σ → Message)
    (same : ∀ d j,report (d.withJournal j)=report d) (other : ∀ d,(report d).function≠.zonesSet)
    (c : Controller σ) : ServedBy f (fun d => (d.acknowledge f flags report).1) c := by
  have full : ServedBy f (fun d => if flags.contains .report then d.reply f (report d) else d) c := by
    by_cases h : flags.contains .report=true
    · refine (servedBy_reply (other c) c).congr fun j => (if_pos h).trans ?_
      rw [same]
    · exact (servedBy_nothing f c).congr fun _ => if_neg h
  have brief (d : Controller σ) : ServedBy f (fun d => if flags.contains .brief then
      d.reply f (.responseOk f.function.code) else d) d := by
    by_cases h : flags.contains .brief=true
    · exact (servedBy_reply (by nofun) d).congr fun _ => if_pos h
    · exact (servedBy_nothing f d).congr fun _ => if_neg h
  exact full.comp (brief _)

theorem servedBy_serveZonesRead (f : Frame) (first count : UInt8) :
    ServedBy f (fun d => (d.serveZonesRead f first count).1) c := by
  unfold serveZonesRead
  cases ha : c.addressable? .status with
  | none =>
    refine (servedBy_reject f .illegalAddress true c).congr fun j => ?_
    rw [addressable?_withJournal,ha]
  | some st =>
    cases hr : resolveRange first count st.zoneCount with
    | none =>
      refine (servedBy_reject f .illegalAddress true c).congr fun j => ?_
      rw [addressable?_withJournal,ha]
      dsimp only
      rw [hr]
    | some r =>
      refine (servedBy_reply (m:=c.zonesReport st r.1 r.2) nofun c).congr fun j => ?_
      rw [addressable?_withJournal,ha]
      dsimp only
      rw [hr]
      rfl

theorem servedBy_serveSensorsRead (f : Frame) (first count : UInt8) :
    ServedBy f (fun d => (d.serveSensorsRead f first count).1) c := by
  unfold serveSensorsRead
  cases ha : c.addressable? .status with
  | none =>
    refine (servedBy_reject f .illegalAddress true c).congr fun j => ?_
    rw [addressable?_withJournal,ha]
  | some st =>
    cases hr : resolveRange first count c.sensors.count with
    | none =>
      refine (servedBy_reject f .illegalAddress true c).congr fun j => ?_
      rw [addressable?_withJournal,ha]
      dsimp only
      rw [sensors_withJournal,hr]
    | some r =>
      refine (servedBy_reply (m:=.sensorsReport r.1 ((span r.1 r.2).map c.sensors.read)) nofun c).congr
        fun j => ?_
      rw [addressable?_withJournal,ha]
      dsimp only
      rw [sensors_withJournal,hr]
      rfl

theorem servedBy_serveRegistersRead (f : Frame) (first count : UInt8) :
    ServedBy f (fun d => (d.serveRegistersRead f first count).1) c := by
  unfold serveRegistersRead
  cases hr : resolveRange first count (UInt8.ofNat (min c.registerContext.count 255)) with
  | none =>
    refine (servedBy_reject f .illegalAddress true c).congr fun j => ?_
    rw [registerContext_withJournal,hr]
  | some r =>
    refine (servedBy_reply (m:=c.registersReport r.1 r.2) nofun c).congr fun j => ?_
    rw [registerContext_withJournal,hr]
    rfl

theorem servedBy_serveRegistersSet (f : Frame) (flags : AckFlags) (first : UInt8)
    (values : List UInt16) : ServedBy f (fun d => (d.serveRegistersSet f flags first values).1) c := by
  unfold serveRegistersSet
  dsimp only
  by_cases h : values=[] ∨ min c.registerContext.count 255<first.toNat+values.length
  · refine (servedBy_reject f .illegalAddress (flags.contains .error) c).congr fun j => ?_
    rw [registerContext_withJournal,if_pos h]
  cases hw : c.registers.writeAll c.clock.seconds first values with
  | mk registers ok =>
    have written := servedBy_one f (.wrote registers) c
    cases ok with
    | false =>
      refine (written.comp (servedBy_reject f .applyFailure (flags.contains .error) _)).congr fun j => ?_
      rw [registerContext_withJournal,if_neg h,registers_withJournal,clock_withJournal,hw]
      rfl
    | true =>
      refine (written.comp (servedBy_acknowledge f flags
        (fun d => d.registersReport first (UInt8.ofNat values.length)) (fun _ _ => rfl) nofun _)).congr
          fun j => ?_
      rw [registerContext_withJournal,if_neg h,registers_withJournal,clock_withJournal,hw]
      rfl

theorem servedBy_serveEventMasterSet (f : Frame) (flags : AckFlags) (events : EventFlags)
    (master : UInt8) (address : UInt16) :
    ServedBy f (fun d => (d.serveEventMasterSet f flags events master address).1) c := by
  let m : EventMaster := if events.contains .registerSelf then ⟨f.source,f.source.toUInt16,events⟩
    else ⟨master,address,events⟩
  exact (servedBy_one f (.named m) c).comp
    (servedBy_acknowledge f flags eventMasterReport (fun _ _ => rfl) nofun _)

/-- Only a request to set zones has more done than such servings. -/
theorem servedBy_serve (h : f.function≠.zonesSet) : ServedBy f (fun d => (d.serve f).1) c := by
  obtain ⟨transaction,target,source,m⟩ := f
  cases m with
  | zonesSet => exact absurd rfl h
  | zonesRead => exact servedBy_serveZonesRead ..
  | sensorsRead => exact servedBy_serveSensorsRead ..
  | registersRead => exact servedBy_serveRegistersRead ..
  | registersSet => exact servedBy_serveRegistersSet ..
  | eventMasterRead => exact (servedBy_reply (m:=c.eventMasterReport) nofun c).congr fun _ => rfl
  | eventMasterSet => exact servedBy_serveEventMasterSet ..
  | ping => exact servedBy_reply (by nofun) c
  | scan => exact servedBy_reply (by nofun) c
  | timeBroadcast time => exact servedBy_one _ (.wrote {c.registers with
      clockOffset:=time.toNat-c.clock.seconds}) c
  | zonesReport => exact servedBy_nothing _ c
  | sensorsReport => exact servedBy_nothing _ c
  | registersReport => exact servedBy_nothing _ c
  | eventMasterReport => exact servedBy_nothing _ c
  | scanReply => exact servedBy_nothing _ c
  | pingReply => exact servedBy_nothing _ c
  | responseOk => exact servedBy_nothing _ c
  | responseError => exact servedBy_nothing _ c

end Watering.Controller
