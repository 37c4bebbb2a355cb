import Watering.Proofs.Controller.Moves

namespace Watering

namespace Journal

/-- A full window moves along by as many as are added. -/
theorem foldl_push_history (ns : List Notification) {j : Journal}
    (full : journalSize+ns.length≤j.history.length) :
    (ns.foldl push j).history=j.history.drop ns.length++ns := by
  induction ns generalizing j with
  | nil => exact (List.append_nil _).symm
  | cons n ns ih =>
    have added : (j.push n).history=j.history.tail++[n] :=
      congrArg (·++[n]) (if_pos (Nat.le_of_add_right_le full))
    rw [List.length_cons] at full
    rw [List.foldl_cons,ih ?_,added]
    · rw [List.drop_append_of_le_length ?_,List.drop_tail,List.append_assoc]
      · rfl
      · rw [List.length_tail]
        omega
    · rw [added,List.length_append,List.length_tail,List.length_singleton]
      omega

/-- What is added to every journal is no other list: a window of many different notes shows it all. -/
theorem eq_of_foldl_push {ns ns' : List Notification}
    (h : ∀ j : Journal,ns.foldl push j=ns'.foldl push j) : ns=ns' := by
  let mark (i : Nat) : Notification := ⟨⟨⟨0,i⟩,0⟩,.system ""⟩
  let window := (List.range (journalSize+(ns.length+ns'.length+1))).map mark
  have length : window.length=journalSize+(ns.length+ns'.length+1) := by
    rw [List.length_map,List.length_range]
  have first {l l' : List Notification} (hl : l'.length<window.length) :
      (window.drop l'.length++l)[0]?=some (mark l'.length) := by
    have left : 0 < (window.drop l'.length).length := by
      rw [List.length_drop]
      omega
    rw [List.getElem?_append_left left,List.getElem?_drop,List.getElem?_map,
      List.getElem?_range (by rwa [length] at hl)]
    rfl
  have shown := congrArg Journal.history (h ⟨window,[]⟩)
  rw [foldl_push_history ns (by dsimp only; omega),foldl_push_history ns' (by dsimp only; omega)]
    at shown
  have same : ns.length=ns'.length := by
    have e := congrArg (·[0]?) shown
    dsimp only at e
    rw [first (by omega),first (by omega)] at e
    exact congrArg (fun n : Notification => n.stamp.instant.nanos) (Option.some.inj e)
  rw [same] at shown
  exact List.append_cancel_left shown

end Journal

namespace Controller

variable {σ : Type}

def withJournal (c : Controller σ) (j : Journal) : Controller σ := {c with journal:=j}

section WithJournal

variable (c : Controller σ) (j : Journal)

theorem site_withJournal : (c.withJournal j).site=c.site := rfl

theorem unit_withJournal : (c.withJournal j).unit=c.unit := rfl

theorem zones_withJournal : (c.withJournal j).zones=c.zones := rfl

theorem eventMaster_withJournal : (c.withJournal j).eventMaster=c.eventMaster := rfl

theorem link_withJournal : (c.withJournal j).link=c.link := rfl

theorem sensors_withJournal : (c.withJournal j).sensors=c.sensors := rfl

theorem registers_withJournal : (c.withJournal j).registers=c.registers := rfl

theorem clock_withJournal : (c.withJournal j).clock=c.clock := rfl

theorem addressable?_withJournal (access : Access) :
    (c.withJournal j).addressable? access=c.addressable? access := rfl

theorem registerContext_withJournal : (c.withJournal j).registerContext=c.registerContext := rfl

theorem takeTransaction_withJournal : (c.withJournal j).takeTransaction=
    (c.takeTransaction.1.withJournal j,c.takeTransaction.2) := rfl

theorem commandedZones_withJournal (id : UInt8) (m : Message) :
    (c.withJournal j).commandedZones id m=c.commandedZones id m := rfl

end WithJournal

/-- What an event becomes in the journal. -/
def notice (c : Controller σ) (e : Event) : Notification := ⟨⟨c.now,0⟩,e⟩

/-- Whatever the journal holds, these are noted and the same is done. -/
def Notes (f : Controller σ → Controller σ) (c : Controller σ) (ns : List Notification) : Prop :=
  ∀ j,f (c.withJournal j)=(f c).withJournal (ns.foldl Journal.push j)

/-- Whatever the journal holds, these are noted, the same is done and the answer is the same. -/
def Responds {α : Type} (f : Controller σ → Controller σ×α) (c : Controller σ)
    (ns : List Notification) : Prop :=
  ∀ j,f (c.withJournal j)=((f c).1.withJournal (ns.foldl Journal.push j),(f c).2)

section Laws

variable {f g : Controller σ → Controller σ} {c : Controller σ} {ns ns' : List Notification}

theorem Notes.comp (h : Notes f c ns) (h' : Notes g (f c) ns') :
    Notes (fun d => g (f d)) c (ns++ns') := by
  intro j
  dsimp only
  rw [h j,h',List.foldl_append]

theorem Notes.congr (h : Notes f c ns) (same : ∀ j,g (c.withJournal j)=f (c.withJournal j)) :
    Notes g c ns := by
  intro j
  rw [same,h j,show g c=f c from same c.journal]

theorem Responds.notes {α : Type} {f : Controller σ → Controller σ×α} (h : Responds f c ns) :
    Notes (fun d => (f d).1) c ns := fun j => congrArg Prod.fst (h j)

theorem Responds.congr {α : Type} {f g : Controller σ → Controller σ×α} (h : Responds f c ns)
    (same : ∀ j,g (c.withJournal j)=f (c.withJournal j)) : Responds g c ns := by
  intro j
  rw [same,h j,show g c=f c from same c.journal]

theorem Notes.answering {α : Type} (h : Notes f c ns) (a : α) : Responds (fun d => (f d,a)) c ns :=
  fun j => congrArg (·,a) (h j)

/-- What is gone on with if the answer is yes. -/
theorem Responds.next {f g : Controller σ → Controller σ×Bool} (h : Responds g c ns)
    (h' : (g c).2=true → Responds f (g c).1 ns') :
    Responds (fun d => if (g d).2=true then f (g d).1 else ((g d).1,false)) c
      (ns++if (g c).2=true then ns' else []) := by
  intro j
  dsimp only
  rw [h j]
  dsimp only
  split_ifs with yes
  · rw [h' yes,List.foldl_append]
  · rw [List.append_nil]

theorem notes_nothing (c : Controller σ) : Notes (fun d => d) c [] := fun _ => rfl

theorem notes_record (e : Event) (c : Controller σ) : Notes (·.record e) c [c.notice e] :=
  fun _ => rfl

/-- Nothing is noted by many steps that note nothing. -/
theorem notes_foldl_nothing {α : Type} {f : Controller σ → α → Controller σ}
    (h : ∀ x d,Notes (f · x) d []) (l : List α) (c : Controller σ) :
    Notes (fun d => l.foldl f d) c [] := by
  induction l generalizing c with
  | nil => exact notes_nothing c
  | cons x l ih => exact (h x c).comp (ih (f c x))

theorem notice_of_setting {d : Controller σ} (h : d.setting=c.setting) (e : Event) :
    d.notice e=c.notice e :=
  congrArg (fun s : Setting => Notification.mk ⟨s.clock.shift s.registers.clockOffset,0⟩ e) h

/-- Many steps that each note one event. -/
theorem notes_foldl {α : Type} {f : Controller σ → α → Controller σ} {event : α → Event}
    {l : List α} (step : ∀ d : Controller σ,d.setting=c.setting → ∀ x∈l,
      Notes (f · x) d [d.notice (event x)] ∧ (f d x).setting=d.setting) :
    Notes (fun d => l.foldl f d) c (l.map fun x => c.notice (event x)) := by
  induction l generalizing c with
  | nil => exact notes_nothing c
  | cons x l ih =>
    obtain ⟨notes,setting⟩ := step c rfl x List.mem_cons_self
    have rest := ih (c:=f c x) fun d hd y hy => step d (hd.trans setting) y (List.mem_cons_of_mem _ hy)
    rw [show (l.map fun y => (f c x).notice (event y))=l.map fun y => c.notice (event y) from
      List.map_congr_left fun y _ => notice_of_setting setting (event y)] at rest
    exact notes.comp rest

end Laws

/-- Whatever the journal holds, the same is done, and only events of some kind are noted. -/
def NotesOnly (P : Event → Prop) (f : Controller σ → Controller σ) (c : Controller σ) : Prop :=
  ∃ ns,Notes f c ns ∧ ∀ n∈ns,P n.event

/-- The same of what also gives an answer. -/
def RespondsOnly {α : Type} (P : Event → Prop) (f : Controller σ → Controller σ×α)
    (c : Controller σ) : Prop :=
  ∃ ns,Responds f c ns ∧ ∀ n∈ns,P n.event

section Only

variable {P : Event → Prop} {f g : Controller σ → Controller σ} {c : Controller σ}

theorem Notes.only (h : Notes f c []) : NotesOnly P f c := ⟨[],h,nofun⟩

theorem notesOnly_record {e : Event} (h : P e) (c : Controller σ) : NotesOnly P (·.record e) c :=
  ⟨[c.notice e],notes_record e c,List.forall_mem_singleton.mpr h⟩

theorem NotesOnly.congr (h : NotesOnly P f c)
    (same : ∀ j,g (c.withJournal j)=f (c.withJournal j)) : NotesOnly P g c := by
  obtain ⟨ns,notes,only⟩ := h
  exact ⟨ns,notes.congr same,only⟩

theorem NotesOnly.comp (h : NotesOnly P f c) (h' : NotesOnly P g (f c)) :
    NotesOnly P (fun d => g (f d)) c := by
  obtain ⟨ns,notes,only⟩ := h
  obtain ⟨ns',notes',only'⟩ := h'
  exact ⟨ns++ns',notes.comp notes',fun n hn => (List.mem_append.mp hn).elim (only n) (only' n)⟩

theorem notesOnly_foldl {α : Type} {f : Controller σ → α → Controller σ} {l : List α}
    (h : ∀ x∈l,∀ d,NotesOnly P (f · x) d) (c : Controller σ) :
    NotesOnly P (fun d => l.foldl f d) c := by
  induction l generalizing c with
  | nil => exact (notes_nothing c).only
  | cons x l ih =>
    obtain ⟨first,rest⟩ := List.forall_mem_cons.mp h
    exact (first c).comp (ih rest (f c x))

theorem NotesOnly.answering {α : Type} (h : NotesOnly P f c) (a : α) :
    RespondsOnly P (fun d => (f d,a)) c := by
  obtain ⟨ns,notes,only⟩ := h
  exact ⟨ns,notes.answering a,only⟩

theorem respondsOnly_nothing {α : Type} (a : α) (c : Controller σ) :
    RespondsOnly P (fun d => (d,a)) c := (notes_nothing c).only.answering a

theorem Responds.only {α : Type} {f : Controller σ → Controller σ×α} (h : Responds f c []) :
    RespondsOnly P f c := ⟨[],h,nofun⟩

theorem RespondsOnly.congr {α : Type} {f g : Controller σ → Controller σ×α}
    (h : RespondsOnly P f c) (same : ∀ j,g (c.withJournal j)=f (c.withJournal j)) :
    RespondsOnly P g c := by
  obtain ⟨ns,responds,only⟩ := h
  exact ⟨ns,responds.congr same,only⟩

/-- What is gone on with if the answer is yes. -/
theorem RespondsOnly.next {f g : Controller σ → Controller σ×Bool} (h : RespondsOnly P g c)
    (h' : (g c).2=true → RespondsOnly P f (g c).1) :
    RespondsOnly P (fun d => if (g d).2=true then f (g d).1 else ((g d).1,false)) c := by
  obtain ⟨ns,responds,only⟩ := h
  by_cases yes : (g c).2=true
  · obtain ⟨ns',responds',only'⟩ := h' yes
    refine ⟨_,responds.next fun _ => responds',fun n hn => ?_⟩
    rw [if_pos yes] at hn
    exact (List.mem_append.mp hn).elim (only n) (only' n)
  · have refused : (g c).2=true → Responds f (g c).1 [] := fun k => absurd k yes
    refine ⟨_,responds.next refused,fun n hn => ?_⟩
    rw [if_neg yes,List.append_nil] at hn
    exact only n hn

end Only

theorem responds_setValve (st : Station) (ch : UInt8) (on : Bool) (c : Controller σ) :
    Responds (fun d => d.setValve st ch on) c [] := by
  intro j
  dsimp only
  unfold setValve
  cases st.output? ch <;> rfl

theorem notes_releaseValve (z : Zone) (c : Controller σ) : Notes (·.releaseValve z) c [] := by
  intro j
  have driven (st : Station) := (responds_setValve st z.channel false c).notes j
  dsimp only at driven ⊢
  unfold releaseValve
  rw [site_withJournal]
  cases c.site.station? z.station with
  | none => rfl
  | some st =>
    dsimp only
    split_ifs
    · exact driven st
    · rfl

variable [Carrier σ]

theorem responds_sendFrame (t : Destination) (f : Frame) (c : Controller σ) :
    Responds (fun d => d.sendFrame t f) c [] := by
  intro j
  dsimp only
  unfold sendFrame
  cases f.encode <;> rfl

theorem responds_request (id : UInt8) (m : Message) (c : Controller σ) :
    Responds (fun d => d.request id m) c [] := by
  intro j
  have sent := responds_sendFrame (.unit id)
    ⟨c.takeTransaction.2,id,c.takeTransaction.1.unit,m⟩ c.takeTransaction.1 j
  dsimp only at sent
  simp only [request,takeTransaction_withJournal,unit_withJournal,commandedZones_withJournal,sent]
  split_ifs <;> rfl

theorem notes_reply (f : Frame) (m : Message) (c : Controller σ) : Notes (·.reply f m) c [] :=
  (responds_sendFrame (.unit f.source) ⟨f.transaction,f.source,c.unit,m⟩ c).notes

theorem notes_notify (t : UInt8) (m : Message) (c : Controller σ) : Notes (·.notify t m) c [] :=
  (responds_sendFrame (.unit t) ⟨0,t,c.unit,m⟩ c).notes

theorem notes_pushZones (id : UInt8) (c : Controller σ) : Notes (·.pushZones id) c [] := by
  intro j
  dsimp only
  unfold pushZones
  rw [eventMaster_withJournal,site_withJournal,unit_withJournal]
  cases c.eventMaster with
  | none => rfl
  | some master =>
    cases c.site.station? id with
    | none => rfl
    | some st =>
      dsimp only
      split_ifs
      · exact notes_notify _ _ c j
      · rfl

theorem notes_pushSensors (values : List UInt16) (c : Controller σ) :
    Notes (·.pushSensors values) c [] := by
  intro j
  dsimp only
  unfold pushSensors
  rw [eventMaster_withJournal]
  cases c.eventMaster with
  | none => rfl
  | some master =>
    dsimp only
    split_ifs
    · exact notes_notify _ _ c j
    · rfl

theorem responds_close (z : Zone) (st : Station) (c : Controller σ) :
    Responds (fun d => d.close z st) c [] := by
  intro j
  dsimp only
  unfold close
  split_ifs
  · exact responds_setValve st z.channel false c j
  · exact responds_request z.station _ c j

theorem responds_openFor (z : Zone) (st : Station) (run : ZoneRun) (c : Controller σ) :
    Responds (fun d => d.openFor z st run) c [] := by
  intro j
  dsimp only
  unfold openFor
  split_ifs
  · exact responds_setValve st z.channel true c j
  · exact responds_request z.station _ c j

end Controller

end Watering
