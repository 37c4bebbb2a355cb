import Watering.Proofs.Controller.Failure
import Watering.Proofs.Controller.Replies
import Watering.Proofs.Radio.Attempted

namespace Watering

section Apply

variable {S α : Type} {step : S → α → S×Bool} {s t : S} {x : α} {xs : List α}

/-- Items were applied one after the other, and each was accepted. -/
inductive Applied (step : S → α → S×Bool) : S → List α → S → Prop
  | nil {s : S} : Applied step s [] s
  | cons {s t : S} {x : α} {xs : List α} : (step s x).2=true → Applied step (step s x).1 xs t →
    Applied step s (x::xs) t

/-- Apply items up to the first that is refused; the answer tells whether none was. -/
def applyWhile (step : S → α → S×Bool) (s : S) : List α → S×Bool
  | [] => (s,true)
  | x::xs => if (step s x).2=true then applyWhile step (step s x).1 xs else ((step s x).1,false)

/-- Either all items were applied, or those before one that was refused; what stands behind that one
does not matter. -/
theorem applyWhile_cases (step : S → α → S×Bool) (s : S) (xs : List α) :
    (∃ t,Applied step s xs t ∧ applyWhile step s xs=(t,true)) ∨
      ∃ done x later t,xs=done++x::later ∧ Applied step s done t ∧ (step t x).2=false ∧
        applyWhile step s xs=((step t x).1,false) := by
  induction xs generalizing s with
  | nil => exact .inl ⟨s,.nil,rfl⟩
  | cons x xs ih =>
    rw [applyWhile]
    cases ok : (step s x).2 with
    | false => exact .inr ⟨[],x,xs,s,rfl,.nil,ok,if_neg Bool.false_ne_true⟩
    | true =>
      rw [if_pos rfl]
      obtain ⟨t,applied,e⟩ | ⟨done,y,later,t,rfl,applied,refused,e⟩ := ih (step s x).1
      · exact .inl ⟨t,.cons ok applied,e⟩
      · exact .inr ⟨x::done,y,later,t,rfl,.cons ok applied,refused,e⟩

/-- What every item keeps. -/
theorem Applied.keeps {P : S → Prop} (h : Applied step s xs t)
    (keep : ∀ s x,P s → P (step s x).1) (hs : P s) : P t := by
  induction h with
  | nil => exact hs
  | cons _ _ ih => exact ih (keep _ _ hs)

end Apply

def Event.isError : Event → Bool
  | .error _ => true
  | _ => false

namespace Controller

section Calm

variable {σ α : Type} {c : Controller σ}

/-- What `f` notes is no error. -/
abbrev Quiet (f : Controller σ → Controller σ) (c : Controller σ) : Prop :=
  NotesOnly (·.isError=false) f c

/-- The same of what also gives an answer. -/
abbrev Calm (f : Controller σ → Controller σ×α) (c : Controller σ) : Prop :=
  RespondsOnly (·.isError=false) f c

/-- An edit of the board with the note that goes with it. -/
theorem quiet_edit (f : ZoneBoard → ZoneBoard) {e : Event} (h : e.isError=false) (c : Controller σ) :
    Quiet (fun d => record {d with zones:=f d.zones} e) c :=
  ⟨[c.notice e],fun _ => rfl,List.forall_mem_singleton.mpr h⟩

theorem calm_applyWhile {step : Controller σ → α → Controller σ×Bool}
    (h : ∀ d x,Calm (step · x) d) (xs : List α) (c : Controller σ) :
    Calm (applyWhile step · xs) c := by
  induction xs generalizing c with
  | nil => exact respondsOnly_nothing true c
  | cons x xs ih => exact (h c x).next fun _ => ih (step c x).1

theorem quiet_failSafeOff (i : UInt8) (c : Controller σ) : Quiet (·.failSafeOff i) c := by
  have off (d : Controller σ) : Quiet (fun d => if d.zones.state i=.off then d else
      record {d with zones:=d.zones.forceOff i} (.zoneStopped i .stationDisabled)) d := by
    by_cases h : d.zones.state i=.off
    · exact (notes_nothing d).only.congr fun _ => if_pos h
    · exact (quiet_edit (·.forceOff i) rfl d).congr fun _ => if_neg h
  cases hz : c.site.zone? i with
  | none =>
    refine (off c).congr fun j => ?_
    simp only [failSafeOff,site_withJournal,hz]
  | some z =>
    refine ((notes_releaseValve z c).only.comp (off _)).congr fun j => ?_
    simp only [failSafeOff,site_withJournal,hz]

variable [Carrier σ]

theorem quiet_stopped (i : UInt8) (confirmed : Bool) (station : UInt8) (origin : Origin)
    (c : Controller σ) : Quiet (·.stopped i confirmed station origin) c := by
  have stop : Quiet (fun d => record {d with zones:=d.zones.stop i confirmed}
      (.zoneStopped i .commanded)) c := quiet_edit (·.stop i confirmed) rfl c
  by_cases here : origin=.here
  · exact (stop.comp (notes_pushZones station _).only).congr fun j => if_pos here
  · exact stop.congr fun j => if_neg here

theorem calm_stopZoneFrom (i : UInt8) (origin : Origin) (c : Controller σ) :
    Calm (·.stopZoneFrom i origin) c := by
  have other (j : Journal) := stopZoneFrom_else (c:=c.withJournal j) (i:=i) origin
  cases hz : c.site.zone? i with
  | none => exact (respondsOnly_nothing false c).congr fun j => (other j).1 hz
  | some z =>
    by_cases h : c.zones.state i=.off
    · exact (respondsOnly_nothing true c).congr fun j => (other j).2.1 z hz h
    cases hs : c.site.enabledStation? z.station with
    | none => exact ((quiet_failSafeOff i c).answering false).congr fun j => (other j).2.2 z hz h hs
    | some st =>
      exact ((responds_close z st c).only.next fun _ => (quiet_stopped i st.network.isLocal z.station
        origin _).answering true).congr fun j => stopZoneFrom_eq (c:=c.withJournal j) origin hz h hs

theorem quiet_started (run : ZoneRun) (confirmed : Bool) (now : Instant) (station : UInt8)
    (origin : Origin) (c : Controller σ) :
    Quiet (·.started run confirmed now station origin) c := by
  have start : Quiet (fun d => record {d with zones:=d.zones.start run confirmed now}
      (.zoneStarted run)) c := quiet_edit (·.start run confirmed now) rfl c
  by_cases here : origin=.here
  · exact (start.comp (notes_pushZones station _).only).congr fun j => if_pos here
  · exact start.congr fun j => if_neg here

theorem calm_startZoneFrom (run : ZoneRun) (origin : Origin) (c : Controller σ) :
    Calm (·.startZoneFrom run origin) c := by
  have other (j : Journal) := (c.withJournal j).startZoneFrom_else run origin
  by_cases hz : ∃ z,c.site.MayRun run.zone z
  · obtain ⟨z,hz⟩ := hz
    cases hs : c.site.enabledStation? z.station with
    | none =>
      exact ((quiet_failSafeOff run.zone c).answering false).congr fun j => (other j).2 z hz hs
    | some st =>
      have eq (j : Journal) : (c.withJournal j).startZoneFrom run origin=
          if (c.capped run).minutes=0 then (c.withJournal j).stopZoneFrom run.zone origin
          else if ((c.withJournal j).openFor z st (c.capped run)).2=true then
            (((c.withJournal j).openFor z st (c.capped run)).1.started (c.capped run)
              st.network.isLocal c.now z.station origin,true)
          else (((c.withJournal j).openFor z st (c.capped run)).1,false) :=
        startZoneFrom_eq (c:=c.withJournal j) origin hz hs
      by_cases h0 : (c.capped run).minutes=0
      · exact (calm_stopZoneFrom run.zone origin c).congr fun j => (eq j).trans (if_pos h0)
      · exact ((responds_openFor z st (c.capped run) c).only.next fun _ =>
          (quiet_started (c.capped run) st.network.isLocal c.now z.station origin _).answering
            true).congr fun j => (eq j).trans (if_neg h0)
  · exact (respondsOnly_nothing false c).congr fun j => (other j).1 fun z h => hz ⟨z,h⟩

end Calm

section Gives

variable {σ : Type} {c d e : Controller (Attempted σ)} {new new' : List Frame} {P : Frame → Prop}

/-- The octets that were given to the carrier, newest first; numbers in front of frames left out. -/
def given (c : Controller (Attempted σ)) : List (List UInt8) :=
  c.link.carrier.attempts.map fun x => Logged.inner x.1

/-- These frames were given to the carrier, in this order and whether it took them or not. -/
def Gives (c d : Controller (Attempted σ)) (new : List Frame) : Prop :=
  d.given=(new.map (·.octets)).reverse++c.given

/-- Nothing was given to the carrier but frames of some kind. -/
def GivesOnly (P : Frame → Prop) (c d : Controller (Attempted σ)) : Prop :=
  ∃ new,Gives c d new ∧ ∀ g∈new,P g

theorem gives_of_link (h : d.link=c.link) : Gives c d [] := by
  unfold Gives given
  rw [h]
  rfl

theorem Gives.trans (h : Gives c d new) (h' : Gives d e new') : Gives c e (new++new') := by
  unfold Gives at h h' ⊢
  rw [h',h,List.map_append,List.reverse_append,List.append_assoc]

theorem givesOnly_of_link (h : d.link=c.link) : GivesOnly P c d := ⟨[],gives_of_link h,nofun⟩

theorem GivesOnly.trans (h : GivesOnly P c d) (h' : GivesOnly P d e) : GivesOnly P c e := by
  obtain ⟨new,gives,only⟩ := h
  obtain ⟨new',gives',only'⟩ := h'
  exact ⟨new++new',gives.trans gives',fun g hg => (List.mem_append.mp hg).elim (only g) (only' g)⟩

variable [Carrier σ]

/-- One frame is given, if it fits. -/
theorem gives_sendFrame (c : Controller (Attempted σ)) (t : Destination) (f : Frame) :
    Gives c (c.sendFrame t f).1 (if f.message.fits=true then [f] else []) := by
  split_ifs with fits
  · have encoded : f.encode=.ok f.octets := Frame.encode_eq (of_decide_eq_true fits)
    obtain ⟨x,sent,inner⟩ := c.link.attempts_send t f.octets
    unfold Gives given
    simp only [sendFrame,encoded,sent,List.map_cons,inner]
    rfl
  · have long : maxPayload < f.message.payload.length := by simpa [Message.fits] using fits
    refine gives_of_link ?_
    unfold sendFrame
    rw [Frame.encode,if_pos long]

/-- What fits of some answers is given, in order. -/
theorem gives_answerAll (f : Frame) (ms : List Message) (c : Controller (Attempted σ)) :
    Gives c (c.answerAll f ms)
      ((ms.filter (·.fits)).map fun m => ⟨f.transaction,f.source,c.unit,m⟩) := by
  induction ms generalizing c with
  | nil => exact gives_of_link rfl
  | cons m ms ih =>
    have first := gives_sendFrame c (.unit f.source) ⟨f.transaction,f.source,c.unit,m⟩
    have rest := ih (c.reply f m)
    rw [unit_of_setting (setting_of_still (c.still_reply f m))] at rest
    rw [List.filter_cons]
    by_cases fits : m.fits=true
    · rw [if_pos fits] at first ⊢
      exact first.trans rest
    · rw [if_neg fits] at first ⊢
      exact first.trans rest

theorem givesOnly_sendFrame (c : Controller (Attempted σ)) (t : Destination) {f : Frame} (h : P f) :
    GivesOnly P c (c.sendFrame t f).1 := by
  refine ⟨_,gives_sendFrame c t f,fun g hg => ?_⟩
  split_ifs at hg
  · rwa [List.mem_singleton.mp hg]
  · cases hg

theorem givesOnly_request (c : Controller (Attempted σ)) (id : UInt8) {m : Message}
    (h : ∀ transaction,P ⟨transaction,id,c.unit,m⟩) : GivesOnly P c (c.request id m).1 := by
  obtain ⟨-,link,-⟩ := c.request_parts id m
  exact (givesOnly_sendFrame c.takeTransaction.1 _ (h _)).trans (givesOnly_of_link link)

end Gives

section Answers

variable {σ : Type} [Carrier σ] (f : Frame)

theorem inFlight_answerAll (ms : List Message) (c : Controller σ) :
    (c.answerAll f ms).inFlight=c.inFlight := by
  induction ms generalizing c with
  | nil => rfl
  | cons m ms ih => exact (ih _).trans (inFlight_sendFrame ..)

theorem notes_answerAll (ms : List Message) (c : Controller σ) : Notes (·.answerAll f ms) c [] :=
  notes_foldl_nothing (fun m d => notes_reply f m d) ms c

theorem acknowledge_eq (flags : AckFlags) (report : Controller σ → Message) (c : Controller σ) :
    c.acknowledge f flags report=
      (c.answerAll f ((if flags.contains .report then [report c] else [])++
        if flags.contains .brief then [.responseOk f.function.code] else []),
        .handled f.function) := by
  unfold acknowledge
  cases flags.contains .report <;> cases flags.contains .brief <;> rfl

/-- What is noted when an item cannot be applied. -/
def failure : Event :=
  .error (f.function.name++" from station "++toString f.source.toNat++" could not be applied")

theorem reject_applyFailure (tell : Bool) (c : Controller σ) :
    c.reject f .applyFailure tell=
      ((c.record (failure f)).answerAll f
        (if tell then [.responseError f.function.code .applyFailure] else []),
        .rejected f.function .applyFailure) := by
  cases tell <;> rfl

end Answers

/-- A change of many items: how one of them is applied, what that may ask of other stations, and the
report on all. -/
structure Items (σ α : Type) where
  step : Controller (Attempted σ) → α → Controller (Attempted σ)×Bool
  asks : Frame → Prop
  items : List α
  flags : AckFlags
  report : Controller (Attempted σ) → Message

section Change

variable {σ α : Type} [Carrier σ]

/-- The answers to a change that was carried out. -/
def Items.answers (s : Items σ α) (f : Frame) (t : Controller (Attempted σ)) : List Message :=
  (if s.flags.contains .report then [s.report t] else [])++
    if s.flags.contains .brief then [.responseOk f.function.code] else []

/-- All items were applied and led to `t`; no error was noted, and the answers were sent that were
asked for. -/
structure Completes (c : Controller (Attempted σ)) (f : Frame) (s : Items σ α)
    (t : Controller (Attempted σ)) : Prop where
  applied : Applied s.step c s.items t
  outcome : (c.serve f).2=.handled f.function
  still : (c.serve f).1.still=t.still
  inFlight : (c.serve f).1.inFlight=t.inFlight
  noted : Quiet (fun d => (d.serve f).1) c
  sent : ∃ asked,(∀ g∈asked,s.asks g) ∧ Gives c (c.serve f).1
    (asked++((s.answers f t).filter (·.fits)).map fun m => ⟨f.transaction,f.source,t.unit,m⟩)

/-- The items in `done` were applied and led to `t`, where `x` was refused. Nothing else was done; one
error was noted, and no answer was sent but of the refusal. -/
structure CutShort (c : Controller (Attempted σ)) (f : Frame) (s : Items σ α) (done : List α) (x : α)
    (later : List α) (t : Controller (Attempted σ)) : Prop where
  items : s.items=done++x::later
  applied : Applied s.step c done t
  refused : (s.step t x).2=false
  outcome : (c.serve f).2=.rejected f.function .applyFailure
  still : (c.serve f).1.still=(s.step t x).1.still
  inFlight : (c.serve f).1.inFlight=(s.step t x).1.inFlight
  noted : ∃ ns,Notes (fun d => (d.serve f).1) c ns ∧ ns.countP (·.event.isError)=1
  sent : GivesOnly (fun g => s.asks g ∨ g.function=.responseError) c (c.serve f).1

variable {c t : Controller (Attempted σ)} {f : Frame} {s : Items σ α}

omit [Carrier σ] in
theorem givesOnly_applied {xs : List α} (h : Applied s.step c xs t)
    (asks : ∀ d x,GivesOnly s.asks d (s.step d x).1) : GivesOnly s.asks c t :=
  h.keeps (P:=GivesOnly s.asks c) (fun d x k => k.trans (asks d x)) (givesOnly_of_link rfl)

/-- A request that leads to `t`, with these notes, and is then answered. -/
theorem serve_answered {ns : List Notification} {ms : List Message} {o : Watering.Outcome}
    (result : ∀ j,(c.withJournal j).serve f=
      ((t.withJournal (ns.foldl Journal.push j)).answerAll f ms,o)) :
    (c.serve f).2=o ∧ (c.serve f).1.still=t.still ∧ (c.serve f).1.inFlight=t.inFlight ∧
    Notes (fun d => (d.serve f).1) c ns ∧
    Gives t (c.serve f).1 ((ms.filter (·.fits)).map fun m => ⟨f.transaction,f.source,t.unit,m⟩) := by
  have now : c.serve f=
      ((t.withJournal (ns.foldl Journal.push c.journal)).answerAll f ms,o) := result c.journal
  rw [now]
  refine ⟨rfl,still_answerAll ms,inFlight_answerAll ..,fun j => ?_,?_⟩
  · have same (j : Journal) : (t.withJournal j).answerAll f ms=(t.answerAll f ms).withJournal j :=
      notes_answerAll f ms t j
    dsimp only
    rw [result j,now]
    dsimp only
    rw [same,same]
    rfl
  · exact (gives_of_link rfl).trans (gives_answerAll f ms (t.withJournal _))

/-- A change that is served item by item is completed or cut short. -/
theorem serve_itemwise
    (served : ∀ j,(c.withJournal j).serve f=
      let r := applyWhile s.step (c.withJournal j) s.items
      if r.2=true then r.1.acknowledge f s.flags s.report
      else r.1.reject f .applyFailure (s.flags.contains .error))
    (calm : ∀ d x,Calm (s.step · x) d) (asks : ∀ d x,GivesOnly s.asks d (s.step d x).1)
    (report : ∀ d j,s.report (d.withJournal j)=s.report d) :
    (∃ t,c.Completes f s t) ∨ ∃ done x later t,c.CutShort f s done x later t := by
  obtain ⟨ns,responds,quiet⟩ := calm_applyWhile calm s.items c
  have ran (j : Journal) : applyWhile s.step (c.withJournal j) s.items=
      ((applyWhile s.step c s.items).1.withJournal (ns.foldl Journal.push j),
        (applyWhile s.step c s.items).2) := responds j
  obtain ⟨t,applied,e⟩ | ⟨done,x,later,t,items,applied,refused,e⟩ :=
    applyWhile_cases s.step c s.items
  · have result (j : Journal) : (c.withJournal j).serve f=
        ((t.withJournal (ns.foldl Journal.push j)).answerAll f (s.answers f t),
          .handled f.function) := by
      simp only [served j,ran j,e,if_true,acknowledge_eq,report]
      rfl
    obtain ⟨outcome,still,inFlight,notes,gives⟩ := serve_answered result
    obtain ⟨asked,given,only⟩ := givesOnly_applied applied asks
    exact .inl ⟨t,applied,outcome,still,inFlight,⟨ns,notes,quiet⟩,asked,only,given.trans gives⟩
  · have result (j : Journal) : (c.withJournal j).serve f=
        (((s.step t x).1.withJournal ((ns++[(s.step t x).1.notice (failure f)]).foldl
          Journal.push j)).answerAll f (if s.flags.contains .error then
            [.responseError f.function.code .applyFailure] else []),
          .rejected f.function .applyFailure) := by
      simp only [served j,ran j,e,Bool.false_eq_true,if_false,reject_applyFailure,
        List.foldl_append]
      rfl
    obtain ⟨outcome,still,inFlight,notes,gives⟩ := serve_answered result
    obtain ⟨asked,given,only⟩ := (givesOnly_applied applied asks).trans (asks t x)
    refine .inr ⟨done,x,later,t,items,applied,refused,outcome,still,inFlight,⟨_,notes,?_⟩,_,
      given.trans gives,fun g hg => ?_⟩
    · have none : ns.countP (·.event.isError)=0 := by
        rw [List.countP_eq_zero]
        intro n hn
        rw [quiet n hn]
        exact Bool.false_ne_true
      rw [List.countP_append,none]
      rfl
    · obtain hg | hg := List.mem_append.mp hg
      · exact .inl (only g hg)
      · obtain ⟨m,hm,rfl⟩ := List.mem_map.mp hg
        have told := (List.mem_filter.mp hm).1
        split_ifs at told
        · rw [List.mem_singleton.mp told]
          exact .inr rfl
        · cases told

end Change

end Controller

end Watering
