import Watering.Proofs.Radio.Link
import Watering.Radio.Scripted

namespace Watering

namespace Inbound

/-- The octets of the frame: all that went to everyone, and what stands behind the number of
anything else. -/
def content (i : Inbound) : List UInt8 := if i.broadcast then i.payload else i.payload.tail

def number? (i : Inbound) : Option UInt8 := if i.broadcast then none else i.payload.head?

/-- The unit that the header names, if the header can be read. -/
def source? (i : Inbound) : Option UInt8 := Frame.peekSource i.content

/-- The sender's hardware address, if the carrier knows senders by these. -/
def hardware? (i : Inbound) : Option UInt64 :=
  match i.sender with
  | .long hardware => some hardware
  | _ => none

theorem letter?_eq_source? (i : Inbound) :
    Link.letter? i=i.source?.map (i.number?,·,i.content) := by
  obtain ⟨payload,sender,rssi,broadcast⟩ := i
  cases broadcast with
  | true => rfl
  | false =>
    cases payload with
    | nil => rfl
    | cons n frame => rfl

end Inbound

namespace Link

variable {σ : Type}

/-- The number of the latest frame from a unit that was for one unit only. -/
def lastNumber (s : UInt8) (past : List Inbound) : UInt8 :=
  ((past.filter (·.source?=some s)).filterMap (·.number?)).getLast?.getD unseen

/-- The hardware address that the latest frame from a unit came from, of those that came from any. -/
def lastHardware (s : UInt8) (past : List Inbound) : Option UInt64 :=
  ((past.filter (·.source?=some s)).filterMap (·.hardware?)).getLast?

theorem lastNumber_append (s : UInt8) (past : List Inbound) (i : Inbound) :
    lastNumber s (past++[i])=
      if i.source?=some s then i.number?.getD (lastNumber s past) else lastNumber s past := by
  unfold lastNumber
  split_ifs with h
  · cases hn : i.number? <;> simp [h,hn]
  · simp [h]

theorem lastHardware_append (s : UInt8) (past : List Inbound) (i : Inbound) :
    lastHardware s (past++[i])=
      if i.source?=some s then i.hardware?.or (lastHardware s past) else lastHardware s past := by
  unfold lastHardware
  split_ifs with h
  · cases hn : i.hardware? <;> simp [h,hn]
  · simp [h]

/-- Something that arrived, and what the link handed on. -/
structure Hearing where
  inbound : Inbound
  out : Option Delivery

/-- How many frames from a unit were handed on. -/
def delivered (s : UInt8) (past : List Hearing) : Nat :=
  past.countP fun h => h.inbound.source?=some s ∧ h.out.isSome

/-- How many frames from a unit were dropped. -/
def suppressed (s : UInt8) (past : List Hearing) : Nat :=
  past.countP fun h => h.inbound.source?=some s ∧ h.out.isNone

theorem delivered_append (s : UInt8) (past : List Hearing) (h : Hearing) :
    delivered s (past++[h])=delivered s past+
      if h.inbound.source?=some s ∧ h.out.isSome=true then 1 else 0 := by
  simp [delivered]

theorem suppressed_append (s : UInt8) (past : List Hearing) (h : Hearing) :
    suppressed s (past++[h])=suppressed s past+
      if h.inbound.source?=some s ∧ h.out.isNone=true then 1 else 0 := by
  simp [suppressed]

/-- The tables hold what can be computed from what arrived. -/
structure Records (past : List Hearing) (l : Link σ) : Prop where
  lastSeen (s : UInt8) : l.lastSeen.get s=lastNumber s (past.map (·.inbound))
  learned (s : UInt8) : l.learned[s]?=lastHardware s (past.map (·.inbound))
  known (s : UInt8) : s∈l.stats ↔ ∃ h∈past,h.inbound.source?=some s
  frames (s : UInt8) : (l.stats.getD s default).frames=delivered s past
  duplicates (s : UInt8) : (l.stats.getD s default).duplicates=suppressed s past

/-- The same but for the entries of one unit. -/
structure Only (s : UInt8) (l r : Link σ) : Prop where
  carrier : r.carrier=l.carrier
  outbound : r.outbound=l.outbound
  tick : r.tick=l.tick
  lastSeen {t : UInt8} : t≠s → r.lastSeen.get t=l.lastSeen.get t
  learned {t : UInt8} : t≠s → r.learned[t]?=l.learned[t]?
  stats {t : UInt8} : t≠s → r.stats[t]?=l.stats[t]?

/-- The number in front of a frame is that of the latest frame from the unit. -/
def repeats (l : Link σ) (i : Inbound) (s : UInt8) : Bool := i.number?=some (l.lastSeen.get s)

/-- What a link makes of a frame from a unit. -/
structure Takes (l : Link σ) (i : Inbound) (s : UInt8) (r : Link σ×Option Delivery) : Prop where
  out : r.2=if l.repeats i s then none else some ⟨i.content,s,i.rssi,i.broadcast⟩
  only : Only s l r.1
  lastSeen : r.1.lastSeen.get s=i.number?.getD (l.lastSeen.get s)
  learned : r.1.learned[s]?=i.hardware?.or l.learned[s]?
  stats : r.1.stats[s]?=some ⟨i.rssi,l.tick,
    (l.stats.getD s default).frames+(if l.repeats i s then 0 else 1),
    (l.stats.getD s default).duplicates+(if l.repeats i s then 1 else 0)⟩

section Accept

variable {l : Link σ} {i : Inbound} {past : List Hearing} {s t : UInt8}

theorem learned_learn (l : Link σ) (i : Inbound) (s t : UInt8) :
    (l.learn s i.sender).learned[t]?=
      if t=s then i.hardware?.or l.learned[t]? else l.learned[t]? := by
  unfold Inbound.hardware?
  cases i.sender with
  | broadcast | short => exact (ite_self _).symm
  | long hardware =>
    simp only [learn,Std.TreeMap.getElem?_insert,Std.LawfulEqCmp.compare_eq_iff_eq]
    by_cases e : t=s
    · rw [if_pos e,if_pos e.symm,Option.some_or]
    · rw [if_neg e,if_neg (Ne.symm e)]

theorem stats_note (l : Link σ) (s t rssi : UInt8) (duplicate : Bool) :
    (l.note s rssi duplicate).stats[t]?=
      if t=s then some ⟨rssi,l.tick,
        (l.stats.getD s default).frames+(if duplicate then 0 else 1),
        (l.stats.getD s default).duplicates+(if duplicate then 1 else 0)⟩
      else l.stats[t]? := by
  simp only [note,Std.TreeMap.getElem?_insert,Std.LawfulEqCmp.compare_eq_iff_eq]
  by_cases e : t=s
  · rw [if_pos e,if_pos e.symm]
    cases duplicate <;> rfl
  · rw [if_neg e,if_neg (Ne.symm e)]

theorem accept_unreadable (h : i.source?=none) : l.accept i=(l,none) := by
  apply accept_unread
  rw [i.letter?_eq_source?,h]
  rfl

theorem learn_frame (l : Link σ) (s : UInt8) (a : Address) :
    (l.learn s a).carrier=l.carrier ∧ (l.learn s a).outbound=l.outbound ∧
    (l.learn s a).tick=l.tick ∧ (l.learn s a).stats=l.stats := by
  unfold learn
  split <;> exact ⟨rfl,rfl,rfl,rfl⟩

/-- The tables that are written whether a frame is handed on or not. -/
theorem note_learn (l : Link σ) (i : Inbound) (s : UInt8) (duplicate : Bool) :
    let r := (l.learn s i.sender).note s i.rssi duplicate
    Only s l r ∧ r.lastSeen=l.lastSeen ∧ r.learned[s]?=i.hardware?.or l.learned[s]? ∧
    r.stats[s]?=some ⟨i.rssi,l.tick,
      (l.stats.getD s default).frames+(if duplicate then 0 else 1),
      (l.stats.getD s default).duplicates+(if duplicate then 1 else 0)⟩ := by
  obtain ⟨hc,ho,ht,hs⟩ := l.learn_frame s i.sender
  have seen := l.lastSeen_learn s i.sender
  have stats (t : UInt8) := (l.learn s i.sender).stats_note s t i.rssi duplicate
  simp only [hs,ht] at stats
  refine ⟨⟨hc,ho,ht,fun _ => congrArg (UnitTable.get · _) seen,fun {t} ne => ?_,fun {t} ne => ?_⟩,
    seen,?_,?_⟩
  · exact (l.learned_learn i s t).trans (if_neg ne)
  · exact (stats t).trans (if_neg ne)
  · exact (l.learned_learn i s s).trans (if_pos rfl)
  · exact (stats s).trans (if_pos rfl)

theorem accept_takes (h : i.source?=some s) : Takes l i s (l.accept i) := by
  have letter : letter? i=some (i.number?,s,i.content) := by
    rw [i.letter?_eq_source?,h]
    rfl
  cases hn : i.number? with
  | none =>
    rw [hn] at letter
    have fresh : l.repeats i s=false := by simp [repeats,hn]
    obtain ⟨only,seen,learned,stats⟩ := l.note_learn i s false
    rw [accept_bare letter]
    refine ⟨?_,only,?_,learned,?_⟩
    · rw [fresh]
      rfl
    · rw [hn,seen]
      rfl
    · rw [fresh]
      exact stats
  | some n =>
    rw [hn] at letter
    rw [accept_numbered letter]
    by_cases same : l.lastSeen.get s=n
    · have stale : l.repeats i s=true := by simp [repeats,hn,same]
      obtain ⟨only,seen,learned,stats⟩ := l.note_learn i s true
      rw [if_pos same]
      refine ⟨?_,only,?_,learned,?_⟩
      · rw [stale]
        rfl
      · rw [hn,seen,same]
        rfl
      · rw [stale]
        exact stats
    · have fresh : l.repeats i s=false := by simp [repeats,hn,Ne.symm same]
      obtain ⟨only,-,learned,stats⟩ := l.note_learn i s false
      rw [if_neg same]
      have set (t : UInt8) := l.lastSeen.get_set s t n
      refine ⟨?_,⟨only.carrier,only.outbound,only.tick,fun {t} ne => (set t).trans (if_neg ne),
        only.learned,only.stats⟩,?_,learned,?_⟩
      · rw [fresh]
        rfl
      · rw [hn]
        exact (set s).trans (if_pos rfl)
      · rw [fresh]
        exact stats

theorem records_fresh (carrier : σ) : Records [] ({carrier} : Link σ) where
  lastSeen s := UnitTable.get_fill ..
  learned s := Std.TreeMap.getElem?_emptyc
  known s := by simp
  frames s := by simp [delivered]; rfl
  duplicates s := by simp [suppressed]; rfl

theorem Records.congr {r : Link σ} (h : Records past l) (seen : r.lastSeen=l.lastSeen)
    (learned : r.learned=l.learned) (stats : r.stats=l.stats) : Records past r where
  lastSeen s := by rw [seen,h.lastSeen]
  learned s := by rw [learned,h.learned]
  known s := by rw [stats,h.known]
  frames s := by rw [stats,h.frames]
  duplicates s := by rw [stats,h.duplicates]

/-- A frame without a header is not recorded. -/
theorem Records.skip (h : Records past l) (hs : i.source?=none) (out : Option Delivery) :
    Records (past++[⟨i,out⟩]) l where
  lastSeen t := by
    rw [List.map_append,List.map_singleton,lastNumber_append,hs,if_neg nofun]
    exact h.lastSeen t
  learned t := by
    rw [List.map_append,List.map_singleton,lastHardware_append,hs,if_neg nofun]
    exact h.learned t
  known t := by simp [h.known t,hs]
  frames t := by simp [h.frames t,delivered,hs]
  duplicates t := by simp [h.duplicates t,suppressed,hs]

theorem Records.takes (h : Records past l) (hs : i.source?=some s) {r : Link σ×Option Delivery}
    (hr : Takes l i s r) : Records (past++[⟨i,r.2⟩]) r.1 where
  lastSeen t := by
    rw [List.map_append,List.map_singleton,lastNumber_append,hs]
    by_cases e : t=s
    · rw [if_pos (by rw [e]),e,hr.lastSeen,h.lastSeen]
    · rw [if_neg fun k => e (Option.some.inj k).symm,hr.only.lastSeen e,h.lastSeen]
  learned t := by
    rw [List.map_append,List.map_singleton,lastHardware_append,hs]
    by_cases e : t=s
    · rw [if_pos (by rw [e]),e,hr.learned,h.learned]
    · rw [if_neg fun k => e (Option.some.inj k).symm,hr.only.learned e,h.learned]
  known t := by
    simp only [List.mem_append,List.mem_singleton,or_and_right,exists_or,exists_eq_left,hs]
    rw [Std.TreeMap.mem_iff_isSome_getElem?]
    by_cases e : t=s
    · rw [e,hr.stats]
      simp
    · rw [hr.only.stats e,←Std.TreeMap.mem_iff_isSome_getElem?,h.known]
      simp [Ne.symm e]
  frames t := by
    rw [delivered_append,Std.TreeMap.getD_eq_getD_getElem?,hr.out]
    by_cases e : t=s
    · rw [e,hr.stats,←h.frames]
      cases l.repeats i s <;> simp [hs]
    · rw [hr.only.stats e,←Std.TreeMap.getD_eq_getD_getElem?,h.frames]
      simp [hs,Ne.symm e]
  duplicates t := by
    rw [suppressed_append,Std.TreeMap.getD_eq_getD_getElem?,hr.out]
    by_cases e : t=s
    · rw [e,hr.stats,←h.duplicates]
      cases l.repeats i s <;> simp [hs]
    · rw [hr.only.stats e,←Std.TreeMap.getD_eq_getD_getElem?,h.duplicates]
      simp [hs,Ne.symm e]

/-- What is handed on, by what arrived before. -/
theorem Records.handed_iff (h : Records past l) (i : Inbound) (d : Delivery) :
    (l.accept i).2=some d ↔ ∃ s,i.source?=some s ∧
      (i.broadcast=true ∨ i.number?≠some (lastNumber s (past.map (·.inbound)))) ∧
      d=⟨i.content,s,i.rssi,i.broadcast⟩ := by
  cases hs : i.source? with
  | none => simp [accept_unreadable hs]
  | some s =>
    have bare : i.broadcast=true → i.number?=none := fun hb => if_pos hb
    simp only [(accept_takes hs).out,repeats,h.lastSeen,decide_eq_true_eq,Option.some.injEq,
      exists_eq_left']
    split_ifs with hn
    · refine iff_of_false nofun ?_
      rintro ⟨single | apart,-⟩
      · cases hn.symm.trans (bare single)
      · exact apart hn
    · rw [Option.some.injEq,eq_comm]
      exact (and_iff_right (.inr hn)).symm

end Accept

/-- What can be done with a link. -/
inductive Act (σ : Type) where
  | send (target : Destination) (frame : List UInt8)
  | receive
  | clock (tick : Nat)
  /-- Anything that becomes of the carrier outside the link. -/
  | change (f : σ → σ)

section Run

variable [Carrier σ] {l : Link σ} {past : List Hearing}

def act (l : Link σ) : Act σ → Link σ
  | .send target frame => (l.send target frame).1
  | .receive => l.receive.1
  | .clock tick => {l with tick}
  | .change f => {l with carrier:=f l.carrier}

def run (l : Link σ) (acts : List (Act σ)) : Link σ := acts.foldl act l

/-- What the acts of a run show one after the other. -/
def trace {α : Type} (shows : Link σ → Act σ → List α) (l : Link σ) : List (Act σ) → List α
  | [] => []
  | a::acts => shows l a++trace shows (l.act a) acts

/-- What the carrier hands over when the link asks for it, and what the link hands on. -/
def hears (l : Link σ) : Act σ → List Hearing
  | .receive => (Carrier.poll l.carrier).2.toList.map (⟨·,l.receive.2⟩)
  | _ => []

/-- All that a link heard during a run. -/
def hearings (l : Link σ) (acts : List (Act σ)) : List Hearing := trace hears l acts

/-- What a run shows was shown by one of its acts, after those that showed what stands before it. -/
theorem trace_split {α : Type} {shows : Link σ → Act σ → List α}
    (single : ∀ l a,(shows l a).length≤1) {acts : List (Act σ)} {before after : List α} {x : α}
    (hs : trace shows l acts=before++x::after) :
    ∃ acts' a,trace shows l acts'=before ∧ shows (l.run acts') a=[x] := by
  induction acts generalizing l before with
  | nil => simp [trace] at hs
  | cons a acts ih =>
    rw [trace] at hs
    match ha : shows l a,single l a with
    | [],_ =>
      rw [ha,List.nil_append] at hs
      obtain ⟨acts',b,past,now⟩ := ih hs
      exact ⟨a::acts',b,by rw [trace,ha,past,List.nil_append],now⟩
    | [y],_ =>
      rw [ha,List.singleton_append] at hs
      cases before with
      | nil =>
        obtain ⟨rfl,-⟩ := List.cons_eq_cons.mp hs
        exact ⟨[],a,rfl,ha⟩
      | cons z before =>
        obtain ⟨rfl,later⟩ := List.cons_eq_cons.mp hs
        obtain ⟨acts',b,past,now⟩ := ih later
        exact ⟨a::acts',b,by rw [trace,ha,past,List.singleton_append],now⟩

/-- What every act keeps of what was shown so far and of the link holds of a whole run. -/
theorem trace_run {α : Type} {shows : Link σ → Act σ → List α} {P : List α → Link σ → Prop}
    (step : ∀ {past l},P past l → ∀ a,P (past++shows l a) (l.act a)) {past : List α}
    (h : P past l) (acts : List (Act σ)) : P (past++trace shows l acts) (l.run acts) := by
  induction acts generalizing l past with
  | nil =>
    rw [trace,List.append_nil]
    exact h
  | cons a acts ih =>
    rw [trace,←List.append_assoc]
    exact ih (step h a)

theorem receive_nothing {carrier : σ} (h : Carrier.poll l.carrier=(carrier,none)) :
    l.receive=({l with carrier},none) := by
  simp only [receive,h]

theorem receive_something {carrier : σ} {i : Inbound}
    (h : Carrier.poll l.carrier=(carrier,some i)) :
    l.receive={l with carrier}.accept i := by
  simp only [receive,h]

/-- Sending leaves what was recorded. -/
theorem send_records (l : Link σ) (target : Destination) (frame : List UInt8) :
    (l.send target frame).1.lastSeen=l.lastSeen ∧ (l.send target frame).1.learned=l.learned ∧
    (l.send target frame).1.stats=l.stats := by
  have counted (m : Link σ) (ok : Bool) (outbound : UnitTable UInt8) :
      (if ok then {m with outbound} else m).lastSeen=m.lastSeen ∧
      (if ok then {m with outbound} else m).learned=m.learned ∧
      (if ok then {m with outbound} else m).stats=m.stats := by
    split_ifs <;> exact ⟨rfl,rfl,rfl⟩
  cases target with
  | everyone => exact ⟨rfl,rfl,rfl⟩
  | unit id =>
    cases ha : l.resolve id with
    | broadcast =>
      simp only [send,ha]
      exact ⟨rfl,rfl,rfl⟩
    | short | long =>
      simp only [send,ha]
      exact counted ..

/-- Whatever is done with a link, what it then hears is recorded. -/
theorem Records.step (h : Records past l) (a : Act σ) : Records (past++l.hears a) (l.act a) := by
  cases a with
  | send target frame =>
    obtain ⟨seen,learned,stats⟩ := l.send_records target frame
    change Records (past++[]) _
    rw [List.append_nil]
    exact h.congr seen learned stats
  | clock | change =>
    change Records (past++[]) _
    rw [List.append_nil]
    exact h.congr rfl rfl rfl
  | receive =>
    change Records (past++(Carrier.poll l.carrier).2.toList.map (⟨·,l.receive.2⟩)) l.receive.1
    cases hp : Carrier.poll l.carrier with
    | mk carrier o =>
      cases o with
      | none =>
        rw [receive_nothing hp]
        change Records (past++[]) _
        rw [List.append_nil]
        exact h.congr rfl rfl rfl
      | some i =>
        have h' : Records past {l with carrier} := h.congr rfl rfl rfl
        rw [receive_something hp]
        cases hs : i.source? with
        | none =>
          rw [accept_unreadable hs]
          exact h'.skip hs none
        | some s => exact h'.takes hs (accept_takes hs)

theorem Records.run (h : Records past l) (acts : List (Act σ)) :
    Records (past++l.hearings acts) (l.run acts) :=
  trace_run (P:=Records) (fun h a => h.step a) h acts

theorem length_hears (l : Link σ) (a : Act σ) : (l.hears a).length≤1 := by
  cases a with
  | send | clock | change => exact Nat.zero_le 1
  | receive =>
    change ((Carrier.poll l.carrier).2.toList.map _).length≤1
    rw [List.length_map]
    cases (Carrier.poll l.carrier).2 <;> simp

theorem hears_singleton {a : Act σ} {i : Inbound} {out : Option Delivery}
    (h : l.hears a=[⟨i,out⟩]) :
    ∃ carrier,Carrier.poll l.carrier=(carrier,some i) ∧ out=({l with carrier}.accept i).2 := by
  cases a with
  | send | clock | change => cases h
  | receive =>
    unfold hears at h
    cases hp : Carrier.poll l.carrier with
    | mk carrier o =>
      cases o with
      | none =>
        rw [hp] at h
        cases h
      | some j =>
        rw [hp,receive_something hp] at h
        obtain ⟨rfl,rfl⟩ := by simpa using h
        exact ⟨carrier,rfl,rfl⟩

/-- The filter of a link. Over any carrier, and whatever is done with a link: a frame is handed on
exactly if it can be read and, unless it went to everyone, has another number than the latest readable
frame of its unit that did not; the tables hold what can be computed from what arrived; and a frame
writes the entries of its unit, or, if it cannot be read, none. -/
theorem filtered_by_number (carrier : σ) (acts : List (Act σ)) :
    let fresh : Link σ := {carrier}
    (∀ before i out after,fresh.hearings acts=before++⟨i,out⟩::after → ∀ d,
      out=some d ↔ ∃ s,i.source?=some s ∧
        (i.broadcast=true ∨ i.number?≠some (lastNumber s (before.map (·.inbound)))) ∧
        d=⟨i.content,s,i.rssi,i.broadcast⟩) ∧
    Records (fresh.hearings acts) (fresh.run acts) ∧
    ∀ i carrier',Carrier.poll (fresh.run acts).carrier=(carrier',some i) →
      let waiting := {fresh.run acts with carrier:=carrier'}
      (i.source?=none → (fresh.run acts).receive=(waiting,none)) ∧
      ∀ s,i.source?=some s → Only s waiting (fresh.run acts).receive.1 := by
  intro fresh
  have records (acts : List (Act σ)) : Records (fresh.hearings acts) (fresh.run acts) :=
    (records_fresh carrier).run acts
  refine ⟨fun before i out after hs d => ?_,records acts,fun i carrier' hp => ⟨fun hs => ?_,
    fun s hs => ?_⟩⟩
  · obtain ⟨acts',a,rfl,now⟩ := trace_split length_hears hs
    obtain ⟨carrier',-,rfl⟩ := hears_singleton now
    have h : Records (fresh.hearings acts') {fresh.run acts' with carrier:=carrier'} :=
      (records acts').congr rfl rfl rfl
    exact h.handed_iff i d
  · rw [receive_something hp]
    exact accept_unreadable hs
  · rw [receive_something hp]
    exact (accept_takes hs).only

/-- Unit 3 is heard twice with the same number, from two places; then comes something too short. -/
theorem filtered_by_number_twice :
    let i (hardware : UInt64) : Inbound := ⟨[5,1,7,0,3,0,51],.long hardware,40,false⟩
    let short : Inbound := ⟨[5,1,7],.long 12,40,false⟩
    let fresh : Link ScriptedRadio := {carrier:={kind:=.long,arrivals:=[i 10,i 11,short]}}
    let acts := [.receive,.receive]
    let l := fresh.run acts
    let d : Delivery := ⟨[1,7,0,3,0,51],3,40,false⟩
    fresh.hearings acts=[⟨i 10,some d⟩,⟨i 11,none⟩] ∧
    (∃ s,(i 10).source?=some s ∧
      ((i 10).broadcast=true ∨ (i 10).number?≠some (lastNumber s [])) ∧
      d=⟨(i 10).content,s,(i 10).rssi,(i 10).broadcast⟩) ∧
    l.lastSeen.get 3=5 ∧ l.learned[(3 : UInt8)]?=some 11 ∧
    (l.stats.getD 3 default).frames=1 ∧ (l.stats.getD 3 default).duplicates=1 ∧
    l.receive=({l with carrier:={l.carrier with arrivals:=[]}},none) := by
  intro i short fresh acts l d
  have heard : fresh.hearings acts=[⟨i 10,some d⟩,⟨i 11,none⟩] := rfl
  obtain ⟨handed,records,next⟩ := filtered_by_number fresh.carrier acts
  refine ⟨heard,(handed [] _ _ _ heard d).mp rfl,?_,?_,?_,?_,?_⟩
  · exact (records.lastSeen 3).trans rfl
  · exact (records.learned 3).trans rfl
  · exact (records.frames 3).trans rfl
  · exact (records.duplicates 3).trans rfl
  · exact (next short _ rfl).1 rfl

end Run

end Link

end Watering
