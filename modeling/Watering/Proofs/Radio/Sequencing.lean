import Watering.Proofs.Radio.Attempted
import Watering.Proofs.Radio.Reception

namespace Watering

/-- Something that a link was told to send, and what it gave to its carrier. -/
structure Sending where
  target : Destination
  frame : List UInt8
  address : Address
  bytes : List UInt8
  taken : Bool
deriving DecidableEq

namespace Sending

/-- Something for one unit that did not go to everyone. -/
def isLetter (s : Sending) (d : UInt8) : Bool := s.target=.unit d && s.address != .broadcast

/-- The letters to a unit. -/
def letters (d : UInt8) (past : List Sending) : List Sending := past.filter (·.isLetter d)

/-- How many letters to a unit were taken. -/
def accepted (d : UInt8) (past : List Sending) : Nat := (letters d past).countP (·.taken)

theorem accepted_append (d : UInt8) (past : List Sending) (s : Sending) :
    accepted d (past++[s])=accepted d past+if s.isLetter d ∧ s.taken then 1 else 0 := by
  unfold accepted letters
  cases h : s.isLetter d <;> cases h' : s.taken <;> simp [h,h']

/-- Letters one after the other: in front of each frame stands how many before were taken, modulo 255. -/
def InTurn (ls : List Sending) : Prop :=
  ∀ before s after,ls=before++s::after →
    s.bytes=UInt8.ofNat (before.countP (·.taken)%255)::s.frame

section InTurn

variable {ls before between after : List Sending} {s t : Sending}

theorem ofNat_mod_inj {m n : Nat} (h : UInt8.ofNat (m%255)=UInt8.ofNat (n%255)) : m%255=n%255 := by
  have hm := congrArg UInt8.toNat h
  rw [UInt8.toNat_ofNat',UInt8.toNat_ofNat'] at hm
  omega

theorem InTurn.head (h : InTurn ls) (hs : ls=before++s::after) :
    s.bytes.head?=some (UInt8.ofNat (before.countP (·.taken)%255)) := by
  rw [h before s after hs]
  rfl

/-- No letter bears the number that stands for no letter. -/
theorem InTurn.spares (h : InTurn ls) (hs : s∈ls) : s.bytes.head?≠some unseen := by
  obtain ⟨before,after,rfl⟩ := List.append_of_mem hs
  rw [h.head rfl]
  intro k
  have := congrArg UInt8.toNat (Option.some.inj k)
  rw [UInt8.toNat_ofNat',unseen] at this
  change _%255%256=255 at this
  omega

/-- A letter that was refused is followed by one of the same number. -/
theorem InTurn.again (h : InTurn ls) (hs : ls=before++s::t::after) (refused : s.taken=false) :
    t.bytes.head?=s.bytes.head? := by
  have later : ls=(before++[s])++t::after := by rw [hs,List.append_assoc,List.singleton_append]
  rw [h.head hs,h.head later]
  simp [refused]

/-- A letter that was taken has another number than the one that is taken next. -/
theorem InTurn.apart (h : InTurn ls) (hs : ls=before++s::(between++t::after)) (taken : s.taken=true)
    (refused : ∀ x∈between,x.taken=false) : t.bytes.head?≠s.bytes.head? := by
  have later : ls=(before++s::between)++t::after := by rw [hs,List.append_assoc,List.cons_append]
  have none_between : between.countP (·.taken)=0 := by
    rw [List.countP_eq_zero]
    intro x hx
    rw [refused x hx]
    nofun
  rw [h.head hs,h.head later]
  intro k
  have same := ofNat_mod_inj (Option.some.inj k)
  rw [List.countP_append,List.countP_cons,none_between,if_pos taken] at same
  omega

end InTurn

end Sending

open Sending (accepted letters)

namespace Link

variable {τ : Type} [Carrier τ] {l : Link (Attempted τ)} {past : List Sending}

/-- The address that a frame goes to. -/
def route (l : Link (Attempted τ)) : Destination → Address
  | .everyone => .broadcast
  | .unit d => l.resolve d

theorem heading_eq_unit {target : Destination} {d : UInt8} :
    l.heading target=.unit d ↔ target=.unit d ∧ l.route target≠.broadcast := by
  cases target with
  | everyone => simp [heading]
  | unit e =>
    unfold heading route
    by_cases h : l.resolve e=.broadcast
    · simp [h]
    · simp [h]

theorem send_known {d : UInt8} (h : l.resolve d≠.broadcast) (frame : List UInt8) :
    let e := l.emit (l.resolve d) (l.outbound.get d::frame)
    l.send (.unit d) frame=(if e.2 then {e.1 with
      outbound:=l.outbound.set d (nextSequence (l.outbound.get d))} else e.1,e.2) := by
  cases ha : l.resolve d with
  | broadcast => exact absurd ha h
  | short | long =>
    simp only [send,ha]
    rfl

/-- A link gives the carrier one thing, numbered if it has an address of its own, and counts it if it is
taken. -/
theorem send_gives (l : Link (Attempted τ)) (target : Destination) (frame : List UInt8) :
    let r := l.send target frame
    r.1.carrier.attempts=
      ((l.route target,l.numbered frame (l.heading target)),r.2)::l.carrier.attempts ∧
    ∀ e,r.1.outbound.get e=if r.2=true ∧ l.heading target=.unit e then
      nextSequence (l.outbound.get e) else l.outbound.get e := by
  cases target with
  | everyone => exact ⟨rfl,fun e => (if_neg fun h => by cases h.2).symm⟩
  | unit d =>
    by_cases unknown : l.resolve d=.broadcast
    · have wide : l.heading (.unit d)=.everyone := if_pos unknown
      simp only [send,route,wide,unknown]
      exact ⟨rfl,fun e => (if_neg fun h => by cases h.2).symm⟩
    · have own : l.heading (.unit d)=.unit d := if_neg unknown
      rw [send_known unknown,own]
      cases hok : (l.emit (l.resolve d) (l.outbound.get d::frame)).2 with
      | false =>
        refine ⟨congrArg (fun ok => (_,ok)::l.carrier.attempts) hok,fun e => ?_⟩
        exact (if_neg fun h => by cases h.1).symm
      | true =>
        refine ⟨congrArg (fun ok => (_,ok)::l.carrier.attempts) hok,fun e => ?_⟩
        refine (l.outbound.get_set d e _).trans ?_
        by_cases same : e=d
        · rw [if_pos same,if_pos ⟨rfl,by rw [same]⟩,same]
        · rw [if_neg same,if_neg fun h => same (Destination.unit.inj h.2).symm]

/-- What an act gives to the carrier. -/
def posts (l : Link (Attempted τ)) : Act (Attempted τ) → List Sending
  | .send target frame => (l.send target frame).1.carrier.attempts.head?.toList.map fun x =>
    ⟨target,frame,x.1.1,x.1.2,x.2⟩
  | _ => []

/-- All that a link gave to its carrier during a run. -/
def sendings (l : Link (Attempted τ)) (acts : List (Act (Attempted τ))) : List Sending :=
  trace posts l acts

theorem posts_send (l : Link (Attempted τ)) (target : Destination) (frame : List UInt8) :
    l.posts (.send target frame)=[⟨target,frame,l.route target,
      l.numbered frame (l.heading target),(l.send target frame).2⟩] := by
  simp only [posts,(l.send_gives target frame).1]
  rfl

theorem isLetter_posted (l : Link (Attempted τ)) (target : Destination) (frame bytes : List UInt8)
    (taken : Bool) (d : UInt8) :
    (Sending.mk target frame (l.route target) bytes taken).isLetter d=true ↔
      l.heading target=.unit d := by
  rw [heading_eq_unit]
  simp [Sending.isLetter]

theorem length_posts (l : Link (Attempted τ)) (a : Act (Attempted τ)) : (l.posts a).length≤1 := by
  cases a with
  | send target frame => exact Nat.le_of_eq (congrArg List.length (l.posts_send target frame))
  | receive | clock | change => exact Nat.zero_le 1

/-- Each counter is the number of letters that were taken. -/
def Counts (past : List Sending) (l : Link (Attempted τ)) : Prop :=
  ∀ d,(l.outbound.get d).toNat=accepted d past%255

theorem outbound_receive (l : Link (Attempted τ)) : l.receive.1.outbound=l.outbound := by
  cases hp : Carrier.poll l.carrier with
  | mk carrier o =>
    cases o with
    | none => rw [receive_nothing hp]
    | some i =>
      rw [receive_something hp]
      exact (accept_frame _ i).2.1

theorem Counts.step (h : Counts past l) (a : Act (Attempted τ)) :
    Counts (past++l.posts a) (l.act a) := by
  cases a with
  | clock | change =>
    change Counts (past++[]) _
    rw [List.append_nil]
    exact h
  | receive =>
    change Counts (past++[]) l.receive.1
    rw [List.append_nil,Counts,outbound_receive]
    exact h
  | send target frame =>
    intro d
    rw [posts_send,Sending.accepted_append]
    have letter := l.isLetter_posted target frame (l.numbered frame (l.heading target))
      (l.send target frame).2 d
    refine (congrArg UInt8.toNat ((l.send_gives target frame).2 d)).trans ?_
    have small : (l.outbound.get d).toNat<255 := by
      rw [h d]
      exact Nat.mod_lt _ (by decide)
    by_cases counted : (l.send target frame).2=true ∧ l.heading target=.unit d
    · rw [if_pos counted,if_pos ⟨letter.mpr counted.2,counted.1⟩,nextSequence_toNat small,h d,
        Nat.mod_add_mod]
    · rw [if_neg counted,if_neg fun k => counted ⟨k.2,letter.mp k.1⟩]
      exact h d

theorem Counts.run (h : Counts past l) (acts : List (Act (Attempted τ))) :
    Counts (past++l.sendings acts) (l.run acts) :=
  trace_run (P:=Counts) (fun h a => h.step a) h acts

omit [Carrier τ] in
theorem counts_fresh (carrier : Attempted τ) : Counts [] ({carrier} : Link (Attempted τ)) :=
  fun d => congrArg UInt8.toNat (UnitTable.get_fill 0 d)

/-- Letters are numbered by those before them. -/
theorem inTurn_letters (carrier : Attempted τ) (acts : List (Act (Attempted τ))) (d : UInt8) :
    Sending.InTurn (letters d (sendings {carrier} acts)) := by
  intro before s after hs
  obtain ⟨b,rest,hsplit,rfl,hrest⟩ := List.filter_eq_append_iff.mp hs
  obtain ⟨skipped,later,rfl,hskip,hletter,-⟩ := List.filter_eq_cons_iff.mp hrest
  rw [←List.append_assoc] at hsplit
  obtain ⟨acts',a,past,now⟩ := trace_split length_posts hsplit
  have counts := (counts_fresh carrier).run acts'
  rw [List.nil_append,sendings,past] at counts
  have none_skipped : skipped.filter (·.isLetter d)=[] := List.filter_eq_nil_iff.mpr hskip
  have before_it : accepted d (b++skipped)=(b.filter (·.isLetter d)).countP (·.taken) := by
    rw [accepted,letters,List.filter_append,none_skipped,List.append_nil]
  cases a with
  | receive | clock | change => cases now
  | send target frame =>
    rw [posts_send] at now
    obtain ⟨rfl,-⟩ := List.cons_eq_cons.mp now
    have own := (isLetter_posted _ _ _ _ _ d).mp hletter
    rw [own,←before_it,←counts d,UInt8.ofNat_toNat]
    rfl

/-- The unit's own address, as far as it is known from what arrived. -/
def ownAddress? (k : Addressing) (heard : List Inbound) (d : UInt8) : Option Address :=
  match k with
  | .short => some (.short d)
  | .long => (lastHardware d heard).map .long

theorem resolve_eq {heard : List Hearing} (h : Records heard l) (d : UInt8) :
    l.resolve d=(ownAddress? (Carrier.addressing l.carrier) (heard.map (·.inbound)) d).getD
      .broadcast := by
  unfold resolve ownAddress?
  cases Carrier.addressing l.carrier with
  | short => rfl
  | long =>
    dsimp only
    rw [h.learned]
    cases lastHardware d (heard.map (·.inbound)) <;> rfl

theorem ownAddress?_ne {k : Addressing} {heard : List Inbound} {d : UInt8} {a : Address}
    (h : ownAddress? k heard d=some a) : a≠.broadcast := by
  cases k with
  | short =>
    obtain rfl := Option.some.inj h
    nofun
  | long =>
    obtain ⟨hardware,-,rfl⟩ := Option.map_eq_some_iff.mp h
    nofun

theorem send_bare {target : Destination} (h : l.route target=.broadcast) (frame : List UInt8) :
    let r := l.send target frame
    r.1.carrier.attempts=((.broadcast,frame),r.2)::l.carrier.attempts ∧
    ∀ e,r.1.outbound.get e=l.outbound.get e := by
  have wide : l.heading target=.everyone := by
    cases hd : l.heading target with
    | everyone => rfl
    | unit d => exact absurd h (heading_eq_unit.mp hd).2
  obtain ⟨given,counted⟩ := l.send_gives target frame
  rw [h,wide] at given
  exact ⟨given,fun e => (counted e).trans (if_neg fun k => by rw [wide] at k; cases k.2)⟩

/-- The numbers of a link. Over any carrier, and whatever is done with a link: its counter of a unit is
the number of letters to it that were taken, modulo 255; a frame to a unit whose address is known goes
there behind that counter, anything else goes to everyone as it is and is not counted; so no letter
bears 255, what is refused is followed by the same number, and what is taken by another. -/
theorem numbered_in_turn (carrier : Attempted τ) (acts : List (Act (Attempted τ))) :
    let fresh : Link (Attempted τ) := {carrier}
    let l := fresh.run acts
    let own := ownAddress? (Carrier.addressing l.carrier) ((fresh.hearings acts).map (·.inbound))
    (∀ d,(l.outbound.get d).toNat=accepted d (fresh.sendings acts)%255) ∧
    (∀ target frame,(∀ d,target=.unit d → own d=none) →
      let r := l.send target frame
      r.1.carrier.attempts=((.broadcast,frame),r.2)::l.carrier.attempts ∧
      ∀ e,r.1.outbound.get e=l.outbound.get e) ∧
    (∀ d a frame,own d=some a →
      let r := l.send (.unit d) frame
      r.1.carrier.attempts=((a,l.outbound.get d::frame),r.2)::l.carrier.attempts ∧
      ∀ e,(r.1.outbound.get e).toNat=
        ((l.outbound.get e).toNat+if r.2=true ∧ d=e then 1 else 0)%255) ∧
    ∀ d,let ls := letters d (fresh.sendings acts)
      (∀ s∈ls,s.bytes.head?≠some 255) ∧
      (∀ before s t after,ls=before++s::t::after → s.taken=false →
        t.bytes.head?=s.bytes.head?) ∧
      ∀ before s between t after,ls=before++s::(between++t::after) → s.taken=true →
        t.taken=true →
        (∀ x∈between,x.taken=false) → t.bytes.head?≠s.bytes.head? := by
  intro fresh l own
  have counts : Counts (fresh.sendings acts) l := (counts_fresh carrier).run acts
  have records : Records (fresh.hearings acts) l := (records_fresh carrier).run acts
  have resolved (d : UInt8) : l.resolve d=(own d).getD .broadcast := resolve_eq records d
  refine ⟨counts,fun target frame unknown => send_bare ?_ frame,fun d a frame known => ?_,
    fun d => ?_⟩
  · cases target with
    | everyone => rfl
    | unit d => rw [route,resolved,unknown d rfl,Option.getD_none]
  · have route : l.resolve d=a := by rw [resolved,known,Option.getD_some]
    have heading : l.heading (.unit d)=.unit d :=
      heading_eq_unit.mpr ⟨rfl,fun k => ownAddress?_ne known (route.symm.trans k)⟩
    obtain ⟨given,counted⟩ := l.send_gives (.unit d) frame
    have small (e : UInt8) : (l.outbound.get e).toNat<255 := by
      rw [counts e]
      exact Nat.mod_lt _ (by decide)
    rw [Link.route,route,heading] at given
    refine ⟨given,fun e => (congrArg UInt8.toNat (counted e)).trans ?_⟩
    by_cases on : (l.send (.unit d) frame).2=true ∧ d=e
    · rw [if_pos on,if_pos ⟨on.1,by rw [heading,on.2]⟩,nextSequence_toNat (small e)]
    · rw [if_neg on,if_neg fun k => on ⟨k.1,Destination.unit.inj (heading.symm.trans k.2)⟩,
        Nat.add_zero,Nat.mod_eq_of_lt (small e)]
  · have inTurn := inTurn_letters carrier acts d
    exact ⟨fun s hs => inTurn.spares hs,fun before s t after hs => inTurn.again hs,
      fun before s between t after hs taken _ refused => inTurn.apart hs taken refused⟩

/-- Unit 3 is unknown at first, then it is heard; the radio refuses the second thing it is given. -/
theorem numbered_in_turn_heard :
    let carrier : Attempted ScriptedRadio := {carrier:={
      kind:=.long
      verdict:=(· != 1)
      arrivals:=[⟨[5,1,7,0,3,0,51],.long 10,40,false⟩] }}
    let say : Act (Attempted ScriptedRadio) := .send (.unit 3) [9]
    let acts := [say,.receive,say,say,say]
    sendings {carrier} acts=
      [⟨.unit 3,[9],.broadcast,[9],true⟩,⟨.unit 3,[9],.long 10,[0,9],false⟩,
        ⟨.unit 3,[9],.long 10,[0,9],true⟩,⟨.unit 3,[9],.long 10,[1,9],true⟩] ∧
    ((run {carrier} acts).outbound.get 3).toNat=2 ∧
    (send (run {carrier} []) (.unit 3) [9]).1.carrier.attempts=
      ((.broadcast,[9]),(send (run {carrier} []) (.unit 3) [9]).2)::
        (run {carrier} []).carrier.attempts ∧
    (send (run {carrier} acts) (.unit 3) [9]).1.carrier.attempts=
      ((.long 10,(run {carrier} acts).outbound.get 3::[9]),
        (send (run {carrier} acts) (.unit 3) [9]).2)::(run {carrier} acts).carrier.attempts := by
  intro carrier say acts
  have given : sendings {carrier} acts=
      [⟨.unit 3,[9],.broadcast,[9],true⟩,⟨.unit 3,[9],.long 10,[0,9],false⟩,
        ⟨.unit 3,[9],.long 10,[0,9],true⟩,⟨.unit 3,[9],.long 10,[1,9],true⟩] := by
    decide +kernel
  have known : ownAddress? (Carrier.addressing (run {carrier} acts).carrier)
      ((hearings {carrier} acts).map (·.inbound)) 3=some (.long 10) := by
    decide +kernel
  obtain ⟨-,bare,-⟩ := numbered_in_turn carrier []
  obtain ⟨counts,-,numbered,-⟩ := numbered_in_turn carrier acts
  refine ⟨given,?_,(bare (.unit 3) [9] fun d hd => ?_).1,(numbered 3 (.long 10) [9] known).1⟩
  · rw [counts 3,given]
    rfl
  · rfl

end Link

end Watering
