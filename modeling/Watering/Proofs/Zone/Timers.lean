import Watering.Proofs.Zone.Edits

namespace Watering

namespace ZoneStatus

variable {s : ZoneStatus} {e : Expiry} {n : Nat}

/-- Left to itself, a record is reset after so many seconds; the last one reports it, the others
report nothing. -/
inductive Expires (e : Expiry) : Nat → ZoneStatus → Prop
  | last {s : ZoneStatus} : s.tick=({},some e) → Expires e 1 s
  | later {s : ZoneStatus} {n : Nat} : s.tick.2=none → Expires e n s.tick.1 → Expires e (n+1) s

theorem expires_starting (hs : s.state=.starting (n+1)) :
    s.Expires (.unconfirmed (.starting 1)) (n+1) := by
  induction n generalizing s with
  | zero => exact .last (by simp [tick,hs])
  | succ n ih => exact .later (by simp [tick,hs]) (ih (by simp [tick,hs]))

theorem expires_stopping (hs : s.state=.stopping (n+1)) :
    s.Expires (.unconfirmed (.stopping 1)) (n+1) := by
  induction n generalizing s with
  | zero => exact .last (by simp [tick,hs])
  | succ n ih => exact .later (by simp [tick,hs]) (ih (by simp [tick,hs]))

/-- What ends unconfirmed was pending until then. -/
theorem Expires.isPending {was : ZoneState} (h : s.Expires (.unconfirmed was) n) :
    s.state.isPending=true := by
  induction h with
  | @last s ht =>
    cases hs : s.state with
    | starting | stopping => rfl
    | off =>
      rw [tick_off hs] at ht
      cases congrArg Prod.snd ht
    | running =>
      rw [tick_running hs] at ht
      split_ifs at ht <;> cases congrArg Prod.snd ht
  | @later s n _ _ ih =>
    by_contra hp
    have settled := (tick_settled (Bool.eq_false_iff.mpr hp)).1
    rw [ih] at settled
    cases settled

end ZoneStatus

namespace ZoneBoard

open ZoneStatus (Expires)

inductive Operation where
  | start (run : ZoneRun) (confirmed : Bool) (now : Instant)
  | stop (zone : UInt8) (confirmed : Bool)
  | forceOff (zone : UInt8)
  | confirm (zone : UInt8) (on : Bool)
  | allOff
  | resize (count : Nat)
  | tick
deriving DecidableEq

namespace Operation

/-- A second, or an operation on another zone. -/
def Spares (z : UInt8) : Operation → Prop
  | start run _ _ => run.zone≠z
  | stop zone _ | forceOff zone | confirm zone _ => zone≠z
  | allOff | resize _ => False
  | tick => True

instance (z : UInt8) : (op : Operation) → Decidable (op.Spares z)
  | start _ _ _ | stop _ _ | forceOff _ | confirm _ _ => inferInstanceAs (Decidable (_≠_))
  | allOff | resize _ => inferInstanceAs (Decidable False)
  | tick => inferInstanceAs (Decidable True)

def isTick : Operation → Bool
  | tick => true
  | _ => false

theorem eq_tick_of_isTick {op : Operation} (h : op.isTick=true) : op=tick := by
  cases op with
  | tick => rfl
  | _ => cases h

end Operation

def perform (b : ZoneBoard) : Operation → ZoneBoard
  | .start run confirmed now => b.start run confirmed now
  | .stop zone confirmed => b.stop zone confirmed
  | .forceOff zone => b.forceOff zone
  | .confirm zone on => (b.confirm zone on).1
  | .allOff => b.allOff
  | .resize count => b.resize count
  | .tick => b.tick.1

def performAll (b : ZoneBoard) (ops : List Operation) : ZoneBoard := ops.foldl perform b

/-- The number of seconds among some operations. -/
def ticks (ops : List Operation) : Nat := ops.countP (·.isTick)

def transitions (b : ZoneBoard) : Operation → List Transition
  | .tick => b.tick.2
  | _ => []

/-- What some operations report of a zone, each with the number of its second. -/
def reportsFrom (z : UInt8) (k : Nat) (b : ZoneBoard) : List Operation → List (Nat×Expiry)
  | [] => []
  | op::ops =>
    ((b.transitions op).filter (·.zone==z)).map (fun t => (k+ticks [op],t.expiry))++
      reportsFrom z (k+ticks [op]) (b.perform op) ops

/-- What some operations report of a zone, the first second being number 1. -/
def reports (b : ZoneBoard) (z : UInt8) (ops : List Operation) : List (Nat×Expiry) :=
  reportsFrom z 0 b ops

variable {b : ZoneBoard} {z : UInt8} {s : ZoneStatus} {e : Expiry} {n k : Nat} {op : Operation}
  {ops : List Operation} {P : ZoneState → Bool}

theorem ticks_cons (op : Operation) (ops : List Operation) : ticks (op::ops)=ticks [op]+ticks ops := by
  rw [ticks,List.countP_cons,ticks,List.countP_singleton,ticks]
  exact Nat.add_comm ..

theorem ticks_of_not_isTick (h : op.isTick=false) : ticks [op]=0 := by simp [ticks,h]

theorem transitions_of_not_isTick (b : ZoneBoard) (h : op.isTick=false) : b.transitions op=[] := by
  cases op with
  | tick => cases h
  | _ => rfl

theorem size_perform_of_spares (h : op.Spares z) : (b.perform op).size=b.size := by
  cases op with
  | start => exact size_start ..
  | stop => exact size_stop ..
  | forceOff => exact size_forceOff ..
  | confirm => exact (congrArg size (confirm_fst ..)).trans (size_modify ..)
  | allOff | resize => exact h.elim
  | tick => exact size_tick _

theorem status?_perform_of_spares (h : op.Spares z) (ht : op.isTick=false) :
    (b.perform op).status? z=b.status? z := by
  cases op with
  | start | stop | forceOff => exact status?_modify_ne _ _ (Ne.symm h)
  | confirm =>
    rw [perform,confirm_fst]
    exact status?_modify_ne _ _ (Ne.symm h)
  | allOff | resize => exact h.elim
  | tick => cases ht

theorem status?_confirm_self (hs : b.status? z=some s) (on : Bool) :
    (b.perform (.confirm z on)).status? z=some (s.confirm on) := by
  rw [perform,confirm_fst,status?_modify,if_pos rfl,hs,Option.map_some]

/-- A second reports the zones in their order. -/
theorem ascending_tick (small : b.size≤256) : b.tick.2.Pairwise fun t u => t.zone<u.zone := by
  rw [tick,List.pairwise_filterMap]
  refine (pairwise_zipIdx small).imp ?_
  intro x y lt t ht u hu
  obtain ⟨_,_,rfl⟩ := Option.map_eq_some_iff.mp ht
  obtain ⟨_,_,rfl⟩ := Option.map_eq_some_iff.mp hu
  exact lt

/-- A second reports no zone twice. -/
theorem nodup_tick (small : b.size≤256) : b.tick.2.Pairwise fun t u => t.zone≠u.zone :=
  (ascending_tick small).imp UInt8.ne_of_lt

/-- A second reports of a zone what its record says. -/
theorem transitions_about (small : b.size≤256) (hs : b.status? z=some s) :
    b.tick.2.filter (·.zone==z)=(s.tick.2.map (Transition.mk z)).toList := by
  have told {t : Transition} : t∈b.tick.2.filter (·.zone==z) ↔ t.zone=z ∧ s.tick.2=some t.expiry := by
    rw [List.mem_filter,mem_tick small,beq_iff_eq,and_comm]
    refine and_congr_right fun ht => ?_
    rw [ht,hs]
    exact ⟨fun ⟨_,h,k⟩ => Option.some.inj h ▸ k,fun k => ⟨s,rfl,k⟩⟩
  have single := (nodup_tick small).filter (·.zone==z)
  generalize b.tick.2.filter (·.zone==z)=l at told single
  match l with
  | [] =>
    cases hx : s.tick.2 with
    | none => rfl
    | some e => cases (told (t:=⟨z,e⟩)).mpr ⟨rfl,hx⟩
  | [t] =>
    obtain ⟨rfl,hx⟩ := told.mp List.mem_cons_self
    rw [hx]
    rfl
  | t::u::l =>
    have ht := told.mp (List.mem_cons_self (a:=t) (l:=u::l))
    have hu := told.mp (List.mem_cons_of_mem t (List.mem_cons_self (a:=u) (l:=l)))
    exact absurd (ht.1.trans hu.1.symm) ((List.pairwise_cons.mp single).1 u List.mem_cons_self)

/-- Of a zone the operations report `e` with the `n`-th second from now and nothing else. Until then
its state is as `P` says, and then its record is reset. -/
structure Strikes (z : UInt8) (P : ZoneState → Bool) (e : Expiry) (n k : Nat) (b : ZoneBoard)
    (ops : List Operation) : Prop where
  reports : reportsFrom z k b ops=if n≤ticks ops then [(k+n,e)] else []
  meanwhile : ticks ops<n → P ((b.performAll ops).state z)=true
  reset : n≤ticks ops → (b.performAll ops).status? z=some {}

namespace Strikes

theorem nil (hn : 0<n) (hP : P (b.state z)=true) : Strikes z P e n k b [] where
  reports := (if_neg (Nat.not_le_of_lt hn)).symm
  meanwhile _ := hP
  reset h := absurd (Nat.lt_of_lt_of_le hn h) (Nat.lt_irrefl 0)

/-- An operation that is no second reports nothing. -/
theorem skip (ht : op.isTick=false) (h : Strikes z P e n k (b.perform op) ops) :
    Strikes z P e n k b (op::ops) := by
  have none := b.transitions_of_not_isTick ht
  have same : ticks (op::ops)=ticks ops := by rw [ticks_cons,ticks_of_not_isTick ht,Nat.zero_add]
  refine ⟨?_,fun hn => h.meanwhile (same ▸ hn),fun hn => h.reset (same ▸ hn)⟩
  rw [reportsFrom,none,ticks_of_not_isTick ht,same]
  exact h.reports

/-- A second that reports nothing of the zone. -/
theorem wait (small : b.size≤256) (hs : b.status? z=some s) (quiet : s.tick.2=none)
    (h : Strikes z P e n (k+1) b.tick.1 ops) : Strikes z P e (n+1) k b (.tick::ops) := by
  have more : ticks (.tick::ops)=ticks ops+1 := by
    rw [ticks_cons]
    exact Nat.add_comm ..
  refine ⟨?_,fun hn => h.meanwhile (by omega),fun hn => h.reset (by omega)⟩
  have none : (b.transitions .tick).filter (·.zone==z)=[] := by
    rw [transitions,transitions_about small hs,quiet]
    rfl
  rw [reportsFrom,none,more]
  refine h.reports.trans ?_
  simp only [Nat.add_le_add_iff_right,Nat.add_assoc,Nat.add_comm 1 n]

end Strikes

/-- A zone that is off is not reported and stays off, as long as nothing is done to it. -/
theorem silent_of_off (small : b.size≤256) (hs : b.status? z=some {})
    (spares : ∀ op∈ops,op.Spares z) :
    reportsFrom z k b ops=[] ∧ (b.performAll ops).status? z=some {} := by
  induction ops generalizing b k with
  | nil => exact ⟨rfl,hs⟩
  | cons op ops ih =>
    have hop := spares op List.mem_cons_self
    have step : (b.perform op).status? z=some {} ∧ (b.transitions op).filter (·.zone==z)=[] := by
      cases ht : op.isTick with
      | true =>
        rw [Operation.eq_tick_of_isTick ht,perform,status?_tick,hs,transitions,
          transitions_about small hs]
        exact ⟨rfl,rfl⟩
      | false =>
        rw [status?_perform_of_spares hop ht,b.transitions_of_not_isTick ht]
        exact ⟨hs,rfl⟩
    obtain ⟨same,none⟩ := step
    obtain ⟨reports,off⟩ := ih (k:=k+ticks [op]) (by rwa [size_perform_of_spares hop]) same
      fun op h => spares op (List.mem_cons_of_mem _ h)
    refine ⟨?_,off⟩
    rw [reportsFrom,none,reports]
    rfl

/-- The second that ends it. -/
theorem Strikes.strike (small : b.size≤256) (hs : b.status? z=some s) (last : s.tick=({},some e))
    (spares : ∀ op∈ops,op.Spares z) : Strikes z P e 1 k b (.tick::ops) := by
  have once : 1≤ticks (.tick::ops) := by
    rw [ticks_cons]
    exact Nat.le_add_right 1 _
  have off : (b.perform .tick).status? z=some {} := by
    rw [perform,status?_tick,hs,Option.map_some,last]
  obtain ⟨reports,stays⟩ := silent_of_off (b:=b.perform .tick) (k:=k+1)
    (Nat.le_trans (Nat.le_of_eq (size_tick b)) small) off spares
  refine ⟨?_,fun hn => absurd hn (Nat.not_lt_of_le once),fun _ => stays⟩
  have about : (b.transitions .tick).filter (·.zone==z)=[⟨z,e⟩] := by
    rw [transitions,transitions_about small hs,last]
    rfl
  rw [if_pos once,reportsFrom,about]
  exact congrArg ((k+1,e)::·) reports

/-- A clock strikes as its record says if nothing is done to its zone. -/
theorem strikes_of_expires (small : b.size≤256) (hs : b.status? z=some s) (h : s.Expires e n)
    (spares : ∀ op∈ops,op.Spares z) (hP : ∀ {s n},Expires e n s → P s.state=true) :
    Strikes z P e n k b ops := by
  induction ops generalizing b s n k with
  | nil =>
    refine .nil ?_ (by rw [state_of_status? hs]; exact hP h)
    cases h <;> omega
  | cons op ops ih =>
    have hop := spares op List.mem_cons_self
    have rest : ∀ op∈ops,op.Spares z := fun op h => spares op (List.mem_cons_of_mem _ h)
    have small' : (b.perform op).size≤256 := by rwa [size_perform_of_spares hop]
    cases ht : op.isTick with
    | true =>
      obtain rfl := Operation.eq_tick_of_isTick ht
      cases h with
      | last last => exact .strike small hs last rest
      | later quiet h =>
        refine .wait small hs quiet (ih small' ?_ h rest)
        rw [status?_tick,hs,Option.map_some]
    | false => exact .skip ht (ih small' ((status?_perform_of_spares hop ht).trans hs) h rest)

/-- All that is done to the zone is to confirm that it is on, and that before `n` seconds are over. -/
def OnlyConfirmed (z : UInt8) : Nat → List Operation → Prop
  | _,[] => True
  | n,op::ops => (op.Spares z ∨ op=.confirm z true ∧ 0<n) ∧ OnlyConfirmed z (n-ticks [op]) ops

instance (z : UInt8) : (n : Nat) → (ops : List Operation) → Decidable (OnlyConfirmed z n ops)
  | _,[] => inferInstanceAs (Decidable True)
  | n,op::ops =>
    have := instDecidableOnlyConfirmed z (n-ticks [op]) ops
    inferInstanceAs (Decidable (_ ∧ _))

/-- The zone is confirmed to be on before `n` seconds are over. -/
def ConfirmedBefore (z : UInt8) (n : Nat) (ops : List Operation) : Prop :=
  ∃ before after,ops=before++.confirm z true::after ∧ ticks before<n

/-- Once no time is left for it, nothing is confirmed any more. -/
theorem OnlyConfirmed.spares (h : OnlyConfirmed z 0 ops) : ∀ op∈ops,op.Spares z := by
  induction ops with
  | nil => exact nofun
  | cons op ops ih =>
    rw [OnlyConfirmed,Nat.zero_sub] at h
    intro x hx
    obtain rfl | hx := List.mem_cons.mp hx
    · exact h.1.resolve_right fun k => absurd k.2 (Nat.lt_irrefl 0)
    · exact ih h.2 x hx

theorem ConfirmedBefore.tail (h : ConfirmedBefore z n (op::ops)) (hne : op≠.confirm z true) :
    ticks [op]<n ∧ ConfirmedBefore z (n-ticks [op]) ops := by
  obtain ⟨before,after,he,within⟩ := h
  cases before with
  | nil => exact absurd (List.cons.inj he).1 hne
  | cons x before =>
    obtain ⟨rfl,rfl⟩ := List.cons.inj he
    rw [ticks_cons] at within
    exact ⟨by omega,before,after,rfl,by omega⟩

/-- The countdown is under way: the zone runs, or it will be confirmed while it still waits. -/
def UnderWay (z : UInt8) (s : ZoneStatus) (ops : List Operation) : Prop :=
  s.state=.running ∨ ∃ j,s.state=.starting j ∧ ConfirmedBefore z j ops

theorem UnderWay.isOn (h : UnderWay z s ops) : s.state.isOn=true := by
  obtain hs | ⟨j,hs,_⟩ := h <;> rw [hs] <;> rfl

/-- A second that does not end the run leaves it under way. -/
theorem UnderWay.tick (h : UnderWay z s (.tick::ops)) (hr : 1<s.remaining) :
    s.tick.2=none ∧ s.tick.1.remaining=s.remaining-1 ∧ UnderWay z s.tick.1 ops := by
  obtain hs | ⟨j,hs,confirmed⟩ := h
  · have ht : s.tick=({s with remaining:=s.remaining-1},none) := by
      rw [ZoneStatus.tick_running hs,if_neg (by omega),if_neg (by omega)]
    rw [ht]
    exact ⟨rfl,rfl,.inl hs⟩
  · obtain ⟨hj,confirmed⟩ := confirmed.tail nofun
    have ht : s.tick=({s with state:=.starting (j-1),remaining:=s.remaining-1},none) := by
      simp only [ZoneStatus.tick,hs]
      exact if_pos hj
    rw [ht]
    exact ⟨rfl,rfl,.inr ⟨j-1,rfl,confirmed⟩⟩

/-- A run ends with its countdown, confirmed as often as may be. -/
theorem strikes_of_underWay (small : b.size≤256) (hs : b.status? z=some s) (way : UnderWay z s ops)
    (hr : s.remaining=n) (hn : 0<n) (only : OnlyConfirmed z n ops) :
    Strikes z ZoneState.isOn .finished n k b ops := by
  induction ops generalizing b s n k with
  | nil => exact .nil hn (by rw [state_of_status? hs]; exact way.isOn)
  | cons op ops ih =>
    obtain ⟨hop | ⟨rfl,_⟩,only⟩ := only
    · have small' : (b.perform op).size≤256 := by rwa [size_perform_of_spares hop]
      cases ht : op.isTick with
      | true =>
        obtain rfl := Operation.eq_tick_of_isTick ht
        obtain rfl | hlt : n=1 ∨ 1<n := by omega
        · have running : s.state=.running := by
            obtain running | ⟨j,_,confirmed⟩ := way
            · exact running
            · obtain ⟨_,before,after,rfl,_⟩ := confirmed.tail nofun
              cases only.spares _ (List.mem_append_right before List.mem_cons_self) rfl
          refine .strike small hs ?_ only.spares
          rw [ZoneStatus.tick_running running,if_neg (by omega),if_pos hr]
        · obtain ⟨quiet,left,way⟩ := way.tick (by omega)
          obtain ⟨m,rfl⟩ : ∃ m,n=m+1 := ⟨n-1,by omega⟩
          refine .wait small hs quiet (ih small' ?_ way (by omega) (by omega) only)
          rw [status?_tick,hs,Option.map_some]
      | false =>
        have same := ticks_of_not_isTick ht
        have way : UnderWay z s ops := by
          refine way.imp_right fun ⟨j,hj,confirmed⟩ => ⟨j,hj,?_⟩
          have tail := (confirmed.tail (by rintro rfl; exact hop rfl)).2
          rwa [same] at tail
        rw [same] at only
        exact .skip ht (ih small' ((status?_perform_of_spares hop ht).trans hs) way hr hn only)
    · have size : (b.perform (.confirm z true)).size=b.size :=
        (congrArg ZoneBoard.size (confirm_fst ..)).trans (size_modify ..)
      exact .skip rfl (ih (by rwa [size]) (status?_confirm_self hs true) (.inl rfl) hr hn only)

theorem status?_start_self (hz : z.toNat<b.size) {run : ZoneRun} (hrun : run.zone=z)
    (confirmed : Bool) (now : Instant) :
    (b.start run confirmed now).status? z=some (.start run confirmed now) := by
  obtain ⟨s,hs⟩ := Option.isSome_iff_exists.mp (status?_isSome.mpr hz)
  rw [start,hrun,status?_modify,if_pos rfl,hs,Option.map_some]

/-- A stop of a zone that is on leaves it waiting. -/
theorem status?_stop_self (h : b.state z≠.off) :
    ∃ s,(b.stop z false).status? z=some s ∧ s.state=.stopping confirmTicks := by
  obtain ⟨s,hs,he⟩ := exists_status h
  refine ⟨s.stop false,?_,?_⟩
  · rw [stop,status?_modify,if_pos rfl,hs,Option.map_some]
  · obtain off | ⟨_,_,waits⟩ := s.stop_cases false
    · simp [ZoneStatus.stop,he,h] at off
    · exact waits

/-- The clocks of a zone strike once and in time. A start or a stop that is not confirmed leaves its
zone pending for four seconds; the fifth reports it and resets its record. A run that is confirmed at
once or within four seconds, and again as often as may be, is over with the last second of its
minutes, which reports it and resets its record. No other second reports the zone, whatever is done
to the other zones. -/
theorem timers_strike_once (b : ZoneBoard) (small : b.size≤256) (z : UInt8) (hz : z.toNat<b.size) :
    (∀ c was,
      ((∃ run now,run.zone=z ∧ c=b.start run false now ∧ was=.starting 1) ∨
        b.state z≠.off ∧ c=b.stop z false ∧ was=.stopping 1) →
      ∀ ops,(∀ op∈ops,op.Spares z) →
        c.reports z ops=(if 5≤ticks ops then [(5,.unconfirmed was)] else []) ∧
        (ticks ops<5 → ((c.performAll ops).state z).isPending=true) ∧
        (5≤ticks ops → (c.performAll ops).status? z=some {})) ∧
    ∀ run confirmed now,run.zone=z → run.minutes≠0 → ∀ ops,
      let c := b.start run confirmed now
      let n := 60*run.minutes.toNat
      OnlyConfirmed z n ops → (confirmed=true ∨ ConfirmedBefore z 5 ops) →
        c.reports z ops=(if n≤ticks ops then [(n,.finished)] else []) ∧
        (ticks ops<n → ((c.performAll ops).state z).isOn=true) ∧
        (n≤ticks ops → (c.performAll ops).status? z=some {}) := by
  refine ⟨?_,?_⟩
  · intro c was commanded ops spares
    have waits : c.size≤256 ∧ ∃ s,c.status? z=some s ∧ s.Expires (.unconfirmed was) 5 := by
      obtain ⟨run,now,hrun,rfl,rfl⟩ | ⟨on,rfl,rfl⟩ := commanded
      · exact ⟨by rwa [size_start],_,status?_start_self hz hrun false now,
          ZoneStatus.expires_starting rfl⟩
      · obtain ⟨s,hs,state⟩ := status?_stop_self on
        exact ⟨by rwa [size_stop],s,hs,ZoneStatus.expires_stopping state⟩
    obtain ⟨small,s,hs,expires⟩ := waits
    have strikes : Strikes z ZoneState.isPending (.unconfirmed was) 5 0 c ops :=
      strikes_of_expires small hs expires spares Expires.isPending
    exact ⟨by rw [reports,strikes.reports,Nat.zero_add],strikes.meanwhile,strikes.reset⟩
  · intro run confirmed now hrun hm ops c n only prompt
    have hn : 0<n := by
      have : run.minutes.toNat≠0 := fun k => hm (UInt8.toNat_inj.mp k)
      omega
    have way : UnderWay z (.start run confirmed now) ops := by
      cases confirmed with
      | true => exact .inl rfl
      | false => exact .inr ⟨5,rfl,prompt.resolve_left Bool.false_ne_true⟩
    have strikes : Strikes z ZoneState.isOn .finished n 0 c ops :=
      strikes_of_underWay (by rwa [size_start]) (status?_start_self hz hrun confirmed now) way
        (Nat.mul_comm ..) hn only
    exact ⟨by rw [reports,strikes.reports,Nat.zero_add],strikes.meanwhile,strikes.reset⟩

/-- Six seconds, with commands to other zones and answers of their stations in between. -/
def crossTraffic : List Operation :=
  [.tick,.start {zone:=0,minutes:=3} false {},.tick,.confirm 0 true,.tick,.stop 1 false,.tick,
    .forceOff 0,.tick,.tick]

/-- A zone that runs is stopped, or started anew for a minute; that run is confirmed after four
seconds and once more at the end. -/
theorem timers_strike_once_crossTraffic :
    let b := (ofCount 3).start {zone:=2,minutes:=9} true {}
    let c := b.start {zone:=2,minutes:=1} false {}
    let confirmed := crossTraffic.take 7++
      .confirm 2 true::(List.replicate 55 .tick++[.confirm 2 true,.tick,.tick])
    b.size≤256 ∧ (2 : UInt8).toNat<b.size ∧ b.state 2≠.off ∧ (∀ op∈crossTraffic,op.Spares 2) ∧
      (b.stop 2 false).reports 2 crossTraffic=[(5,.unconfirmed (.stopping 1))] ∧
      c.reports 2 crossTraffic=[(5,.unconfirmed (.starting 1))] ∧
      OnlyConfirmed 2 60 confirmed ∧ ConfirmedBefore 2 5 confirmed ∧
      c.reports 2 confirmed=[(60,.finished)] ∧ (c.performAll confirmed).status? 2=some {} := by
  intro b c confirmed
  have spares : ∀ op∈crossTraffic,op.Spares 2 := by decide
  have on : b.state 2≠.off := by decide
  have only : OnlyConfirmed 2 60 confirmed := by decide +kernel
  have prompt : ConfirmedBefore 2 5 confirmed := ⟨crossTraffic.take 7,_,rfl,by decide⟩
  obtain ⟨waits,runs⟩ := timers_strike_once b (by decide) 2 (by decide)
  have stop := waits (b.stop 2 false) (.stopping 1) (.inr ⟨on,rfl,rfl⟩) crossTraffic spares
  have start := waits c (.starting 1) (.inl ⟨_,_,rfl,rfl,rfl⟩) crossTraffic spares
  obtain ⟨reports,_,reset⟩ :=
    runs {zone:=2,minutes:=1} false {} rfl (by decide) confirmed only (.inr prompt)
  exact ⟨by decide,by decide,on,spares,stop.1,start.1,only,prompt,reports,reset (by decide)⟩

end ZoneBoard

end Watering
