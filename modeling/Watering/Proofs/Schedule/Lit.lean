import Mathlib.Tactic.Common
import Watering.Proofs.Controller.Halt
import Watering.Proofs.Schedule.Spacing
import Watering.Proofs.Schedule.Timely

namespace Watering

/-- The minute that a local second falls in. -/
def Moment.ofSecond (x : Int) : Moment := .ofInstant {seconds:=x} 0

/-- The local second at which a minute of the day of second `x` begins. -/
def minuteStart (x : Int) (minute : Nat) : Int := x/86400*86400+60*minute

theorem Moment.day_ofSecond (x : Int) : (ofSecond x).day=x/86400 := by simp [ofSecond,ofInstant]

theorem Moment.minute_ofSecond (x : Int) : ((ofSecond x).minute : Int)=x%86400/60 := by
  simp only [ofSecond,ofInstant,Int.add_zero]
  omega

theorem minuteStart_ofSecond (x : Int) : minuteStart x (Moment.ofSecond x).minute=x-x%60 := by
  rw [minuteStart,Moment.minute_ofSecond]
  omega

namespace Scheduler

variable {σ : Type} {s t : Scheduler} {c d : Controller σ} {x y : Int}

/-- A scheduler and a controller with all zones wired to it, none of which runs without a schedule. -/
structure Tends (x : Int) (s : Scheduler) (c : Controller σ) : Prop where
  orderly : Orderly s
  spaced : s.Spaced
  atHome : c.AtHome
  dark : s.active=none → ∀ i e,¬c.RunsUntil x i e

/-- No run is late. -/
def Punctual (x : Int) (s : Scheduler) : Prop :=
  ∀ p∈s.agenda.pending,p.2.isRun=true → (Moment.ofSecond x).minute≤p.1

/-- All ends are alike. -/
def Any (_ _ : Int) : Prop := True

/-- Both ends come within a slack after a second, or neither does. -/
def Together (base slack e f : Int) : Prop := e≤base+slack ↔ f≤base+slack

/-- Of the zones whose ends are alike one at most runs, and none for longer than `r` seconds into the
next run. -/
structure Lit (r : Int) (alike : Int → Int → Prop) (x : Int) (s : Scheduler) (c : Controller σ) :
    Prop where
  one : ∀ i j e f,c.RunsUntil x i e → c.RunsUntil x j f → alike e f → i=j
  ends : ∀ i e,c.RunsUntil x i e → ∀ p∈s.agenda.pending,p.2.isRun=true → e≤ minuteStart x p.1+r

namespace Lit

variable {r : Int} {alike : Int → Int → Prop}

theorem of_dark (dark : ∀ i e,¬c.RunsUntil x i e) : Lit r alike x s c :=
  ⟨fun i _ e _ hi => absurd hi (dark i e),fun i e hi => absurd hi (dark i e)⟩

end Lit

/-- A run begins on time: others are ahead by a length at least, and its zone may be lit. -/
structure Turned (x : Int) (run : ZoneRun) (s t : Scheduler) (c d : Controller σ) : Prop where
  due : ∃ p∈s.agenda.pending,p.2.isRun=true ∧ minuteStart x p.1=x-x%60
  later : ∀ q∈t.agenda.pending,q.2.isRun=true → x-x%60+60≤ minuteStart x q.1 ∧
    x-x%60+60*run.minutes.toNat≤ minuteStart x q.1
  zones : ∀ i e,d.RunsUntil x i e →
    c.RunsUntil x i e ∨ i=run.zone ∧ x+60≤e ∧ e≤x+60*run.minutes.toNat

/-- No zone is lit, and no run is laid out but in the dark. -/
structure Spent (x y : Int) (s t : Scheduler) (c d : Controller σ) : Prop where
  zones : ∀ i e,d.RunsUntil y i e → c.RunsUntil x i e
  runs : (∀ i e,¬d.RunsUntil y i e) ∨
    y/86400=x/86400 ∧ ∀ q∈t.agenda.pending,q.2.isRun=true → q∈s.agenda.pending

theorem Spent.compact (s : Scheduler) (c : Controller σ) :
    Spent x x s {s with agenda:=s.agenda.compact} c c where
  zones _ _ := id
  runs := by
    refine .inr ⟨rfl,fun q m _ => ?_⟩
    rwa [Agenda.pending_compact] at m

namespace Lit

variable {r : Int} {alike : Int → Int → Prop}

theorem spent (l : Lit r alike x s c) (k : Spent x y s t c d) : Lit r alike y t d where
  one i j e f hi hj := l.one i j e f (k.zones i e hi) (k.zones j f hj)
  ends i e hi p m hp := by
    obtain dark | ⟨day,runs⟩ := k.runs
    · exact absurd hi (dark i e)
    · have he := l.ends i e (k.zones i e hi) p (runs p m hp) hp
      rw [minuteStart] at he ⊢
      rwa [day]

/-- A run that begins `r` seconds into its minute finds no zone that runs. -/
theorem turned {run : ZoneRun} (l : Lit r alike x s c) (hr : x%60=r) (atHome : c.AtHome)
    (k : Turned x run s t c d) : Lit r alike x t d := by
  obtain ⟨p,m,hp,start⟩ := k.due
  have own (i : UInt8) (e : Int) (hi : d.RunsUntil x i e) :
      i=run.zone ∧ e≤x+60*run.minutes.toNat := by
    obtain old | ⟨hz,_,he⟩ := k.zones i e hi
    · have ends := l.ends i e old p m hp
      have lt := atHome.lt old
      omega
    · exact ⟨hz,he⟩
  refine ⟨fun i j e f hi hj _ => ?_,fun i e hi q hq hrun => ?_⟩
  · rw [(own i e hi).1,(own j f hj).1]
  · have he := (own i e hi).2
    have later := (k.later q hq hrun).2
    omega

end Lit

/-- A run that begins with its minute may find a zone that ends in that minute. -/
theorem Lit.joined {slack : Int} {run : ZoneRun} (l : Lit slack Any x s c)
    (hr : x%60=0) (hs : slack<60) (k : Turned x run s t c d) : Lit 0 (Together x slack) x t d := by
  obtain ⟨p,m,hp,start⟩ := k.due
  have ends (i : UInt8) (e : Int) (hi : c.RunsUntil x i e) : e≤x+slack := by
    have he := l.ends i e hi p m hp
    omega
  refine ⟨fun i j e f hi hj alike => ?_,fun i e hi q hq hrun => ?_⟩
  · rw [Together] at alike
    obtain old | ⟨hz,he,_⟩ := k.zones i e hi
    · obtain old' | ⟨_,hf,_⟩ := k.zones j f hj
      · exact l.one i j e f old old' trivial
      · have hb := ends i e old
        omega
    · obtain old' | ⟨hz',_⟩ := k.zones j f hj
      · have hb := ends j f old'
        omega
      · rw [hz,hz']
  · have later := k.later q hq hrun
    obtain old | ⟨_,_,he⟩ := k.zones i e hi
    · have hb := ends i e old
      omega
    · omega

theorem Punctual.expanded {schedule : ScheduleRef} (h : s.Punctual x)
    (e : Expanded schedule (Moment.ofSecond x).minute s t) : t.Punctual x := by
  cases e with
  | nothing => exact h
  | begun _ _ _ _ chain =>
    intro p m hp
    obtain ⟨m,_⟩ | m := Agenda.mem_addAll.mp m
    · obtain ⟨run,hr,rfl⟩ | rfl := mem_course.mp m
      · exact (chain.bounds hr).1
      · cases hp
    · exact h p m hp

theorem Tends.compact (h : Tends x s c) : Tends x {s with agenda:=s.agenda.compact} c where
  orderly := h.orderly.compact
  spaced := by
    rw [Spaced,Agenda.pending_compact]
    exact h.spaced
  atHome := h.atHome
  dark := h.dark

variable [Carrier σ] {action : Action} {agenda : Agenda}

/-- A run that is due begins this minute. -/
theorem Tends.begins {run : ZoneRun} (h : Tends x s c) (punctual : s.Punctual x)
    (ht : s.agenda.takeDue? (Moment.ofSecond x).minute=some (.turnOn run,agenda)) :
    s.active≠none ∧ Turned x run s {s with agenda} c (c.startZone run).1 := by
  obtain ⟨u,hu,hp,later⟩ := h.spaced.after_run h.orderly ht
  have first : (u,.turnOn run)∈s.agenda.pending := by
    rw [hp]
    exact List.mem_cons_self
  have now : u=(Moment.ofSecond x).minute := Nat.le_antisymm hu (punctual _ first rfl)
  have start : minuteStart x u=x-x%60 := by rw [now,minuteStart_ofSecond]
  have active : s.active≠none := fun idle => by cases h.orderly.idle idle _ first
  refine ⟨active,⟨_,first,rfl,start⟩,fun q m hq => ?_,fun i e hr => h.atHome.runsUntil_startZone hr⟩
  have apart := later q m hq
  rw [minuteStart] at start ⊢
  omega

/-- An action that is due turns on the zone of a run that begins this minute, or lights nothing. -/
theorem Tends.perform_cases (h : Tends x s c) (punctual : s.Punctual x)
    (ht : s.agenda.takeDue? (Moment.ofSecond x).minute=some (action,agenda)) :
    let t := (perform {s with agenda} c (Moment.ofSecond x).minute action).1
    let d := (perform {s with agenda} c (Moment.ofSecond x).minute action).2
    (Tends x t d ∧ t.Punctual x) ∧ ((∃ run,Turned x run s t c d) ∨ Spent x x s t c d) := by
  have orderly := h.orderly.perform ht c
  have spaced := h.spaced.perform h.orderly ht c
  have rest := h.orderly.ordered.sublist_takeDue? ht
  have left : Punctual x {s with agenda} := fun q m => punctual q (rest.subset m)
  cases action with
  | turnOn run =>
    obtain ⟨active,turned⟩ := h.begins punctual ht
    exact ⟨⟨⟨orderly,spaced,h.atHome.startZone run,fun idle => absurd idle active⟩,left⟩,
      .inl ⟨run,turned⟩⟩
  | turnOffAll owner =>
    have dark (i : UInt8) (e : Int) : ¬c.turnOffAll.RunsUntil x i e :=
      Controller.AtHome.not_runsUntil (h.atHome.state_turnOffAll i)
    refine ⟨⟨⟨orderly,spaced,h.atHome.turnOffAll,fun _ => dark⟩,?_⟩,
      .inr ⟨fun i e hr => absurd hr (dark i e),.inl dark⟩⟩
    rw [Punctual,agenda_perform_turnOffAll]
    exact left
  | expand schedule slot =>
    by_cases idle : Scheduler.active {s with agenda}=none
    · rw [perform_begun idle] at orderly spaced ⊢
      exact ⟨⟨⟨orderly,spaced,h.atHome,fun _ => h.dark idle⟩,left.expanded (expanded_expand ..)⟩,
        .inr ⟨fun _ _ => id,.inl (h.dark idle)⟩⟩
    · rw [perform_deferred idle] at orderly spaced ⊢
      have old {q : Nat×Action} (m : q∈(agenda.add ((Moment.ofSecond x).minute+1)
          (.expand schedule slot)).pending) (hq : q.2.isRun=true) : q∈s.agenda.pending := by
        obtain ⟨rfl,_⟩ | m := Agenda.mem_add.mp m
        · cases hq
        · exact rest.subset m
      exact ⟨⟨⟨orderly,spaced,h.atHome,fun k => absurd k idle⟩,
        fun q m hq => punctual q (old m hq) hq⟩,.inr ⟨fun _ _ => id,.inr ⟨rfl,fun q m => old m⟩⟩⟩

/-- What every run that begins keeps, and every other action, is kept by all that is due. -/
theorem Tends.fireDue {Q : Scheduler → Controller σ → Prop} (h : Tends x s c)
    (punctual : s.Punctual x) (hq : Q s c)
    (turned : ∀ {run s t c d},Tends x s c → Q s c → Turned x run s t c d → Q t d)
    (spent : ∀ {s t c d},Q s c → Spent x x s t c d → Q t d) :
    let t := (s.fireDue (Moment.ofSecond x).minute c).1
    let d := (s.fireDue (Moment.ofSecond x).minute c).2
    Tends x t d ∧ Q t d := by
  intro t d
  let steps := 2*s.agenda.dueCount (Moment.ofSecond x).minute
  let u := (fire (Moment.ofSecond x).minute steps s c).1
  have fired : (Tends x u d ∧ u.Punctual x) ∧ Q u d := by
    refine fire_induction (P:=fun s c => (Tends x s c ∧ s.Punctual x) ∧ Q s c) ?_
      ⟨⟨h,punctual⟩,hq⟩ steps
    rintro s c action agenda ⟨⟨h,punctual⟩,hq⟩ ht
    obtain ⟨next,⟨run,k⟩ | k⟩ := h.perform_cases punctual ht
    · exact ⟨next,turned h hq k⟩
    · exact ⟨next,spent hq k⟩
  obtain ⟨⟨tends,_⟩,hq⟩ := fired
  exact ⟨tends.compact,spent hq (.compact u d)⟩

omit [Carrier σ] in
/-- What runs belongs to the active schedule. -/
theorem Orderly.punctual_of_idle (h : Orderly s) (idle : s.active=none) : s.Punctual x := by
  intro p m hp
  have he := Action.not_isExpand_of_isRun hp
  rw [h.idle idle p m] at he
  cases he

/-- What holds between two seconds: the agenda is that of the day, and nothing on it is due. -/
structure Rests (x : Int) (s : Scheduler) (c : Controller σ) : Prop extends Tends x s c where
  today : s.day=some (x/86400)
  later : ∀ p∈s.agenda.pending,(Moment.ofSecond x).minute<p.1

theorem fireDue_of_later {minute : Nat} (later : ∀ p∈s.agenda.pending,minute<p.1) (c : Controller σ) :
    s.fireDue minute c=({s with agenda:=s.agenda.compact},c) := by
  have none_due : s.agenda.dueCount minute=0 := by
    rw [Agenda.dueCount,List.length_eq_zero_iff,List.filter_eq_nil_iff]
    intro p m
    have lt := later p m
    simp only [decide_eq_true_eq]
    omega
  rw [fireDue,none_due]
  rfl

namespace Rests

/-- A second counts down, and on a new day everything is stopped. -/
theorem roll (h : Rests x s c) : let now := Moment.ofSecond (x+1)
    let t := (s.rollDay now c.tick).1
    let d := (s.rollDay now c.tick).2
    Tends (x+1) t d ∧ t.Punctual (x+1) ∧ Spent x (x+1) s t c d ∧
      ((x+1)%60≠0 → ∀ p∈t.agenda.pending,now.minute<p.1) := by
  intro now
  have atHome := h.atHome.tick
  have zones (i : UInt8) (e : Int) (hr : c.tick.RunsUntil (x+1) i e) : c.RunsUntil x i e :=
    h.atHome.runsUntil_tick hr
  have minute : ((Moment.ofSecond x).minute : Int)=x%86400/60 := Moment.minute_ofSecond x
  have next : (now.minute : Int)=(x+1)%86400/60 := Moment.minute_ofSecond (x+1)
  rw [rollDay,h.today]
  dsimp only
  split_ifs with same
  · rw [Moment.day_ofSecond] at same
    refine ⟨⟨h.orderly,h.spaced,atHome,fun idle i e hr => h.dark idle i e (zones i e hr)⟩,
      fun p m _ => ?_,⟨zones,.inr ⟨same.symm,fun q m _ => m⟩⟩,fun within p m => ?_⟩
    · have later := h.later p m
      change now.minute≤p.1
      omega
    · have later := h.later p m
      omega
  · have dark (i : UInt8) (e : Int) : ¬(Actuator.stopAll c.tick).RunsUntil (x+1) i e :=
      Controller.AtHome.not_runsUntil (Controller.AtHome.state_stopAll i)
    have orderly := Orderly.reload s now
    have stopped : Controller.AtHome (Actuator.stopAll c.tick) := atHome.stopAll
    rw [Moment.day_ofSecond] at same
    exact ⟨⟨orderly,.reload s now,stopped,fun _ => dark⟩,orderly.punctual_of_idle rfl,
      ⟨fun i e hr => absurd hr (dark i e),.inl dark⟩,fun within => absurd same (by omega)⟩

/-- What a run that begins with its minute keeps, and every other action, is kept by a second. -/
theorem second {Q : Int → Scheduler → Controller σ → Prop} (h : Rests x s c) (hq : Q x s c)
    (turned : ∀ {run s t c d},(x+1)%60=0 → Tends (x+1) s c → Q (x+1) s c →
      Turned (x+1) run s t c d → Q (x+1) t d)
    (spent : ∀ {x y s t c d},Q x s c → Spent x y s t c d → Q y t d) :
    let t := (s.tick (.ofSecond (x+1)) c.tick).1
    let d := (s.tick (.ofSecond (x+1)) c.tick).2
    Rests (x+1) t d ∧ Q (x+1) t d := by
  intro t d
  obtain ⟨tends,punctual,rolled,settled⟩ := h.roll
  have hroll := spent hq rolled
  have fired : Tends (x+1) t d ∧ Q (x+1) t d := by
    by_cases starts : (x+1)%60=0
    · exact tends.fireDue punctual hroll (turned starts) spent
    · refine ⟨(tends.fireDue punctual (Q:=fun _ _ => True) trivial
        (fun _ _ _ => trivial) fun _ _ => trivial).1,?_⟩
      have quiet : s.tick (.ofSecond (x+1)) c.tick=_ := fireDue_of_later (settled starts) _
      change Q (x+1) (s.tick _ c.tick).1 (s.tick _ c.tick).2
      rw [quiet]
      exact spent hroll (.compact _ _)
  have today : t.day=some ((x+1)/86400) := by
    rw [show t.day=_ from handle_day s c.tick (.tick (.ofSecond (x+1))),Operation.date?,
      Moment.day_ofSecond,Option.some_or]
  exact ⟨⟨fired.1,today,h.orderly.tick_done _ _⟩,fired.2⟩

end Rests

/-- No schedule is active, and no zone runs. -/
structure Quiet (s : Scheduler) (c : Controller σ) : Prop where
  orderly : Orderly s
  spaced : s.Spaced
  idle : s.active=none
  atHome : c.AtHome
  off : ∀ i,c.zones.state i=.off

namespace Quiet

/-- What is due while no zone runs. -/
theorem fireDue (h : Quiet s c) : let t := (s.fireDue (Moment.ofSecond x).minute c).1
    let d := (s.fireDue (Moment.ofSecond x).minute c).2
    Tends x t d ∧ Lit (x%60) Any x t d := by
  have dark (i : UInt8) (e : Int) : ¬c.RunsUntil x i e := Controller.AtHome.not_runsUntil (h.off i)
  have tends : Tends x s c := ⟨h.orderly,h.spaced,h.atHome,fun _ => dark⟩
  exact tends.fireDue (h.orderly.punctual_of_idle h.idle) (.of_dark dark)
    (fun tends l k => l.turned rfl tends.atHome k) fun l k => l.spent k

theorem rollDay (h : Quiet s c) (now : Moment) :
    Quiet (s.rollDay now c).1 (s.rollDay now c).2 := by
  have reloaded {d : Controller σ} (atHome : d.AtHome) (off : ∀ i,d.zones.state i=.off) :
      Quiet (s.reload now) d := ⟨.reload s now,.reload s now,rfl,atHome,off⟩
  rw [Scheduler.rollDay]
  split
  · exact reloaded h.atHome h.off
  · split_ifs
    · exact h
    · exact reloaded h.atHome.stopAll Controller.AtHome.state_stopAll

theorem cancel (h : Quiet s c) : Quiet (s.cancel c).1 (s.cancel c).2 := by
  rw [Scheduler.cancel,h.idle]
  exact h

omit [Carrier σ] in
theorem askQuick (h : Quiet s c) (durations : List UInt8) (minute : Nat) :
    Quiet {s with quick:=some durations,agenda:=s.agenda.add minute (.expand .quick 0)} c where
  orderly := h.orderly.askQuick durations minute
  spaced := h.spaced.addStart minute .quick 0
  idle := h.idle
  atHome := h.atHome
  off := h.off

/-- Whichever way watering begins, some seconds into a minute. -/
theorem start (h : Quiet s c) {op : Operation} (hop : op.moment?=some (.ofSecond x)) :
    let t := (s.handle c op).1
    let d := (s.handle c op).2
    Rests x t d ∧ Lit (x%60) Any x t d := by
  intro t d
  have today : t.day=some (x/86400) := by
    have day : op.date?=some (x/86400) := by
      rw [←Moment.day_ofSecond]
      cases op <;> cases hop <;> rfl
    rw [show t.day=_ from handle_day s c op,day,Option.some_or]
  cases op with
  | tick now =>
    obtain rfl := Option.some.inj hop
    obtain ⟨tends,lit⟩ := (h.rollDay (.ofSecond x)).fireDue (x:=x)
    exact ⟨⟨tends,today,h.orderly.tick_done _ _⟩,lit⟩
  | runQuick durations now =>
    obtain rfl := Option.some.inj hop
    obtain ⟨tends,lit⟩ := ((h.rollDay (.ofSecond x)).cancel.askQuick durations _).fireDue (x:=x)
    exact ⟨⟨tends,today,h.orderly.runQuick_done _ _ _⟩,lit⟩
  | stop | reload | setEnabled | replaceSchedules | setSeasonal | setWeather => cases hop

end Quiet

end Scheduler

end Watering
