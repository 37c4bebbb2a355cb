import Mathlib.Data.List.Nodup
import Watering.Proofs.Schedule.Timely

namespace Watering

namespace Agenda

variable {a b : Agenda} {minute now : Nat} {x y : Action}

/-- How often an action is ahead. -/
def live (a : Agenda) (x : Action) : Nat := a.pending.countP (·.2=x)

theorem live_eq_count (a : Agenda) (x : Action) : a.live x=(a.pending.map (·.2)).count x := by
  rw [live,List.count_eq_countP,List.countP_map]
  apply List.countP_congr
  intro p _
  simp

theorem live_add (a : Agenda) (minute : Nat) (x y : Action) :
    (a.add minute y).live x=a.live x+if y=x ∧ minute< minutesPerDay then 1 else 0 := by
  by_cases hm : minute< minutesPerDay
  · rw [live,(pending_add_perm a y hm).countP_eq,List.countP_cons,live]
    simp [hm]
  · rw [live,pending_add,if_neg hm,if_neg (fun k => hm k.2)]
    rfl

/-- Actions of another kind do not count. -/
theorem live_addAll (a : Agenda) {l : List (Nat×Action)} (h : ∀ p∈l,p.2≠x) :
    (a.addAll l).live x=a.live x := by
  rw [live,(pending_addAll_perm a l).countP_eq,List.countP_append]
  have none : (l.filter (·.1< minutesPerDay)).countP (·.2=x)=0 := by
    rw [List.countP_eq_zero]
    intro p m
    simpa using h p (List.mem_filter.mp m).1
  rw [none,Nat.zero_add,live]

theorem Ordered.live_takeDue? (h : a.Ordered) (ht : a.takeDue? now=some (y,b)) (x : Action) :
    a.live x=b.live x+if y=x then 1 else 0 := by
  obtain ⟨t,_,hp⟩ := h.takeDue? ht
  rw [live,hp,List.countP_cons,live]
  simp

theorem live_compact (a : Agenda) (x : Action) : a.compact.live x=a.live x := by
  rw [live,pending_compact,live]

theorem live_retireWhere (a : Agenda) {p : Action → Bool} (h : p x=false) :
    (a.retireWhere p).live x=a.live x := by
  rw [live,pending_retireWhere,List.countP_filter,live]
  apply List.countP_congr
  intro q _
  simp only [Bool.and_eq_true,decide_eq_true_eq,Bool.not_eq_true',and_iff_left_iff_imp]
  rintro rfl
  exact h

end Agenda

namespace Scheduler

variable {α : Type} [Actuator α] {s t : Scheduler} {minute : Nat} {x y : Action} {agenda : Agenda}

/-- An action that was carried out, at which minute, and which schedule was active then. -/
structure Fired where
  minute : Nat
  active : Option ScheduleRef
  action : Action
deriving DecidableEq

namespace Fired

/-- A start time was expanded. -/
def Begins (f : Fired) (x : Action) : Prop := f.action=x ∧ f.active=none

/-- A start time came in vain when the day had no minute left. -/
def Lapses (f : Fired) (x : Action) : Prop :=
  f.action=x ∧ f.active≠none ∧ f.minute+1=minutesPerDay

instance (f : Fired) (x : Action) : Decidable (f.Begins x) :=
  inferInstanceAs (Decidable (_ ∧ _))

instance (f : Fired) (x : Action) : Decidable (f.Lapses x) :=
  inferInstanceAs (Decidable (_ ∧ _ ∧ _))

/-- A start time of a schedule was expanded. -/
def Starts (f : Fired) (schedule : ScheduleRef) : Prop :=
  ∃ slot,f.Begins (.expand schedule slot)

def begun (log : List Fired) (x : Action) : Nat := log.countP (·.Begins x)

def lapsed (log : List Fired) (x : Action) : Nat := log.countP (·.Lapses x)

/-- Whatever schedule was active had been started before. -/
def Traced (past : List Fired) : List Fired → Prop
  | [] => True
  | f::log => (∀ owner,f.active=some owner → ∃ g∈past,g.Starts owner) ∧ Traced (past++[f]) log

theorem traced_append {past log more : List Fired} :
    Traced past (log++more) ↔ Traced past log ∧ Traced (past++log) more := by
  induction log generalizing past with
  | nil => simp [Traced]
  | cons f log ih => simp [Traced,ih,and_assoc]

end Fired

open Fired

def fireLog (minute : Nat) : Nat → Scheduler → α → List Fired
  | 0,_,_ => []
  | steps+1,s,a =>
    match s.agenda.takeDue? minute with
    | none => []
    | some (action,agenda) =>
      let t := perform {s with agenda} a minute action
      ⟨minute,s.active,action⟩::fireLog minute steps t.1 t.2

def fireDueLog (s : Scheduler) (minute : Nat) (a : α) : List Fired :=
  fireLog minute (2*s.agenda.dueCount minute) s a

def handleLog (s : Scheduler) (a : α) : Operation → List Fired
  | .tick now =>
    let (t,b) := s.rollDay now a
    t.fireDueLog now.minute b
  | .runQuick durations now =>
    let (t,b) := s.rollDay now a
    let (u,c) := t.cancel b
    let agenda := u.agenda.add now.minute (.expand .quick 0)
    fireDueLog {u with quick:=some durations,agenda} now.minute c
  | _ => []

def log (s : Scheduler) : List (α×Operation) → List Fired
  | [] => []
  | (a,op)::ops => s.handleLog a op++(s.handle a op).1.log ops

/-- Carrying out what is due, and stopping, on one day. -/
def Operation.Within (day : Int) : Operation → Prop
  | .tick now | .runQuick _ now => now.day=day
  | .stop => True
  | _ => False

instance (day : Int) : (op : Operation) → Decidable (op.Within day)
  | .tick now | .runQuick _ now => inferInstanceAs (Decidable (now.day=day))
  | .stop => .isTrue trivial
  | .reload _ | .setEnabled .. | .replaceSchedules .. | .setSeasonal _ | .setWeather _ => .isFalse id

theorem Expanded.live {schedule : ScheduleRef} (e : Expanded schedule minute s t)
    (hx : x.isExpand=true) : t.agenda.live x=s.agenda.live x := by
  cases e with
  | nothing => rfl
  | begun =>
    apply Agenda.live_addAll
    rintro p m rfl
    obtain ⟨run,_,rfl⟩ | rfl := mem_course.mp m
    · cases hx
    · cases hx

namespace Orderly

/-- A start time that is carried out was ahead, and is so again unless it was expanded or came too
late for another minute. -/
theorem perform_live (o : Orderly s) (ht : s.agenda.takeDue? minute=some (y,agenda)) (a : α)
    (hm : minute< minutesPerDay) (hx : x.isExpand=true) :
    let f : Fired := ⟨minute,s.active,y⟩
    (Scheduler.perform {s with agenda} a minute y).1.agenda.live x+(if f.Begins x then 1 else 0)+
      (if f.Lapses x then 1 else 0)=s.agenda.live x := by
  intro f
  rw [o.ordered.live_takeDue? ht x]
  have apart (he : y.isExpand=false) : y≠x := by
    rintro rfl
    rw [hx] at he
    cases he
  have unlike (hne : y≠x) : ¬f.Begins x ∧ ¬f.Lapses x := ⟨fun k => hne k.1,fun k => hne k.1⟩
  cases y with
  | turnOn run =>
    have hne := apart rfl
    rw [if_neg hne,if_neg (unlike hne).1,if_neg (unlike hne).2]
    rfl
  | turnOffAll owner =>
    have hne := apart rfl
    rw [agenda_perform_turnOffAll,if_neg hne,if_neg (unlike hne).1,if_neg (unlike hne).2]
  | expand schedule slot =>
    by_cases hne : Action.expand schedule slot=x
    · by_cases idle : s.active=none
      · have begins : f.Begins x := ⟨hne,idle⟩
        have lasts : ¬f.Lapses x := fun k => k.2.1 idle
        rw [perform_begun (s:={s with agenda}) idle,(expanded_expand ..).live hx,if_pos hne,
          if_pos begins,if_neg lasts]
      · have waits : ¬f.Begins x := fun k => idle k.2
        rw [perform_deferred (s:={s with agenda}) idle,if_pos hne,if_neg waits]
        dsimp only
        rw [Agenda.live_add]
        by_cases last : minute+1=minutesPerDay
        · rw [if_neg (fun k => absurd k.2 (by omega)),if_pos ⟨hne,idle,last⟩]
        · rw [if_pos ⟨hne,by omega⟩,if_neg (fun k => last k.2.2)]
    · rw [if_neg hne,if_neg (unlike hne).1,if_neg (unlike hne).2]
      by_cases idle : s.active=none
      · rw [perform_begun (s:={s with agenda}) idle,(expanded_expand ..).live hx]
      · rw [perform_deferred (s:={s with agenda}) idle]
        dsimp only
        rw [Agenda.live_add,if_neg (fun k => hne k.1)]

theorem fire_live (o : Orderly s) (steps : Nat) (a : α) (hm : minute< minutesPerDay)
    (hx : x.isExpand=true) :
    (Scheduler.fire minute steps s a).1.agenda.live x+begun (fireLog minute steps s a) x+
      lapsed (fireLog minute steps s a) x=s.agenda.live x := by
  induction steps generalizing s a with
  | zero => rfl
  | succ steps ih =>
    rw [Scheduler.fire,fireLog]
    cases ht : s.agenda.takeDue? minute with
    | none => rfl
    | some due =>
      have first := o.perform_live ht a hm hx
      have rest := ih (o.perform ht a) (Scheduler.perform {s with agenda:=due.2} a minute due.1).2
      dsimp only at first ⊢
      rw [begun,lapsed,List.countP_cons,List.countP_cons]
      simp only [decide_eq_true_eq]
      rw [begun,lapsed] at rest
      omega

theorem fireDue_live (o : Orderly s) (now : Moment) (a : α) (hx : x.isExpand=true) :
    (s.fireDue now.minute a).1.agenda.live x+begun (s.fireDueLog now.minute a) x+
      lapsed (s.fireDueLog now.minute a) x=s.agenda.live x := by
  have fired := o.fire_live (2*s.agenda.dueCount now.minute) a now.minute_lt hx
  change (Agenda.compact _).live x+_+_=_
  rw [Agenda.live_compact]
  exact fired

end Orderly

theorem dropRuns_live (s : Scheduler) (hx : x.isExpand=true) :
    s.dropRuns.agenda.live x=s.agenda.live x := by
  apply Agenda.live_retireWhere
  rw [hx]
  rfl

/-- Within a day an operation neither adds to the start times that the agenda was laid out with nor
loses one. -/
theorem Orderly.handle_live (o : Orderly s) (a : α) {op : Operation} {day : Int}
    (hd : s.day=some day) (within : op.Within day) (hx : x.isExpand=true)
    (hq : x≠.expand .quick 0) :
    (s.handle a op).1.agenda.live x+begun (s.handleLog a op) x+lapsed (s.handleLog a op) x=
      s.agenda.live x := by
  cases op with
  | tick now =>
    obtain rfl : now.day=day := within
    rw [Scheduler.handle,Scheduler.tick,handleLog,rollDay_same hd]
    exact o.fireDue_live now a hx
  | runQuick durations now =>
    obtain rfl : now.day=day := within
    rw [Scheduler.handle,Scheduler.runQuick,handleLog,rollDay_same hd]
    have cancelled : (s.cancel a).1.agenda.live x=s.agenda.live x := by
      rw [Scheduler.cancel]
      split_ifs
      · exact (Agenda.live_compact ..).trans (s.dropRuns_live hx)
      · rfl
    have asked := ((o.cancel a).askQuick durations now.minute).fireDue_live now (s.cancel a).2 hx
    have others := (s.cancel a).1.agenda.live_add now.minute x (.expand .quick 0)
    rw [if_neg (fun k => hq k.1.symm),Nat.add_zero,cancelled] at others
    exact asked.trans others
  | stop =>
    change (s.stop a).1.agenda.live x+0+0=_
    rw [Scheduler.stop]
    split_ifs
    · exact (Agenda.live_compact ..).trans (s.dropRuns_live hx)
    · exact Agenda.live_compact ..
  | reload | setEnabled | replaceSchedules | setSeasonal | setWeather => exact absurd within id

theorem handle_day_of_within (a : α) {op : Operation} {day : Int} (hd : s.day=some day)
    (within : op.Within day) : (s.handle a op).1.day=some day := by
  rw [handle_day,hd]
  cases op with
  | tick now | runQuick _ now =>
    obtain rfl : now.day=day := within
    rfl
  | stop => rfl
  | reload | setEnabled | replaceSchedules | setSeasonal | setWeather => exact absurd within id

theorem Orderly.handleAll_live (o : Orderly s) {ops : List (α×Operation)} {day : Int}
    (hd : s.day=some day) (within : ∀ step∈ops,step.2.Within day) (hx : x.isExpand=true)
    (hq : x≠.expand .quick 0) :
    (s.handleAll ops).agenda.live x+begun (s.log ops) x+lapsed (s.log ops) x=s.agenda.live x := by
  induction ops generalizing s with
  | nil => rfl
  | cons step ops ih =>
    have now := within step List.mem_cons_self
    have first := o.handle_live step.1 hd now hx hq
    have rest := ih (o.handle step.1 step.2) (handle_day_of_within step.1 hd now)
      fun later m => within later (List.mem_cons_of_mem _ m)
    change ((s.handle step.1 step.2).1.handleAll ops).agenda.live x+_+_=_
    rw [log,begun,lapsed,List.countP_append,List.countP_append]
    rw [begun,lapsed] at first rest
    omega

/-- A schedule that is active was started by something on the log. -/
def Rooted (s : Scheduler) (log : List Fired) : Prop :=
  ∀ owner,s.active=some owner → ∃ f∈log,f.Starts owner

theorem Rooted.mono {log more : List Fired} (h : s.Rooted log) : s.Rooted (log++more) := by
  intro owner active
  obtain ⟨f,m,hf⟩ := h owner active
  exact ⟨f,List.mem_append_left _ m,hf⟩

theorem Expanded.active {schedule owner : ScheduleRef} (e : Expanded schedule minute s t)
    (idle : s.active=none) (active : t.active=some owner) : owner=schedule := by
  cases e with
  | nothing => cases idle.symm.trans active
  | begun => exact (Option.some.inj active).symm

theorem Rooted.perform {log : List Fired} (h : s.Rooted log) (a : α) (agenda : Agenda)
    (y : Action) : (Scheduler.perform {s with agenda} a minute y).1.Rooted (log++[⟨minute,s.active,y⟩]) := by
  cases y with
  | turnOn run => exact h.mono
  | turnOffAll owner =>
    rw [Scheduler.perform]
    split_ifs
    · exact fun _ k => by cases k
    · exact h.mono
  | expand schedule slot =>
    by_cases idle : s.active=none
    · rw [perform_begun (s:={s with agenda}) idle]
      intro owner active
      have expanded := expanded_expand {s with agenda} schedule minute (Actuator.maxRun a)
      obtain rfl := expanded.active idle active
      exact ⟨_,List.mem_append_right _ (List.mem_singleton_self _),slot,rfl,idle⟩
    · rw [perform_deferred (s:={s with agenda}) idle]
      exact h.mono

theorem Rooted.fire {past : List Fired} (h : s.Rooted past) (steps : Nat) (a : α) :
    Traced past (fireLog minute steps s a) ∧
    (Scheduler.fire minute steps s a).1.Rooted (past++fireLog minute steps s a) := by
  induction steps generalizing s a past with
  | zero => exact ⟨trivial,h.mono⟩
  | succ steps ih =>
    rw [Scheduler.fire,fireLog]
    cases ht : s.agenda.takeDue? minute with
    | none => exact ⟨trivial,h.mono⟩
    | some due =>
      obtain ⟨traced,rooted⟩ := ih (h.perform a due.2 due.1)
        (Scheduler.perform {s with agenda:=due.2} a minute due.1).2
      refine ⟨⟨h,traced⟩,?_⟩
      rwa [List.append_assoc] at rooted

theorem Rooted.handle {past : List Fired} (h : s.Rooted past) (a : α) {op : Operation} {day : Int}
    (hd : s.day=some day) (within : op.Within day) :
    Traced past (s.handleLog a op) ∧ (s.handle a op).1.Rooted (past++s.handleLog a op) := by
  cases op with
  | tick now =>
    obtain rfl : now.day=day := within
    rw [Scheduler.handle,Scheduler.tick,handleLog,rollDay_same hd]
    exact h.fire _ a
  | runQuick durations now =>
    obtain rfl : now.day=day := within
    rw [Scheduler.handle,Scheduler.runQuick,handleLog,rollDay_same hd]
    have cancelled : (s.cancel a).1.Rooted past := by
      rw [Scheduler.cancel]
      split_ifs
      · exact fun _ k => by cases k
      · exact h
    have asked : Rooted {(s.cancel a).1 with
        quick:=some durations
        agenda:=(s.cancel a).1.agenda.add now.minute (.expand .quick 0)} past := cancelled
    exact asked.fire _ _
  | stop =>
    refine ⟨trivial,?_⟩
    rw [Scheduler.handle,Scheduler.stop]
    split_ifs
    · exact fun _ k => by cases k
    · exact h.mono
  | reload | setEnabled | replaceSchedules | setSeasonal | setWeather => exact absurd within id

theorem Rooted.log {past : List Fired} (h : s.Rooted past) {ops : List (α×Operation)} {day : Int}
    (hd : s.day=some day) (within : ∀ step∈ops,step.2.Within day) : Traced past (s.log ops) := by
  induction ops generalizing s past with
  | nil => trivial
  | cons step ops ih =>
    have now := within step List.mem_cons_self
    obtain ⟨traced,rooted⟩ := h.handle step.1 hd now
    exact traced_append.mpr ⟨traced,ih rooted (handle_day_of_within step.1 hd now)
      fun later m => within later (List.mem_cons_of_mem _ m)⟩

/-- Each start time of a new agenda is ahead once. -/
theorem live_reload (few : s.schedules.length≤ maxSchedules) (now : Moment) {p : Nat×Action}
    (m : p∈(s.reload now).agenda.pending) :
    (s.reload now).agenda.live p.2=1 ∧ ∃ i slot,p.2=.expand (.stored i) slot := by
  let starts := if s.enabled then startsAhead s.schedules now else []
  have perm : (s.reload now).agenda.pending.Perm (starts.filter (·.1< minutesPerDay)) := by
    have h := Agenda.pending_addAll_perm {} starts
    rwa [show ({} : Agenda).pending=[] from rfl,List.append_nil] at h
  have distinct : starts.Pairwise fun p q => p.2≠q.2 := by
    change List.Pairwise _ (if _ then _ else _)
    split_ifs
    · exact (pairwise_startsAhead few now).imp Action.Precedes.ne
    · exact List.Pairwise.nil
  constructor
  · rw [Agenda.live_eq_count]
    apply List.count_eq_one_of_mem
    · rw [(perm.map _).nodup_iff]
      exact List.pairwise_map.mpr (distinct.filter _)
    · exact List.mem_map_of_mem m
  · obtain ⟨_,ahead⟩ := mem_reload.mp m
    obtain ⟨_,_,_,_,_,_,_,_,rfl⟩ := mem_startsAhead.mp ahead
    exact ⟨_,_,rfl⟩

/-- Whatever a scheduler was told before, an agenda that is laid out anew and then carried out over
its day, with quick runs and stops between, keeps each of its start times once: it is still ahead, or
it was expanded while no schedule was active, or it came at the last minute while a schedule was
active that something else had started. Nothing but its start times is expanded, quick runs apart. -/
theorem start_times_conserved (schedules : List Schedule) (enabled : Bool) (seasonal : UInt8)
    (earlier : List (α×Operation)) (now : Moment) (ops : List (α×Operation))
    (within : ∀ step∈ops,step.2.Within now.day) :
    let s := ((ofSchedules schedules enabled seasonal).handleAll earlier).reload now
    let t := s.handleAll ops
    let log := s.log ops
    (∀ p∈s.agenda.pending,
      (∃ i slot,p.2=.expand (.stored i) slot) ∧
      t.agenda.live p.2+begun log p.2+lapsed log p.2=1 ∧
      ∀ before f after,log=before++f::after → f.Lapses p.2 →
        ∃ owner,f.active=some owner ∧ ∃ g∈before,g.Starts owner ∧ g.action≠p.2) ∧
    ∀ f∈log,∀ i slot,f.Begins (.expand (.stored i) slot) →
      ∃ p∈s.agenda.pending,p.2=.expand (.stored i) slot := by
  intro s t log
  let r := (ofSchedules schedules enabled seasonal).handleAll earlier
  have orderly : Orderly s := Orderly.reload r now
  have few : r.schedules.length≤ maxSchedules := by
    have start : Timely (ofSchedules schedules enabled seasonal) :=
      ⟨List.length_take_le ..,fun _ m => by cases m⟩
    exact (Timely.kept.handleAll start (orderly_ofSchedules schedules enabled seasonal) earlier).few
  have kept (i slot : UInt8) : t.agenda.live (.expand (.stored i) slot)+
      begun log (.expand (.stored i) slot)+lapsed log (.expand (.stored i) slot)=
      s.agenda.live (.expand (.stored i) slot) :=
    orderly.handleAll_live rfl within rfl (by simp)
  have traced : Traced [] log := Rooted.log (fun _ k => by cases k) rfl within
  constructor
  · intro p m
    obtain ⟨one,i,slot,hp⟩ := live_reload few now m
    have total := kept i slot
    rw [←hp,one] at total
    refine ⟨⟨i,slot,hp⟩,total,?_⟩
    rintro before f after hl lapses
    rw [hl] at traced
    obtain ⟨owner,active⟩ := Option.ne_none_iff_exists'.mp lapses.2.1
    obtain ⟨g,hg,starts⟩ := (traced_append.mp traced).2.1 owner active
    rw [List.nil_append] at hg
    refine ⟨owner,active,g,hg,starts,fun same => ?_⟩
    obtain ⟨_,_,idle⟩ := starts
    have hf : 0<lapsed log p.2 := List.countP_pos_iff.mpr ⟨f,by simp [hl],by simpa using lapses⟩
    have hb : 0<begun log p.2 :=
      List.countP_pos_iff.mpr ⟨g,by simp [hl,hg],by simpa using ⟨same,idle⟩⟩
    omega
  · intro f m i slot begins
    have hb : 0<begun log (.expand (.stored i) slot) :=
      List.countP_pos_iff.mpr ⟨f,m,by simpa using begins⟩
    have total := kept i slot
    have hl : 0<s.agenda.live (.expand (.stored i) slot) := by omega
    obtain ⟨p,hp,he⟩ := List.countP_pos_iff.mp hl
    exact ⟨p,hp,by simpa using he⟩

/-- A start time that waits for another schedule, through a stop and a quick run. -/
theorem start_times_conserved_busyMorning :
    let lawn : Schedule :=
      {name:="lawn",recurrence:=.weekdays 127,startTimes:=[600,1430],durations:=[20]}
    let beds : Schedule :=
      {name:="beds",recurrence:=.weekdays 127,startTimes:=[605],durations:=[0,10]}
    let idle : IdleActuator := {maxRun:=99}
    let ops := [(idle,Operation.tick {day:=19877,minute:=600}),
      (idle,.tick {day:=19877,minute:=605}),
      (idle,.stop),
      (idle,.runQuick [5] {day:=19877,minute:=610})]
    let s := ((ofSchedules [lawn,beds] true 100).handleAll (α:=IdleActuator) []).reload
      {day:=19877,minute:=590}
    let t := s.handleAll ops
    (∀ step∈ops,step.2.Within 19877) ∧
    s.agenda.pending=
      [(600,.expand (.stored 0) 0),(605,.expand (.stored 1) 0),(1430,.expand (.stored 0) 1)] ∧
    (∀ p∈s.agenda.pending,
      t.agenda.live p.2+begun (s.log ops) p.2+lapsed (s.log ops) p.2=1) ∧
    begun (s.log ops) (.expand (.stored 1) 0)=1 := by
  intro lawn beds idle ops s t
  have within : ∀ step∈ops,step.2.Within 19877 := by decide
  have conserved := start_times_conserved [lawn,beds] true 100 [] {day:=19877,minute:=590} ops within
  exact ⟨within,by decide,fun p m => (conserved.1 p m).2.1,by decide⟩

/-- A start time may wait for its own schedule: what an earlier start time began outlasts the day, and
no other schedule is active when the later one is given up. -/
theorem start_time_lapses_under_its_own_schedule :
    let lawn : Schedule :=
      {name:="lawn",recurrence:=.weekdays 127,startTimes:=[1430,1435],durations:=[20]}
    let idle : IdleActuator := {maxRun:=99}
    let ops := [(idle,Operation.tick {day:=19877,minute:=1430}),
      (idle,.tick {day:=19877,minute:=1435}),
      (idle,.tick {day:=19877,minute:=1439})]
    let s := (ofSchedules [lawn] true 100).reload {day:=19877,minute:=1425}
    let x : Action := .expand (.stored 0) 1
    (1435,x)∈s.agenda.pending ∧ (∀ step∈ops,step.2.Within 19877) ∧
    ¬((s.handleAll ops).agenda.live x=1 ∨ begun (s.log ops) x=1 ∨
      ∃ f∈s.log ops,f.Lapses x ∧ f.active≠some (.stored 0)) := by
  decide

end Scheduler

end Watering
