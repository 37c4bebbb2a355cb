import Watering.Proofs.Schedule.Dose
import Watering.Proofs.Schedule.Still

namespace Watering.Scheduler

variable {α : Type} [Actuator α] {s : Scheduler} {minute : Nat} {x : Action} {agenda : Agenda}

/-- The start times on the agenda are of schedules that are stored and enabled, or of a quick run. -/
structure Listed (s : Scheduler) : Prop where
  few : s.schedules.length≤ maxSchedules
  named : ∀ p∈s.agenda.pending,∀ i slot,p.2=.expand (.stored i) slot →
    ∃ x,s.schedules[i.toNat]?=some x ∧ x.enabled=true

namespace Listed

variable {t : Scheduler}

theorem drop (h : s.Listed) (hs : t.schedules=s.schedules)
    (hp : ∀ p∈t.agenda.pending,p.2.isExpand=true → ∃ q∈s.agenda.pending,q.2=p.2) : t.Listed where
  few := hs ▸ h.few
  named p m i slot hx := by
    obtain ⟨q,hq,same⟩ := hp p m (by rw [hx]; rfl)
    rw [hs]
    exact h.named q hq i slot (same.trans hx)

theorem perform (h : s.Listed) (o : Orderly s) (ht : s.agenda.takeDue? minute=some (x,agenda))
    (a : α) : (Scheduler.perform {s with agenda} a minute x).1.Listed := by
  have schedules : (Scheduler.perform {s with agenda} a minute x).1.schedules=s.schedules :=
    congrArg (·.2.1) (perform_timetable {s with agenda} a x)
  obtain ⟨u,_,hp⟩ := o.ordered.takeDue? ht
  have first : (u,x)∈s.agenda.pending := by
    rw [hp]
    exact List.mem_cons_self
  have old {p : Nat×Action} (m : p∈agenda.pending) : ∃ q∈s.agenda.pending,q.2=p.2 :=
    ⟨p,(o.ordered.sublist_takeDue? ht).subset m,rfl⟩
  refine h.drop schedules fun p m hx => ?_
  cases x with
  | turnOn run => exact old m
  | turnOffAll owner =>
    rw [agenda_perform_turnOffAll] at m
    exact old m
  | expand schedule slot =>
    by_cases idle : Scheduler.active {s with agenda}=none
    · rw [perform_begun idle] at m
      have expanded := expanded_expand {s with agenda} schedule minute (Actuator.maxRun a)
      generalize Scheduler.expand {s with agenda} schedule minute (Actuator.maxRun a)=t at m expanded
      cases expanded with
      | nothing => exact old m
      | begun =>
        obtain ⟨m,_⟩ | m := Agenda.mem_addAll.mp m
        · obtain ⟨run,_,rfl⟩ | rfl := mem_course.mp m
          · cases hx
          · cases hx
        · exact old m
    · rw [perform_deferred idle] at m
      obtain ⟨rfl,_⟩ | m := Agenda.mem_add.mp m
      · exact ⟨_,first,rfl⟩
      · exact old m

theorem reload (few : s.schedules.length≤ maxSchedules) (now : Moment) : (s.reload now).Listed := by
  refine ⟨few,fun p m i slot hx => ?_⟩
  obtain ⟨_,ahead⟩ := mem_reload.mp m
  obtain ⟨k,y,_,start,hy,hday,_,_,rfl⟩ := mem_startsAhead.mp ahead
  obtain ⟨hk,_⟩ := List.getElem?_eq_some_iff.mp hy
  cases hx
  have index : (UInt8.ofNat k).toNat=k := by
    rw [UInt8.toNat_ofNat']
    simp only [maxSchedules] at few
    omega
  have enabled : y.enabled=true := by
    rw [Schedule.runsOn,Bool.and_eq_true,Bool.and_eq_true] at hday
    exact hday.1.1
  exact ⟨y,index.symm ▸ hy,enabled⟩

theorem kept : Kept α Listed where
  perform := perform
  dropRuns h := h.drop rfl fun p m _ => by
    change p∈(Agenda.retireWhere _ _).pending at m
    rw [Agenda.pending_retireWhere] at m
    exact ⟨p,(List.mem_filter.mp m).1,rfl⟩
  compact h := h.drop rfl fun p m _ => ⟨p,by rwa [Agenda.pending_compact] at m,rfl⟩
  askQuick h _ _ := by
    refine ⟨h.few,fun p m i slot hx => ?_⟩
    obtain ⟨rfl,_⟩ | m := Agenda.mem_add.mp m
    · cases hx
    · exact h.named p m i slot hx
  reload h now := reload h.few now
  setEnabled {s} h enabled now := reload (s:={s with enabled}) h.few now
  replaceSchedules {s} _ schedules now :=
    reload (s:={s with schedules:=schedules.take maxSchedules}) (List.length_take_le ..) now
  setSeasonal h _ := ⟨h.few,h.named⟩
  setWeather h _ := ⟨h.few,h.named⟩

end Listed

/-- Of the actions of a kind that nothing else on the agenda is of, it has those of the schedule's
timeline. -/
theorem Begun.filter_pending_of {t : Scheduler} {schedule : ScheduleRef} {cap : UInt8}
    {events : List (Nat×Action)} {q : Nat×Action → Bool} (b : Begun s t schedule minute cap events)
    (o : Orderly t) (others : ∀ p∈s.agenda.pending,q p=false) :
    t.agenda.pending.filter q=
      ((timeline schedule (s.dose schedule).seasonal (s.dose schedule).weather minute
        ((s.dose schedule).shares cap)).filter (·.1< minutesPerDay)).filter q := by
  rw [←b.today]
  have perm := (s.agenda.pending_addAll_perm events).filter q
  have none : s.agenda.pending.filter q=[] :=
    List.filter_eq_nil_iff.mpr fun p m => by simp [others p m]
  rw [List.filter_append,none,List.append_nil,←b.agenda] at perm
  have apart : ((events.filter (·.1< minutesPerDay)).filter q).Pairwise fun p q => p.1<q.1 :=
    List.Pairwise.sublist (List.filter_sublist.trans List.filter_sublist) b.apart
  have ordered : (t.agenda.pending.filter q).Pairwise fun p q => p.1≤q.1 :=
    List.Pairwise.sublist List.filter_sublist o.ordered
  -- No two events share a minute, so that their order is that of their minutes.
  have distinct : (t.agenda.pending.filter q).Pairwise fun p q => p.1≠q.1 :=
    (perm.pairwise_iff fun h k => h k.symm).mpr (apart.imp Nat.ne_of_lt)
  refine List.Perm.eq_of_pairwise
    (fun p q _ _ h k => absurd h (Nat.lt_asymm k)) ?_ apart perm
  exact ordered.imp₂ (fun _ _ le ne => Nat.lt_of_le_of_ne le ne) distinct

/-- Up to a horizon that all else is beyond, the agenda is the schedule's timeline. -/
theorem Begun.filter_pending {t : Scheduler} {schedule : ScheduleRef} {cap : UInt8}
    {events : List (Nat×Action)} {horizon : Nat} (b : Begun s t schedule minute cap events)
    (o : Orderly t) (hh : horizon≤ minutesPerDay) (others : ∀ p∈s.agenda.pending,horizon≤p.1) :
    t.agenda.pending.filter (·.1<horizon)=
      (timeline schedule (s.dose schedule).seasonal (s.dose schedule).weather minute
        ((s.dose schedule).shares cap)).filter (·.1<horizon) := by
  rw [b.filter_pending_of o fun p m => by simpa using others p m]
  exact filter_today (fun p lt => Nat.lt_of_lt_of_le (of_decide_eq_true lt) hh) _

/-- A start time that is due alone leaves none that is. -/
theorem plain_of_start (idle : s.active=none) (hday : minute< minutesPerDay)
    (later : ∀ p∈s.agenda.pending,minute<p.1) (schedule : ScheduleRef) (slot : UInt8) (a : α) :
    let t := (Scheduler.perform s a minute (.expand schedule slot)).1
    ∀ p∈t.agenda.pending,minute≤p.1 ∧ (p.2.isExpand=true → p∈s.agenda.pending) := by
  intro t p m
  obtain ⟨_,ht⟩ | ⟨_,events,b⟩ := perform_start idle hday schedule slot a
  · rw [show t=_ from ht,agenda_spend] at m
    exact ⟨Nat.le_of_lt (later p m),fun _ => m⟩
  · rw [b.agenda] at m
    obtain ⟨m,_⟩ | m := Agenda.mem_addAll.mp m
    · obtain ⟨le,plain⟩ := b.ahead p m
      refine ⟨le,fun start => ?_⟩
      rw [plain] at start
      cases start
    · exact ⟨Nat.le_of_lt (later p m),fun _ => m⟩

/-- A tick that finds a start time goes on from where the start time leads. -/
theorem Orderly.tick_start (o : Orderly s) {now : Moment} (today : s.day=some now.day)
    {schedule : ScheduleRef} {slot : UInt8} (idle : s.active=none)
    (ht : s.agenda.takeDue? now.minute=some (.expand schedule slot,agenda))
    (later : ∀ p∈agenda.pending,now.minute<p.1) (a : α) :
    s.tick now a=
      (Scheduler.perform {s with agenda} a now.minute (.expand schedule slot)).1.tick now a := by
  let t := (Scheduler.perform {s with agenda} a now.minute (.expand schedule slot)).1
  have started : Scheduler.perform {s with agenda} a now.minute (.expand schedule slot)=(t,a) := by
    refine Prod.ext rfl ?_
    rw [perform_begun (s:={s with agenda}) idle]
  have kept : t.timetable=s.timetable := perform_timetable ..
  have today' : t.day=some now.day := (congrArg (·.2.2) kept).trans today
  have alone : s.agenda.dueCount now.minute=1 := by
    have none_due := congrArg List.length (Agenda.due_eq_nil later)
    rw [o.ordered.dueCount_takeDue? ht]
    exact congrArg (·+1) none_due
  have still : t.Still now.minute := by
    refine .inr fun p m => ?_
    obtain ⟨m,le⟩ := List.mem_filter.mp m
    have plain := (plain_of_start (s:={s with agenda}) idle now.minute_lt later schedule slot a p m).2
    cases start : p.2.isExpand with
    | false => rfl
    | true => exact absurd (of_decide_eq_true le) (Nat.not_le.mpr (later p (plain start)))
  have count : t.agenda.dueCount now.minute≤1 := by
    obtain fewer | ⟨_,fewer⟩ := o.perform_due ht a
    · exact Nat.le_of_succ_le (alone ▸ fewer)
    · exact alone ▸ fewer
  have ot : Orderly t := o.perform ht a
  have fired : Scheduler.fire now.minute (2*s.agenda.dueCount now.minute) s a=
      Scheduler.fire now.minute (2*t.agenda.dueCount now.minute) t a := by
    rw [alone,Scheduler.fire,ht]
    dsimp only
    rw [started,Nat.two_mul,still.fire_add ot (Nat.le_refl _),
      ←still.fire_add ot (Nat.le_refl _) (1-t.agenda.dueCount now.minute),
      Nat.add_sub_cancel' count]
  rw [Scheduler.tick,Scheduler.tick,rollDay_same today,rollDay_same today']
  dsimp only
  rw [Scheduler.fireDue,Scheduler.fireDue,fired]

/-- So do the calls of this tick and of those that follow. -/
theorem Orderly.callsAt_start (o : Orderly s) {now : Moment} (today : s.day=some now.day)
    {schedule : ScheduleRef} {slot : UInt8} (idle : s.active=none)
    (ht : s.agenda.takeDue? now.minute=some (.expand schedule slot,agenda))
    (later : ∀ p∈agenda.pending,now.minute<p.1) (a : α) (ticks : List (α×Moment)) :
    s.callsAt ((a,now)::ticks)=
      (Scheduler.perform {s with agenda} a now.minute (.expand schedule slot)).1.callsAt
        ((a,now)::ticks) := by
  have state := o.tick_start today idle ht later a
  have record := o.tick_start today idle ht later (⟨a,[]⟩ : Recorded α)
  have calls : s.calls [(a,.tick now)]=
      (Scheduler.perform {s with agenda} a now.minute (.expand schedule slot)).1.calls
        [(a,.tick now)] := by
    have same := congrArg (fun r : Scheduler×Recorded α => r.2.callsRev.reverse) record
    rw [perform_begun (s:={s with agenda}) idle] at same ⊢
    exact same
  rw [callsAt,callsAt,calls,state]

theorem le_of_mem_timeline {schedule : ScheduleRef} {seasonal weather : UInt8} {shares : List Nat}
    {p : Nat×Action} (h : p∈timeline schedule seasonal weather minute shares) : minute≤p.1 := by
  obtain ⟨run,hr,rfl⟩ | rfl := mem_course.mp h
  · exact le_of_mem_runsFrom hr
  · exact Nat.le_add_right ..

omit [Actuator α] in
/-- Ticks of consecutive minutes all lie within the day. -/
theorem add_length_le_minutesPerDay {ticks : List (α×Moment)} (some_tick : ticks≠[])
    (minutes : ticks.map (·.2.minute)=List.range' minute ticks.length) :
    minute+ticks.length≤ minutesPerDay := by
  have pos : 0<ticks.length := List.length_pos_iff.mpr some_tick
  have last : minute+(ticks.length-1)∈List.range' minute ticks.length := by
    rw [List.mem_range'_1]
    omega
  rw [←minutes] at last
  obtain ⟨tick,_,hm⟩ := List.mem_map.mp last
  have lt := tick.2.minute_lt
  rw [hm] at lt
  omega

/-- What is on the agenda up to a horizon that all else is beyond, once a start time came. -/
theorem Orderly.pending_start (o : Orderly s) {schedule : ScheduleRef} {slot : UInt8}
    (idle : s.active=none) (ht : s.agenda.takeDue? minute=some (.expand schedule slot,agenda))
    (a : α) {horizon : Nat} (hday : minute< minutesPerDay) (hh : horizon≤ minutesPerDay)
    (others : ∀ p∈agenda.pending,horizon≤p.1) :
    let d := s.dose schedule
    let shares := d.shares (Actuator.maxRun a)
    (Scheduler.perform {s with agenda} a minute (.expand schedule slot)).1.agenda.pending.filter
      (·.1<horizon)=if ∀ m∈shares,m=0 then [] else
        (timeline schedule d.seasonal d.weather minute shares).filter (·.1<horizon) := by
  intro d shares
  obtain ⟨none,spent⟩ | ⟨some_run,events,b⟩ := perform_start (s:={s with agenda}) idle hday
    schedule slot a
  · have clear : agenda.pending.filter (·.1<horizon)=[] :=
      List.filter_eq_nil_iff.mpr fun p m => by simpa using others p m
    rw [spent,agenda_spend,clear]
    exact (if_pos none).symm
  · rw [b.filter_pending (o.perform ht a) hh others]
    exact (if_neg some_run).symm

/-- The calls from a tick on that finds a start time, up to a horizon that all else is beyond, are
what is pending until then. -/
theorem Orderly.callsAt_pending (o : Orderly s) {now : Moment} {schedule : ScheduleRef}
    {slot : UInt8} (idle : s.active=none)
    (ht : s.agenda.takeDue? now.minute=some (.expand schedule slot,agenda))
    (today : s.day=some now.day) {a : α} {ticks : List (α×Moment)}
    (same : ∀ tick∈(a,now)::ticks,tick.2.day=now.day)
    (minutes : ((a,now)::ticks).map (·.2.minute)=
      List.range' now.minute ((a,now)::ticks).length)
    (others : ∀ p∈agenda.pending,now.minute+((a,now)::ticks).length≤p.1) :
    s.callsAt ((a,now)::ticks)=
      callsOf ((Scheduler.perform {s with agenda} a now.minute
        (.expand schedule slot)).1.agenda.pending.filter
          (·.1<now.minute+((a,now)::ticks).length)) := by
  have later : ∀ p∈agenda.pending,now.minute<p.1 := by
    intro p m
    have le := others p m
    rw [List.length_cons] at le
    omega
  have kept : (Scheduler.perform {s with agenda} a now.minute
      (.expand schedule slot)).1.timetable=s.timetable := perform_timetable ..
  have new := plain_of_start (s:={s with agenda}) idle now.minute_lt later schedule slot a
  rw [o.callsAt_start today idle ht later]
  refine (o.perform ht a).callsAt_eq ((congrArg (·.2.2) kept).trans today) same minutes
    (fun p m => (new p m).1) fun p m lt => ?_
  cases start : p.2.isExpand with
  | false => rfl
  | true => exact absurd lt (Nat.not_lt.mpr (others p ((new p m).2 start)))

/-- Up to a horizon that all else is beyond, the calls are those of the schedule. -/
theorem Orderly.callsAt_timeline (o : Orderly s) {schedule : ScheduleRef} {slot : UInt8}
    (idle : s.active=none) (ht : s.agenda.takeDue? minute=some (.expand schedule slot,agenda))
    {day : Int} (today : s.day=some day) {ticks : List (α×Moment)}
    (same : ∀ tick∈ticks,tick.2.day=day)
    (minutes : ticks.map (·.2.minute)=List.range' minute ticks.length) {cap : UInt8}
    (cap_eq : ∀ tick∈ticks.head?,Actuator.maxRun tick.1=cap)
    (others : ∀ p∈agenda.pending,minute+ticks.length≤p.1) :
    let d := s.dose schedule
    s.callsAt ticks=if ∀ m∈d.shares cap,m=0 then [] else
      callsOf ((timeline schedule d.seasonal d.weather minute (d.shares cap)).filter
        (·.1< minute+ticks.length)) := by
  cases ticks with
  | nil =>
    have none : (timeline schedule (s.dose schedule).seasonal (s.dose schedule).weather minute
        ((s.dose schedule).shares cap)).filter (·.1< minute+0)=[] := by
      rw [List.filter_eq_nil_iff]
      intro p m
      simpa using le_of_mem_timeline m
    dsimp only
    rw [List.length_nil,none]
    exact (ite_self []).symm
  | cons tick ticks =>
    obtain ⟨a,now⟩ := tick
    obtain ⟨rfl,_⟩ : now.minute= minute ∧ _ := by
      rw [List.map_cons,List.length_cons,List.range'_succ] at minutes
      exact List.cons.inj minutes
    obtain rfl : now.day=day := same _ List.mem_cons_self
    obtain rfl : Actuator.maxRun a=cap := cap_eq _ rfl
    have within := add_length_le_minutesPerDay (List.cons_ne_nil _ _) minutes
    dsimp only
    rw [o.callsAt_pending idle ht today same minutes others,
      o.pending_start idle ht a now.minute_lt within others]
    split_ifs <;> rfl

/-- Whatever a scheduler is told: a start time that comes at a minute while no schedule is active adds
the runs of its schedule, each zone with minutes when all before it are done, and one stop when all
are, as far as the day has room; a schedule without minutes adds nothing. Ticked every minute from
then on, the scheduler calls its actuator at just these minutes, as long as nothing else is due. -/
theorem expansion_timeline (schedules : List Schedule) (enabled : Bool) (seasonal : UInt8)
    (ops : List (α×Operation)) :
    let s := (ofSchedules schedules enabled seasonal).handleAll ops
    ∀ {t : Nat} {schedule : ScheduleRef} {slot : UInt8} {rest : Agenda},
    s.active=none → t<1440 → s.agenda.takeDue? t=some (.expand schedule slot,rest) →
    let d := s.dose schedule
    d.durations.length≤256 →
    (∀ i,schedule=.stored i → ∃ x,s.schedules[i.toNat]?=some x ∧ x.enabled=true) ∧
    ∀ cap : UInt8,
      let shares := d.shares cap
      let events := timeline schedule d.seasonal d.weather t shares
      (∀ (k m : Nat),shares[k]?=some m → (UInt8.ofNat k).toNat=k ∧ (UInt8.ofNat m).toNat=m) ∧
      (∀ a : α,Actuator.maxRun a=cap →
        let u := (perform {s with agenda:=rest} a t (.expand schedule slot)).1
        ((∀ m∈shares,m=0) → u.active=none ∧ u.agenda.pending=rest.pending) ∧
        ((∃ m∈shares,m≠0) → u.active=some schedule ∧
          u.agenda.pending.Perm (events.filter (·.1<1440)++rest.pending))) ∧
      ∀ (day : Int) (ticks : List (α×Moment)),s.day=some day → (∀ tick∈ticks,tick.2.day=day) →
        ticks.map (·.2.minute)=List.range' t ticks.length →
        (∀ tick∈ticks.head?,Actuator.maxRun tick.1=cap) →
        (∀ p∈rest.pending,t+ticks.length≤p.1) →
        s.callsAt ticks=
          if ∀ m∈shares,m=0 then [] else callsOf (events.filter (·.1<t+ticks.length)) := by
  intro s t schedule slot rest idle hday ht d short
  have initial := orderly_ofSchedules schedules enabled seasonal
  have o : Orderly s := initial.handleAll ops
  have listed : s.Listed := by
    refine Listed.kept.handleAll ⟨List.length_take_le ..,fun p m => ?_⟩ initial ops
    cases m
  obtain ⟨v,hv,first⟩ := o.ordered.mem_takeDue? ht
  refine ⟨fun i hi => listed.named _ first i slot (by rw [hi]),fun cap => ?_⟩
  intro shares events
  refine ⟨fun k m hm => ?_,fun a ha => ?_,?_⟩
  · rw [show shares=d.durations.map _ from rfl,List.getElem?_map] at hm
    obtain ⟨x,hx,rfl⟩ := Option.map_eq_some_iff.mp hm
    obtain ⟨hk,_⟩ := List.getElem?_eq_some_iff.mp hx
    rw [UInt8.toNat_ofNat',UInt8.toNat_ofNat',share]
    omega
  · obtain rfl := ha
    obtain ⟨none,hu⟩ | ⟨some_run,added,b⟩ := perform_start (s:={s with agenda:=rest}) idle hday
      schedule slot a
    · refine ⟨fun _ => ?_,fun some_run => ?_⟩
      · rw [hu]
        cases schedule with
        | stored | quick => exact ⟨idle,rfl⟩
      · obtain ⟨m,hm,pos⟩ := some_run
        exact absurd (none m hm) pos
    · refine ⟨fun k => absurd k some_run,fun _ => ⟨b.active,?_⟩⟩
      have perm := Agenda.pending_addAll_perm rest added
      rw [b.today] at perm
      rw [b.agenda]
      exact perm
  · intro day ticks today same minutes cap_eq others
    exact o.callsAt_timeline idle ht today same minutes cap_eq others

/-- Two zones late in the evening, at half of their minutes: the day has no room for the stop. -/
theorem expansion_timeline_late :
    let lawn : Schedule := {
      name:="lawn",recurrence:=.weekdays 127,startTimes:=[1436],durations:=[4,0,3]
      weatherAdjust:=true}
    let idle : IdleActuator := {maxRun:=99}
    let s := (ofSchedules [lawn] true 50).handleAll
      [(idle,.reload {day:=19877,minute:=1400})]
    let ticks : List (IdleActuator×Moment) := [
      (idle,{day:=19877,minute:=1436}),(idle,{day:=19877,minute:=1437}),
      (idle,{day:=19877,minute:=1438}),(idle,{day:=19877,minute:=1439})]
    s.active=none ∧
    s.agenda.takeDue? 1436=
      some (.expand (.stored 0) 0,⟨[(none,.expand (.stored 0) 0)]⟩) ∧
    (s.dose (.stored 0)).durations.length≤256 ∧
    s.callsAt ticks=
      [(1436,.turnOn ⟨0,2,some 1,50,100⟩),(1438,.turnOn ⟨2,2,some 1,50,100⟩)] := by
  intro lawn idle s ticks
  have quiet : s.active=none := by decide
  have due : s.agenda.takeDue? 1436=
      some (.expand (.stored 0) 0,⟨[(none,.expand (.stored 0) 0)]⟩) := by decide
  have short : (s.dose (.stored 0)).durations.length≤256 := by decide
  obtain ⟨_,_,calls⟩ := (expansion_timeline [lawn] true 50
    [(idle,.reload {day:=19877,minute:=1400})] quiet (by decide) due short).2 99
  have told := calls 19877 ticks (by decide) (by decide) (by decide) (by decide) (by decide)
  refine ⟨quiet,due,short,told.trans ?_⟩
  decide

end Watering.Scheduler
