import Mathlib.Algebra.GroupWithZero.Nat
import Watering.Proofs.Schedule.Spacing

namespace Watering

/-- Minutes that a zone is watered for: what it asks for, scaled by two percentages, and not longer
than a single run may take. -/
def share (seasonal weather cap minutes : UInt8) : Nat :=
  min (min 254 ((minutes.toNat*(seasonal.toNat*weather.toNat/100)+50)/100)) cap.toNat

theorem toNat_min_adjust (minutes seasonal weather cap : UInt8) :
    (min (adjust minutes seasonal weather) cap).toNat=share seasonal weather cap minutes := by
  have adjusted : (adjust minutes seasonal weather).toNat=
      min 254 ((minutes.toNat*(seasonal.toNat*weather.toNat/100)+50)/100) := by
    rw [adjust,UInt8.toNat_ofNat',maxAdjusted]
    omega
  rw [share,←adjusted]
  change UInt8.toNat (if _ ≤ _ then _ else _)=_
  split_ifs with h
  · have := UInt8.le_iff_toNat_le.mp h
    omega
  · have := UInt8.le_iff_toNat_le.not.mp h
    omega

/-- Runs back to back: each zone with minutes starts when all zones before it are done. -/
def runsFrom (zone minute : Nat) (shares : List Nat) : List (Nat×UInt8×UInt8) :=
  shares.zipIdx.filterMap fun (m,k) =>
    if 0< m then some (minute+(shares.take k).sum,UInt8.ofNat (zone+k),UInt8.ofNat m) else none

theorem runsFrom_tail (zone minute m : Nat) (shares : List Nat) :
    (shares.zipIdx 1).filterMap (fun (n,k) => if 0<n then
        some (minute+((m::shares).take k).sum,UInt8.ofNat (zone+k),UInt8.ofNat n) else none)=
      runsFrom (zone+1) (minute+m) shares := by
  rw [List.zipIdx_succ,List.filterMap_map,runsFrom]
  refine congrArg₂ _ (funext fun (n,k) => ?_) rfl
  simp only [Function.comp,List.take_succ_cons,List.sum_cons]
  rw [Nat.add_assoc,Nat.add_right_comm zone,Nat.add_assoc]

theorem runsFrom_zero (zone minute : Nat) (shares : List Nat) :
    runsFrom zone minute (0::shares)=runsFrom (zone+1) minute shares := by
  simp only [runsFrom,List.zipIdx_cons,List.filterMap_cons,Nat.lt_irrefl,if_false]
  exact runsFrom_tail zone minute 0 shares

theorem runsFrom_pos (zone minute : Nat) {m : Nat} (shares : List Nat) (hm : 0< m) :
    runsFrom zone minute (m::shares)=
      (minute,UInt8.ofNat zone,UInt8.ofNat m)::runsFrom (zone+1) (minute+m) shares := by
  simp only [runsFrom,List.zipIdx_cons,List.filterMap_cons,hm,if_true]
  exact congrArg ((minute,UInt8.ofNat zone,UInt8.ofNat m)::·) (runsFrom_tail zone minute m shares)

theorem le_of_mem_runsFrom {zone minute : Nat} {shares : List Nat} {run : Nat×UInt8×UInt8}
    (h : run∈runsFrom zone minute shares) : minute≤run.1 := by
  obtain ⟨⟨m,k⟩,_,h⟩ := List.mem_filterMap.mp h
  dsimp only at h
  split_ifs at h
  obtain rfl := Option.some.inj h
  exact Nat.le_add_right ..

theorem runsFrom_eq_nil (zone minute : Nat) {shares : List Nat} (h : ∀ m∈shares,m=0) :
    runsFrom zone minute shares=[] := by
  induction shares generalizing zone with
  | nil => rfl
  | cons m shares ih =>
    rw [List.forall_mem_cons] at h
    rw [h.1,runsFrom_zero,ih (zone+1) h.2]

/-- The first run is that of the first zone with minutes. -/
theorem runsFrom_first (zone minute : Nat) {before : List Nat} {m : Nat} (after : List Nat)
    (none : ∀ n∈before,n=0) (hm : 0< m) : runsFrom zone minute (before++m::after)=
      (minute,UInt8.ofNat (zone+before.length),UInt8.ofNat m)::
        runsFrom (zone+before.length+1) (minute+m) after := by
  induction before generalizing zone with
  | nil => exact runsFrom_pos zone minute after hm
  | cons n before ih =>
    rw [List.forall_mem_cons] at none
    rw [List.cons_append,none.1,runsFrom_zero,ih (zone+1) none.2,List.length_cons,
      Nat.add_right_comm zone 1,Nat.add_assoc zone]

theorem exists_first {shares : List Nat} (h : ¬∀ m∈shares,m=0) :
    ∃ before m after,shares=before++m::after ∧ (∀ n∈before,n=0) ∧ 0< m := by
  induction shares with
  | nil => exact absurd (fun _ m => by cases m) h
  | cons n shares ih =>
    by_cases hn : n=0
    · obtain ⟨before,m,after,rfl,none,pos⟩ := ih fun k => h (List.forall_mem_cons.mpr ⟨hn,k⟩)
      exact ⟨n::before,m,after,rfl,List.forall_mem_cons.mpr ⟨hn,none⟩,pos⟩
    · exact ⟨[],n,shares,rfl,List.forall_mem_nil _,Nat.pos_of_ne_zero hn⟩

namespace Scheduler

/-- What is laid out is cut off at the end of the day. -/
theorem layOut_eq (lengthOf : UInt8 → UInt8) (zone minute : Nat) (ds : List UInt8) :
    let shares := ds.map fun d => (lengthOf d).toNat
    (layOut lengthOf zone minute ds).1=
      (runsFrom zone minute shares).filter (·.1< minutesPerDay) ∧
    min (layOut lengthOf zone minute ds).2 minutesPerDay=
      min (minute+shares.sum) minutesPerDay := by
  induction ds generalizing zone minute with
  | nil => exact ⟨rfl,rfl⟩
  | cons d ds ih =>
    dsimp only at ih ⊢
    rw [layOut,List.map_cons,List.sum_cons]
    split_ifs with past none
    · refine ⟨?_,by omega⟩
      symm
      rw [List.filter_eq_nil_iff]
      intro run m
      have le := le_of_mem_runsFrom m
      simp only [decide_eq_true_eq]
      omega
    · rw [none,UInt8.toNat_zero,runsFrom_zero,Nat.zero_add]
      exact ih _ _
    · have pos : 0<(lengthOf d).toNat :=
        Nat.pos_of_ne_zero fun k => none (UInt8.toNat_inj.mp k)
      obtain ⟨runs,stop⟩ := ih (zone+1) (minute+(lengthOf d).toNat)
      rw [runsFrom_pos zone minute _ pos,List.filter_cons_of_pos (by simpa using past)]
      refine ⟨?_,?_⟩
      · rw [UInt8.ofNat_toNat,←runs]
      · rw [←Nat.add_assoc,←stop]

/-- The minutes that a schedule asks for, zone by zone, and the percentages they are scaled by. -/
structure Dose where
  durations : List UInt8 := []
  seasonal : UInt8 := 100
  weather : UInt8 := 100

def Dose.shares (d : Dose) (cap : UInt8) : List Nat := d.durations.map (share d.seasonal d.weather cap)

/-- A schedule that was removed or disabled asks for nothing. -/
def dose (s : Scheduler) : ScheduleRef → Dose
  | .stored i => match s.schedules[i.toNat]? with
    | some x =>
      if !x.enabled then {}
      else if x.weatherAdjust then ⟨x.durations,s.seasonal,s.weather⟩
      else {durations:=x.durations}
    | none => {}
  | .quick => {durations:=s.quick.getD []}

/-- A quick run is asked for once. -/
def spend (s : Scheduler) : ScheduleRef → Scheduler
  | .stored _ => s
  | .quick => {s with quick:=none}

@[simp] theorem agenda_spend (s : Scheduler) (schedule : ScheduleRef) :
    (s.spend schedule).agenda=s.agenda := by
  cases schedule <;> rfl

@[simp] theorem active_spend (s : Scheduler) (schedule : ScheduleRef) :
    (s.spend schedule).active=s.active := by
  cases schedule <;> rfl

variable {s : Scheduler} {minute : Nat}

theorem expand_eq (s : Scheduler) (schedule : ScheduleRef) (minute : Nat) (cap : UInt8) :
    let d := s.dose schedule
    s.expand schedule minute cap=
      (s.spend schedule).begin schedule minute cap d.durations d.seasonal d.weather := by
  cases schedule with
  | stored i =>
    dsimp only
    rw [expand,dose]
    cases s.schedules[i.toNat]? with
    | none => rfl
    | some x =>
      dsimp only
      split_ifs <;> rfl
  | quick =>
    rw [expand]
    cases hq : s.quick with
    | none =>
      have spent : s.spend .quick=s := by rw [spend,←hq]
      rw [dose,hq,spent]
      rfl
    | some durations =>
      rw [dose,hq]
      rfl

/-- A schedule's runs and its stop if nothing cuts them off. -/
def timeline (schedule : ScheduleRef) (seasonal weather : UInt8) (minute : Nat) (shares : List Nat) :
    List (Nat×Action) :=
  course schedule seasonal weather (runsFrom 0 minute shares) (minute+shares.sum)

theorem filter_course (schedule : ScheduleRef) (seasonal weather : UInt8)
    {runs runs' : List (Nat×UInt8×UInt8)} {stop stop' : Nat}
    (hr : runs=runs'.filter (·.1< minutesPerDay))
    (hs : min stop minutesPerDay=min stop' minutesPerDay) :
    (course schedule seasonal weather runs stop).filter (·.1< minutesPerDay)=
      (course schedule seasonal weather runs' stop').filter (·.1< minutesPerDay) := by
  rw [course,course,List.filter_append,List.filter_append,List.filter_map,List.filter_map,hr]
  refine congrArg₂ _ (congrArg _ ?_) ?_
  · exact List.filter_filter.trans (congrArg (fun p => runs'.filter p)
      (funext fun run => Bool.and_self _))
  · by_cases h : stop< minutesPerDay
    · obtain rfl : stop=stop' := by omega
      rfl
    · rw [List.filter_cons_of_neg (by simpa using h),List.filter_cons_of_neg (by simp; omega)]

theorem filter_today {q : Nat×Action → Bool} (h : ∀ p,q p=true → p.1< minutesPerDay)
    (l : List (Nat×Action)) : (l.filter (·.1< minutesPerDay)).filter q=l.filter q := by
  rw [List.filter_filter]
  refine List.filter_congr fun p _ => ?_
  rw [Bool.and_eq_left_iff_imp]
  exact fun hp => decide_eq_true (h p hp)

/-- Without minutes nothing begins. -/
theorem begin_none {d : Dose} {cap : UInt8} (h : ∀ m∈d.shares cap,m=0) (schedule : ScheduleRef)
    (minute : Nat) : s.begin schedule minute cap d.durations d.seasonal d.weather=s := by
  have lengths : d.durations.map (fun x => (min (adjust x d.seasonal d.weather) cap).toNat)=
      d.shares cap := List.map_congr_left fun x _ => toNat_min_adjust ..
  obtain ⟨runs,_⟩ := layOut_eq (fun x => min (adjust x d.seasonal d.weather) cap) 0 minute d.durations
  rw [lengths,runsFrom_eq_nil 0 minute h,List.filter_nil] at runs
  rw [begin]
  split
  · rfl
  · rename_i some_run hl
    rw [hl] at runs
    exact absurd runs some_run

/-- A zone with minutes starts at once, and the others follow. -/
theorem begin_some {d : Dose} {cap : UInt8} (h : ¬∀ m∈d.shares cap,m=0)
    (hday : minute< minutesPerDay) (schedule : ScheduleRef) : ∃ runs stop,
      let events := course schedule d.seasonal d.weather runs stop
      s.begin schedule minute cap d.durations d.seasonal d.weather=
        {s with agenda:=s.agenda.addAll events,active:=some schedule} ∧
      BackToBack minute runs stop ∧
      events.filter (·.1< minutesPerDay)=(timeline schedule d.seasonal d.weather minute
        (d.shares cap)).filter (·.1< minutesPerDay) := by
  let lengthOf := fun x => min (adjust x d.seasonal d.weather) cap
  have lengths : d.durations.map (fun x => (lengthOf x).toNat)=d.shares cap :=
    List.map_congr_left fun x _ => toNat_min_adjust ..
  obtain ⟨runs,stop⟩ := layOut_eq lengthOf 0 minute d.durations
  have chain := layOut_backToBack lengthOf 0 minute d.durations
  rw [lengths] at runs stop
  refine ⟨_,_,?_,chain,filter_course schedule _ _ runs stop⟩
  rw [begin]
  split
  · rename_i hl
    obtain ⟨before,m,after,hd,none,hm⟩ := exists_first h
    rw [hl,hd,runsFrom_first 0 minute after none hm,
      List.filter_cons_of_pos (by simpa using hday)] at runs
    cases runs
  · rename_i hl
    rw [addAll_course,hl]

variable {α : Type} [Actuator α]

theorem pairwise_course {schedule : ScheduleRef} {seasonal weather : UInt8}
    {runs : List (Nat×UInt8×UInt8)} {stop : Nat} (chain : BackToBack minute runs stop) :
    (course schedule seasonal weather runs stop).Pairwise fun p q => p.1<q.1 := by
  refine List.pairwise_append.mpr ⟨?_,List.pairwise_singleton ..,fun p m q n => ?_⟩
  · exact List.pairwise_map.mpr (chain.pairwise.imp And.left)
  · obtain ⟨run,hr,rfl⟩ := List.mem_map.mp m
    obtain rfl := List.mem_singleton.mp n
    exact (chain.bounds hr).2.1

/-- A schedule has begun with what the day has room for. -/
structure Begun (s t : Scheduler) (schedule : ScheduleRef) (minute : Nat) (cap : UInt8)
    (events : List (Nat×Action)) : Prop where
  active : t.active=some schedule
  agenda : t.agenda=s.agenda.addAll events
  apart : events.Pairwise fun p q => p.1<q.1
  ahead : ∀ p∈events,minute≤p.1 ∧ p.2.isExpand=false
  today : events.filter (·.1< minutesPerDay)=
    (timeline schedule (s.dose schedule).seasonal (s.dose schedule).weather minute
      ((s.dose schedule).shares cap)).filter (·.1< minutesPerDay)

/-- A start time that comes adds nothing if no zone has minutes, else the schedule begins. -/
theorem perform_start (idle : s.active=none) (hday : minute< minutesPerDay) (schedule : ScheduleRef)
    (slot : UInt8) (a : α) :
    let t := (Scheduler.perform s a minute (.expand schedule slot)).1
    let shares := (s.dose schedule).shares (Actuator.maxRun a)
    ((∀ m∈shares,m=0) ∧ t=s.spend schedule) ∨
    (¬∀ m∈shares,m=0) ∧ ∃ events,Begun s t schedule minute (Actuator.maxRun a) events := by
  intro t shares
  have ht : t=(s.spend schedule).begin schedule minute (Actuator.maxRun a) (s.dose schedule).durations
      (s.dose schedule).seasonal (s.dose schedule).weather := by
    rw [←expand_eq]
    exact congrArg Prod.fst (perform_begun idle a)
  by_cases none : ∀ m∈shares,m=0
  · exact .inl ⟨none,ht.trans (begin_none none schedule minute)⟩
  · obtain ⟨runs,stop,hb,chain,today⟩ := begin_some (s:=s.spend schedule) none hday schedule
    rw [hb] at ht
    refine .inr ⟨none,_,by rw [ht],by rw [ht,agenda_spend],pairwise_course chain,fun p m => ?_,today⟩
    obtain ⟨run,hr,rfl⟩ | rfl := mem_course.mp m
    · exact ⟨(chain.bounds hr).1,rfl⟩
    · exact ⟨chain.le,rfl⟩

end Scheduler

end Watering
