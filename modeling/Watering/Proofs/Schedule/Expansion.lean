import Watering.Proofs.Schedule.Agenda
import Watering.Schedule.Scheduler

namespace Watering

/-- Each run starts when the one before it ends; the first starts at a minute, the last ends at
another. -/
def BackToBack : Nat → List (Nat×UInt8×UInt8) → Nat → Prop
  | minute,[],stop => stop=minute
  | minute,(start,_,length)::runs,stop =>
    start=minute ∧ minute< minutesPerDay ∧ 0<length ∧ BackToBack (minute+length.toNat) runs stop

namespace BackToBack

variable {minute stop : Nat} {runs : List (Nat×UInt8×UInt8)}

theorem le (h : BackToBack minute runs stop) : minute≤ stop := by
  induction runs generalizing minute with
  | nil => exact Nat.le_of_eq h.symm
  | cons run runs ih =>
    obtain ⟨start,zone,length⟩ := run
    have hrest := ih h.2.2.2
    omega

theorem bounds (h : BackToBack minute runs stop) {run : Nat×UInt8×UInt8} (hr : run∈runs) :
    minute≤ run.1 ∧ run.1<stop ∧ run.1< minutesPerDay := by
  induction runs generalizing minute with
  | nil => cases hr
  | cons first runs ih =>
    obtain ⟨start,zone,length⟩ := first
    obtain ⟨rfl,hday,hlength,hrest⟩ := h
    have hpos : 0<length.toNat := UInt8.lt_iff_toNat_lt.mp hlength
    obtain rfl | hm := List.mem_cons.mp hr
    · have hle := hrest.le
      exact ⟨Nat.le_refl _,by omega,hday⟩
    · obtain ⟨h1,h2⟩ := ih hrest hm
      exact ⟨by omega,h2⟩

theorem lt_stop (h : BackToBack minute runs stop) (hne : runs≠[]) : minute<stop := by
  obtain ⟨run,hr⟩ := List.exists_mem_of_ne_nil _ hne
  obtain ⟨h1,h2,_⟩ := h.bounds hr
  omega

/-- All runs but the first start later. -/
theorem due_le_one (h : BackToBack minute runs stop) :
    (runs.filter (·.1≤ minute)).length≤1 := by
  cases runs with
  | nil => exact Nat.zero_le _
  | cons run runs =>
    obtain ⟨start,zone,length⟩ := run
    obtain ⟨rfl,_,hlength,hrest⟩ := h
    have hpos : 0<length.toNat := UInt8.lt_iff_toNat_lt.mp hlength
    have later : runs.filter (·.1≤ start)=[] := by
      rw [List.filter_eq_nil_iff]
      intro run hr
      have hb := hrest.bounds hr
      simp only [decide_eq_true_eq]
      omega
    rw [List.filter_cons_of_pos (by simp),later]
    exact Nat.le_refl _

end BackToBack

namespace Scheduler

variable {s : Scheduler} {minute : Nat}

theorem layOut_backToBack (lengthOf : UInt8 → UInt8) (zone minute : Nat) (ds : List UInt8) :
    BackToBack minute (layOut lengthOf zone minute ds).1 (layOut lengthOf zone minute ds).2 := by
  induction ds generalizing zone minute with
  | nil => rfl
  | cons d ds ih =>
    rw [layOut]
    split_ifs with hday hzero
    · rfl
    · exact ih _ _
    · have hpos : 0<lengthOf d := by
        rw [UInt8.lt_iff_toNat_lt]
        have hne : (lengthOf d).toNat≠0 := fun k => hzero (UInt8.toNat_inj.mp k)
        exact Nat.pos_of_ne_zero hne
      exact ⟨rfl,by omega,hpos,ih _ _⟩

/-- The actions of a schedule that begins. -/
def course (schedule : ScheduleRef) (seasonal weather : UInt8) (runs : List (Nat×UInt8×UInt8))
    (stop : Nat) : List (Nat×Action) :=
  runs.map (fun (start,zone,minutes) =>
    (start,.turnOn ⟨zone,minutes,some schedule.id,seasonal,weather⟩))++[(stop,.turnOffAll schedule)]

theorem mem_course {schedule : ScheduleRef} {seasonal weather : UInt8}
    {runs : List (Nat×UInt8×UInt8)} {stop : Nat} {p : Nat×Action} :
    p∈course schedule seasonal weather runs stop ↔
      (∃ run∈runs,p=(run.1,.turnOn ⟨run.2.1,run.2.2,some schedule.id,seasonal,weather⟩)) ∨
      p=(stop,.turnOffAll schedule) := by
  simp [course,eq_comm]

/-- A course ends in one stop and has no other. -/
theorem countP_isStop_course (schedule : ScheduleRef) (seasonal weather : UInt8)
    (runs : List (Nat×UInt8×UInt8)) (stop : Nat) :
    (course schedule seasonal weather runs stop).countP (·.2.isStop)=1 := by
  rw [course,List.countP_append,List.countP_map]
  have none_of_runs : runs.countP ((fun p : Nat×Action => p.2.isStop)∘fun (start,zone,minutes) =>
      (start,.turnOn ⟨zone,minutes,some schedule.id,seasonal,weather⟩))=0 := by
    rw [List.countP_eq_zero]
    intro run _ k
    cases k
  rw [none_of_runs]
  rfl

theorem addAll_course (a : Agenda) (schedule : ScheduleRef) (seasonal weather : UInt8)
    (runs : List (Nat×UInt8×UInt8)) (stop : Nat) :
    a.addAll (course schedule seasonal weather runs stop)=
      (runs.foldl (fun a (start,zone,minutes) =>
        a.add start (.turnOn ⟨zone,minutes,some schedule.id,seasonal,weather⟩)) a).add stop
          (.turnOffAll schedule) := by
  rw [Agenda.addAll,course,List.foldl_append,List.foldl_map]
  rfl

/-- A schedule that expands to nothing leaves things as they are, but for a quick run that is used
up; otherwise its runs and its stop are added, and it becomes active. -/
inductive Expanded (schedule : ScheduleRef) (minute : Nat) (s : Scheduler) : Scheduler → Prop where
  | nothing (quick : Option (List UInt8)) : Expanded schedule minute s {s with quick}
  | begun (quick : Option (List UInt8)) (seasonal weather : UInt8)
      {runs : List (Nat×UInt8×UInt8)} {stop : Nat} (some_run : runs≠[])
      (chain : BackToBack minute runs stop) : Expanded schedule minute s
        {s with
          quick
          agenda:=s.agenda.addAll (course schedule seasonal weather runs stop)
          active:=some schedule}

theorem expanded_begin (s : Scheduler) (quick : Option (List UInt8)) (schedule : ScheduleRef)
    (minute : Nat) (cap : UInt8) (durations : List UInt8) (seasonal weather : UInt8) :
    Expanded schedule minute s
      (begin {s with quick} schedule minute cap durations seasonal weather) := by
  have hb := layOut_backToBack (fun d => min (adjust d seasonal weather) cap) 0 minute durations
  rw [begin]
  split
  · exact .nothing quick
  · rename_i runs stop hne hl
    rw [hl] at hb
    have h : Expanded schedule minute s _ := .begun quick seasonal weather hne hb
    rwa [addAll_course] at h

theorem expanded_expand (s : Scheduler) (schedule : ScheduleRef) (minute : Nat) (cap : UInt8) :
    Expanded schedule minute s (s.expand schedule minute cap) := by
  have same : Expanded schedule minute s s := .nothing s.quick
  cases schedule with
  | stored i =>
    rw [expand]
    split
    · split_ifs
      · exact same
      · exact expanded_begin s s.quick ..
      · exact expanded_begin s s.quick ..
    · exact same
  | quick =>
    rw [expand]
    split
    · exact expanded_begin s none ..
    · exact same

variable {α : Type} [Actuator α]

/-- A start time that comes while a schedule is active is put off by a minute. -/
theorem perform_deferred {schedule : ScheduleRef} {slot : UInt8} (h : s.active≠none) (a : α) :
    perform s a minute (.expand schedule slot)=
      ({s with agenda:=s.agenda.add (minute+1) (.expand schedule slot)},a) := by
  obtain ⟨owner,ho⟩ := Option.ne_none_iff_exists'.mp h
  rw [perform,ho]

theorem agenda_perform_turnOffAll (s : Scheduler) (a : α) (owner : ScheduleRef) :
    (perform s a minute (.turnOffAll owner)).1.agenda=s.agenda := by
  rw [perform]
  split_ifs <;> rfl

theorem perform_begun {schedule : ScheduleRef} {slot : UInt8} (h : s.active=none) (a : α) :
    perform s a minute (.expand schedule slot)=
      (s.expand schedule minute (Actuator.maxRun a),a) := by
  rw [perform,h]

end Scheduler

end Watering
