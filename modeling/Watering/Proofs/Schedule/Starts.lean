import Watering.Octet
import Watering.Proofs.Schedule.Agenda
import Watering.Schedule.Scheduler

namespace Watering

namespace Action

/-- Start times in the order of their schedules, and those of one schedule in the order of its slots. -/
def Precedes : Action → Action → Prop
  | expand (.stored i) slot,expand (.stored j) slot' => i<j ∨ i=j ∧ slot<slot'
  | _,_ => False

theorem Precedes.ne {x y : Action} (h : x.Precedes y) : x≠y := by
  rintro rfl
  cases x with
  | expand schedule slot =>
    cases schedule with
    | stored i => obtain lt | ⟨_,lt⟩ := h <;> exact UInt8.lt_irrefl _ lt
    | quick => exact h
  | turnOn | turnOffAll => exact h

end Action

namespace Scheduler

variable {schedules : List Schedule} {now : Moment}

theorem mem_startsAhead {p : Nat×Action} : p∈startsAhead schedules now ↔
    ∃ (k : Nat) (x : Schedule) (slot start : Nat),
      schedules[k]?=some x ∧ x.runsOn now.day=true ∧
      (x.startTimes.take maxStartTimes)[slot]?=some start ∧
      (now.minute≤ start ∧ start< minutesPerDay) ∧
      p=(start,.expand (.stored (UInt8.ofNat k)) (UInt8.ofNat slot)) := by
  constructor
  · intro h
    obtain ⟨⟨x,k⟩,hx,h⟩ := List.mem_flatMap.mp h
    dsimp only at h
    split_ifs at h with hday
    · obtain ⟨⟨start,slot⟩,hs,h⟩ := List.mem_filterMap.mp h
      dsimp only at h
      split_ifs at h with ahead
      exact ⟨k,x,slot,start,List.mem_zipIdx_iff_getElem?.mp hx,hday,
        List.mem_zipIdx_iff_getElem?.mp hs,ahead,(Option.some.inj h).symm⟩
    · cases h
  · rintro ⟨k,x,slot,start,hx,hday,hs,ahead,rfl⟩
    apply List.mem_flatMap.mpr
    refine ⟨(x,k),List.mem_zipIdx_iff_getElem?.mpr hx,?_⟩
    dsimp only
    rw [if_pos hday,List.mem_filterMap]
    exact ⟨(start,slot),List.mem_zipIdx_iff_getElem?.mpr hs,if_pos ahead⟩

/-- Start times are listed schedule after schedule and slot after slot. -/
theorem pairwise_startsAhead (few : schedules.length≤ maxSchedules) (now : Moment) :
    (startsAhead schedules now).Pairwise fun p q => p.2.Precedes q.2 := by
  have octet {β : Type} {l : List β} (h : l.length≤4) : l.length≤256 := Nat.le_trans h (by decide)
  rw [startsAhead,List.pairwise_flatMap]
  constructor
  · rintro ⟨x,i⟩ _
    dsimp only
    split_ifs
    · rw [List.pairwise_filterMap]
      refine (pairwise_zipIdx (octet (List.length_take_le ..))).imp ?_
      rintro ⟨start,slot⟩ ⟨start',slot'⟩ lt p hp p' hp'
      dsimp only at hp hp'
      split_ifs at hp hp'
      obtain rfl := Option.some.inj hp
      obtain rfl := Option.some.inj hp'
      exact .inr ⟨rfl,lt⟩
    · exact List.Pairwise.nil
  · refine (pairwise_zipIdx (octet few)).imp ?_
    rintro ⟨x,i⟩ ⟨x',i'⟩ lt p hp p' hp'
    dsimp only at hp hp'
    split_ifs at hp hp'
    · obtain ⟨_,_,hp⟩ := List.mem_filterMap.mp hp
      obtain ⟨_,_,hp'⟩ := List.mem_filterMap.mp hp'
      split_ifs at hp hp'
      obtain rfl := Option.some.inj hp
      obtain rfl := Option.some.inj hp'
      exact .inl lt
    all_goals simp at hp hp'

variable {s : Scheduler}

/-- A new agenda holds the start times ahead, if schedules are enabled at all. -/
theorem mem_reload {p : Nat×Action} : p∈(s.reload now).agenda.pending ↔
    s.enabled=true ∧ p∈startsAhead s.schedules now := by
  change p∈(Agenda.addAll {} (if _ then _ else _)).pending ↔ _
  rw [Agenda.mem_addAll]
  have nothing : p∉({} : Agenda).pending := List.not_mem_nil
  constructor
  · rintro (⟨m,_⟩ | m)
    · split_ifs at m with on
      · exact ⟨on,m⟩
      · cases m
    · exact absurd m nothing
  · rintro ⟨on,m⟩
    left
    rw [if_pos on]
    obtain ⟨_,_,_,start,_,_,_,⟨_,today⟩,rfl⟩ := mem_startsAhead.mp m
    exact ⟨m,today⟩

theorem pairwise_reload (few : s.schedules.length≤ maxSchedules) (now : Moment) :
    (s.reload now).agenda.pending.Pairwise (Agenda.InOrder Action.Precedes) := by
  change (Agenda.addAll {} (if _ then _ else _)).pending.Pairwise _
  apply Agenda.pairwise_addAll
  · exact List.Pairwise.nil
  · split_ifs
    · exact pairwise_startsAhead few now
    · exact List.Pairwise.nil
  · intro p m
    cases m

/-- Whatever was on the agenda: once it is laid out anew, it holds each start time that is still ahead, by
one of the first four slots of one of the first four schedules that are enabled, water anything and run
that day, and nothing else. They are in the order of their minutes, then of their schedules, then of their
slots, each once. While scheduling is disabled there is none. No schedule is active, and laying the agenda
out once more changes nothing. -/
theorem agenda_laid_out_exactly (schedules : List Schedule) (s : Scheduler) (now : Moment) :
    let t := reload {s with schedules:=schedules.take maxSchedules} now
    (s.enabled=true → ∀ p,p∈t.agenda.pending ↔
      ∃ i slot x start,i<4 ∧ slot<4 ∧ schedules[i]?=some x ∧ x.startTimes[slot]?=some start ∧
        x.enabled=true ∧ (∃ minutes∈x.durations,0< minutes) ∧ x.recurrence.runsOn now.day=true ∧
        now.minute≤ start ∧ start<1440 ∧
        p=(start,.expand (.stored (UInt8.ofNat i)) (UInt8.ofNat slot))) ∧
    t.agenda.pending.Pairwise (Agenda.InOrder Action.Precedes) ∧
    (s.enabled=false → t.agenda.pending=[]) ∧
    t.active=none ∧
    t.reload now=t := by
  intro t
  have among {β : Type} (l : List β) (i : Nat) (x : β) :
      (l.take 4)[i]?=some x ↔ i<4 ∧ l[i]?=some x := by
    rw [List.getElem?_take,Option.ite_none_right_eq_some]
  have waters (x : Schedule) : x.runsOn now.day=true ↔ x.enabled=true ∧
      (∃ minutes∈x.durations,0< minutes) ∧ x.recurrence.runsOn now.day=true := by
    simp only [Schedule.runsOn,Schedule.watersAnything,Bool.and_eq_true,List.any_eq_true,
      decide_eq_true_eq,and_assoc]
  refine ⟨?_,pairwise_reload (List.length_take_le ..) now,?_,rfl,rfl⟩
  · intro on p
    rw [mem_reload,mem_startsAhead]
    constructor
    · rintro ⟨_,i,x,slot,start,hx,hday,hs,⟨ahead,today⟩,rfl⟩
      obtain ⟨hi,hx⟩ := (among schedules i x).mp hx
      obtain ⟨hslot,hs⟩ := (among x.startTimes slot start).mp hs
      obtain ⟨enabled,durations,recurs⟩ := (waters x).mp hday
      exact ⟨i,slot,x,start,hi,hslot,hx,hs,enabled,durations,recurs,ahead,today,rfl⟩
    · rintro ⟨i,slot,x,start,hi,hslot,hx,hs,enabled,durations,recurs,ahead,today,rfl⟩
      exact ⟨on,i,x,slot,start,(among ..).mpr ⟨hi,hx⟩,(waters x).mpr ⟨enabled,durations,recurs⟩,
        (among ..).mpr ⟨hslot,hs⟩,⟨ahead,today⟩,rfl⟩
  · intro off
    apply List.eq_nil_iff_forall_not_mem.mpr
    intro p m
    obtain ⟨on,_⟩ := mem_reload.mp m
    rw [off] at on
    cases on

example :
    let lawn : Schedule :=
      {name:="lawn",recurrence:=.interval 1,startTimes:=[400,360],durations:=[10]}
    let beds : Schedule := {lawn with name:="beds",startTimes:=[360,300,1440]}
    (reload {schedules:=[lawn,beds],enabled:=true,seasonal:=100} ⟨0,330,by decide⟩).agenda.pending=
      [(360,.expand (.stored 0) 1),(360,.expand (.stored 1) 0),(400,.expand (.stored 0) 0)] := by
  decide

end Scheduler

end Watering
