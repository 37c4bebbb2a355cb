import Mathlib.Data.List.DropRight
import Watering.Journal

namespace Watering.Journal

/-- All that is done to a journal. -/
inductive Operation where
  | push (n : Notification)
  | take
deriving DecidableEq

namespace Operation

def noted? : Operation → Option Notification
  | push n => some n
  | take => none

def isPush (op : Operation) : Bool := op.noted?.isSome

end Operation

def perform (j : Journal) : Operation → Journal
  | .push n => j.push n
  | .take => j.take.1

def performAll (j : Journal) (ops : List Operation) : Journal := ops.foldl perform j

/-- All that was noted. -/
def noted (ops : List Operation) : List Notification := ops.filterMap (·.noted?)

/-- What was noted since the last taking. -/
def untaken (ops : List Operation) : List Notification := noted (ops.rtakeWhile (·.isPush))

/-- What each taking hands over. -/
def takings (j : Journal) : List Operation → List (List Notification)
  | [] => []
  | .push n::ops => takings (j.push n) ops
  | .take::ops => j.take.2::takings j.take.1 ops

variable {j : Journal} {past : List Operation}

theorem noted_append (past ops : List Operation) : noted (past++ops)=noted past++noted ops :=
  List.filterMap_append

theorem untaken_push (past : List Operation) (n : Notification) :
    untaken (past++[.push n])=untaken past++[n] := by
  rw [untaken,List.rtakeWhile_concat_pos _ _ _ rfl,noted_append]
  rfl

theorem untaken_take (past : List Operation) : untaken (past++[.take])=[] := by
  rw [untaken,List.rtakeWhile_concat_neg _ _ _ (by decide)]
  rfl

theorem takings_append (j : Journal) (past ops : List Operation) :
    takings j (past++ops)=takings j past++takings (j.performAll past) ops := by
  induction past generalizing j with
  | nil => rfl
  | cons op past ih =>
    cases op with
    | push n => exact ih (j.push n)
    | take => exact congrArg (j.take.2::·) (ih j.take.1)

theorem rtake_of_length_le {l : List Notification} {k : Nat} (h : l.length≤k) : l.rtake k=l := by
  rw [List.rtake,Nat.sub_eq_zero_of_le h,List.drop_zero]

/-- The window on the end of a sequence moves along as one more is noted. -/
theorem roll_rtake (l : List Notification) (n : Notification) :
    roll (l.rtake journalSize) n=(l++[n]).rtake journalSize := by
  obtain ⟨k,hk⟩ : ∃ k,journalSize=k+1 := Nat.exists_eq_succ_of_ne_zero (by decide)
  have width : (l.rtake (k+1)).length=min (k+1) l.length := by
    rw [List.rtake,List.length_drop]
    omega
  rw [roll,hk,width,List.rtake_concat_succ]
  refine congrArg (·++[n]) ?_
  by_cases full : k+1≤l.length
  · have next : l.length-(k+1)+1=l.length-k := by omega
    rw [if_pos (by omega),List.rtake,List.tail_drop,next,List.rtake]
  · rw [if_neg (by omega),rtake_of_length_le (by omega),rtake_of_length_le (by omega)]

/-- What the windows of a journal show after all that was done to it. -/
structure Shows (j : Journal) (past : List Operation) : Prop where
  history : j.history=(noted past).rtake journalSize
  pending : j.pending=(untaken past).rtake journalSize

theorem Shows.perform (h : Shows j past) (op : Operation) : Shows (j.perform op) (past++[op]) := by
  cases op with
  | push n =>
    constructor
    · change roll j.history n=_
      rw [h.history,roll_rtake,noted_append]
      rfl
    · change roll j.pending n=_
      rw [h.pending,roll_rtake,untaken_push]
  | take =>
    constructor
    · change j.history=_
      rw [h.history,noted_append]
      exact congrArg (List.rtake · journalSize) (List.append_nil _).symm
    · rw [untaken_take]
      rfl

theorem shows_performAll (ops : List Operation) : Shows (performAll {} ops) ops := by
  induction ops using List.reverseRecOn with
  | nil => exact ⟨rfl,rfl⟩
  | append_singleton ops op ih =>
    rw [performAll,List.foldl_append]
    exact ih.perform op

/-- Stretch by stretch between the takings, and behind the last, the end of what was noted is handed over
or still to take. -/
theorem takings_eq (ops : List Operation) :
    takings {} ops++[(performAll {} ops).pending]=
      (ops.splitOn .take).map fun part => (noted part).rtake journalSize := by
  -- A stretch may have begun before `ops` do: `begun` has its operations, the last one first.
  suffices ∀ (j : Journal) (begun : List Operation),
      j.pending=(noted begun.reverse).rtake journalSize →
      takings j ops++[(j.performAll ops).pending]=
        (ops.splitOnPPrepend (·==.take) begun).map fun part => (noted part).rtake journalSize from
    this {} [] rfl
  intro j begun pending
  induction ops generalizing j begun with
  | nil => exact congrArg (fun window => [window]) pending
  | cons op ops ih =>
    cases op with
    | push n =>
      rw [List.splitOnPPrepend_cons_neg (by rfl)]
      refine ih (j.push n) (.push n::begun) ?_
      change roll j.pending n=_
      rw [pending,roll_rtake,List.reverse_cons,noted_append]
      rfl
    | take =>
      rw [List.splitOnPPrepend_cons_pos (by rfl),List.map_cons,←pending]
      exact congrArg (j.pending::·) (ih j.take.1 [] rfl)

/-- The stretches hold all that was noted. -/
theorem flatten_map_noted (ops : List Operation) :
    ((ops.splitOn .take).map noted).flatten=noted ops := by
  suffices ∀ begun : List Operation,
      ((ops.splitOnPPrepend (·==.take) begun).map noted).flatten=noted begun.reverse++noted ops from
    this []
  intro begun
  induction ops generalizing begun with
  | nil => simp [noted]
  | cons op ops ih =>
    cases op with
    | push n =>
      rw [List.splitOnPPrepend_cons_neg (by rfl),ih,List.reverse_cons,noted_append,List.append_assoc]
      rfl
    | take =>
      rw [List.splitOnPPrepend_cons_pos (by rfl),List.map_cons,List.flatten_cons]
      exact congrArg (noted begun.reverse++·) (ih [])

/-- If no stretch outgrows a window, what was taken and what is still to take are all that was noted. -/
theorem flatten_takings {ops : List Operation}
    (small : ∀ part∈ops.splitOn .take,part.length≤journalSize) :
    (takings {} ops).flatten++(performAll {} ops).pending=noted ops := by
  have whole : (ops.splitOn .take).map (fun part => (noted part).rtake journalSize)=
      (ops.splitOn .take).map noted := by
    apply List.map_congr_left
    intro part h
    have le : (noted part).length≤part.length := List.length_filterMap_le ..
    exact rtake_of_length_le (Nat.le_trans le (small part h))
  have all := congrArg List.flatten ((takings_eq ops).trans whole)
  rw [List.flatten_append,List.flatten_singleton,flatten_map_noted] at all
  exact all

/-- Whatever was noted and taken: the latest show, newest first, as many of the last 200 as were noted.
A taking hands over the last 200 at most of what was noted since the one before, oldest first, and leaves
nothing to take and the latest as they were. If no more than 200 are noted from one taking to the next,
then the takings and what is still to take are all that was noted, in its order; with one more taking the
takings alone are. -/
theorem windows_show_latest (ops : List Operation) :
    let j := performAll {} ops
    j.recent=((noted ops).rtake 200).reverse ∧ j.recent.length=min 200 (noted ops).length ∧
    j.take.2=(untaken ops).rtake 200 ∧ j.take.1.pending=[] ∧ j.take.1.recent=j.recent ∧
    ((∀ part∈ops.splitOn .take,part.length≤200) →
      (takings {} ops).flatten++j.pending=noted ops ∧
      (takings {} (ops++[.take])).flatten=noted ops) := by
  intro j
  have shows : Shows j ops := shows_performAll ops
  have recent : j.recent=((noted ops).rtake 200).reverse := congrArg List.reverse shows.history
  refine ⟨recent,?_,shows.pending,rfl,rfl,?_⟩
  · rw [recent,List.length_reverse,List.rtake,List.length_drop]
    omega
  · intro small
    have all : (takings {} ops).flatten++j.pending=noted ops := flatten_takings small
    have last : takings j [.take]=[j.pending] := rfl
    refine ⟨all,?_⟩
    rw [takings_append,List.flatten_append,show performAll {} ops=j from rfl,last,
      List.flatten_singleton,all]

/-- The journal is emptied as soon as its window is full, and the last notes are not taken. -/
def fullTwice : List Operation :=
  let note (i : Nat) : Operation := .push ⟨⟨⟨0,i⟩,0⟩,.system "boot"⟩
  (List.range 200).map note++.take::(List.range 200).map note

theorem windows_show_latest_fullTwice :
    (∀ part∈fullTwice.splitOn .take,part.length≤200) ∧
      (noted fullTwice).length=400 ∧ (performAll {} fullTwice).recent.length=200 ∧
      (takings {} (fullTwice++[.take])).flatten=noted fullTwice := by
  have small : ∀ part∈fullTwice.splitOn .take,part.length≤200 := by decide +kernel
  have length : (noted fullTwice).length=400 := by decide +kernel
  obtain ⟨_,recent,_,_,_,taken⟩ := windows_show_latest fullTwice
  exact ⟨small,length,by rw [recent,length]; rfl,(taken small).2⟩

end Watering.Journal
