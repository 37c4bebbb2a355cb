import Mathlib.Tactic.Common
import Watering.Valves

namespace Watering.ValveBoard

@[simp] theorem isWired_set (b : ValveBoard) (o k : UInt16) (on : Bool) :
    (b.set o on).1.isWired k=b.isWired k := by
  unfold set
  split_ifs with h
  · simp only [isWired,Std.TreeMap.contains_insert]
    by_cases e : o=k
    · subst e
      simpa [isWired] using h.symm
    · simp [e]
  · rfl

theorem isOn_set (b : ValveBoard) (o k : UInt16) (on : Bool) :
    (b.set o on).1.isOn k=if k=o ∧ b.isWired o=true then on else b.isOn k := by
  unfold set
  by_cases h : b.isWired o=true
  · simp only [h,if_true,and_true,isOn,Std.TreeMap.getD_insert]
    by_cases e : k=o
    · simp [e]
    · have : o≠k := fun e' => e e'.symm
      simp [e,this]
  · simp [h]

theorem set_snd (b : ValveBoard) (o : UInt16) (on : Bool) : (b.set o on).2=b.isWired o := by
  unfold set
  split_ifs with h
  · exact h.symm
  · simpa using h

theorem isWired_of_isOn {b : ValveBoard} {o : UInt16} (h : b.isOn o=true) : b.isWired o=true := by
  by_contra hw
  have : b.outputs.getD o false=false :=
    Std.TreeMap.getD_eq_fallback_of_contains_eq_false (Bool.eq_false_iff.mpr hw)
  exact absurd (h.symm.trans this) (by decide)

/-- An output that is turned off is off afterwards, whether it is wired or not. -/
theorem isOn_set_false (b : ValveBoard) (o k : UInt16) :
    (b.set o false).1.isOn k=(b.isOn k && k != o) := by
  rw [isOn_set]
  by_cases e : k=o
  · subst e
    cases hw : b.isWired k with
    | true => simp
    | false =>
      cases ho : b.isOn k with
      | false => simp
      | true => exact absurd (isWired_of_isOn ho) (by simp [hw])
  · simp [e]

@[simp] theorem isOn_allOff (b : ValveBoard) (o : UInt16) : b.allOff.isOn o=false := by
  simp only [allOff,isOn,Std.TreeMap.getD_map]
  cases b.outputs[o]? <;> rfl

/-- A board that was just wired is off. -/
theorem isOn_ofOutputs (outputs : List UInt16) (o : UInt16) : (ofOutputs outputs).isOn o=false := by
  suffices h : ∀ m : Std.TreeMap UInt16 Bool,m.getD o false=false →
      (outputs.foldl (fun m o => m.insert o false) m).getD o false=false from
    h {} Std.TreeMap.getD_emptyc
  induction outputs with
  | nil => exact fun _ hm => hm
  | cons k outputs ih =>
    intro m hm
    apply ih
    rw [Std.TreeMap.getD_insert]
    split_ifs
    · rfl
    · exact hm

@[simp] theorem isWired_allOff (b : ValveBoard) (o : UInt16) :
    b.allOff.isWired o=b.isWired o := by
  simp [allOff,isWired]

/-- Turn off an output, if there is one. -/
def release (b : ValveBoard) : Option UInt16 → ValveBoard
  | some o => (b.set o false).1
  | none => b

theorem isOn_release (b : ValveBoard) (o : Option UInt16) (k : UInt16) :
    (b.release o).isOn k=(b.isOn k && !(some k==o)) := by
  cases o with
  | none => exact (Bool.and_true _).symm
  | some o => exact isOn_set_false b o k

@[simp] theorem isWired_release (b : ValveBoard) (o : Option UInt16) (k : UInt16) :
    (b.release o).isWired k=b.isWired k := by
  cases o with
  | none => rfl
  | some o => exact isWired_set b o k false

@[simp] theorem isWired_foldl_release (b : ValveBoard) (os : List (Option UInt16)) (k : UInt16) :
    (os.foldl release b).isWired k=b.isWired k := by
  induction os generalizing b with
  | nil => rfl
  | cons o os ih => exact (ih _).trans (isWired_release ..)

theorem isOn_foldl_release (b : ValveBoard) (os : List (Option UInt16)) (k : UInt16) :
    (os.foldl release b).isOn k=(b.isOn k && !os.contains (some k)) := by
  induction os generalizing b with
  | nil => simp
  | cons o os ih =>
    rw [List.foldl_cons,ih,isOn_release,List.contains_cons,Bool.not_or,Bool.and_assoc]

end Watering.ValveBoard
