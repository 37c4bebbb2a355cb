namespace Watering

structure UnitTable (α : Type) where
  entries : Vector α 256

namespace UnitTable

variable {α : Type}

def fill (a : α) : UnitTable α := ⟨Vector.replicate 256 a⟩

def get (t : UnitTable α) (u : UInt8) : α :=
  have : u.toNat<256 := u.toNat_lt
  t.entries[u.toNat]

def set (t : UnitTable α) (u : UInt8) (a : α) : UnitTable α := ⟨t.entries.set u.toNat a u.toNat_lt⟩

@[simp] theorem get_fill (a : α) (u : UInt8) : (fill a).get u=a := by
  simp [fill,get]

theorem get_set (t : UnitTable α) (u v : UInt8) (a : α) :
    (t.set u a).get v=if v=u then a else t.get v := by
  simp only [get,set,Vector.getElem_set]
  by_cases h : v=u
  · simp [h]
  · have : u.toNat≠v.toNat := fun e => h (UInt8.toNat_inj.mp e).symm
    simp [h,this]

end UnitTable

end Watering
