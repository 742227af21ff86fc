/-! Values with notes on how they came about, in the order in which the notes were made. -/

namespace HttpScenario

structure Noted (ν α : Type) where
  value : α
  notes : List ν

namespace Noted

variable {ν α β : Type}

instance : Monad (Noted ν) where
  pure a := ⟨a, []⟩
  bind x f := ⟨(f x.value).value, x.notes ++ (f x.value).notes⟩

def note (n : ν) : Noted ν Unit := ⟨(), [n]⟩

@[simp]
theorem value_pure (a : α) : (pure a : Noted ν α).value = a := rfl

@[simp]
theorem notes_pure (a : α) : (pure a : Noted ν α).notes = [] := rfl

@[simp]
theorem value_bind (x : Noted ν α) (f : α → Noted ν β) :
    (x >>= f).value = (f x.value).value := rfl

@[simp]
theorem notes_bind (x : Noted ν α) (f : α → Noted ν β) :
    (x >>= f).notes = x.notes ++ (f x.value).notes := rfl

theorem bind_congr_value {x : Noted ν α} {f g : α → Noted ν β} (h : f x.value = g x.value) :
    x >>= f = x >>= g := by
  show (⟨_, _⟩ : Noted ν β) = ⟨_, _⟩
  rw [h]

@[simp]
theorem value_note (n : ν) : (note n).value = () := rfl

@[simp]
theorem notes_note (n : ν) : (note n).notes = [n] := rfl

end Noted

end HttpScenario
