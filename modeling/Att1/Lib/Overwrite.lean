import Mathlib.Logic.Function.Basic

/-!
# Att1.Lib.Overwrite — functions changed at fixed places to fixed values

`Overwrites f`: whatever the function, `f` gives it the same values at the same places and leaves the others alone.
Updates are of this kind, and so are sequences of them; to overwrite twice is to overwrite once.
-/

namespace Att1.Lib

variable {α β : Type*} {f g : (α → β) → α → β} {r : α → β}

/-- `f` assigns some places a value of its own. -/
def Overwrites (f : (α → β) → α → β) : Prop := ∃ p : α → Option β, ∀ r a, f r a = (p a).getD (r a)

namespace Overwrites

theorem id : Overwrites (fun r : α → β => r) := ⟨fun _ => none, fun _ _ => rfl⟩

theorem comp (hg : Overwrites g) (hf : Overwrites f) : Overwrites fun r => g (f r) := by
  obtain ⟨p, hp⟩ := hf
  obtain ⟨q, hq⟩ := hg
  refine ⟨fun a => (q a).or (p a), fun r a => ?_⟩
  show g (f r) a = ((q a).or (p a)).getD (r a)
  rw [hq, hp]
  cases q a <;> rfl

theorem update [DecidableEq α] (a : α) (b : β) : Overwrites fun r => Function.update r a b := by
  refine ⟨fun x => if x = a then some b else none, fun r x => ?_⟩
  show Function.update r a b x = (if x = a then some b else none).getD (r x)
  by_cases hx : x = a
  · rw [if_pos hx, hx]
    exact Function.update_self a b r
  · rw [if_neg hx]
    exact Function.update_of_ne hx b r

theorem updates [DecidableEq α] (cells : List (α × β)) :
    Overwrites fun r => cells.foldl (fun r c => Function.update r c.1 c.2) r := by
  induction cells with
  | nil => exact Overwrites.id
  | cons c cells ih => exact ih.comp (update c.1 c.2)

/-- Overwriting again changes nothing. -/
theorem idem (h : Overwrites f) : f (f r) = f r := by
  obtain ⟨p, hp⟩ := h
  funext a
  rw [hp, hp]
  cases p a <;> rfl

end Overwrites

end Att1.Lib
