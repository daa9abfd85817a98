/-!
# Readers step by step

A reader takes steps one after the other until one of them fails. It succeeds when all of them do.
-/

namespace BlobLimbo

variable {ε α β : Type}

/-- Steps of a reader succeed one after the other. -/
theorem bind_eq_ok_iff {first : Except ε α} {second : α → Except ε β} {b : β} :
    (first >>= second) = .ok b ↔ ∃ a, first = .ok a ∧ second a = .ok b := by
  cases first with
  | error e =>
    change (Except.error e : Except ε β) = .ok b ↔ _
    simp
  | ok a =>
    change second a = .ok b ↔ _
    simp

/-- After a step that succeeds the next one is taken. -/
@[simp] theorem ok_bind (a : α) (second : α → Except ε β) : (Except.ok a >>= second) = second a :=
  rfl

/-- A step that reads nothing succeeds. -/
@[simp] theorem pure_eq_ok (a : α) : (pure a : Except ε α) = .ok a :=
  rfl

end BlobLimbo
