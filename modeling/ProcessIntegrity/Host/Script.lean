/-!
# Scripts

A script answers the same question again and again: one answer after the other, and the last one for
ever after.
-/

namespace ProcessIntegrity.Host

structure Script (α : Type) where
  next : α
  later : List α := []

namespace Script

variable {α : Type}

/-- The script that gives these answers in order; there has to be one. -/
def ofList? : List α → Option (Script α)
  | [] => none
  | a :: later => some ⟨a, later⟩

/-- Takes one answer. The last one stays. -/
def take (s : Script α) : α × Script α :=
  match s.later with
  | [] => (s.next, s)
  | a :: later => (s.next, ⟨a, later⟩)

end Script

end ProcessIntegrity.Host
