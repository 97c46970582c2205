import BudgetNotes.Draft.Problem

/-!
# Checks that collect problems

A check gives a value or a list of problems that is not empty. Checks that
are combined do not stop at the first failure: the problems of both are kept,
in order.

Main statements: `problems_both` (a pair has the problems of its parts) and
`problems_eq_nil_iff` (a check without problems has a value).
-/

namespace BudgetNotes

/-- A value, or at least one problem. -/
inductive Check (α : Type) where
  | ok (value : α)
  | failed (first : Problem) (more : List Problem)
deriving DecidableEq

namespace Check

variable {α β γ : Type}

/-- The problems of a check, in order. -/
def problems : Check α → List Problem
  | ok _ => []
  | failed first more => first :: more

/-- The value of a check that succeeded. -/
def value? : Check α → Option α
  | ok a => some a
  | failed .. => none

/-- A check with a single problem. -/
def fail (p : Problem) : Check α := failed p []

def map (f : α → β) : Check α → Check β
  | ok a => ok (f a)
  | failed p ps => failed p ps

/-- Both values, or the problems of both. -/
def both : Check α → Check β → Check (α × β)
  | ok a, ok b => ok (a, b)
  | ok _, failed q qs => failed q qs
  | failed p ps, b => failed p (ps ++ b.problems)

def map2 (f : α → β → γ) (a : Check α) (b : Check β) : Check γ :=
  (both a b).map fun (a, b) => f a b

/-- A further check of the value. -/
def andThen (a : Check α) (next : α → Check β) : Check β :=
  match a with
  | ok a => next a
  | failed p ps => failed p ps

/-- Adds a problem after those there are. -/
def addProblem (a : Check α) (p : Problem) : Check β :=
  match a with
  | ok _ => failed p []
  | failed q qs => failed q (qs ++ [p])

/-! ## Laws of the problems -/


@[simp] theorem problems_map (f : α → β) (a : Check α) : (a.map f).problems = a.problems := by
  cases a <;> rfl

/-- A pair has the problems of its parts, in order. -/
@[simp] theorem problems_both (a : Check α) (b : Check β) :
    (both a b).problems = a.problems ++ b.problems := by
  cases a <;> cases b <;> rfl

@[simp] theorem problems_map2 (f : α → β → γ) (a : Check α) (b : Check β) :
    (map2 f a b).problems = a.problems ++ b.problems := by
  rw [map2, problems_map, problems_both]

@[simp] theorem problems_addProblem (a : Check α) (p : Problem) :
    (addProblem a p : Check β).problems = a.problems ++ [p] := by
  cases a <;> rfl

/-- A check without problems has a value. -/
theorem problems_eq_nil_iff (a : Check α) : a.problems = [] ↔ ∃ v, a = ok v := by
  cases a <;> simp [problems]

end Check

end BudgetNotes
