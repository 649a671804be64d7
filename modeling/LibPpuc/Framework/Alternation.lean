import Mathlib.Data.List.Basic

/-! # Alternating Sequences

  A sequence of reports about a value that can only be flipped.  It starts
  at a known value and every report is the flip of the one before, so that
  a reader who keeps the last report knows the value.
-/

namespace Alternation

variable {α : Type*}

/-- Every report is the flip of the one before, the first one of `v`. -/
def Alternates (flip : α → α) : α → List α → Prop
  | _, [] => True
  | v, e :: es => e = flip v ∧ Alternates flip e es

/-- The last report, or `v` if there is none. -/
def final : α → List α → α
  | v, [] => v
  | _, e :: es => final e es

theorem final_eq_getLast (v : α) (es : List α) : final v es = es.getLast?.getD v := by
  induction es generalizing v with
  | nil => rfl
  | cons e es ih => rw [final, ih, List.getLast?_cons, Option.getD_some]

@[simp] theorem final_snoc (v : α) (es : List α) (e : α) : final v (es ++ [e]) = e := by
  simp [final_eq_getLast]

/-- One more report. -/
theorem alternates_snoc {flip : α → α} {v : α} {es : List α} {e : α} :
    Alternates flip v (es ++ [e]) ↔ Alternates flip v es ∧ e = flip (final v es) := by
  induction es generalizing v with
  | nil => simp [Alternates, final]
  | cons d es ih =>
    simp only [List.cons_append, Alternates, final]
    rw [ih, and_assoc]

end Alternation
