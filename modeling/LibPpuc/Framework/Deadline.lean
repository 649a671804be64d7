import LibPpuc.Framework.Transition
import Mathlib.Algebra.Order.Monoid.Unbundled.Basic

/-! # Deadlines that are Put Off

  A timer that is started again at every mark is kept as one number: the
  last mark plus a delay.  `IsDeadline` says what that number stands for:
  the timer is due when *every* mark lies that far back.  On a clock that
  does not run backwards, starting it again keeps this.

  The history rule says of everything a run shows what an invariant knows
  when it is shown, about the state and all that was shown before.
-/

namespace Transition

/-! ### Deadlines -/

section deadline

variable {Time : Type*} [Preorder Time] [Add Time]

/-- The timer `deadline` is due once all marks lie `delay` back. -/
def IsDeadline (delay : Time) (marks : List Time) (deadline : Time) : Prop :=
  ∀ now, deadline ≤ now ↔ ∀ mark ∈ marks, mark + delay ≤ now

theorem isDeadline_start (delay mark : Time) : IsDeadline delay [mark] (mark + delay) := by
  intro now
  simp

/-- **Starting again**: the latest marks decide. -/
theorem IsDeadline.restart [AddRightMono Time] {delay now : Time} {marks again : List Time}
    (hlatest : ∀ mark ∈ marks, mark ≤ now) (hagain : ∀ mark ∈ again, mark = now)
    (hsome : again ≠ []) : IsDeadline delay (marks ++ again) (now + delay) := by
  intro later
  constructor
  · intro hdue mark hmark
    rcases List.mem_append.mp hmark with hearlier | hlast
    · exact le_trans (add_le_add_left (hlatest mark hearlier) delay) hdue
    · obtain rfl := hagain mark hlast
      exact hdue
  · intro hall
    obtain ⟨mark, hmark⟩ := List.exists_mem_of_ne_nil again hsome
    obtain rfl := hagain mark hmark
    exact hall mark (List.mem_append_right _ hmark)

end deadline

/-! ### History -/

/-- **History rule**: if an invariant about the state and all that was shown
    explains what a step shows next, everything that a run shows is explained
    by what was shown before it. -/
theorem observe_explained {State Label Seen : Type*} {step : State → Label → Option State}
    {view : State → Label → State → List Seen} {I : List Seen → State → Prop}
    {Explains : List Seen → Seen → Prop}
    (hstep : ∀ past s l s', I past s → step s l = some s' →
      I (past ++ view s l s') s' ∧
        ∀ before x after, view s l s' = before ++ x :: after → Explains (past ++ before) x)
    {past : List Seen} {s : State} (hinit : I past s) (ls : List Label) :
    ∀ before x after, observe step view s ls = before ++ x :: after →
      Explains (past ++ before) x := by
  induction ls generalizing past s with
  | nil =>
    intro before x after hshown
    simp [observe] at hshown
  | cons l ls ih =>
    intro before x after hshown
    cases hs : step s l with
    | none =>
      rw [observe_cons_none ls hs] at hshown
      simp at hshown
    | some s' =>
      obtain ⟨hinv, hnow⟩ := hstep past s l s' hinit hs
      rw [observe_cons ls hs] at hshown
      -- `x` is shown by this step, or later
      rcases List.append_eq_append_iff.mp hshown with ⟨more, rfl, hlater⟩ | ⟨more, hview, hrest⟩
      · rw [← List.append_assoc]
        exact ih hinv more x after hlater
      · cases more with
        | nil =>
          rw [List.append_nil] at hview
          subst hview
          have hlater := ih hinv [] x after (by simpa using hrest.symm)
          simpa using hlater
        | cons y more =>
          obtain ⟨rfl, -⟩ := List.cons.inj hrest
          exact hnow before x more hview

end Transition
