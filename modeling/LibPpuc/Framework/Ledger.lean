import LibPpuc.Framework.Transition

/-! # Ledgers

  A run puts things into a store and takes things out of it.  If every step
  keeps the balance, what was held and what came in is what went out and
  what is held now, then so does a run, in order and with nothing lost or
  doubled.

  - `exec_ledger`: the balance of a run.
  - `filterMap_observe`: one account out of all that is shown.
  - `observe_congr`: two accounts that agree on every step.
-/

namespace Transition

universe u v w

variable {State : Type u} {Label : Type v} {Item : Type w} {step : State → Label → Option State}

/-- A step keeps the balance. -/
def Balanced (held : State → List Item) (put got : State → Label → State → List Item)
    (s : State) (l : Label) (s' : State) : Prop :=
  held s ++ put s l s' = got s l s' ++ held s'

/-- **Ledger rule**: so does a run. -/
theorem exec_ledger {I : State → Prop} {held : State → List Item}
    {put got : State → Label → State → List Item}
    (hstep : ∀ s l s', I s → step s l = some s' → I s' ∧ Balanced held put got s l s')
    {s s' : State} {ls : List Label} (hinit : I s) (hrun : exec step s ls = some s') :
    held s ++ observe step put s ls = observe step got s ls ++ held s' := by
  induction ls generalizing s with
  | nil =>
    obtain rfl : s = s' := by simpa using hrun
    simp [observe]
  | cons l ls ih =>
    obtain ⟨t, ht, hrest⟩ := exec_cons_some.mp hrun
    obtain ⟨hI, hnow⟩ := hstep s l t hinit ht
    rw [observe_cons ls ht, observe_cons ls ht]
    calc held s ++ (put s l t ++ observe step put t ls)
        = got s l t ++ (held t ++ observe step put t ls) := by
          rw [← List.append_assoc, hnow, List.append_assoc]
      _ = (got s l t ++ observe step got t ls) ++ held s' := by
          rw [ih hI hrest, List.append_assoc]

/-- What is picked from all that a run shows is shown by its steps. -/
theorem filterMap_observe {Seen : Type*} (view : State → Label → State → List Seen)
    (pick : Seen → Option Item) (s : State) (ls : List Label) :
    (observe step view s ls).filterMap pick =
      observe step (fun s l s' => (view s l s').filterMap pick) s ls := by
  induction ls generalizing s with
  | nil => rfl
  | cons l ls ih =>
    cases hs : step s l with
    | none => rw [observe_cons_none ls hs, observe_cons_none ls hs, List.filterMap_nil]
    | some s' => rw [observe_cons ls hs, observe_cons ls hs, List.filterMap_append, ih s']

/-- Accounts that agree on every step agree on every run. -/
theorem observe_congr {Seen : Type*} {view view' : State → Label → State → List Seen}
    (h : ∀ s l s', step s l = some s' → view s l s' = view' s l s') (s : State)
    (ls : List Label) : observe step view s ls = observe step view' s ls := by
  induction ls generalizing s with
  | nil => rfl
  | cons l ls ih =>
    cases hs : step s l with
    | none => rw [observe_cons_none ls hs, observe_cons_none ls hs]
    | some s' => rw [observe_cons ls hs, observe_cons ls hs, h s l s' hs, ih s']

end Transition
