import LibPpuc.Framework.Transition
import Mathlib.Data.List.Iterate

/-! # Listeners

  A listener hears what the runs of a system show and keeps a state of its
  own.  It may refuse what it hears, so its states and what it accepts are a
  transition system again, with the things shown for labels.

  - The listening rule: if a relation between the states of both sides is
    kept by every step and by what the step shows, then the listener accepts
    all that a run shows.
  - The counting rule: if the listener keeps a counter, and takes a number
    only if it is the next one, then what it accepts is numbered one after
    the other.
-/

namespace Transition

universe u v w x

variable {State : Type u} {Label : Type v} {Seen : Type w} {Listener : Type x}
  {step : State → Label → Option State} {view : State → Label → State → List Seen}
  {hear : Listener → Seen → Option Listener}

/-- **Listening rule**: the listener follows a run. -/
theorem exec_observe {R : State → Listener → Prop} {ls : List Label}
    (hstep : ∀ s, ∀ l ∈ ls, ∀ s' m, R s m → step s l = some s' →
      ∃ m', exec hear m (view s l s') = some m' ∧ R s' m')
    {s s' : State} {m : Listener} (hinit : R s m) (hrun : exec step s ls = some s') :
    ∃ m', exec hear m (observe step view s ls) = some m' ∧ R s' m' := by
  induction ls generalizing s m with
  | nil =>
    obtain rfl : s = s' := by simpa using hrun
    exact ⟨m, rfl, hinit⟩
  | cons l ls ih =>
    obtain ⟨t, ht, hrest⟩ := exec_cons_some.mp hrun
    obtain ⟨m₁, hm₁, hR₁⟩ := hstep s l List.mem_cons_self t m hinit ht
    have hlater : ∀ s, ∀ l ∈ ls, ∀ s' m, R s m → step s l = some s' →
        ∃ m', exec hear m (view s l s') = some m' ∧ R s' m' :=
      fun s l hl => hstep s l (List.mem_cons_of_mem _ hl)
    obtain ⟨m', hm', hR'⟩ := ih hlater hR₁ hrest
    refine ⟨m', ?_, hR'⟩
    rw [observe_cons ls ht]
    exact exec_append_some.mpr ⟨m₁, hm₁, hm'⟩

/-- What is heard has no number and is not counted, or has the next number. -/
def Counts {Number : Type*} (count : Listener → Number) (next : Number → Number)
    (m : Listener) (number : Option Number) (m' : Listener) : Prop :=
  (number = none ∧ count m' = count m) ∨
    (number = some (count m) ∧ count m' = next (count m))

/-- **Counting rule**: what is accepted is numbered one after the other. -/
theorem exec_numbered {Number : Type*} {number : Seen → Option Number} {count : Listener → Number}
    {next : Number → Number} {m m' : Listener} {seen : List Seen}
    (h : exec hear m seen = some m')
    (hhear : ∀ m seen m', hear m seen = some m' → Counts count next m (number seen) m') :
    seen.filterMap number = List.iterate next (count m) (seen.filterMap number).length := by
  induction seen generalizing m with
  | nil => rfl
  | cons first seen ih =>
    obtain ⟨m₁, hm₁, hrest⟩ := exec_cons_some.mp h
    have hlater := ih hrest
    rcases hhear m first m₁ hm₁ with ⟨hnone, hsame⟩ | ⟨hnumber, hcount⟩
    · rw [List.filterMap_cons_none hnone, ← hsame]
      exact hlater
    · rw [hcount] at hlater
      rw [List.filterMap_cons_some hnumber, List.length_cons, List.iterate]
      exact congrArg _ hlater

end Transition
