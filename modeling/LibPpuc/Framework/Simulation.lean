import LibPpuc.Framework.Transition

/-! # Simulations with Stuttering

  A concrete system refines an abstract one along an abstraction function:
  every concrete step is the abstract step of its label, or leaves the
  abstract state alone if its label means nothing there.  Then every
  concrete run is the abstract run of the labels that mean something.
-/

namespace Transition

universe u v w x

variable {State : Type u} {Label : Type v} {Abstract : Type w} {Action : Type x}
  {step : State → Label → Option State} {act : Abstract → Action → Option Abstract}

/-- One step of the concrete system, seen from the abstract one. -/
def Simulates (act : Abstract → Action → Option Abstract) (abs : State → Abstract)
    (meaning : Label → Option Action) (s : State) (l : Label) (s' : State) : Prop :=
  match meaning l with
  | some a => act (abs s) a = some (abs s')
  | none => abs s' = abs s

/-- **Simulation rule**: what every step does under an invariant, every run
    does. -/
theorem exec_simulates {I : State → Prop} {abs : State → Abstract} {meaning : Label → Option Action}
    {ls : List Label}
    (hstep : ∀ s, ∀ l ∈ ls, ∀ s', I s → step s l = some s' →
      I s' ∧ Simulates act abs meaning s l s')
    {s s' : State} (hinit : I s) (hrun : exec step s ls = some s') :
    exec act (abs s) (ls.filterMap meaning) = some (abs s') := by
  induction ls generalizing s with
  | nil =>
    obtain rfl : s = s' := by simpa using hrun
    rfl
  | cons l ls ih =>
    obtain ⟨t, ht, hrest⟩ := exec_cons_some.mp hrun
    obtain ⟨hI, hsim⟩ := hstep s l List.mem_cons_self t hinit ht
    have hlater := ih (fun s l hl => hstep s l (List.mem_cons_of_mem _ hl)) hI hrest
    unfold Simulates at hsim
    split at hsim
    · next a hmeaning =>
      rw [List.filterMap_cons_some hmeaning]
      exact exec_cons_some.mpr ⟨abs t, hsim, hlater⟩
    · next hmeaning =>
      rw [List.filterMap_cons_none hmeaning, ← hsim]
      exact hlater

end Transition
