import LibPpuc.Framework.Transition

/-! # Progress by Ranking

  Some labels are work, and some of what a run shows is wanted.  A rank says
  how much work is left at most before something wanted is shown: a step of
  work shows it or lowers the rank, every other step shows it or does not
  raise it.

  The ranking rule: a run with more steps of work than the rank of its start
  shows something wanted, whatever the other steps are and however they get
  in between.  Where the rank is bounded, the counting rule says how much
  work pays for how many wanted things.

  The settling rule is about what is shown first: an invariant that counts
  what may still be wrong says that all is right behind that many.
-/

namespace Transition

universe u v w

variable {State : Type u} {Label : Type v} {Seen : Type w}
  {step : State → Label → Option State} {view : State → Label → State → List Seen}

/-- A step shows something wanted, or the rank goes down as it should. -/
def Advances (view : State → Label → State → List Seen) (want : Seen → Prop)
    (work : Label → Bool) (rank : State → Nat) (s : State) (l : Label) (s' : State) : Prop :=
  (∃ seen ∈ view s l s', want seen) ∨
    if work l then rank s' < rank s else rank s' ≤ rank s

/-- **Ranking rule**: with work enough, something wanted is shown. -/
theorem exec_shows {I : State → Prop} {fine want : Seen → Prop} (work : Label → Bool)
    (rank : State → Nat) {ls : List Label}
    (hstep : ∀ s, ∀ l ∈ ls, ∀ s', I s → step s l = some s' → (∀ seen ∈ view s l s', fine seen) →
      I s' ∧ Advances view want work rank s l s')
    {s s' : State} (hinit : I s) (hrun : exec step s ls = some s')
    (hfine : ∀ seen ∈ observe step view s ls, fine seen) (hlong : rank s < ls.countP work) :
    ∃ seen ∈ observe step view s ls, want seen := by
  induction ls generalizing s with
  | nil => exact absurd hlong (by simp)
  | cons l ls ih =>
    obtain ⟨t, ht, hrest⟩ := exec_cons_some.mp hrun
    rw [observe_cons ls ht] at hfine ⊢
    have hlater : ∀ s, ∀ l ∈ ls, ∀ s', I s → step s l = some s' →
        (∀ seen ∈ view s l s', fine seen) → I s' ∧ Advances view want work rank s l s' :=
      fun s l hl => hstep s l (List.mem_cons_of_mem _ hl)
    obtain ⟨hI, ⟨seen, hseen, hwant⟩ | hrank⟩ := hstep s l List.mem_cons_self t hinit ht
      fun seen hseen => hfine seen (List.mem_append_left _ hseen)
    · exact ⟨seen, List.mem_append_left _ hseen, hwant⟩
    · -- nothing wanted yet: the rest of the run still has work enough
      have hleft : rank t < ls.countP work := by
        rw [List.countP_cons] at hlong
        split at hrank
        · next hwork =>
          simp only [hwork, if_true] at hlong
          omega
        · next hother =>
          simp only [hother, Bool.false_eq_true, if_false] at hlong
          omega
      obtain ⟨seen, hseen, hwant⟩ := ih hlater hI hrest
        (fun seen hseen => hfine seen (List.mem_append_right _ hseen)) hleft
      exact ⟨seen, List.mem_append_right _ hseen, hwant⟩

/-- **Counting rule**: if the rank stays within a bound, so much work shows so
    many wanted things. -/
theorem countP_work_le {I : State → Prop} {fine : Seen → Prop} (want : Seen → Bool)
    (work : Label → Bool) (rank : State → Nat) {bound : Nat} {ls : List Label}
    (hbound : ∀ s, I s → rank s ≤ bound)
    (hstep : ∀ s, ∀ l ∈ ls, ∀ s', I s → step s l = some s' → (∀ seen ∈ view s l s', fine seen) →
      I s' ∧ Advances view (fun seen => want seen = true) work rank s l s')
    {s s' : State} (hinit : I s) (hrun : exec step s ls = some s')
    (hfine : ∀ seen ∈ observe step view s ls, fine seen) :
    ls.countP work ≤ rank s + (bound + 1) * (observe step view s ls).countP want := by
  induction ls generalizing s with
  | nil => simp
  | cons l ls ih =>
    obtain ⟨t, ht, hrest⟩ := exec_cons_some.mp hrun
    rw [observe_cons ls ht] at hfine ⊢
    have hlater : ∀ s, ∀ l ∈ ls, ∀ s', I s → step s l = some s' →
        (∀ seen ∈ view s l s', fine seen) →
          I s' ∧ Advances view (fun seen => want seen = true) work rank s l s' :=
      fun s l hl => hstep s l (List.mem_cons_of_mem _ hl)
    obtain ⟨hI, hadvances⟩ := hstep s l List.mem_cons_self t hinit ht
      fun seen hseen => hfine seen (List.mem_append_left _ hseen)
    have hleft := ih hlater hI hrest fun seen hseen => hfine seen (List.mem_append_right _ hseen)
    have hone : (l :: ls).countP work ≤ ls.countP work + 1 := by
      rw [List.countP_cons]
      split <;> omega
    rw [List.countP_append, Nat.mul_add]
    rcases hadvances with ⟨seen, hseen, hwant⟩ | hrank
    · -- a wanted thing pays for the whole rank
      have hshown : 0 < (view s l t).countP want := List.countP_pos_iff.mpr ⟨seen, hseen, hwant⟩
      have hpaid : bound + 1 ≤ (bound + 1) * (view s l t).countP want :=
        Nat.le_mul_of_pos_right _ hshown
      have hrank := hbound t hI
      omega
    · rw [List.countP_cons]
      split at hrank
      · next hwork =>
        simp only [hwork, if_true]
        omega
      · next hother =>
        simp only [hother, Bool.false_eq_true, if_false]
        omega

/-- **Settling rule**: an invariant that counts down what may still be wrong,
    and says `Q` of all that is shown behind it, says `Q` of what a run shows
    behind the first so many. -/
theorem forall_mem_drop_observe {I : Nat → State → Prop} {Q : Seen → Prop} {ls : List Label}
    (hstep : ∀ n s, ∀ l ∈ ls, ∀ s', I n s → step s l = some s' →
      I (n - (view s l s').length) s' ∧ ∀ x ∈ (view s l s').drop n, Q x)
    {n : Nat} {s : State} (hinit : I n s) : ∀ x ∈ (observe step view s ls).drop n, Q x := by
  induction ls generalizing n s with
  | nil =>
    intro x hx
    simp [observe] at hx
  | cons l ls ih =>
    intro x hx
    have hlater : ∀ n s, ∀ l ∈ ls, ∀ s', I n s → step s l = some s' →
        I (n - (view s l s').length) s' ∧ ∀ x ∈ (view s l s').drop n, Q x :=
      fun n s l hl => hstep n s l (List.mem_cons_of_mem _ hl)
    cases hs : step s l with
    | none =>
      rw [observe_cons_none ls hs] at hx
      simp at hx
    | some s' =>
      obtain ⟨hinv, hnow⟩ := hstep n s l List.mem_cons_self s' hinit hs
      -- what this step shows uses up some of the count
      rw [observe_cons ls hs, List.drop_append] at hx
      rcases List.mem_append.mp hx with hview | hrest
      · exact hnow x hview
      · exact ih hlater hinv x hrest

end Transition
