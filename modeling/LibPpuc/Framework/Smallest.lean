import Mathlib.Data.List.Perm.Subperm

/-! # The Smallest Elements of a Set

  `Smallest n S ys` says that `ys` lists the `n` smallest elements of `S` in
  order, or all of them if `S` has no more.  Cutting a sorted list gives such
  a list (`smallest_take`), and one that is short enough is complete
  (`Smallest.complete`).
-/

universe u

section smallest

variable {α : Type u} [LT α] {n : Nat} {S : α → Prop} {ys : List α}

/-- `ys` lists the `n` smallest elements of `S` in order. -/
structure Smallest (n : Nat) (S : α → Prop) (ys : List α) : Prop where
  sorted : ys.Pairwise (· < ·)
  length_le : ys.length ≤ n
  sound : ∀ y ∈ ys, S y
  /-- What is left out is greater than `n` elements. -/
  left_out : ∀ x, S x → x ∉ ys → ys.length = n ∧ ∀ y ∈ ys, y < x

/-- A sorted list is cut. -/
theorem smallest_take {xs : List α} (hsorted : xs.Pairwise (· < ·)) (n : Nat) :
    Smallest n (· ∈ xs) (xs.take n) := by
  have hsplit : (xs.take n ++ xs.drop n).Pairwise (· < ·) := by
    rw [List.take_append_drop]
    exact hsorted
  obtain ⟨htake, -, hbelow⟩ := List.pairwise_append.mp hsplit
  refine ⟨htake, List.length_take_le n xs, fun y hy => List.mem_of_mem_take hy, ?_⟩
  intro x hx hout
  have hdrop : x ∈ xs.drop n := by
    rw [← List.take_append_drop n xs] at hx
    exact (List.mem_append.mp hx).resolve_left hout
  refine ⟨?_, fun y hy => hbelow y hy x hdrop⟩
  -- something is left after the cut
  have hlength := List.length_pos_of_mem hdrop
  rw [List.length_drop] at hlength
  rw [List.length_take]
  omega

namespace Smallest

/-- Sets with the same elements have the same smallest ones. -/
theorem congr {T : α → Prop} (h : Smallest n S ys) (hiff : ∀ x, T x ↔ S x) :
    Smallest n T ys :=
  ⟨h.sorted, h.length_le, fun y hy => (hiff y).mpr (h.sound y hy),
    fun x hx => h.left_out x ((hiff x).mp hx)⟩

/-- No element is listed twice. -/
theorem nodup (h : Smallest n S ys) (hirrefl : ∀ x : α, ¬ x < x) : ys.Nodup := by
  apply h.sorted.imp
  intro x y hlt heq
  exact hirrefl y (heq ▸ hlt)

/-- If the elements of `S` are on a list of `n` places, none is left out. -/
theorem complete (h : Smallest n S ys) (hirrefl : ∀ x : α, ¬ x < x) {xs : List α}
    (hall : ∀ x, S x → x ∈ xs) (hlength : xs.length ≤ n) {x : α} (hx : S x) : x ∈ ys := by
  by_contra hout
  -- otherwise there were `n + 1` different elements on the list
  have hnodup : (x :: ys).Nodup := List.nodup_cons.mpr ⟨hout, h.nodup hirrefl⟩
  have hsubset : x :: ys ⊆ xs := by
    intro y hy
    rcases List.mem_cons.mp hy with rfl | hy
    · exact hall y hx
    · exact hall y (h.sound y hy)
  have hle := (hnodup.subperm hsubset).length_le
  have hfull := (h.left_out x hx hout).1
  rw [List.length_cons] at hle
  omega

end Smallest

end smallest
