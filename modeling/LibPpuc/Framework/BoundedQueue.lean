import Mathlib.Data.List.Sort

/-! # A FIFO that Drops its Oldest Entry

  A queue of at most `cap` entries, oldest first.  Pushing onto a full
  queue drops the oldest entry first, so a push never fails and the newest
  entry is always the last one.
-/

namespace BoundedQueue

variable {α : Type*} {β : Type*}

/-- Drop the oldest entry when the queue is full, then append `x`. -/
def push (cap : Nat) (q : List α) (x : α) : List α :=
  (if cap ≤ q.length then q.tail else q) ++ [x]

/-- What stays of the old entries is a sublist of them. -/
theorem kept_sublist (cap : Nat) (q : List α) :
    (if cap ≤ q.length then q.tail else q).Sublist q := by
  split
  · exact List.tail_sublist q
  · exact List.Sublist.refl q

theorem mem_push {cap : Nat} {q : List α} {x y : α} (h : y ∈ push cap q x) :
    y ∈ q ∨ y = x := by
  unfold push at h
  rcases List.mem_append.mp h with hold | hnew
  · exact Or.inl ((kept_sublist cap q).subset hold)
  · exact Or.inr (List.mem_singleton.mp hnew)

/-- Behind any position a push brings in nothing but `x`. -/
theorem mem_drop_push {cap : Nat} {q : List α} {x y : α} {k : Nat}
    (h : y ∈ (push cap q x).drop k) : y ∈ q.drop k ∨ y = x := by
  unfold push at h
  rw [List.drop_append] at h
  rcases List.mem_append.mp h with hold | hnew
  · left
    split at hold
    · rw [List.drop_tail] at hold
      exact (List.drop_sublist_drop_left q (Nat.le_succ k)).subset hold
    · exact hold
  · right
    exact List.mem_singleton.mp (List.mem_of_mem_drop hnew)

theorem length_push (cap : Nat) (q : List α) (x : α) :
    (push cap q x).length = (if cap ≤ q.length then q.length - 1 else q.length) + 1 := by
  unfold push
  rw [List.length_append, List.length_singleton]
  split
  · rw [List.length_tail]
  · rfl

/-- Pushing an entry that is related to all old ones keeps the queue sorted. -/
theorem pairwise_push {R : α → α → Prop} {cap : Nat} {q : List α} {x : α}
    (hq : q.Pairwise R) (hx : ∀ y ∈ q, R y x) : (push cap q x).Pairwise R := by
  unfold push
  refine List.pairwise_append.mpr ⟨hq.sublist (kept_sublist cap q), by simp, ?_⟩
  intro y hy z hz
  obtain rfl := List.mem_singleton.mp hz
  exact hx y ((kept_sublist cap q).subset hy)

/-- Two queues that agree entry by entry still do after a push on both. -/
theorem forall₂_push {R : α → β → Prop} {cap : Nat} {q : List α} {r : List β} {x : α} {y : β}
    (h : List.Forall₂ R q r) (hxy : R x y) : List.Forall₂ R (push cap q x) (push cap r y) := by
  have hlength := h.length_eq
  unfold push
  rw [← hlength]
  apply List.rel_append
  · split
    · cases h with
      | nil => exact List.Forall₂.nil
      | cons hhead htail => exact htail
    · exact h
  · exact List.Forall₂.cons hxy List.Forall₂.nil

end BoundedQueue
