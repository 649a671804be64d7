import Mathlib.Data.Vector.Basic
import Mathlib.Data.Int.ModEq

/-! # A Ring that Overwrites its Oldest Entry

  A fixed number of slots, the next slot to write, and the number of entries
  held.  A push never fails: once the ring is full, it overwrites the oldest
  entry.

  `Holds` relates a ring to everything that was ever pushed: it keeps the
  last `size` of it, each entry at its position modulo `size`.  Reading the
  ring gives just these, oldest first.
-/

/-- The slots, the next slot to write and the number of entries held. -/
structure OverwriteRing (α : Type*) (size : Nat) where
  slots : Vector α size
  head : Nat
  count : Nat

namespace OverwriteRing

variable {α : Type*} {size : Nat}

/-- Write the next slot. -/
def push (r : OverwriteRing α size) (x : α) : OverwriteRing α size where
  slots := r.slots.setIfInBounds r.head x
  head := (r.head + 1) % size
  count := if r.count < size then r.count + 1 else r.count

/-- The entries held, oldest first.  Once the ring has wrapped, the oldest
    one is in the slot that is written next. -/
def toList (default : α) (r : OverwriteRing α size) : List α :=
  (List.range r.count).map fun i =>
    r.slots[((if r.count = size then r.head else 0) + i) % size]?.getD default

/-- The ring holds the end of `pushed`. -/
structure Holds (r : OverwriteRing α size) (pushed : List α) : Prop where
  count : r.count = min pushed.length size
  head : r.head = pushed.length % size
  slots : ∀ i < pushed.length, pushed.length ≤ i + size → r.slots[i % size]? = pushed[i]?

/-- Nothing has been pushed. -/
theorem holds_nil (slots : Vector α size) : Holds (⟨slots, 0, 0⟩ : OverwriteRing α size) [] where
  count := (Nat.zero_min size).symm
  head := (Nat.zero_mod size).symm
  slots i hi := absurd hi (Nat.not_lt_zero i)

/-- Two of the last `size` positions do not share a slot. -/
theorem mod_ne {i n : Nat} (hlt : i < n) (hle : n + 1 ≤ i + size) : i % size ≠ n % size := by
  intro heq
  have hdvd : size ∣ n - i := (Nat.modEq_iff_dvd' hlt.le).mp heq
  have hle' : size ≤ n - i := Nat.le_of_dvd (Nat.sub_pos_of_lt hlt) hdvd
  omega

/-- **A push extends what was pushed.** -/
theorem Holds.push {r : OverwriteRing α size} {pushed : List α} (hsize : 0 < size)
    (h : Holds r pushed) (x : α) : Holds (r.push x) (pushed ++ [x]) := by
  have hlength : (pushed ++ [x]).length = pushed.length + 1 := by simp
  refine ⟨?_, ?_, ?_⟩
  · show (if r.count < size then r.count + 1 else r.count) = _
    rw [h.count, hlength]
    split <;> omega
  · show (r.head + 1) % size = _
    rw [h.head, hlength, Nat.mod_add_mod]
  · intro i hi hlast
    rw [hlength] at hi hlast
    show (r.slots.setIfInBounds r.head x)[i % size]? = _
    rw [h.head, Vector.getElem?_setIfInBounds]
    by_cases hnew : i = pushed.length
    · subst hnew
      have hslot : pushed.length % size < size := Nat.mod_lt _ hsize
      rw [if_pos rfl, if_pos hslot, List.getElem?_concat_length]
    · -- an older entry keeps its slot
      have hold : i < pushed.length := by omega
      have hne : pushed.length % size ≠ i % size := (mod_ne hold hlast).symm
      rw [if_neg hne, h.slots i hold (by omega), List.getElem?_append_left hold]

/-- **Reading the ring** gives the last entries pushed, oldest first. -/
theorem Holds.toList_eq {r : OverwriteRing α size} {pushed : List α} (h : Holds r pushed)
    (default : α) :
    r.toList default = pushed.drop (pushed.length - size) := by
  have hcount := h.count
  apply List.ext_getElem?
  intro i
  unfold toList
  rw [List.getElem?_drop, List.getElem?_map]
  by_cases hi : i < r.count
  · have hposition : pushed.length - size + i < pushed.length := by omega
    -- the slot that is read is that of the position
    have hslot : ((if r.count = size then r.head else 0) + i) % size =
        (pushed.length - size + i) % size := by
      split
      · next hfull =>
        have hle : size ≤ pushed.length := by omega
        rw [h.head, Nat.mod_add_mod]
        have hsum : pushed.length + i = pushed.length - size + i + size := by omega
        rw [hsum, Nat.add_mod_right]
      · next hpart =>
        have hzero : pushed.length - size = 0 := by omega
        rw [hzero]
    have hread := h.slots _ hposition (by omega)
    rw [List.getElem?_range hi, Option.map_some, hslot, hread,
      List.getElem?_eq_getElem hposition]
    rfl
  · have hout : pushed.length ≤ pushed.length - size + i := by omega
    have hrange : (List.range r.count)[i]? = none := by
      apply List.getElem?_eq_none
      rw [List.length_range]
      omega
    rw [hrange, List.getElem?_eq_none hout]
    rfl

end OverwriteRing
