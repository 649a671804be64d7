import Mathlib.Data.Vector.Basic

/-! # Bitmaps over Byte Buffers

  A bitmap is a fixed-size buffer of bytes.  How a bit index is mapped to a
  bit of a byte is left open: `BitAccess` is a pair of accessors and
  `BitAccess.Lawful` says that index `i` is one bit, at position `pos i`,
  of byte `i / 8`.

  - `get_set_self`, `get_set_ne`: reading after writing one bit.
  - `merge`: a bytewise merge of two buffers under a mask, which a reader
    sees as a bitwise choice (`get_merge`).
-/

/-- A pair of single-bit accessors for byte buffers of any size. -/
structure BitAccess where
  /-- Read bit `i`. -/
  get : {n : Nat} → Vector UInt8 n → Nat → Bool
  /-- Overwrite bit `i`. -/
  set : {n : Nat} → Vector UInt8 n → Nat → Bool → Vector UInt8 n

namespace BitAccess

/-- Index `i` addresses exactly one bit, at position `pos i` of byte `i / 8`,
    and different indices address different bits. -/
structure Lawful (A : BitAccess) (pos : Nat → Nat) : Prop where
  pos_lt : ∀ i, pos i < 8
  pos_inj : ∀ i j, i / 8 = j / 8 → pos i = pos j → i = j
  get_eq : ∀ {n : Nat} (b : Vector UInt8 n) (i : Nat) (h : i / 8 < n),
    A.get b i = (b[i / 8]).toBitVec.getLsbD (pos i)
  set_eq : ∀ {n : Nat} (b : Vector UInt8 n) (i : Nat) (v : Bool) (k : Nat) (hk : k < n)
    (q : Nat), q < 8 →
    ((A.set b i v)[k]).toBitVec.getLsbD q =
      if k = i / 8 ∧ q = pos i then v else (b[k]).toBitVec.getLsbD q

section laws

variable {A : BitAccess} {pos : Nat → Nat} {n : Nat}

theorem get_set_self (hA : A.Lawful pos) (b : Vector UInt8 n) (i : Nat) (v : Bool)
    (h : i / 8 < n) : A.get (A.set b i v) i = v := by
  rw [hA.get_eq _ _ h, hA.set_eq _ _ _ _ h _ (hA.pos_lt i)]
  simp

theorem get_set_ne (hA : A.Lawful pos) (b : Vector UInt8 n) {i j : Nat} (v : Bool)
    (hj : j / 8 < n) (hne : i ≠ j) : A.get (A.set b i v) j = A.get b j := by
  rw [hA.get_eq _ _ hj, hA.get_eq _ _ hj, hA.set_eq _ _ _ _ hj _ (hA.pos_lt j)]
  have hother : ¬ (j / 8 = i / 8 ∧ pos j = pos i) := by
    intro h
    obtain ⟨hbyte, hpos⟩ := h
    exact hne (hA.pos_inj i j hbyte.symm hpos.symm)
  rw [if_neg hother]

/-- Reading after writing one bit. -/
theorem get_set (hA : A.Lawful pos) (b : Vector UInt8 n) (i j : Nat) (v : Bool)
    (hj : j / 8 < n) : A.get (A.set b i v) j = if j = i then v else A.get b j := by
  by_cases hji : j = i
  · subst hji
    rw [if_pos rfl, get_set_self hA b j v hj]
  · rw [if_neg hji, get_set_ne hA b v hj (Ne.symm hji)]

/-- A buffer of zero bytes has no bit set. -/
theorem get_replicate_zero (hA : A.Lawful pos) (i : Nat) (h : i / 8 < n) :
    A.get (Vector.replicate n 0) i = false := by
  rw [hA.get_eq _ _ h]
  simp

/-- Clearing a bit of a buffer of zero bytes changes nothing. -/
theorem set_false_replicate_zero (hA : A.Lawful pos) (i : Nat) :
    A.set (Vector.replicate n 0) i false = Vector.replicate n 0 := by
  apply Vector.ext
  intro k hk
  rw [Vector.getElem_replicate]
  apply UInt8.eq_of_toBitVec_eq
  apply BitVec.eq_of_getLsbD_eq
  intro q hq
  rw [hA.set_eq _ _ _ _ hk _ hq]
  split
  · simp
  · rw [Vector.getElem_replicate]

end laws

/-- Bytewise merge of the first `bytes` bytes of `new` into `old`, keeping the
    bits of `old` outside `mask`. -/
def merge {n : Nat} (bytes : Nat) (mask old new : Vector UInt8 n) : Vector UInt8 n :=
  Vector.ofFn fun k =>
    if k.val < bytes then (old[k] &&& ~~~mask[k]) ||| (new[k] &&& mask[k]) else old[k]

/-- One bit of a merged byte. -/
theorem getLsbD_merge (m a b : UInt8) {q : Nat} (hq : q < 8) :
    ((a &&& ~~~m) ||| (b &&& m)).toBitVec.getLsbD q =
      if m.toBitVec.getLsbD q = true then b.toBitVec.getLsbD q else a.toBitVec.getLsbD q := by
  cases hm : m.toBitVec.getLsbD q <;> simp_all

/-- A bytewise merge is a bitwise choice. -/
theorem get_merge {A : BitAccess} {pos : Nat → Nat} {n : Nat} (hA : A.Lawful pos)
    (bytes : Nat) (mask old new : Vector UInt8 n) (i : Nat) (h : i / 8 < n) :
    A.get (merge bytes mask old new) i =
      if i / 8 < bytes ∧ A.get mask i = true then A.get new i else A.get old i := by
  rw [hA.get_eq _ _ h, hA.get_eq _ _ h, hA.get_eq _ _ h, hA.get_eq _ _ h]
  unfold merge
  rw [Vector.getElem_ofFn]
  by_cases hb : i / 8 < bytes
  · simp only [hb, true_and, if_true]
    exact getLsbD_merge _ _ _ (hA.pos_lt i)
  · simp only [hb, false_and, if_false]
    rfl

/-- Overwrite the first `bytes` bytes of `old` by those of `new`. -/
def copy {n : Nat} (bytes : Nat) (old new : Vector UInt8 n) : Vector UInt8 n :=
  Vector.ofFn fun k => if k.val < bytes then new[k] else old[k]

theorem get_copy {A : BitAccess} {pos : Nat → Nat} {n : Nat} (hA : A.Lawful pos)
    (bytes : Nat) (old new : Vector UInt8 n) (i : Nat) (h : i / 8 < n) :
    A.get (copy bytes old new) i = if i / 8 < bytes then A.get new i else A.get old i := by
  rw [hA.get_eq _ _ h, hA.get_eq _ _ h, hA.get_eq _ _ h]
  unfold copy
  rw [Vector.getElem_ofFn]
  by_cases hb : i / 8 < bytes
  · simp only [hb, if_true]
    rfl
  · simp only [hb, if_false]
    rfl

/-! ### Updates that Change Nothing -/

/-- A merged byte is the old one exactly if both agree under the mask. -/
theorem merge_byte_eq_iff (m a b : UInt8) :
    (a &&& ~~~m) ||| (b &&& m) = a ↔ b &&& m = a &&& m := by
  constructor
  · intro h
    rw [← h]
    apply UInt8.eq_of_toBitVec_eq
    apply BitVec.eq_of_getLsbD_eq
    intro q hq
    simp only [UInt8.toBitVec_and, BitVec.getLsbD_and, getLsbD_merge m a b hq]
    cases m.toBitVec.getLsbD q <;> simp
  · intro h
    apply UInt8.eq_of_toBitVec_eq
    apply BitVec.eq_of_getLsbD_eq
    intro q hq
    have hbit := congrArg (fun c => c.toBitVec.getLsbD q) h
    simp only [UInt8.toBitVec_and, BitVec.getLsbD_and] at hbit
    rw [getLsbD_merge m a b hq]
    cases hm : m.toBitVec.getLsbD q with
    | true => simpa [hm] using hbit
    | false => rfl

theorem merge_eq_iff {n : Nat} (bytes : Nat) (mask old new : Vector UInt8 n) :
    merge bytes mask old new = old ↔
      ∀ (k : Nat) (hk : k < n), k < bytes → new[k] &&& mask[k] = old[k] &&& mask[k] := by
  unfold merge
  constructor
  · intro h k hk hb
    have hbyte := congrArg (fun v : Vector UInt8 n => v[k]) h
    simp only [Vector.getElem_ofFn, hb, if_true] at hbyte
    exact (merge_byte_eq_iff _ _ _).mp hbyte
  · intro h
    apply Vector.ext
    intro k hk
    rw [Vector.getElem_ofFn]
    split
    · next hb => exact (merge_byte_eq_iff _ _ _).mpr (h k hk hb)
    · rfl

theorem copy_eq_iff {n : Nat} (bytes : Nat) (old new : Vector UInt8 n) :
    copy bytes old new = old ↔ ∀ (k : Nat) (hk : k < n), k < bytes → new[k] = old[k] := by
  unfold copy
  constructor
  · intro h k hk hb
    have hbyte := congrArg (fun v : Vector UInt8 n => v[k]) h
    simp only [Vector.getElem_ofFn, hb, if_true] at hbyte
    exact hbyte
  · intro h
    apply Vector.ext
    intro k hk
    rw [Vector.getElem_ofFn]
    split
    · next hb => exact h k hk hb
    · rfl

end BitAccess
