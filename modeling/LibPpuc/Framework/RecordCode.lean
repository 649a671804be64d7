import Mathlib.Data.List.Basic

/-! # Streams of Records

  A writer puts records one after the other on a stream, with no mark between
  them.  A reader takes one record off the front of a stream, or refuses it.

  - The stream rule: if the reader takes each of the records off every stream
    that begins with it, then it reads the whole stream back.
  - The recipient rule: if all of a record is for one recipient, then what a
    recipient gets of a stream is the stream of the recipient's records.
-/

namespace RecordCode

universe u v

variable {α : Type u} {β : Type v} {write : α → List β} {read : List β → Option (α × List β)}

/-- The reader takes the record `r` off every stream that begins with it. -/
structure Reads (write : α → List β) (read : List β → Option (α × List β)) (r : α) : Prop where
  notEmpty : write r ≠ []
  takes : ∀ rest, read (write r ++ rest) = some (r, rest)

/-- Up to `n` records off a stream that has to end behind them. -/
def readUpTo (read : List β → Option (α × List β)) : Nat → List β → Option (List α)
  | _, [] => some []
  | 0, _ :: _ => none
  | n + 1, b :: stream =>
    match read (b :: stream) with
    | none => none
    | some (r, rest) => (readUpTo read n rest).map fun records => r :: records

/-- All records of a stream; one is not shorter than one entry. -/
def readAll (read : List β → Option (α × List β)) (stream : List β) : Option (List α) :=
  readUpTo read stream.length stream

theorem readUpTo_flatMap {records : List α} (h : ∀ r ∈ records, Reads write read r) {n : Nat}
    (hn : (records.flatMap write).length ≤ n) :
    readUpTo read n (records.flatMap write) = some records := by
  induction records generalizing n with
  | nil => cases n <;> rfl
  | cons r records ih =>
    obtain ⟨hr, hrecords⟩ := List.forall_mem_cons.mp h
    have htakes := hr.takes (records.flatMap write)
    rw [List.flatMap_cons, List.length_append] at hn
    rw [List.flatMap_cons]
    cases hwrite : write r with
    | nil => exact absurd hwrite hr.notEmpty
    | cons b bs =>
      rw [hwrite] at htakes hn
      cases n with
      | zero => simp at hn
      | succ n =>
        have hlater : (records.flatMap write).length ≤ n := by
          simp only [List.length_cons] at hn
          omega
        show (match read (b :: (bs ++ records.flatMap write)) with
          | none => none
          | some (r, rest) => (readUpTo read n rest).map fun records => r :: records) = _
        rw [show read (b :: (bs ++ records.flatMap write)) = some (r, records.flatMap write)
          from htakes]
        show (readUpTo read n (records.flatMap write)).map _ = _
        rw [ih hrecords hlater]
        rfl

/-- **Stream rule**: what was written is read back. -/
theorem readAll_flatMap {records : List α} (h : ∀ r ∈ records, Reads write read r) :
    readAll read (records.flatMap write) = some records :=
  readUpTo_flatMap h (Nat.le_refl _)

/-- **Recipient rule**: what a recipient gets of a stream. -/
theorem filter_flatMap {records : List α} {forRecord : α → Bool} {forEntry : β → Bool}
    (h : ∀ r ∈ records, ∀ b ∈ write r, forEntry b = forRecord r) :
    (records.flatMap write).filter forEntry = (records.filter forRecord).flatMap write := by
  induction records with
  | nil => rfl
  | cons r records ih =>
    obtain ⟨hr, hrecords⟩ := List.forall_mem_cons.mp h
    rw [List.flatMap_cons, List.filter_append, ih hrecords, List.filter_cons]
    cases hfor : forRecord r with
    | true =>
      rw [List.filter_eq_self.mpr fun b hb => (hr b hb).trans hfor]
      simp
    | false =>
      rw [List.filter_eq_nil_iff.mpr fun b hb => by rw [hr b hb, hfor]; simp]
      simp

end RecordCode
