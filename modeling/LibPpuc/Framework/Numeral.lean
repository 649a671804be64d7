import Mathlib.Data.List.TakeWhile

/-! # Decimal Numerals in C

  `strtol` with base 10 in the "C" locale: white space, at most one sign, then
  digits up to the first other character.  A value that a `long` cannot hold
  is cut to the nearest one that it can.

  A text without a rest is a `Numeral`.  `strtol_eq_iff` says that the numerals
  of a number that a `long` holds are the texts which `strtol` reads as that
  number with nothing behind it.
-/

namespace Numeral

/-- `isspace`. -/
def isspace (c : Char) : Bool := [' ', '\t', '\n', '\x0b', '\x0c', '\r'].contains c

/-- The sign, `true` for a minus, and what is behind it. -/
def takeSign : List Char → Bool × List Char
  | '-' :: text => (true, text)
  | '+' :: text => (false, text)
  | text => (false, text)

/-- What the digits stand for. -/
def value (negative : Bool) (digits : List Char) : Int :=
  if negative then -(Nat.ofDigitChars 10 digits 0 : Int) else Nat.ofDigitChars 10 digits 0

/-- The nearest `long`. -/
def toLong (LONG_MAX : Nat) (n : Int) : Int := max (-(LONG_MAX : Int) - 1) (min LONG_MAX n)

/-- `strtol(text, &end, 10)`: the number and the text from `end` on.  Without
    a digit there is no conversion. -/
def strtol (LONG_MAX : Nat) (text : List Char) : Option (Int × List Char) :=
  let (negative, text) := takeSign (text.dropWhile isspace)
  let digits := text.takeWhile Char.isDigit
  if digits = [] then none
  else some (toLong LONG_MAX (value negative digits), text.dropWhile Char.isDigit)

/-- The text is white space, a sign or none, and digits. -/
def IsNumeral (text : List Char) (n : Int) : Prop :=
  ∃ spaces sign digits, text = spaces ++ (sign ++ digits) ∧ (∀ c ∈ spaces, isspace c = true) ∧
    sign ∈ [[], ['+'], ['-']] ∧ digits ≠ [] ∧ (∀ c ∈ digits, c.isDigit = true) ∧
    n = value (sign = ['-']) digits

variable {LONG_MAX : Nat} {text : List Char} {n : Int}

theorem isspace_of_isDigit {c : Char} (h : c.isDigit = true) : isspace c = false := by
  rw [Bool.eq_false_iff]
  intro hspace
  simp only [isspace, List.contains_eq_mem, decide_eq_true_eq, List.mem_cons, List.not_mem_nil,
    or_false] at hspace
  rcases hspace with rfl | rfl | rfl | rfl | rfl | rfl <;> simp at h

/-- Text that begins with a digit has no sign. -/
theorem takeSign_of_isDigit {c : Char} (h : c.isDigit = true) (text : List Char) :
    takeSign (c :: text) = (false, c :: text) := by
  unfold takeSign
  split
  · next heq =>
    obtain ⟨rfl, -⟩ := List.cons.inj heq
    simp at h
  · next heq =>
    obtain ⟨rfl, -⟩ := List.cons.inj heq
    simp at h
  · rfl

/-- A sign in front of digits. -/
theorem takeSign_append {sign digits : List Char} (hsign : sign ∈ [[], ['+'], ['-']])
    (hne : digits ≠ []) (hdigits : ∀ c ∈ digits, c.isDigit = true) :
    takeSign (sign ++ digits) = (decide (sign = ['-']), digits) ∧
      (sign ++ digits).dropWhile isspace = sign ++ digits := by
  obtain ⟨c, digits, rfl⟩ := List.exists_cons_of_ne_nil hne
  have hc := hdigits c List.mem_cons_self
  simp only [List.mem_cons, List.not_mem_nil, or_false] at hsign
  rcases hsign with rfl | rfl | rfl
  · exact ⟨takeSign_of_isDigit hc digits, by simp [isspace_of_isDigit hc]⟩
  · exact ⟨rfl, by simp [isspace]⟩
  · exact ⟨rfl, by simp [isspace]⟩

/-- Every text has a sign or none. -/
theorem takeSign_spec (text : List Char) :
    ∃ sign ∈ ([[], ['+'], ['-']] : List (List Char)), text = sign ++ (takeSign text).2 ∧
      (takeSign text).1 = decide (sign = ['-']) := by
  unfold takeSign
  split
  · exact ⟨['-'], by simp, rfl, rfl⟩
  · exact ⟨['+'], by simp, rfl, rfl⟩
  · exact ⟨[], by simp, rfl, rfl⟩

theorem toLong_eq_iff (hlow : -(LONG_MAX : Int) - 1 < n) (hhigh : n < LONG_MAX) {m : Int} :
    toLong LONG_MAX m = n ↔ m = n := by
  unfold toLong
  omega

/-- **Numerals**: what `strtol` reads as a number, with nothing behind it. -/
theorem strtol_eq_iff (LONG_MAX : Nat) (hlow : -(LONG_MAX : Int) - 1 < n) (hhigh : n < LONG_MAX) :
    strtol LONG_MAX text = some (n, []) ↔ IsNumeral text n := by
  constructor
  · intro h
    obtain ⟨sign, hsign, htext, hminus⟩ := takeSign_spec (text.dropWhile isspace)
    simp only [strtol] at h
    split at h
    · simp at h
    · next hne =>
      simp only [Option.some.injEq, Prod.mk.injEq, toLong_eq_iff hlow hhigh] at h
      obtain ⟨hvalue, hrest⟩ := h
      have hdigits := List.takeWhile_append_dropWhile (p := Char.isDigit)
        (l := (takeSign (text.dropWhile isspace)).2)
      rw [hrest, List.append_nil] at hdigits
      rw [hdigits] at hne hvalue
      refine ⟨text.takeWhile isspace, sign, (takeSign (text.dropWhile isspace)).2, ?_, ?_, hsign,
        hne, ?_, ?_⟩
      · rw [← htext, List.takeWhile_append_dropWhile]
      · exact fun c hc => List.mem_takeWhile_imp hc
      · rw [← hdigits]
        exact fun c hc => List.mem_takeWhile_imp hc
      · rw [← hvalue, hminus]
  · rintro ⟨spaces, sign, digits, rfl, hspaces, hsign, hne, hdigits, hvalue⟩
    obtain ⟨htake, hdrop⟩ := takeSign_append hsign hne hdigits
    have hall : digits.takeWhile Char.isDigit = digits := List.takeWhile_eq_self_iff.mpr hdigits
    have hnone : digits.dropWhile Char.isDigit = [] := List.dropWhile_eq_nil_iff.mpr hdigits
    simp only [strtol, List.dropWhile_append_of_pos hspaces, hdrop, htake, hall, hnone,
      if_neg hne, ← hvalue, (toLong_eq_iff hlow hhigh).mpr rfl]

theorem not_isNumeral_nil : ¬ IsNumeral [] n := by
  rintro ⟨spaces, sign, digits, htext, -, -, hne, -⟩
  simp_all

/-- **Round trip**: the decimal digits of a number are a numeral of it. -/
theorem isNumeral_toDigits (m : Nat) : IsNumeral (Nat.toDigits 10 m) m := by
  refine ⟨[], [], Nat.toDigits 10 m, rfl, by simp, by simp, ?_, ?_, ?_⟩
  · exact Nat.toDigits_ne_nil
  · exact fun c hc => Nat.isDigit_of_mem_toDigits (by omega) (by omega) hc
  · simp [value, Nat.ofDigitChars_ten_toDigits]

/-- A text is a numeral of one number at most. -/
theorem IsNumeral.unique {m : Int} (hn : IsNumeral text n) (hm : IsNumeral text m) : n = m := by
  -- read it with a `long` that holds both numbers
  have hread := (strtol_eq_iff (n.natAbs + m.natAbs + 1) (by omega) (by omega)).mpr hn
  have hread' := (strtol_eq_iff (n.natAbs + m.natAbs + 1) (by omega) (by omega)).mpr hm
  simpa using hread.symm.trans hread'

end Numeral
