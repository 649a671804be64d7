import Mathlib.Logic.Basic

/-! # The Serial Port

  `libserialport` and the clocks, as operations on a world of any type `W`.
  A world decides everything the host cannot: how much of a write goes out,
  which bytes arrive and in which portions, and when time runs out.

  A loop that runs until a deadline is given the number of its rounds by
  `window`: the world chooses it, so a deadline may pass at any time, and
  every loop ends.
-/

namespace LibPpuc

/-- Operations of the port and of the clocks on a world `W`. -/
structure SerialPort (W : Type) where
  /-- `sp_blocking_write`: the number of bytes written, negative on error. -/
  write : List UInt8 → W → Int × W
  /-- `sp_last_error_message`. -/
  lastErrorMessage : W → Option String
  /-- `sp_blocking_read` of at most `n` bytes; nothing on timeout or error. -/
  read : Nat → W → List UInt8 × W
  /-- A read never returns more than was asked for. -/
  read_le : ∀ n w, (read n w).1.length ≤ n
  /-- `sp_input_waiting`. -/
  inputWaiting : W → Int × W
  /-- `sp_flush(SP_BUF_INPUT)`. -/
  flushInput : W → W
  /-- `std::this_thread::sleep_for`, in microseconds. -/
  sleepUs : Nat → W → W
  /-- How many rounds a polling loop that starts now gets before its deadline,
      given in microseconds. -/
  window : Nat → W → Nat
  /-- The steady clock, in milliseconds. -/
  steadyMs : W → Nat
  /-- The wall clock, in milliseconds. -/
  wallMs : W → Int

namespace SerialPort

variable {W : Type} (port : SerialPort W)

/-- The loop of `readExact`: `fuel` bounds the rounds, each of which reads at
    least one of the `need` missing bytes. -/
def readExactLoop : Nat → Nat → W → Option (List UInt8) × W
  | _, 0, w => (some [], w)
  | 0, _ + 1, w => (none, w)
  | fuel + 1, need + 1, w =>
    match port.read (need + 1) w with
    | ([], w') => (none, w')
    | (b :: bs, w') =>
      match readExactLoop fuel (need + 1 - (b :: bs).length) w' with
      | (some rest, w'') => (some (b :: bs ++ rest), w'')
      | (none, w'') => (none, w'')

/-- `readExact`: read until `bytes` bytes are there; a read that returns
    nothing gives up, and the bytes read so far are lost. -/
def readExact (bytes : Nat) (w : W) : Option (List UInt8) × W :=
  port.readExactLoop bytes bytes w

/-- A complete `readExactLoop` returns as many bytes as were missing. -/
theorem readExactLoop_length {fuel need : Nat} {w w' : W} {bs : List UInt8}
    (h : port.readExactLoop fuel need w = (some bs, w')) : bs.length = need := by
  induction fuel generalizing need w w' bs with
  | zero =>
    cases need with
    | zero =>
      simp only [readExactLoop, Prod.mk.injEq, Option.some.injEq] at h
      simp [← h.1]
    | succ need => simp [readExactLoop] at h
  | succ fuel ih =>
    cases need with
    | zero =>
      simp only [readExactLoop, Prod.mk.injEq, Option.some.injEq] at h
      simp [← h.1]
    | succ need =>
      unfold readExactLoop at h
      split at h
      · simp at h
      · next b cs w₁ hread =>
        have hle : (b :: cs).length ≤ need + 1 := by
          simpa [hread] using port.read_le (need + 1) w
        split at h
        · next rest w₂ hrest =>
          have hlen := ih hrest
          simp only [Prod.mk.injEq, Option.some.injEq] at h
          rw [← h.1, List.length_append, hlen]
          omega
        · simp at h

theorem readExact_length {bytes : Nat} {w w' : W} {bs : List UInt8}
    (h : port.readExact bytes w = (some bs, w')) : bs.length = bytes :=
  port.readExactLoop_length h

/-! ### What Arrives -/

/-- These bytes arrive, in portions of any size: a read that asks for no more
    than is left gets some of it. -/
inductive Delivers : List UInt8 → W → Prop
  | intro {bytes : List UInt8} {w : W}
    (hread : ∀ n, 0 < n → n ≤ bytes.length →
      (port.read n w).1 ≠ [] ∧ (port.read n w).1 <+: bytes)
    (hrest : ∀ n, 0 < n → n ≤ bytes.length →
      Delivers (bytes.drop (port.read n w).1.length) (port.read n w).2) : Delivers bytes w

/-- After some silence, within the given number of rounds, these bytes
    arrive. -/
inductive Answers (bytes : List UInt8) : Nat → W → Prop
  | silent {rounds : Nat} {w : W} (hnothing : (port.read 1 w).1 = [])
    (hlater : Answers bytes rounds (port.read 1 w).2) : Answers bytes (rounds + 1) w
  | speaks {rounds : Nat} {w : W} (hbytes : port.Delivers bytes w) : Answers bytes (rounds + 1) w

/-- `R` says which bytes are there: a read that asks for no more than these
    gets some of them, and `R` says so of the others. -/
def Supplies (R : List UInt8 → W → Prop) : Prop :=
  ∀ bytes w, R bytes w → ∀ n, 0 < n → n ≤ bytes.length →
    (port.read n w).1 ≠ [] ∧ (port.read n w).1 <+: bytes ∧
      R (bytes.drop (port.read n w).1.length) (port.read n w).2

theorem delivers_supplies : port.Supplies port.Delivers := by
  rintro bytes w ⟨hread, hrest⟩ n hpos hn
  exact ⟨(hread n hpos hn).1, (hread n hpos hn).2, hrest n hpos hn⟩

section supplies

variable {R : List UInt8 → W → Prop}

/-- A read of one byte gets the first one. -/
theorem read_one_of_supplies (hR : port.Supplies R) {b : UInt8} {bytes : List UInt8} {w : W}
    (h : R (b :: bytes) w) :
    (port.read 1 w).1 = [b] ∧ R bytes (port.read 1 w).2 := by
  obtain ⟨hsome, ⟨later, heq⟩, hrest⟩ := hR _ w h 1 Nat.one_pos (by simp)
  have hle := port.read_le 1 w
  generalize port.read 1 w = got at hsome heq hrest hle ⊢
  obtain ⟨first, w'⟩ := got
  obtain ⟨c, more, rfl⟩ := List.exists_cons_of_ne_nil hsome
  obtain rfl : more = [] := by
    rw [List.length_cons] at hle
    exact List.length_eq_zero_iff.mp (by omega)
  obtain ⟨rfl, rfl⟩ := List.cons.inj heq
  exact ⟨rfl, hrest⟩

/-- `readExact` puts the portions together. -/
theorem readExactLoop_of_supplies (hR : port.Supplies R) {fuel need : Nat} {bytes : List UInt8}
    {w : W} (hfuel : need ≤ fuel) (hneed : need ≤ bytes.length) (h : R bytes w) :
    ∃ w', port.readExactLoop fuel need w = (some (bytes.take need), w') ∧
      R (bytes.drop need) w' := by
  induction fuel generalizing need bytes w with
  | zero =>
    obtain rfl : need = 0 := Nat.le_zero.mp hfuel
    exact ⟨w, by simp [readExactLoop], by simpa using h⟩
  | succ fuel ih =>
    cases need with
    | zero => exact ⟨w, by simp [readExactLoop], by simpa using h⟩
    | succ need =>
      obtain ⟨hsome, ⟨portion, rfl⟩, hlater⟩ := hR bytes w h (need + 1) (Nat.succ_pos need) hneed
      have hle := port.read_le (need + 1) w
      -- name what the read returns
      generalize hgot : port.read (need + 1) w = got at hsome hlater hle hneed ⊢
      obtain ⟨first, w₁⟩ := got
      dsimp only at hsome hlater hle hneed ⊢
      rw [List.drop_left] at hlater
      obtain ⟨b, bs, rfl⟩ := List.exists_cons_of_ne_nil hsome
      rw [List.length_append] at hneed
      have hshort : need + 1 - (b :: bs).length ≤ fuel := by
        rw [List.length_cons]
        omega
      have hleft : need + 1 - (b :: bs).length ≤ portion.length := by omega
      obtain ⟨w', hloop, hrest⟩ := ih hshort hleft hlater
      have htake : (b :: bs ++ portion).take (need + 1) =
          b :: bs ++ portion.take (need + 1 - (b :: bs).length) := by
        rw [List.take_append, List.take_of_length_le hle]
      have hdrop : (b :: bs ++ portion).drop (need + 1) =
          portion.drop (need + 1 - (b :: bs).length) := by
        rw [List.drop_append, List.drop_of_length_le hle, List.nil_append]
      refine ⟨w', ?_, ?_⟩
      · unfold readExactLoop
        rw [hgot, htake]
        dsimp only
        rw [hloop]
      · rw [hdrop]
        exact hrest

theorem readExact_of_supplies (hR : port.Supplies R) {need : Nat} {bytes : List UInt8} {w : W}
    (hneed : need ≤ bytes.length) (h : R bytes w) :
    ∃ w', port.readExact need w = (some (bytes.take need), w') ∧ R (bytes.drop need) w' :=
  port.readExactLoop_of_supplies hR (Nat.le_refl need) hneed h

/-- `readExact` of the bytes that come first. -/
theorem readExact_append_of_supplies (hR : port.Supplies R) {first rest : List UInt8} {w : W}
    {n : Nat} (hn : first.length = n) (h : R (first ++ rest) w) :
    ∃ w', port.readExact n w = (some first, w') ∧ R rest w' := by
  subst hn
  have hfits : first.length ≤ (first ++ rest).length := by
    rw [List.length_append]
    omega
  obtain ⟨w', hread, hrest⟩ := port.readExact_of_supplies hR hfits h
  rw [List.take_left] at hread
  rw [List.drop_left] at hrest
  exact ⟨w', hread, hrest⟩

end supplies

/-- `R idle` says which bytes are there, and that at most `idle` polls of the
    input will not see them. -/
structure Feed (R : Nat → List UInt8 → W → Prop) : Prop where
  supplies : ∀ idle, port.Supplies (R idle)
  poll : ∀ idle bytes w, R idle bytes w → bytes ≠ [] →
    (0 < (port.inputWaiting w).1 ∧ R idle bytes (port.inputWaiting w).2) ∨
      ((port.inputWaiting w).1 ≤ 0 ∧
        ∃ less, idle = less + 1 ∧ R less bytes (port.inputWaiting w).2)

/-! ### Recording the Writes -/

/-- The same port in a world that also remembers the buffers handed to
    `sp_blocking_write`. -/
def recording : SerialPort (W × List (List UInt8)) where
  write buffer w := ((port.write buffer w.1).1, (port.write buffer w.1).2, w.2 ++ [buffer])
  lastErrorMessage w := port.lastErrorMessage w.1
  read n w := ((port.read n w.1).1, (port.read n w.1).2, w.2)
  read_le n w := port.read_le n w.1
  inputWaiting w := ((port.inputWaiting w.1).1, (port.inputWaiting w.1).2, w.2)
  flushInput w := (port.flushInput w.1, w.2)
  sleepUs us w := (port.sleepUs us w.1, w.2)
  window us w := port.window us w.1
  steadyMs w := port.steadyMs w.1
  wallMs w := port.wallMs w.1

/-- Reading writes nothing. -/
theorem readExact_recording (bytes : Nat) (w : W × List (List UInt8)) :
    (port.recording.readExact bytes w).2.2 = w.2 := by
  have hloop : ∀ (fuel need : Nat) (w : W × List (List UInt8)),
      (port.recording.readExactLoop fuel need w).2.2 = w.2 := by
    intro fuel
    induction fuel with
    | zero => intro need w; cases need <;> rfl
    | succ fuel ih =>
      intro need w
      cases need with
      | zero => rfl
      | succ need =>
        have hread : (port.recording.read (need + 1) w).2.2 = w.2 := rfl
        unfold readExactLoop
        split
        · next heq =>
          rw [heq] at hread
          exact hread
        · next b bs w₁ heq =>
          rw [heq] at hread
          have hrest := ih (need + 1 - (b :: bs).length) w₁
          split <;>
          · next heq' =>
            rw [heq'] at hrest
            exact hrest.trans hread
  exact hloop bytes bytes w

end SerialPort

end LibPpuc
