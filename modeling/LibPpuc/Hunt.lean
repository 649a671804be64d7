import LibPpuc.Serial

/-! # Hunting for a Sync Byte

  Two readers of the bus look for a frame in the same way: they read byte by
  byte up to a sync byte, take a block of fixed length from there, and look
  what it is.  Where they go on from depends on what comes before, since a
  block that is no good is gone as a whole.

  - `hunt`: the loop, for any length of the blocks and any use of them.
  - `Skipped`: bytes that the loop passes over and ends up right behind.
  - `hunt_of_skipped`: it does so in any world that has the bytes, whatever
    the portions.
  - `hunt_arrived`: where everything has arrived, what comes before a find
    was skipped.
  - `hunt_recordingReads`: a find was read as a whole, in any world.
-/

namespace LibPpuc

/-- Bytes that fall into single bytes other than the sync byte, and blocks of
    a sync byte and `tail` more bytes that are passed over. -/
inductive Skipped (sync : UInt8) (tail : Nat) (passed : List UInt8 → Prop) : List UInt8 → Prop
  | nil : Skipped sync tail passed []
  | byte {b : UInt8} {bytes : List UInt8} (hb : b ≠ sync) (hrest : Skipped sync tail passed bytes) :
    Skipped sync tail passed (b :: bytes)
  | block {rest bytes : List UInt8} (hlength : rest.length = tail)
    (hpassed : passed (sync :: rest)) (hrest : Skipped sync tail passed bytes) :
    Skipped sync tail passed (sync :: rest ++ bytes)

namespace Skipped

variable {sync : UInt8} {tail : Nat} {passed passed' : List UInt8 → Prop}

theorem append {bytes bytes' : List UInt8} (h : Skipped sync tail passed bytes)
    (h' : Skipped sync tail passed bytes') : Skipped sync tail passed (bytes ++ bytes') := by
  induction h with
  | nil => exact h'
  | byte hb _ ih => exact .byte hb ih
  | block hlength hpassed _ ih =>
    rw [List.append_assoc]
    exact .block hlength hpassed ih

theorem mono (hmono : ∀ block, passed block → passed' block) {bytes : List UInt8}
    (h : Skipped sync tail passed bytes) : Skipped sync tail passed' bytes := by
  induction h with
  | nil => exact .nil
  | byte hb _ ih => exact .byte hb ih
  | block hlength hpassed _ ih => exact .block hlength (hmono _ hpassed) ih

/-- Bytes without a sync byte. -/
theorem of_not_mem {bytes : List UInt8} (h : sync ∉ bytes) : Skipped sync tail passed bytes := by
  induction bytes with
  | nil => exact .nil
  | cons b bytes ih =>
    rw [List.mem_cons, not_or] at h
    obtain ⟨hb, hrest⟩ := h
    exact .byte (Ne.symm hb) (ih hrest)

end Skipped

namespace SerialPort

variable {W : Type} (port : SerialPort W) {α : Type}

/-- One round: `found` is what becomes of a block. -/
def huntRound (sync : UInt8) (tail : Nat) (found : List UInt8 → W → Option α × W) (w : W) :
    Option α × W :=
  match port.read 1 w with
  | ([], w) => (none, w)
  | (byte :: _, w) =>
    if byte ≠ sync then (none, w)
    else
      match port.readExact tail w with
      | (none, w) => (none, w)
      | (some rest, w) => found (byte :: rest) w

/-- Rounds up to the first find. -/
def hunt (sync : UInt8) (tail : Nat) (found : List UInt8 → W → Option α × W) :
    Nat → W → Option α × W
  | 0, w => (none, w)
  | rounds + 1, w =>
    match port.huntRound sync tail found w with
    | (some a, w) => (some a, w)
    | (none, w) => hunt sync tail found rounds w

/-- So many reads of one byte get nothing, and end in `w'`. -/
def Silent : Nat → W → W → Prop
  | 0, w, w' => w = w'
  | silence + 1, w, w' => (port.read 1 w).1 = [] ∧ Silent silence (port.read 1 w).2 w'

section supplies

variable {port} {sync : UInt8} {tail : Nat} {found : List UInt8 → W → Option α × W}
  {R : List UInt8 → W → Prop}

theorem hunt_of_silent {silence : Nat} {w w' : W} (h : port.Silent silence w w') (rounds : Nat) :
    port.hunt sync tail found (silence + rounds) w = port.hunt sync tail found rounds w' := by
  induction silence generalizing w with
  | zero =>
    obtain rfl : w = w' := h
    rw [Nat.zero_add]
  | succ silence ih =>
    obtain ⟨hnothing, hlater⟩ := h
    have hround : port.huntRound sync tail found w = (none, (port.read 1 w).2) := by
      unfold huntRound
      generalize port.read 1 w = got at hnothing
      obtain ⟨first, w₁⟩ := got
      obtain rfl : first = [] := hnothing
      rfl
    rw [Nat.add_right_comm, hunt, hround]
    exact ih hlater

/-- A round that finds another byte. -/
theorem huntRound_byte (hR : port.Supplies R) (tail : Nat)
    (found : List UInt8 → W → Option α × W) {b : UInt8} (hb : b ≠ sync) {bytes : List UInt8}
    {w : W} (h : R (b :: bytes) w) :
    ∃ w', port.huntRound sync tail found w = (none, w') ∧ R bytes w' := by
  obtain ⟨hread, hrest⟩ := port.read_one_of_supplies hR h
  refine ⟨_, ?_, hrest⟩
  unfold huntRound
  generalize port.read 1 w = got at hread
  obtain ⟨first, w₁⟩ := got
  obtain rfl : first = [b] := hread
  dsimp only
  rw [if_pos hb]

/-- A round that reads a block. -/
theorem huntRound_block (hR : port.Supplies R) (found : List UInt8 → W → Option α × W)
    {rest bytes : List UInt8} (hlength : rest.length = tail) {w : W}
    (h : R (sync :: rest ++ bytes) w) :
    ∃ w', port.huntRound sync tail found w = found (sync :: rest) w' ∧ R bytes w' := by
  obtain ⟨hread, hlater⟩ := port.read_one_of_supplies hR h
  obtain ⟨w', hexact, hbytes⟩ := port.readExact_append_of_supplies hR hlength hlater
  refine ⟨w', ?_, hbytes⟩
  unfold huntRound
  generalize port.read 1 w = got at hread hexact
  obtain ⟨first, w₁⟩ := got
  obtain rfl : first = [sync] := hread
  dsimp only at hexact ⊢
  rw [if_neg (by simp), hexact]

/-- **Skipped bytes**: the hunt goes on right behind them. -/
theorem hunt_of_skipped (hR : port.Supplies R) {passed : List UInt8 → Prop}
    (hpassed : ∀ block w, passed block → found block w = (none, w)) {noise : List UInt8}
    (hskipped : Skipped sync tail passed noise) {rest : List UInt8} {w : W}
    (h : R (noise ++ rest) w) {rounds : Nat} (hrounds : noise.length ≤ rounds) :
    ∃ later w', rounds ≤ later + noise.length ∧ R rest w' ∧
      port.hunt sync tail found rounds w = port.hunt sync tail found later w' := by
  induction hskipped generalizing w rounds with
  | nil => exact ⟨rounds, w, Nat.le_refl _, h, rfl⟩
  | @byte b bytes hb hrest ih =>
    rw [List.length_cons] at hrounds ⊢
    obtain ⟨n, rfl⟩ : ∃ n, rounds = n + 1 := ⟨rounds - 1, by omega⟩
    obtain ⟨w₁, hround, hbytes⟩ := huntRound_byte hR tail found hb h
    obtain ⟨later, w', hlater, hdone, hhunt⟩ := ih hbytes (Nat.le_of_succ_le_succ hrounds)
    refine ⟨later, w', by omega, hdone, ?_⟩
    rw [hunt, hround]
    exact hhunt
  | @block block bytes hlength hblock hrest ih =>
    rw [List.length_append, List.length_cons] at hrounds ⊢
    obtain ⟨n, rfl⟩ : ∃ n, rounds = n + 1 := ⟨rounds - 1, by omega⟩
    have hn : bytes.length ≤ n := by omega
    rw [List.append_assoc] at h
    obtain ⟨w₁, hround, hbytes⟩ := huntRound_block hR found hlength h
    obtain ⟨later, w', hlater, hdone, hhunt⟩ := ih hbytes hn
    refine ⟨later, w', by omega, hdone, ?_⟩
    rw [hunt, hround, hpassed _ _ hblock]
    exact hhunt

end supplies

/-! ### Everything Has Arrived -/

/-- The port of a world in which all bytes have arrived: it is the bytes that
    are left. -/
def arrived : SerialPort (List UInt8) where
  write buffer bytes := (buffer.length, bytes)
  lastErrorMessage _ := none
  read n bytes := (bytes.take n, bytes.drop n)
  read_le n bytes := by
    rw [List.length_take]
    exact Nat.min_le_left n bytes.length
  inputWaiting bytes := (bytes.length, bytes)
  flushInput bytes := bytes
  sleepUs _ bytes := bytes
  window _ bytes := bytes.length
  steadyMs _ := 0
  wallMs _ := 0

/-- The bytes that are left are those that reads get. -/
theorem arrived_supplies : arrived.Supplies Eq := by
  rintro bytes _ rfl n hpos hn
  refine ⟨?_, List.take_prefix n bytes, ?_⟩
  · intro hnone
    have hzero : (bytes.take n).length = 0 := by rw [show bytes.take n = [] from hnone]; rfl
    rw [List.length_take] at hzero
    omega
  · show bytes.drop (bytes.take n).length = bytes.drop n
    rw [List.length_take, Nat.min_eq_left hn]

/-- `readExact` gets what it asks for, or loses all that is left. -/
theorem readExact_arrived (n : Nat) (bytes : List UInt8) :
    arrived.readExact n bytes =
      if n ≤ bytes.length then (some (bytes.take n), bytes.drop n) else (none, []) := by
  have hempty : ∀ fuel need, arrived.readExactLoop fuel (need + 1) [] = (none, []) := by
    intro fuel need
    cases fuel with
    | zero => rfl
    | succ fuel => rfl
  split
  · next hfits =>
    obtain ⟨_, hread, rfl⟩ := arrived.readExact_of_supplies arrived_supplies hfits rfl
    exact hread
  · next hshort =>
    obtain ⟨n, rfl⟩ : ∃ m, n = m + 1 := ⟨n - 1, by omega⟩
    cases bytes with
    | nil => exact hempty _ n
    | cons b bytes =>
      rw [List.length_cons] at hshort
      obtain ⟨missing, hmissing⟩ : ∃ m, n + 1 - (b :: bytes).length = m + 1 := by
        refine ⟨n - (b :: bytes).length, ?_⟩
        rw [List.length_cons]
        omega
      have hread : arrived.read (n + 1) (b :: bytes) = (b :: bytes, []) := by
        show ((b :: bytes).take (n + 1), (b :: bytes).drop (n + 1)) = _
        have hall : (b :: bytes).length ≤ n + 1 := by
          rw [List.length_cons]
          omega
        rw [List.take_of_length_le hall, List.drop_of_length_le hall]
      unfold readExact readExactLoop
      rw [hread]
      dsimp only
      rw [hmissing, hempty]

/-- **Where everything has arrived**, what comes before a find was skipped. -/
theorem hunt_arrived {sync : UInt8} {tail : Nat}
    {found : List UInt8 → List UInt8 → Option α × List UInt8} {passed : List UInt8 → Prop}
    (hfound : ∀ block bytes, (found block bytes).1 = none →
      (passed block ∧ (found block bytes).2 = bytes) ∨ (found block bytes).2 = [])
    {rounds : Nat} {bytes later : List UInt8} {a : α}
    (h : arrived.hunt sync tail found rounds bytes = (some a, later)) :
    ∃ skipped rest after, bytes = skipped ++ (sync :: rest ++ after) ∧ rest.length = tail ∧
      Skipped sync tail passed skipped ∧ found (sync :: rest) after = (some a, later) := by
  -- nothing is found in nothing
  have hempty : ∀ rounds, arrived.hunt sync tail found rounds [] = (none, []) := by
    intro rounds
    induction rounds with
    | zero => rfl
    | succ rounds ih => exact ih
  induction rounds generalizing bytes with
  | zero => simp [hunt] at h
  | succ rounds ih =>
    cases bytes with
    | nil =>
      rw [hempty] at h
      simp at h
    | cons b bytes =>
      have hread : arrived.read 1 (b :: bytes) = ([b], bytes) := rfl
      unfold hunt huntRound at h
      rw [hread] at h
      dsimp only at h
      by_cases hb : b = sync
      · subst hb
        rw [if_neg (by simp), readExact_arrived] at h
        by_cases hfits : tail ≤ bytes.length
        · rw [if_pos hfits] at h
          dsimp only at h
          have hlength : (bytes.take tail).length = tail := by
            rw [List.length_take, Nat.min_eq_left hfits]
          have hcases := hfound (b :: bytes.take tail) (bytes.drop tail)
          generalize hgot : found (b :: bytes.take tail) (bytes.drop tail) = got at h hcases
          obtain ⟨result, w₁⟩ := got
          cases result with
          | some a' =>
            refine ⟨[], bytes.take tail, bytes.drop tail, ?_, hlength, .nil, hgot.trans h⟩
            rw [List.nil_append, List.cons_append, List.take_append_drop]
          | none =>
            rcases hcases rfl with ⟨hpassed, hrest⟩ | hnone
            · obtain rfl : w₁ = bytes.drop tail := hrest
              obtain ⟨skipped, rest, after, heq, hrest, hskipped, hfind⟩ := ih h
              refine ⟨b :: bytes.take tail ++ skipped, rest, after, ?_, hrest,
                .block hlength hpassed hskipped, hfind⟩
              rw [List.append_assoc, ← heq, List.cons_append, List.take_append_drop]
            · obtain rfl : w₁ = [] := hnone
              dsimp only at h
              rw [hempty] at h
              simp at h
        · rw [if_neg hfits] at h
          dsimp only at h
          rw [hempty] at h
          simp at h
      · rw [if_pos hb] at h
        obtain ⟨skipped, rest, after, rfl, hrest, hskipped, hfind⟩ := ih h
        exact ⟨b :: skipped, rest, after, rfl, hrest, .byte hb hskipped, hfind⟩

/-! ### Recording the Reads -/

/-- The same port in a world that also remembers the bytes that were read. -/
def recordingReads : SerialPort (W × List UInt8) where
  write buffer w := ((port.write buffer w.1).1, (port.write buffer w.1).2, w.2)
  lastErrorMessage w := port.lastErrorMessage w.1
  read n w := ((port.read n w.1).1, (port.read n w.1).2, w.2 ++ (port.read n w.1).1)
  read_le n w := port.read_le n w.1
  inputWaiting w := ((port.inputWaiting w.1).1, (port.inputWaiting w.1).2, w.2)
  flushInput w := (port.flushInput w.1, w.2)
  sleepUs us w := (port.sleepUs us w.1, w.2)
  window us w := port.window us w.1
  steadyMs w := port.steadyMs w.1
  wallMs w := port.wallMs w.1

/-- What `readExact` returns is what it has read. -/
theorem readExact_recordingReads (bytes : Nat) (w : W × List UInt8) :
    ∃ got, (port.recordingReads.readExact bytes w).2.2 = w.2 ++ got ∧
      ∀ bs, (port.recordingReads.readExact bytes w).1 = some bs → got = bs := by
  have hloop : ∀ (fuel need : Nat) (w : W × List UInt8),
      ∃ got, (port.recordingReads.readExactLoop fuel need w).2.2 = w.2 ++ got ∧
        ∀ bs, (port.recordingReads.readExactLoop fuel need w).1 = some bs → got = bs := by
    intro fuel
    induction fuel with
    | zero =>
      intro need w
      cases need with
      | zero => exact ⟨[], by simp [readExactLoop], by simp [readExactLoop]⟩
      | succ need => exact ⟨[], by simp [readExactLoop], by simp [readExactLoop]⟩
    | succ fuel ih =>
      intro need w
      cases need with
      | zero => exact ⟨[], by simp [readExactLoop], by simp [readExactLoop]⟩
      | succ need =>
        have hlog : (port.recordingReads.read (need + 1) w).2.2 =
            w.2 ++ (port.recordingReads.read (need + 1) w).1 := rfl
        unfold readExactLoop
        generalize port.recordingReads.read (need + 1) w = first at hlog
        obtain ⟨first, w₁⟩ := first
        dsimp only at hlog
        cases first with
        | nil => exact ⟨[], hlog, by simp⟩
        | cons b bs =>
          dsimp only
          obtain ⟨more, hmore, hsame⟩ := ih (need + 1 - (b :: bs).length) w₁
          generalize port.recordingReads.readExactLoop fuel (need + 1 - (b :: bs).length) w₁ = rest
            at hmore hsame
          obtain ⟨rest, w₂⟩ := rest
          refine ⟨b :: bs ++ more, ?_, ?_⟩
          · cases rest <;> rw [← List.append_assoc, ← hlog] <;> exact hmore
          · cases rest with
            | none => simp
            | some rest =>
              rw [hsame rest rfl]
              simp
  exact hloop bytes bytes w

/-- **Round lemma**: a round that finds something has read just the block. -/
theorem huntRound_recordingReads (sync : UInt8) (tail : Nat) (accept : List UInt8 → Option α)
    (w : W × List UInt8) :
    let r := port.recordingReads.huntRound sync tail (fun block w => (accept block, w)) w
    ∃ got, r.2.2 = w.2 ++ got ∧ ∀ a, r.1 = some a →
      ∃ rest, got = sync :: rest ∧ rest.length = tail ∧ accept (sync :: rest) = some a := by
  have hlog : (port.recordingReads.read 1 w).2.2 = w.2 ++ (port.recordingReads.read 1 w).1 := rfl
  have hone := port.recordingReads.read_le 1 w
  dsimp only
  unfold huntRound
  generalize port.recordingReads.read 1 w = first at hlog hone
  obtain ⟨first, w₁⟩ := first
  dsimp only at hlog hone ⊢
  cases first with
  | nil => exact ⟨[], hlog, fun a ha => nomatch ha⟩
  | cons b bs =>
    obtain rfl : bs = [] := by
      rw [List.length_cons] at hone
      exact List.length_eq_zero_iff.mp (by omega)
    dsimp only
    by_cases hb : b = sync
    · subst hb
      rw [if_neg (by simp)]
      obtain ⟨got, hgot, hsame⟩ := port.readExact_recordingReads tail w₁
      have hlength : ∀ {bs w'}, port.recordingReads.readExact tail w₁ = (some bs, w') →
          bs.length = tail := port.recordingReads.readExact_length
      generalize port.recordingReads.readExact tail w₁ = second at hgot hsame hlength
      obtain ⟨second, w₂⟩ := second
      dsimp only at hgot hsame ⊢
      have hread : w₂.2 = w.2 ++ b :: got := by
        rw [hgot, hlog, List.append_assoc]
        rfl
      cases second with
      | none => exact ⟨b :: got, hread, fun a ha => nomatch ha⟩
      | some bs =>
        obtain rfl : got = bs := hsame bs rfl
        exact ⟨b :: got, hread, fun a ha => ⟨got, rfl, hlength rfl, ha⟩⟩
    · rw [if_pos hb]
      exact ⟨[b], hlog, fun a ha => nomatch ha⟩

/-- **A find was read as a whole**: its block is the last that was read. -/
theorem hunt_recordingReads {sync : UInt8} {tail : Nat} (accept : List UInt8 → Option α)
    {rounds : Nat} {w w' : W × List UInt8} {a : α}
    (h : port.recordingReads.hunt sync tail (fun block w => (accept block, w)) rounds w =
      (some a, w')) :
    ∃ before rest, w'.2 = w.2 ++ before ++ (sync :: rest) ∧ rest.length = tail ∧
      accept (sync :: rest) = some a := by
  induction rounds generalizing w with
  | zero => simp [hunt] at h
  | succ rounds ih =>
    obtain ⟨got, hgot, hfind⟩ := port.huntRound_recordingReads sync tail accept w
    unfold hunt at h
    generalize port.recordingReads.huntRound sync tail (fun block w => (accept block, w)) w =
      round at h hgot hfind
    obtain ⟨found, w₁⟩ := round
    dsimp only at h hgot hfind
    cases found with
    | none =>
      obtain ⟨before, rest, heq, hrest⟩ := ih h
      refine ⟨got ++ before, rest, ?_, hrest⟩
      rw [heq, hgot, List.append_assoc w.2]
    | some a' =>
      obtain ⟨hsome, rfl⟩ := Prod.mk.inj h
      obtain rfl := Option.some.inj hsome
      obtain ⟨rest, rfl, hrest⟩ := hfind a' rfl
      exact ⟨[], rest, by rw [hgot, List.append_nil], hrest⟩

end SerialPort

end LibPpuc
