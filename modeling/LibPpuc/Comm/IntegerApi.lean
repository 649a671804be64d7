import LibPpuc.Reference

/-! # The Integer API

  The application sets outputs by `int` numbers.  `SetSolenoidState` and
  `SetLampState` narrow the number to 16 bits before it is looked up, and
  `SetGIState` narrows the brightness to 8 bits before it is clamped.

  `OutputCall.Drives` says which output a call is meant for: the one that is
  configured with exactly the number of the call.  A call is exact if it sets
  this output to the level asked for and no other.  A call whose argument
  does not fit may reach an output with another number, or the right string
  with another level; `OutputCall.Fits` says when it does no harm.
-/

namespace LibPpuc

namespace Comm

variable {P : Protocol} {W : Type}

/-! ### The Calls -/

/-- `SetSolenoidState`. -/
def setSolenoidState (port : SerialPort W) (w : W) (number state : Int) (c : Comm P) : Comm P :=
  let solNo := UInt16.ofInt number
  let solState : UInt8 := if state = 0 then 0 else 1
  c.queueEvent port w { sourceId := .solenoid, eventId := solNo, value := solState }

/-- `SetLampState`. -/
def setLampState (port : SerialPort W) (w : W) (number state : Int) (c : Comm P) : Comm P :=
  let lampNo := UInt16.ofInt number
  let lampState : UInt8 := if state = 0 then 0 else 1
  c.queueEvent port w { sourceId := .light, eventId := lampNo, value := lampState }

/-- `SetGIState`. -/
def setGIState (port : SerialPort W) (w : W) (string brightness : Int) (c : Comm P) : Comm P :=
  if string < 1 ∨ (P.kGiStrings : Int) < string then c
  else
    let giBrightness : UInt8 := if 0 < brightness then UInt8.ofInt brightness else 0
    c.queueEvent port w
      { sourceId := .gi, eventId := UInt16.ofInt string, value := P.clampGiLevel giBrightness }

end Comm

/-- A call of the integer API. -/
inductive OutputCall where
  | solenoid (number state : Int)
  | lamp (number state : Int)
  | gi (string brightness : Int)
  deriving DecidableEq, Repr

/-- One output of the live output state. -/
inductive Output (P : Protocol) where
  | coil (index : Fin P.kMaxCoilBits)
  | lamp (index : Fin P.kMaxLampBits)
  | gi (index : Fin P.kGiStrings)
  deriving DecidableEq

namespace Comm

variable {P : Protocol} {W : Type}

/-- The level of an output. -/
def level (c : Comm P) : Output P → Nat
  | .coil index => (P.bits.get c.coilBitmap index).toNat
  | .lamp index => (P.bits.get c.lampBitmap index).toNat
  | .gi index => c.giLevels[index].toNat

/-- The state after a call. -/
def call (port : SerialPort W) (w : W) (c : Comm P) : OutputCall → Comm P
  | .solenoid number state => c.setSolenoidState port w number state
  | .lamp number state => c.setLampState port w number state
  | .gi string brightness => c.setGIState port w string brightness

end Comm

namespace OutputCall

variable {P : Protocol} {W : Type}

/-- The output is configured with exactly the number of the call. -/
def Drives (c : Comm P) : OutputCall → Output P → Prop
  | .solenoid number _, .coil index =>
    ∃ x : UInt16, (x.toNat : Int) = number ∧ c.coilNumberToIndex.lookup x = some index.val
  | .lamp number _, .lamp index =>
    ∃ x : UInt16, (x.toNat : Int) = number ∧ c.lampNumberToIndex.lookup x = some index.val
  | .gi string _, .gi index => string = index.val + 1
  | _, _ => False

/-- The level asked for. -/
def level (kMaxGiLevel : UInt8) : OutputCall → Nat
  | .solenoid _ state => if state = 0 then 0 else 1
  | .lamp _ state => if state = 0 then 0 else 1
  | .gi _ brightness => (min (max brightness 0) (kMaxGiLevel.toNat : Int)).toNat

/-- The call sets the output with its number, to the level asked for, and no
    other. -/
def Exact (kMaxGiLevel : UInt8) (port : SerialPort W) (w : W) (c : Comm P) (call : OutputCall) :
    Prop :=
  ∀ output : Output P,
    (call.Drives c output → (c.call port w call).level output = call.level kMaxGiLevel) ∧
    (¬ call.Drives c output → (c.call port w call).level output = c.level output)

/-- A number that fits into 16 bits. -/
def Fits16 (number : Int) : Prop := 0 ≤ number ∧ number < 65536

instance (number : Int) : Decidable (Fits16 number) := inferInstanceAs (Decidable (_ ∧ _))

/-- What is left of the argument means the same: a number fits into 16 bits,
    or is that of no output or of one that has the level already; a
    brightness fits into 8 bits, or the rest of it is no less than the
    highest level. -/
def Fits (kMaxGiLevel : UInt8) (c : Comm P) (call : OutputCall) : Prop :=
  match call with
  | .solenoid number _ =>
    Fits16 number ∨ ∀ index : Fin P.kMaxCoilBits,
      c.coilNumberToIndex.lookup (UInt16.ofInt number) = some index.val →
        c.level (.coil index) = call.level kMaxGiLevel
  | .lamp number _ =>
    Fits16 number ∨ ∀ index : Fin P.kMaxLampBits,
      c.lampNumberToIndex.lookup (UInt16.ofInt number) = some index.val →
        c.level (.lamp index) = call.level kMaxGiLevel
  | .gi string brightness =>
    string < 1 ∨ (P.kGiStrings : Int) < string ∨ brightness ≤ 255 ∨
      (kMaxGiLevel.toNat : Int) ≤ brightness % 256

/-! ### Narrowing -/

/-- Narrowing keeps the number modulo 2^16. -/
theorem toNat_ofInt16 (number : Int) : ((UInt16.ofInt number).toNat : Int) = number % 65536 := by
  rw [UInt16.ofInt, UInt16.toNat_ofNat']
  omega

theorem toNat_ofInt8 (n : Int) : ((UInt8.ofInt n).toNat : Int) = n % 256 := by
  rw [UInt8.ofInt, UInt8.toNat_ofNat']
  omega

/-- A 16-bit number is `number` exactly if it is what is left of `number` and
    nothing was lost. -/
theorem toNat_eq_iff (x : UInt16) (number : Int) :
    (x.toNat : Int) = number ↔ Fits16 number ∧ x = UInt16.ofInt number := by
  have hleft := toNat_ofInt16 number
  have hx : x.toNat < 65536 := UInt16.toNat_lt x
  unfold Fits16
  constructor
  · intro heq
    refine ⟨by omega, ?_⟩
    apply UInt16.toNat_inj.mp
    omega
  · intro h
    obtain ⟨hfits, rfl⟩ := h
    omega

/-- **Narrowed numbers**: a domain in which the output that is looked up by
    what is left of `number` gets `value` is set exactly if the number fits,
    or that output has the value already. -/
theorem exact_number_iff {k : Nat} (lookup : UInt16 → Option Nat) (old new : Fin k → Nat)
    {number : Int} {value : Nat}
    (hnew : ∀ i, new i = if lookup (UInt16.ofInt number) = some i.val then value else old i) :
    (∀ i : Fin k,
      ((∃ x : UInt16, (x.toNat : Int) = number ∧ lookup x = some i.val) → new i = value) ∧
      ((¬ ∃ x : UInt16, (x.toNat : Int) = number ∧ lookup x = some i.val) → new i = old i)) ↔
      (Fits16 number ∨ ∀ i : Fin k, lookup (UInt16.ofInt number) = some i.val → old i = value) := by
  -- the output meant is the one looked up, if the number fits
  have hdrives : ∀ i : Fin k, (∃ x : UInt16, (x.toNat : Int) = number ∧ lookup x = some i.val) ↔
      Fits16 number ∧ lookup (UInt16.ofInt number) = some i.val := by
    intro i
    simp only [toNat_eq_iff]
    constructor
    · rintro ⟨x, ⟨hfits, rfl⟩, hlookup⟩
      exact ⟨hfits, hlookup⟩
    · rintro ⟨hfits, hlookup⟩
      exact ⟨_, ⟨hfits, rfl⟩, hlookup⟩
  simp only [hdrives, hnew]
  by_cases hfits : Fits16 number
  · simp only [hfits, true_and, true_or, iff_true]
    intro i
    exact ⟨fun hlookup => if_pos hlookup, fun hlookup => if_neg hlookup⟩
  · simp only [hfits, false_and, false_or, not_false_eq_true, forall_const]
    constructor
    · intro hexact i hlookup
      have hi := (hexact i).2
      rw [if_pos hlookup] at hi
      exact hi.symm
    · intro hsame i
      refine ⟨False.elim, ?_⟩
      split
      · next hlookup => exact (hsame i hlookup).symm
      · rfl

/-! ### What Each Call Does -/

section calls

variable {pos : Nat → Nat} {c : Comm P}

/-- A bit of a bitmap after another bit, or itself, was set. -/
theorem toNat_get_set (hP : P.Lawful pos) {n : Nat} (bitmap : Vector UInt8 n) (index i : Nat)
    (hi : i / 8 < n) (value : Bool) :
    (P.bits.get (P.bits.set bitmap index value) i).toNat =
      if index = i then value.toNat else (P.bits.get bitmap i).toNat := by
  rw [BitAccess.get_set hP.bits bitmap index i _ hi]
  by_cases hindex : i = index
  · rw [if_pos hindex, if_pos hindex.symm]
  · rw [if_neg hindex, if_neg (Ne.symm hindex)]

/-- A solenoid event sets the coil that is looked up. -/
theorem level_queueEvent_solenoid (hP : P.Lawful pos) (port : SerialPort W) (w : W)
    (number : UInt16) (value : UInt8) :
    let c' := c.queueEvent port w { sourceId := .solenoid, eventId := number, value := value }
    (∀ i : Fin P.kMaxCoilBits, c'.level (.coil i) =
      if c.coilNumberToIndex.lookup number = some i.val then (value != 0).toNat
      else c.level (.coil i)) ∧
    (∀ i, c'.level (.lamp i) = c.level (.lamp i)) ∧
    (∀ i, c'.level (.gi i) = c.level (.gi i)) := by
  cases hlookup : c.coilNumberToIndex.lookup number with
  | none => simp [Comm.queueEvent, hlookup]
  | some index =>
    by_cases hindex : index < P.kMaxCoilBits
    · obtain ⟨log, heq⟩ := Comm.queueOutputSnapshotLocked_eq port w (c.setCoil index (value != 0))
      rw [Comm.queueEvent_coil port w rfl hlookup hindex, heq]
      refine ⟨?_, fun i => rfl, fun i => rfl⟩
      intro i
      have hbit := toNat_get_set hP c.coilBitmap index i (hP.coil_byte_lt i.isLt) (value != 0)
      simp only [Option.some_inj]
      exact hbit
    · have hother : ∀ i : Fin P.kMaxCoilBits, index ≠ i.val := fun i heq => hindex (heq ▸ i.isLt)
      simp [Comm.queueEvent, hlookup, hindex, hother]

/-- A light event sets the lamp that is looked up. -/
theorem level_queueEvent_light (hP : P.Lawful pos) (port : SerialPort W) (w : W)
    (number : UInt16) (value : UInt8) :
    let c' := c.queueEvent port w { sourceId := .light, eventId := number, value := value }
    (∀ i : Fin P.kMaxLampBits, c'.level (.lamp i) =
      if c.lampNumberToIndex.lookup number = some i.val then (value != 0).toNat
      else c.level (.lamp i)) ∧
    (∀ i, c'.level (.coil i) = c.level (.coil i)) ∧
    (∀ i, c'.level (.gi i) = c.level (.gi i)) := by
  cases hlookup : c.lampNumberToIndex.lookup number with
  | none => simp [Comm.queueEvent, hlookup]
  | some index =>
    by_cases hindex : index < P.kMaxLampBits
    · simp only [Comm.queueEvent, hlookup, if_pos hindex]
      refine ⟨?_, fun i => rfl, fun i => rfl⟩
      intro i
      have hbyte : i.val / 8 < P.kMaxLampBytes := by
        have hbytes := hP.lampBytes
        have hi := i.isLt
        omega
      have hbit := toNat_get_set hP c.lampBitmap index i hbyte (value != 0)
      simp only [Option.some_inj]
      exact hbit
    · have hother : ∀ i : Fin P.kMaxLampBits, index ≠ i.val := fun i heq => hindex (heq ▸ i.isLt)
      simp [Comm.queueEvent, hlookup, hindex, hother]

/-- The level of a state that was narrowed to one bit. -/
theorem toNat_state (state : Int) :
    ((if state = 0 then (0 : UInt8) else 1) != 0).toNat = if state = 0 then 0 else 1 := by
  by_cases hstate : state = 0
  · simp [hstate]
  · simp [hstate]

/-- `SetSolenoidState` sets the coil that is looked up. -/
theorem level_setSolenoidState (hP : P.Lawful pos) (port : SerialPort W) (w : W)
    (number state : Int) :
    (∀ i : Fin P.kMaxCoilBits, (c.setSolenoidState port w number state).level (.coil i) =
      if c.coilNumberToIndex.lookup (UInt16.ofInt number) = some i.val then
        (if state = 0 then 0 else 1)
      else c.level (.coil i)) ∧
    (∀ i, (c.setSolenoidState port w number state).level (.lamp i) = c.level (.lamp i)) ∧
    (∀ i, (c.setSolenoidState port w number state).level (.gi i) = c.level (.gi i)) := by
  have hlevels := level_queueEvent_solenoid (c := c) hP port w (UInt16.ofInt number)
    (if state = 0 then 0 else 1)
  rw [toNat_state] at hlevels
  exact hlevels

/-- `SetLampState` sets the lamp that is looked up. -/
theorem level_setLampState (hP : P.Lawful pos) (port : SerialPort W) (w : W)
    (number state : Int) :
    (∀ i : Fin P.kMaxLampBits, (c.setLampState port w number state).level (.lamp i) =
      if c.lampNumberToIndex.lookup (UInt16.ofInt number) = some i.val then
        (if state = 0 then 0 else 1)
      else c.level (.lamp i)) ∧
    (∀ i, (c.setLampState port w number state).level (.coil i) = c.level (.coil i)) ∧
    (∀ i, (c.setLampState port w number state).level (.gi i) = c.level (.gi i)) := by
  have hlevels := level_queueEvent_light (c := c) hP port w (UInt16.ofInt number)
    (if state = 0 then 0 else 1)
  rw [toNat_state] at hlevels
  exact hlevels

/-- The level that `SetGIState` leaves in the string. -/
def giLevelOf (kMaxGiLevel : UInt8) (brightness : Int) : Nat :=
  if 0 < brightness then min (brightness % 256).toNat kMaxGiLevel.toNat else 0

/-- Clamping the rest of the brightness, twice. -/
theorem toNat_clampGiLevel {kMaxGiLevel : UInt8}
    (hclamp : ∀ level, P.clampGiLevel level = min level kMaxGiLevel) (brightness : Int) :
    (P.clampGiLevel (P.clampGiLevel
      (if 0 < brightness then UInt8.ofInt brightness else 0))).toNat =
      giLevelOf kMaxGiLevel brightness := by
  have hmin : ∀ a b : UInt8, (min a b).toNat = min a.toNat b.toNat := by
    intro a b
    show (if a ≤ b then a else b).toNat = _
    rw [Nat.min_def]
    simp only [UInt8.le_iff_toNat_le]
    split <;> rfl
  have hnarrow := toNat_ofInt8 brightness
  unfold giLevelOf
  rw [hclamp, hclamp, hmin, hmin]
  split
  · omega
  · simp

/-- An entry of a vector after another entry, or itself, was set. -/
theorem get_setIfInBounds {α : Type} {n : Nat} (v : Vector α n) (index : Nat) (x : α)
    (i : Fin n) : (v.setIfInBounds index x).get i = if index = i.val then x else v.get i :=
  Vector.getElem_setIfInBounds i.isLt

/-- `SetGIState` sets the string with its number. -/
theorem level_setGIState {kMaxGiLevel : UInt8}
    (hclamp : ∀ level, P.clampGiLevel level = min level kMaxGiLevel)
    (hstrings : P.kGiStrings < 65536) (port : SerialPort W) (w : W) (string brightness : Int) :
    (∀ i : Fin P.kGiStrings, (c.setGIState port w string brightness).level (.gi i) =
      if string = i.val + 1 then giLevelOf kMaxGiLevel brightness else c.level (.gi i)) ∧
    (∀ i, (c.setGIState port w string brightness).level (.coil i) = c.level (.coil i)) ∧
    (∀ i, (c.setGIState port w string brightness).level (.lamp i) = c.level (.lamp i)) := by
  unfold Comm.setGIState
  split
  · next hout =>
    refine ⟨?_, fun i => rfl, fun i => rfl⟩
    intro i
    have hi := i.isLt
    have hother : string ≠ i.val + 1 := by omega
    rw [if_neg hother]
  · next hrange =>
    have hnarrow := toNat_ofInt16 string
    have hid : 1 ≤ (UInt16.ofInt string).toNat ∧ (UInt16.ofInt string).toNat ≤ P.kGiStrings := by
      omega
    simp only [Comm.queueEvent, if_pos hid]
    refine ⟨?_, fun i => rfl, fun i => rfl⟩
    intro i
    have hi := i.isLt
    have hlevel := congrArg UInt8.toNat (get_setIfInBounds c.giLevels
      ((UInt16.ofInt string).toNat - 1) (P.clampGiLevel (P.clampGiLevel
        (if 0 < brightness then UInt8.ofInt brightness else 0))) i)
    by_cases hstring : string = i.val + 1
    · have hindex : (UInt16.ofInt string).toNat - 1 = i.val := by omega
      rw [if_pos hindex, toNat_clampGiLevel hclamp] at hlevel
      rw [if_pos hstring]
      exact hlevel
    · have hindex : (UInt16.ofInt string).toNat - 1 ≠ i.val := by omega
      rw [if_neg hindex] at hlevel
      rw [if_neg hstring]
      exact hlevel

/-- The level left in the string is the one asked for exactly if the
    brightness fits into 8 bits or the rest of it is no less than the highest
    level. -/
theorem giLevelOf_eq_iff (kMaxGiLevel : UInt8) (string brightness : Int) :
    giLevelOf kMaxGiLevel brightness = (OutputCall.gi string brightness).level kMaxGiLevel ↔
      brightness ≤ 255 ∨ (kMaxGiLevel.toNat : Int) ≤ brightness % 256 := by
  have hmax : kMaxGiLevel.toNat < 256 := UInt8.toNat_lt kMaxGiLevel
  unfold giLevelOf level
  dsimp only
  split
  · omega
  · omega

/-! ### Exact Calls -/

theorem exact_solenoid_iff (hP : P.Lawful pos) (kMaxGiLevel : UInt8) (port : SerialPort W)
    (w : W) (number state : Int) :
    (OutputCall.solenoid number state).Exact kMaxGiLevel port w c ↔
      (OutputCall.solenoid number state).Fits kMaxGiLevel c := by
  obtain ⟨hcoil, hlamp, hgi⟩ := level_setSolenoidState (c := c) hP port w number state
  have hnumber := exact_number_iff (c.coilNumberToIndex.lookup ·) (c.level <| .coil ·)
    ((c.setSolenoidState port w number state).level <| .coil ·) hcoil
  constructor
  · intro h
    exact hnumber.mp fun i => h (.coil i)
  · intro h output
    cases output with
    | coil i => exact hnumber.mpr h i
    | lamp i => exact ⟨False.elim, fun _ => hlamp i⟩
    | gi i => exact ⟨False.elim, fun _ => hgi i⟩

theorem exact_lamp_iff (hP : P.Lawful pos) (kMaxGiLevel : UInt8) (port : SerialPort W) (w : W)
    (number state : Int) :
    (OutputCall.lamp number state).Exact kMaxGiLevel port w c ↔
      (OutputCall.lamp number state).Fits kMaxGiLevel c := by
  obtain ⟨hlamp, hcoil, hgi⟩ := level_setLampState (c := c) hP port w number state
  have hnumber := exact_number_iff (c.lampNumberToIndex.lookup ·) (c.level <| .lamp ·)
    ((c.setLampState port w number state).level <| .lamp ·) hlamp
  constructor
  · intro h
    exact hnumber.mp fun i => h (.lamp i)
  · intro h output
    cases output with
    | coil i => exact ⟨False.elim, fun _ => hcoil i⟩
    | lamp i => exact hnumber.mpr h i
    | gi i => exact ⟨False.elim, fun _ => hgi i⟩

theorem exact_gi_iff {kMaxGiLevel : UInt8}
    (hclamp : ∀ level, P.clampGiLevel level = min level kMaxGiLevel)
    (hstrings : P.kGiStrings < 65536) (port : SerialPort W) (w : W) (string brightness : Int) :
    (OutputCall.gi string brightness).Exact kMaxGiLevel port w c ↔
      (OutputCall.gi string brightness).Fits kMaxGiLevel c := by
  obtain ⟨hgi, hcoil, hlamp⟩ :=
    level_setGIState (c := c) hclamp hstrings port w string brightness
  have hvalue := giLevelOf_eq_iff kMaxGiLevel string brightness
  constructor
  · intro h
    by_cases hrange : 1 ≤ string ∧ string ≤ P.kGiStrings
    · -- the string with this number shows what is left of the brightness
      have hlt : (string - 1).toNat < P.kGiStrings := by omega
      have hstring : string = ((string - 1).toNat : Int) + 1 := by omega
      have hset := (h (.gi ⟨(string - 1).toNat, hlt⟩)).1 hstring
      have hleft := hgi ⟨(string - 1).toNat, hlt⟩
      rw [if_pos hstring] at hleft
      exact Or.inr (Or.inr (hvalue.mp (hleft.symm.trans hset)))
    · unfold Fits
      dsimp only
      omega
  · intro h output
    cases output with
    | coil i => exact ⟨False.elim, fun _ => hcoil i⟩
    | lamp i => exact ⟨False.elim, fun _ => hlamp i⟩
    | gi i =>
      have hi := i.isLt
      refine ⟨?_, fun hother => (hgi i).trans (if_neg hother)⟩
      intro hstring
      have hdrives : string = i.val + 1 := hstring
      have hleft := hgi i
      rw [if_pos hdrives] at hleft
      refine hleft.trans (hvalue.mpr ?_)
      unfold Fits at h
      dsimp only at h
      omega

end calls

/-- **The integer API does not alias, for arguments that fit**: a call sets
    the output that is configured with exactly its number, to the level asked
    for, and no other output, if and only if its argument fits or what is left
    of it does no harm.  For such brightness the level is monotone.  An output
    is a bit or a level of the live coil, lamp and GI state: a hold counter or
    a snapshot that a call makes again is none. -/
theorem exact_iff_fits {pos : Nat → Nat} (hP : P.Lawful pos) {kMaxGiLevel : UInt8}
    (hclamp : ∀ level, P.clampGiLevel level = min level kMaxGiLevel)
    (hstrings : P.kGiStrings < 65536) (port : SerialPort W) (w : W) (c : Comm P) :
    (∀ call : OutputCall, call.Exact kMaxGiLevel port w c ↔ call.Fits kMaxGiLevel c) ∧
      ∀ (i : Fin P.kGiStrings) (brightness brighter : Int), brightness ≤ brighter →
        (OutputCall.gi (i.val + 1) brightness).Fits kMaxGiLevel c →
        (OutputCall.gi (i.val + 1) brighter).Fits kMaxGiLevel c →
        (c.setGIState port w (i.val + 1) brightness).level (.gi i) ≤
          (c.setGIState port w (i.val + 1) brighter).level (.gi i) := by
  have hexact : ∀ call : OutputCall, call.Exact kMaxGiLevel port w c ↔
      call.Fits kMaxGiLevel c := by
    intro call
    cases call with
    | solenoid number state => exact exact_solenoid_iff hP kMaxGiLevel port w number state
    | lamp number state => exact exact_lamp_iff hP kMaxGiLevel port w number state
    | gi string brightness => exact exact_gi_iff hclamp hstrings port w string brightness
  refine ⟨hexact, ?_⟩
  intro i brightness brighter hle hfits hfits'
  have hlevel := ((hexact _).mpr hfits (.gi i)).1 rfl
  have hlevel' := ((hexact _).mpr hfits' (.gi i)).1 rfl
  have hmono : (OutputCall.gi (i.val + 1) brightness).level kMaxGiLevel ≤
      (OutputCall.gi (i.val + 1) brighter).level kMaxGiLevel := by
    unfold level
    dsimp only
    omega
  exact hlevel.le.trans (hmono.trans hlevel'.ge)

end OutputCall

namespace Reference

theorem clampGiLevel_min : ∀ level, protocol.clampGiLevel level = min level 8 := by
  intro level
  show (if 8 < level then 8 else level) = if level ≤ 8 then level else 8
  by_cases hlevel : level ≤ 8
  · rw [if_pos hlevel, if_neg (UInt8.not_lt.mpr hlevel)]
  · rw [if_neg hlevel, if_pos (UInt8.not_le.mp hlevel)]

/-- The host with coil 10 on. -/
def coilOnComm : Comm protocol := mappedComm.setSolenoidState port ({} : Script) 10 1

/-- `SetSolenoidState(-65526, 1)`, `SetLampState(-1, 1)` and
    `SetGIState(1, 264)` do no harm there: coil 10 is on already, there is no
    lamp 65535, and the rest of the brightness is the highest level. -/
theorem calls_exact :
    (OutputCall.solenoid (-65526) 1).Exact 8 port ({} : Script) coilOnComm ∧
      (OutputCall.lamp (-1) 1).Exact 8 port ({} : Script) coilOnComm ∧
      (OutputCall.gi 1 264).Exact 8 port ({} : Script) coilOnComm := by
  have hiff := (OutputCall.exact_iff_fits protocol_lawful clampGiLevel_min (by decide)
    port ({} : Script) coilOnComm).1
  refine ⟨(hiff _).mpr ?_, (hiff _).mpr ?_, (hiff _).mpr ?_⟩
  · exact Or.inr (by decide +kernel)
  · exact Or.inr (by decide +kernel)
  · exact Or.inr (Or.inr (Or.inr (by decide)))

/-- `SetSolenoidState(65546, 1)` turns on coil 10. -/
theorem solenoid_aliases :
    ¬ ∀ call : OutputCall, call.Exact 8 port ({} : Script) mappedComm := by
  intro hexact
  have hother : ¬ (OutputCall.solenoid 65546 1).Drives mappedComm (.coil ⟨0, by decide⟩) := by
    rintro ⟨x, hx, -⟩
    have hlt : x.toNat < 65536 := UInt16.toNat_lt x
    omega
  have hcoil := (hexact (.solenoid 65546 1) (.coil ⟨0, by decide⟩)).2 hother
  have hon : (mappedComm.call port ({} : Script) (.solenoid 65546 1)).level
      (.coil ⟨0, by decide⟩) ≠ mappedComm.level (.coil ⟨0, by decide⟩) := by decide +kernel
  exact hon hcoil

end Reference

end LibPpuc
