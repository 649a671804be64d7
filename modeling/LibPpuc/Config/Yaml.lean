import Mathlib.Logic.Basic
import Mathlib.Data.List.Basic

/-! # YAML Nodes and Their Conversions

  A parsed document as `yaml-cpp` presents it, and the conversions
  `as<T>()`.  How a scalar reads as a number or a boolean is the library's
  business and a parameter; the model relies on one thing only: `as<T>()`
  for an integer type throws exactly when the scalar is not an integer in
  the range of `T`.
-/

namespace LibPpuc

/-- `YAML::Mark`: line and column from 0, or the null mark. -/
abbrev Mark := Option (Nat × Nat)

/-- `YAML::Node`.  A missing field is the undefined node. -/
inductive Yaml where
  | undefined
  | null (mark : Mark)
  | scalar (mark : Mark) (value : String)
  | sequence (mark : Mark) (items : List Yaml)
  | map (mark : Mark) (entries : List (Yaml × Yaml))

/-- What the code throws: an exception of `yaml-cpp`, or a `std::runtime_error`. -/
inductive Failure where
  | yaml (mark : Mark) (what : String)
  | runtime (what : String)
  deriving DecidableEq

/-- The part of `yaml-cpp` that reads scalars. -/
structure YamlCpp where
  /-- The integer a scalar stands for. -/
  decodeInt : String → Option Int
  /-- The boolean a scalar stands for. -/
  decodeBool : String → Option Bool
  /-- The text of the exception of a failed conversion. -/
  badConversion : Mark → String

namespace Yaml

/-- `IsDefined`. -/
def isDefined : Yaml → Bool
  | undefined => false
  | _ => true

/-- `IsMap`. -/
def isMap : Yaml → Bool
  | map .. => true
  | _ => false

/-- `IsSequence`. -/
def isSequence : Yaml → Bool
  | sequence .. => true
  | _ => false

/-- `Mark`. -/
def mark : Yaml → Mark
  | undefined => none
  | null m => m
  | scalar m _ => m
  | sequence m _ => m
  | map m _ => m

/-- `size`. -/
def size : Yaml → Nat
  | sequence _ items => items.length
  | map _ entries => entries.length
  | _ => 0

/-- The elements of a sequence. -/
def items : Yaml → List Yaml
  | sequence _ items => items
  | _ => []

/-- The key and value nodes of a map. -/
def entries : Yaml → List (Yaml × Yaml)
  | map _ entries => entries
  | _ => []

/-- A key node that reads as `field`. -/
def isKey (field : String) : Yaml → Bool
  | scalar _ value => value == field
  | _ => false

/-- `operator[]` with a string key.  The code uses it on maps only. -/
def get (node : Yaml) (field : String) : Yaml :=
  match node.entries.find? fun entry => entry.1.isKey field with
  | some entry => entry.2
  | none => undefined

/-- Only the undefined node is not defined. -/
theorem eq_undefined {node : Yaml} (h : node.isDefined = false) : node = undefined := by
  cases node with
  | undefined => rfl
  | _ => exact nomatch h

end Yaml

/-! ### Conversions -/

namespace YamlCpp

variable (cpp : YamlCpp)

/-- The exception of a failed `as<T>()`. -/
def conversionFailure (node : Yaml) : Failure := .yaml node.mark (cpp.badConversion node.mark)

/-- `as<std::string>`: a null node reads as `null`. -/
def asString : Yaml → Except Failure String
  | .null _ => .ok "null"
  | .scalar _ value => .ok value
  | node => .error (cpp.conversionFailure node)

/-- `as<bool>`. -/
def asBool (node : Yaml) : Except Failure Bool :=
  match node with
  | .scalar _ value =>
    match cpp.decodeBool value with
    | some b => .ok b
    | none => .error (cpp.conversionFailure node)
  | _ => .error (cpp.conversionFailure node)

/-- `as<T>` for an integer type with the given range. -/
def asInteger (low high : Int) (node : Yaml) : Except Failure Int :=
  match node with
  | .scalar _ value =>
    match cpp.decodeInt value with
    | some n => if low ≤ n ∧ n ≤ high then .ok n else .error (cpp.conversionFailure node)
    | none => .error (cpp.conversionFailure node)
  | _ => .error (cpp.conversionFailure node)

/-- `as<uint8_t>`. -/
def asUInt8 (node : Yaml) : Except Failure UInt8 :=
  (cpp.asInteger 0 255 node).map fun n => UInt8.ofNat n.toNat

/-- `as<uint16_t>`. -/
def asUInt16 (node : Yaml) : Except Failure UInt16 :=
  (cpp.asInteger 0 65535 node).map fun n => UInt16.ofNat n.toNat

/-- `as<uint32_t>`. -/
def asUInt32 (node : Yaml) : Except Failure UInt32 :=
  (cpp.asInteger 0 4294967295 node).map fun n => UInt32.ofNat n.toNat

/-- `as<int16_t>`. -/
def asInt16 (node : Yaml) : Except Failure Int := cpp.asInteger (-32768) 32767 node

end YamlCpp

/-- The computation does not throw. -/
def Returns {α : Type} (r : Except Failure α) : Prop := ∃ a, r = .ok a

section returns

variable {α β : Type}

@[simp] theorem returns_ok (a : α) : Returns (.ok a : Except Failure α) ↔ True :=
  ⟨fun _ => trivial, fun _ => ⟨a, rfl⟩⟩

@[simp] theorem returns_pure (a : α) : Returns (pure a : Except Failure α) ↔ True := returns_ok a

@[simp] theorem returns_error (e : Failure) : Returns (.error e : Except Failure α) ↔ False :=
  ⟨fun h => (nomatch h.choose_spec), False.elim⟩

@[simp] theorem returns_throw (e : Failure) : Returns (throw e : Except Failure α) ↔ False :=
  returns_error e

@[simp] theorem returns_map (f : α → β) (r : Except Failure α) :
    Returns (r.map f) ↔ Returns r := by
  cases r <;> simp [Except.map]

/-- A bind returns if and only if both computations do. -/
theorem returns_bind {r : Except Failure α} {f : α → Except Failure β} :
    Returns (r >>= f) ↔ Returns r ∧ ∀ a, r = .ok a → Returns (f a) := by
  cases r with
  | ok a => simp [Bind.bind, Except.bind]
  | error e => simp [Bind.bind, Except.bind]

theorem returns_bind_iff_exists {r : Except Failure α} {f : α → Except Failure β} :
    Returns (r >>= f) ↔ ∃ a, r = .ok a ∧ Returns (f a) := by
  cases r with
  | ok a => simp [Bind.bind, Except.bind]
  | error e => simp [Bind.bind, Except.bind]

/-- A loop returns if and only if every round does. -/
theorem returns_forM {γ : Type} {f : γ → Except Failure Unit} {xs : List γ} :
    Returns (xs.forM f) ↔ ∀ y ∈ xs, Returns (f y) := by
  induction xs with
  | nil => exact iff_of_true ⟨⟨⟩, rfl⟩ (fun y hy => nomatch hy)
  | cons y ys ih =>
    show Returns (f y >>= fun _ => ys.forM f) ↔ _
    rw [returns_bind, ih, List.forall_mem_cons]
    constructor
    · exact fun h => ⟨h.1, h.2 _ h.1.choose_spec⟩
    · exact fun h => ⟨h.1, fun _ _ => h.2⟩

end returns

/-! ### Ranges -/

namespace YamlCpp

variable {cpp : YamlCpp}

/-- The number a node stands for, if it is an integer. -/
def intOf (cpp : YamlCpp) : Yaml → Option Int
  | .scalar _ value => cpp.decodeInt value
  | _ => none

theorem returns_asInteger {low high : Int} {node : Yaml} :
    Returns (cpp.asInteger low high node) ↔
      ∃ n, cpp.intOf node = some n ∧ low ≤ n ∧ n ≤ high := by
  unfold asInteger intOf
  cases node with
  | scalar mark value =>
    dsimp only
    cases cpp.decodeInt value with
    | none => simp
    | some n =>
      dsimp only
      split
      · next hrange => simpa using hrange
      · next hrange => simpa using hrange
  | _ => simp

theorem asInteger_eq_ok {low high n : Int} {node : Yaml}
    (h : cpp.asInteger low high node = .ok n) :
    cpp.intOf node = some n ∧ low ≤ n ∧ n ≤ high := by
  obtain ⟨m, hm, hlow, hhigh⟩ := returns_asInteger.mp ⟨n, h⟩
  cases node with
  | scalar mark value =>
    have hdecode : cpp.decodeInt value = some m := hm
    unfold asInteger at h
    dsimp only at h
    rw [hdecode] at h
    dsimp only at h
    rw [if_pos ⟨hlow, hhigh⟩] at h
    obtain rfl := Except.ok.inj h
    exact ⟨hm, hlow, hhigh⟩
  | _ => exact nomatch hm

theorem returns_asUInt8 {node : Yaml} :
    Returns (cpp.asUInt8 node) ↔ ∃ n, cpp.intOf node = some n ∧ 0 ≤ n ∧ n ≤ 255 := by
  unfold asUInt8
  rw [returns_map, returns_asInteger]

theorem returns_asUInt16 {node : Yaml} :
    Returns (cpp.asUInt16 node) ↔ ∃ n, cpp.intOf node = some n ∧ 0 ≤ n ∧ n ≤ 65535 := by
  unfold asUInt16
  rw [returns_map, returns_asInteger]

theorem returns_asUInt32 {node : Yaml} :
    Returns (cpp.asUInt32 node) ↔ ∃ n, cpp.intOf node = some n ∧ 0 ≤ n ∧ n ≤ 4294967295 := by
  unfold asUInt32
  rw [returns_map, returns_asInteger]

/-- A number that fits 8 bits fits 16. -/
theorem returns_asUInt16_of_asUInt8 {node : Yaml} (h : Returns (cpp.asUInt8 node)) :
    Returns (cpp.asUInt16 node) := by
  obtain ⟨n, hn, hlow, hhigh⟩ := returns_asUInt8.mp h
  exact returns_asUInt16.mpr ⟨n, hn, hlow, by omega⟩

/-- The value of a 32-bit conversion is the number the node stands for. -/
theorem toNat_of_asUInt32 {node : Yaml} {v : UInt32} (h : cpp.asUInt32 node = .ok v) :
    cpp.intOf node = some (v.toNat : Int) := by
  unfold asUInt32 at h
  cases hr : cpp.asInteger 0 4294967295 node with
  | error e =>
    rw [hr] at h
    exact nomatch h
  | ok n =>
    rw [hr] at h
    obtain ⟨hn, hlow, hhigh⟩ := asInteger_eq_ok hr
    obtain rfl : UInt32.ofNat n.toNat = v := Except.ok.inj h
    have hval : (UInt32.ofNat n.toNat).toNat = n.toNat :=
      UInt32.toNat_ofNat_of_lt' (by unfold UInt32.size; omega)
    rw [hn, hval]
    exact congrArg some (by omega)

end YamlCpp

end LibPpuc
