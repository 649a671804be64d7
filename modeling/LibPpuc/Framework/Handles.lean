import LibPpuc.Framework.Transition
import Mathlib.Logic.Function.Basic
import Mathlib.Data.List.Basic

/-! # Handles

  A library gives out handles and takes them back.  Its table says what it
  knows of a handle, and a call that does not fit is refused: so a list of
  calls that the table accepts uses no handle that was given back, closes
  nothing that is not open and gives back nothing twice or while it is open.

  `count_alloc`: what was given out and not given back is what the table
  still knows.
-/

namespace Handles

/-- What a library knows of a handle. -/
inductive Status where
  | absent
  | closed
  | opened
  deriving DecidableEq

/-- A call with a handle. -/
inductive Call (Handle : Type*) where
  | alloc (h : Handle)
  /-- Any call that needs the handle. -/
  | touch (h : Handle)
  | opens (h : Handle)
  /-- Any call that needs the handle to be open. -/
  | use (h : Handle)
  | closes (h : Handle)
  | free (h : Handle)
  deriving DecidableEq

/-- What a library knows of all handles. -/
def Table (Handle : Type*) := Handle → Status

namespace Table

variable {Handle : Type*} [DecidableEq Handle]

def empty : Table Handle := fun _ => .absent

/-- The table with another entry for `h`. -/
def set (t : Table Handle) (h : Handle) (status : Status) : Table Handle :=
  Function.update t h status

/-- One call, if it fits. -/
def step (t : Table Handle) : Call Handle → Option (Table Handle)
  | .alloc h => if t h = .absent then some (t.set h .closed) else none
  | .touch h => if t h = .absent then none else some t
  | .opens h => if t h = .closed then some (t.set h .opened) else none
  | .use h => if t h = .opened then some t else none
  | .closes h => if t h = .opened then some (t.set h .closed) else none
  | .free h => if t h = .closed then some (t.set h .absent) else none

theorem set_apply (t : Table Handle) (h n : Handle) (status : Status) :
    t.set h status n = if n = h then status else t n := by
  unfold set
  exact Function.update_apply t h status n

@[simp] theorem set_self (t : Table Handle) (h : Handle) (status : Status) :
    t.set h status h = status := by
  simp [set_apply]

theorem set_of_ne (t : Table Handle) {h n : Handle} (hne : n ≠ h) (status : Status) :
    t.set h status n = t n := by
  simp [set_apply, hne]

/-- An entry that is set and set back. -/
theorem set_back {t : Table Handle} {h : Handle} {status : Status} (hold : t h = status)
    (between : Status) : (t.set h between).set h status = t := by
  funext n
  simp only [set_apply]
  split
  · next heq => rw [heq, hold]
  · rfl

section calls

variable {t : Table Handle} {h : Handle}

theorem step_alloc (habsent : t h = .absent) : t.step (.alloc h) = some (t.set h .closed) :=
  if_pos habsent

theorem step_touch (hknown : t h ≠ .absent) : t.step (.touch h) = some t := if_neg hknown

theorem step_opens (hclosed : t h = .closed) : t.step (.opens h) = some (t.set h .opened) :=
  if_pos hclosed

theorem step_use (hopened : t h = .opened) : t.step (.use h) = some t := if_pos hopened

theorem step_closes (hopened : t h = .opened) : t.step (.closes h) = some (t.set h .closed) :=
  if_pos hopened

theorem step_free (hclosed : t h = .closed) : t.step (.free h) = some (t.set h .absent) :=
  if_pos hclosed

/-- Any number of uses. -/
theorem exec_replicate_use (hopened : t h = .opened) (n : Nat) :
    Transition.exec step t (List.replicate n (.use h)) = some t := by
  induction n with
  | zero => rfl
  | succ n ih => exact Transition.exec_cons_some.mpr ⟨t, step_use hopened, ih⟩

/-- An open handle is closed and given back. -/
theorem exec_release (hopened : t h = .opened) :
    Transition.exec step t [.closes h, .free h] = some (t.set h .absent) := by
  apply Transition.exec_cons_some.mpr
  refine ⟨t.set h .closed, step_closes hopened, ?_⟩
  apply Transition.exec_cons_some.mpr
  refine ⟨t.set h .absent, ?_, rfl⟩
  rw [step_free (set_self t h .closed)]
  exact congrArg some (Function.update_idem _ _ _)

end calls

/-- The handles that are known. -/
def Knows (t : Table Handle) (h : Handle) : Prop := t h ≠ .absent

instance (t : Table Handle) (h : Handle) : Decidable (t.Knows h) :=
  inferInstanceAs (Decidable (_ ≠ _))

theorem knows_set (t : Table Handle) (h n : Handle) (status : Status) :
    (t.set h status).Knows n ↔ if n = h then status ≠ .absent else t.Knows n := by
  unfold Knows
  rw [set_apply]
  split
  · rfl
  · rfl

/-- What one call says about the account of `n`. -/
def Accounted (n : Handle) (t : Table Handle) (call : Call Handle) (t' : Table Handle) : Prop :=
  (if t'.Knows n then 1 else 0) + [call].count (.free n) =
    (if t.Knows n then 1 else 0) + [call].count (.alloc n)

/-- A call on another handle, or one that neither gives out nor takes back. -/
theorem accounted_of_same {n : Handle} {t t' : Table Handle} {call : Call Handle}
    (hknows : t'.Knows n ↔ t.Knows n) (halloc : call ≠ .alloc n) (hfree : call ≠ .free n) :
    Accounted n t call t' := by
  unfold Accounted
  simp only [hknows, List.count_singleton, beq_iff_eq, halloc, hfree, if_false]

/-- One call gives `n` out, takes it back, or neither. -/
theorem accounted_step {t t' : Table Handle} {call : Call Handle} (h : t.step call = some t')
    (n : Handle) : Accounted n t call t' := by
  unfold step at h
  cases call with
  | alloc m =>
    dsimp only at h
    split at h
    · next habsent =>
      -- a handle that was not known is known now
      obtain rfl := Option.some.inj h
      by_cases hn : n = m
      · subst hn
        simp [Accounted, Knows, habsent]
      · exact accounted_of_same (by simp [knows_set, hn]) (by simp [Ne.symm hn]) (by simp)
    · cases h
  | free m =>
    dsimp only at h
    split at h
    · next hclosed =>
      -- a handle that was known is not known any more
      obtain rfl := Option.some.inj h
      by_cases hn : n = m
      · subst hn
        simp [Accounted, Knows, hclosed]
      · exact accounted_of_same (by simp [knows_set, hn]) (by simp) (by simp [Ne.symm hn])
    · cases h
  | touch m =>
    dsimp only at h
    split at h
    · cases h
    · obtain rfl := Option.some.inj h
      exact accounted_of_same Iff.rfl (by simp) (by simp)
  | use m =>
    dsimp only at h
    split at h
    · obtain rfl := Option.some.inj h
      exact accounted_of_same Iff.rfl (by simp) (by simp)
    · cases h
  | opens m | closes m =>
    dsimp only at h
    split at h
    · next hstatus =>
      obtain rfl := Option.some.inj h
      -- opening and closing change the entry of a known handle
      refine accounted_of_same ?_ (by simp) (by simp)
      by_cases hn : n = m
      · subst hn
        simp [Knows, hstatus]
      · simp [knows_set, hn]
    · cases h

/-- **Accounts**: what was given out was given back, or is still known. -/
theorem count_alloc {t t' : Table Handle} {calls : List (Call Handle)}
    (h : Transition.exec step t calls = some t') (n : Handle) :
    (if t'.Knows n then 1 else 0) + calls.count (.free n) =
      (if t.Knows n then 1 else 0) + calls.count (.alloc n) := by
  induction calls generalizing t with
  | nil =>
    obtain rfl : t = t' := by simpa using h
    simp
  | cons call calls ih =>
    obtain ⟨t₁, h₁, hrest⟩ := Transition.exec_cons_some.mp h
    have hfirst : (if t₁.Knows n then 1 else 0) + [call].count (.free n) =
        (if t.Knows n then 1 else 0) + [call].count (.alloc n) := accounted_step h₁ n
    have hlater := ih hrest
    rw [← List.singleton_append, List.count_append, List.count_append]
    omega

end Table

end Handles
