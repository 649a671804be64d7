import Mathlib.Data.List.Cycle

/-! # Following Successors

  A list may be stored as successors: every entry names the next one, and the
  last one names `done`.  Mathlib's `List.nextOr` looks a successor up at the
  first occurrence of an entry; a table that is written in order keeps the
  one after the last occurrence (`lastNext`).

  Following successors from the head gives the list back exactly when it has
  no repetitions.
-/

universe u

namespace Successor

variable {α : Type u}

/-! ### Walks -/

/-- Following `T` from an entry up to `done` visits these entries. -/
inductive Walk (T : α → α) (done : α) : α → List α → Prop
  | stop : Walk T done done []
  | step {a : α} {path : List α} (hmore : a ≠ done) (hrest : Walk T done (T a) path) :
    Walk T done a (a :: path)

namespace Walk

variable {T T' : α → α} {done a : α} {path path' : List α}

/-- There is only one way to go. -/
theorem unique (h : Walk T done a path) (h' : Walk T done a path') : path = path' := by
  induction h generalizing path' with
  | stop =>
    cases h' with
    | stop => rfl
    | step hmore => exact absurd rfl hmore
  | step hmore hrest ih =>
    cases h' with
    | stop => exact absurd rfl hmore
    | step _ hrest' => exact congrArg _ (ih hrest')

/-- From every entry that is visited, the walk goes on with a part of the
    path. -/
theorem of_mem (h : Walk T done a path) {b : α} (hb : b ∈ path) :
    ∃ rest, Walk T done b rest ∧ rest <:+ path := by
  induction h with
  | stop => exact absurd hb List.not_mem_nil
  | @step a path hmore hrest ih =>
    rcases List.mem_cons.mp hb with rfl | hlater
    · exact ⟨b :: path, .step hmore hrest, List.suffix_refl _⟩
    · obtain ⟨rest, hwalk, hsuffix⟩ := ih hlater
      exact ⟨rest, hwalk, hsuffix.trans (List.suffix_cons a path)⟩

/-- A walk that ends visits nothing twice. -/
theorem nodup (h : Walk T done a path) : path.Nodup := by
  induction h with
  | stop => exact List.nodup_nil
  | @step a path hmore hrest ih =>
    apply List.nodup_cons.mpr
    refine ⟨?_, ih⟩
    intro hagain
    -- the same walk would be shorter than itself
    obtain ⟨rest, hwalk, hsuffix⟩ := hrest.of_mem hagain
    obtain rfl : a :: path = rest := unique (.step hmore hrest) hwalk
    have hlength := hsuffix.length_le
    rw [List.length_cons] at hlength
    omega

/-- A walk stays among the entries that the successors do not leave. -/
theorem mem_of_closed {Q : α → Prop} (hQ : ∀ b, Q b → Q (T b) ∨ T b = done)
    (h : Walk T done a path) (ha : Q a ∨ a = done) : ∀ b ∈ path, Q b := by
  induction h with
  | stop => exact fun b hb => absurd hb List.not_mem_nil
  | @step a path hmore hrest ih =>
    have hhead : Q a := ha.resolve_right hmore
    intro b hb
    rcases List.mem_cons.mp hb with rfl | hlater
    · exact hhead
    · exact ih (hQ a hhead) b hlater

/-- Successors that agree on the path lead the same way. -/
theorem congr (h : Walk T done a path) (hT : ∀ b ∈ path, T b = T' b) :
    Walk T' done a path := by
  induction h with
  | stop => exact .stop
  | @step a path hmore hrest ih =>
    apply Walk.step hmore
    rw [← hT a List.mem_cons_self]
    exact ih fun b hb => hT b (List.mem_cons_of_mem a hb)

end Walk

/-! ### Successors in a List -/

section list

variable [DecidableEq α] {done b : α}

theorem nextOr_self_cons (xs : List α) (b done : α) :
    (b :: xs).nextOr b done = xs.headD done := by
  cases xs with
  | nil => rfl
  | cons x xs => exact List.nextOr_self_cons_cons xs b x done

/-- The successor at the first occurrence. -/
theorem nextOr_append_cons {pre : List α} (hb : b ∉ pre) (xs : List α) :
    (pre ++ b :: xs).nextOr b done = xs.headD done := by
  induction pre with
  | nil => exact nextOr_self_cons xs b done
  | cons y pre ih =>
    have hne := List.ne_of_not_mem_cons hb
    rw [List.cons_append, List.nextOr_cons_of_ne _ _ _ _ hne]
    exact ih (List.not_mem_of_not_mem_cons hb)

/-- By position: the entry after the first one that equals `b`. -/
theorem nextOr_eq_getD (xs : List α) (b done : α) :
    xs.nextOr b done = ((xs.idxOf? b).map fun i => xs.getD (i + 1) done).getD done := by
  induction xs with
  | nil => rfl
  | cons x xs ih =>
    rw [List.idxOf?_cons]
    by_cases hx : x = b
    · subst hx
      rw [nextOr_self_cons]
      cases xs <;> simp
    · rw [List.nextOr_cons_of_ne _ _ _ _ (Ne.symm hx), ih]
      cases h : xs.idxOf? b <;> simp [hx]

/-- A successor is an entry, or there is none. -/
theorem nextOr_mem_or (xs : List α) (b done : α) :
    xs.nextOr b done ∈ xs ∨ xs.nextOr b done = done := by
  induction xs with
  | nil => exact Or.inr rfl
  | cons x xs ih =>
    by_cases hx : b = x
    · subst hx
      rw [nextOr_self_cons]
      cases xs with
      | nil => exact Or.inr rfl
      | cons y ys => exact Or.inl (List.mem_cons_of_mem _ List.mem_cons_self)
    · rw [List.nextOr_cons_of_ne _ _ _ _ hx]
      exact ih.imp_left (List.mem_cons_of_mem x)

/-- The successor that is written last, by a table written in order. -/
def lastNext (done b : α) : List α → Option α
  | [] => none
  | x :: xs => (lastNext done b xs).or (if x = b then some (xs.headD done) else none)

theorem lastNext_eq_none {xs : List α} : lastNext done b xs = none ↔ b ∉ xs := by
  induction xs with
  | nil => simp [lastNext]
  | cons x xs ih =>
    by_cases hx : x = b
    · simp [lastNext, hx]
    · simp [lastNext, ih, hx, Ne.symm hx]

/-- It is an entry, or there is none. -/
theorem lastNext_mem_or {xs : List α} {next : α} (h : lastNext done b xs = some next) :
    next ∈ xs ∨ next = done := by
  induction xs with
  | nil => exact nomatch h
  | cons a xs ih =>
    unfold lastNext at h
    rcases Option.or_eq_some_iff.mp h with hlater | ⟨-, hhere⟩
    · exact (ih hlater).imp_left (List.mem_cons_of_mem a)
    · split at hhere
      · obtain rfl := Option.some.inj hhere
        cases xs with
        | nil => exact Or.inr rfl
        | cons y ys => exact Or.inl (List.mem_cons_of_mem a List.mem_cons_self)
      · exact nomatch hhere

/-- Without repetitions the first occurrence is the last one. -/
theorem lastNext_of_nodup {xs : List α} (hxs : xs.Nodup) (hb : b ∈ xs) :
    lastNext done b xs = some (xs.nextOr b done) := by
  induction xs with
  | nil => exact absurd hb List.not_mem_nil
  | cons x xs ih =>
    obtain ⟨hx, hrest⟩ := List.nodup_cons.mp hxs
    by_cases hxb : x = b
    · subst hxb
      rw [lastNext, lastNext_eq_none.mpr hx, nextOr_self_cons]
      simp
    · have hlater := (List.mem_cons.mp hb).resolve_left (Ne.symm hxb)
      rw [lastNext, ih hrest hlater, List.nextOr_cons_of_ne _ _ _ _ (Ne.symm hxb)]
      rfl

/-- What is left of a walk after the entries of `pre`, if the walk visits
    `pre` first: it visits the rest of the list, which has no repetitions. -/
theorem walk_rest {pre xs path : List α} (hdone : done ∉ pre ++ xs)
    (h : Walk (fun b => (pre ++ xs).nextOr b done) done (xs.headD done) path)
    (hpre : (pre ++ path).Nodup) : (pre ++ xs).Nodup ∧ path = xs := by
  induction xs generalizing pre path with
  | nil =>
    cases h with
    | stop => exact ⟨by simpa using hpre, rfl⟩
    | step hmore => exact absurd rfl hmore
  | cons x xs ih =>
    have hxdone : x ≠ done := by
      rintro rfl
      exact hdone (List.mem_append_right _ List.mem_cons_self)
    rw [List.headD_cons] at h
    cases h with
    | stop => exact absurd rfl hxdone
    | @step _ path hmore hrest =>
      have hx : x ∉ pre := by
        intro hin
        exact (List.nodup_append.mp hpre).2.2 x hin x List.mem_cons_self rfl
      -- the entry is new, so its successor is the next one in the list
      rw [nextOr_append_cons hx] at hrest
      rw [List.append_cons] at hdone hrest hpre ⊢
      obtain ⟨hnodup, rfl⟩ := ih hdone hrest hpre
      exact ⟨hnodup, rfl⟩

/-- Following the successors of a list without repetitions. -/
theorem walk_nodup {pre xs : List α} (hdone : done ∉ pre ++ xs) (h : (pre ++ xs).Nodup) :
    Walk (fun b => (pre ++ xs).nextOr b done) done (xs.headD done) xs := by
  induction xs generalizing pre with
  | nil => exact .stop
  | cons x xs ih =>
    have hx : x ∉ pre := by
      intro hin
      exact (List.nodup_append.mp h).2.2 x hin x List.mem_cons_self rfl
    have hxdone : x ≠ done := by
      rintro rfl
      exact hdone (List.mem_append_right _ List.mem_cons_self)
    apply Walk.step hxdone
    rw [nextOr_append_cons hx]
    rw [List.append_cons] at hdone h ⊢
    exact ih hdone h

/-- **Following the successors from the head ends if and only if the list has
    no repetitions**, and then it visits the list in order. -/
theorem walk_nextOr_iff {xs path : List α} (hdone : done ∉ xs) :
    Walk (fun b => xs.nextOr b done) done (xs.headD done) path ↔ xs.Nodup ∧ path = xs := by
  constructor
  · intro h
    exact @walk_rest α _ done [] xs path hdone h h.nodup
  · rintro ⟨hnodup, rfl⟩
    exact @walk_nodup α _ done [] _ hdone hnodup

end list

end Successor
