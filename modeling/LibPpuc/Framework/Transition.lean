import Mathlib.Order.Defs.PartialOrder

/-! # Labelled Transition Systems with a Partial Step Function

  A system is given by a step function `State → Label → Option State`:
  `none` means that the label is not enabled.  Runs are lists of labels.

  - `exec`: where a run ends, if every label of it is enabled in turn.
  - `Always`: a state predicate holds at every state a run passes.
  - `Along`: a guard holds at every step of a run, before the step.
  - `observe`: what a run shows, step by step.
  - `instrument`: auxiliary (ghost) state beside the real state.  The
    real behaviour cannot depend on it (`exec_instrument`).

  The proof rules: an invariant kept by every step holds along every run
  (`exec_invariant`); an invariant kept by the steps that meet a guard says
  about a run whose steps all meet it what it says about one step
  (`along_of_along`, `forall_mem_observe`); a predicate that each step keeps
  exactly if it meets the guard holds throughout a run exactly if all steps
  meet it (`always_iff_along`).
-/

namespace Transition

universe u v w

variable {State : Type u} {Label : Type v} {Ghost : Type w}

/-! ### Runs -/

/-- The state a run ends in, if all its labels are enabled in turn. -/
def exec (step : State → Label → Option State) : State → List Label → Option State
  | s, [] => some s
  | s, l :: ls => (step s l).bind fun s' => exec step s' ls

section runs

variable {step : State → Label → Option State}

@[simp] theorem exec_nil (s : State) : exec step s [] = some s := rfl

theorem exec_cons (s : State) (l : Label) (ls : List Label) :
    exec step s (l :: ls) = (step s l).bind fun s' => exec step s' ls := rfl

/-- A run that starts with `l` is a step on `l` and a run from there. -/
theorem exec_cons_some {s s'' : State} {l : Label} {ls : List Label} :
    exec step s (l :: ls) = some s'' ↔
      ∃ s', step s l = some s' ∧ exec step s' ls = some s'' := by
  rw [exec_cons, Option.bind_eq_some_iff]

/-- Runs compose. -/
theorem exec_append (s : State) (ls ls' : List Label) :
    exec step s (ls ++ ls') = (exec step s ls).bind fun s' => exec step s' ls' := by
  induction ls generalizing s with
  | nil => simp
  | cons l ls ih =>
    rw [List.cons_append, exec_cons, exec_cons]
    cases step s l with
    | none => rfl
    | some s' => exact ih s'

theorem exec_append_some {s s'' : State} {ls ls' : List Label} :
    exec step s (ls ++ ls') = some s'' ↔
      ∃ s', exec step s ls = some s' ∧ exec step s' ls' = some s'' := by
  rw [exec_append, Option.bind_eq_some_iff]

/-! ### Invariants -/

/-- **Invariant rule**: what every step keeps, every run keeps. -/
theorem exec_invariant {I : State → Prop}
    (hstep : ∀ s l s', I s → step s l = some s' → I s')
    {s s' : State} {ls : List Label} (hinit : I s)
    (hrun : exec step s ls = some s') : I s' := by
  induction ls generalizing s with
  | nil =>
    obtain rfl : s = s' := by simpa using hrun
    exact hinit
  | cons l ls ih =>
    obtain ⟨t, ht, hrest⟩ := exec_cons_some.mp hrun
    exact ih (hstep s l t hinit ht) hrest

/-- **Invariant rule** for the labels of one run. -/
theorem exec_invariant_mem {I : State → Prop} {s s' : State} {ls : List Label}
    (hstep : ∀ s, ∀ l ∈ ls, ∀ s', I s → step s l = some s' → I s') (hinit : I s)
    (hrun : exec step s ls = some s') : I s' := by
  induction ls generalizing s with
  | nil =>
    obtain rfl : s = s' := by simpa using hrun
    exact hinit
  | cons l ls ih =>
    obtain ⟨t, ht, hrest⟩ := exec_cons_some.mp hrun
    apply ih (fun u l' hl' => hstep u l' (List.mem_cons_of_mem l hl')) _ hrest
    exact hstep s l List.mem_cons_self t hinit ht

/-- The guard `G` holds before every step of the run. -/
def Along (step : State → Label → Option State) (G : State → Label → Prop) :
    State → List Label → Prop
  | _, [] => True
  | s, l :: ls => G s l ∧ ∀ s', step s l = some s' → Along step G s' ls

@[simp] theorem along_nil {G : State → Label → Prop} (s : State) :
    Along step G s [] := trivial

theorem along_cons {G : State → Label → Prop} {s : State} {l : Label} {ls : List Label} :
    Along step G s (l :: ls) ↔
      G s l ∧ ∀ s', step s l = some s' → Along step G s' ls := Iff.rfl

/-- Guards that agree at every step agree along every run. -/
theorem along_congr {G H : State → Label → Prop} (h : ∀ s l, G s l ↔ H s l) {s : State}
    {ls : List Label} : Along step G s ls ↔ Along step H s ls := by
  induction ls generalizing s with
  | nil => exact Iff.rfl
  | cons l ls ih =>
    rw [along_cons, along_cons]
    exact and_congr (h s l) (forall_congr' fun s' => imp_congr_right fun _ => ih)

instance Along.decidable {G : State → Label → Prop} [∀ s l, Decidable (G s l)] :
    ∀ (s : State) (ls : List Label), Decidable (Along step G s ls)
  | _, [] => isTrue trivial
  | s, l :: ls =>
    match hs : step s l with
    | none => decidable_of_iff (G s l) (by simp [Along, hs])
    | some s' =>
      haveI : Decidable (Along step G s' ls) := Along.decidable s' ls
      decidable_of_iff (G s l ∧ Along step G s' ls) (by simp [Along, hs])

/-- **Invariant rule** for a guarded run. -/
theorem exec_invariant_along {I : State → Prop} {G : State → Label → Prop}
    (hstep : ∀ s l s', I s → G s l → step s l = some s' → I s') {s s' : State} {ls : List Label}
    (hinit : I s) (hguard : Along step G s ls) (hrun : exec step s ls = some s') : I s' := by
  induction ls generalizing s with
  | nil =>
    obtain rfl : s = s' := by simpa using hrun
    exact hinit
  | cons l ls ih =>
    obtain ⟨hnow, hlater⟩ := along_cons.mp hguard
    obtain ⟨t, ht, hrest⟩ := exec_cons_some.mp hrun
    exact ih (hstep s l t hinit hnow ht) (hlater t ht) hrest

/-- A guarded invariant and the guard give what they imply at every step. -/
theorem along_of_along {I : State → Prop} {G H : State → Label → Prop}
    (hstep : ∀ s l s', I s → G s l → step s l = some s' → I s')
    (huse : ∀ s l, I s → G s l → H s l) {s : State} {ls : List Label} (hinit : I s)
    (hguard : Along step G s ls) : Along step H s ls := by
  induction ls generalizing s with
  | nil => trivial
  | cons l ls ih =>
    obtain ⟨hnow, hlater⟩ := along_cons.mp hguard
    apply along_cons.mpr
    constructor
    · exact huse s l hinit hnow
    · intro s' hs'
      exact ih (hstep s l s' hinit hnow hs') (hlater s' hs')

/-- `Φ` holds at every state the run passes, the first one included. -/
def Always (step : State → Label → Option State) (Φ : State → Prop) :
    State → List Label → Prop
  | s, [] => Φ s
  | s, l :: ls => Φ s ∧ ∀ s', step s l = some s' → Always step Φ s' ls

instance Always.decidable {Φ : State → Prop} [∀ s, Decidable (Φ s)] :
    ∀ (s : State) (ls : List Label), Decidable (Always step Φ s ls)
  | s, [] => inferInstanceAs (Decidable (Φ s))
  | s, l :: ls =>
    match hs : step s l with
    | none => decidable_of_iff (Φ s) (by simp [Always, hs])
    | some s' =>
      haveI : Decidable (Always step Φ s' ls) := Always.decidable s' ls
      decidable_of_iff (Φ s ∧ Always step Φ s' ls) (by simp [Always, hs])

theorem Always.head {Φ : State → Prop} {s : State} {ls : List Label}
    (h : Always step Φ s ls) : Φ s := by
  cases ls with
  | nil => exact h
  | cons l ls => exact h.1

theorem Always.mono {Φ Ψ : State → Prop} (hmono : ∀ s, Φ s → Ψ s) {s : State}
    {ls : List Label} (h : Always step Φ s ls) : Always step Ψ s ls := by
  induction ls generalizing s with
  | nil => exact hmono s h
  | cons l ls ih => exact ⟨hmono s h.1, fun s' hs' => ih (h.2 s' hs')⟩

/-- A predicate holds at every state of two runs in a row. -/
theorem always_append {Φ : State → Prop} {s : State} {ls ls' : List Label} :
    Always step Φ s (ls ++ ls') ↔
      Always step Φ s ls ∧ ∀ t, exec step s ls = some t → Always step Φ t ls' := by
  induction ls generalizing s with
  | nil =>
    constructor
    · intro h
      refine ⟨h.head, ?_⟩
      intro t ht
      obtain rfl : s = t := by simpa using ht
      exact h
    · intro h
      exact h.2 s rfl
  | cons l ls ih =>
    constructor
    · intro h
      refine ⟨⟨h.1, fun u hu => (ih.mp (h.2 u hu)).1⟩, ?_⟩
      intro t ht
      obtain ⟨u, hu, hrest⟩ := exec_cons_some.mp ht
      exact (ih.mp (h.2 u hu)).2 t hrest
    · intro h
      obtain ⟨⟨hhead, hall⟩, hrest⟩ := h
      refine ⟨hhead, ?_⟩
      intro u hu
      exact ih.mpr ⟨hall u hu, fun t ht => hrest t (exec_cons_some.mpr ⟨u, hu, ht⟩)⟩

/-- **Exact guards**: where a step keeps `Φ` if and only if it meets the
    guard, `Φ` holds at every state of a run if and only if all steps of the
    run meet the guard. -/
theorem always_iff_along {Φ I : State → Prop} {G : State → Label → Prop}
    (hstep : ∀ s l s', I s → Φ s → step s l = some s' → I s' ∧ (Φ s' ↔ G s l))
    (hidle : ∀ s l, step s l = none → G s l)
    {s : State} {ls : List Label} (hinv : I s) (hΦ : Φ s) :
    Always step Φ s ls ↔ Along step G s ls := by
  induction ls generalizing s with
  | nil => exact ⟨fun _ => trivial, fun _ => hΦ⟩
  | cons l ls ih =>
    cases hs : step s l with
    | none =>
      constructor
      · exact fun _ => ⟨hidle s l hs, fun s' hs' => nomatch hs.symm.trans hs'⟩
      · exact fun _ => ⟨hΦ, fun s' hs' => nomatch hs.symm.trans hs'⟩
    | some t =>
      obtain ⟨hinv', hiff⟩ := hstep s l t hinv hΦ hs
      constructor
      · intro h
        obtain ⟨-, hall⟩ := h
        have hrest := hall t hs
        refine ⟨hiff.mp hrest.head, ?_⟩
        intro s' hs'
        obtain rfl := Option.some.inj (hs.symm.trans hs')
        exact (ih hinv' hrest.head).mp hrest
      · intro h
        obtain ⟨hguard, hall⟩ := h
        have hΦ' := hiff.mpr hguard
        refine ⟨hΦ, ?_⟩
        intro s' hs'
        obtain rfl := Option.some.inj (hs.symm.trans hs')
        exact (ih hinv' hΦ').mpr (hall t hs)

end runs

/-! ### Observations -/

/-- What the steps of a run show, in order; `view` is what one step shows. -/
def observe {Seen : Type*} (step : State → Label → Option State)
    (view : State → Label → State → List Seen) : State → List Label → List Seen
  | _, [] => []
  | s, l :: ls =>
    match step s l with
    | none => []
    | some s' => view s l s' ++ observe step view s' ls

theorem observe_cons {Seen : Type*} {step : State → Label → Option State}
    {view : State → Label → State → List Seen} {s s' : State} {l : Label}
    (ls : List Label) (h : step s l = some s') :
    observe step view s (l :: ls) = view s l s' ++ observe step view s' ls := by
  simp [observe, h]

theorem observe_cons_none {Seen : Type*} {step : State → Label → Option State}
    {view : State → Label → State → List Seen} {s : State} {l : Label}
    (ls : List Label) (h : step s l = none) : observe step view s (l :: ls) = [] := by
  simp [observe, h]

theorem observe_append {Seen : Type*} {step : State → Label → Option State}
    {view : State → Label → State → List Seen} {s s' : State} {ls ls' : List Label}
    (hrun : exec step s ls = some s') :
    observe step view s (ls ++ ls') = observe step view s ls ++ observe step view s' ls' := by
  induction ls generalizing s with
  | nil =>
    obtain rfl : s = s' := by simpa using hrun
    rfl
  | cons l ls ih =>
    obtain ⟨u, hu, hrest⟩ := exec_cons_some.mp hrun
    rw [List.cons_append, observe_cons (ls ++ ls') hu, observe_cons ls hu, ih hrest,
      List.append_assoc]

/-- What an invariant says about every step, it says about all that a run
    shows. -/
theorem forall_mem_observe {Seen : Type*} {step : State → Label → Option State}
    {view : State → Label → State → List Seen} {I : State → Prop} {G : State → Label → Prop}
    {Q : Seen → Prop}
    (hstep : ∀ s l s', I s → G s l → step s l = some s' →
      I s' ∧ ∀ x ∈ view s l s', Q x)
    {s : State} {ls : List Label} (hinit : I s) (hguard : Along step G s ls) :
    ∀ x ∈ observe step view s ls, Q x := by
  induction ls generalizing s with
  | nil => exact fun x hx => nomatch hx
  | cons l ls ih =>
    intro x hx
    cases hs : step s l with
    | none =>
      rw [observe_cons_none ls hs] at hx
      exact nomatch hx
    | some s' =>
      obtain ⟨hallowed, hrest⟩ := along_cons.mp hguard
      obtain ⟨hinv, hnow⟩ := hstep s l s' hinit hallowed hs
      rw [observe_cons ls hs] at hx
      rcases List.mem_append.mp hx with hview | hlater
      · exact hnow x hview
      · exact ih hinv (hrest s' hs) x hlater

/-- **Debt rule**: an invariant that counts down what is shown, and says `Q`
    of it as long as some is owed, says `Q` of the first things shown. -/
theorem forall_mem_take_observe {Seen : Type*} {step : State → Label → Option State}
    {view : State → Label → State → List Seen} {I : Nat → State → Prop}
    {G : State → Label → Prop} {Q : Seen → Prop}
    (hstep : ∀ r s l s', I r s → G s l → step s l = some s' →
      I (r - (view s l s').length) s' ∧ ∀ x ∈ (view s l s').take r, Q x)
    {r : Nat} {s : State} {ls : List Label} (hinit : I r s) (hguard : Along step G s ls) :
    ∀ x ∈ (observe step view s ls).take r, Q x := by
  induction ls generalizing r s with
  | nil =>
    intro x hx
    exact nomatch List.mem_of_mem_take hx
  | cons l ls ih =>
    intro x hx
    cases hs : step s l with
    | none =>
      rw [observe_cons_none ls hs] at hx
      exact nomatch List.mem_of_mem_take hx
    | some s' =>
      obtain ⟨hallowed, hrest⟩ := along_cons.mp hguard
      obtain ⟨hinv, hnow⟩ := hstep r s l s' hinit hallowed hs
      rw [observe_cons ls hs, List.take_append] at hx
      -- it is shown now, or by the rest of the run
      rcases List.mem_append.mp hx with hview | hlater
      · exact hnow x hview
      · exact ih hinv (hrest s' hs) x hlater

/-- **Order rule**: an invariant about the last thing shown, from which each
    step shows nothing or one thing that is not smaller, puts all that a run
    shows in order. -/
theorem pairwise_observe {Seen : Type*} [Preorder Seen] {step : State → Label → Option State}
    {view : State → Label → State → List Seen} {I : Seen → State → Prop}
    {G : State → Label → Prop}
    (hstep : ∀ last s l s', I last s → G s l → step s l = some s' →
      (view s l s' = [] ∧ I last s') ∨ ∃ x, view s l s' = [x] ∧ last ≤ x ∧ I x s')
    {last : Seen} {s : State} {ls : List Label} (hinit : I last s)
    (hguard : Along step G s ls) : (last :: observe step view s ls).Pairwise (· ≤ ·) := by
  induction ls generalizing last s with
  | nil => simp [observe]
  | cons l ls ih =>
    cases hs : step s l with
    | none =>
      rw [observe_cons_none ls hs]
      simp
    | some s' =>
      obtain ⟨hallowed, hrest⟩ := along_cons.mp hguard
      rw [observe_cons ls hs]
      rcases hstep last s l s' hinit hallowed hs with ⟨hnil, hinv⟩ | ⟨x, hone, hle, hinv⟩
      · rw [hnil]
        exact ih hinv (hrest s' hs)
      · rw [hone]
        have hsorted := ih hinv (hrest s' hs)
        apply List.pairwise_cons.mpr
        refine ⟨?_, hsorted⟩
        intro y hy
        rcases List.mem_cons.mp hy with rfl | hlater
        · exact hle
        · exact le_trans hle ((List.pairwise_cons.mp hsorted).1 y hlater)

/-- **Budget rule**: where every step pays for what it shows out of a budget,
    a run shows no more than the budget at its start. -/
theorem countP_observe_le {Seen : Type*} {step : State → Label → Option State}
    {view : State → Label → State → List Seen} {G : State → Label → Prop}
    (counted : Seen → Bool) {Budget : State → Nat → Prop}
    (hstep : ∀ s l s' n, Budget s n → G s l → step s l = some s' →
      ∃ n', Budget s' n' ∧ (view s l s').countP counted + n' ≤ n)
    {s : State} {n : Nat} {ls : List Label} (hinit : Budget s n) (hguard : Along step G s ls) :
    (observe step view s ls).countP counted ≤ n := by
  induction ls generalizing s n with
  | nil => exact Nat.zero_le n
  | cons l ls ih =>
    cases hs : step s l with
    | none =>
      rw [observe_cons_none ls hs]
      exact Nat.zero_le n
    | some s' =>
      obtain ⟨hallowed, hlater⟩ := along_cons.mp hguard
      obtain ⟨n', hbudget, hpaid⟩ := hstep s l s' n hinit hallowed hs
      have hrest := ih hbudget (hlater s' hs)
      rw [observe_cons ls hs, List.countP_append]
      omega

/-- **Splitting a run**: if a step shows at most one thing, a run can be cut
    at any point of what it shows. -/
theorem exec_split {Seen : Type*} {step : State → Label → Option State}
    {view : State → Label → State → List Seen}
    (hview : ∀ s l s', (view s l s').length ≤ 1) {s s' : State} {ls : List Label}
    {xs ys : List Seen} (hrun : exec step s ls = some s')
    (hshown : observe step view s ls = xs ++ ys) :
    ∃ ls₁ ls₂ t, ls = ls₁ ++ ls₂ ∧ exec step s ls₁ = some t ∧ observe step view s ls₁ = xs ∧
      exec step t ls₂ = some s' ∧ observe step view t ls₂ = ys := by
  induction ls generalizing s xs with
  | nil =>
    have hnil : xs ++ ys = [] := hshown.symm
    obtain ⟨rfl, rfl⟩ := List.append_eq_nil_iff.mp hnil
    exact ⟨[], [], s, rfl, rfl, rfl, hrun, rfl⟩
  | cons l ls ih =>
    cases xs with
    | nil => exact ⟨[], l :: ls, s, rfl, rfl, rfl, hrun, hshown⟩
    | cons x xs =>
      obtain ⟨u, hu, hrest⟩ := exec_cons_some.mp hrun
      rw [observe_cons ls hu] at hshown
      -- the first step shows nothing or the first thing
      have hfirst : ∃ zs, (x :: xs) = view s l u ++ zs ∧ observe step view u ls = zs ++ ys := by
        have hlength := hview s l u
        cases hv : view s l u with
        | nil =>
          rw [hv, List.nil_append] at hshown
          exact ⟨x :: xs, rfl, hshown⟩
        | cons y more =>
          rw [hv] at hshown hlength
          have hmore : more = [] := List.length_eq_zero_iff.mp (by simpa using hlength)
          subst hmore
          obtain ⟨rfl, hshown'⟩ := List.cons.inj hshown
          exact ⟨xs, rfl, hshown'⟩
      obtain ⟨zs, hzs, hlater⟩ := hfirst
      obtain ⟨ls₁, ls₂, t, rfl, hrun₁, hshown₁, hrun₂, hshown₂⟩ := ih hrest hlater
      refine ⟨l :: ls₁, ls₂, t, rfl, exec_cons_some.mpr ⟨u, hu, hrun₁⟩, ?_, hrun₂, hshown₂⟩
      rw [observe_cons ls₁ hu, hshown₁, hzs]

/-! ### Ghost State -/

/-- Run a ghost state beside the real one.  The real step is taken first and
    alone decides what is enabled. -/
def instrument (step : State → Label → Option State)
    (update : State → Ghost → Label → State → Ghost) :
    State × Ghost → Label → Option (State × Ghost) :=
  fun p l => (step p.1 l).map fun s' => (s', update p.1 p.2 l s')

section ghost

variable {step : State → Label → Option State}
  {update : State → Ghost → Label → State → Ghost}

theorem instrument_some {p q : State × Ghost} {l : Label} :
    instrument step update p l = some q ↔
      step p.1 l = some q.1 ∧ q.2 = update p.1 p.2 l q.1 := by
  unfold instrument
  rw [Option.map_eq_some_iff]
  constructor
  · intro h
    obtain ⟨s', hs', rfl⟩ := h
    exact ⟨hs', rfl⟩
  · intro h
    obtain ⟨hs', hg⟩ := h
    exact ⟨q.1, hs', by rw [← hg]⟩

/-- **Erasure**: dropping the ghost state of an instrumented run gives the
    run of the real system. -/
theorem exec_instrument (p : State × Ghost) (ls : List Label) :
    (exec (instrument step update) p ls).map Prod.fst = exec step p.1 ls := by
  induction ls generalizing p with
  | nil => rfl
  | cons l ls ih =>
    rw [exec_cons, exec_cons]
    cases hs : step p.1 l with
    | none => simp [instrument, hs]
    | some s' => simpa [instrument, hs] using ih (s', update p.1 p.2 l s')

end ghost

end Transition
