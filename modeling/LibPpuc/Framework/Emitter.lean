import LibPpuc.Framework.Transition

/-! # Programs that Emit Instructions

  An `Emitter` computes a list of instructions and returns a value or
  throws; what it emitted before an exception stays emitted.  The
  instructions are run afterwards, by a step function of their own.

  These facts are proved about such a program from its text:

  - `Only`, `EndsWith`: which instructions it emits.
  - `Good`: it returns, and every instruction it emits is good.
  - `Triple`: from a precondition, a monitor that reads the instructions in
    order admits each of them, and a returned value meets a postcondition in
    the monitor's last state.  A run of the instructions that the monitor
    abstracts is then matched by it at every point (`Accepts.exec`).
-/

universe u v w x

/-- The instructions emitted, and how the program ended. -/
structure Emitter (σ : Type u) (ε : Type v) (α : Type w) where
  emitted : List σ
  result : Except ε α

namespace Emitter

variable {σ : Type u} {ε : Type v} {α β : Type w}

/-- Go on with `f` if the first program has returned. -/
def bind (p : Emitter σ ε α) (f : α → Emitter σ ε β) : Emitter σ ε β :=
  match p.result with
  | .ok a => ⟨p.emitted ++ (f a).emitted, (f a).result⟩
  | .error e => ⟨p.emitted, .error e⟩

instance : Monad (Emitter σ ε) where
  pure a := ⟨[], .ok a⟩
  bind := bind

/-- Emit one instruction. -/
def emit (x : σ) : Emitter σ ε PUnit := ⟨[x], .ok ⟨⟩⟩

/-- A computation without instructions. -/
def ofExcept (r : Except ε α) : Emitter σ ε α := ⟨[], r⟩

section equations

variable {p : Emitter σ ε α} {f : α → Emitter σ ε β}

theorem bind_of_ok {a : α} (h : p.result = .ok a) :
    p >>= f = ⟨p.emitted ++ (f a).emitted, (f a).result⟩ := by
  show bind p f = _
  unfold bind
  rw [h]

theorem bind_of_error {e : ε} (h : p.result = .error e) :
    p >>= f = ⟨p.emitted, .error e⟩ := by
  show bind p f = _
  unfold bind
  rw [h]

@[simp] theorem ofExcept_ok_bind (a : α) : (ofExcept (.ok a) : Emitter σ ε α) >>= f = f a := by
  rw [bind_of_ok rfl]
  rfl

/-- A bind that returns has run both programs. -/
theorem result_bind_ok {b : β} :
    (p >>= f).result = .ok b ↔ ∃ a, p.result = .ok a ∧ (f a).result = .ok b := by
  cases h : p.result with
  | ok a =>
    rw [bind_of_ok h]
    simp
  | error e =>
    rw [bind_of_error h]
    simp

theorem emitted_bind_ok {a : α} (h : p.result = .ok a) :
    (p >>= f).emitted = p.emitted ++ (f a).emitted := by
  rw [bind_of_ok h]

end equations

/-! ### What a Program Emits -/

/-- Every instruction that the program emits satisfies `Q`. -/
def Only (Q : σ → Prop) (p : Emitter σ ε α) : Prop := ∀ x ∈ p.emitted, Q x

/-- If the program returns, the instructions it emits end with `xs`. -/
def EndsWith (xs : List σ) (p : Emitter σ ε α) : Prop :=
  ∀ a, p.result = .ok a → xs <:+ p.emitted

section emitted

variable {Q : σ → Prop} {p : Emitter σ ε α} {f : α → Emitter σ ε β}

/-- What the first program emits is emitted, whatever follows. -/
theorem mem_emitted_bind_left {x : σ} (h : x ∈ p.emitted) : x ∈ (p >>= f).emitted := by
  cases hp : p.result with
  | ok a =>
    rw [bind_of_ok hp]
    exact List.mem_append_left _ h
  | error e =>
    rw [bind_of_error hp]
    exact h

theorem mem_emitted_bind_right {a : α} {x : σ} (hp : p.result = .ok a)
    (h : x ∈ (f a).emitted) : x ∈ (p >>= f).emitted := by
  rw [emitted_bind_ok hp]
  exact List.mem_append_right _ h

theorem only_pure (a : α) : Only Q (pure a : Emitter σ ε α) := fun _ h => nomatch h

theorem only_ofExcept (r : Except ε α) : Only Q (ofExcept r : Emitter σ ε α) :=
  fun _ h => nomatch h

theorem only_emit {x : σ} (h : Q x) : Only Q (emit x : Emitter σ ε PUnit) := by
  intro y hy
  obtain rfl : y = x := List.mem_singleton.mp hy
  exact h

theorem only_bind_ok (hp : Only Q p) (hf : ∀ a, p.result = .ok a → Only Q (f a)) :
    Only Q (p >>= f) := by
  intro x hx
  cases h : p.result with
  | ok a =>
    rw [bind_of_ok h] at hx
    rcases List.mem_append.mp hx with hleft | hright
    · exact hp x hleft
    · exact hf a h x hright
  | error e =>
    rw [bind_of_error h] at hx
    exact hp x hx

theorem only_bind (hp : Only Q p) (hf : ∀ a, Only Q (f a)) : Only Q (p >>= f) :=
  only_bind_ok hp fun a _ => hf a

theorem only_foldlM {γ : Type x} {g : α → γ → Emitter σ ε α} {xs : List γ}
    (h : ∀ a, ∀ y ∈ xs, Only Q (g a y)) (a : α) : Only Q (xs.foldlM g a) := by
  induction xs generalizing a with
  | nil => exact only_pure a
  | cons y ys ih =>
    rw [List.foldlM_cons]
    apply only_bind (h a y List.mem_cons_self)
    intro b
    exact ih (fun c z hz => h c z (List.mem_cons_of_mem y hz)) b

/-- A loop that returns has run every round. -/
theorem mem_emitted_foldlM {γ : Type x} {g : α → γ → Emitter σ ε α} {xs : List γ} {y : γ}
    {x : σ} (hy : y ∈ xs) (h : ∀ a, x ∈ (g a y).emitted) {a b : α}
    (hok : (xs.foldlM g a).result = .ok b) : x ∈ (xs.foldlM g a).emitted := by
  induction xs generalizing a with
  | nil => exact nomatch hy
  | cons z zs ih =>
    rw [List.foldlM_cons] at hok ⊢
    obtain ⟨c, hfirst, hrest⟩ := result_bind_ok.mp hok
    rcases List.mem_cons.mp hy with rfl | hlater
    · exact mem_emitted_bind_left (h a)
    · exact mem_emitted_bind_right hfirst (ih hlater hrest)

/-- A loop that emits one instruction a round. -/
theorem forM_emit {γ : Type x} (g : γ → σ) (xs : List γ) :
    xs.forM (fun y => emit (g y)) = (⟨xs.map g, .ok ⟨⟩⟩ : Emitter σ ε PUnit) := by
  induction xs with
  | nil => rfl
  | cons y ys ih =>
    show (emit (g y) >>= fun _ => ys.forM fun y => emit (g y)) = _
    rw [bind_of_ok rfl, ih]
    rfl

theorem EndsWith.bind {xs : List σ} (hf : ∀ a, EndsWith xs (f a)) : EndsWith xs (p >>= f) := by
  intro b hb
  obtain ⟨a, hp, ha⟩ := result_bind_ok.mp hb
  rw [emitted_bind_ok hp]
  exact (hf a b ha).trans (List.suffix_append _ _)

end emitted

/-! ### Good Programs -/

/-- The program returns, and every instruction it emits satisfies `Q`. -/
def Good (Q : σ → Prop) (p : Emitter σ ε α) : Prop :=
  (∃ a, p.result = .ok a) ∧ ∀ x ∈ p.emitted, Q x

section good

variable {Q : σ → Prop}

@[simp] theorem good_pure (a : α) : Good Q (pure a : Emitter σ ε α) ↔ True :=
  ⟨fun _ => trivial, fun _ => ⟨⟨a, rfl⟩, fun _ h => nomatch h⟩⟩

@[simp] theorem good_emit (x : σ) : Good Q (emit x : Emitter σ ε PUnit) ↔ Q x := by
  constructor
  · exact fun h => h.2 x (List.mem_singleton_self x)
  · intro h
    refine ⟨⟨_, rfl⟩, ?_⟩
    intro y hy
    obtain rfl : y = x := List.mem_singleton.mp hy
    exact h

@[simp] theorem good_ofExcept (r : Except ε α) :
    Good Q (ofExcept r : Emitter σ ε α) ↔ ∃ a, r = .ok a :=
  ⟨fun h => h.1, fun h => ⟨h, fun _ hx => nomatch hx⟩⟩

theorem good_bind {p : Emitter σ ε α} {f : α → Emitter σ ε β} :
    Good Q (p >>= f) ↔ Good Q p ∧ ∀ a, p.result = .ok a → Good Q (f a) := by
  cases h : p.result with
  | ok a =>
    rw [bind_of_ok h]
    unfold Good
    simp only [List.mem_append, h, Except.ok.injEq, forall_eq', exists_eq', true_and]
    constructor
    · exact fun hall => ⟨fun x hx => hall.2 x (Or.inl hx),
        hall.1, fun x hx => hall.2 x (Or.inr hx)⟩
    · intro hgood
      obtain ⟨hp, hresult, hf⟩ := hgood
      refine ⟨hresult, ?_⟩
      intro x hx
      rcases hx with hx | hx
      · exact hp x hx
      · exact hf x hx
  | error e =>
    rw [bind_of_error h]
    unfold Good
    simp [h]

theorem good_seq {p : Emitter σ ε α} {q : Emitter σ ε β} :
    Good Q (p >>= fun _ => q) ↔ Good Q p ∧ Good Q q := by
  rw [good_bind]
  constructor
  · intro h
    obtain ⟨hp, hq⟩ := h
    obtain ⟨a, ha⟩ := hp.1
    exact ⟨hp, hq a ha⟩
  · intro h
    obtain ⟨hp, hq⟩ := h
    exact ⟨hp, fun _ _ => hq⟩

/-- A loop with an accumulator, all of whose rounds are good. -/
theorem good_foldlM {γ : Type x} {g : α → γ → Emitter σ ε α} {xs : List γ}
    (h : ∀ a, ∀ y ∈ xs, Good Q (g a y)) (a : α) : Good Q (xs.foldlM g a) := by
  induction xs generalizing a with
  | nil => exact (good_pure a).mpr trivial
  | cons y ys ih =>
    rw [List.foldlM_cons, good_bind]
    refine ⟨h a y List.mem_cons_self, ?_⟩
    intro b _
    exact ih (fun c z hz => h c z (List.mem_cons_of_mem y hz)) b

/-- A loop is good if and only if every round is. -/
theorem good_forM {γ : Type x} {f : γ → Emitter σ ε PUnit} {xs : List γ} :
    Good Q (xs.forM f) ↔ ∀ y ∈ xs, Good Q (f y) := by
  induction xs with
  | nil => simp
  | cons y ys ih =>
    show Good Q (f y >>= fun _ => ys.forM f) ↔ _
    rw [good_bind, ih, List.forall_mem_cons]
    constructor
    · exact fun h => ⟨h.1, h.2 _ h.1.1.choose_spec⟩
    · exact fun h => ⟨h.1, fun _ _ => h.2⟩

end good

end Emitter

/-! ### Monitors -/

/-- An observer of instructions: which it admits in a state, and where it may
    go from there. -/
structure Monitor (σ : Type u) (S : Type v) where
  admits : S → σ → Prop
  next : S → σ → S → Prop

namespace Monitor

variable {σ : Type u} {S : Type v} {M : Monitor σ S}

/-- The monitor admits all instructions in order, whichever way it goes, and
    ends in a state that satisfies `post`. -/
def Accepts (M : Monitor σ S) (post : S → Prop) : S → List σ → Prop
  | s, [] => post s
  | s, x :: xs => M.admits s x ∧ ∀ s', M.next s x s' → M.Accepts post s' xs

theorem Accepts.mono {post post' : S → Prop} (h : ∀ s, post s → post' s) {s : S} {xs : List σ}
    (haccepts : M.Accepts post s xs) : M.Accepts post' s xs := by
  induction xs generalizing s with
  | nil => exact h s haccepts
  | cons x xs ih => exact ⟨haccepts.1, fun s' hnext => ih (haccepts.2 s' hnext)⟩

theorem accepts_append {post : S → Prop} {s : S} {xs ys : List σ} :
    M.Accepts post s (xs ++ ys) ↔ M.Accepts (fun s' => M.Accepts post s' ys) s xs := by
  induction xs generalizing s with
  | nil => exact Iff.rfl
  | cons x xs ih => exact and_congr Iff.rfl (forall_congr' fun s' => imp_congr_right fun _ => ih)

/-- **Abstraction**: if every step of a system on an admitted instruction is
    matched by the monitor, every run of accepted instructions is. -/
theorem Accepts.exec {State : Type w} {step : State → σ → Option State} {R : State → S → Prop}
    (hstep : ∀ t s x t', R t s → M.admits s x → step t x = some t' →
      ∃ s', M.next s x s' ∧ R t' s')
    {post : S → Prop} {s : S} {t t' : State} {xs ys : List σ} (hR : R t s)
    (haccepts : M.Accepts post s (xs ++ ys)) (hrun : Transition.exec step t xs = some t') :
    ∃ s', R t' s' ∧ M.Accepts post s' ys := by
  induction xs generalizing s t with
  | nil =>
    obtain rfl : t = t' := by simpa using hrun
    exact ⟨s, hR, haccepts⟩
  | cons x xs ih =>
    obtain ⟨u, hu, hrest⟩ := Transition.exec_cons_some.mp hrun
    obtain ⟨s', hnext, hR'⟩ := hstep t s x u hR haccepts.1 hu
    exact ih hR' (haccepts.2 s' hnext) hrest

end Monitor

namespace Emitter

variable {σ : Type u} {ε : Type v} {α β : Type w} {S : Type x} {M : Monitor σ S}

/-- The monitor admits what the program emits; if it returns, the value and
    the monitor's last state satisfy `post`. -/
def Meets (M : Monitor σ S) (p : Emitter σ ε α) (post : α → S → Prop) (s : S) : Prop :=
  M.Accepts (fun s' => ∀ a, p.result = .ok a → post a s') s p.emitted

/-- From every state that satisfies `pre` the program meets `post`. -/
def Triple (M : Monitor σ S) (pre : S → Prop) (p : Emitter σ ε α) (post : α → S → Prop) : Prop :=
  ∀ s, pre s → p.Meets M post s

namespace Triple

variable {pre : S → Prop}

theorem mono {p : Emitter σ ε α} {pre' : S → Prop} {post post' : α → S → Prop}
    (h : Triple M pre p post) (hpre : ∀ s, pre' s → pre s) (hpost : ∀ a s, post a s → post' a s) :
    Triple M pre' p post' :=
  fun s hs => Monitor.Accepts.mono (fun s' hs' a ha => hpost a s' (hs' a ha)) (h s (hpre s hs))

theorem strengthen (pre : S → Prop) {p : Emitter σ ε α} {pre' : S → Prop}
    {post : α → S → Prop} (h : Triple M pre p post) (hpre : ∀ s, pre' s → pre s) :
    Triple M pre' p post :=
  h.mono hpre fun _ _ hs => hs

theorem pure {a : α} {post : α → S → Prop} (h : ∀ s, pre s → post a s) :
    Triple M pre (Pure.pure a : Emitter σ ε α) post := by
  intro s hs b hb
  obtain rfl : a = b := Except.ok.inj hb
  exact h s hs

theorem ofExcept {r : Except ε α} {post : α → S → Prop}
    (h : ∀ a, r = .ok a → ∀ s, pre s → post a s) :
    Triple M pre (Emitter.ofExcept r : Emitter σ ε α) post :=
  fun s hs a ha => h a ha s hs

theorem emit {y : σ} {post : PUnit → S → Prop}
    (h : ∀ s, pre s → M.admits s y ∧ ∀ s', M.next s y s' → post ⟨⟩ s') :
    Triple M pre (Emitter.emit y : Emitter σ ε PUnit) post :=
  fun s hs => ⟨(h s hs).1, fun s' hnext _ _ => (h s hs).2 s' hnext⟩

theorem bind {p : Emitter σ ε α} {f : α → Emitter σ ε β} {mid : α → S → Prop}
    {post : β → S → Prop} (hp : Triple M pre p mid) (hf : ∀ a, Triple M (mid a) (f a) post) :
    Triple M pre (p >>= f) post := by
  intro s hs
  have hmeets := hp s hs
  unfold Meets at hmeets ⊢
  cases h : p.result with
  | ok a =>
    rw [bind_of_ok h, Monitor.accepts_append]
    exact Monitor.Accepts.mono (fun s' hs' => hf a s' (hs' a h)) hmeets
  | error e =>
    rw [bind_of_error h]
    exact Monitor.Accepts.mono (fun s' _ b hb => nomatch hb) hmeets

/-- Sequence, when the first value does not matter. -/
theorem seq {p : Emitter σ ε α} {q : Emitter σ ε β} {mid : S → Prop} {post : β → S → Prop}
    (hp : Triple M pre p fun _ => mid) (hq : Triple M mid q post) :
    Triple M pre (p >>= fun _ => q) post :=
  hp.bind fun _ => hq

/-- A computation that may throw, then the rest. -/
theorem read {r : Except ε α} {f : α → Emitter σ ε β} {post : β → S → Prop}
    (h : ∀ a, r = .ok a → Triple M pre (f a) post) :
    Triple M pre (Emitter.ofExcept r >>= f) post := by
  intro s hs
  cases r with
  | ok a =>
    rw [ofExcept_ok_bind]
    exact h a rfl s hs
  | error e =>
    rw [bind_of_error rfl]
    intro b hb
    exact nomatch hb

/-- **Loop rule**: an invariant that every round keeps. -/
theorem forM {γ : Type x} {f : γ → Emitter σ ε PUnit} {xs : List γ}
    (h : ∀ y ∈ xs, Triple M pre (f y) fun _ => pre) :
    Triple M pre (xs.forM f) fun _ => pre := by
  induction xs with
  | nil => exact pure fun s hs => hs
  | cons y ys ih =>
    show Triple M pre (f y >>= fun _ => ys.forM f) _
    exact (h y List.mem_cons_self).seq (ih fun z hz => h z (List.mem_cons_of_mem y hz))

/-- **Loop rule** with an accumulator. -/
theorem foldlM {γ : Type x} {f : α → γ → Emitter σ ε α} {xs : List γ} (Inv : α → S → Prop)
    (h : ∀ y ∈ xs, ∀ a, Triple M (Inv a) (f a y) Inv) (a : α) :
    Triple M (Inv a) (xs.foldlM f a) Inv := by
  induction xs generalizing a with
  | nil => exact pure fun s hs => hs
  | cons y ys ih =>
    rw [List.foldlM_cons]
    exact (h y List.mem_cons_self a).bind
      fun b => ih (fun z hz => h z (List.mem_cons_of_mem y hz)) b

end Triple

end Emitter

/-! ### What a Program that Returns Has Written -/

namespace Emitter

variable {σ : Type u} {ε : Type v} {α β : Type w} {τ : Type x} {out : σ → List τ}

/-- If the program returns, what its instructions put out is `ys`. -/
def Writes (out : σ → List τ) (ys : List τ) (p : Emitter σ ε α) : Prop :=
  ∀ a, p.result = .ok a → p.emitted.flatMap out = ys

namespace Writes

variable {ys zs : List τ}

theorem of_eq {p : Emitter σ ε α} (h : Writes out ys p) (heq : ys = zs) : Writes out zs p :=
  heq ▸ h

theorem pure (a : α) : Writes out [] (Pure.pure a : Emitter σ ε α) := fun _ _ => rfl

theorem ofExcept (r : Except ε α) : Writes out [] (Emitter.ofExcept r : Emitter σ ε α) :=
  fun _ _ => rfl

theorem emit (y : σ) : Writes out (out y) (Emitter.emit y : Emitter σ ε PUnit) := by
  intro _ _
  show out y ++ [] = out y
  exact List.append_nil _

theorem bind {p : Emitter σ ε α} {f : α → Emitter σ ε β} (hp : Writes out ys p)
    (hf : ∀ a, p.result = .ok a → Writes out zs (f a)) : Writes out (ys ++ zs) (p >>= f) := by
  intro b hb
  obtain ⟨a, ha, hrest⟩ := result_bind_ok.mp hb
  rw [emitted_bind_ok ha, List.flatMap_append, hp a ha, hf a ha b hrest]

theorem seq {p : Emitter σ ε α} {q : Emitter σ ε β} (hp : Writes out ys p)
    (hq : Writes out zs q) : Writes out (ys ++ zs) (p >>= fun _ => q) :=
  hp.bind fun _ _ => hq

/-- A computation that may throw, then the rest. -/
theorem read {r : Except ε α} {f : α → Emitter σ ε β}
    (h : ∀ a, r = .ok a → Writes out ys (f a)) : Writes out ys (Emitter.ofExcept r >>= f) :=
  (Writes.ofExcept r).bind h

/-- **Loop rule**: the rounds write one after the other. -/
theorem forM {γ : Type*} {f : γ → Emitter σ ε PUnit} {part : γ → List τ} {xs : List γ}
    (h : ∀ y ∈ xs, Writes out (part y) (f y)) :
    Writes out (xs.flatMap part) (xs.forM f) := by
  induction xs with
  | nil => exact pure _
  | cons y ys ih =>
    show Writes out (part y ++ ys.flatMap part) (f y >>= fun _ => ys.forM f)
    obtain ⟨hy, hys⟩ := List.forall_mem_cons.mp h
    exact hy.seq (ih hys)

/-- **Loop rule** with an accumulator. -/
theorem foldlM {γ : Type*} {f : α → γ → Emitter σ ε α} {part : γ → List τ} {xs : List γ}
    (h : ∀ y ∈ xs, ∀ a, Writes out (part y) (f a y)) (a : α) :
    Writes out (xs.flatMap part) (xs.foldlM f a) := by
  induction xs generalizing a with
  | nil => exact pure _
  | cons y ys ih =>
    rw [List.foldlM_cons, List.flatMap_cons]
    obtain ⟨hy, hys⟩ := List.forall_mem_cons.mp h
    exact (hy a).bind fun b _ => ih hys b

end Writes

/-- The program returns only if `φ` holds. -/
def Needs (φ : Prop) (p : Emitter σ ε α) : Prop := ∀ a, p.result = .ok a → φ

namespace Needs

variable {φ : Prop} {p : Emitter σ ε α} {f : α → Emitter σ ε β}

theorem ofExcept (r : Except ε α) : Needs (∃ a, r = .ok a) (Emitter.ofExcept r : Emitter σ ε α) :=
  fun a ha => ⟨a, ha⟩

theorem first (h : Needs φ p) : Needs φ (p >>= f) := by
  intro b hb
  obtain ⟨a, ha, -⟩ := result_bind_ok.mp hb
  exact h a ha

theorem later (h : ∀ a, Needs φ (f a)) : Needs φ (p >>= f) := by
  intro b hb
  obtain ⟨a, -, hrest⟩ := result_bind_ok.mp hb
  exact h a b hrest

/-- **Loop rule**: each round needs its part. -/
theorem forM {γ : Type*} {g : γ → Emitter σ ε PUnit} {part : γ → Prop} {xs : List γ}
    (h : ∀ y ∈ xs, Needs (part y) (g y)) : Needs (∀ y ∈ xs, part y) (xs.forM g) := by
  induction xs with
  | nil => simp [Needs]
  | cons y ys ih =>
    obtain ⟨hy, hys⟩ := List.forall_mem_cons.mp h
    intro b hb
    obtain ⟨a, ha, hrest⟩ := result_bind_ok.mp hb
    exact List.forall_mem_cons.mpr ⟨hy a ha, ih hys b hrest⟩

end Needs

end Emitter
