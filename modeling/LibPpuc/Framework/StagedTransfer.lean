import LibPpuc.Framework.OrderedBus
import Mathlib.Data.List.Infix

/-! # A Staged Transfer over a Lossy Bus

  A sender hands a source to a receiver in chunks.  A chunk says where in
  the source it starts.  The receiver may append it to what it has staged
  if that is where the staged part ends, and it confirms only chunks that
  it has appended.  Messages keep their order in both directions, and may be
  lost at any point and be late by any time.

  The sender may send a chunk again and again, so late confirmations of
  earlier chunks are on their way while a later chunk is pending.  What
  holds at every point is `Sound`: what is staged is a prefix of the
  source, and every confirmation on its way is backed by staged data.
-/

universe u v w

namespace StagedTransfer

open OrderedBus (Seen)

variable {α : Type u} {β : Type v} {γ : Type w}

/-- How the receiver reads requests, and what replies mean. -/
structure Receiver (α : Type u) (β : Type v) (γ : Type w) where
  /-- The position and the data of a chunk; other requests are not chunks. -/
  chunkOf : α → Option (Nat × List γ)
  /-- The position of the chunk that a reply confirms. -/
  confirms : β → Option Nat

/-- The messages on the bus, and the receiver. -/
structure Bus (α : Type u) (β : Type v) (γ : Type w) where
  requests : List α
  replies : List β
  staged : List γ
  /-- The positions of the chunks that were appended. -/
  held : List Nat

/-- Nothing is staged and nothing is on its way. -/
def Bus.empty : Bus α β γ := ⟨[], [], [], []⟩

/-- What can happen on the bus. -/
inductive Act (α : Type u) (β : Type v) where
  | send (request : α)
  | loseRequest (i : Nat)
  /-- The first request on its way arrives, and its chunk is appended or not. -/
  | receive (append : Bool)
  | reply (reply : β)
  | loseReply (i : Nat)
  /-- The sender reads the first reply on its way. -/
  | deliver

/-- One step of the bus. -/
def step (R : Receiver α β γ) (b : Bus α β γ) : Act α β → Option (Bus α β γ)
  | .send request => some { b with requests := b.requests ++ [request] }
  | .loseRequest i => some { b with requests := b.requests.eraseIdx i }
  | .receive append =>
    match b.requests with
    | [] => none
    | request :: rest =>
      if append then
        match R.chunkOf request with
        | some (position, data) =>
          if position = b.staged.length then
            some
              { b with
                requests := rest
                staged := b.staged ++ data
                held := position :: b.held }
          else none
        | none => none
      else some { b with requests := rest }
  | .reply reply =>
    match R.confirms reply with
    | some position =>
      if position ∈ b.held then some { b with replies := b.replies ++ [reply] } else none
    | none => some { b with replies := b.replies ++ [reply] }
  | .loseReply i => some { b with replies := b.replies.eraseIdx i }
  | .deliver =>
    match b.replies with
    | [] => none
    | _ :: rest => some { b with replies := rest }

/-- What the sender sees of a step. -/
def view (b : Bus α β γ) : Act α β → Bus α β γ → List (Seen α β)
  | .send request, _ => [.sent request]
  | .deliver, _ => (b.replies.take 1).map .got
  | _, _ => []

theorem view_length (b : Bus α β γ) (act : Act α β) (b' : Bus α β γ) :
    (view b act b').length ≤ 1 := by
  cases act with
  | deliver =>
    show ((b.replies.take 1).map Seen.got).length ≤ 1
    rw [List.length_map, List.length_take]
    omega
  | send request => exact Nat.le_refl 1
  | _ => exact Nat.zero_le 1

/-! ### The Invariant -/

/-- A request is no chunk, or one of the source, or one that starts before
    the end of the staged part and will never be appended. -/
def Faithful (R : Receiver α β γ) (source : List γ) (size : Nat) (staged : List γ)
    (request : α) : Prop :=
  ∀ position data, R.chunkOf request = some (position, data) →
    position < staged.length ∨ data = (source.drop position).take size

/-- What is staged is a prefix of the source, chunks are chunks of the
    source, and confirmations are backed by staged data. -/
structure Sound (R : Receiver α β γ) (source : List γ) (size : Nat) (b : Bus α β γ) : Prop where
  staged : b.staged <+: source
  requests : ∀ request ∈ b.requests, Faithful R source size b.staged request
  held : ∀ position ∈ b.held, min (position + size) source.length ≤ b.staged.length
  replies : ∀ reply ∈ b.replies, ∀ position, R.confirms reply = some position →
    position ∈ b.held

/-- The receiver only ever stages more. -/
structure Grows (b b' : Bus α β γ) : Prop where
  staged : b.staged <+: b'.staged
  held : b.held ⊆ b'.held

theorem Grows.refl (b : Bus α β γ) : Grows b b := ⟨List.prefix_refl _, List.Subset.refl _⟩

theorem Grows.trans {b b' b'' : Bus α β γ} (h : Grows b b') (h' : Grows b' b'') : Grows b b'' :=
  ⟨h.staged.trans h'.staged, fun _ hx => h'.held (h.held hx)⟩

section invariant

variable {R : Receiver α β γ} {source : List γ} {size : Nat} {b b' : Bus α β γ}

theorem sound_empty (R : Receiver α β γ) (source : List γ) (size : Nat) :
    Sound R source size Bus.empty := by
  constructor
  · exact List.nil_prefix
  · intro request hrequest
    cases hrequest
  · intro position hposition
    cases hposition
  · intro reply hreply
    cases hreply

theorem Faithful.mono {request : α} {staged staged' : List γ}
    (h : Faithful R source size staged request) (hle : staged.length ≤ staged'.length) :
    Faithful R source size staged' request := by
  intro position data hchunk
  rcases h position data hchunk with hpast | hdata
  · exact Or.inl (by omega)
  · exact Or.inr hdata

/-- Messages come and go while the receiver stays as it is. -/
theorem Sound.messages (h : Sound R source size b) (hstaged : b'.staged = b.staged)
    (hheld : b'.held = b.held)
    (hrequests : ∀ request ∈ b'.requests, Faithful R source size b.staged request)
    (hreplies : ∀ reply ∈ b'.replies, ∀ position, R.confirms reply = some position →
      position ∈ b.held) : Sound R source size b' ∧ Grows b b' := by
  refine ⟨⟨?_, ?_, ?_, ?_⟩, ⟨?_, ?_⟩⟩
  · rw [hstaged]
    exact h.staged
  · rw [hstaged]
    exact hrequests
  · rw [hstaged, hheld]
    exact h.held
  · rw [hheld]
    exact hreplies
  · rw [hstaged]
  · rw [hheld]
    exact List.Subset.refl _

/-- A chunk of the source that starts where the staged part ends. -/
theorem append_chunk {staged data : List γ} (hstaged : staged <+: source)
    (hdata : data = (source.drop staged.length).take size) :
    staged ++ data <+: source ∧
      min (staged.length + size) source.length ≤ (staged ++ data).length := by
  obtain ⟨rest, rfl⟩ := hstaged
  rw [List.drop_left] at hdata
  constructor
  · rw [hdata]
    exact (List.prefix_append_right_inj staged).mpr (List.take_prefix size rest)
  · rw [hdata, List.length_append, List.length_append, List.length_take]
    omega

/-- **Step lemma**. -/
theorem sound_step {act : Act α β} (h : Sound R source size b)
    (hsend : ∀ request, act = .send request → Faithful R source size b.staged request)
    (hstep : step R b act = some b') : Sound R source size b' ∧ Grows b b' := by
  cases act with
  | send request =>
    obtain rfl := Option.some.inj hstep
    refine h.messages rfl rfl ?_ h.replies
    intro request' hrequest'
    rcases List.mem_append.mp hrequest' with hold | hnew
    · exact h.requests request' hold
    · obtain rfl := List.mem_singleton.mp hnew
      exact hsend request' rfl
  | loseRequest i =>
    obtain rfl := Option.some.inj hstep
    refine h.messages rfl rfl ?_ h.replies
    intro request hrequest
    exact h.requests request (List.mem_of_mem_eraseIdx hrequest)
  | receive append =>
    simp only [step] at hstep
    split at hstep
    · contradiction
    next request rest hrequests =>
    have hrest : ∀ request' ∈ rest, Faithful R source size b.staged request' := by
      intro request' hrequest'
      apply h.requests request'
      rw [hrequests]
      exact List.mem_cons_of_mem _ hrequest'
    cases append with
    | false =>
      obtain rfl := Option.some.inj hstep
      exact h.messages rfl rfl hrest h.replies
    | true =>
      simp only [if_true] at hstep
      split at hstep
      next position data hchunk =>
        split at hstep
        next hposition =>
          obtain rfl := Option.some.inj hstep
          have hfaithful := h.requests request (by rw [hrequests]; exact List.mem_cons_self)
          -- the chunk starts at the end, so it is one of the source
          have hdata : data = (source.drop b.staged.length).take size := by
            rcases hfaithful position data hchunk with hpast | hdata
            · omega
            · rw [hdata, hposition]
          obtain ⟨hstarts, hlength⟩ := append_chunk h.staged hdata
          have hle : b.staged.length ≤ (b.staged ++ data).length := by
            rw [List.length_append]
            omega
          refine ⟨⟨hstarts, ?_, ?_, ?_⟩, ⟨List.prefix_append _ _, List.subset_cons_self _ _⟩⟩
          · intro request' hrequest'
            exact (hrest request' hrequest').mono hle
          · intro position' hposition'
            rcases List.mem_cons.mp hposition' with rfl | hold
            · rw [hposition]
              exact hlength
            · exact (h.held position' hold).trans hle
          · intro reply hreply position' hconfirms
            exact List.mem_cons_of_mem _ (h.replies reply hreply position' hconfirms)
        · contradiction
      · contradiction
  | reply reply =>
    simp only [step] at hstep
    have hreplies : (∀ position, R.confirms reply = some position → position ∈ b.held) →
        ∀ reply' ∈ b.replies ++ [reply], ∀ position, R.confirms reply' = some position →
          position ∈ b.held := by
      intro hbacked reply' hreply' position hconfirms
      rcases List.mem_append.mp hreply' with hold | hnew
      · exact h.replies reply' hold position hconfirms
      · obtain rfl := List.mem_singleton.mp hnew
        exact hbacked position hconfirms
    split at hstep
    next position hconfirms =>
      split at hstep
      next hheld =>
        obtain rfl := Option.some.inj hstep
        refine h.messages rfl rfl h.requests ?_
        apply hreplies
        intro position' hconfirms'
        obtain rfl := Option.some.inj (hconfirms.symm.trans hconfirms')
        exact hheld
      · contradiction
    next hnone =>
      obtain rfl := Option.some.inj hstep
      refine h.messages rfl rfl h.requests ?_
      apply hreplies
      intro position hconfirms
      rw [hnone] at hconfirms
      contradiction
  | loseReply i =>
    obtain rfl := Option.some.inj hstep
    refine h.messages rfl rfl h.requests ?_
    intro reply hreply
    exact h.replies reply (List.mem_of_mem_eraseIdx hreply)
  | deliver =>
    simp only [step] at hstep
    split at hstep
    · contradiction
    next reply rest hreplies =>
      obtain rfl := Option.some.inj hstep
      refine h.messages rfl rfl h.requests ?_
      intro reply' hreply'
      apply h.replies reply'
      rw [hreplies]
      exact List.mem_cons_of_mem _ hreply'

/-- What the sender reads was backed when it was read. -/
theorem view_backed {act : Act α β} {reply : β} {position : Nat} (h : Sound R source size b)
    (hread : Seen.got reply ∈ view b act b') (hconfirms : R.confirms reply = some position) :
    position ∈ b.held := by
  cases act with
  | deliver =>
    obtain ⟨reply', hreply', heq⟩ := List.mem_map.mp hread
    obtain rfl := Seen.got.inj heq
    exact h.replies reply' (List.mem_of_mem_take hreply') position hconfirms
  | send request =>
    obtain heq := List.mem_singleton.mp hread
    contradiction
  | loseRequest i => cases hread
  | receive append => cases hread
  | reply reply' => cases hread
  | loseReply i => cases hread

/-! ### Whole Runs -/

/-- What a run leaves behind that looks like `log` to the sender. -/
structure Delivered (R : Receiver α β γ) (source : List γ) (size : Nat) (b : Bus α β γ)
    (run : List (Act α β)) (log : List (Seen α β)) (b' : Bus α β γ) : Prop where
  /-- At every point of the run the staged part is a prefix of the source. -/
  always : Transition.Always (step R) (fun b => b.staged <+: source) b run
  sound : Sound R source size b'
  grows : Grows b b'
  backed : ∀ reply position, Seen.got reply ∈ log → R.confirms reply = some position →
    position ∈ b'.held

/-- **Run lemma**: a run whose requests are faithful when it starts. -/
theorem delivered_run {run : List (Act α β)} (h : Sound R source size b)
    (hrun : Transition.exec (step R) b run = some b')
    (hsent : ∀ request, Seen.sent request ∈ Transition.observe (step R) view b run →
      Faithful R source size b.staged request) :
    Delivered R source size b run (Transition.observe (step R) view b run) b' := by
  induction run generalizing b with
  | nil =>
    obtain rfl : b = b' := by simpa using hrun
    refine ⟨h.staged, h, Grows.refl b, ?_⟩
    intro reply position hread
    cases hread
  | cons act run ih =>
    obtain ⟨u, hu, hrest⟩ := Transition.exec_cons_some.mp hrun
    rw [Transition.observe_cons run hu] at hsent ⊢
    have hsend : ∀ request, act = .send request → Faithful R source size b.staged request := by
      intro request heq
      apply hsent request
      rw [heq]
      exact List.mem_append_left _ (List.mem_singleton_self _)
    obtain ⟨hsound, hgrows⟩ := sound_step h hsend hu
    have hlater : ∀ request, Seen.sent request ∈ Transition.observe (step R) view u run →
        Faithful R source size u.staged request := by
      intro request hrequest
      exact (hsent request (List.mem_append_right _ hrequest)).mono hgrows.staged.length_le
    have hih := ih hsound hrest hlater
    refine ⟨⟨h.staged, ?_⟩, hih.sound, hgrows.trans hih.grows, ?_⟩
    · intro u' hu'
      obtain rfl := Option.some.inj (hu.symm.trans hu')
      exact hih.always
    · intro reply position hread hconfirms
      rcases List.mem_append.mp hread with hnow | hthen
      · have hheld := view_backed h hnow hconfirms
        exact (hgrows.trans hih.grows).held hheld
      · exact hih.backed reply position hthen hconfirms

/-- Runs compose, and what they leave behind does. -/
theorem Delivered.append {b'' : Bus α β γ} {run run' : List (Act α β)}
    {log log' : List (Seen α β)} (h : Delivered R source size b run log b')
    (hrun : Transition.exec (step R) b run = some b')
    (h' : Delivered R source size b' run' log' b'') :
    Delivered R source size b (run ++ run') (log ++ log') b'' := by
  refine ⟨?_, h'.sound, h.grows.trans h'.grows, ?_⟩
  · rw [Transition.always_append]
    refine ⟨h.always, ?_⟩
    intro t ht
    obtain rfl := Option.some.inj (hrun.symm.trans ht)
    exact h'.always
  · intro reply position hread hconfirms
    rcases List.mem_append.mp hread with hearlier | hlater
    · exact h'.grows.held (h.backed reply position hearlier hconfirms)
    · exact h'.backed reply position hlater hconfirms

end invariant

end StagedTransfer
