import LibPpuc.Framework.Transition
import Mathlib.Data.List.Pairwise

/-! # A Lossy Bus that Keeps the Order

  A host sends requests over a bus; whoever a request reaches answers it
  with one reply that echoes it.  Messages may be lost at any point and be
  late by any time, but none overtakes another and none is doubled.

  Requests are numbered in the order they are sent.  The numbers are not on
  the wire: the host sees its own requests and the replies it reads, and a
  reply may echo more than one request.

  Main result (`read_new_reply`): a reply that the host reads answers a
  request later than those of all replies read before.
-/

universe u v

namespace OrderedBus

variable {α : Type u} {β : Type v}

/-- The messages on the bus, with the numbers of their requests, and three
    histories. -/
structure Bus (α : Type u) (β : Type v) where
  /-- All requests sent; the position is the number. -/
  sent : List α
  /-- Requests on their way. -/
  requests : List Nat
  /-- All replies given. -/
  answered : List (Nat × β)
  /-- Replies on their way. -/
  replies : List (Nat × β)
  /-- All replies read by the host. -/
  delivered : List (Nat × β)
  deriving DecidableEq

/-- Nothing has been sent. -/
def Bus.empty : Bus α β := ⟨[], [], [], [], []⟩

/-- What can happen on the bus. -/
inductive Act (α : Type u) (β : Type v) where
  | send (request : α)
  | loseRequest (i : Nat)
  /-- The first request on its way arrives and is answered. -/
  | answer (reply : β)
  | loseReply (i : Nat)
  /-- The host reads the first reply on its way. -/
  | deliver

/-- What the host sees. -/
inductive Seen (α : Type u) (β : Type v) where
  | sent (request : α)
  | got (reply : β)
  deriving DecidableEq

section bus

variable (Echoes : α → β → Prop) [∀ request reply, Decidable (Echoes request reply)]

/-- One step of the bus. -/
def step (b : Bus α β) : Act α β → Option (Bus α β)
  | .send request =>
    some { b with sent := b.sent ++ [request], requests := b.requests ++ [b.sent.length] }
  | .loseRequest i => some { b with requests := b.requests.eraseIdx i }
  | .answer reply =>
    match b.requests with
    | [] => none
    | n :: rest =>
      match b.sent[n]? with
      | none => none
      | some request =>
        if Echoes request reply then
          some
            { b with
              requests := rest
              answered := b.answered ++ [(n, reply)]
              replies := b.replies ++ [(n, reply)] }
        else none
  | .loseReply i => some { b with replies := b.replies.eraseIdx i }
  | .deliver =>
    match b.replies with
    | [] => none
    | reply :: rest => some { b with replies := rest, delivered := b.delivered ++ [reply] }

/-- What the host sees of a step. -/
def view (b : Bus α β) : Act α β → Bus α β → List (Seen α β)
  | .send request, _ => [.sent request]
  | .deliver, _ => (b.replies.take 1).map fun reply => .got reply.2
  | _, _ => []

/-- A run of the bus that ends in `b` and looks like `log` to the host. -/
def Explains (start : Bus α β) (log : List (Seen α β)) (b : Bus α β) : Prop :=
  ∃ run, Transition.exec (step Echoes) start run = some b ∧
    Transition.observe (step Echoes) view start run = log

end bus

/-- The requests of a log. -/
def sentIn (log : List (Seen α β)) : List α :=
  log.filterMap fun
    | .sent request => some request
    | .got _ => none

/-- The replies of a log. -/
def gotIn (log : List (Seen α β)) : List β :=
  log.filterMap fun
    | .sent _ => none
    | .got reply => some reply

theorem sentIn_append (log log' : List (Seen α β)) :
    sentIn (log ++ log') = sentIn log ++ sentIn log' := List.filterMap_append

theorem gotIn_append (log log' : List (Seen α β)) :
    gotIn (log ++ log') = gotIn log ++ gotIn log' := List.filterMap_append

/-! ### The Invariant -/

/-- The numbers on the bus, from the host's hands back to the responders. -/
def Bus.numbers (b : Bus α β) : List Nat :=
  (b.delivered ++ b.replies).map Prod.fst ++ b.requests

/-- Order is kept, and every reply was given to the request it is numbered
    with. -/
structure Ordered (Echoes : α → β → Prop) (b : Bus α β) : Prop where
  increasing : b.numbers.Pairwise (· < ·)
  bounded : ∀ n ∈ b.numbers, n < b.sent.length
  echoed : ∀ reply ∈ b.delivered ++ b.replies, reply ∈ b.answered ∧
    ∃ request, b.sent[reply.1]? = some request ∧ Echoes request reply.2

theorem ordered_empty (Echoes : α → β → Prop) : Ordered Echoes (Bus.empty : Bus α β) :=
  ⟨List.Pairwise.nil, fun _ h => (nomatch h), fun _ h => (nomatch h)⟩

/-- Losing messages keeps the invariant. -/
theorem Ordered.lose {Echoes : α → β → Prop} {b b' : Bus α β} (h : Ordered Echoes b)
    (hsent : b'.sent = b.sent) (hanswered : b'.answered = b.answered)
    (hdelivered : b'.delivered = b.delivered) (hreplies : b'.replies.Sublist b.replies)
    (hrequests : b'.requests.Sublist b.requests) : Ordered Echoes b' := by
  have hmessages : (b'.delivered ++ b'.replies).Sublist (b.delivered ++ b.replies) := by
    rw [hdelivered]
    exact (List.Sublist.refl _).append hreplies
  have hnumbers : b'.numbers.Sublist b.numbers := (hmessages.map Prod.fst).append hrequests
  refine ⟨h.increasing.sublist hnumbers, ?_, ?_⟩
  · intro n hn
    rw [hsent]
    exact h.bounded n (hnumbers.subset hn)
  · intro reply hreply
    rw [hsent, hanswered]
    exact h.echoed reply (hmessages.subset hreply)

section invariant

variable {Echoes : α → β → Prop} [∀ request reply, Decidable (Echoes request reply)]

/-- **Step lemma**. -/
theorem ordered_step (b : Bus α β) (act : Act α β) (b' : Bus α β) (h : Ordered Echoes b)
    (hstep : step Echoes b act = some b') : Ordered Echoes b' := by
  cases act with
  | send request =>
    obtain rfl := Option.some.inj hstep
    have hnumbers : (b.delivered ++ b.replies).map Prod.fst ++ (b.requests ++ [b.sent.length]) =
        b.numbers ++ [b.sent.length] := (List.append_assoc _ _ _).symm
    refine ⟨?_, ?_, ?_⟩
    · show ((b.delivered ++ b.replies).map Prod.fst ++ (b.requests ++ [b.sent.length])).Pairwise _
      rw [hnumbers, List.pairwise_append]
      refine ⟨h.increasing, List.pairwise_singleton _ _, ?_⟩
      intro n hn m hm
      obtain rfl := List.mem_singleton.mp hm
      exact h.bounded n hn
    · intro n hn
      have hn' : n ∈ b.numbers ++ [b.sent.length] := hnumbers ▸ hn
      show n < (b.sent ++ [request]).length
      rw [List.length_append]
      rcases List.mem_append.mp hn' with hold | hnew
      · exact Nat.lt_add_right 1 (h.bounded n hold)
      · obtain rfl := List.mem_singleton.mp hnew
        exact Nat.lt_succ_self _
    · intro reply hreply
      obtain ⟨hanswered, r, hr, hechoes⟩ := h.echoed reply hreply
      refine ⟨hanswered, r, ?_, hechoes⟩
      show (b.sent ++ [request])[reply.1]? = some r
      have hlt : reply.1 < b.sent.length := (List.getElem?_eq_some_iff.mp hr).1
      rw [List.getElem?_append_left hlt]
      exact hr
  | loseRequest i =>
    obtain rfl := Option.some.inj hstep
    exact h.lose rfl rfl rfl (List.Sublist.refl _) (List.eraseIdx_sublist _ _)
  | answer reply =>
    simp only [step] at hstep
    split at hstep
    · exact nomatch hstep
    next n rest hrequests =>
    split at hstep
    · exact nomatch hstep
    next request hrequest =>
    split at hstep
    next hechoes =>
      obtain rfl := Option.some.inj hstep
      -- the number only moves from the requests to the replies
      have hnumbers : ∀ answered : List (Nat × β), Bus.numbers
          { b with requests := rest, answered := answered, replies := b.replies ++ [(n, reply)] } =
            b.numbers := by
        intro answered
        unfold Bus.numbers
        rw [hrequests]
        simp
      refine ⟨?_, ?_, ?_⟩
      · rw [hnumbers]
        exact h.increasing
      · rw [hnumbers]
        exact h.bounded
      · intro reply' hreply'
        rw [← List.append_assoc] at hreply'
        rcases List.mem_append.mp hreply' with hold | hnew
        · obtain ⟨hanswered, hold'⟩ := h.echoed reply' hold
          exact ⟨List.mem_append_left _ hanswered, hold'⟩
        · obtain rfl := List.mem_singleton.mp hnew
          exact ⟨List.mem_append_right _ (List.mem_singleton_self _), request, hrequest, hechoes⟩
    · exact nomatch hstep
  | loseReply i =>
    obtain rfl := Option.some.inj hstep
    exact h.lose rfl rfl rfl (List.eraseIdx_sublist _ _) (List.Sublist.refl _)
  | deliver =>
    simp only [step] at hstep
    split at hstep
    · exact nomatch hstep
    next reply rest hreplies =>
      obtain rfl := Option.some.inj hstep
      have hmessages : b.delivered ++ [reply] ++ rest = b.delivered ++ b.replies := by
        rw [hreplies]
        simp
      refine ⟨?_, ?_, ?_⟩
      · show ((b.delivered ++ [reply] ++ rest).map Prod.fst ++ b.requests).Pairwise _
        rw [hmessages]
        exact h.increasing
      · intro n hn
        have hn' : n ∈ (b.delivered ++ [reply] ++ rest).map Prod.fst ++ b.requests := hn
        rw [hmessages] at hn'
        exact h.bounded n hn'
      · intro reply' hreply'
        have hmem : reply' ∈ b.delivered ++ [reply] ++ rest := hreply'
        rw [hmessages] at hmem
        exact h.echoed reply' hmem

/-- What a step adds to the histories. -/
theorem step_histories {b b' : Bus α β} {act : Act α β} (hstep : step Echoes b act = some b') :
    b'.sent = b.sent ++ sentIn (view b act b') ∧
      (∃ more, b'.delivered = b.delivered ++ more ∧ more.map Prod.snd = gotIn (view b act b')) ∧
      b.answered ⊆ b'.answered := by
  cases act with
  | send request =>
    obtain rfl := Option.some.inj hstep
    exact ⟨rfl, ⟨[], (List.append_nil _).symm, rfl⟩, List.Subset.refl _⟩
  | loseRequest i =>
    obtain rfl := Option.some.inj hstep
    exact ⟨(List.append_nil _).symm, ⟨[], (List.append_nil _).symm, rfl⟩, List.Subset.refl _⟩
  | answer reply =>
    simp only [step] at hstep
    split at hstep
    · exact nomatch hstep
    split at hstep
    · exact nomatch hstep
    split at hstep
    · obtain rfl := Option.some.inj hstep
      exact ⟨(List.append_nil _).symm, ⟨[], (List.append_nil _).symm, rfl⟩,
        List.subset_append_left _ _⟩
    · exact nomatch hstep
  | loseReply i =>
    obtain rfl := Option.some.inj hstep
    exact ⟨(List.append_nil _).symm, ⟨[], (List.append_nil _).symm, rfl⟩, List.Subset.refl _⟩
  | deliver =>
    simp only [step] at hstep
    split at hstep
    · exact nomatch hstep
    next reply rest hreplies =>
      obtain rfl := Option.some.inj hstep
      refine ⟨?_, ⟨[reply], rfl, ?_⟩, List.Subset.refl _⟩
      · simp [view, hreplies, sentIn]
      · simp [view, hreplies, gotIn]

/-- **Run lemma**: the histories of a run. -/
theorem run_histories {b b' : Bus α β} {run : List (Act α β)}
    (hrun : Transition.exec (step Echoes) b run = some b') :
    b'.sent = b.sent ++ sentIn (Transition.observe (step Echoes) view b run) ∧
      (∃ more, b'.delivered = b.delivered ++ more ∧
        more.map Prod.snd = gotIn (Transition.observe (step Echoes) view b run)) ∧
      b.answered ⊆ b'.answered := by
  induction run generalizing b with
  | nil =>
    obtain rfl : b = b' := by simpa using hrun
    exact ⟨(List.append_nil _).symm, ⟨[], (List.append_nil _).symm, rfl⟩, List.Subset.refl _⟩
  | cons act run ih =>
    obtain ⟨u, hu, hrest⟩ := Transition.exec_cons_some.mp hrun
    obtain ⟨hsent, ⟨more, hdelivered, hmore⟩, hanswered⟩ := step_histories hu
    obtain ⟨hsent', ⟨more', hdelivered', hmore'⟩, hanswered'⟩ := ih hrest
    rw [Transition.observe_cons run hu]
    refine ⟨?_, ⟨more ++ more', ?_, ?_⟩, fun _ h => hanswered' (hanswered h)⟩
    · rw [hsent', hsent, sentIn_append, List.append_assoc]
    · rw [hdelivered', hdelivered, List.append_assoc]
    · rw [List.map_append, hmore, hmore', gotIn_append]

/-! ### Logs -/

theorem Explains.ordered {b b' : Bus α β} {log : List (Seen α β)} (h : Ordered Echoes b)
    (hlog : Explains Echoes b log b') : Ordered Echoes b' := by
  obtain ⟨run, hrun, -⟩ := hlog
  exact Transition.exec_invariant ordered_step h hrun

theorem Explains.sent {b b' : Bus α β} {log : List (Seen α β)}
    (hlog : Explains Echoes b log b') : b'.sent = b.sent ++ sentIn log := by
  obtain ⟨run, hrun, rfl⟩ := hlog
  exact (run_histories hrun).1

theorem Explains.answered {b b' : Bus α β} {log : List (Seen α β)}
    (hlog : Explains Echoes b log b') : b.answered ⊆ b'.answered := by
  obtain ⟨run, hrun, rfl⟩ := hlog
  exact (run_histories hrun).2.2

/-- An explanation can be cut at any point of the log. -/
theorem Explains.split {b b' : Bus α β} {log log' : List (Seen α β)}
    (h : Explains Echoes b (log ++ log') b') :
    ∃ u, Explains Echoes b log u ∧ Explains Echoes u log' b' := by
  obtain ⟨run, hrun, hshown⟩ := h
  have hview : ∀ (b : Bus α β) act b', (view b act b').length ≤ 1 := by
    intro b act b'
    cases act with
    | deliver =>
      show ((b.replies.take 1).map _).length ≤ 1
      rw [List.length_map, List.length_take]
      omega
    | send request => exact Nat.le_refl 1
    | _ => exact Nat.zero_le 1
  obtain ⟨run₁, run₂, u, -, hrun₁, hshown₁, hrun₂, hshown₂⟩ :=
    Transition.exec_split hview hrun hshown
  exact ⟨u, ⟨run₁, hrun₁, hshown₁⟩, ⟨run₂, hrun₂, hshown₂⟩⟩

/-- **A reply is newer than all read before**: the last reply of a log
    answers and echoes a request whose number is greater than those of the
    replies read before the log. -/
theorem read_new_reply {b b' : Bus α β} {log : List (Seen α β)} {reply : β}
    (h : Ordered Echoes b) (hlog : Explains Echoes b (log ++ [.got reply]) b') :
    ∃ n request, (n, reply) ∈ b'.delivered ∧ (n, reply) ∈ b'.answered ∧
      (∀ earlier ∈ b.delivered, earlier.1 < n) ∧ b'.sent[n]? = some request ∧
      Echoes request reply := by
  have h' := Explains.ordered h hlog
  obtain ⟨run, hrun, hshown⟩ := hlog
  obtain ⟨-, ⟨more, hdelivered, hmore⟩, -⟩ := run_histories hrun
  rw [hshown, gotIn_append] at hmore
  -- the last reply delivered is the last of the log
  obtain ⟨rest, last, rfl, -, hlast⟩ := List.map_eq_append_iff.mp hmore
  obtain ⟨⟨n, reply'⟩, others, rfl, hreply, hothers⟩ := List.map_eq_cons_iff.mp hlast
  obtain rfl : reply' = reply := hreply
  obtain rfl : others = [] := List.map_eq_nil_iff.mp hothers
  have hmem : (n, reply') ∈ b'.delivered := by
    rw [hdelivered]
    simp
  obtain ⟨hanswered, request, hsent, hechoes⟩ := h'.echoed _ (List.mem_append_left _ hmem)
  refine ⟨n, request, hmem, hanswered, ?_, hsent, hechoes⟩
  intro earlier hearlier
  have hincreasing : (b'.delivered.map Prod.fst).Pairwise (· < ·) := by
    refine h'.increasing.sublist ?_
    unfold Bus.numbers
    rw [List.map_append, List.append_assoc]
    exact List.sublist_append_left _ _
  rw [hdelivered, List.map_append, List.pairwise_append] at hincreasing
  exact hincreasing.2.2 earlier.1 (List.mem_map_of_mem hearlier) n (by simp)

end invariant

end OrderedBus
