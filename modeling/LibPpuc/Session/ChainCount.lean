import LibPpuc.Session.CleanChain

/-! # What a Clean Chain Tells

  A chain counts as clean if no hop failed.  The loop ends without a failure
  at `kNoBoard` and at the hop limit alike, and never compares the boards it
  served with the list.  So a reply that hands on `kNoBoard` early, hands on
  to a board that was served before, or lets the hops run out, makes an
  incomplete chain count as clean.

  `InOrder` says hop by hop that this does not happen; it is exactly what the
  count needs to be truthful.
-/

namespace LibPpuc

namespace ChainHop

variable {P : Protocol} {W : Type}

/-- The token that is handed on at the end of a hop, unless the hop fails. -/
def handsOn (port : SerialPort W) (h : ChainHop P W) : Option UInt8 :=
  if (h.run port).1.ok then some (h.run port).1.nextBoard else none

end ChainHop

namespace Comm

variable {P : Protocol} {W : Type}

/-! ### The Property -/

/-- The chain is counted as clean. -/
def CountsClean (port : SerialPort W) (c : Comm P) (w : W) : Prop :=
  (c.afterPoll port w).cleanSwitchReplyChainCount = c.cleanSwitchReplyChainCount + 1 ∧
    (c.afterPoll port w).switchReplyMisses = 0

/-- The chain ended with `kNoBoard`, and each board of the list was served
    once. -/
structure ServedAll (port : SerialPort W) (c : Comm P) (w : W) : Prop where
  ended : (c.pollRun port w).expected = P.kNoBoard
  once : ∀ b ∈ c.switchBoards, ((c.pollRun port w).hops.map ChainHop.board).count b = 1

/-- A chain that is counted as clean was complete. -/
def CleanIsComplete (port : SerialPort W) (c : Comm P) (w : W) : Prop :=
  c.CountsClean port w → c.ServedAll port w

/-- The hops keep to the list, with `left` hops to go after `served`: no board
    of the list is served again, `kNoBoard` is handed on only after the last
    of them, and the last hop hands it on. -/
def InOrder (port : SerialPort W) (boards : List UInt8) :
    Nat → List UInt8 → List (ChainHop P W) → Prop
  | _, _, [] => True
  | left, served, h :: hs =>
    (h.board ∈ boards → h.board ∉ served) ∧
      (h.handsOn port = some P.kNoBoard → ∀ b ∈ boards, b = h.board ∨ b ∈ served) ∧
      (left = 1 → h.handsOn port = some P.kNoBoard) ∧
      InOrder port boards (left - 1) (h.board :: served) hs

/-! ### Clean Means that No Hop Failed -/

theorem success_iff (port : SerialPort W) (hops : Nat) (expected : UInt8) (r : SwitchReply)
    (c : Comm P) (w : W) :
    (chainHops port hops expected r c w).success = true ↔
      ∀ h ∈ (chainHops port hops expected r c w).hops, h.handsOn port ≠ none := by
  induction hops generalizing expected r c w with
  | zero => simp [chainHops]
  | succ hops ih =>
    unfold chainHops
    split
    · simp
    · dsimp only
      split
      · next hok =>
        rw [List.forall_mem_cons, ← ih]
        simp [ChainHop.handsOn, hok]
      · next hfail => simp [ChainHop.handsOn, hfail]

/-- The counters tell whether a hop failed. -/
theorem countsClean_iff (port : SerialPort W) (c : Comm P) (w : W) :
    c.CountsClean port w ↔ ∀ h ∈ (c.pollRun port w).hops, h.handsOn port ≠ none := by
  have hsuccess : (c.pollRun port w).success = true ↔
      ∀ h ∈ (c.pollRun port w).hops, h.handsOn port ≠ none := success_iff port _ _ _ c w
  rw [← hsuccess]
  have hpart : (c.pollRun port w).comm.hopPart = c.hopPart := (hopPart_chainHops port _ _ _ c w).1
  have hcount : (c.pollRun port w).comm.cleanSwitchReplyChainCount =
      c.cleanSwitchReplyChainCount := (congrArg Comm.cleanSwitchReplyChainCount hpart :)
  have hafter : c.afterPoll port w = (c.pollRun port w).comm.noteSwitchReplyChain port
      (c.pollRun port w).world (c.pollRun port w).success := by
    unfold afterPoll
    rw [receiveSwitchStateChain_eq]
    rfl
  unfold CountsClean
  rw [hafter, ← hcount]
  cases (c.pollRun port w).success with
  | true => exact iff_of_true ⟨rfl, rfl⟩ rfl
  | false =>
    refine iff_of_false ?_ (by simp)
    rintro ⟨hmore, -⟩
    -- a missed chain leaves the count as it was
    have hsame : ((c.pollRun port w).comm.noteSwitchReplyChain port (c.pollRun port w).world
        false).cleanSwitchReplyChainCount = (c.pollRun port w).comm.cleanSwitchReplyChainCount := by
      unfold noteSwitchReplyChain
      dsimp only
      rw [if_neg (by simp)]
      split <;> rfl
    rw [hsame] at hmore
    have hzero : (1 : UInt32) = 0 := by simpa using hmore.symm
    exact absurd hzero (by decide)

/-! ### The Order of the Hops -/

/-- **Run lemma**: after the boards `served`, without a failure, the rest of
    the chain serves the boards that are left once each and ends at `kNoBoard`
    exactly if its hops are in order. -/
theorem served_iff_inOrder (port : SerialPort W) {boards : List UInt8} {hops : Nat}
    {expected : UInt8} (hhops : 0 < hops) (hmore : expected ≠ P.kNoBoard) (r : SwitchReply)
    (c : Comm P) (w : W) {served : List UInt8} (honce : ∀ b ∈ boards, served.count b ≤ 1)
    (hok : ∀ h ∈ (chainHops port hops expected r c w).hops, h.handsOn port ≠ none) :
    ((chainHops port hops expected r c w).expected = P.kNoBoard ∧
      ∀ b ∈ boards, ((chainHops port hops expected r c w).hops.map ChainHop.board).count b +
        served.count b = 1) ↔
      InOrder port boards hops served (chainHops port hops expected r c w).hops := by
  induction hops generalizing expected r c w served with
  | zero => omega
  | succ hops ih =>
    unfold chainHops at hok ⊢
    rw [if_neg hmore] at hok ⊢
    have htoken : ChainHop.handsOn port ⟨expected, r, c, w⟩ =
        some (ChainHop.run port ⟨expected, r, c, w⟩).1.nextBoard := by
      have hfirst : ChainHop.handsOn port ⟨expected, r, c, w⟩ ≠ none := by
        apply hok
        dsimp only
        split <;> exact List.mem_cons_self
      unfold ChainHop.handsOn at hfirst ⊢
      split
      · rfl
      · next hfail => exact absurd (if_neg hfail) hfirst
    have hrunOk : (ChainHop.run port ⟨expected, r, c, w⟩).1.ok = true := by
      by_contra hfail
      unfold ChainHop.handsOn at htoken
      rw [if_neg hfail] at htoken
      contradiction
    dsimp only at hok ⊢
    rw [if_pos hrunOk] at hok ⊢
    generalize ChainHop.run port ⟨expected, r, c, w⟩ = result at htoken hok ⊢
    obtain ⟨r', c', w'⟩ := result
    dsimp only at htoken hok ⊢
    have hrest := fun h hh => hok h (List.mem_cons_of_mem _ hh)
    unfold InOrder
    rw [htoken, List.map_cons, Nat.add_sub_cancel]
    -- the counts after this hop
    have hcount : ∀ (b : UInt8) (later : List UInt8),
        (expected :: later).count b + served.count b =
          later.count b + (expected :: served).count b := by
      intro b later
      rw [List.count_cons, List.count_cons]
      omega
    simp only [hcount, Option.some.injEq]
    by_cases hend : r'.nextBoard = P.kNoBoard
    · -- the chain ends here
      have hstop : chainHops port hops r'.nextBoard r' c' w' = ⟨[], true, P.kNoBoard, c', w'⟩ := by
        rw [hend]
        cases hops with
        | zero => rfl
        | succ hops => exact if_pos rfl
      rw [hstop]
      simp only [hend, List.map_nil, List.count_nil, Nat.zero_add, true_and, forall_const, InOrder,
        and_true, implies_true]
      constructor
      · intro hall
        refine ⟨?_, ?_⟩
        · intro hin hserved
          have hone := hall expected hin
          rw [List.count_cons_self] at hone
          have hpos := List.count_pos_iff.mpr hserved
          omega
        · intro b hb
          apply List.mem_cons.mp
          apply List.count_pos_iff.mp
          rw [hall b hb]
          exact Nat.one_pos
      · rintro ⟨hnew, hall⟩ b hb
        rcases hall b hb with rfl | hserved
        · have hzero := List.count_eq_zero.mpr (hnew hb)
          rw [List.count_cons_self, hzero]
        · by_cases heq : expected = b
          · subst heq
            exact absurd hserved (hnew hb)
          · have hpos := List.count_pos_iff.mpr hserved
            have hle := honce b hb
            rw [List.count_cons_of_ne heq]
            omega
    · simp only [hend, false_imp_iff, true_and, imp_false]
      by_cases hlast : hops = 0
      · -- the hops have run out
        subst hlast
        refine iff_of_false ?_ ?_
        · rintro ⟨hended, -⟩
          exact hend hended
        · rintro ⟨-, hno, -⟩
          exact hno rfl
      · have hleft : ¬ hops + 1 = 1 := by omega
        simp only [hleft, not_false_eq_true, true_and]
        by_cases hnew : expected ∈ boards → expected ∉ served
        · have honce' : ∀ b ∈ boards, (expected :: served).count b ≤ 1 := by
            intro b hb
            by_cases heq : expected = b
            · subst heq
              have hzero := List.count_eq_zero.mpr (hnew hb)
              rw [List.count_cons_self, hzero]
            · rw [List.count_cons_of_ne heq]
              exact honce b hb
          rw [ih (Nat.pos_of_ne_zero hlast) hend r' c' w' honce' hrest]
          exact (and_iff_right hnew).symm
        · -- a board of the list is served again
          refine iff_of_false ?_ (fun h => hnew h.1)
          rintro ⟨-, hall⟩
          obtain ⟨hin, hserved⟩ : expected ∈ boards ∧ expected ∈ served := by
            simpa using hnew
          have hone := hall expected hin
          rw [List.count_cons_self] at hone
          have hpos := List.count_pos_iff.mpr hserved
          omega

/-- **A clean chain was complete exactly if its hops were in order**: for
    every session with active boards and whatever tokens the replies carry. -/
theorem clean_chain_complete_iff (hno : P.ReservesNoBoard) (port : SerialPort W) (c : Comm P)
    (w : W) (hsome : c.switchBoards ≠ [])
    (hlt : ∀ b ∈ c.switchBoards, b.toNat < RS485_COMM_MAX_BOARDS) :
    c.CleanIsComplete port w ↔
      (∃ h ∈ (c.pollRun port w).hops, h.handsOn port = none) ∨
        InOrder port c.switchBoards RS485_COMM_MAX_BOARDS [] (c.pollRun port w).hops := by
  have hmore : c.switchBoards.headD P.kNoBoard ≠ P.kNoBoard := by
    obtain ⟨first, rest, hboards⟩ := List.exists_cons_of_ne_nil hsome
    rw [hboards, List.headD_cons]
    rintro rfl
    exact absurd hno (Nat.not_le.mpr (hlt P.kNoBoard (hboards ▸ List.mem_cons_self)))
  unfold CleanIsComplete
  rw [countsClean_iff]
  by_cases hok : ∀ h ∈ (c.pollRun port w).hops, h.handsOn port ≠ none
  · have hserved : (c.pollRun port w).expected = P.kNoBoard ∧
        (∀ b ∈ c.switchBoards, ((c.pollRun port w).hops.map ChainHop.board).count b +
          ([] : List UInt8).count b = 1) ↔
        InOrder port c.switchBoards RS485_COMM_MAX_BOARDS [] (c.pollRun port w).hops :=
      served_iff_inOrder port (by decide) hmore _ c w (fun b _ => Nat.zero_le 1) hok
    have hnone : ¬ ∃ h ∈ (c.pollRun port w).hops, h.handsOn port = none := by
      rintro ⟨h, hh, hfail⟩
      exact hok h hh hfail
    rw [or_iff_right hnone, ← hserved]
    constructor
    · intro h
      obtain ⟨hended, honce⟩ := h hok
      exact ⟨hended, honce⟩
    · intro h _
      exact ⟨h.1, h.2⟩
  · refine iff_of_true (fun hall => absurd hall hok) (Or.inl ?_)
    simpa using hok

/-! ### Chains That Follow the List -/

/-- Hops that hand on to the successor in the list walk the rest of it. -/
theorem boards_of_successors (port : SerialPort W) {boards done rest : List UInt8}
    (hboards : boards = done ++ rest) (hnodup : boards.Nodup) (hdone : P.kNoBoard ∉ boards)
    {hops : Nat} (hhops : rest.length ≤ hops) (r : SwitchReply) (c : Comm P) (w : W)
    (hsucc : ∀ h ∈ (chainHops port hops (rest.headD P.kNoBoard) r c w).hops,
      h.handsOn port = some (boards.nextOr h.board P.kNoBoard)) :
    (chainHops port hops (rest.headD P.kNoBoard) r c w).hops.map ChainHop.board = rest ∧
      (chainHops port hops (rest.headD P.kNoBoard) r c w).expected = P.kNoBoard := by
  induction rest generalizing done hops r c w with
  | nil =>
    cases hops with
    | zero => exact ⟨rfl, rfl⟩
    | succ hops =>
      unfold chainHops
      rw [List.headD_nil, if_pos rfl]
      exact ⟨rfl, rfl⟩
  | cons b rest ih =>
    obtain ⟨hops, rfl⟩ : ∃ n, hops = n + 1 := ⟨hops - 1, by rw [List.length_cons] at hhops; omega⟩
    have hmore : b ≠ P.kNoBoard := by
      rintro rfl
      exact hdone (by rw [hboards]; exact List.mem_append_right done List.mem_cons_self)
    -- no board is asked twice
    have hnew : b ∉ done := by
      intro hin
      rw [hboards] at hnodup
      exact (List.nodup_append.mp hnodup).2.2 b hin b List.mem_cons_self rfl
    rw [List.headD_cons] at hsucc ⊢
    unfold chainHops at hsucc ⊢
    rw [if_neg hmore] at hsucc ⊢
    dsimp only at hsucc ⊢
    -- so its successor in the list is the head of the rest
    have hfirst : ChainHop.handsOn port ⟨b, r, c, w⟩ = some (rest.headD P.kNoBoard) := by
      have hhop := hsucc ⟨b, r, c, w⟩ (by split <;> exact List.mem_cons_self)
      rwa [hboards, Successor.nextOr_append_cons hnew] at hhop
    unfold ChainHop.handsOn at hfirst
    generalize ChainHop.run port ⟨b, r, c, w⟩ = result at hfirst hsucc ⊢
    obtain ⟨r', c', w'⟩ := result
    dsimp only at hfirst hsucc ⊢
    split at hfirst
    · next hok =>
      have htoken := Option.some.inj hfirst
      rw [if_pos hok, htoken] at hsucc ⊢
      obtain ⟨hlater, hended⟩ := ih (by rw [hboards, List.append_cons])
        (by rw [List.length_cons] at hhops; omega) r' c' w'
        fun h hh => hsucc h (List.mem_cons_of_mem _ hh)
      exact ⟨by rw [List.map_cons, hlater], hended⟩
    · contradiction

/-- If every hop that succeeds hands on to the successor in the list, and no
    board is listed twice, a clean chain was complete. -/
theorem clean_complete_of_successors (hno : P.ReservesNoBoard) (port : SerialPort W) (c : Comm P)
    (w : W) (hnodup : c.switchBoards.Nodup)
    (hlt : ∀ b ∈ c.switchBoards, b.toNat < RS485_COMM_MAX_BOARDS)
    (hsucc : ∀ h ∈ (c.pollRun port w).hops, ∀ t, h.handsOn port = some t →
      t = c.switchBoards.nextOr h.board P.kNoBoard) : c.CleanIsComplete port w := by
  intro hclean
  have hok := (countsClean_iff port c w).mp hclean
  have hdone : P.kNoBoard ∉ c.switchBoards := fun hin => absurd hno (Nat.not_le.mpr (hlt _ hin))
  have hlength := (Startup.map_toNat_subperm hnodup hlt).length_le
  rw [List.length_map, List.length_range] at hlength
  have hwalk : (c.pollRun port w).hops.map ChainHop.board = c.switchBoards ∧
      (c.pollRun port w).expected = P.kNoBoard := by
    apply boards_of_successors port (List.nil_append _).symm hnodup hdone hlength
    intro h hh
    obtain ⟨t, ht⟩ := Option.ne_none_iff_exists'.mp (hok h hh)
    rw [ht, hsucc h hh t ht]
  refine ⟨hwalk.2, ?_⟩
  intro b hb
  rw [hwalk.1]
  exact List.count_eq_one_of_mem hnodup hb

end Comm

namespace Reference

open Comm

/-- Board 1 answers with its state and hands on to nobody. -/
def lastReply : List UInt8 :=
  protocol.buildSwitchReplyFrame true 0xFF 0 1 1 0 0
    (Vector.ofFn fun k => if k.val = 0 then 1 else 0) 1

/-- Board 2 is never served, and the chain counts as clean. -/
theorem early_end_counts_clean :
    ¬ CleanIsComplete port pollSession { rx := lastReply, rounds := 1 } := by
  intro hcomplete
  have hclean : CountsClean port pollSession { rx := lastReply, rounds := 1 } :=
    ⟨by decide +kernel, by decide +kernel⟩
  have honce := (hcomplete hclean).once 2 (by decide)
  exact absurd honce (by decide +kernel)

/-- A chain over both boards. -/
theorem both_boards_complete :
    CleanIsComplete port pollSession pollWorld ↔
      (∃ h ∈ (pollSession.pollRun port pollWorld).hops, h.handsOn port = none) ∨
        InOrder port pollSession.switchBoards RS485_COMM_MAX_BOARDS []
          (pollSession.pollRun port pollWorld).hops :=
  clean_chain_complete_iff protocol_reservesNoBoard port pollSession pollWorld (by decide)
    pollSession_fits

end Reference

end LibPpuc
