import LibPpuc.Host.Lifecycle
import LibPpuc.Startup.TokenRing

/-! # When the Configuration Is Given Up

  Two counters decide whether a startup attempt is worth going on with: the
  calls of `SendConfigEvent` in a row that nobody answered, as long as no
  board has, and the calls that one board did not answer.  Both stop at the
  threshold, acks reset them, and a board that reaches the threshold without
  an ack is remembered in `m_configEarlyAbortBoard`.

  Beside a run of calls, `past` records whom each call was for and how it
  ended.  `AbortDue` is the rule in terms of the past alone, and the
  invariant `Counts` relates the counters to it.
-/

namespace LibPpuc

/-- A call of `SendConfigEvent`, and the world it finds. -/
structure SendCall (W : Type) where
  event : ConfigEvent
  world : W

/-- How a call ended. -/
structure CallEnd where
  board : UInt8
  outcome : SendOutcome
  deriving DecidableEq, Repr

/-! ### The Rule -/

/-- A call for a board that `which` holds of was acknowledged. -/
def Answered (which : UInt8 → Bool) (past : List CallEnd) : Prop :=
  ∃ e ∈ past, which e.board = true ∧ e.outcome = .acknowledged

/-- The calls for such boards that stayed without an ack. -/
def missed (which : UInt8 → Bool) (past : List CallEnd) : Nat :=
  past.countP fun e => which e.board && (e.outcome == .unacknowledged)

/-- All boards, or one of them, have answered nothing and missed as many
    calls as the threshold. -/
def Silent (which : UInt8 → Bool) (past : List CallEnd) : Prop :=
  ¬ Answered which past ∧ RS485_COMM_INITIAL_CONFIG_ACK_MISS_THRESHOLD ≤ missed which past

/-- **The rule**: nobody has answered, or one board in the table has not. -/
def AbortDue (past : List CallEnd) : Prop :=
  Silent (fun _ => true) past ∨
    ∃ board : UInt8, board.toNat < RS485_COMM_MAX_BOARDS ∧ Silent (· == board) past

section past

variable {which : UInt8 → Bool} {past : List CallEnd} {e : CallEnd}

theorem answered_concat : Answered which (past ++ [e]) ↔
    Answered which past ∨ (which e.board = true ∧ e.outcome = .acknowledged) := by
  unfold Answered
  simp [List.mem_append, or_and_right, exists_or]

theorem missed_concat : missed which (past ++ [e]) =
    missed which past +
      if which e.board = true ∧ e.outcome = .unacknowledged then 1 else 0 := by
  unfold missed
  rw [List.countP_append, List.countP_singleton]
  simp

end past

namespace Comm

variable {P : Protocol} {W : Type}

/-! ### Runs -/

/-- A call for a board that is not skipped, in which every write succeeds. -/
def callStep (port : SerialPort W) (c : Comm P) (call : SendCall W) : Option (Comm P) :=
  let r := c.sendConfigEvent port call.event call.world
  if call.event.boardId ∈ c.skippedBoards ∨ r.outcome = .writeFailed then none
  else some r.comm

/-- The past after a call. -/
def noteCall (port : SerialPort W) (c : Comm P) (past : List CallEnd) (call : SendCall W)
    (_ : Comm P) : List CallEnd :=
  past ++ [⟨call.event.boardId, (c.sendConfigEvent port call.event call.world).outcome⟩]

/-- Calls with their past. -/
def callsStep (port : SerialPort W) :
    Comm P × List CallEnd → SendCall W → Option (Comm P × List CallEnd) :=
  Transition.instrument (callStep port) (noteCall port)

/-- The state after `RS485Comm::Connect` and `RestartBoards` or `ResetBoards`,
    whatever these come to. -/
def AfterRestart (port : SerialPort W) (c : Comm P) : Prop :=
  ∃ (before : Comm P) (w : W), c = ((before.connect true).restartBoards port w).2.1 ∨
    ∃ WAIT_FOR_IO_BOARD_RESET,
      c = ((before.connect true).resetBoards port WAIT_FOR_IO_BOARD_RESET w).2.1

/-! ### The Counters -/

/-- What is counted of the acks of an attempt. -/
structure AckCounters where
  presentBoards : Finset UInt8
  initialConfigAckMissStreak : Nat
  initialConfigAckMissesByBoard : UInt8 → Nat
  configEarlyAbortBoard : UInt8

def ackCounters (c : Comm P) : AckCounters where
  presentBoards := c.presentBoards
  initialConfigAckMissStreak := c.initialConfigAckMissStreak
  initialConfigAckMissesByBoard := c.initialConfigAckMissesByBoard
  configEarlyAbortBoard := c.configEarlyAbortBoard

/-- An ack resets both counters. -/
def AckCounters.ack (board : UInt8) (k : AckCounters) : AckCounters where
  presentBoards := insert board k.presentBoards
  initialConfigAckMissStreak := 0
  initialConfigAckMissesByBoard :=
    if board.toNat < RS485_COMM_MAX_BOARDS then
      Function.update k.initialConfigAckMissesByBoard board 0
    else k.initialConfigAckMissesByBoard
  configEarlyAbortBoard := k.configEarlyAbortBoard

/-- The counters with a miss of the board. -/
def AckCounters.miss (board : UInt8) (k : AckCounters) : AckCounters where
  presentBoards := k.presentBoards
  initialConfigAckMissStreak :=
    if k.presentBoards = ∅ ∧
        k.initialConfigAckMissStreak < RS485_COMM_INITIAL_CONFIG_ACK_MISS_THRESHOLD then
      k.initialConfigAckMissStreak + 1
    else k.initialConfigAckMissStreak
  initialConfigAckMissesByBoard :=
    if board.toNat < RS485_COMM_MAX_BOARDS ∧
        k.initialConfigAckMissesByBoard board < RS485_COMM_INITIAL_CONFIG_ACK_MISS_THRESHOLD then
      Function.update k.initialConfigAckMissesByBoard board
        (k.initialConfigAckMissesByBoard board + 1)
    else k.initialConfigAckMissesByBoard
  configEarlyAbortBoard :=
    if (board.toNat < RS485_COMM_MAX_BOARDS ∧
        k.initialConfigAckMissesByBoard board < RS485_COMM_INITIAL_CONFIG_ACK_MISS_THRESHOLD) ∧
        board ∉ k.presentBoards ∧
        RS485_COMM_INITIAL_CONFIG_ACK_MISS_THRESHOLD ≤ k.initialConfigAckMissesByBoard board + 1
    then board else k.configEarlyAbortBoard

theorem ackCounters_noteConfigMiss (port : SerialPort W) (w : W) (frame : ConfigTuple)
    (c : Comm P) :
    (c.noteConfigMiss port w frame).ackCounters = c.ackCounters.miss frame.board := by
  have hcount : ∀ (board : UInt8) (c : Comm P),
      (c.countConfigMiss board).ackCounters = c.ackCounters.miss board := by
    intro board c
    unfold countConfigMiss AckCounters.miss ackCounters
    dsimp only
    by_cases hstreak : c.presentBoards = ∅ ∧
        c.initialConfigAckMissStreak < RS485_COMM_INITIAL_CONFIG_ACK_MISS_THRESHOLD
    · simp only [if_pos hstreak]
      by_cases htable : board.toNat < RS485_COMM_MAX_BOARDS ∧
          c.initialConfigAckMissesByBoard board < RS485_COMM_INITIAL_CONFIG_ACK_MISS_THRESHOLD
      · simp only [htable.1, htable.2, true_and]
        rfl
      · simp only [htable, false_and, if_false]
    · simp only [if_neg hstreak]
      by_cases htable : board.toNat < RS485_COMM_MAX_BOARDS ∧
          c.initialConfigAckMissesByBoard board < RS485_COMM_INITIAL_CONFIG_ACK_MISS_THRESHOLD
      · simp only [htable.1, htable.2, true_and]
        rfl
      · simp only [htable, false_and, if_false]
  unfold noteConfigMiss
  dsimp only
  split
  · exact hcount _ _
  · exact hcount _ _

/-- What `ShouldAbortConfigurationEarly` asks of the counters. -/
def AckCounters.Aborts (kNoBoard : UInt8) (k : AckCounters) : Prop :=
  k.configEarlyAbortBoard ≠ kNoBoard ∨
    (k.presentBoards = ∅ ∧
      RS485_COMM_INITIAL_CONFIG_ACK_MISS_THRESHOLD ≤ k.initialConfigAckMissStreak)

theorem shouldAbort_iff (c : Comm P) :
    c.shouldAbortConfigurationEarly = true ↔ c.ackCounters.Aborts P.kNoBoard := by
  simp [shouldAbortConfigurationEarly, AckCounters.Aborts, ackCounters]

theorem callStep_eq_some {port : SerialPort W} {c c' : Comm P} {call : SendCall W} :
    callStep port c call = some c' ↔
      call.event.boardId ∉ c.skippedBoards ∧
        (c.sendConfigEvent port call.event call.world).outcome ≠ .writeFailed ∧
        (c.sendConfigEvent port call.event call.world).comm = c' := by
  unfold callStep
  dsimp only
  split
  · next hout =>
    constructor
    · intro h
      exact nomatch h
    · rintro ⟨hboard, hwrites, -⟩
      exact absurd hout (not_or.mpr ⟨hboard, hwrites⟩)
  · next hin =>
    obtain ⟨hboard, hwrites⟩ := not_or.mp hin
    simp [hboard, hwrites]

/-- What a call does: nothing once the configuration is given up, and else it
    counts an ack or a miss. -/
theorem callStep_some (hcarries : P.CarriesTuple) {port : SerialPort W} {c c' : Comm P}
    {call : SendCall W} (hport : c.portOpen = true) (h : callStep port c call = some c') :
    ((c.sendConfigEvent port call.event call.world).outcome = .abortedEarly ∧
        c.shouldAbortConfigurationEarly = true ∧ c' = c) ∨
      (c.shouldAbortConfigurationEarly = false ∧ c'.portOpen = true ∧
        (((c.sendConfigEvent port call.event call.world).outcome = .acknowledged ∧
            c'.ackCounters = c.ackCounters.ack call.event.boardId) ∨
          ((c.sendConfigEvent port call.event call.world).outcome = .unacknowledged ∧
            c'.ackCounters = c.ackCounters.miss call.event.boardId))) := by
  have htuple : tupleOf (c.configFrame call.event) = call.event.tuple := hcarries _ _ _ call.event
  have heffect := sendConfigEvent_effect port call.event c call.world
  obtain ⟨hboard', hwrites, rfl⟩ := callStep_eq_some.mp h
  generalize c.sendConfigEvent port call.event call.world = r at heffect hwrites ⊢
  cases heffect with
  | noPort hclosed => exact absurd (hport.symm.trans hclosed) (by decide)
  | abortedEarly habort => exact Or.inl ⟨rfl, habort, rfl⟩
  | skipped hready hboard =>
    rw [htuple] at hboard
    exact absurd hboard hboard'
  | writeFailed => exact absurd rfl hwrites
  | acknowledged hready hboard hearlier hack hstatus =>
    refine Or.inr ⟨hready.2, hport, Or.inl ⟨rfl, ?_⟩⟩
    rw [htuple]
    rfl
  | unacknowledged hready hboard htraffic =>
    refine Or.inr ⟨hready.2, (noteConfigMiss_kept port _ _ _).1.trans hport, Or.inr ⟨rfl, ?_⟩⟩
    rw [ackCounters_noteConfigMiss, htuple]
    rfl

/-! ### The Invariant -/

/-- The counters say what the past says. -/
structure Counts (kNoBoard : UInt8) (k : AckCounters) (past : List CallEnd) : Prop where
  present : ∀ board, board ∈ k.presentBoards ↔ Answered (· == board) past
  streak : k.presentBoards = ∅ → k.initialConfigAckMissStreak =
    min (missed (fun _ => true) past) RS485_COMM_INITIAL_CONFIG_ACK_MISS_THRESHOLD
  table : ∀ board, board.toNat < RS485_COMM_MAX_BOARDS → board ∉ k.presentBoards →
    k.initialConfigAckMissesByBoard board =
      min (missed (· == board) past) RS485_COMM_INITIAL_CONFIG_ACK_MISS_THRESHOLD
  latch : k.configEarlyAbortBoard ≠ kNoBoard ↔
    ∃ board : UInt8, board.toNat < RS485_COMM_MAX_BOARDS ∧ Silent (· == board) past

section counts

variable {kNoBoard board : UInt8} {k : AckCounters} {past : List CallEnd}

/-- No board is present exactly if nobody has answered. -/
theorem Counts.absent_iff (h : Counts kNoBoard k past) :
    k.presentBoards = ∅ ↔ ¬ Answered (fun _ => true) past := by
  rw [Finset.eq_empty_iff_forall_notMem]
  constructor
  · rintro hnone ⟨e, he, -, hacknowledged⟩
    exact hnone e.board ((h.present e.board).mpr ⟨e, he, by simp, hacknowledged⟩)
  · intro hsilent b hb
    obtain ⟨e, he, -, hacknowledged⟩ := (h.present b).mp hb
    exact hsilent ⟨e, he, rfl, hacknowledged⟩

/-- The counters ask to abort exactly if the rule does. -/
theorem Counts.aborts_iff (h : Counts kNoBoard k past) : k.Aborts kNoBoard ↔ AbortDue past := by
  unfold AckCounters.Aborts AbortDue
  rw [h.latch, or_comm]
  apply or_congr_left
  unfold Silent
  rw [← h.absent_iff]
  apply and_congr_right
  intro habsent
  rw [h.streak habsent]
  omega

/-- Where the counters do not ask to abort, no board has been silent. -/
theorem Counts.not_silent (h : Counts kNoBoard k past) (hgo : ¬ k.Aborts kNoBoard)
    {b : UInt8} (hb : b.toNat < RS485_COMM_MAX_BOARDS) : ¬ Silent (· == b) past := by
  intro hsilent
  exact hgo (Or.inl (h.latch.mpr ⟨b, hb, hsilent⟩))

/-- An ack, where the counters do not ask to abort. -/
theorem Counts.ack (h : Counts kNoBoard k past) (hgo : ¬ k.Aborts kNoBoard) (board : UInt8) :
    Counts kNoBoard (k.ack board) (past ++ [⟨board, .acknowledged⟩]) where
  present b := by
    rw [answered_concat, ← h.present b]
    simp only [AckCounters.ack, Finset.mem_insert, beq_iff_eq, and_true]
    rw [or_comm, eq_comm]
  streak hnone := absurd hnone (Finset.insert_ne_empty _ _)
  table b hb habsent := by
    have hne : b ≠ board := fun heq => habsent (heq ▸ Finset.mem_insert_self _ _)
    have hold : b ∉ k.presentBoards := fun hmem => habsent (Finset.mem_insert_of_mem hmem)
    have hmissed : missed (· == b) (past ++ [⟨board, .acknowledged⟩]) =
        missed (· == b) past := by
      rw [missed_concat]
      simp
    rw [hmissed, ← h.table b hb hold]
    unfold AckCounters.ack
    dsimp only
    split
    · rw [Function.update_of_ne hne]
    · rfl
  latch := by
    -- there was no silent board before, and an ack makes none
    have hlatch : ¬ k.configEarlyAbortBoard ≠ kNoBoard := fun hne => hgo (Or.inl hne)
    refine iff_of_false hlatch ?_
    rintro ⟨b, hb, hquiet, hcount⟩
    rw [missed_concat] at hcount
    refine h.not_silent hgo hb ⟨fun hanswered => hquiet ?_, by simpa using hcount⟩
    exact answered_concat.mpr (Or.inl hanswered)

/-- A miss, where the counters do not ask to abort. -/
theorem Counts.miss (hno : RS485_COMM_MAX_BOARDS ≤ kNoBoard.toNat) (h : Counts kNoBoard k past)
    (hgo : ¬ k.Aborts kNoBoard) (board : UInt8) :
    Counts kNoBoard (k.miss board) (past ++ [⟨board, .unacknowledged⟩]) := by
  have hanswered : ∀ which : UInt8 → Bool,
      Answered which (past ++ [⟨board, .unacknowledged⟩]) ↔ Answered which past := by
    intro which
    rw [answered_concat]
    simp
  have hown : missed (· == board) (past ++ [⟨board, .unacknowledged⟩]) =
      missed (· == board) past + 1 := by
    rw [missed_concat]
    simp
  have hother : ∀ b, b ≠ board → missed (· == b) (past ++ [⟨board, .unacknowledged⟩]) =
      missed (· == b) past := by
    intro b hb
    rw [missed_concat]
    simp [Ne.symm hb]
  refine ⟨?_, ?_, ?_, ?_⟩
  · intro b
    rw [hanswered]
    exact h.present b
  · intro hnone
    have hall : missed (fun _ => true) (past ++ [⟨board, .unacknowledged⟩]) =
        missed (fun _ => true) past + 1 := by
      rw [missed_concat]
      simp
    have hstreak := h.streak hnone
    unfold AckCounters.miss
    dsimp only
    rw [hall]
    split
    · omega
    · next hfull =>
      have hle : ¬ k.initialConfigAckMissStreak <
          RS485_COMM_INITIAL_CONFIG_ACK_MISS_THRESHOLD := fun hlt => hfull ⟨hnone, hlt⟩
      omega
  · intro b hb habsent
    have htable := h.table b hb habsent
    unfold AckCounters.miss
    dsimp only
    by_cases hself : b = board
    · subst hself
      rw [hown]
      split
      · rw [Function.update_self]
        omega
      · next hfull =>
        have hle : ¬ k.initialConfigAckMissesByBoard b <
            RS485_COMM_INITIAL_CONFIG_ACK_MISS_THRESHOLD := fun hlt => hfull ⟨hb, hlt⟩
        omega
    · rw [hother b hself]
      split
      · rw [Function.update_of_ne hself]
        exact htable
      · exact htable
  · have hlatch : k.configEarlyAbortBoard = kNoBoard :=
      not_not.mp fun hne => hgo (Or.inl hne)
    unfold AckCounters.miss
    dsimp only
    split
    · next hreached =>
      -- the board has reached the threshold
      obtain ⟨⟨hb, hlt⟩, habsent, hmisses⟩ := hreached
      have htable := h.table board hb habsent
      have hne : board ≠ kNoBoard := by
        rintro rfl
        omega
      refine iff_of_true hne ⟨board, hb, ?_, ?_⟩
      · rw [hanswered, ← h.present board]
        exact habsent
      · rw [hown]
        omega
    · next hbelow =>
      refine iff_of_false (not_not.mpr hlatch) ?_
      rintro ⟨b, hb, hquiet, hcount⟩
      rw [hanswered] at hquiet
      by_cases hself : b = board
      · subst hself
        rw [hown] at hcount
        have habsent : b ∉ k.presentBoards := fun hmem => hquiet ((h.present b).mp hmem)
        have htable := h.table b hb habsent
        have hfew : missed (· == b) past < RS485_COMM_INITIAL_CONFIG_ACK_MISS_THRESHOLD := by
          by_contra hmany
          exact h.not_silent hgo hb ⟨hquiet, not_lt.mp hmany⟩
        exact hbelow ⟨⟨hb, by omega⟩, habsent, by omega⟩
      · rw [hother b hself] at hcount
        exact h.not_silent hgo hb ⟨hquiet, hcount⟩

/-- A call that is not made counts as neither. -/
theorem Counts.idle (h : Counts kNoBoard k past) (board : UInt8) :
    Counts kNoBoard k (past ++ [⟨board, .abortedEarly⟩]) := by
  have hanswered : ∀ which : UInt8 → Bool,
      Answered which (past ++ [⟨board, .abortedEarly⟩]) ↔ Answered which past := by
    intro which
    rw [answered_concat]
    simp
  have hmissed : ∀ which : UInt8 → Bool,
      missed which (past ++ [⟨board, .abortedEarly⟩]) = missed which past := by
    intro which
    rw [missed_concat]
    simp
  refine ⟨?_, ?_, ?_, ?_⟩
  · intro b
    rw [hanswered]
    exact h.present b
  · rw [hmissed]
    exact h.streak
  · intro b
    rw [hmissed]
    exact h.table b
  · rw [h.latch]
    unfold Silent
    simp only [hanswered, hmissed]

end counts

/-! ### Runs -/

/-- `Connect` and `RestartBoards` or `ResetBoards` reset what is counted. -/
theorem ackCounters_controlBoards (port : SerialPort W) (before : Comm P) (type : FrameType)
    (context : String) (restartUs settleUs : Nat) (w : W) :
    ((before.connect true).controlBoards port type context restartUs settleUs w).2.1.portOpen =
        true ∧
      ((before.connect true).controlBoards port type context restartUs settleUs
        w).2.1.ackCounters = ⟨∅, 0, fun _ => 0, P.kNoBoard⟩ := by
  have hframe : ∃ log, (((before.connect true).forgetConfigFailures).sendControlFrame port type
      context w).2.1 = { (before.connect true).forgetConfigFailures with
        sequence := (before.connect true).sequence + 1, anomalyLog := log } :=
    writeBytes_eq port context _ { (before.connect true).forgetConfigFailures with
      sequence := (before.connect true).sequence + 1 } w
  obtain ⟨log, hframe⟩ := hframe
  unfold controlBoards
  split
  · split
    · next heq =>
      rw [heq] at hframe
      dsimp only at hframe ⊢
      rw [hframe]
      exact ⟨rfl, rfl⟩
    · next heq =>
      rw [heq] at hframe
      dsimp only at hframe ⊢
      rw [hframe]
      exact ⟨rfl, rfl⟩
  · next hclosed => exact absurd rfl hclosed

/-- Nothing has been counted after a restart. -/
theorem counts_afterRestart {port : SerialPort W} {c : Comm P} (h : AfterRestart port c) :
    c.portOpen = true ∧ Counts P.kNoBoard c.ackCounters [] := by
  have hfresh : c.portOpen = true ∧ c.ackCounters = ⟨∅, 0, fun _ => 0, P.kNoBoard⟩ := by
    obtain ⟨before, w, rfl | ⟨wait, rfl⟩⟩ := h
    · exact ackCounters_controlBoards port before _ _ _ _ w
    · exact ackCounters_controlBoards port before _ _ _ _ w
  obtain ⟨hport, hcounters⟩ := hfresh
  refine ⟨hport, ?_⟩
  rw [hcounters]
  have hnone : ∀ which, ¬ Answered which [] :=
    fun which hanswered => nomatch hanswered.choose_spec.1
  refine ⟨?_, fun _ => rfl, fun _ _ _ => rfl, ?_⟩
  · intro board
    exact iff_of_false (Finset.notMem_empty board) (hnone _)
  · refine iff_of_false (not_not.mpr rfl) ?_
    rintro ⟨board, -, -, hcount⟩
    have hzero : missed (· == board) [] = 0 := rfl
    have hpositive : 0 < RS485_COMM_INITIAL_CONFIG_ACK_MISS_THRESHOLD := by decide
    omega

/-- What every call keeps. -/
theorem counts_call (hcarries : P.CarriesTuple) (hno : P.ReservesNoBoard) {port : SerialPort W}
    {p q : Comm P × List CallEnd} {call : SendCall W}
    (hinv : p.1.portOpen = true ∧ Counts P.kNoBoard p.1.ackCounters p.2)
    (h : callsStep port p call = some q) :
    q.1.portOpen = true ∧ Counts P.kNoBoard q.1.ackCounters q.2 := by
  obtain ⟨hstep, hpast⟩ := Transition.instrument_some.mp h
  obtain ⟨hport, hcounts⟩ := hinv
  rw [hpast]
  unfold noteCall
  rcases callStep_some hcarries hport hstep with ⟨hend, -, hsame⟩ | ⟨hgo, hport', hcase⟩
  · rw [hend, hsame]
    exact ⟨hport, hcounts.idle _⟩
  · have hgo' : ¬ p.1.ackCounters.Aborts P.kNoBoard := by
      rw [← shouldAbort_iff, hgo]
      exact Bool.false_ne_true
    refine ⟨hport', ?_⟩
    rcases hcase with ⟨hend, hcounters⟩ | ⟨hend, hcounters⟩
    · rw [hend, hcounters]
      exact hcounts.ack hgo' _
    · rw [hend, hcounters]
      exact hcounts.miss hno hgo' _

/-- A call after the configuration was given up. -/
theorem sendConfigEvent_aborted {port : SerialPort W} {c : Comm P} (hport : c.portOpen = true)
    (habort : c.shouldAbortConfigurationEarly = true) (event : ConfigEvent) (w : W) :
    c.sendConfigEvent port event w = ⟨.abortedEarly, [], c, w⟩ := by
  unfold sendConfigEvent
  rw [if_neg (by simp [hport]), if_pos habort]

/-- **Giving up is exact and final.**  After any calls of `SendConfigEvent`
    that follow `Connect` and a restart or reset of the boards,
    `ShouldAbortConfigurationEarly` holds exactly if the rule says so.  From
    then on no call writes anything, and each returns false and leaves the
    state as it is. -/
theorem early_abort_exact (hcarries : P.CarriesTuple) (hno : P.ReservesNoBoard)
    (port : SerialPort W) {c c' : Comm P} (hstart : AfterRestart port c)
    {calls : List (SendCall W)} {past : List CallEnd}
    (hrun : Transition.exec (callsStep port) (c, []) calls = some (c', past)) :
    (c'.shouldAbortConfigurationEarly = true ↔ AbortDue past) ∧
      (c'.shouldAbortConfigurationEarly = true →
        (∀ event w, c'.sendConfigEvent port event w = ⟨.abortedEarly, [], c', w⟩ ∧
          (c'.sendConfigEvent port event w).outcome.returned = false) ∧
        ∀ later c'' past'', Transition.exec (callsStep port) (c', past) later =
          some (c'', past'') → c'' = c') := by
  obtain ⟨hport, hcounts⟩ := Transition.exec_invariant
    (I := fun p => p.1.portOpen = true ∧ Counts P.kNoBoard p.1.ackCounters p.2)
    (fun p call q hinv hstep => counts_call hcarries hno hinv hstep)
    (counts_afterRestart hstart) hrun
  refine ⟨(shouldAbort_iff c').trans hcounts.aborts_iff, ?_⟩
  intro habort
  constructor
  · intro event w
    rw [sendConfigEvent_aborted hport habort]
    exact ⟨rfl, rfl⟩
  · intro later c'' past'' hlater
    apply Transition.exec_invariant (I := fun p => p.1 = c') _ rfl hlater
    rintro p call q rfl hstep
    obtain ⟨hcall, -⟩ := Transition.instrument_some.mp hstep
    obtain ⟨-, -, hcomm⟩ := callStep_eq_some.mp hcall
    rw [← hcomm, sendConfigEvent_aborted hport habort]

end Comm

namespace Reference

/-- The host after `Connect` and `RestartBoards`. -/
def restartedComm : Comm protocol := ((comm.connect true).restartBoards port ({} : Script)).2.1

/-- A call for board 1 in a world in which nobody answers. -/
def silentCall : SendCall Script := ⟨⟨1, 1, 0, 0, 0⟩, { rounds := 1 }⟩

/-- Ten calls without an ack, and one that is not made any more. -/
theorem ten_silent_calls :
    ∃ c' past, Transition.exec (Comm.callsStep port) (restartedComm, [])
        (List.replicate 11 silentCall) = some (c', past) ∧
      c'.shouldAbortConfigurationEarly = true ∧ AbortDue past := by
  have hends : (Transition.exec (Comm.callsStep port) (restartedComm, [])
      (List.replicate 11 silentCall)).map (fun p => p.1.shouldAbortConfigurationEarly) =
        some true := by decide +kernel
  obtain ⟨⟨c', past⟩, hrun, habort⟩ := Option.map_eq_some_iff.mp hends
  have hexact := Comm.early_abort_exact protocol_carriesTuple protocol_reservesNoBoard port
    ⟨comm, {}, Or.inl rfl⟩ hrun
  exact ⟨c', past, hrun, habort, hexact.1.mp habort⟩

end Reference

end LibPpuc
