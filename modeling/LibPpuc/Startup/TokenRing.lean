import LibPpuc.Framework.Successor
import LibPpuc.Comm.SwitchReply
import LibPpuc.Startup.Completeness
import LibPpuc.Startup.SwitchStore
import Mathlib.Data.List.TakeWhile

/-! # The Token Ring

  The order of the switch boards is kept twice.  Each present board is told
  its successor in the document's list, at its place in the list, and a
  later telling replaces an earlier one.  The host keeps the first eight
  entries of that list, up to the first number that does not fit its tables,
  and looks successors up at the first occurrence.

  Both are successor tables, so the comparison is one of `Successor`.
-/

namespace LibPpuc

open Successor

/-- The board numbers of the host's tables do not reach `kNoBoard`. -/
def Protocol.ReservesNoBoard (P : Protocol) : Prop := RS485_COMM_MAX_BOARDS ≤ P.kNoBoard.toNat

/-- The boards that `SetActiveSwitchBoards` keeps. -/
def activeSwitchBoards (boards : List UInt8) : List UInt8 :=
  (boards.takeWhile fun board => board.toNat < RS485_COMM_MAX_BOARDS).take RS485_COMM_MAX_BOARDS

namespace Comm

variable {P : Protocol}

/-- The host's own table of successors. -/
theorem getLogicalNextSwitchBoard_eq (board : UInt8) (c : Comm P) :
    c.getLogicalNextSwitchBoard board = c.switchBoards.nextOr board P.kNoBoard := by
  unfold getLogicalNextSwitchBoard
  rw [nextOr_eq_getD]
  cases c.switchBoards.idxOf? board <;> rfl

end Comm

/-! ### The Boards of the Document -/

namespace Pass

open Emitter

variable {P : Protocol} {H : EventHeader} {cpp : YamlCpp} {s : StartupSettings} {config : Yaml}

/-- The number of a board that is to be polled. -/
def pollEventsBoard (cpp : YamlCpp) (s : StartupSettings) (n_board : Yaml) : Option UInt8 :=
  match cpp.asUInt8 (n_board.get "number") with
  | .ok board =>
    if board ∈ s.skippedBoards then none
    else
      match cpp.asBool (n_board.get "pollEvents") with
      | .ok true => some board
      | _ => none
  | .error _ => none

/-- The boards with `pollEvents` that are not skipped, in order. -/
def pollEventsBoards (cpp : YamlCpp) (s : StartupSettings) (config : Yaml) : List UInt8 :=
  (config.get "boards").items.filterMap (pollEventsBoard cpp s)

/-- **Inversion lemma** of a round of the board loop: a board that is not
    skipped is read in full. -/
theorem boardPass_ok {boards boards' : Boards} {n_board : Yaml}
    (hok : (boardPass H cpp s config boards n_board).result = .ok boards') :
    ∃ board, cpp.asUInt8 (n_board.get "number") = .ok board ∧
      if board ∈ s.skippedBoards then
        boards' = { boards with configuredBoards := boards.configuredBoards ++ [board] }
      else
        ∃ gameOnSolenoid pollEvents,
          cpp.asUInt8 (config.get "gameOnSolenoid") = .ok gameOnSolenoid ∧
          cpp.asBool (n_board.get "pollEvents") = .ok pollEvents ∧
          boards' =
            { configuredBoards := boards.configuredBoards ++ [board]
              gameOnSolenoid := gameOnSolenoid
              switchBoards :=
                if pollEvents then boards.switchBoards ++ [board] else boards.switchBoards } := by
  obtain ⟨board, hnumber, hok⟩ := result_bind_ok.mp hok
  refine ⟨board, hnumber, ?_⟩
  dsimp only at hok
  split at hok
  · next hskipped =>
    rw [if_pos hskipped]
    exact (Except.ok.inj hok).symm
  · next hskipped =>
    obtain ⟨_, -, hok⟩ := result_bind_ok.mp hok
    obtain ⟨_, -, hok⟩ := result_bind_ok.mp hok
    obtain ⟨_, -, hok⟩ := result_bind_ok.mp hok
    obtain ⟨gameOnSolenoid, hgame, hok⟩ := result_bind_ok.mp hok
    obtain ⟨_, -, hok⟩ := result_bind_ok.mp hok
    obtain ⟨pollEvents, hpoll, hok⟩ := result_bind_ok.mp hok
    obtain ⟨_, -, hok⟩ := result_bind_ok.mp hok
    obtain ⟨_, -, hok⟩ := result_bind_ok.mp hok
    rw [if_neg hskipped]
    exact ⟨gameOnSolenoid, pollEvents, hgame, hpoll, (Except.ok.inj hok).symm⟩

/-- One round of the board loop. -/
theorem switchBoards_boardPass {boards boards' : Boards} {n_board : Yaml}
    (hok : (boardPass H cpp s config boards n_board).result = .ok boards') :
    boards'.switchBoards =
      boards.switchBoards ++ (pollEventsBoard cpp s n_board).toList := by
  obtain ⟨board, hnumber, hround⟩ := boardPass_ok hok
  unfold pollEventsBoard
  rw [hnumber]
  dsimp only
  split at hround
  · next hskipped =>
    obtain rfl := hround
    simp [hskipped]
  · next hskipped =>
    obtain ⟨gameOnSolenoid, pollEvents, -, hpoll, rfl⟩ := hround
    rw [if_neg hskipped, hpoll]
    cases pollEvents <;> simp

/-- What the board loop collects. -/
theorem switchBoards_boardsPass {boards : Boards}
    (hok : (boardsPass H cpp s config).result = .ok boards) :
    boards.switchBoards = pollEventsBoards cpp s config := by
  have hloop : ∀ (items : List Yaml) (boards boards' : Boards),
      (items.foldlM (boardPass H cpp s config) boards).result = .ok boards' →
      boards'.switchBoards = boards.switchBoards ++ items.filterMap (pollEventsBoard cpp s) := by
    intro items
    induction items with
    | nil =>
      intro boards boards' hok
      obtain rfl := Except.ok.inj hok
      simp
    | cons n_board items ih =>
      intro boards boards' hok
      rw [List.foldlM_cons] at hok
      obtain ⟨next, hround, hrest⟩ := result_bind_ok.mp hok
      rw [ih next boards' hrest, switchBoards_boardPass hround]
      cases h : pollEventsBoard cpp s n_board <;> simp [h]
  exact hloop _ _ boards hok

/-! ### The Steps of the Ring -/

/-- One step for each board: its successor in the rest of the list. -/
def ringSteps (done : UInt8) (switchReplyDelayUs : UInt32) : List UInt8 → List StartupStep
  | [] => []
  | board :: boards =>
    .tokenRing board (boards.headD done) switchReplyDelayUs ::
      ringSteps done switchReplyDelayUs boards

theorem map_tokenRing (done : UInt8) (switchReplyDelayUs : UInt32) (before boards : List UInt8) :
    (boards.zipIdx before.length).map (fun entry => StartupStep.tokenRing entry.1
        ((before ++ boards).getD (entry.2 + 1) done) switchReplyDelayUs) =
      ringSteps done switchReplyDelayUs boards := by
  induction boards generalizing before with
  | nil => rfl
  | cons board boards ih =>
    have hnext : (before ++ board :: boards).getD (before.length + 1) done =
        boards.headD done := by
      cases boards <;> simp
    rw [List.zipIdx_cons, List.map_cons, ringSteps, hnext]
    have hrest := ih (before ++ [board])
    rw [List.length_append, List.append_assoc] at hrest
    exact congrArg _ hrest

/-- The token ring pass emits the steps and returns. -/
theorem tokenRingPass_eq (switchBoards : List UInt8) :
    tokenRingPass P s switchBoards =
      ⟨.finalizeBoardPresence :: .setActiveSwitchBoards switchBoards ::
        ringSteps P.kNoBoard s.switchReplyDelayUs switchBoards, .ok ⟨⟩⟩ := by
  unfold tokenRingPass
  rw [forM_emit, ← map_tokenRing P.kNoBoard s.switchReplyDelayUs [] switchBoards]
  rfl

/-- The last steps of an attempt that returns. -/
theorem startupPass_ring (hok : (startupPass P H cpp s config).result = .ok ⟨⟩) :
    ∃ done, (startupPass P H cpp s config).emitted =
      done ++ .finalizeBoardPresence ::
        .setActiveSwitchBoards (pollEventsBoards cpp s config) ::
        (ringSteps P.kNoBoard s.switchReplyDelayUs (pollEventsBoards cpp s config) ++
          [.abortCheck, .failureCheck]) := by
  obtain ⟨boards, hboards, hrest⟩ := result_bind_ok.mp hok
  have hends : EndsWith (.finalizeBoardPresence ::
      .setActiveSwitchBoards (pollEventsBoards cpp s config) ::
      (ringSteps P.kNoBoard s.switchReplyDelayUs (pollEventsBoards cpp s config) ++
        [.abortCheck, .failureCheck]))
      (do
        emit .abortCheck
        mappingPass cpp s config boards
        sectionsPass H cpp s config
        tokenRingPass P s boards.switchBoards
        emit .abortCheck
        emit .failureCheck) := by
    apply EndsWith.bind
    intro _
    apply EndsWith.bind
    intro _
    apply EndsWith.bind
    intro _ _ _
    rw [switchBoards_boardsPass hboards, tokenRingPass_eq]
    exact List.suffix_refl _
  obtain ⟨done, hsteps⟩ := hends _ hrest
  refine ⟨(boardsPass H cpp s config).emitted ++ done, ?_⟩
  have hemitted : (startupPass P H cpp s config).emitted =
      (boardsPass H cpp s config).emitted ++ _ := emitted_bind_ok hboards
  rw [hemitted, ← hsteps, List.append_assoc]

end Pass

/-! ### The Tokens that Were Sent -/

/-- The tuple of the event that tells a board its successor. -/
def tokenTuple (H : EventHeader) (board : UInt8) : ConfigTuple :=
  ⟨board, H.CONFIG_TOPIC_SWITCH_CHAIN, 0, H.CONFIG_TOPIC_NEXT_BOARD⟩

/-- The token that the last such event told a board. -/
def lastToken (H : EventHeader) (board : UInt8) (calls : List ConfigCall) : Option UInt32 :=
  ((calls.filter fun call => call.event.tuple = tokenTuple H board).getLast?).map
    fun call => call.event.value

theorem lastToken_concat (H : EventHeader) (board : UInt8) (calls : List ConfigCall)
    (call : ConfigCall) :
    lastToken H board (calls ++ [call]) =
      if call.event.tuple = tokenTuple H board then some call.event.value
      else lastToken H board calls := by
  unfold lastToken
  rw [List.filter_append]
  by_cases h : call.event.tuple = tokenTuple H board <;> simp [h]

namespace Startup

variable {P : Protocol} {W : Type} {H : EventHeader} {port : SerialPort W}

/-- What a call for a present board does to the ring. -/
theorem send_ring (hcarries : P.CarriesTuple) (port : SerialPort W) (event : ConfigEvent)
    {a : Startup P W} (hpresent : event.boardId ∈ a.comm.presentBoards) (board : UInt8) :
    (a.send port event).comm.presentBoards = a.comm.presentBoards ∧
      (a.send port event).comm.switchStore = a.comm.switchStore ∧
      lastToken H board (a.send port event).calls =
        if event.tuple = tokenTuple H board then some event.value
        else lastToken H board a.calls := by
  refine ⟨?_, Comm.switchStore_sendConfigEvent port event a.comm a.world,
    lastToken_concat H board a.calls _⟩
  have hboards := Comm.presentBoards_sendConfigEvent hcarries port event a.comm a.world
  show (a.comm.sendConfigEvent port event a.world).comm.presentBoards = _
  rw [hboards]
  split
  · exact Finset.insert_eq_of_mem hpresent
  · rfl

/-- **Step lemma**: one step of the ring tells a present board its successor. -/
theorem step_tokenRing (hcarries : P.CarriesTuple) {current next : UInt8}
    {switchReplyDelayUs : UInt32} {a a' : Startup P W}
    (h : a.step H port (.tokenRing current next switchReplyDelayUs) = some a') :
    a'.comm.presentBoards = a.comm.presentBoards ∧
      a'.comm.switchStore = a.comm.switchStore ∧
      ∀ board, lastToken H board a'.calls =
        if board = current ∧ board ∈ a.comm.presentBoards then some next.toUInt32
        else lastToken H board a.calls := by
  simp only [step] at h
  split at h
  · next hpresent =>
    obtain rfl := Option.some.inj h
    have hfirst := send_ring (H := H) hcarries port (nextBoardEvent H current next) hpresent
    have hsecond := send_ring (H := H) hcarries port
      (replyDelayEvent H current switchReplyDelayUs)
      (show current ∈ (a.send port (nextBoardEvent H current next)).comm.presentBoards by
        rw [(hfirst current).1]
        exact hpresent)
    refine ⟨(hsecond current).1.trans (hfirst current).1,
      (hsecond current).2.1.trans (hfirst current).2.1, ?_⟩
    intro board
    -- the second event has index 1, so it is no token
    have hindex : (replyDelayEvent H current switchReplyDelayUs).tuple ≠ tokenTuple H board := by
      intro heq
      have hone : (1 : UInt8) = 0 := (congrArg ConfigTuple.index heq :)
      exact absurd hone (by decide)
    have htuple : (nextBoardEvent H current next).tuple = tokenTuple H board ↔
        board = current ∧ board ∈ a.comm.presentBoards := by
      constructor
      · intro heq
        obtain rfl : current = board := (congrArg ConfigTuple.board heq :)
        exact ⟨rfl, hpresent⟩
      · rintro ⟨rfl, -⟩
        rfl
    rw [(hsecond board).2.2, if_neg hindex, (hfirst board).2.2]
    exact if_congr htuple rfl rfl
  · next habsent =>
    obtain rfl := Option.some.inj h
    refine ⟨rfl, rfl, ?_⟩
    intro board
    rw [if_neg]
    rintro ⟨rfl, hpresent⟩
    exact habsent hpresent

/-- **Run lemma**: after the ring every present board knows the successor at
    its last place in the list. -/
theorem run_ring (hcarries : P.CarriesTuple) {switchReplyDelayUs : UInt32} {done : UInt8}
    {boards : List UInt8} {a a' : Startup P W}
    (hrun : Transition.exec (step H port) a
      (Pass.ringSteps done switchReplyDelayUs boards) = some a') :
    a'.comm.presentBoards = a.comm.presentBoards ∧
      a'.comm.switchStore = a.comm.switchStore ∧
      ∀ board ∈ a.comm.presentBoards, lastToken H board a'.calls =
        ((lastNext done board boards).map UInt8.toUInt32).or (lastToken H board a.calls) := by
  induction boards generalizing a with
  | nil =>
    obtain rfl : a = a' := by simpa [Pass.ringSteps] using hrun
    refine ⟨rfl, rfl, ?_⟩
    intro board _
    rfl
  | cons current boards ih =>
    obtain ⟨b, hstep, hrest⟩ := Transition.exec_cons_some.mp hrun
    obtain ⟨hpresent, hstore, htoken⟩ := step_tokenRing hcarries hstep
    obtain ⟨hpresent', hstore', htoken'⟩ := ih hrest
    refine ⟨hpresent'.trans hpresent, hstore'.trans hstore, ?_⟩
    intro board hboard
    rw [htoken' board (hpresent ▸ hboard), htoken board, lastNext]
    -- a later place in the list wins
    by_cases hcurrent : current = board
    · subst hcurrent
      rw [if_pos ⟨rfl, hboard⟩, if_pos rfl]
      cases lastNext done current boards <;> rfl
    · rw [if_neg (fun h => hcurrent h.1.symm), if_neg hcurrent]
      cases lastNext done board boards <;> rfl

/-! ### The Two Orders -/

/-- The token that follows a board: a present board was told it, the host
    takes that of any other board from its own list. -/
def tokenOf (H : EventHeader) (a : Startup P W) (board : UInt8) : UInt8 :=
  if board ∈ a.comm.presentBoards then
    match lastToken H board a.calls with
    | some value => value.toUInt8
    | none => P.kNoBoard
  else a.comm.getLogicalNextSwitchBoard board

/-- Host and boards agree on the order of the boards in `boards`. -/
structure TokenOrder (H : EventHeader) (a : Startup P W) (boards : List UInt8) : Prop where
  /-- Each present board was last told the successor that the host knows. -/
  agrees : ∀ board ∈ boards, board ∈ a.comm.presentBoards →
    lastToken H board a.calls = some (a.comm.getLogicalNextSwitchBoard board).toUInt32
  /-- The tokens from `m_switchBoards[0]` on lead to every board once. -/
  ring : ∃ path, Walk (tokenOf H a) P.kNoBoard (a.comm.switchBoards.headD P.kNoBoard) path ∧
    ∀ board ∈ boards, path.count board = 1

/-- `startupAttempt` from `SendSetupFrame` on: the setup frame, a pause and the
    mappings. -/
def sendSetup (port : SerialPort W) (a : Startup P W) : Bool × Comm P × W :=
  match a.comm.sendSetupFrame port a.world with
  | (true, c, w) => c.sendMappingFrames port (port.sleepUs 100000 w)
  | (false, c, w) => (false, c, w)

/-- When the two orders agree: all numbers fit the host's tables, and no board
    is named twice.  In a list that is too long there are repetitions; then
    the first entries must have none, and each present board must have been
    told there what the first entries say. -/
def RingFits (done : UInt8) (boards : List UInt8) (present : Finset UInt8) : Prop :=
  (∀ board ∈ boards, board.toNat < RS485_COMM_MAX_BOARDS) ∧
    (boards.Nodup ∨
      RS485_COMM_MAX_BOARDS < boards.length ∧ (boards.take RS485_COMM_MAX_BOARDS).Nodup ∧
        ∀ board ∈ boards, board ∈ present → lastNext done board boards =
          some ((boards.take RS485_COMM_MAX_BOARDS).nextOr board done))

/-- Distinct board numbers below `n` are among the first `n` numbers. -/
theorem map_toNat_subperm {boards : List UInt8} {n : Nat} (hnodup : boards.Nodup)
    (hlt : ∀ board ∈ boards, board.toNat < n) :
    (boards.map UInt8.toNat).Subperm (List.range n) := by
  apply List.subperm_of_subset
  · exact hnodup.map fun x y h => UInt8.toNat_inj.mp h
  · intro k hk
    obtain ⟨board, hboard, rfl⟩ := List.mem_map.mp hk
    exact List.mem_range.mpr (hlt board hboard)

/-- A list that fits is kept up to its length. -/
theorem activeSwitchBoards_of_lt {boards : List UInt8}
    (hlt : ∀ board ∈ boards, board.toNat < RS485_COMM_MAX_BOARDS) :
    activeSwitchBoards boards = boards.take RS485_COMM_MAX_BOARDS := by
  have hall : boards.takeWhile (fun board => board.toNat < RS485_COMM_MAX_BOARDS) = boards :=
    List.takeWhile_eq_self_iff.mpr fun board hboard => decide_eq_true (hlt board hboard)
  unfold activeSwitchBoards
  rw [hall]

theorem activeSwitchBoards_subset (boards : List UInt8) : activeSwitchBoards boards ⊆ boards :=
  fun _ h => (List.takeWhile_sublist _).subset (List.mem_of_mem_take h)

theorem activeSwitchBoards_lt {boards : List UInt8} {board : UInt8}
    (h : board ∈ activeSwitchBoards boards) : board.toNat < RS485_COMM_MAX_BOARDS := by
  have hkept := List.mem_takeWhile_imp (List.mem_of_mem_take h)
  exact of_decide_eq_true hkept

/-- The host's list of a document that fits: distinct, and complete. -/
theorem RingFits.complete {done : UInt8} {boards : List UInt8} {present : Finset UInt8}
    (h : RingFits done boards present) :
    (activeSwitchBoards boards).Nodup ∧ (∀ board ∈ boards, board ∈ activeSwitchBoards boards) ∧
      ∀ board ∈ boards, board ∈ present → lastNext done board boards =
        some ((activeSwitchBoards boards).nextOr board done) := by
  obtain ⟨hlt, hcases⟩ := h
  rw [activeSwitchBoards_of_lt hlt]
  rcases hcases with hnodup | ⟨hlong, hnodup, htold⟩
  · -- distinct numbers below eight: there are at most eight of them
    have hlength := (map_toNat_subperm hnodup hlt).length_le
    rw [List.length_map, List.length_range] at hlength
    rw [List.take_of_length_le hlength]
    exact ⟨hnodup, fun board hboard => hboard,
      fun board hboard _ => lastNext_of_nodup hnodup hboard⟩
  · -- eight distinct numbers below eight: there is no other one
    have hsub := map_toNat_subperm hnodup
      fun board hboard => hlt board (List.mem_of_mem_take hboard)
    have hperm := hsub.perm_of_length_le (by
      rw [List.length_range, List.length_map, List.length_take]
      omega)
    refine ⟨hnodup, ?_, htold⟩
    intro board hboard
    have hmem := hperm.mem_iff.mpr (List.mem_range.mpr (hlt board hboard))
    obtain ⟨board', hboard', heq⟩ := List.mem_map.mp hmem
    obtain rfl : board' = board := UInt8.toNat_inj.mp heq
    exact hboard'

/-- What an attempt that gets as far as `SendSetupFrame` does last: in a state
    `b` it finalizes the presence and sets the active boards, and then the ring
    only sends. -/
theorem ready_beforeRing (hcarries : P.CarriesTuple) {cpp : YamlCpp} {s : StartupSettings}
    {config : Yaml} {c : Comm P} {w : W} {a : Startup P W}
    (hready : startupAttempt H cpp s config port c w = .ready a) :
    ∃ (done : List StartupStep) (b : Startup P W),
      (Pass.startupPass P H cpp s config).emitted = done ++ .finalizeBoardPresence ::
          .setActiveSwitchBoards (Pass.pollEventsBoards cpp s config) ::
          (Pass.ringSteps P.kNoBoard s.switchReplyDelayUs (Pass.pollEventsBoards cpp s config) ++
            [.abortCheck, .failureCheck]) ∧
      Transition.exec (step H port) (start c w) done = some b ∧
      a.comm.presentBoards = b.comm.finalizeConfiguredBoardPresence.presentBoards ∧
      a.comm.switchStore = (b.comm.finalizeConfiguredBoardPresence.setActiveSwitchBoards
        (Pass.pollEventsBoards cpp s config)).switchStore ∧
      ∀ board ∈ a.comm.presentBoards, lastToken H board a.calls =
        ((lastNext P.kNoBoard board (Pass.pollEventsBoards cpp s config)).map
          UInt8.toUInt32).or (lastToken H board b.calls) := by
  obtain ⟨hrun, hok⟩ := startupAttempt_ready.mp hready
  obtain ⟨done, hsteps⟩ := Pass.startupPass_ring hok
  rw [hsteps] at hrun
  -- up to the ring, then its first two steps, the ring itself and the checks
  obtain ⟨b, hbefore, hrun⟩ := Transition.exec_append_some.mp hrun
  obtain ⟨b', hfinalize, hrun⟩ := Transition.exec_cons_some.mp hrun
  obtain ⟨b'', hactive, hrun⟩ := Transition.exec_cons_some.mp hrun
  obtain ⟨a', hring, hchecks⟩ := Transition.exec_append_some.mp hrun
  obtain ⟨hpresent, hstore, htoken⟩ := run_ring hcarries hring
  obtain rfl : a' = a := by
    obtain ⟨a₁, habort, hchecks⟩ := Transition.exec_cons_some.mp hchecks
    obtain ⟨a₂, hfailure, hend⟩ := Transition.exec_cons_some.mp hchecks
    obtain rfl : a₂ = a := by simpa using hend
    obtain ⟨-, rfl⟩ := step_abortCheck habort
    exact (step_failureCheck hfailure).2.symm
  obtain rfl := Option.some.inj hfinalize
  obtain rfl := Option.some.inj hactive
  refine ⟨done, b, hsteps, hbefore, hpresent, hstore, ?_⟩
  intro board hin
  exact htoken board (hpresent ▸ hin)

/-- After an attempt that gets as far as `SendSetupFrame`: the host's list,
    and what the present boards were told. -/
theorem ready_ring (hcarries : P.CarriesTuple) {cpp : YamlCpp} {s : StartupSettings}
    {config : Yaml} {c : Comm P} {w : W} {a : Startup P W}
    (hready : startupAttempt H cpp s config port c w = .ready a) :
    a.comm.switchBoards = activeSwitchBoards (Pass.pollEventsBoards cpp s config) ∧
      ∀ board ∈ Pass.pollEventsBoards cpp s config, board ∈ a.comm.presentBoards →
        lastToken H board a.calls =
          (lastNext P.kNoBoard board (Pass.pollEventsBoards cpp s config)).map
            UInt8.toUInt32 := by
  obtain ⟨-, b, -, -, -, hstore, htoken⟩ := ready_beforeRing hcarries hready
  refine ⟨(congrArg SwitchStore.switchBoards hstore :), ?_⟩
  intro board hboard hin
  rw [htoken board hin]
  -- the board is in the list, so the ring has told it
  cases h : lastNext P.kNoBoard board (Pass.pollEventsBoards cpp s config) with
  | none => exact absurd hboard (lastNext_eq_none.mp h)
  | some next => rfl

/-- The presence of the boards is final. -/
theorem ready_finalized (hcarries : P.CarriesTuple) {cpp : YamlCpp} {s : StartupSettings}
    {config : Yaml} {c : Comm P} {w : W} {a : Startup P W}
    (hready : startupAttempt H cpp s config port c w = .ready a) :
    a.comm.boardPresenceFinalized = true := by
  obtain ⟨-, b, -, -, -, hstore, -⟩ := ready_beforeRing hcarries hready
  obtain ⟨boards, owners, heq⟩ := Comm.finalizeConfiguredBoardPresence_eq b.comm
  rw [heq] at hstore
  exact (congrArg SwitchStore.boardPresenceFinalized hstore :)

/-- **Host and boards agree on the token order exactly if the ring fits**, for
    every document, every skip set and every behaviour of the boards. -/
theorem token_order_iff (hcarries : P.CarriesTuple) (hno : P.ReservesNoBoard) {cpp : YamlCpp}
    {s : StartupSettings} {config : Yaml} {c : Comm P} {w : W} {a : Startup P W}
    (hready : startupAttempt H cpp s config port c w = .ready a) :
    TokenOrder H a (Pass.pollEventsBoards cpp s config) ↔
      RingFits P.kNoBoard (Pass.pollEventsBoards cpp s config) a.comm.presentBoards := by
  obtain ⟨hactive, htold⟩ := ready_ring hcarries hready
  generalize Pass.pollEventsBoards cpp s config = boards at hactive htold ⊢
  have hnext : ∀ board, a.comm.getLogicalNextSwitchBoard board =
      (activeSwitchBoards boards).nextOr board P.kNoBoard := by
    intro board
    rw [Comm.getLogicalNextSwitchBoard_eq, hactive]
  have hdone : P.kNoBoard ∉ activeSwitchBoards boards :=
    fun hin => absurd hno (Nat.not_le.mpr (activeSwitchBoards_lt hin))
  -- where the boards were told what the host knows, the tokens are its list
  have htokens : (∀ board ∈ boards, board ∈ a.comm.presentBoards →
      lastToken H board a.calls = some (a.comm.getLogicalNextSwitchBoard board).toUInt32) →
      ∀ board ∈ boards, tokenOf H a board =
        (activeSwitchBoards boards).nextOr board P.kNoBoard := by
    intro hagrees board hboard
    unfold tokenOf
    split
    · next hpresent =>
      rw [hagrees board hboard hpresent, ← hnext board]
      simp
    · exact hnext board
  constructor
  · rintro ⟨hagrees, path, hwalk, hcount⟩
    have hsame := htokens hagrees
    -- the walk stays in the host's list, so it is the walk through that list
    rw [hactive] at hwalk
    have hstays : ∀ board ∈ path, board ∈ activeSwitchBoards boards := by
      refine hwalk.mem_of_closed (Q := fun board => board ∈ activeSwitchBoards boards) ?_ ?_
      · intro board hboard
        rw [hsame board (activeSwitchBoards_subset boards hboard)]
        exact nextOr_mem_or _ board P.kNoBoard
      · cases activeSwitchBoards boards with
        | nil => exact Or.inr rfl
        | cons board rest => exact Or.inl List.mem_cons_self
    have hwalk' := hwalk.congr fun board hboard =>
      hsame board (activeSwitchBoards_subset boards (hstays board hboard))
    obtain ⟨hnodup, rfl⟩ := (walk_nextOr_iff hdone).mp hwalk'
    have hvisited : ∀ board ∈ boards, board ∈ activeSwitchBoards boards := by
      intro board hboard
      apply List.count_pos_iff.mp
      rw [hcount board hboard]
      exact Nat.one_pos
    have hlt : ∀ board ∈ boards, board.toNat < RS485_COMM_MAX_BOARDS :=
      fun board hboard => activeSwitchBoards_lt (hvisited board hboard)
    refine ⟨hlt, ?_⟩
    rw [activeSwitchBoards_of_lt hlt] at hnodup hnext
    by_cases hlong : RS485_COMM_MAX_BOARDS < boards.length
    · refine Or.inr ⟨hlong, hnodup, ?_⟩
      intro board hboard hpresent
      have htoken := (htold board hboard hpresent).symm.trans (hagrees board hboard hpresent)
      obtain ⟨next, hlast, heq⟩ := Option.map_eq_some_iff.mp htoken
      rw [hlast, ← hnext board]
      exact congrArg some (UInt8.toUInt32_inj.mp heq)
    · rw [List.take_of_length_le (Nat.le_of_not_lt hlong)] at hnodup
      exact Or.inl hnodup
  · intro hfits
    obtain ⟨hnodup, hcomplete, hlast⟩ := hfits.complete
    have hagrees : ∀ board ∈ boards, board ∈ a.comm.presentBoards →
        lastToken H board a.calls = some (a.comm.getLogicalNextSwitchBoard board).toUInt32 := by
      intro board hboard hpresent
      rw [htold board hboard hpresent, hlast board hboard hpresent, hnext board]
      rfl
    refine ⟨hagrees, activeSwitchBoards boards, ?_, ?_⟩
    · rw [hactive]
      apply ((walk_nextOr_iff hdone).mpr ⟨hnodup, rfl⟩).congr
      intro board hboard
      exact (htokens hagrees board (activeSwitchBoards_subset boards hboard)).symm
    · intro board hboard
      exact List.count_eq_one_of_mem hnodup (hcomplete board hboard)

end Startup

namespace Reference

theorem protocol_reservesNoBoard : protocol.ReservesNoBoard := by
  show 8 ≤ 255
  decide

/-- The document without further sections, with boards that are polled. -/
def pollingDocument (numbers : List String) : Yaml :=
  record
    [("debug", scalar "false"), ("rom", scalar "rom"), ("serialPort", scalar "port"),
      ("platform", scalar "SYS11"), ("coinDoorClosedSwitch", scalar "5"),
      ("gameOnSolenoid", scalar "6"),
      ("boards", list (numbers.map fun number =>
        record [("number", scalar number), ("pollEvents", scalar "true")]))]

/-- A board accepts the config frame with this tuple. -/
def ackFrom (tuple : ConfigTuple) : List UInt8 :=
  frame .configAck 0xFF 0 0 [tuple.board, tuple.topic, tuple.index, tuple.key, 0]

/-- The boards answer all events of an attempt with `pollingDocument`. -/
def pollingAcks (boards : List UInt8) : List (List UInt8) :=
  (boards.flatMap fun board =>
    [ackFrom ⟨board, header.CONFIG_TOPIC_PLATFORM, 0, header.CONFIG_TOPIC_PLATFORM⟩,
      ackFrom ⟨board, header.CONFIG_TOPIC_COIN_DOOR_CLOSED_SWITCH, 0, header.CONFIG_TOPIC_NUMBER⟩,
      ackFrom ⟨board, header.CONFIG_TOPIC_GAME_ON_SOLENOID, 0, header.CONFIG_TOPIC_NUMBER⟩]) ++
  boards.flatMap fun board =>
    [ackFrom (tokenTuple header board),
      ackFrom ⟨board, header.CONFIG_TOPIC_SWITCH_CHAIN, 1,
        header.CONFIG_TOPIC_SWITCH_REPLY_DELAY_US⟩]

/-- The attempt with `pollingDocument`, all boards answering. -/
def pollingAttempt (numbers : List String) (boards : List UInt8) : AttemptEnd protocol Script :=
  startupAttempt header yamlCpp settings (pollingDocument numbers) port comm
    { rounds := 4, replies := pollingAcks boards }

/-- Board 9 has no place in the host's tables: board 1 is told to hand on to
    it, the host takes board 1 for the last one. -/
theorem ring_disagrees :
    Accepted header yamlCpp (pollingDocument ["1", "9"]) ∧
      ∃ a, pollingAttempt ["1", "9"] [1, 9] = .ready a ∧ (a.sendSetup port).1 = true ∧
        ¬ Startup.TokenOrder header a
          (Pass.pollEventsBoards yamlCpp settings (pollingDocument ["1", "9"])) := by
  refine ⟨⟨"", emptyPpuc, ⟨⟨⟩, rfl⟩⟩, ?_⟩
  have hrun : (pollingAttempt ["1", "9"] [1, 9]).attempt.map (fun a =>
      ((a.sendSetup port).1, lastToken header 1 a.calls, a.comm.getLogicalNextSwitchBoard 1,
        decide (1 ∈ a.comm.presentBoards))) = some (true, some 9, 0xFF, true) := by
    decide +kernel
  obtain ⟨a, hready, hfacts⟩ := Option.map_eq_some_iff.mp hrun
  obtain ⟨hsetup, htoken, hnext, hpresent⟩ := by simpa using hfacts
  refine ⟨a, AttemptEnd.ready_of_attempt hready, hsetup, ?_⟩
  intro horder
  have hagrees := horder.agrees 1 (by decide) hpresent
  rw [htoken, hnext] at hagrees
  exact absurd hagrees (by decide)

/-- Two boards with small numbers. -/
theorem two_boards_agree :
    ∃ a, pollingAttempt ["1", "2"] [1, 2] = .ready a ∧
      (Startup.TokenOrder header a
          (Pass.pollEventsBoards yamlCpp settings (pollingDocument ["1", "2"])) ↔
        Startup.RingFits protocol.kNoBoard
          (Pass.pollEventsBoards yamlCpp settings (pollingDocument ["1", "2"]))
          a.comm.presentBoards) := by
  have hrun : (pollingAttempt ["1", "2"] [1, 2]).attempt.isSome = true := by decide +kernel
  obtain ⟨a, hattempt⟩ := Option.isSome_iff_exists.mp hrun
  have hready := AttemptEnd.ready_of_attempt hattempt
  exact ⟨a, hready, Startup.token_order_iff protocol_carriesTuple protocol_reservesNoBoard hready⟩

end Reference

end LibPpuc
