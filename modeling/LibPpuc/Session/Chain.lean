import LibPpuc.Comm.SwitchReply
import LibPpuc.Comm.Ownership

/-! # The Hops of a Chain

  `chainRun` is the loop of `ReceiveSwitchStateChain` that also keeps its
  hops: under which token each began, and in which state.  Forgetting them
  gives `switchReplyHops` back.

  A hop for a virtualized board that can write sends one reply; a hop for a
  board that answers with a valid reply reads that reply and merges it.
-/

namespace LibPpuc

/-- The beginning of a hop. -/
structure ChainHop (P : Protocol) (W : Type) where
  /-- The token. -/
  board : UInt8
  /-- The results of the hop before. -/
  reply : SwitchReply
  comm : Comm P
  world : W

/-- A chain with its hops. -/
structure ChainRun (P : Protocol) (W : Type) where
  hops : List (ChainHop P W)
  success : Bool
  /-- The token at the end. -/
  expected : UInt8
  comm : Comm P
  world : W

namespace ChainHop

variable {P : Protocol} {W : Type}

/-- The host answers for the board. -/
def isVirtual (h : ChainHop P W) : Bool := (h.comm.virtualSwitchBoards.lookup h.board).isSome

/-- The token of the host's own list that follows. -/
def successor (h : ChainHop P W) : UInt8 := h.comm.getLogicalNextSwitchBoard h.board

/-- One round of the loop. -/
def run (port : SerialPort W) (h : ChainHop P W) : SwitchReply × Comm P × W :=
  if h.isVirtual then
    h.comm.sendVirtualSwitchReply port h.board h.successor
      { h.reply with nextBoard := h.successor } h.world
  else h.comm.receiveSwitchStateFrame port h.board h.reply h.world

/-- The frame that is read in the hop of a board that answers by itself. -/
def readFrame (port : SerialPort W) (h : ChainHop P W) : Option SwitchFrame :=
  if h.isVirtual then none
  else
    (h.comm.awaitSwitchFrame port (port.window h.comm.switchReplyWindowUs h.world) false
      h.reply.hadState h.world).frame

theorem run_virtual {h : ChainHop P W} (hvirtual : h.isVirtual = true) (port : SerialPort W) :
    h.run port = h.comm.sendVirtualSwitchReply port h.board h.successor
      { h.reply with nextBoard := h.successor } h.world := if_pos hvirtual

theorem run_real {h : ChainHop P W} (hreal : h.isVirtual = false) (port : SerialPort W) :
    h.run port = h.comm.receiveSwitchStateFrame port h.board h.reply h.world :=
  if_neg (by rw [hreal]; decide)

end ChainHop

namespace Comm

variable {P : Protocol} {W : Type}

/-- The hops from a token on. -/
def chainHops (port : SerialPort W) : Nat → UInt8 → SwitchReply → Comm P → W → ChainRun P W
  | 0, expected, _, c, w => ⟨[], true, expected, c, w⟩
  | hops + 1, expected, r, c, w =>
    if expected = P.kNoBoard then ⟨[], true, expected, c, w⟩
    else
      let h : ChainHop P W := ⟨expected, r, c, w⟩
      let result := h.run port
      if result.1.ok then
        let rest := chainHops port hops result.1.nextBoard result.1 result.2.1 result.2.2
        { rest with hops := h :: rest.hops }
      else ⟨[h], false, expected, result.2.1, result.2.2⟩

/-- The loop of `ReceiveSwitchStateChain`. -/
def chainRun (port : SerialPort W) (firstBoard : UInt8) (c : Comm P) (w : W) : ChainRun P W :=
  chainHops port RS485_COMM_MAX_BOARDS firstBoard
    { ok := false, nextBoard := P.kNoBoard, hadState := false } c w

/-- The token of a virtual reply is not changed by sending it. -/
theorem nextBoard_sendVirtualSwitchReply (port : SerialPort W) (board next : UInt8)
    (r : SwitchReply) (c : Comm P) (w : W) :
    (c.sendVirtualSwitchReply port board next r w).1.nextBoard = r.nextBoard := by
  unfold sendVirtualSwitchReply
  split
  · rfl
  · split
    · rfl
    · rfl

/-- **Erasure**: without the hops it is the loop of the source. -/
theorem chainHops_erase (port : SerialPort W) (hops : Nat) (expected : UInt8) (r : SwitchReply)
    (c : Comm P) (w : W) :
    switchReplyHops port hops expected r c w =
      ((chainHops port hops expected r c w).success, (chainHops port hops expected r c w).comm,
        (chainHops port hops expected r c w).world) := by
  induction hops generalizing expected r c w with
  | zero => rfl
  | succ hops ih =>
    unfold switchReplyHops chainHops
    by_cases hno : expected = P.kNoBoard
    · rw [if_pos hno, if_pos hno]
    · rw [if_neg hno, if_neg hno]
      dsimp only
      unfold ChainHop.run ChainHop.isVirtual
      cases hlookup : c.virtualSwitchBoards.lookup expected with
      | some boardState =>
        -- the next token is the host's own
        have hnext := nextBoard_sendVirtualSwitchReply port expected
          (c.getLogicalNextSwitchBoard expected)
          { r with nextBoard := c.getLogicalNextSwitchBoard expected } c w
        simp only [Option.isSome_some, if_true, ChainHop.successor]
        rw [hnext]
        split
        · exact ih _ _ _ _
        · rfl
      | none =>
        simp only [Option.isSome_none, Bool.false_eq_true, if_false]
        split
        · exact ih _ _ _ _
        · rfl

theorem receiveSwitchStateChain_eq (port : SerialPort W) (firstBoard : UInt8) (c : Comm P)
    (w : W) :
    c.receiveSwitchStateChain port firstBoard w =
      ((c.chainRun port firstBoard w).comm.noteSwitchReplyChain port
        (c.chainRun port firstBoard w).world (c.chainRun port firstBoard w).success,
        (c.chainRun port firstBoard w).world) := by
  unfold receiveSwitchStateChain
  rw [chainHops_erase]
  rfl

/-! ### What Any Hop Can Do -/

/-- A read reply may log, ask for a resync and change the switch state. -/
theorem receiveSwitchStateFrame_eq (port : SerialPort W) (board : UInt8) (r : SwitchReply)
    (c : Comm P) (w : W) :
    ∃ log resync refreshAt switches bitmap, (c.receiveSwitchStateFrame port board r w).2.1 =
      { c with
        anomalyLog := log
        needSessionResync := resync
        nextSwitchRefreshAt := refreshAt
        switches := switches
        switchBitmap := bitmap } := by
  unfold receiveSwitchStateFrame
  split
  · dsimp only
    split
    · next f hframe =>
      obtain ⟨log, hcheck⟩ := checkReplyStatus_eq port
        (c.awaitSwitchFrame port (port.window c.switchReplyWindowUs w) false r.hadState w).world
        board f c
      unfold acceptSwitchFrame
      rw [hcheck]
      dsimp only
      split
      · exact ⟨_, _, _, _, _, rfl⟩
      · split
        · obtain ⟨refreshAt, happly⟩ := applySwitchBitmapDiff_eq
            (port.steadyMs (c.awaitSwitchFrame port (port.window c.switchReplyWindowUs w) false
              r.hadState w).world) board (f.bitmap P)
            (P.bitsToBytes c.runtimeConfig.switchBits)
            { c with
              anomalyLog := log
              needSessionResync := c.needSessionResync || c.disputes f }
          exact ⟨_, _, _, _, _, happly⟩
        · exact ⟨_, _, _, _, _, rfl⟩
    · exact ⟨_, _, _, _, _, rfl⟩
  · exact ⟨_, _, _, _, _, rfl⟩

/-- A virtual reply may log and clear a dirty flag. -/
theorem sendVirtualSwitchReply_eq (port : SerialPort W) (board next : UInt8) (r : SwitchReply)
    (c : Comm P) (w : W) :
    ∃ log boards, (c.sendVirtualSwitchReply port board next r w).2.1 =
      { c with anomalyLog := log, virtualSwitchBoards := boards } := by
  have hclear : ∀ d : Comm P, ∃ boards, d.clearDirty board =
      { d with virtualSwitchBoards := boards } := by
    intro d
    unfold clearDirty
    split
    · exact ⟨_, rfl⟩
    · exact ⟨_, rfl⟩
  unfold sendVirtualSwitchReply
  split
  · exact ⟨_, _, rfl⟩
  · next boardState hlookup =>
    split
    · dsimp only
      generalize (if 0 < c.switchReplyDelayUs then port.sleepUs c.switchReplyDelayUs.toNat w
        else w) = w'
      have hwrite : ∃ log, (c.writeVirtualReply port boardState.dirty next c.switchBitmap
          w').2.1 = { c with anomalyLog := log } := writeBytes_eq port _ _ c w'
      obtain ⟨log, hwrite⟩ := hwrite
      rw [hwrite]
      split
      · obtain ⟨boards, hboards⟩ := hclear { c with anomalyLog := log }
        exact ⟨log, boards, hboards⟩
      · exact ⟨log, c.virtualSwitchBoards, rfl⟩
    · exact ⟨_, _, rfl⟩

/-- The state with everything blanked that a hop may change. -/
def hopPart (c : Comm P) : Comm P :=
  { c with
    anomalyLog := {}
    needSessionResync := false
    nextSwitchRefreshAt := none
    switches := []
    switchBitmap := Vector.replicate _ 0
    virtualSwitchBoards := ∅ }

theorem hopPart_run (port : SerialPort W) (h : ChainHop P W) :
    (h.run port).2.1.hopPart = h.comm.hopPart := by
  unfold ChainHop.run
  split
  · obtain ⟨log, boards, heq⟩ := sendVirtualSwitchReply_eq port h.board h.successor
      { h.reply with nextBoard := h.successor } h.comm h.world
    rw [heq]
    rfl
  · obtain ⟨log, resync, refreshAt, switches, bitmap, heq⟩ :=
      receiveSwitchStateFrame_eq port h.board h.reply h.comm h.world
    rw [heq]
    rfl

/-- Every hop begins in a session like the first one. -/
theorem hopPart_chainHops (port : SerialPort W) (hops : Nat) (expected : UInt8) (r : SwitchReply)
    (c : Comm P) (w : W) :
    (chainHops port hops expected r c w).comm.hopPart = c.hopPart ∧
      ∀ h ∈ (chainHops port hops expected r c w).hops, h.comm.hopPart = c.hopPart := by
  induction hops generalizing expected r c w with
  | zero => exact ⟨rfl, fun h hh => absurd hh List.not_mem_nil⟩
  | succ hops ih =>
    unfold chainHops
    have hhop := hopPart_run port ⟨expected, r, c, w⟩
    split
    · exact ⟨rfl, fun h hh => absurd hh List.not_mem_nil⟩
    · dsimp only
      split
      · obtain ⟨hlast, hall⟩ := ih (ChainHop.run port ⟨expected, r, c, w⟩).1.nextBoard
          (ChainHop.run port ⟨expected, r, c, w⟩).1 (ChainHop.run port ⟨expected, r, c, w⟩).2.1
          (ChainHop.run port ⟨expected, r, c, w⟩).2.2
        refine ⟨hlast.trans hhop, ?_⟩
        intro h hh
        rcases List.mem_cons.mp hh with rfl | hlater
        · rfl
        · exact (hall h hlater).trans hhop
      · refine ⟨hhop, ?_⟩
        intro h hh
        obtain rfl := List.mem_singleton.mp hh
        rfl

/-! ### Reading a Valid Reply -/

/-- The bytes are a switch reply of the session's size. -/
def IsReply (c : Comm P) (f : SwitchFrame) : Prop :=
  ∃ (header body : List UInt8) (payloadBytes : Nat),
    f.buffer = P.kSyncByte :: header ++ body ∧ header.length = P.kHeaderBytes - 1 ∧
      f.frameType = P.extractType (header.getD 0 0) ∧
      c.switchReplyPayloadBytes f.frameType = some payloadBytes ∧
      body.length = payloadBytes + P.kCrcBytes

/-- The frame is a valid reply for the session as it is, and hands on to
    `next`. -/
structure ValidReply (c : Comm P) (next : UInt8) (f : SwitchFrame) : Prop where
  isReply : c.IsReply f
  crc : f.receivedCrc = f.calculatedCrc P
  epoch : f.epochSeen P = c.epoch
  sequence : f.lastHostSequenceSeen P = c.lastOutputSequenceSent
  status : f.statusFlags P = P.kStatusInSync
  token : f.nextBoard = next

/-- The loop of the reader ends with the frame that the board sends. -/
theorem awaitSwitchFrame_of_answers {port : SerialPort W} {c : Comm P} {f : SwitchFrame}
    (hreply : c.IsReply f) {rounds : Nat} {w : W} (hanswers : port.Answers f.buffer rounds w)
    (sawAnyReplyBytes hadState : Bool) :
    ∃ w', c.awaitSwitchFrame port rounds sawAnyReplyBytes hadState w =
      { frame := some f, sawAnyReplyBytes := true, hadState := f.frameType == .switchState,
        world := w' } := by
  induction hanswers with
  | @silent rounds w hnothing hlater ih =>
    obtain ⟨w', hrest⟩ := ih
    refine ⟨w', ?_⟩
    rw [← hrest]
    conv_lhs => unfold awaitSwitchFrame
    generalize hgot : port.read 1 w = got at hnothing ⊢
    obtain ⟨first, w₁⟩ := got
    obtain rfl : first = [] := hnothing
    rfl
  | @speaks rounds w hbytes =>
    obtain ⟨header, body, payloadBytes, hbuffer, hheader, htype, hpayload, hbody⟩ := hreply
    rw [hbuffer] at hbytes
    have hsupplies := port.delivers_supplies
    -- the sync byte, the header, then the rest
    obtain ⟨hsync, hlater⟩ := port.read_one_of_supplies hsupplies hbytes
    generalize hgot : port.read 1 w = got at hsync hlater
    obtain ⟨first, w₁⟩ := got
    obtain rfl : first = [P.kSyncByte] := hsync
    obtain ⟨w₂, hreadHeader, hdelivers⟩ :=
      port.readExact_append_of_supplies hsupplies hheader hlater
    rw [← List.append_nil body] at hdelivers
    obtain ⟨w₃, hreadBody, -⟩ := port.readExact_append_of_supplies hsupplies hbody hdelivers
    refine ⟨w₃, ?_⟩
    unfold awaitSwitchFrame
    rw [hgot]
    dsimp only
    rw [if_neg (by simp), hreadHeader]
    dsimp only
    rw [← htype, hpayload]
    dsimp only
    rw [hreadBody]
    dsimp only
    rw [← hbuffer]

/-- The bitmap after a valid reply of a board. -/
def repliedBitmap (c : Comm P) (board : UInt8) (f : SwitchFrame) :
    Vector UInt8 P.kMaxSwitchBytes :=
  if f.frameType = .switchState then
    mergedBitmap (c.maskOf board) (P.bitsToBytes c.runtimeConfig.switchBits) c.switchBitmap
      (f.bitmap P)
  else c.switchBitmap

end Comm

/-- An in-sync status asks for nothing. -/
def Protocol.InSyncIsQuiet (P : Protocol) : Prop :=
  P.kStatusInSync &&&
    (P.kStatusNeedsSetup ||| P.kStatusMappingIncomplete ||| P.kStatusSequenceGap) = 0

namespace Comm

variable {P : Protocol} {W : Type}

/-- A valid reply disputes nothing. -/
theorem ValidReply.disputes_eq_false {c : Comm P} {next : UInt8} {f : SwitchFrame}
    (h : c.ValidReply next f) (hquiet : P.InSyncIsQuiet) : c.disputes f = false := by
  have hwants : f.wantsResync P = false := by
    unfold SwitchFrame.wantsResync
    rw [h.status, hquiet]
    rfl
  unfold disputes
  rw [h.epoch, h.sequence, hwants]
  simp

/-- **The hop of a board that answers**: its reply is accepted and merged. -/
theorem receive_validReply (hquiet : P.InSyncIsQuiet) {port : SerialPort W} {c : Comm P}
    (hopen : c.portOpen = true) (hvalid : P.isValidRuntimeConfig c.runtimeConfig = true)
    {next : UInt8} {f : SwitchFrame} (hreply : c.ValidReply next f) (board : UInt8)
    (r : SwitchReply) {w : W}
    (hanswers : port.Answers f.buffer (port.window c.switchReplyWindowUs w) w) :
    (c.awaitSwitchFrame port (port.window c.switchReplyWindowUs w) false r.hadState w).frame =
        some f ∧
      ∃ log refreshAt switches w', c.receiveSwitchStateFrame port board r w =
        ({ ok := true, nextBoard := next, hadState := f.frameType == .switchState },
          { c with
            anomalyLog := log
            nextSwitchRefreshAt := refreshAt
            switches := switches
            switchBitmap := c.repliedBitmap board f }, w') := by
  obtain ⟨w', hawait⟩ := awaitSwitchFrame_of_answers hreply.isReply hanswers false r.hadState
  refine ⟨by rw [hawait], ?_⟩
  obtain ⟨log, hcheck⟩ := checkReplyStatus_eq port w' board f c
  rw [hreply.disputes_eq_false hquiet, Bool.or_false] at hcheck
  unfold receiveSwitchStateFrame repliedBitmap
  rw [if_pos ⟨hopen, hvalid⟩, hawait]
  dsimp only
  unfold acceptSwitchFrame
  rw [hcheck, if_neg (by simp [hreply.crc]), hreply.token]
  by_cases hstate : f.frameType = .switchState
  · obtain ⟨refreshAt, happly⟩ := applySwitchBitmapDiff_eq (port.steadyMs w') board (f.bitmap P)
      (P.bitsToBytes c.runtimeConfig.switchBits) { c with anomalyLog := log }
    rw [if_pos hstate, if_pos hstate]
    exact ⟨log, refreshAt, _, w', congrArg (fun d => (_, d, w')) happly⟩
  · rw [if_neg hstate, if_neg hstate]
    exact ⟨log, c.nextSwitchRefreshAt, c.switches, w', rfl⟩

/-! ### Sending a Virtual Reply -/

/-- The pause before a virtual reply. -/
def replyPause (port : SerialPort W) (c : Comm P) (w : W) : W :=
  if 0 < c.switchReplyDelayUs then port.sleepUs c.switchReplyDelayUs.toNat w else w

/-- **The hop of a virtualized board** whose write succeeds. -/
theorem sendVirtual_of_write {port : SerialPort W} {c : Comm P} (hopen : c.portOpen = true)
    (hvalid : P.isValidRuntimeConfig c.runtimeConfig = true) {board next : UInt8}
    {boardState : VirtualSwitchBoardState}
    (hlookup : c.virtualSwitchBoards.lookup board = some boardState) (r : SwitchReply) {w : W}
    (hwrite : (port.write (c.virtualReplyFrame boardState.dirty next c.switchBitmap)
      (c.replyPause port w)).1 =
        (c.virtualReplyFrame boardState.dirty next c.switchBitmap).length) :
    c.sendVirtualSwitchReply port board next r w =
      ({ r with ok := true, hadState := boardState.dirty }, c.clearDirty board,
        (port.write (c.virtualReplyFrame boardState.dirty next c.switchBitmap)
          (c.replyPause port w)).2) := by
  have hok : c.writeVirtualReply port boardState.dirty next c.switchBitmap (c.replyPause port w) =
      (true, c, (port.write (c.virtualReplyFrame boardState.dirty next c.switchBitmap)
        (c.replyPause port w)).2) := by
    unfold writeVirtualReply writeBytes
    rw [if_pos hopen]
    exact if_pos hwrite
  unfold sendVirtualSwitchReply
  rw [hlookup]
  dsimp only
  rw [if_pos ⟨hopen, hvalid⟩]
  unfold replyPause at hok ⊢
  rw [hok]
  rfl

end Comm

end LibPpuc
