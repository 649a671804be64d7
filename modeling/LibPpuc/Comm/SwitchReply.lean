import LibPpuc.Comm.Switch

/-! # Switch Replies

  After an output frame the host polls the switch boards as a chain: each
  reply names the board that answers next.  This file has the reader of one
  reply (`ReceiveSwitchStateFrame`), the replies the host sends for
  virtualized boards, the chain and its accounting, and the session resync.

  The reader is cut in two: `awaitSwitchFrame` is its loop up to the first
  complete switch frame, `acceptSwitchFrame` what it does with that frame.
-/

namespace LibPpuc

/-- A complete switch frame, as it came from the port. -/
structure SwitchFrame where
  frameType : FrameType
  /-- Header, payload and CRC. -/
  buffer : List UInt8
  deriving DecidableEq, Repr

namespace SwitchFrame

variable (P : Protocol) (f : SwitchFrame)

/-- The token the frame hands on. -/
def nextBoard : UInt8 := f.buffer.getD 2 0

def epochSeen : UInt8 := f.buffer.getD P.kHeaderBytes 0

def lastHostSequenceSeen : UInt8 := f.buffer.getD (P.kHeaderBytes + 1) 0

def statusFlags : UInt8 := f.buffer.getD (P.kHeaderBytes + 2) 0

def receivedCrc : UInt16 :=
  ((f.buffer.getD (f.buffer.length - 2) 0).toUInt16 <<< 8) |||
    (f.buffer.getD (f.buffer.length - 1) 0).toUInt16

def calculatedCrc : UInt16 := P.crc16Ccitt (f.buffer.take (f.buffer.length - P.kCrcBytes))

/-- The switch bits of a state frame. -/
def bitmap : Vector UInt8 P.kMaxSwitchBytes :=
  Vector.ofFn fun k => f.buffer.getD (P.kHeaderBytes + P.kSwitchStatusBytes + k.val) 0

/-- The board asks for a new session. -/
def wantsResync : Bool :=
  f.statusFlags P &&&
    (P.kStatusNeedsSetup ||| P.kStatusMappingIncomplete ||| P.kStatusSequenceGap) != 0

def parserResynced : Bool := f.statusFlags P &&& P.kStatusParserResynced != 0

def switchOverflow : Bool := f.statusFlags P &&& P.kStatusSwitchOverflow != 0

end SwitchFrame

/-- What `ReceiveSwitchStateFrame` and `SendVirtualSwitchReply` hand back:
    the result and the two out parameters. -/
structure SwitchReply where
  ok : Bool
  nextBoard : UInt8
  hadState : Bool
  deriving DecidableEq, Repr

namespace Comm

variable {P : Protocol} {W : Type}

/-! ### Reading One Reply -/

/-- `SwitchReplyWindowUs`. -/
def switchReplyWindowUs (c : Comm P) : Nat :=
  40000 + c.switchReplyDelayUs.toNat *
    (if c.switchBoards.length = 0 then 1 else c.switchBoards.length)

/-- `SwitchReadTimeoutMs`: the sum wraps for the longest delays. -/
def switchReadTimeoutMs (c : Comm P) : UInt32 := max 5 ((c.switchReplyDelayUs + 999) / 1000 + 1)

/-- The payload size of a reply; other frame types are ignored. -/
def switchReplyPayloadBytes (c : Comm P) : FrameType → Option Nat
  | .switchState => some (P.switchPayloadBytes c.runtimeConfig)
  | .switchNoChange => some P.switchNoChangePayloadBytes
  | _ => none

/-- Where the reading loop of `ReceiveSwitchStateFrame` stands when it ends. -/
structure AwaitedFrame (W : Type) where
  /-- The frame, or nothing when the window closed. -/
  frame : Option SwitchFrame
  sawAnyReplyBytes : Bool
  hadState : Bool
  world : W

/-- The reading loop of `ReceiveSwitchStateFrame`.  Every round checks the
    window once and reads one byte; `readOneByteWithinWindow` asks again as
    long as the window is open, so a round without a byte is a round too. -/
def awaitSwitchFrame (port : SerialPort W) (c : Comm P) :
    Nat → Bool → Bool → W → AwaitedFrame W
  | 0, sawAnyReplyBytes, hadState, w => ⟨none, sawAnyReplyBytes, hadState, w⟩
  | rounds + 1, sawAnyReplyBytes, hadState, w =>
    match port.read 1 w with
    | ([], w) => awaitSwitchFrame port c rounds sawAnyReplyBytes hadState w
    | (sync :: _, w) =>
      if sync ≠ P.kSyncByte then awaitSwitchFrame port c rounds true hadState w
      else
        match port.readExact (P.kHeaderBytes - 1) w with
        | (none, w) => awaitSwitchFrame port c rounds true hadState w
        | (some header, w) =>
          match c.switchReplyPayloadBytes (P.extractType (header.getD 0 0)) with
          -- not a switch reply: its header is gone, its payload is not drained
          | none => awaitSwitchFrame port c rounds true hadState w
          | some payloadBytes =>
            let hadState := P.extractType (header.getD 0 0) == .switchState
            match port.readExact (payloadBytes + P.kCrcBytes) w with
            | (none, w) => awaitSwitchFrame port c rounds true hadState w
            | (some body, w) =>
              { frame := some
                  { frameType := P.extractType (header.getD 0 0)
                    buffer := sync :: header ++ body }
                sawAnyReplyBytes := true
                hadState := hadState
                world := w }

/-- Report a finding of the reader and ask for a session resync. -/
def requestResync (port : SerialPort W) (w : W) (kind : Anomaly) (message : String)
    (c : Comm P) : Comm P :=
  { c.reportAnomaly port w kind message with needSessionResync := true }

/-- The checks on the payload, made before the CRC is looked at. -/
def checkReplyStatus (port : SerialPort W) (w : W) (expectedBoard : UInt8) (f : SwitchFrame)
    (c : Comm P) : Comm P :=
  let c :=
    if f.epochSeen P ≠ c.epoch then
      c.requestResync port w .epochMismatch
        s!"V2 switch reply epoch mismatch: board={expectedBoard} seen={f.epochSeen P} expected={c.epoch}"
    else c
  let c :=
    if f.lastHostSequenceSeen P ≠ c.lastOutputSequenceSent then
      c.requestResync port w .epochMismatch
        s!"V2 switch reply sequence mismatch: board={expectedBoard} seen={f.lastHostSequenceSeen P} expected={c.lastOutputSequenceSent}"
    else c
  let c :=
    if f.wantsResync P then
      c.requestResync port w .boardStatus
        s!"V2 switch reply requested resync: board={expectedBoard} flags=0x{hex2 (f.statusFlags P)}"
    else c
  -- these two flags are logged only
  if f.parserResynced P || f.switchOverflow P then
    let parser := if f.parserResynced P then " parser-resynced" else ""
    let overflow := if f.switchOverflow P then " switch-overflow" else ""
    c.reportAnomaly port w .boardStatus
      s!"V2 switch reply status flags: board={expectedBoard} flags=0x{hex2 (f.statusFlags P)}{parser}{overflow}"
  else c

/-- The fields that are read before the CRC ask for a resync. -/
def disputes (f : SwitchFrame) (c : Comm P) : Bool :=
  f.epochSeen P != c.epoch || f.lastHostSequenceSeen P != c.lastOutputSequenceSent ||
    f.wantsResync P

/-- The checks touch the anomaly log and the resync request only. -/
theorem checkReplyStatus_eq (port : SerialPort W) (w : W) (expectedBoard : UInt8)
    (f : SwitchFrame) (c : Comm P) :
    ∃ log, c.checkReplyStatus port w expectedBoard f =
      { c with
        anomalyLog := log
        needSessionResync := c.needSessionResync || c.disputes f } := by
  refine ⟨(c.checkReplyStatus port w expectedBoard f).anomalyLog, ?_⟩
  unfold checkReplyStatus disputes
  by_cases hepoch : f.epochSeen P = c.epoch <;>
    by_cases hsequence : f.lastHostSequenceSeen P = c.lastOutputSequenceSent <;>
    by_cases hwants : f.wantsResync P = true <;>
    by_cases hflags : (f.parserResynced P || f.switchOverflow P) = true <;>
    simp [hepoch, hsequence, hwants, hflags, requestResync, reportAnomaly]

/-- What `ReceiveSwitchStateFrame` does with a complete switch frame. -/
def acceptSwitchFrame (port : SerialPort W) (w : W) (expectedBoard : UInt8) (f : SwitchFrame)
    (c : Comm P) : Bool × Comm P :=
  let c := c.checkReplyStatus port w expectedBoard f
  if f.receivedCrc ≠ f.calculatedCrc P then
    (false, c.reportAnomaly port w .frameCrc
      s!"Invalid V2 switch frame CRC: got={hex4 f.receivedCrc} expected={hex4 (f.calculatedCrc P)}")
  else if f.frameType = .switchState then
    (true, c.applySwitchBitmapDiff (port.steadyMs w) expectedBoard (f.bitmap P)
      (P.bitsToBytes c.runtimeConfig.switchBits))
  else (true, c)

/-- The end of `ReceiveSwitchStateFrame` when the window closed. -/
def switchReplyTimedOut (port : SerialPort W) (expectedBoard : UInt8) (a : AwaitedFrame W)
    (c : Comm P) : Comm P × W :=
  let (inputWaiting, w) := port.inputWaiting a.world
  let sawBytes := if a.sawAnyReplyBytes then "yes" else "no"
  let c := c.reportAnomaly port w .switchChainMiss
    s!"Timed out waiting for V2 switch reply for board token {expectedBoard} (windowUs={c.switchReplyWindowUs} readTimeoutMs={c.switchReadTimeoutMs} sawBytes={sawBytes} inputWaiting={inputWaiting} lastOutputSeq={c.lastOutputSequenceSent} epoch={c.epoch})"
  let (stillWaiting, w) := port.inputWaiting w
  (c, if stillWaiting ≤ 0 then port.flushInput w else w)

/-- `ReceiveSwitchStateFrame`. -/
def receiveSwitchStateFrame (port : SerialPort W) (expectedBoard : UInt8) (r : SwitchReply)
    (c : Comm P) (w : W) : SwitchReply × Comm P × W :=
  if c.portOpen ∧ P.isValidRuntimeConfig c.runtimeConfig then
    let a := c.awaitSwitchFrame port (port.window c.switchReplyWindowUs w) false r.hadState w
    match a.frame with
    | some f =>
      let (ok, c) := c.acceptSwitchFrame port a.world expectedBoard f
      ({ ok := ok, nextBoard := f.nextBoard, hadState := a.hadState }, c, a.world)
    | none =>
      let (c, w) := c.switchReplyTimedOut port expectedBoard a
      ({ r with ok := false, hadState := a.hadState }, c, w)
  else ({ r with ok := false }, c, w)

/-! ### Replies for Virtualized Boards -/

/-- `GetLogicalNextSwitchBoard`: the successor of the first entry of `board`. -/
def getLogicalNextSwitchBoard (board : UInt8) (c : Comm P) : UInt8 :=
  match c.switchBoards.idxOf? board with
  | some i => c.switchBoards.getD (i + 1) P.kNoBoard
  | none => P.kNoBoard

/-- The reply frame of a virtualized board; `switchCopy` is only read for a
    state reply. -/
def virtualReplyFrame (sendState : Bool) (nextBoard : UInt8)
    (switchCopy : Vector UInt8 P.kMaxSwitchBytes) (c : Comm P) : List UInt8 :=
  P.buildSwitchReplyFrame sendState nextBoard c.lastOutputSequenceSent c.epoch c.epoch
    c.lastOutputSequenceSent P.kStatusInSync switchCopy
    (P.bitsToBytes c.runtimeConfig.switchBits)

/-- The write of `SendVirtualSwitchReply`. -/
def writeVirtualReply (port : SerialPort W) (sendState : Bool) (nextBoard : UInt8)
    (switchCopy : Vector UInt8 P.kMaxSwitchBytes) (c : Comm P) (w : W) : Bool × Comm P × W :=
  c.writeBytes port
    (if sendState then "VirtualSwitchStateFrame" else "VirtualSwitchNoChangeFrame")
    (c.virtualReplyFrame sendState nextBoard switchCopy) w

/-- The end of `SendVirtualSwitchReply`: the board's dirty flag is cleared. -/
def clearDirty (board : UInt8) (c : Comm P) : Comm P :=
  match c.virtualSwitchBoards.lookup board with
  | some boardState =>
    { c with virtualSwitchBoards := c.virtualSwitchBoards.insert board boardState.clearDirty }
  | none => c

/-- Clearing the dirty flag of a board leaves its switches and all other
    boards alone. -/
theorem lookup_clearDirty (board b : UInt8) (c : Comm P) :
    (c.clearDirty board).virtualSwitchBoards.lookup b =
      if b = board then (c.virtualSwitchBoards.lookup b).map VirtualSwitchBoardState.clearDirty
      else c.virtualSwitchBoards.lookup b := by
  unfold clearDirty
  split
  · next boardState hlookup =>
    by_cases hb : b = board
    · subst hb
      rw [if_pos rfl, hlookup]
      exact AList.lookup_insert _
    · rw [if_neg hb]
      exact AList.lookup_insert_ne hb
  · next hlookup =>
    split
    · next hb =>
      subst hb
      rw [hlookup]
      rfl
    · rfl

/-- `SendVirtualSwitchReply`, without other threads in between. -/
def sendVirtualSwitchReply (port : SerialPort W) (board nextBoard : UInt8) (r : SwitchReply)
    (c : Comm P) (w : W) : SwitchReply × Comm P × W :=
  match c.virtualSwitchBoards.lookup board with
  | none => ({ r with ok := false }, c, w)
  | some boardState =>
    if c.portOpen ∧ P.isValidRuntimeConfig c.runtimeConfig then
      let w := if 0 < c.switchReplyDelayUs then port.sleepUs c.switchReplyDelayUs.toNat w else w
      let (ok, c, w) := c.writeVirtualReply port boardState.dirty nextBoard c.switchBitmap w
      ({ r with ok := ok, hadState := boardState.dirty },
        if ok then c.clearDirty board else c, w)
    else ({ r with ok := false }, c, w)

/-! ### The Chain -/

/-- The accounting at the end of `ReceiveSwitchStateChain`. -/
def noteSwitchReplyChain (port : SerialPort W) (w : W) (success : Bool) (c : Comm P) : Comm P :=
  let c : Comm P := { c with switchReplyChainCount := c.switchReplyChainCount + 1 }
  if success then
    { c with
      switchReplyMisses := 0
      cleanSwitchReplyChainCount := c.cleanSwitchReplyChainCount + 1 }
  else
    let c : Comm P :=
      { c with
        switchReplyMisses := c.switchReplyMisses + 1
        switchReplyMissCount := c.switchReplyMissCount + 1 }
    let c := c.reportAnomaly port w .switchChainMiss
      s!"Missed V2 switch reply chain {c.switchReplyMisses} time(s)"
    if RS485_COMM_SWITCH_REPLY_MISS_THRESHOLD ≤ c.switchReplyMisses.toNat then
      { c with sessionResyncCount := c.sessionResyncCount + 1, needSessionResync := true }
    else c

/-- The hops of `ReceiveSwitchStateChain`: whether all of them succeeded. -/
def switchReplyHops (port : SerialPort W) :
    Nat → UInt8 → SwitchReply → Comm P → W → Bool × Comm P × W
  | 0, _, _, c, w => (true, c, w)
  | hops + 1, expected, r, c, w =>
    if expected = P.kNoBoard then (true, c, w)
    else
      match c.virtualSwitchBoards.lookup expected with
      | some _ =>
        let next := c.getLogicalNextSwitchBoard expected
        match c.sendVirtualSwitchReply port expected next { r with nextBoard := next } w with
        | (r, c, w) =>
          if r.ok then switchReplyHops port hops next r c w else (false, c, w)
      | none =>
        match c.receiveSwitchStateFrame port expected r w with
        | (r, c, w) =>
          if r.ok then switchReplyHops port hops r.nextBoard r c w else (false, c, w)

/-- `ReceiveSwitchStateChain`. -/
def receiveSwitchStateChain (port : SerialPort W) (firstBoard : UInt8) (c : Comm P) (w : W) :
    Comm P × W :=
  let (success, c, w) := switchReplyHops port RS485_COMM_MAX_BOARDS firstBoard
    { ok := false, nextBoard := P.kNoBoard, hadState := false } c w
  (c.noteSwitchReplyChain port w success, w)

/-! ### Session Resync -/

/-- `SendSetupFrame`. -/
def sendSetupFrame (port : SerialPort W) (c : Comm P) (w : W) : Bool × Comm P × W :=
  if c.portOpen ∧ P.isValidRuntimeConfig c.runtimeConfig then
    ({ c with sequence := c.sequence + 1 } : Comm P).writeBytes port "SetupFrame"
      (P.buildSetupFrame P.kNoBoard c.sequence c.epoch c.runtimeConfig) w
  else (false, c, w)

/-- `SendMappingFrame`. -/
def sendMappingFrame (port : SerialPort W) (domain : UInt8) (index number : UInt16)
    (c : Comm P) (w : W) : Bool × Comm P × W :=
  if c.portOpen then
    let w := port.sleepUs 5000 w
    ({ c with sequence := c.sequence + 1 } : Comm P).writeBytes port "MappingFrame"
      (P.buildMappingFrame P.kNoBoard c.sequence c.epoch domain index number) w
  else (false, c, w)

/-- The frames of one domain: every index with its number. -/
def mappingFramesOf (domain : UInt8) (numbers : List UInt16) : List (UInt8 × UInt16 × UInt16) :=
  numbers.zipIdx.map fun p => (domain, UInt16.ofNat p.2, p.1)

/-- The frames `SendMappingFrames` writes, in order. -/
def mappingFrames (c : Comm P) : List (UInt8 × UInt16 × UInt16) :=
  mappingFramesOf P.kDomainCoil c.coilIndexToNumber ++
    mappingFramesOf P.kDomainLamp c.lampIndexToNumber ++
    mappingFramesOf P.kDomainSwitch c.switchIndexToNumber

/-- The loops of `SendMappingFrames`: the first failed write ends them. -/
def sendMappingFrameList (port : SerialPort W) :
    List (UInt8 × UInt16 × UInt16) → Comm P → W → Bool × Comm P × W
  | [], c, w => (true, c, w)
  | (domain, index, number) :: rest, c, w =>
    match c.sendMappingFrame port domain index number w with
    | (true, c, w) => sendMappingFrameList port rest c w
    | (false, c, w) => (false, c, w)

/-- `SendMappingFrames`. -/
def sendMappingFrames (port : SerialPort W) (c : Comm P) (w : W) : Bool × Comm P × W :=
  sendMappingFrameList port c.mappingFrames c w

/-- The start of `ResyncSession`: a new epoch. -/
def startResync (port : SerialPort W) (w : W) (c : Comm P) : Comm P :=
  let c : Comm P := { c with epoch := c.epoch + 1 }
  c.reportAnomaly port w .sessionResync s!"Starting V2 session resync epoch={c.epoch}"

/-- The end of `ResyncSession`. -/
def finishResync (port : SerialPort W) (c : Comm P) (w : W) : Comm P × W :=
  let w := port.sleepUs 20000 (port.flushInput w)
  ({ c with
      needSessionResync := false
      nextSwitchPollAt := port.steadyMs w + RS485_COMM_SWITCH_POLL_STARTUP_HOLD_MS }, w)

/-- `ResyncSession`, without other threads in between. -/
def resyncSession (port : SerialPort W) (c : Comm P) (w : W) : Bool × Comm P × W :=
  match (c.startResync port w).sendSetupFrame port w with
  | (false, c, w) => (false, c, w)
  | (true, c, w) =>
    match c.sendMappingFrames port (port.sleepUs 100000 w) with
    | (false, c, w) => (false, c, w)
    | (true, c, w) =>
      let (c, w) := c.finishResync port w
      (true, c, w)

/-! ### What the Setup Frames Change -/

/-- A setup frame takes a sequence number, and may log. -/
theorem sendSetupFrame_eq (port : SerialPort W) (c : Comm P) (w : W) :
    ∃ sequence log, (c.sendSetupFrame port w).2.1 =
      { c with sequence := sequence, anomalyLog := log } := by
  unfold sendSetupFrame
  split
  · obtain ⟨log, heq⟩ := writeBytes_eq port "SetupFrame"
      (P.buildSetupFrame P.kNoBoard c.sequence c.epoch c.runtimeConfig)
      { c with sequence := c.sequence + 1 } w
    exact ⟨_, log, heq⟩
  · exact ⟨_, _, rfl⟩

theorem sendMappingFrame_eq (port : SerialPort W) (domain : UInt8) (index number : UInt16)
    (c : Comm P) (w : W) :
    ∃ sequence log, (c.sendMappingFrame port domain index number w).2.1 =
      { c with sequence := sequence, anomalyLog := log } := by
  unfold sendMappingFrame
  split
  · obtain ⟨log, heq⟩ := writeBytes_eq port "MappingFrame"
      (P.buildMappingFrame P.kNoBoard c.sequence c.epoch domain index number)
      { c with sequence := c.sequence + 1 } (port.sleepUs 5000 w)
    exact ⟨_, log, heq⟩
  · exact ⟨_, _, rfl⟩

theorem sendMappingFrameList_eq (port : SerialPort W) (frames : List (UInt8 × UInt16 × UInt16))
    (c : Comm P) (w : W) :
    ∃ sequence log, (sendMappingFrameList port frames c w).2.1 =
      { c with sequence := sequence, anomalyLog := log } := by
  induction frames generalizing c w with
  | nil => exact ⟨_, _, rfl⟩
  | cons frame frames ih =>
    obtain ⟨domain, index, number⟩ := frame
    obtain ⟨sequence, log, hframe⟩ := sendMappingFrame_eq port domain index number c w
    unfold sendMappingFrameList
    split
    · next heq =>
      rw [heq] at hframe
      obtain rfl := hframe
      obtain ⟨sequence', log', hrest⟩ := ih _ _
      exact ⟨sequence', log', hrest⟩
    · next heq =>
      rw [heq] at hframe
      exact ⟨sequence, log, hframe⟩

/-- A resync begins an epoch, and ends the request if all frames are written. -/
theorem resyncSession_eq (port : SerialPort W) (c : Comm P) (w : W) :
    ∃ sequence log resync pollAt, (c.resyncSession port w).2.1 =
      { c with
        epoch := c.epoch + 1
        sequence := sequence
        anomalyLog := log
        needSessionResync := resync
        nextSwitchPollAt := pollAt } := by
  obtain ⟨sequence, log, hsetup⟩ := sendSetupFrame_eq port (c.startResync port w) w
  unfold resyncSession
  split
  · next heq =>
    rw [heq] at hsetup
    obtain rfl := hsetup
    exact ⟨_, _, _, _, rfl⟩
  · next heq =>
    rw [heq] at hsetup
    obtain rfl := hsetup
    split
    · next c₂ w₂ heq₂ =>
      obtain ⟨sequence', log', hmapping⟩ := sendMappingFrameList_eq port _ _ _
      rw [sendMappingFrames] at heq₂
      rw [heq₂] at hmapping
      obtain rfl := hmapping
      exact ⟨_, _, _, _, rfl⟩
    · next c₂ w₂ heq₂ =>
      obtain ⟨sequence', log', hmapping⟩ := sendMappingFrameList_eq port _ _ _
      rw [sendMappingFrames] at heq₂
      rw [heq₂] at hmapping
      obtain rfl := hmapping
      exact ⟨_, _, _, _, rfl⟩

end Comm

end LibPpuc
