import LibPpuc.Framework.Transition
import LibPpuc.Comm.Firmware
import LibPpuc.Comm.Output
import LibPpuc.Comm.SwitchReply

/-! # The Bus Thread and Its Environment

  `Run` starts a thread that owns the bus.  Its loop is cut into the blocks
  that other threads can get between: a block ends where a mutex is
  released, before a write, after a sleep, and where a shared flag was
  read.  `BusPc` says which block is next, with the local variables that are
  still needed.

  A system state adds the thread of `UpdateBoardFirmware` and the world.  A
  label is one block of one thread, or one whole call of an operation that
  the other threads see as one block.
-/

namespace LibPpuc

/-- `RS485_COMM_EFFECT_EVENT_SPACING_US`. -/
def RS485_COMM_EFFECT_EVENT_SPACING_US : Nat := 1000

/-- The next block of the bus thread. -/
inductive BusPc (P : Protocol) where
  /-- The test of `m_stopRequested`. -/
  | loop
  /-- Take the next queued event, after so many were taken. -/
  | popEvent (eventsSent : Nat)
  | sendEvent (eventsSent : Nat) (event : Event)
  | runtimeTest
  | resyncTest
  | resyncSetup
  /-- The mapping frames still to be sent by `ResyncSession`. -/
  | resyncMapping (rest : List (UInt8 × UInt16 × UInt16))
  /-- Choose the polled board and inspect the snapshot queue. -/
  | inspectQueue
  /-- Copy the output state: the popped snapshot, or the live buffers. -/
  | copyState (nextBoard : UInt8) (refresh : Bool) (snapshot : Option (QueuedOutputSnapshot P))
  | writeFrame (nextBoard : UInt8) (refresh : Bool) (frame : QueuedOutputSnapshot P)
      (holdFrames : Vector Nat P.kMaxCoilBits)
  | consumeHoldover (nextBoard : UInt8) (holdFrames : Vector Nat P.kMaxCoilBits)
  /-- The loop test of `ReceiveSwitchStateChain`, with the hops left. -/
  | hop (hops : Nat) (expected : UInt8) (reply : SwitchReply) (refresh : Bool)
  /-- `SendVirtualSwitchReply` has read the dirty flag. -/
  | virtualCopy (hops : Nat) (board next : UInt8) (sendState refresh : Bool)
  | virtualWrite (hops : Nat) (board next : UInt8) (sendState refresh : Bool)
      (switchCopy : Vector UInt8 P.kMaxSwitchBytes)
  | virtualClear (hops : Nat) (board next : UInt8) (sendState refresh : Bool)
  | chainDone (success refresh : Bool)
  | stopped

namespace BusPc

variable {P : Protocol}

/-- No copy of shared state is carried over to the next block. -/
def carriesNothing : BusPc P → Bool
  | .copyState .. | .writeFrame .. | .consumeHoldover .. | .virtualCopy .. | .virtualWrite ..
  | .virtualClear .. => false
  | _ => true

/-- The block always works on shared state besides the session. -/
def alwaysShares : BusPc P → Bool
  | .inspectQueue | .copyState .. | .consumeHoldover .. | .virtualCopy .. | .virtualClear .. =>
    true
  | _ => false

/-- Where the loop goes on after a frame was written. -/
def afterFrame (nextBoard : UInt8) (refresh : Bool) : BusPc P :=
  if nextBoard = P.kNoBoard then .loop
  else
    .hop RS485_COMM_MAX_BOARDS nextBoard
      { ok := false, nextBoard := P.kNoBoard, hadState := false } refresh

theorem afterFrame_carriesNothing (nextBoard : UInt8) (refresh : Bool) :
    (afterFrame nextBoard refresh : BusPc P).carriesNothing = true := by
  unfold afterFrame
  split <;> rfl

end BusPc

namespace Comm

variable {P : Protocol} {W : Type}

/-! ### Blocks of the Bus Thread -/

/-- The board that is polled at time `now`. -/
def polledBoard (now : Nat) (c : Comm P) : UInt8 :=
  match c.switchBoards with
  | board :: _ => if c.nextSwitchPollAt ≤ now then board else P.kNoBoard
  | [] => P.kNoBoard

/-- Whether the switch refresh is due at time `now`. -/
def refreshDue (now : Nat) (c : Comm P) : Bool :=
  c.polledBoard now != P.kNoBoard && decide (0 < c.switchRefreshIdleMs) &&
    match c.nextSwitchRefreshAt with
    | some t => decide (t ≤ now)
    | none => false

/-- The block that chooses the polled board and pops a snapshot; without
    one it ends with the sleep of the frame interval. -/
def inspectQueue (port : SerialPort W) (c : Comm P) (w : W) : BusPc P × Comm P × W :=
  let now := port.steadyMs w
  -- a due refresh goes before any snapshot
  if c.refreshDue now then
    (.copyState (c.polledBoard now) true none, c, port.sleepUs (c.outputFrameIntervalMs * 1000) w)
  else
    match c.outputSnapshots with
    | snapshot :: rest =>
      (.copyState (c.polledBoard now) false (some snapshot), { c with outputSnapshots := rest }, w)
    | [] =>
      (.copyState (c.polledBoard now) false none, c,
        port.sleepUs (c.outputFrameIntervalMs * 1000) w)

/-- The write of the output or refresh frame. -/
def writeFrame (port : SerialPort W) (nextBoard : UInt8) (refresh : Bool)
    (frame : QueuedOutputSnapshot P) (holdFrames : Vector Nat P.kMaxCoilBits) (c : Comm P)
    (w : W) : BusPc P × Comm P × W :=
  if refresh then
    match c.sendSwitchRefreshFrame port nextBoard w with
    | (true, c, w) => (.afterFrame nextBoard true, c, w)
    | (false, c, w) => (.loop, c, w)
  else
    match c.sendOutputStateFrameFromBuffers port nextBoard frame w with
    | (true, c, w) => (.consumeHoldover nextBoard holdFrames, c, w)
    | (false, c, w) => (.loop, c, w)

/-- One hop of the chain, up to the point where a virtual reply has read the
    dirty flag. -/
def hop (port : SerialPort W) (hops : Nat) (expected : UInt8) (reply : SwitchReply)
    (refresh : Bool) (c : Comm P) (w : W) : BusPc P × Comm P × W :=
  match hops with
  | 0 => (.chainDone true refresh, c, w)
  | hops + 1 =>
    if expected = P.kNoBoard then (.chainDone true refresh, c, w)
    else
      match c.virtualSwitchBoards.lookup expected with
      | some boardState =>
        -- the host answers for a virtualized board
        if c.portOpen ∧ P.isValidRuntimeConfig c.runtimeConfig then
          (.virtualCopy hops expected (c.getLogicalNextSwitchBoard expected) boardState.dirty
            refresh, c, w)
        else (.chainDone false refresh, c, w)
      | none =>
        -- a real board answers by itself
        match c.receiveSwitchStateFrame port expected reply w with
        | (reply, c, w) =>
          if reply.ok then (.hop hops reply.nextBoard reply refresh, c, w)
          else (.chainDone false refresh, c, w)

/-- The end of the chain and of the loop body. -/
def chainDone (port : SerialPort W) (success refresh : Bool) (c : Comm P) (w : W) : Comm P :=
  let c := c.noteSwitchReplyChain port w success
  if refresh = true ∧ 0 < c.switchRefreshIdleMs then
    { c with nextSwitchRefreshAt := some (port.steadyMs w + c.switchRefreshIdleMs) }
  else c

/-- One block of the bus thread. -/
def busStep (port : SerialPort W) (sourceByte : EventSource → UInt8) (pc : BusPc P)
    (c : Comm P) (w : W) : Option (BusPc P × Comm P × W) :=
  match pc with
  | .stopped => none
  | .loop => some (if c.stopRequested then .stopped else .popEvent 0, c, w)
  | .popEvent eventsSent =>
    if eventsSent < RS485_COMM_MAX_EVENTS_TO_SEND then
      -- at most RS485_COMM_MAX_EVENTS_TO_SEND events a round
      match c.events with
      | event :: rest => some (.sendEvent eventsSent event, { c with events := rest }, w)
      | [] => some (.runtimeTest, c, w)
    else some (.runtimeTest, c, w)
  | .sendEvent eventsSent event =>
    match c.sendEvent port sourceByte event w with
    | (_, c, w) =>
      some (.popEvent (eventsSent + 1), c,
        if event.sourceId = .effect then port.sleepUs RS485_COMM_EFFECT_EVENT_SPACING_US w
        else w)
  | .runtimeTest =>
    -- events go out before this test, output frames after it
    if c.runtimeEnabled then some (.resyncTest, c, w)
    else some (.loop, c, port.sleepUs 1000 w)
  | .resyncTest =>
    -- a failed resync is tried again in the next round
    if c.needSessionResync then some (.resyncSetup, c.startResync port w, w)
    else some (.inspectQueue, c, w)
  | .resyncSetup =>
    match c.sendSetupFrame port w with
    | (true, c, w) => some (.resyncMapping c.mappingFrames, c, port.sleepUs 100000 w)
    | (false, c, w) => some (.loop, c, port.sleepUs 100000 w)
  | .resyncMapping [] =>
    match c.finishResync port w with
    | (c, w) => some (.inspectQueue, c, w)
  | .resyncMapping ((domain, index, number) :: rest) =>
    match c.sendMappingFrame port domain index number w with
    | (true, c, w) => some (.resyncMapping rest, c, w)
    | (false, c, w) => some (.loop, c, port.sleepUs 100000 w)
  | .inspectQueue => some (c.inspectQueue port w)
  | .copyState nextBoard refresh snapshot =>
    -- the lock ends here; the write works on the copies
    some (.writeFrame nextBoard refresh (c.heldSnapshot (snapshot.getD c.outputSnapshot))
      c.coilHoldFrames, c, w)
  | .writeFrame nextBoard refresh frame holdFrames =>
    some (c.writeFrame port nextBoard refresh frame holdFrames w)
  | .consumeHoldover nextBoard holdFrames =>
    some (.afterFrame nextBoard false, c.consumeCoilHoldoverLocked holdFrames, w)
  | .hop hops expected reply refresh => some (c.hop port hops expected reply refresh w)
  | .virtualCopy hops board next sendState refresh =>
    some (.virtualWrite hops board next sendState refresh
      (if sendState then c.switchBitmap else Vector.replicate _ 0), c,
      if 0 < c.switchReplyDelayUs then port.sleepUs c.switchReplyDelayUs.toNat w else w)
  | .virtualWrite hops board next sendState refresh switchCopy =>
    -- the flag is cleared after the write, without a second look
    match c.writeVirtualReply port sendState next switchCopy w with
    | (true, c, w) => some (.virtualClear hops board next sendState refresh, c, w)
    | (false, c, w) => some (.chainDone false refresh, c, w)
  | .virtualClear hops board next sendState refresh =>
    some (.hop hops next { ok := true, nextBoard := next, hadState := sendState } refresh,
      c.clearDirty board, w)
  | .chainDone success refresh => some (.loop, c.chainDone port success refresh w, w)

end Comm

/-! ### The System -/

/-- The members of `RS485Comm`, the threads that work on them, the world. -/
structure Sys (P : Protocol) (W : Type) where
  comm : Comm P
  bus : BusPc P
  /-- A call of `UpdateBoardFirmware`, if one was made. -/
  firmware : Option (FirmwareRequest × FirmwareStage)
  world : W

/-- What happens next. -/
inductive Label where
  /-- A block of the bus thread. -/
  | bus
  | queueEvent (event : Event)
  | setVirtualSwitchState (number : UInt16) (state : UInt8)
  | getNextSwitchState
  /-- `UpdateBoardFirmware` is called. -/
  | updateBoardFirmware (request : FirmwareRequest)
  /-- A stage of `UpdateBoardFirmware`. -/
  | firmware
  deriving DecidableEq

/-- The parts of the environment that the code calls. -/
structure Env (W : Type) where
  port : SerialPort W
  /-- The byte values of the event sources in `Event.h`. -/
  sourceByte : EventSource → UInt8
  admin : AdminProtocol

namespace Sys

variable {P : Protocol} {W : Type}

/-- No call of `UpdateBoardFirmware` is under way. -/
def firmwareIdle (s : Sys P W) : Bool :=
  match s.firmware with
  | none => true
  | some (_, .returned _) => true
  | some _ => false

/-- `UpdateBoardFirmware` has passed its runtime test and has not returned. -/
def transferring (s : Sys P W) : Bool :=
  match s.firmware with
  | none => false
  | some (_, stage) => stage.transferring

/-- One step of the system. -/
def step (E : Env W) (s : Sys P W) : Label → Option (Sys P W)
  | .bus =>
    (s.comm.busStep E.port E.sourceByte s.bus s.world).map fun r =>
      { s with bus := r.1, comm := r.2.1, world := r.2.2 }
  | .queueEvent event => some { s with comm := s.comm.queueEvent E.port s.world event }
  | .setVirtualSwitchState number state =>
    some { s with
      comm := (s.comm.setVirtualSwitchState (E.port.steadyMs s.world) number state).2 }
  | .getNextSwitchState => some { s with comm := s.comm.getNextSwitchState.2 }
  | .updateBoardFirmware request =>
    if s.firmwareIdle then some { s with firmware := some (request, .query) } else none
  | .firmware =>
    match s.firmware with
    | none => none
    | some (request, stage) =>
      let r := s.comm.firmwareStep E.port E.admin request stage s.world
      some { s with firmware := some (request, r.1), comm := r.2.1, world := r.2.2 }

/-- The state of the bus thread right after `Run` started it. -/
def start (E : Env W) (c : Comm P) (w : W) : Sys P W where
  comm :=
    { c with
      stopRequested := false
      nextSwitchPollAt := E.port.steadyMs w + RS485_COMM_SWITCH_POLL_STARTUP_HOLD_MS
      nextSwitchRefreshAt :=
        if c.switchRefreshIdleMs = 0 then none
        else some (E.port.steadyMs w + c.switchRefreshIdleMs) }
  bus := .loop
  firmware := none
  world := w

end Sys

end LibPpuc
