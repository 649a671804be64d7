import LibPpuc.Runtime.Blocks
import LibPpuc.Startup.Reference

/-! # Sessions of a Host

  One object goes through many sessions: `LoadConfiguration`, `Connect` with
  a startup attempt, a bus thread that `Run` starts, and `Disconnect`.  Other
  threads of the application queue events and set virtual switches all the
  while.  Version queries and firmware transfers are no steps of a host, and
  the delays, intervals and the hold count stay as they were constructed.

  `Connect` and `Disconnect` are cut into the blocks that those threads can
  get between; a call of `SendConfigEvent` is one block, because it shares
  nothing with them.  Neither call waits for a bus thread that an earlier
  `Connect` left behind, so a host has a list of bus threads.
-/

namespace LibPpuc

/-! ### Opening and Closing the Bus -/

namespace Comm

variable {P : Protocol} {W : Type}

/-- The members that say how the configuration went. -/
def forgetConfigFailures (c : Comm P) : Comm P :=
  { c with
    configFailed := false
    configEarlyAbortLogged := false
    initialConfigAckMissStreak := 0
    initialConfigAckMissesByBoard := fun _ => 0
    configEarlyAbortBoard := P.kNoBoard
    configAckFailedBoards := ∅ }

/-- `RS485Comm::Connect`; `opened` says whether the port could be opened and
    set up.  A failure leaves it closed and resets nothing else. -/
def connect (opened : Bool) (c : Comm P) : Comm P :=
  if opened then
    ({ c with
      stopRequested := false
      portOpen := true
      needSessionResync := false
      epoch := 1
      sequence := 0
      lastOutputSequenceSent := 0
      activeBoards := ∅
      presentBoards := ∅
      boardPresenceFinalized := false } : Comm P).forgetConfigFailures
  else { c with stopRequested := false, portOpen := false }

/-- `SendRestartFrame` and `SendResetFrame`. -/
def sendControlFrame (port : SerialPort W) (type : FrameType) (context : String) (c : Comm P)
    (w : W) : Bool × Comm P × W :=
  if c.portOpen then
    ({ c with sequence := c.sequence + 1 } : Comm P).writeBytes port context
      (P.buildBareFrame type P.kFlagNone P.kNoBoard c.sequence c.epoch) w
  else (false, c, w)

/-- `RestartBoards` and `ResetBoards`: the frame, a pause of `restartUs`, the
    input flushed, a pause of `settleUs`. -/
def controlBoards (port : SerialPort W) (type : FrameType) (context : String)
    (restartUs settleUs : Nat) (c : Comm P) (w : W) : Bool × Comm P × W :=
  if c.portOpen then
    match c.forgetConfigFailures.sendControlFrame port type context w with
    | (true, c, w) =>
      (true, c, port.sleepUs settleUs (port.flushInput (port.sleepUs restartUs w)))
    | (false, c, w) => (false, c, w)
  else (false, c, w)

/-- `RestartBoards`. -/
def restartBoards (port : SerialPort W) (c : Comm P) (w : W) : Bool × Comm P × W :=
  c.controlBoards port .restart "RestartFrame" 400000 250000 w

/-- `ResetBoards`. -/
def resetBoards (port : SerialPort W) (WAIT_FOR_IO_BOARD_RESET : Nat) (c : Comm P) (w : W) :
    Bool × Comm P × W :=
  c.controlBoards port .reset "ResetFrame" (WAIT_FOR_IO_BOARD_RESET * 1000) 300000 w

end Comm

/-! ### The Host -/

/-- What the host calls besides its own code. -/
structure HostEnv (W : Type) extends Env W where
  header : EventHeader
  cpp : YamlCpp
  /-- A constant of the firmware headers, in milliseconds. -/
  WAIT_FOR_IO_BOARD_RESET : Nat

/-- The next block of `Connect` or `Disconnect`. -/
inductive AppPc where
  /-- Neither is under way. -/
  | idle
  /-- `RestartBoards` or `ResetBoards`. -/
  | restarting
  /-- The startup attempt, with the steps still to be taken. -/
  | starting (rest : List StartupStep) (result : Except Failure Unit)
  | sendingSetup
  /-- `SendMappingFrames`, with the frames still to be sent. -/
  | sendingMapping (rest : List (UInt8 × UInt16 × UInt16))
  /-- `SetGIState` at the end of the attempt. -/
  | turningOnGi
  /-- `Run`. -/
  | running
  /-- `Disconnect` waits for the bus thread. -/
  | joining
  | clearingEvents
  | clearingSnapshots
  | clearingOutput
  /-- `SendOutputsOffFrame`, for the first or the second time. -/
  | sendingOff (again : Bool)
  | closing

/-- An object of class `PPUC` with its `RS485Comm`, and the bus threads. -/
structure Host (P : Protocol) (W : Type) where
  comm : Comm P
  /-- All bus threads that were started. -/
  threads : List (BusPc P)
  /-- `m_pThread`. -/
  thread : Option Nat
  app : AppPc
  ppuc : Ppuc
  skippedBoards : Finset UInt8
  disableFastFlipForTests : Bool
  switchReplyDelayUs : UInt32
  forceHardReset : Bool
  gameOnSolenoid : UInt8
  world : W

/-- What happens next. -/
inductive HostLabel where
  /-- A block of a bus thread. -/
  | bus (k : Nat)
  /-- A block of `Connect` or `Disconnect`. -/
  | app
  | loadConfiguration (configFile : String) (config : Yaml)
  | setSkippedBoards (boards : Finset UInt8)
  | setDisableFastFlipForTests (disableFastFlipForTests : Bool)
  | setForceHardReset (forceHardReset : Bool)
  /-- `Connect` is called; `opened` says whether the port can be opened. -/
  | connect (opened : Bool)
  | disconnect
  | queueEvent (event : Event)
  | setSwitchState (number : UInt16) (state : UInt8)
  /-- `IsBoardVirtualized` or `IsSwitchVirtualized`. -/
  | isVirtualized
  | getNextSwitchState

namespace Host

variable {P : Protocol} {W : Type}

/-- A freshly constructed object; its other members may hold anything. -/
def constructed (E : HostEnv W) (ppuc : Ppuc) (gameOnSolenoid : UInt8) (w : W) : Host P W where
  comm := Comm.fresh P (E.port.steadyMs w)
  threads := []
  thread := none
  app := .idle
  ppuc := ppuc
  skippedBoards := ∅
  disableFastFlipForTests := false
  switchReplyDelayUs := 0
  forceHardReset := false
  gameOnSolenoid := gameOnSolenoid
  world := w

/-- Neither `Connect` nor `Disconnect` is under way. -/
def isIdle (s : Host P W) : Bool :=
  match s.app with
  | .idle => true
  | _ => false

/-- The members that a startup attempt reads. -/
def settings (s : Host P W) : StartupSettings where
  debug := s.ppuc.debug
  skippedBoards := s.skippedBoards
  platform := s.ppuc.platform
  disableFastFlipForTests := s.disableFastFlipForTests
  switchReplyDelayUs := s.switchReplyDelayUs
  gameOnSolenoid := s.gameOnSolenoid

/-- The event of `SetGIState(1, 8)`. -/
def giOn (P : Protocol) : Event :=
  { sourceId := .gi, eventId := 1, value := P.clampGiLevel 8 }

/-- `m_gameOnSolenoid` is set where it is sent to a board. -/
def gameOnSolenoidAfter (H : EventHeader) (gameOnSolenoid : UInt8) : StartupStep → UInt8
  | .send event =>
    if event.topic = H.CONFIG_TOPIC_GAME_ON_SOLENOID then event.value.toUInt8 else gameOnSolenoid
  | _ => gameOnSolenoid

/-- The bus thread of `m_pThread` has ended, or there is none. -/
def joined (s : Host P W) : Bool :=
  match s.thread with
  | none => true
  | some k =>
    match s.threads[k]? with
    | some .stopped => true
    | _ => false

section steps

variable (E : HostEnv W)

/-- `Connect` up to the call of `RestartBoards` or `ResetBoards`. -/
def connect (opened : Bool) (s : Host P W) : Host P W :=
  match validatePpucConfiguration E.header E.cpp s.ppuc.ppucConfig with
  | .error _ => s
  | .ok _ =>
    { s with
      comm := s.comm.connect opened
      app := if opened then .restarting else .idle }

/-- `RestartBoards`, or `ResetBoards` if a hard reset is forced. -/
def restart (s : Host P W) : Bool × Comm P × W :=
  if s.forceHardReset then s.comm.resetBoards E.port E.WAIT_FOR_IO_BOARD_RESET s.world
  else s.comm.restartBoards E.port s.world

/-- One step of the startup attempt. -/
def startupStep (x : StartupStep) (rest : List StartupStep) (result : Except Failure Unit)
    (s : Host P W) : Host P W :=
  match (Startup.start s.comm s.world).step E.header E.port x with
  | none => { s with app := .idle }
  | some a =>
    { s with
      comm := a.comm
      world := a.world
      gameOnSolenoid := gameOnSolenoidAfter E.header s.gameOnSolenoid x
      app := .starting rest result }

/-- One block of `Connect` or `Disconnect`. -/
def appStep (s : Host P W) : Option (Host P W) :=
  match s.app with
  | .idle => none
  | .restarting =>
    match s.restart E with
    | (true, c, w) =>
      let pass := Pass.startupPass P E.header E.cpp s.settings s.ppuc.ppucConfig
      some { s with comm := c, world := w, app := .starting pass.emitted pass.result }
    | (false, c, w) => some { s with comm := c, world := w, app := .idle }
  | .starting (x :: rest) result => some (s.startupStep E x rest result)
  | .starting [] result =>
    -- an exception ends `Connect`
    match result with
    | .error _ => some { s with app := .idle }
    | .ok _ => some { s with app := .sendingSetup }
  | .sendingSetup =>
    match s.comm.sendSetupFrame E.port s.world with
    | (true, c, w) =>
      some { s with
        comm := c, world := E.port.sleepUs 100000 w, app := .sendingMapping c.mappingFrames }
    | (false, c, w) => some { s with comm := c, world := w, app := .idle }
  | .sendingMapping [] =>
    some { s with world := E.port.sleepUs 1000000 s.world, app := .turningOnGi }
  | .sendingMapping ((domain, index, number) :: rest) =>
    match s.comm.sendMappingFrame E.port domain index number s.world with
    | (true, c, w) => some { s with comm := c, world := w, app := .sendingMapping rest }
    | (false, c, w) => some { s with comm := c, world := w, app := .idle }
  | .turningOnGi =>
    -- WPC machines switch their GI themselves
    some { s with
      comm :=
        if s.ppuc.platform = E.header.PLATFORM_WPC then s.comm
        else s.comm.queueEvent E.port s.world (giOn P)
      app := .running }
  | .running =>
    some { s with
      comm := (Sys.start E.toEnv s.comm s.world).comm
      threads := s.threads ++ [.loop]
      thread := some s.threads.length
      app := .idle }
  | .joining =>
    if s.joined then
      some { s with thread := none, app := if s.comm.portOpen then .clearingEvents else .idle }
    else none
  | .clearingEvents =>
    some { s with comm := s.comm.clearQueuedEvents, app := .clearingSnapshots }
  | .clearingSnapshots =>
    some { s with comm := s.comm.clearQueuedOutputSnapshots, app := .clearingOutput }
  | .clearingOutput => some { s with comm := s.comm.clearOutputState, app := .sendingOff false }
  | .sendingOff again =>
    -- the result of the write is not looked at
    match s.comm.sendOutputStateFrame E.port P.kNoBoard s.world with
    | (_, c, w) =>
      some { s with
        comm := c
        world := E.port.sleepUs (if again then 100000 else 10000) w
        app := if again then .closing else .sendingOff true }
  | .closing =>
    some { s with
      comm := { s.comm with portOpen := false }
      world := E.port.sleepUs 100000 (E.port.flushInput s.world)
      app := .idle }

/-- One step of the host and its threads. -/
def step (s : Host P W) : HostLabel → Option (Host P W)
  | .bus k =>
    match s.threads[k]? with
    | none => none
    | some pc =>
      (s.comm.busStep E.port E.sourceByte pc s.world).map fun r =>
        { s with threads := s.threads.set k r.1, comm := r.2.1, world := r.2.2 }
  | .app => s.appStep E
  | .loadConfiguration configFile config =>
    if s.isIdle then
      some { s with ppuc := (loadConfiguration E.header E.cpp configFile config s.ppuc).2 }
    else none
  | .setSkippedBoards boards => if s.isIdle then some { s with skippedBoards := boards } else none
  | .setDisableFastFlipForTests disableFastFlipForTests =>
    if s.isIdle then some { s with disableFastFlipForTests := disableFastFlipForTests } else none
  | .setForceHardReset forceHardReset =>
    if s.isIdle then some { s with forceHardReset := forceHardReset } else none
  | .connect opened => if s.isIdle then some (s.connect E opened) else none
  | .disconnect =>
    if s.isIdle then
      some { s with comm := { s.comm with stopRequested := true }, app := .joining }
    else none
  | .queueEvent event => some { s with comm := s.comm.queueEvent E.port s.world event }
  | .setSwitchState number state =>
    some { s with
      comm := (s.comm.setVirtualSwitchState (E.port.steadyMs s.world) number state).2 }
  | .isVirtualized => some { s with comm := s.comm.finalizeConfiguredBoardPresence }
  | .getNextSwitchState => some { s with comm := s.comm.getNextSwitchState.2 }

end steps

end Host

namespace Reference

/-! ### A Concrete Host -/

/-- The environment of a host in a scripted world. -/
def hostEnv : HostEnv Script :=
  { env with header := header, cpp := yamlCpp, WAIT_FOR_IO_BOARD_RESET := 1000 }

/-- The document without further sections, with solenoid 7 for solenoid 6. -/
def otherDocument : Yaml :=
  record
    [("debug", scalar "false"), ("rom", scalar "rom"), ("serialPort", scalar "port"),
      ("platform", scalar "SYS11"), ("coinDoorClosedSwitch", scalar "5"),
      ("gameOnSolenoid", scalar "7"),
      ("boards", list [record [("number", scalar "1"), ("pollEvents", scalar "false")]])]

/-- A world in which board 1 answers in two sessions. -/
def twoSessions : Script where
  replies := [[]] ++ boardAcks ++ List.replicate 7 [] ++ boardAcks
  rounds := 4

def host : Host protocol Script := Host.constructed hostEnv emptyPpuc 0 twoSessions

/-- `LoadConfiguration` and all blocks of a `Connect` that succeeds. -/
def connectWith (config : Yaml) : List HostLabel :=
  [.loadConfiguration "file" config, .connect true] ++ List.replicate 24 .app

/-- `Disconnect` up to `ClearOutputState`, with the last block of bus thread
    `k`. -/
def disconnectThread (k : Nat) : List HostLabel :=
  [.disconnect, .bus k] ++ List.replicate 4 .app

/-- The two off frames and the end of `Disconnect`. -/
def sendOffFrames : List HostLabel := List.replicate 3 .app

/-- Coil 6 goes on. -/
def solenoidOn : HostLabel := .queueEvent { sourceId := .solenoid, eventId := 6, value := 1 }

/-- The blocks of bus thread `k` up to its first output frame. -/
def firstFrame (k : Nat) : List HostLabel := List.replicate 7 (.bus k)

end Reference

end LibPpuc
