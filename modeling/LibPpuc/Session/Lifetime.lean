import LibPpuc.Session.Isolation

/-! # The Lifetime of One Object

  Complete sessions in a row.  Each starts with a `Connect` that succeeds and
  ends with `Disconnect`; in between replies come in, the application sets
  virtual switches and takes events.  The configuration stays the same.  The
  settings of the application and the boards that answer may differ from one
  session to the next.
-/

namespace LibPpuc

/-! ### Opening and Closing a Session -/

namespace Comm

variable {P : Protocol} {W : Type}

/-- `SendOutputsOffFrame`. -/
def sendOutputsOffFrame (port : SerialPort W) (c : Comm P) (w : W) : Bool × Comm P × W :=
  c.sendOutputStateFrame port P.kNoBoard w

/-- The end of `Disconnect`. -/
def closePort (c : Comm P) : Comm P := { c with portOpen := false }

/-- `Disconnect`, once the bus thread has ended. -/
def disconnect (port : SerialPort W) (c : Comm P) (w : W) : Comm P :=
  let c : Comm P := { c with stopRequested := true }
  if c.portOpen then
    let c := c.clearQueuedEvents.clearQueuedOutputSnapshots.clearOutputState
    -- the results of the two frames are not looked at
    let (_, c, w) := c.sendOutputsOffFrame port w
    (c.sendOutputsOffFrame port (port.sleepUs 10000 w)).2.1.closePort
  else c

/-- `RestartBoards`, or `ResetBoards` if a hard reset is forced. -/
def restart (E : HostEnv W) (forceHardReset : Bool) (c : Comm P) (w : W) : Bool × Comm P × W :=
  if forceHardReset then c.resetBoards E.port E.WAIT_FOR_IO_BOARD_RESET w
  else c.restartBoards E.port w

/-- `PPUC::Connect` up to the setup of the boards. -/
def connectAttempt (E : HostEnv W) (config : Yaml) (s : StartupSettings) (forceHardReset : Bool)
    (c : Comm P) (w : W) : Option (Startup P W) :=
  match validatePpucConfiguration E.header E.cpp config with
  | .error _ => none
  | .ok _ =>
    match (c.connect true).restart E forceHardReset w with
    | (true, c, w) => (startupAttempt E.header E.cpp s config E.port c w).attempt
    | (false, _, _) => none

/-- The object after a `PPUC::Connect` that returns true. -/
def startSession (E : HostEnv W) (config : Yaml) (s : StartupSettings) (forceHardReset : Bool)
    (c : Comm P) (w : W) : Option (Comm P) :=
  (c.connectAttempt E config s forceHardReset w).bind fun a =>
    (a.session E.toEnv E.header s).map Sys.comm

end Comm

/-- What happens to the object, each in the world that it finds. -/
inductive SessionOp (W : Type) where
  /-- `Connect`, with the members that it reads. -/
  | connect (s : StartupSettings) (forceHardReset : Bool) (w : W)
  /-- `ReceiveSwitchStateFrame` for the token of a board. -/
  | reply (board : UInt8) (r : SwitchReply) (w : W)
  /-- `SendVirtualSwitchReply`. -/
  | virtualReply (board nextBoard : UInt8) (r : SwitchReply) (w : W)
  | setVirtualSwitchState (number : UInt16) (state : UInt8) (w : W)
  | getNextSwitchState
  | disconnect (w : W)

namespace Comm

variable {P : Protocol} {W : Type}

/-- One operation.  `Connect` opens a session, all others but the taking of
    events belong to one. -/
def sessionStep (E : HostEnv W) (config : Yaml) (c : Comm P) : SessionOp W → Option (Comm P)
  | .connect s forceHardReset w =>
    if c.portOpen then none else c.startSession E config s forceHardReset w
  | .reply board r w =>
    if c.portOpen ∧ c.virtualSwitchBoards.lookup board = none then
      some (c.receiveSwitchStateFrame E.port board r w).2.1
    else none
  | .virtualReply board nextBoard r w =>
    if c.portOpen then some (c.sendVirtualSwitchReply E.port board nextBoard r w).2.1 else none
  | .setVirtualSwitchState number state w =>
    if c.portOpen then some (c.setVirtualSwitchState (E.port.steadyMs w) number state).2 else none
  | .getNextSwitchState => some c.getNextSwitchState.2
  | .disconnect w => if c.portOpen then some (c.disconnect E.port w) else none

/-- The object with the events that the application has taken. -/
def sessionStepTaken (E : HostEnv W) (config : Yaml) :
    Comm P × List PPUCSwitchState → SessionOp W → Option (Comm P × List PPUCSwitchState) :=
  Transition.instrument (sessionStep E config) fun c taken op _ =>
    match op with
    | .getNextSwitchState => taken ++ c.getNextSwitchState.1.toList
    | _ => taken

/-! ### Frames Leave the Switch State Alone -/

theorem switchStore_writeBytes (port : SerialPort W) (context : String) (buffer : List UInt8)
    (c : Comm P) (w : W) :
    (c.writeBytes port context buffer w).2.1.switchStore = c.switchStore :=
  congrArg Prod.fst (sessionPart_writeBytes port context buffer c w)

theorem switchStore_sendOutputStateFrame (port : SerialPort W) (nextBoard : UInt8) (c : Comm P)
    (w : W) : (c.sendOutputStateFrame port nextBoard w).2.1.switchStore = c.switchStore := by
  unfold sendOutputStateFrame sendOutputStateFrameFromBuffers
  split
  · exact switchStore_writeBytes port _ _ _ w
  · rfl

theorem switchStore_controlBoards (port : SerialPort W) (type : FrameType) (context : String)
    (restartUs settleUs : Nat) (c : Comm P) (w : W) :
    (c.controlBoards port type context restartUs settleUs w).2.1.switchStore = c.switchStore := by
  have hframe : (c.forgetConfigFailures.sendControlFrame port type context w).2.1.switchStore =
      c.switchStore := by
    unfold sendControlFrame
    split
    · exact switchStore_writeBytes port _ _ _ w
    · rfl
  unfold controlBoards
  split
  · split
    · next heq =>
      rw [heq] at hframe
      exact hframe
    · next heq =>
      rw [heq] at hframe
      exact hframe
  · rfl

theorem switchStore_restart (E : HostEnv W) (forceHardReset : Bool) (c : Comm P) (w : W) :
    (c.restart E forceHardReset w).2.1.switchStore = c.switchStore := by
  unfold restart
  split
  · exact switchStore_controlBoards E.port _ _ _ _ c w
  · exact switchStore_controlBoards E.port _ _ _ _ c w

theorem switchStore_clearOutputs (c : Comm P) :
    c.clearQueuedEvents.clearQueuedOutputSnapshots.clearOutputState.switchStore =
      c.switchStore := by
  unfold clearQueuedEvents clearQueuedOutputSnapshots clearOutputState
  rfl

theorem switchStore_closePort (c : Comm P) :
    c.closePort.switchStore = { c.switchStore with portOpen := false } := rfl

/-- `Disconnect` closes the port, and keeps bitmap, mapping and virtualized
    boards. -/
theorem switchStore_disconnect (port : SerialPort W) (c : Comm P) (w : W) :
    (c.disconnect port w).switchStore = { c.switchStore with portOpen := false } := by
  have hframe : ∀ (c : Comm P) w, (c.sendOutputsOffFrame port w).2.1.switchStore = c.switchStore :=
    fun c w => switchStore_sendOutputStateFrame port P.kNoBoard c w
  unfold disconnect
  dsimp only
  split
  · rw [switchStore_closePort, hframe, hframe, switchStore_clearOutputs]
    rfl
  · next hclosed =>
    have hport : c.portOpen = false := Bool.eq_false_iff.mpr hclosed
    show c.switchStore = _
    unfold switchStore
    rw [hport]

end Comm

/-! ### The State in which a Session Starts -/

namespace Comm

variable {P : Protocol} {W : Type} {pos : Nat → Nat}

/-- **Where a session starts**: the presence of the boards was finalized in a
    state that is set up for the switches of the document, with the bitmap
    and the events of the session before. -/
theorem startSession_installed (hP : P.Lawful pos) (hcarries : P.CarriesTuple) {E : HostEnv W}
    {config : Yaml} {s : StartupSettings} {forceHardReset : Bool} {c c' : Comm P} {w : W}
    (h : c.startSession E config s forceHardReset w = some c') :
    ∃ items, Pass.collectSwitches E.cpp config = .ok items ∧
      ∃ b, Startup.Installed items c b ∧
        c'.presentBoards = b.finalizeConfiguredBoardPresence.presentBoards ∧
        c'.switchStore = (b.finalizeConfiguredBoardPresence.setActiveSwitchBoards
          (Pass.pollEventsBoards E.cpp s config)).switchStore := by
  obtain ⟨a, hattempt, hsession⟩ := Option.bind_eq_some_iff.mp h
  obtain ⟨t, ht, rfl⟩ := Option.map_eq_some_iff.mp hsession
  unfold connectAttempt at hattempt
  split at hattempt
  · exact nomatch hattempt
  · split at hattempt
    · next c₁ w₁ hrestart =>
      have hready := AttemptEnd.ready_of_attempt hattempt
      obtain ⟨items, hitems, b, hinstalled, hpresent, hstore⟩ :=
        Startup.ready_installed hP hcarries hready
      obtain ⟨hstore', hpresent', -⟩ := Startup.session_start ht
      -- opening the port and restarting the boards keep bitmap and events
      have hrestarted := switchStore_restart E forceHardReset (c.connect true) w
      rw [hrestart] at hrestarted
      have hbitmap : c₁.switchBitmap = c.switchBitmap :=
        (congrArg SwitchStore.switchBitmap hrestarted :)
      have hswitches : c₁.switches = c.switches := (congrArg SwitchStore.switches hrestarted :)
      refine ⟨items, hitems, b, ?_, ?_, ?_⟩
      · exact { hinstalled with
          bitmap := hinstalled.bitmap.trans hbitmap
          switches := hinstalled.switches.trans hswitches }
      · exact hpresent'.trans hpresent
      · exact hstore'.trans hstore
    · exact nomatch hattempt

end Comm

end LibPpuc
