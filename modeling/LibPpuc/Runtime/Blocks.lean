import LibPpuc.Runtime.System

/-! # What a Block of the Bus Thread Can Do

  Most blocks only touch the session: counters, epoch, the switch state and
  the log.  `Comm.hostPart` is the rest of the state, and one lemma per
  operation says that it is kept.

  `BusEffect` then lists the blocks that do more, or that carry a copy of
  shared state to the next block.  Every invariant of the runtime is derived
  from its inversion lemma `busStep_effect`.
-/

namespace LibPpuc

namespace Comm

variable {P : Protocol} {W : Type}

/-! ### The Part of the State that the Session Does Not Touch -/

/-- The state with everything blanked that belongs to the session. -/
def hostPart (c : Comm P) : Comm P :=
  { c with
    sequence := 0
    epoch := 0
    lastOutputSequenceSent := 0
    needSessionResync := false
    switchReplyMisses := 0
    switchBitmap := Vector.replicate _ 0
    switches := []
    anomalyLog := {}
    cleanSwitchReplyChainCount := 0
    switchReplyChainCount := 0
    switchReplyMissCount := 0
    sessionResyncCount := 0
    nextSwitchPollAt := 0
    nextSwitchRefreshAt := none }

section hostPart

variable (port : SerialPort W)

@[simp] theorem hostPart_reportAnomaly (w : W) (kind : Anomaly) (message : String)
    (c : Comm P) : (c.reportAnomaly port w kind message).hostPart = c.hostPart := rfl

@[simp] theorem hostPart_writeBytes (context : String) (buffer : List UInt8) (c : Comm P)
    (w : W) : (c.writeBytes port context buffer w).2.1.hostPart = c.hostPart := by
  obtain ⟨log, heq⟩ := writeBytes_eq port context buffer c w
  rw [heq]
  rfl

theorem hostPart_sendEvent (sourceByte : EventSource → UInt8) (event : Event) (c : Comm P)
    (w : W) : (c.sendEvent port sourceByte event w).2.1.hostPart = c.hostPart := by
  unfold sendEvent
  split
  · exact hostPart_writeBytes port _ _ _ w
  · rfl

theorem hostPart_sendSetupFrame (c : Comm P) (w : W) :
    (c.sendSetupFrame port w).2.1.hostPart = c.hostPart := by
  obtain ⟨sequence, log, heq⟩ := sendSetupFrame_eq port c w
  rw [heq]
  rfl

theorem hostPart_sendMappingFrame (domain : UInt8) (index number : UInt16) (c : Comm P)
    (w : W) : (c.sendMappingFrame port domain index number w).2.1.hostPart = c.hostPart := by
  obtain ⟨sequence, log, heq⟩ := sendMappingFrame_eq port domain index number c w
  rw [heq]
  rfl

theorem hostPart_sendSwitchRefreshFrame (nextBoard : UInt8) (c : Comm P) (w : W) :
    (c.sendSwitchRefreshFrame port nextBoard w).2.1.hostPart = c.hostPart := by
  unfold sendSwitchRefreshFrame
  split
  · exact hostPart_writeBytes port _ _ _ w
  · rfl

theorem hostPart_sendOutputStateFrameFromBuffers (nextBoard : UInt8)
    (snapshot : QueuedOutputSnapshot P) (c : Comm P) (w : W) :
    (c.sendOutputStateFrameFromBuffers port nextBoard snapshot w).2.1.hostPart =
      c.hostPart := by
  unfold sendOutputStateFrameFromBuffers
  split
  · exact hostPart_writeBytes port _ _ _ w
  · rfl

theorem hostPart_checkReplyStatus (w : W) (expectedBoard : UInt8) (f : SwitchFrame)
    (c : Comm P) : (c.checkReplyStatus port w expectedBoard f).hostPart = c.hostPart := by
  obtain ⟨log, heq⟩ := checkReplyStatus_eq port w expectedBoard f c
  rw [heq]
  rfl

theorem hostPart_applySwitchBitmapDiff (now : Nat) (board : UInt8)
    (bitmap : Vector UInt8 P.kMaxSwitchBytes) (bytes : Nat) (c : Comm P) :
    (c.applySwitchBitmapDiff now board bitmap bytes).hostPart = c.hostPart := by
  obtain ⟨refreshAt, heq⟩ := applySwitchBitmapDiff_eq now board bitmap bytes c
  rw [heq]
  rfl

theorem hostPart_acceptSwitchFrame (w : W) (expectedBoard : UInt8) (f : SwitchFrame)
    (c : Comm P) : (c.acceptSwitchFrame port w expectedBoard f).2.hostPart = c.hostPart := by
  have hcheck := hostPart_checkReplyStatus port w expectedBoard f c
  unfold acceptSwitchFrame
  dsimp only
  -- a bad CRC ends the call after the checks
  split
  · exact hcheck
  · split
    · rw [hostPart_applySwitchBitmapDiff]
      exact hcheck
    · exact hcheck

theorem hostPart_receiveSwitchStateFrame (expectedBoard : UInt8) (r : SwitchReply)
    (c : Comm P) (w : W) :
    (c.receiveSwitchStateFrame port expectedBoard r w).2.1.hostPart = c.hostPart := by
  unfold receiveSwitchStateFrame
  split
  · dsimp only
    split
    · exact hostPart_acceptSwitchFrame port _ expectedBoard _ c
    · rfl
  · rfl

theorem hostPart_writeVirtualReply (sendState : Bool) (nextBoard : UInt8)
    (switchCopy : Vector UInt8 P.kMaxSwitchBytes) (c : Comm P) (w : W) :
    (c.writeVirtualReply port sendState nextBoard switchCopy w).2.1.hostPart = c.hostPart :=
  hostPart_writeBytes port _ _ c w

theorem hostPart_noteSwitchReplyChain (w : W) (success : Bool) (c : Comm P) :
    (c.noteSwitchReplyChain port w success).hostPart = c.hostPart := by
  unfold noteSwitchReplyChain
  cases success with
  | true => rfl
  | false =>
    dsimp only
    rw [if_neg Bool.false_ne_true]
    split <;> rfl

theorem hostPart_chainDone (success refresh : Bool) (c : Comm P) (w : W) :
    (c.chainDone port success refresh w).hostPart = c.hostPart := by
  unfold chainDone
  dsimp only
  split <;> exact hostPart_noteSwitchReplyChain port w success c

end hostPart

/-! ### Inversion of a Block -/

/-- The effects a block that starts at `pc` in state `c` and world `w` can
    have: the next block and the new state. -/
inductive BusEffect (port : SerialPort W) (c : Comm P) (w : W) :
    BusPc P → BusPc P → Comm P → Prop where
  /-- The block works on the session only and carries nothing on. -/
  | session {pc pc' : BusPc P} {c' : Comm P} (hblock : pc.alwaysShares = false)
      (hcarry : pc'.carriesNothing = true) (hhost : c'.hostPart = c.hostPart) :
      BusEffect port c w pc pc' c'
  | eventPopped {eventsSent : Nat} {event : Event} {rest : List Event}
      (hqueue : c.events = event :: rest) :
      BusEffect port c w (.popEvent eventsSent) (.sendEvent eventsSent event)
        { c with events := rest }
  | snapshotPopped {nextBoard : UInt8} {snapshot : QueuedOutputSnapshot P}
      {rest : List (QueuedOutputSnapshot P)} (hqueue : c.outputSnapshots = snapshot :: rest) :
      BusEffect port c w .inspectQueue (.copyState nextBoard false (some snapshot))
        { c with outputSnapshots := rest }
  | noSnapshot {nextBoard : UInt8} {refresh : Bool}
      (hqueue : refresh = false → c.outputSnapshots = []) :
      BusEffect port c w .inspectQueue (.copyState nextBoard refresh none) c
  | copied {nextBoard : UInt8} {refresh : Bool} {snapshot : Option (QueuedOutputSnapshot P)} :
      BusEffect port c w (.copyState nextBoard refresh snapshot)
        (.writeFrame nextBoard refresh (c.heldSnapshot (snapshot.getD c.outputSnapshot))
          c.coilHoldFrames) c
  | written {nextBoard : UInt8} {frame : QueuedOutputSnapshot P}
      {holdFrames : Vector Nat P.kMaxCoilBits} {c' : Comm P}
      (hsent : (c.sendOutputStateFrameFromBuffers port nextBoard frame w).1 = true)
      (hhost : c'.hostPart = c.hostPart) :
      BusEffect port c w (.writeFrame nextBoard false frame holdFrames)
        (.consumeHoldover nextBoard holdFrames) c'
  | consumed {nextBoard : UInt8} {holdFrames : Vector Nat P.kMaxCoilBits} :
      BusEffect port c w (.consumeHoldover nextBoard holdFrames)
        (.afterFrame nextBoard false) (c.consumeCoilHoldoverLocked holdFrames)
  | dirtyRead {hops : Nat} {board : UInt8} {reply : SwitchReply} {refresh : Bool}
      {boardState : VirtualSwitchBoardState}
      (hlookup : c.virtualSwitchBoards.lookup board = some boardState) :
      BusEffect port c w (.hop (hops + 1) board reply refresh)
        (.virtualCopy hops board (c.getLogicalNextSwitchBoard board) boardState.dirty refresh) c
  | bitmapCopied {hops : Nat} {board next : UInt8} {sendState refresh : Bool} :
      BusEffect port c w (.virtualCopy hops board next sendState refresh)
        (.virtualWrite hops board next sendState refresh
          (if sendState then c.switchBitmap else Vector.replicate _ 0)) c
  | replyWritten {hops : Nat} {board next : UInt8} {sendState refresh : Bool}
      {switchCopy : Vector UInt8 P.kMaxSwitchBytes} {c' : Comm P}
      (hhost : c'.hostPart = c.hostPart) :
      BusEffect port c w (.virtualWrite hops board next sendState refresh switchCopy)
        (.virtualClear hops board next sendState refresh) c'
  | dirtyCleared {hops : Nat} {board next : UInt8} {sendState refresh : Bool} :
      BusEffect port c w (.virtualClear hops board next sendState refresh)
        (.hop hops next { ok := true, nextBoard := next, hadState := sendState } refresh)
        (c.clearDirty board)

section inversion

variable (port : SerialPort W)

theorem inspectQueue_effect (c : Comm P) (w : W) :
    BusEffect port c w .inspectQueue (c.inspectQueue port w).1 (c.inspectQueue port w).2.1 := by
  unfold inspectQueue
  dsimp only
  split
  · -- the refresh frame needs no snapshot
    exact .noSnapshot fun h => Bool.noConfusion h
  · split
    · next hqueue => exact .snapshotPopped hqueue
    · next hqueue => exact .noSnapshot fun _ => hqueue

theorem writeFrame_effect (nextBoard : UInt8) (refresh : Bool) (frame : QueuedOutputSnapshot P)
    (holdFrames : Vector Nat P.kMaxCoilBits) (c : Comm P) (w : W) :
    BusEffect port c w (.writeFrame nextBoard refresh frame holdFrames)
      (c.writeFrame port nextBoard refresh frame holdFrames w).1
      (c.writeFrame port nextBoard refresh frame holdFrames w).2.1 := by
  unfold writeFrame
  cases refresh with
  | true =>
    -- a refresh frame starts no countdown
    have hhost := hostPart_sendSwitchRefreshFrame port nextBoard c w
    rw [if_pos rfl]
    split
    · next heq =>
      rw [heq] at hhost
      exact .session rfl (BusPc.afterFrame_carriesNothing nextBoard true) hhost
    · next heq =>
      rw [heq] at hhost
      exact .session rfl rfl hhost
  | false =>
    -- an output frame does, if it was written
    have hhost := hostPart_sendOutputStateFrameFromBuffers port nextBoard frame c w
    rw [if_neg Bool.false_ne_true]
    split
    · next heq =>
      rw [heq] at hhost
      exact .written (by rw [heq]) hhost
    · next heq =>
      rw [heq] at hhost
      exact .session rfl rfl hhost

theorem hop_effect (hops : Nat) (expected : UInt8) (reply : SwitchReply) (refresh : Bool)
    (c : Comm P) (w : W) :
    BusEffect port c w (.hop hops expected reply refresh)
      (c.hop port hops expected reply refresh w).1
      (c.hop port hops expected reply refresh w).2.1 := by
  unfold hop
  cases hops with
  | zero => exact .session rfl rfl rfl
  | succ hops =>
    dsimp only
    split
    · exact .session rfl rfl rfl
    · split
      · next boardState hlookup =>
        split
        · exact .dirtyRead hlookup
        · -- a virtual reply cannot be sent: the chain fails
          exact .session rfl rfl rfl
      · -- a reply that was read only changes the session
        have hhost := hostPart_receiveSwitchStateFrame port expected reply c w
        split
        · exact .session rfl rfl hhost
        · exact .session rfl rfl hhost

/-- **Inversion of a block**: one of the listed effects happens. -/
theorem busStep_effect {sourceByte : EventSource → UInt8} {pc pc' : BusPc P} {c c' : Comm P}
    {w w' : W} (h : c.busStep port sourceByte pc w = some (pc', c', w')) :
    BusEffect port c w pc pc' c' := by
  -- one case per block; all but the listed ones are session blocks
  unfold busStep at h
  match pc with
  | .stopped => exact nomatch h
  | .loop =>
    obtain ⟨rfl, rfl, rfl⟩ := by simpa using h
    refine .session rfl ?_ rfl
    split <;> rfl
  | .popEvent eventsSent =>
    dsimp only at h
    split at h
    · split at h
      · next hqueue =>
        obtain ⟨rfl, rfl, rfl⟩ := by simpa using h
        exact .eventPopped hqueue
      · obtain ⟨rfl, rfl, rfl⟩ := by simpa using h
        exact .session rfl rfl rfl
    · obtain ⟨rfl, rfl, rfl⟩ := by simpa using h
      exact .session rfl rfl rfl
  | .sendEvent eventsSent event =>
    obtain ⟨rfl, rfl, rfl⟩ := by simpa using h
    exact .session rfl rfl (hostPart_sendEvent port sourceByte event c w)
  | .runtimeTest =>
    dsimp only at h
    split at h <;>
    · obtain ⟨rfl, rfl, rfl⟩ := by simpa using h
      exact .session rfl rfl rfl
  | .resyncTest =>
    dsimp only at h
    split at h <;>
    · obtain ⟨rfl, rfl, rfl⟩ := by simpa using h
      exact .session rfl rfl rfl
  | .resyncSetup =>
    have hhost := hostPart_sendSetupFrame port c w
    dsimp only at h
    split at h <;>
    · next heq =>
      rw [heq] at hhost
      obtain ⟨rfl, rfl, rfl⟩ := by simpa using h
      exact .session rfl rfl hhost
  | .resyncMapping [] =>
    obtain ⟨rfl, rfl, rfl⟩ := by simpa using h
    exact .session rfl rfl rfl
  | .resyncMapping ((domain, index, number) :: rest) =>
    have hhost := hostPart_sendMappingFrame port domain index number c w
    dsimp only at h
    split at h <;>
    · next heq =>
      rw [heq] at hhost
      obtain ⟨rfl, rfl, rfl⟩ := by simpa using h
      exact .session rfl rfl hhost
  | .inspectQueue =>
    obtain ⟨rfl, rfl, rfl⟩ := by simpa [Prod.ext_iff] using h
    exact inspectQueue_effect port c w
  | .copyState nextBoard refresh snapshot =>
    obtain ⟨rfl, rfl, rfl⟩ := by simpa using h
    exact .copied
  | .writeFrame nextBoard refresh frame holdFrames =>
    obtain ⟨rfl, rfl, rfl⟩ := by simpa [Prod.ext_iff] using h
    exact writeFrame_effect port nextBoard refresh frame holdFrames c w
  | .consumeHoldover nextBoard holdFrames =>
    obtain ⟨rfl, rfl, rfl⟩ := by simpa using h
    exact .consumed
  | .hop hops expected reply refresh =>
    obtain ⟨rfl, rfl, rfl⟩ := by simpa [Prod.ext_iff] using h
    exact hop_effect port hops expected reply refresh c w
  | .virtualCopy hops board next sendState refresh =>
    obtain ⟨rfl, rfl, rfl⟩ := by simpa using h
    exact .bitmapCopied
  | .virtualWrite hops board next sendState refresh switchCopy =>
    have hhost := hostPart_writeVirtualReply port sendState next switchCopy c w
    dsimp only at h
    split at h
    · next heq =>
      rw [heq] at hhost
      obtain ⟨rfl, rfl, rfl⟩ := by simpa using h
      exact .replyWritten hhost
    · next heq =>
      rw [heq] at hhost
      obtain ⟨rfl, rfl, rfl⟩ := by simpa using h
      exact .session rfl rfl hhost
  | .virtualClear hops board next sendState refresh =>
    obtain ⟨rfl, rfl, rfl⟩ := by simpa using h
    exact .dirtyCleared
  | .chainDone success refresh =>
    obtain ⟨rfl, rfl, rfl⟩ := by simpa using h
    exact .session rfl rfl (hostPart_chainDone port success refresh c w)

end inversion

/-! ### The Part of the State that the Output Path Works On -/

/-- The state with everything blanked that the output path does not read:
    the session, the virtualized boards and the queued effect events. -/
def outputPart (c : Comm P) : Comm P :=
  { c.hostPart with
    virtualSwitchBoards := ∅
    virtualSwitchOwnerByNumber := ∅
    boardPresenceFinalized := false
    events := [] }

theorem outputPart_of_hostPart {c c' : Comm P} (h : c'.hostPart = c.hostPart) :
    c'.outputPart = c.outputPart := by
  unfold outputPart
  rw [h]

theorem outputPart_clearDirty (board : UInt8) (c : Comm P) :
    (c.clearDirty board).outputPart = c.outputPart := by
  unfold clearDirty
  split <;> rfl

theorem outputPart_virtualizeBoard (c : Comm P) (board : UInt8) :
    (c.virtualizeBoard board).outputPart = c.outputPart := by
  unfold virtualizeBoard
  split <;> rfl

theorem outputPart_finalizeConfiguredBoardPresence (c : Comm P) :
    c.finalizeConfiguredBoardPresence.outputPart = c.outputPart := by
  have hfold : ∀ (boards : List UInt8) (c : Comm P),
      (boards.foldl virtualizeBoard c).outputPart = c.outputPart := by
    intro boards
    induction boards with
    | nil => intro c; rfl
    | cons board boards ih =>
      intro c
      rw [List.foldl_cons, ih, outputPart_virtualizeBoard]
  unfold finalizeConfiguredBoardPresence
  split
  · rfl
  · exact hfold c.configuredBoards _

theorem outputPart_changeVirtualSwitch (now : Nat) (boardState : VirtualSwitchBoardState)
    (owner : UInt8) (i : Nat) (number : UInt16) (state : Nat) (c : Comm P) :
    (c.changeVirtualSwitch now boardState owner i number state).outputPart = c.outputPart := by
  unfold changeVirtualSwitch noteSwitchActivity
  dsimp only
  split <;> rfl

theorem outputPart_setVirtualSwitchState (now : Nat) (number : UInt16) (state : UInt8)
    (c : Comm P) : (c.setVirtualSwitchState now number state).2.outputPart = c.outputPart := by
  rw [← outputPart_finalizeConfiguredBoardPresence c]
  have heffect := setVirtualSwitchState_effect now number state c
  generalize c.finalizeConfiguredBoardPresence = c₀,
    (c.setVirtualSwitchState now number state).2 = c' at heffect ⊢
  cases heffect with
  | unchanged => rfl
  | changed => exact outputPart_changeVirtualSwitch now _ _ _ number _ _

theorem hostPart_getNextSwitchState (c : Comm P) :
    c.getNextSwitchState.2.hostPart = c.hostPart := by
  unfold getNextSwitchState
  split <;> rfl

/-! ### Blocks of the Firmware Transfer -/

section firmware

variable (port : SerialPort W) (A : AdminProtocol)

theorem hostPart_huntAdminFrame {α : Type} (frameBytes : Nat) (crcMessage : String)
    (accept : List UInt8 → Option α) (rounds : Nat) (c : Comm P) (w : W) :
    (c.huntAdminFrame port A frameBytes crcMessage accept rounds w).2.1.hostPart =
      c.hostPart := by
  induction rounds generalizing c w with
  | zero => rfl
  | succ rounds ih =>
    unfold huntAdminFrame
    split
    · exact ih c _
    · split
      · exact ih c _
      · split
        · exact ih c _
        · split
          · exact ih c _
          · split
            · -- a wrong CRC is the only thing that leaves a trace, in the log
              exact ih _ _
            · split
              · rfl
              · exact ih c _

theorem hostPart_queryBoardVersion (board : UInt8) (timeoutMs : Nat) (c : Comm P) (w : W) :
    (c.queryBoardVersion port A board timeoutMs w).2.1.hostPart = c.hostPart := by
  unfold queryBoardVersion
  split
  · dsimp only
    -- the write, then the hunt
    have hwrite := hostPart_writeBytes port "AdminVersionQuery"
      (A.buildVersionQueryFrame board c.sequence c.epoch)
      { c with sequence := c.sequence + 1 } (port.flushInput w)
    split
    · next heq =>
      rw [heq] at hwrite
      exact hwrite
    · next c₁ w₁ heq =>
      rw [heq] at hwrite
      have hhunt := hostPart_huntAdminFrame port A A.kAdminFrameBytes
        s!"Invalid admin frame CRC while querying board {board}" (versionReport A board)
        (port.window (timeoutMs * 1000) w₁) c₁ w₁
      split <;>
      · next heq' =>
        rw [heq'] at hhunt
        exact hhunt.trans hwrite
  · rfl

theorem hostPart_awaitAdminReply (board expectedCommand : UInt8) (timeoutMs : Nat)
    (c : Comm P) (w : W) :
    (c.awaitAdminReply port A board expectedCommand timeoutMs w).2.1.hostPart = c.hostPart :=
  hostPart_huntAdminFrame port A _ _ _ _ c w

/-- The firmware transfer works on the session only. -/
theorem hostPart_firmwareStep (request : FirmwareRequest) (stage : FirmwareStage)
    (c : Comm P) (w : W) :
    (c.firmwareStep port A request stage w).2.1.hostPart = c.hostPart := by
  -- a stage that writes: both outcomes keep what the write keeps
  have hwrite : ∀ (c₀ : Comm P) (context : String) (frame : List UInt8) (w₀ : W),
      c₀.hostPart = c.hostPart →
      (c₀.writeBytes port context frame w₀).2.1.hostPart = c.hostPart :=
    fun c₀ context frame w₀ h => (hostPart_writeBytes port context frame c₀ w₀).trans h
  have hawait := hostPart_awaitAdminReply port A request.board (c := c) (w := w)
  unfold firmwareStep
  dsimp only
  split
  · split
    · rfl
    · have hquery := hostPart_queryBoardVersion port A request.board 250 c w
      split
      · exact hquery
      · split <;> exact hquery
  · split <;> rfl
  · have hsend := hwrite { c with sequence := c.sequence + 1 } "UpdateBegin"
      (A.buildUpdateBeginFrame request.board c.sequence c.epoch
        (UInt32.ofNat (request.image.getD []).length) (P.crc16Ccitt (request.image.getD [])))
      (port.flushInput w) rfl
    split <;>
    · next heq =>
      rw [heq] at hsend
      exact hsend
  · have hreply := hawait A.kAdminUpdateBeginAck 2000
    split
    · next heq =>
      rw [heq] at hreply
      exact hreply
    · next heq =>
      rw [heq] at hreply
      split <;> exact hreply
  · split <;> rfl
  · next frame =>
    have hsend := hwrite c "UpdateChunk" frame w rfl
    split <;>
    · next heq =>
      rw [heq] at hsend
      exact hsend
  · have hreply := hawait A.kAdminUpdateChunkAck 1000
    split
    · next heq =>
      rw [heq] at hreply
      split
      · exact hreply
      · split
        · exact hreply
        · split <;> exact hreply
    · next heq =>
      rw [heq] at hreply
      split <;> exact hreply
  · have hsend := hwrite { c with sequence := c.sequence + 1 } "UpdateCommit"
      (A.buildUpdateCommitFrame request.board c.sequence c.epoch) w rfl
    split <;>
    · next heq =>
      rw [heq] at hsend
      exact hsend
  · have hreply := hawait A.kAdminUpdateResult 10000
    split
    · next heq =>
      rw [heq] at hreply
      exact hreply
    · next heq =>
      rw [heq] at hreply
      split <;> exact hreply
  · rfl

end firmware

end Comm

/-! ### Inversion of a Step -/

namespace Sys

variable {P : Protocol} {W : Type} {E : Env W} {s s' : Sys P W}

theorem step_bus (h : s.step E .bus = some s') :
    Comm.BusEffect E.port s.comm s.world s.bus s'.bus s'.comm ∧ s'.firmware = s.firmware := by
  unfold step at h
  obtain ⟨⟨pc', c', w'⟩, hblock, rfl⟩ := Option.map_eq_some_iff.mp h
  exact ⟨Comm.busStep_effect E.port hblock, rfl⟩

theorem step_queueEvent {event : Event} (h : s.step E (.queueEvent event) = some s') :
    s' = { s with comm := s.comm.queueEvent E.port s.world event } :=
  (Option.some.inj h).symm

theorem step_setVirtualSwitchState {number : UInt16} {state : UInt8}
    (h : s.step E (.setVirtualSwitchState number state) = some s') :
    s' = { s with
      comm := (s.comm.setVirtualSwitchState (E.port.steadyMs s.world) number state).2 } :=
  (Option.some.inj h).symm

/-- The label works on the session only, and not in the bus thread. -/
def sessionLabel : Label → Bool
  | .getNextSwitchState | .updateBoardFirmware _ | .firmware => true
  | _ => false

theorem step_sessionLabel {l : Label} (hl : sessionLabel l = true)
    (h : s.step E l = some s') : s'.bus = s.bus ∧ s'.comm.hostPart = s.comm.hostPart := by
  match l with
  | .bus | .queueEvent _ | .setVirtualSwitchState _ _ => exact nomatch hl
  | .getNextSwitchState =>
    obtain rfl := Option.some.inj h
    exact ⟨rfl, Comm.hostPart_getNextSwitchState s.comm⟩
  | .updateBoardFirmware request =>
    simp only [step] at h
    split at h
    · obtain rfl := Option.some.inj h
      exact ⟨rfl, rfl⟩
    · exact nomatch h
  | .firmware =>
    simp only [step] at h
    split at h
    · exact nomatch h
    · next request stage _ =>
      obtain rfl := Option.some.inj h
      exact ⟨rfl, Comm.hostPart_firmwareStep E.port E.admin request stage s.comm s.world⟩

/-- Every label besides blocks and events leaves the bus thread and the
    output path alone. -/
theorem step_elsewhere {l : Label} (hbus : l ≠ .bus) (hevent : ∀ event, l ≠ .queueEvent event)
    (h : s.step E l = some s') :
    s'.bus = s.bus ∧ s'.comm.outputPart = s.comm.outputPart := by
  by_cases hl : sessionLabel l = true
  · obtain ⟨hpc, hhost⟩ := step_sessionLabel hl h
    exact ⟨hpc, Comm.outputPart_of_hostPart hhost⟩
  · match l with
    | .bus => exact absurd rfl hbus
    | .queueEvent event => exact absurd rfl (hevent event)
    | .setVirtualSwitchState number state =>
      obtain rfl := step_setVirtualSwitchState h
      exact ⟨rfl, Comm.outputPart_setVirtualSwitchState _ number state s.comm⟩
    | .getNextSwitchState | .updateBoardFirmware _ | .firmware => exact absurd rfl hl

end Sys

end LibPpuc
