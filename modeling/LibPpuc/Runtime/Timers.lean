import LibPpuc.Runtime.QueueLedger

/-! # The Timers of the Bus Thread

  `m_nextSwitchPollAt` and `m_nextSwitchRefreshAt` are deadlines on the steady
  clock.  `Timing` holds them together with what moves them, and one lemma per
  operation says what becomes of it.  Most operations let time pass and leave
  it alone (`Idles`); a reply of a board and `SetVirtualSwitchState` tell the
  application about switches (`Tells`), which may put off the next refresh.
-/

namespace LibPpuc

variable {P : Protocol} {W : Type}

/-! ### The Clock -/

/-- No operation of the port turns the clock back. -/
structure SerialPort.Steady (port : SerialPort W) : Prop where
  write : ∀ buffer w, port.steadyMs w ≤ port.steadyMs (port.write buffer w).2
  read : ∀ n w, port.steadyMs w ≤ port.steadyMs (port.read n w).2
  inputWaiting : ∀ w, port.steadyMs w ≤ port.steadyMs (port.inputWaiting w).2
  flushInput : ∀ w, port.steadyMs w ≤ port.steadyMs (port.flushInput w)
  sleepUs : ∀ us w, port.steadyMs w ≤ port.steadyMs (port.sleepUs us w)

theorem SerialPort.Steady.readExact {port : SerialPort W} (h : port.Steady) (bytes : Nat)
    (w : W) : port.steadyMs w ≤ port.steadyMs (port.readExact bytes w).2 := by
  have hloop : ∀ (fuel need : Nat) (w : W),
      port.steadyMs w ≤ port.steadyMs (port.readExactLoop fuel need w).2 := by
    intro fuel
    induction fuel with
    | zero => intro need w; cases need <;> simp [readExactLoop]
    | succ fuel ih =>
      intro need w
      cases need with
      | zero => simp [readExactLoop]
      | succ need =>
        have hread := h.read (need + 1) w
        unfold readExactLoop
        split
        · next heq =>
          rw [heq] at hread
          exact hread
        · next b bs w₁ heq =>
          rw [heq] at hread
          have hrest := ih (need + 1 - (b :: bs).length) w₁
          split <;>
          · next heq' =>
            rw [heq'] at hrest
            exact hread.trans hrest
  exact hloop bytes bytes w

/-! ### The Timers -/

/-- The timers, what moves them, and what they are used for. -/
@[ext] structure Timing where
  switchBoards : List UInt8
  switchRefreshIdleMs : Nat
  buttonSwitchNumbers : Finset UInt16
  nextSwitchPollAt : Nat
  nextSwitchRefreshAt : Option Nat
  switches : List PPUCSwitchState

namespace Timing

/-- The event puts off the next refresh. -/
def IsActivity (t : Timing) (event : PPUCSwitchState) : Prop :=
  0 < t.switchRefreshIdleMs ∧ UInt16.ofNat event.number ∉ t.buttonSwitchNumbers

instance (t : Timing) (event : PPUCSwitchState) : Decidable (t.IsActivity event) :=
  inferInstanceAs (Decidable (_ ∧ _))

/-- The application is told about switches at time `now`. -/
def told (now : Nat) (events : List PPUCSwitchState) (t : Timing) : Timing :=
  { t with
    nextSwitchRefreshAt :=
      if ∃ event ∈ events, t.IsActivity event then some (now + t.switchRefreshIdleMs)
      else t.nextSwitchRefreshAt
    switches := t.switches ++ events }

@[simp] theorem told_nil (now : Nat) (t : Timing) : t.told now [] = t := by
  simp [told]

theorem told_append (now : Nat) (events later : List PPUCSwitchState) (t : Timing) :
    (t.told now events).told now later = t.told now (events ++ later) := by
  have hrefresh :
      (if ∃ event ∈ later, t.IsActivity event then some (now + t.switchRefreshIdleMs)
        else (t.told now events).nextSwitchRefreshAt) =
      (t.told now (events ++ later)).nextSwitchRefreshAt := by
    by_cases hlater : ∃ event ∈ later, t.IsActivity event
    · simp [told, hlater, or_and_right, exists_or]
    · simp [told, hlater, or_and_right, exists_or]
  apply Timing.ext
  · rfl
  · rfl
  · rfl
  · rfl
  · exact hrefresh
  · simp [told]

theorem told_active {now : Nat} {event : PPUCSwitchState} {t : Timing} (h : t.IsActivity event) :
    t.told now [event] =
      { t with
        nextSwitchRefreshAt := some (now + t.switchRefreshIdleMs)
        switches := t.switches ++ [event] } := by
  simp [told, h]

theorem told_quiet {now : Nat} {event : PPUCSwitchState} {t : Timing}
    (h : ¬ t.IsActivity event) :
    t.told now [event] = { t with switches := t.switches ++ [event] } := by
  simp [told, h]

end Timing

namespace Comm

def timing (c : Comm P) : Timing where
  switchBoards := c.switchBoards
  switchRefreshIdleMs := c.switchRefreshIdleMs
  buttonSwitchNumbers := c.buttonSwitchNumbers
  nextSwitchPollAt := c.nextSwitchPollAt
  nextSwitchRefreshAt := c.nextSwitchRefreshAt
  switches := c.switches

/-- From one state and world to the next, the timers stay as they are. -/
structure Idles (port : SerialPort W) (c : Comm P) (w : W) (c' : Comm P) (w' : W) : Prop where
  timing : c'.timing = c.timing
  clock : port.steadyMs w ≤ port.steadyMs w'

variable {port : SerialPort W}

theorem Idles.trans {c c' c'' : Comm P} {w w' w'' : W} (h : Idles port c w c' w')
    (h' : Idles port c' w' c'' w'') : Idles port c w c'' w'' :=
  ⟨h'.timing.trans h.timing, h.clock.trans h'.clock⟩

section idles

variable (hsteady : port.Steady)
include hsteady

theorem idles_writeBytes (context : String) (buffer : List UInt8) (c : Comm P) (w : W) :
    Idles port c w (c.writeBytes port context buffer w).2.1
      (c.writeBytes port context buffer w).2.2 := by
  constructor
  · obtain ⟨log, heq⟩ := writeBytes_eq port context buffer c w
    rw [heq]
    rfl
  · by_cases hopen : c.portOpen = true
    · rw [world_writeBytes port context buffer hopen w]
      exact hsteady.write buffer w
    · simp [writeBytes, hopen]

theorem idles_sendEvent (sourceByte : EventSource → UInt8) (event : Event) (c : Comm P) (w : W) :
    Idles port c w (c.sendEvent port sourceByte event w).2.1
      (c.sendEvent port sourceByte event w).2.2 := by
  unfold sendEvent
  split
  · have hwrite := idles_writeBytes hsteady "trigger frame"
      (P.buildTriggerFrame P.kNoBoard c.sequence c.epoch (sourceByte event.sourceId)
        event.eventId event.value) { c with sequence := c.sequence + 1 } w
    exact ⟨hwrite.timing, hwrite.clock⟩
  · exact ⟨rfl, Nat.le_refl _⟩

theorem idles_sendSetupFrame (c : Comm P) (w : W) :
    Idles port c w (c.sendSetupFrame port w).2.1 (c.sendSetupFrame port w).2.2 := by
  unfold sendSetupFrame
  split
  · have hwrite := idles_writeBytes hsteady "SetupFrame"
      (P.buildSetupFrame P.kNoBoard c.sequence c.epoch c.runtimeConfig)
      { c with sequence := c.sequence + 1 } w
    exact ⟨hwrite.timing, hwrite.clock⟩
  · exact ⟨rfl, Nat.le_refl _⟩

theorem idles_sendMappingFrame (domain : UInt8) (index number : UInt16) (c : Comm P) (w : W) :
    Idles port c w (c.sendMappingFrame port domain index number w).2.1
      (c.sendMappingFrame port domain index number w).2.2 := by
  unfold sendMappingFrame
  split
  · have hwrite := idles_writeBytes hsteady "MappingFrame"
      (P.buildMappingFrame P.kNoBoard c.sequence c.epoch domain index number)
      { c with sequence := c.sequence + 1 } (port.sleepUs 5000 w)
    exact ⟨hwrite.timing, (hsteady.sleepUs 5000 w).trans hwrite.clock⟩
  · exact ⟨rfl, Nat.le_refl _⟩

theorem idles_writeFrame (nextBoard : UInt8) (refresh : Bool) (frame : QueuedOutputSnapshot P)
    (holdFrames : Vector Nat P.kMaxCoilBits) (c : Comm P) (w : W) :
    Idles port c w (c.writeFrame port nextBoard refresh frame holdFrames w).2.1
      (c.writeFrame port nextBoard refresh frame holdFrames w).2.2 := by
  have hrefresh : Idles port c w (c.sendSwitchRefreshFrame port nextBoard w).2.1
      (c.sendSwitchRefreshFrame port nextBoard w).2.2 := by
    unfold sendSwitchRefreshFrame
    split
    · dsimp only
      obtain ⟨htiming, hclock⟩ := idles_writeBytes hsteady "SwitchRefreshFrame"
        (P.buildBareFrame .switchRefresh P.kFlagNone nextBoard c.sequence c.epoch)
        { c with
          sequence := c.sequence + 1
          lastOutputSequenceSent := (P.buildBareFrame .switchRefresh P.kFlagNone nextBoard
            c.sequence c.epoch).getD 3 0 } w
      exact ⟨htiming, hclock⟩
    · exact ⟨rfl, Nat.le_refl _⟩
  have houtput : Idles port c w (c.sendOutputStateFrameFromBuffers port nextBoard frame w).2.1
      (c.sendOutputStateFrameFromBuffers port nextBoard frame w).2.2 := by
    unfold sendOutputStateFrameFromBuffers
    split
    · dsimp only
      obtain ⟨htiming, hclock⟩ := idles_writeBytes hsteady "OutputStateFrame"
        (P.buildOutputStateFrame nextBoard c.sequence c.epoch c.runtimeConfig frame.coilBitmap
          frame.lampBitmap frame.giLevels)
        { c with
          sequence := c.sequence + 1
          lastOutputSequenceSent := (P.buildOutputStateFrame nextBoard c.sequence c.epoch
            c.runtimeConfig frame.coilBitmap frame.lampBitmap frame.giLevels).getD 3 0 } w
      exact ⟨htiming, hclock⟩
    · exact ⟨rfl, Nat.le_refl _⟩
  unfold writeFrame
  split
  · split <;>
    · next heq =>
      rw [heq] at hrefresh
      exact hrefresh
  · split <;>
    · next heq =>
      rw [heq] at houtput
      exact houtput

/-- Bytes that are looked through change nothing. -/
theorem idles_huntAdminFrame {α : Type} (A : AdminProtocol) (frameBytes : Nat)
    (crcMessage : String) (accept : List UInt8 → Option α) (rounds : Nat) (c : Comm P) (w : W) :
    Idles port c w (c.huntAdminFrame port A frameBytes crcMessage accept rounds w).2.1
      (c.huntAdminFrame port A frameBytes crcMessage accept rounds w).2.2 := by
  induction rounds generalizing c w with
  | zero => exact ⟨rfl, Nat.le_refl _⟩
  | succ rounds ih =>
    have hbyte := hsteady.read 1 w
    unfold huntAdminFrame
    split
    · next w₁ heq =>
      rw [heq] at hbyte
      have hrest := ih c w₁
      exact ⟨hrest.timing, hbyte.trans hrest.clock⟩
    · next w₁ heq =>
      rw [heq] at hbyte
      split
      · have hrest := ih c w₁
        exact ⟨hrest.timing, hbyte.trans hrest.clock⟩
      · have hexact := hsteady.readExact (frameBytes - 1) w₁
        have hgoes : ∀ (c₁ : Comm P) (w₂ : W), c₁.timing = c.timing →
            port.steadyMs w₁ ≤ port.steadyMs w₂ →
            Idles port c w (c₁.huntAdminFrame port A frameBytes crcMessage accept rounds w₂).2.1
              (c₁.huntAdminFrame port A frameBytes crcMessage accept rounds w₂).2.2 := by
          intro c₁ w₂ htiming hclock
          have hrest := ih c₁ w₂
          exact ⟨hrest.timing.trans htiming, (hbyte.trans hclock).trans hrest.clock⟩
        split
        · next heq' =>
          rw [heq'] at hexact
          exact hgoes c _ rfl hexact
        · next heq' =>
          rw [heq'] at hexact
          split
          · exact hgoes c _ rfl hexact
          · split
            · -- a wrong CRC is logged
              exact hgoes _ _ rfl hexact
            · split
              · exact ⟨rfl, hbyte.trans hexact⟩
              · exact hgoes c _ rfl hexact

theorem idles_queryBoardVersion (A : AdminProtocol) (board : UInt8) (timeoutMs : Nat)
    (c : Comm P) (w : W) :
    Idles port c w (c.queryBoardVersion port A board timeoutMs w).2.1
      (c.queryBoardVersion port A board timeoutMs w).2.2 := by
  unfold queryBoardVersion
  split
  · dsimp only
    obtain ⟨htiming, hclock⟩ := idles_writeBytes hsteady "AdminVersionQuery"
      (A.buildVersionQueryFrame board c.sequence c.epoch)
      { c with sequence := c.sequence + 1 } (port.flushInput w)
    have hflush := hsteady.flushInput w
    split
    · next heq =>
      rw [heq] at htiming hclock
      exact ⟨htiming, hflush.trans hclock⟩
    · next c₁ w₁ heq =>
      rw [heq] at htiming hclock
      have hhunt := idles_huntAdminFrame hsteady A A.kAdminFrameBytes
        s!"Invalid admin frame CRC while querying board {board}" (versionReport A board)
        (port.window (timeoutMs * 1000) w₁) c₁ w₁
      split <;>
      · next heq' =>
        rw [heq'] at hhunt
        exact ⟨hhunt.timing.trans htiming, (hflush.trans hclock).trans hhunt.clock⟩
  · exact ⟨rfl, Nat.le_refl _⟩

/-- A firmware transfer leaves the timers alone. -/
theorem idles_firmwareStep (A : AdminProtocol) (request : FirmwareRequest)
    (stage : FirmwareStage) (c : Comm P) (w : W) :
    Idles port c w (c.firmwareStep port A request stage w).2.1
      (c.firmwareStep port A request stage w).2.2 := by
  have hstays : Idles port c w c w := ⟨rfl, Nat.le_refl _⟩
  have hwrite : ∀ (c₀ : Comm P) (context : String) (frame : List UInt8) (w₀ : W),
      c₀.timing = c.timing → port.steadyMs w ≤ port.steadyMs w₀ →
      Idles port c w (c₀.writeBytes port context frame w₀).2.1
        (c₀.writeBytes port context frame w₀).2.2 :=
    fun c₀ context frame w₀ htiming hclock =>
      .trans ⟨htiming, hclock⟩ (idles_writeBytes hsteady context frame c₀ w₀)
  have hawait : ∀ expectedCommand timeoutMs,
      Idles port c w (c.awaitAdminReply port A request.board expectedCommand timeoutMs w).2.1
        (c.awaitAdminReply port A request.board expectedCommand timeoutMs w).2.2 :=
    fun _ _ => idles_huntAdminFrame hsteady A _ _ _ _ c w
  unfold firmwareStep
  cases stage with
  | query =>
    dsimp only
    split
    · exact hstays
    · have hquery := idles_queryBoardVersion hsteady A request.board 250 c w
      split
      · exact hquery
      · split <;> exact hquery
  | runtimeTest =>
    dsimp only
    split <;> exact hstays
  | sendBegin =>
    have hsend := hwrite { c with sequence := c.sequence + 1 } "UpdateBegin"
      (A.buildUpdateBeginFrame request.board c.sequence c.epoch
        (UInt32.ofNat (request.image.getD []).length) (P.crc16Ccitt (request.image.getD [])))
      (port.flushInput w) rfl (hsteady.flushInput w)
    dsimp only
    split <;>
    · next heq =>
      rw [heq] at hsend
      exact hsend
  | awaitBegin =>
    have hreply := hawait A.kAdminUpdateBeginAck 2000
    dsimp only
    split
    · next heq =>
      rw [heq] at hreply
      exact hreply
    · next heq =>
      rw [heq] at hreply
      split <;> exact hreply
  | nextChunk sent =>
    dsimp only
    split
    · -- a sequence number is taken for the frame
      exact ⟨rfl, Nat.le_refl _⟩
    · exact hstays
  | sendChunk sent attempt frame =>
    have hsend := hwrite c "UpdateChunk" frame w rfl (Nat.le_refl _)
    dsimp only
    split <;>
    · next heq =>
      rw [heq] at hsend
      exact hsend
  | awaitChunk sent attempt frame =>
    have hreply := hawait A.kAdminUpdateChunkAck 1000
    dsimp only
    split
    · next heq =>
      rw [heq] at hreply
      split
      · exact hreply
      · split
        · exact hreply
        · split <;> exact hreply
    · next heq =>
      rw [heq] at hreply
      split <;> exact hreply
  | sendCommit sent =>
    have hsend := hwrite { c with sequence := c.sequence + 1 } "UpdateCommit"
      (A.buildUpdateCommitFrame request.board c.sequence c.epoch) w rfl (Nat.le_refl _)
    dsimp only
    split <;>
    · next heq =>
      rw [heq] at hsend
      exact hsend
  | awaitResult sent =>
    have hreply := hawait A.kAdminUpdateResult 10000
    dsimp only
    split
    · next heq =>
      rw [heq] at hreply
      exact hreply
    · next heq =>
      rw [heq] at hreply
      split <;> exact hreply
  | returned result => exact hstays

end idles

/-! ### What the Application is Told -/

/-- The application is told about one switch. -/
theorem timing_noteSwitchActivity (now number state : Nat) (c : Comm P) :
    ({ c.noteSwitchActivity now (UInt16.ofNat number) with
        switches := c.switches ++ [{ number := number, state := state }] } : Comm P).timing =
      c.timing.told now [{ number := number, state := state }] := by
  unfold noteSwitchActivity
  by_cases hbutton : c.switchRefreshIdleMs = 0 ∨ UInt16.ofNat number ∈ c.buttonSwitchNumbers
  · have hquiet : ¬ c.timing.IsActivity { number := number, state := state } := by
      rintro ⟨hidle, hother⟩
      rcases hbutton with hzero | hmem
      · exact absurd hzero (Nat.ne_of_gt hidle)
      · exact hother hmem
    rw [Timing.told_quiet hquiet, if_pos hbutton]
    rfl
  · have hactive : c.timing.IsActivity { number := number, state := state } := by
      constructor
      · exact Nat.pos_of_ne_zero fun hzero => hbutton (Or.inl hzero)
      · exact fun hmem => hbutton (Or.inr hmem)
    rw [Timing.told_active hactive, if_neg hbutton]
    rfl

/-- The application is told about some switches, at the time of the new world. -/
structure Tells (port : SerialPort W) (c : Comm P) (w : W) (c' : Comm P) (w' : W) : Prop where
  timing : ∃ events, c'.timing = c.timing.told (port.steadyMs w') events
  clock : port.steadyMs w ≤ port.steadyMs w'

theorem Idles.tells {c c' : Comm P} {w w' : W} (h : Idles port c w c' w') :
    Tells port c w c' w' :=
  ⟨⟨[], by rw [h.timing, Timing.told_nil]⟩, h.clock⟩

theorem timing_applySwitchBitmapDiff (now : Nat) (board : UInt8)
    (bitmap : Vector UInt8 P.kMaxSwitchBytes) (bytes : Nat) (c : Comm P) :
    ∃ events, (c.applySwitchBitmapDiff now board bitmap bytes).timing =
      c.timing.told now events := by
  have hbit : ∀ (c₁ : Comm P) (n : Nat), ∃ events,
      (reportSwitchBit now (c.maskOf board) bitmap c₁ n).timing = c₁.timing.told now events := by
    intro c₁ n
    unfold reportSwitchBit
    split
    · dsimp only
      refine ⟨[_], Eq.trans ?_ (timing_noteSwitchActivity now (c₁.switchNumberAt n)
        (if P.bits.get bitmap n then 1 else 0) c₁)⟩
      unfold noteSwitchActivity
      split <;> rfl
    · exact ⟨[], (Timing.told_nil now c₁.timing).symm⟩
  have hbits : ∀ (ns : List Nat) (c₁ : Comm P), ∃ events,
      (ns.foldl (reportSwitchBit now (c.maskOf board) bitmap) c₁).timing =
        c₁.timing.told now events := by
    intro ns
    induction ns with
    | nil => exact fun c₁ => ⟨[], (Timing.told_nil now c₁.timing).symm⟩
    | cons n ns ih =>
      intro c₁
      obtain ⟨events, hfirst⟩ := hbit c₁ n
      obtain ⟨later, hrest⟩ := ih (reportSwitchBit now (c.maskOf board) bitmap c₁ n)
      refine ⟨events ++ later, ?_⟩
      rw [List.foldl_cons, hrest, hfirst, Timing.told_append]
  exact hbits (List.range c.runtimeConfig.switchBits) c

theorem clock_awaitSwitchFrame (hsteady : port.Steady) (c : Comm P) (rounds : Nat)
    (sawAnyReplyBytes hadState : Bool) (w : W) :
    port.steadyMs w ≤
      port.steadyMs (c.awaitSwitchFrame port rounds sawAnyReplyBytes hadState w).world := by
  induction rounds generalizing sawAnyReplyBytes hadState w with
  | zero => exact Nat.le_refl _
  | succ rounds ih =>
    have hbyte := hsteady.read 1 w
    unfold awaitSwitchFrame
    split
    · next heq =>
      rw [heq] at hbyte
      exact hbyte.trans (ih _ _ _)
    · next w₁ heq =>
      rw [heq] at hbyte
      split
      · exact hbyte.trans (ih _ _ _)
      · have hheader := hsteady.readExact (P.kHeaderBytes - 1) w₁
        split
        · next heq' =>
          rw [heq'] at hheader
          exact hbyte.trans (hheader.trans (ih _ _ _))
        · next w₂ heq' =>
          rw [heq'] at hheader
          split
          · exact hbyte.trans (hheader.trans (ih _ _ _))
          · next payloadBytes _ =>
            have hbody := hsteady.readExact (payloadBytes + P.kCrcBytes) w₂
            dsimp only
            split
            · next heq'' =>
              rw [heq''] at hbody
              exact hbyte.trans (hheader.trans (hbody.trans (ih _ _ _)))
            · next heq'' =>
              rw [heq''] at hbody
              exact hbyte.trans (hheader.trans hbody)

/-- A reply tells what has changed. -/
theorem tells_receiveSwitchStateFrame (hsteady : port.Steady) (expectedBoard : UInt8)
    (r : SwitchReply) (c : Comm P) (w : W) :
    Tells port c w (c.receiveSwitchStateFrame port expectedBoard r w).2.1
      (c.receiveSwitchStateFrame port expectedBoard r w).2.2 := by
  unfold receiveSwitchStateFrame
  split
  · have hawait := clock_awaitSwitchFrame hsteady c (port.window c.switchReplyWindowUs w) false
      r.hadState w
    dsimp only
    generalize c.awaitSwitchFrame port (port.window c.switchReplyWindowUs w) false r.hadState w =
      a at hawait
    split
    · next f _ =>
      refine ⟨?_, hawait⟩
      obtain ⟨log, hcheck⟩ := checkReplyStatus_eq port a.world expectedBoard f c
      unfold acceptSwitchFrame
      dsimp only
      rw [hcheck]
      split
      · exact ⟨[], (Timing.told_nil _ c.timing).symm⟩
      · split
        · exact timing_applySwitchBitmapDiff _ expectedBoard (f.bitmap P) _ _
        · exact ⟨[], (Timing.told_nil _ c.timing).symm⟩
    · -- the input is looked at twice, and flushed if nothing is coming
      have hfirst := hsteady.inputWaiting a.world
      have hsecond := hsteady.inputWaiting (port.inputWaiting a.world).2
      have hflush := hsteady.flushInput (port.inputWaiting (port.inputWaiting a.world).2).2
      refine Idles.tells ⟨rfl, hawait.trans ?_⟩
      unfold switchReplyTimedOut
      dsimp only
      split
      · exact hfirst.trans (hsecond.trans hflush)
      · exact hfirst.trans hsecond
  · exact Idles.tells ⟨rfl, Nat.le_refl _⟩

theorem timing_setVirtualSwitchState (now : Nat) (number : UInt16) (state : UInt8) (c : Comm P) :
    ∃ events, (c.setVirtualSwitchState now number state).2.timing =
      c.timing.told now events := by
  obtain ⟨boards, owners, hfinal⟩ := finalizeConfiguredBoardPresence_eq c
  have heffect := setVirtualSwitchState_effect now number state c
  have htiming : c.finalizeConfiguredBoardPresence.timing = c.timing := by
    rw [hfinal]
    rfl
  rw [← htiming]
  generalize c.finalizeConfiguredBoardPresence = c₀ at heffect
  generalize (c.setVirtualSwitchState now number state).2 = c' at heffect ⊢
  cases heffect with
  | unchanged => exact ⟨[], (Timing.told_nil now c₀.timing).symm⟩
  | @changed owner boardState i howner hboard hindex hdiffers =>
    refine ⟨[{ number := number.toNat, state := normalizedState state }],
      Eq.trans ?_ (timing_noteSwitchActivity now number.toNat (normalizedState state) c₀)⟩
    rw [UInt16.ofNat_toNat]
    unfold changeVirtualSwitch noteSwitchActivity
    dsimp only
    split <;> rfl

/-! ### Blocks -/

/-- The block may move a timer. -/
def movesTimers : BusPc P → Bool
  | .resyncMapping [] | .hop .. | .chainDone .. => true
  | _ => false

theorem movesTimers_cases {pc : BusPc P} (h : movesTimers pc = true) :
    pc = .resyncMapping [] ∨
      (∃ hops expected reply refresh, pc = .hop hops expected reply refresh) ∨
      ∃ success refresh, pc = .chainDone success refresh := by
  cases pc with
  | resyncMapping rest =>
    cases rest with
    | nil => exact Or.inl rfl
    | cons entry rest => simp [movesTimers] at h
  | hop hops expected reply refresh => exact Or.inr (Or.inl ⟨hops, expected, reply, refresh, rfl⟩)
  | chainDone success refresh => exact Or.inr (Or.inr ⟨success, refresh, rfl⟩)
  | _ => simp [movesTimers] at h

theorem idles_inspectQueue (hsteady : port.Steady) (c : Comm P) (w : W) :
    Idles port c w (c.inspectQueue port w).2.1 (c.inspectQueue port w).2.2 := by
  have hsleep := hsteady.sleepUs (c.outputFrameIntervalMs * 1000) w
  unfold inspectQueue
  dsimp only
  split
  · exact ⟨rfl, hsleep⟩
  · split
    · exact ⟨rfl, Nat.le_refl _⟩
    · exact ⟨rfl, hsleep⟩

theorem idles_busStep (hsteady : port.Steady) {sourceByte : EventSource → UInt8}
    {pc pc' : BusPc P} {c c' : Comm P} {w w' : W} (hquiet : movesTimers pc = false)
    (hblock : c.busStep port sourceByte pc w = some (pc', c', w')) : Idles port c w c' w' := by
  have hstays : Idles port c w c w := ⟨rfl, Nat.le_refl _⟩
  have hsleeps : ∀ us, Idles port c w c (port.sleepUs us w) :=
    fun us => ⟨rfl, hsteady.sleepUs us w⟩
  unfold busStep at hblock
  match pc with
  | .stopped => simp at hblock
  | .resyncMapping [] | .hop .. | .chainDone .. => simp [movesTimers] at hquiet
  | .loop =>
    obtain ⟨rfl, rfl, rfl⟩ := by simpa using hblock
    exact hstays
  | .popEvent eventsSent =>
    dsimp only at hblock
    split at hblock
    · split at hblock <;>
      · obtain ⟨rfl, rfl, rfl⟩ := by simpa using hblock
        exact ⟨rfl, Nat.le_refl _⟩
    · obtain ⟨rfl, rfl, rfl⟩ := by simpa using hblock
      exact hstays
  | .sendEvent eventsSent event =>
    have hsend := idles_sendEvent hsteady sourceByte event c w
    obtain ⟨rfl, rfl, rfl⟩ := by simpa using hblock
    -- an effect is followed by a pause
    split
    · exact ⟨hsend.timing, hsend.clock.trans (hsteady.sleepUs _ _)⟩
    · exact hsend
  | .runtimeTest =>
    dsimp only at hblock
    split at hblock
    · obtain ⟨rfl, rfl, rfl⟩ := by simpa using hblock
      exact hstays
    · obtain ⟨rfl, rfl, rfl⟩ := by simpa using hblock
      exact hsleeps 1000
  | .resyncTest =>
    dsimp only at hblock
    split at hblock <;>
    · obtain ⟨rfl, rfl, rfl⟩ := by simpa using hblock
      exact ⟨rfl, Nat.le_refl _⟩
  | .resyncSetup =>
    have hsend := idles_sendSetupFrame hsteady c w
    dsimp only at hblock
    split at hblock <;>
    · next heq =>
      rw [heq] at hsend
      obtain ⟨rfl, rfl, rfl⟩ := by simpa using hblock
      exact ⟨hsend.timing, hsend.clock.trans (hsteady.sleepUs 100000 _)⟩
  | .resyncMapping ((domain, index, number) :: rest) =>
    have hsend := idles_sendMappingFrame hsteady domain index number c w
    dsimp only at hblock
    split at hblock
    · next heq =>
      rw [heq] at hsend
      obtain ⟨rfl, rfl, rfl⟩ := by simpa using hblock
      exact hsend
    · next heq =>
      rw [heq] at hsend
      obtain ⟨rfl, rfl, rfl⟩ := by simpa using hblock
      exact ⟨hsend.timing, hsend.clock.trans (hsteady.sleepUs 100000 _)⟩
  | .inspectQueue =>
    have hinspect := idles_inspectQueue hsteady c w
    obtain ⟨rfl, rfl, rfl⟩ := by simpa [Prod.ext_iff] using hblock
    exact hinspect
  | .copyState nextBoard refresh snapshot =>
    obtain ⟨rfl, rfl, rfl⟩ := by simpa using hblock
    exact hstays
  | .writeFrame nextBoard refresh frame holdFrames =>
    have hwrite := idles_writeFrame hsteady nextBoard refresh frame holdFrames c w
    obtain ⟨rfl, rfl, rfl⟩ := by simpa [Prod.ext_iff] using hblock
    exact hwrite
  | .consumeHoldover nextBoard holdFrames =>
    obtain ⟨rfl, rfl, rfl⟩ := by simpa using hblock
    exact ⟨rfl, Nat.le_refl _⟩
  | .virtualCopy hops board next sendState refresh =>
    obtain ⟨rfl, rfl, rfl⟩ := by simpa using hblock
    split
    · exact hsleeps _
    · exact hstays
  | .virtualWrite hops board next sendState refresh switchCopy =>
    have hwrite : Idles port c w (c.writeVirtualReply port sendState next switchCopy w).2.1
        (c.writeVirtualReply port sendState next switchCopy w).2.2 :=
      idles_writeBytes hsteady _ _ c w
    dsimp only at hblock
    split at hblock <;>
    · next heq =>
      rw [heq] at hwrite
      obtain ⟨rfl, rfl, rfl⟩ := by simpa using hblock
      exact hwrite
  | .virtualClear hops board next sendState refresh =>
    obtain ⟨rfl, rfl, rfl⟩ := by simpa using hblock
    refine ⟨?_, Nat.le_refl _⟩
    unfold clearDirty
    split <;> rfl

theorem tells_hop (hsteady : port.Steady) (hops : Nat) (expected : UInt8) (reply : SwitchReply)
    (refresh : Bool) (c : Comm P) (w : W) :
    Tells port c w (c.hop port hops expected reply refresh w).2.1
      (c.hop port hops expected reply refresh w).2.2 := by
  have hstays : Tells port c w c w := Idles.tells ⟨rfl, Nat.le_refl _⟩
  unfold hop
  cases hops with
  | zero => exact hstays
  | succ hops =>
    dsimp only
    split
    · exact hstays
    · split
      · split <;> exact hstays
      · have hreply := tells_receiveSwitchStateFrame hsteady expected reply c w
        split <;> exact hreply

theorem timing_chainDone (success refresh : Bool) (c : Comm P) (w : W) :
    (c.chainDone port success refresh w).timing =
      { c.timing with
        nextSwitchRefreshAt :=
          if refresh = true ∧ 0 < c.switchRefreshIdleMs then
            some (port.steadyMs w + c.switchRefreshIdleMs)
          else c.nextSwitchRefreshAt } := by
  have hnote : (c.noteSwitchReplyChain port w success).timing = c.timing := by
    unfold noteSwitchReplyChain
    cases success with
    | true => rfl
    | false =>
      dsimp only
      rw [if_neg Bool.false_ne_true]
      split <;> rfl
  unfold chainDone
  dsimp only
  generalize c.noteSwitchReplyChain port w success = noted at hnote ⊢
  have hidle : noted.switchRefreshIdleMs = c.switchRefreshIdleMs :=
    congrArg Timing.switchRefreshIdleMs hnote
  have hnext : noted.nextSwitchRefreshAt = c.nextSwitchRefreshAt :=
    congrArg Timing.nextSwitchRefreshAt hnote
  rw [← hnote, ← hidle, ← hnext]
  split <;> rfl

end Comm

end LibPpuc
