import LibPpuc.Host.Lifecycle

/-! # What a Step Does to the Outputs

  The output state lives in five members, and the coil mapping gives its
  bits their meaning.  `Comm.outputStore` is all of them; one lemma per
  operation says that it is kept.  `OutputEffect` lists the steps of a host
  that do more, and every fact about outputs across sessions is derived from
  its inversion lemma `step_outputEffect`.
-/

namespace LibPpuc

/-- The output state, and what its coil bits mean. -/
structure OutputStore (P : Protocol) where
  coilBitmap : Vector UInt8 P.kMaxCoilBytes
  coilHoldFrames : Vector Nat P.kMaxCoilBits
  lampBitmap : Vector UInt8 P.kMaxLampBytes
  giLevels : Vector UInt8 P.kGiStrings
  outputSnapshots : List (QueuedOutputSnapshot P)
  coilIndexToNumber : List UInt16
  coilNumberToIndex : Map UInt16 Nat

namespace Comm

variable {P : Protocol} {W : Type}

def outputStore (c : Comm P) : OutputStore P where
  coilBitmap := c.coilBitmap
  coilHoldFrames := c.coilHoldFrames
  lampBitmap := c.lampBitmap
  giLevels := c.giLevels
  outputSnapshots := c.outputSnapshots
  coilIndexToNumber := c.coilIndexToNumber
  coilNumberToIndex := c.coilNumberToIndex

/-! ### Operations that Keep the Store -/

theorem outputStore_of_outputPart {c c' : Comm P} (h : c'.outputPart = c.outputPart) :
    c'.outputStore = c.outputStore := (congrArg Comm.outputStore h :)

theorem outputStore_of_hostPart {c c' : Comm P} (h : c'.hostPart = c.hostPart) :
    c'.outputStore = c.outputStore := outputStore_of_outputPart (outputPart_of_hostPart h)

theorem outputStore_sendConfigEvent (port : SerialPort W) (event : ConfigEvent) (c : Comm P)
    (w : W) : (c.sendConfigEvent port event w).comm.outputStore = c.outputStore := by
  obtain ⟨part, heq⟩ := sendConfigEvent_eq port event c w
  rw [heq]
  rfl

theorem outputStore_connect (opened : Bool) (c : Comm P) :
    (c.connect opened).outputStore = c.outputStore := by
  cases opened with
  | true => rfl
  | false => rfl

theorem hostPart_sendControlFrame (port : SerialPort W) (type : FrameType) (context : String)
    (c : Comm P) (w : W) :
    (c.sendControlFrame port type context w).2.1.hostPart = c.hostPart := by
  unfold sendControlFrame
  split
  · exact hostPart_writeBytes port _ _ _ w
  · rfl

theorem outputStore_controlBoards (port : SerialPort W) (type : FrameType) (context : String)
    (restartUs settleUs : Nat) (c : Comm P) (w : W) :
    (c.controlBoards port type context restartUs settleUs w).2.1.outputStore =
      c.outputStore := by
  have hhost := hostPart_sendControlFrame port type context c.forgetConfigFailures w
  have hstore : (c.forgetConfigFailures.sendControlFrame port type context w).2.1.outputStore =
      c.outputStore := (outputStore_of_hostPart hhost).trans rfl
  unfold controlBoards
  split
  · split
    · next heq =>
      rw [heq] at hstore
      exact hstore
    · next heq =>
      rw [heq] at hstore
      exact hstore
  · rfl

theorem hostPart_sendOutputStateFrame (port : SerialPort W) (nextBoard : UInt8) (c : Comm P)
    (w : W) : (c.sendOutputStateFrame port nextBoard w).2.1.hostPart = c.hostPart := by
  unfold sendOutputStateFrame
  split
  · exact hostPart_sendOutputStateFrameFromBuffers port nextBoard _ c w
  · rfl

end Comm

/-! ### Steps of the Startup Attempt -/

namespace Startup

variable {P : Protocol} {W : Type} {H : EventHeader} {port : SerialPort W}

theorem outputStore_sends (port : SerialPort W) (events : List ConfigEvent) (a : Startup P W) :
    (a.sends port events).comm.outputStore = a.comm.outputStore := by
  apply sends_invariant (I := fun b => b.comm.outputStore = a.comm.outputStore) _ events rfl
  intro b event h
  exact (Comm.outputStore_sendConfigEvent port event b.comm b.world).trans h

/-- Only the mappings are installed anew by a setter. -/
theorem outputStore_settled {x : StartupStep} (hx : installs x = false) (c : Comm P) :
    (settled c x).outputStore = c.outputStore := by
  cases x with
  | installMappings => exact Bool.noConfusion hx
  | registerSwitchBoard board =>
    simp only [settled, Comm.registerSwitchBoard]
    split <;> rfl
  | finalizeBoardPresence =>
    exact Comm.outputStore_of_outputPart (Comm.outputPart_finalizeConfiguredBoardPresence c)
  | setActiveSwitchBoards boards => rfl
  | send | abortCheck | failureCheck | pushSwitch | pushCoil | pushLamp | tokenRing => rfl

theorem outputStore_step {a a' : Startup P W} {x : StartupStep} (hx : installs x = false)
    (h : a.step H port x = some a') : a'.comm.outputStore = a.comm.outputStore := by
  obtain ⟨b, events, -, hcomm, -, rfl⟩ := step_settled h
  rw [outputStore_sends, hcomm, outputStore_settled hx]

end Startup

/-! ### Inversion of a Step -/

namespace Host

variable {P : Protocol} {W : Type}

/-- `Disconnect` is about to send an output frame. -/
def sendsOff (s : Host P W) : Bool :=
  match s.app with
  | .sendingOff _ => true
  | _ => false

/-- The mapping a step installs. -/
def installedMapping (s : Host P W) : HostLabel → Option (List UInt16)
  | .app =>
    match s.app with
    | .starting (.installMappings coilNumbers _ _ _ _ :: _) _ =>
      some (domainMapping P.kMaxCoilBits coilNumbers)
    | _ => none
  | _ => none

/-- The event a step queues. -/
def queuedEvent (E : HostEnv W) (s : Host P W) : HostLabel → Option Event
  | .queueEvent event => some event
  | .app =>
    match s.app with
    | .turningOnGi => if s.ppuc.platform = E.header.PLATFORM_WPC then none else some (giOn P)
    | _ => none
  | _ => none

/-- The step may work on the snapshot queue. -/
def touchesSnapshots (E : HostEnv W) (s : Host P W) (l : HostLabel) : Bool :=
  (s.queuedEvent E l).isSome ||
    match l with
    | .bus _ => true
    | .app =>
      match s.app with
      | .clearingSnapshots => true
      | _ => false
    | _ => false

/-- The effects a step can have on the outputs. -/
inductive OutputEffect (E : HostEnv W) (s : Host P W) : HostLabel → Host P W → Prop where
  /-- A block of a bus thread. -/
  | bus {k : Nat} {pc pc' : BusPc P} {s' : Host P W} (hthread : s.threads[k]? = some pc)
    (hthreads : s'.threads = s.threads.set k pc') (happ : s'.app = s.app)
    (heffect : Comm.BusEffect E.port s.comm s.world pc pc' s'.comm) : OutputEffect E s (.bus k) s'
  /-- An event is queued. -/
  | event {l : HostLabel} {event : Event} {s' : Host P W} (hevent : s.queuedEvent E l = some event)
    (hthreads : s'.threads = s.threads) (happ : s'.sendsOff = s.sendsOff)
    (hcomm : s'.comm = s.comm.queueEvent E.port s.world event) : OutputEffect E s l s'
  /-- A mapping is installed. -/
  | installed {l : HostLabel} {mapping : List UInt16} {s' : Host P W}
    (hmapping : s.installedMapping l = some mapping) (hthreads : s'.threads = s.threads)
    (happ : s'.sendsOff = false)
    (hstore : s'.comm.outputStore = { s.comm.outputStore with
      coilIndexToNumber := mapping
      coilNumberToIndex := Comm.numberToIndex mapping }) : OutputEffect E s l s'
  /-- `ClearQueuedOutputSnapshots`. -/
  | snapshotsCleared {s' : Host P W} (hblock : s.app = .clearingSnapshots)
    (hthreads : s'.threads = s.threads) (happ : s'.sendsOff = false)
    (hstore : s'.comm.outputStore = { s.comm.outputStore with outputSnapshots := [] }) :
    OutputEffect E s .app s'
  /-- `ClearOutputState`. -/
  | outputCleared {s' : Host P W} (hblock : s.app = .clearingOutput)
    (hthreads : s'.threads = s.threads) (hcomm : s'.comm = s.comm.clearOutputState) :
    OutputEffect E s .app s'
  /-- `Run` starts a thread. -/
  | started {s' : Host P W} (hblock : s.app = .running)
    (hthreads : s'.threads = s.threads ++ [.loop]) (happ : s'.sendsOff = false)
    (hstore : s'.comm.outputStore = s.comm.outputStore) : OutputEffect E s .app s'
  /-- The outputs are left alone. -/
  | quiet {l : HostLabel} {s' : Host P W} (hl : s.touchesSnapshots E l = false)
    (hthreads : s'.threads = s.threads)
    (happ : s'.sendsOff = true → s.sendsOff = true)
    (hstore : s'.comm.outputStore = s.comm.outputStore) : OutputEffect E s l s'

section inversion

variable {E : HostEnv W} {s s' : Host P W}

theorem touchesSnapshots_app {pc : AppPc} (happ : s.app = pc)
    (hpc : pc ≠ .turningOnGi ∧ pc ≠ .clearingSnapshots) :
    s.touchesSnapshots E .app = false := by
  unfold touchesSnapshots queuedEvent
  rw [happ]
  cases pc with
  | turningOnGi => exact absurd rfl hpc.1
  | clearingSnapshots => exact absurd rfl hpc.2
  | _ => rfl

/-- A block of `Connect` or `Disconnect` that leaves the outputs alone. -/
theorem OutputEffect.quiet_app {pc : AppPc} (happ : s.app = pc)
    (hpc : pc ≠ .turningOnGi ∧ pc ≠ .clearingSnapshots) (hthreads : s'.threads = s.threads)
    (hoff : s'.sendsOff = false) (hstore : s'.comm.outputStore = s.comm.outputStore) :
    OutputEffect E s .app s' := by
  refine .quiet (touchesSnapshots_app happ hpc) hthreads ?_ hstore
  intro h
  exact Bool.noConfusion (hoff.symm.trans h)

theorem startupStep_outputEffect {x : StartupStep} {rest : List StartupStep}
    {result : Except Failure Unit} (hblock : s.app = .starting (x :: rest) result) :
    OutputEffect E s .app (s.startupStep E x rest result) := by
  unfold startupStep
  cases hstep : (Startup.start s.comm s.world).step E.header E.port x with
  | none => exact .quiet_app hblock (by simp) rfl rfl rfl
  | some a =>
    by_cases hx : Startup.installs x = true
    · cases x with
      | installMappings coilNumbers lampNumbers items configuredBoards skippedBoards =>
        obtain rfl := Option.some.inj hstep
        have hmapping : s.installedMapping .app =
            some (domainMapping P.kMaxCoilBits coilNumbers) := by
          unfold installedMapping
          rw [hblock]
        exact .installed hmapping rfl rfl rfl
      | _ => exact Bool.noConfusion hx
    · have hstore := Startup.outputStore_step (Bool.eq_false_iff.mpr hx) hstep
      exact .quiet_app hblock (by simp) rfl rfl hstore

/-- Blocks that send a frame leave the outputs alone. -/
theorem restart_outputStore (E : HostEnv W) (s : Host P W) :
    (s.restart E).2.1.outputStore = s.comm.outputStore := by
  unfold restart
  split
  · exact Comm.outputStore_controlBoards E.port _ _ _ _ s.comm s.world
  · exact Comm.outputStore_controlBoards E.port _ _ _ _ s.comm s.world

theorem appStep_outputEffect (h : s.appStep E = some s') : OutputEffect E s .app s' := by
  unfold appStep at h
  cases happ : s.app with
  | idle =>
    rw [happ] at h
    exact nomatch h
  | restarting =>
    have hstore := restart_outputStore E s
    rw [happ] at h
    dsimp only at h
    split at h <;>
    · next heq =>
      rw [heq] at hstore
      obtain rfl := Option.some.inj h
      exact .quiet_app happ (by simp) rfl rfl hstore
  | starting rest result =>
    rw [happ] at h
    cases rest with
    | nil =>
      dsimp only at h
      split at h <;>
      · obtain rfl := Option.some.inj h
        exact .quiet_app happ (by simp) rfl rfl rfl
    | cons x rest =>
      obtain rfl := Option.some.inj h
      exact startupStep_outputEffect happ
  | sendingSetup =>
    have hhost := Comm.hostPart_sendSetupFrame E.port s.comm s.world
    rw [happ] at h
    dsimp only at h
    split at h <;>
    · next heq =>
      rw [heq] at hhost
      obtain rfl := Option.some.inj h
      exact .quiet_app happ (by simp) rfl rfl (Comm.outputStore_of_hostPart hhost)
  | sendingMapping rest =>
    rw [happ] at h
    cases rest with
    | nil =>
      obtain rfl := Option.some.inj h
      exact .quiet_app happ (by simp) rfl rfl rfl
    | cons frame rest =>
      obtain ⟨domain, index, number⟩ := frame
      have hhost := Comm.hostPart_sendMappingFrame E.port domain index number s.comm s.world
      dsimp only at h
      split at h <;>
      · next heq =>
        rw [heq] at hhost
        obtain rfl := Option.some.inj h
        exact .quiet_app happ (by simp) rfl rfl (Comm.outputStore_of_hostPart hhost)
  | turningOnGi =>
    rw [happ] at h
    obtain rfl := Option.some.inj h
    -- on WPC the game drives the GI itself
    by_cases hplatform : s.ppuc.platform = E.header.PLATFORM_WPC
    · have hl : s.touchesSnapshots E .app = false := by
        unfold touchesSnapshots queuedEvent
        rw [happ]
        simp [hplatform]
      refine .quiet hl rfl (fun h => Bool.noConfusion h) ?_
      dsimp only
      rw [if_pos hplatform]
    · have hevent : s.queuedEvent E .app = some (giOn P) := by
        unfold queuedEvent
        rw [happ]
        exact if_neg hplatform
      refine .event hevent rfl ?_ (if_neg hplatform)
      unfold sendsOff
      rw [happ]
  | running =>
    rw [happ] at h
    obtain rfl := Option.some.inj h
    -- the bus thread starts at its loop
    exact .started happ rfl rfl rfl
  | joining =>
    rw [happ] at h
    dsimp only at h
    split at h
    · obtain rfl := Option.some.inj h
      refine .quiet_app happ (by simp) rfl ?_ rfl
      unfold sendsOff
      by_cases hopen : s.comm.portOpen = true
      · rw [if_pos hopen]
      · rw [if_neg hopen]
    · exact nomatch h
  | clearingEvents =>
    rw [happ] at h
    obtain rfl := Option.some.inj h
    exact .quiet_app happ (by simp) rfl rfl rfl
  | clearingSnapshots =>
    rw [happ] at h
    obtain rfl := Option.some.inj h
    exact .snapshotsCleared happ rfl rfl rfl
  | clearingOutput =>
    rw [happ] at h
    obtain rfl := Option.some.inj h
    exact .outputCleared happ rfl rfl
  | sendingOff again =>
    have hhost := Comm.hostPart_sendOutputStateFrame E.port P.kNoBoard s.comm s.world
    rw [happ] at h
    obtain rfl := Option.some.inj h
    refine .quiet (touchesSnapshots_app happ (by simp)) rfl ?_ (Comm.outputStore_of_hostPart hhost)
    unfold sendsOff
    rw [happ]
    exact fun _ => rfl
  | closing =>
    rw [happ] at h
    obtain rfl := Option.some.inj h
    exact .quiet_app happ (by simp) rfl rfl rfl

/-- **Inversion of a step**: one of the listed effects happens. -/
theorem step_outputEffect {l : HostLabel} (h : s.step E l = some s') : OutputEffect E s l s' := by
  cases l with
  | bus k =>
    simp only [step] at h
    split at h
    · exact nomatch h
    · next pc hthread =>
      obtain ⟨⟨pc', c', w'⟩, hblock, rfl⟩ := Option.map_eq_some_iff.mp h
      exact .bus hthread rfl rfl (Comm.busStep_effect E.port hblock)
  | app => exact appStep_outputEffect h
  | loadConfiguration configFile config =>
    simp only [step] at h
    split at h
    · obtain rfl := Option.some.inj h
      exact .quiet rfl rfl id rfl
    · exact nomatch h
  | setSkippedBoards | setDisableFastFlipForTests | setForceHardReset =>
    simp only [step] at h
    split at h
    · obtain rfl := Option.some.inj h
      exact .quiet rfl rfl id rfl
    · exact nomatch h
  | connect opened =>
    simp only [step] at h
    split at h
    · obtain rfl := Option.some.inj h
      unfold connect
      split
      · exact .quiet rfl rfl id rfl
      · refine .quiet rfl rfl ?_ (Comm.outputStore_connect opened s.comm)
        cases opened with
        | true => exact fun h => Bool.noConfusion h
        | false => exact fun h => Bool.noConfusion h
    · exact nomatch h
  | disconnect =>
    simp only [step] at h
    split at h
    · obtain rfl := Option.some.inj h
      exact .quiet rfl rfl (fun h => Bool.noConfusion h) rfl
    · exact nomatch h
  | queueEvent event =>
    obtain rfl := Option.some.inj h
    exact .event rfl rfl rfl rfl
  | setSwitchState number state =>
    obtain rfl := Option.some.inj h
    exact .quiet rfl rfl id
      (Comm.outputStore_of_outputPart (Comm.outputPart_setVirtualSwitchState _ number state s.comm))
  | isVirtualized =>
    obtain rfl := Option.some.inj h
    exact .quiet rfl rfl id
      (Comm.outputStore_of_outputPart (Comm.outputPart_finalizeConfiguredBoardPresence s.comm))
  | getNextSwitchState =>
    obtain rfl := Option.some.inj h
    exact .quiet rfl rfl id (Comm.outputStore_of_hostPart (Comm.hostPart_getNextSwitchState s.comm))

end inversion

end Host

end LibPpuc
