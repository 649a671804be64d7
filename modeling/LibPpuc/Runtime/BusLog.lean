import LibPpuc.Runtime.FirmwareUpdate

/-! # The Log of the Bus Thread

  Every buffer that the bus thread hands to the port is one of six frames.
  `BusFrame` keeps the fields that the builder of the frame gets, `frameOf`
  says which frame a block hands over.  The log of a run lists these frames,
  each with whether the port took it whole, and the points where the session
  came to be disputed.

  `written_busLog` connects the log to the bytes: it is exactly what goes to
  `sp_blocking_write`.
-/

namespace LibPpuc

variable {P : Protocol} {W : Type}

/-! ### Frames -/

/-- A frame of the bus thread, with the fields its builder gets. -/
inductive BusFrame (P : Protocol) where
  | trigger (sequence epoch : UInt8) (event : Event)
  | setup (sequence epoch : UInt8) (config : RuntimeConfig)
  | mapping (sequence epoch : UInt8) (entry : UInt8 × UInt16 × UInt16)
  | outputState (nextBoard sequence epoch : UInt8) (config : RuntimeConfig)
      (snapshot : QueuedOutputSnapshot P)
  | switchRefresh (nextBoard sequence epoch : UInt8)
  /-- The reply of a virtualized board. -/
  | switchReply (sendState : Bool) (nextBoard sequence epoch : UInt8)
      (switchCopy : Vector UInt8 P.kMaxSwitchBytes) (bytes : Nat)
  deriving DecidableEq

/-- The buffer that is handed to the port. -/
def BusFrame.bytes (sourceByte : EventSource → UInt8) : BusFrame P → List UInt8
  | .trigger sequence epoch event =>
    P.buildTriggerFrame P.kNoBoard sequence epoch (sourceByte event.sourceId) event.eventId
      event.value
  | .setup sequence epoch config => P.buildSetupFrame P.kNoBoard sequence epoch config
  | .mapping sequence epoch entry =>
    P.buildMappingFrame P.kNoBoard sequence epoch entry.1 entry.2.1 entry.2.2
  | .outputState nextBoard sequence epoch config snapshot =>
    P.buildOutputStateFrame nextBoard sequence epoch config snapshot.coilBitmap
      snapshot.lampBitmap snapshot.giLevels
  | .switchRefresh nextBoard sequence epoch =>
    P.buildBareFrame .switchRefresh P.kFlagNone nextBoard sequence epoch
  | .switchReply sendState nextBoard sequence epoch switchCopy bytes =>
    P.buildSwitchReplyFrame sendState nextBoard sequence epoch epoch sequence P.kStatusInSync
      switchCopy bytes

/-- The frame shows the output state or polls the boards. -/
def BusFrame.isOutput : BusFrame P → Bool
  | .outputState .. | .switchRefresh .. => true
  | _ => false

/-- The frame that a block hands to the port. -/
def Comm.frameOf (pc : BusPc P) (c : Comm P) : Option (BusFrame P) :=
  match pc with
  | .sendEvent _ event =>
    if c.portOpen then some (.trigger c.sequence c.epoch event) else none
  | .resyncSetup =>
    if c.portOpen ∧ P.isValidRuntimeConfig c.runtimeConfig then
      some (.setup c.sequence c.epoch c.runtimeConfig)
    else none
  | .resyncMapping (entry :: _) =>
    if c.portOpen then some (.mapping c.sequence c.epoch entry) else none
  | .writeFrame nextBoard refresh frame _ =>
    if c.portOpen ∧ P.isValidRuntimeConfig c.runtimeConfig ∧ P.isValidBoard nextBoard then
      some (if refresh then .switchRefresh nextBoard c.sequence c.epoch
        else .outputState nextBoard c.sequence c.epoch c.runtimeConfig frame)
    else none
  | .virtualWrite _ _ next sendState _ switchCopy =>
    if c.portOpen then
      some (.switchReply sendState next c.lastOutputSequenceSent c.epoch switchCopy
        (P.bitsToBytes c.runtimeConfig.switchBits))
    else none
  | _ => none

/-- The world in which a block writes. -/
def BusPc.writeWorld (port : SerialPort W) (pc : BusPc P) (w : W) : W :=
  match pc with
  | .resyncMapping _ => port.sleepUs 5000 w
  | _ => w

/-- The port takes the whole buffer. -/
def SerialPort.takes (port : SerialPort W) (buffer : List UInt8) (w : W) : Bool :=
  decide ((port.write buffer w).1 = (buffer.length : Int))

/-! ### The Log -/

/-- An entry of the log. -/
inductive BusEntry (P : Protocol) where
  /-- A frame was handed to the port, which took it whole or not. -/
  | written (frame : BusFrame P) (whole : Bool)
  /-- `m_needSessionResync` was set. -/
  | disputed
  deriving DecidableEq

/-- The frames of a log. -/
def framesIn : List (BusEntry P) → List (BusFrame P)
  | [] => []
  | .written frame _ :: log => frame :: framesIn log
  | .disputed :: log => framesIn log

@[simp] theorem framesIn_append (log log' : List (BusEntry P)) :
    framesIn (log ++ log') = framesIn log ++ framesIn log' := by
  induction log with
  | nil => rfl
  | cons entry log ih =>
    cases entry with
    | written frame whole => simp [framesIn, ih]
    | disputed => simp [framesIn, ih]

/-- What a block hands to the port. -/
def Comm.writtenBy (E : Env W) (pc : BusPc P) (c : Comm P) (w : W) : List (BusEntry P) :=
  ((c.frameOf pc).map fun frame =>
    .written frame (E.port.takes (frame.bytes E.sourceByte) (pc.writeWorld E.port w))).toList

/-- Nothing, or the entry of a session that came to be disputed. -/
def disputedNow (before after : Bool) : List (BusEntry P) :=
  if before = false ∧ after = true then [.disputed] else []

namespace Sys

/-- What a step of the system enters in the log. -/
def busEntries (E : Env W) (s : Sys P W) (l : Label) (s' : Sys P W) : List (BusEntry P) :=
  match l with
  | .bus =>
    s.comm.writtenBy E s.bus s.world ++
      disputedNow s.comm.needSessionResync s'.comm.needSessionResync
  | _ => []

/-- The log of a run. -/
def busLog (E : Env W) (s : Sys P W) (ls : List Label) : List (BusEntry P) :=
  Transition.observe (step E) (busEntries E) s ls

end Sys

/-! ### The Log is What the Port Gets -/

namespace Comm

theorem sendEvent_of_open (port : SerialPort W) (sourceByte : EventSource → UInt8) (event : Event)
    {c : Comm P} (hopen : c.portOpen = true) (w : W) :
    c.sendEvent port sourceByte event w =
      ({ c with sequence := c.sequence + 1 } : Comm P).writeBytes port "trigger frame"
        ((BusFrame.trigger c.sequence c.epoch event : BusFrame P).bytes sourceByte) w := by
  unfold sendEvent
  rw [if_pos hopen]
  rfl

theorem sendSetupFrame_of_open (port : SerialPort W) (sourceByte : EventSource → UInt8)
    {c : Comm P} (hopen : c.portOpen = true)
    (hvalid : P.isValidRuntimeConfig c.runtimeConfig = true) (w : W) :
    c.sendSetupFrame port w =
      ({ c with sequence := c.sequence + 1 } : Comm P).writeBytes port "SetupFrame"
        ((BusFrame.setup c.sequence c.epoch c.runtimeConfig : BusFrame P).bytes sourceByte) w := by
  unfold sendSetupFrame
  rw [if_pos ⟨hopen, hvalid⟩]
  rfl

theorem sendMappingFrame_of_open (port : SerialPort W) (sourceByte : EventSource → UInt8)
    (entry : UInt8 × UInt16 × UInt16) {c : Comm P} (hopen : c.portOpen = true) (w : W) :
    c.sendMappingFrame port entry.1 entry.2.1 entry.2.2 w =
      ({ c with sequence := c.sequence + 1 } : Comm P).writeBytes port "MappingFrame"
        ((BusFrame.mapping c.sequence c.epoch entry : BusFrame P).bytes sourceByte)
        (port.sleepUs 5000 w) := by
  unfold sendMappingFrame
  rw [if_pos hopen]
  rfl

/-- The write of a state or refresh frame, in the state that counts it. -/
theorem writeFrame_of_open (port : SerialPort W) (sourceByte : EventSource → UInt8)
    {nextBoard : UInt8} {refresh : Bool} {frame : QueuedOutputSnapshot P}
    {holdFrames : Vector Nat P.kMaxCoilBits} {c : Comm P} {sent : BusFrame P}
    (hsent : c.frameOf (.writeFrame nextBoard refresh frame holdFrames) = some sent) (w : W) :
    ∃ context, c.writeFrame port nextBoard refresh frame holdFrames w =
      match ({ c with
          sequence := c.sequence + 1
          lastOutputSequenceSent := (sent.bytes sourceByte).getD 3 0 } : Comm P).writeBytes port
            context (sent.bytes sourceByte) w with
      | (true, c, w) =>
        (if refresh then .afterFrame nextBoard true else .consumeHoldover nextBoard holdFrames,
          c, w)
      | (false, c, w) => (.loop, c, w) := by
  simp only [frameOf] at hsent
  split at hsent
  · next hopen =>
    obtain rfl := Option.some.inj hsent
    cases refresh with
    | true =>
      refine ⟨"SwitchRefreshFrame", ?_⟩
      simp only [writeFrame, sendSwitchRefreshFrame, if_pos hopen, if_true]
      rfl
    | false =>
      refine ⟨"OutputStateFrame", ?_⟩
      simp only [writeFrame, sendOutputStateFrameFromBuffers, if_pos hopen, Bool.false_eq_true,
        if_false]
      rfl
  · cases hsent

theorem writeFrame_of_closed (port : SerialPort W) {nextBoard : UInt8} {refresh : Bool}
    {frame : QueuedOutputSnapshot P} {holdFrames : Vector Nat P.kMaxCoilBits} {c : Comm P}
    (hnone : c.frameOf (.writeFrame nextBoard refresh frame holdFrames) = none) (w : W) :
    c.writeFrame port nextBoard refresh frame holdFrames w = (.loop, c, w) := by
  simp only [frameOf] at hnone
  split at hnone
  · exact nomatch hnone
  · next hclosed =>
    cases refresh with
    | true => simp only [writeFrame, sendSwitchRefreshFrame, if_neg hclosed, if_true]
    | false =>
      simp only [writeFrame, sendOutputStateFrameFromBuffers, if_neg hclosed, Bool.false_eq_true,
        if_false]

/-- The recording world after a write. -/
theorem recorded_writeBytes (port : SerialPort W) (context : String) (buffer : List UInt8)
    {c : Comm P} (hopen : c.portOpen = true) (w : W × List (List UInt8)) :
    (c.writeBytes port.recording context buffer w).2.2.2 = w.2 ++ [buffer] := by
  rw [world_writeBytes port.recording context buffer hopen w]
  rfl

/-- **A block hands over its frame** and nothing else. -/
theorem recorded_busStep {port : SerialPort W} {sourceByte : EventSource → UInt8}
    {pc pc' : BusPc P} {c c' : Comm P} {w w' : W × List (List UInt8)}
    (h : c.busStep port.recording sourceByte pc w = some (pc', c', w')) :
    w'.2 = w.2 ++ ((c.frameOf pc).map (BusFrame.bytes sourceByte)).toList := by
  -- one case per block; those that write nothing keep the record
  unfold busStep at h
  match pc with
  | .stopped => exact nomatch h
  | .loop =>
    obtain ⟨rfl, rfl, rfl⟩ := by simpa using h
    simp [frameOf]
  | .popEvent eventsSent =>
    dsimp only at h
    split at h
    · split at h <;>
      · obtain ⟨rfl, rfl, rfl⟩ := by simpa using h
        simp [frameOf]
    · obtain ⟨rfl, rfl, rfl⟩ := by simpa using h
      simp [frameOf]
  | .sendEvent eventsSent event =>
    have hsent : (c.sendEvent port.recording sourceByte event w).2.2.2 = w.2 ++
        ((c.frameOf (.sendEvent eventsSent event)).map (BusFrame.bytes sourceByte)).toList := by
      by_cases hopen : c.portOpen = true
      · rw [sendEvent_of_open port.recording sourceByte event hopen w, recorded_writeBytes]
        · simp [frameOf, hopen]
        · exact hopen
      · simp [sendEvent, frameOf, hopen]
    obtain ⟨rfl, rfl, rfl⟩ := by simpa using h
    rw [← hsent]
    split <;> rfl
  | .runtimeTest =>
    dsimp only at h
    split at h <;>
    · obtain ⟨rfl, rfl, rfl⟩ := by simpa using h
      simp [frameOf, SerialPort.recording]
  | .resyncTest =>
    dsimp only at h
    split at h <;>
    · obtain ⟨rfl, rfl, rfl⟩ := by simpa using h
      simp [frameOf]
  | .resyncSetup =>
    have hsent : (c.sendSetupFrame port.recording w).2.2.2 =
        w.2 ++ ((c.frameOf .resyncSetup).map (BusFrame.bytes sourceByte)).toList := by
      by_cases hopen : c.portOpen = true ∧ P.isValidRuntimeConfig c.runtimeConfig = true
      · rw [sendSetupFrame_of_open port.recording sourceByte hopen.1 hopen.2 w,
          recorded_writeBytes]
        · simp [frameOf, hopen]
        · exact hopen.1
      · simp [sendSetupFrame, frameOf, hopen]
    dsimp only at h
    split at h <;>
    · next heq =>
      rw [heq] at hsent
      obtain ⟨rfl, rfl, rfl⟩ := by simpa using h
      exact hsent
  | .resyncMapping [] =>
    obtain ⟨rfl, rfl, rfl⟩ := by simpa using h
    simp [frameOf, SerialPort.recording]
  | .resyncMapping ((domain, index, number) :: rest) =>
    have hsent : (c.sendMappingFrame port.recording domain index number w).2.2.2 =
        w.2 ++ ((c.frameOf (.resyncMapping ((domain, index, number) :: rest))).map
          (BusFrame.bytes sourceByte)).toList := by
      by_cases hopen : c.portOpen = true
      · rw [sendMappingFrame_of_open port.recording sourceByte (domain, index, number) hopen w,
          recorded_writeBytes]
        · simp [frameOf, hopen, SerialPort.recording]
        · exact hopen
      · simp [sendMappingFrame, frameOf, hopen]
    dsimp only at h
    split at h <;>
    · next heq =>
      rw [heq] at hsent
      obtain ⟨rfl, rfl, rfl⟩ := by simpa using h
      exact hsent
  | .inspectQueue =>
    have hkept : (c.inspectQueue port.recording w).2.2.2 = w.2 := by
      unfold inspectQueue
      dsimp only
      split
      · rfl
      · split <;> rfl
    rw [Option.some.inj h] at hkept
    simpa [frameOf] using hkept
  | .copyState nextBoard refresh snapshot =>
    obtain ⟨rfl, rfl, rfl⟩ := by simpa using h
    simp [frameOf]
  | .writeFrame nextBoard refresh frame holdFrames =>
    have hblock := Option.some.inj h
    cases hframe : c.frameOf (.writeFrame nextBoard refresh frame holdFrames) with
    | none =>
      rw [writeFrame_of_closed port.recording hframe w] at hblock
      obtain ⟨rfl, rfl, rfl⟩ := by simpa using hblock
      simp
    | some sent =>
      obtain ⟨context, heq⟩ := writeFrame_of_open port.recording sourceByte hframe w
      have hopen : c.portOpen = true := by
        simp only [frameOf] at hframe
        split at hframe
        · next hopen => exact hopen.1
        · exact nomatch hframe
      have hrecord := recorded_writeBytes port context (sent.bytes sourceByte)
        (c := { c with
          sequence := c.sequence + 1
          lastOutputSequenceSent := (sent.bytes sourceByte).getD 3 0 }) hopen w
      rw [heq] at hblock
      split at hblock <;>
      · next hwrite =>
        rw [hwrite] at hrecord
        obtain ⟨rfl, rfl, rfl⟩ := by simpa using hblock
        simpa using hrecord
  | .consumeHoldover nextBoard holdFrames =>
    obtain ⟨rfl, rfl, rfl⟩ := by simpa using h
    simp [frameOf]
  | .hop hops expected reply refresh =>
    have hkept : (c.hop port.recording hops expected reply refresh w).2.2.2 = w.2 := by
      have hread := receiveSwitchStateFrame_recording port expected reply c w
      unfold hop
      cases hops with
      | zero => rfl
      | succ hops =>
        dsimp only
        split
        · rfl
        · split
          · split <;> rfl
          · split <;> exact hread
    rw [Option.some.inj h] at hkept
    simpa [frameOf] using hkept
  | .virtualCopy hops board next sendState refresh =>
    obtain ⟨rfl, rfl, rfl⟩ := by simpa using h
    simp only [frameOf, Option.map_none, Option.toList_none, List.append_nil]
    split <;> rfl
  | .virtualWrite hops board next sendState refresh switchCopy =>
    have hsent : (c.writeVirtualReply port.recording sendState next switchCopy w).2.2.2 =
        w.2 ++ ((c.frameOf (.virtualWrite hops board next sendState refresh switchCopy)).map
          (BusFrame.bytes sourceByte)).toList := by
      by_cases hopen : c.portOpen = true
      · unfold writeVirtualReply
        rw [recorded_writeBytes port _ _ hopen w]
        simp [frameOf, hopen, BusFrame.bytes, virtualReplyFrame]
      · simp [writeVirtualReply, writeBytes, frameOf, hopen]
    dsimp only at h
    split at h <;>
    · next heq =>
      rw [heq] at hsent
      obtain ⟨rfl, rfl, rfl⟩ := by simpa using h
      exact hsent
  | .virtualClear hops board next sendState refresh =>
    obtain ⟨rfl, rfl, rfl⟩ := by simpa using h
    simp [frameOf]
  | .chainDone success refresh =>
    obtain ⟨rfl, rfl, rfl⟩ := by simpa using h
    simp [frameOf]

end Comm

namespace Sys

/-- **The log is what the port gets**: in a run without a firmware transfer
    the frames of the log are the buffers handed to the port, in order. -/
theorem written_busLog {E : Env W} {s s' : Sys P (W × List (List UInt8))} {ls : List Label}
    (hrun : Transition.exec (step E.recording) s ls = some s')
    (hfirmware : Label.firmware ∉ ls) :
    s'.world.2 = s.world.2 ++
      (framesIn (busLog E.recording s ls)).map (BusFrame.bytes E.sourceByte) := by
  unfold busLog
  induction ls generalizing s with
  | nil =>
    obtain rfl : s = s' := by simpa using hrun
    simp [Transition.observe, framesIn]
  | cons l ls ih =>
    obtain ⟨t, ht, hrest⟩ := Transition.exec_cons_some.mp hrun
    rw [Transition.observe_cons ls ht, framesIn_append,
      ih hrest fun hmem => hfirmware (List.mem_cons_of_mem l hmem), List.map_append,
      ← List.append_assoc]
    congr 1
    -- away from the bus thread nothing is written
    have hother : l ≠ .bus → t.world = s.world → t.world.2 = s.world.2 ++
        (framesIn (busEntries E.recording s l t)).map (BusFrame.bytes E.sourceByte) := by
      intro hl hworld
      cases l <;> simp_all [busEntries, framesIn]
    cases l with
    | bus =>
      unfold step at ht
      obtain ⟨⟨pc', c', w'⟩, hblock, rfl⟩ := Option.map_eq_some_iff.mp ht
      show w'.2 = _
      rw [Comm.recorded_busStep hblock, busEntries, framesIn_append]
      unfold Comm.writtenBy disputedNow
      cases s.comm.frameOf s.bus <;> split <;> simp [framesIn, Env.recording]
    | queueEvent event =>
      obtain rfl := step_queueEvent ht
      exact hother (by simp) rfl
    | setVirtualSwitchState number state =>
      obtain rfl := step_setVirtualSwitchState ht
      exact hother (by simp) rfl
    | getNextSwitchState =>
      obtain rfl := Option.some.inj ht
      exact hother (by simp) rfl
    | updateBoardFirmware request =>
      simp only [step] at ht
      split at ht
      · obtain rfl := Option.some.inj ht
        exact hother (by simp) rfl
      · cases ht
    | firmware => exact absurd List.mem_cons_self hfirmware

end Sys

end LibPpuc
