import LibPpuc.Comm.State
import Mathlib.Data.List.Range

/-! # The Output Path

  `QueueEvent` updates the live output state under `m_stateMutex`; every
  coil update also queues a snapshot of it, so that no coil transition is
  lost between two frames.  The hold counters keep a coil set on the wire
  for `m_coilHoldFrameCount` frames, however short the request was.
-/

namespace LibPpuc

/-- The hold counter of coil `i` in a copy of `m_coilHoldFrames`. -/
def holdAt {n : Nat} (holdFrames : Vector Nat n) (i : Nat) : Nat :=
  (holdFrames[i]?).getD 0

namespace Comm

variable {P : Protocol} {W : Type}

/-! ### Snapshots and Holdover -/

/-- A copy of the live output state. -/
def outputSnapshot (c : Comm P) : QueuedOutputSnapshot P where
  coilBitmap := c.coilBitmap
  lampBitmap := c.lampBitmap
  giLevels := c.giLevels

/-- `QueueOutputSnapshotLocked`. -/
def queueOutputSnapshotLocked (port : SerialPort W) (w : W) (c : Comm P) : Comm P :=
  { (if RS485_COMM_OUTPUT_QUEUE_SIZE_MAX ≤ c.outputSnapshots.length then
      c.reportAnomaly port w .queueOverflow
        "Dropping oldest queued output snapshot: queue_full"
    else c) with
    outputSnapshots :=
      BoundedQueue.push RS485_COMM_OUTPUT_QUEUE_SIZE_MAX c.outputSnapshots c.outputSnapshot }

/-- The number of coils the hold counters are applied to. -/
def heldCoilBits (c : Comm P) : Nat := min c.runtimeConfig.coilBits P.kMaxCoilBits

/-- `ApplyCoilHoldover`: set the bit of every coil whose counter is not zero. -/
def applyCoilHoldover (coils : Vector UInt8 P.kMaxCoilBytes)
    (holdFrames : Vector Nat P.kMaxCoilBits) (c : Comm P) : Vector UInt8 P.kMaxCoilBytes :=
  (List.range c.heldCoilBits).foldl
    (fun coils i => if holdAt holdFrames i = 0 then coils else P.bits.set coils i true) coils

/-- `ConsumeCoilHoldoverLocked`: count down every coil that was held in the
    frame just written and still is. -/
def consumeCoilHoldoverLocked (holdFrames : Vector Nat P.kMaxCoilBits) (c : Comm P) : Comm P :=
  { c with
    coilHoldFrames := Vector.ofFn fun i =>
      if i.val < c.heldCoilBits ∧ holdFrames[i] ≠ 0 ∧ c.coilHoldFrames[i] ≠ 0 then
        c.coilHoldFrames[i] - 1
      else c.coilHoldFrames[i] }

/-- `ClearOutputState`. -/
def clearOutputState (c : Comm P) : Comm P :=
  { c with
    coilBitmap := Vector.replicate _ 0
    coilHoldFrames := Vector.replicate _ 0
    lampBitmap := Vector.replicate _ 0
    giLevels := Vector.replicate _ 0 }

/-- `ClearQueuedOutputSnapshots`. -/
def clearQueuedOutputSnapshots (c : Comm P) : Comm P := { c with outputSnapshots := [] }

/-- `ClearQueuedEvents`. -/
def clearQueuedEvents (c : Comm P) : Comm P := { c with events := [] }

/-! ### Application Events -/

/-- The coil update of `QueueEvent`, without the snapshot. -/
def setCoil (index : Nat) (coilOn : Bool) (c : Comm P) : Comm P :=
  { c with
    coilBitmap := P.bits.set c.coilBitmap index coilOn
    coilHoldFrames :=
      if coilOn then c.coilHoldFrames.setIfInBounds index c.coilHoldFrameCount.toNat
      else c.coilHoldFrames }

/-- `QueueEvent`.  Event ids are mapped before the state lock is taken; the
    update and its snapshot happen under it. -/
def queueEvent (port : SerialPort W) (w : W) (event : Event) (c : Comm P) : Comm P :=
  match event.sourceId with
  | .solenoid =>
    match c.coilNumberToIndex.lookup event.eventId with
    | some index =>
      if index < P.kMaxCoilBits then
        (c.setCoil index (event.value != 0)).queueOutputSnapshotLocked port w
      else c
    | none => c
  | .gi =>
    if 1 ≤ event.eventId.toNat ∧ event.eventId.toNat ≤ P.kGiStrings then
      { c with
        giLevels := c.giLevels.setIfInBounds (event.eventId.toNat - 1)
          (P.clampGiLevel event.value) }
    else c
  | .light =>
    match c.lampNumberToIndex.lookup event.eventId with
    | some index =>
      if index < P.kMaxLampBits then
        { c with lampBitmap := P.bits.set c.lampBitmap index (event.value != 0) }
      else c
    | none => c
  | .run => { c with runtimeEnabled := event.value != 0 }
  | .readSwitches => c
  | .effect =>
    if RS485_COMM_QUEUE_SIZE_MAX ≤ c.events.length then c
    else { c with events := c.events ++ [event] }
  -- legacy event packets are dropped
  | .other _ => c

/-! ### Output Frames -/

/-- `SendOutputStateFrameFromBuffers`. -/
def sendOutputStateFrameFromBuffers (port : SerialPort W) (nextBoard : UInt8)
    (snapshot : QueuedOutputSnapshot P) (c : Comm P) (w : W) : Bool × Comm P × W :=
  if c.portOpen ∧ P.isValidRuntimeConfig c.runtimeConfig ∧ P.isValidBoard nextBoard then
    let buffer := P.buildOutputStateFrame nextBoard c.sequence c.epoch c.runtimeConfig
      snapshot.coilBitmap snapshot.lampBitmap snapshot.giLevels
    ({ c with
        sequence := c.sequence + 1
        lastOutputSequenceSent := buffer.getD 3 0 } : Comm P).writeBytes port
      "OutputStateFrame" buffer w
  else (false, c, w)

/-- The buffers of an output frame built from `snapshot`, with the coils that
    are still held added. -/
def heldSnapshot (snapshot : QueuedOutputSnapshot P) (c : Comm P) : QueuedOutputSnapshot P :=
  { snapshot with
    coilBitmap := c.applyCoilHoldover snapshot.coilBitmap c.coilHoldFrames }

/-- `SendOutputStateFrame`: the live state, built and written under the lock. -/
def sendOutputStateFrame (port : SerialPort W) (nextBoard : UInt8) (c : Comm P) (w : W) :
    Bool × Comm P × W :=
  if c.portOpen ∧ P.isValidRuntimeConfig c.runtimeConfig ∧ P.isValidBoard nextBoard then
    c.sendOutputStateFrameFromBuffers port nextBoard (c.heldSnapshot c.outputSnapshot) w
  else (false, c, w)

/-- `SendEvent`: an effect event goes out as a trigger frame. -/
def sendEvent (port : SerialPort W) (sourceByte : EventSource → UInt8) (event : Event)
    (c : Comm P) (w : W) : Bool × Comm P × W :=
  if c.portOpen then
    ({ c with sequence := c.sequence + 1 } : Comm P).writeBytes port "trigger frame"
      (P.buildTriggerFrame P.kNoBoard c.sequence c.epoch (sourceByte event.sourceId)
        event.eventId event.value) w
  else (false, c, w)

/-- `SendSwitchRefreshFrame`. -/
def sendSwitchRefreshFrame (port : SerialPort W) (nextBoard : UInt8) (c : Comm P) (w : W) :
    Bool × Comm P × W :=
  if c.portOpen ∧ P.isValidRuntimeConfig c.runtimeConfig ∧ P.isValidBoard nextBoard then
    let buffer := P.buildBareFrame .switchRefresh P.kFlagNone nextBoard c.sequence c.epoch
    ({ c with
        sequence := c.sequence + 1
        lastOutputSequenceSent := buffer.getD 3 0 } : Comm P).writeBytes port
      "SwitchRefreshFrame" buffer w
  else (false, c, w)

/-! ### What the Operations Do to Single Coils -/

section coils

variable {pos : Nat → Nat}

theorem holdAt_setIfInBounds {n : Nat} (h : Vector Nat n) (i j v : Nat) :
    holdAt (h.setIfInBounds i v) j = if j = i ∧ i < n then v else holdAt h j := by
  unfold holdAt
  rw [Vector.getElem?_setIfInBounds]
  by_cases hij : i = j
  · subst hij
    by_cases hin : i < n
    · simp [hin]
    · simp [hin]
  · have hji : ¬ j = i := fun h => hij h.symm
    simp [hij, hji]

/-- The hold counters after a coil update. -/
theorem holdAt_setCoil (c : Comm P) (index i : Nat) (coilOn : Bool)
    (hindex : index < P.kMaxCoilBits) :
    holdAt (c.setCoil index coilOn).coilHoldFrames i =
      if i = index ∧ coilOn = true then c.coilHoldFrameCount.toNat
      else holdAt c.coilHoldFrames i := by
  cases coilOn with
  | false => simp [setCoil]
  | true =>
    simp only [setCoil, if_true, and_true]
    rw [holdAt_setIfInBounds]
    simp [hindex]

/-- The hold counters after a frame was consumed. -/
theorem holdAt_consume (c : Comm P) (holdFrames : Vector Nat P.kMaxCoilBits) (i : Nat) :
    holdAt (c.consumeCoilHoldoverLocked holdFrames).coilHoldFrames i =
      if i < c.heldCoilBits ∧ holdAt holdFrames i ≠ 0 then holdAt c.coilHoldFrames i - 1
      else holdAt c.coilHoldFrames i := by
  unfold consumeCoilHoldoverLocked holdAt
  by_cases hi : i < P.kMaxCoilBits
  · simp only [hi, Vector.getElem?_eq_getElem, Option.getD_some, Vector.getElem_ofFn,
      Fin.getElem_fin]
    by_cases hheld : i < c.heldCoilBits ∧ holdFrames[i] ≠ 0
    · rw [if_pos hheld]
      by_cases hzero : c.coilHoldFrames[i] = 0
      · simp [hzero]
      · rw [if_pos ⟨hheld.1, hheld.2, hzero⟩]
    · have hnot : ¬ (i < c.heldCoilBits ∧ holdFrames[i] ≠ 0 ∧ c.coilHoldFrames[i] ≠ 0) :=
        fun h => hheld ⟨h.1, h.2.1⟩
      rw [if_neg hnot, if_neg hheld]
  · have hlt : ¬ i < c.heldCoilBits := fun h => hi (lt_of_lt_of_le h (Nat.min_le_right _ _))
    simp [hi, hlt]

/-- The loop of `ApplyCoilHoldover` over any list of coil indices. -/
theorem get_holdover_foldl (hP : P.Lawful pos) (holdFrames : Vector Nat P.kMaxCoilBits)
    (is : List Nat) (coils : Vector UInt8 P.kMaxCoilBytes) {i : Nat}
    (hi : i < P.kMaxCoilBits) :
    P.bits.get (is.foldl
        (fun coils i => if holdAt holdFrames i = 0 then coils else P.bits.set coils i true)
        coils) i =
      (decide (i ∈ is ∧ holdAt holdFrames i ≠ 0) || P.bits.get coils i) := by
  induction is generalizing coils with
  | nil => simp
  | cons k ks ih =>
    rw [List.foldl_cons, ih]
    -- a coil without frames to hold is left as it is
    by_cases hk : holdAt holdFrames k = 0
    · rw [if_pos hk]
      by_cases hik : i = k
      · subst hik
        simp [hk]
      · simp [hik]
    · rw [if_neg hk, BitAccess.get_set hP.bits _ _ _ _ (hP.coil_byte_lt hi)]
      by_cases hik : i = k
      · subst hik
        simp [hk]
      · simp [hik]

/-- After `ApplyCoilHoldover` a coil is set if it was or if it is held. -/
theorem get_applyCoilHoldover (hP : P.Lawful pos) (c : Comm P)
    (coils : Vector UInt8 P.kMaxCoilBytes) (holdFrames : Vector Nat P.kMaxCoilBits) {i : Nat}
    (hi : i < P.kMaxCoilBits) :
    P.bits.get (c.applyCoilHoldover coils holdFrames) i =
      (decide (i < c.heldCoilBits ∧ holdAt holdFrames i ≠ 0) || P.bits.get coils i) := by
  unfold applyCoilHoldover
  rw [get_holdover_foldl hP holdFrames _ coils hi]
  simp

end coils

/-! ### What `QueueEvent` Can Do -/

/-- `QueueEvent` pushes onto the snapshot queue and touches nothing else. -/
theorem queueOutputSnapshotLocked_eq (port : SerialPort W) (w : W) (c : Comm P) :
    ∃ log, c.queueOutputSnapshotLocked port w =
      { c with
        anomalyLog := log
        outputSnapshots :=
          BoundedQueue.push RS485_COMM_OUTPUT_QUEUE_SIZE_MAX c.outputSnapshots
            c.outputSnapshot } := by
  unfold queueOutputSnapshotLocked
  split
  · exact ⟨_, rfl⟩
  · exact ⟨c.anomalyLog, rfl⟩

/-- A coil event for a mapped coil. -/
theorem queueEvent_coil (port : SerialPort W) (w : W) {event : Event} {c : Comm P} {index : Nat}
    (hsource : event.sourceId = .solenoid)
    (hlookup : c.coilNumberToIndex.lookup event.eventId = some index)
    (hindex : index < P.kMaxCoilBits) :
    c.queueEvent port w event =
      (c.setCoil index (event.value != 0)).queueOutputSnapshotLocked port w := by
  unfold queueEvent
  simp only [hsource, hlookup, hindex, if_true]

/-- The effects an event can have on the state. -/
inductive EventEffect (c : Comm P) (event : Event) : Comm P → Prop where
  /-- A mapped coil is updated and a snapshot pushed. -/
  | coil (index : Nat) (log : AnomalyLog)
      (hsource : event.sourceId = .solenoid)
      (hlookup : c.coilNumberToIndex.lookup event.eventId = some index)
      (hindex : index < P.kMaxCoilBits) :
      EventEffect c event
        { c.setCoil index (event.value != 0) with
          anomalyLog := log
          outputSnapshots :=
            BoundedQueue.push RS485_COMM_OUTPUT_QUEUE_SIZE_MAX c.outputSnapshots
              (c.setCoil index (event.value != 0)).outputSnapshot }
  /-- A lamp or GI level is updated. -/
  | level (lampBitmap : Vector UInt8 P.kMaxLampBytes) (giLevels : Vector UInt8 P.kGiStrings)
      (hsource : event.sourceId = .light ∨ event.sourceId = .gi) :
      EventEffect c event { c with lampBitmap := lampBitmap, giLevels := giLevels }
  /-- Runtime updates are switched on or off. -/
  | run (hsource : event.sourceId = .run) :
      EventEffect c event { c with runtimeEnabled := event.value != 0 }
  /-- An effect event is queued for the bus thread. -/
  | effect (hsource : event.sourceId = .effect) :
      EventEffect c event { c with events := c.events ++ [event] }
  /-- Nothing happens. -/
  | ignored : EventEffect c event c

/-- **Inversion of `QueueEvent`**: one of the listed effects happens. -/
theorem queueEvent_effect (port : SerialPort W) (w : W) (event : Event) (c : Comm P) :
    EventEffect c event (c.queueEvent port w event) := by
  unfold queueEvent
  match hsource : event.sourceId with
  | .solenoid =>
    dsimp only
    -- an unmapped number, or an index beyond the coil bits, changes nothing
    split
    · next index hlookup =>
      split
      · next hindex =>
        obtain ⟨log, heq⟩ :=
          queueOutputSnapshotLocked_eq port w (c.setCoil index (event.value != 0))
        rw [heq]
        exact EventEffect.coil index log hsource hlookup hindex
      · exact .ignored
    · exact .ignored
  | .gi =>
    dsimp only
    split
    · exact EventEffect.level c.lampBitmap _ (Or.inr hsource)
    · exact .ignored
  | .light =>
    dsimp only
    split
    · split
      · exact EventEffect.level _ c.giLevels (Or.inl hsource)
      · exact .ignored
    · exact .ignored
  | .run => exact .run hsource
  -- a request to read the switches is dropped
  | .readSwitches => exact .ignored
  | .effect =>
    dsimp only
    split
    · exact .ignored
    · exact .effect hsource
  | .other _ => exact .ignored

end Comm

end LibPpuc
