import LibPpuc.Framework.BoundedQueue
import LibPpuc.Protocol
import LibPpuc.Comm.Anomaly
import Mathlib.Data.List.AList
import Mathlib.Data.Finset.Insert

/-! # The State of `RS485Comm`

  The members of the class, without those that only carry debug output or
  belong to the removed legacy transport.  Mutexes do not appear: a block
  that the source runs under a mutex is one function here.

  Maps are association lists with distinct keys, sets are finite sets.
-/

namespace LibPpuc

/-- `RS485_COMM_MAX_BOARDS`. -/
def RS485_COMM_MAX_BOARDS : Nat := 8

/-- `RS485_COMM_QUEUE_SIZE_MAX`. -/
def RS485_COMM_QUEUE_SIZE_MAX : Nat := 128

/-- `RS485_COMM_OUTPUT_QUEUE_SIZE_MAX`. -/
def RS485_COMM_OUTPUT_QUEUE_SIZE_MAX : Nat := 256

/-- `RS485_COMM_MAX_EVENTS_TO_SEND`. -/
def RS485_COMM_MAX_EVENTS_TO_SEND : Nat := 32

/-- `RS485_COMM_SWITCH_REPLY_MISS_THRESHOLD`. -/
def RS485_COMM_SWITCH_REPLY_MISS_THRESHOLD : Nat := 3

/-- `RS485_COMM_SWITCH_POLL_STARTUP_HOLD_MS`. -/
def RS485_COMM_SWITCH_POLL_STARTUP_HOLD_MS : Nat := 250

/-- `RS485_COMM_CONFIG_ACK_RETRIES`. -/
def RS485_COMM_CONFIG_ACK_RETRIES : Nat := 3

/-- `RS485_COMM_INITIAL_CONFIG_ACK_MISS_THRESHOLD`. -/
def RS485_COMM_INITIAL_CONFIG_ACK_MISS_THRESHOLD : Nat := 10

/-- A map with distinct keys. -/
abbrev Map (κ ν : Type) : Type := AList fun _ : κ => ν

/-- `VirtualSwitchBoardState`: one state per switch number. -/
structure VirtualSwitchBoardState where
  board : UInt8
  switchNumbers : List UInt16
  switchStates : List Nat
  dirty : Bool := false
  sizes : switchStates.length = switchNumbers.length

/-- `QueuedOutputSnapshot`. -/
structure QueuedOutputSnapshot (P : Protocol) where
  coilBitmap : Vector UInt8 P.kMaxCoilBytes
  lampBitmap : Vector UInt8 P.kMaxLampBytes
  giLevels : Vector UInt8 P.kGiStrings
  deriving DecidableEq

/-- The members of `RS485Comm`. -/
structure Comm (P : Protocol) where
  /-- `m_pSerialPort != NULL`. -/
  portOpen : Bool
  switchBoards : List UInt8
  configuredBoards : List UInt8
  presentBoards : Finset UInt8
  skippedBoards : Finset UInt8
  switchNumbersByBoard : Map UInt8 (List UInt16)
  switchOwnershipMaskByBoard : UInt8 → Vector UInt8 P.kMaxSwitchBytes
  virtualSwitchBoards : Map UInt8 VirtualSwitchBoardState
  virtualSwitchOwnerByNumber : Map UInt16 UInt8
  activeBoards : Finset UInt8
  runtimeEnabled : Bool
  coilHoldFrameCount : UInt8
  sequence : UInt8
  epoch : UInt8
  lastOutputSequenceSent : UInt8
  needSessionResync : Bool
  switchReplyMisses : UInt8
  switchReplyDelayUs : UInt32
  switchRefreshIdleMs : Nat
  outputFrameIntervalMs : Nat
  runtimeConfig : RuntimeConfig
  coilIndexToNumber : List UInt16
  lampIndexToNumber : List UInt16
  switchIndexToNumber : List UInt16
  coilNumberToIndex : Map UInt16 Nat
  lampNumberToIndex : Map UInt16 Nat
  switchNumberToIndex : Map UInt16 Nat
  buttonSwitchNumbers : Finset UInt16
  coilBitmap : Vector UInt8 P.kMaxCoilBytes
  coilHoldFrames : Vector Nat P.kMaxCoilBits
  lampBitmap : Vector UInt8 P.kMaxLampBytes
  giLevels : Vector UInt8 P.kGiStrings
  switchBitmap : Vector UInt8 P.kMaxSwitchBytes
  events : List Event
  outputSnapshots : List (QueuedOutputSnapshot P)
  switches : List PPUCSwitchState
  stopRequested : Bool
  anomalyLog : AnomalyLog
  cleanSwitchReplyChainCount : UInt32
  switchReplyChainCount : UInt32
  switchReplyMissCount : UInt32
  sessionResyncCount : UInt32
  configAckRetryCount : UInt32
  configAckTimeoutCount : UInt32
  configFailed : Bool
  configEarlyAbortLogged : Bool
  initialConfigAckMissStreak : Nat
  initialConfigAckMissesByBoard : UInt8 → Nat
  configEarlyAbortBoard : UInt8
  configAckFailedBoards : Finset UInt8
  nextSwitchPollAt : Nat
  /-- `none` is `time_point::max()`. -/
  nextSwitchRefreshAt : Option Nat
  boardPresenceFinalized : Bool

namespace Comm

variable {P : Protocol} {W : Type}

/-- A freshly constructed `RS485Comm`. -/
def fresh (P : Protocol) (now : Nat) : Comm P where
  portOpen := false
  switchBoards := []
  configuredBoards := []
  presentBoards := ∅
  skippedBoards := ∅
  switchNumbersByBoard := ∅
  switchOwnershipMaskByBoard := fun _ => Vector.replicate _ 0
  virtualSwitchBoards := ∅
  virtualSwitchOwnerByNumber := ∅
  activeBoards := ∅
  runtimeEnabled := true
  coilHoldFrameCount := 3
  sequence := 0
  epoch := 1
  lastOutputSequenceSent := 0
  needSessionResync := false
  switchReplyMisses := 0
  switchReplyDelayUs := 0
  switchRefreshIdleMs := 0
  outputFrameIntervalMs := 4
  runtimeConfig := P.defaultRuntimeConfig
  coilIndexToNumber := []
  lampIndexToNumber := []
  switchIndexToNumber := []
  coilNumberToIndex := ∅
  lampNumberToIndex := ∅
  switchNumberToIndex := ∅
  buttonSwitchNumbers := ∅
  coilBitmap := Vector.replicate _ 0
  coilHoldFrames := Vector.replicate _ 0
  lampBitmap := Vector.replicate _ 0
  giLevels := Vector.replicate _ 0
  switchBitmap := Vector.replicate _ 0
  events := []
  outputSnapshots := []
  switches := []
  stopRequested := false
  anomalyLog := {}
  cleanSwitchReplyChainCount := 0
  switchReplyChainCount := 0
  switchReplyMissCount := 0
  sessionResyncCount := 0
  configAckRetryCount := 0
  configAckTimeoutCount := 0
  configFailed := false
  configEarlyAbortLogged := false
  initialConfigAckMissStreak := 0
  initialConfigAckMissesByBoard := fun _ => 0
  configEarlyAbortBoard := P.kNoBoard
  configAckFailedBoards := ∅
  nextSwitchPollAt := now
  nextSwitchRefreshAt := none
  boardPresenceFinalized := false

/-- `ReportAnomaly`, with the clocks of the world. -/
def reportAnomaly (port : SerialPort W) (w : W) (kind : Anomaly) (message : String)
    (c : Comm P) : Comm P :=
  { c with
    anomalyLog := c.anomalyLog.reportAnomaly kind message (port.steadyMs w) (port.wallMs w) }

/-- `WriteBytes`: the frame went out whole, or the failure is reported. -/
def writeBytes (port : SerialPort W) (context : String) (buffer : List UInt8)
    (c : Comm P) (w : W) : Bool × Comm P × W :=
  if c.portOpen then
    match port.write buffer w with
    | (written, w') =>
      if written = (buffer.length : Int) then (true, c, w')
      else if written < 0 then
        match port.lastErrorMessage w' with
        | some errorMessage =>
          (false, c.reportAnomaly port w' .serialWrite
            s!"Serial write failed for {context}: {errorMessage}", w')
        | none =>
          (false, c.reportAnomaly port w' .serialWrite
            s!"Serial write failed for {context}: libserialport error {written}", w')
      else
        (false, c.reportAnomaly port w' .serialWrite
          s!"Serial write incomplete for {context}: wrote {written} of {buffer.length} bytes",
          w')
  else (false, c, w)

/-! ### Configuration Setters -/

/-- `RegisterSwitchBoard`. -/
def registerSwitchBoard (number : UInt8) (c : Comm P) : Comm P :=
  if c.switchBoards.length < RS485_COMM_MAX_BOARDS ∧ number.toNat < RS485_COMM_MAX_BOARDS then
    { c with switchBoards := c.switchBoards ++ [number] }
  else c

/-- `SetConfiguredBoards`. -/
def setConfiguredBoards (boards : List UInt8) (c : Comm P) : Comm P :=
  { c with configuredBoards := boards, boardPresenceFinalized := false }

/-- `SetSkippedBoards`. -/
def setSkippedBoards (boards : Finset UInt8) (c : Comm P) : Comm P :=
  { c with skippedBoards := boards, boardPresenceFinalized := false }

/-- `SetButtonSwitchNumbers`. -/
def setButtonSwitchNumbers (numbers : Finset UInt16) (c : Comm P) : Comm P :=
  { c with buttonSwitchNumbers := numbers }

/-- `SetRuntimeConfig`: an invalid configuration is ignored. -/
def setRuntimeConfig (config : RuntimeConfig) (c : Comm P) : Comm P :=
  { c with runtimeConfig := if P.isValidRuntimeConfig config then config else c.runtimeConfig }

/-- `SetActiveSwitchBoards`: stops at the first board that does not fit. -/
def setActiveSwitchBoards (boards : List UInt8) (c : Comm P) : Comm P :=
  { c with
    switchBoards :=
      (boards.takeWhile fun board => board.toNat < RS485_COMM_MAX_BOARDS).take
        RS485_COMM_MAX_BOARDS }

/-- The ownership mask of a list of switch numbers. -/
def ownershipMask (numberToIndex : Map UInt16 Nat) (switchNumbers : List UInt16) :
    Vector UInt8 P.kMaxSwitchBytes :=
  switchNumbers.foldl
    (fun mask switchNumber =>
      match numberToIndex.lookup switchNumber with
      | some index => P.bits.set mask index true
      | none => mask)
    (Vector.replicate _ 0)

/-- `RebuildSwitchOwnershipMasks`. -/
def rebuildSwitchOwnershipMasks (c : Comm P) : Comm P :=
  { c with
    switchOwnershipMaskByBoard := fun board =>
      match c.switchNumbersByBoard.lookup board with
      | some switchNumbers =>
        if board.toNat < RS485_COMM_MAX_BOARDS then
          ownershipMask c.switchNumberToIndex switchNumbers
        else Vector.replicate _ 0
      | none => Vector.replicate _ 0 }

/-- `SetSwitchNumbersByBoard`. -/
def setSwitchNumbersByBoard (switchesByBoard : Map UInt8 (List UInt16)) (c : Comm P) :
    Comm P :=
  { ({ c with switchNumbersByBoard := switchesByBoard } : Comm P).rebuildSwitchOwnershipMasks
    with boardPresenceFinalized := false }

/-- The map from numbers to positions; a later position wins. -/
def numberToIndex (numbers : List UInt16) : Map UInt16 Nat :=
  numbers.zipIdx.foldl (fun m p => m.insert p.1 p.2) ∅

/-- `SetMappings`. -/
def setMappings (coils lamps switches : List UInt16) (c : Comm P) : Comm P :=
  ({ c with
    coilIndexToNumber := coils
    lampIndexToNumber := lamps
    switchIndexToNumber := switches
    coilNumberToIndex := numberToIndex coils
    lampNumberToIndex := numberToIndex lamps
    switchNumberToIndex := numberToIndex switches } : Comm P).rebuildSwitchOwnershipMasks

/-! ### Frame Facts of `ReportAnomaly` and `WriteBytes` -/

section frame

variable (port : SerialPort W)

/-- A report touches the anomaly log only. -/
theorem reportAnomaly_eq (w : W) (kind : Anomaly) (message : String) (c : Comm P) :
    ∃ log, c.reportAnomaly port w kind message = { c with anomalyLog := log } :=
  ⟨_, rfl⟩

/-- A write touches the anomaly log only. -/
theorem writeBytes_eq (context : String) (buffer : List UInt8) (c : Comm P) (w : W) :
    ∃ log, (c.writeBytes port context buffer w).2.1 = { c with anomalyLog := log } := by
  unfold writeBytes
  split
  · dsimp only
    split
    · exact ⟨c.anomalyLog, rfl⟩
    · split
      · split <;> exact reportAnomaly_eq port _ _ _ c
      · exact reportAnomaly_eq port _ _ _ c
  · exact ⟨c.anomalyLog, rfl⟩

/-- A write reports success exactly when the port took the frame whole. -/
theorem writeBytes_ok (context : String) (buffer : List UInt8) (c : Comm P) (w : W) :
    (c.writeBytes port context buffer w).1 = true ↔
      c.portOpen = true ∧ (port.write buffer w).1 = (buffer.length : Int) := by
  unfold writeBytes
  by_cases hopen : c.portOpen = true
  · simp only [hopen, if_true, true_and]
    split
    · next hwhole => simp [hwhole]
    · next hpart =>
      simp only [hpart, iff_false]
      split
      · split <;> simp
      · simp
  · simp [hopen]

/-- The world after a write on an open port. -/
theorem world_writeBytes (context : String) (buffer : List UInt8) {c : Comm P}
    (hport : c.portOpen = true) (w : W) :
    (c.writeBytes port context buffer w).2.2 = (port.write buffer w).2 := by
  unfold writeBytes
  rw [if_pos hport]
  dsimp only
  split
  · rfl
  · split
    · split <;> rfl
    · rfl

end frame

end Comm

end LibPpuc
