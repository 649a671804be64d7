import LibPpuc.Serial
import Mathlib.Logic.Function.Basic
import Mathlib.Data.Vector.Basic

/-! # The Anomaly Log

  `ReportAnomaly` counts every unexpected condition and records it in a
  fixed ring, rate limited per kind: the first occurrence is recorded at
  once, repeats within `kRepeatInterval` are counted and folded into the
  next recorded entry.
-/

namespace LibPpuc

/-- Classes of unexpected condition, each rate limited on its own. -/
inductive Anomaly where
  | serialWrite
  | frameCrc
  | configAck
  | switchChainMiss
  | epochMismatch
  | boardStatus
  | queueOverflow
  | sessionResync
  deriving DecidableEq, Repr

/-- `AnomalyName`. -/
def Anomaly.name : Anomaly → String
  | .serialWrite => "serial write"
  | .frameCrc => "frame CRC"
  | .configAck => "config ack"
  | .switchChainMiss => "switch chain miss"
  | .epochMismatch => "epoch mismatch"
  | .boardStatus => "board status"
  | .queueOverflow => "output queue overflow"
  | .sessionResync => "session resync"

/-- `AnomalyState`: the counters of one kind. -/
structure AnomalyState where
  total : UInt32 := 0
  suppressed : UInt32 := 0
  lastRecord : Nat := 0
  everRecorded : Bool := false
  deriving DecidableEq, Repr

/-- `AnomalyLogEntry`. -/
structure AnomalyLogEntry where
  text : String := ""
  wallMs : Int := 0
  deriving DecidableEq, Repr

/-- `kAnomalyLogSize`. -/
def kAnomalyLogSize : Nat := 32

/-- `kRepeatInterval`, in milliseconds. -/
def kRepeatInterval : Nat := 5000

/-- The counters and the ring, with the next slot to write and the number of
    entries held. -/
structure AnomalyLog where
  anomalies : Anomaly → AnomalyState := fun _ => {}
  anomalyLog : Vector AnomalyLogEntry kAnomalyLogSize := Vector.replicate kAnomalyLogSize {}
  anomalyLogHead : Nat := 0
  anomalyLogCount : Nat := 0

namespace AnomalyLog

/-- The text of an entry: the message, the repeats folded into it, cut to the
    size of the entry's buffer. -/
def entryText (suppressed : UInt32) (message : String) : String :=
  let repeats :=
    if 0 < suppressed then
      s!" (+{suppressed} more in the last {kRepeatInterval / 1000}s)"
    else ""
  String.ofList ((String.ofList (message.toList.take 1023) ++ repeats).toList.take 175)

/-- `ReportAnomaly` at steady time `now`. -/
def reportAnomaly (log : AnomalyLog) (kind : Anomaly) (message : String) (now : Nat)
    (wallMs : Int) : AnomalyLog :=
  let state := { log.anomalies kind with total := (log.anomalies kind).total + 1 }
  if state.everRecorded && decide (now - state.lastRecord < kRepeatInterval) then
    { log with
      anomalies := Function.update log.anomalies kind
        { state with suppressed := state.suppressed + 1 } }
  else
    { anomalies := Function.update log.anomalies kind
        { state with suppressed := 0, lastRecord := now, everRecorded := true }
      anomalyLog := log.anomalyLog.setIfInBounds log.anomalyLogHead
        { text := entryText state.suppressed message, wallMs := wallMs }
      anomalyLogHead := (log.anomalyLogHead + 1) % kAnomalyLogSize
      anomalyLogCount :=
        if log.anomalyLogCount < kAnomalyLogSize then log.anomalyLogCount + 1
        else log.anomalyLogCount }

end AnomalyLog

/-! ### Number Formats of the Messages -/

/-- One hexadecimal digit, upper case. -/
def hexDigit (n : Nat) : Char :=
  if n < 10 then Char.ofNat (48 + n) else Char.ofNat (55 + n)

/-- `%02X`. -/
def hex2 (b : UInt8) : String :=
  String.ofList [hexDigit (b.toNat / 16), hexDigit (b.toNat % 16)]

/-- `%04X`. -/
def hex4 (n : UInt16) : String :=
  hex2 (n / 256).toUInt8 ++ hex2 n.toUInt8

end LibPpuc
