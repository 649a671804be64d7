import LibPpuc.Comm.Config

/-! # The Rounds of the Ack Reader

  What a round of `ReceiveConfigAck` reads, and whether it is the last one,
  depends on the input alone: the rest of the object only gets log entries
  and counts.  `ackRound` is one round as a function of the input, and
  `awaitConfigAck_succ` cuts the loop into rounds.
-/

namespace LibPpuc

/-- What a round has found. -/
inductive AckRound where
  /-- Nothing, a byte that is not the sync byte, part of a frame, or a frame
      that was drained. -/
  | again
  /-- A complete ack frame. -/
  | ack (buffer : List UInt8)
  /-- A frame that is not drained. -/
  | foreign
  deriving DecidableEq, Repr

/-- How one call of `ReceiveConfigAck` ends. -/
inductive WaitEnd where
  | accepted
  /-- The awaited frame was rejected, or a frame came that is not drained. -/
  | gaveUp
  /-- The time was over. -/
  | ranOut
  deriving DecidableEq, Repr

/-- What the end of a call adds to `m_configAckTimeoutCount`. -/
def WaitEnd.timeouts : WaitEnd → UInt32
  | .ranOut => 1
  | .accepted | .gaveUp => 0

section rounds

variable {W : Type} (P : Protocol) (port : SerialPort W)

/-- The rest of a round, after a header. -/
def ackRoundBody (sync header : List UInt8) (w : W) : AckRound × W :=
  if P.extractType (header.getD 0 0) ≠ .configAck then
    match Comm.drainedPayloadBytes P (P.extractType (header.getD 0 0)) with
    | none => (.foreign, w)
    | some payloadBytes =>
      if P.kHeaderBytes + P.kConfigPayloadBytes + P.kCrcBytes < payloadBytes + P.kCrcBytes then
        (.foreign, w)
      else (.again, (port.readExact (payloadBytes + P.kCrcBytes) w).2)
  else
    match port.readExact (P.kConfigAckPayloadBytes + P.kCrcBytes) w with
    | (none, w) => (.again, w)
    | (some body, w) => (.ack (sync ++ header ++ body), w)

/-- One round of `ReceiveConfigAck`. -/
def ackRound (w : W) : AckRound × W :=
  match port.inputWaiting w with
  | (waiting, w) =>
    if waiting ≤ 0 then (.again, w)
    else
      match port.readExact 1 w with
      | (none, w) => (.again, w)
      | (some sync, w) =>
        if sync.getD 0 0 ≠ P.kSyncByte then (.again, w)
        else
          match port.readExact (P.kHeaderBytes - 1) w with
          | (none, w) => (.again, w)
          | (some header, w) => ackRoundBody P port sync header w

/-- What the input makes of a wait for an ack, and the world at its end. -/
def configAckWait (awaited : ConfigTuple) : Nat → W → WaitEnd × W
  | 0, w => (.ranOut, w)
  | rounds + 1, w =>
    match ackRound P port w with
    | (.again, w) => configAckWait awaited rounds w
    | (.foreign, w) => (.gaveUp, w)
    | (.ack buffer, w) =>
      match Comm.judgeAck P awaited buffer with
      | .corrupt | .unexpected => configAckWait awaited rounds w
      | .rejected => (.gaveUp, w)
      | .accepted => (.accepted, w)

end rounds

namespace Comm

variable {P : Protocol} {W : Type}

/-- What `ReceiveConfigAck` does with a round's finding. -/
def afterAckRound (port : SerialPort W) (awaited : ConfigTuple) (rounds : Nat) (c : Comm P) :
    AckRound × W → AckRead P W
  | (.again, w) => awaitConfigAck port awaited rounds c w
  | (.foreign, w) => ⟨false, [], c, w⟩
  | (.ack buffer, w) =>
    match judgeAck P awaited buffer with
    | .corrupt =>
      awaitConfigAck port awaited rounds
        (c.reportAnomaly port w .frameCrc
          s!"Invalid V2 config ack CRC: got={hex4 (ackReceivedCrc P buffer)} expected={hex4 (ackCalculatedCrc P buffer)}") w
    | .unexpected =>
      (awaitConfigAck port awaited rounds
        (c.reportAnomaly port w .configAck
          s!"Unexpected V2 config ack: board={(tupleOf buffer).board} topic={(tupleOf buffer).topic} index={(tupleOf buffer).index} key={(tupleOf buffer).key}") w).after
        buffer
    | .rejected =>
      ⟨false, [.ack buffer],
        c.reportAnomaly port w .configAck
          s!"Rejected V2 config ack: board={awaited.board} topic={awaited.topic} index={awaited.index} key={awaited.key} status={ackStatus buffer}", w⟩
    | .accepted => ⟨true, [.ack buffer], c, w⟩

/-- **The loop, cut into rounds.** -/
theorem awaitConfigAck_succ (port : SerialPort W) (awaited : ConfigTuple) (rounds : Nat)
    (c : Comm P) (w : W) :
    awaitConfigAck port awaited (rounds + 1) c w =
      afterAckRound port awaited rounds c (ackRound P port w) := by
  unfold awaitConfigAck ackRound
  generalize port.inputWaiting w = input
  obtain ⟨waiting, w₁⟩ := input
  dsimp only
  by_cases hwaiting : waiting ≤ 0
  · rw [if_pos hwaiting, if_pos hwaiting]
    rfl
  rw [if_neg hwaiting, if_neg hwaiting]
  generalize port.readExact 1 w₁ = first
  obtain ⟨first, w₂⟩ := first
  cases first with
  | none => rfl
  | some sync =>
    dsimp only
    by_cases hsync : sync.getD 0 0 ≠ P.kSyncByte
    · rw [if_pos hsync, if_pos hsync]
      rfl
    rw [if_neg hsync, if_neg hsync]
    generalize port.readExact (P.kHeaderBytes - 1) w₂ = second
    obtain ⟨second, w₃⟩ := second
    cases second with
    | none => rfl
    | some header =>
      dsimp only
      unfold ackRoundBody
      by_cases htype : P.extractType (header.getD 0 0) ≠ .configAck
      · rw [if_pos htype, if_pos htype]
        cases drainedPayloadBytes P (P.extractType (header.getD 0 0)) with
        | none => rfl
        | some payloadBytes =>
          dsimp only
          split
          · rfl
          · rfl
      · rw [if_neg htype, if_neg htype]
        generalize port.readExact (P.kConfigAckPayloadBytes + P.kCrcBytes) w₃ = third
        obtain ⟨third, w₄⟩ := third
        cases third with
        | none => rfl
        | some body => rfl

/-- A wait ends as its input says; if the time runs out, that is counted. -/
theorem awaitConfigAck_wait (port : SerialPort W) (awaited : ConfigTuple) (rounds : Nat)
    (c : Comm P) (w : W) :
    ∃ log, (awaitConfigAck port awaited rounds c w).comm =
        { c with
          anomalyLog := log
          configAckTimeoutCount := c.configAckTimeoutCount +
            (configAckWait P port awaited rounds w).1.timeouts } ∧
      ((awaitConfigAck port awaited rounds c w).accepted = true ↔
        (configAckWait P port awaited rounds w).1 = .accepted) ∧
      (awaitConfigAck port awaited rounds c w).world =
        (configAckWait P port awaited rounds w).2 := by
  -- an end that is no timeout
  have hkept : ∀ (d : Comm P), d = { d with
      anomalyLog := d.anomalyLog, configAckTimeoutCount := d.configAckTimeoutCount + 0 } := by
    intro d
    rw [UInt32.add_zero]
  induction rounds generalizing c w with
  | zero => exact ⟨c.anomalyLog, rfl, by simp [awaitConfigAck, configAckWait], rfl⟩
  | succ rounds ih =>
    rw [awaitConfigAck_succ, configAckWait]
    generalize ackRound P port w = round
    obtain ⟨found, w₁⟩ := round
    cases found with
    | again => exact ih c w₁
    | foreign => exact ⟨c.anomalyLog, hkept c, by simp [afterAckRound], rfl⟩
    | ack buffer =>
      unfold afterAckRound
      dsimp only
      cases judgeAck P awaited buffer with
      | corrupt =>
        obtain ⟨log, hcomm, hrest⟩ := ih (c.reportAnomaly port w₁ .frameCrc _) w₁
        exact ⟨log, hcomm, hrest⟩
      | unexpected =>
        obtain ⟨log, hcomm, hrest⟩ := ih (c.reportAnomaly port w₁ .configAck _) w₁
        exact ⟨log, hcomm, hrest⟩
      | rejected => exact ⟨_, hkept (c.reportAnomaly port w₁ .configAck _), by simp, rfl⟩
      | accepted => exact ⟨c.anomalyLog, hkept c, by simp, rfl⟩

end Comm

end LibPpuc
