import LibPpuc.Comm.State

/-! # Configuring a Board

  `SendConfigEvent` sends one configuration value to one board, up to three
  times, and waits each time for the ack that `ReceiveConfigAck` reads.

  Beside what the code returns, both functions hand out the traffic they
  cause and see: each write with the port's answer, and each ack frame whose
  CRC is right, expected or not.
-/

namespace LibPpuc

/-- `RS485_COMM_CONFIG_ACK_TIMEOUT_US`. -/
def RS485_COMM_CONFIG_ACK_TIMEOUT_US : Nat := 50000

/-- What identifies a config frame, and is echoed by its ack. -/
structure ConfigTuple where
  board : UInt8
  topic : UInt8
  index : UInt8
  key : UInt8
  deriving DecidableEq, Repr

/-- The tuple of an event. -/
def ConfigEvent.tuple (event : ConfigEvent) : ConfigTuple :=
  ⟨event.boardId, event.topic, event.index, event.key⟩

/-- Bytes 5 to 8 of a frame. -/
def tupleOf (buffer : List UInt8) : ConfigTuple :=
  ⟨buffer.getD 5 0, buffer.getD 6 0, buffer.getD 7 0, buffer.getD 8 0⟩

/-- The status byte of an ack frame. -/
def ackStatus (buffer : List UInt8) : UInt8 := buffer.getD 9 0

/-- One event on the wire, as the host sees it. -/
inductive Traffic where
  /-- A config frame was handed to the port, which took `written` bytes. -/
  | wrote (buffer : List UInt8) (written : Int)
  /-- An ack frame with a correct CRC was read. -/
  | ack (frame : List UInt8)
  deriving DecidableEq, Repr

/-- What `ReceiveConfigAck` makes of a complete ack frame. -/
inductive AckVerdict where
  | corrupt
  | unexpected
  | rejected
  | accepted
  deriving DecidableEq, Repr

/-- How a call of `SendConfigEvent` ends. -/
inductive SendOutcome where
  | noPort
  | abortedEarly
  | skipped
  | writeFailed
  | acknowledged
  | unacknowledged
  deriving DecidableEq, Repr

/-- The result `SendConfigEvent` returns. -/
def SendOutcome.returned : SendOutcome → Bool
  | .skipped | .acknowledged => true
  | .noPort | .abortedEarly | .writeFailed | .unacknowledged => false

namespace Comm

variable {P : Protocol} {W : Type}

/-- `HadConfigurationFailure`. -/
def hadConfigurationFailure (c : Comm P) : Bool := c.configFailed

/-- `ShouldAbortConfigurationEarly`. -/
def shouldAbortConfigurationEarly (c : Comm P) : Bool :=
  c.configEarlyAbortBoard != P.kNoBoard ||
    (decide (c.presentBoards = ∅) &&
      decide (RS485_COMM_INITIAL_CONFIG_ACK_MISS_THRESHOLD ≤ c.initialConfigAckMissStreak))

/-! ### Reading the Ack -/

/-- The CRC bytes of an ack frame. -/
def ackReceivedCrc (P : Protocol) (buffer : List UInt8) : UInt16 :=
  ((buffer.getD (P.kConfigAckFrameBytes - 2) 0).toUInt16 <<< 8) |||
    (buffer.getD (P.kConfigAckFrameBytes - 1) 0).toUInt16

def ackCalculatedCrc (P : Protocol) (buffer : List UInt8) : UInt16 :=
  P.crc16Ccitt (buffer.take (P.kHeaderBytes + P.kConfigAckPayloadBytes))

/-- The checks on a complete ack frame, in order. -/
def judgeAck (P : Protocol) (awaited : ConfigTuple) (buffer : List UInt8) : AckVerdict :=
  if ackReceivedCrc P buffer ≠ ackCalculatedCrc P buffer then .corrupt
  else if tupleOf buffer ≠ awaited then .unexpected
  else if ackStatus buffer ≠ P.kConfigAckAccepted then .rejected
  else .accepted

/-- The payload of a frame that is drained before the reader goes on; for
    other types it gives up. -/
def drainedPayloadBytes (P : Protocol) : FrameType → Option Nat
  | .setup => some P.kSetupPayloadBytes
  | .mapping => some P.kMappingPayloadBytes
  | .config => some P.kConfigPayloadBytes
  | .restart | .reset | .heartbeat | .error => some 0
  | _ => none

/-- What `ReceiveConfigAck` hands back. -/
structure AckRead (P : Protocol) (W : Type) where
  accepted : Bool
  traffic : List Traffic
  comm : Comm P
  world : W

/-- The frame that was just read comes first. -/
def AckRead.after (r : AckRead P W) (frame : List UInt8) : AckRead P W :=
  { r with traffic := .ack frame :: r.traffic }

/-- The loop of `ReceiveConfigAck`, with the rounds left before the deadline. -/
def awaitConfigAck (port : SerialPort W) (awaited : ConfigTuple) :
    Nat → Comm P → W → AckRead P W
  | 0, c, w =>
    ⟨false, [], { c with configAckTimeoutCount := c.configAckTimeoutCount + 1 }, w⟩
  | rounds + 1, c, w =>
    match port.inputWaiting w with
    | (waiting, w) =>
      if waiting ≤ 0 then awaitConfigAck port awaited rounds c w
      else
        match port.readExact 1 w with
        | (none, w) => awaitConfigAck port awaited rounds c w
        | (some sync, w) =>
          if sync.getD 0 0 ≠ P.kSyncByte then awaitConfigAck port awaited rounds c w
          else
            match port.readExact (P.kHeaderBytes - 1) w with
            | (none, w) => awaitConfigAck port awaited rounds c w
            | (some header, w) =>
              if P.extractType (header.getD 0 0) ≠ .configAck then
                -- stale bytes of another frame: drain it before the next round
                match drainedPayloadBytes P (P.extractType (header.getD 0 0)) with
                | none => ⟨false, [], c, w⟩
                | some payloadBytes =>
                  if P.kHeaderBytes + P.kConfigPayloadBytes + P.kCrcBytes <
                      payloadBytes + P.kCrcBytes then ⟨false, [], c, w⟩
                  else
                    awaitConfigAck port awaited rounds c
                      (port.readExact (payloadBytes + P.kCrcBytes) w).2
              else
                match port.readExact (P.kConfigAckPayloadBytes + P.kCrcBytes) w with
                | (none, w) => awaitConfigAck port awaited rounds c w
                | (some body, w) =>
                  let buffer := sync ++ header ++ body
                  match judgeAck P awaited buffer with
                  | .corrupt =>
                    awaitConfigAck port awaited rounds
                      (c.reportAnomaly port w .frameCrc
                        s!"Invalid V2 config ack CRC: got={hex4 (ackReceivedCrc P buffer)} expected={hex4 (ackCalculatedCrc P buffer)}") w
                  | .unexpected =>
                    (awaitConfigAck port awaited rounds
                      (c.reportAnomaly port w .configAck
                        s!"Unexpected V2 config ack: board={(tupleOf buffer).board} topic={(tupleOf buffer).topic} index={(tupleOf buffer).index} key={(tupleOf buffer).key}") w).after
                      buffer
                  | .rejected =>
                    ⟨false, [.ack buffer],
                      c.reportAnomaly port w .configAck
                        s!"Rejected V2 config ack: board={awaited.board} topic={awaited.topic} index={awaited.index} key={awaited.key} status={ackStatus buffer}", w⟩
                  | .accepted => ⟨true, [.ack buffer], c, w⟩

/-- `ReceiveConfigAck`. -/
def receiveConfigAck (port : SerialPort W) (awaited : ConfigTuple) (c : Comm P) (w : W) :
    AckRead P W :=
  if c.portOpen then
    awaitConfigAck port awaited (port.window RS485_COMM_CONFIG_ACK_TIMEOUT_US w) c w
  else ⟨false, [], c, w⟩

/-! ### Sending an Event -/

/-- What a call of `SendConfigEvent` hands back. -/
structure SentConfig (P : Protocol) (W : Type) where
  outcome : SendOutcome
  traffic : List Traffic
  comm : Comm P
  world : W

/-- The traffic of an attempt comes before that of the next ones. -/
def SentConfig.after (r : SentConfig P W) (traffic : List Traffic) : SentConfig P W :=
  { r with traffic := traffic ++ r.traffic }

/-- A board has acknowledged a config frame. -/
def noteConfigAck (board : UInt8) (c : Comm P) : Comm P :=
  let inTable := board.toNat < RS485_COMM_MAX_BOARDS
  { c with
    initialConfigAckMissStreak := 0
    initialConfigAckMissesByBoard :=
      if inTable then Function.update c.initialConfigAckMissesByBoard board 0
      else c.initialConfigAckMissesByBoard
    presentBoards := insert board c.presentBoards
    activeBoards := if inTable then insert board c.activeBoards else c.activeBoards }

/-- The miss counters after all attempts of a frame were in vain. -/
def countConfigMiss (board : UInt8) (c : Comm P) : Comm P :=
  let c :=
    if c.presentBoards = ∅ ∧
        c.initialConfigAckMissStreak < RS485_COMM_INITIAL_CONFIG_ACK_MISS_THRESHOLD then
      { c with initialConfigAckMissStreak := c.initialConfigAckMissStreak + 1 }
    else c
  if board.toNat < RS485_COMM_MAX_BOARDS ∧
      c.initialConfigAckMissesByBoard board < RS485_COMM_INITIAL_CONFIG_ACK_MISS_THRESHOLD then
    let misses := c.initialConfigAckMissesByBoard board + 1
    { c with
      initialConfigAckMissesByBoard := Function.update c.initialConfigAckMissesByBoard board misses
      configEarlyAbortBoard :=
        if board ∉ c.presentBoards ∧ RS485_COMM_INITIAL_CONFIG_ACK_MISS_THRESHOLD ≤ misses then
          board
        else c.configEarlyAbortBoard }
  else c

/-- The end of `SendConfigEvent` when all attempts were in vain. -/
def noteConfigMiss (port : SerialPort W) (w : W) (frame : ConfigTuple) (c : Comm P) : Comm P :=
  let c := c.reportAnomaly port w .configAck
    s!"Missing V2 config ack: board={frame.board} topic={frame.topic} index={frame.index} key={frame.key}"
  let c := ({ c with configFailed := true } : Comm P).countConfigMiss frame.board
  let c := { c with configAckFailedBoards := insert frame.board c.configAckFailedBoards }
  if !c.configEarlyAbortLogged && c.shouldAbortConfigurationEarly then
    { c with configEarlyAbortLogged := true }
  else c

/-- A miss touches the log, the counters and the flags of the configuration. -/
theorem noteConfigMiss_eq (port : SerialPort W) (w : W) (frame : ConfigTuple) (c : Comm P) :
    ∃ log streak misses abortBoard logged, c.noteConfigMiss port w frame =
      { c with
        anomalyLog := log
        configFailed := true
        configEarlyAbortLogged := logged
        initialConfigAckMissStreak := streak
        initialConfigAckMissesByBoard := misses
        configEarlyAbortBoard := abortBoard
        configAckFailedBoards := insert frame.board c.configAckFailedBoards } := by
  have hcount : ∀ (board : UInt8) (c : Comm P), ∃ streak misses abortBoard,
      c.countConfigMiss board =
        { c with
          initialConfigAckMissStreak := streak
          initialConfigAckMissesByBoard := misses
          configEarlyAbortBoard := abortBoard } := by
    intro board c
    unfold countConfigMiss
    dsimp only
    split <;> split <;> exact ⟨_, _, _, rfl⟩
  unfold noteConfigMiss
  dsimp only
  obtain ⟨streak, misses, abortBoard, heq⟩ := hcount frame.board
    { c.reportAnomaly port w .configAck
        s!"Missing V2 config ack: board={frame.board} topic={frame.topic} index={frame.index} key={frame.key}" with
      configFailed := true }
  rw [heq]
  split
  · exact ⟨_, streak, misses, abortBoard, true, rfl⟩
  · exact ⟨_, streak, misses, abortBoard, c.configEarlyAbortLogged, rfl⟩

/-- The attempts of `SendConfigEvent`, with the number of attempts left. -/
def configAttempts (port : SerialPort W) (buffer : List UInt8) :
    Nat → Comm P → W → SentConfig P W
  | 0, c, w => ⟨.unacknowledged, [], c.noteConfigMiss port w (tupleOf buffer), w⟩
  | left + 1, c, w =>
    -- a repeat of a frame the board never acknowledged
    let c :=
      if left + 1 < RS485_COMM_CONFIG_ACK_RETRIES then
        { c with configAckRetryCount := c.configAckRetryCount + 1 }
      else c
    let wrote := Traffic.wrote buffer (port.write buffer w).1
    match c.writeBytes port "ConfigFrame" buffer w with
    | (false, c, w) => ⟨.writeFailed, [wrote], c, w⟩
    | (true, c, w) =>
      let r := c.receiveConfigAck port (tupleOf buffer) w
      if r.accepted then
        ⟨.acknowledged, wrote :: r.traffic, r.comm.noteConfigAck (tupleOf buffer).board, r.world⟩
      else
        (configAttempts port buffer left r.comm
          (port.sleepUs 2000 (port.flushInput r.world))).after (wrote :: r.traffic)

/-- The frame of an event in the current session. -/
def configFrame (c : Comm P) (event : ConfigEvent) : List UInt8 :=
  P.buildConfigFrame P.kNoBoard c.sequence c.epoch event.boardId event.topic event.index event.key
    event.value

/-- `SendConfigEvent`. -/
def sendConfigEvent (port : SerialPort W) (event : ConfigEvent) (c : Comm P) (w : W) :
    SentConfig P W :=
  if c.portOpen = false then ⟨.noPort, [], c, w⟩
  else if c.shouldAbortConfigurationEarly then ⟨.abortedEarly, [], c, w⟩
  else
    let w := port.sleepUs 5000 w
    let buffer := c.configFrame event
    let c := { c with sequence := c.sequence + 1 }
    if (tupleOf buffer).board ∈ c.skippedBoards then ⟨.skipped, [], c, w⟩
    else c.configAttempts port buffer RS485_COMM_CONFIG_ACK_RETRIES w

/-! ### What a Call Can Do -/

/-- What the reader may do: log, count a timeout, and read acks, the last of
    which is the awaited one if it succeeds. -/
structure ReadsAcks (awaited : ConfigTuple) (c : Comm P) (r : AckRead P W) : Prop where
  comm : ∃ log timeouts,
    r.comm = { c with anomalyLog := log, configAckTimeoutCount := timeouts }
  acks : ∀ t ∈ r.traffic, ∃ frame, t = .ack frame
  accepted : r.accepted = true → ∃ earlier frame, r.traffic = earlier ++ [.ack frame] ∧
    tupleOf frame = awaited ∧ ackStatus frame = P.kConfigAckAccepted

section reading

variable {port : SerialPort W} {awaited : ConfigTuple} {c : Comm P}

/-- A failed read without traffic. -/
theorem ReadsAcks.gaveUp (w : W) : ReadsAcks awaited c ⟨false, [], c, w⟩ :=
  ⟨⟨c.anomalyLog, c.configAckTimeoutCount, rfl⟩, by simp, by simp⟩

/-- A report before the rest of the loop changes the log only. -/
theorem ReadsAcks.ofReport {r : AckRead P W} {w : W} {kind : Anomaly} {message : String}
    (h : ReadsAcks awaited (c.reportAnomaly port w kind message) r) : ReadsAcks awaited c r := by
  obtain ⟨log, timeouts, heq⟩ := h.comm
  exact ⟨⟨log, timeouts, heq⟩, h.acks, h.accepted⟩

theorem ReadsAcks.after {r : AckRead P W} (h : ReadsAcks awaited c r) (frame : List UInt8) :
    ReadsAcks awaited c (r.after frame) := by
  refine ⟨h.comm, ?_, ?_⟩
  · intro t ht
    rcases List.mem_cons.mp ht with rfl | hlater
    · exact ⟨frame, rfl⟩
    · exact h.acks t hlater
  · intro haccepted
    obtain ⟨earlier, last, htraffic, hlast⟩ := h.accepted haccepted
    refine ⟨.ack frame :: earlier, last, ?_, hlast⟩
    show Traffic.ack frame :: r.traffic = _
    rw [htraffic]
    rfl

theorem judgeAck_accepted {buffer : List UInt8} (h : judgeAck P awaited buffer = .accepted) :
    tupleOf buffer = awaited ∧ ackStatus buffer = P.kConfigAckAccepted := by
  unfold judgeAck at h
  split at h
  · exact nomatch h
  · split at h
    · exact nomatch h
    · next htuple =>
      split at h
      · exact nomatch h
      · next hstatus => exact ⟨not_not.mp htuple, not_not.mp hstatus⟩

theorem awaitConfigAck_reads (port : SerialPort W) (awaited : ConfigTuple) (rounds : Nat)
    (c : Comm P) (w : W) : ReadsAcks awaited c (c.awaitConfigAck port awaited rounds w) := by
  induction rounds generalizing c w with
  | zero => exact ⟨⟨c.anomalyLog, c.configAckTimeoutCount + 1, rfl⟩, by simp [awaitConfigAck],
      by simp [awaitConfigAck]⟩
  | succ rounds ih =>
    unfold awaitConfigAck
    dsimp only
    split
    · exact ih c _
    split
    · exact ih c _
    split
    · exact ih c _
    split
    · exact ih c _
    split
    · -- another frame type: drained, or the end
      split
      · exact ReadsAcks.gaveUp _
      · split
        · exact ReadsAcks.gaveUp _
        · exact ih c _
    split
    · exact ih c _
    split
    · exact (ih _ _).ofReport
    · exact ((ih _ _).ofReport).after _
    · exact ⟨⟨_, c.configAckTimeoutCount, rfl⟩, by simp, by simp⟩
    · next haccepted =>
      exact ⟨⟨c.anomalyLog, c.configAckTimeoutCount, rfl⟩, by simp,
        fun _ => ⟨[], _, rfl, judgeAck_accepted haccepted⟩⟩

theorem receiveConfigAck_reads (port : SerialPort W) (awaited : ConfigTuple) (c : Comm P) (w : W) :
    ReadsAcks awaited c (c.receiveConfigAck port awaited w) := by
  unfold receiveConfigAck
  split
  · exact awaitConfigAck_reads port awaited _ c w
  · exact ReadsAcks.gaveUp w

end reading

/-- The session while a frame is being sent: its sequence number is used up,
    the log and two counters may have changed. -/
def attempting (log : AnomalyLog) (retries timeouts : UInt32) (c : Comm P) : Comm P :=
  { c with
    sequence := c.sequence + 1
    anomalyLog := log
    configAckRetryCount := retries
    configAckTimeoutCount := timeouts }

/-- The traffic of a call whose writes were all whole. -/
def WholeTraffic (frame : List UInt8) (traffic : List Traffic) : Prop :=
  ∀ t ∈ traffic, t = .wrote frame frame.length ∨ ∃ ack, t = .ack ack

/-- A call gets past its first two checks. -/
def MaySend (c : Comm P) : Prop :=
  c.portOpen = true ∧ c.shouldAbortConfigurationEarly = false

/-- Everything a call of `SendConfigEvent` can do. -/
inductive SendEffect (port : SerialPort W) (event : ConfigEvent) (c : Comm P) :
    SentConfig P W → Prop where
  | noPort {w : W} (hport : c.portOpen = false) : SendEffect port event c ⟨.noPort, [], c, w⟩
  | abortedEarly {w : W} (habort : c.shouldAbortConfigurationEarly = true) :
    SendEffect port event c ⟨.abortedEarly, [], c, w⟩
  | skipped {w : W} (hready : c.MaySend)
    (hboard : (tupleOf (c.configFrame event)).board ∈ c.skippedBoards) :
    SendEffect port event c ⟨.skipped, [], { c with sequence := c.sequence + 1 }, w⟩
  | writeFailed {w : W} {earlier : List Traffic} {written : Int} {log : AnomalyLog}
    {retries timeouts : UInt32} (hready : c.MaySend)
    (hboard : (tupleOf (c.configFrame event)).board ∉ c.skippedBoards)
    (hearlier : WholeTraffic (c.configFrame event) earlier)
    (hpart : written ≠ (c.configFrame event).length) :
    SendEffect port event c
      ⟨.writeFailed, earlier ++ [.wrote (c.configFrame event) written],
        c.attempting log retries timeouts, w⟩
  | acknowledged {w : W} {earlier : List Traffic} {ack : List UInt8} {log : AnomalyLog}
    {retries timeouts : UInt32} (hready : c.MaySend)
    (hboard : (tupleOf (c.configFrame event)).board ∉ c.skippedBoards)
    (hearlier : WholeTraffic (c.configFrame event) earlier)
    (htuple : tupleOf ack = tupleOf (c.configFrame event))
    (hstatus : ackStatus ack = P.kConfigAckAccepted) :
    SendEffect port event c
      ⟨.acknowledged, earlier ++ [.ack ack],
        (c.attempting log retries timeouts).noteConfigAck (tupleOf (c.configFrame event)).board, w⟩
  | unacknowledged {w : W} {traffic : List Traffic} {log : AnomalyLog}
    {retries timeouts : UInt32} (hready : c.MaySend)
    (hboard : (tupleOf (c.configFrame event)).board ∉ c.skippedBoards)
    (htraffic : WholeTraffic (c.configFrame event) traffic) :
    SendEffect port event c
      ⟨.unacknowledged, traffic,
        (c.attempting log retries timeouts).noteConfigMiss port w (tupleOf (c.configFrame event)),
        w⟩

section sending

variable {port : SerialPort W} {event : ConfigEvent} {c : Comm P}

theorem wholeTraffic_append {frame : List UInt8} {t u : List Traffic}
    (ht : WholeTraffic frame t) (hu : WholeTraffic frame u) : WholeTraffic frame (t ++ u) := by
  intro x hx
  rcases List.mem_append.mp hx with h | h
  · exact ht x h
  · exact hu x h

/-- A whole write, and the acks that were read after it. -/
theorem wholeTraffic_cons {frame : List UInt8} {acks : List Traffic}
    (hacks : ∀ t ∈ acks, ∃ ack, t = .ack ack) :
    WholeTraffic frame (.wrote frame frame.length :: acks) := by
  intro x hx
  rcases List.mem_cons.mp hx with rfl | h
  · exact Or.inl rfl
  · exact Or.inr (hacks x h)

/-- More whole traffic before an effect. -/
theorem SendEffect.after {r : SentConfig P W} (h : SendEffect port event c r)
    (hsent : r.outcome ≠ .noPort ∧ r.outcome ≠ .abortedEarly ∧ r.outcome ≠ .skipped)
    {earlier : List Traffic} (hearlier : WholeTraffic (c.configFrame event) earlier) :
    SendEffect port event c (r.after earlier) := by
  cases h with
  | noPort => exact absurd rfl hsent.1
  | abortedEarly => exact absurd rfl hsent.2.1
  | skipped => exact absurd rfl hsent.2.2
  | writeFailed hready hboard hrest hpart =>
    unfold SentConfig.after
    dsimp only
    rw [← List.append_assoc]
    exact .writeFailed hready hboard (wholeTraffic_append hearlier hrest) hpart
  | acknowledged hready hboard hrest htuple hstatus =>
    unfold SentConfig.after
    dsimp only
    rw [← List.append_assoc]
    exact .acknowledged hready hboard (wholeTraffic_append hearlier hrest) htuple hstatus
  | unacknowledged hready hboard hrest =>
    exact .unacknowledged hready hboard (wholeTraffic_append hearlier hrest)

theorem configAttempts_effect (port : SerialPort W) (event : ConfigEvent) (c : Comm P)
    (hready : c.MaySend) (hboard : (tupleOf (c.configFrame event)).board ∉ c.skippedBoards)
    (left : Nat) (log : AnomalyLog) (retries timeouts : UInt32) (w : W) :
    let r := (c.attempting log retries timeouts).configAttempts port (c.configFrame event) left w
    SendEffect port event c r ∧
      r.outcome ≠ .noPort ∧ r.outcome ≠ .abortedEarly ∧ r.outcome ≠ .skipped := by
  induction left generalizing log retries timeouts w with
  | zero =>
    exact ⟨.unacknowledged hready hboard (by simp [WholeTraffic]), by simp [configAttempts],
      by simp [configAttempts], by simp [configAttempts]⟩
  | succ left ih =>
    unfold configAttempts
    dsimp only
    -- the retry counter may have been increased
    obtain ⟨retries', hretries⟩ : ∃ retries',
        (if left + 1 < RS485_COMM_CONFIG_ACK_RETRIES then
          { c.attempting log retries timeouts with
            configAckRetryCount := (c.attempting log retries timeouts).configAckRetryCount + 1 }
        else c.attempting log retries timeouts) = c.attempting log retries' timeouts := by
      split
      · exact ⟨retries + 1, rfl⟩
      · exact ⟨retries, rfl⟩
    rw [hretries]
    have hok := writeBytes_ok port "ConfigFrame" (c.configFrame event)
      (c.attempting log retries' timeouts) w
    obtain ⟨log', hwritten⟩ := writeBytes_eq port "ConfigFrame" (c.configFrame event)
      (c.attempting log retries' timeouts) w
    have hopen : (c.attempting log retries' timeouts).portOpen = true := hready.1
    rw [hopen] at hok
    generalize (c.attempting log retries' timeouts).writeBytes port "ConfigFrame"
      (c.configFrame event) w = written at hok hwritten
    obtain ⟨ok, c', w'⟩ := written
    dsimp only at hok hwritten
    obtain rfl : c' = c.attempting log' retries' timeouts := hwritten
    cases ok with
    | false =>
      have hpart : (port.write (c.configFrame event) w).1 ≠ (c.configFrame event).length := by
        intro hwhole
        exact nomatch hok.mpr ⟨rfl, hwhole⟩
      refine ⟨?_, by simp, by simp, by simp⟩
      have hnone : WholeTraffic (c.configFrame event) [] := fun t ht => nomatch ht
      exact .writeFailed hready hboard hnone hpart
    | true =>
      have hwhole := (hok.mp rfl).2
      have hreads := receiveConfigAck_reads port (tupleOf (c.configFrame event))
        (c.attempting log' retries' timeouts) w'
      dsimp only
      generalize (c.attempting log' retries' timeouts).receiveConfigAck
        port (tupleOf (c.configFrame event)) w' = r at hreads
      obtain ⟨log'', timeouts', hcomm⟩ := hreads.comm
      have hcomm' : r.comm = c.attempting log'' retries' timeouts' := hcomm
      rw [hwhole, hcomm']
      split
      · next haccepted =>
        obtain ⟨earlier, ack, htraffic, htuple, hstatus⟩ := hreads.accepted haccepted
        refine ⟨?_, by simp, by simp, by simp⟩
        rw [htraffic, ← List.cons_append]
        refine .acknowledged hready hboard (wholeTraffic_cons ?_) htuple hstatus
        intro t ht
        exact hreads.acks t (htraffic ▸ List.mem_append_left _ ht)
      · obtain ⟨heffect, hsent⟩ := ih log'' retries' timeouts' _
        exact ⟨heffect.after hsent (wholeTraffic_cons hreads.acks), hsent⟩

/-- **Inversion lemma** of `SendConfigEvent`. -/
theorem sendConfigEvent_effect (port : SerialPort W) (event : ConfigEvent) (c : Comm P) (w : W) :
    SendEffect port event c (c.sendConfigEvent port event w) := by
  unfold sendConfigEvent
  split
  · next hport => exact .noPort hport
  · next hport =>
    split
    · next habort => exact .abortedEarly habort
    · next habort =>
      have hready : c.MaySend := ⟨by simpa using hport, by simpa using habort⟩
      dsimp only
      split
      · next hboard => exact .skipped hready hboard
      · next hboard =>
        exact (configAttempts_effect port event c hready hboard _ c.anomalyLog
          c.configAckRetryCount c.configAckTimeoutCount _).1

/-- The members that a call of `SendConfigEvent` may change. -/
structure ConfigPart where
  sequence : UInt8
  anomalyLog : AnomalyLog
  configAckRetryCount : UInt32
  configAckTimeoutCount : UInt32
  presentBoards : Finset UInt8
  activeBoards : Finset UInt8
  configFailed : Bool
  configEarlyAbortLogged : Bool
  initialConfigAckMissStreak : Nat
  initialConfigAckMissesByBoard : UInt8 → Nat
  configEarlyAbortBoard : UInt8
  configAckFailedBoards : Finset UInt8

/-- The object with these members exchanged. -/
def withConfigPart (part : ConfigPart) (c : Comm P) : Comm P :=
  { c with
    sequence := part.sequence
    anomalyLog := part.anomalyLog
    configAckRetryCount := part.configAckRetryCount
    configAckTimeoutCount := part.configAckTimeoutCount
    presentBoards := part.presentBoards
    activeBoards := part.activeBoards
    configFailed := part.configFailed
    configEarlyAbortLogged := part.configEarlyAbortLogged
    initialConfigAckMissStreak := part.initialConfigAckMissStreak
    initialConfigAckMissesByBoard := part.initialConfigAckMissesByBoard
    configEarlyAbortBoard := part.configEarlyAbortBoard
    configAckFailedBoards := part.configAckFailedBoards }

/-- **Frame lemma** of `SendConfigEvent`: it changes no other member. -/
theorem sendConfigEvent_eq (port : SerialPort W) (event : ConfigEvent) (c : Comm P) (w : W) :
    ∃ part, (c.sendConfigEvent port event w).comm = c.withConfigPart part := by
  have heffect := sendConfigEvent_effect port event c w
  generalize c.sendConfigEvent port event w = r at heffect
  cases heffect with
  | noPort | abortedEarly =>
    exact ⟨⟨c.sequence, c.anomalyLog, c.configAckRetryCount, c.configAckTimeoutCount,
      c.presentBoards, c.activeBoards, c.configFailed, c.configEarlyAbortLogged,
      c.initialConfigAckMissStreak, c.initialConfigAckMissesByBoard, c.configEarlyAbortBoard,
      c.configAckFailedBoards⟩, rfl⟩
  | skipped | writeFailed | acknowledged =>
    exact ⟨⟨_, _, _, _, _, _, _, _, _, _, _, _⟩, rfl⟩
  | unacknowledged =>
    obtain ⟨log, streak, misses, abortBoard, logged, heq⟩ := noteConfigMiss_eq port _ _ _
    rw [heq]
    exact ⟨⟨_, _, _, _, _, _, _, _, _, _, _, _⟩, rfl⟩

end sending

end Comm

end LibPpuc
