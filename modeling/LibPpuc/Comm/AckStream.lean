import LibPpuc.Comm.AckRound
import LibPpuc.Startup.Reference

/-! # The Ack Reader Stays Frame Aligned

  While boards are configured, stale bytes of earlier frames may lie before
  the ack that `ReceiveConfigAck` waits for.  It drains every frame that it
  has a size for, so that sync bytes inside of payloads are not seen.

  The input is a list of segments: bytes that are no sync byte, and a frame.
  A round takes one byte of a gap or one whole frame; a run of rounds ends
  right behind the first ack that accepts the awaited tuple.
-/

namespace LibPpuc

/-- The payload sizes of the frames that are on the bus while boards are
    configured. -/
def configPhasePayload (P : Protocol) : FrameType → Option Nat
  | .setup => some P.kSetupPayloadBytes
  | .mapping => some P.kMappingPayloadBytes
  | .config => some P.kConfigPayloadBytes
  | .configAck => some P.kConfigAckPayloadBytes
  | .restart | .reset | .heartbeat | .error => some 0
  | _ => none

/-- The header has a type byte, and the payloads fit the buffer they are
    drained to. -/
structure Protocol.DrainsConfigPhase (P : Protocol) : Prop where
  header : 2 ≤ P.kHeaderBytes
  setup : P.kSetupPayloadBytes ≤ P.kHeaderBytes + P.kConfigPayloadBytes
  mapping : P.kMappingPayloadBytes ≤ P.kHeaderBytes + P.kConfigPayloadBytes

/-- Some bytes, and a frame behind them. -/
structure Segment where
  gap : List UInt8
  frame : List UInt8
  deriving DecidableEq, Repr

namespace Segment

def bytes (s : Segment) : List UInt8 := s.gap ++ s.frame

variable (P : Protocol) (s : Segment)

/-- The type of the frame. -/
def frameType : FrameType := P.extractType (s.frame.getD 1 0)

/-- There is no sync byte in the gap, and the frame is one of the
    configuration phase, with any payload and CRC. -/
structure WellFormed : Prop where
  gap : P.kSyncByte ∉ s.gap
  sync : s.frame.head? = some P.kSyncByte
  size : ∃ payloadBytes, configPhasePayload P (s.frameType P) = some payloadBytes ∧
    s.frame.length = P.kHeaderBytes + payloadBytes + P.kCrcBytes

variable (awaited : ConfigTuple)

/-- An ack for the tuple, with a correct CRC. -/
def Acks : Prop :=
  s.frameType P = .configAck ∧
    Comm.ackReceivedCrc P s.frame = Comm.ackCalculatedCrc P s.frame ∧
    tupleOf s.frame = awaited

/-- The ack accepts the tuple. -/
def Accepts : Prop := s.Acks P awaited ∧ ackStatus s.frame = P.kConfigAckAccepted

/-- The ack rejects the tuple. -/
def Rejects : Prop := s.Acks P awaited ∧ ackStatus s.frame ≠ P.kConfigAckAccepted

end Segment

/-- The rounds that segments take. -/
def roundsOf : List Segment → Nat
  | [] => 0
  | s :: later => s.gap.length + 1 + roundsOf later

/-- The bytes of segments. -/
def bytesOf (segments : List Segment) : List UInt8 := segments.flatMap Segment.bytes

/-! ### One Round -/

section round

variable {P : Protocol} {W : Type} {port : SerialPort W} {R : Nat → List UInt8 → W → Prop}
  {idle : Nat} {w : W}

/-- A poll that finds nothing. -/
theorem ackRound_quiet (hquiet : (port.inputWaiting w).1 ≤ 0) :
    ackRound P port w = (.again, (port.inputWaiting w).2) := by
  unfold ackRound
  dsimp only
  rw [if_pos hquiet]

/-- A byte of a gap. -/
theorem ackRound_gap (hfeed : port.Feed R) (hwaiting : 0 < (port.inputWaiting w).1)
    {b : UInt8} {bytes : List UInt8} (hb : b ≠ P.kSyncByte)
    (h : R idle (b :: bytes) (port.inputWaiting w).2) :
    ∃ w', ackRound P port w = (.again, w') ∧ R idle bytes w' := by
  have hfirst : R idle ([b] ++ bytes) (port.inputWaiting w).2 := h
  obtain ⟨w', hread, hrest⟩ := port.readExact_append_of_supplies (hfeed.supplies idle) rfl hfirst
  rw [List.length_singleton] at hread
  refine ⟨w', ?_, hrest⟩
  unfold ackRound
  dsimp only
  rw [if_neg (Int.not_le.mpr hwaiting), hread]
  dsimp only
  rw [if_pos (by simpa using hb)]

/-- What a round finds where a frame begins. -/
def Segment.found (P : Protocol) (s : Segment) : AckRound :=
  if s.frameType P = .configAck then .ack s.frame else .again

/-- The parts of a frame, as the reader takes them. -/
theorem Segment.WellFormed.parts (hP : P.DrainsConfigPhase) {s : Segment} (h : s.WellFormed P) :
    ∃ header body payloadBytes, s.frame = P.kSyncByte :: header ++ body ∧
      header.length = P.kHeaderBytes - 1 ∧ P.extractType (header.getD 0 0) = s.frameType P ∧
      configPhasePayload P (s.frameType P) = some payloadBytes ∧
      body.length = payloadBytes + P.kCrcBytes := by
  obtain ⟨payloadBytes, hpayload, hlength⟩ := h.size
  obtain ⟨later, hframe⟩ := List.head?_eq_some_iff.mp h.sync
  have hheader := hP.header
  rw [hframe, List.length_cons] at hlength
  refine ⟨later.take (P.kHeaderBytes - 1), later.drop (P.kHeaderBytes - 1), payloadBytes, ?_, ?_,
    ?_, hpayload, ?_⟩
  · rw [hframe, List.cons_append, List.take_append_drop]
  · rw [List.length_take]
    omega
  · unfold Segment.frameType
    rw [hframe, List.getD_cons_succ]
    congr 1
    cases later with
    | nil => rw [List.take_nil]
    | cons b later =>
      obtain ⟨n, hn⟩ : ∃ n, P.kHeaderBytes - 1 = n + 1 := ⟨P.kHeaderBytes - 2, by omega⟩
      rw [hn]
      rfl
  · rw [List.length_drop]
    omega

/-- What is drained of a frame fits the buffer. -/
theorem drained_fits (hP : P.DrainsConfigPhase) {type : FrameType} (htype : type ≠ .configAck)
    {payloadBytes : Nat} (h : configPhasePayload P type = some payloadBytes) :
    Comm.drainedPayloadBytes P type = some payloadBytes ∧
      payloadBytes + P.kCrcBytes ≤ P.kHeaderBytes + P.kConfigPayloadBytes + P.kCrcBytes := by
  have hsetup := hP.setup
  have hmapping := hP.mapping
  cases type with
  | setup =>
    obtain rfl := Option.some.inj h
    exact ⟨rfl, by omega⟩
  | mapping =>
    obtain rfl := Option.some.inj h
    exact ⟨rfl, by omega⟩
  | config =>
    obtain rfl := Option.some.inj h
    exact ⟨rfl, by omega⟩
  | configAck => contradiction
  | restart | reset | heartbeat | error =>
    obtain rfl := Option.some.inj h
    exact ⟨rfl, by omega⟩
  | _ => contradiction

/-- **A whole frame.** -/
theorem ackRound_frame (hP : P.DrainsConfigPhase) (hfeed : port.Feed R)
    (hwaiting : 0 < (port.inputWaiting w).1) {s : Segment} (hs : s.WellFormed P)
    {rest : List UInt8} (h : R idle (s.frame ++ rest) (port.inputWaiting w).2) :
    ∃ w', ackRound P port w = (s.found P, w') ∧ R idle rest w' := by
  have hsupplies := hfeed.supplies idle
  obtain ⟨header, body, payloadBytes, hframe, hheader, htype, hpayload, hbody⟩ := hs.parts hP
  -- the sync byte, the header, then the rest
  have hbytes : R idle ([P.kSyncByte] ++ (header ++ (body ++ rest))) (port.inputWaiting w).2 := by
    simpa [hframe] using h
  obtain ⟨w₁, hsync, hbytes⟩ := port.readExact_append_of_supplies hsupplies rfl hbytes
  obtain ⟨w₂, hreadHeader, hbytes⟩ := port.readExact_append_of_supplies hsupplies hheader hbytes
  obtain ⟨w₃, hreadBody, hrest⟩ := port.readExact_append_of_supplies hsupplies hbody hbytes
  rw [List.length_singleton] at hsync
  refine ⟨w₃, ?_, hrest⟩
  unfold ackRound
  dsimp only
  rw [if_neg (Int.not_le.mpr hwaiting), hsync]
  dsimp only
  rw [if_neg (by simp), hreadHeader]
  dsimp only
  unfold ackRoundBody Segment.found
  rw [htype]
  by_cases hack : s.frameType P = .configAck
  · rw [hack] at hpayload
    obtain rfl := Option.some.inj hpayload
    rw [if_neg (by simp [hack]), if_pos hack, hreadBody, hframe]
    rfl
  · obtain ⟨hdrained, hfits⟩ := drained_fits hP hack hpayload
    rw [if_pos hack, if_neg hack, hdrained]
    dsimp only
    rw [if_neg (Nat.not_lt.mpr hfits), hreadBody]

/-! ### A Wait -/

/-- What the reader makes of a frame that it has found. -/
theorem configAckWait_found (awaited : ConfigTuple) (rounds : Nat) {s : Segment} {w' : W}
    (hround : ackRound P port w = (s.found P, w')) (hno : ¬ s.Rejects P awaited) :
    (s.Accepts P awaited ∧ configAckWait P port awaited (rounds + 1) w = (.accepted, w')) ∨
      (¬ s.Accepts P awaited ∧
        configAckWait P port awaited (rounds + 1) w = configAckWait P port awaited rounds w') := by
  rw [configAckWait, hround]
  unfold Segment.found
  by_cases htype : s.frameType P = .configAck
  · rw [if_pos htype]
    dsimp only
    unfold Comm.judgeAck
    by_cases hcrc : Comm.ackReceivedCrc P s.frame = Comm.ackCalculatedCrc P s.frame
    · rw [if_neg (by simpa using hcrc)]
      by_cases htuple : tupleOf s.frame = awaited
      · rw [if_neg (by simpa using htuple)]
        have hacks : s.Acks P awaited := ⟨htype, hcrc, htuple⟩
        by_cases hstatus : ackStatus s.frame = P.kConfigAckAccepted
        · rw [if_neg (by simpa using hstatus)]
          exact Or.inl ⟨⟨hacks, hstatus⟩, rfl⟩
        · exact absurd ⟨hacks, hstatus⟩ hno
      · rw [if_pos htuple]
        exact Or.inr ⟨fun h => htuple h.1.2.2, rfl⟩
    · rw [if_pos hcrc]
      exact Or.inr ⟨fun h => hcrc h.1.2.1, rfl⟩
  · rw [if_neg htype]
    exact Or.inr ⟨fun h => htype h.1.1, rfl⟩

/-- The wait has ended right behind the first segment that accepts. -/
def EndsBehind (P : Protocol) (awaited : ConfigTuple) (R : Nat → List UInt8 → W → Prop)
    (segments : List Segment) (rest : List UInt8) (wait : WaitEnd × W) : Prop :=
  ∃ before first after, segments = before ++ first :: after ∧
    (∀ s ∈ before, ¬ s.Accepts P awaited) ∧ first.Accepts P awaited ∧
    wait.1 = .accepted ∧ ∃ idle, R idle (bytesOf after ++ rest) wait.2

theorem EndsBehind.cons {awaited : ConfigTuple} {segments : List Segment} {rest : List UInt8}
    {wait : WaitEnd × W} {s : Segment} (hs : ¬ s.Accepts P awaited)
    (h : EndsBehind P awaited R segments rest wait) :
    EndsBehind P awaited R (s :: segments) rest wait := by
  obtain ⟨before, first, after, rfl, hbefore, hends⟩ := h
  refine ⟨s :: before, first, after, rfl, ?_, hends⟩
  intro t ht
  rcases List.mem_cons.mp ht with rfl | hlater
  · exact hs
  · exact hbefore t hlater

/-- A gap says nothing about what its frame accepts. -/
theorem EndsBehind.of_gap {awaited : ConfigTuple} {segments : List Segment} {rest : List UInt8}
    {wait : WaitEnd × W} {gap frame : List UInt8} (gap' : List UInt8)
    (h : EndsBehind P awaited R (⟨gap, frame⟩ :: segments) rest wait) :
    EndsBehind P awaited R (⟨gap', frame⟩ :: segments) rest wait := by
  obtain ⟨before, first, after, heq, hbefore, hfirst, hends⟩ := h
  cases before with
  | nil =>
    obtain ⟨rfl, rfl⟩ := List.cons.inj heq
    exact ⟨[], ⟨gap', frame⟩, segments, rfl, hbefore, hfirst, hends⟩
  | cons s before =>
    obtain ⟨rfl, rfl⟩ := List.cons.inj heq
    have hs : ¬ (⟨gap, frame⟩ : Segment).Accepts P awaited := hbefore _ List.mem_cons_self
    have hlater : EndsBehind P awaited R (before ++ first :: after) rest wait :=
      ⟨before, first, after, rfl, fun t ht => hbefore t (List.mem_cons_of_mem _ ht), hfirst, hends⟩
    exact hlater.cons hs

/-- **A wait over segments.**  The induction is on the rounds; the first
    segment loses its gap byte by byte. -/
theorem configAckWait_endsBehind (hP : P.DrainsConfigPhase) (hfeed : port.Feed R)
    {awaited : ConfigTuple} {rest : List UInt8} {segments : List Segment}
    (hformed : ∀ s ∈ segments, s.WellFormed P) (hno : ∀ s ∈ segments, ¬ s.Rejects P awaited)
    (haccepts : ∃ s ∈ segments, s.Accepts P awaited) {rounds : Nat}
    (hrounds : roundsOf segments + idle ≤ rounds) (h : R idle (bytesOf segments ++ rest) w) :
    EndsBehind P awaited R segments rest (configAckWait P port awaited rounds w) := by
  induction rounds generalizing segments idle w with
  | zero =>
    cases segments with
    | nil =>
      obtain ⟨s, hs, -⟩ := haccepts
      exact absurd hs List.not_mem_nil
    | cons s later => simp [roundsOf] at hrounds
  | succ rounds ih =>
    cases segments with
    | nil =>
      obtain ⟨s, hs, -⟩ := haccepts
      exact absurd hs List.not_mem_nil
    | cons s later =>
      have hs := hformed s List.mem_cons_self
      have hsome : bytesOf (s :: later) ++ rest ≠ [] := by
        intro hnone
        have hsync := hs.sync
        simp [bytesOf, Segment.bytes] at hnone
        simp [hnone] at hsync
      obtain ⟨gap, frame⟩ := s
      have hcost : roundsOf (⟨gap, frame⟩ :: later) = gap.length + 1 + roundsOf later := rfl
      rcases hfeed.poll idle _ w h hsome with ⟨hwaiting, hbytes⟩ | ⟨hquiet, less, rfl, hbytes⟩
      · cases gap with
        | nil =>
          -- a whole frame
          have hframe : R idle (frame ++ (bytesOf later ++ rest)) (port.inputWaiting w).2 := by
            simpa [bytesOf, Segment.bytes] using hbytes
          obtain ⟨w', hround, hrest⟩ := ackRound_frame hP hfeed hwaiting hs hframe
          rcases configAckWait_found awaited rounds hround (hno _ List.mem_cons_self) with
            ⟨hyes, hwait⟩ | ⟨hnot, hwait⟩
          · rw [hwait]
            exact ⟨[], _, later, rfl, by simp, hyes, rfl, idle, hrest⟩
          · rw [hwait]
            apply EndsBehind.cons hnot
            apply ih _ _ _ _ hrest
            · exact fun t ht => hformed t (List.mem_cons_of_mem _ ht)
            · exact fun t ht => hno t (List.mem_cons_of_mem _ ht)
            · obtain ⟨t, ht, hyes⟩ := haccepts
              rcases List.mem_cons.mp ht with rfl | hlater
              · exact absurd hyes hnot
              · exact ⟨t, hlater, hyes⟩
            · simp only [hcost, List.length_nil] at hrounds
              omega
        | cons b gap =>
          -- a byte of the gap
          have hb : b ≠ P.kSyncByte := by
            rintro rfl
            exact hs.gap List.mem_cons_self
          obtain ⟨w', hround, hrest⟩ := ackRound_gap hfeed hwaiting hb hbytes
          rw [configAckWait, hround]
          obtain ⟨-, hformed⟩ := List.forall_mem_cons.mp hformed
          obtain ⟨hfirst, hno⟩ := List.forall_mem_cons.mp hno
          have hshorter : (⟨gap, frame⟩ : Segment).WellFormed P :=
            ⟨fun hmem => hs.gap (List.mem_cons_of_mem b hmem), hs.sync, hs.size⟩
          have hends : EndsBehind P awaited R (⟨gap, frame⟩ :: later) rest
              (configAckWait P port awaited rounds w') := by
            apply ih (List.forall_mem_cons.mpr ⟨hshorter, hformed⟩)
              (List.forall_mem_cons.mpr ⟨hfirst, hno⟩) _ _ hrest
            · obtain ⟨t, ht, hyes⟩ := haccepts
              rcases List.mem_cons.mp ht with rfl | hlater
              · exact ⟨_, List.mem_cons_self, hyes⟩
              · exact ⟨t, List.mem_cons_of_mem _ hlater, hyes⟩
            · have hcost' : roundsOf (⟨gap, frame⟩ :: later) =
                  gap.length + 1 + roundsOf later := rfl
              rw [List.length_cons] at hcost
              omega
          exact hends.of_gap (b :: gap)
      · rw [configAckWait, ackRound_quiet hquiet]
        apply ih hformed hno haccepts _ hbytes
        omega

end round

/-- **The ack behind any frames**: where the input is segments without a
    rejection, then an ack that accepts the tuple, and then anything, and the
    window has a round for each byte of a gap, for each frame and for each
    poll in vain, `ReceiveConfigAck` returns true and has read the input up to
    the end of the first ack that accepts the tuple. -/
theorem Comm.receiveConfigAck_aligned {P : Protocol} (hP : P.DrainsConfigPhase) {W : Type}
    {port : SerialPort W} {R : Nat → List UInt8 → W → Prop} (hfeed : port.Feed R)
    {awaited : ConfigTuple} {segments : List Segment} {ack : Segment} {rest : List UInt8}
    (hformed : ∀ s ∈ segments, s.WellFormed P) (hno : ∀ s ∈ segments, ¬ s.Rejects P awaited)
    (hack : ack.WellFormed P) (haccepts : ack.Accepts P awaited)
    {c : Comm P} (hport : c.portOpen = true) {idle : Nat} {w : W}
    (hrounds : roundsOf (segments ++ [ack]) + idle ≤
      port.window RS485_COMM_CONFIG_ACK_TIMEOUT_US w)
    (h : R idle (bytesOf (segments ++ [ack]) ++ rest) w) :
    (c.receiveConfigAck port awaited w).accepted = true ∧
      ∃ before first after, segments ++ [ack] = before ++ first :: after ∧
        (∀ s ∈ before, ¬ s.Accepts P awaited) ∧ first.Accepts P awaited ∧
        ∃ idle', R idle' (bytesOf after ++ rest) (c.receiveConfigAck port awaited w).world := by
  have hall : ∀ s ∈ segments ++ [ack], s.WellFormed P := by
    intro s hs
    rcases List.mem_append.mp hs with hbefore | hlast
    · exact hformed s hbefore
    · obtain rfl := List.mem_singleton.mp hlast
      exact hack
  have hnone : ∀ s ∈ segments ++ [ack], ¬ s.Rejects P awaited := by
    intro s hs
    rcases List.mem_append.mp hs with hbefore | hlast
    · exact hno s hbefore
    · obtain rfl := List.mem_singleton.mp hlast
      exact fun hrejects => hrejects.2 haccepts.2
  have hsome : ∃ s ∈ segments ++ [ack], s.Accepts P awaited := ⟨ack, by simp, haccepts⟩
  obtain ⟨before, first, after, heq, hbefore, hfirst, hend, idle', hrest⟩ :=
    configAckWait_endsBehind hP hfeed hall hnone hsome hrounds h
  obtain ⟨log, -, haccepted, hworld⟩ := awaitConfigAck_wait port awaited
    (port.window RS485_COMM_CONFIG_ACK_TIMEOUT_US w) c w
  have hreceive : c.receiveConfigAck port awaited w = awaitConfigAck port awaited
      (port.window RS485_COMM_CONFIG_ACK_TIMEOUT_US w) c w := if_pos hport
  rw [hreceive, hworld]
  exact ⟨haccepted.mpr hend, before, first, after, heq, hbefore, hfirst, idle', hrest⟩

namespace Reference

theorem protocol_drainsConfigPhase : protocol.DrainsConfigPhase :=
  ⟨by decide, by decide, by decide⟩

/-- A script whose reads are all of some bytes. -/
def Feeds (_ : Nat) (bytes : List UInt8) (w : Script) : Prop :=
  w.rx = bytes ∧ ∀ k ∈ w.chunks, 0 < k

theorem feed_script : port.Feed Feeds where
  supplies := by
    rintro idle bytes w ⟨rfl, hchunks⟩ n hpos hn
    have htake : ∀ k, 0 < k → w.rx.take k ≠ [] := by
      intro k hk hnone
      have hzero := congrArg List.length hnone
      rw [List.length_take, List.length_nil] at hzero
      omega
    unfold port Feeds
    dsimp only
    cases hsizes : w.chunks with
    | nil =>
      refine ⟨htake n hpos, List.take_prefix n w.rx, ?_, by simp⟩
      dsimp only
      rw [List.length_take, Nat.min_eq_left hn]
    | cons k later =>
      rw [hsizes] at hchunks
      obtain ⟨hk, hlater⟩ := List.forall_mem_cons.mp hchunks
      refine ⟨htake _ (by omega), List.take_prefix _ w.rx, ?_, hlater⟩
      have hle : min n k ≤ w.rx.length := by omega
      dsimp only
      rw [List.length_take, Nat.min_eq_left hle]
  poll := by
    rintro idle bytes w ⟨rfl, hchunks⟩ hsome
    refine Or.inl ⟨?_, rfl, hchunks⟩
    exact Int.natCast_pos.mpr (List.length_pos_of_ne_nil hsome)

/-- A config frame with sync bytes in its payload, a heartbeat, and an ack
    with a wrong CRC. -/
def staleSegments : List Segment :=
  [⟨[0], frame .config 0xFF 0 0 [1, 1, 0, 0, 0xA5, 0xA5, 0xA5, 0xA5]⟩,
    ⟨[], frame .heartbeat 0xFF 1 0 []⟩,
    ⟨[7, 8], [0xA5, 4, 0xFF, 2, 0, 1, 1, 0, 0, 0, 0, 0]⟩]

/-- The ack for topic 1. -/
def acceptance : Segment := ⟨[], ackOf 1 0 0⟩

/-- The three stale frames in portions of one to three bytes, the ack, and a
    byte behind it. -/
def staleWorld : Script where
  rx := bytesOf (staleSegments ++ [acceptance]) ++ [9]
  chunks := [1, 2, 3, 1, 1, 2]
  rounds := 10

instance (P : Protocol) (s : Segment) (awaited : ConfigTuple) : Decidable (s.Acks P awaited) :=
  inferInstanceAs (Decidable (_ ∧ _))

instance (P : Protocol) (s : Segment) (awaited : ConfigTuple) : Decidable (s.Accepts P awaited) :=
  inferInstanceAs (Decidable (_ ∧ _))

instance (P : Protocol) (s : Segment) (awaited : ConfigTuple) : Decidable (s.Rejects P awaited) :=
  inferInstanceAs (Decidable (_ ∧ _))

theorem stale_frames_are_drained :
    (comm.receiveConfigAck port ⟨1, 1, 0, 0⟩ staleWorld).accepted = true ∧
      (comm.receiveConfigAck port ⟨1, 1, 0, 0⟩ staleWorld).world.rx = [9] := by
  have hformed : ∀ s ∈ staleSegments, s.WellFormed protocol := by
    simp only [staleSegments, List.forall_mem_cons]
    exact ⟨⟨by decide, rfl, 8, rfl, rfl⟩, ⟨by decide, rfl, 0, rfl, rfl⟩,
      ⟨by decide, rfl, 5, rfl, rfl⟩, List.forall_mem_nil _⟩
  have hno : ∀ s ∈ staleSegments, ¬ s.Rejects protocol ⟨1, 1, 0, 0⟩ := by decide +kernel
  have hack : acceptance.WellFormed protocol := ⟨by decide, rfl, 5, rfl, rfl⟩
  have haccepts : acceptance.Accepts protocol ⟨1, 1, 0, 0⟩ := by decide +kernel
  have hfeeds : Feeds 0 (bytesOf (staleSegments ++ [acceptance]) ++ [9]) staleWorld :=
    ⟨rfl, by decide⟩
  obtain ⟨haccepted, -⟩ := Comm.receiveConfigAck_aligned protocol_drainsConfigPhase feed_script
    hformed hno hack haccepts (c := comm) rfl (by decide) hfeeds
  exact ⟨haccepted, by decide +kernel⟩

end Reference

end LibPpuc
