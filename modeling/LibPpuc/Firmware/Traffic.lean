import LibPpuc.Comm.Firmware
import LibPpuc.Framework.OrderedBus

/-! # The Traffic of a Firmware Transfer

  `UpdateBoardFirmware` as the bus sees it: the frames it hands to the port,
  and the admin frames with a correct CRC that it reads, expected or not.
  `UpdateCall` keeps them beside the stage of the call.

  `StageEffect` lists what one stage can do, with its traffic.
-/

namespace LibPpuc

open OrderedBus (Seen)

/-- One event of the traffic, as the host sees it. -/
abbrev AdminSeen : Type := Seen (List UInt8) (List UInt8)

/-- The bytes that a stage would report as sent if it failed. -/
def FirmwareStage.acknowledged : FirmwareStage → Nat
  | .nextChunk sent | .sendChunk sent _ _ | .awaitChunk sent _ _ | .sendCommit sent
  | .awaitResult sent => sent
  | .returned result => result.bytesSent
  | .query | .runtimeTest | .sendBegin | .awaitBegin => 0

namespace Comm

variable {P : Protocol} {W : Type}

/-! ### Frames on the Bus -/

/-- The admin frames with a correct CRC that the reading loop takes from the
    port; an accepted one is the last. -/
def huntedFrames {α : Type} (P : Protocol) (port : SerialPort W) (A : AdminProtocol)
    (frameBytes : Nat) (accept : List UInt8 → Option α) : Nat → W → List (List UInt8)
  | 0, _ => []
  | rounds + 1, w =>
    match port.read 1 w with
    | ([], w) => huntedFrames P port A frameBytes accept rounds w
    | (byte :: _, w) =>
      if byte ≠ P.kSyncByte then huntedFrames P port A frameBytes accept rounds w
      else
        match port.readExact (frameBytes - 1) w with
        | (none, w) => huntedFrames P port A frameBytes accept rounds w
        | (some rest, w) =>
          if P.extractType (rest.getD 0 0) ≠ .admin then
            huntedFrames P port A frameBytes accept rounds w
          else if A.verifyCrc (byte :: rest) = false then
            huntedFrames P port A frameBytes accept rounds w
          else
            (byte :: rest) ::
              match accept ((byte :: rest).drop P.kHeaderBytes) with
              | some _ => []
              | none => huntedFrames P port A frameBytes accept rounds w

/-- What the loop accepts is the last frame it took. -/
theorem huntAdminFrame_accepted {α : Type} (port : SerialPort W) (A : AdminProtocol)
    (frameBytes : Nat) (crcMessage : String) (accept : List UInt8 → Option α) (rounds : Nat)
    (c : Comm P) (w : W) {a : α}
    (h : (c.huntAdminFrame port A frameBytes crcMessage accept rounds w).1 = some a) :
    ∃ earlier frame, huntedFrames P port A frameBytes accept rounds w = earlier ++ [frame] ∧
      accept (frame.drop P.kHeaderBytes) = some a := by
  induction rounds generalizing c w with
  | zero => simp [huntAdminFrame] at h
  | succ rounds ih =>
    unfold huntAdminFrame at h
    unfold huntedFrames
    -- the two loops take the same turns
    generalize port.read 1 w = got at h ⊢
    obtain ⟨bytes, w₁⟩ := got
    cases bytes with
    | nil => exact ih c w₁ h
    | cons byte more =>
      dsimp only at h ⊢
      by_cases hsync : byte ≠ P.kSyncByte
      · rw [if_pos hsync] at h ⊢
        exact ih c w₁ h
      · rw [if_neg hsync] at h ⊢
        generalize port.readExact (frameBytes - 1) w₁ = got at h ⊢
        obtain ⟨rest, w₂⟩ := got
        cases rest with
        | none => exact ih c w₂ h
        | some rest =>
          dsimp only at h ⊢
          by_cases htype : P.extractType (rest.getD 0 0) ≠ .admin
          · rw [if_pos htype] at h ⊢
            exact ih c w₂ h
          · rw [if_neg htype] at h ⊢
            by_cases hcrc : A.verifyCrc (byte :: rest) = false
            · rw [if_pos hcrc] at h ⊢
              exact ih _ w₂ h
            · rw [if_neg hcrc] at h ⊢
              generalize haccept : accept ((byte :: rest).drop P.kHeaderBytes) = read at h ⊢
              cases read with
              | some a' =>
                obtain rfl : a' = a := Option.some.inj h
                exact ⟨[], byte :: rest, rfl, haccept⟩
              | none =>
                obtain ⟨earlier, frame, heq, hframe⟩ := ih c w₂ h
                refine ⟨(byte :: rest) :: earlier, frame, ?_, hframe⟩
                dsimp only
                rw [heq]
                rfl

/-- A frame that is handed to an open port. -/
def handed (c : Comm P) (frame : List UInt8) : List AdminSeen :=
  if c.portOpen then [.sent frame] else []

theorem sent_handed {c : Comm P} {frame frame' : List UInt8}
    (h : Seen.sent frame' ∈ c.handed frame) : frame' = frame := by
  unfold handed at h
  split at h
  · obtain heq := List.mem_singleton.mp h
    exact Seen.sent.inj heq
  · cases h

/-- The frames that `AwaitAdminReply` takes. -/
def awaitedFrames (port : SerialPort W) (A : AdminProtocol) (P : Protocol)
    (board expectedCommand : UInt8) (timeoutMs : Nat) (w : W) : List AdminSeen :=
  (huntedFrames P port A A.kUpdateAckFrameBytes (updateReply A board expectedCommand)
    (port.window (timeoutMs * 1000) w) w).map .got

theorem sent_awaitedFrames {port : SerialPort W} {A : AdminProtocol} {P : Protocol}
    {board expectedCommand : UInt8} {timeoutMs : Nat} {w : W} {frame : List UInt8} :
    Seen.sent frame ∉ awaitedFrames port A P board expectedCommand timeoutMs w := by
  intro h
  obtain ⟨frame', -, heq⟩ := List.mem_map.mp h
  contradiction

/-- The reply that `AwaitAdminReply` returns is the last frame it took. -/
theorem awaitAdminReply_accepted {port : SerialPort W} {A : AdminProtocol}
    {board expectedCommand : UInt8} {timeoutMs : Nat} {c : Comm P} {w : W}
    {reply : UInt8 × UInt32}
    (h : (c.awaitAdminReply port A board expectedCommand timeoutMs w).1 = some reply) :
    ∃ earlier frame,
      awaitedFrames port A P board expectedCommand timeoutMs w = earlier ++ [.got frame] ∧
      updateReply A board expectedCommand (frame.drop P.kHeaderBytes) = some reply := by
  obtain ⟨earlier, frame, heq, hframe⟩ := huntAdminFrame_accepted port A _ _ _ _ c w h
  refine ⟨earlier.map .got, frame, ?_, hframe⟩
  unfold awaitedFrames
  rw [heq, List.map_append]
  rfl

/-- The traffic of `QueryBoardVersion` with an open port. -/
def queryTraffic (port : SerialPort W) (A : AdminProtocol) (board : UInt8) (timeoutMs : Nat)
    (c : Comm P) (w : W) : List AdminSeen :=
  if c.portOpen ∧ P.isValidBoard board then
    let frame := A.buildVersionQueryFrame board c.sequence c.epoch
    let w := port.flushInput w
    match ({ c with sequence := c.sequence + 1 } : Comm P).writeBytes port "AdminVersionQuery"
        frame w with
    | (false, _, _) => [.sent frame]
    | (true, _, w) =>
      .sent frame ::
        (huntedFrames P port A A.kAdminFrameBytes (versionReport A board)
          (port.window (timeoutMs * 1000) w) w).map .got
  else []

/-- The traffic of a stage of `UpdateBoardFirmware`. -/
def stageTraffic (port : SerialPort W) (A : AdminProtocol) (request : FirmwareRequest)
    (stage : FirmwareStage) (c : Comm P) (w : W) : List AdminSeen :=
  let image := request.image.getD []
  match stage with
  | .query =>
    if c.portOpen = false ∨ image = [] then []
    else c.queryTraffic port A request.board 250 w
  | .sendBegin =>
    c.handed (A.buildUpdateBeginFrame request.board c.sequence c.epoch (UInt32.ofNat image.length)
      (P.crc16Ccitt image))
  | .awaitBegin => awaitedFrames port A P request.board A.kAdminUpdateBeginAck 2000 w
  | .sendChunk _ _ frame => c.handed frame
  | .awaitChunk _ _ _ => awaitedFrames port A P request.board A.kAdminUpdateChunkAck 1000 w
  | .sendCommit _ => c.handed (A.buildUpdateCommitFrame request.board c.sequence c.epoch)
  | .awaitResult _ => awaitedFrames port A P request.board A.kAdminUpdateResult 10000 w
  | .runtimeTest | .nextChunk _ | .returned _ => []

end Comm

/-! ### The Call -/

/-- A call of `UpdateBoardFirmware`, and what the bus has seen of it. -/
structure UpdateCall (P : Protocol) (W : Type) where
  stage : FirmwareStage
  comm : Comm P
  world : W
  seen : List AdminSeen

namespace UpdateCall

variable {P : Protocol} {W : Type}

/-- The call is made. -/
def start (c : Comm P) (w : W) : UpdateCall P W :=
  { stage := .query, comm := c, world := w, seen := [] }

/-- The next stage of the call. -/
def next (port : SerialPort W) (A : AdminProtocol) (request : FirmwareRequest)
    (call : UpdateCall P W) : UpdateCall P W :=
  let r := call.comm.firmwareStep port A request call.stage call.world
  { stage := r.1
    comm := r.2.1
    world := r.2.2
    seen := call.seen ++ call.comm.stageTraffic port A request call.stage call.world }

/-- The call after `n` stages. -/
def after (port : SerialPort W) (A : AdminProtocol) (request : FirmwareRequest) (c : Comm P)
    (w : W) (n : Nat) : UpdateCall P W :=
  (next port A request)^[n] (start c w)

end UpdateCall

/-! ### What a Stage Can Do -/

/-- The frame of the chunk at position `sent`. -/
def chunkFrame (A : AdminProtocol) (request : FirmwareRequest) (sequence epoch : UInt8)
    (sent : Nat) : List UInt8 :=
  A.buildUpdateChunkFrame request.board sequence epoch (UInt32.ofNat sent)
    (((request.image.getD []).drop sent).take A.kAdminChunkBytes)

/-- The reply is a chunk ack of the board that says Ok, with this offset. -/
def IsChunkAck (P : Protocol) (A : AdminProtocol) (board : UInt8) (offset : UInt32)
    (frame : List UInt8) : Prop :=
  Comm.updateReply A board A.kAdminUpdateChunkAck (frame.drop P.kHeaderBytes) =
    some (A.kUpdateOk, offset)

/-- The frames the call sends besides those of chunks. -/
inductive IsControlFrame (A : AdminProtocol) (P : Protocol) (request : FirmwareRequest) :
    List UInt8 → Prop where
  | query (sequence epoch : UInt8) :
    IsControlFrame A P request (A.buildVersionQueryFrame request.board sequence epoch)
  | begin (sequence epoch : UInt8) :
    IsControlFrame A P request
      (A.buildUpdateBeginFrame request.board sequence epoch
        (UInt32.ofNat (request.image.getD []).length) (P.crc16Ccitt (request.image.getD [])))
  | commit (sequence epoch : UInt8) :
    IsControlFrame A P request (A.buildUpdateCommitFrame request.board sequence epoch)

/-- Nothing but control frames is sent. -/
def SendsControl (A : AdminProtocol) (P : Protocol) (request : FirmwareRequest)
    (traffic : List AdminSeen) : Prop :=
  ∀ frame, Seen.sent frame ∈ traffic → IsControlFrame A P request frame

/-- Everything a stage can do: the stage after it, and its traffic. -/
inductive StageEffect (A : AdminProtocol) (P : Protocol) (request : FirmwareRequest) :
    FirmwareStage → FirmwareStage → List AdminSeen → Prop where
  /-- The call fails with what was acknowledged so far. -/
  | failed {stage : FirmwareStage} {status : UInt8} {error : String} {traffic : List AdminSeen}
    (hcontrol : SendsControl A P request traffic) :
    StageEffect A P request stage
      (Comm.firmwareError request status stage.acknowledged error) traffic
  /-- A chunk could not be written. -/
  | chunkFailed {sent attempt : Nat} {frame : List UInt8} {status : UInt8} {error : String}
    {traffic : List AdminSeen} (hsent : ∀ frame', Seen.sent frame' ∈ traffic → frame' = frame) :
    StageEffect A P request (.sendChunk sent attempt frame)
      (Comm.firmwareError request status sent error) traffic
  | queried {traffic : List AdminSeen} (hcontrol : SendsControl A P request traffic) :
    StageEffect A P request .query .runtimeTest traffic
  | tested : StageEffect A P request .runtimeTest .sendBegin []
  | begun {sequence epoch : UInt8} :
    StageEffect A P request .sendBegin .awaitBegin
      [.sent (A.buildUpdateBeginFrame request.board sequence epoch
        (UInt32.ofNat (request.image.getD []).length) (P.crc16Ccitt (request.image.getD [])))]
  | accepted {traffic : List AdminSeen} (hcontrol : SendsControl A P request traffic) :
    StageEffect A P request .awaitBegin (.nextChunk 0) traffic
  | chunkBuilt {sent : Nat} {sequence epoch : UInt8}
    (hmore : sent < (request.image.getD []).length) :
    StageEffect A P request (.nextChunk sent)
      (.sendChunk sent 0 (chunkFrame A request sequence epoch sent)) []
  | allSent {sent : Nat} (hall : (request.image.getD []).length ≤ sent) :
    StageEffect A P request (.nextChunk sent) (.sendCommit sent) []
  | chunkSent {sent attempt : Nat} {frame : List UInt8} :
    StageEffect A P request (.sendChunk sent attempt frame) (.awaitChunk sent attempt frame)
      [.sent frame]
  | chunkAcked {sent attempt : Nat} {frame ack : List UInt8} {earlier : List AdminSeen}
    {offset : UInt32} (hcontrol : SendsControl A P request (earlier ++ [.got ack]))
    (hack : IsChunkAck P A request.board offset ack) (hoffset : offset.toNat = sent) :
    StageEffect A P request (.awaitChunk sent attempt frame)
      (.nextChunk (sent + min A.kAdminChunkBytes ((request.image.getD []).length - sent)))
      (earlier ++ [.got ack])
  | retried {sent attempt : Nat} {frame : List UInt8} {traffic : List AdminSeen}
    (hcontrol : SendsControl A P request traffic) :
    StageEffect A P request (.awaitChunk sent attempt frame)
      (.sendChunk sent (attempt + 1) frame) traffic
  | committed {sent : Nat} {sequence epoch : UInt8} :
    StageEffect A P request (.sendCommit sent) (.awaitResult sent)
      [.sent (A.buildUpdateCommitFrame request.board sequence epoch)]
  | succeeded {sent : Nat} {traffic : List AdminSeen}
    (hcontrol : SendsControl A P request traffic) :
    StageEffect A P request (.awaitResult sent)
      (.returned
        { ok := true, board := request.board, status := A.kUpdateOk, bytesSent := sent }) traffic
  | stays {result : PPUCFirmwareUpdateResult} :
    StageEffect A P request (.returned result) (.returned result) []

namespace Comm

section inversion

variable {P : Protocol} {W : Type} {port : SerialPort W} {A : AdminProtocol}
  {request : FirmwareRequest} {c : Comm P} {w : W}

/-- Waiting sends nothing. -/
theorem sendsControl_awaited {board expectedCommand : UInt8} {timeoutMs : Nat} :
    SendsControl A P request (awaitedFrames port A P board expectedCommand timeoutMs w) :=
  fun _ hsent => absurd hsent sent_awaitedFrames

theorem sendsControl_handed {frame : List UInt8} (h : IsControlFrame A P request frame) :
    SendsControl A P request (c.handed frame) := by
  intro frame' hsent
  obtain rfl := sent_handed hsent
  exact h

theorem sendsControl_nil : SendsControl A P request [] := by
  intro frame hsent
  cases hsent

theorem sendsControl_query {timeoutMs : Nat} :
    SendsControl A P request (c.queryTraffic port A request.board timeoutMs w) := by
  unfold queryTraffic
  split
  · dsimp only
    intro frame hsent
    split at hsent
    · obtain heq := List.mem_singleton.mp hsent
      obtain rfl := Seen.sent.inj heq
      exact .query _ _
    · rcases List.mem_cons.mp hsent with heq | hread
      · obtain rfl := Seen.sent.inj heq
        exact .query _ _
      · obtain ⟨frame', -, heq⟩ := List.mem_map.mp hread
        contradiction
  · exact sendsControl_nil

/-- A write that succeeds hands its frame to the port. -/
theorem handed_of_written {context : String} {frame : List UInt8}
    (h : (c.writeBytes port context frame w).1 = true) : c.handed frame = [.sent frame] := by
  unfold handed
  rw [if_pos ((writeBytes_ok port context frame c w).mp h).1]

/-- The outcome of a wait for an ack. -/
theorem awaitChunk_effect {sent attempt : Nat} {frame : List UInt8} :
    StageEffect A P request (.awaitChunk sent attempt frame)
      (c.firmwareStep port A request (.awaitChunk sent attempt frame) w).1
      (awaitedFrames port A P request.board A.kAdminUpdateChunkAck 1000 w) := by
  have haccepted := @awaitAdminReply_accepted P W port A request.board A.kAdminUpdateChunkAck 1000
    c w
  have hcontrol := @sendsControl_awaited P W port A request w request.board
    A.kAdminUpdateChunkAck 1000
  simp only [firmwareStep]
  split
  · next status offset c' w' hreply =>
    rw [hreply] at haccepted
    obtain ⟨earlier, ack, htraffic, hack⟩ := haccepted rfl
    split
    · exact .failed hcontrol
    next hok =>
    split
    · next hoffset =>
      rw [htraffic] at hcontrol ⊢
      refine .chunkAcked hcontrol ?_ hoffset
      unfold IsChunkAck
      rw [hack, not_not.mp hok]
    · split
      · exact .retried hcontrol
      · exact .failed hcontrol
  · split
    · exact .retried hcontrol
    · exact .failed hcontrol

/-- **Inversion of a stage**: one of the listed effects happens. -/
theorem firmwareStep_effect (port : SerialPort W) (A : AdminProtocol) (request : FirmwareRequest)
    (stage : FirmwareStage) (c : Comm P) (w : W) :
    StageEffect A P request stage (c.firmwareStep port A request stage w).1
      (c.stageTraffic port A request stage w) := by
  cases stage with
  | query =>
    -- no image or no port, no answer, or an image for another type of board
    simp only [firmwareStep, stageTraffic]
    split
    · exact .failed sendsControl_nil
    · split
      · exact .failed sendsControl_query
      · split
        · exact .failed sendsControl_query
        · exact .queried sendsControl_query
  | runtimeTest =>
    simp only [firmwareStep, stageTraffic]
    split
    · exact .failed sendsControl_nil
    · exact .tested
  | sendBegin =>
    simp only [firmwareStep, stageTraffic]
    split
    · next hwritten =>
      have hhanded := handed_of_written (congrArg Prod.fst hwritten)
      unfold handed at hhanded ⊢
      rw [hhanded]
      exact .begun
    · exact .failed (sendsControl_handed (.begin _ _))
  | awaitBegin =>
    simp only [firmwareStep, stageTraffic]
    split
    · exact .failed sendsControl_awaited
    · split
      · exact .failed sendsControl_awaited
      · exact .accepted sendsControl_awaited
  | nextChunk sent =>
    simp only [firmwareStep, stageTraffic]
    split
    · next hmore => exact .chunkBuilt hmore
    · next hall => exact .allSent (Nat.not_lt.mp hall)
  | sendChunk sent attempt frame =>
    simp only [firmwareStep, stageTraffic]
    split
    · next hwritten =>
      rw [handed_of_written (congrArg Prod.fst hwritten)]
      exact .chunkSent
    · exact .chunkFailed fun frame' hsent => sent_handed hsent
  | awaitChunk sent attempt frame => exact awaitChunk_effect
  | sendCommit sent =>
    simp only [firmwareStep, stageTraffic]
    split
    · next hwritten =>
      have hhanded := handed_of_written (congrArg Prod.fst hwritten)
      unfold handed at hhanded ⊢
      rw [hhanded]
      exact .committed
    · exact .failed (sendsControl_handed (.commit _ _))
  | awaitResult sent =>
    simp only [firmwareStep, stageTraffic]
    split
    · exact .failed sendsControl_awaited
    · split
      · next hok =>
        rw [hok]
        exact .succeeded sendsControl_awaited
      · exact .failed sendsControl_awaited
  | returned result => exact .stays

end inversion

end Comm

end LibPpuc
