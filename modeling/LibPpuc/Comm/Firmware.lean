import LibPpuc.Comm.State

/-! # Admin Frames and the Firmware Transfer

  A version query and a firmware transfer run outside of any session.
  `UpdateBoardFirmware` is cut at its calls into the port: `FirmwareStage`
  says where the call stands, `firmwareStep` goes on to the next stage, so
  that the bus thread can run in between.
-/

namespace LibPpuc

/-- The admin part of `ppuc::v2`. -/
structure AdminProtocol where
  kAdminFrameBytes : Nat
  kUpdateAckFrameBytes : Nat
  kAdminVersionReport : UInt8
  kAdminUpdateBeginAck : UInt8
  kAdminUpdateChunkAck : UInt8
  kAdminUpdateResult : UInt8
  kUpdateOk : UInt8
  kUpdateUnsupported : UInt8
  kBoardTypeUnknown : UInt8
  kAdminChunkBytes : Nat
  kAdminVersionFirmwareMajor : Nat
  kAdminVersionFirmwareMinor : Nat
  kAdminVersionFirmwarePatch : Nat
  kAdminVersionProtocolMajor : Nat
  kAdminVersionProtocolMinor : Nat
  kAdminVersionCapabilities : Nat
  kAdminVersionBoardType : Nat
  kAdminVersionBuildId : Nat
  /-- board, sequence, epoch. -/
  buildVersionQueryFrame : UInt8 → UInt8 → UInt8 → List UInt8
  /-- board, sequence, epoch; image size, image CRC. -/
  buildUpdateBeginFrame : UInt8 → UInt8 → UInt8 → UInt32 → UInt16 → List UInt8
  /-- board, sequence, epoch; offset, data. -/
  buildUpdateChunkFrame : UInt8 → UInt8 → UInt8 → UInt32 → List UInt8 → List UInt8
  /-- board, sequence, epoch. -/
  buildUpdateCommitFrame : UInt8 → UInt8 → UInt8 → List UInt8
  verifyCrc : List UInt8 → Bool
  /-- command, board, data of an admin payload. -/
  readAdminPayload : List UInt8 → UInt8 × UInt8 × List UInt8
  /-- status and offset of an update ack. -/
  readUpdateAck : List UInt8 → UInt8 × UInt32
  readU32 : List UInt8 → UInt32

/-- `PPUCBoardVersion`. -/
structure PPUCBoardVersion where
  board : UInt8 := 0
  responded : Bool := false
  firmwareMajor : UInt8 := 0
  firmwareMinor : UInt8 := 0
  firmwarePatch : UInt8 := 0
  adminProtocolMajor : UInt8 := 0
  adminProtocolMinor : UInt8 := 0
  capabilities : UInt8 := 0
  boardType : UInt8 := 0
  buildId : UInt32 := 0
  deriving DecidableEq, Repr

/-- `PPUCFirmwareUpdateResult`. -/
structure PPUCFirmwareUpdateResult where
  ok : Bool := false
  board : UInt8 := 0
  status : UInt8 := 0
  bytesSent : Nat := 0
  error : String := ""
  deriving DecidableEq, Repr

/-- The arguments of `UpdateBoardFirmware`; `none` is a null image. -/
structure FirmwareRequest where
  board : UInt8
  imageBoardType : UInt8
  image : Option (List UInt8)
  deriving DecidableEq, Repr

/-- Where a call of `UpdateBoardFirmware` stands. -/
inductive FirmwareStage where
  /-- Before the version query. -/
  | query
  /-- The board answered and fits the image; `m_runtimeEnabled` is next. -/
  | runtimeTest
  | sendBegin
  | awaitBegin
  /-- Between chunks: so many bytes are acknowledged. -/
  | nextChunk (sent : Nat)
  | sendChunk (sent attempt : Nat) (frame : List UInt8)
  | awaitChunk (sent attempt : Nat) (frame : List UInt8)
  | sendCommit (sent : Nat)
  | awaitResult (sent : Nat)
  | returned (result : PPUCFirmwareUpdateResult)
  deriving DecidableEq, Repr

/-- The call has passed its runtime test and has not returned. -/
def FirmwareStage.transferring : FirmwareStage → Bool
  | .query | .runtimeTest | .returned _ => false
  | _ => true

namespace Comm

variable {P : Protocol} {W : Type}

/-- The reading loop of `QueryBoardVersion` and `AwaitAdminReply`: hunt for
    an admin frame of `frameBytes` bytes whose payload `accept` takes. -/
def huntAdminFrame {α : Type} (port : SerialPort W) (A : AdminProtocol) (frameBytes : Nat)
    (crcMessage : String) (accept : List UInt8 → Option α) :
    Nat → Comm P → W → Option α × Comm P × W
  -- the time is up
  | 0, c, w => (none, c, w)
  | rounds + 1, c, w =>
    match port.read 1 w with
    | ([], w) => huntAdminFrame port A frameBytes crcMessage accept rounds c w
    | (byte :: _, w) =>
      if byte ≠ P.kSyncByte then
        huntAdminFrame port A frameBytes crcMessage accept rounds c w
      else
        match port.readExact (frameBytes - 1) w with
        | (none, w) => huntAdminFrame port A frameBytes crcMessage accept rounds c w
        | (some rest, w) =>
          if P.extractType (rest.getD 0 0) ≠ .admin then
            huntAdminFrame port A frameBytes crcMessage accept rounds c w
          -- a wrong CRC is reported, and the hunt goes on
          else if A.verifyCrc (byte :: rest) = false then
            huntAdminFrame port A frameBytes crcMessage accept rounds
              (c.reportAnomaly port w .frameCrc crcMessage) w
          else
            match accept ((byte :: rest).drop P.kHeaderBytes) with
            | some a => (some a, c, w)
            | none => huntAdminFrame port A frameBytes crcMessage accept rounds c w

/-- The version report of `board`, if the payload is one. -/
def versionReport (A : AdminProtocol) (board : UInt8) (payload : List UInt8) :
    Option PPUCBoardVersion :=
  let (command, reportedBoard, data) := A.readAdminPayload payload
  if command ≠ A.kAdminVersionReport ∨ reportedBoard ≠ board then none
  else
    some
      { board := board
        responded := true
        firmwareMajor := data.getD A.kAdminVersionFirmwareMajor 0
        firmwareMinor := data.getD A.kAdminVersionFirmwareMinor 0
        firmwarePatch := data.getD A.kAdminVersionFirmwarePatch 0
        adminProtocolMajor := data.getD A.kAdminVersionProtocolMajor 0
        adminProtocolMinor := data.getD A.kAdminVersionProtocolMinor 0
        capabilities := data.getD A.kAdminVersionCapabilities 0
        boardType := data.getD A.kAdminVersionBoardType 0
        buildId := A.readU32 (data.drop A.kAdminVersionBuildId) }

/-- `QueryBoardVersion`. -/
def queryBoardVersion (port : SerialPort W) (A : AdminProtocol) (board : UInt8)
    (timeoutMs : Nat) (c : Comm P) (w : W) : PPUCBoardVersion × Comm P × W :=
  if c.portOpen ∧ P.isValidBoard board then
    let w := port.flushInput w
    match ({ c with sequence := c.sequence + 1 } : Comm P).writeBytes port "AdminVersionQuery"
        (A.buildVersionQueryFrame board c.sequence c.epoch) w with
    | (false, c, w) => ({ board := board }, c, w)
    | (true, c, w) =>
      match huntAdminFrame port A A.kAdminFrameBytes
          s!"Invalid admin frame CRC while querying board {board}" (versionReport A board)
          (port.window (timeoutMs * 1000) w) c w with
      | (some version, c, w) => (version, c, w)
      | (none, c, w) => ({ board := board }, c, w)
  else ({ board := board }, c, w)

/-- The status and offset of the awaited reply, if the payload is one. -/
def updateReply (A : AdminProtocol) (board expectedCommand : UInt8) (payload : List UInt8) :
    Option (UInt8 × UInt32) :=
  if payload.getD 0 0 ≠ expectedCommand ∨ payload.getD 1 0 ≠ board then none
  else some (A.readUpdateAck payload)

/-- `AwaitAdminReply`. -/
def awaitAdminReply (port : SerialPort W) (A : AdminProtocol) (board expectedCommand : UInt8)
    (timeoutMs : Nat) (c : Comm P) (w : W) : Option (UInt8 × UInt32) × Comm P × W :=
  huntAdminFrame port A A.kUpdateAckFrameBytes s!"Invalid admin ack CRC from board {board}"
    (updateReply A board expectedCommand) (port.window (timeoutMs * 1000) w) c w

/-- A result that reports an error. -/
def firmwareError (request : FirmwareRequest) (status : UInt8) (bytesSent : Nat)
    (error : String) : FirmwareStage :=
  .returned { board := request.board, status := status, bytesSent := bytesSent, error := error }

/-- The next stage of `UpdateBoardFirmware`; a call that has returned stays. -/
def firmwareStep (port : SerialPort W) (A : AdminProtocol) (request : FirmwareRequest)
    (stage : FirmwareStage) (c : Comm P) (w : W) : FirmwareStage × Comm P × W :=
  let image := request.image.getD []
  match stage with
  | .query =>
    if c.portOpen = false ∨ image = [] then
      (firmwareError request 0 0 "no image or no serial port", c, w)
    else
      let (current, c, w) := c.queryBoardVersion port A request.board 250 w
      if current.responded = false then
        (firmwareError request 0 0 "board did not answer a version query before the transfer",
          c, w)
      else if request.imageBoardType ≠ A.kBoardTypeUnknown ∧
          current.boardType ≠ request.imageBoardType then
        (firmwareError request A.kUpdateUnsupported 0 "image is for a different board type", c, w)
      else (.runtimeTest, c, w)
  | .runtimeTest =>
    if c.runtimeEnabled then
      (firmwareError request 0 0 "runtime updates are still running", c, w)
    else (.sendBegin, c, w)
  | .sendBegin =>
    let w := port.flushInput w
    match ({ c with sequence := c.sequence + 1 } : Comm P).writeBytes port "UpdateBegin"
        (A.buildUpdateBeginFrame request.board c.sequence c.epoch (UInt32.ofNat image.length)
          (P.crc16Ccitt image)) w with
    | (true, c, w) => (.awaitBegin, c, w)
    | (false, c, w) => (firmwareError request 0 0 "could not send UpdateBegin", c, w)
  | .awaitBegin =>
    match c.awaitAdminReply port A request.board A.kAdminUpdateBeginAck 2000 w with
    | (none, c, w) => (firmwareError request 0 0 "board did not acknowledge UpdateBegin", c, w)
    | (some (status, _), c, w) =>
      if status ≠ A.kUpdateOk then
        (firmwareError request status 0 "board refused the update", c, w)
      else (.nextChunk 0, c, w)
  | .nextChunk sent =>
    if sent < image.length then
      -- a chunk keeps its frame, and so its sequence number, over all attempts
      let frame := A.buildUpdateChunkFrame request.board c.sequence c.epoch (UInt32.ofNat sent)
        ((image.drop sent).take A.kAdminChunkBytes)
      (.sendChunk sent 0 frame, { c with sequence := c.sequence + 1 }, w)
    else (.sendCommit sent, c, w)
  | .sendChunk sent attempt frame =>
    match c.writeBytes port "UpdateChunk" frame w with
    | (true, c, w) => (.awaitChunk sent attempt frame, c, w)
    | (false, c, w) => (firmwareError request 0 sent "could not send a chunk", c, w)
  | .awaitChunk sent attempt frame =>
    match c.awaitAdminReply port A request.board A.kAdminUpdateChunkAck 1000 w with
    | (some (status, offset), c, w) =>
      if status ≠ A.kUpdateOk then
        (firmwareError request status sent "board rejected a chunk", c, w)
      -- the board echoes the offset of the chunk it has stored
      else if offset.toNat = sent then
        (.nextChunk (sent + min A.kAdminChunkBytes (image.length - sent)), c, w)
      else if attempt + 1 < 3 then (.sendChunk sent (attempt + 1) frame, c, w)
      else
        (firmwareError request 0 sent "chunk was not acknowledged after 3 attempts", c, w)
    | (none, c, w) =>
      if attempt + 1 < 3 then (.sendChunk sent (attempt + 1) frame, c, w)
      else
        (firmwareError request 0 sent "chunk was not acknowledged after 3 attempts", c, w)
  | .sendCommit sent =>
    match ({ c with sequence := c.sequence + 1 } : Comm P).writeBytes port "UpdateCommit"
        (A.buildUpdateCommitFrame request.board c.sequence c.epoch) w with
    | (true, c, w) => (.awaitResult sent, c, w)
    | (false, c, w) => (firmwareError request 0 sent "could not send UpdateCommit", c, w)
  | .awaitResult sent =>
    match c.awaitAdminReply port A request.board A.kAdminUpdateResult 10000 w with
    | (none, c, w) =>
      (firmwareError request 0 sent "board did not report an update result", c, w)
    | (some (status, _), c, w) =>
      if status = A.kUpdateOk then
        (.returned { ok := true, board := request.board, status := status, bytesSent := sent },
          c, w)
      else (firmwareError request status sent "board reported the update failed", c, w)
  | .returned result => (.returned result, c, w)

end Comm

end LibPpuc
