import LibPpuc.Firmware.Delivery
import LibPpuc.Reference
import Mathlib.Data.List.TakeDrop

/-! # An Undisturbed Transfer

  On a bus that loses nothing, to a board that answers at once, the call
  returns ok for every image whose chunk positions fit 32 bits.  An image
  of exactly 2^32 bytes is one of them, but its length is not: the begin
  frame of that transfer says 0.
-/

namespace LibPpuc

namespace Reference

open OrderedBus (Seen)
open StagedTransfer (Receiver)

/-! ### Bytes -/

theorem getLsbD_byte (x : UInt32) (i : Nat) :
    x.toUInt8.toUInt32.toBitVec.getLsbD i = (decide (i < 8) && x.toBitVec.getLsbD i) := by
  rw [UInt8.toBitVec_toUInt32, UInt32.toBitVec_toUInt8, BitVec.getLsbD_setWidth,
    BitVec.getLsbD_setWidth]
  by_cases hi : i < 8
  · simp [hi, show i < 32 by omega]
  · simp [hi]

/-- A byte pushed in at the low end. -/
theorem getLsbD_push (n x : UInt32) {i : Nat} (hi : i < 32) :
    ((n <<< 8) ||| x.toUInt8.toUInt32).toBitVec.getLsbD i =
      if i < 8 then x.toBitVec.getLsbD i else n.toBitVec.getLsbD (i - 8) := by
  have hshift : (n <<< 8).toBitVec = n.toBitVec <<< 8 := rfl
  rw [UInt32.toBitVec_or, BitVec.getLsbD_or, getLsbD_byte, hshift, BitVec.getLsbD_shiftLeft]
  by_cases h8 : i < 8
  · simp [h8]
  · simp [h8, hi]

theorem getLsbD_shiftRight (n k : UInt32) (hk : k < 32) (i : Nat) :
    (n >>> k).toBitVec.getLsbD i = n.toBitVec.getLsbD (k.toNat + i) := by
  have hshift : (n >>> k).toBitVec = n.toBitVec >>> (k.toNat % 32) := by
    rw [UInt32.toBitVec_shiftRight]
    rfl
  have hk' : k.toNat % 32 = k.toNat := Nat.mod_eq_of_lt (UInt32.lt_iff_toNat_lt.mp hk)
  rw [hshift, hk', BitVec.getLsbD_ushiftRight]

/-- Four bytes are read back as they were written. -/
theorem read32_bytes32 (n : UInt32) (rest : List UInt8) : read32 (bytes32 n ++ rest) = n := by
  have hread : read32 (bytes32 n ++ rest) =
      (((((((0 : UInt32) <<< 8) ||| (n >>> 24).toUInt8.toUInt32) <<< 8) |||
        (n >>> 16).toUInt8.toUInt32) <<< 8) ||| (n >>> 8).toUInt8.toUInt32) <<< 8 |||
        n.toUInt8.toUInt32 := rfl
  rw [hread]
  apply UInt32.eq_of_toBitVec_eq
  apply BitVec.eq_of_getLsbD_eq
  intro i hi
  -- one byte after the other, from the low end
  rw [getLsbD_push _ _ hi]
  split
  · rfl
  rw [getLsbD_push _ _ (by omega)]
  split
  · rw [getLsbD_shiftRight n 8 (by decide)]
    congr 1
    show 8 + (i - 8) = i
    omega
  rw [getLsbD_push _ _ (by omega)]
  split
  · rw [getLsbD_shiftRight n 16 (by decide)]
    congr 1
    show 16 + (i - 8 - 8) = i
    omega
  rw [getLsbD_push _ _ (by omega), if_pos (by omega), getLsbD_shiftRight n 24 (by decide)]
  congr 1
  show 24 + (i - 8 - 8 - 8) = i
  omega

theorem sealFrame_eq (bytes : List UInt8) :
    ∃ high low, sealFrame bytes = bytes ++ [high, low] := ⟨_, _, rfl⟩

theorem length_sealFrame (bytes : List UInt8) : (sealFrame bytes).length = bytes.length + 2 := by
  simp [sealFrame]

/-- A sealed frame has a correct CRC. -/
theorem verifyCrc_sealFrame (bytes : List UInt8) : admin.verifyCrc (sealFrame bytes) = true := by
  have htake : (sealFrame bytes).take ((sealFrame bytes).length - 2) = bytes := by
    rw [length_sealFrame]
    simp [sealFrame]
  show (sealFrame ((sealFrame bytes).take ((sealFrame bytes).length - 2)) == sealFrame bytes) = true
  rw [htake]
  exact beq_self_eq_true _

/-! ### The Board -/

/-- A chunk frame: command 6, board, offset, data. -/
def updateBoard : UpdateBoard where
  readChunk frame :=
    if frame.getD 5 0 = 6 then
      some (read32 (frame.drop 7), (frame.drop 11).take (frame.length - 13))
    else none

theorem updateBoard_reads (board : UInt8) : updateBoard.Reads admin board where
  chunk sequence epoch offset data _ := by
    -- header, command, board, offset, data, CRC
    obtain ⟨high, low, hframe⟩ : ∃ high low,
        admin.buildUpdateChunkFrame board sequence epoch offset data =
          [0xA5, 14, 0xFF, sequence, epoch, 6, board] ++
            (bytes32 offset ++ (data ++ [high, low])) := by
      obtain ⟨high, low, hseal⟩ := sealFrame_eq ([0xA5, typeCode .admin, 0xFF, sequence, epoch] ++
        ([6, board] ++ bytes32 offset ++ data))
      refine ⟨high, low, hseal.trans ?_⟩
      simp [typeCode, bytes32]
    have hlength : ([0xA5, 14, 0xFF, sequence, epoch, 6, board] ++
        (bytes32 offset ++ (data ++ [high, low]))).length - 13 = data.length := by
      simp [bytes32]
    unfold updateBoard
    dsimp only
    rw [hframe, hlength]
    simp only [List.cons_append, List.nil_append, List.getD_cons_succ, List.getD_cons_zero, if_true,
      List.drop_succ_cons, List.drop_zero]
    rw [read32_bytes32]
    simp [bytes32]
  query _ _ := rfl
  begin _ _ _ _ := rfl
  commit _ _ := rfl

/-- An ack of board 1. -/
def updateAck (command : UInt8) (offset : UInt32) : List UInt8 :=
  frame .admin 0xFF 0 1 ([command, 1, 0] ++ bytes32 offset)

/-- The version report of board 1. -/
def versionFrame : List UInt8 := frame .admin 0xFF 0 1 ([1, 1] ++ List.replicate 11 0)

theorem updateReply_updateAck (command : UInt8) (offset : UInt32) :
    Comm.updateReply admin 1 command ((updateAck command offset).drop protocol.kHeaderBytes) =
      some (0, offset) := by
  have hpayload : (updateAck command offset).drop protocol.kHeaderBytes =
      [command, 1, 0] ++ (bytes32 offset ++ (updateAck command offset).drop 12) := by
    simp [updateAck, frame, sealFrame, bytes32, protocol]
  rw [hpayload]
  have hread : Comm.updateReply admin 1 command
      ([command, 1, 0] ++ (bytes32 offset ++ (updateAck command offset).drop 12)) =
        some (0, read32 (bytes32 offset ++ (updateAck command offset).drop 12)) := by
    simp [Comm.updateReply, admin]
  rw [hread, read32_bytes32]

/-! ### Reading from the Script -/

theorem readExact_script {w : Script} {bytes rest : List UInt8} (hchunks : w.chunks = [])
    (hrx : w.rx = bytes ++ rest) :
    port.readExact bytes.length w = (some bytes, { w with rx := rest }) := by
  cases bytes with
  | nil =>
    obtain rfl : rest = w.rx := hrx.symm
    rfl
  | cons b bytes =>
    have hread : port.read (bytes.length + 1) w = (b :: bytes, { w with rx := rest }) := by
      simp [port, hchunks, hrx]
    show port.readExactLoop (bytes.length + 1) (bytes.length + 1) w = _
    unfold SerialPort.readExactLoop
    rw [hread]
    dsimp only
    have hdone : bytes.length + 1 - (b :: bytes).length = 0 := by simp
    rw [hdone]
    cases bytes.length <;> simp [SerialPort.readExactLoop]

/-- The loop takes a frame that is there, if it is accepted. -/
theorem hunt_script {α : Type} {c : Comm protocol} {w : Script} {bytes rest : List UInt8}
    (message : String) (accept : List UInt8 → Option α) {a : α} (rounds : Nat)
    (hchunks : w.chunks = [])
    (hrx : w.rx = sealFrame ([0xA5, 14] ++ bytes) ++ rest)
    (haccept : accept ((sealFrame ([0xA5, 14] ++ bytes)).drop protocol.kHeaderBytes) = some a) :
    c.huntAdminFrame port admin (bytes.length + 4) message accept (rounds + 1) w =
        (some a, c, { w with rx := rest }) ∧
      Comm.huntedFrames protocol port admin (bytes.length + 4) accept (rounds + 1) w =
        [sealFrame ([0xA5, 14] ++ bytes)] := by
  have hseal : sealFrame ([0xA5, 14] ++ bytes) =
      0xA5 :: (sealFrame ([0xA5, 14] ++ bytes)).tail := by
    simp [sealFrame]
  have hlength : (sealFrame ([0xA5, 14] ++ bytes)).tail.length = bytes.length + 4 - 1 := by
    rw [List.length_tail, length_sealFrame]
    simp
  have htype : (sealFrame ([0xA5, 14] ++ bytes)).tail.getD 0 0 = 14 := by
    simp [sealFrame]
  generalize hframe : sealFrame ([0xA5, 14] ++ bytes) = frame at *
  have hfirst : port.read 1 w = ([0xA5], { w with rx := frame.tail ++ rest }) := by
    rw [hseal] at hrx
    simp [port, hchunks, hrx]
  have hrest : port.readExact (bytes.length + 4 - 1) { w with rx := frame.tail ++ rest } =
      (some frame.tail, { w with rx := rest }) := by
    rw [← hlength]
    exact readExact_script hchunks rfl
  have hcrc : admin.verifyCrc frame = true := by
    rw [← hframe]
    exact verifyCrc_sealFrame _
  constructor
  · unfold Comm.huntAdminFrame
    rw [hfirst]
    dsimp only
    rw [if_neg (by decide), hrest]
    dsimp only
    rw [htype, if_neg (by decide), ← hseal, hcrc, if_neg (by decide), haccept]
  · unfold Comm.huntedFrames
    rw [hfirst]
    dsimp only
    rw [if_neg (by decide), hrest]
    dsimp only
    rw [htype, if_neg (by decide), ← hseal, hcrc, if_neg (by decide), haccept]

/-! ### One Exchange after the Other -/

/-- A script with `rx` on its way and `replies` to the coming writes. -/
def answering (rx : List UInt8) (replies : List (List UInt8)) : Script :=
  { rx := rx, replies := replies, rounds := 1 }

theorem writeBytes_answering {c : Comm protocol} (hopen : c.portOpen = true) (context : String)
    (buffer reply : List UInt8) (replies : List (List UInt8)) :
    c.writeBytes port context buffer (answering [] (reply :: replies)) =
      (true, c, answering reply replies) := by
  simp [Comm.writeBytes, hopen, port, answering]

theorem await_answering {c : Comm protocol} (command : UInt8) (offset : UInt32)
    (timeoutMs : Nat) (replies : List (List UInt8)) :
    c.awaitAdminReply port admin 1 command timeoutMs
        (answering (updateAck command offset) replies) =
      (some (0, offset), c, answering [] replies) ∧
    Comm.awaitedFrames port admin protocol 1 command timeoutMs
        (answering (updateAck command offset) replies) =
      [.got (updateAck command offset)] := by
  have hrx : (answering (updateAck command offset) replies).rx =
      sealFrame ([0xA5, 14] ++ ([0xFF, 0, 1, command, 1, 0] ++ bytes32 offset)) ++ [] :=
    (List.append_nil _).symm
  obtain ⟨hhunt, hframes⟩ := hunt_script (c := c)
    s!"Invalid admin ack CRC from board {(1 : UInt8)}" (Comm.updateReply admin 1 command) 0 rfl hrx
    (updateReply_updateAck command offset)
  exact ⟨hhunt, congrArg (List.map Seen.got) hframes⟩

theorem query_answering {c : Comm protocol} (hopen : c.portOpen = true)
    (replies : List (List UInt8)) :
    (∃ version c' , c.queryBoardVersion port admin 1 250 (answering [] (versionFrame :: replies)) =
        (version, c', answering [] replies) ∧ version.responded = true ∧
        c' = { c with sequence := c.sequence + 1 }) ∧
      c.queryTraffic port admin 1 250 (answering [] (versionFrame :: replies)) =
        [.sent (admin.buildVersionQueryFrame 1 c.sequence c.epoch), .got versionFrame] := by
  have hopen' : ({ c with sequence := c.sequence + 1 } : Comm protocol).portOpen = true := hopen
  have hwrite := writeBytes_answering hopen' "AdminVersionQuery"
    (admin.buildVersionQueryFrame 1 c.sequence c.epoch) versionFrame replies
  have hrx : (answering versionFrame replies).rx =
      sealFrame ([0xA5, 14] ++ ([0xFF, 0, 1, 1, 1] ++ List.replicate 11 0)) ++ [] :=
    (List.append_nil _).symm
  have haccept : (Comm.versionReport admin 1 (versionFrame.drop protocol.kHeaderBytes)).isSome =
      true := by decide +kernel
  obtain ⟨version, hversion⟩ := Option.isSome_iff_exists.mp haccept
  -- whatever version the report carries, it counts as a response
  have hresponded : version.responded = true := by
    have hall : ∀ v, Comm.versionReport admin 1 (versionFrame.drop protocol.kHeaderBytes) = some v →
        v.responded = true := by
      intro v hv
      unfold Comm.versionReport at hv
      dsimp only at hv
      split at hv
      · contradiction
      · obtain rfl := Option.some.inj hv
        rfl
    exact hall version hversion
  -- the reply is hunted for after the query was written
  obtain ⟨hhunt, hframes⟩ := hunt_script (c := { c with sequence := c.sequence + 1 })
    s!"Invalid admin frame CRC while querying board {(1 : UInt8)}"
    (Comm.versionReport admin 1) 0 rfl hrx hversion
  have hvalid : protocol.isValidBoard 1 = true := rfl
  constructor
  · refine ⟨version, _, ?_, hresponded, rfl⟩
    unfold Comm.queryBoardVersion
    rw [if_pos ⟨hopen, hvalid⟩]
    have hflush : port.flushInput (answering [] (versionFrame :: replies)) =
        answering [] (versionFrame :: replies) := rfl
    dsimp only
    rw [hflush, hwrite]
    dsimp only
    have hhunt' : ({ c with sequence := c.sequence + 1 } : Comm protocol).huntAdminFrame port admin
        admin.kAdminFrameBytes s!"Invalid admin frame CRC while querying board {(1 : UInt8)}"
        (Comm.versionReport admin 1) (port.window (250 * 1000) (answering versionFrame replies))
        (answering versionFrame replies) =
          (some version, { c with sequence := c.sequence + 1 }, answering [] replies) := hhunt
    rw [hhunt']
  · unfold Comm.queryTraffic
    rw [if_pos ⟨hopen, hvalid⟩]
    have hflush : port.flushInput (answering [] (versionFrame :: replies)) =
        answering [] (versionFrame :: replies) := rfl
    dsimp only
    rw [hflush, hwrite]
    dsimp only
    have hframes' : Comm.huntedFrames protocol port admin admin.kAdminFrameBytes
        (Comm.versionReport admin 1) (port.window (250 * 1000) (answering versionFrame replies))
        (answering versionFrame replies) = [versionFrame] := hframes
    rw [hframes']
    rfl

/-- A request for board 1. -/
def updateOf (image : List UInt8) : FirmwareRequest :=
  { board := 1, imageBoardType := 0, image := some image }

/-- The board of the reference protocol. -/
abbrev boardOne : Receiver (List UInt8) (List UInt8) UInt8 :=
  updateReceiver protocol admin 1 updateBoard

/-! ### The Bus during an Exchange -/

section exchange

variable {b : UpdateBus}

/-- A frame without a chunk, and a reply that confirms none. -/
theorem bus_control (frame reply : List UInt8) (hconfirms : boardOne.confirms reply = none)
    (hrequests : b.requests = []) (hreplies : b.replies = []) :
    ∃ (b' : UpdateBus) (run : List (StagedTransfer.Act (List UInt8) (List UInt8))),
      Transition.exec (StagedTransfer.step boardOne) b run = some b' ∧
      Transition.observe (StagedTransfer.step boardOne) StagedTransfer.view b run =
        [.sent frame, .got reply] ∧
      b'.requests = [] ∧ b'.replies = [] ∧ b'.staged.length = b.staged.length := by
  refine ⟨b, [.send frame, .receive false, .reply reply, .deliver], ?_, ?_, hrequests, hreplies,
    rfl⟩
  · obtain ⟨requests, replies, staged, held⟩ := b
    obtain rfl : requests = [] := hrequests
    obtain rfl : replies = [] := hreplies
    simp [Transition.exec, StagedTransfer.step, hconfirms]
  · simp [Transition.observe, StagedTransfer.step, StagedTransfer.view, hconfirms, hrequests,
      hreplies]

/-- A chunk that is staged, and its ack. -/
theorem bus_chunk (frame : List UInt8) (offset : UInt32) (data : List UInt8)
    (hchunk : boardOne.chunkOf frame = some (offset.toNat, data))
    (hoffset : offset.toNat = b.staged.length) (hrequests : b.requests = [])
    (hreplies : b.replies = []) :
    ∃ (b' : UpdateBus) (run : List (StagedTransfer.Act (List UInt8) (List UInt8))),
      Transition.exec (StagedTransfer.step boardOne) b run = some b' ∧
      Transition.observe (StagedTransfer.step boardOne) StagedTransfer.view b run =
        [.sent frame, .got (updateAck admin.kAdminUpdateChunkAck offset)] ∧
      b'.requests = [] ∧ b'.replies = [] ∧
      b'.staged.length = b.staged.length + data.length := by
  have hconfirms : boardOne.confirms (updateAck admin.kAdminUpdateChunkAck offset) =
      some offset.toNat := confirms_chunkAck (updateReply_updateAck _ offset)
  rw [hoffset] at hconfirms hchunk
  refine ⟨{ b with staged := b.staged ++ data, held := b.staged.length :: b.held },
    [.send frame, .receive true, .reply (updateAck admin.kAdminUpdateChunkAck offset), .deliver],
    ?_, ?_, hrequests, hreplies, List.length_append⟩
  · obtain ⟨requests, replies, staged, held⟩ := b
    obtain rfl : requests = [] := hrequests
    obtain rfl : replies = [] := hreplies
    simp [Transition.exec, StagedTransfer.step, hconfirms, hchunk]
  · simp [Transition.observe, StagedTransfer.step, StagedTransfer.view, hconfirms, hchunk,
      hrequests, hreplies]

end exchange

/-! ### The Stages -/

section stages

variable {image : List UInt8} {replies script : List (List UInt8)} {c : Comm protocol}

/-- The version query. -/
theorem next_query (hsome : image ≠ []) (hopen : c.portOpen = true) (seen : List AdminSeen) :
    UpdateCall.next port admin (updateOf image)
        { stage := .query, comm := c, world := answering [] (versionFrame :: replies),
          seen := seen } =
      { stage := .runtimeTest, comm := { c with sequence := c.sequence + 1 },
        world := answering [] replies,
        seen := seen ++
          [.sent (admin.buildVersionQueryFrame 1 c.sequence c.epoch), .got versionFrame] } := by
  obtain ⟨⟨version, c', hcall, hresponded, rfl⟩, htraffic⟩ := query_answering hopen replies
  have hready : ¬ (c.portOpen = false ∨ image = []) := by simp [hopen, hsome]
  have htype : ¬ ((0 : UInt8) ≠ admin.kBoardTypeUnknown ∧ version.boardType ≠ 0) := by
    intro h
    exact h.1 rfl
  have hanswered : ¬ (true = false) := Bool.true_eq_false_eq_False
  simp only [UpdateCall.next, Comm.firmwareStep, Comm.stageTraffic, updateOf, Option.getD_some,
    if_neg hready, hcall, htraffic, hresponded, if_neg hanswered, if_neg htype]

/-- The runtime test. -/
theorem next_runtimeTest (hoff : c.runtimeEnabled = false) (w : Script) (seen : List AdminSeen) :
    UpdateCall.next port admin (updateOf image)
        { stage := .runtimeTest, comm := c, world := w, seen := seen } =
      { stage := .sendBegin, comm := c, world := w, seen := seen } := by
  simp [UpdateCall.next, Comm.firmwareStep, Comm.stageTraffic, hoff]

theorem handed_open (hopen : c.portOpen = true) (frame : List UInt8) :
    c.handed frame = [.sent frame] := by
  unfold Comm.handed
  rw [if_pos hopen]

/-- The begin frame and its ack. -/
theorem next_begin (hopen : c.portOpen = true) (seen : List AdminSeen) :
    (UpdateCall.next port admin (updateOf image))^[2]
        { stage := .sendBegin, comm := c,
          world := answering [] (updateAck admin.kAdminUpdateBeginAck 0 :: replies),
          seen := seen } =
      { stage := .nextChunk 0, comm := { c with sequence := c.sequence + 1 },
        world := answering [] replies,
        seen := seen ++
          [.sent (admin.buildUpdateBeginFrame 1 c.sequence c.epoch (UInt32.ofNat image.length)
            (protocol.crc16Ccitt image)), .got (updateAck admin.kAdminUpdateBeginAck 0)] } := by
  have hopen' : ({ c with sequence := c.sequence + 1 } : Comm protocol).portOpen = true := hopen
  have hhanded := handed_open hopen
    (admin.buildUpdateBeginFrame 1 c.sequence c.epoch (UInt32.ofNat image.length)
      (protocol.crc16Ccitt image))
  have hwrite := writeBytes_answering hopen' "UpdateBegin"
    (admin.buildUpdateBeginFrame 1 c.sequence c.epoch (UInt32.ofNat image.length)
      (protocol.crc16Ccitt image)) (updateAck admin.kAdminUpdateBeginAck 0) replies
  have hflush : port.flushInput
      (answering [] (updateAck admin.kAdminUpdateBeginAck 0 :: replies)) =
        answering [] (updateAck admin.kAdminUpdateBeginAck 0 :: replies) := rfl
  have hfirst : UpdateCall.next port admin (updateOf image)
      { stage := .sendBegin, comm := c,
        world := answering [] (updateAck admin.kAdminUpdateBeginAck 0 :: replies), seen := seen } =
      { stage := .awaitBegin, comm := { c with sequence := c.sequence + 1 },
        world := answering (updateAck admin.kAdminUpdateBeginAck 0) replies,
        seen := seen ++
          [.sent (admin.buildUpdateBeginFrame 1 c.sequence c.epoch (UInt32.ofNat image.length)
            (protocol.crc16Ccitt image))] } := by
    simp only [UpdateCall.next, Comm.firmwareStep, Comm.stageTraffic, updateOf, Option.getD_some,
      hflush, hwrite, hhanded]
  have hlast : ∀ (c : Comm protocol) (seen : List AdminSeen),
      UpdateCall.next port admin (updateOf image)
        { stage := .awaitBegin, comm := c,
          world := answering (updateAck admin.kAdminUpdateBeginAck 0) replies, seen := seen } =
      { stage := .nextChunk 0, comm := c, world := answering [] replies,
        seen := seen ++ [.got (updateAck admin.kAdminUpdateBeginAck 0)] } := by
    intro c seen
    obtain ⟨hawait, hframes⟩ := await_answering (c := c) admin.kAdminUpdateBeginAck 0 2000 replies
    have hok : ¬ (0 : UInt8) ≠ admin.kUpdateOk := by decide
    simp only [UpdateCall.next, Comm.firmwareStep, Comm.stageTraffic, updateOf, hawait, hframes,
      if_neg hok]
  show UpdateCall.next port admin (updateOf image)
    (UpdateCall.next port admin (updateOf image) _) = _
  rw [hfirst, hlast, List.append_assoc]
  rfl

/-- A chunk and its ack. -/
theorem next_chunk (replies : List (List UInt8)) (hopen : c.portOpen = true) {sent : Nat}
    (hmore : sent < image.length) (hsmall : sent < 2 ^ 32) (seen : List AdminSeen) :
    (UpdateCall.next port admin (updateOf image))^[3]
        { stage := .nextChunk sent, comm := c,
          world := answering []
            (updateAck admin.kAdminUpdateChunkAck (UInt32.ofNat sent) :: replies),
          seen := seen } =
      { stage := .nextChunk (sent + min admin.kAdminChunkBytes (image.length - sent)),
        comm := { c with sequence := c.sequence + 1 }, world := answering [] replies,
        seen := seen ++
          [.sent (chunkFrame admin (updateOf image) c.sequence c.epoch sent),
            .got (updateAck admin.kAdminUpdateChunkAck (UInt32.ofNat sent))] } := by
  have hopen' : ({ c with sequence := c.sequence + 1 } : Comm protocol).portOpen = true := hopen
  -- the frame is built
  have hfirst : ∀ (w : Script) (seen : List AdminSeen),
      UpdateCall.next port admin (updateOf image)
        { stage := .nextChunk sent, comm := c, world := w, seen := seen } =
      { stage := .sendChunk sent 0 (chunkFrame admin (updateOf image) c.sequence c.epoch sent),
        comm := { c with sequence := c.sequence + 1 }, world := w, seen := seen } := by
    intro w seen
    simp only [UpdateCall.next, Comm.firmwareStep, Comm.stageTraffic, updateOf, Option.getD_some,
      hmore, if_true, List.append_nil, chunkFrame]
  -- it is written, and the board answers
  have hsecond : ∀ (c : Comm protocol) (frame reply : List UInt8) (seen : List AdminSeen),
      c.portOpen = true →
      UpdateCall.next port admin (updateOf image)
        { stage := .sendChunk sent 0 frame, comm := c, world := answering [] (reply :: replies),
          seen := seen } =
      { stage := .awaitChunk sent 0 frame, comm := c, world := answering reply replies,
        seen := seen ++ [.sent frame] } := by
    intro c frame reply seen hopen
    have hwrite := writeBytes_answering hopen "UpdateChunk" frame reply replies
    have hhanded := handed_open hopen frame
    simp only [UpdateCall.next, Comm.firmwareStep, Comm.stageTraffic, hwrite, hhanded]
  -- the answer acknowledges the offset
  have hlast : ∀ (c : Comm protocol) (frame : List UInt8) (seen : List AdminSeen),
      UpdateCall.next port admin (updateOf image)
        { stage := .awaitChunk sent 0 frame, comm := c,
          world := answering (updateAck admin.kAdminUpdateChunkAck (UInt32.ofNat sent)) replies,
          seen := seen } =
      { stage := .nextChunk (sent + min admin.kAdminChunkBytes (image.length - sent)), comm := c,
        world := answering [] replies,
        seen := seen ++ [.got (updateAck admin.kAdminUpdateChunkAck (UInt32.ofNat sent))] } := by
    intro c frame seen
    obtain ⟨hawait, hframes⟩ := await_answering (c := c) admin.kAdminUpdateChunkAck
      (UInt32.ofNat sent) 1000 replies
    have hok : ¬ (0 : UInt8) ≠ admin.kUpdateOk := by decide
    have hoffset : (UInt32.ofNat sent).toNat = sent := by
      rw [UInt32.toNat_ofNat']
      exact Nat.mod_eq_of_lt hsmall
    simp only [UpdateCall.next, Comm.firmwareStep, Comm.stageTraffic, updateOf, Option.getD_some,
      hawait, hframes, if_neg hok, hoffset, if_true]
  show UpdateCall.next port admin (updateOf image) (UpdateCall.next port admin (updateOf image)
    (UpdateCall.next port admin (updateOf image) _)) = _
  rw [hfirst, hsecond _ _ _ _ hopen', hlast, List.append_assoc]
  rfl

/-- The commit frame and the result. -/
theorem next_commit (hopen : c.portOpen = true) {sent : Nat} (hall : image.length ≤ sent)
    (seen : List AdminSeen) :
    (UpdateCall.next port admin (updateOf image))^[3]
        { stage := .nextChunk sent, comm := c,
          world := answering [] (updateAck admin.kAdminUpdateResult 0 :: replies),
          seen := seen } =
      { stage := .returned { ok := true, board := 1, status := 0, bytesSent := sent },
        comm := { c with sequence := c.sequence + 1 }, world := answering [] replies,
        seen := seen ++
          [.sent (admin.buildUpdateCommitFrame 1 c.sequence c.epoch),
            .got (updateAck admin.kAdminUpdateResult 0)] } := by
  have hopen' : ({ c with sequence := c.sequence + 1 } : Comm protocol).portOpen = true := hopen
  have hfirst : ∀ (w : Script) (seen : List AdminSeen),
      UpdateCall.next port admin (updateOf image)
        { stage := .nextChunk sent, comm := c, world := w, seen := seen } =
      { stage := .sendCommit sent, comm := c, world := w, seen := seen } := by
    intro w seen
    simp only [UpdateCall.next, Comm.firmwareStep, Comm.stageTraffic, updateOf, Option.getD_some,
      Nat.not_lt.mpr hall, if_false, List.append_nil]
  have hwrite := writeBytes_answering hopen' "UpdateCommit"
    (admin.buildUpdateCommitFrame 1 c.sequence c.epoch) (updateAck admin.kAdminUpdateResult 0)
    replies
  have hhanded := handed_open hopen (admin.buildUpdateCommitFrame 1 c.sequence c.epoch)
  have hsecond : UpdateCall.next port admin (updateOf image)
      { stage := .sendCommit sent, comm := c,
        world := answering [] (updateAck admin.kAdminUpdateResult 0 :: replies), seen := seen } =
      { stage := .awaitResult sent, comm := { c with sequence := c.sequence + 1 },
        world := answering (updateAck admin.kAdminUpdateResult 0) replies,
        seen := seen ++ [.sent (admin.buildUpdateCommitFrame 1 c.sequence c.epoch)] } := by
    simp only [UpdateCall.next, Comm.firmwareStep, Comm.stageTraffic, updateOf, hwrite, hhanded]
  have hlast : ∀ (c : Comm protocol) (seen : List AdminSeen),
      UpdateCall.next port admin (updateOf image)
        { stage := .awaitResult sent, comm := c,
          world := answering (updateAck admin.kAdminUpdateResult 0) replies, seen := seen } =
      { stage := .returned { ok := true, board := 1, status := 0, bytesSent := sent }, comm := c,
        world := answering [] replies,
        seen := seen ++ [.got (updateAck admin.kAdminUpdateResult 0)] } := by
    intro c seen
    obtain ⟨hawait, hframes⟩ := await_answering (c := c) admin.kAdminUpdateResult 0 10000 replies
    have hok : (0 : UInt8) = admin.kUpdateOk := rfl
    simp only [UpdateCall.next, Comm.firmwareStep, Comm.stageTraffic, updateOf, hawait, hframes,
      if_pos hok]
  show UpdateCall.next port admin (updateOf image) (UpdateCall.next port admin (updateOf image)
    (UpdateCall.next port admin (updateOf image) _)) = _
  rw [hfirst, hsecond, hlast, List.append_assoc]
  rfl

end stages

/-! ### The Whole Transfer -/

/-- The acks of the chunks, in order. -/
def chunkAcks (image : List UInt8) : List (List UInt8) :=
  (List.range ((image.length + 63) / 64)).map fun j =>
    updateAck admin.kAdminUpdateChunkAck (UInt32.ofNat (64 * j))

/-- What board 1 answers to an undisturbed transfer. -/
def answers (image : List UInt8) : List (List UInt8) :=
  versionFrame :: updateAck admin.kAdminUpdateBeginAck 0 ::
    (chunkAcks image ++ [updateAck admin.kAdminUpdateResult 0])

/-- A host without runtime updates. -/
def stoppedComm : Comm protocol := { comm with runtimeEnabled := false }

/-- The call stands at a stage, with so many replies to come, and the bus is
    empty. -/
structure Reached (image : List UInt8) (stage : FirmwareStage) (replies : List (List UInt8))
    (staged n : Nat) (c : Comm protocol) (seen : List AdminSeen) (b : UpdateBus)
    (run : List (StagedTransfer.Act (List UInt8) (List UInt8))) : Prop where
  call : UpdateCall.after port admin (updateOf image) stoppedComm (answering [] (answers image)) n =
    { stage := stage, comm := c, world := answering [] replies, seen := seen }
  portOpen : c.portOpen = true
  runtime : c.runtimeEnabled = false
  busRun : Transition.exec (StagedTransfer.step boardOne) StagedTransfer.Bus.empty run = some b
  traffic : Transition.observe (StagedTransfer.step boardOne) StagedTransfer.view
    StagedTransfer.Bus.empty run = seen
  noRequests : b.requests = []
  noReplies : b.replies = []
  length : b.staged.length = staged

section whole

variable {image : List UInt8} {stage stage' : FirmwareStage} {replies replies' : List (List UInt8)}
  {staged staged' n : Nat} {c c' : Comm protocol} {seen traffic : List AdminSeen} {b b' : UpdateBus}
  {run run' : List (StagedTransfer.Act (List UInt8) (List UInt8))}

/-- Some stages of the call, and what the bus does meanwhile. -/
theorem Reached.extend (h : Reached image stage replies staged n c seen b run) (k : Nat)
    (hnext : (UpdateCall.next port admin (updateOf image))^[k]
      { stage := stage, comm := c, world := answering [] replies, seen := seen } =
        { stage := stage', comm := c', world := answering [] replies', seen := seen ++ traffic })
    (hopen : c'.portOpen = true) (hoff : c'.runtimeEnabled = false)
    (hrun : Transition.exec (StagedTransfer.step boardOne) b run' = some b')
    (hseen : Transition.observe (StagedTransfer.step boardOne) StagedTransfer.view b run' = traffic)
    (hrequests : b'.requests = []) (hreplies : b'.replies = [])
    (hstaged : b'.staged.length = staged') :
    Reached image stage' replies' staged' (k + n) c' (seen ++ traffic) b' (run ++ run') := by
  refine ⟨?_, hopen, hoff, ?_, ?_, hrequests, hreplies, hstaged⟩
  · have hcall := h.call
    unfold UpdateCall.after at hcall ⊢
    rw [Function.iterate_add_apply, hcall]
    exact hnext
  · exact Transition.exec_append_some.mpr ⟨b, h.busRun, hrun⟩
  · rw [Transition.observe_append h.busRun, h.traffic, hseen]

/-- The stages before the first chunk. -/
theorem reached_begin (hsome : image ≠ []) : ∃ n c seen b run,
    Reached image (.nextChunk 0) (chunkAcks image ++ [updateAck admin.kAdminUpdateResult 0])
      0 n c seen b run := by
  have hstart : Reached image .query (answers image) 0 0 stoppedComm [] StagedTransfer.Bus.empty
      [] := ⟨rfl, rfl, rfl, rfl, rfl, rfl, rfl, rfl⟩
  have hversion : boardOne.confirms versionFrame = none := by decide +kernel
  have hbegin : boardOne.confirms (updateAck admin.kAdminUpdateBeginAck 0) = none := by
    decide +kernel
  -- the version query
  obtain ⟨b₁, run₁, hrun₁, hseen₁, hrequests₁, hreplies₁, hstaged₁⟩ :=
    bus_control (b := StagedTransfer.Bus.empty)
      (admin.buildVersionQueryFrame 1 stoppedComm.sequence stoppedComm.epoch) versionFrame hversion
      rfl rfl
  have hqueried := hstart.extend 1 (next_query hsome rfl []) rfl rfl hrun₁ hseen₁ hrequests₁
    hreplies₁ hstaged₁
  -- the runtime test
  have hidle : Transition.exec (StagedTransfer.step boardOne) b₁ [] = some b₁ := rfl
  have hsilent : Transition.observe (StagedTransfer.step boardOne) StagedTransfer.view b₁ [] = [] :=
    rfl
  have htested := hqueried.extend 1 (by
    rw [List.append_nil]
    exact next_runtimeTest hqueried.runtime _ _) hqueried.portOpen hqueried.runtime hidle hsilent
    hrequests₁ hreplies₁ hqueried.length
  -- the begin frame
  obtain ⟨b₂, run₂, hrun₂, hseen₂, hrequests₂, hreplies₂, hstaged₂⟩ :=
    bus_control (b := b₁) _ (updateAck admin.kAdminUpdateBeginAck 0) hbegin hrequests₁ hreplies₁
  have hbegun := htested.extend 2 (next_begin htested.portOpen _) htested.portOpen htested.runtime
    hrun₂ hseen₂ hrequests₂ hreplies₂ (hstaged₂.trans hqueried.length)
  exact ⟨_, _, _, _, _, hbegun⟩

/-- One chunk after the other. -/
theorem reached_chunk (hsome : image ≠ []) (hsize : image.length ≤ 2 ^ 32) (j : Nat)
    (hj : j ≤ (image.length + 63) / 64) : ∃ n c seen b run,
    Reached image (.nextChunk (min (64 * j) image.length))
      ((chunkAcks image).drop j ++ [updateAck admin.kAdminUpdateResult 0])
      (min (64 * j) image.length) n c seen b run := by
  induction j with
  | zero =>
    rw [Nat.mul_zero, Nat.zero_min]
    exact reached_begin hsome
  | succ j ih =>
    obtain ⟨n, c, seen, b, run, hreached⟩ := ih (by omega)
    have hmore : 64 * j < image.length := by omega
    have hposition : min (64 * j) image.length = 64 * j := Nat.min_eq_left hmore.le
    have hafter : 64 * j + min admin.kAdminChunkBytes (image.length - 64 * j) =
        min (64 * (j + 1)) image.length := by
      show 64 * j + min 64 (image.length - 64 * j) = _
      omega
    -- the next acknowledgement in the script is the one for this chunk
    have hack : (chunkAcks image).drop j =
        updateAck admin.kAdminUpdateChunkAck (UInt32.ofNat (64 * j)) ::
          (chunkAcks image).drop (j + 1) := by
      have hlt : j < (chunkAcks image).length := by
        simp only [chunkAcks, List.length_map, List.length_range]
        omega
      rw [List.drop_eq_getElem_cons hlt]
      simp [chunkAcks]
    rw [hposition, hack] at hreached
    have hoffset : (UInt32.ofNat (64 * j)).toNat = 64 * j := by
      rw [UInt32.toNat_ofNat']
      exact Nat.mod_eq_of_lt (by omega)
    -- and the board reads the chunk at this offset
    have hchunk : boardOne.chunkOf (chunkFrame admin (updateOf image) c.sequence c.epoch (64 * j)) =
        some ((UInt32.ofNat (64 * j)).toNat, (image.drop (64 * j)).take 64) := by
      have hread := (updateBoard_reads 1).chunk c.sequence c.epoch (UInt32.ofNat (64 * j))
        ((image.drop (64 * j)).take 64) (List.length_take_le _ _)
      exact congrArg (Option.map fun chunk => (chunk.1.toNat, chunk.2)) hread
    obtain ⟨b', run', hrun', hseen', hrequests', hreplies', hstaged'⟩ :=
      bus_chunk _ (UInt32.ofNat (64 * j)) _ hchunk (hoffset.trans hreached.length.symm)
        hreached.noRequests hreached.noReplies
    have hnext := next_chunk ((chunkAcks image).drop (j + 1) ++
      [updateAck admin.kAdminUpdateResult 0]) hreached.portOpen hmore (by omega) seen
    rw [hafter] at hnext
    refine ⟨_, _, _, _, _, hreached.extend 3 hnext hreached.portOpen hreached.runtime hrun' hseen'
      hrequests' hreplies' ?_⟩
    rw [hstaged', hreached.length, List.length_take, List.length_drop]
    omega

/-- **An undisturbed transfer succeeds**, for every image up to 2^32 bytes. -/
theorem undisturbed_transfer (hsome : image ≠ []) (hsize : image.length ≤ 2 ^ 32) :
    ∃ n c seen b run, Reached image
      (.returned { ok := true, board := 1, status := 0, bytesSent := image.length }) []
      image.length n c seen b run := by
  obtain ⟨n, c, seen, b, run, hreached⟩ := reached_chunk hsome hsize _ (le_refl _)
  have hall : min (64 * ((image.length + 63) / 64)) image.length = image.length := by omega
  have hdone : (chunkAcks image).drop ((image.length + 63) / 64) = [] := by
    apply List.drop_eq_nil_of_le
    simp [chunkAcks]
  rw [hall, hdone] at hreached
  have hresult : boardOne.confirms (updateAck admin.kAdminUpdateResult 0) = none := by
    decide +kernel
  obtain ⟨b', run', hrun', hseen', hrequests', hreplies', hstaged'⟩ :=
    bus_control _ (updateAck admin.kAdminUpdateResult 0) hresult hreached.noRequests
      hreached.noReplies
  exact ⟨_, _, _, _, _, hreached.extend 3 (next_commit hreached.portOpen (le_refl _) seen)
    hreached.portOpen hreached.runtime hrun' hseen' hrequests' hreplies'
    (hstaged'.trans hreached.length)⟩

/-- The begin frame of an image of 2^32 bytes does not carry its length,
    and yet the transfer returns ok. -/
theorem begin_length_wraps :
    ¬ ∀ (request : FirmwareRequest) (c : Comm protocol) (w : Script) (n : Nat)
        (run : List (StagedTransfer.Act (List UInt8) (List UInt8))) (b : UpdateBus),
        Transition.exec
            (StagedTransfer.step (updateReceiver protocol admin request.board updateBoard))
            StagedTransfer.Bus.empty run = some b →
        Transition.observe
            (StagedTransfer.step (updateReceiver protocol admin request.board updateBoard))
            StagedTransfer.view StagedTransfer.Bus.empty run =
          (UpdateCall.after port admin request c w n).seen →
        ∀ result, (UpdateCall.after port admin request c w n).stage = .returned result →
          result.ok = true →
          ImageDelivered protocol admin request b (UpdateCall.after port admin request c w n).seen
            result.bytesSent := by
  intro h
  obtain ⟨image, hlength⟩ : ∃ image : List UInt8, image.length = 2 ^ 32 :=
    ⟨List.replicate (2 ^ 32) 0, List.length_replicate⟩
  have hsome : image ≠ [] := by
    intro hnil
    rw [hnil] at hlength
    contradiction
  obtain ⟨n, c, seen, b, run, hreached⟩ := undisturbed_transfer hsome hlength.le
  have hcall := hreached.call
  have hdelivered := h (updateOf image) stoppedComm (answering [] (answers image)) n run b
    hreached.busRun (by rw [hcall]; exact hreached.traffic) _ (by rw [hcall]) rfl
  obtain ⟨imageBytes, -, himageBytes⟩ := hdelivered.begin
  have hbytes : imageBytes.toNat = 2 ^ 32 := himageBytes.trans hlength
  have hlt : imageBytes.toNat < 2 ^ 32 := imageBytes.toNat_lt
  omega

end whole

/-- What the bus does while one byte is transferred. -/
def oneByteRun : List (StagedTransfer.Act (List UInt8) (List UInt8)) :=
  [.send (admin.buildVersionQueryFrame 1 0 1), .receive false, .reply versionFrame, .deliver,
    .send (admin.buildUpdateBeginFrame 1 1 1 1 (crc [0x55])), .receive false,
    .reply (updateAck admin.kAdminUpdateBeginAck 0), .deliver,
    .send (admin.buildUpdateChunkFrame 1 2 1 0 [0x55]), .receive true,
    .reply (updateAck admin.kAdminUpdateChunkAck 0), .deliver,
    .send (admin.buildUpdateCommitFrame 1 3 1), .receive false,
    .reply (updateAck admin.kAdminUpdateResult 0), .deliver]

/-- An image of one byte is delivered. -/
theorem one_byte_delivered :
    ImageDelivered protocol admin (updateOf [0x55])
      { requests := [], replies := [], staged := [0x55], held := [0] }
      (UpdateCall.after port admin (updateOf [0x55]) stoppedComm
        (answering [] (answers [0x55])) 10).seen 1 := by
  have hseen : Transition.observe (StagedTransfer.step boardOne) StagedTransfer.view
      StagedTransfer.Bus.empty oneByteRun =
        (UpdateCall.after port admin (updateOf [0x55]) stoppedComm
          (answering [] (answers [0x55])) 10).seen := by
    decide +kernel
  have h := (firmware_transfer (updateBoard_reads (updateOf [0x55]).board) (Or.inl (by decide))
    stoppedComm (answering [] (answers [0x55])) 10 oneByteRun
    { requests := [], replies := [], staged := [0x55], held := [0] } rfl hseen).2
    { ok := true, board := 1, status := 0, bytesSent := 1 } (by decide +kernel)
  exact h

end Reference

end LibPpuc
