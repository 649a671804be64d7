import LibPpuc.Runtime.System

/-! # A Concrete Instance of the Parameters

  One protocol header and one serial port that satisfy what the model asks
  of them, so that no hypothesis on them is vacuous.  Bits are numbered from
  the least significant one, the CRC is CRC-16/CCITT, frames are a five-byte
  header, a payload and a big-endian CRC.

  `Script` is a world in which everything is laid out in advance: the bytes
  that will arrive, how many each read returns, how each write ends.
-/

namespace LibPpuc

namespace Reference

/-! ### Bitmaps -/

/-- Bit `i % 8` of byte `i / 8`, counted from the least significant bit. -/
def bits : BitAccess where
  get b i := ((b[i / 8]?).getD 0).toBitVec.getLsbD (i % 8)
  set b i v :=
    b.setIfInBounds (i / 8)
      (let mask : UInt8 := (1 : UInt8) <<< UInt8.ofNat (i % 8)
       if v then (b[i / 8]?).getD 0 ||| mask else (b[i / 8]?).getD 0 &&& ~~~mask)

/-- Bit `q` of the single-bit mask at `p`. -/
theorem getLsbD_shift_one {p q : Nat} (hp : p < 8) (hq : q < 8) :
    ((1 : UInt8) <<< UInt8.ofNat p).toBitVec.getLsbD q = decide (q = p) := by
  have hall : ∀ p q : Fin 8,
      ((1 : UInt8) <<< UInt8.ofNat p.val).toBitVec.getLsbD q.val = decide (q.val = p.val) := by
    decide
  exact hall ⟨p, hp⟩ ⟨q, hq⟩

theorem bits_lawful : bits.Lawful (· % 8) where
  pos_lt i := Nat.mod_lt i (by decide)
  pos_inj i j hbyte hpos := by
    have hi := Nat.div_add_mod i 8
    have hj := Nat.div_add_mod j 8
    have hpos' : i % 8 = j % 8 := hpos
    omega
  get_eq b i h := by
    have hget : b[i / 8]? = some b[i / 8] := Vector.getElem?_eq_getElem h
    simp only [bits, hget, Option.getD_some]
  set_eq b i v k hk q hq := by
    have hmask := getLsbD_shift_one (p := i % 8) (q := q) (Nat.mod_lt i (by decide)) hq
    simp only [bits, Vector.getElem_setIfInBounds]
    by_cases hki : k = i / 8
    · subst hki
      have hget : b[i / 8]? = some b[i / 8] := Vector.getElem?_eq_getElem hk
      simp only [if_true, true_and, hget, Option.getD_some]
      cases v with
      | true =>
        rw [if_pos rfl, UInt8.toBitVec_or, BitVec.getLsbD_or, hmask]
        by_cases hqp : q = i % 8 <;> simp [hqp]
      | false =>
        rw [if_neg (by decide), UInt8.toBitVec_and, BitVec.getLsbD_and, UInt8.toBitVec_not,
          BitVec.getLsbD_not, hmask]
        by_cases hqp : q = i % 8 <;> simp [hqp, hq]
    · have hik : ¬ i / 8 = k := fun h => hki h.symm
      simp [hki, hik]

/-! ### Frames -/

/-- CRC-16/CCITT, one bit of a byte. -/
def crcBit (crc : UInt16) : UInt16 :=
  if crc &&& 0x8000 = 0 then crc <<< 1 else (crc <<< 1) ^^^ 0x1021

/-- CRC-16/CCITT, one byte. -/
def crcByte (crc : UInt16) (b : UInt8) : UInt16 :=
  crcBit (crcBit (crcBit (crcBit (crcBit (crcBit (crcBit (crcBit
    (crc ^^^ (b.toUInt16 <<< 8)))))))))

def crc (bytes : List UInt8) : UInt16 := bytes.foldl crcByte 0xFFFF

def typeCode : FrameType → UInt8
  | .setup => 1
  | .mapping => 2
  | .config => 3
  | .configAck => 4
  | .restart => 5
  | .reset => 6
  | .heartbeat => 7
  | .error => 8
  | .outputState => 9
  | .switchState => 10
  | .switchNoChange => 11
  | .switchRefresh => 12
  | .trigger => 13
  | .admin => 14
  | .unknown code => code

def extractType (b : UInt8) : FrameType :=
  match b with
  | 1 => .setup
  | 2 => .mapping
  | 3 => .config
  | 4 => .configAck
  | 5 => .restart
  | 6 => .reset
  | 7 => .heartbeat
  | 8 => .error
  | 9 => .outputState
  | 10 => .switchState
  | 11 => .switchNoChange
  | 12 => .switchRefresh
  | 13 => .trigger
  | 14 => .admin
  | b => .unknown b

/-- Append the CRC, high byte first. -/
def sealFrame (bytes : List UInt8) : List UInt8 :=
  bytes ++ [(crc bytes >>> 8).toUInt8, (crc bytes).toUInt8]

/-- Header, payload, CRC. -/
def frame (type : FrameType) (nextBoard sequence epoch : UInt8) (payload : List UInt8) :
    List UInt8 :=
  sealFrame ([0xA5, typeCode type, nextBoard, sequence, epoch] ++ payload)

def bytes16 (n : UInt16) : List UInt8 := [(n >>> 8).toUInt8, n.toUInt8]

def bytes32 (n : UInt32) : List UInt8 :=
  [(n >>> 24).toUInt8, (n >>> 16).toUInt8, (n >>> 8).toUInt8, n.toUInt8]

def read32 (bytes : List UInt8) : UInt32 :=
  (bytes.take 4).foldl (fun n b => (n <<< 8) ||| b.toUInt32) 0

def bitsToBytes (n : Nat) : Nat := (n + 7) / 8

/-- The reference protocol, with at most 16 coils, lamps and switches. -/
def protocol : Protocol where
  bits := bits
  kSyncByte := 0xA5
  kNoBoard := 0xFF
  kHeaderBytes := 5
  kCrcBytes := 2
  kMaxCoilBits := 16
  kMaxCoilBytes := 2
  kMaxLampBits := 16
  kMaxLampBytes := 2
  kMaxSwitchBits := 16
  kMaxSwitchBytes := 2
  kGiStrings := 4
  kSetupPayloadBytes := 6
  kMappingPayloadBytes := 5
  kConfigPayloadBytes := 8
  kConfigAckPayloadBytes := 5
  kConfigAckFrameBytes := 12
  kSwitchStatusBytes := 3
  kConfigAckAccepted := 0
  kStatusInSync := 0
  kStatusNeedsSetup := 1
  kStatusMappingIncomplete := 2
  kStatusSequenceGap := 4
  kStatusParserResynced := 8
  kStatusSwitchOverflow := 16
  kFlagNone := 0
  kDomainCoil := 0
  kDomainLamp := 1
  kDomainSwitch := 2
  defaultRuntimeConfig := { coilBits := 1, lampBits := 1, switchBits := 1 }
  extractType := extractType
  crc16Ccitt := crc
  bitsToBytes := bitsToBytes
  isValidRuntimeConfig cfg :=
    decide (1 ≤ cfg.coilBits ∧ cfg.coilBits ≤ 16 ∧ 1 ≤ cfg.lampBits ∧ cfg.lampBits ≤ 16 ∧
      1 ≤ cfg.switchBits ∧ cfg.switchBits ≤ 16)
  isValidBoard b := decide (b.toNat < 8 ∨ b = 0xFF)
  clampGiLevel level := if 8 < level then 8 else level
  switchPayloadBytes cfg := 3 + bitsToBytes cfg.switchBits
  switchNoChangePayloadBytes := 3
  buildConfigFrame nextBoard sequence epoch board topic index key value :=
    frame .config nextBoard sequence epoch ([board, topic, index, key] ++ bytes32 value)
  buildSetupFrame nextBoard sequence epoch cfg :=
    frame .setup nextBoard sequence epoch
      (bytes16 (UInt16.ofNat cfg.coilBits) ++ bytes16 (UInt16.ofNat cfg.lampBits) ++
        bytes16 (UInt16.ofNat cfg.switchBits))
  buildMappingFrame nextBoard sequence epoch domain index number :=
    frame .mapping nextBoard sequence epoch ([domain] ++ bytes16 index ++ bytes16 number)
  buildBareFrame type _ nextBoard sequence epoch := frame type nextBoard sequence epoch []
  buildTriggerFrame nextBoard sequence epoch source eventId value :=
    frame .trigger nextBoard sequence epoch ([source] ++ bytes16 eventId ++ [value])
  buildOutputStateFrame nextBoard sequence epoch cfg coils lamps gi :=
    frame .outputState nextBoard sequence epoch
      (coils.toList.take (bitsToBytes cfg.coilBits) ++
        lamps.toList.take (bitsToBytes cfg.lampBits) ++ gi.toList)
  buildSwitchReplyFrame sendState nextBoard sequence epoch seenEpoch seenSequence status
      switches bytes :=
    frame (if sendState then .switchState else .switchNoChange) nextBoard sequence epoch
      ([seenEpoch, seenSequence, status] ++
        if sendState then switches.toList.take bytes else [])

theorem protocol_lawful : protocol.Lawful (· % 8) where
  bits := bits_lawful
  coilBytes := by decide
  lampBytes := by decide
  switchBytes := by decide
  validConfig config h := by
    have hbits := of_decide_eq_true h
    exact ⟨hbits.2.1, hbits.2.2.2.1, hbits.2.2.2.2.2⟩
  acceptsConfig config hcoil hlamp hswitch :=
    decide_eq_true ⟨hcoil.1, hcoil.2, hlamp.1, hlamp.2, hswitch.1, hswitch.2⟩
  maxCoilBits := by decide
  maxLampBits := by decide
  maxSwitchBits := by decide
  bitsToBytes n i hi := by
    show i / 8 < (n + 7) / 8
    omega

/-! ### A Scripted World -/

/-- What will happen at the port. -/
structure Script where
  /-- Bytes that are still to be read. -/
  rx : List UInt8 := []
  /-- Sizes of the coming reads; further reads are as long as asked for. -/
  chunks : List Nat := []
  /-- Results of the coming writes; further writes succeed. -/
  writes : List Int := []
  /-- What the boards answer to the coming writes. -/
  replies : List (List UInt8) := []
  rounds : Nat := 0
  now : Nat := 0
  deriving DecidableEq

/-- The port of a scripted world. -/
def port : SerialPort Script where
  write buffer w :=
    let answered := { w with rx := w.rx ++ w.replies.headD [], replies := w.replies.tail }
    match w.writes with
    | [] => (buffer.length, answered)
    | r :: rest => (r, { answered with writes := rest })
  lastErrorMessage _ := none
  read n w :=
    match w.chunks with
    | [] => (w.rx.take n, { w with rx := w.rx.drop n })
    | k :: rest => (w.rx.take (min n k), { w with rx := w.rx.drop (min n k), chunks := rest })
  read_le n w := by
    split
    · simp [List.length_take]
    · simp [List.length_take]
  inputWaiting w := (w.rx.length, w)
  flushInput w := { w with rx := [] }
  sleepUs us w := { w with now := w.now + us / 1000 }
  window _ w := w.rounds
  steadyMs w := w.now
  wallMs w := w.now

/-- Admin frames: command, board and eleven bytes of data. -/
def admin : AdminProtocol where
  kAdminFrameBytes := 20
  kUpdateAckFrameBytes := 14
  kAdminVersionReport := 1
  kAdminUpdateBeginAck := 2
  kAdminUpdateChunkAck := 3
  kAdminUpdateResult := 4
  kUpdateOk := 0
  kUpdateUnsupported := 1
  kBoardTypeUnknown := 0
  kAdminChunkBytes := 64
  kAdminVersionFirmwareMajor := 0
  kAdminVersionFirmwareMinor := 1
  kAdminVersionFirmwarePatch := 2
  kAdminVersionProtocolMajor := 3
  kAdminVersionProtocolMinor := 4
  kAdminVersionCapabilities := 5
  kAdminVersionBoardType := 6
  kAdminVersionBuildId := 7
  buildVersionQueryFrame board sequence epoch :=
    frame .admin 0xFF sequence epoch ([0, board] ++ List.replicate 11 0)
  buildUpdateBeginFrame board sequence epoch imageBytes imageCrc :=
    frame .admin 0xFF sequence epoch ([5, board] ++ bytes32 imageBytes ++ bytes16 imageCrc)
  buildUpdateChunkFrame board sequence epoch offset data :=
    frame .admin 0xFF sequence epoch ([6, board] ++ bytes32 offset ++ data)
  buildUpdateCommitFrame board sequence epoch := frame .admin 0xFF sequence epoch [7, board]
  verifyCrc bytes := sealFrame (bytes.take (bytes.length - 2)) == bytes
  readAdminPayload payload := (payload.getD 0 0, payload.getD 1 0, (payload.drop 2).take 11)
  readUpdateAck payload := (payload.getD 2 0, read32 (payload.drop 3))
  readU32 := read32

/-- The environment of a scripted world. -/
def env : Env Script where
  port := port
  sourceByte
    | .solenoid => 0
    | .light => 1
    | .gi => 2
    | .run => 3
    | .readSwitches => 4
    | .effect => 5
    | .other code => code
  admin := admin

/-- A host with an open port and eight bits in every domain. -/
def comm : Comm protocol :=
  { Comm.fresh protocol 0 with
    portOpen := true
    runtimeConfig := { coilBits := 8, lampBits := 8, switchBits := 8 } }

/-- The same host with coil 10, lamp 20 and switch 30 mapped. -/
def mappedComm : Comm protocol := comm.setMappings [10] [20] [30]

/-- The bus thread of that host, right after it was started. -/
def system : Sys protocol Script := Sys.start env mappedComm {}

/-- Coil 10 goes on. -/
def coilOn : Event := { sourceId := .solenoid, eventId := 10, value := 1 }

/-- Coil 10 goes off. -/
def coilOff : Event := { coilOn with value := 0 }

/-- The blocks of one output cycle without a switch poll. -/
def outputCycle : List Label := List.replicate 8 .bus

/-- A host that polls board 1, which owns switch 30. -/
def polledComm : Comm protocol :=
  (mappedComm.setSwitchNumbersByBoard (AList.insert 1 [30] ∅)).setActiveSwitchBoards [1]

/-- The bus thread of that host a second after it was started, with `rx` on
    its way. -/
def polledSystem (rx : List UInt8) : Sys protocol Script :=
  { Sys.start env polledComm {} with world := { rx := rx, rounds := 1, now := 1000 } }

/-- A host that polls board 1, which did not answer and owns switch 30. -/
def virtualComm : Comm protocol :=
  ((((mappedComm.setConfiguredBoards [1]).setSwitchNumbersByBoard
    (AList.insert 1 [30] ∅)).setActiveSwitchBoards [1])).finalizeConfiguredBoardPresence

/-- The bus thread of that host, a second after it was started. -/
def virtualSystem : Sys protocol Script :=
  { Sys.start env virtualComm {} with world := { now := 1000 } }

end Reference

end LibPpuc
