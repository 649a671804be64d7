import LibPpuc.Framework.Bitmap

/-! # The v2 Wire Protocol, as the Host Sees It

  `PPUCProtocolV2.h` belongs to the io-boards firmware and is staged by the
  build.  Everything the host takes from it is a parameter here: constants,
  frame builders, the CRC and the bitmap accessors.

  `Protocol.Lawful` collects what the host code relies on: the bitmap
  accessors address single bits, and buffer sizes fit the bit counts.
-/

namespace LibPpuc

/-- Frame types the host tells apart. -/
inductive FrameType where
  | setup
  | mapping
  | config
  | configAck
  | restart
  | reset
  | heartbeat
  | error
  | outputState
  | switchState
  | switchNoChange
  | switchRefresh
  | trigger
  | admin
  /-- Any type nibble the host has no name for. -/
  | unknown (code : UInt8)
  deriving DecidableEq, Repr

/-- `ppuc::v2::RuntimeConfig`: how many bits each domain has on the wire. -/
structure RuntimeConfig where
  coilBits : Nat
  lampBits : Nat
  switchBits : Nat
  deriving DecidableEq, Repr

/-- The part of `ppuc::v2` the host uses. -/
structure Protocol where
  /-- `GetBitmapBit` and `SetBitmapBit`. -/
  bits : BitAccess
  kSyncByte : UInt8
  kNoBoard : UInt8
  kHeaderBytes : Nat
  kCrcBytes : Nat
  kMaxCoilBits : Nat
  kMaxCoilBytes : Nat
  kMaxLampBits : Nat
  kMaxLampBytes : Nat
  kMaxSwitchBits : Nat
  kMaxSwitchBytes : Nat
  kGiStrings : Nat
  kSetupPayloadBytes : Nat
  kMappingPayloadBytes : Nat
  kConfigPayloadBytes : Nat
  kConfigAckPayloadBytes : Nat
  kConfigAckFrameBytes : Nat
  kSwitchStatusBytes : Nat
  kConfigAckAccepted : UInt8
  kStatusInSync : UInt8
  kStatusNeedsSetup : UInt8
  kStatusMappingIncomplete : UInt8
  kStatusSequenceGap : UInt8
  kStatusParserResynced : UInt8
  kStatusSwitchOverflow : UInt8
  kFlagNone : UInt8
  kDomainCoil : UInt8
  kDomainLamp : UInt8
  kDomainSwitch : UInt8
  /-- The value of a default constructed `RuntimeConfig`. -/
  defaultRuntimeConfig : RuntimeConfig
  extractType : UInt8 → FrameType
  crc16Ccitt : List UInt8 → UInt16
  bitsToBytes : Nat → Nat
  isValidRuntimeConfig : RuntimeConfig → Bool
  isValidBoard : UInt8 → Bool
  clampGiLevel : UInt8 → UInt8
  switchPayloadBytes : RuntimeConfig → Nat
  switchNoChangePayloadBytes : Nat
  /-- next board, sequence, epoch; board, topic, index, key, value. -/
  buildConfigFrame : UInt8 → UInt8 → UInt8 → UInt8 → UInt8 → UInt8 → UInt8 → UInt32 → List UInt8
  buildSetupFrame : UInt8 → UInt8 → UInt8 → RuntimeConfig → List UInt8
  /-- next board, sequence, epoch; domain, index, number. -/
  buildMappingFrame : UInt8 → UInt8 → UInt8 → UInt8 → UInt16 → UInt16 → List UInt8
  /-- type, flags, next board, sequence, epoch. -/
  buildBareFrame : FrameType → UInt8 → UInt8 → UInt8 → UInt8 → List UInt8
  /-- next board, sequence, epoch; source, event id, value. -/
  buildTriggerFrame : UInt8 → UInt8 → UInt8 → UInt8 → UInt16 → UInt8 → List UInt8
  buildOutputStateFrame : UInt8 → UInt8 → UInt8 → RuntimeConfig →
    Vector UInt8 kMaxCoilBytes → Vector UInt8 kMaxLampBytes → Vector UInt8 kGiStrings →
    List UInt8
  /-- has state, next board, sequence, epoch; seen epoch, seen host sequence,
      status, switch bitmap, its used bytes. -/
  buildSwitchReplyFrame : Bool → UInt8 → UInt8 → UInt8 → UInt8 → UInt8 → UInt8 →
    Vector UInt8 kMaxSwitchBytes → Nat → List UInt8

namespace Protocol

/-- What the host relies on when it indexes its fixed-size buffers. -/
structure Lawful (P : Protocol) (pos : Nat → Nat) : Prop where
  bits : P.bits.Lawful pos
  coilBytes : P.kMaxCoilBits ≤ 8 * P.kMaxCoilBytes
  lampBytes : P.kMaxLampBits ≤ 8 * P.kMaxLampBytes
  switchBytes : P.kMaxSwitchBits ≤ 8 * P.kMaxSwitchBytes
  /-- `IsValidRuntimeConfig` keeps every domain within its buffer. -/
  validConfig : ∀ config, P.isValidRuntimeConfig config = true →
    config.coilBits ≤ P.kMaxCoilBits ∧ config.lampBits ≤ P.kMaxLampBits ∧
      config.switchBits ≤ P.kMaxSwitchBits
  /-- It accepts every size from one bit to the buffer's size. -/
  acceptsConfig : ∀ config : RuntimeConfig,
    1 ≤ config.coilBits ∧ config.coilBits ≤ P.kMaxCoilBits →
    1 ≤ config.lampBits ∧ config.lampBits ≤ P.kMaxLampBits →
    1 ≤ config.switchBits ∧ config.switchBits ≤ P.kMaxSwitchBits →
    P.isValidRuntimeConfig config = true
  /-- The buffer sizes are positive 16-bit numbers. -/
  maxCoilBits : 0 < P.kMaxCoilBits ∧ P.kMaxCoilBits < 65536
  maxLampBits : 0 < P.kMaxLampBits ∧ P.kMaxLampBits < 65536
  maxSwitchBits : 0 < P.kMaxSwitchBits ∧ P.kMaxSwitchBits < 65536
  /-- `BitsToBytes n` bytes hold `n` bits. -/
  bitsToBytes : ∀ n i, i < n → i / 8 < P.bitsToBytes n

section bounds

variable {P : Protocol} {pos : Nat → Nat}

theorem Lawful.coil_byte_lt (hP : P.Lawful pos) {i : Nat} (hi : i < P.kMaxCoilBits) :
    i / 8 < P.kMaxCoilBytes := by
  have := hP.coilBytes
  omega

theorem Lawful.switch_byte_lt (hP : P.Lawful pos) {i : Nat} (hi : i < P.kMaxSwitchBits) :
    i / 8 < P.kMaxSwitchBytes := by
  have := hP.switchBytes
  omega

end bounds

end Protocol

/-! ### Messages of the Host Application -/

/-- Source of an application event.  The byte values are those of `Event.h`. -/
inductive EventSource where
  | solenoid
  | light
  | gi
  /-- `EVENT_RUN`: starts and stops runtime updates. -/
  | run
  | readSwitches
  /-- `EVENT_SOURCE_EFFECT`: forwarded to the boards as a trigger frame. -/
  | effect
  | other (code : UInt8)
  deriving DecidableEq, Repr

/-- `Event`: an output request of the application. -/
structure Event where
  sourceId : EventSource
  eventId : UInt16
  value : UInt8
  deriving DecidableEq, Repr

/-- `ConfigEvent`: one configuration value for one board. -/
structure ConfigEvent where
  boardId : UInt8
  topic : UInt8
  index : UInt8
  key : UInt8
  value : UInt32
  deriving DecidableEq, Repr

/-- `PPUCSwitchState`: a switch transition handed to the application. -/
structure PPUCSwitchState where
  number : Nat
  state : Nat
  deriving DecidableEq, Repr

end LibPpuc
