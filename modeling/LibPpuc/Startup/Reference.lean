import LibPpuc.Reference
import LibPpuc.Startup.Attempt

/-! # A Concrete Configuration

  Constants of the firmware headers, a reading of scalars, and a document
  with one board, for which the hypotheses of the startup results hold.
-/

namespace LibPpuc

namespace Reference

/-! ### Headers and Scalars -/

/-- Every topic and constant with a number of its own. -/
def header : EventHeader where
  CONFIG_TOPIC_PLATFORM := 1
  CONFIG_TOPIC_COIN_DOOR_CLOSED_SWITCH := 2
  CONFIG_TOPIC_GAME_ON_SOLENOID := 3
  CONFIG_TOPIC_SWITCH_MATRIX := 4
  CONFIG_TOPIC_SWITCHES := 5
  CONFIG_TOPIC_PWM := 6
  CONFIG_TOPIC_PWM_EFFECT := 7
  CONFIG_TOPIC_LED_STRING := 8
  CONFIG_TOPIC_LED_SEGMENT := 9
  CONFIG_TOPIC_LED_EFFECT := 10
  CONFIG_TOPIC_LAMPS := 11
  CONFIG_TOPIC_TRIGGER := 12
  CONFIG_TOPIC_SWITCH_CHAIN := 13
  CONFIG_TOPIC_ACTIVE_LOW := 14
  CONFIG_TOPIC_NUM_ROWS := 15
  CONFIG_TOPIC_PORT := 16
  CONFIG_TOPIC_NUMBER := 17
  CONFIG_TOPIC_DEBOUNCE_TIME := 18
  CONFIG_TOPIC_MODE := 19
  CONFIG_TOPIC_POWER := 20
  CONFIG_TOPIC_MIN_PULSE_TIME := 21
  CONFIG_TOPIC_MAX_PULSE_TIME := 22
  CONFIG_TOPIC_HOLD_POWER := 23
  CONFIG_TOPIC_HOLD_POWER_ACTIVATION_TIME := 24
  CONFIG_TOPIC_FAST_SWITCH := 25
  CONFIG_TOPIC_TYPE := 26
  CONFIG_TOPIC_DURATION := 27
  CONFIG_TOPIC_EFFECT := 28
  CONFIG_TOPIC_FREQUENCY := 29
  CONFIG_TOPIC_MAX_INTENSITY := 30
  CONFIG_TOPIC_MIN_INTENSITY := 31
  CONFIG_TOPIC_PRIORITY := 32
  CONFIG_TOPIC_REPEAT := 33
  CONFIG_TOPIC_SOURCE := 34
  CONFIG_TOPIC_VALUE := 35
  CONFIG_TOPIC_LED_NUMBER := 36
  CONFIG_TOPIC_COLOR := 37
  CONFIG_TOPIC_COLOR_2 := 38
  CONFIG_TOPIC_COLOR_3 := 39
  CONFIG_TOPIC_BRIGHTNESS := 40
  CONFIG_TOPIC_AMOUNT_LEDS := 41
  CONFIG_TOPIC_AFTER_GLOW := 42
  CONFIG_TOPIC_LIGHT_UP := 43
  CONFIG_TOPIC_FROM := 44
  CONFIG_TOPIC_TO := 45
  CONFIG_TOPIC_REVERSE := 46
  CONFIG_TOPIC_SPEED := 47
  CONFIG_TOPIC_OPTIONS := 48
  CONFIG_TOPIC_NEXT_BOARD := 49
  CONFIG_TOPIC_SWITCH_REPLY_DELAY_US := 50
  EVENT_SOURCE_EFFECT := 1
  EVENT_SOURCE_SWITCH := 2
  EVENT_SOURCE_LIGHT := 3
  PWM_TYPE_SOLENOID := 1
  PWM_TYPE_FLASHER := 2
  PWM_TYPE_LAMP := 3
  PWM_TYPE_MOTOR := 4
  PWM_TYPE_SHAKER := 5
  PWM_EFFECT_SINE := 1
  PWM_EFFECT_RAMP_DOWN_STOP := 2
  PWM_EFFECT_IMPULSE := 3
  SWITCH_DEBOUNCE_STANDARD := 0
  SWITCH_DEBOUNCE_FAST_FLIP := 1
  SWITCH_DEBOUNCE_SLOW_STABLE := 2
  LED_TYPE_LAMP := 1
  LED_TYPE_FLASHER := 2
  LED_TYPE_GI := 3
  PLATFORM_WPC := 1
  PLATFORM_DATA_EAST := 2
  PLATFORM_SYS3 := 3
  PLATFORM_SYS4 := 4
  PLATFORM_SYS6 := 5
  PLATFORM_SYS7 := 6
  PLATFORM_SYS11 := 7
  PLATFORM_BALLY35 := 8
  PLATFORM_WHITESTAR := 9
  PLATFORM_SAM := 10
  PLATFORM_CAPCOM := 11
  NEO order := UInt8.ofNat (ledTypeNames.idxOf order + 1)
  hashNamedTriggerId name := UInt32.ofNat (name.toList.foldl (fun n c => 31 * n + c.toNat) 7)

/-- The value of a sequence of decimal digits. -/
def decimal (digits : List Char) : Option Int :=
  if digits = [] then none
  else
    digits.foldlM (fun n c => if c.isDigit then some (10 * n + (c.toNat - 48 : Nat)) else none) 0

/-- Decimal numbers without leading zeros, and the two plain booleans. -/
def yamlCpp : YamlCpp where
  decodeInt value :=
    match value.toList with
    | '-' :: digits => (decimal digits).map fun n => -n
    | digits => decimal digits
  decodeBool value :=
    if value = "true" then some true else if value = "false" then some false else none
  badConversion _ := "bad conversion"

theorem protocol_carriesTuple : protocol.CarriesTuple := by
  intro nextBoard sequence epoch event
  rfl

/-! ### Documents -/

def scalar (value : String) : Yaml := .scalar none value

/-- A map with the given fields. -/
def record (fields : List (String × Yaml)) : Yaml :=
  .map none (fields.map fun field => (scalar field.1, field.2))

def list (items : List Yaml) : Yaml := .sequence none items

/-- A document with one board and the given sections. -/
def document (sections : List (String × Yaml)) : Yaml :=
  record
    ([("debug", scalar "false"), ("rom", scalar "rom"), ("serialPort", scalar "port"),
      ("platform", scalar "SYS11"), ("coinDoorClosedSwitch", scalar "5"),
      ("gameOnSolenoid", scalar "6"),
      ("boards", list [record [("number", scalar "1"), ("pollEvents", scalar "false")]])] ++
      sections)

/-- No board is skipped. -/
def settings : StartupSettings where
  debug := false
  skippedBoards := ∅
  platform := 7
  disableFastFlipForTests := false
  switchReplyDelayUs := 0
  gameOnSolenoid := 0

/-- The members of `PPUC` before a document is loaded. -/
def emptyPpuc : Ppuc where
  ppucConfig := .undefined
  switchGroups := ∅
  coilGiMappings := []
  debug := false
  rom := ""
  serial := ""
  platform := 0

/-- Board 1 accepts a config frame. -/
def ackOf (topic index key : UInt8) : List UInt8 :=
  frame .configAck 0xFF 0 0 [1, topic, index, key, 0]

/-- The board's answers to the three events of the board loop. -/
def boardAcks : List (List UInt8) :=
  [ackOf header.CONFIG_TOPIC_PLATFORM 0 header.CONFIG_TOPIC_PLATFORM,
    ackOf header.CONFIG_TOPIC_COIN_DOOR_CLOSED_SWITCH 0 header.CONFIG_TOPIC_NUMBER,
    ackOf header.CONFIG_TOPIC_GAME_ON_SOLENOID 0 header.CONFIG_TOPIC_NUMBER]

end Reference

/-- The calls of an attempt that gets as far as `SendSetupFrame`. -/
def AttemptEnd.calls {P : Protocol} {W : Type} : AttemptEnd P W → Option (List ConfigCall)
  | .ready a => some a.calls
  | .stopped => none
  | .threw _ => none

/-- An attempt that gets as far as `SendSetupFrame`. -/
def AttemptEnd.attempt {P : Protocol} {W : Type} : AttemptEnd P W → Option (Startup P W)
  | .ready a => some a
  | .stopped => none
  | .threw _ => none

theorem AttemptEnd.ready_of_attempt {P : Protocol} {W : Type} {e : AttemptEnd P W}
    {a : Startup P W} (h : e.attempt = some a) : e = .ready a := by
  cases e with
  | ready a' => exact congrArg _ (Option.some.inj h)
  | stopped => exact nomatch h
  | threw e => exact nomatch h

/-- The exception that an attempt ends with. -/
def AttemptEnd.failure {P : Protocol} {W : Type} : AttemptEnd P W → Option Failure
  | .threw e => some e
  | .ready _ => none
  | .stopped => none

theorem AttemptEnd.threw_of_failure {P : Protocol} {W : Type} {a : AttemptEnd P W} {e : Failure}
    (h : a.failure = some e) : a = .threw e := by
  cases a with
  | threw e' => exact congrArg _ (Option.some.inj h)
  | ready a => exact nomatch h
  | stopped => exact nomatch h

theorem AttemptEnd.ready_of_calls {P : Protocol} {W : Type} {e : AttemptEnd P W}
    {calls : List ConfigCall} (h : e.calls = some calls) :
    ∃ a, e = .ready a ∧ a.calls = calls := by
  cases e with
  | ready a => exact ⟨a, rfl, Option.some.inj h⟩
  | stopped => exact nomatch h
  | threw e => exact nomatch h

end LibPpuc
