import LibPpuc.Config.Yaml

/-! # Constants and Name Tables of the Configuration

  `Event.h`, `PPUCPlatforms.h` and `Adafruit_NeoPixel.h` are not part of the
  repository; their constants are the fields of `EventHeader`, under the
  names the headers give them.  The tables that turn names of the YAML file
  into such constants are those of `PPUC.cpp`.
-/

namespace LibPpuc

/-- The constants of the firmware headers that the configuration uses. -/
structure EventHeader where
  CONFIG_TOPIC_PLATFORM : UInt8
  CONFIG_TOPIC_COIN_DOOR_CLOSED_SWITCH : UInt8
  CONFIG_TOPIC_GAME_ON_SOLENOID : UInt8
  CONFIG_TOPIC_SWITCH_MATRIX : UInt8
  CONFIG_TOPIC_SWITCHES : UInt8
  CONFIG_TOPIC_PWM : UInt8
  CONFIG_TOPIC_PWM_EFFECT : UInt8
  CONFIG_TOPIC_LED_STRING : UInt8
  CONFIG_TOPIC_LED_SEGMENT : UInt8
  CONFIG_TOPIC_LED_EFFECT : UInt8
  CONFIG_TOPIC_LAMPS : UInt8
  CONFIG_TOPIC_TRIGGER : UInt8
  CONFIG_TOPIC_SWITCH_CHAIN : UInt8
  CONFIG_TOPIC_ACTIVE_LOW : UInt8
  CONFIG_TOPIC_NUM_ROWS : UInt8
  CONFIG_TOPIC_PORT : UInt8
  CONFIG_TOPIC_NUMBER : UInt8
  CONFIG_TOPIC_DEBOUNCE_TIME : UInt8
  CONFIG_TOPIC_MODE : UInt8
  CONFIG_TOPIC_POWER : UInt8
  CONFIG_TOPIC_MIN_PULSE_TIME : UInt8
  CONFIG_TOPIC_MAX_PULSE_TIME : UInt8
  CONFIG_TOPIC_HOLD_POWER : UInt8
  CONFIG_TOPIC_HOLD_POWER_ACTIVATION_TIME : UInt8
  CONFIG_TOPIC_FAST_SWITCH : UInt8
  CONFIG_TOPIC_TYPE : UInt8
  CONFIG_TOPIC_DURATION : UInt8
  CONFIG_TOPIC_EFFECT : UInt8
  CONFIG_TOPIC_FREQUENCY : UInt8
  CONFIG_TOPIC_MAX_INTENSITY : UInt8
  CONFIG_TOPIC_MIN_INTENSITY : UInt8
  CONFIG_TOPIC_PRIORITY : UInt8
  CONFIG_TOPIC_REPEAT : UInt8
  CONFIG_TOPIC_SOURCE : UInt8
  CONFIG_TOPIC_VALUE : UInt8
  CONFIG_TOPIC_LED_NUMBER : UInt8
  CONFIG_TOPIC_COLOR : UInt8
  CONFIG_TOPIC_COLOR_2 : UInt8
  CONFIG_TOPIC_COLOR_3 : UInt8
  CONFIG_TOPIC_BRIGHTNESS : UInt8
  CONFIG_TOPIC_AMOUNT_LEDS : UInt8
  CONFIG_TOPIC_AFTER_GLOW : UInt8
  CONFIG_TOPIC_LIGHT_UP : UInt8
  CONFIG_TOPIC_FROM : UInt8
  CONFIG_TOPIC_TO : UInt8
  CONFIG_TOPIC_REVERSE : UInt8
  CONFIG_TOPIC_SPEED : UInt8
  CONFIG_TOPIC_OPTIONS : UInt8
  CONFIG_TOPIC_NEXT_BOARD : UInt8
  CONFIG_TOPIC_SWITCH_REPLY_DELAY_US : UInt8
  EVENT_SOURCE_EFFECT : UInt32
  EVENT_SOURCE_SWITCH : UInt32
  EVENT_SOURCE_LIGHT : UInt32
  PWM_TYPE_SOLENOID : UInt8
  PWM_TYPE_FLASHER : UInt8
  PWM_TYPE_LAMP : UInt8
  PWM_TYPE_MOTOR : UInt8
  PWM_TYPE_SHAKER : UInt8
  PWM_EFFECT_SINE : UInt32
  PWM_EFFECT_RAMP_DOWN_STOP : UInt32
  PWM_EFFECT_IMPULSE : UInt32
  SWITCH_DEBOUNCE_STANDARD : UInt32
  SWITCH_DEBOUNCE_FAST_FLIP : UInt32
  SWITCH_DEBOUNCE_SLOW_STABLE : UInt32
  LED_TYPE_LAMP : UInt8
  LED_TYPE_FLASHER : UInt8
  LED_TYPE_GI : UInt8
  PLATFORM_WPC : UInt32
  PLATFORM_DATA_EAST : UInt32
  PLATFORM_SYS3 : UInt32
  PLATFORM_SYS4 : UInt32
  PLATFORM_SYS6 : UInt32
  PLATFORM_SYS7 : UInt32
  PLATFORM_SYS11 : UInt32
  PLATFORM_BALLY35 : UInt32
  PLATFORM_WHITESTAR : UInt32
  PLATFORM_SAM : UInt32
  PLATFORM_CAPCOM : UInt32
  /-- `NEO_<order>` of `Adafruit_NeoPixel.h`. -/
  NEO : String → UInt8
  /-- `HashNamedTriggerId`. -/
  hashNamedTriggerId : String → UInt32

/-! ### Names -/

/-- The color orders that `ResolveLedTypeValue` knows. -/
def ledTypeNames : List String :=
  ["RGB", "RBG", "GRB", "GBR", "BRG", "BGR",
    "WRGB", "WRBG", "WGRB", "WGBR", "WBRG", "WBGR",
    "RWGB", "RWBG", "RGWB", "RGBW", "RBWG", "RBGW",
    "GWRB", "GWBR", "GRWB", "GRBW", "GBWR", "GBRW",
    "BWRG", "BWGR", "BRWG", "BRGW", "BGWR", "BGRW"]

/-- `ResolveLedTypeValue`. -/
def resolveLedTypeValue (H : EventHeader) (type : String) : UInt8 :=
  if type ∈ ledTypeNames then H.NEO type else 0

/-- `ResolvePwmType`. -/
def resolvePwmType (H : EventHeader) (type : String) : UInt8 :=
  if type = "flasher" then H.PWM_TYPE_FLASHER
  else if type = "lamp" then H.PWM_TYPE_LAMP
  else if type = "motor" then H.PWM_TYPE_MOTOR
  else if type = "shaker" then H.PWM_TYPE_SHAKER
  else H.PWM_TYPE_SOLENOID

/-- The platform of a configuration file; unknown names are `SYS11`. -/
def resolvePlatform (H : EventHeader) (platform : String) : UInt32 :=
  if platform = "WPC" then H.PLATFORM_WPC
  else if platform = "DE" then H.PLATFORM_DATA_EAST
  else if platform = "SYS3" then H.PLATFORM_SYS3
  else if platform = "SYS4" then H.PLATFORM_SYS4
  else if platform = "SYS6" then H.PLATFORM_SYS6
  else if platform = "SYS7" then H.PLATFORM_SYS7
  else if platform = "SYS11" then H.PLATFORM_SYS11
  else if platform = "BALLY35" then H.PLATFORM_BALLY35
  else if platform = "WHITESTAR" then H.PLATFORM_WHITESTAR
  else if platform = "SAM" then H.PLATFORM_SAM
  else if platform = "CAPCOM" then H.PLATFORM_CAPCOM
  else H.PLATFORM_SYS11

/-- `IsDecimalScalar`. -/
def isDecimalScalar (value : String) : Bool := value != "" && value.toList.all Char.isDigit

/-- The lookup the three mode resolvers share: a decimal scalar is converted,
    any other is looked up. -/
def resolveMode (cpp : YamlCpp) (modes : List (String × UInt32)) (kind : String) (node : Yaml) :
    Except Failure UInt32 := do
  let value ← cpp.asString node
  if isDecimalScalar value then cpp.asUInt32 node
  else
    match modes.lookup value with
    | some mode => .ok mode
    | none => .error (.yaml node.mark s!"unknown {kind} '{value}'")

/-- `kModes` of `ResolveLedEffectMode`. -/
def ledEffectModes : List (String × UInt32) :=
  [("static", 0), ("blink", 1), ("breath", 2), ("color_wipe", 3), ("scan", 13),
    ("running_lights", 18), ("twinkle_fade_random", 22), ("sparkle", 23), ("strobe", 26),
    ("chase_rainbow", 33), ("running_color", 40), ("running_random", 42), ("larson_scanner", 43),
    ("comet", 44), ("fireworks", 45), ("fire_flicker", 48), ("tricolor_chase", 54),
    ("twinklefox", 55), ("rain", 56), ("heartbeat", 64), ("multi_comet", 66), ("popcorn", 68),
    ("oscillator", 69)]

/-- `ResolveLedEffectMode`. -/
def resolveLedEffectMode (cpp : YamlCpp) (node : Yaml) : Except Failure UInt32 :=
  resolveMode cpp ledEffectModes "LED effect" node

/-- `kModes` of `ResolvePwmEffectMode`. -/
def pwmEffectModes (H : EventHeader) : List (String × UInt32) :=
  [("sine", H.PWM_EFFECT_SINE), ("ramp_down_stop", H.PWM_EFFECT_RAMP_DOWN_STOP),
    ("impulse", H.PWM_EFFECT_IMPULSE)]

/-- `ResolvePwmEffectMode`. -/
def resolvePwmEffectMode (H : EventHeader) (cpp : YamlCpp) (node : Yaml) :
    Except Failure UInt32 :=
  resolveMode cpp (pwmEffectModes H) "PWM effect" node

/-- `kModes` of `ResolveSwitchDebounceMode`. -/
def switchDebounceModes (H : EventHeader) : List (String × UInt32) :=
  [("standard", H.SWITCH_DEBOUNCE_STANDARD), ("fastFlip", H.SWITCH_DEBOUNCE_FAST_FLIP),
    ("fast_flip", H.SWITCH_DEBOUNCE_FAST_FLIP), ("slowStable", H.SWITCH_DEBOUNCE_SLOW_STABLE),
    ("slow_stable", H.SWITCH_DEBOUNCE_SLOW_STABLE)]

/-- `ResolveSwitchDebounceMode`: a missing mode is the standard one. -/
def resolveSwitchDebounceMode (H : EventHeader) (cpp : YamlCpp) (node : Yaml) :
    Except Failure UInt32 :=
  if node.isDefined then resolveMode cpp (switchDebounceModes H) "switch debounce mode" node
  else .ok H.SWITCH_DEBOUNCE_STANDARD

/-- `ResolveSimpleTriggerSource`. -/
def resolveSimpleTriggerSource (H : EventHeader) (source : String) : Except Failure UInt32 :=
  if source = "switch" then .ok H.EVENT_SOURCE_SWITCH
  else if source = "lamp" ∨ source = "light" then .ok H.EVENT_SOURCE_LIGHT
  else .error (.runtime s!"unsupported simple trigger source '{source}'")

/-! ### Colors -/

/-- The value of a hexadecimal digit. -/
def hexDigitValue (c : Char) : Option Nat :=
  if '0' ≤ c ∧ c ≤ '9' then some (c.toNat - 48)
  else if 'a' ≤ c ∧ c ≤ 'f' then some (c.toNat - 87)
  else if 'A' ≤ c ∧ c ≤ 'F' then some (c.toNat - 55)
  else none

/-- The value of a digit sequence, if it is one. -/
def hexValue (digits : List Char) : Option Nat :=
  if digits = [] then none
  else digits.foldlM (fun n c => (hexDigitValue c).map fun d => 16 * n + d) 0

/-- Extraction of a `uint32_t` from a stream in `std::hex` mode that has to
    reach the end of the text: white space, a sign, an `0x` and the digits. -/
def parseHex (text : String) : Option UInt32 :=
  let chars := text.toList.dropWhile (· ∈ [' ', '\t', '\n', '\x0b', '\x0c', '\r'])
  let (negative, unsigned) :=
    match chars with
    | '-' :: rest => (true, rest)
    | '+' :: rest => (false, rest)
    | rest => (false, rest)
  let digits :=
    match unsigned with
    | '0' :: 'x' :: rest => rest
    | '0' :: 'X' :: rest => rest
    | rest => rest
  match hexValue digits with
  | some n =>
    if n < 4294967296 then some (if negative then 0 - UInt32.ofNat n else UInt32.ofNat n) else none
  | none => none

/-- A color text without its leading `#`. -/
def colorDigits (value : String) : String :=
  match value.toList with
  | '#' :: rest => String.ofList rest
  | _ => value

end LibPpuc
