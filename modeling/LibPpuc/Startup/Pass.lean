import LibPpuc.Framework.Emitter
import LibPpuc.Config.Load

/-! # The Startup Pass over the Configuration

  `startupAttempt` walks the document and sends one config event after the
  other.  What it does next never depends on what the boards answered, with
  one exception: at its checks it may stop.  So the walk is an `Emitter`: it
  computes the steps of the attempt, and throws where a conversion throws.
  `LibPpuc.Startup.Attempt` runs the steps.
-/

namespace LibPpuc

/-- `PPUCSwitch`. -/
structure PPUCSwitch where
  board : UInt8
  port : UInt8
  number : UInt8
  description : String
  button : Bool
  deriving DecidableEq, Repr

/-- `PPUCCoil`. -/
structure PPUCCoil where
  board : UInt8
  port : UInt8
  type : UInt8
  number : UInt8
  description : String
  ballSearch : Bool
  deriving DecidableEq, Repr

/-- `PPUCLamp`. -/
structure PPUCLamp where
  board : UInt8
  port : UInt8
  type : UInt8
  number : UInt8
  description : String
  color : UInt32
  deriving DecidableEq, Repr

/-- The members of `PPUC` that a startup attempt reads. -/
structure StartupSettings where
  debug : Bool
  skippedBoards : Finset UInt8
  platform : UInt32
  disableFastFlipForTests : Bool
  switchReplyDelayUs : UInt32
  /-- `m_gameOnSolenoid` from before; kept if all boards are skipped. -/
  gameOnSolenoid : UInt8

/-- The steps of a startup attempt. -/
inductive StartupStep where
  | send (event : ConfigEvent)
  | registerSwitchBoard (board : UInt8)
  /-- Return if `AbortConfigurationEarly()`. -/
  | abortCheck
  /-- Return if `HadConfigurationFailure()`. -/
  | failureCheck
  /-- The setters from `SetMappings` to `SetSkippedBoards`. -/
  | installMappings (coilNumbers lampNumbers : List UInt16) (items : List SwitchItem)
    (configuredBoards : List UInt8) (skippedBoards : Finset UInt8)
  | pushSwitch (entry : PPUCSwitch)
  | pushCoil (entry : PPUCCoil)
  /-- A lamp is stored with its port and number cut to eight bits. -/
  | pushLamp (board : UInt8) (port : UInt32) (type : UInt8) (number : UInt32)
    (description : String) (color : UInt32)
  | finalizeBoardPresence
  | setActiveSwitchBoards (boards : List UInt8)
  /-- The two token ring events for a board, if it is present. -/
  | tokenRing (current next : UInt8) (switchReplyDelayUs : UInt32)

/-- A part of the startup pass. -/
abbrev Pass (α : Type) : Type := Emitter StartupStep Failure α

namespace Pass

open Emitter

section passes

variable (P : Protocol) (H : EventHeader) (cpp : YamlCpp) (s : StartupSettings)

/-- `SendConfigEvent`. -/
def send (board topic index key : UInt8) (value : UInt32) : Pass Unit :=
  emit (.send { boardId := board, topic := topic, index := index, key := key, value := value })

/-- `SendConfigEvent` for the board that an item names. -/
def sendItem (item : Yaml) (topic index key : UInt8) (value : Except Failure UInt32) :
    Pass Unit := do
  let board ← ofExcept (cpp.asUInt8 (item.get "board"))
  let value ← ofExcept value
  send board topic index key value

/-- The description is read only to be printed. -/
def printDescription (item : Yaml) : Pass Unit :=
  onlyIf (s.debug = true) (ofExcept ((cpp.asString (item.get "description")).map fun _ => ⟨⟩))

/-! ### Boards -/

/-- What the loop over the boards collects. -/
structure Boards where
  configuredBoards : List UInt8 := []
  switchBoards : List UInt8 := []
  gameOnSolenoid : UInt8

/-- One round of the loop over the boards. -/
def boardPass (config : Yaml) (boards : Boards) (n_board : Yaml) : Pass Boards := do
  let boardNumber ← ofExcept (cpp.asUInt8 (n_board.get "number"))
  let boards := { boards with configuredBoards := boards.configuredBoards ++ [boardNumber] }
  if boardNumber ∈ s.skippedBoards then pure boards
  else
    send boardNumber H.CONFIG_TOPIC_PLATFORM 0 H.CONFIG_TOPIC_PLATFORM s.platform
    let coinDoorClosedSwitch ← ofExcept (cpp.asUInt8 (config.get "coinDoorClosedSwitch"))
    send boardNumber H.CONFIG_TOPIC_COIN_DOOR_CLOSED_SWITCH 0 H.CONFIG_TOPIC_NUMBER
      coinDoorClosedSwitch.toUInt32
    let gameOnSolenoid ← ofExcept (cpp.asUInt8 (config.get "gameOnSolenoid"))
    send boardNumber H.CONFIG_TOPIC_GAME_ON_SOLENOID 0 H.CONFIG_TOPIC_NUMBER
      gameOnSolenoid.toUInt32
    let pollEvents ← ofExcept (cpp.asBool (n_board.get "pollEvents"))
    onlyIf (pollEvents = true) (emit (.registerSwitchBoard boardNumber))
    emit .abortCheck
    pure
      { boards with
        gameOnSolenoid := gameOnSolenoid
        switchBoards :=
          if pollEvents then boards.switchBoards ++ [boardNumber] else boards.switchBoards }

/-- The loop over the boards. -/
def boardsPass (config : Yaml) : Pass Boards :=
  (config.get "boards").items.foldlM (boardPass H cpp s config)
    { gameOnSolenoid := s.gameOnSolenoid }

/-! ### Numbers -/

/-- One switch of the number collection. -/
def collectSwitch (items : List SwitchItem) (n_switch : Yaml) :
    Except Failure (List SwitchItem) := do
  let number ← cpp.asUInt16 (n_switch.get "number")
  let button ← readOptional cpp.asBool (n_switch.get "button") false
  let board ← cpp.asUInt8 (n_switch.get "board")
  pure (items ++ [{ board := board, number := number, button := button }])

/-- The coil and lamp numbers found so far. -/
structure OutputNumbers where
  coilNumbers : List UInt16 := []
  lampNumbers : List UInt16 := []

/-- One output of the number collection. -/
def collectOutput (numbers : OutputNumbers) (n_pwmOutput : Yaml) :
    Except Failure OutputNumbers := do
  let board ← cpp.asUInt8 (n_pwmOutput.get "board")
  if board ∈ s.skippedBoards then pure numbers
  else
    let c_type ← cpp.asString (n_pwmOutput.get "type")
    let number ← cpp.asUInt16 (n_pwmOutput.get "number")
    if c_type = "lamp" then pure { numbers with lampNumbers := numbers.lampNumbers ++ [number] }
    else pure { numbers with coilNumbers := numbers.coilNumbers ++ [number] }

/-- One LED stripe of the number collection. -/
def collectStripe (numbers : OutputNumbers) (n_ledStripe : Yaml) :
    Except Failure OutputNumbers := do
  let board ← cpp.asUInt8 (n_ledStripe.get "board")
  if board ∈ s.skippedBoards then pure numbers
  else
    let lamps ← (n_ledStripe.get "lamps").items.mapM fun n_lamp =>
      cpp.asUInt16 (n_lamp.get "number")
    let flashers ← (n_ledStripe.get "flashers").items.mapM fun n_flasher =>
      cpp.asUInt16 (n_flasher.get "number")
    pure
      { coilNumbers := numbers.coilNumbers ++ flashers
        lampNumbers := numbers.lampNumbers ++ lamps }

/-- The switch items of both switch sections. -/
def collectSwitches (config : Yaml) : Except Failure (List SwitchItem) := do
  let items ← ((config.get "switchMatrix").get "switches").items.foldlM (collectSwitch cpp) []
  (config.get "switches").items.foldlM (collectSwitch cpp) items

/-- The output numbers of both output sections. -/
def collectOutputs (config : Yaml) : Except Failure OutputNumbers := do
  let numbers ← (config.get "pwmOutput").items.foldlM (collectOutput cpp s) {}
  (config.get "ledStripes").items.foldlM (collectStripe cpp s) numbers

/-- The collection of the numbers, and the setters that install them. -/
def mappingPass (config : Yaml) (boards : Boards) : Pass Unit := do
  let items ← ofExcept (collectSwitches cpp config)
  let numbers ← ofExcept (collectOutputs cpp s config)
  emit (.installMappings (boards.gameOnSolenoid.toUInt16 :: numbers.coilNumbers)
    numbers.lampNumbers items boards.configuredBoards s.skippedBoards)

/-! ### Switches -/

/-- `m_switches.push_back`. -/
def pushSwitch (n_switch : Yaml) : Pass Unit := do
  let board ← ofExcept (cpp.asUInt8 (n_switch.get "board"))
  let port ← ofExcept (cpp.asUInt8 (n_switch.get "port"))
  let number ← ofExcept (cpp.asUInt8 (n_switch.get "number"))
  let description ← ofExcept (cpp.asString (n_switch.get "description"))
  let button ← ofExcept (readOptional cpp.asBool (n_switch.get "button") false)
  emit (.pushSwitch
    { board := board, port := port, number := number, description := description,
      button := button })

/-- The events for one switch, unless its board is skipped. -/
def unlessSkipped (item : Yaml) (body : Pass Unit) : Pass Unit := do
  let board ← ofExcept (cpp.asUInt8 (item.get "board"))
  onlyIf (board ∉ s.skippedBoards) body

/-- One switch of the matrix. -/
def matrixSwitchPass (n_switch : Yaml) : Pass Unit := do
  printDescription cpp s n_switch
  unlessSkipped cpp s n_switch do
    sendItem cpp n_switch H.CONFIG_TOPIC_SWITCH_MATRIX 0 H.CONFIG_TOPIC_PORT
      (cpp.asUInt32 (n_switch.get "port"))
    sendItem cpp n_switch H.CONFIG_TOPIC_SWITCH_MATRIX 1 H.CONFIG_TOPIC_NUMBER
      (cpp.asUInt32 (n_switch.get "number"))
  pushSwitch cpp n_switch

/-- The switch matrix of a document that has one. -/
def switchMatrixPass (switchMatrix : Yaml) : Pass Unit :=
  unlessSkipped cpp s switchMatrix do
    sendItem cpp switchMatrix H.CONFIG_TOPIC_SWITCH_MATRIX 0 H.CONFIG_TOPIC_ACTIVE_LOW
      ((cpp.asBool (switchMatrix.get "activeLow")).map fun activeLow => if activeLow then 1 else 0)
    sendItem cpp switchMatrix H.CONFIG_TOPIC_SWITCH_MATRIX 1 H.CONFIG_TOPIC_NUM_ROWS
      ((cpp.asUInt8 (switchMatrix.get "rows")).map UInt8.toUInt32)
    (switchMatrix.get "switches").items.forM (matrixSwitchPass H cpp s)

/-- One dedicated switch. -/
def switchPass (n_switch : Yaml) : Pass Unit := do
  printDescription cpp s n_switch
  let debounceMode :=
    if (n_switch.get "debounceMode").isDefined then n_switch.get "debounceMode"
    else n_switch.get "debounce_mode"
  unlessSkipped cpp s n_switch do
    sendItem cpp n_switch H.CONFIG_TOPIC_SWITCHES 0 H.CONFIG_TOPIC_PORT
      (cpp.asUInt32 (n_switch.get "port"))
    sendItem cpp n_switch H.CONFIG_TOPIC_SWITCHES 1 H.CONFIG_TOPIC_NUMBER
      (cpp.asUInt32 (n_switch.get "number"))
    sendItem cpp n_switch H.CONFIG_TOPIC_SWITCHES 2 H.CONFIG_TOPIC_DEBOUNCE_TIME
      (cpp.asUInt32 (n_switch.get "debounce"))
    sendItem cpp n_switch H.CONFIG_TOPIC_SWITCHES 3 H.CONFIG_TOPIC_MODE
      (resolveSwitchDebounceMode H cpp debounceMode)
  pushSwitch cpp n_switch
  emit .abortCheck

/-! ### Effects -/

/-- The five events of a trigger. -/
def sendTriggerConfig (board : UInt8) (port type source number value : UInt32) : Pass Unit := do
  send board H.CONFIG_TOPIC_TRIGGER 0 H.CONFIG_TOPIC_PORT port
  send board H.CONFIG_TOPIC_TRIGGER 1 H.CONFIG_TOPIC_TYPE type
  send board H.CONFIG_TOPIC_TRIGGER 2 H.CONFIG_TOPIC_SOURCE source
  send board H.CONFIG_TOPIC_TRIGGER 3 H.CONFIG_TOPIC_NUMBER number
  send board H.CONFIG_TOPIC_TRIGGER 4 H.CONFIG_TOPIC_VALUE value

/-- Nothing but white space. -/
def isBlank (name : String) : Bool := name.toList.all [' ', '\t', '\r', '\n'].contains

/-- `SendNamedEffectTriggerConfig`: a blank name is no name. -/
def sendNamedEffectTriggerConfig (effectNode : Yaml) (type : UInt32) (board : UInt8)
    (port : UInt32) : Pass Unit :=
  onlyIf ((effectNode.get "name").isDefined = true) do
    let name ← ofExcept (cpp.asString (effectNode.get "name"))
    onlyIf (isBlank name = false) do
      let value ← ofExcept (readOptional cpp.asUInt32 (effectNode.get "value") 1)
      sendTriggerConfig H board port type H.EVENT_SOURCE_EFFECT (H.hashNamedTriggerId name) value

/-- `SendSimpleEffectTriggerConfig`. -/
def sendSimpleEffectTriggerConfig (effectNode : Yaml) (type : UInt32) (board : UInt8)
    (port : UInt32) (context : String) : Pass Unit :=
  onlyIf ((effectNode.get "simpleTrigger").isDefined = true) do
    let trigger := effectNode.get "simpleTrigger"
    let name ← ofExcept (cpp.asString (trigger.get "source"))
    let source ← ofExcept (resolveSimpleTriggerSource H name)
    let number ← ofExcept (cpp.asUInt32 (trigger.get "number"))
    let value ← ofExcept (cpp.asUInt32 (trigger.get "value"))
    if 1 < value then
      ofExcept (.error (.runtime
        s!"invalid YAML configuration: {context}.simpleTrigger.value must be 0 or 1"))
    else sendTriggerConfig H board port type source number value

/-- Both triggers of an effect of the item. -/
def effectTriggersPass (item effect : Yaml) (type : UInt8) (context : String) : Pass Unit := do
  let board ← ofExcept (cpp.asUInt8 (item.get "board"))
  let port ← ofExcept (cpp.asUInt32 (item.get "port"))
  sendNamedEffectTriggerConfig H cpp effect type.toUInt32 board port
  sendSimpleEffectTriggerConfig H cpp effect type.toUInt32 board port
    (configItemContext cpp effect context)

/-- The value of `repeat`: -1 and -2 have codes of their own. -/
def repeatValue (node : Yaml) : Except Failure UInt32 := do
  let count ← cpp.asInt16 node
  if count = -1 then pure 255
  else if count = -2 then pure 254
  else cpp.asUInt32 node

/-! ### PWM Outputs -/

/-- One effect of a PWM output. -/
def pwmEffectPass (n_pwmOutput n_pwm_effect : Yaml) : Pass Unit := do
  let sendEffect := sendItem cpp n_pwmOutput H.CONFIG_TOPIC_PWM_EFFECT
  sendEffect 0 H.CONFIG_TOPIC_PORT (cpp.asUInt32 (n_pwmOutput.get "port"))
  sendEffect 1 H.CONFIG_TOPIC_DURATION (cpp.asUInt32 (n_pwm_effect.get "duration"))
  sendEffect 2 H.CONFIG_TOPIC_EFFECT (resolvePwmEffectMode H cpp (n_pwm_effect.get "effect"))
  sendEffect 3 H.CONFIG_TOPIC_FREQUENCY (cpp.asUInt32 (n_pwm_effect.get "frequency"))
  sendEffect 4 H.CONFIG_TOPIC_MAX_INTENSITY (cpp.asUInt32 (n_pwm_effect.get "maxIntensity"))
  sendEffect 5 H.CONFIG_TOPIC_MIN_INTENSITY (cpp.asUInt32 (n_pwm_effect.get "minIntensity"))
  sendEffect 6 H.CONFIG_TOPIC_MODE (cpp.asUInt32 (n_pwm_effect.get "mode"))
  sendEffect 7 H.CONFIG_TOPIC_PRIORITY (cpp.asUInt32 (n_pwm_effect.get "priority"))
  sendEffect 8 H.CONFIG_TOPIC_REPEAT (repeatValue cpp (n_pwm_effect.get "repeat"))
  effectTriggersPass H cpp n_pwmOutput n_pwm_effect H.CONFIG_TOPIC_PWM_EFFECT "pwmOutput.effects"
  emit .abortCheck

/-- `m_coils.push_back`. -/
def pushCoil (n_pwmOutput : Yaml) (type : UInt8) : Pass Unit := do
  let board ← ofExcept (cpp.asUInt8 (n_pwmOutput.get "board"))
  let port ← ofExcept (cpp.asUInt8 (n_pwmOutput.get "port"))
  let number ← ofExcept (cpp.asUInt8 (n_pwmOutput.get "number"))
  let description ← ofExcept (cpp.asString (n_pwmOutput.get "description"))
  let ballSearch ← ofExcept (readOptional cpp.asBool (n_pwmOutput.get "ballSearch") false)
  emit (.pushCoil
    { board := board, port := port, type := type, number := number, description := description,
      ballSearch := ballSearch })

/-- One PWM output. -/
def pwmOutputPass (n_pwmOutput : Yaml) : Pass Unit :=
  unlessSkipped cpp s n_pwmOutput do
    printDescription cpp s n_pwmOutput
    let sendPwm := sendItem cpp n_pwmOutput H.CONFIG_TOPIC_PWM
    sendPwm 0 H.CONFIG_TOPIC_PORT (cpp.asUInt32 (n_pwmOutput.get "port"))
    sendPwm 1 H.CONFIG_TOPIC_NUMBER (cpp.asUInt32 (n_pwmOutput.get "number"))
    sendPwm 2 H.CONFIG_TOPIC_POWER (cpp.asUInt32 (n_pwmOutput.get "power"))
    sendPwm 3 H.CONFIG_TOPIC_MIN_PULSE_TIME (cpp.asUInt32 (n_pwmOutput.get "minPulseTime"))
    sendPwm 4 H.CONFIG_TOPIC_MAX_PULSE_TIME (cpp.asUInt32 (n_pwmOutput.get "maxPulseTime"))
    sendPwm 5 H.CONFIG_TOPIC_HOLD_POWER (cpp.asUInt32 (n_pwmOutput.get "holdPower"))
    sendPwm 6 H.CONFIG_TOPIC_HOLD_POWER_ACTIVATION_TIME
      (cpp.asUInt32 (n_pwmOutput.get "holdPowerActivationTime"))
    sendPwm 7 H.CONFIG_TOPIC_FAST_SWITCH
      (if s.disableFastFlipForTests then .ok 0
        else cpp.asUInt32 (n_pwmOutput.get "fastFlipSwitch"))
    let c_type ← ofExcept (cpp.asString (n_pwmOutput.get "type"))
    sendPwm 8 H.CONFIG_TOPIC_TYPE (.ok (resolvePwmType H c_type).toUInt32)
    (n_pwmOutput.get "effects").items.forM (pwmEffectPass H cpp n_pwmOutput)
    pushCoil cpp n_pwmOutput (resolvePwmType H c_type)
    emit .abortCheck

/-! ### LED Stripes -/

/-- One segment of a stripe; the index runs on from the stripe's own events. -/
def ledSegmentPass (n_ledStripe : Yaml) (index : UInt8) (n_segment : Yaml) : Pass UInt8 := do
  let sendSegment := sendItem cpp n_ledStripe H.CONFIG_TOPIC_LED_SEGMENT
  sendSegment index H.CONFIG_TOPIC_PORT (cpp.asUInt32 (n_ledStripe.get "port"))
  sendSegment (index + 1) H.CONFIG_TOPIC_NUMBER (cpp.asUInt32 (n_segment.get "number"))
  sendSegment (index + 2) H.CONFIG_TOPIC_FROM (cpp.asUInt32 (n_segment.get "from"))
  sendSegment (index + 3) H.CONFIG_TOPIC_TO (cpp.asUInt32 (n_segment.get "to"))
  emit .abortCheck
  pure (index + 4)

/-- `BuildLedEffectColors`: missing colors are black. -/
def buildLedEffectColors (effect : Yaml) (context : String) :
    Except Failure (UInt32 × UInt32 × UInt32) := do
  let colors ← ((effect.get "colors").items.take 3).zipIdx.mapM fun entry =>
    parseHexColorValue cpp entry.1 s!"{context} field 'colors[{entry.2}]'"
  pure (colors.getD 0 0, colors.getD 1 0, colors.getD 2 0)

/-- `BuildWs2812FxOptions`. -/
def buildWs2812FxOptions (effect : Yaml) : Except Failure UInt32 := do
  let reverse ← readOptional cpp.asUInt32 (effect.get "reverse") 0
  let gamma ← readOptional cpp.asBool (effect.get "gamma") false
  let fadeRate ← readOptional cpp.asUInt32 (effect.get "fadeRate") 0
  let size ← readOptional cpp.asUInt32 (effect.get "size") 0
  let options ← readOptional cpp.asUInt32 (effect.get "options") 0
  let reverseBit : UInt32 := if reverse ≠ 0 then 0x80 else 0
  let gammaBit : UInt32 := if gamma then 0x08 else 0
  pure (reverseBit ||| gammaBit |||
    ((fadeRate &&& 0x07) <<< 4) ||| ((size &&& 0x03) <<< 1) ||| (options &&& 0xFF))

/-- One effect of a stripe. -/
def ledEffectPass (n_ledStripe n_led_effect : Yaml) : Pass Unit := do
  let sendEffect := sendItem cpp n_ledStripe H.CONFIG_TOPIC_LED_EFFECT
  sendEffect 0 H.CONFIG_TOPIC_PORT (cpp.asUInt32 (n_ledStripe.get "port"))
  sendEffect 1 H.CONFIG_TOPIC_LED_SEGMENT (cpp.asUInt32 (n_led_effect.get "segment"))
  let colors ← ofExcept (buildLedEffectColors cpp n_led_effect
    (configItemContext cpp n_led_effect "ledStripes.effects"))
  sendEffect 2 H.CONFIG_TOPIC_COLOR (.ok colors.1)
  sendEffect 3 H.CONFIG_TOPIC_COLOR_2 (.ok colors.2.1)
  sendEffect 4 H.CONFIG_TOPIC_COLOR_3 (.ok colors.2.2)
  sendEffect 5 H.CONFIG_TOPIC_DURATION (cpp.asUInt32 (n_led_effect.get "duration"))
  sendEffect 6 H.CONFIG_TOPIC_EFFECT (resolveLedEffectMode cpp (n_led_effect.get "effect"))
  sendEffect 7 H.CONFIG_TOPIC_REVERSE (cpp.asUInt32 (n_led_effect.get "reverse"))
  sendEffect 8 H.CONFIG_TOPIC_SPEED (cpp.asUInt32 (n_led_effect.get "speed"))
  sendEffect 9 H.CONFIG_TOPIC_MODE (cpp.asUInt32 (n_led_effect.get "mode"))
  sendEffect 10 H.CONFIG_TOPIC_PRIORITY (cpp.asUInt32 (n_led_effect.get "priority"))
  sendEffect 11 H.CONFIG_TOPIC_OPTIONS (buildWs2812FxOptions cpp n_led_effect)
  sendEffect 12 H.CONFIG_TOPIC_REPEAT (repeatValue cpp (n_led_effect.get "repeat"))
  effectTriggersPass H cpp n_ledStripe n_led_effect H.CONFIG_TOPIC_LED_EFFECT "ledStripes.effects"
  emit .abortCheck

/-- `LedConfigBlockName`. -/
def ledConfigBlockName (type : UInt8) : String :=
  if type = H.LED_TYPE_LAMP then "ledStripes.lamps"
  else if type = H.LED_TYPE_FLASHER then "ledStripes.flashers"
  else if type = H.LED_TYPE_GI then "ledStripes.gi"
  else "ledStripes.<unknown>"

/-- `LedConfigItemContext`. -/
def ledConfigItemContext (item : Yaml) (type board : UInt8) (port : UInt32) (itemIndex : Nat) :
    String :=
  let description := optionalStringField cpp item "description"
  let described := if description = "" then "" else s!", description '{description}'"
  let block := ledConfigBlockName H type
  s!"{block}[{itemIndex}] on board {board}, port {port}{described} ({formatYamlLocation item.mark})"

/-- One item of `SendLedConfigBlock`.  Its check returns from the block only;
    as nothing is sent before the stripe's own check, the attempt ends. -/
def ledItemPass (type board : UInt8) (port : UInt32) (item : Yaml) (itemIndex : Nat) :
    Pass Unit := do
  let context := ledConfigItemContext H cpp item type board port itemIndex
  emit .abortCheck
  let description ← ofExcept (readRequiredYamlField cpp.asString item "description" context)
  let number ← ofExcept (readRequiredYamlField cpp.asUInt32 item "number" context)
  let ledNumber ← ofExcept (readRequiredYamlField cpp.asUInt32 item "ledNumber" context)
  let color ← ofExcept (parseRequiredHexColorField cpp item "color" context)
  send board H.CONFIG_TOPIC_LAMPS 0 H.CONFIG_TOPIC_PORT port
  send board H.CONFIG_TOPIC_LAMPS 1 H.CONFIG_TOPIC_TYPE type.toUInt32
  send board H.CONFIG_TOPIC_LAMPS 2 H.CONFIG_TOPIC_NUMBER number
  send board H.CONFIG_TOPIC_LAMPS 3 H.CONFIG_TOPIC_LED_NUMBER ledNumber
  send board H.CONFIG_TOPIC_LAMPS 4 H.CONFIG_TOPIC_COLOR color
  emit (.pushLamp board port type number description color)

/-- `SendLedConfigBlock`, with the reads of its arguments. -/
def sendLedConfigBlock (n_ledStripe : Yaml) (field : String) (type : UInt8) : Pass Unit := do
  let board ← ofExcept (cpp.asUInt8 (n_ledStripe.get "board"))
  let port ← ofExcept (cpp.asUInt32 (n_ledStripe.get "port"))
  (n_ledStripe.get field).items.zipIdx.forM fun entry =>
    ledItemPass H cpp type board port entry.1 entry.2

/-- One LED stripe. -/
def ledStripePass (n_ledStripe : Yaml) : Pass Unit :=
  unlessSkipped cpp s n_ledStripe do
    let sendString := sendItem cpp n_ledStripe H.CONFIG_TOPIC_LED_STRING
    sendString 0 H.CONFIG_TOPIC_PORT (cpp.asUInt32 (n_ledStripe.get "port"))
    sendString 1 H.CONFIG_TOPIC_TYPE
      ((cpp.asString (n_ledStripe.get "ledType")).map fun type =>
        (resolveLedTypeValue H type).toUInt32)
    sendString 2 H.CONFIG_TOPIC_BRIGHTNESS (cpp.asUInt32 (n_ledStripe.get "brightness"))
    sendString 3 H.CONFIG_TOPIC_AMOUNT_LEDS (cpp.asUInt32 (n_ledStripe.get "amount"))
    sendString 4 H.CONFIG_TOPIC_AFTER_GLOW (cpp.asUInt32 (n_ledStripe.get "afterGlow"))
    sendString 5 H.CONFIG_TOPIC_LIGHT_UP (cpp.asUInt32 (n_ledStripe.get "lightUp"))
    let _ ← (n_ledStripe.get "segments").items.foldlM (ledSegmentPass H cpp n_ledStripe) 6
    (n_ledStripe.get "effects").items.forM (ledEffectPass H cpp n_ledStripe)
    sendLedConfigBlock H cpp n_ledStripe "lamps" H.LED_TYPE_LAMP
    sendLedConfigBlock H cpp n_ledStripe "flashers" H.LED_TYPE_FLASHER
    sendLedConfigBlock H cpp n_ledStripe "gi" H.LED_TYPE_GI
    emit .abortCheck

/-! ### The Whole Attempt -/

/-- The sections that are sent after the mappings were installed. -/
def sectionsPass (config : Yaml) : Pass Unit := do
  onlyIf ((config.get "switchMatrix").isDefined = true)
    (switchMatrixPass H cpp s (config.get "switchMatrix"))
  emit .abortCheck
  (config.get "switches").items.forM (switchPass H cpp s)
  emit .abortCheck
  (config.get "pwmOutput").items.forM (pwmOutputPass H cpp s)
  emit .abortCheck
  (config.get "ledStripes").items.forM (ledStripePass H cpp s)
  emit .abortCheck
  emit .failureCheck

/-- The token ring of the switch boards. -/
def tokenRingPass (switchBoards : List UInt8) : Pass Unit := do
  emit .finalizeBoardPresence
  emit (.setActiveSwitchBoards switchBoards)
  switchBoards.zipIdx.forM fun entry =>
    emit (.tokenRing entry.1 (switchBoards.getD (entry.2 + 1) P.kNoBoard) s.switchReplyDelayUs)

/-- `startupAttempt` up to `SendSetupFrame`. -/
def startupPass (config : Yaml) : Pass Unit := do
  let boards ← boardsPass H cpp s config
  emit .abortCheck
  mappingPass cpp s config boards
  sectionsPass H cpp s config
  tokenRingPass P s boards.switchBoards
  emit .abortCheck
  emit .failureCheck

end passes

end Pass

end LibPpuc
