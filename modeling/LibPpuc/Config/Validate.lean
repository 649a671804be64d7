import LibPpuc.Config.Header

/-! # Validation of a Configuration

  `ValidatePpucConfiguration` walks the whole document once, before any
  frame is written to a board, and throws at the first field that is missing
  or does not convert.  It checks types and ranges of its own choice; what
  the startup pass later asks of the same fields is a different walk.
-/

namespace LibPpuc

/-- Run the body under a condition. -/
def onlyIf {m : Type → Type} [Monad m] (c : Prop) [Decidable c] (body : m Unit) : m Unit :=
  if c then body else pure ⟨⟩

/-! ### Locations and Contexts -/

/-- `FormatYamlLocation`. -/
def formatYamlLocation : Mark → String
  | none => "unknown location"
  | some (line, column) => s!"line {line + 1}, column {column + 1}"

/-- `what()` of an exception. -/
def Failure.what : Failure → String
  | .yaml _ what => what
  | .runtime what => what

section validation

variable (H : EventHeader) (cpp : YamlCpp)

/-- `OptionalStringField`: empty if the field is missing or no string. -/
def optionalStringField (node : Yaml) (field : String) : String :=
  if (node.get field).isDefined then
    match cpp.asString (node.get field) with
    | .ok value => value
    | .error _ => ""
  else ""

/-- `ConfigItemContext`. -/
def configItemContext (item : Yaml) (path : String) : String :=
  let description := optionalStringField cpp item "description"
  let described := if description = "" then "" else s!", description '{description}'"
  s!"{path}{described} ({formatYamlLocation item.mark})"

/-! ### Checks of One Field -/

/-- `RequireYamlNode`. -/
def requireYamlNode (node : Yaml) (path : String) : Except Failure Unit :=
  if node.isDefined then .ok ⟨⟩
  else .error (.runtime s!"invalid YAML configuration: missing required '{path}'")

/-- A conversion whose YAML exception becomes an error about the field. -/
def convertField {α : Type} (convert : Yaml → Except Failure α) (value : Yaml)
    (field context : String) : Except Failure α :=
  match convert value with
  | .error (.yaml _ what) =>
    .error (.runtime
      s!"invalid YAML configuration: {context} has invalid field '{field}' at {formatYamlLocation value.mark}: {what}")
  | result => result

/-- `ReadRequiredYamlField`. -/
def readRequiredYamlField {α : Type} (convert : Yaml → Except Failure α) (item : Yaml)
    (field context : String) : Except Failure α :=
  if (item.get field).isDefined then convertField convert (item.get field) field context
  else
    .error (.runtime
      s!"invalid YAML configuration: {context} is missing required field '{field}'")

/-- `ValidateRequiredField`. -/
def validateRequiredField {α : Type} (convert : Yaml → Except Failure α) (item : Yaml)
    (path field : String) : Except Failure Unit :=
  (readRequiredYamlField convert item field (configItemContext cpp item path)).map fun _ => ⟨⟩

/-- `ValidateOptionalField`. -/
def validateOptionalField {α : Type} (convert : Yaml → Except Failure α) (item : Yaml)
    (path field : String) : Except Failure Unit :=
  if (item.get field).isDefined then
    (convertField convert (item.get field) field (configItemContext cpp item path)).map fun _ => ⟨⟩
  else .ok ⟨⟩

/-- `ValidateEffectModeField`: only that the mode is a string. -/
def validateEffectModeField (item : Yaml) (path field : String) : Except Failure Unit :=
  validateRequiredField cpp cpp.asString item path field

/-! ### Checks of Lists and Maps -/

/-- A node of the wrong kind. -/
def wrongKind (node : Yaml) (path kind : String) : Failure :=
  .runtime
    s!"invalid YAML configuration: '{path}' must be a {kind} at {formatYamlLocation node.mark}"

/-- `ValidateRequiredSequence`. -/
def validateRequiredSequence (node : Yaml) (path : String) : Except Failure Unit := do
  requireYamlNode node path
  if node.isSequence then .ok ⟨⟩ else .error (wrongKind node path "list")

/-- `ValidateOptionalSequence`: an empty map passes for an empty list. -/
def validateOptionalSequence (node : Yaml) (path : String) : Except Failure Unit :=
  if !node.isDefined || (node.isMap && node.size == 0) || node.isSequence then .ok ⟨⟩
  else .error (wrongKind node path "list")

/-- `ValidateRequiredMap`. -/
def validateRequiredMap (node : Yaml) (path : String) : Except Failure Unit := do
  requireYamlNode node path
  if node.isMap then .ok ⟨⟩ else .error (wrongKind node path "map")

/-- The loop over the items of a list, each of which has to be a map. -/
def validateItems (items : List Yaml) (path : String)
    (callback : Yaml → String → Except Failure Unit) : Except Failure Unit :=
  items.zipIdx.forM fun entry => do
    let itemPath := s!"{path}[{entry.2}]"
    validateRequiredMap entry.1 itemPath
    callback entry.1 itemPath

/-- `ValidateOptionalItems`. -/
def validateOptionalItems (parent : Yaml) (field parentPath : String)
    (callback : Yaml → String → Except Failure Unit) : Except Failure Unit := do
  let path := s!"{parentPath}.{field}"
  validateOptionalSequence (parent.get field) path
  validateItems (parent.get field).items path callback

/-! ### Colors and Triggers -/

/-- The error of a text that is no color. -/
def badColor (context text : String) : Failure :=
  .runtime s!"invalid YAML configuration: {context} expected hexadecimal color, got '{text}'"

/-- `ParseRequiredHexColorField`. -/
def parseRequiredHexColorField (item : Yaml) (field context : String) :
    Except Failure UInt32 := do
  let value ← readRequiredYamlField cpp.asString item field context
  match parseHex (colorDigits value) with
  | some color => .ok color
  | none => .error (badColor s!"{context} has invalid field '{field}':" (colorDigits value))

/-- `ParseHexColorValue`. -/
def parseHexColorValue (value : Yaml) (context : String) : Except Failure UInt32 := do
  let text ← cpp.asString value
  match parseHex (colorDigits text) with
  | some color => .ok color
  | none => .error (badColor context (colorDigits text))

/-- `ValidateLedEffectColorFields`. -/
def validateLedEffectColorFields (effect : Yaml) (effectPath : String) :
    Except Failure Unit := do
  let context := configItemContext cpp effect effectPath
  let colors := effect.get "colors"
  -- a list of one to three colors, and nothing else
  if colors.isSequence && colors.size != 0 && decide (colors.size ≤ 3) then
    colors.items.zipIdx.forM fun entry =>
      (parseHexColorValue cpp entry.1 s!"{context} field 'colors[{entry.2}]'").map fun _ => ⟨⟩
  else
    .error (.runtime
      s!"invalid YAML configuration: {context} field 'colors' must contain 1 to 3 hexadecimal colors")

/-- The checks of a simple trigger. -/
def validateSimpleTrigger (simpleTrigger : Yaml) (path : String) : Except Failure Unit := do
  validateRequiredMap simpleTrigger path
  validateRequiredField cpp cpp.asString simpleTrigger path "source"
  validateRequiredField cpp cpp.asUInt32 simpleTrigger path "number"
  validateRequiredField cpp cpp.asUInt32 simpleTrigger path "value"
  let source ← cpp.asString (simpleTrigger.get "source")
  let sourceMark := (simpleTrigger.get "source").mark
  let valueMark := (simpleTrigger.get "value").mark
  -- `light` passes, too, but the text does not name it
  if source ≠ "switch" ∧ source ≠ "lamp" ∧ source ≠ "light" then
    .error (.runtime
      s!"invalid YAML configuration: {path}.source must be 'switch' or 'lamp', got '{source}' at {formatYamlLocation sourceMark}")
  else
    let value ← cpp.asUInt32 (simpleTrigger.get "value")
    if 1 < value then
      .error (.runtime
        s!"invalid YAML configuration: {path}.value must be 0 or 1 at {formatYamlLocation valueMark}")
    else .ok ⟨⟩

/-- `ValidateNamedEffectTriggerFields`. -/
def validateNamedEffectTriggerFields (effect : Yaml) (effectPath : String) :
    Except Failure Unit := do
  validateOptionalField cpp cpp.asString effect effectPath "name"
  validateOptionalField cpp cpp.asUInt32 effect effectPath "value"
  onlyIf ((effect.get "simpleTrigger").isDefined = true)
    (validateSimpleTrigger cpp (effect.get "simpleTrigger") s!"{effectPath}.simpleTrigger")

/-! ### Items -/

/-- An entry of `boards`. -/
def validateBoard (board : Yaml) (path : String) : Except Failure Unit := do
  validateRequiredField cpp cpp.asUInt8 board path "number"
  validateRequiredField cpp cpp.asBool board path "pollEvents"

/-- An entry of `switchMatrix.switches`. -/
def validateMatrixSwitch (item : Yaml) (path : String) : Except Failure Unit := do
  validateRequiredField cpp cpp.asString item path "description"
  validateRequiredField cpp cpp.asUInt8 item path "board"
  validateRequiredField cpp cpp.asUInt32 item path "port"
  validateRequiredField cpp cpp.asUInt32 item path "number"
  validateOptionalField cpp cpp.asBool item path "button"

/-- The `switchMatrix` section. -/
def validateSwitchMatrix (switchMatrix : Yaml) : Except Failure Unit := do
  validateRequiredMap switchMatrix "switchMatrix"
  validateRequiredField cpp cpp.asUInt8 switchMatrix "switchMatrix" "board"
  validateRequiredField cpp cpp.asBool switchMatrix "switchMatrix" "activeLow"
  validateRequiredField cpp cpp.asUInt8 switchMatrix "switchMatrix" "rows"
  validateOptionalItems switchMatrix "switches" "switchMatrix" (validateMatrixSwitch cpp)

/-- An entry of `switches`. -/
def validateSwitch (item : Yaml) (path : String) : Except Failure Unit := do
  validateRequiredField cpp cpp.asString item path "description"
  validateRequiredField cpp cpp.asUInt8 item path "board"
  validateRequiredField cpp cpp.asUInt32 item path "port"
  validateRequiredField cpp cpp.asUInt32 item path "number"
  validateRequiredField cpp cpp.asUInt32 item path "debounce"
  validateOptionalField cpp cpp.asString item path "debounceMode"
  validateOptionalField cpp cpp.asString item path "debounce_mode"
  validateOptionalField cpp cpp.asBool item path "button"

/-- An entry of `switchGroups`. -/
def validateSwitchGroup (key group : Yaml) : Except Failure Unit := do
  let name ← cpp.asString key
  if name = "" then
    .error (.runtime
      s!"invalid YAML configuration: switchGroups contains an empty group name at {formatYamlLocation key.mark}")
  -- the group of the switches that are marked as buttons
  else if name = "buttons" then
    .error (.runtime
      "invalid YAML configuration: switchGroups.buttons is reserved for switches with button: true")
  else
    let groupPath := s!"switchGroups.{name}"
    validateRequiredMap group groupPath
    validateRequiredSequence (group.get "switches") s!"{groupPath}.switches"
    (group.get "switches").items.zipIdx.forM fun entry =>
      match cpp.asUInt16 entry.1 with
      | .ok _ => .ok ⟨⟩
      | .error e =>
        .error (.runtime
          s!"invalid YAML configuration: {groupPath}.switches[{entry.2}] at {formatYamlLocation entry.1.mark}: {e.what}")

/-- The `switchGroups` section. -/
def validateSwitchGroups (switchGroups : Yaml) : Except Failure Unit :=
  if switchGroups.isMap then
    switchGroups.entries.forM fun entry => validateSwitchGroup cpp entry.1 entry.2
  else .error (wrongKind switchGroups "switchGroups" "map")

/-- An entry of `coilGiMappings`. -/
def validateCoilGiMapping (item : Yaml) (path : String) : Except Failure Unit := do
  validateRequiredField cpp cpp.asUInt32 item path "coil"
  validateRequiredField cpp cpp.asUInt32 item path "gi"
  validateOptionalField cpp cpp.asUInt32 item path "onBrightness"
  validateOptionalField cpp cpp.asUInt32 item path "offBrightness"

/-- An entry of `pwmOutput.effects`. -/
def validatePwmEffect (effect : Yaml) (path : String) : Except Failure Unit := do
  validateRequiredField cpp cpp.asUInt32 effect path "duration"
  validateEffectModeField cpp effect path "effect"
  validateRequiredField cpp cpp.asUInt32 effect path "frequency"
  validateRequiredField cpp cpp.asUInt32 effect path "maxIntensity"
  validateRequiredField cpp cpp.asUInt32 effect path "minIntensity"
  validateRequiredField cpp cpp.asUInt32 effect path "mode"
  validateRequiredField cpp cpp.asUInt32 effect path "priority"
  validateRequiredField cpp cpp.asInt16 effect path "repeat"
  validateNamedEffectTriggerFields cpp effect path

/-- An entry of `pwmOutput`. -/
def validatePwmOutput (item : Yaml) (path : String) : Except Failure Unit := do
  validateRequiredField cpp cpp.asString item path "description"
  validateRequiredField cpp cpp.asUInt8 item path "board"
  validateRequiredField cpp cpp.asUInt32 item path "port"
  validateRequiredField cpp cpp.asUInt32 item path "number"
  validateRequiredField cpp cpp.asUInt32 item path "power"
  validateRequiredField cpp cpp.asUInt32 item path "minPulseTime"
  validateRequiredField cpp cpp.asUInt32 item path "maxPulseTime"
  validateRequiredField cpp cpp.asUInt32 item path "holdPower"
  validateRequiredField cpp cpp.asUInt32 item path "holdPowerActivationTime"
  validateRequiredField cpp cpp.asUInt32 item path "fastFlipSwitch"
  validateRequiredField cpp cpp.asString item path "type"
  validateOptionalField cpp cpp.asBool item path "ballSearch"
  validateOptionalField cpp cpp.asBool item path "dualWinding"
  validateOptionalField cpp cpp.asUInt32 item path "eosSwitch"
  validateOptionalItems item "effects" path (validatePwmEffect cpp)

/-- An entry of `ledStripes.segments`. -/
def validateLedSegment (segment : Yaml) (path : String) : Except Failure Unit := do
  validateRequiredField cpp cpp.asUInt32 segment path "number"
  validateRequiredField cpp cpp.asUInt32 segment path "from"
  validateRequiredField cpp cpp.asUInt32 segment path "to"

/-- An entry of `ledStripes.effects`. -/
def validateLedEffect (effect : Yaml) (path : String) : Except Failure Unit := do
  validateRequiredField cpp cpp.asUInt32 effect path "segment"
  validateLedEffectColorFields cpp effect path
  validateRequiredField cpp cpp.asUInt32 effect path "duration"
  validateEffectModeField cpp effect path "effect"
  validateRequiredField cpp cpp.asUInt32 effect path "reverse"
  validateOptionalField cpp cpp.asUInt32 effect path "fadeRate"
  validateOptionalField cpp cpp.asBool effect path "gamma"
  validateOptionalField cpp cpp.asUInt32 effect path "size"
  validateOptionalField cpp cpp.asUInt32 effect path "options"
  validateRequiredField cpp cpp.asUInt32 effect path "speed"
  validateRequiredField cpp cpp.asUInt32 effect path "mode"
  validateRequiredField cpp cpp.asUInt32 effect path "priority"
  validateRequiredField cpp cpp.asInt16 effect path "repeat"
  validateNamedEffectTriggerFields cpp effect path

/-- An entry of a list of LED outputs. -/
def validateLedItem (item : Yaml) (path : String) : Except Failure Unit := do
  validateRequiredField cpp cpp.asString item path "description"
  validateRequiredField cpp cpp.asUInt32 item path "number"
  validateRequiredField cpp cpp.asUInt32 item path "ledNumber"
  (parseRequiredHexColorField cpp item "color" (configItemContext cpp item path)).map fun _ => ⟨⟩

/-- `ValidateLedConfigBlock`. -/
def validateLedConfigBlock (ledStripe : Yaml) (field ledStripePath : String) :
    Except Failure Unit :=
  validateOptionalItems ledStripe field ledStripePath (validateLedItem cpp)

/-- An entry of `ledStripes`. -/
def validateLedStripe (item : Yaml) (path : String) : Except Failure Unit := do
  validateRequiredField cpp cpp.asUInt8 item path "board"
  validateRequiredField cpp cpp.asUInt32 item path "port"
  validateRequiredField cpp cpp.asString item path "ledType"
  let ledType ← cpp.asString (item.get "ledType")
  let ledTypeMark := (item.get "ledType").mark
  -- 0 stands for a type that is not known
  if resolveLedTypeValue H ledType = 0 then
    .error (.runtime
      s!"invalid YAML configuration: {path}.ledType has unsupported value '{ledType}' at {formatYamlLocation ledTypeMark}")
  else
    validateRequiredField cpp cpp.asUInt32 item path "brightness"
    validateRequiredField cpp cpp.asUInt32 item path "amount"
    validateRequiredField cpp cpp.asUInt32 item path "afterGlow"
    validateRequiredField cpp cpp.asUInt32 item path "lightUp"
    validateOptionalItems item "segments" path (validateLedSegment cpp)
    validateOptionalItems item "effects" path (validateLedEffect cpp)
    validateLedConfigBlock cpp item "lamps" path
    validateLedConfigBlock cpp item "flashers" path
    validateLedConfigBlock cpp item "gi" path

/-! ### The Document -/

/-- `ValidatePpucConfiguration`. -/
def validatePpucConfiguration (config : Yaml) : Except Failure Unit := do
  validateRequiredMap config "root"
  validateRequiredField cpp cpp.asBool config "root" "debug"
  validateRequiredField cpp cpp.asString config "root" "rom"
  validateRequiredField cpp cpp.asString config "root" "serialPort"
  validateRequiredField cpp cpp.asString config "root" "platform"
  validateRequiredField cpp cpp.asUInt8 config "root" "coinDoorClosedSwitch"
  validateRequiredField cpp cpp.asUInt8 config "root" "gameOnSolenoid"
  validateRequiredSequence (config.get "boards") "boards"
  validateItems (config.get "boards").items "boards" (validateBoard cpp)
  onlyIf ((config.get "switchMatrix").isDefined = true)
    (validateSwitchMatrix cpp (config.get "switchMatrix"))
  validateOptionalItems config "switches" "root" (validateSwitch cpp)
  onlyIf ((config.get "switchGroups").isDefined = true)
    (validateSwitchGroups cpp (config.get "switchGroups"))
  validateOptionalItems config "coilGiMappings" "root" (validateCoilGiMapping cpp)
  validateOptionalItems config "pwmOutput" "root" (validatePwmOutput cpp)
  validateOptionalItems config "ledStripes" "root" (validateLedStripe H cpp)

end validation

end LibPpuc
