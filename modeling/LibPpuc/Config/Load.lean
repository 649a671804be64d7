import LibPpuc.Config.Validate
import LibPpuc.Comm.Mapping

/-! # Loading a Configuration

  `LoadConfiguration` validates the document, warns about coils that nothing
  bounds, derives the switch groups and the coil-to-GI mappings, and reads
  the root fields.  A document is accepted if none of this throws.
-/

namespace LibPpuc

/-- `PPUCCoilGiMapping`. -/
structure PPUCCoilGiMapping where
  coil : UInt16
  gi : UInt8
  onBrightness : UInt8
  offBrightness : UInt8
  deriving DecidableEq, Repr

/-- The members of `PPUC` that `LoadConfiguration` sets. -/
structure Ppuc where
  ppucConfig : Yaml
  switchGroups : Map String (List UInt16)
  coilGiMappings : List PPUCCoilGiMapping
  debug : Bool
  rom : String
  serial : String
  platform : UInt32

section loading

variable (H : EventHeader) (cpp : YamlCpp)

/-- A field that is read only if it is there. -/
def readOptional {α : Type} (convert : Yaml → Except Failure α) (node : Yaml) (default : α) :
    Except Failure α :=
  if node.isDefined then convert node else .ok default

/-! ### Unprotected Coils -/

/-- `PwmTypeNeedsThermalProtection`. -/
def pwmTypeNeedsThermalProtection (type : String) : Bool :=
  resolvePwmType H type != H.PWM_TYPE_LAMP

/-- The check of one output in `WarnAboutUnprotectedSolenoids`: whether it
    gets a warning. -/
def warnAboutOutput (item : Yaml) : Except Failure Bool := do
  let type ← cpp.asString (item.get "type")
  if pwmTypeNeedsThermalProtection H type = false then pure false
  else
    let maxPulseTime ← cpp.asUInt32 (item.get "maxPulseTime")
    let holdPower ← cpp.asUInt32 (item.get "holdPower")
    let holdPowerActivationTime ← cpp.asUInt32 (item.get "holdPowerActivationTime")
    let dualWinding ← readOptional cpp.asBool (item.get "dualWinding") false
    if 0 < maxPulseTime ∨ (0 < holdPower ∧ 0 < holdPowerActivationTime) ∨ dualWinding = true then
      pure false
    else
      -- the warning prints these two
      let _ ← readOptional cpp.asString (item.get "description") ""
      let _ ← cpp.asUInt32 (item.get "number")
      pure true

/-- `WarnAboutUnprotectedSolenoids`, without the text it prints. -/
def warnAboutUnprotectedSolenoids (config : Yaml) : Except Failure Unit :=
  (config.get "pwmOutput").items.forM fun item => (warnAboutOutput H cpp item).map fun _ => ⟨⟩

/-! ### Switch Groups -/

/-- The numbers of the switches of a section that are marked as buttons. -/
def buttonSwitches (switches : Yaml) : Except Failure (List UInt16) :=
  switches.items.foldlM
    (fun numbers n_switch => do
      let button ← readOptional cpp.asBool (n_switch.get "button") false
      if button then
        let number ← cpp.asUInt16 (n_switch.get "number")
        pure (numbers ++ [number])
      else pure numbers)
    []

/-- The switches of a declared group. -/
def groupSwitches (group : Yaml) : Except Failure (List UInt16) :=
  (group.get "switches").items.mapM cpp.asUInt16

/-- `ParseSwitchGroups`: the numbers of each group are sorted and distinct. -/
def parseSwitchGroups (config : Yaml) : Except Failure (Map String (List UInt16)) := do
  let matrixButtons ←
    if (config.get "switchMatrix").isDefined then
      buttonSwitches cpp ((config.get "switchMatrix").get "switches")
    else pure []
  let switchButtons ← buttonSwitches cpp (config.get "switches")
  let buttons := matrixButtons ++ switchButtons
  let groups : Map String (List UInt16) :=
    if buttons = [] then ∅ else AList.insert "buttons" (numberSet buttons) ∅
  (config.get "switchGroups").entries.foldlM
    (fun groups entry => do
      let name ← cpp.asString entry.1
      let numbers ← groupSwitches cpp entry.2
      -- a name that comes again replaces the group
      pure (groups.insert name (numberSet numbers)))
    groups

/-! ### Coil Mappings -/

/-- One entry of `ParseCoilGiMappings`. -/
def parseCoilGiMapping (item : Yaml) : Except Failure PPUCCoilGiMapping := do
  let coil ← cpp.asUInt16 (item.get "coil")
  let gi ← cpp.asUInt8 (item.get "gi")
  let onBrightness ← readOptional cpp.asUInt8 (item.get "onBrightness") 8
  let offBrightness ← readOptional cpp.asUInt8 (item.get "offBrightness") 0
  pure { coil := coil, gi := gi, onBrightness := onBrightness, offBrightness := offBrightness }

/-- `ParseCoilGiMappings`. -/
def parseCoilGiMappings (config : Yaml) : Except Failure (List PPUCCoilGiMapping) :=
  (config.get "coilGiMappings").items.mapM (parseCoilGiMapping cpp)

/-! ### `LoadConfiguration` -/

/-- A YAML exception, with the file it is about. -/
def Failure.inFile (configFile : String) : Failure → Failure
  | .yaml mark what =>
    .runtime s!"invalid YAML configuration in '{configFile}' at {formatYamlLocation mark}: {what}"
  | e => e

/-- The reads of the root fields at the end of `LoadConfiguration`. -/
def readRoot (config : Yaml) (ppuc : Ppuc) : Except Failure Unit × Ppuc :=
  let context := configItemContext cpp config "root"
  match readRequiredYamlField cpp.asBool config "debug" context with
  | .error e => (.error e, ppuc)
  | .ok debug =>
    -- what was read stays if a later field fails
    let ppuc := { ppuc with debug := debug }
    match readRequiredYamlField cpp.asString config "rom" context with
    | .error e => (.error e, ppuc)
    | .ok rom =>
      let ppuc := { ppuc with rom := rom }
      match readRequiredYamlField cpp.asString config "serialPort" context with
      | .error e => (.error e, ppuc)
      | .ok serial =>
        let ppuc := { ppuc with serial := serial }
        match readRequiredYamlField cpp.asString config "platform" context with
        | .error e => (.error e, ppuc)
        | .ok platform => (.ok ⟨⟩, { ppuc with platform := resolvePlatform H platform })

/-- `LoadConfiguration` of a file that `YAML::LoadFile` has parsed. -/
def loadConfiguration (configFile : String) (config : Yaml) (ppuc : Ppuc) :
    Except Failure Unit × Ppuc :=
  -- the document is stored before it is checked
  let ppuc := { ppuc with ppucConfig := config }
  match validatePpucConfiguration H cpp config with
  | .error e => (.error (e.inFile configFile), ppuc)
  | .ok _ =>
    match warnAboutUnprotectedSolenoids H cpp config with
    | .error e => (.error (e.inFile configFile), ppuc)
    | .ok _ =>
      match parseSwitchGroups cpp config with
      | .error e => (.error (e.inFile configFile), ppuc)
      | .ok groups =>
        -- the groups stay if the coil mappings fail
        let ppuc := { ppuc with switchGroups := groups }
        match parseCoilGiMappings cpp config with
        | .error e => (.error (e.inFile configFile), ppuc)
        | .ok mappings => readRoot H cpp config { ppuc with coilGiMappings := mappings }

/-- `LoadConfiguration` accepts the document. -/
def Accepted (config : Yaml) : Prop :=
  ∃ configFile ppuc, Returns (loadConfiguration H cpp configFile config ppuc).1

/-- An accepted document is valid. -/
theorem Accepted.valid {config : Yaml} (h : Accepted H cpp config) :
    Returns (validatePpucConfiguration H cpp config) := by
  obtain ⟨configFile, ppuc, haccepted⟩ := h
  unfold loadConfiguration at haccepted
  dsimp only at haccepted
  split at haccepted
  · exact absurd haccepted (by simp)
  · next u hvalid => exact ⟨u, hvalid⟩

end loading

end LibPpuc
