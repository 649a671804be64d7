import LibPpuc.Config.Load

/-! # What an Accepted Configuration Looks Like

  The schema that validation enforces, section by section: which fields have
  to be there, which may be, and what they have to convert to.  For each
  section, `ValidX` says what an entry has to look like and `validX` that
  the check of the entry returns only then.
-/

namespace LibPpuc

/-! ### Fields -/

/-- The field is there and converts. -/
def Has {α : Type} (convert : Yaml → Except Failure α) (item : Yaml) (field : String) : Prop :=
  (item.get field).isDefined = true ∧ Returns (convert (item.get field))

/-- If the field is there, it converts. -/
def MayHave {α : Type} (convert : Yaml → Except Failure α) (item : Yaml) (field : String) : Prop :=
  (item.get field).isDefined = true → Returns (convert (item.get field))

/-- Every entry of the list is valid, if the field is a list at all. -/
def ListOf (valid : Yaml → Prop) (parent : Yaml) (field : String) : Prop :=
  ∀ item ∈ (parent.get field).items, valid item

section fields

variable {cpp : YamlCpp} {α : Type} {convert : Yaml → Except Failure α} {item : Yaml}
  {path field context : String}

/-- Two checks, one after the other. -/
theorem returns_seq {β : Type} {p : Except Failure α} {q : Except Failure β} :
    Returns (p >>= fun _ => q) ↔ Returns p ∧ Returns q := by
  rw [returns_bind]
  constructor
  · intro h
    obtain ⟨⟨a, ha⟩, hq⟩ := h
    exact ⟨⟨a, ha⟩, hq a ha⟩
  · intro h
    obtain ⟨hp, hq⟩ := h
    exact ⟨hp, fun _ _ => hq⟩

theorem returns_convertField {value : Yaml} :
    Returns (convertField convert value field context) ↔ Returns (convert value) := by
  unfold convertField
  split
  · next heq => simp [heq]
  · rfl

theorem returns_readRequiredYamlField :
    Returns (readRequiredYamlField convert item field context) ↔ Has convert item field := by
  unfold readRequiredYamlField Has
  split
  · next hdefined => simp [hdefined, returns_convertField]
  · next hdefined => simp [hdefined]

/-- A required field reads as the conversion says. -/
theorem readRequiredYamlField_eq_ok {a : α}
    (h : readRequiredYamlField convert item field context = .ok a) :
    convert (item.get field) = .ok a := by
  unfold readRequiredYamlField at h
  split at h
  · unfold convertField at h
    split at h
    · exact nomatch h
    · exact h
  · exact nomatch h

theorem returns_validateRequiredField :
    Returns (validateRequiredField cpp convert item path field) ↔ Has convert item field := by
  unfold validateRequiredField
  rw [returns_map, returns_readRequiredYamlField]

theorem returns_validateOptionalField :
    Returns (validateOptionalField cpp convert item path field) ↔ MayHave convert item field := by
  unfold validateOptionalField MayHave
  split
  · next hdefined => simp [hdefined, returns_convertField]
  · next hdefined => simp [hdefined]

theorem returns_validateEffectModeField :
    Returns (validateEffectModeField cpp item path field) ↔ Has cpp.asString item field :=
  returns_validateRequiredField

theorem returns_onlyIf {c : Prop} {_ : Decidable c} {body : Except Failure Unit} :
    Returns (onlyIf c body) ↔ (c → Returns body) := by
  unfold onlyIf
  split
  · next hc => simp [hc]
  · next hc => simp [hc]

/-- Every item of a checked list passes the check of its items. -/
theorem validItems {items : List Yaml} {callback : Yaml → String → Except Failure Unit}
    {valid : Yaml → Prop} (hcallback : ∀ item path, Returns (callback item path) → valid item)
    (h : Returns (validateItems items path callback)) : ∀ item ∈ items, valid item := by
  intro item hitem
  obtain ⟨i, hi⟩ := List.getElem?_of_mem hitem
  unfold validateItems at h
  rw [returns_forM] at h
  have hentry : (item, i) ∈ items.zipIdx := by
    rw [List.mem_zipIdx_iff_getElem?]
    exact hi
  have hchecked := h _ hentry
  dsimp only at hchecked
  rw [returns_seq] at hchecked
  exact hcallback item _ hchecked.2

theorem validOptionalItems {parent : Yaml} {parentPath : String}
    {callback : Yaml → String → Except Failure Unit} {valid : Yaml → Prop}
    (hcallback : ∀ item path, Returns (callback item path) → valid item)
    (h : Returns (validateOptionalItems parent field parentPath callback)) :
    ListOf valid parent field := by
  unfold validateOptionalItems at h
  rw [returns_seq] at h
  exact validItems hcallback h.2

end fields

/-! ### Colors and Triggers -/

/-- A color in hexadecimal digits. -/
def IsColor (cpp : YamlCpp) (value : Yaml) : Prop :=
  ∃ text, cpp.asString value = .ok text ∧ (parseHex (colorDigits text)).isSome = true

/-- What a simple trigger has to look like. -/
structure ValidSimpleTrigger (cpp : YamlCpp) (trigger : Yaml) : Prop where
  source : ∃ name, cpp.asString (trigger.get "source") = .ok name ∧
    (name = "switch" ∨ name = "lamp" ∨ name = "light")
  number : Has cpp.asUInt32 trigger "number"
  value : ∃ value, cpp.asUInt32 (trigger.get "value") = .ok value ∧ ¬ 1 < value

/-- What the triggers of an effect have to look like. -/
structure ValidTriggers (cpp : YamlCpp) (effect : Yaml) : Prop where
  name : MayHave cpp.asString effect "name"
  value : MayHave cpp.asUInt32 effect "value"
  simpleTrigger : (effect.get "simpleTrigger").isDefined = true →
    ValidSimpleTrigger cpp (effect.get "simpleTrigger")

section triggers

variable {cpp : YamlCpp}

theorem returns_parseHexColorValue {value : Yaml} {context : String} :
    Returns (parseHexColorValue cpp value context) ↔ IsColor cpp value := by
  unfold parseHexColorValue IsColor
  cases htext : cpp.asString value with
  | error e => simp [Bind.bind, Except.bind]
  | ok text =>
    simp only [Bind.bind, Except.bind, Except.ok.injEq, exists_eq_left']
    cases parseHex (colorDigits text) <;> simp

theorem returns_parseRequiredHexColorField {item : Yaml} {field context : String} :
    Returns (parseRequiredHexColorField cpp item field context) ↔
      IsColor cpp (item.get field) := by
  unfold parseRequiredHexColorField IsColor
  rw [returns_bind_iff_exists]
  constructor
  · intro h
    obtain ⟨text, htext, hparsed⟩ := h
    refine ⟨text, readRequiredYamlField_eq_ok htext, ?_⟩
    cases hhex : parseHex (colorDigits text) with
    | none => simp [hhex] at hparsed
    | some color => rfl
  · intro h
    obtain ⟨text, htext, hcolor⟩ := h
    -- an undefined node has no text
    have hdefined : (item.get field).isDefined = true := by
      cases hnode : item.get field with
      | undefined =>
        rw [hnode] at htext
        contradiction
      | _ => rfl
    obtain ⟨text', htext'⟩ := returns_readRequiredYamlField.mpr
      ⟨hdefined, text, htext⟩
    obtain rfl : text = text' :=
      Except.ok.inj (htext.symm.trans (readRequiredYamlField_eq_ok htext'))
    obtain ⟨color, hhex⟩ := Option.isSome_iff_exists.mp hcolor
    exact ⟨text, htext', by simp [hhex]⟩

/-- The three colors of an effect. -/
theorem validLedEffectColorFields {effect : Yaml} {path : String}
    (h : Returns (validateLedEffectColorFields cpp effect path)) :
    ∀ color ∈ (effect.get "colors").items, IsColor cpp color := by
  unfold validateLedEffectColorFields at h
  dsimp only at h
  split at h
  · intro color hcolor
    obtain ⟨i, hi⟩ := List.getElem?_of_mem hcolor
    rw [returns_forM] at h
    have hentry : (color, i) ∈ (effect.get "colors").items.zipIdx := by
      rw [List.mem_zipIdx_iff_getElem?]
      exact hi
    have hparsed := h _ hentry
    rw [returns_map, returns_parseHexColorValue] at hparsed
    exact hparsed
  · exact absurd h (by simp)

theorem validSimpleTrigger {trigger : Yaml} {path : String}
    (h : Returns (validateSimpleTrigger cpp trigger path)) : ValidSimpleTrigger cpp trigger := by
  unfold validateSimpleTrigger at h
  simp only [returns_seq, returns_validateRequiredField] at h
  obtain ⟨-, -, hnumber, -, hrest⟩ := h
  obtain ⟨⟨name, hname⟩, hrest⟩ := returns_bind.mp hrest
  have hsource := hrest name hname
  split at hsource
  · exact absurd hsource (by simp)
  next hknown =>
    rw [returns_bind] at hsource
    obtain ⟨⟨value, hvalue⟩, hrange⟩ := hsource
    have hvalue' := hrange value hvalue
    split at hvalue'
    · exact absurd hvalue' (by simp)
    next hle =>
      refine ⟨⟨name, hname, ?_⟩, hnumber, value, hvalue, hle⟩
      by_contra hnone
      simp only [not_or] at hnone
      exact hknown hnone

theorem validNamedEffectTriggerFields {effect : Yaml} {path : String}
    (h : Returns (validateNamedEffectTriggerFields cpp effect path)) :
    ValidTriggers cpp effect := by
  unfold validateNamedEffectTriggerFields at h
  simp only [returns_seq, returns_validateOptionalField, returns_onlyIf] at h
  obtain ⟨hname, hvalue, htrigger⟩ := h
  exact ⟨hname, hvalue, fun hdefined => validSimpleTrigger (htrigger hdefined)⟩

end triggers

/-! ### Boards and Switches -/

structure ValidBoard (cpp : YamlCpp) (board : Yaml) : Prop where
  number : Has cpp.asUInt8 board "number"
  pollEvents : Has cpp.asBool board "pollEvents"

/-- What the entries of both switch sections have to look like. -/
structure ValidAnySwitch (cpp : YamlCpp) (item : Yaml) : Prop where
  description : Has cpp.asString item "description"
  board : Has cpp.asUInt8 item "board"
  port : Has cpp.asUInt32 item "port"
  number : Has cpp.asUInt32 item "number"
  button : MayHave cpp.asBool item "button"

structure ValidSwitchMatrix (cpp : YamlCpp) (switchMatrix : Yaml) : Prop where
  board : Has cpp.asUInt8 switchMatrix "board"
  activeLow : Has cpp.asBool switchMatrix "activeLow"
  rows : Has cpp.asUInt8 switchMatrix "rows"
  switches : ListOf (ValidAnySwitch cpp) switchMatrix "switches"

/-- An entry of `switches`. -/
structure ValidSwitch (cpp : YamlCpp) (item : Yaml) : Prop extends ValidAnySwitch cpp item where
  debounce : Has cpp.asUInt32 item "debounce"
  debounceMode : MayHave cpp.asString item "debounceMode"
  debounce_mode : MayHave cpp.asString item "debounce_mode"

section switches

variable {cpp : YamlCpp} {item : Yaml} {path : String}

theorem validBoard (h : Returns (validateBoard cpp item path)) : ValidBoard cpp item := by
  simp only [validateBoard, returns_seq, returns_validateRequiredField] at h
  exact ⟨h.1, h.2⟩

theorem validMatrixSwitch (h : Returns (validateMatrixSwitch cpp item path)) :
    ValidAnySwitch cpp item := by
  simp only [validateMatrixSwitch, returns_seq, returns_validateRequiredField,
    returns_validateOptionalField] at h
  obtain ⟨hdescription, hboard, hport, hnumber, hbutton⟩ := h
  exact ⟨hdescription, hboard, hport, hnumber, hbutton⟩

theorem validSwitchMatrix (h : Returns (validateSwitchMatrix cpp item)) :
    ValidSwitchMatrix cpp item := by
  simp only [validateSwitchMatrix, returns_seq, returns_validateRequiredField] at h
  obtain ⟨-, hboard, hactiveLow, hrows, hswitches⟩ := h
  exact ⟨hboard, hactiveLow, hrows, validOptionalItems (fun _ _ => validMatrixSwitch) hswitches⟩

theorem validSwitch (h : Returns (validateSwitch cpp item path)) : ValidSwitch cpp item := by
  simp only [validateSwitch, returns_seq, returns_validateRequiredField,
    returns_validateOptionalField] at h
  obtain ⟨hdescription, hboard, hport, hnumber, hdebounce, hmode, hmode', hbutton⟩ := h
  exact ⟨⟨hdescription, hboard, hport, hnumber, hbutton⟩, hdebounce, hmode, hmode'⟩

end switches

/-! ### PWM Outputs -/

structure ValidPwmEffect (cpp : YamlCpp) (item : Yaml) : Prop where
  duration : Has cpp.asUInt32 item "duration"
  effect : Has cpp.asString item "effect"
  frequency : Has cpp.asUInt32 item "frequency"
  maxIntensity : Has cpp.asUInt32 item "maxIntensity"
  minIntensity : Has cpp.asUInt32 item "minIntensity"
  mode : Has cpp.asUInt32 item "mode"
  priority : Has cpp.asUInt32 item "priority"
  «repeat» : Has cpp.asInt16 item "repeat"
  triggers : ValidTriggers cpp item

structure ValidPwmOutput (cpp : YamlCpp) (item : Yaml) : Prop where
  description : Has cpp.asString item "description"
  board : Has cpp.asUInt8 item "board"
  port : Has cpp.asUInt32 item "port"
  number : Has cpp.asUInt32 item "number"
  power : Has cpp.asUInt32 item "power"
  minPulseTime : Has cpp.asUInt32 item "minPulseTime"
  maxPulseTime : Has cpp.asUInt32 item "maxPulseTime"
  holdPower : Has cpp.asUInt32 item "holdPower"
  holdPowerActivationTime : Has cpp.asUInt32 item "holdPowerActivationTime"
  fastFlipSwitch : Has cpp.asUInt32 item "fastFlipSwitch"
  type : Has cpp.asString item "type"
  ballSearch : MayHave cpp.asBool item "ballSearch"
  effects : ListOf (ValidPwmEffect cpp) item "effects"

section pwm

variable {cpp : YamlCpp} {item : Yaml} {path : String}

theorem validPwmEffect (h : Returns (validatePwmEffect cpp item path)) :
    ValidPwmEffect cpp item := by
  simp only [validatePwmEffect, returns_seq, returns_validateRequiredField,
    returns_validateEffectModeField] at h
  obtain ⟨hduration, heffect, hfrequency, hmax, hmin, hmode, hpriority, hrepeat, htriggers⟩ := h
  exact ⟨hduration, heffect, hfrequency, hmax, hmin, hmode, hpriority, hrepeat,
    validNamedEffectTriggerFields htriggers⟩

theorem validPwmOutput (h : Returns (validatePwmOutput cpp item path)) :
    ValidPwmOutput cpp item := by
  simp only [validatePwmOutput, returns_seq, returns_validateRequiredField,
    returns_validateOptionalField] at h
  obtain ⟨hdescription, hboard, hport, hnumber, hpower, hmin, hmax, hhold, hactivation, hfast,
    htype, hballSearch, -, -, heffects⟩ := h
  exact ⟨hdescription, hboard, hport, hnumber, hpower, hmin, hmax, hhold, hactivation, hfast,
    htype, hballSearch, validOptionalItems (fun _ _ => validPwmEffect) heffects⟩

end pwm

/-! ### LED Stripes -/

structure ValidLedSegment (cpp : YamlCpp) (segment : Yaml) : Prop where
  number : Has cpp.asUInt32 segment "number"
  «from» : Has cpp.asUInt32 segment "from"
  «to» : Has cpp.asUInt32 segment "to"

structure ValidLedEffect (cpp : YamlCpp) (item : Yaml) : Prop where
  segment : Has cpp.asUInt32 item "segment"
  colors : ∀ color ∈ (item.get "colors").items, IsColor cpp color
  duration : Has cpp.asUInt32 item "duration"
  effect : Has cpp.asString item "effect"
  reverse : Has cpp.asUInt32 item "reverse"
  fadeRate : MayHave cpp.asUInt32 item "fadeRate"
  gamma : MayHave cpp.asBool item "gamma"
  size : MayHave cpp.asUInt32 item "size"
  options : MayHave cpp.asUInt32 item "options"
  speed : Has cpp.asUInt32 item "speed"
  mode : Has cpp.asUInt32 item "mode"
  priority : Has cpp.asUInt32 item "priority"
  «repeat» : Has cpp.asInt16 item "repeat"
  triggers : ValidTriggers cpp item

/-- An entry of `lamps`, `flashers` or `gi`. -/
structure ValidLedItem (cpp : YamlCpp) (item : Yaml) : Prop where
  description : Has cpp.asString item "description"
  number : Has cpp.asUInt32 item "number"
  ledNumber : Has cpp.asUInt32 item "ledNumber"
  color : IsColor cpp (item.get "color")

structure ValidLedStripe (cpp : YamlCpp) (item : Yaml) : Prop where
  board : Has cpp.asUInt8 item "board"
  port : Has cpp.asUInt32 item "port"
  ledType : Has cpp.asString item "ledType"
  brightness : Has cpp.asUInt32 item "brightness"
  amount : Has cpp.asUInt32 item "amount"
  afterGlow : Has cpp.asUInt32 item "afterGlow"
  lightUp : Has cpp.asUInt32 item "lightUp"
  segments : ListOf (ValidLedSegment cpp) item "segments"
  effects : ListOf (ValidLedEffect cpp) item "effects"
  lamps : ListOf (ValidLedItem cpp) item "lamps"
  flashers : ListOf (ValidLedItem cpp) item "flashers"
  gi : ListOf (ValidLedItem cpp) item "gi"

section led

variable {H : EventHeader} {cpp : YamlCpp} {item : Yaml} {path : String}

theorem validLedSegment (h : Returns (validateLedSegment cpp item path)) :
    ValidLedSegment cpp item := by
  simp only [validateLedSegment, returns_seq, returns_validateRequiredField] at h
  obtain ⟨hnumber, hfrom, hto⟩ := h
  exact ⟨hnumber, hfrom, hto⟩

theorem validLedEffect (h : Returns (validateLedEffect cpp item path)) :
    ValidLedEffect cpp item := by
  simp only [validateLedEffect, returns_seq, returns_validateRequiredField,
    returns_validateOptionalField, returns_validateEffectModeField] at h
  obtain ⟨hsegment, hcolors, hduration, heffect, hreverse, hfadeRate, hgamma, hsize, hoptions,
    hspeed, hmode, hpriority, hrepeat, htriggers⟩ := h
  exact ⟨hsegment, validLedEffectColorFields hcolors, hduration, heffect, hreverse, hfadeRate,
    hgamma, hsize, hoptions, hspeed, hmode, hpriority, hrepeat,
    validNamedEffectTriggerFields htriggers⟩

theorem validLedItem (h : Returns (validateLedItem cpp item path)) : ValidLedItem cpp item := by
  simp only [validateLedItem, returns_seq, returns_validateRequiredField, returns_map] at h
  obtain ⟨hdescription, hnumber, hledNumber, hcolor⟩ := h
  exact ⟨hdescription, hnumber, hledNumber, returns_parseRequiredHexColorField.mp hcolor⟩

theorem validLedStripe (h : Returns (validateLedStripe H cpp item path)) :
    ValidLedStripe cpp item := by
  unfold validateLedStripe at h
  simp only [returns_seq, returns_validateRequiredField] at h
  obtain ⟨hboard, hport, hledType, hrest⟩ := h
  obtain ⟨⟨name, hname⟩, hrest⟩ := returns_bind.mp hrest
  have hknown := hrest name hname
  split at hknown
  · exact absurd hknown (by simp)
  simp only [returns_seq, returns_validateRequiredField] at hknown
  obtain ⟨hbrightness, hamount, hafterGlow, hlightUp, hsegments, heffects, hlamps, hflashers,
    hgi⟩ := hknown
  exact ⟨hboard, hport, hledType, hbrightness, hamount, hafterGlow, hlightUp,
    validOptionalItems (fun _ _ => validLedSegment) hsegments,
    validOptionalItems (fun _ _ => validLedEffect) heffects,
    validOptionalItems (fun _ _ => validLedItem) hlamps,
    validOptionalItems (fun _ _ => validLedItem) hflashers,
    validOptionalItems (fun _ _ => validLedItem) hgi⟩

end led

/-! ### The Document -/

/-- What the startup pass reads of a document, as validation leaves it. -/
structure ValidConfiguration (cpp : YamlCpp) (config : Yaml) : Prop where
  coinDoorClosedSwitch : Has cpp.asUInt8 config "coinDoorClosedSwitch"
  gameOnSolenoid : Has cpp.asUInt8 config "gameOnSolenoid"
  boards : ListOf (ValidBoard cpp) config "boards"
  switchMatrix : (config.get "switchMatrix").isDefined = true →
    ValidSwitchMatrix cpp (config.get "switchMatrix")
  switches : ListOf (ValidSwitch cpp) config "switches"
  pwmOutput : ListOf (ValidPwmOutput cpp) config "pwmOutput"
  ledStripes : ListOf (ValidLedStripe cpp) config "ledStripes"

theorem validConfiguration {H : EventHeader} {cpp : YamlCpp} {config : Yaml}
    (h : Returns (validatePpucConfiguration H cpp config)) : ValidConfiguration cpp config := by
  simp only [validatePpucConfiguration, returns_seq, returns_validateRequiredField,
    returns_onlyIf] at h
  obtain ⟨-, -, -, -, -, hcoinDoor, hgameOn, -, hboards, hmatrix, hswitches, -, -, hpwm,
    hstripes⟩ := h
  exact ⟨hcoinDoor, hgameOn, validItems (fun _ _ => validBoard) hboards,
    fun hdefined => validSwitchMatrix (hmatrix hdefined),
    validOptionalItems (fun _ _ => validSwitch) hswitches,
    validOptionalItems (fun _ _ => validPwmOutput) hpwm,
    validOptionalItems (fun _ _ => validLedStripe) hstripes⟩

end LibPpuc
