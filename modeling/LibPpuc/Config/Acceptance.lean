import LibPpuc.Config.AllOrNothing
import LibPpuc.Startup.Soundness

/-! # Which Documents Load

  `LoadConfiguration` walks a document four times: validation, the warnings,
  the switch groups and the coil mappings, each with conversions of its own.
  Here is the one schema that the four walks enforce together, as shapes of
  nodes, and the proof that a document loads if and only if it has the shape
  `configuration`.

  The walks disagree in one way only: validation takes any 32-bit number for
  the coils and strings of a mapping and for the switch of a button, the
  later walks read eight or 16 bits of them.
-/

namespace LibPpuc

/-! ### Shapes of Nodes -/

/-- What a node has to be. -/
abbrev Shape := Yaml → Bool

/-- The text of a node that reads as one. -/
def Yaml.text? : Yaml → Option String
  | .null _ => some "null"
  | .scalar _ value => some value
  | _ => none

namespace Shape

section scalars

variable (cpp : YamlCpp)

def string : Shape := fun node => node.text?.isSome

def oneOf (names : List String) : Shape := fun node => node.text?.any (· ∈ names)

def integer (low high : Int) : Shape := fun node =>
  (cpp.intOf node).any fun n => decide (low ≤ n ∧ n ≤ high)

def uint8 : Shape := integer cpp 0 255

def uint16 : Shape := integer cpp 0 65535

def uint32 : Shape := integer cpp 0 4294967295

def int16 : Shape := integer cpp (-32768) 32767

/-- The node reads as the boolean. -/
def reads (b : Bool) : Shape
  | .scalar _ value => cpp.decodeBool value == some b
  | _ => false

def boolean : Shape := fun node => reads cpp true node || reads cpp false node

/-- Hexadecimal digits, with or without a `#`. -/
def color : Shape := fun node =>
  node.text?.any fun text => (parseHex (colorDigits text)).isSome

/-- The color orders with a NeoPixel constant. -/
def ledType (H : EventHeader) : Shape := fun node =>
  node.text?.any fun name => resolveLedTypeValue H name ≠ 0

end scalars

/-- A map that obeys all rules. -/
def record (rules : List Shape) : Shape := fun node => node.isMap && rules.all (· node)

def required (field : String) (shape : Shape) : Shape := fun node =>
  (node.get field).isDefined && shape (node.get field)

def ifGiven (field : String) (shape : Shape) : Shape := fun node =>
  !(node.get field).isDefined || shape (node.get field)

def listOf (item : Shape) : Shape := fun node => node.isSequence && node.items.all item

/-- An empty map passes for an empty list. -/
def listOrEmpty (item : Shape) : Shape := fun node =>
  (node.isMap && node.size == 0) || listOf item node

/-- A map from names to values. -/
def mapOf (name value : Shape) : Shape := fun node =>
  node.isMap && node.entries.all fun entry => name entry.1 && value entry.2

/-! ### The Schema -/

section schema

variable (H : EventHeader) (cpp : YamlCpp)

def board : Shape :=
  record [required "number" (uint8 cpp), required "pollEvents" (boolean cpp)]

/-- The number of a button is read with 16 bits. -/
def buttonNumber : Shape := fun node =>
  !reads cpp true (node.get "button") || uint16 cpp (node.get "number")

/-- The rules that the switches of both sections start with. -/
def switchRules : List Shape :=
  [required "description" string, required "board" (uint8 cpp), required "port" (uint32 cpp),
    required "number" (uint32 cpp)]

def buttonRules : List Shape := [ifGiven "button" (boolean cpp), buttonNumber cpp]

def matrixSwitch : Shape := record (switchRules cpp ++ buttonRules cpp)

def switchMatrix : Shape :=
  record [required "board" (uint8 cpp), required "activeLow" (boolean cpp),
    required "rows" (uint8 cpp), ifGiven "switches" (listOrEmpty (matrixSwitch cpp))]

def switch : Shape :=
  record (switchRules cpp ++ [required "debounce" (uint32 cpp), ifGiven "debounceMode" string,
    ifGiven "debounce_mode" string] ++ buttonRules cpp)

/-- `buttons` is the group of the switches with `button: true`. -/
def groupName : Shape := fun node => node.text?.any fun name => name ≠ "" && name ≠ "buttons"

def switchGroups : Shape :=
  mapOf groupName (record [required "switches" (listOf (uint16 cpp))])

def coilGiMapping : Shape :=
  record [required "coil" (uint16 cpp), required "gi" (uint8 cpp),
    ifGiven "onBrightness" (uint8 cpp), ifGiven "offBrightness" (uint8 cpp)]

def simpleTrigger : Shape :=
  record [required "source" (oneOf ["switch", "lamp", "light"]), required "number" (uint32 cpp),
    required "value" (integer cpp 0 1)]

/-- The rules that the effects of both kinds end with. -/
def effectRules : List Shape :=
  [required "mode" (uint32 cpp), required "priority" (uint32 cpp), required "repeat" (int16 cpp),
    ifGiven "name" string, ifGiven "value" (uint32 cpp),
    ifGiven "simpleTrigger" (simpleTrigger cpp)]

def pwmEffect : Shape :=
  record ([required "duration" (uint32 cpp), required "effect" string,
    required "frequency" (uint32 cpp), required "maxIntensity" (uint32 cpp),
    required "minIntensity" (uint32 cpp)] ++ effectRules cpp)

def pwmOutput : Shape :=
  record [required "description" string, required "board" (uint8 cpp),
    required "port" (uint32 cpp), required "number" (uint32 cpp), required "power" (uint32 cpp),
    required "minPulseTime" (uint32 cpp), required "maxPulseTime" (uint32 cpp),
    required "holdPower" (uint32 cpp), required "holdPowerActivationTime" (uint32 cpp),
    required "fastFlipSwitch" (uint32 cpp), required "type" string,
    ifGiven "ballSearch" (boolean cpp), ifGiven "dualWinding" (boolean cpp),
    ifGiven "eosSwitch" (uint32 cpp), ifGiven "effects" (listOrEmpty (pwmEffect cpp))]

def ledSegment : Shape :=
  record [required "number" (uint32 cpp), required "from" (uint32 cpp),
    required "to" (uint32 cpp)]

/-- One to three colors. -/
def colors : Shape := fun node =>
  listOf color node && decide (1 ≤ node.size ∧ node.size ≤ 3)

def ledEffect : Shape :=
  record ([required "segment" (uint32 cpp), required "colors" colors,
    required "duration" (uint32 cpp), required "effect" string, required "reverse" (uint32 cpp),
    ifGiven "fadeRate" (uint32 cpp), ifGiven "gamma" (boolean cpp), ifGiven "size" (uint32 cpp),
    ifGiven "options" (uint32 cpp), required "speed" (uint32 cpp)] ++ effectRules cpp)

def ledItem : Shape :=
  record [required "description" string, required "number" (uint32 cpp),
    required "ledNumber" (uint32 cpp), required "color" color]

def ledStripe : Shape :=
  record [required "board" (uint8 cpp), required "port" (uint32 cpp),
    required "ledType" (ledType H), required "brightness" (uint32 cpp),
    required "amount" (uint32 cpp), required "afterGlow" (uint32 cpp),
    required "lightUp" (uint32 cpp), ifGiven "segments" (listOrEmpty (ledSegment cpp)),
    ifGiven "effects" (listOrEmpty (ledEffect cpp)), ifGiven "lamps" (listOrEmpty (ledItem cpp)),
    ifGiven "flashers" (listOrEmpty (ledItem cpp)), ifGiven "gi" (listOrEmpty (ledItem cpp))]

/-- A whole document. -/
def configuration : Shape :=
  record [required "debug" (boolean cpp), required "rom" string, required "serialPort" string,
    required "platform" string, required "coinDoorClosedSwitch" (uint8 cpp),
    required "gameOnSolenoid" (uint8 cpp), required "boards" (listOf (board cpp)),
    ifGiven "switchMatrix" (switchMatrix cpp), ifGiven "switches" (listOrEmpty (switch cpp)),
    ifGiven "switchGroups" (switchGroups cpp),
    ifGiven "coilGiMappings" (listOrEmpty (coilGiMapping cpp)),
    ifGiven "pwmOutput" (listOrEmpty (pwmOutput cpp)),
    ifGiven "ledStripes" (listOrEmpty (ledStripe H cpp))]

end schema

end Shape

/-! ### Conversions and Shapes -/

open Shape

section conversions

variable {cpp : YamlCpp} {node : Yaml}

theorem asString_eq_ok {text : String} :
    cpp.asString node = .ok text ↔ node.text? = some text := by
  cases node <;> simp [YamlCpp.asString, Yaml.text?]

@[simp] theorem returns_asString : Returns (cpp.asString node) ↔ string node = true := by
  cases node <;> simp [YamlCpp.asString, string, Yaml.text?]

theorem asBool_eq_ok {b : Bool} : cpp.asBool node = .ok b ↔ reads cpp b node = true := by
  cases node with
  | scalar mark value =>
    simp only [YamlCpp.asBool, reads]
    cases cpp.decodeBool value <;> simp
  | _ => simp [YamlCpp.asBool, reads]

@[simp] theorem returns_asBool : Returns (cpp.asBool node) ↔ boolean cpp node = true := by
  unfold Returns boolean
  simp [asBool_eq_ok, or_comm]

theorem any_intOf {low high : Int} :
    (∃ n, cpp.intOf node = some n ∧ low ≤ n ∧ n ≤ high) ↔ integer cpp low high node = true := by
  simp [integer, Option.any_eq_true]

@[simp] theorem returns_asUInt8_shape : Returns (cpp.asUInt8 node) ↔ uint8 cpp node = true :=
  YamlCpp.returns_asUInt8.trans any_intOf

@[simp] theorem returns_asUInt16_shape : Returns (cpp.asUInt16 node) ↔ uint16 cpp node = true :=
  YamlCpp.returns_asUInt16.trans any_intOf

@[simp] theorem returns_asUInt32_shape : Returns (cpp.asUInt32 node) ↔ uint32 cpp node = true :=
  YamlCpp.returns_asUInt32.trans any_intOf

@[simp] theorem returns_asInt16_shape : Returns (cpp.asInt16 node) ↔ int16 cpp node = true :=
  YamlCpp.returns_asInteger.trans any_intOf

/-- A narrower range. -/
theorem integer_mono {low high low' high' : Int} (hlow : low' ≤ low) (hhigh : high ≤ high')
    (h : integer cpp low high node = true) : integer cpp low' high' node = true := by
  rw [← any_intOf] at h ⊢
  rcases h with ⟨n, hn, hn_low, hn_high⟩
  exact ⟨n, hn, by omega, by omega⟩

@[simp] theorem isColor_iff : IsColor cpp node ↔ color node = true := by
  simp [IsColor, asString_eq_ok, color, Option.any_eq_true]

end conversions

/-! ### Rules, Lists and Maps -/

section rules

variable {cpp : YamlCpp} {α : Type} {convert : Yaml → Except Failure α} {item parent : Yaml}
  {path field parentPath : String} {shape : Shape} {rules : List Shape}

theorem required_iff : required field shape item = true ↔
    (item.get field).isDefined = true ∧ shape (item.get field) = true := by
  simp [required]

theorem ifGiven_iff : ifGiven field shape item = true ↔
    ((item.get field).isDefined = true → shape (item.get field) = true) := by
  cases h : (item.get field).isDefined <;> simp [ifGiven, h]

theorem record_iff : record rules item = true ↔
    item.isMap = true ∧ ∀ rule ∈ rules, rule item = true := by
  simp [record]

theorem isDefined_of_isMap (h : item.isMap = true) : item.isDefined = true := by
  cases item <;> simp_all [Yaml.isMap, Yaml.isDefined]

theorem isDefined_of_isSequence (h : item.isSequence = true) : item.isDefined = true := by
  cases item <;> simp_all [Yaml.isSequence, Yaml.isDefined]

theorem returns_requireYamlNode :
    Returns (requireYamlNode item path) ↔ item.isDefined = true := by
  unfold requireYamlNode
  split
  · next hdefined => simp [hdefined]
  · next hdefined => simp [hdefined]

theorem returns_validateRequiredMap :
    Returns (validateRequiredMap item path) ↔ item.isMap = true := by
  unfold validateRequiredMap
  rw [returns_seq, returns_requireYamlNode]
  constructor
  · rintro ⟨-, hmap⟩
    by_contra hnot
    simp [hnot] at hmap
  · intro hmap
    exact ⟨isDefined_of_isMap hmap, by simp [hmap]⟩

theorem returns_validateRequiredSequence :
    Returns (validateRequiredSequence item path) ↔ item.isSequence = true := by
  unfold validateRequiredSequence
  rw [returns_seq, returns_requireYamlNode]
  constructor
  · rintro ⟨-, hsequence⟩
    by_contra hnot
    simp [hnot] at hsequence
  · intro hsequence
    exact ⟨isDefined_of_isSequence hsequence, by simp [hsequence]⟩

theorem returns_validateOptionalSequence : Returns (validateOptionalSequence item path) ↔
    (item.isDefined = true → (item.isMap && item.size == 0) = true ∨ item.isSequence = true) := by
  unfold validateOptionalSequence
  cases hdefined : item.isDefined <;> cases hsequence : item.isSequence <;>
    cases hempty : (item.isMap && item.size == 0) <;> simp

/-- A loop over a list whose rounds know the positions for their errors only. -/
theorem returns_forM_zipIdx (shape : Shape) {items : List Yaml}
    {check : Yaml × Nat → Except Failure Unit}
    (hcheck : ∀ entry, Returns (check entry) ↔ shape entry.1 = true) :
    Returns (items.zipIdx.forM check) ↔ items.all shape = true := by
  rw [returns_forM, List.all_eq_true]
  constructor
  · intro hall item hmem
    obtain ⟨i, hi⟩ := List.getElem?_of_mem hmem
    exact (hcheck (item, i)).mp (hall (item, i) (by rwa [List.mem_zipIdx_iff_getElem?]))
  · rintro hall ⟨item, i⟩ hentry
    exact (hcheck (item, i)).mpr (hall item (List.fst_mem_of_mem_zipIdx hentry))

/-- The items of a list that a walk checks, and a later walk reads. -/
theorem returns_validateItems {items : List Yaml}
    {callback : Yaml → String → Except Failure Unit} (later : Yaml → Prop)
    (hcallback : ∀ item path, item.isMap = true →
      (Returns (callback item path) ∧ later item ↔ record rules item = true)) :
    (Returns (validateItems items path callback) ∧ ∀ item ∈ items, later item) ↔
      items.all (record rules) = true := by
  have hitem : ∀ item path, (item.isMap = true ∧ Returns (callback item path)) ∧ later item ↔
      record rules item = true := by
    intro item path
    rw [and_assoc]
    constructor
    · rintro ⟨hmap, hboth⟩
      exact (hcallback item path hmap).mp hboth
    · intro hrecord
      have hmap := (record_iff.mp hrecord).1
      exact ⟨hmap, (hcallback item path hmap).mpr hrecord⟩
  unfold validateItems
  rw [returns_forM, List.all_eq_true]
  simp only [returns_seq, returns_validateRequiredMap]
  constructor
  · rintro ⟨hchecked, hlater⟩ item hmem
    obtain ⟨i, hi⟩ := List.getElem?_of_mem hmem
    have hentry := hchecked (item, i) (by rwa [List.mem_zipIdx_iff_getElem?])
    exact (hitem item _).mp ⟨hentry, hlater item hmem⟩
  · intro hall
    constructor
    · rintro ⟨item, i⟩ hentry
      have hmem : item ∈ items := List.fst_mem_of_mem_zipIdx hentry
      exact ((hitem item _).mpr (hall item hmem)).1
    · intro item hmem
      exact ((hitem item path).mpr (hall item hmem)).2

/-- An optional list that a walk checks, and whose items a later walk reads. -/
theorem returns_validateOptionalItems {callback : Yaml → String → Except Failure Unit}
    (later : Yaml → Prop)
    (hcallback : ∀ item path, item.isMap = true →
      (Returns (callback item path) ∧ later item ↔ record rules item = true)) :
    (Returns (validateOptionalItems parent field parentPath callback) ∧
        ∀ item ∈ (parent.get field).items, later item) ↔
      ifGiven field (listOrEmpty (record rules)) parent = true := by
  unfold validateOptionalItems
  rw [returns_seq, returns_validateOptionalSequence, and_assoc,
    returns_validateItems later hcallback,
    ifGiven_iff]
  cases parent.get field <;> simp [Yaml.isDefined, Yaml.isMap, Yaml.isSequence, Yaml.size,
    Yaml.items, listOrEmpty, listOf]

/-- The same for a list that no later walk reads. -/
theorem returns_validateOptionalItems_only {callback : Yaml → String → Except Failure Unit}
    (hcallback : ∀ item path, item.isMap = true →
      (Returns (callback item path) ↔ record rules item = true)) :
    Returns (validateOptionalItems parent field parentPath callback) ↔
      ifGiven field (listOrEmpty (record rules)) parent = true := by
  have h : (Returns (validateOptionalItems parent field parentPath callback) ∧
      ∀ item ∈ (parent.get field).items, True) ↔ _ :=
    returns_validateOptionalItems (fun _ => True) (by simpa using hcallback)
  simpa using h

end rules

/-! ### The Sections -/

section sections

variable {H : EventHeader} {cpp : YamlCpp} {item : Yaml} {path : String}

theorem returns_validateBoard (hmap : item.isMap = true) :
    Returns (validateBoard cpp item path) ↔ board cpp item = true := by
  simp [validateBoard, board, returns_seq, returns_validateRequiredField, Has, required_iff,
    record_iff, hmap]

theorem returns_validateLedSegment (hmap : item.isMap = true) :
    Returns (validateLedSegment cpp item path) ↔ ledSegment cpp item = true := by
  simp [validateLedSegment, ledSegment, returns_seq, returns_validateRequiredField, Has,
    required_iff, record_iff, hmap]

theorem returns_validateLedItem (hmap : item.isMap = true) :
    Returns (validateLedItem cpp item path) ↔ ledItem cpp item = true := by
  have hcolor : color (item.get "color") = true → (item.get "color").isDefined = true := by
    cases item.get "color" <;> simp [color, Yaml.text?, Yaml.isDefined]
  simp only [validateLedItem, ledItem, returns_seq, returns_validateRequiredField, Has, returns_map,
    returns_parseRequiredHexColorField, isColor_iff, returns_asString, returns_asUInt32_shape,
    record_iff, List.forall_mem_cons, List.not_mem_nil, false_imp_iff, forall_const, and_true,
    required_iff, hmap, true_and]
  tauto

/-- A value of a trigger is 0 or 1. -/
theorem integer_zero_one : integer cpp 0 1 item = true ↔
    ∃ value, cpp.asUInt32 item = .ok value ∧ ¬ 1 < value := by
  rw [← any_intOf]
  constructor
  · rintro ⟨n, hn, hlow, hhigh⟩
    obtain ⟨value, hvalue⟩ := YamlCpp.returns_asUInt32.mpr ⟨n, hn, hlow, by omega⟩
    have hnat := (YamlCpp.toNat_of_asUInt32 hvalue).symm.trans hn
    refine ⟨value, hvalue, ?_⟩
    rw [UInt32.lt_iff_toNat_lt]
    simp only [Option.some.injEq] at hnat
    show ¬ 1 < value.toNat
    omega
  · rintro ⟨value, hvalue, hle⟩
    rw [UInt32.lt_iff_toNat_lt] at hle
    replace hle : ¬ 1 < value.toNat := hle
    exact ⟨value.toNat, YamlCpp.toNat_of_asUInt32 hvalue, by omega, by omega⟩

theorem oneOf_sources : oneOf ["switch", "lamp", "light"] item = true ↔
    ∃ name, cpp.asString item = .ok name ∧
      ¬ (name ≠ "switch" ∧ name ≠ "lamp" ∧ name ≠ "light") := by
  simp [asString_eq_ok, oneOf, Option.any_eq_true, Classical.or_iff_not_imp_left]

theorem returns_guard {c : Prop} {_ : Decidable c} {e : Failure} {body : Except Failure Unit} :
    Returns (if c then .error e else body) ↔ ¬ c ∧ Returns body := by
  split
  · next hc => simp [hc]
  · next hc => simp [hc]

/-- A value that is read, rejected or not, and followed by other checks. -/
theorem returns_bind_guard {α : Type} {r : Except Failure α} {bad : α → Prop}
    {_ : DecidablePred bad} {e : α → Failure} {body : Except Failure Unit} :
    Returns (r >>= fun a => if bad a then .error (e a) else body) ↔
      (∃ a, r = .ok a ∧ ¬ bad a) ∧ Returns body := by
  rw [returns_bind_iff_exists]
  constructor
  · rintro ⟨a, ha, hguard⟩
    split at hguard
    · simp at hguard
    · next hbad => exact ⟨⟨a, ha, hbad⟩, hguard⟩
  · rintro ⟨⟨a, ha, hbad⟩, hbody⟩
    exact ⟨a, ha, by rwa [if_neg hbad]⟩

theorem returns_validateSimpleTrigger :
    Returns (validateSimpleTrigger cpp item path) ↔ simpleTrigger cpp item = true := by
  have hsource : oneOf ["switch", "lamp", "light"] (item.get "source") = true →
      string (item.get "source") = true := by
    simp only [oneOf, string, Option.any_eq_true, Option.isSome_iff_exists]
    rintro ⟨name, hname, -⟩
    exact ⟨name, hname⟩
  have hvalue : integer cpp 0 1 (item.get "value") = true → uint32 cpp (item.get "value") = true :=
    integer_mono (Int.le_refl 0) (by omega)
  simp only [validateSimpleTrigger, returns_seq, returns_bind_guard, returns_validateRequiredMap,
    returns_validateRequiredField, Has, returns_asString, returns_asUInt32_shape, returns_ok,
    and_true, ← oneOf_sources, ← integer_zero_one, simpleTrigger, record_iff, List.forall_mem_cons,
    List.not_mem_nil, false_imp_iff, forall_const, required_iff]
  constructor
  · rintro ⟨hmap, ⟨hsource, -⟩, hnumber, ⟨hvalue, -⟩, hknown, hrange⟩
    exact ⟨hmap, ⟨hsource, hknown⟩, hnumber, hvalue, hrange⟩
  · rintro ⟨hmap, ⟨hdefined, hknown⟩, hnumber, hgiven, hrange⟩
    exact ⟨hmap, ⟨hdefined, hsource hknown⟩, hnumber, ⟨hgiven, hvalue hrange⟩, hknown, hrange⟩

theorem returns_validateNamedEffectTriggerFields :
    Returns (validateNamedEffectTriggerFields cpp item path) ↔
      ifGiven "name" string item = true ∧ ifGiven "value" (uint32 cpp) item = true ∧
        ifGiven "simpleTrigger" (simpleTrigger cpp) item = true := by
  simp [validateNamedEffectTriggerFields, returns_seq, returns_validateOptionalField, MayHave,
    returns_onlyIf, returns_validateSimpleTrigger, ifGiven_iff]

theorem returns_validatePwmEffect (hmap : item.isMap = true) :
    Returns (validatePwmEffect cpp item path) ↔ pwmEffect cpp item = true := by
  simp only [validatePwmEffect, pwmEffect, effectRules, returns_seq, returns_validateRequiredField,
    returns_validateEffectModeField, returns_validateNamedEffectTriggerFields, Has,
    returns_asString, returns_asUInt32_shape, returns_asInt16_shape, record_iff, List.cons_append,
    List.nil_append, List.forall_mem_cons, List.not_mem_nil, false_imp_iff, forall_const, and_true,
    required_iff, hmap, true_and]

theorem returns_validatePwmOutput (hmap : item.isMap = true) :
    Returns (validatePwmOutput cpp item path) ↔ pwmOutput cpp item = true := by
  have heffects : Returns (validateOptionalItems item "effects" path (validatePwmEffect cpp)) ↔
      ifGiven "effects" (listOrEmpty (pwmEffect cpp)) item = true :=
    returns_validateOptionalItems_only fun _ _ => returns_validatePwmEffect
  simp only [validatePwmOutput, returns_seq, returns_validateRequiredField,
    returns_validateOptionalField, Has, MayHave, returns_asString, returns_asUInt8_shape,
    returns_asUInt32_shape, returns_asBool, heffects, pwmOutput, record_iff, List.forall_mem_cons,
    List.not_mem_nil, false_imp_iff, forall_const, and_true, required_iff, ifGiven_iff, hmap,
    true_and, and_assoc]

theorem returns_validateLedEffectColorFields :
    Returns (validateLedEffectColorFields cpp item path) ↔
      required "colors" colors item = true := by
  unfold validateLedEffectColorFields
  dsimp only
  rw [required_iff]
  generalize item.get "colors" = node
  cases hsequence : node.isSequence with
  | false => simp [colors, listOf, hsequence]
  | true =>
    have hdefined := isDefined_of_isSequence hsequence
    have hparsed : Returns (node.items.zipIdx.forM fun entry =>
        (parseHexColorValue cpp entry.1
          s!"{configItemContext cpp item path} field 'colors[{entry.2}]'").map fun _ => ⟨⟩) ↔
        node.items.all color = true := by
      apply returns_forM_zipIdx color
      intro entry
      rw [returns_map, returns_parseHexColorValue, isColor_iff]
    simp only [colors, listOf, hsequence, hdefined, Bool.true_and, true_and, Bool.and_eq_true,
      decide_eq_true_eq, bne_iff_ne]
    split
    · next hsize =>
      have hone : 1 ≤ node.size ∧ node.size ≤ 3 := by omega
      rw [hparsed]
      simp only [hone, and_self, and_true]
    · next hsize =>
      have hnone : ¬ (1 ≤ node.size ∧ node.size ≤ 3) := by omega
      simp [hnone]

theorem returns_validateLedEffect (hmap : item.isMap = true) :
    Returns (validateLedEffect cpp item path) ↔ ledEffect cpp item = true := by
  simp only [validateLedEffect, returns_seq, returns_validateRequiredField,
    returns_validateOptionalField, returns_validateEffectModeField,
    returns_validateLedEffectColorFields, returns_validateNamedEffectTriggerFields, Has, MayHave,
    returns_asString, returns_asUInt32_shape, returns_asInt16_shape, returns_asBool, ledEffect,
    effectRules, List.cons_append, List.nil_append, record_iff, List.forall_mem_cons,
    List.not_mem_nil, false_imp_iff, forall_const, and_true, required_iff, ifGiven_iff, hmap,
    true_and]

theorem returns_validateLedConfigBlock {field : String} :
    Returns (validateLedConfigBlock cpp item field path) ↔
      ifGiven field (listOrEmpty (ledItem cpp)) item = true :=
  returns_validateOptionalItems_only fun _ _ => returns_validateLedItem

theorem returns_validateLedStripe (hmap : item.isMap = true) :
    Returns (validateLedStripe H cpp item path) ↔ ledStripe H cpp item = true := by
  have hsegments : Returns (validateOptionalItems item "segments" path (validateLedSegment cpp)) ↔
      ifGiven "segments" (listOrEmpty (ledSegment cpp)) item = true :=
    returns_validateOptionalItems_only fun _ _ => returns_validateLedSegment
  have heffects : Returns (validateOptionalItems item "effects" path (validateLedEffect cpp)) ↔
      ifGiven "effects" (listOrEmpty (ledEffect cpp)) item = true :=
    returns_validateOptionalItems_only fun _ _ => returns_validateLedEffect
  have htype : ledType H (item.get "ledType") = true ↔
      ∃ name, cpp.asString (item.get "ledType") = .ok name ∧ ¬ resolveLedTypeValue H name = 0 := by
    simp [ledType, asString_eq_ok, Option.any_eq_true]
  have hstring : ledType H (item.get "ledType") = true → string (item.get "ledType") = true := by
    rw [htype]
    rintro ⟨name, hname, -⟩
    exact returns_asString.mp ⟨name, hname⟩
  simp only [validateLedStripe, returns_seq, returns_bind_guard, returns_validateRequiredField, Has,
    returns_asString, returns_asUInt8_shape, returns_asUInt32_shape, ← htype, hsegments, heffects,
    returns_validateLedConfigBlock, ledStripe, record_iff, List.forall_mem_cons, List.not_mem_nil,
    false_imp_iff, forall_const, and_true, required_iff, hmap, true_and]
  constructor
  · rintro ⟨hboard, hport, ⟨hdefined, -⟩, hknown, hrest⟩
    exact ⟨hboard, hport, ⟨hdefined, hknown⟩, hrest⟩
  · rintro ⟨hboard, hport, ⟨hdefined, hknown⟩, hrest⟩
    exact ⟨hboard, hport, ⟨hdefined, hstring hknown⟩, hknown, hrest⟩

/-- Whether a switch is a button, as the walk over the groups reads it. -/
def ButtonReads (cpp : YamlCpp) (item : Yaml) : Prop :=
  MayHave cpp.asBool item "button" ∧
    (cpp.asBool (item.get "button") = .ok true → Returns (cpp.asUInt16 (item.get "number")))

theorem buttonReads_iff : MayHave cpp.asBool item "button" ∧ ButtonReads cpp item ↔
    ifGiven "button" (boolean cpp) item = true ∧ buttonNumber cpp item = true := by
  have hgiven : MayHave cpp.asBool item "button" ↔ ifGiven "button" (boolean cpp) item = true := by
    simp [MayHave, ifGiven_iff]
  rw [hgiven]
  refine and_congr_right fun hbutton => ?_
  unfold ButtonReads buttonNumber
  rw [hgiven, asBool_eq_ok, returns_asUInt16_shape]
  cases reads cpp true (item.get "button") <;> simp [hbutton]

theorem returns_validateMatrixSwitch (hmap : item.isMap = true) :
    Returns (validateMatrixSwitch cpp item path) ∧ ButtonReads cpp item ↔
      matrixSwitch cpp item = true := by
  simp only [validateMatrixSwitch, returns_seq, returns_validateRequiredField,
    returns_validateOptionalField, and_assoc, buttonReads_iff, Has, returns_asString,
    returns_asUInt8_shape, returns_asUInt32_shape, matrixSwitch, switchRules, buttonRules,
    List.cons_append, List.nil_append, record_iff, List.forall_mem_cons, List.not_mem_nil,
    false_imp_iff, forall_const, and_true, required_iff, hmap, true_and]

theorem returns_validateSwitchMatrix :
    (Returns (validateSwitchMatrix cpp item) ∧
        ∀ n_switch ∈ (item.get "switches").items, ButtonReads cpp n_switch) ↔
      switchMatrix cpp item = true := by
  have hswitches : (Returns (validateOptionalItems item "switches" "switchMatrix"
      (validateMatrixSwitch cpp)) ∧
        ∀ n_switch ∈ (item.get "switches").items, ButtonReads cpp n_switch) ↔
      ifGiven "switches" (listOrEmpty (matrixSwitch cpp)) item = true :=
    returns_validateOptionalItems (ButtonReads cpp) fun _ _ => returns_validateMatrixSwitch
  simp only [validateSwitchMatrix, returns_seq, returns_validateRequiredMap,
    returns_validateRequiredField, Has, returns_asUInt8_shape, returns_asBool, and_assoc,
    hswitches, switchMatrix, record_iff, List.forall_mem_cons, List.not_mem_nil, false_imp_iff,
    forall_const, and_true, required_iff]

theorem returns_validateSwitch (hmap : item.isMap = true) :
    Returns (validateSwitch cpp item path) ∧ ButtonReads cpp item ↔ switch cpp item = true := by
  simp only [validateSwitch, returns_seq, returns_validateRequiredField,
    returns_validateOptionalField, and_assoc, buttonReads_iff, Has, returns_asString,
    returns_asUInt8_shape, returns_asUInt32_shape, switch, switchRules, buttonRules,
    List.cons_append, List.nil_append, record_iff, List.forall_mem_cons, List.not_mem_nil,
    false_imp_iff, forall_const, and_true, required_iff, hmap, true_and]
  simp only [MayHave, returns_asString, ifGiven_iff]

theorem returns_validateSwitchGroup {key group : Yaml} :
    Returns (validateSwitchGroup cpp key group) ↔
      groupName key = true ∧ record [required "switches" (listOf (uint16 cpp))] group = true := by
  unfold validateSwitchGroup groupName
  rw [returns_bind_iff_exists]
  simp only [asString_eq_ok]
  cases key.text? with
  | none => simp
  | some name =>
    simp only [Option.some.injEq, exists_eq_left', Option.any_some, returns_guard]
    simp only [returns_seq, returns_validateRequiredMap, returns_validateRequiredSequence,
      record_iff, List.forall_mem_cons, List.not_mem_nil, false_imp_iff, forall_const, and_true,
      required_iff, listOf, Bool.and_eq_true, decide_eq_true_eq, and_assoc]
    refine and_congr_right fun _ => and_congr_right fun _ => and_congr_right fun _ => ?_
    rw [returns_forM_zipIdx (uint16 cpp)]
    · constructor
      · rintro ⟨hsequence, hnumbers⟩
        exact ⟨isDefined_of_isSequence hsequence, hsequence, hnumbers⟩
      · rintro ⟨-, hlist⟩
        exact hlist
    · intro entry
      rw [← returns_asUInt16_shape]
      cases cpp.asUInt16 entry.1 <;> simp

theorem returns_validateSwitchGroups :
    Returns (validateSwitchGroups cpp item) ↔ switchGroups cpp item = true := by
  unfold validateSwitchGroups switchGroups mapOf
  cases hmap : item.isMap with
  | false => simp
  | true =>
    rw [if_pos rfl, returns_forM]
    simp [returns_validateSwitchGroup]

/-- Of a mapping, validation reads wider numbers than the later walk. -/
theorem returns_coilGiMapping (hmap : item.isMap = true) :
    Returns (validateCoilGiMapping cpp item path) ∧ Returns (parseCoilGiMapping cpp item) ↔
      coilGiMapping cpp item = true := by
  have hparse : Returns (parseCoilGiMapping cpp item) ↔
      uint16 cpp (item.get "coil") = true ∧ uint8 cpp (item.get "gi") = true ∧
        ifGiven "onBrightness" (uint8 cpp) item = true ∧
        ifGiven "offBrightness" (uint8 cpp) item = true := by
    have hgiven : ∀ field default, Returns (readOptional cpp.asUInt8 (item.get field) default) ↔
        ifGiven field (uint8 cpp) item = true := by
      intro field default
      rw [returns_readOptional, ifGiven_iff]
      simp only [MayHave, returns_asUInt8_shape]
    have hfold : ∀ {α : Type} (r : Except Failure α), (∃ a, r = .ok a) ↔ Returns r :=
      fun _ => Iff.rfl
    simp only [parseCoilGiMapping, returns_bind_iff_exists, returns_pure, and_true,
      exists_and_right, hfold, returns_asUInt16_shape, returns_asUInt8_shape, hgiven]
  simp only [validateCoilGiMapping, returns_seq, returns_validateRequiredField,
    returns_validateOptionalField, Has, MayHave, returns_asUInt32_shape, hparse, coilGiMapping,
    record_iff, List.forall_mem_cons, List.not_mem_nil, false_imp_iff, forall_const, and_true,
    required_iff, ifGiven_iff, hmap, true_and]
  have hwide : ∀ node, uint8 cpp node = true → uint32 cpp node = true :=
    fun _ => integer_mono (Int.le_refl 0) (by omega)
  have hcoil : uint16 cpp (item.get "coil") = true → uint32 cpp (item.get "coil") = true :=
    integer_mono (Int.le_refl 0) (by omega)
  constructor
  · rintro ⟨⟨⟨hcoil, -⟩, ⟨hgi, -⟩, -⟩, hcoil16, hgi8, hon, hoff⟩
    exact ⟨⟨hcoil, hcoil16⟩, ⟨hgi, hgi8⟩, hon, hoff⟩
  · rintro ⟨⟨hdefined, hcoil16⟩, ⟨hgi, hgi8⟩, hon, hoff⟩
    exact ⟨⟨⟨hdefined, hcoil hcoil16⟩, ⟨hgi, hwide _ hgi8⟩, fun h => hwide _ (hon h),
      fun h => hwide _ (hoff h)⟩, hcoil16, hgi8, hon, hoff⟩

end sections

/-! ### The Document -/

section document

variable {H : EventHeader} {cpp : YamlCpp} {config : Yaml}

/-- The warnings read nothing that validation has not read. -/
theorem returns_warnAboutOutput {item : Yaml} (h : pwmOutput cpp item = true) :
    Returns (warnAboutOutput H cpp item) := by
  have hreads : ∀ {field : String}, required field (uint32 cpp) item = true →
      Returns (cpp.asUInt32 (item.get field)) :=
    fun hfield => returns_asUInt32_shape.mpr (required_iff.mp hfield).2
  simp only [pwmOutput, record_iff, List.forall_mem_cons, List.not_mem_nil, false_imp_iff,
    forall_const, and_true] at h
  obtain ⟨-, hdescription, -, -, hnumber, -, -, hmaxPulseTime, hholdPower, hactivation, -, htype,
    -, hdualWinding, -⟩ := h
  rw [required_iff] at hdescription htype
  rw [ifGiven_iff] at hdualWinding
  unfold warnAboutOutput
  rw [returns_bind]
  refine ⟨returns_asString.mpr htype.2, fun type _ => ?_⟩
  split
  · simp
  simp only [returns_bind]
  refine ⟨hreads hmaxPulseTime, fun maxPulseTime _ => ⟨hreads hholdPower, fun holdPower _ =>
    ⟨hreads hactivation, fun activation _ => ⟨?_, fun dualWinding _ => ?_⟩⟩⟩⟩
  · rw [returns_readOptional]
    exact fun hdefined => returns_asBool.mpr (hdualWinding hdefined)
  · split
    · simp
    simp only [returns_bind, returns_pure, implies_true, and_true]
    exact ⟨returns_readOptional.mpr fun _ => returns_asString.mpr hdescription.2,
      fun _ _ => hreads hnumber⟩

theorem returns_warnAboutUnprotectedSolenoids
    (h : ifGiven "pwmOutput" (listOrEmpty (pwmOutput cpp)) config = true) :
    Returns (warnAboutUnprotectedSolenoids H cpp config) := by
  unfold warnAboutUnprotectedSolenoids
  rw [returns_forM]
  intro item hitem
  rw [returns_map]
  apply returns_warnAboutOutput
  rw [ifGiven_iff] at h
  generalize config.get "pwmOutput" = node at h hitem
  cases node <;> simp_all [Yaml.items, Yaml.isDefined, listOrEmpty, listOf, Yaml.isMap,
    Yaml.isSequence]

theorem returns_buttonSwitches {switches : Yaml} : Returns (buttonSwitches cpp switches) ↔
    ∀ n_switch ∈ switches.items, ButtonReads cpp n_switch := by
  unfold buttonSwitches
  refine returns_foldlM (fun n_switch _ numbers => ?_) []
  rw [returns_bind, returns_readOptional]
  refine and_congr_right fun hbutton => ?_
  have hround : ∀ button : Bool, Returns (do
      if button then
        let number ← cpp.asUInt16 (n_switch.get "number")
        pure (numbers ++ [number])
      else pure numbers) ↔ (button = true → Returns (cpp.asUInt16 (n_switch.get "number"))) := by
    intro button
    cases button with
    | false => simp
    | true =>
      simp only [if_true, returns_bind, returns_pure, implies_true, and_true, true_imp_iff]
  simp only [hround]
  -- a missing field reads as `false`
  cases hdefined : (n_switch.get "button").isDefined with
  | true =>
    simp only [readOptional, hdefined, if_true]
    constructor
    · intro hrounds htrue
      exact hrounds true htrue rfl
    · rintro hnumber button hread rfl
      exact hnumber hread
  | false =>
    have hundefined := Yaml.eq_undefined hdefined
    simp [readOptional, hundefined, Yaml.isDefined, YamlCpp.asBool]

theorem returns_parseSwitchGroups (h : ifGiven "switchGroups" (switchGroups cpp) config = true) :
    Returns (parseSwitchGroups cpp config) ↔
      ((config.get "switchMatrix").isDefined = true →
        ∀ n_switch ∈ ((config.get "switchMatrix").get "switches").items,
          ButtonReads cpp n_switch) ∧
      ∀ n_switch ∈ (config.get "switches").items, ButtonReads cpp n_switch := by
  have hgroups : ∀ entry ∈ (config.get "switchGroups").entries,
      Returns (cpp.asString entry.1) ∧ Returns (groupSwitches cpp entry.2) := by
    intro entry hentry
    have hdefined : (config.get "switchGroups").isDefined = true := by
      cases hnode : config.get "switchGroups" <;> simp_all [Yaml.entries, Yaml.isDefined]
    have hshape := ifGiven_iff.mp h hdefined
    simp only [switchGroups, mapOf, Bool.and_eq_true, List.all_eq_true] at hshape
    obtain ⟨hname, hgroup⟩ := hshape.2 entry hentry
    simp only [record_iff, List.forall_mem_cons, List.not_mem_nil, false_imp_iff, forall_const,
      and_true, required_iff, listOf, Bool.and_eq_true, List.all_eq_true] at hgroup
    constructor
    · rw [returns_asString]
      simp only [groupName, Option.any_eq_true] at hname
      obtain ⟨name, hname, -⟩ := hname
      simp [string, hname]
    · unfold groupSwitches
      rw [returns_mapM]
      exact fun number hnumber => returns_asUInt16_shape.mpr (hgroup.2.2.2 number hnumber)
  have hfold : ∀ groups : Map String (List UInt16),
      Returns ((config.get "switchGroups").entries.foldlM
        (fun groups entry => do
          let name ← cpp.asString entry.1
          let numbers ← groupSwitches cpp entry.2
          pure (groups.insert name (numberSet numbers))) groups) := by
    intro groups
    have hround : ∀ entry ∈ (config.get "switchGroups").entries,
        ∀ groups : Map String (List UInt16), Returns (do
          let name ← cpp.asString entry.1
          let numbers ← groupSwitches cpp entry.2
          pure (groups.insert name (numberSet numbers))) := by
      intro entry hentry groups
      obtain ⟨⟨name, hname⟩, numbers, hnumbers⟩ := hgroups entry hentry
      rw [hname, hnumbers]
      exact ⟨_, rfl⟩
    exact (returns_foldlM (fun entry hentry groups => iff_true_intro (hround entry hentry groups))
      groups).mpr fun _ _ => trivial
  simp only [parseSwitchGroups, ← returns_buttonSwitches]
  split
  · next hdefined =>
    simp only [returns_bind, hfold, implies_true, and_true, hdefined, true_imp_iff]
    constructor
    · rintro ⟨⟨matrixButtons, hbuttons⟩, hrest⟩
      exact ⟨⟨matrixButtons, hbuttons⟩, hrest matrixButtons hbuttons⟩
    · rintro ⟨hmatrix, hswitches⟩
      exact ⟨hmatrix, fun _ _ => hswitches⟩
  · next hdefined =>
    simp only [pure_bind, returns_bind, hfold, implies_true, and_true, hdefined,
      Bool.false_eq_true, false_imp_iff, true_and]

theorem returns_parseCoilGiMappings : Returns (parseCoilGiMappings cpp config) ↔
    ∀ item ∈ (config.get "coilGiMappings").items, Returns (parseCoilGiMapping cpp item) :=
  returns_mapM

theorem loads_iff : Loads H cpp config ↔ configuration H cpp config = true := by
  have hboards : Returns (validateRequiredSequence (config.get "boards") "boards") ∧
      Returns (validateItems (config.get "boards").items "boards" (validateBoard cpp)) ↔
      required "boards" (listOf (board cpp)) config = true := by
    have hitems : Returns (validateItems (config.get "boards").items "boards"
        (validateBoard cpp)) ∧ (∀ item ∈ (config.get "boards").items, True) ↔
        (config.get "boards").items.all (board cpp) = true :=
      returns_validateItems (fun _ => True) fun _ _ hmap =>
        (and_iff_left trivial).trans (returns_validateBoard hmap)
    simp only [implies_true, and_true] at hitems
    rw [returns_validateRequiredSequence, hitems, required_iff, listOf, Bool.and_eq_true]
    constructor
    · rintro ⟨hsequence, hall⟩
      exact ⟨isDefined_of_isSequence hsequence, hsequence, hall⟩
    · rintro ⟨-, hlist⟩
      exact hlist
  have hmatrix : ((config.get "switchMatrix").isDefined = true →
        Returns (validateSwitchMatrix cpp (config.get "switchMatrix"))) ∧
      ((config.get "switchMatrix").isDefined = true →
        ∀ n_switch ∈ ((config.get "switchMatrix").get "switches").items,
          ButtonReads cpp n_switch) ↔
      ifGiven "switchMatrix" (switchMatrix cpp) config = true := by
    rw [ifGiven_iff, ← returns_validateSwitchMatrix, imp_and]
  have hswitches : (Returns (validateOptionalItems config "switches" "root" (validateSwitch cpp)) ∧
        ∀ n_switch ∈ (config.get "switches").items, ButtonReads cpp n_switch) ↔
      ifGiven "switches" (listOrEmpty (switch cpp)) config = true :=
    returns_validateOptionalItems (ButtonReads cpp) fun _ _ => returns_validateSwitch
  have hcoils : (Returns (validateOptionalItems config "coilGiMappings" "root"
        (validateCoilGiMapping cpp)) ∧
        ∀ item ∈ (config.get "coilGiMappings").items, Returns (parseCoilGiMapping cpp item)) ↔
      ifGiven "coilGiMappings" (listOrEmpty (coilGiMapping cpp)) config = true :=
    returns_validateOptionalItems (fun item => Returns (parseCoilGiMapping cpp item))
      fun _ _ => returns_coilGiMapping
  have hpwm : Returns (validateOptionalItems config "pwmOutput" "root" (validatePwmOutput cpp)) ↔
      ifGiven "pwmOutput" (listOrEmpty (pwmOutput cpp)) config = true :=
    returns_validateOptionalItems_only fun _ _ => returns_validatePwmOutput
  have hstripes : Returns (validateOptionalItems config "ledStripes" "root"
        (validateLedStripe H cpp)) ↔
      ifGiven "ledStripes" (listOrEmpty (ledStripe H cpp)) config = true :=
    returns_validateOptionalItems_only fun _ _ => returns_validateLedStripe
  have hgroups : ((config.get "switchGroups").isDefined = true →
        Returns (validateSwitchGroups cpp (config.get "switchGroups"))) ↔
      ifGiven "switchGroups" (switchGroups cpp) config = true := by
    rw [ifGiven_iff, returns_validateSwitchGroups]
  -- the sections of the grammar, one after the other
  simp only [configuration, record_iff, List.forall_mem_cons, List.not_mem_nil, false_imp_iff,
    forall_const, and_true, ← hboards, ← hmatrix, ← hswitches, ← hcoils]
  simp only [required_iff]
  constructor
  · rintro ⟨hreturns, -, hbuttons, hmappings⟩
    simp only [validatePpucConfiguration, returns_seq, returns_validateRequiredField,
      returns_onlyIf, returns_validateRequiredMap, Has, returns_asString, returns_asBool,
      returns_asUInt8_shape, hpwm, hstripes, hgroups] at hreturns
    obtain ⟨hmap, hdebug, hrom, hserial, hplatform, hcoinDoor, hgameOn, hlist, hitems, hmatrix,
      hswitches, hnamed, hcoils, houtputs, hleds⟩ := hreturns
    -- the walks behind the validation read these groups and mappings again
    rw [returns_parseSwitchGroups hnamed] at hbuttons
    rw [returns_parseCoilGiMappings] at hmappings
    exact ⟨hmap, hdebug, hrom, hserial, hplatform, hcoinDoor, hgameOn, ⟨hlist, hitems⟩,
      ⟨hmatrix, hbuttons.1⟩, ⟨hswitches, hbuttons.2⟩, hnamed, ⟨hcoils, hmappings⟩, houtputs, hleds⟩
  · rintro ⟨hmap, hdebug, hrom, hserial, hplatform, hcoinDoor, hgameOn, ⟨hlist, hitems⟩,
      ⟨hmatrix, hmatrixButtons⟩, ⟨hswitches, hbuttons⟩, hnamed, ⟨hcoils, hmappings⟩, houtputs,
      hleds⟩
    -- the other way round the validation comes first, as the walks need it
    have hvalid : Returns (validatePpucConfiguration H cpp config) := by
      simp only [validatePpucConfiguration, returns_seq, returns_validateRequiredField,
        returns_onlyIf, returns_validateRequiredMap, Has, returns_asString, returns_asBool,
        returns_asUInt8_shape, hpwm, hstripes, hgroups]
      exact ⟨hmap, hdebug, hrom, hserial, hplatform, hcoinDoor, hgameOn, hlist, hitems, hmatrix,
        hswitches, hnamed, hcoils, houtputs, hleds⟩
    exact {
      valid := hvalid
      warned := returns_warnAboutUnprotectedSolenoids houtputs
      groups := (returns_parseSwitchGroups hnamed).mpr ⟨hmatrixButtons, hbuttons⟩
      mappings := returns_parseCoilGiMappings.mpr hmappings }

/-- A load returns if and only if none of its four walks throws. -/
theorem returns_loadConfiguration {configFile : String} {ppuc : Ppuc} :
    Returns (loadConfiguration H cpp configFile config ppuc).1 ↔ Loads H cpp config := by
  constructor
  · intro hreturns
    by_contra hfails
    exact (loadConfiguration_fails hfails configFile ppuc).1 hreturns
  · intro hloads
    exact loadConfiguration_loads hloads configFile ppuc

/-- **Which documents load**: `LoadConfiguration` returns if and only if the
    document has the shape of a configuration, whatever was loaded before. -/
theorem loadConfiguration_returns_iff {configFile : String} {ppuc : Ppuc} :
    Returns (loadConfiguration H cpp configFile config ppuc).1 ↔
      configuration H cpp config = true :=
  returns_loadConfiguration.trans loads_iff

end document

end LibPpuc
