import LibPpuc.Framework.RecordCode
import LibPpuc.Startup.Pass

/-! # The Records of a Document

  The config protocol has events, no records: a switch, an output or a stripe
  is told to its board by several events, each with one value.  The events of
  a record have the same board and topic, the keys that belong to the topic,
  and indices that count up, from 0 on for all records but the segments of a
  stripe.

  `documentRecords` lists the records of a document in its own terms.  A board
  that knows the keys of each topic reads any list of records back from their
  events, one after the other.
-/

namespace LibPpuc

/-- Consecutive events with one board and one topic. -/
structure ConfigRecord where
  board : UInt8
  topic : UInt8
  /-- The index of the first event. -/
  index : UInt8
  fields : List (UInt8 × UInt32)
  deriving DecidableEq

/-- The events of the fields, from an index on. -/
def fieldEvents (board topic : UInt8) : UInt8 → List (UInt8 × UInt32) → List ConfigEvent
  | _, [] => []
  | index, (key, value) :: fields =>
    { boardId := board, topic := topic, index := index, key := key, value := value } ::
      fieldEvents board topic (index + 1) fields

def ConfigRecord.events (r : ConfigRecord) : List ConfigEvent :=
  fieldEvents r.board r.topic r.index r.fields

/-! ### The Keys of a Record -/

namespace EventHeader

variable (H : EventHeader)

def matrixKeys : List UInt8 := [H.CONFIG_TOPIC_ACTIVE_LOW, H.CONFIG_TOPIC_NUM_ROWS]

def matrixSwitchKeys : List UInt8 := [H.CONFIG_TOPIC_PORT, H.CONFIG_TOPIC_NUMBER]

def switchKeys : List UInt8 :=
  [H.CONFIG_TOPIC_PORT, H.CONFIG_TOPIC_NUMBER, H.CONFIG_TOPIC_DEBOUNCE_TIME,
    H.CONFIG_TOPIC_MODE]

def pwmKeys : List UInt8 :=
  [H.CONFIG_TOPIC_PORT, H.CONFIG_TOPIC_NUMBER, H.CONFIG_TOPIC_POWER,
    H.CONFIG_TOPIC_MIN_PULSE_TIME, H.CONFIG_TOPIC_MAX_PULSE_TIME, H.CONFIG_TOPIC_HOLD_POWER,
    H.CONFIG_TOPIC_HOLD_POWER_ACTIVATION_TIME, H.CONFIG_TOPIC_FAST_SWITCH,
    H.CONFIG_TOPIC_TYPE]

def pwmEffectKeys : List UInt8 :=
  [H.CONFIG_TOPIC_PORT, H.CONFIG_TOPIC_DURATION, H.CONFIG_TOPIC_EFFECT,
    H.CONFIG_TOPIC_FREQUENCY, H.CONFIG_TOPIC_MAX_INTENSITY, H.CONFIG_TOPIC_MIN_INTENSITY,
    H.CONFIG_TOPIC_MODE, H.CONFIG_TOPIC_PRIORITY, H.CONFIG_TOPIC_REPEAT]

def triggerKeys : List UInt8 :=
  [H.CONFIG_TOPIC_PORT, H.CONFIG_TOPIC_TYPE, H.CONFIG_TOPIC_SOURCE, H.CONFIG_TOPIC_NUMBER,
    H.CONFIG_TOPIC_VALUE]

def ledStringKeys : List UInt8 :=
  [H.CONFIG_TOPIC_PORT, H.CONFIG_TOPIC_TYPE, H.CONFIG_TOPIC_BRIGHTNESS,
    H.CONFIG_TOPIC_AMOUNT_LEDS, H.CONFIG_TOPIC_AFTER_GLOW, H.CONFIG_TOPIC_LIGHT_UP]

def ledSegmentKeys : List UInt8 :=
  [H.CONFIG_TOPIC_PORT, H.CONFIG_TOPIC_NUMBER, H.CONFIG_TOPIC_FROM, H.CONFIG_TOPIC_TO]

def ledEffectKeys : List UInt8 :=
  [H.CONFIG_TOPIC_PORT, H.CONFIG_TOPIC_LED_SEGMENT, H.CONFIG_TOPIC_COLOR,
    H.CONFIG_TOPIC_COLOR_2, H.CONFIG_TOPIC_COLOR_3, H.CONFIG_TOPIC_DURATION,
    H.CONFIG_TOPIC_EFFECT, H.CONFIG_TOPIC_REVERSE, H.CONFIG_TOPIC_SPEED, H.CONFIG_TOPIC_MODE,
    H.CONFIG_TOPIC_PRIORITY, H.CONFIG_TOPIC_OPTIONS, H.CONFIG_TOPIC_REPEAT]

def lampKeys : List UInt8 :=
  [H.CONFIG_TOPIC_PORT, H.CONFIG_TOPIC_TYPE, H.CONFIG_TOPIC_NUMBER,
    H.CONFIG_TOPIC_LED_NUMBER, H.CONFIG_TOPIC_COLOR]

def switchChainKeys : List UInt8 :=
  [H.CONFIG_TOPIC_NEXT_BOARD, H.CONFIG_TOPIC_SWITCH_REPLY_DELAY_US]

/-- The topics of the records, with their keys in order. -/
def templates : List (UInt8 × List UInt8) :=
  [(H.CONFIG_TOPIC_PLATFORM, [H.CONFIG_TOPIC_PLATFORM]),
    (H.CONFIG_TOPIC_COIN_DOOR_CLOSED_SWITCH, [H.CONFIG_TOPIC_NUMBER]),
    (H.CONFIG_TOPIC_GAME_ON_SOLENOID, [H.CONFIG_TOPIC_NUMBER]),
    (H.CONFIG_TOPIC_SWITCH_MATRIX, H.matrixKeys),
    (H.CONFIG_TOPIC_SWITCH_MATRIX, H.matrixSwitchKeys),
    (H.CONFIG_TOPIC_SWITCHES, H.switchKeys),
    (H.CONFIG_TOPIC_PWM, H.pwmKeys),
    (H.CONFIG_TOPIC_PWM_EFFECT, H.pwmEffectKeys),
    (H.CONFIG_TOPIC_TRIGGER, H.triggerKeys),
    (H.CONFIG_TOPIC_LED_STRING, H.ledStringKeys),
    (H.CONFIG_TOPIC_LED_SEGMENT, H.ledSegmentKeys),
    (H.CONFIG_TOPIC_LED_EFFECT, H.ledEffectKeys),
    (H.CONFIG_TOPIC_LAMPS, H.lampKeys),
    (H.CONFIG_TOPIC_SWITCH_CHAIN, H.switchChainKeys)]

/-- The topic and the first key tell the records of the header apart. -/
def RecordsDistinct : Prop := (H.templates.map fun t => (t.1, t.2.head?)).Nodup

end EventHeader

/-- A record of the header. -/
structure ConfigRecord.Fits (H : EventHeader) (r : ConfigRecord) : Prop where
  template : (r.topic, r.fields.map Prod.fst) ∈ H.templates
  index : r.index = 0 ∨ r.topic = H.CONFIG_TOPIC_LED_SEGMENT

/-- A board takes a record off the events it gets: the first event tells the
    keys, and all events have to be those of one record. -/
def readRecord (H : EventHeader) : List ConfigEvent → Option (ConfigRecord × List ConfigEvent)
  | [] => none
  | event :: events =>
    match H.templates.find? fun t => t.1 = event.topic ∧ t.2.head? = some event.key with
    | none => none
    | some (_, keys) =>
      let taken := (event :: events).take keys.length
      let r : ConfigRecord :=
        { board := event.boardId, topic := event.topic, index := event.index,
          fields := taken.map fun e => (e.key, e.value) }
      if taken = r.events ∧ r.fields.map Prod.fst = keys ∧
          (r.index = 0 ∨ r.topic = H.CONFIG_TOPIC_LED_SEGMENT) then
        some (r, (event :: events).drop keys.length)
      else none

/-! ### Reading a Record Back -/

theorem length_fieldEvents (board topic index : UInt8) (fields : List (UInt8 × UInt32)) :
    (fieldEvents board topic index fields).length = fields.length := by
  induction fields generalizing index with
  | nil => rfl
  | cons field fields ih =>
    rw [fieldEvents, List.length_cons, ih, List.length_cons]

theorem fields_fieldEvents (board topic index : UInt8) (fields : List (UInt8 × UInt32)) :
    (fieldEvents board topic index fields).map (fun e => (e.key, e.value)) = fields := by
  induction fields generalizing index with
  | nil => rfl
  | cons field fields ih =>
    rw [fieldEvents, List.map_cons, ih]

theorem boardId_fieldEvents {board topic index : UInt8} {fields : List (UInt8 × UInt32)}
    {event : ConfigEvent} (h : event ∈ fieldEvents board topic index fields) :
    event.boardId = board := by
  induction fields generalizing index with
  | nil => simp [fieldEvents] at h
  | cons field fields ih =>
    rcases List.mem_cons.mp h with rfl | hlater
    · rfl
    · exact ih hlater

/-- The keys that a topic and a first key stand for. -/
theorem find_template {H : EventHeader} (hdistinct : H.RecordsDistinct) {topic key : UInt8}
    {keys : List UInt8} (h : (topic, key :: keys) ∈ H.templates) :
    (H.templates.find? fun t => t.1 = topic ∧ t.2.head? = some key) =
      some (topic, key :: keys) := by
  cases hfound : H.templates.find? fun t => t.1 = topic ∧ t.2.head? = some key with
  | none =>
    have hnone := List.find?_eq_none.mp hfound _ h
    simp at hnone
  | some t =>
    have hmatches := List.find?_some hfound
    have hmem := List.mem_of_find?_eq_some hfound
    have hsame : (t.1, t.2.head?) = (topic, (key :: keys).head?) := by
      simp only [decide_eq_true_eq] at hmatches
      rw [hmatches.1, hmatches.2, List.head?_cons]
    exact congrArg some (List.inj_on_of_nodup_map hdistinct hmem h hsame)

/-- **Round trip of a record**: it is read back off every stream that begins
    with its events. -/
theorem reads_record {H : EventHeader} (hdistinct : H.RecordsDistinct) {r : ConfigRecord}
    (h : r.Fits H) : RecordCode.Reads ConfigRecord.events (readRecord H) r := by
  obtain ⟨board, topic, index, fields⟩ := r
  obtain ⟨htemplate, hindex⟩ := h
  cases fields with
  | nil => simp [EventHeader.templates, EventHeader.matrixKeys, EventHeader.matrixSwitchKeys,
      EventHeader.switchKeys, EventHeader.pwmKeys, EventHeader.pwmEffectKeys,
      EventHeader.triggerKeys, EventHeader.ledStringKeys, EventHeader.ledSegmentKeys,
      EventHeader.ledEffectKeys, EventHeader.lampKeys, EventHeader.switchChainKeys] at htemplate
  | cons field fields =>
    obtain ⟨key, value⟩ := field
    constructor
    · simp [ConfigRecord.events, fieldEvents]
    · intro rest
      generalize hevents : fieldEvents board topic index ((key, value) :: fields) = events
      have hlength : events.length = (key :: fields.map Prod.fst).length := by
        rw [← hevents, length_fieldEvents]
        simp
      have htaken : (events ++ rest).take (key :: fields.map Prod.fst).length = events := by
        rw [← hlength, List.take_left]
      have hdropped : (events ++ rest).drop (key :: fields.map Prod.fst).length = rest := by
        rw [← hlength, List.drop_left]
      have hfields : events.map (fun e => (e.key, e.value)) = (key, value) :: fields := by
        rw [← hevents, fields_fieldEvents]
      show readRecord H (fieldEvents board topic index ((key, value) :: fields) ++ rest) = _
      rw [hevents]
      cases events with
      | nil => simp at hlength
      | cons event events =>
        obtain ⟨rfl, -⟩ := List.cons.inj hevents
        simp only [List.cons_append] at htaken hdropped ⊢
        simp only [readRecord, find_template hdistinct htemplate, htaken, hdropped, hfields]
        rw [if_pos]
        exact ⟨hevents.symm, rfl, hindex⟩

/-- **Round trip of a stream**: out of the events of any records, a board reads
    back the records that are for it. -/
theorem readAll_records {H : EventHeader} (hdistinct : H.RecordsDistinct)
    {records : List ConfigRecord} (h : ∀ r ∈ records, r.Fits H) (board : UInt8) :
    RecordCode.readAll (readRecord H)
        ((records.flatMap ConfigRecord.events).filter fun e => e.boardId = board) =
      some (records.filter fun r => r.board = board) := by
  have hboard : ∀ r ∈ records, ∀ e ∈ r.events,
      decide (e.boardId = board) = decide (r.board = board) := by
    intro r _ e he
    rw [boardId_fieldEvents he]
  rw [RecordCode.filter_flatMap hboard]
  apply RecordCode.readAll_flatMap
  intro r hr
  exact reads_record hdistinct (h r (List.mem_of_mem_filter hr))

/-! ### The Records of a Document -/

/-- What a conversion returns. -/
def valueOf {α : Type} [Inhabited α] : Except Failure α → α
  | .ok a => a
  | .error _ => default

section document

variable (H : EventHeader) (cpp : YamlCpp) (s : StartupSettings)

/-- A record whose indices count from 0. -/
def newRecord (board topic : UInt8) (keys : List UInt8) (values : List UInt32) : ConfigRecord :=
  { board := board, topic := topic, index := 0, fields := keys.zip values }

def itemBoard (item : Yaml) : UInt8 := valueOf (cpp.asUInt8 (item.get "board"))

def word (item : Yaml) (field : String) : UInt32 := valueOf (cpp.asUInt32 (item.get field))

/-- A board that is skipped is told nothing. -/
def toldTo (item : Yaml) (records : List ConfigRecord) : List ConfigRecord :=
  if itemBoard cpp item ∉ s.skippedBoards then records else []

def boardRecords (config n_board : Yaml) : List ConfigRecord :=
  let board := valueOf (cpp.asUInt8 (n_board.get "number"))
  if board ∈ s.skippedBoards then []
  else
    [newRecord board H.CONFIG_TOPIC_PLATFORM [H.CONFIG_TOPIC_PLATFORM] [s.platform],
      newRecord board H.CONFIG_TOPIC_COIN_DOOR_CLOSED_SWITCH [H.CONFIG_TOPIC_NUMBER]
        [(valueOf (cpp.asUInt8 (config.get "coinDoorClosedSwitch"))).toUInt32],
      newRecord board H.CONFIG_TOPIC_GAME_ON_SOLENOID [H.CONFIG_TOPIC_NUMBER]
        [(valueOf (cpp.asUInt8 (config.get "gameOnSolenoid"))).toUInt32]]

def matrixSwitchRecords (n_switch : Yaml) : List ConfigRecord :=
  toldTo cpp s n_switch
    [newRecord (itemBoard cpp n_switch) H.CONFIG_TOPIC_SWITCH_MATRIX H.matrixSwitchKeys
      [word cpp n_switch "port", word cpp n_switch "number"]]

def switchMatrixRecords (switchMatrix : Yaml) : List ConfigRecord :=
  toldTo cpp s switchMatrix
    (newRecord (itemBoard cpp switchMatrix) H.CONFIG_TOPIC_SWITCH_MATRIX H.matrixKeys
      [valueOf ((cpp.asBool (switchMatrix.get "activeLow")).map fun activeLow =>
          if activeLow then 1 else 0),
        valueOf ((cpp.asUInt8 (switchMatrix.get "rows")).map UInt8.toUInt32)] ::
      (switchMatrix.get "switches").items.flatMap (matrixSwitchRecords H cpp s))

def switchRecords (n_switch : Yaml) : List ConfigRecord :=
  toldTo cpp s n_switch
    [newRecord (itemBoard cpp n_switch) H.CONFIG_TOPIC_SWITCHES H.switchKeys
      [word cpp n_switch "port", word cpp n_switch "number", word cpp n_switch "debounce",
        valueOf (resolveSwitchDebounceMode H cpp
          (if (n_switch.get "debounceMode").isDefined then n_switch.get "debounceMode"
            else n_switch.get "debounce_mode"))]]

def triggerRecord (board : UInt8) (port type source number value : UInt32) : ConfigRecord :=
  newRecord board H.CONFIG_TOPIC_TRIGGER H.triggerKeys [port, type, source, number, value]

/-- The trigger of an effect with a name that is not blank. -/
def namedTriggerRecords (board : UInt8) (port type : UInt32) (effect : Yaml) :
    List ConfigRecord :=
  let name := valueOf (cpp.asString (effect.get "name"))
  if (effect.get "name").isDefined = true ∧ Pass.isBlank name = false then
    [triggerRecord H board port type H.EVENT_SOURCE_EFFECT (H.hashNamedTriggerId name)
      (valueOf (readOptional cpp.asUInt32 (effect.get "value") 1))]
  else []

/-- The trigger of an effect with a switch or a lamp for a trigger. -/
def simpleTriggerRecords (board : UInt8) (port type : UInt32) (effect : Yaml) :
    List ConfigRecord :=
  let trigger := effect.get "simpleTrigger"
  if trigger.isDefined = true then
    [triggerRecord H board port type
      (valueOf (resolveSimpleTriggerSource H (valueOf (cpp.asString (trigger.get "source")))))
      (word cpp trigger "number") (word cpp trigger "value")]
  else []

/-- Both triggers of an effect of the item. -/
def effectTriggerRecords (item : Yaml) (type : UInt8) (effect : Yaml) : List ConfigRecord :=
  let board := itemBoard cpp item
  let port := word cpp item "port"
  namedTriggerRecords H cpp board port type.toUInt32 effect ++
    simpleTriggerRecords H cpp board port type.toUInt32 effect

def pwmEffectRecords (n_pwmOutput effect : Yaml) : List ConfigRecord :=
  newRecord (itemBoard cpp n_pwmOutput) H.CONFIG_TOPIC_PWM_EFFECT H.pwmEffectKeys
    [word cpp n_pwmOutput "port", word cpp effect "duration",
      valueOf (resolvePwmEffectMode H cpp (effect.get "effect")), word cpp effect "frequency",
      word cpp effect "maxIntensity", word cpp effect "minIntensity", word cpp effect "mode",
      word cpp effect "priority", valueOf (Pass.repeatValue cpp (effect.get "repeat"))] ::
    effectTriggerRecords H cpp n_pwmOutput H.CONFIG_TOPIC_PWM_EFFECT effect

def pwmOutputRecords (n_pwmOutput : Yaml) : List ConfigRecord :=
  toldTo cpp s n_pwmOutput
    (newRecord (itemBoard cpp n_pwmOutput) H.CONFIG_TOPIC_PWM H.pwmKeys
      [word cpp n_pwmOutput "port", word cpp n_pwmOutput "number", word cpp n_pwmOutput "power",
        word cpp n_pwmOutput "minPulseTime", word cpp n_pwmOutput "maxPulseTime",
        word cpp n_pwmOutput "holdPower", word cpp n_pwmOutput "holdPowerActivationTime",
        valueOf (if s.disableFastFlipForTests then .ok 0
          else cpp.asUInt32 (n_pwmOutput.get "fastFlipSwitch")),
        (resolvePwmType H (valueOf (cpp.asString (n_pwmOutput.get "type")))).toUInt32] ::
      (n_pwmOutput.get "effects").items.flatMap (pwmEffectRecords H cpp n_pwmOutput))

/-- The segments of a stripe; their indices run on. -/
def ledSegmentRecords (n_ledStripe : Yaml) : UInt8 → List Yaml → List ConfigRecord
  | _, [] => []
  | index, segment :: segments =>
    { board := itemBoard cpp n_ledStripe
      topic := H.CONFIG_TOPIC_LED_SEGMENT
      index := index
      fields := H.ledSegmentKeys.zip
        [word cpp n_ledStripe "port", word cpp segment "number", word cpp segment "from",
          word cpp segment "to"] } ::
      ledSegmentRecords n_ledStripe (index + 4) segments

def ledEffectRecords (n_ledStripe effect : Yaml) : List ConfigRecord :=
  let colors := valueOf (Pass.buildLedEffectColors cpp effect
    (configItemContext cpp effect "ledStripes.effects"))
  newRecord (itemBoard cpp n_ledStripe) H.CONFIG_TOPIC_LED_EFFECT H.ledEffectKeys
    [word cpp n_ledStripe "port", word cpp effect "segment", colors.1, colors.2.1, colors.2.2,
      word cpp effect "duration", valueOf (resolveLedEffectMode cpp (effect.get "effect")),
      word cpp effect "reverse", word cpp effect "speed", word cpp effect "mode",
      word cpp effect "priority", valueOf (Pass.buildWs2812FxOptions cpp effect),
      valueOf (Pass.repeatValue cpp (effect.get "repeat"))] ::
    effectTriggerRecords H cpp n_ledStripe H.CONFIG_TOPIC_LED_EFFECT effect

def lampRecord (n_ledStripe : Yaml) (type : UInt8) (item : Yaml) : ConfigRecord :=
  newRecord (itemBoard cpp n_ledStripe) H.CONFIG_TOPIC_LAMPS H.lampKeys
    [word cpp n_ledStripe "port", type.toUInt32, word cpp item "number",
      word cpp item "ledNumber",
      (parseHex (colorDigits (valueOf (cpp.asString (item.get "color"))))).getD 0]

/-- The lamps, the flashers or the GI strings of a stripe. -/
def ledBlockRecords (n_ledStripe : Yaml) (field : String) (type : UInt8) : List ConfigRecord :=
  (n_ledStripe.get field).items.map (lampRecord H cpp n_ledStripe type)

def ledStripeRecords (n_ledStripe : Yaml) : List ConfigRecord :=
  toldTo cpp s n_ledStripe
    (newRecord (itemBoard cpp n_ledStripe) H.CONFIG_TOPIC_LED_STRING H.ledStringKeys
      [word cpp n_ledStripe "port",
        valueOf ((cpp.asString (n_ledStripe.get "ledType")).map fun type =>
          (resolveLedTypeValue H type).toUInt32),
        word cpp n_ledStripe "brightness", word cpp n_ledStripe "amount",
        word cpp n_ledStripe "afterGlow", word cpp n_ledStripe "lightUp"] ::
      (ledSegmentRecords H cpp n_ledStripe 6 (n_ledStripe.get "segments").items ++
        (n_ledStripe.get "effects").items.flatMap (ledEffectRecords H cpp n_ledStripe) ++
        ledBlockRecords H cpp n_ledStripe "lamps" H.LED_TYPE_LAMP ++
        ledBlockRecords H cpp n_ledStripe "flashers" H.LED_TYPE_FLASHER ++
        ledBlockRecords H cpp n_ledStripe "gi" H.LED_TYPE_GI))

/-- The records of the sections behind the boards. -/
def sectionRecords (config : Yaml) : List ConfigRecord :=
  (if (config.get "switchMatrix").isDefined = true then
      switchMatrixRecords H cpp s (config.get "switchMatrix") else []) ++
    (config.get "switches").items.flatMap (switchRecords H cpp s) ++
    (config.get "pwmOutput").items.flatMap (pwmOutputRecords H cpp s) ++
    (config.get "ledStripes").items.flatMap (ledStripeRecords H cpp s)

/-- The records of the document. -/
def documentRecords (config : Yaml) : List ConfigRecord :=
  (config.get "boards").items.flatMap (boardRecords H cpp s config) ++
    sectionRecords H cpp s config

/-- The records of the token ring: a present board is told its successor. -/
def ringRecords (done : UInt8) (present : Finset UInt8) : List UInt8 → List ConfigRecord
  | [] => []
  | board :: boards =>
    (if board ∈ present then
      [newRecord board H.CONFIG_TOPIC_SWITCH_CHAIN H.switchChainKeys
        [(boards.headD done).toUInt32, s.switchReplyDelayUs]] else []) ++
      ringRecords done present boards

end document

/-! ### The Records Have the Keys of Their Topics -/

section fits

variable {H : EventHeader} {cpp : YamlCpp} {s : StartupSettings}

theorem fits_newRecord {board topic : UInt8} {keys : List UInt8} {values : List UInt32}
    (htemplate : (topic, keys) ∈ H.templates) (hlength : keys.length = values.length) :
    (newRecord board topic keys values).Fits H where
  template := by
    show (topic, (keys.zip values).map Prod.fst) ∈ H.templates
    rwa [List.map_fst_zip hlength.le]
  index := Or.inl rfl

theorem fits_toldTo {item : Yaml} {records : List ConfigRecord}
    (h : ∀ r ∈ records, r.Fits H) : ∀ r ∈ toldTo cpp s item records, r.Fits H := by
  unfold toldTo
  split
  · exact h
  · simp

theorem fits_effectTriggerRecords (item effect : Yaml) (type : UInt8) :
    ∀ r ∈ effectTriggerRecords H cpp item type effect, r.Fits H := by
  have htrigger : ∀ board port type source number value,
      (triggerRecord H board port type source number value).Fits H :=
    fun _ _ _ _ _ _ => fits_newRecord (by simp [EventHeader.templates]) rfl
  intro r hr
  rcases List.mem_append.mp hr with hnamed | hsimple
  · simp only [namedTriggerRecords] at hnamed
    split at hnamed
    · obtain rfl := List.mem_singleton.mp hnamed
      exact htrigger _ _ _ _ _ _
    · simp at hnamed
  · simp only [simpleTriggerRecords] at hsimple
    split at hsimple
    · obtain rfl := List.mem_singleton.mp hsimple
      exact htrigger _ _ _ _ _ _
    · simp at hsimple

theorem fits_boardRecords (config n_board : Yaml) :
    ∀ r ∈ boardRecords H cpp s config n_board, r.Fits H := by
  simp only [boardRecords]
  split
  · simp
  · simp only [List.forall_mem_cons]
    refine ⟨?_, ?_, ?_, by simp⟩
    all_goals exact fits_newRecord (by simp [EventHeader.templates]) rfl

theorem fits_switchMatrixRecords (switchMatrix : Yaml) :
    ∀ r ∈ switchMatrixRecords H cpp s switchMatrix, r.Fits H := by
  apply fits_toldTo
  rw [List.forall_mem_cons]
  constructor
  · exact fits_newRecord (by simp [EventHeader.templates]) rfl
  · intro r hr
    obtain ⟨n_switch, -, hr⟩ := List.mem_flatMap.mp hr
    refine fits_toldTo ?_ r hr
    rw [List.forall_mem_singleton]
    exact fits_newRecord (by simp [EventHeader.templates]) rfl

theorem fits_switchRecords (n_switch : Yaml) :
    ∀ r ∈ switchRecords H cpp s n_switch, r.Fits H := by
  apply fits_toldTo
  rw [List.forall_mem_singleton]
  exact fits_newRecord (by simp [EventHeader.templates]) rfl

theorem fits_pwmOutputRecords (n_pwmOutput : Yaml) :
    ∀ r ∈ pwmOutputRecords H cpp s n_pwmOutput, r.Fits H := by
  apply fits_toldTo
  rw [List.forall_mem_cons]
  constructor
  · exact fits_newRecord (by simp [EventHeader.templates]) rfl
  · intro r hr
    obtain ⟨effect, -, hr⟩ := List.mem_flatMap.mp hr
    rcases List.mem_cons.mp hr with rfl | htrigger
    · exact fits_newRecord (by simp [EventHeader.templates]) rfl
    · exact fits_effectTriggerRecords _ _ _ r htrigger

theorem fits_ledSegmentRecords (n_ledStripe : Yaml) (segments : List Yaml) (index : UInt8) :
    ∀ r ∈ ledSegmentRecords H cpp n_ledStripe index segments, r.Fits H := by
  induction segments generalizing index with
  | nil => simp [ledSegmentRecords]
  | cons segment segments ih =>
    rw [ledSegmentRecords, List.forall_mem_cons]
    refine ⟨⟨?_, Or.inr rfl⟩, ih (index + 4)⟩
    show (_, H.ledSegmentKeys) ∈ H.templates
    simp [EventHeader.templates]

theorem fits_ledStripeRecords (n_ledStripe : Yaml) :
    ∀ r ∈ ledStripeRecords H cpp s n_ledStripe, r.Fits H := by
  have hblock : ∀ field type,
      ∀ r ∈ ledBlockRecords H cpp n_ledStripe field type, r.Fits H := by
    intro field type r hr
    obtain ⟨item, -, rfl⟩ := List.mem_map.mp hr
    exact fits_newRecord (by simp [EventHeader.templates]) rfl
  have heffects : ∀ effect, ∀ r ∈ ledEffectRecords H cpp n_ledStripe effect, r.Fits H := by
    intro effect
    simp only [ledEffectRecords, List.forall_mem_cons]
    constructor
    · exact fits_newRecord (by simp [EventHeader.templates]) rfl
    · exact fits_effectTriggerRecords _ _ _
  apply fits_toldTo
  simp only [List.forall_mem_cons, List.forall_mem_append]
  refine ⟨?_, ⟨⟨⟨fits_ledSegmentRecords _ _ 6, ?_⟩, hblock _ _⟩, hblock _ _⟩, hblock _ _⟩
  · exact fits_newRecord (by simp [EventHeader.templates]) rfl
  · intro r hr
    obtain ⟨effect, -, hr⟩ := List.mem_flatMap.mp hr
    exact heffects effect r hr

theorem fits_documentRecords (config : Yaml) :
    ∀ r ∈ documentRecords H cpp s config, r.Fits H := by
  have hparts : ∀ {items : List Yaml} {part : Yaml → List ConfigRecord},
      (∀ item, ∀ r ∈ part item, r.Fits H) → ∀ r ∈ items.flatMap part, r.Fits H := by
    intro items part h r hr
    obtain ⟨item, -, hr⟩ := List.mem_flatMap.mp hr
    exact h item r hr
  simp only [documentRecords, sectionRecords, List.forall_mem_append]
  refine ⟨hparts (fits_boardRecords config), ⟨⟨?_, hparts fits_switchRecords⟩,
    hparts fits_pwmOutputRecords⟩, hparts fits_ledStripeRecords⟩
  split
  · exact fits_switchMatrixRecords _
  · simp

theorem fits_ringRecords (done : UInt8) (present : Finset UInt8) (boards : List UInt8) :
    ∀ r ∈ ringRecords H s done present boards, r.Fits H := by
  induction boards with
  | nil => simp [ringRecords]
  | cons board boards ih =>
    rw [ringRecords]
    rw [List.forall_mem_append]
    refine ⟨?_, ih⟩
    split
    · rw [List.forall_mem_singleton]
      exact fits_newRecord (by simp [EventHeader.templates]) rfl
    · simp

end fits

end LibPpuc
