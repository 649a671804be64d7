import LibPpuc.Config.Schema
import LibPpuc.Startup.Reference

/-! # Does an Accepted Document Survive the Startup Pass?

  Validation and the startup pass ask different things of the same fields:
  validation takes any 32-bit number where the pass stores eight bits, any
  string where the pass looks up a mode, and any 16-bit number of repeats
  where the pass reads all but -1 and -2 as unsigned.  `StartupFits` lists
  the fields where this matters, and what the pass needs of them.  For an
  accepted document it is exactly what is missing (`startup_sound_iff`).
-/

namespace LibPpuc

/-! ### What the Startup Pass Needs -/

/-- The node is a number from 0 to `max`. -/
def NumberUpTo (cpp : YamlCpp) (max : Int) (node : Yaml) : Prop :=
  ∃ n, cpp.intOf node = some n ∧ 0 ≤ n ∧ n ≤ max

/-- The node names one of the modes, or is a decimal 32-bit number. -/
def KnownMode (cpp : YamlCpp) (modes : List (String × UInt32)) (node : Yaml) : Prop :=
  ∃ value, cpp.asString node = .ok value ∧
    if isDecimalScalar value then NumberUpTo cpp 4294967295 node else value ∈ modes.map Prod.fst

/-- -1 and -2 are the only negative numbers of repeats. -/
def RepeatFits (cpp : YamlCpp) (node : Yaml) : Prop := ∃ n, cpp.intOf node = some n ∧ -2 ≤ n

/-- The board of an item is not skipped. -/
def OnActiveBoard (cpp : YamlCpp) (s : StartupSettings) (item : Yaml) : Prop :=
  ∃ board, cpp.asUInt8 (item.get "board") = .ok board ∧ board ∉ s.skippedBoards

/-- A switch or coil that is stored with eight-bit port and number. -/
structure PortNumberFits (cpp : YamlCpp) (item : Yaml) : Prop where
  port : NumberUpTo cpp 255 (item.get "port")
  number : NumberUpTo cpp 255 (item.get "number")

/-- The mode of an entry of `switches`, under either of its names. -/
def DebounceFits (H : EventHeader) (cpp : YamlCpp) (item : Yaml) : Prop :=
  let node :=
    if (item.get "debounceMode").isDefined then item.get "debounceMode"
    else item.get "debounce_mode"
  node.isDefined = true → KnownMode cpp (switchDebounceModes H) node

/-- An effect of an output with the given modes. -/
structure EffectFits (cpp : YamlCpp) (modes : List (String × UInt32)) (effect : Yaml) :
    Prop where
  mode : KnownMode cpp modes (effect.get "effect")
  repeats : RepeatFits cpp (effect.get "repeat")

structure PwmOutputFits (H : EventHeader) (cpp : YamlCpp) (item : Yaml) : Prop
    extends PortNumberFits cpp item where
  effects : ListOf (EffectFits cpp (pwmEffectModes H)) item "effects"

/-- A lamp is stored with the port of its stripe. -/
def LampFits (cpp : YamlCpp) (stripe lamp : Yaml) : Prop :=
  NumberUpTo cpp 255 (stripe.get "port") ∧ NumberUpTo cpp 255 (lamp.get "number")

structure LedStripeFits (cpp : YamlCpp) (stripe : Yaml) : Prop where
  effects : ListOf (EffectFits cpp ledEffectModes) stripe "effects"
  lamps : ListOf (LampFits cpp stripe) stripe "lamps"
  flashers : ListOf (LampFits cpp stripe) stripe "flashers"
  gi : ListOf (LampFits cpp stripe) stripe "gi"

/-- What the startup pass needs of a document beyond its validity. -/
structure StartupFits (H : EventHeader) (cpp : YamlCpp) (s : StartupSettings) (config : Yaml) :
    Prop where
  matrixNumbers : ListOf (fun item => NumberUpTo cpp 65535 (item.get "number"))
    (config.get "switchMatrix") "switches"
  matrixSwitches : OnActiveBoard cpp s (config.get "switchMatrix") →
    ListOf (PortNumberFits cpp) (config.get "switchMatrix") "switches"
  switches : ListOf (PortNumberFits cpp) config "switches"
  debounce : ListOf (fun item => OnActiveBoard cpp s item → DebounceFits H cpp item) config
    "switches"
  pwmOutput : ListOf (fun item => OnActiveBoard cpp s item → PwmOutputFits H cpp item) config
    "pwmOutput"
  ledStripes : ListOf (fun item => OnActiveBoard cpp s item → LedStripeFits cpp item) config
    "ledStripes"

/-- A stored number keeps its value. -/
def StartupStep.Exact : StartupStep → Prop
  | .pushLamp _ port _ number _ _ =>
    port.toUInt8.toUInt32 = port ∧ number.toUInt8.toUInt32 = number
  | _ => True

/-! ### Conversions -/

section conversions

variable {cpp : YamlCpp} {α β : Type}

theorem returns_mapM {γ : Type} {f : γ → Except Failure α} {xs : List γ} :
    Returns (xs.mapM f) ↔ ∀ y ∈ xs, Returns (f y) := by
  induction xs with
  | nil => exact iff_of_true ⟨[], rfl⟩ (fun y hy => nomatch hy)
  | cons y ys ih =>
    rw [List.mapM_cons, returns_bind, List.forall_mem_cons]
    constructor
    · intro h
      obtain ⟨⟨a, ha⟩, hrest⟩ := h
      have htail := hrest a ha
      rw [returns_bind] at htail
      exact ⟨⟨a, ha⟩, ih.mp htail.1⟩
    · intro h
      obtain ⟨hy, hys⟩ := h
      refine ⟨hy, fun a _ => ?_⟩
      rw [returns_bind]
      exact ⟨ih.mpr hys, fun _ _ => ⟨_, rfl⟩⟩

/-- A loop whose rounds return or not, whatever was collected before. -/
theorem returns_foldlM {γ : Type} {f : β → γ → Except Failure β} {ok : γ → Prop} {xs : List γ}
    (h : ∀ y ∈ xs, ∀ b, Returns (f b y) ↔ ok y) (b : β) :
    Returns (xs.foldlM f b) ↔ ∀ y ∈ xs, ok y := by
  induction xs generalizing b with
  | nil => exact iff_of_true ⟨b, rfl⟩ (fun y hy => nomatch hy)
  | cons y ys ih =>
    have hys : ∀ z ∈ ys, ∀ b, Returns (f b z) ↔ ok z := fun z hz => h z (List.mem_cons_of_mem y hz)
    rw [List.foldlM_cons, returns_bind, List.forall_mem_cons, h y List.mem_cons_self b]
    constructor
    · intro hgood
      obtain ⟨hy, hrest⟩ := hgood
      obtain ⟨c, hc⟩ := (h y List.mem_cons_self b).mpr hy
      exact ⟨hy, (ih hys c).mp (hrest c hc)⟩
    · intro hfit
      obtain ⟨hy, hrest⟩ := hfit
      exact ⟨hy, fun c _ => (ih hys c).mpr hrest⟩

theorem returns_readOptional {convert : Yaml → Except Failure α} {item : Yaml} {field : String}
    {default : α} :
    Returns (readOptional convert (item.get field) default) ↔ MayHave convert item field := by
  unfold readOptional MayHave
  split
  · next hdefined => simp [hdefined]
  · next hdefined => simp [hdefined]

/-- A lookup returns if and only if the mode is known. -/
theorem returns_resolveMode {modes : List (String × UInt32)} {kind : String} {node : Yaml} :
    Returns (resolveMode cpp modes kind node) ↔ KnownMode cpp modes node := by
  unfold resolveMode KnownMode
  rw [returns_bind_iff_exists]
  have hlookup : ∀ value : String, (modes.lookup value).isSome ↔ value ∈ modes.map Prod.fst := by
    intro value
    rw [List.lookup_isSome_iff, List.mem_map]
    constructor
    · intro h
      obtain ⟨mode, hmode, heq⟩ := h
      exact ⟨mode, hmode, (beq_iff_eq.mp heq).symm⟩
    · intro h
      obtain ⟨mode, hmode, heq⟩ := h
      exact ⟨mode, hmode, beq_iff_eq.mpr heq.symm⟩
  apply exists_congr
  intro value
  apply and_congr_right
  intro _
  split
  · exact YamlCpp.returns_asUInt32
  · rw [← hlookup value]
    cases modes.lookup value <;> simp

/-- A 16-bit number of repeats is sent if and only if it is at least -2. -/
theorem returns_repeatValue {node : Yaml} (h : Returns (cpp.asInt16 node)) :
    Returns (Pass.repeatValue cpp node) ↔ RepeatFits cpp node := by
  obtain ⟨count, hcount⟩ := h
  obtain ⟨hint, hlow, hhigh⟩ := YamlCpp.asInteger_eq_ok hcount
  have hpass : Pass.repeatValue cpp node =
      if count = -1 then pure 255 else if count = -2 then pure 254 else cpp.asUInt32 node := by
    unfold Pass.repeatValue
    rw [hcount]
    rfl
  rw [hpass]
  unfold RepeatFits
  split
  · next hone => exact iff_of_true ⟨255, rfl⟩ ⟨count, hint, by omega⟩
  split
  · next htwo => exact iff_of_true ⟨254, rfl⟩ ⟨count, hint, by omega⟩
  next hone htwo =>
    rw [YamlCpp.returns_asUInt32]
    constructor
    · intro hgood
      obtain ⟨n, hn, hpos, -⟩ := hgood
      exact ⟨n, hn, by omega⟩
    · intro hfit
      obtain ⟨n, hn, hge⟩ := hfit
      obtain rfl : count = n := Option.some.inj (hint.symm.trans hn)
      exact ⟨count, hint, by omega, by omega⟩

/-- A 32-bit value keeps its value in eight bits if and only if it is small. -/
theorem exact_iff {node : Yaml} {v : UInt32} (h : cpp.asUInt32 node = .ok v) :
    v.toUInt8.toUInt32 = v ↔ NumberUpTo cpp 255 node := by
  have hint := YamlCpp.toNat_of_asUInt32 h
  have hlt := v.toNat_lt
  have hvalue : v.toUInt8.toUInt32.toNat = v.toNat % 256 := by simp
  constructor
  · intro hsame
    refine ⟨v.toNat, hint, by omega, ?_⟩
    rw [hsame] at hvalue
    omega
  · intro hfit
    obtain ⟨n, hn, hlow, hhigh⟩ := hfit
    have hn' : (v.toNat : Int) = n := Option.some.inj (hint.symm.trans hn)
    apply UInt32.toNat_inj.mp
    omega

theorem returns_asUInt16_of_upTo {node : Yaml} (h : NumberUpTo cpp 255 node) :
    Returns (cpp.asUInt16 node) :=
  YamlCpp.returns_asUInt16_of_asUInt8 (YamlCpp.returns_asUInt8.mpr h)

end conversions

/-! ### Good Passes -/

namespace Pass

open Emitter StartupStep

section pieces

variable {H : EventHeader} {cpp : YamlCpp} {s : StartupSettings}

theorem good_read {α : Type} {r : Except Failure α} :
    Good Exact (ofExcept r : Pass α) ↔ Returns r := good_ofExcept r

/-- A value is read, and what follows does not depend on it. -/
theorem good_read_bind {α : Type} {r : Except Failure α} {f : α → Pass Unit} {fits : Prop}
    (h : ∀ a, r = .ok a → (Good Exact (f a) ↔ fits)) :
    Good Exact (ofExcept r >>= f) ↔ Returns r ∧ fits := by
  rw [good_bind, good_read]
  constructor
  · intro hgood
    obtain ⟨⟨a, ha⟩, hf⟩ := hgood
    exact ⟨⟨a, ha⟩, (h a ha).mp (hf a ha)⟩
  · intro hfit
    obtain ⟨hr, hfits⟩ := hfit
    exact ⟨hr, fun a ha => (h a ha).mpr hfits⟩

/-- The same, when the value is known to be there. -/
theorem good_read_valid {α : Type} {r : Except Failure α} {f : α → Pass Unit} {fits : Prop}
    (hr : Returns r) (h : ∀ a, r = .ok a → (Good Exact (f a) ↔ fits)) :
    Good Exact (ofExcept r >>= f) ↔ fits := by
  rw [good_read_bind h, and_iff_right hr]

theorem good_send {board topic index key : UInt8} {value : UInt32} :
    Good Exact (send board topic index key value) := (good_emit _).mpr trivial

theorem good_sendItem {item : Yaml} {topic index key : UInt8} {value : Except Failure UInt32}
    (hboard : Returns (cpp.asUInt8 (item.get "board"))) :
    Good Exact (sendItem cpp item topic index key value) ↔ Returns value := by
  unfold sendItem
  rw [good_read_valid hboard fun board _ => good_read_bind fun v _ => iff_true_intro good_send]
  exact and_iff_left trivial

theorem good_onlyIf {c : Prop} {_ : Decidable c} {body : Pass Unit} :
    Good Exact (onlyIf c body) ↔ (c → Good Exact body) := by
  unfold onlyIf
  split
  · next hc => simp [hc]
  · next hc => simp [hc]

theorem good_unlessSkipped {item : Yaml} {body : Pass Unit}
    (hboard : Returns (cpp.asUInt8 (item.get "board"))) :
    Good Exact (unlessSkipped cpp s item body) ↔
      (OnActiveBoard cpp s item → Good Exact body) := by
  unfold unlessSkipped
  apply good_read_valid hboard
  intro board hok
  rw [good_onlyIf]
  constructor
  · intro h honBoard
    obtain ⟨board', hok', hactive⟩ := honBoard
    obtain rfl : board = board' := Except.ok.inj (hok.symm.trans hok')
    exact h hactive
  · exact fun h hactive => h ⟨board, hok, hactive⟩

theorem good_printDescription {item : Yaml} (h : Has cpp.asString item "description") :
    Good Exact (printDescription cpp s item) := by
  unfold printDescription
  rw [good_onlyIf, good_read, returns_map]
  exact fun _ => h.2

theorem good_abortCheck : Good Exact (emit .abortCheck : Pass Unit) := (good_emit _).mpr trivial

theorem good_failureCheck : Good Exact (emit .failureCheck : Pass Unit) :=
  (good_emit _).mpr trivial

/-! ### Switches -/

theorem good_pushSwitch {n_switch : Yaml} (h : ValidAnySwitch cpp n_switch) :
    Good Exact (pushSwitch cpp n_switch) ↔ PortNumberFits cpp n_switch := by
  have hbutton : Returns (readOptional cpp.asBool (n_switch.get "button") false) :=
    returns_readOptional.mpr h.button
  have hemit : ∀ entry, Good Exact (emit (.pushSwitch entry) : Pass Unit) ↔ True :=
    fun _ => iff_true_intro ((good_emit _).mpr trivial)
  unfold pushSwitch
  rw [good_read_valid h.board.2 fun board _ => good_read_bind fun port _ =>
    good_read_bind fun number _ => good_read_valid h.description.2 fun description _ =>
      good_read_valid hbutton fun button _ => hemit _]
  rw [YamlCpp.returns_asUInt8, YamlCpp.returns_asUInt8]
  constructor
  · exact fun hfits => ⟨hfits.1, hfits.2.1⟩
  · exact fun hfits => ⟨hfits.port, hfits.number, trivial⟩

theorem good_matrixSwitchPass {n_switch : Yaml} (h : ValidAnySwitch cpp n_switch) :
    Good Exact (matrixSwitchPass H cpp s n_switch) ↔ PortNumberFits cpp n_switch := by
  unfold matrixSwitchPass
  rw [good_seq, good_seq, good_unlessSkipped h.board.2, good_seq, good_sendItem h.board.2,
    good_sendItem h.board.2, good_pushSwitch h]
  constructor
  · exact fun hgood => hgood.2.2
  · exact fun hfits => ⟨good_printDescription h.description, fun _ => ⟨h.port.2, h.number.2⟩, hfits⟩

theorem good_switchMatrixPass {switchMatrix : Yaml} (h : ValidSwitchMatrix cpp switchMatrix) :
    Good Exact (switchMatrixPass H cpp s switchMatrix) ↔
      (OnActiveBoard cpp s switchMatrix → ListOf (PortNumberFits cpp) switchMatrix "switches") := by
  have hswitches :
      Good Exact ((switchMatrix.get "switches").items.forM (matrixSwitchPass H cpp s)) ↔
      ListOf (PortNumberFits cpp) switchMatrix "switches" := by
    rw [good_forM]
    exact forall₂_congr fun n_switch hmem => good_matrixSwitchPass (h.switches n_switch hmem)
  unfold switchMatrixPass
  rw [good_unlessSkipped h.board.2, good_seq, good_seq, good_sendItem h.board.2,
    good_sendItem h.board.2, returns_map, returns_map, hswitches]
  apply imp_congr_right
  intro _
  rw [and_iff_right h.activeLow.2, and_iff_right h.rows.2]

/-- The mode is looked up under either name. -/
theorem returns_resolveSwitchDebounceMode {n_switch : Yaml} :
    Returns (resolveSwitchDebounceMode H cpp
      (if (n_switch.get "debounceMode").isDefined then n_switch.get "debounceMode"
        else n_switch.get "debounce_mode")) ↔ DebounceFits H cpp n_switch := by
  unfold resolveSwitchDebounceMode DebounceFits
  dsimp only
  generalize (if (n_switch.get "debounceMode").isDefined = true then n_switch.get "debounceMode"
    else n_switch.get "debounce_mode") = node
  split
  · next hdefined => simp [hdefined, returns_resolveMode]
  · next hdefined => simp [hdefined]

theorem good_switchPass {n_switch : Yaml} (h : ValidSwitch cpp n_switch) :
    Good Exact (switchPass H cpp s n_switch) ↔
      PortNumberFits cpp n_switch ∧
        (OnActiveBoard cpp s n_switch → DebounceFits H cpp n_switch) := by
  unfold switchPass
  rw [good_seq]
  dsimp only
  rw [good_seq, good_seq, good_unlessSkipped h.board.2, good_seq, good_seq, good_seq,
    good_sendItem h.board.2, good_sendItem h.board.2, good_sendItem h.board.2,
    good_sendItem h.board.2, good_pushSwitch h.toValidAnySwitch,
    returns_resolveSwitchDebounceMode]
  constructor
  · intro hgood
    obtain ⟨-, hevents, hfits, -⟩ := hgood
    exact ⟨hfits, fun hactive => (hevents hactive).2.2.2⟩
  · intro hfit
    obtain ⟨hfits, hmode⟩ := hfit
    refine ⟨good_printDescription h.description, fun hactive => ?_, hfits, good_abortCheck⟩
    exact ⟨h.port.2, h.number.2, h.debounce.2, hmode hactive⟩

/-! ### Effects -/

theorem good_sendTriggerConfig {board : UInt8} {port type source number value : UInt32} :
    Good Exact (sendTriggerConfig H board port type source number value) := by
  unfold sendTriggerConfig
  simp only [good_seq, good_send, and_self]

theorem good_sendNamedEffectTriggerConfig {effect : Yaml} {type port : UInt32} {board : UInt8}
    (h : ValidTriggers cpp effect) :
    Good Exact (sendNamedEffectTriggerConfig H cpp effect type board port) := by
  unfold sendNamedEffectTriggerConfig
  rw [good_onlyIf]
  intro hdefined
  have hvalue : Returns (readOptional cpp.asUInt32 (effect.get "value") 1) :=
    returns_readOptional.mpr h.value
  refine (good_read_valid (h.name hdefined) fun name _ => ?_).mpr trivial
  rw [good_onlyIf]
  apply iff_true_intro
  intro _
  exact (good_read_valid hvalue fun value _ => iff_true_intro good_sendTriggerConfig).mpr trivial

theorem good_sendSimpleEffectTriggerConfig {effect : Yaml} {type port : UInt32} {board : UInt8}
    {context : String} (h : ValidTriggers cpp effect) :
    Good Exact (sendSimpleEffectTriggerConfig H cpp effect type board port context) := by
  unfold sendSimpleEffectTriggerConfig
  rw [good_onlyIf]
  intro hdefined
  obtain ⟨⟨name, hname, hknown⟩, hnumber, value, hvalue, hle⟩ := h.simpleTrigger hdefined
  have hsource : Returns (resolveSimpleTriggerSource H name) := by
    unfold resolveSimpleTriggerSource
    rcases hknown with rfl | rfl | rfl
    · exact ⟨_, rfl⟩
    · exact ⟨_, rfl⟩
    · exact ⟨_, rfl⟩
  dsimp only
  rw [hname, ofExcept_ok_bind]
  refine (good_read_valid hsource fun source _ => ?_).mpr trivial
  refine iff_true_intro ((good_read_valid hnumber.2 fun number _ => ?_).mpr trivial)
  rw [hvalue, ofExcept_ok_bind, if_neg hle]
  exact iff_true_intro good_sendTriggerConfig

/-- Both triggers of a valid effect are sent. -/
theorem good_effectTriggersPass {item effect : Yaml} {type : UInt8} {context : String}
    (hboard : Returns (cpp.asUInt8 (item.get "board")))
    (hport : Returns (cpp.asUInt32 (item.get "port"))) (h : ValidTriggers cpp effect) :
    Good Exact (effectTriggersPass H cpp item effect type context) := by
  unfold effectTriggersPass
  refine (good_read_valid hboard fun board _ => ?_).mpr trivial
  refine iff_true_intro ((good_read_valid hport fun port _ => ?_).mpr trivial)
  rw [good_seq]
  exact iff_true_intro
    ⟨good_sendNamedEffectTriggerConfig h, good_sendSimpleEffectTriggerConfig h⟩

/-! ### PWM Outputs -/

theorem good_pwmEffectPass {n_pwmOutput n_pwm_effect : Yaml}
    (hboard : Returns (cpp.asUInt8 (n_pwmOutput.get "board")))
    (hport : Returns (cpp.asUInt32 (n_pwmOutput.get "port")))
    (h : ValidPwmEffect cpp n_pwm_effect) :
    Good Exact (pwmEffectPass H cpp n_pwmOutput n_pwm_effect) ↔
      EffectFits cpp (pwmEffectModes H) n_pwm_effect := by
  unfold pwmEffectPass resolvePwmEffectMode
  simp only [good_seq, good_sendItem hboard, returns_resolveMode, returns_repeatValue h.repeat.2]
  constructor
  · intro hgood
    obtain ⟨-, -, hmode, -, -, -, -, -, hrepeats, -, -⟩ := hgood
    exact ⟨hmode, hrepeats⟩
  · intro hfit
    obtain ⟨hmode, hrepeats⟩ := hfit
    exact ⟨hport, h.duration.2, hmode, h.frequency.2, h.maxIntensity.2, h.minIntensity.2,
      h.mode.2, h.priority.2, hrepeats, good_effectTriggersPass hboard hport h.triggers,
      good_abortCheck⟩

theorem good_pushCoil {n_pwmOutput : Yaml} {type : UInt8} (h : ValidPwmOutput cpp n_pwmOutput) :
    Good Exact (pushCoil cpp n_pwmOutput type) ↔ PortNumberFits cpp n_pwmOutput := by
  have hballSearch : Returns (readOptional cpp.asBool (n_pwmOutput.get "ballSearch") false) :=
    returns_readOptional.mpr h.ballSearch
  have hemit : ∀ entry, Good Exact (emit (.pushCoil entry) : Pass Unit) ↔ True :=
    fun _ => iff_true_intro ((good_emit _).mpr trivial)
  unfold pushCoil
  rw [good_read_valid h.board.2 fun board _ => good_read_bind fun port _ =>
    good_read_bind fun number _ => good_read_valid h.description.2 fun description _ =>
      good_read_valid hballSearch fun ballSearch _ => hemit _]
  rw [YamlCpp.returns_asUInt8, YamlCpp.returns_asUInt8]
  constructor
  · exact fun hfits => ⟨hfits.1, hfits.2.1⟩
  · exact fun hfits => ⟨hfits.port, hfits.number, trivial⟩

theorem good_pwmOutputPass {n_pwmOutput : Yaml} (h : ValidPwmOutput cpp n_pwmOutput) :
    Good Exact (pwmOutputPass H cpp s n_pwmOutput) ↔
      (OnActiveBoard cpp s n_pwmOutput → PwmOutputFits H cpp n_pwmOutput) := by
  have hboard := h.board.2
  have heffects : Good Exact ((n_pwmOutput.get "effects").items.forM
      (pwmEffectPass H cpp n_pwmOutput)) ↔
        ListOf (EffectFits cpp (pwmEffectModes H)) n_pwmOutput "effects" := by
    rw [good_forM]
    exact forall₂_congr fun effect hmem =>
      good_pwmEffectPass hboard h.port.2 (h.effects effect hmem)
  have hfast : Returns (if s.disableFastFlipForTests then .ok 0
      else cpp.asUInt32 (n_pwmOutput.get "fastFlipSwitch")) := by
    split
    · exact ⟨0, rfl⟩
    · exact h.fastFlipSwitch.2
  obtain ⟨c_type, hc_type⟩ := h.type.2
  unfold pwmOutputPass
  rw [good_unlessSkipped hboard, hc_type]
  apply imp_congr_right
  intro _
  simp only [good_seq, good_sendItem hboard, ofExcept_ok_bind]
  rw [heffects, good_pushCoil h]
  constructor
  · intro hgood
    obtain ⟨-, -, -, -, -, -, -, -, -, -, heffects', hfits, -⟩ := hgood
    exact ⟨hfits, heffects'⟩
  · intro hfits
    exact ⟨good_printDescription h.description, h.port.2, h.number.2, h.power.2, h.minPulseTime.2,
      h.maxPulseTime.2, h.holdPower.2, h.holdPowerActivationTime.2, hfast, ⟨_, rfl⟩,
      hfits.effects, hfits.toPortNumberFits, good_abortCheck⟩

/-! ### LED Stripes -/

/-- Every segment of a valid stripe is sent. -/
theorem good_ledSegmentPass {n_ledStripe n_segment : Yaml} {index : UInt8}
    (hboard : Returns (cpp.asUInt8 (n_ledStripe.get "board")))
    (hport : Returns (cpp.asUInt32 (n_ledStripe.get "port")))
    (h : ValidLedSegment cpp n_segment) :
    Good Exact (ledSegmentPass H cpp n_ledStripe index n_segment) := by
  unfold ledSegmentPass
  simp only [good_seq, good_sendItem hboard]
  exact ⟨hport, h.number.2, h.from.2, h.to.2, good_abortCheck, (good_pure _).mpr trivial⟩

/-- Valid colors are all parsed. -/
theorem returns_buildLedEffectColors {effect : Yaml} {context : String}
    (h : ∀ color ∈ (effect.get "colors").items, IsColor cpp color) :
    Returns (buildLedEffectColors cpp effect context) := by
  unfold buildLedEffectColors
  rw [returns_bind]
  refine ⟨?_, fun colors _ => ⟨_, rfl⟩⟩
  rw [returns_mapM]
  intro entry hentry
  rw [returns_parseHexColorValue]
  exact h entry.1 (List.mem_of_mem_take (List.fst_mem_of_mem_zipIdx hentry))

theorem returns_buildWs2812FxOptions {effect : Yaml} (h : ValidLedEffect cpp effect) :
    Returns (buildWs2812FxOptions cpp effect) := by
  have hreverse : MayHave cpp.asUInt32 effect "reverse" := fun _ => h.reverse.2
  unfold buildWs2812FxOptions
  simp only [returns_bind, returns_readOptional]
  exact ⟨hreverse, fun _ _ => ⟨h.gamma, fun _ _ => ⟨h.fadeRate, fun _ _ => ⟨h.size,
    fun _ _ => ⟨h.options, fun _ _ => ⟨_, rfl⟩⟩⟩⟩⟩⟩

theorem good_ledEffectPass {n_ledStripe n_led_effect : Yaml}
    (hboard : Returns (cpp.asUInt8 (n_ledStripe.get "board")))
    (hport : Returns (cpp.asUInt32 (n_ledStripe.get "port")))
    (h : ValidLedEffect cpp n_led_effect) :
    Good Exact (ledEffectPass H cpp n_ledStripe n_led_effect) ↔
      EffectFits cpp ledEffectModes n_led_effect := by
  obtain ⟨colors, hcolors⟩ : Returns (buildLedEffectColors cpp n_led_effect
      (configItemContext cpp n_led_effect "ledStripes.effects")) :=
    returns_buildLedEffectColors h.colors
  unfold ledEffectPass resolveLedEffectMode
  rw [hcolors]
  simp only [ofExcept_ok_bind, good_seq, good_sendItem hboard, returns_resolveMode,
    returns_repeatValue h.repeat.2]
  constructor
  · intro hgood
    obtain ⟨-, -, -, -, -, -, hmode, -, -, -, -, -, hrepeats, -, -⟩ := hgood
    exact ⟨hmode, hrepeats⟩
  · intro hfit
    obtain ⟨hmode, hrepeats⟩ := hfit
    exact ⟨hport, h.segment.2, ⟨_, rfl⟩, ⟨_, rfl⟩, ⟨_, rfl⟩, h.duration.2, hmode, h.reverse.2,
      h.speed.2, h.mode.2, h.priority.2, returns_buildWs2812FxOptions h, hrepeats,
      good_effectTriggersPass hboard hport h.triggers, good_abortCheck⟩

/-- A stored lamp keeps its port and number if and only if they are small. -/
theorem good_ledItemPass {item : Yaml} {type board : UInt8} {port : UInt32} {itemIndex : Nat}
    {portNode : Yaml} (hport : cpp.asUInt32 portNode = .ok port) (h : ValidLedItem cpp item) :
    Good Exact (ledItemPass H cpp type board port item itemIndex) ↔
      NumberUpTo cpp 255 portNode ∧ NumberUpTo cpp 255 (item.get "number") := by
  unfold ledItemPass
  dsimp only
  generalize ledConfigItemContext H cpp item type board port itemIndex = context
  have hdescription : Returns (readRequiredYamlField cpp.asString item "description" context) :=
    returns_readRequiredYamlField.mpr h.description
  have hnumber : Returns (readRequiredYamlField cpp.asUInt32 item "number" context) :=
    returns_readRequiredYamlField.mpr h.number
  have hledNumber : Returns (readRequiredYamlField cpp.asUInt32 item "ledNumber" context) :=
    returns_readRequiredYamlField.mpr h.ledNumber
  have hcolor : Returns (parseRequiredHexColorField cpp item "color" context) :=
    returns_parseRequiredHexColorField.mpr h.color
  rw [good_seq, and_iff_right good_abortCheck]
  apply good_read_valid hdescription
  intro description _
  apply good_read_valid hnumber
  intro number hok
  apply good_read_valid hledNumber
  intro ledNumber _
  apply good_read_valid hcolor
  intro color _
  have hok' := readRequiredYamlField_eq_ok hok
  simp only [good_seq, good_send, true_and]
  rw [good_emit]
  show port.toUInt8.toUInt32 = port ∧ number.toUInt8.toUInt32 = number ↔ _
  rw [exact_iff hport, exact_iff hok']

theorem forall_zipIdx {α : Type} {xs : List α} {q : α → Prop} :
    (∀ entry ∈ xs.zipIdx, q entry.1) ↔ ∀ y ∈ xs, q y := by
  have hmap := List.zipIdx_map_fst 0 xs
  constructor
  · intro h y hy
    rw [← hmap] at hy
    obtain ⟨entry, hentry, rfl⟩ := List.mem_map.mp hy
    exact h entry hentry
  · intro h entry hentry
    apply h
    have hmem := List.mem_map_of_mem (f := Prod.fst) hentry
    rwa [hmap] at hmem

theorem good_sendLedConfigBlock {n_ledStripe : Yaml} {field : String} {type : UInt8}
    (hboard : Returns (cpp.asUInt8 (n_ledStripe.get "board")))
    (hport : Returns (cpp.asUInt32 (n_ledStripe.get "port")))
    (h : ListOf (ValidLedItem cpp) n_ledStripe field) :
    Good Exact (sendLedConfigBlock H cpp n_ledStripe field type) ↔
      ListOf (LampFits cpp n_ledStripe) n_ledStripe field := by
  unfold sendLedConfigBlock
  apply good_read_valid hboard
  intro board _
  apply good_read_valid hport
  intro port hok
  rw [good_forM]
  refine Iff.trans (forall₂_congr fun entry hentry => ?_) forall_zipIdx
  exact good_ledItemPass hok (h entry.1 (List.fst_mem_of_mem_zipIdx hentry))

theorem good_ledStripePass {n_ledStripe : Yaml} (h : ValidLedStripe cpp n_ledStripe) :
    Good Exact (ledStripePass H cpp s n_ledStripe) ↔
      (OnActiveBoard cpp s n_ledStripe → LedStripeFits cpp n_ledStripe) := by
  have hboard := h.board.2
  have hport := h.port.2
  have hsegments : Good Exact
      ((n_ledStripe.get "segments").items.foldlM (ledSegmentPass H cpp n_ledStripe) 6) :=
    good_foldlM (fun _ segment hmem => good_ledSegmentPass hboard hport (h.segments segment hmem)) 6
  have heffects : Good Exact ((n_ledStripe.get "effects").items.forM
      (ledEffectPass H cpp n_ledStripe)) ↔
        ListOf (EffectFits cpp ledEffectModes) n_ledStripe "effects" := by
    rw [good_forM]
    exact forall₂_congr fun effect hmem => good_ledEffectPass hboard hport (h.effects effect hmem)
  unfold ledStripePass
  rw [good_unlessSkipped hboard]
  apply imp_congr_right
  intro _
  simp only [good_seq, good_sendItem hboard, returns_map]
  rw [heffects, good_sendLedConfigBlock hboard hport h.lamps,
    good_sendLedConfigBlock hboard hport h.flashers, good_sendLedConfigBlock hboard hport h.gi]
  constructor
  · intro hgood
    obtain ⟨-, -, -, -, -, -, -, heffects', hlamps, hflashers, hgi, -⟩ := hgood
    exact ⟨heffects', hlamps, hflashers, hgi⟩
  · intro hfits
    exact ⟨hport, h.ledType.2, h.brightness.2, h.amount.2, h.afterGlow.2, h.lightUp.2, hsegments,
      hfits.effects, hfits.lamps, hfits.flashers, hfits.gi, good_abortCheck⟩

/-! ### The Whole Pass -/

/-- Every board of a valid document is configured. -/
theorem good_boardsPass {config : Yaml} (h : ValidConfiguration cpp config) :
    Good Exact (boardsPass H cpp s config) := by
  refine good_foldlM (fun boards n_board hmem => ?_) _
  obtain ⟨hnumber, hpollEvents⟩ := h.boards n_board hmem
  unfold boardPass
  rw [good_bind, good_read]
  refine ⟨hnumber.2, fun board _ => ?_⟩
  dsimp only
  split
  · exact (good_pure _).mpr trivial
  · rw [good_seq, good_bind, good_read]
    refine ⟨good_send, h.coinDoorClosedSwitch.2, fun coinDoor _ => ?_⟩
    rw [good_seq, good_bind, good_read]
    refine ⟨good_send, h.gameOnSolenoid.2, fun gameOn _ => ?_⟩
    rw [good_seq, good_bind, good_read]
    refine ⟨good_send, hpollEvents.2, fun pollEvents _ => ?_⟩
    rw [good_seq, good_seq, good_onlyIf]
    exact ⟨fun _ => (good_emit _).mpr trivial, good_abortCheck, (good_pure _).mpr trivial⟩

theorem returns_collectSwitch {items : List SwitchItem} {n_switch : Yaml}
    (h : ValidAnySwitch cpp n_switch) :
    Returns (collectSwitch cpp items n_switch) ↔
      NumberUpTo cpp 65535 (n_switch.get "number") := by
  unfold collectSwitch
  rw [returns_bind, YamlCpp.returns_asUInt16]
  apply and_iff_left
  intro number _
  rw [returns_bind]
  refine ⟨returns_readOptional.mpr h.button, fun button _ => ?_⟩
  rw [returns_bind]
  exact ⟨h.board.2, fun board _ => ⟨_, rfl⟩⟩

/-- The switch numbers of both sections fit 16 bits. -/
theorem returns_collectSwitches {config : Yaml}
    (hmatrix : ListOf (ValidAnySwitch cpp) (config.get "switchMatrix") "switches")
    (hswitches : ListOf (ValidAnySwitch cpp) config "switches") :
    Returns (collectSwitches cpp config) ↔
      ListOf (fun item => NumberUpTo cpp 65535 (item.get "number")) (config.get "switchMatrix")
        "switches" ∧
      ListOf (fun item => NumberUpTo cpp 65535 (item.get "number")) config "switches" := by
  have hloop : ∀ (parent : Yaml) (items : List SwitchItem),
      ListOf (ValidAnySwitch cpp) parent "switches" →
        (Returns ((parent.get "switches").items.foldlM (collectSwitch cpp) items) ↔
          ListOf (fun item => NumberUpTo cpp 65535 (item.get "number")) parent "switches") := by
    intro parent items h
    have hround : ∀ n_switch ∈ (parent.get "switches").items, ∀ items,
        Returns (collectSwitch cpp items n_switch) ↔
          NumberUpTo cpp 65535 (n_switch.get "number") :=
      fun n_switch hmem _ => returns_collectSwitch (h n_switch hmem)
    exact returns_foldlM hround items
  unfold collectSwitches
  rw [returns_bind]
  constructor
  · intro hgood
    obtain ⟨⟨items, hitems⟩, hrest⟩ := hgood
    exact ⟨(hloop _ [] hmatrix).mp ⟨items, hitems⟩,
      (hloop _ items hswitches).mp (hrest items hitems)⟩
  · intro hfit
    obtain ⟨hfirst, hsecond⟩ := hfit
    exact ⟨(hloop _ [] hmatrix).mpr hfirst, fun items _ => (hloop _ items hswitches).mpr hsecond⟩

/-- The outputs that fit what is stored later also fit the collection. -/
theorem returns_collectOutputs {config : Yaml} (h : ValidConfiguration cpp config)
    (hpwm : ListOf (fun item => OnActiveBoard cpp s item → PwmOutputFits H cpp item) config
      "pwmOutput")
    (hstripes : ListOf (fun item => OnActiveBoard cpp s item → LedStripeFits cpp item) config
      "ledStripes") : Returns (collectOutputs cpp s config) := by
  have houtput : ∀ item ∈ (config.get "pwmOutput").items, ∀ numbers,
      Returns (collectOutput cpp s numbers item) := by
    intro item hmem numbers
    have hvalid := h.pwmOutput item hmem
    unfold collectOutput
    rw [returns_bind]
    refine ⟨hvalid.board.2, fun board hboard => ?_⟩
    split
    · exact ⟨_, rfl⟩
    · next hactive =>
      have hfits := hpwm item hmem ⟨board, hboard, hactive⟩
      rw [returns_bind]
      refine ⟨hvalid.type.2, fun c_type _ => ?_⟩
      rw [returns_bind]
      refine ⟨returns_asUInt16_of_upTo hfits.number, fun number _ => ?_⟩
      split
      · exact ⟨_, rfl⟩
      · exact ⟨_, rfl⟩
  have hstripe : ∀ item ∈ (config.get "ledStripes").items, ∀ numbers,
      Returns (collectStripe cpp s numbers item) := by
    intro item hmem numbers
    have hvalid := h.ledStripes item hmem
    unfold collectStripe
    rw [returns_bind]
    refine ⟨hvalid.board.2, fun board hboard => ?_⟩
    split
    · exact ⟨_, rfl⟩
    · next hactive =>
      have hfits := hstripes item hmem ⟨board, hboard, hactive⟩
      rw [returns_bind, returns_mapM]
      refine ⟨fun lamp hlamp => returns_asUInt16_of_upTo (hfits.lamps lamp hlamp).2, ?_⟩
      intro lamps _
      rw [returns_bind, returns_mapM]
      exact ⟨fun flasher hflasher => returns_asUInt16_of_upTo (hfits.flashers flasher hflasher).2,
        fun _ _ => ⟨_, rfl⟩⟩
  unfold collectOutputs
  rw [returns_bind]
  refine ⟨(returns_foldlM (fun item hmem numbers => iff_true_intro (houtput item hmem numbers))
    _).mpr fun _ _ => trivial, fun numbers _ => ?_⟩
  exact (returns_foldlM (fun item hmem numbers => iff_true_intro (hstripe item hmem numbers))
    _).mpr fun _ _ => trivial

theorem good_mappingPass {config : Yaml} {boards : Boards} :
    Good Exact (mappingPass cpp s config boards) ↔
      Returns (collectSwitches cpp config) ∧ Returns (collectOutputs cpp s config) := by
  have hemit : ∀ coilNumbers lampNumbers items configuredBoards skippedBoards,
      Good Exact (emit (.installMappings coilNumbers lampNumbers items configuredBoards
        skippedBoards) : Pass Unit) ↔ True :=
    fun _ _ _ _ _ => iff_true_intro ((good_emit _).mpr trivial)
  unfold mappingPass
  rw [good_read_bind fun items _ => good_read_bind fun numbers _ => hemit _ _ _ _ _, and_true]

/-- The sections after the mappings. -/
theorem good_sectionsPass {config : Yaml} (h : ValidConfiguration cpp config) :
    Good Exact (sectionsPass H cpp s config) ↔
      ((config.get "switchMatrix").isDefined = true →
        OnActiveBoard cpp s (config.get "switchMatrix") →
          ListOf (PortNumberFits cpp) (config.get "switchMatrix") "switches") ∧
      ListOf (fun item => PortNumberFits cpp item ∧
        (OnActiveBoard cpp s item → DebounceFits H cpp item)) config "switches" ∧
      ListOf (fun item => OnActiveBoard cpp s item → PwmOutputFits H cpp item) config
        "pwmOutput" ∧
      ListOf (fun item => OnActiveBoard cpp s item → LedStripeFits cpp item) config
        "ledStripes" := by
  unfold sectionsPass
  simp only [good_seq, good_onlyIf, good_forM, good_abortCheck, good_failureCheck, true_and,
    and_true]
  apply and_congr (forall_congr' fun hdefined => good_switchMatrixPass (h.switchMatrix hdefined))
  apply and_congr (forall₂_congr fun item hmem => good_switchPass (h.switches item hmem))
  exact and_congr (forall₂_congr fun item hmem => good_pwmOutputPass (h.pwmOutput item hmem))
    (forall₂_congr fun item hmem => good_ledStripePass (h.ledStripes item hmem))

theorem good_tokenRingPass {P : Protocol} {switchBoards : List UInt8} :
    Good Exact (tokenRingPass P s switchBoards) := by
  unfold tokenRingPass
  rw [good_seq, good_seq, good_forM]
  exact ⟨(good_emit _).mpr trivial, (good_emit _).mpr trivial,
    fun entry _ => (good_emit _).mpr trivial⟩

/-- **What startup needs of a valid document**, section by section. -/
theorem good_startupPass {P : Protocol} {config : Yaml} (h : ValidConfiguration cpp config) :
    Good Exact (startupPass P H cpp s config) ↔ StartupFits H cpp s config := by
  obtain ⟨⟨boards, hok⟩, hsteps⟩ : Good Exact (boardsPass H cpp s config) := good_boardsPass h
  have hsplit : Good Exact (startupPass P H cpp s config) ↔
      Good Exact (mappingPass cpp s config boards) ∧ Good Exact (sectionsPass H cpp s config) := by
    unfold startupPass
    rw [good_bind]
    constructor
    · intro hgood
      obtain ⟨-, hrest⟩ := hgood
      have hrest' := hrest boards hok
      rw [good_seq, good_seq, good_seq] at hrest'
      exact ⟨hrest'.2.1, hrest'.2.2.1⟩
    · intro hfit
      obtain ⟨hmapping, hsections⟩ := hfit
      refine ⟨⟨⟨boards, hok⟩, hsteps⟩, fun boards' hok' => ?_⟩
      obtain rfl : boards = boards' := Except.ok.inj (hok.symm.trans hok')
      simp only [good_seq]
      exact ⟨good_abortCheck, hmapping, hsections, good_tokenRingPass, good_abortCheck,
        good_failureCheck⟩
  have hmatrix : ListOf (ValidAnySwitch cpp) (config.get "switchMatrix") "switches" := by
    cases hnode : (config.get "switchMatrix").isDefined with
    | true => exact (h.switchMatrix hnode).switches
    | false =>
      rw [Yaml.eq_undefined hnode]
      intro item hmem
      exact nomatch hmem
  have hswitches : ListOf (ValidAnySwitch cpp) config "switches" :=
    fun item hmem => (h.switches item hmem).toValidAnySwitch
  rw [hsplit, good_mappingPass, good_sectionsPass h, returns_collectSwitches hmatrix hswitches]
  constructor
  · intro hgiven
    obtain ⟨⟨⟨hnumbers, -⟩, -⟩, hmatrix', hswitches', hpwm, hstripes⟩ := hgiven
    refine ⟨hnumbers, fun hactive => hmatrix' ?_ hactive, fun item hmem => (hswitches' item hmem).1,
      fun item hmem => (hswitches' item hmem).2, hpwm, hstripes⟩
    -- an undefined matrix has no board
    by_contra hnode
    have hundefined := Yaml.eq_undefined (Bool.eq_false_iff.mpr hnode)
    rw [hundefined] at hactive
    obtain ⟨board, hboard, -⟩ := hactive
    exact nomatch hboard
  · intro hfits
    refine ⟨⟨⟨hfits.matrixNumbers, fun item hmem => ?_⟩,
      returns_collectOutputs h hfits.pwmOutput hfits.ledStripes⟩,
      fun _ => hfits.matrixSwitches,
      fun item hmem => ⟨hfits.switches item hmem, hfits.debounce item hmem⟩,
      hfits.pwmOutput, hfits.ledStripes⟩
    obtain ⟨n, hn, hlow, hhigh⟩ := (hfits.switches item hmem).number
    exact ⟨n, hn, hlow, by omega⟩

end pieces

end Pass

/-! ### Soundness -/

/-- **Soundness of validation for startup**: for an accepted document, no value
    makes the startup pass throw and no number is cut when it is stored, if
    and only if the document fits. -/
theorem startup_sound_iff {P : Protocol} {H : EventHeader} {cpp : YamlCpp} {s : StartupSettings}
    {config : Yaml} (haccepted : Accepted H cpp config) :
    ((∃ u, (Pass.startupPass P H cpp s config).result = .ok u) ∧
      ∀ x ∈ (Pass.startupPass P H cpp s config).emitted, x.Exact) ↔
    StartupFits H cpp s config :=
  Pass.good_startupPass (validConfiguration haccepted.valid)

namespace Reference

/-- A document with one switch on board 1. -/
def switchDocument (number : String) : Yaml :=
  document
    [("switches", list
      [record [("description", scalar "left ramp"), ("board", scalar "1"), ("port", scalar "2"),
        ("number", scalar number), ("debounce", scalar "5")]])]

/-- Board 1 accepts all events of such a document. -/
def switchAcks : Script where
  rounds := 9
  replies := boardAcks ++
    [ackOf header.CONFIG_TOPIC_SWITCHES 0 header.CONFIG_TOPIC_PORT,
      ackOf header.CONFIG_TOPIC_SWITCHES 1 header.CONFIG_TOPIC_NUMBER,
      ackOf header.CONFIG_TOPIC_SWITCHES 2 header.CONFIG_TOPIC_DEBOUNCE_TIME,
      ackOf header.CONFIG_TOPIC_SWITCHES 3 header.CONFIG_TOPIC_MODE]

/-- Switch number 300 is accepted, and the startup attempt throws after all
    seven events were sent and acknowledged. -/
theorem switch_300_accepted_then_thrown :
    Accepted header yamlCpp (switchDocument "300") ∧
      (∃ e, startupAttempt header yamlCpp settings (switchDocument "300") port comm switchAcks =
        .threw e) ∧
      (Transition.exec (Startup.step header port) (Startup.start comm switchAcks)
        (Pass.startupPass protocol header yamlCpp settings (switchDocument "300")).emitted).map
          (fun a => a.calls.map ConfigCall.outcome) =
        some (List.replicate 7 SendOutcome.acknowledged) := by
  refine ⟨⟨"", emptyPpuc, ⟨⟨⟩, rfl⟩⟩, ?_, by decide +kernel⟩
  have hfailure : (startupAttempt header yamlCpp settings (switchDocument "300") port comm
      switchAcks).failure = some (yamlCpp.conversionFailure (scalar "300")) := by
    decide +kernel
  exact ⟨_, AttemptEnd.threw_of_failure hfailure⟩

/-- With number 30 everything fits. -/
theorem switch_30_sound :
    (∃ u, (Pass.startupPass protocol header yamlCpp settings
        (switchDocument "30")).result = .ok u) ∧
      ∀ x ∈ (Pass.startupPass protocol header yamlCpp settings (switchDocument "30")).emitted,
        x.Exact := by
  have hswitches : ListOf (PortNumberFits yamlCpp) (switchDocument "30") "switches" := by
    intro item hitem
    obtain rfl := List.mem_singleton.mp hitem
    exact ⟨⟨2, rfl, by decide, by decide⟩, ⟨30, rfl, by decide, by decide⟩⟩
  have hdebounce : ListOf (fun item => OnActiveBoard yamlCpp settings item →
      DebounceFits header yamlCpp item) (switchDocument "30") "switches" := by
    intro item hitem _ hdefined
    obtain rfl := List.mem_singleton.mp hitem
    exact nomatch hdefined
  exact (startup_sound_iff ⟨"", emptyPpuc, ⟨⟨⟩, rfl⟩⟩).mpr
    { matrixNumbers := fun item hitem => nomatch hitem
      matrixSwitches := fun _ item hitem => nomatch hitem
      switches := hswitches
      debounce := hdebounce
      pwmOutput := fun item hitem => nomatch hitem
      ledStripes := fun item hitem => nomatch hitem }

end Reference

end LibPpuc
