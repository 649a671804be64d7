import LibPpuc.Framework.Selection
import LibPpuc.Startup.Lists

/-! # The Lists Match the Records

  `GetSwitches`, `GetCoils` and `GetLamps` name the same switches, coils and
  lamps as the records that the boards were sent: on the same board, at the
  same port, with the same number.  Only a lamp is cut to bytes on the way to
  the application.
-/

namespace LibPpuc

/-! ### Kinds of Records -/

namespace EventHeader

/-- The kinds by their place in the list. -/
def template (H : EventHeader) (i : Fin 14) : UInt8 × List UInt8 := H.templates.get i

theorem template_injective {H : EventHeader} (h : H.RecordsDistinct) :
    Function.Injective H.template := by
  have hnodup : H.templates.Nodup := List.Nodup.of_map _ h
  exact List.nodup_iff_injective_get.mp hnodup

end EventHeader

namespace ConfigRecord

variable (H : EventHeader)

def kind (r : ConfigRecord) : UInt8 × List UInt8 := (r.topic, r.fields.map Prod.fst)

def IsSwitch (r : ConfigRecord) : Prop :=
  r.kind = (H.CONFIG_TOPIC_SWITCH_MATRIX, H.matrixSwitchKeys) ∨
    r.kind = (H.CONFIG_TOPIC_SWITCHES, H.switchKeys)

def IsCoil (r : ConfigRecord) : Prop := r.kind = (H.CONFIG_TOPIC_PWM, H.pwmKeys)

def IsLamp (r : ConfigRecord) : Prop := r.kind = (H.CONFIG_TOPIC_LAMPS, H.lampKeys)

instance : DecidablePred (IsSwitch H) :=
  fun r => inferInstanceAs (Decidable (r.kind = _ ∨ r.kind = _))

instance : DecidablePred (IsCoil H) := fun r => inferInstanceAs (Decidable (r.kind = _))

instance : DecidablePred (IsLamp H) := fun r => inferInstanceAs (Decidable (r.kind = _))

/-- The record is about the switch of the entry. -/
structure TellsSwitch (r : ConfigRecord) (entry : PPUCSwitch) : Prop where
  board : r.board = entry.board
  port : (H.CONFIG_TOPIC_PORT, entry.port.toUInt32) ∈ r.fields
  number : (H.CONFIG_TOPIC_NUMBER, entry.number.toUInt32) ∈ r.fields

structure TellsCoil (r : ConfigRecord) (entry : PPUCCoil) : Prop where
  board : r.board = entry.board
  port : (H.CONFIG_TOPIC_PORT, entry.port.toUInt32) ∈ r.fields
  number : (H.CONFIG_TOPIC_NUMBER, entry.number.toUInt32) ∈ r.fields
  type : (H.CONFIG_TOPIC_TYPE, entry.type.toUInt32) ∈ r.fields

/-- The entry of a lamp has the low bytes of its port and of its number. -/
structure TellsLamp (r : ConfigRecord) (entry : PPUCLamp) : Prop where
  board : r.board = entry.board
  port : ∃ port, (H.CONFIG_TOPIC_PORT, port) ∈ r.fields ∧ entry.port = port.toUInt8
  number : ∃ number, (H.CONFIG_TOPIC_NUMBER, number) ∈ r.fields ∧ entry.number = number.toUInt8
  type : (H.CONFIG_TOPIC_TYPE, entry.type.toUInt32) ∈ r.fields
  color : (H.CONFIG_TOPIC_COLOR, entry.color) ∈ r.fields

end ConfigRecord

section kinds

open ConfigRecord

variable {H : EventHeader} {cpp : YamlCpp} {s : StartupSettings}

/-- All records are of these kinds. -/
def OfKinds (H : EventHeader) (kinds : List (Fin 14)) (records : List ConfigRecord) : Prop :=
  ∀ r ∈ records, ∃ i ∈ kinds, r.kind = H.template i

theorem kind_newRecord {board topic : UInt8} {keys : List UInt8} {values : List UInt32}
    {i : Fin 14} (htemplate : H.template i = (topic, keys))
    (hlength : keys.length ≤ values.length) :
    (newRecord board topic keys values).kind = H.template i := by
  show (topic, (keys.zip values).map Prod.fst) = _
  rw [List.map_fst_zip hlength, htemplate]

namespace OfKinds

variable {kinds : List (Fin 14)} {records records' : List ConfigRecord}

theorem nil : OfKinds H kinds [] := by simp [OfKinds]

theorem cons {r : ConfigRecord} {i : Fin 14} (hr : r.kind = H.template i) (hi : i ∈ kinds)
    (h : OfKinds H kinds records) : OfKinds H kinds (r :: records) :=
  List.forall_mem_cons.mpr ⟨⟨i, hi, hr⟩, h⟩

theorem append (h : OfKinds H kinds records) (h' : OfKinds H kinds records') :
    OfKinds H kinds (records ++ records') := List.forall_mem_append.mpr ⟨h, h'⟩

theorem mono {kinds' : List (Fin 14)} (h : OfKinds H kinds records)
    (hsub : ∀ i ∈ kinds, i ∈ kinds') : OfKinds H kinds' records := by
  intro r hr
  obtain ⟨i, hi, hkind⟩ := h r hr
  exact ⟨i, hsub i hi, hkind⟩

theorem toldTo {item : Yaml} (h : OfKinds H kinds records) :
    OfKinds H kinds (toldTo cpp s item records) := by
  unfold LibPpuc.toldTo
  split
  · exact h
  · exact nil

theorem flatMap {items : List Yaml} {part : Yaml → List ConfigRecord}
    (h : ∀ item, OfKinds H kinds (part item)) : OfKinds H kinds (items.flatMap part) := by
  intro r hr
  obtain ⟨item, -, hr⟩ := List.mem_flatMap.mp hr
  exact h item r hr

/-- Records of other kinds. -/
theorem excludes (h : OfKinds H kinds records) (hdistinct : H.RecordsDistinct)
    {p : ConfigRecord → Prop} {others : List (Fin 14)}
    (hp : ∀ r, p r → ∃ j ∈ others, r.kind = H.template j) (hdisjoint : ∀ i ∈ kinds, i ∉ others) :
    ∀ r ∈ records, ¬ p r := by
  intro r hr hpr
  obtain ⟨i, hi, hkind⟩ := h r hr
  obtain ⟨j, hj, hother⟩ := hp r hpr
  obtain rfl : i = j := H.template_injective hdistinct (hkind.symm.trans hother)
  exact hdisjoint i hi hj

end OfKinds

theorem kinds_boardRecords (config n_board : Yaml) :
    OfKinds H [0, 1, 2] (boardRecords H cpp s config n_board) := by
  simp only [boardRecords]
  split
  · exact OfKinds.nil
  · apply OfKinds.cons (i := 0) (kind_newRecord rfl (Nat.le_refl _)) (by simp)
    apply OfKinds.cons (i := 1) (kind_newRecord rfl (Nat.le_refl _)) (by simp)
    exact OfKinds.cons (i := 2) (kind_newRecord rfl (Nat.le_refl _)) (by simp) OfKinds.nil

theorem kinds_effectTriggerRecords (item effect : Yaml) (type : UInt8) {kinds : List (Fin 14)}
    (hkinds : 8 ∈ kinds) : OfKinds H kinds (effectTriggerRecords H cpp item type effect) := by
  have htrigger : ∀ board port type source number value,
      OfKinds H kinds [triggerRecord H board port type source number value] := fun _ _ _ _ _ _ =>
    OfKinds.cons (i := 8) (kind_newRecord rfl (Nat.le_refl _)) hkinds OfKinds.nil
  apply OfKinds.append
  · simp only [namedTriggerRecords]
    split
    · exact htrigger _ _ _ _ _ _
    · exact OfKinds.nil
  · simp only [simpleTriggerRecords]
    split
    · exact htrigger _ _ _ _ _ _
    · exact OfKinds.nil

theorem kinds_switchMatrixRecords (switchMatrix : Yaml) :
    OfKinds H [3, 4] (switchMatrixRecords H cpp s switchMatrix) := by
  apply OfKinds.toldTo
  apply OfKinds.cons (i := 3) (kind_newRecord rfl (Nat.le_refl _)) (by simp)
  apply OfKinds.flatMap
  intro n_switch
  apply OfKinds.toldTo
  exact OfKinds.cons (i := 4) (kind_newRecord rfl (Nat.le_refl _)) (by simp) OfKinds.nil

theorem kinds_switchRecords (n_switch : Yaml) :
    OfKinds H [5] (switchRecords H cpp s n_switch) := by
  apply OfKinds.toldTo
  exact OfKinds.cons (i := 5) (kind_newRecord rfl (Nat.le_refl _)) (by simp) OfKinds.nil

theorem kinds_pwmEffects (n_pwmOutput : Yaml) (effects : List Yaml) :
    OfKinds H [7, 8] (effects.flatMap (pwmEffectRecords H cpp n_pwmOutput)) := by
  apply OfKinds.flatMap
  intro effect
  apply OfKinds.cons (i := 7) (kind_newRecord rfl (Nat.le_refl _)) (by simp)
  exact kinds_effectTriggerRecords _ _ _ (by simp)

theorem kinds_pwmOutputRecords (n_pwmOutput : Yaml) :
    OfKinds H [6, 7, 8] (pwmOutputRecords H cpp s n_pwmOutput) := by
  apply OfKinds.toldTo
  apply OfKinds.cons (i := 6) (kind_newRecord rfl (Nat.le_refl _)) (by simp)
  exact (kinds_pwmEffects n_pwmOutput _).mono (by simp)

theorem kinds_ledSegmentRecords (n_ledStripe : Yaml) (segments : List Yaml) (index : UInt8) :
    OfKinds H [8, 9, 10, 11] (ledSegmentRecords H cpp n_ledStripe index segments) := by
  induction segments generalizing index with
  | nil => exact OfKinds.nil
  | cons segment segments ih => exact OfKinds.cons (i := 10) rfl (by simp) (ih (index + 4))

theorem kinds_ledEffects (n_ledStripe : Yaml) (effects : List Yaml) :
    OfKinds H [8, 9, 10, 11] (effects.flatMap (ledEffectRecords H cpp n_ledStripe)) := by
  apply OfKinds.flatMap
  intro effect
  simp only [ledEffectRecords]
  apply OfKinds.cons (i := 11) (kind_newRecord rfl (Nat.le_refl _)) (by simp)
  exact kinds_effectTriggerRecords _ _ _ (by simp)

theorem kinds_ledBlockRecords (n_ledStripe : Yaml) (field : String) (type : UInt8) :
    OfKinds H [12] (ledBlockRecords H cpp n_ledStripe field type) := by
  rw [ledBlockRecords, List.map_eq_flatMap]
  apply OfKinds.flatMap
  intro item
  exact OfKinds.cons (i := 12) (kind_newRecord rfl (Nat.le_refl _)) (by simp) OfKinds.nil

theorem kinds_ledStripeRecords (n_ledStripe : Yaml) :
    OfKinds H [8, 9, 10, 11, 12] (ledStripeRecords H cpp s n_ledStripe) := by
  have hblock : ∀ field type,
      OfKinds H [8, 9, 10, 11, 12] (ledBlockRecords H cpp n_ledStripe field type) :=
    fun field type => (kinds_ledBlockRecords n_ledStripe field type).mono (by simp)
  apply OfKinds.toldTo
  apply OfKinds.cons (i := 9) (kind_newRecord rfl (Nat.le_refl _)) (by simp)
  apply OfKinds.append _ (hblock "gi" _)
  apply OfKinds.append _ (hblock "flashers" _)
  apply OfKinds.append _ (hblock "lamps" _)
  exact ((kinds_ledSegmentRecords _ _ _).append (kinds_ledEffects _ _)).mono (by simp)

theorem kinds_ringRecords (done : UInt8) (present : Finset UInt8) (boards : List UInt8) :
    OfKinds H [13] (ringRecords H s done present boards) := by
  induction boards with
  | nil => exact OfKinds.nil
  | cons board boards ih =>
    refine OfKinds.append ?_ ih
    split
    · exact OfKinds.cons (i := 13) (kind_newRecord rfl (Nat.le_refl _)) (by simp) OfKinds.nil
    · exact OfKinds.nil

end kinds

/-! ### A Byte and a Word of One Field -/

/-- A field that reads as a byte reads as the same word. -/
theorem toUInt32_byte {cpp : YamlCpp} {item : Yaml} {field : String}
    (h : Returns (cpp.asUInt8 (item.get field))) :
    (byte cpp item field).toUInt32 = word cpp item field := by
  obtain ⟨n, hint, hlow, hhigh⟩ := YamlCpp.returns_asUInt8.mp h
  obtain ⟨small, hsmall⟩ := h
  obtain ⟨large, hlarge⟩ : Returns (cpp.asUInt32 (item.get field)) :=
    YamlCpp.returns_asUInt32.mpr ⟨n, hint, hlow, by omega⟩
  have hword := Option.some.inj ((YamlCpp.toNat_of_asUInt32 hlarge).symm.trans hint)
  have hbyte : small.toNat = n.toNat := by
    cases hread : cpp.asInteger 0 255 (item.get field) with
    | error e => simp [YamlCpp.asUInt8, hread, Except.map] at hsmall
    | ok m =>
      have hm := Option.some.inj ((YamlCpp.asInteger_eq_ok hread).1.symm.trans hint)
      simp only [YamlCpp.asUInt8, hread, Except.map, Except.ok.injEq] at hsmall
      rw [← hsmall, hm, UInt8.toNat_ofNat_of_lt']
      show n.toNat < 256
      omega
  rw [byte, word, Pass.valueOf_ok hsmall, Pass.valueOf_ok hlarge]
  apply UInt32.toNat_inj.mp
  rw [UInt8.toNat_toUInt32]
  omega

/-- The fields that the application gets as bytes. -/
def HasByteNumbers (cpp : YamlCpp) (item : Yaml) : Prop :=
  Returns (cpp.asUInt8 (item.get "port")) ∧ Returns (cpp.asUInt8 (item.get "number"))

/-! ### The Entries Account for the Records -/

section accounts

open ConfigRecord Selection

variable {H : EventHeader} {cpp : YamlCpp} {s : StartupSettings}

theorem kinds_isSwitch (r : ConfigRecord) (h : IsSwitch H r) :
    ∃ j ∈ ([4, 5] : List (Fin 14)), r.kind = H.template j := by
  rcases h with hmatrix | hdedicated
  · exact ⟨4, by simp, hmatrix⟩
  · exact ⟨5, by simp, hdedicated⟩

theorem kinds_isCoil (r : ConfigRecord) (h : IsCoil H r) :
    ∃ j ∈ ([6] : List (Fin 14)), r.kind = H.template j := ⟨6, by simp, h⟩

theorem kinds_isLamp (r : ConfigRecord) (h : IsLamp H r) :
    ∃ j ∈ ([12] : List (Fin 14)), r.kind = H.template j := ⟨12, by simp, h⟩

/-- The switches that a board is told about. -/
def onBoards (s : StartupSettings) (entries : List PPUCSwitch) : List PPUCSwitch :=
  entries.filter fun entry => entry.board ∉ s.skippedBoards

theorem onBoards_listed (n_switch : Yaml) :
    onBoards s [listedSwitch cpp n_switch] =
      if itemBoard cpp n_switch ∉ s.skippedBoards then [listedSwitch cpp n_switch] else [] := by
  by_cases hskip : itemBoard cpp n_switch ∈ s.skippedBoards
  · simp [onBoards, listedSwitch, hskip]
  · simp [onBoards, listedSwitch, hskip]

theorem onBoards_map (items : List Yaml) :
    onBoards s (items.map (listedSwitch cpp)) =
      items.flatMap fun n_switch => onBoards s [listedSwitch cpp n_switch] := by
  rw [List.map_eq_flatMap, onBoards, List.filter_flatMap]
  rfl

/-- The record of one switch, in the matrix or not. -/
theorem accounts_switch {n_switch : Yaml} {r : ConfigRecord} (hr : IsSwitch H r)
    (htells : TellsSwitch H r (listedSwitch cpp n_switch)) :
    Accounts (IsSwitch H) (TellsSwitch H) (toldTo cpp s n_switch [r])
      (onBoards s [listedSwitch cpp n_switch]) := by
  rw [onBoards_listed, toldTo]
  split
  · exact Accounts.cons hr htells (Accounts.nothing (by simp))
  · exact Accounts.nothing (by simp)

theorem accounts_matrixSwitchRecords {n_switch : Yaml} (h : HasByteNumbers cpp n_switch) :
    Accounts (IsSwitch H) (TellsSwitch H) (matrixSwitchRecords H cpp s n_switch)
      (onBoards s [listedSwitch cpp n_switch]) := by
  apply accounts_switch (Or.inl rfl)
  refine ⟨rfl, ?_, ?_⟩
  · show (_, (byte cpp n_switch "port").toUInt32) ∈ _
    rw [toUInt32_byte h.1]
    simp [newRecord, EventHeader.matrixSwitchKeys]
  · show (_, (byte cpp n_switch "number").toUInt32) ∈ _
    rw [toUInt32_byte h.2]
    simp [newRecord, EventHeader.matrixSwitchKeys]

theorem accounts_switchRecords {n_switch : Yaml} (h : HasByteNumbers cpp n_switch) :
    Accounts (IsSwitch H) (TellsSwitch H) (switchRecords H cpp s n_switch)
      (onBoards s [listedSwitch cpp n_switch]) := by
  apply accounts_switch (Or.inr rfl)
  refine ⟨rfl, ?_, ?_⟩
  · show (_, (byte cpp n_switch "port").toUInt32) ∈ _
    rw [toUInt32_byte h.1]
    simp [newRecord, EventHeader.switchKeys]
  · show (_, (byte cpp n_switch "number").toUInt32) ∈ _
    rw [toUInt32_byte h.2]
    simp [newRecord, EventHeader.switchKeys]

theorem accounts_pwmOutputRecords (hdistinct : H.RecordsDistinct) {n_pwmOutput : Yaml}
    (h : itemBoard cpp n_pwmOutput ∉ s.skippedBoards → HasByteNumbers cpp n_pwmOutput) :
    Accounts (IsCoil H) (TellsCoil H) (pwmOutputRecords H cpp s n_pwmOutput)
      (if itemBoard cpp n_pwmOutput ∉ s.skippedBoards then [listedCoil H cpp n_pwmOutput]
        else []) := by
  rw [pwmOutputRecords, toldTo]
  split
  · next htold =>
    obtain ⟨hport, hnumber⟩ := h htold
    apply Accounts.cons
    · show IsCoil H _
      rfl
    · refine ⟨rfl, ?_, ?_, ?_⟩
      · show (_, (byte cpp n_pwmOutput "port").toUInt32) ∈ _
        rw [toUInt32_byte hport]
        simp [newRecord, EventHeader.pwmKeys]
      · show (_, (byte cpp n_pwmOutput "number").toUInt32) ∈ _
        rw [toUInt32_byte hnumber]
        simp [newRecord, EventHeader.pwmKeys]
      · simp [newRecord, EventHeader.pwmKeys, listedCoil]
    · exact Accounts.nothing ((kinds_pwmEffects n_pwmOutput _).excludes hdistinct kinds_isCoil
        (by simp))
  · exact Accounts.nothing (by simp)

theorem accounts_ledBlockRecords (n_ledStripe : Yaml) (field : String) (type : UInt8) :
    Accounts (IsLamp H) (TellsLamp H) (ledBlockRecords H cpp n_ledStripe field type)
      (blockLamps cpp n_ledStripe field type) := by
  rw [ledBlockRecords, blockLamps, List.map_eq_flatMap, List.map_eq_flatMap]
  apply Accounts.flatMap
  intro item _
  have hlamp : IsLamp H (lampRecord H cpp n_ledStripe type item) := rfl
  apply Accounts.cons hlamp _ (Accounts.nothing (by simp))
  refine ⟨rfl, ⟨word cpp n_ledStripe "port", ?_, rfl⟩, ⟨word cpp item "number", ?_, rfl⟩, ?_, ?_⟩
  all_goals simp [lampRecord, newRecord, EventHeader.lampKeys, listedLamp]

theorem accounts_ledStripeRecords (hdistinct : H.RecordsDistinct) (n_ledStripe : Yaml) :
    Accounts (IsLamp H) (TellsLamp H) (ledStripeRecords H cpp s n_ledStripe)
      (if itemBoard cpp n_ledStripe ∉ s.skippedBoards then stripeLamps H cpp n_ledStripe
        else []) := by
  rw [ledStripeRecords, toldTo]
  split
  · have hstring : OfKinds H [9]
        [newRecord (itemBoard cpp n_ledStripe) H.CONFIG_TOPIC_LED_STRING H.ledStringKeys
          [word cpp n_ledStripe "port",
            valueOf ((cpp.asString (n_ledStripe.get "ledType")).map fun type =>
              (resolveLedTypeValue H type).toUInt32),
            word cpp n_ledStripe "brightness", word cpp n_ledStripe "amount",
            word cpp n_ledStripe "afterGlow", word cpp n_ledStripe "lightUp"]] :=
      OfKinds.cons (i := 9) (kind_newRecord rfl (Nat.le_refl _)) (by simp) OfKinds.nil
    have hothers : OfKinds H [8, 9, 10, 11]
        (ledSegmentRecords H cpp n_ledStripe 6 (n_ledStripe.get "segments").items ++
          (n_ledStripe.get "effects").items.flatMap (ledEffectRecords H cpp n_ledStripe)) :=
      (kinds_ledSegmentRecords _ _ _).append (kinds_ledEffects _ _)
    apply Accounts.skip (hstring.excludes hdistinct kinds_isLamp (by simp) _ (by simp))
    apply Accounts.append
    · apply Accounts.append
      · apply Accounts.after (hothers.excludes hdistinct kinds_isLamp (by simp))
        exact accounts_ledBlockRecords n_ledStripe "lamps" _
      · exact accounts_ledBlockRecords n_ledStripe "flashers" _
    · exact accounts_ledBlockRecords n_ledStripe "gi" _
  · exact Accounts.nothing (by simp)

/-- The switches of the document whose port and number have to be bytes. -/
def switchesOf (cpp : YamlCpp) (s : StartupSettings) (config : Yaml) : List Yaml :=
  (if (config.get "switchMatrix").isDefined = true ∧
      itemBoard cpp (config.get "switchMatrix") ∉ s.skippedBoards then
      ((config.get "switchMatrix").get "switches").items else []) ++
    (config.get "switches").items

theorem accounts_switches (hdistinct : H.RecordsDistinct) {config : Yaml}
    (h : ∀ n_switch ∈ switchesOf cpp s config, HasByteNumbers cpp n_switch) :
    Accounts (IsSwitch H) (TellsSwitch H) (sectionRecords H cpp s config)
      (onBoards s (documentSwitches cpp s config)) := by
  obtain ⟨hmatrix, hdedicated⟩ := List.forall_mem_append.mp h
  rw [documentSwitches, onBoards, List.filter_append, sectionRecords]
  -- outputs and stripes make records of other kinds
  have hstripes : OfKinds H [8, 9, 10, 11, 12]
      ((config.get "ledStripes").items.flatMap (ledStripeRecords H cpp s)) :=
    OfKinds.flatMap kinds_ledStripeRecords
  have houtputs : OfKinds H [6, 7, 8]
      ((config.get "pwmOutput").items.flatMap (pwmOutputRecords H cpp s)) :=
    OfKinds.flatMap kinds_pwmOutputRecords
  apply Accounts.before _ (hstripes.excludes hdistinct kinds_isSwitch (by simp))
  apply Accounts.before _ (houtputs.excludes hdistinct kinds_isSwitch (by simp))
  apply Accounts.append
  · by_cases hdefined : (config.get "switchMatrix").isDefined = true
    · by_cases hskip : itemBoard cpp (config.get "switchMatrix") ∈ s.skippedBoards
      · simp only [hdefined, hskip, not_true_eq_false, and_false, if_false, if_true,
          switchMatrixRecords, toldTo]
        exact Accounts.nothing (by simp)
      · rw [if_pos ⟨hdefined, hskip⟩] at hmatrix
        rw [if_pos hdefined, if_pos ⟨hdefined, hskip⟩, switchMatrixRecords, toldTo, if_pos hskip]
        -- the record of the matrix itself is no switch
        have hfirst : OfKinds H [3]
            [newRecord (itemBoard cpp (config.get "switchMatrix")) H.CONFIG_TOPIC_SWITCH_MATRIX
              H.matrixKeys
              [valueOf ((cpp.asBool ((config.get "switchMatrix").get "activeLow")).map
                  fun activeLow => if activeLow then 1 else 0),
                valueOf ((cpp.asUInt8 ((config.get "switchMatrix").get "rows")).map
                  UInt8.toUInt32)]] :=
          OfKinds.cons (i := 3) (kind_newRecord rfl (Nat.le_refl _)) (by simp) OfKinds.nil
        apply Accounts.skip (hfirst.excludes hdistinct kinds_isSwitch (by simp) _ (by simp))
        show Accounts _ _ _ (onBoards s _)
        rw [onBoards_map]
        exact Accounts.flatMap fun n_switch hmem =>
          accounts_matrixSwitchRecords (hmatrix n_switch hmem)
    · rw [if_neg hdefined, if_neg fun h => hdefined h.1]
      exact Accounts.nothing (by simp)
  · show Accounts _ _ _ (onBoards s _)
    rw [onBoards_map]
    exact Accounts.flatMap fun n_switch hmem => accounts_switchRecords (hdedicated n_switch hmem)

theorem kinds_switchMatrix (config : Yaml) :
    OfKinds H [3, 4] (if (config.get "switchMatrix").isDefined = true then
      switchMatrixRecords H cpp s (config.get "switchMatrix") else []) := by
  split
  · exact kinds_switchMatrixRecords _
  · exact OfKinds.nil

theorem accounts_coils (hdistinct : H.RecordsDistinct) {config : Yaml}
    (h : ∀ n_pwmOutput ∈ (config.get "pwmOutput").items,
      itemBoard cpp n_pwmOutput ∉ s.skippedBoards → HasByteNumbers cpp n_pwmOutput) :
    Accounts (IsCoil H) (TellsCoil H) (sectionRecords H cpp s config)
      (documentCoils H cpp s config) := by
  have hswitches : OfKinds H [5]
      ((config.get "switches").items.flatMap (switchRecords H cpp s)) :=
    OfKinds.flatMap kinds_switchRecords
  have hstripes : OfKinds H [8, 9, 10, 11, 12]
      ((config.get "ledStripes").items.flatMap (ledStripeRecords H cpp s)) :=
    OfKinds.flatMap kinds_ledStripeRecords
  rw [sectionRecords, documentCoils, List.map_eq_flatMap, ← Pass.flatMap_unskipped]
  apply Accounts.before _ (hstripes.excludes hdistinct kinds_isCoil (by simp))
  rw [List.append_assoc]
  apply Accounts.after ((kinds_switchMatrix config).excludes hdistinct kinds_isCoil (by simp))
  apply Accounts.after (hswitches.excludes hdistinct kinds_isCoil (by simp))
  exact Accounts.flatMap fun n_pwmOutput hmem =>
    accounts_pwmOutputRecords hdistinct (h n_pwmOutput hmem)

theorem accounts_lamps (hdistinct : H.RecordsDistinct) (config : Yaml) :
    Accounts (IsLamp H) (TellsLamp H) (sectionRecords H cpp s config)
      (documentLamps H cpp s config) := by
  have hswitches : OfKinds H [5]
      ((config.get "switches").items.flatMap (switchRecords H cpp s)) :=
    OfKinds.flatMap kinds_switchRecords
  have houtputs : OfKinds H [6, 7, 8]
      ((config.get "pwmOutput").items.flatMap (pwmOutputRecords H cpp s)) :=
    OfKinds.flatMap kinds_pwmOutputRecords
  rw [sectionRecords, documentLamps, ← Pass.flatMap_unskipped]
  simp only [List.append_assoc]
  apply Accounts.after ((kinds_switchMatrix config).excludes hdistinct kinds_isLamp (by simp))
  apply Accounts.after (hswitches.excludes hdistinct kinds_isLamp (by simp))
  apply Accounts.after (houtputs.excludes hdistinct kinds_isLamp (by simp))
  exact Accounts.flatMap fun n_ledStripe _ => accounts_ledStripeRecords hdistinct n_ledStripe

/-- The records of the boards and of the token ring are about no item. -/
theorem accounts_told (hdistinct : H.RecordsDistinct) {config : Yaml} {done : UInt8}
    {present : Finset UInt8} {boards : List UInt8} {β : Type} {p : ConfigRecord → Prop}
    [DecidablePred p] {R : ConfigRecord → β → Prop} {entries : List β} {others : List (Fin 14)}
    (hp : ∀ r, p r → ∃ j ∈ others, r.kind = H.template j)
    (hothers : ∀ i ∈ ([0, 1, 2, 13] : List (Fin 14)), i ∉ others)
    (h : Accounts p R (sectionRecords H cpp s config) entries) :
    Accounts p R (documentRecords H cpp s config ++ ringRecords H s done present boards)
      entries := by
  have hboards : OfKinds H [0, 1, 2]
      ((config.get "boards").items.flatMap (boardRecords H cpp s config)) :=
    OfKinds.flatMap (kinds_boardRecords config)
  apply Accounts.before
  · apply Accounts.after (hboards.excludes hdistinct hp _) h
    exact fun i hi => hothers i (List.mem_append_left [13] hi)
  · apply (kinds_ringRecords done present boards).excludes hdistinct hp
    exact fun i hi => hothers i (List.mem_append_right [0, 1, 2] hi)

end accounts

/-! ### What a Pass Needs -/

namespace Pass

open Emitter

variable {P : Protocol} {H : EventHeader} {cpp : YamlCpp} {s : StartupSettings}

theorem needs_onlyIf {c φ : Prop} [Decidable c] {body : Pass Unit} (h : Needs φ body) :
    Needs (c → φ) (onlyIf c body) := by
  unfold LibPpuc.onlyIf
  split
  · exact fun a ha _ => h a ha
  · next hc => exact fun _ _ hc' => absurd hc' hc

theorem needs_unlessSkipped {item : Yaml} {φ : Prop} {body : Pass Unit} (h : Needs φ body) :
    Needs (itemBoard cpp item ∉ s.skippedBoards → φ) (unlessSkipped cpp s item body) := by
  intro a ha
  obtain ⟨board, hboard, ha⟩ := result_bind_ok.mp ha
  have hitem : itemBoard cpp item = board := valueOf_ok hboard
  rw [hitem]
  exact needs_onlyIf h a ha

theorem needs_pushSwitch (n_switch : Yaml) :
    Needs (HasByteNumbers cpp n_switch) (pushSwitch cpp n_switch) := by
  intro a ha
  obtain ⟨_, -, ha⟩ := result_bind_ok.mp ha
  obtain ⟨port, hport, ha⟩ := result_bind_ok.mp ha
  obtain ⟨number, hnumber, -⟩ := result_bind_ok.mp ha
  exact ⟨⟨port, hport⟩, ⟨number, hnumber⟩⟩

theorem needs_pushCoil (n_pwmOutput : Yaml) (type : UInt8) :
    Needs (HasByteNumbers cpp n_pwmOutput) (pushCoil cpp n_pwmOutput type) := by
  intro a ha
  obtain ⟨_, -, ha⟩ := result_bind_ok.mp ha
  obtain ⟨port, hport, ha⟩ := result_bind_ok.mp ha
  obtain ⟨number, hnumber, -⟩ := result_bind_ok.mp ha
  exact ⟨⟨port, hport⟩, ⟨number, hnumber⟩⟩

theorem needs_matrixSwitchPass (n_switch : Yaml) :
    Needs (HasByteNumbers cpp n_switch) (matrixSwitchPass H cpp s n_switch) :=
  Needs.later fun _ => Needs.later fun _ => needs_pushSwitch n_switch

theorem needs_switchPass (n_switch : Yaml) :
    Needs (HasByteNumbers cpp n_switch) (switchPass H cpp s n_switch) :=
  Needs.later fun _ => Needs.later fun _ => Needs.first (needs_pushSwitch n_switch)

theorem needs_switchMatrixPass (switchMatrix : Yaml) :
    Needs (itemBoard cpp switchMatrix ∉ s.skippedBoards →
        ∀ n_switch ∈ (switchMatrix.get "switches").items, HasByteNumbers cpp n_switch)
      (switchMatrixPass H cpp s switchMatrix) := by
  apply needs_unlessSkipped
  apply Needs.later
  intro _
  apply Needs.later
  intro _
  exact Needs.forM fun n_switch _ => needs_matrixSwitchPass n_switch

theorem needs_pwmOutputPass (n_pwmOutput : Yaml) :
    Needs (itemBoard cpp n_pwmOutput ∉ s.skippedBoards → HasByteNumbers cpp n_pwmOutput)
      (pwmOutputPass H cpp s n_pwmOutput) := by
  apply needs_unlessSkipped
  -- the description, eight events, the type, its event and the effects
  iterate 12
    apply Needs.later
    intro _
  exact Needs.first (needs_pushCoil _ _)

/-- A pass that returns has converted the numbers of all it lists. -/
theorem returns_numbers {config : Yaml}
    (hok : (startupPass P H cpp s config).result = .ok ⟨⟩) :
    (∀ n_switch ∈ switchesOf cpp s config, HasByteNumbers cpp n_switch) ∧
      ∀ n_pwmOutput ∈ (config.get "pwmOutput").items,
        itemBoard cpp n_pwmOutput ∉ s.skippedBoards → HasByteNumbers cpp n_pwmOutput := by
  obtain ⟨_, -, hok⟩ := result_bind_ok.mp hok
  obtain ⟨_, -, hok⟩ := result_bind_ok.mp hok
  obtain ⟨_, -, hok⟩ := result_bind_ok.mp hok
  obtain ⟨_, hsections, -⟩ := result_bind_ok.mp hok
  obtain ⟨_, hmatrix, hsections⟩ := result_bind_ok.mp hsections
  obtain ⟨_, -, hsections⟩ := result_bind_ok.mp hsections
  obtain ⟨_, hswitches, hsections⟩ := result_bind_ok.mp hsections
  obtain ⟨_, -, hsections⟩ := result_bind_ok.mp hsections
  obtain ⟨_, houtputs, -⟩ := result_bind_ok.mp hsections
  constructor
  · rw [switchesOf, List.forall_mem_append]
    constructor
    · intro n_switch hmem
      split at hmem
      · next hlisted =>
        exact needs_onlyIf (needs_switchMatrixPass _) _ hmatrix hlisted.1 hlisted.2 n_switch hmem
      · simp at hmem
    · exact Needs.forM (fun n_switch _ => needs_switchPass n_switch) _ hswitches
  · exact Needs.forM (fun n_pwmOutput _ => needs_pwmOutputPass n_pwmOutput) _ houtputs

end Pass

/-! ### The Getters -/

namespace Startup

open ConfigRecord Selection

variable {P : Protocol} {W : Type} {H : EventHeader} {port : SerialPort W}

/-- `std::sort` by the number.  Entries with one number may end up in any
    order. -/
def SortsTo {α : Type} (number : α → UInt8) (entries shown : List α) : Prop :=
  shown.Perm entries ∧ shown.Pairwise fun x y => number x ≤ number y

def GetSwitches (a : Startup P W) (shown : List PPUCSwitch) : Prop :=
  SortsTo PPUCSwitch.number a.switches shown

def GetCoils (a : Startup P W) (shown : List PPUCCoil) : Prop :=
  SortsTo PPUCCoil.number a.coils shown

def GetLamps (a : Startup P W) (shown : List PPUCLamp) : Prop :=
  SortsTo PPUCLamp.number a.lamps shown

/-- **The application and the boards are told the same**, for every document,
    every skip set, every port and every behaviour of the boards.  If the
    attempt gets as far as `SendSetupFrame`, then all that was sent reads back
    as a list of records, and whatever order the getters show their lists in:

    - `GetSwitches` shows the switches of the document, without those of a
      matrix on a skipped board, and those that are not on skipped boards
      correspond one by one to the records about switches;
    - `GetCoils` and `GetLamps` correspond one by one to the records about
      coils and about lamps. -/
theorem lists_match_boards (hdistinct : H.RecordsDistinct) (hcarries : P.CarriesTuple)
    {cpp : YamlCpp} {s : StartupSettings} {config : Yaml} {c : Comm P} {w : W}
    {a : Startup P W} (hready : startupAttempt H cpp s config port c w = .ready a) :
    ∃ told, RecordCode.readAll (readRecord H) a.sentEvents = some told ∧
      (∀ shown, a.GetSwitches shown → shown.Perm (documentSwitches cpp s config) ∧
        ∃ order, order.Perm (told.filter fun r => IsSwitch H r) ∧
          List.Forall₂ (TellsSwitch H) order (onBoards s shown)) ∧
      (∀ shown, a.GetCoils shown → ∃ order, order.Perm (told.filter fun r => IsCoil H r) ∧
        List.Forall₂ (TellsCoil H) order shown) ∧
      (∀ shown, a.GetLamps shown → ∃ order, order.Perm (told.filter fun r => IsLamp H r) ∧
        List.Forall₂ (TellsLamp H) order shown) := by
  have hlists := ready_playable hready
  simp only [playable, Prod.mk.injEq] at hlists
  obtain ⟨hswitches, hcoils, hlamps⟩ := hlists
  obtain ⟨hreadSwitches, hreadCoils⟩ :=
    Pass.returns_numbers (startupAttempt_ready.mp hready).2
  -- what the boards are told: the records of the document, then those of the ring
  refine ⟨documentRecords H cpp s config ++ ringRecords H s P.kNoBoard a.comm.presentBoards
    (Pass.pollEventsBoards cpp s config), ?_, ?_, ?_, ?_⟩
  · rw [ready_sentEvents hcarries hready]
    apply RecordCode.readAll_flatMap
    intro r hr
    apply reads_record hdistinct
    rcases List.mem_append.mp hr with hdocument | hring
    · exact fits_documentRecords config r hdocument
    · exact fits_ringRecords _ _ _ r hring
  · intro shown hshown
    have hperm : shown.Perm (documentSwitches cpp s config) := hswitches ▸ hshown.1
    refine ⟨hperm, ?_⟩
    exact (accounts_told hdistinct kinds_isSwitch (by simp)
      (accounts_switches hdistinct hreadSwitches)).reorder (hperm.filter _)
  · intro shown hshown
    have hperm : shown.Perm (documentCoils H cpp s config) := hcoils ▸ hshown.1
    exact (accounts_told hdistinct kinds_isCoil (by simp)
      (accounts_coils hdistinct hreadCoils)).reorder hperm
  · intro shown hshown
    have hperm : shown.Perm (documentLamps H cpp s config) := hlamps ▸ hshown.1
    exact (accounts_told hdistinct kinds_isLamp (by simp)
      (accounts_lamps hdistinct config)).reorder hperm

end Startup

namespace Reference

theorem lists_match_board_1 :
    ∃ a, startupAttempt header yamlCpp settings polledSwitchDocument port comm
        polledSwitchAcks = .ready a ∧
      ∃ told, RecordCode.readAll (readRecord header) a.sentEvents = some told ∧
        (∀ shown, a.GetSwitches shown →
          shown.Perm (documentSwitches yamlCpp settings polledSwitchDocument) ∧
          ∃ order, order.Perm (told.filter fun r => ConfigRecord.IsSwitch header r) ∧
            List.Forall₂ (ConfigRecord.TellsSwitch header) order (onBoards settings shown)) ∧
        (∀ shown, a.GetCoils shown →
          ∃ order, order.Perm (told.filter fun r => ConfigRecord.IsCoil header r) ∧
            List.Forall₂ (ConfigRecord.TellsCoil header) order shown) ∧
        (∀ shown, a.GetLamps shown →
          ∃ order, order.Perm (told.filter fun r => ConfigRecord.IsLamp header r) ∧
            List.Forall₂ (ConfigRecord.TellsLamp header) order shown) := by
  have hrun : (startupAttempt header yamlCpp settings polledSwitchDocument port comm
      polledSwitchAcks).attempt.isSome = true := by decide +kernel
  obtain ⟨a, hattempt⟩ := Option.isSome_iff_exists.mp hrun
  have hready := AttemptEnd.ready_of_attempt hattempt
  exact ⟨a, hready, Startup.lists_match_boards header_recordsDistinct protocol_carriesTuple
    hready⟩

/-- The board is told lamp 300, the application lamp 44. -/
example :
    word yamlCpp (record [("number", scalar "300")]) "number" = 300 ∧
      (listedLamp yamlCpp (record []) 1 (record [("number", scalar "300")])).number = 44 := by
  decide +kernel

end Reference

end LibPpuc
