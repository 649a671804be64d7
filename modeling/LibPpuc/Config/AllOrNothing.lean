import LibPpuc.Config.Schema
import LibPpuc.Startup.Reference

/-! # Is a Failed Load Without Effect?

  `LoadConfiguration` stores the document before it validates it, and the
  switch groups before the coil mappings are parsed.  Everything else is
  stored after the last step that can throw: validation has read the root
  fields with the same conversions (`returns_readRoot`).

  A load that throws therefore leaves its document behind, and behind a
  failed coil mapping also its switch groups.
-/

namespace LibPpuc

section loading

variable (H : EventHeader) (cpp : YamlCpp)

/-- `LoadConfiguration`, with the outcome of `YAML::LoadFile`. -/
def loadConfigurationFile (configFile : String) (loaded : Except Failure Yaml) (ppuc : Ppuc) :
    Except Failure Unit × Ppuc :=
  match loaded with
  | .error e => (.error (e.inFile configFile), ppuc)
  | .ok config => loadConfiguration H cpp configFile config ppuc

/-- None of the four steps that read the document throws. -/
structure Loads (config : Yaml) : Prop where
  valid : Returns (validatePpucConfiguration H cpp config)
  warned : Returns (warnAboutUnprotectedSolenoids H cpp config)
  groups : Returns (parseSwitchGroups cpp config)
  mappings : Returns (parseCoilGiMappings cpp config)

/-- The object already holds what a failing load leaves behind: the document,
    and the switch groups if the load gets as far as these. -/
structure HoldsAlready (config : Yaml) (ppuc : Ppuc) : Prop where
  document : ppuc.ppucConfig = config
  groups : ∀ groups, Returns (validatePpucConfiguration H cpp config) →
    Returns (warnAboutUnprotectedSolenoids H cpp config) →
    parseSwitchGroups cpp config = .ok groups → ppuc.switchGroups = groups

end loading

section proofs

variable {H : EventHeader} {cpp : YamlCpp} {config : Yaml} {ppuc : Ppuc}

/-- Behind validation, the root fields can be read. -/
theorem returns_readRoot (h : Returns (validatePpucConfiguration H cpp config)) (ppuc : Ppuc) :
    Returns (readRoot H cpp config ppuc).1 := by
  simp only [validatePpucConfiguration, returns_seq, returns_validateRequiredField] at h
  obtain ⟨-, hdebug, hrom, hserial, hplatform, -⟩ := h
  have hreads : ∀ {α : Type} {convert : Yaml → Except Failure α} {field : String},
      Has convert config field → ∃ a, readRequiredYamlField convert config field
        (configItemContext cpp config "root") = .ok a :=
    fun hhas => returns_readRequiredYamlField.mpr hhas
  obtain ⟨debug, hdebug⟩ := hreads hdebug
  obtain ⟨rom, hrom⟩ := hreads hrom
  obtain ⟨serial, hserial⟩ := hreads hserial
  obtain ⟨platform, hplatform⟩ := hreads hplatform
  simp [readRoot, hdebug, hrom, hserial, hplatform]

/-- The document loads. -/
theorem loadConfiguration_loads (h : Loads H cpp config) (configFile : String) (ppuc : Ppuc) :
    Returns (loadConfiguration H cpp configFile config ppuc).1 := by
  obtain ⟨⟨_, hvalid⟩, ⟨_, hwarned⟩, ⟨groups, hgroups⟩, ⟨mappings, hmappings⟩⟩ := h
  simp only [loadConfiguration, hvalid, hwarned, hgroups, hmappings]
  exact returns_readRoot ⟨_, hvalid⟩ _

theorem storeDocument_eq_self_iff : { ppuc with ppucConfig := config } = ppuc ↔
    ppuc.ppucConfig = config := by
  constructor
  · intro h
    exact (congrArg Ppuc.ppucConfig h).symm
  · rintro rfl
    rfl

theorem storeGroups_eq_self_iff {groups : Map String (List UInt16)} :
    { ppuc with ppucConfig := config, switchGroups := groups } = ppuc ↔
      ppuc.ppucConfig = config ∧ ppuc.switchGroups = groups := by
  constructor
  · intro h
    exact ⟨(congrArg Ppuc.ppucConfig h).symm, (congrArg Ppuc.switchGroups h).symm⟩
  · rintro ⟨rfl, rfl⟩
    rfl

/-- What a load leaves behind that fails at one of its four steps. -/
theorem loadConfiguration_fails (h : ¬ Loads H cpp config) (configFile : String) (ppuc : Ppuc) :
    ¬ Returns (loadConfiguration H cpp configFile config ppuc).1 ∧
      ((loadConfiguration H cpp configFile config ppuc).2 = ppuc ↔
        HoldsAlready H cpp config ppuc) := by
  have hstart : ∀ (hearly : ∀ groups, Returns (validatePpucConfiguration H cpp config) →
      Returns (warnAboutUnprotectedSolenoids H cpp config) →
      parseSwitchGroups cpp config ≠ .ok groups),
      { ppuc with ppucConfig := config } = ppuc ↔ HoldsAlready H cpp config ppuc := by
    intro hearly
    rw [storeDocument_eq_self_iff]
    constructor
    · intro hdocument
      exact ⟨hdocument, fun groups hvalid hwarned hgroups =>
        absurd hgroups (hearly groups hvalid hwarned)⟩
    · intro hholds
      exact hholds.document
  cases hvalid : validatePpucConfiguration H cpp config with
  | error e =>
    simp only [loadConfiguration, hvalid, returns_error, not_false_eq_true, true_and]
    apply hstart
    intro groups hreturns
    simp [hvalid] at hreturns
  | ok _ =>
    cases hwarned : warnAboutUnprotectedSolenoids H cpp config with
    | error e =>
      simp only [loadConfiguration, hvalid, hwarned, returns_error, not_false_eq_true, true_and]
      apply hstart
      intro groups _ hreturns
      simp [hwarned] at hreturns
    | ok _ =>
      cases hgroups : parseSwitchGroups cpp config with
      | error e =>
        simp only [loadConfiguration, hvalid, hwarned, hgroups, returns_error,
          not_false_eq_true, true_and]
        apply hstart
        intro groups _ _ hparsed
        simp [hgroups] at hparsed
      | ok groups =>
        cases hmappings : parseCoilGiMappings cpp config with
        | error e =>
          -- the groups are stored as well
          simp only [loadConfiguration, hvalid, hwarned, hgroups, hmappings, returns_error,
            not_false_eq_true, true_and]
          rw [storeGroups_eq_self_iff]
          constructor
          · intro hboth
            refine ⟨hboth.1, ?_⟩
            intro groups' _ _ hparsed
            rw [hgroups] at hparsed
            exact hboth.2.trans (Except.ok.inj hparsed)
          · intro hholds
            exact ⟨hholds.document, hholds.groups groups ⟨_, hvalid⟩ ⟨_, hwarned⟩ hgroups⟩
        | ok mappings =>
          exact absurd ⟨⟨_, hvalid⟩, ⟨_, hwarned⟩, ⟨_, hgroups⟩, ⟨_, hmappings⟩⟩ h

/-- **When `LoadConfiguration` is all or nothing**: a load that throws leaves
    the object as it was if and only if there was no document to be stored,
    nothing throws, or the object holds the document, and the switch groups
    that are stored before the coil mappings fail, already. -/
theorem loadConfiguration_all_or_nothing (H : EventHeader) (cpp : YamlCpp) (configFile : String)
    (loaded : Except Failure Yaml) (ppuc : Ppuc) :
    (¬ Returns (loadConfigurationFile H cpp configFile loaded ppuc).1 →
        (loadConfigurationFile H cpp configFile loaded ppuc).2 = ppuc) ↔
      ∀ config, loaded = .ok config → Loads H cpp config ∨ HoldsAlready H cpp config ppuc := by
  cases loaded with
  | error e => simp [loadConfigurationFile]
  | ok config =>
    rw [loadConfigurationFile]
    by_cases hloads : Loads H cpp config
    · have hreturns := loadConfiguration_loads hloads configFile ppuc
      simp [hreturns, hloads]
    · obtain ⟨hthrows, hiff⟩ := loadConfiguration_fails hloads configFile ppuc
      simp [hthrows, hiff, hloads]

end proofs

namespace Reference

/-- The object after its first load. -/
def loadedPpuc : Ppuc :=
  (loadConfigurationFile header yamlCpp "first" (.ok (document []))
    { ppucConfig := .null none, switchGroups := ∅, coilGiMappings := [], debug := false, rom := "",
      serial := "", platform := 0 }).2

/-- A coil mapping with a coil number of more than 16 bits. -/
def wideCoilDocument : Yaml :=
  document [("coilGiMappings", list [record [("coil", scalar "70000"), ("gi", scalar "1")]])]

/-- The second load throws and leaves its document behind. -/
theorem wide_coil_left_behind :
    ¬ ∀ loaded : Except Failure Yaml,
      ¬ Returns (loadConfigurationFile header yamlCpp "second" loaded loadedPpuc).1 →
        (loadConfigurationFile header yamlCpp "second" loaded loadedPpuc).2 = loadedPpuc := by
  intro h
  have hthrows : ¬ Returns
      (loadConfigurationFile header yamlCpp "second" (.ok wideCoilDocument) loadedPpuc).1 := by
    rintro ⟨⟨⟩, hreturns⟩
    have hok : (loadConfigurationFile header yamlCpp "second" (.ok wideCoilDocument)
        loadedPpuc).1.isOk = false := by decide +kernel
    rw [hreturns] at hok
    exact nomatch hok
  have hkept := h (.ok wideCoilDocument) hthrows
  -- the object has coil mappings in its document now
  have hchanged : ((loadConfigurationFile header yamlCpp "second" (.ok wideCoilDocument)
      loadedPpuc).2.ppucConfig.get "coilGiMappings").isDefined ≠
      (loadedPpuc.ppucConfig.get "coilGiMappings").isDefined := by decide +kernel
  exact hchanged (by rw [hkept])

end Reference

end LibPpuc
