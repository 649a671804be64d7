import LibPpuc.Config.Acceptance
import LibPpuc.Startup.Numbering

/-! # The Switch Groups of a Document

  The groups that a load leaves behind, in terms of the document alone: a
  declared group has the numbers of its last entry, `buttons` those of all
  switches with `button: true`.  All groups are sorted and without
  duplicates.

  The startup collects the buttons in a walk of its own, for the refresh
  timer.  `ready_buttons` says that both walks find the same ones.
-/

namespace LibPpuc

/-! ### Groups in the Document -/

namespace Yaml

/-- The switches of both switch sections. -/
def allSwitches (config : Yaml) : List Yaml :=
  ((config.get "switchMatrix").get "switches").items ++ (config.get "switches").items

/-- The last entry of a name wins. -/
def declaredGroup (config : Yaml) (name : String) : Option Yaml :=
  ((config.get "switchGroups").entries.reverse.find? fun entry =>
    entry.1.text? == some name).map Prod.snd

end Yaml

/-- The number of a node, if it fits 16 bits. -/
def YamlCpp.number16 (cpp : YamlCpp) (node : Yaml) : Option UInt16 := (cpp.asUInt16 node).toOption

def isButton (cpp : YamlCpp) (n_switch : Yaml) : Bool :=
  Shape.reads cpp true (n_switch.get "button")

def buttonNumbers (cpp : YamlCpp) (switches : List Yaml) : List UInt16 :=
  (switches.filter (isButton cpp)).filterMap fun n_switch => cpp.number16 (n_switch.get "number")

def groupNumbers (cpp : YamlCpp) (group : Yaml) : List UInt16 :=
  (group.get "switches").items.filterMap cpp.number16

/-- The numbers of a group, if the document has such a group. -/
def groupOf (cpp : YamlCpp) (config : Yaml) (name : String) : Option (List UInt16) :=
  match config.declaredGroup name with
  | some group => some (groupNumbers cpp group)
  | none =>
    if name = "buttons" ∧ buttonNumbers cpp config.allSwitches ≠ [] then
      some (buttonNumbers cpp config.allSwitches)
    else none

/-! ### The Walk over the Groups -/

section groups

variable {cpp : YamlCpp} {config : Yaml}

theorem number16_of_ok {node : Yaml} {number : UInt16} (h : cpp.asUInt16 node = .ok number) :
    cpp.number16 node = some number := by
  unfold YamlCpp.number16
  rw [h]
  rfl

theorem mapM_eq_filterMap {items : List Yaml} {numbers : List UInt16}
    (h : items.mapM cpp.asUInt16 = .ok numbers) : numbers = items.filterMap cpp.number16 := by
  induction items generalizing numbers with
  | nil => simpa using (Except.ok.inj h).symm
  | cons item items ih =>
    rw [List.mapM_cons] at h
    cases hnumber : cpp.asUInt16 item with
    | error e => simp [hnumber, Bind.bind, Except.bind] at h
    | ok number =>
      cases hrest : items.mapM cpp.asUInt16 with
      | error e => simp [hnumber, hrest, Bind.bind, Except.bind] at h
      | ok rest =>
        simp only [hnumber, hrest, Bind.bind, Except.bind, Pure.pure, Except.pure,
          Except.ok.injEq] at h
        rw [List.filterMap_cons_some (number16_of_ok hnumber), ← ih hrest, h]

/-- Reading the flag of a button succeeds as the shape says. -/
theorem readOptional_button {n_switch : Yaml} {button : Bool}
    (h : readOptional cpp.asBool (n_switch.get "button") false = .ok button) :
    isButton cpp n_switch = button := by
  unfold isButton
  cases hdefined : (n_switch.get "button").isDefined with
  | true =>
    simp only [readOptional, hdefined, if_true] at h
    cases button with
    | true => exact asBool_eq_ok.mp h
    | false =>
      rw [Bool.eq_false_iff]
      intro hreads
      rw [← asBool_eq_ok, h] at hreads
      simp at hreads
  | false =>
    have hundefined := Yaml.eq_undefined hdefined
    simp only [readOptional, hdefined, Bool.false_eq_true, if_false, Except.ok.injEq] at h
    simp [hundefined, Shape.reads, ← h]

/-- The buttons of a section. -/
theorem buttonSwitches_eq {switches : Yaml} {numbers : List UInt16}
    (h : buttonSwitches cpp switches = .ok numbers) :
    numbers = buttonNumbers cpp switches.items := by
  have hfold : ∀ (items : List Yaml) (before after : List UInt16),
      items.foldlM (fun numbers n_switch => do
        let button ← readOptional cpp.asBool (n_switch.get "button") false
        if button then
          let number ← cpp.asUInt16 (n_switch.get "number")
          pure (numbers ++ [number])
        else pure numbers) before = .ok after → after = before ++ buttonNumbers cpp items := by
    intro items
    induction items with
    | nil =>
      intro before after hafter
      simpa [buttonNumbers] using (Except.ok.inj hafter).symm
    | cons n_switch items ih =>
      intro before after hafter
      rw [List.foldlM_cons] at hafter
      obtain ⟨now, hnow, hrest⟩ := ok_of_bind hafter
      obtain ⟨button, hbutton, hnow⟩ := ok_of_bind hnow
      have hmarked := readOptional_button hbutton
      rw [ih _ _ hrest]
      cases button with
      | false =>
        obtain rfl : before = now := Except.ok.inj hnow
        simp [buttonNumbers, hmarked]
      | true =>
        rw [if_pos rfl] at hnow
        obtain ⟨number, hnumber, hnow⟩ := ok_of_bind hnow
        obtain rfl : before ++ [number] = now := Except.ok.inj hnow
        simp [buttonNumbers, hmarked, number16_of_ok hnumber]
  simpa using hfold switches.items [] numbers h

/-- **Run lemma**: after the entries, a name has the numbers of its last one,
    or what it had before. -/
theorem lookup_declared {entries : List (Yaml × Yaml)} {groups groups' : Map String (List UInt16)}
    (h : entries.foldlM
      (fun groups entry => do
        let name ← cpp.asString entry.1
        let numbers ← groupSwitches cpp entry.2
        pure (groups.insert name (numberSet numbers))) groups = .ok groups') (name : String) :
    groups'.lookup name =
      match (entries.reverse.find? fun entry => entry.1.text? == some name).map Prod.snd with
      | some group => some (numberSet (groupNumbers cpp group))
      | none => groups.lookup name := by
  induction entries generalizing groups with
  | nil =>
    obtain rfl : groups = groups' := Except.ok.inj h
    rfl
  | cons entry entries ih =>
    rw [List.foldlM_cons] at h
    obtain ⟨groups₁, hfirst, hrest⟩ := ok_of_bind h
    obtain ⟨key, hkey, hfirst⟩ := ok_of_bind hfirst
    obtain ⟨numbers, hnumbers, hfirst⟩ := ok_of_bind hfirst
    obtain rfl : groups.insert key (numberSet numbers) = groups₁ := Except.ok.inj hfirst
    obtain rfl := mapM_eq_filterMap hnumbers
    have htext := asString_eq_ok.mp hkey
    rw [ih hrest, List.reverse_cons, List.find?_append]
    cases hlater : entries.reverse.find? fun entry => entry.1.text? == some name with
    | some later => simp
    | none =>
      by_cases hname : key = name
      · subst hname
        simp [htext, AList.lookup_insert, groupNumbers]
      · simp [htext, hname, AList.lookup_insert_ne (Ne.symm hname)]

theorem buttonNumbers_append {before after : List Yaml} :
    buttonNumbers cpp (before ++ after) = buttonNumbers cpp before ++ buttonNumbers cpp after := by
  simp [buttonNumbers]

/-- The groups that the walk leaves. -/
theorem lookup_parseSwitchGroups {groups : Map String (List UInt16)}
    (h : parseSwitchGroups cpp config = .ok groups) (name : String) :
    groups.lookup name = (groupOf cpp config name).map numberSet := by
  -- without a matrix there are no matrix switches
  have hmatrix : ∃ matrixButtons,
      matrixButtons = buttonNumbers cpp ((config.get "switchMatrix").get "switches").items ∧
      ∃ switchButtons, buttonSwitches cpp (config.get "switches") = .ok switchButtons ∧
        (config.get "switchGroups").entries.foldlM
          (fun groups entry => do
            let name ← cpp.asString entry.1
            let numbers ← groupSwitches cpp entry.2
            pure (groups.insert name (numberSet numbers)))
          (if matrixButtons ++ switchButtons = [] then (∅ : Map String (List UInt16))
            else AList.insert "buttons" (numberSet (matrixButtons ++ switchButtons)) ∅) =
            .ok groups := by
    simp only [parseSwitchGroups] at h
    split at h
    · obtain ⟨matrixButtons, hbuttons, hrest⟩ := ok_of_bind h
      exact ⟨matrixButtons, buttonSwitches_eq hbuttons, ok_of_bind hrest⟩
    · next hundefined =>
      have hnone := Yaml.eq_undefined (Bool.eq_false_iff.mpr hundefined)
      refine ⟨[], ?_, ok_of_bind h⟩
      rw [hnone]
      rfl
  obtain ⟨matrixButtons, rfl, switchButtons, hswitches, hentries⟩ := hmatrix
  obtain rfl := buttonSwitches_eq hswitches
  rw [lookup_declared hentries name, ← buttonNumbers_append]
  show (match config.declaredGroup name with
    | some group => some (numberSet (groupNumbers cpp group))
    | none => AList.lookup name (if buttonNumbers cpp config.allSwitches = [] then
          (∅ : Map String (List UInt16))
        else AList.insert "buttons" (numberSet (buttonNumbers cpp config.allSwitches)) ∅)) = _
  unfold groupOf
  generalize buttonNumbers cpp config.allSwitches = numbers
  cases config.declaredGroup name with
  | some group => rfl
  | none =>
    by_cases hnone : numbers = []
    · simp [hnone]
    · by_cases hname : name = "buttons"
      · subst hname
        rw [if_neg hnone, AList.lookup_insert]
        simp [hnone]
      · rw [if_neg hnone, AList.lookup_insert_ne hname]
        simp [hname]

theorem switchGroups_readRoot {H : EventHeader} (ppuc : Ppuc) :
    (readRoot H cpp config ppuc).2.switchGroups = ppuc.switchGroups := by
  unfold readRoot
  dsimp only
  cases readRequiredYamlField cpp.asBool config "debug" _ with
  | error e => rfl
  | ok debug =>
    cases readRequiredYamlField cpp.asString config "rom" _ with
    | error e => rfl
    | ok rom =>
      cases readRequiredYamlField cpp.asString config "serialPort" _ with
      | error e => rfl
      | ok serial =>
        cases readRequiredYamlField cpp.asString config "platform" _ <;> rfl

/-- A load that returns has stored the groups of its walk. -/
theorem switchGroups_loadConfiguration {H : EventHeader} {configFile : String} {ppuc : Ppuc}
    (hload : Returns (loadConfiguration H cpp configFile config ppuc).1) :
    parseSwitchGroups cpp config =
      .ok (loadConfiguration H cpp configFile config ppuc).2.switchGroups := by
  obtain ⟨⟨_, hvalid⟩, ⟨_, hwarned⟩, ⟨groups, hgroups⟩, ⟨mappings, hmappings⟩⟩ :=
    returns_loadConfiguration.mp hload
  simp only [loadConfiguration, hvalid, hwarned, hgroups, hmappings, switchGroups_readRoot]

theorem shape_switchGroups {H : EventHeader} (h : Shape.configuration H cpp config = true) :
    Shape.ifGiven "switchGroups" (Shape.switchGroups cpp) config = true := by
  simp only [Shape.configuration, record_iff, List.forall_mem_cons] at h
  obtain ⟨-, -, -, -, -, -, -, -, -, -, hgroups, -⟩ := h
  exact hgroups

/-- `buttons` cannot be declared. -/
theorem declaredGroup_buttons {H : EventHeader} (h : Shape.configuration H cpp config = true) :
    config.declaredGroup "buttons" = none := by
  have hgroups := shape_switchGroups h
  unfold Yaml.declaredGroup
  rw [Option.map_eq_none_iff, List.find?_eq_none]
  intro entry hentry hbuttons
  rw [List.mem_reverse] at hentry
  have hdefined : (config.get "switchGroups").isDefined = true := by
    cases hnode : config.get "switchGroups" <;> simp_all [Yaml.entries, Yaml.isDefined]
  have hshape := ifGiven_iff.mp hgroups hdefined
  simp only [Shape.switchGroups, Shape.mapOf, Bool.and_eq_true, List.all_eq_true] at hshape
  have hname := (hshape.2 entry hentry).1
  rw [beq_iff_eq] at hbuttons
  simp [Shape.groupName, hbuttons] at hname

/-- A button has a number, so the buttons have numbers if there are any. -/
theorem buttonNumbers_ne_nil {switches : List Yaml}
    (hreads : ∀ n_switch ∈ switches, ButtonReads cpp n_switch) :
    buttonNumbers cpp switches ≠ [] ↔ ∃ n_switch ∈ switches, isButton cpp n_switch = true := by
  constructor
  · intro hsome
    obtain ⟨number, hnumber⟩ := List.exists_mem_of_ne_nil _ hsome
    obtain ⟨n_switch, hmem, -⟩ := List.mem_filterMap.mp hnumber
    obtain ⟨hswitch, hbutton⟩ := List.mem_filter.mp hmem
    exact ⟨n_switch, hswitch, hbutton⟩
  · rintro ⟨n_switch, hswitch, hbutton⟩
    obtain ⟨number, hread⟩ := (hreads n_switch hswitch).2 (asBool_eq_ok.mpr hbutton)
    have hmem : n_switch ∈ switches.filter (isButton cpp) :=
      List.mem_filter.mpr ⟨hswitch, hbutton⟩
    exact List.ne_nil_of_mem (List.mem_filterMap.mpr ⟨n_switch, hmem, number16_of_ok hread⟩)

/-- The switches of a loaded document read as the walk over the groups needs. -/
theorem buttonReads_loaded {H : EventHeader} {configFile : String} {ppuc : Ppuc}
    (hload : Returns (loadConfiguration H cpp configFile config ppuc).1) :
    ∀ n_switch ∈ config.allSwitches, ButtonReads cpp n_switch := by
  have hshape := shape_switchGroups (loads_iff.mp (returns_loadConfiguration.mp hload))
  obtain ⟨hmatrix, hswitches⟩ :=
    (returns_parseSwitchGroups hshape).mp ⟨_, switchGroups_loadConfiguration hload⟩
  intro n_switch hmem
  rcases List.mem_append.mp hmem with hmem | hmem
  · cases hdefined : (config.get "switchMatrix").isDefined with
    | true => exact hmatrix hdefined n_switch hmem
    | false =>
      -- without a matrix there are no matrix switches
      rw [Yaml.eq_undefined hdefined] at hmem
      exact absurd hmem List.not_mem_nil
  · exact hswitches n_switch hmem

/-- **The groups of a loaded document**: a name is a group if and only if the
    document has it, with exactly the document's numbers, in ascending order
    and each once.  No document declares `buttons`; there is such a group if
    and only if there is a button. -/
theorem loaded_switchGroups {H : EventHeader} {configFile : String} {ppuc : Ppuc}
    (hload : Returns (loadConfiguration H cpp configFile config ppuc).1) (name : String) :
    let groups := (loadConfiguration H cpp configFile config ppuc).2.switchGroups
    ((groups.lookup name).isSome = (groupOf cpp config name).isSome) ∧
      (∀ numbers, groups.lookup name = some numbers →
        numbers.Pairwise (· < ·) ∧
          ∀ number, number ∈ numbers ↔ number ∈ (groupOf cpp config name).getD []) ∧
      config.declaredGroup "buttons" = none ∧
      ((groups.lookup "buttons").isSome = true ↔
        ∃ n_switch ∈ config.allSwitches, isButton cpp n_switch = true) := by
  have hlookup := lookup_parseSwitchGroups (switchGroups_loadConfiguration hload)
  have hreserved : config.declaredGroup "buttons" = none :=
    declaredGroup_buttons (loads_iff.mp (returns_loadConfiguration.mp hload))
  dsimp only
  refine ⟨?_, ?_, hreserved, ?_⟩
  · rw [hlookup, Option.isSome_map]
  · intro numbers hnumbers
    rw [hlookup] at hnumbers
    obtain ⟨listed, hlisted, rfl⟩ := Option.map_eq_some_iff.mp hnumbers
    refine ⟨pairwise_numberSet listed, fun number => ?_⟩
    rw [mem_numberSet, hlisted]
    rfl
  · rw [hlookup, Option.isSome_map, ← buttonNumbers_ne_nil (buttonReads_loaded hload), groupOf,
      hreserved]
    by_cases hnone : buttonNumbers cpp config.allSwitches = []
    · simp [hnone]
    · simp [hnone]

end groups

namespace Reference

/-- A switch of board 1 with a button flag. -/
def flaggedSwitch (number button : String) : Yaml :=
  record [("description", scalar "switch"), ("board", scalar "1"), ("port", scalar "2"),
    ("number", scalar number), ("debounce", scalar "5"), ("button", scalar button)]

/-- Two buttons, and a group that is declared twice. -/
def groupDocument : Yaml :=
  document
    [("switches", list [flaggedSwitch "12" "true", flaggedSwitch "30" "false",
        flaggedSwitch "11" "true"]),
      ("switchGroups", record
        [("ramps", record [("switches", list [scalar "12"])]),
          ("ramps", record [("switches", list [scalar "30", scalar "11", scalar "30"])])])]

theorem loaded_switchGroups_ramps :
    let groups := (loadConfiguration header yamlCpp "groups" groupDocument emptyPpuc).2.switchGroups
    ((groups.lookup "ramps").isSome = true) ∧
      (∀ numbers, groups.lookup "ramps" = some numbers →
        numbers.Pairwise (· < ·) ∧ ∀ number, number ∈ numbers ↔ number ∈ [30, 11, 30]) ∧
      groupDocument.declaredGroup "buttons" = none ∧
      ((groups.lookup "buttons").isSome = true ↔
        ∃ n_switch ∈ groupDocument.allSwitches, isButton yamlCpp n_switch = true) :=
  loaded_switchGroups ⟨⟨⟩, rfl⟩ "ramps"

end Reference

/-! ### The Buttons of the Refresh Timer -/

namespace Startup

variable {P : Protocol} {W : Type} {H : EventHeader} {port : SerialPort W} {cpp : YamlCpp}
  {s : StartupSettings} {config : Yaml}

/-- **Step lemma**: only the setters replace the buttons. -/
theorem buttonSwitchNumbers_step {a a' : Startup P W} {x : StartupStep}
    (hstep : a.step H port x = some a') :
    a'.comm.buttonSwitchNumbers = (settled a.comm x).buttonSwitchNumbers := by
  obtain ⟨b, events, -, hcomm, -, rfl⟩ := step_settled hstep
  rw [← hcomm]
  apply sends_invariant
    (I := fun a => a.comm.buttonSwitchNumbers = b.comm.buttonSwitchNumbers) _ events rfl
  intro a event h
  obtain ⟨part, heq⟩ := Comm.sendConfigEvent_eq port event a.comm a.world
  rw [← h]
  exact (congrArg Comm.buttonSwitchNumbers heq :)

theorem buttonSwitchNumbers_settled {c : Comm P} {x : StartupStep} (hx : installs x = false) :
    (settled c x).buttonSwitchNumbers = c.buttonSwitchNumbers := by
  cases x with
  | installMappings => simp [installs] at hx
  | registerSwitchBoard board =>
    simp only [settled, Comm.registerSwitchBoard]
    split <;> rfl
  | finalizeBoardPresence =>
    obtain ⟨boards, owners, heq⟩ := Comm.finalizeConfiguredBoardPresence_eq c
    simp only [settled, heq]
  | setActiveSwitchBoards | send | abortCheck | failureCheck | pushSwitch | pushCoil | pushLamp
  | tokenRing => rfl

/-- **Run lemma**: an attempt that gets as far as `SendSetupFrame` has the
    buttons of the collected switches. -/
theorem ready_buttonSwitchNumbers {c : Comm P} {w : W} {a : Startup P W}
    (hready : startupAttempt H cpp s config port c w = .ready a) :
    ∃ items, Pass.collectSwitches cpp config = .ok items ∧
      a.comm.buttonSwitchNumbers =
        ((items.filter SwitchItem.button).map SwitchItem.number).toFinset := by
  obtain ⟨hrun, hok⟩ := startupAttempt_ready.mp hready
  obtain ⟨items, hitems, before, coils, lamps, boards, sections, hemitted, -⟩ :=
    Pass.startupPass_phases hok
  -- whatever else installs mappings would install those of the same switches
  have hinstalls : ∀ x ∈ (Pass.startupPass P H cpp s config).emitted, ∀ c : Comm P,
      c.buttonSwitchNumbers = ((items.filter SwitchItem.button).map SwitchItem.number).toFinset →
      (settled c x).buttonSwitchNumbers =
        ((items.filter SwitchItem.button).map SwitchItem.number).toFinset := by
    intro x hx c hbuttons
    cases hinstalls : installs x with
    | false => exact (buttonSwitchNumbers_settled hinstalls).trans hbuttons
    | true =>
      obtain ⟨boards, items', numbers, -, hitems', -, rfl⟩ :=
        Pass.installs_startupPass hx hinstalls
      obtain rfl := Except.ok.inj (hitems.symm.trans hitems')
      rfl
  rw [hemitted, List.append_assoc, List.cons_append] at hrun
  rw [hemitted, List.append_assoc, List.cons_append] at hinstalls
  refine ⟨items, hitems, ?_⟩
  obtain ⟨a₀, -, hrun⟩ := Transition.exec_append_some.mp hrun
  obtain ⟨a₁, hinstall, hrun⟩ := Transition.exec_cons_some.mp hrun
  refine Transition.exec_invariant_mem
    (I := fun a : Startup P W => a.comm.buttonSwitchNumbers =
      ((items.filter SwitchItem.button).map SwitchItem.number).toFinset) ?_ ?_ hrun
  · intro a x hx a' hbuttons hstep
    rw [buttonSwitchNumbers_step hstep]
    exact hinstalls x (List.mem_append_right _ (List.mem_cons_of_mem _ hx)) a.comm hbuttons
  · rw [buttonSwitchNumbers_step hinstall]
    rfl

/-- The buttons that the walk of the startup collects. -/
theorem mem_collected_buttons {items : List SwitchItem}
    (hitems : Pass.collectSwitches cpp config = .ok items) (number : UInt16) :
    number ∈ (items.filter SwitchItem.button).map SwitchItem.number ↔
      number ∈ buttonNumbers cpp config.allSwitches := by
  have hround : ∀ items n_switch items', Pass.collectSwitch cpp items n_switch = .ok items' →
      (number ∈ (items'.filter SwitchItem.button).map SwitchItem.number ↔
        number ∈ (items.filter SwitchItem.button).map SwitchItem.number ∨
          number ∈ buttonNumbers cpp [n_switch]) := by
    intro items n_switch items' hok
    obtain ⟨k, hk, hok⟩ := ok_of_bind hok
    obtain ⟨button, hbutton, hok⟩ := ok_of_bind hok
    obtain ⟨board, -, hok⟩ := ok_of_bind hok
    obtain rfl := Except.ok.inj hok
    have hmarked := readOptional_button hbutton
    cases button <;> simp [buttonNumbers, hmarked, number16_of_ok hk]
  have hlisted : ∀ switches : List Yaml,
      (∃ n_switch ∈ switches, number ∈ buttonNumbers cpp [n_switch]) ↔
        number ∈ buttonNumbers cpp switches := by
    intro switches
    induction switches with
    | nil => simp [buttonNumbers]
    | cons n_switch switches ih =>
      rw [← List.singleton_append, buttonNumbers_append, List.mem_append, ← ih]
      simp
  obtain ⟨matrix, hmatrix, hswitches⟩ := ok_of_bind hitems
  rw [collected_foldlM hround hswitches, collected_foldlM hround hmatrix, hlisted, hlisted,
    Yaml.allSwitches, buttonNumbers_append, List.mem_append]
  simp

/-- **The refresh timer and the rules see the same buttons**: after the startup
    of a loaded document, the switches that leave the refresh timer alone are
    those of the group `buttons`. -/
theorem ready_buttons {configFile : String} {ppuc : Ppuc} {c : Comm P} {w : W} {a : Startup P W}
    (hload : Returns (loadConfiguration H cpp configFile config ppuc).1)
    (hready : startupAttempt H cpp s config port c w = .ready a) (number : UInt16) :
    number ∈ a.comm.buttonSwitchNumbers ↔
      number ∈ ((loadConfiguration H cpp configFile config ppuc).2.switchGroups.lookup
        "buttons").getD [] := by
  obtain ⟨items, hitems, hbuttons⟩ := ready_buttonSwitchNumbers hready
  rw [hbuttons, List.mem_toFinset, mem_collected_buttons hitems,
    lookup_parseSwitchGroups (switchGroups_loadConfiguration hload), groupOf,
    declaredGroup_buttons (loads_iff.mp (returns_loadConfiguration.mp hload))]
  generalize buttonNumbers cpp config.allSwitches = numbers
  by_cases hnone : numbers = []
  · simp [hnone]
  · simp [hnone, mem_numberSet]

end Startup

namespace Reference

/-- Board 1 is skipped. -/
def skippingSettings : StartupSettings := { settings with skippedBoards := {1} }

theorem ready_buttons_11_and_12 :
    ∃ a, startupAttempt header yamlCpp skippingSettings groupDocument port comm {} = .ready a ∧
      ∀ number, number ∈ a.comm.buttonSwitchNumbers ↔
        number ∈ ((loadConfiguration header yamlCpp "groups" groupDocument
          emptyPpuc).2.switchGroups.lookup "buttons").getD [] := by
  have hready : (startupAttempt header yamlCpp skippingSettings groupDocument port comm
      {}).attempt.isSome = true := by decide +kernel
  obtain ⟨a, ha⟩ := Option.isSome_iff_exists.mp hready
  have hready := AttemptEnd.ready_of_attempt ha
  exact ⟨a, hready, Startup.ready_buttons ⟨⟨⟩, rfl⟩ hready⟩

end Reference

end LibPpuc
