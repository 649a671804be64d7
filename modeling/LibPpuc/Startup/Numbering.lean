import LibPpuc.Comm.Announcement
import LibPpuc.Startup.Sections

/-! # The Numbers of a Document

  `startupAttempt` collects the numbers of each domain from five sections
  with different filters, and installs the mappings built from them.
  `DocumentNumber` says which numbers a document gives a domain.  The walk
  collects exactly these, and no later step of an attempt touches the
  mappings again, so host and boards agree from the mapping step on.
-/

namespace LibPpuc

/-- The item belongs to a board that is not skipped. -/
def OnBoard (cpp : YamlCpp) (skippedBoards : Finset UInt8) (item : Yaml) : Prop :=
  ∃ board, cpp.asUInt8 (item.get "board") = .ok board ∧ board ∉ skippedBoards

/-- A number that the document gives a domain, under a skip set.  Switches
    count on skipped boards too. -/
inductive DocumentNumber (cpp : YamlCpp) (skippedBoards : Finset UInt8) (config : Yaml) :
    Domain → UInt16 → Prop where
  | gameOnSolenoid {number : UInt8}
    (hnumber : cpp.asUInt8 (config.get "gameOnSolenoid") = .ok number) :
    DocumentNumber cpp skippedBoards config .coil number.toUInt16
  | coil {n_pwmOutput : Yaml} {c_type : String} {number : UInt16}
    (hmem : n_pwmOutput ∈ (config.get "pwmOutput").items)
    (hboard : OnBoard cpp skippedBoards n_pwmOutput)
    (htype : cpp.asString (n_pwmOutput.get "type") = .ok c_type) (hlamp : c_type ≠ "lamp")
    (hnumber : cpp.asUInt16 (n_pwmOutput.get "number") = .ok number) :
    DocumentNumber cpp skippedBoards config .coil number
  | flasher {n_ledStripe n_flasher : Yaml} {number : UInt16}
    (hmem : n_ledStripe ∈ (config.get "ledStripes").items)
    (hboard : OnBoard cpp skippedBoards n_ledStripe)
    (hflasher : n_flasher ∈ (n_ledStripe.get "flashers").items)
    (hnumber : cpp.asUInt16 (n_flasher.get "number") = .ok number) :
    DocumentNumber cpp skippedBoards config .coil number
  | lamp {n_pwmOutput : Yaml} {number : UInt16}
    (hmem : n_pwmOutput ∈ (config.get "pwmOutput").items)
    (hboard : OnBoard cpp skippedBoards n_pwmOutput)
    (htype : cpp.asString (n_pwmOutput.get "type") = .ok "lamp")
    (hnumber : cpp.asUInt16 (n_pwmOutput.get "number") = .ok number) :
    DocumentNumber cpp skippedBoards config .lamp number
  | ledLamp {n_ledStripe n_lamp : Yaml} {number : UInt16}
    (hmem : n_ledStripe ∈ (config.get "ledStripes").items)
    (hboard : OnBoard cpp skippedBoards n_ledStripe)
    (hlamp : n_lamp ∈ (n_ledStripe.get "lamps").items)
    (hnumber : cpp.asUInt16 (n_lamp.get "number") = .ok number) :
    DocumentNumber cpp skippedBoards config .lamp number
  | matrixSwitch {n_switch : Yaml} {number : UInt16}
    (hmem : n_switch ∈ ((config.get "switchMatrix").get "switches").items)
    (hnumber : cpp.asUInt16 (n_switch.get "number") = .ok number) :
    DocumentNumber cpp skippedBoards config .switch number
  | dedicatedSwitch {n_switch : Yaml} {number : UInt16}
    (hmem : n_switch ∈ (config.get "switches").items)
    (hnumber : cpp.asUInt16 (n_switch.get "number") = .ok number) :
    DocumentNumber cpp skippedBoards config .switch number

/-! ### Collecting in a Loop -/

section collecting

variable {α β γ : Type}

/-- A computation that returns has returned at each step. -/
theorem ok_of_bind {r : Except Failure α} {f : α → Except Failure β} {b : β}
    (h : r >>= f = .ok b) : ∃ a, r = .ok a ∧ f a = .ok b := by
  cases r with
  | ok a => exact ⟨a, rfl, h⟩
  | error e => exact nomatch h

/-- **Loop rule**: what one round adds to a collection, the loop adds for
    all items. -/
theorem collected_foldlM {f : β → γ → Except Failure β} {In : β → Prop} {Adds : γ → Prop}
    (hround : ∀ b x b', f b x = .ok b' → (In b' ↔ In b ∨ Adds x)) {xs : List γ} {b b' : β}
    (hok : xs.foldlM f b = .ok b') : In b' ↔ In b ∨ ∃ x ∈ xs, Adds x := by
  induction xs generalizing b with
  | nil =>
    obtain rfl := Except.ok.inj hok
    simp
  | cons x xs ih =>
    rw [List.foldlM_cons] at hok
    obtain ⟨c, hfirst, hrest⟩ := ok_of_bind hok
    rw [ih hrest, hround b x c hfirst, or_assoc]
    simp only [List.mem_cons, exists_eq_or_imp]

/-- What a loop that converts every item returns. -/
theorem mem_mapM {f : γ → Except Failure α} {xs : List γ} {ys : List α}
    (hok : xs.mapM f = .ok ys) (y : α) : y ∈ ys ↔ ∃ x ∈ xs, f x = .ok y := by
  induction xs generalizing ys with
  | nil =>
    obtain rfl := Except.ok.inj hok
    simp
  | cons x xs ih =>
    rw [List.mapM_cons] at hok
    obtain ⟨a, hfirst, hok⟩ := ok_of_bind hok
    obtain ⟨as, hrest, hok⟩ := ok_of_bind hok
    obtain rfl := Except.ok.inj hok
    simp only [List.mem_cons, exists_eq_or_imp, ih hrest, hfirst, Except.ok.injEq]
    rw [eq_comm]

end collecting

namespace Pass

open Emitter

variable {P : Protocol} {H : EventHeader} {cpp : YamlCpp} {s : StartupSettings} {config : Yaml}

/-! ### Switches -/

/-- One round adds the number of its switch. -/
theorem mem_collectSwitch {items items' : List SwitchItem} {n_switch : Yaml}
    (hok : collectSwitch cpp items n_switch = .ok items') (k : UInt16) :
    k ∈ items'.map SwitchItem.number ↔
      k ∈ items.map SwitchItem.number ∨ cpp.asUInt16 (n_switch.get "number") = .ok k := by
  obtain ⟨number, hnumber, hok⟩ := ok_of_bind hok
  obtain ⟨button, -, hok⟩ := ok_of_bind hok
  obtain ⟨board, -, hok⟩ := ok_of_bind hok
  obtain rfl := Except.ok.inj hok
  rw [hnumber, List.map_append, List.mem_append]
  simp [eq_comm]

/-- **The switch domain.** -/
theorem mem_collectSwitches {items : List SwitchItem}
    (hok : collectSwitches cpp config = .ok items) (k : UInt16) :
    k ∈ items.map SwitchItem.number ↔ DocumentNumber cpp s.skippedBoards config .switch k := by
  obtain ⟨matrix, hmatrix, hswitches⟩ := ok_of_bind hok
  have hround := fun items n_switch items'
    (h : collectSwitch cpp items n_switch = .ok items') => mem_collectSwitch h k
  rw [collected_foldlM hround hswitches, collected_foldlM hround hmatrix]
  constructor
  · rintro ((hnone | ⟨n_switch, hmem, hnumber⟩) | ⟨n_switch, hmem, hnumber⟩)
    · exact absurd hnone List.not_mem_nil
    · exact .matrixSwitch hmem hnumber
    · exact .dedicatedSwitch hmem hnumber
  · intro h
    cases h with
    | matrixSwitch hmem hnumber => exact Or.inl (Or.inr ⟨_, hmem, hnumber⟩)
    | dedicatedSwitch hmem hnumber => exact Or.inr ⟨_, hmem, hnumber⟩

/-! ### Outputs -/

/-- The output is no lamp, or is one, and has the number. -/
def OutputHas (cpp : YamlCpp) (skippedBoards : Finset UInt8) (lamp : Bool) (k : UInt16)
    (n_pwmOutput : Yaml) : Prop :=
  OnBoard cpp skippedBoards n_pwmOutput ∧
    (∃ c_type, cpp.asString (n_pwmOutput.get "type") = .ok c_type ∧
      (c_type = "lamp" ↔ lamp = true)) ∧
    cpp.asUInt16 (n_pwmOutput.get "number") = .ok k

/-- One round adds the number of its output to its domain. -/
theorem mem_collectOutput {numbers numbers' : OutputNumbers} {n_pwmOutput : Yaml}
    (hok : collectOutput cpp s numbers n_pwmOutput = .ok numbers') (k : UInt16) :
    (k ∈ numbers'.coilNumbers ↔
      k ∈ numbers.coilNumbers ∨ OutputHas cpp s.skippedBoards false k n_pwmOutput) ∧
    (k ∈ numbers'.lampNumbers ↔
      k ∈ numbers.lampNumbers ∨ OutputHas cpp s.skippedBoards true k n_pwmOutput) := by
  unfold OutputHas OnBoard
  obtain ⟨board, hboard, hok⟩ := ok_of_bind hok
  rw [hboard]
  split at hok
  · next hskipped =>
    obtain rfl := Except.ok.inj hok
    simp [hskipped]
  · next hskipped =>
    obtain ⟨c_type, htype, hok⟩ := ok_of_bind hok
    obtain ⟨number, hnumber, hok⟩ := ok_of_bind hok
    rw [htype, hnumber]
    split at hok
    · next hlamp =>
      obtain rfl := Except.ok.inj hok
      simp [hskipped, hlamp, eq_comm]
    · next hlamp =>
      obtain rfl := Except.ok.inj hok
      simp [hskipped, hlamp, eq_comm]

/-- One round adds the numbers of its stripe. -/
theorem mem_collectStripe {numbers numbers' : OutputNumbers} {n_ledStripe : Yaml}
    (hok : collectStripe cpp s numbers n_ledStripe = .ok numbers') (k : UInt16) :
    (k ∈ numbers'.coilNumbers ↔
      k ∈ numbers.coilNumbers ∨ (OnBoard cpp s.skippedBoards n_ledStripe ∧
        ∃ n_flasher ∈ (n_ledStripe.get "flashers").items,
          cpp.asUInt16 (n_flasher.get "number") = .ok k)) ∧
    (k ∈ numbers'.lampNumbers ↔
      k ∈ numbers.lampNumbers ∨ (OnBoard cpp s.skippedBoards n_ledStripe ∧
        ∃ n_lamp ∈ (n_ledStripe.get "lamps").items,
          cpp.asUInt16 (n_lamp.get "number") = .ok k)) := by
  unfold OnBoard
  obtain ⟨board, hboard, hok⟩ := ok_of_bind hok
  rw [hboard]
  split at hok
  · next hskipped =>
    obtain rfl := Except.ok.inj hok
    simp [hskipped]
  · next hskipped =>
    obtain ⟨lamps, hlamps, hok⟩ := ok_of_bind hok
    obtain ⟨flashers, hflashers, hok⟩ := ok_of_bind hok
    obtain rfl := Except.ok.inj hok
    rw [List.mem_append, List.mem_append, mem_mapM hlamps, mem_mapM hflashers]
    simp [hskipped]

/-- **The output domains.** -/
theorem mem_collectOutputs {numbers : OutputNumbers}
    (hok : collectOutputs cpp s config = .ok numbers) (k : UInt16) :
    ((k ∈ numbers.coilNumbers ∨
        ∃ n, cpp.asUInt8 (config.get "gameOnSolenoid") = .ok n ∧ k = n.toUInt16) ↔
      DocumentNumber cpp s.skippedBoards config .coil k) ∧
    (k ∈ numbers.lampNumbers ↔ DocumentNumber cpp s.skippedBoards config .lamp k) := by
  obtain ⟨outputs, houtputs, hstripes⟩ := ok_of_bind hok
  have houtput := fun numbers n_pwmOutput numbers'
    (h : collectOutput cpp s numbers n_pwmOutput = .ok numbers') => mem_collectOutput h k
  have hstripe := fun numbers n_ledStripe numbers'
    (h : collectStripe cpp s numbers n_ledStripe = .ok numbers') => mem_collectStripe h k
  -- coils come from the game-on solenoid, the outputs and the flashers
  constructor
  · rw [collected_foldlM (fun b x b' h => (hstripe b x b' h).1) hstripes,
      collected_foldlM (fun b x b' h => (houtput b x b' h).1) houtputs]
    constructor
    · rintro (((hnone | ⟨item, hmem, hboard, ⟨c_type, htype, hlamp⟩, hnumber⟩) |
        ⟨item, hmem, hboard, n_flasher, hflasher, hnumber⟩) | ⟨n, hnumber, rfl⟩)
      · exact absurd hnone List.not_mem_nil
      · exact .coil hmem hboard htype (by simpa using hlamp) hnumber
      · exact .flasher hmem hboard hflasher hnumber
      · exact .gameOnSolenoid hnumber
    · intro h
      cases h with
      | gameOnSolenoid hnumber => exact Or.inr ⟨_, hnumber, rfl⟩
      | coil hmem hboard htype hlamp hnumber =>
        exact Or.inl (Or.inl (Or.inr ⟨_, hmem, hboard, ⟨_, htype, by simpa using hlamp⟩, hnumber⟩))
      | flasher hmem hboard hflasher hnumber =>
        exact Or.inl (Or.inr ⟨_, hmem, hboard, _, hflasher, hnumber⟩)
  · -- lamps from the other outputs and the stripes
    rw [collected_foldlM (fun b x b' h => (hstripe b x b' h).2) hstripes,
      collected_foldlM (fun b x b' h => (houtput b x b' h).2) houtputs]
    constructor
    · rintro ((hnone | ⟨item, hmem, hboard, ⟨c_type, htype, hlamp⟩, hnumber⟩) |
        ⟨item, hmem, hboard, n_lamp, hled, hnumber⟩)
      · exact absurd hnone List.not_mem_nil
      · obtain rfl : c_type = "lamp" := hlamp.mpr rfl
        exact .lamp hmem hboard htype hnumber
      · exact .ledLamp hmem hboard hled hnumber
    · intro h
      cases h with
      | lamp hmem hboard htype hnumber =>
        exact Or.inl (Or.inr ⟨_, hmem, hboard, ⟨_, htype, by simp⟩, hnumber⟩)
      | ledLamp hmem hboard hlamp hnumber =>
        exact Or.inr ⟨_, hmem, hboard, _, hlamp, hnumber⟩

/-! ### The Game-On Solenoid -/

/-- If some board is not skipped, the loop has read the document's number. -/
theorem gameOnSolenoid_boardsPass {boards : Boards}
    (hok : (boardsPass H cpp s config).result = .ok boards)
    (hboard : ∃ board ∈ configuredBoards cpp config, board ∉ s.skippedBoards) :
    cpp.asUInt8 (config.get "gameOnSolenoid") = .ok boards.gameOnSolenoid := by
  have hloop : ∀ (items : List Yaml) (boards boards' : Boards),
      (items.foldlM (boardPass H cpp s config) boards).result = .ok boards' →
      (cpp.asUInt8 (config.get "gameOnSolenoid") = .ok boards.gameOnSolenoid ∨
        ∃ n_board ∈ items, ∃ board, cpp.asUInt8 (n_board.get "number") = .ok board ∧
          board ∉ s.skippedBoards) →
      cpp.asUInt8 (config.get "gameOnSolenoid") = .ok boards'.gameOnSolenoid := by
    intro items
    induction items with
    | nil =>
      intro boards boards' hok hread
      obtain rfl := Except.ok.inj hok
      simpa using hread
    | cons n_board items ih =>
      intro boards boards' hok hread
      rw [List.foldlM_cons] at hok
      obtain ⟨next, hround, hrest⟩ := result_bind_ok.mp hok
      obtain ⟨board, hnumber, hround⟩ := boardPass_ok hround
      apply ih next boards' hrest
      split at hround
      · next hskipped =>
        -- a skipped board reads nothing, so it is another one
        obtain rfl := hround
        rcases hread with hbefore | ⟨n_board', hmem, board', hnumber', hunskipped⟩
        · exact Or.inl hbefore
        · rcases List.mem_cons.mp hmem with rfl | hlater
          · obtain rfl := Except.ok.inj (hnumber.symm.trans hnumber')
            exact absurd hskipped hunskipped
          · exact Or.inr ⟨n_board', hlater, board', hnumber', hunskipped⟩
      · obtain ⟨gameOnSolenoid, -, hgame, -, rfl⟩ := hround
        exact Or.inl hgame
  obtain ⟨board, hmem, hunskipped⟩ := hboard
  obtain ⟨n_board, hitem, hnumber⟩ := mem_configuredBoards.mp hmem
  exact hloop _ _ _ hok (Or.inr ⟨n_board, hitem, board, hnumber, hunskipped⟩)

/-! ### The Mapping Step -/

/-- What the mapping step of a pass installs. -/
def MapsDocument (H : EventHeader) (cpp : YamlCpp) (s : StartupSettings) (config : Yaml)
    (x : StartupStep) : Prop :=
  ∃ boards items numbers, (boardsPass H cpp s config).result = .ok boards ∧
    collectSwitches cpp config = .ok items ∧ collectOutputs cpp s config = .ok numbers ∧
    x = .installMappings (boards.gameOnSolenoid.toUInt16 :: numbers.coilNumbers)
      numbers.lampNumbers items boards.configuredBoards s.skippedBoards

theorem installs_of_keepsSkips {x : StartupStep} (h : Startup.KeepsSkips x) :
    Startup.installs x = false := by
  cases x with
  | installMappings _ _ _ _ skippedBoards =>
    have hempty : skippedBoards = ∅ := h ∅
    have hsome : skippedBoards = {0} := h {0}
    rw [hempty] at hsome
    contradiction
  | _ => rfl

/-- **The pass installs the document's mappings, and nothing else.** -/
theorem installs_startupPass {x : StartupStep}
    (hx : x ∈ (startupPass P H cpp s config).emitted) (hinstalls : Startup.installs x = true) :
    MapsDocument H cpp s config x := by
  have honly : Only (fun x => Startup.installs x = true → MapsDocument H cpp s config x)
      (startupPass P H cpp s config) := by
    have hquiet : ∀ x, Startup.installs x = false →
        Startup.installs x = true → MapsDocument H cpp s config x := by
      intro x hfalse htrue
      rw [hfalse] at htrue
      exact Bool.noConfusion htrue
    have hcheck : ∀ x, Startup.installs x = false →
        Only (fun x => Startup.installs x = true → MapsDocument H cpp s config x)
          (emit x : Pass PUnit) := fun x hfalse => only_emit (hquiet x hfalse)
    -- pass after pass: only the mapping pass installs, and it reads the document
    apply only_bind_ok
    · intro x hmem
      exact hquiet x (installs_of_keepsSkips (Startup.boardsPass_keepsSkips x hmem))
    intro boards hboards
    apply only_bind (hcheck .abortCheck rfl)
    intro _
    apply only_bind
    · unfold mappingPass
      refine only_bind_ok (only_ofExcept _) fun items hitems => ?_
      refine only_bind_ok (only_ofExcept _) fun numbers hnumbers => ?_
      refine only_emit fun _ => ?_
      exact ⟨boards, items, numbers, hboards, hitems, hnumbers, rfl⟩
    intro _
    apply only_bind
    · intro x hmem
      apply hquiet x
      have hsends := onlySends_sectionsPass config x hmem
      cases x with
      | installMappings => exact Bool.noConfusion hsends
      | _ => rfl
    intro _
    apply only_bind
    · -- the ring sends and waits
      have hring : ∀ (done : UInt8) (delay : UInt32) (boards : List UInt8),
          ∀ x ∈ ringSteps done delay boards, Startup.installs x = false := by
        intro done delay boards
        induction boards with
        | nil => exact fun x hmem => absurd hmem List.not_mem_nil
        | cons board boards ih =>
          intro x hmem
          rcases List.mem_cons.mp hmem with rfl | hrest
          · rfl
          · exact ih x hrest
      rw [tokenRingPass_eq]
      intro x hmem
      apply hquiet x
      rcases List.mem_cons.mp hmem with rfl | hmem
      · rfl
      · rcases List.mem_cons.mp hmem with rfl | hmem
        · rfl
        · exact hring _ _ _ x hmem
    intro _
    apply only_bind (hcheck .abortCheck rfl)
    intro _
    exact hcheck .failureCheck rfl
  exact honly x hx hinstalls

end Pass

/-! ### The Mappings along an Attempt -/

namespace Comm

variable {P : Protocol} {W : Type}

theorem mappings_sendConfigEvent (port : SerialPort W) (event : ConfigEvent) (c : Comm P)
    (w : W) : (c.sendConfigEvent port event w).comm.mappings = c.mappings := by
  obtain ⟨part, heq⟩ := sendConfigEvent_eq port event c w
  rw [heq]
  rfl

end Comm

namespace Startup

variable {P : Protocol} {W : Type} {H : EventHeader} {port : SerialPort W} {cpp : YamlCpp}
  {s : StartupSettings} {config : Yaml} {pos : Nat → Nat}

/-- Only the mapping step changes the mappings. -/
theorem mappings_step {a a' : Startup P W} {x : StartupStep} (hx : installs x = false)
    (hstep : a.step H port x = some a') : a'.comm.mappings = a.comm.mappings := by
  obtain ⟨b, events, -, hcomm, -, rfl⟩ := step_settled hstep
  have hsettled : (settled a.comm x).mappings = a.comm.mappings := by
    cases x with
    | installMappings => exact Bool.noConfusion hx
    | registerSwitchBoard board =>
      simp only [settled, Comm.registerSwitchBoard]
      split <;> rfl
    | finalizeBoardPresence =>
      obtain ⟨boards, owners, heq⟩ := Comm.finalizeConfiguredBoardPresence_eq a.comm
      simp only [settled, heq]
      rfl
    | setActiveSwitchBoards boards => rfl
    | send | abortCheck | failureCheck | pushSwitch | pushCoil | pushLamp | tokenRing => rfl
  rw [← hsettled, ← hcomm]
  apply sends_invariant (I := fun a => a.comm.mappings = b.comm.mappings) _ events rfl
  intro a event h
  exact (Comm.mappings_sendConfigEvent port event a.comm a.world).trans h

/-- **Step lemma**: the mapping step of a document makes host and boards
    agree on the document's numbers. -/
theorem agrees_of_mapsDocument (hP : P.Lawful pos) {x : StartupStep}
    (hx : Pass.MapsDocument H cpp s config x)
    (hboard : ∃ board ∈ Pass.configuredBoards cpp config, board ∉ s.skippedBoards)
    (hunused : ∀ d, ∃ k, ¬ DocumentNumber cpp s.skippedBoards config d k)
    {a a' : Startup P W} (hstep : a.step H port x = some a') :
    MappingAgreement P (DocumentNumber cpp s.skippedBoards config) a'.comm.mappings := by
  obtain ⟨boards, items, numbers, hboards, hitems, hnumbers, rfl⟩ := hx
  obtain rfl := Option.some.inj hstep
  have hgame := Pass.gameOnSolenoid_boardsPass hboards hboard
  have hconfig := Comm.runtimeConfig_installMappings hP
    (boards.gameOnSolenoid.toUInt16 :: numbers.coilNumbers) numbers.lampNumbers items
    boards.configuredBoards s.skippedBoards a.comm
  apply Comm.mappingAgreement_of_domains hP
  intro d
  cases d with
  | coil =>
    have hcoils : ∀ k, k ∈ boards.gameOnSolenoid.toUInt16 :: numbers.coilNumbers ↔
        DocumentNumber cpp s.skippedBoards config .coil k := by
      intro k
      rw [← (Pass.mem_collectOutputs hnumbers k).1, hgame, List.mem_cons, or_comm]
      simp
    exact Domain.agrees_of_mapping hP hcoils (hunused .coil) rfl rfl
      (congrArg RuntimeConfig.coilBits hconfig)
  | lamp =>
    exact Domain.agrees_of_mapping hP (fun k => (Pass.mem_collectOutputs hnumbers k).2)
      (hunused .lamp) rfl rfl (congrArg RuntimeConfig.lampBits hconfig)
  | switch =>
    exact Domain.agrees_of_mapping hP (Pass.mem_collectSwitches hitems) (hunused .switch) rfl rfl
      (congrArg RuntimeConfig.switchBits hconfig)

/-- **Host and boards mean the same by every number**: at the mapping step of
    an attempt and at every later point of it, in each domain the maps are
    inverse to each other, the frames tell exactly their pairs, they cover the
    smallest numbers of the document, and an event sets exactly the bit that
    the boards were told means its number. -/
theorem mapping_agrees (hP : P.Lawful pos) {c : Comm P} {w : W} {steps : List StartupStep}
    {a : Startup P W} (hsteps : steps <+: (Pass.startupPass P H cpp s config).emitted)
    (hmapped : ∃ x ∈ steps, installs x = true)
    (hrun : Transition.exec (step H port) (start c w) steps = some a)
    (hboard : ∃ board ∈ Pass.configuredBoards cpp config, board ∉ s.skippedBoards)
    (hunused : ∀ d, ∃ k, ¬ DocumentNumber cpp s.skippedBoards config d k) :
    MappingAgreement P (DocumentNumber cpp s.skippedBoards config) a.comm.mappings := by
  -- a step that installs something installs the document's mappings
  have hinstalled : ∀ x ∈ steps, installs x = true → ∀ (b b' : Startup P W),
      b.step H port x = some b' →
        MappingAgreement P (DocumentNumber cpp s.skippedBoards config) b'.comm.mappings := by
    intro x hx hinstalls b b' hstep
    exact agrees_of_mapsDocument hP
      (Pass.installs_startupPass (hsteps.subset hx) hinstalls) hboard hunused hstep
  obtain ⟨x, hx, hinstalls⟩ := hmapped
  obtain ⟨before, later, rfl⟩ := List.append_of_mem hx
  obtain ⟨b, -, hrun⟩ := Transition.exec_append_some.mp hrun
  obtain ⟨b', hstep, hlater⟩ := Transition.exec_cons_some.mp hrun
  apply Transition.exec_invariant_mem (I := fun b : Startup P W =>
    MappingAgreement P (DocumentNumber cpp s.skippedBoards config) b.comm.mappings) _
    (hinstalled x hx hinstalls b b' hstep) hlater
  intro b y hy b' hagrees hstep
  by_cases hmaps : installs y = true
  · exact hinstalled y (List.mem_append_right _ (List.mem_cons_of_mem _ hy)) hmaps b b' hstep
  · rw [mappings_step (Bool.eq_false_iff.mpr hmaps) hstep]
    exact hagrees

end Startup

namespace Reference

/-- An output on board 1. -/
def pwmOutput (c_type number : String) : Yaml :=
  record
    ([("description", scalar "output"), ("board", scalar "1"), ("type", scalar c_type),
      ("number", scalar number)] ++
      ["port", "power", "minPulseTime", "maxPulseTime", "holdPower", "holdPowerActivationTime",
        "fastFlipSwitch"].map fun field => (field, scalar "1"))

/-- A document with coil 10, lamp 20 and the game-on solenoid 6. -/
def outputDocument : Yaml :=
  document [("pwmOutput", list [pwmOutput "solenoid" "10", pwmOutput "lamp" "20"])]

/-- At its mapping step the coils 6 and 10 get the bits 0 and 1, and the
    boards are told so. -/
theorem coils_6_and_10_agree :
    Accepted header yamlCpp outputDocument ∧
      ∃ a, Transition.exec (Startup.step header port)
          (Startup.start comm { rounds := 9, replies := boardAcks })
          ((Pass.startupPass protocol header yamlCpp settings outputDocument).emitted.take 6) =
            some a ∧
        a.comm.mappings.announced .coil = [(0, 6), (1, 10)] ∧
        MappingAgreement protocol (DocumentNumber yamlCpp settings.skippedBoards outputDocument)
          a.comm.mappings := by
  refine ⟨⟨"", emptyPpuc, ⟨⟨⟩, rfl⟩⟩, ?_⟩
  have hannounced : (Transition.exec (Startup.step header port)
      (Startup.start comm { rounds := 9, replies := boardAcks })
      ((Pass.startupPass protocol header yamlCpp settings outputDocument).emitted.take 6)).map
        (fun a => a.comm.mappings.announced .coil) = some [(0, 6), (1, 10)] := by decide +kernel
  obtain ⟨a, hrun, hcoils⟩ := Option.map_eq_some_iff.mp hannounced
  refine ⟨a, hrun, hcoils, Startup.mapping_agrees protocol_lawful (List.take_prefix _ _) ?_ hrun
    ⟨1, by decide +kernel, by decide⟩ ?_⟩
  · apply List.any_eq_true.mp
    decide +kernel
  · -- no domain has the number 9
    have houtputs : Pass.collectOutputs yamlCpp settings outputDocument = .ok ⟨[10], [20]⟩ := rfl
    have hswitches : Pass.collectSwitches yamlCpp outputDocument = .ok [] := rfl
    have hgame : yamlCpp.asUInt8 (outputDocument.get "gameOnSolenoid") = .ok 6 := rfl
    obtain ⟨hcoil, hlamp⟩ := Pass.mem_collectOutputs houtputs 9
    intro d
    refine ⟨9, ?_⟩
    cases d with
    | coil =>
      rw [← hcoil, hgame]
      rintro (hmem | ⟨n, hn, hnumber⟩)
      · exact absurd hmem (by decide)
      · obtain rfl := Except.ok.inj hn
        exact absurd hnumber (by decide)
    | lamp =>
      rw [← hlamp]
      decide
    | switch =>
      rw [← Pass.mem_collectSwitches hswitches]
      exact List.not_mem_nil

end Reference

end LibPpuc
