import LibPpuc.Startup.TokenRing

/-! # The Sections of a Document

  The sections after the mappings send config events and fill the lists of
  the application.  They install nothing.  So the switch setup of a session
  is the one that the setters built from the switches of the document,
  whatever the boards answer; finalizing the presence of the boards only
  adds which of them are virtualized.
-/

namespace LibPpuc

/-- The step sends an event, extends a list of the application, or is a check. -/
def Startup.sendsOrLists : StartupStep → Bool
  | .send _ | .pushSwitch _ | .pushCoil _ | .pushLamp .. | .abortCheck | .failureCheck => true
  | _ => false

namespace Pass

open Emitter

variable {P : Protocol} {H : EventHeader} {cpp : YamlCpp} {s : StartupSettings}

/-- The part of the pass only sends, fills lists and checks. -/
def OnlySends {α : Type} (p : Pass α) : Prop := Only (fun x => Startup.sendsOrLists x = true) p

namespace OnlySends

variable {α β : Type} {p : Pass α} {f : α → Pass β}

theorem emit {x : StartupStep} (h : Startup.sendsOrLists x = true) :
    OnlySends (Emitter.emit x : Pass PUnit) := only_emit h

theorem bind (hp : OnlySends p) (hf : ∀ a, OnlySends (f a)) : OnlySends (p >>= f) :=
  only_bind hp hf

theorem seq {q : Pass β} (hp : OnlySends p) (hq : OnlySends q) :
    OnlySends (p >>= fun _ => q) := hp.bind fun _ => hq

/-- A conversion, then the rest. -/
theorem read {r : Except Failure α} (h : ∀ a, OnlySends (f a)) :
    OnlySends (ofExcept r >>= f) := only_bind (only_ofExcept r) h

theorem onlyIf {c : Prop} [Decidable c] {body : Pass Unit} (h : OnlySends body) :
    OnlySends (onlyIf c body) := by
  unfold LibPpuc.onlyIf
  split
  · exact h
  · exact only_pure _

theorem forM {γ : Type} {f : γ → Pass PUnit} {xs : List γ} (h : ∀ y, OnlySends (f y)) :
    OnlySends (xs.forM f) := by
  induction xs with
  | nil => exact only_pure _
  | cons y ys ih => exact (h y).seq ih

end OnlySends

open OnlySends

/-! ### The Walk through the Sections -/

theorem onlySends_send (board topic index key : UInt8) (value : UInt32) :
    OnlySends (send board topic index key value) := .emit rfl

theorem onlySends_sendItem (item : Yaml) (topic index key : UInt8)
    (value : Except Failure UInt32) : OnlySends (sendItem cpp item topic index key value) :=
  .read fun _ => .read fun _ => onlySends_send _ _ _ _ _

theorem onlySends_printDescription (item : Yaml) : OnlySends (printDescription cpp s item) :=
  .onlyIf (only_ofExcept _)

theorem onlySends_unlessSkipped {item : Yaml} {body : Pass Unit} (h : OnlySends body) :
    OnlySends (unlessSkipped cpp s item body) := .read fun _ => .onlyIf h

theorem onlySends_pushSwitch (n_switch : Yaml) : OnlySends (pushSwitch cpp n_switch) :=
  .read fun _ => .read fun _ => .read fun _ => .read fun _ => .read fun _ => .emit rfl

theorem onlySends_pushCoil (n_pwmOutput : Yaml) (type : UInt8) :
    OnlySends (pushCoil cpp n_pwmOutput type) :=
  .read fun _ => .read fun _ => .read fun _ => .read fun _ => .read fun _ => .emit rfl

theorem onlySends_switchMatrixPass (switchMatrix : Yaml) :
    OnlySends (switchMatrixPass H cpp s switchMatrix) := by
  apply onlySends_unlessSkipped
  apply (onlySends_sendItem _ _ _ _ _).seq
  apply (onlySends_sendItem _ _ _ _ _).seq
  apply OnlySends.forM
  intro n_switch
  apply (onlySends_printDescription _).seq
  apply OnlySends.seq _ (onlySends_pushSwitch _)
  apply onlySends_unlessSkipped
  exact (onlySends_sendItem _ _ _ _ _).seq (onlySends_sendItem _ _ _ _ _)

theorem onlySends_switchPass (n_switch : Yaml) : OnlySends (switchPass H cpp s n_switch) := by
  apply (onlySends_printDescription _).seq
  apply OnlySends.seq _ ((onlySends_pushSwitch _).seq (.emit rfl))
  apply onlySends_unlessSkipped
  apply (onlySends_sendItem _ _ _ _ _).seq
  apply (onlySends_sendItem _ _ _ _ _).seq
  exact (onlySends_sendItem _ _ _ _ _).seq (onlySends_sendItem _ _ _ _ _)

theorem onlySends_sendTriggerConfig (board : UInt8) (port type source number value : UInt32) :
    OnlySends (sendTriggerConfig H board port type source number value) := by
  apply (onlySends_send _ _ _ _ _).seq
  apply (onlySends_send _ _ _ _ _).seq
  apply (onlySends_send _ _ _ _ _).seq
  exact (onlySends_send _ _ _ _ _).seq (onlySends_send _ _ _ _ _)

theorem onlySends_effectTriggersPass (item effect : Yaml) (type : UInt8) (context : String) :
    OnlySends (effectTriggersPass H cpp item effect type context) := by
  apply OnlySends.read
  intro board
  apply OnlySends.read
  intro port
  apply OnlySends.seq
  · apply OnlySends.onlyIf
    apply OnlySends.read
    intro name
    apply OnlySends.onlyIf
    apply OnlySends.read
    intro value
    exact onlySends_sendTriggerConfig _ _ _ _ _ _
  · apply OnlySends.onlyIf
    apply OnlySends.read
    intro name
    apply OnlySends.read
    intro source
    apply OnlySends.read
    intro number
    apply OnlySends.read
    intro value
    split
    · exact only_ofExcept _
    · exact onlySends_sendTriggerConfig _ _ _ _ _ _

theorem onlySends_pwmOutputPass (n_pwmOutput : Yaml) :
    OnlySends (pwmOutputPass H cpp s n_pwmOutput) := by
  have hsend : ∀ topic index key value,
      OnlySends (sendItem cpp n_pwmOutput topic index key value) := onlySends_sendItem n_pwmOutput
  apply onlySends_unlessSkipped
  apply (onlySends_printDescription _).seq
  apply (hsend _ _ _ _).seq
  apply (hsend _ _ _ _).seq
  apply (hsend _ _ _ _).seq
  apply (hsend _ _ _ _).seq
  apply (hsend _ _ _ _).seq
  apply (hsend _ _ _ _).seq
  apply (hsend _ _ _ _).seq
  apply (hsend _ _ _ _).seq
  apply OnlySends.read
  intro c_type
  apply (hsend _ _ _ _).seq
  apply OnlySends.seq _ ((onlySends_pushCoil _ _).seq (.emit rfl))
  apply OnlySends.forM
  intro n_pwm_effect
  apply (hsend _ _ _ _).seq
  apply (hsend _ _ _ _).seq
  apply (hsend _ _ _ _).seq
  apply (hsend _ _ _ _).seq
  apply (hsend _ _ _ _).seq
  apply (hsend _ _ _ _).seq
  apply (hsend _ _ _ _).seq
  apply (hsend _ _ _ _).seq
  apply (hsend _ _ _ _).seq
  exact (onlySends_effectTriggersPass _ _ _ _).seq (.emit rfl)

theorem onlySends_ledEffectPass (n_ledStripe n_led_effect : Yaml) :
    OnlySends (ledEffectPass H cpp n_ledStripe n_led_effect) := by
  have hsend : ∀ topic index key value,
      OnlySends (sendItem cpp n_ledStripe topic index key value) := onlySends_sendItem n_ledStripe
  apply (hsend _ _ _ _).seq
  apply (hsend _ _ _ _).seq
  apply OnlySends.read
  intro colors
  apply (hsend _ _ _ _).seq
  apply (hsend _ _ _ _).seq
  apply (hsend _ _ _ _).seq
  apply (hsend _ _ _ _).seq
  apply (hsend _ _ _ _).seq
  apply (hsend _ _ _ _).seq
  apply (hsend _ _ _ _).seq
  apply (hsend _ _ _ _).seq
  apply (hsend _ _ _ _).seq
  apply (hsend _ _ _ _).seq
  apply (hsend _ _ _ _).seq
  exact (onlySends_effectTriggersPass _ _ _ _).seq (.emit rfl)

theorem onlySends_sendLedConfigBlock (n_ledStripe : Yaml) (field : String) (type : UInt8) :
    OnlySends (sendLedConfigBlock H cpp n_ledStripe field type) := by
  apply OnlySends.read
  intro board
  apply OnlySends.read
  intro port
  apply OnlySends.forM
  intro entry
  -- one item of the block
  apply (OnlySends.emit rfl).seq
  apply OnlySends.read
  intro description
  apply OnlySends.read
  intro number
  apply OnlySends.read
  intro ledNumber
  apply OnlySends.read
  intro color
  apply (onlySends_send _ _ _ _ _).seq
  apply (onlySends_send _ _ _ _ _).seq
  apply (onlySends_send _ _ _ _ _).seq
  apply (onlySends_send _ _ _ _ _).seq
  exact (onlySends_send _ _ _ _ _).seq (.emit rfl)

theorem onlySends_ledStripePass (n_ledStripe : Yaml) :
    OnlySends (ledStripePass H cpp s n_ledStripe) := by
  have hsend : ∀ topic index key value,
      OnlySends (sendItem cpp n_ledStripe topic index key value) := onlySends_sendItem n_ledStripe
  apply onlySends_unlessSkipped
  apply (hsend _ _ _ _).seq
  apply (hsend _ _ _ _).seq
  apply (hsend _ _ _ _).seq
  apply (hsend _ _ _ _).seq
  apply (hsend _ _ _ _).seq
  apply (hsend _ _ _ _).seq
  apply OnlySends.seq
  · -- the segments
    apply only_foldlM
    intro index n_segment _
    apply (hsend _ _ _ _).seq
    apply (hsend _ _ _ _).seq
    apply (hsend _ _ _ _).seq
    apply (hsend _ _ _ _).seq
    exact (OnlySends.emit rfl).seq (only_pure _)
  · apply (OnlySends.forM fun _ => onlySends_ledEffectPass _ _).seq
    apply (onlySends_sendLedConfigBlock _ _ _).seq
    apply (onlySends_sendLedConfigBlock _ _ _).seq
    exact (onlySends_sendLedConfigBlock _ _ _).seq (.emit rfl)

/-- **The sections only send and fill lists.** -/
theorem onlySends_sectionsPass (config : Yaml) : OnlySends (sectionsPass H cpp s config) := by
  apply (OnlySends.onlyIf (onlySends_switchMatrixPass _)).seq
  apply (OnlySends.emit rfl).seq
  apply (OnlySends.forM fun _ => onlySends_switchPass _).seq
  apply (OnlySends.emit rfl).seq
  apply (OnlySends.forM fun _ => onlySends_pwmOutputPass _).seq
  apply (OnlySends.emit rfl).seq
  apply (OnlySends.forM fun _ => onlySends_ledStripePass _).seq
  exact (OnlySends.emit rfl).seq (.emit rfl)

/-- **The phases of a pass that returns**: the setters get the switches of the
    document, the sections only send, and the token ring comes last. -/
theorem startupPass_phases {config : Yaml}
    (hok : (startupPass P H cpp s config).result = .ok ⟨⟩) :
    ∃ items, collectSwitches cpp config = .ok items ∧
      ∃ before coilNumbers lampNumbers configuredBoards sections,
        (startupPass P H cpp s config).emitted =
          before ++ .installMappings coilNumbers lampNumbers items configuredBoards
            s.skippedBoards :: sections ++ .finalizeBoardPresence ::
              .setActiveSwitchBoards (pollEventsBoards cpp s config) ::
              (ringSteps P.kNoBoard s.switchReplyDelayUs (pollEventsBoards cpp s config) ++
                [.abortCheck, .failureCheck]) ∧
        ∀ x ∈ sections, Startup.sendsOrLists x = true := by
  obtain ⟨boards, hboards, hrest⟩ := result_bind_ok.mp hok
  obtain ⟨_, -, hrest⟩ := result_bind_ok.mp hrest
  obtain ⟨_, hmapping, hrest⟩ := result_bind_ok.mp hrest
  obtain ⟨_, hsections, -⟩ := result_bind_ok.mp hrest
  have hmappings := hmapping
  obtain ⟨items, hitems, hmapping⟩ := result_bind_ok.mp hmapping
  obtain ⟨numbers, hnumbers, -⟩ := result_bind_ok.mp hmapping
  -- what comes behind the sections
  let ring : Pass Unit := do
    tokenRingPass P s boards.switchBoards
    emit .abortCheck
    emit .failureCheck
  have hring : ring.emitted = .finalizeBoardPresence ::
      .setActiveSwitchBoards (pollEventsBoards cpp s config) ::
      (ringSteps P.kNoBoard s.switchReplyDelayUs (pollEventsBoards cpp s config) ++
        [.abortCheck, .failureCheck]) := by
    show (tokenRingPass P s boards.switchBoards >>= _).emitted = _
    rw [switchBoards_boardsPass hboards, tokenRingPass_eq]
    rfl
  have hemitted : (startupPass P H cpp s config).emitted =
      (boardsPass H cpp s config).emitted ++ _ := emitted_bind_ok hboards
  have hmapped : (mappingPass cpp s config boards >>= fun _ =>
      sectionsPass H cpp s config >>= fun _ => ring).emitted =
        (mappingPass cpp s config boards).emitted ++
          ((sectionsPass H cpp s config).emitted ++ ring.emitted) := by
    rw [emitted_bind_ok hmappings, emitted_bind_ok hsections]
  -- the mapping pass installs once
  have hinstalled : (mappingPass cpp s config boards).emitted =
      [.installMappings (boards.gameOnSolenoid.toUInt16 :: numbers.coilNumbers)
        numbers.lampNumbers items boards.configuredBoards s.skippedBoards] := by
    unfold mappingPass
    rw [show collectSwitches cpp config = .ok items from hitems, ofExcept_ok_bind,
      show collectOutputs cpp s config = .ok numbers from hnumbers, ofExcept_ok_bind]
    rfl
  refine ⟨items, hitems, (boardsPass H cpp s config).emitted ++ [.abortCheck],
    boards.gameOnSolenoid.toUInt16 :: numbers.coilNumbers, numbers.lampNumbers,
    boards.configuredBoards, (sectionsPass H cpp s config).emitted, ?_,
    onlySends_sectionsPass config⟩
  rw [hemitted, List.append_assoc, List.append_assoc]
  apply congrArg
  show StartupStep.abortCheck :: (mappingPass cpp s config boards >>= fun _ =>
    sectionsPass H cpp s config >>= fun _ => ring).emitted = _
  rw [hmapped, hinstalled, hring]
  rfl

end Pass

namespace Startup

variable {P : Protocol} {W : Type} {H : EventHeader} {port : SerialPort W}

/-! ### The Setup at the End of an Attempt -/

theorem switchStore_sends (port : SerialPort W) (events : List ConfigEvent) (a : Startup P W) :
    (a.sends port events).comm.switchStore = a.comm.switchStore := by
  apply sends_invariant (I := fun b => b.comm.switchStore = a.comm.switchStore) _ events rfl
  intro b event h
  exact (Comm.switchStore_sendConfigEvent port event b.comm b.world).trans h

/-- **Step lemma**: what only sends and fills lists leaves the switch state
    alone. -/
theorem switchStore_step {a a' : Startup P W} {x : StartupStep} (hx : sendsOrLists x = true)
    (hstep : a.step H port x = some a') : a'.comm.switchStore = a.comm.switchStore := by
  obtain ⟨b, events, -, hcomm, -, rfl⟩ := step_settled hstep
  have hsettled : settled a.comm x = a.comm := by
    cases x with
    | send | pushSwitch | pushCoil | pushLamp | abortCheck | failureCheck => rfl
    | installMappings | registerSwitchBoard | finalizeBoardPresence | setActiveSwitchBoards
    | tokenRing => exact Bool.noConfusion hx
  rw [switchStore_sends, hcomm, hsettled]

/-- No setter touches the switch bitmap or the events for the application. -/
theorem switchBitmap_settled (c : Comm P) (x : StartupStep) :
    (settled c x).switchBitmap = c.switchBitmap ∧ (settled c x).switches = c.switches := by
  cases x with
  | registerSwitchBoard board =>
    simp only [settled, Comm.registerSwitchBoard]
    split <;> exact ⟨rfl, rfl⟩
  | finalizeBoardPresence =>
    obtain ⟨boards, owners, heq⟩ := Comm.finalizeConfiguredBoardPresence_eq c
    rw [show settled c .finalizeBoardPresence = _ from heq]
    exact ⟨rfl, rfl⟩
  | installMappings | setActiveSwitchBoards => exact ⟨rfl, rfl⟩
  | send | abortCheck | failureCheck | pushSwitch | pushCoil | pushLamp | tokenRing =>
    exact ⟨rfl, rfl⟩

/-- **Step lemma**: nor does any step of an attempt. -/
theorem switchBitmap_step {a a' : Startup P W} {x : StartupStep}
    (hstep : a.step H port x = some a') :
    a'.comm.switchBitmap = a.comm.switchBitmap ∧ a'.comm.switches = a.comm.switches := by
  obtain ⟨b, events, -, hcomm, -, rfl⟩ := step_settled hstep
  have hstore := switchStore_sends port events b
  obtain ⟨hbitmap, hswitches⟩ := switchBitmap_settled a.comm x
  rw [← hcomm] at hbitmap hswitches
  constructor
  · exact (congrArg SwitchStore.switchBitmap hstore :).trans hbitmap
  · exact (congrArg SwitchStore.switches hstore :).trans hswitches

/-- The switch state between the setters and `FinalizeConfiguredBoardPresence`,
    in an attempt for the switches `items` that started from `c`. -/
structure Installed (items : List SwitchItem) (c b : Comm P) : Prop where
  setup : b.SetUpFor items
  mapping : b.switchIndexToNumber = domainMapping P.kMaxSwitchBits (items.map SwitchItem.number)
  latch : b.boardPresenceFinalized = false
  bitmap : b.switchBitmap = c.switchBitmap
  switches : b.switches = c.switches

theorem Installed.of_store {items : List SwitchItem} {c b b' : Comm P} (h : Installed items c b)
    (heq : b'.switchStore = b.switchStore) : Installed items c b' where
  setup := by
    apply h.setup.of_setup
    rw [Comm.switchSetup_of_switchStore heq]
  mapping := (congrArg SwitchStore.switchIndexToNumber heq :).trans h.mapping
  latch := (congrArg SwitchStore.boardPresenceFinalized heq :).trans h.latch
  bitmap := (congrArg SwitchStore.switchBitmap heq :).trans h.bitmap
  switches := (congrArg SwitchStore.switches heq :).trans h.switches

/-- **Run lemma**: an attempt that gets as far as `SendSetupFrame` finalizes
    the presence of the boards once, in a state that is installed for the
    switches of the document. -/
theorem ready_installed {pos : Nat → Nat} (hP : P.Lawful pos) (hcarries : P.CarriesTuple)
    {cpp : YamlCpp} {s : StartupSettings} {config : Yaml} {c : Comm P} {w : W} {a : Startup P W}
    (hready : startupAttempt H cpp s config port c w = .ready a) :
    ∃ items, Pass.collectSwitches cpp config = .ok items ∧
      ∃ b, Installed items c b ∧
        a.comm.presentBoards = b.finalizeConfiguredBoardPresence.presentBoards ∧
        a.comm.switchStore = (b.finalizeConfiguredBoardPresence.setActiveSwitchBoards
          (Pass.pollEventsBoards cpp s config)).switchStore := by
  obtain ⟨-, hok⟩ := startupAttempt_ready.mp hready
  obtain ⟨done, b, hsteps, hrun, hpresent, hstore, -⟩ := ready_beforeRing hcarries hready
  obtain ⟨items, hitems, before, coilNumbers, lampNumbers, configuredBoards, sections, hphases,
    hsections⟩ := Pass.startupPass_phases hok
  obtain rfl := List.append_cancel_right (hphases.symm.trans hsteps)
  refine ⟨items, hitems, b.comm, ?_, hpresent, hstore⟩
  obtain ⟨b₀, hbefore, hrun⟩ := Transition.exec_append_some.mp hrun
  obtain ⟨b₁, hinstall, hrun⟩ := Transition.exec_cons_some.mp hrun
  -- no step up to the setters touches bitmap and events
  have hkept : ∀ (b b' : Startup P W) x,
      (b.comm.switchBitmap = c.switchBitmap ∧ b.comm.switches = c.switches) →
        b.step H port x = some b' →
          b'.comm.switchBitmap = c.switchBitmap ∧ b'.comm.switches = c.switches := by
    intro b b' x h hstep
    obtain ⟨hbitmap, hswitches⟩ := switchBitmap_step hstep
    exact ⟨hbitmap.trans h.1, hswitches.trans h.2⟩
  have hinit := Transition.exec_invariant (fun b x b' => hkept b b' x) ⟨rfl, rfl⟩ hbefore
  obtain ⟨hbitmap, hswitches⟩ := hkept b₀ b₁ _ hinit hinstall
  have hcomm : b₁.comm = b₀.comm.installMappings coilNumbers lampNumbers items configuredBoards
      s.skippedBoards := by rw [← Option.some.inj hinstall]
  have hinstalled : Installed items c b₁.comm := by
    constructor
    · rw [hcomm]
      exact Comm.setUpFor_installMappings hP coilNumbers lampNumbers items configuredBoards
        s.skippedBoards b₀.comm
    · rw [hcomm]
      rfl
    · rw [hcomm]
      rfl
    · exact hbitmap
    · exact hswitches
  -- from there on no step is a setter
  have hkeeps : ∀ (a : Startup P W), ∀ x ∈ sections, ∀ a', Installed items c a.comm →
      a.step H port x = some a' → Installed items c a'.comm :=
    fun _ x hx _ h hstep => h.of_store (switchStore_step (hsections x hx) hstep)
  exact Transition.exec_invariant_mem (I := fun a : Startup P W => Installed items c a.comm)
    hkeeps hinstalled hrun

/-- So the switch state is set up for the switches of the document. -/
theorem ready_setUpFor {pos : Nat → Nat} (hP : P.Lawful pos) (hcarries : P.CarriesTuple)
    {cpp : YamlCpp} {s : StartupSettings} {config : Yaml} {c : Comm P} {w : W} {a : Startup P W}
    (hready : startupAttempt H cpp s config port c w = .ready a) {items : List SwitchItem}
    (hitems : Pass.collectSwitches cpp config = .ok items) : a.comm.SetUpFor items := by
  obtain ⟨items', hitems', b, hinstalled, -, hstore⟩ := ready_installed hP hcarries hready
  obtain rfl : items = items' := Except.ok.inj (hitems.symm.trans hitems')
  obtain ⟨boards, owners, heq⟩ := Comm.finalizeConfiguredBoardPresence_eq b
  rw [heq] at hstore
  apply hinstalled.setup.of_setup
  rw [Comm.switchSetup_of_switchStore hstore]
  rfl

end Startup

end LibPpuc
