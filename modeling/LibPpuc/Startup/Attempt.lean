import LibPpuc.Comm.Config
import LibPpuc.Comm.Output
import LibPpuc.Comm.Switch
import LibPpuc.Startup.Pass

/-! # Running a Startup Attempt

  The steps of the startup pass, run against a session, a port and a world.
  A step that has no successor ends the attempt: the two checks return.
  The run keeps a list of its calls of `SendConfigEvent`, with the skip set,
  the result and the traffic of each.
-/

namespace LibPpuc

/-- A call of `SendConfigEvent` that has returned. -/
structure ConfigCall where
  event : ConfigEvent
  /-- The skip set of `RS485Comm` at the call. -/
  skippedBoards : Finset UInt8
  outcome : SendOutcome
  traffic : List Traffic
  deriving DecidableEq

/-- The state of a startup attempt. -/
structure Startup (P : Protocol) (W : Type) where
  comm : Comm P
  world : W
  calls : List ConfigCall
  switches : List PPUCSwitch
  coils : List PPUCCoil
  lamps : List PPUCLamp

namespace Startup

variable {P : Protocol} {W : Type}

/-- An attempt begins: the three lists are cleared. -/
def start (c : Comm P) (w : W) : Startup P W :=
  { comm := c, world := w, calls := [], switches := [], coils := [], lamps := [] }

/-- A call of `SendConfigEvent`. -/
def send (port : SerialPort W) (event : ConfigEvent) (a : Startup P W) : Startup P W :=
  let r := a.comm.sendConfigEvent port event a.world
  { a with
    comm := r.comm
    world := r.world
    calls :=
      a.calls ++
        [{ event := event, skippedBoards := a.comm.skippedBoards, outcome := r.outcome,
           traffic := r.traffic }] }

/-- The first token ring event of a board. -/
def nextBoardEvent (H : EventHeader) (current next : UInt8) : ConfigEvent :=
  { boardId := current
    topic := H.CONFIG_TOPIC_SWITCH_CHAIN
    index := 0
    key := H.CONFIG_TOPIC_NEXT_BOARD
    value := next.toUInt32 }

/-- The second one. -/
def replyDelayEvent (H : EventHeader) (current : UInt8) (switchReplyDelayUs : UInt32) :
    ConfigEvent :=
  { boardId := current
    topic := H.CONFIG_TOPIC_SWITCH_CHAIN
    index := 1
    key := H.CONFIG_TOPIC_SWITCH_REPLY_DELAY_US
    value := switchReplyDelayUs }

/-- One step of an attempt. -/
def step (H : EventHeader) (port : SerialPort W) (a : Startup P W) :
    StartupStep → Option (Startup P W)
  | .send event => some (a.send port event)
  | .registerSwitchBoard board => some { a with comm := a.comm.registerSwitchBoard board }
  | .abortCheck => if a.comm.shouldAbortConfigurationEarly then none else some a
  | .failureCheck => if a.comm.hadConfigurationFailure then none else some a
  | .installMappings coilNumbers lampNumbers items configuredBoards skippedBoards =>
    some
      { a with
        comm :=
          a.comm.installMappings coilNumbers lampNumbers items configuredBoards skippedBoards }
  | .pushSwitch entry => some { a with switches := a.switches ++ [entry] }
  | .pushCoil entry => some { a with coils := a.coils ++ [entry] }
  | .pushLamp board port type number description color =>
    some
      { a with
        lamps := a.lamps ++
          [{ board := board, port := port.toUInt8, type := type, number := number.toUInt8,
             description := description, color := color }] }
  | .finalizeBoardPresence => some { a with comm := a.comm.finalizeConfiguredBoardPresence }
  | .setActiveSwitchBoards boards => some { a with comm := a.comm.setActiveSwitchBoards boards }
  | .tokenRing current next switchReplyDelayUs =>
    if current ∈ a.comm.presentBoards then
      some ((a.send port (nextBoardEvent H current next)).send port
        (replyDelayEvent H current switchReplyDelayUs))
    else some a

end Startup

/-- How a startup attempt ends. -/
inductive AttemptEnd (P : Protocol) (W : Type) where
  /-- It gets as far as `SendSetupFrame`. -/
  | ready (a : Startup P W)
  /-- It returned at a check. -/
  | stopped
  | threw (e : Failure)

/-- `startupAttempt` up to `SendSetupFrame`. -/
def startupAttempt {P : Protocol} {W : Type} (H : EventHeader) (cpp : YamlCpp)
    (s : StartupSettings) (config : Yaml) (port : SerialPort W) (c : Comm P) (w : W) :
    AttemptEnd P W :=
  match Transition.exec (Startup.step H port) (Startup.start c w)
      (Pass.startupPass P H cpp s config).emitted with
  | none => .stopped
  | some a =>
    match (Pass.startupPass P H cpp s config).result with
    | .ok _ => .ready a
    | .error e => .threw e

/-- An attempt that gets as far as `SendSetupFrame` has run all its steps. -/
theorem startupAttempt_ready {P : Protocol} {W : Type} {H : EventHeader} {cpp : YamlCpp}
    {s : StartupSettings} {config : Yaml} {port : SerialPort W} {c : Comm P} {w : W}
    {a : Startup P W} :
    startupAttempt H cpp s config port c w = .ready a ↔
      Transition.exec (Startup.step H port) (Startup.start c w)
          (Pass.startupPass P H cpp s config).emitted = some a ∧
        (Pass.startupPass P H cpp s config).result = .ok ⟨⟩ := by
  unfold startupAttempt
  split
  · next hnone => simp [hnone]
  · next a' hrun =>
    split
    · next u hok => simp [hrun, hok]
    · next e herror => simp [herror]

/-- The frame builder puts the tuple into bytes 5 to 8. -/
def Protocol.CarriesTuple (P : Protocol) : Prop :=
  ∀ (nextBoard sequence epoch : UInt8) (event : ConfigEvent),
    tupleOf (P.buildConfigFrame nextBoard sequence epoch event.boardId event.topic event.index
      event.key event.value) = event.tuple

namespace Startup

variable {P : Protocol} {W : Type} {H : EventHeader} {port : SerialPort W}

/-! ### What a Step Keeps -/

/-- The last call of `SendConfigEvent`, and what it did. -/
theorem send_effect (port : SerialPort W) (event : ConfigEvent) (a : Startup P W) :
    ∃ r : Comm.SentConfig P W, Comm.SendEffect port event a.comm r ∧
      a.send port event = { a with
        comm := r.comm
        world := r.world
        calls := a.calls ++ [⟨event, a.comm.skippedBoards, r.outcome, r.traffic⟩] } :=
  ⟨_, Comm.sendConfigEvent_effect port event a.comm a.world, rfl⟩

/-- The flags that the checks of an attempt look at, once raised, and the
    port. -/
structure Sticky (c c' : Comm P) : Prop where
  portOpen : c'.portOpen = c.portOpen
  failed : c.hadConfigurationFailure = true → c'.hadConfigurationFailure = true
  aborted : c.shouldAbortConfigurationEarly = true → c'.shouldAbortConfigurationEarly = true

theorem Sticky.refl (c : Comm P) : Sticky c c := ⟨rfl, id, id⟩

theorem Sticky.trans {c c' c'' : Comm P} (h : Sticky c c') (h' : Sticky c' c'') : Sticky c c'' :=
  ⟨h'.portOpen.trans h.portOpen, h'.failed ∘ h.failed, h'.aborted ∘ h.aborted⟩

/-- Operations that leave the flags alone. -/
theorem Sticky.of_eq {c c' : Comm P} (hport : c'.portOpen = c.portOpen)
    (hfailed : c'.hadConfigurationFailure = c.hadConfigurationFailure)
    (haborted : c'.shouldAbortConfigurationEarly = c.shouldAbortConfigurationEarly) :
    Sticky c c' :=
  ⟨hport, fun h => hfailed.trans h, fun h => haborted.trans h⟩

end Startup

namespace Comm

variable {P : Protocol} {W : Type}

/-- A missed frame leaves its trace. -/
theorem noteConfigMiss_kept (port : SerialPort W) (w : W) (frame : ConfigTuple) (c : Comm P) :
    (c.noteConfigMiss port w frame).portOpen = c.portOpen ∧
      (c.noteConfigMiss port w frame).configFailed = true ∧
      (c.noteConfigMiss port w frame).skippedBoards = c.skippedBoards ∧
      (c.noteConfigMiss port w frame).presentBoards = c.presentBoards := by
  obtain ⟨log, streak, misses, abortBoard, logged, heq⟩ := noteConfigMiss_eq port w frame c
  rw [heq]
  exact ⟨rfl, rfl, rfl, rfl⟩

/-- What every outcome keeps. -/
theorem SendEffect.kept {port : SerialPort W} {event : ConfigEvent} {c : Comm P}
    {r : SentConfig P W} (h : SendEffect port event c r) :
    Startup.Sticky c r.comm ∧ r.comm.skippedBoards = c.skippedBoards := by
  cases h with
  | noPort => exact ⟨Startup.Sticky.refl c, rfl⟩
  | abortedEarly => exact ⟨Startup.Sticky.refl c, rfl⟩
  | skipped => exact ⟨Startup.Sticky.of_eq rfl rfl rfl, rfl⟩
  | writeFailed => exact ⟨Startup.Sticky.of_eq rfl rfl rfl, rfl⟩
  | acknowledged hready =>
    refine ⟨⟨rfl, id, ?_⟩, rfl⟩
    intro habort
    exact nomatch hready.2.symm.trans habort
  | unacknowledged hready =>
    obtain ⟨hport, hfailed, hskipped, -⟩ := noteConfigMiss_kept port _ _ _
    refine ⟨⟨hport, fun _ => hfailed, ?_⟩, hskipped⟩
    intro habort
    exact nomatch hready.2.symm.trans habort

end Comm

namespace Startup

variable {P : Protocol} {W : Type} {H : EventHeader} {port : SerialPort W}

theorem sticky_send (port : SerialPort W) (event : ConfigEvent) (a : Startup P W) :
    Sticky a.comm (a.send port event).comm ∧
      (a.send port event).comm.skippedBoards = a.comm.skippedBoards := by
  obtain ⟨r, heffect, heq⟩ := send_effect port event a
  rw [heq]
  exact heffect.kept

/-- The step installs a mapping. -/
def installs : StartupStep → Bool
  | .installMappings .. => true
  | _ => false

/-- The skip set after a step. -/
def skippedAfter (skipped : Finset UInt8) : StartupStep → Finset UInt8
  | .installMappings _ _ _ _ skippedBoards => skippedBoards
  | _ => skipped

/-- The event lists that a step may send: both token ring events or none. -/
def eventsOf (H : EventHeader) : StartupStep → List (List ConfigEvent)
  | .send event => [[event]]
  | .tokenRing current next switchReplyDelayUs =>
    [[], [nextBoardEvent H current next, replyDelayEvent H current switchReplyDelayUs]]
  | _ => [[]]

/-- A sequence of calls. -/
def sends (port : SerialPort W) (events : List ConfigEvent) (a : Startup P W) : Startup P W :=
  events.foldl (fun a event => a.send port event) a

/-- A step that sends nothing. -/
structure Quiet (x : StartupStep) (a b : Startup P W) : Prop where
  calls : b.calls = a.calls
  sticky : Sticky a.comm b.comm
  skipped : b.comm.skippedBoards = skippedAfter a.comm.skippedBoards x

/-- The flags and the port depend on few members. -/
theorem Sticky.of_members {c c' : Comm P} (hport : c'.portOpen = c.portOpen)
    (hfailed : c'.configFailed = c.configFailed)
    (hboard : c'.configEarlyAbortBoard = c.configEarlyAbortBoard)
    (hpresent : c'.presentBoards = c.presentBoards)
    (hstreak : c'.initialConfigAckMissStreak = c.initialConfigAckMissStreak) : Sticky c c' := by
  apply Sticky.of_eq hport hfailed
  unfold Comm.shouldAbortConfigurationEarly
  rw [hboard, hpresent, hstreak]

/-- The setters leave the flags alone. -/
theorem installMappings_kept (coilNumbers lampNumbers : List UInt16) (items : List SwitchItem)
    (configuredBoards : List UInt8) (skippedBoards : Finset UInt8) (c : Comm P) :
    let c' := c.installMappings coilNumbers lampNumbers items configuredBoards skippedBoards
    Sticky c c' ∧ c'.skippedBoards = skippedBoards := by
  have hmappings : ∀ (c : Comm P) coils lamps switches,
      Sticky c (c.setMappings coils lamps switches) :=
    fun c _ _ _ => Sticky.of_members rfl rfl rfl rfl rfl
  have hruntime : ∀ (c : Comm P) cfg, Sticky c (c.setRuntimeConfig cfg) :=
    fun c _ => Sticky.of_members rfl rfl rfl rfl rfl
  have hboards : ∀ (c : Comm P) boards, Sticky c (c.setConfiguredBoards boards) :=
    fun c _ => Sticky.of_members rfl rfl rfl rfl rfl
  have hnumbers : ∀ (c : Comm P) numbers, Sticky c (c.setSwitchNumbersByBoard numbers) :=
    fun c _ => Sticky.of_members rfl rfl rfl rfl rfl
  have hbuttons : ∀ (c : Comm P) numbers, Sticky c (c.setButtonSwitchNumbers numbers) :=
    fun c _ => Sticky.of_members rfl rfl rfl rfl rfl
  have hskipped : ∀ (c : Comm P) boards, Sticky c (c.setSkippedBoards boards) :=
    fun c _ => Sticky.of_members rfl rfl rfl rfl rfl
  refine ⟨?_, rfl⟩
  exact (((((hmappings c _ _ _).trans (hruntime _ _)).trans (hboards _ _)).trans
    (hnumbers _ _)).trans (hbuttons _ _)).trans (hskipped _ _)

/-- The object after the setters of a step, which come before all it sends. -/
def settled (c : Comm P) : StartupStep → Comm P
  | .registerSwitchBoard board => c.registerSwitchBoard board
  | .installMappings coilNumbers lampNumbers items configuredBoards skippedBoards =>
    c.installMappings coilNumbers lampNumbers items configuredBoards skippedBoards
  | .finalizeBoardPresence => c.finalizeConfiguredBoardPresence
  | .setActiveSwitchBoards boards => c.setActiveSwitchBoards boards
  | _ => c

/-- A check lets an attempt go on unchanged, or ends it. -/
theorem step_abortCheck {a a' : Startup P W} (h : a.step H port .abortCheck = some a') :
    a.comm.shouldAbortConfigurationEarly = false ∧ a' = a := by
  obtain ⟨hclear, hsame⟩ := Option.ite_none_left_eq_some.mp h
  exact ⟨by simpa using hclear, (Option.some.inj hsame).symm⟩

theorem step_failureCheck {a a' : Startup P W} (h : a.step H port .failureCheck = some a') :
    a.comm.hadConfigurationFailure = false ∧ a' = a := by
  obtain ⟨hclear, hsame⟩ := Option.ite_none_left_eq_some.mp h
  exact ⟨by simpa using hclear, (Option.some.inj hsame).symm⟩

/-- **Inversion lemma** of a step: it calls its setters, then sends. -/
theorem step_settled {a a' : Startup P W} {x : StartupStep} (h : a.step H port x = some a') :
    ∃ (b : Startup P W) (events : List ConfigEvent), b.calls = a.calls ∧
      b.comm = settled a.comm x ∧ events ∈ eventsOf H x ∧ a' = b.sends port events := by
  have hquiet : [] ∈ eventsOf H x → a'.calls = a.calls → a'.comm = settled a.comm x →
      ∃ (b : Startup P W) (events : List ConfigEvent), b.calls = a.calls ∧
        b.comm = settled a.comm x ∧ events ∈ eventsOf H x ∧ a' = b.sends port events :=
    fun hnone hcalls hcomm => ⟨a', [], hcalls, hcomm, hnone, rfl⟩
  cases x with
  | send event =>
    obtain rfl := Option.some.inj h
    exact ⟨a, [event], rfl, rfl, List.mem_singleton_self _, rfl⟩
  | abortCheck =>
    obtain ⟨-, rfl⟩ := step_abortCheck h
    exact hquiet (List.mem_singleton_self _) rfl rfl
  | failureCheck =>
    obtain ⟨-, rfl⟩ := step_failureCheck h
    exact hquiet (List.mem_singleton_self _) rfl rfl
  | registerSwitchBoard | installMappings | pushSwitch | pushCoil | pushLamp
  | finalizeBoardPresence | setActiveSwitchBoards =>
    obtain rfl := Option.some.inj h
    exact hquiet (List.mem_singleton_self _) rfl rfl
  | tokenRing current next switchReplyDelayUs =>
    simp only [step] at h
    split at h
    · obtain rfl := Option.some.inj h
      exact ⟨a, _, rfl, rfl, List.mem_cons_of_mem _ (List.mem_singleton_self _), rfl⟩
    · obtain rfl := Option.some.inj h
      exact hquiet List.mem_cons_self rfl rfl

/-- The setters leave the flags alone, and only one of them sets the skip set. -/
theorem settled_kept (c : Comm P) (x : StartupStep) :
    Sticky c (settled c x) ∧ (settled c x).skippedBoards = skippedAfter c.skippedBoards x := by
  cases x with
  | registerSwitchBoard board =>
    simp only [settled, Comm.registerSwitchBoard]
    split
    · exact ⟨Sticky.of_members rfl rfl rfl rfl rfl, rfl⟩
    · exact ⟨Sticky.refl _, rfl⟩
  | installMappings coilNumbers lampNumbers items configuredBoards skippedBoards =>
    exact installMappings_kept coilNumbers lampNumbers items configuredBoards skippedBoards c
  | finalizeBoardPresence =>
    obtain ⟨boards, owners, heq⟩ := Comm.finalizeConfiguredBoardPresence_eq c
    simp only [settled, heq]
    exact ⟨Sticky.of_members rfl rfl rfl rfl rfl, rfl⟩
  | setActiveSwitchBoards boards => exact ⟨Sticky.of_members rfl rfl rfl rfl rfl, rfl⟩
  | send | abortCheck | failureCheck | pushSwitch | pushCoil | pushLamp | tokenRing =>
    exact ⟨Sticky.refl c, rfl⟩

/-- A step changes the session quietly, then it sends. -/
theorem step_effect {a a' : Startup P W} {x : StartupStep} (h : a.step H port x = some a') :
    ∃ b events, Quiet x a b ∧ events ∈ eventsOf H x ∧ a' = b.sends port events := by
  obtain ⟨b, events, hcalls, hcomm, hmem, rfl⟩ := step_settled h
  obtain ⟨hsticky, hskipped⟩ := settled_kept a.comm x
  exact ⟨b, events, ⟨hcalls, hcomm ▸ hsticky, hcomm ▸ hskipped⟩, hmem, rfl⟩

/-- What every call keeps, a sequence of calls keeps. -/
theorem sends_invariant {I : Startup P W → Prop} {port : SerialPort W}
    (hsend : ∀ a event, I a → I (a.send port event)) (events : List ConfigEvent)
    {a : Startup P W} (h : I a) : I (a.sends port events) := by
  induction events generalizing a with
  | nil => exact h
  | cons event events ih => exact ih (hsend a event h)

/-- A sequence of calls keeps raised flags and the skip set. -/
theorem sends_kept (port : SerialPort W) (events : List ConfigEvent) (a : Startup P W) :
    Sticky a.comm (a.sends port events).comm ∧
      (a.sends port events).comm.skippedBoards = a.comm.skippedBoards := by
  apply sends_invariant (I := fun b => Sticky a.comm b.comm ∧
    b.comm.skippedBoards = a.comm.skippedBoards) _ events ⟨Sticky.refl _, rfl⟩
  intro b event h
  obtain ⟨hsend, hskipped⟩ := sticky_send port event b
  exact ⟨h.1.trans hsend, hskipped.trans h.2⟩

/-- Raised flags stay raised, and only the setters change the skip set. -/
theorem step_kept {a a' : Startup P W} {x : StartupStep} (h : a.step H port x = some a') :
    Sticky a.comm a'.comm ∧ a'.comm.skippedBoards = skippedAfter a.comm.skippedBoards x := by
  obtain ⟨b, events, hquiet, -, rfl⟩ := step_effect h
  obtain ⟨hsticky, hskipped⟩ := sends_kept port events b
  exact ⟨hquiet.sticky.trans hsticky, hskipped.trans hquiet.skipped⟩

end Startup

end LibPpuc
