import LibPpuc.Framework.Simulation
import LibPpuc.Runtime.NoStarvation
import LibPpuc.Session.Isolation

/-! # One Master on the Bus

  `Connect` and `Disconnect` drive the bus from the thread of the
  application, a session drives it from its bus thread.  Nothing but the
  order of the calls keeps them apart: `Connect` does not wait for a bus
  thread that is left, `Disconnect` waits for that of `m_pThread`.

  So as long as `Connect` is called only when no bus thread is left, in every
  state that is reached one thread at most drives the bus: the bus thread of
  `m_pThread`, or the thread of the application, never both.

  Then a session of the host is a run of the bus thread and its environment,
  and keeps the discipline that such runs keep.
-/

namespace LibPpuc

/-- The blocks of `Connect` and `Disconnect` between which no bus thread runs:
    all but the wait for it. -/
def AppPc.drivesBus : AppPc → Bool
  | .idle | .joining => false
  | _ => true

/-- The presence is final behind these steps, if it is final or not before
    them. -/
def settlesPresence (final : Bool) : List StartupStep → Bool
  | [] => final
  | .installMappings .. :: rest => settlesPresence false rest
  | .finalizeBoardPresence :: rest => settlesPresence true rest
  | _ :: rest => settlesPresence final rest

theorem settlesPresence_mono {steps : List StartupStep} {final final' : Bool}
    (hle : final = true → final' = true) (h : settlesPresence final steps = true) :
    settlesPresence final' steps = true := by
  induction steps generalizing final final' with
  | nil => exact hle h
  | cons x steps ih =>
    cases x with
    | installMappings | finalizeBoardPresence => exact h
    | send | registerSwitchBoard | abortCheck | failureCheck | pushSwitch | pushCoil | pushLamp
    | setActiveSwitchBoards | tokenRing => exact ih hle h

/-- Only the setters drop the latch. -/
theorem settlesPresence_true {steps : List StartupStep}
    (h : ∀ x ∈ steps, ∀ coils lamps items boards skipped,
      x ≠ .installMappings coils lamps items boards skipped) :
    settlesPresence true steps = true := by
  induction steps with
  | nil => rfl
  | cons x steps ih =>
    have hrest := ih fun y hy => h y (List.mem_cons_of_mem _ hy)
    cases x with
    | installMappings coils lamps items boards skipped =>
      exact absurd rfl (h _ List.mem_cons_self coils lamps items boards skipped)
    | finalizeBoardPresence | send | registerSwitchBoard | abortCheck | failureCheck | pushSwitch
    | pushCoil | pushLamp | setActiveSwitchBoards | tokenRing => exact hrest

theorem settlesPresence_append {before after : List StartupStep} (final : Bool) :
    settlesPresence final (before ++ .finalizeBoardPresence :: after) =
      settlesPresence true after := by
  induction before generalizing final with
  | nil => rfl
  | cons x before ih => cases x <;> exact ih _

/-- A pass that does not throw settles the presence. -/
theorem settlesPresence_startupPass {P : Protocol} {H : EventHeader} {cpp : YamlCpp}
    {s : StartupSettings} {config : Yaml}
    (hok : (Pass.startupPass P H cpp s config).result = .ok ⟨⟩) (final : Bool) :
    settlesPresence final (Pass.startupPass P H cpp s config).emitted = true := by
  obtain ⟨items, -, before, coils, lamps, boards, sections, hemitted, -⟩ :=
    Pass.startupPass_phases hok
  rw [hemitted, settlesPresence_append]
  refine settlesPresence_true ?_
  intro x hx coils lamps items boards skipped
  have hring : ∀ (switchBoards : List UInt8),
      ∀ x ∈ Pass.ringSteps P.kNoBoard s.switchReplyDelayUs switchBoards,
        x ≠ .installMappings coils lamps items boards skipped := by
    intro switchBoards
    induction switchBoards with
    | nil => exact fun x hx => nomatch hx
    | cons board switchBoards ih =>
      intro x hx
      rcases List.mem_cons.mp hx with rfl | hlater
      · simp
      · exact ih x hlater
  simp only [List.mem_cons, List.mem_append, List.not_mem_nil, or_false] at hx
  rcases hx with rfl | hx | rfl | rfl
  · simp
  · exact hring _ x hx
  · simp
  · simp

namespace Comm

variable {P : Protocol} {W : Type}

/-- A presence that is final stays so; the port and its setup are kept. -/
structure Keeps (c c' : Comm P) : Prop where
  final : c.boardPresenceFinalized = true → c'.boardPresenceFinalized = true
  portOpen : c'.portOpen = c.portOpen
  config : c'.runtimeConfig = c.runtimeConfig

theorem Keeps.of_hostPart {c c' : Comm P} (h : c'.hostPart = c.hostPart) : Keeps c c' where
  final hfinal := (congrArg Comm.boardPresenceFinalized h :).trans hfinal
  portOpen := (congrArg Comm.portOpen h :)
  config := (congrArg Comm.runtimeConfig h :)

theorem keeps_queueEvent (port : SerialPort W) (w : W) (event : Event) (c : Comm P) :
    Keeps c (c.queueEvent port w event) := by
  have heffect := queueEvent_effect port w event c
  generalize c.queueEvent port w event = c' at heffect ⊢
  cases heffect <;> exact ⟨id, rfl, rfl⟩

theorem keeps_finalizeConfiguredBoardPresence (c : Comm P) :
    Keeps c c.finalizeConfiguredBoardPresence := by
  obtain ⟨boards, owners, heq⟩ := finalizeConfiguredBoardPresence_eq c
  rw [heq]
  exact ⟨fun _ => rfl, rfl, rfl⟩

theorem keeps_setVirtualSwitchState (now : Nat) (number : UInt16) (state : UInt8) (c : Comm P) :
    Keeps c (c.setVirtualSwitchState now number state).2 := by
  obtain ⟨boards, owners, bitmap, events, refreshAt, heq⟩ :=
    setVirtualSwitchState_eq now number state c
  rw [heq]
  exact ⟨fun _ => rfl, rfl, rfl⟩

/-- Nor does the latch go back in a step of a startup attempt, but where the
    setters drop it. -/
theorem settlesPresence_step {H : EventHeader} {port : SerialPort W} {a a' : Startup P W}
    {x : StartupStep} {rest : List StartupStep} (hstep : a.step H port x = some a')
    (h : settlesPresence a.comm.boardPresenceFinalized (x :: rest) = true) :
    settlesPresence a'.comm.boardPresenceFinalized rest = true := by
  obtain ⟨b, events, -, hcomm, -, rfl⟩ := Startup.step_settled hstep
  have hsent : (b.sends port events).comm.boardPresenceFinalized =
      (Startup.settled a.comm x).boardPresenceFinalized := by
    rw [← hcomm]
    exact (congrArg SwitchStore.boardPresenceFinalized (Startup.switchStore_sends port events b) :)
  rw [hsent]
  cases x with
  | installMappings => exact h
  | finalizeBoardPresence =>
    obtain ⟨boards, owners, heq⟩ := finalizeConfiguredBoardPresence_eq a.comm
    show settlesPresence a.comm.finalizeConfiguredBoardPresence.boardPresenceFinalized rest = true
    rw [heq]
    exact h
  | registerSwitchBoard board =>
    show settlesPresence (a.comm.registerSwitchBoard board).boardPresenceFinalized rest = true
    unfold registerSwitchBoard
    split <;> exact h
  | send | abortCheck | failureCheck | pushSwitch | pushCoil | pushLamp | setActiveSwitchBoards
  | tokenRing => exact h

end Comm

namespace Host

variable {P : Protocol} {W : Type} {E : HostEnv W} {s s' : Host P W} {l : HostLabel}

/-- `Connect` is called only when no bus thread is left. -/
def ConnectsAlone (s : Host P W) : HostLabel → Prop
  | .connect _ => s.thread = none
  | _ => True

instance (s : Host P W) (l : HostLabel) : Decidable (s.ConnectsAlone l) :=
  match l with
  | .connect _ => inferInstanceAs (Decidable (s.thread = none))
  | .bus _ | .app | .loadConfiguration .. | .setSkippedBoards _ | .setDisableFastFlipForTests _
  | .setForceHardReset _ | .disconnect | .queueEvent _ | .setSwitchState .. | .isVirtualized
  | .getNextSwitchState => isTrue trivial

/-- What a block of the startup may rely on. -/
def Prepared (c : Comm P) : AppPc → Prop
  | .starting rest (.ok _) => settlesPresence c.boardPresenceFinalized rest = true
  | .sendingSetup => c.boardPresenceFinalized = true
  | .sendingMapping _ | .turningOnGi | .running =>
    c.boardPresenceFinalized = true ∧ c.portOpen = true ∧
      P.isValidRuntimeConfig c.runtimeConfig = true
  | _ => True

theorem Prepared.keeps {c c' : Comm P} {pc : AppPc} (h : Prepared c pc) (hkeeps : c.Keeps c') :
    Prepared c' pc := by
  unfold Prepared at h ⊢
  split
  · exact settlesPresence_mono hkeeps.final h
  · exact hkeeps.final h
  · rw [hkeeps.portOpen, hkeeps.config]
    exact ⟨hkeeps.final h.1, h.2⟩
  · rw [hkeeps.portOpen, hkeeps.config]
    exact ⟨hkeeps.final h.1, h.2⟩
  · rw [hkeeps.portOpen, hkeeps.config]
    exact ⟨hkeeps.final h.1, h.2⟩
  · trivial

/-- One thread drives the bus. -/
structure Orderly (s : Host P W) : Prop where
  /-- Only the bus thread of `m_pThread` may run. -/
  master : ∀ k pc, s.threads[k]? = some pc → pc = .stopped ∨ s.thread = some k
  /-- It does not while `Connect` or `Disconnect` drive the bus. -/
  alone : s.app.drivesBus = true → s.thread = none
  prepared : Prepared s.comm s.app
  /-- A session has its virtual boards. -/
  final : s.thread.isSome = true → s.comm.boardPresenceFinalized = true

/-- Another thread changed the members that the others may change. -/
theorem Orderly.keeps (h : Orderly s) {c : Comm P} (hkeeps : s.comm.Keeps c) :
    Orderly { s with comm := c } where
  master := h.master
  alone := h.alone
  prepared := h.prepared.keeps hkeeps
  final hsome := hkeeps.final (h.final hsome)

/-- Without `m_pThread` all bus threads have ended. -/
theorem Orderly.all_stopped (h : Orderly s) (hnone : s.thread = none) {k : Nat} {pc : BusPc P}
    (hpc : s.threads[k]? = some pc) : pc = .stopped := by
  rcases h.master k pc hpc with hstopped | hthread
  · exact hstopped
  · rw [hnone] at hthread
    exact nomatch hthread

/-- `Connect` or `Disconnect` goes on while no bus thread runs. -/
theorem Orderly.goOn (h : Orderly s) (hbusy : s.app.drivesBus = true) {c : Comm P} {w : W}
    {pc : AppPc} {gameOnSolenoid : UInt8} (hprepared : Prepared c pc) :
    Orderly { s with comm := c, world := w, app := pc, gameOnSolenoid := gameOnSolenoid } where
  master := h.master
  alone _ := h.alone hbusy
  prepared := hprepared
  final hsome := by
    rw [h.alone hbusy] at hsome
    exact nomatch hsome

theorem sendSetupFrame_ready {port : SerialPort W} {c c' : Comm P} {w w' : W}
    (h : c.sendSetupFrame port w = (true, c', w')) :
    c.portOpen = true ∧ P.isValidRuntimeConfig c.runtimeConfig = true := by
  unfold Comm.sendSetupFrame at h
  split at h
  · next hready => exact hready
  · exact nomatch h

theorem prepared_starting {c : Comm P} {rest : List StartupStep} {result : Except Failure Unit}
    (h : result = .ok ⟨⟩ → settlesPresence c.boardPresenceFinalized rest = true) :
    Prepared c (.starting rest result) := by
  cases result with
  | error e => trivial
  | ok u => exact h rfl

/-- The end of the wait leaves no bus thread. -/
theorem Orderly.stopped_of_joined (h : Orderly s) (hjoined : s.joined = true) :
    ∀ (k : Nat) (pc : BusPc P), s.threads[k]? = some pc → pc = .stopped := by
  intro k pc hpc
  rcases h.master k pc hpc with hstopped | hthread
  · exact hstopped
  · unfold joined at hjoined
    rw [hthread] at hjoined
    dsimp only at hjoined
    rw [hpc] at hjoined
    split at hjoined
    · next heq => exact Option.some.inj heq
    · exact nomatch hjoined

/-- **Step lemma** for the blocks of `Connect` and `Disconnect`. -/
theorem orderly_appStep (h : Orderly s) (hstep : s.appStep E = some s') : Orderly s' := by
  obtain ⟨comm, threads, thread, app, ppuc, skipped, disabled, delay, hard, gameOn, world⟩ := s
  unfold appStep at hstep
  match app with
  | .idle => exact nomatch hstep
  | .restarting =>
    dsimp only at hstep
    split at hstep
    · obtain rfl := Option.some.inj hstep
      exact h.goOn rfl (prepared_starting fun hok => settlesPresence_startupPass hok _)
    · obtain rfl := Option.some.inj hstep
      exact h.goOn rfl trivial
  | .starting (x :: rest) result =>
    obtain rfl := Option.some.inj hstep
    unfold startupStep
    dsimp only
    split
    · exact h.goOn rfl trivial
    · next a ha =>
      refine h.goOn rfl (prepared_starting fun hok => ?_)
      subst hok
      exact Comm.settlesPresence_step ha h.prepared
  | .starting [] result =>
    dsimp only at hstep
    split at hstep
    · obtain rfl := Option.some.inj hstep
      exact h.goOn rfl trivial
    · obtain rfl := Option.some.inj hstep
      exact h.goOn rfl h.prepared
  | .sendingSetup =>
    have hfinal : comm.boardPresenceFinalized = true := h.prepared
    have hhost := Comm.hostPart_sendSetupFrame E.port comm world
    dsimp only at hstep
    split at hstep
    · next c w hsent =>
      obtain rfl := Option.some.inj hstep
      rw [hsent] at hhost
      obtain ⟨hopen, hvalid⟩ := sendSetupFrame_ready hsent
      have hkeeps := Comm.Keeps.of_hostPart hhost
      refine h.goOn rfl ⟨hkeeps.final hfinal, hkeeps.portOpen.trans hopen, ?_⟩
      rw [hkeeps.config]
      exact hvalid
    · obtain rfl := Option.some.inj hstep
      exact h.goOn rfl trivial
  | .sendingMapping [] =>
    obtain rfl := Option.some.inj hstep
    exact h.goOn rfl h.prepared
  | .sendingMapping ((domain, index, number) :: rest) =>
    have hhost := Comm.hostPart_sendMappingFrame E.port domain index number comm world
    dsimp only at hstep
    split at hstep
    · next c w hsent =>
      obtain rfl := Option.some.inj hstep
      rw [hsent] at hhost
      exact h.goOn rfl (h.prepared.keeps (Comm.Keeps.of_hostPart hhost))
    · obtain rfl := Option.some.inj hstep
      exact h.goOn rfl trivial
  | .turningOnGi =>
    obtain rfl := Option.some.inj hstep
    refine h.goOn rfl ?_
    show Prepared _ .turningOnGi
    dsimp only
    split
    · exact h.prepared
    · exact h.prepared.keeps (Comm.keeps_queueEvent E.port world (giOn P) comm)
  | .running =>
    obtain rfl := Option.some.inj hstep
    have hnone : thread = none := h.alone rfl
    -- the new bus thread is the only one that runs
    refine ⟨?_, nofun, trivial, fun _ => h.prepared.1⟩
    intro k pc hpc
    dsimp only at hpc ⊢
    by_cases hk : k < threads.length
    · rw [List.getElem?_append_left hk] at hpc
      exact Or.inl (h.all_stopped hnone hpc)
    · rw [List.getElem?_append_right (Nat.not_lt.mp hk)] at hpc
      have hlast : k - threads.length = 0 := by
        obtain ⟨hlt, -⟩ := List.getElem?_eq_some_iff.mp hpc
        simpa using hlt
      exact Or.inr (congrArg some (by omega))
  | .joining =>
    dsimp only at hstep
    split at hstep
    · next hjoined =>
      obtain rfl := Option.some.inj hstep
      have hstopped := h.stopped_of_joined hjoined
      refine ⟨fun k pc hpc => Or.inl (hstopped k pc hpc), fun _ => rfl, ?_,
        fun hsome => nomatch hsome⟩
      dsimp only
      split
      · trivial
      · trivial
    · exact nomatch hstep
  | .clearingEvents | .clearingSnapshots | .clearingOutput =>
    obtain rfl := Option.some.inj hstep
    exact h.goOn rfl trivial
  | .sendingOff again =>
    obtain rfl := Option.some.inj hstep
    refine h.goOn rfl ?_
    cases again <;> trivial
  | .closing =>
    obtain rfl := Option.some.inj hstep
    exact h.goOn rfl trivial

/-- The bus thread `k` and what it works on. -/
def session (k : Nat) (s : Host P W) : Sys P W where
  comm := s.comm
  bus := s.threads.getD k .stopped
  firmware := none
  world := s.world

/-- A block of a bus thread is one of the session. -/
theorem step_bus_session {k : Nat} (hstep : s.step E (.bus k) = some s') :
    (s.session k).step E.toEnv .bus = some (s'.session k) ∧ s.threads[k]? ≠ some .stopped ∧
      ∃ pc c w, s' = { s with threads := s.threads.set k pc, comm := c, world := w } := by
  unfold step at hstep
  dsimp only at hstep
  split at hstep
  · exact nomatch hstep
  · next pc hpc =>
    obtain ⟨⟨pc', c', w'⟩, hblock, rfl⟩ := Option.map_eq_some_iff.mp hstep
    obtain ⟨hk, -⟩ := List.getElem?_eq_some_iff.mp hpc
    have hbus : (s.session k).bus = pc := by simp [session, hpc]
    refine ⟨?_, ?_, pc', c', w', rfl⟩
    · show ((s.session k).comm.busStep E.port E.sourceByte (s.session k).bus _).map _ = _
      rw [hbus]
      show (s.comm.busStep E.port E.sourceByte pc s.world).map _ = _
      rw [hblock]
      simp [session, hk]
    · rw [hpc]
      intro hstopped
      obtain rfl := Option.some.inj hstopped
      exact nomatch hblock

/-- **Step lemma**: the order is kept by every step, as long as `Connect` is
    called alone. -/
theorem orderly_step (h : Orderly s) (halone : ConnectsAlone s l)
    (hstep : s.step E l = some s') : Orderly s' := by
  match l with
  | .bus k =>
    obtain ⟨hblock, hrunning, pc, c, w, rfl⟩ := step_bus_session hstep
    have hkeeps : s.comm.Keeps c := by
      obtain ⟨hsetup, -⟩ := Sys.step_setupPart hblock
      refine ⟨fun hfinal => ?_, (congrArg (fun p => p.1) hsetup :),
        (congrArg (fun p => p.2.2.1) hsetup :)⟩
      exact (Sys.step_switchSetup (s := s.session k) hfinal hblock).2
    refine ⟨?_, h.alone, h.prepared.keeps hkeeps, fun hsome => hkeeps.final (h.final hsome)⟩
    intro j pc' hpc'
    dsimp only at hpc' ⊢
    rw [List.getElem?_set] at hpc'
    split at hpc'
    · next hsame =>
      subst hsame
      split at hpc'
      · next hlt =>
        -- the thread that made the step ran before it
        rcases h.master k _ (List.getElem?_eq_getElem hlt) with hstopped | hthread
        · rw [List.getElem?_eq_getElem hlt, hstopped] at hrunning
          exact absurd rfl hrunning
        · exact Or.inr hthread
      · exact nomatch hpc'
    · exact h.master j pc' hpc'
  | .app => exact orderly_appStep h hstep
  | .loadConfiguration configFile config =>
    simp only [step] at hstep
    split at hstep
    · obtain rfl := Option.some.inj hstep
      exact ⟨h.master, h.alone, h.prepared, h.final⟩
    · exact nomatch hstep
  | .setSkippedBoards _ | .setDisableFastFlipForTests _ | .setForceHardReset _ =>
    simp only [step] at hstep
    split at hstep
    · obtain rfl := Option.some.inj hstep
      exact ⟨h.master, h.alone, h.prepared, h.final⟩
    · exact nomatch hstep
  | .connect opened =>
    have hnone : s.thread = none := halone
    simp only [step] at hstep
    split at hstep
    · obtain rfl := Option.some.inj hstep
      unfold connect
      split
      · exact h
      · refine ⟨h.master, fun _ => hnone, ?_, fun hsome => ?_⟩
        · dsimp only
          split <;> trivial
        · rw [show s.thread = none from hnone] at hsome
          exact nomatch hsome
    · exact nomatch hstep
  | .disconnect =>
    simp only [step] at hstep
    split at hstep
    · obtain rfl := Option.some.inj hstep
      exact ⟨h.master, nofun, trivial, h.final⟩
    · exact nomatch hstep
  | .queueEvent event =>
    obtain rfl := Option.some.inj hstep
    exact h.keeps (Comm.keeps_queueEvent E.port s.world event s.comm)
  | .setSwitchState number state =>
    obtain rfl := Option.some.inj hstep
    exact h.keeps (Comm.keeps_setVirtualSwitchState _ number state s.comm)
  | .isVirtualized =>
    obtain rfl := Option.some.inj hstep
    exact h.keeps (Comm.keeps_finalizeConfiguredBoardPresence s.comm)
  | .getNextSwitchState =>
    obtain rfl := Option.some.inj hstep
    exact h.keeps (Comm.Keeps.of_hostPart (Comm.hostPart_getNextSwitchState s.comm))

theorem orderly_constructed (ppuc : Ppuc) (gameOnSolenoid : UInt8) (w : W) :
    Orderly (constructed E ppuc gameOnSolenoid w : Host P W) where
  master _ _ hpc := nomatch hpc
  alone _ := rfl
  prepared := trivial
  final hsome := nomatch hsome

/-- **Run lemma**: the order is kept by every run. -/
theorem orderly_run {ppuc : Ppuc} {gameOnSolenoid : UInt8} {w : W} {ls : List HostLabel}
    (halone : Transition.Along (step E) (ConnectsAlone (P := P))
      (constructed E ppuc gameOnSolenoid w) ls)
    (hrun : Transition.exec (step E) (constructed E ppuc gameOnSolenoid w) ls = some s) :
    Orderly s :=
  Transition.exec_invariant_along (I := Orderly) (fun _ _ _ => orderly_step)
    (orderly_constructed ppuc gameOnSolenoid w) halone hrun

/-- **One master**: as long as `Connect` is called only when no bus thread is
    left, one bus thread at most can go on, and none while `Connect` or
    `Disconnect` drive the bus. -/
theorem single_bus_master {ppuc : Ppuc} {gameOnSolenoid : UInt8} {w : W} {ls : List HostLabel}
    (halone : Transition.Along (step E) (ConnectsAlone (P := P))
      (constructed E ppuc gameOnSolenoid w) ls)
    (hrun : Transition.exec (step E) (constructed E ppuc gameOnSolenoid w) ls = some s) :
    (∀ j k, (s.step E (.bus j)).isSome = true → (s.step E (.bus k)).isSome = true → j = k) ∧
      (s.app.drivesBus = true → ∀ k, s.step E (.bus k) = none) := by
  have horderly := orderly_run halone hrun
  -- a bus thread that can go on is that of `m_pThread`
  have hmaster : ∀ k s', s.step E (.bus k) = some s' → s.thread = some k := by
    intro k s' hstep
    obtain ⟨-, hrunning, -⟩ := step_bus_session hstep
    cases hpc : s.threads[k]? with
    | none =>
      simp only [step, hpc] at hstep
      exact nomatch hstep
    | some pc =>
      rcases horderly.master k pc hpc with rfl | hthread
      · exact absurd hpc hrunning
      · exact hthread
  constructor
  · intro j k hj hk
    obtain ⟨sj, hj⟩ := Option.isSome_iff_exists.mp hj
    obtain ⟨sk, hk⟩ := Option.isSome_iff_exists.mp hk
    exact Option.some.inj ((hmaster j sj hj).symm.trans (hmaster k sk hk))
  · intro hbusy k
    cases hstep : s.step E (.bus k) with
    | none => rfl
    | some s' =>
      have hthread := hmaster k s' hstep
      rw [horderly.alone hbusy] at hthread
      exact nomatch hthread

end Host

namespace Reference

open Host

/-- Two sessions, one after the other. -/
def reconnecting : List HostLabel :=
  connectWith (document []) ++ disconnectThread 0 ++ sendOffFrames ++ connectWith otherDocument

theorem single_bus_master_reconnecting : ∃ s,
    Transition.exec (step hostEnv) host reconnecting = some s ∧ s.threads.length = 2 ∧
      ∀ j k, (s.step hostEnv (.bus j)).isSome = true → (s.step hostEnv (.bus k)).isSome = true →
        j = k := by
  have hrun : (Transition.exec (step hostEnv) host reconnecting).isSome = true := by
    decide +kernel
  obtain ⟨s, hs⟩ := Option.isSome_iff_exists.mp hrun
  have hthreads : (Transition.exec (step hostEnv) host reconnecting).map
      (fun s => s.threads.length) = some 2 := by decide +kernel
  rw [hs] at hthreads
  exact ⟨s, hs, Option.some.inj hthreads, (single_bus_master (by decide +kernel) hs).1⟩

end Reference

/-! ### A Session is a Run of the Bus Thread -/

/-- The label does not open or close a session. -/
def HostLabel.keepsSession : HostLabel → Bool
  | .app | .connect _ | .disconnect => false
  | _ => true

/-- What a label means for the bus thread `k` and its environment. -/
def HostLabel.inSession (k : Nat) : HostLabel → Option Label
  | .bus j => if j = k then some .bus else none
  | .queueEvent event => some (.queueEvent event)
  | .setSwitchState number state => some (.setVirtualSwitchState number state)
  | .getNextSwitchState => some .getNextSwitchState
  | _ => none

namespace Host

variable {P : Protocol} {W : Type} {E : HostEnv W} {s s' : Host P W} {k : Nat}

/-- A session of the bus thread `k` is on. -/
structure InSession (k : Nat) (s : Host P W) : Prop where
  orderly : Orderly s
  thread : s.thread = some k

/-- **Step lemma**: in a session every step is one of the bus thread and its
    environment, or leaves both alone. -/
theorem simulates_step {l : HostLabel} (h : InSession k s) (hkeeps : l.keepsSession = true)
    (hstep : s.step E l = some s') :
    InSession k s' ∧
      Transition.Simulates (Sys.step E.toEnv) (session k) (HostLabel.inSession k) s l s' := by
  have hfinal : s.comm.boardPresenceFinalized = true := h.orderly.final (by rw [h.thread]; rfl)
  have halone : s.ConnectsAlone l := by
    cases l <;> trivial
  have horderly := orderly_step h.orderly halone hstep
  unfold Transition.Simulates
  match l with
  | .app | .connect _ | .disconnect => exact nomatch hkeeps
  | .bus j =>
    obtain ⟨hblock, hrunning, pc, c, w, rfl⟩ := step_bus_session hstep
    refine ⟨⟨horderly, h.thread⟩, ?_⟩
    -- the other bus threads have ended
    have hj : j = k := by
      cases hpc : s.threads[j]? with
      | none =>
        simp only [step, hpc] at hstep
        exact nomatch hstep
      | some pc' =>
        rcases h.orderly.master j pc' hpc with rfl | hthread
        · exact absurd hpc hrunning
        · exact Option.some.inj (hthread.symm.trans h.thread)
    subst hj
    simpa [HostLabel.inSession] using hblock
  | .loadConfiguration configFile config =>
    simp only [step] at hstep
    split at hstep
    · obtain rfl := Option.some.inj hstep
      exact ⟨⟨horderly, h.thread⟩, rfl⟩
    · exact nomatch hstep
  | .setSkippedBoards _ | .setDisableFastFlipForTests _ | .setForceHardReset _ =>
    simp only [step] at hstep
    split at hstep
    · obtain rfl := Option.some.inj hstep
      exact ⟨⟨horderly, h.thread⟩, rfl⟩
    · exact nomatch hstep
  | .isVirtualized =>
    obtain rfl := Option.some.inj hstep
    refine ⟨⟨horderly, h.thread⟩, ?_⟩
    -- the latch is set: the query computes nothing
    simp only [HostLabel.inSession, session,
      Comm.finalizeConfiguredBoardPresence_of_finalized hfinal]
  | .queueEvent _ | .setSwitchState .. | .getNextSwitchState =>
    obtain rfl := Option.some.inj hstep
    exact ⟨⟨horderly, h.thread⟩, rfl⟩

/-- **Sessions refine runs of the bus thread**: as long as `Connect` is called
    only when no bus thread is left, a session without a firmware transfer or
    version query goes, step by step, as the bus thread and its environment do
    from `Run` on; and all that its bus thread hands to the port is what a
    listener of its start accepts. -/
theorem session_refines (hnumbers : P.NumbersFrames) {ppuc : Ppuc} {gameOnSolenoid : UInt8} {w : W}
    {before ls : List HostLabel} {s₀ s₁ s₂ : Host P W}
    (halone : Transition.Along (step E) (ConnectsAlone (P := P))
      (constructed E ppuc gameOnSolenoid w) before)
    (hbefore : Transition.exec (step E) (constructed E ppuc gameOnSolenoid w) before = some s₀)
    (hrunning : s₀.app = .running) (hstart : s₀.step E .app = some s₁)
    (hsession : ∀ l ∈ ls, l.keepsSession = true)
    (hrun : Transition.exec (step E) s₁ ls = some s₂) :
    let start := Sys.start E.toEnv s₀.comm s₀.world
    let labels := ls.filterMap (HostLabel.inSession s₀.threads.length)
    Transition.exec (Sys.step E.toEnv) start labels = some (s₂.session s₀.threads.length) ∧
      ∃ m, Transition.exec BusListener.hear (BusListener.joining s₀.comm)
        (Sys.busLog E.toEnv start labels) = some m := by
  intro start labels
  have horderly := orderly_run halone hbefore
  have hprepared := horderly.prepared
  rw [hrunning] at hprepared
  obtain ⟨-, hopen, hvalid⟩ := hprepared
  have horderly₁ : Orderly s₁ := orderly_step (l := .app) horderly trivial hstart
  -- `Run` starts the thread
  have hs₁ : s₁ = { s₀ with
      comm := (Sys.start E.toEnv s₀.comm s₀.world).comm
      threads := s₀.threads ++ [.loop]
      thread := some s₀.threads.length
      app := .idle } := by
    simp only [step, appStep, hrunning] at hstart
    exact (Option.some.inj hstart).symm
  have hsession₁ : s₁.session s₀.threads.length = start := by
    rw [hs₁]
    simp [session, start, Sys.start]
  have hin : InSession s₀.threads.length s₁ := ⟨horderly₁, by rw [hs₁]⟩
  have hlabels : Transition.exec (Sys.step E.toEnv) start labels =
      some (s₂.session s₀.threads.length) := by
    rw [← hsession₁]
    refine Transition.exec_simulates (I := InSession s₀.threads.length) ?_ hin hrun
    intro s l hl s' hin hstep
    exact simulates_step hin (hsession l hl) hstep
  refine ⟨hlabels, Sys.accepted_busLog hnumbers hopen hvalid ?_ hlabels⟩
  intro hfirmware
  obtain ⟨l, -, hmeaning⟩ := List.mem_filterMap.mp hfirmware
  cases l <;> simp [HostLabel.inSession] at hmeaning

end Host

namespace Reference

open Host

/-- All but the last block of a `Connect`. -/
def beforeRun : List HostLabel :=
  [.loadConfiguration "file" (document []), .connect true] ++ List.replicate 23 .app

/-- An event, a query and the blocks up to the first output frame. -/
def firstBlocks : List HostLabel :=
  [solenoidOn, .isVirtualized] ++ firstFrame 0 ++ [.setSwitchState 30 1, .bus 0]

theorem session_refines_firstBlocks : ∃ s₀ s₂ : Host protocol Script,
    Transition.exec (step hostEnv) host beforeRun = some s₀ ∧
      ((s₀.step hostEnv .app).bind fun s₁ =>
        Transition.exec (step hostEnv) s₁ firstBlocks) = some s₂ ∧
      Transition.exec (Sys.step env) (Sys.start env s₀.comm s₀.world)
        (firstBlocks.filterMap (HostLabel.inSession 0)) = some (s₂.session 0) ∧
      ∃ m, Transition.exec BusListener.hear (BusListener.joining s₀.comm)
        (Sys.busLog env (Sys.start env s₀.comm s₀.world)
          (firstBlocks.filterMap (HostLabel.inSession 0))) = some m := by
  have hbefore : (Transition.exec (step hostEnv) host beforeRun).isSome = true := by
    decide +kernel
  obtain ⟨s₀, hs₀⟩ := Option.isSome_iff_exists.mp hbefore
  have hfacts : (Transition.exec (step hostEnv) host beforeRun).map (fun s =>
      (decide (s.threads.length = 0) && match s.app with | .running => true | _ => false) &&
        ((s.step hostEnv .app).bind fun s₁ =>
          Transition.exec (step hostEnv) s₁ firstBlocks).isSome) = some true := by
    decide +kernel
  rw [hs₀] at hfacts
  have hall := Option.some.inj hfacts
  simp only [Bool.and_eq_true, decide_eq_true_eq] at hall
  obtain ⟨⟨hthreads, happ⟩, hsome⟩ := hall
  have hrunning : s₀.app = .running := by
    split at happ
    · next heq => exact heq
    · exact nomatch happ
  obtain ⟨s₂, hs₂⟩ := Option.isSome_iff_exists.mp hsome
  obtain ⟨s₁, hs₁, hrest⟩ := Option.bind_eq_some_iff.mp hs₂
  refine ⟨s₀, s₂, hs₀, hs₂, ?_⟩
  have hrefines := session_refines protocol_numbersFrames (by decide +kernel) hs₀ hrunning hs₁
    (by decide) hrest
  rw [hthreads] at hrefines
  exact hrefines

end Reference

end LibPpuc
