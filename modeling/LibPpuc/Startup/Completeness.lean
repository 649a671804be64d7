import LibPpuc.Startup.Calls
import LibPpuc.Startup.Reference

/-! # Completeness of the Startup

  When an attempt gets as far as `SendSetupFrame`, was every config event
  acknowledged?  The calls of `SendConfigEvent` are made without looking at
  their results; the attempt relies on the two flags that its last checks
  read.  Two kinds of calls leave no trace in the flags:

  - a call whose write fails returns false at once;
  - a call for a board that is still in the skip set of an earlier session
    returns true without sending anything, because the board loop runs
    before `SetSkippedBoards`.

  So everything was acknowledged exactly if neither happened.
-/

namespace LibPpuc

namespace Startup

open Emitter

variable {P : Protocol} {W : Type} {H : EventHeader} {port : SerialPort W} {cpp : YamlCpp}
  {s : StartupSettings} {config : Yaml}

/-! ### The Last Checks -/

/-- A pass that returns ends with both checks. -/
theorem startupPass_endsWith :
    EndsWith [.abortCheck, .failureCheck] (Pass.startupPass P H cpp s config) := by
  -- skip the boards, their check, the mappings, the sections and the token ring
  apply EndsWith.bind
  intro boards
  apply EndsWith.bind
  intro _
  apply EndsWith.bind
  intro _
  apply EndsWith.bind
  intro _
  apply EndsWith.bind
  intro _ _ _
  exact List.suffix_refl _

/-- At `SendSetupFrame` no flag is up. -/
theorem ready_flags {c : Comm P} {w : W} {a : Startup P W}
    (hready : startupAttempt H cpp s config port c w = .ready a) :
    a.comm.shouldAbortConfigurationEarly = false ∧ a.comm.hadConfigurationFailure = false := by
  obtain ⟨hrun, hok⟩ := startupAttempt_ready.mp hready
  obtain ⟨done, hsteps⟩ := startupPass_endsWith _ hok
  rw [← hsteps] at hrun
  obtain ⟨b, -, hlast⟩ := Transition.exec_append_some.mp hrun
  obtain ⟨b', habort, hlast⟩ := Transition.exec_cons_some.mp hlast
  obtain ⟨b'', hfailure, hend⟩ := Transition.exec_cons_some.mp hlast
  obtain ⟨hnoAbort, rfl⟩ := step_abortCheck habort
  obtain ⟨hnoFailure, rfl⟩ := step_failureCheck hfailure
  obtain rfl : b'' = a := by simpa using hend
  exact ⟨hnoAbort, hnoFailure⟩

/-! ### Calls Stay -/

theorem send_calls (port : SerialPort W) (event : ConfigEvent) (a : Startup P W) :
    a.calls <+: (a.send port event).calls := List.prefix_append _ _

theorem sends_calls (port : SerialPort W) (events : List ConfigEvent) (a : Startup P W) :
    a.calls <+: (a.sends port events).calls := by
  apply sends_invariant (I := fun b => a.calls <+: b.calls) _ events (List.prefix_refl _)
  intro b event h
  exact h.trans (send_calls port event b)

theorem step_calls {a a' : Startup P W} {x : StartupStep} (h : a.step H port x = some a') :
    a.calls <+: a'.calls := by
  obtain ⟨b, events, hquiet, -, rfl⟩ := step_effect h
  rw [← hquiet.calls]
  exact sends_calls port events b

/-- What was called stays in the list. -/
theorem run_calls {a a' : Startup P W} {steps : List StartupStep}
    (hrun : Transition.exec (step H port) a steps = some a') : a.calls <+: a'.calls := by
  have hstep : ∀ (b : Startup P W) x b', a.calls <+: b.calls → b.step H port x = some b' →
      a.calls <+: b'.calls := by
    intro b x b' h hx
    exact h.trans (step_calls hx)
  exact Transition.exec_invariant hstep (List.prefix_refl _) hrun

/-- The port stays open. -/
theorem run_portOpen {a a' : Startup P W} {steps : List StartupStep}
    (hrun : Transition.exec (step H port) a steps = some a') :
    a'.comm.portOpen = a.comm.portOpen := by
  have hstep : ∀ (b : Startup P W) x b', b.comm.portOpen = a.comm.portOpen →
      b.step H port x = some b' → b'.comm.portOpen = a.comm.portOpen := by
    intro b x b' h hx
    have hkept := (step_kept hx).1.portOpen
    rw [hkept, h]
  exact Transition.exec_invariant hstep rfl hrun

/-! ### Boards That Are Skipped by Mistake -/

/-- A step that is no setter. -/
def KeepsSkips (x : StartupStep) : Prop := ∀ skipped, skippedAfter skipped x = skipped

theorem run_keepsSkips {a a' : Startup P W} {steps : List StartupStep}
    (hsteps : ∀ x ∈ steps, KeepsSkips x)
    (hrun : Transition.exec (step H port) a steps = some a') :
    a'.comm.skippedBoards = a.comm.skippedBoards := by
  apply Transition.exec_invariant_mem
    (I := fun b => b.comm.skippedBoards = a.comm.skippedBoards) _ rfl hrun
  intro b x hx b' hkept hstep
  rw [(step_kept hstep).2, hsteps x hx, hkept]

/-- The board loop has no setter. -/
theorem boardsPass_keepsSkips : Only KeepsSkips (Pass.boardsPass H cpp s config) := by
  refine only_foldlM (fun boards n_board _ => ?_) _
  refine only_bind (only_ofExcept _) fun board => ?_
  dsimp only
  split
  · exact only_pure _
  · refine only_bind (only_emit fun _ => rfl) fun _ => ?_
    refine only_bind (only_ofExcept _) fun _ => ?_
    refine only_bind (only_emit fun _ => rfl) fun _ => ?_
    refine only_bind (only_ofExcept _) fun _ => ?_
    refine only_bind (only_emit fun _ => rfl) fun _ => ?_
    refine only_bind (only_ofExcept _) fun pollEvents => ?_
    refine only_bind ?_ fun _ => only_bind (only_emit fun _ => rfl) fun _ => only_pure _
    unfold onlyIf
    split
    · exact only_emit fun _ => rfl
    · exact only_pure _

/-- The board loop sends the platform to every board that is not skipped. -/
theorem boardsPass_sends {boards : Pass.Boards}
    (hok : (Pass.boardsPass H cpp s config).result = .ok boards) {board : UInt8}
    (hboard : board ∈ Pass.configuredBoards cpp config) (hskipped : board ∉ s.skippedBoards) :
    ∃ event : ConfigEvent, event.boardId = board ∧
      StartupStep.send event ∈ (Pass.boardsPass H cpp s config).emitted := by
  obtain ⟨n_board, hmem, hnumber⟩ := Pass.mem_configuredBoards.mp hboard
  let event : ConfigEvent :=
    ⟨board, H.CONFIG_TOPIC_PLATFORM, 0, H.CONFIG_TOPIC_PLATFORM, s.platform⟩
  refine ⟨event, rfl, mem_emitted_foldlM hmem (fun boards' => ?_) hok⟩
  unfold Pass.boardPass
  rw [hnumber, ofExcept_ok_bind]
  dsimp only
  rw [if_neg hskipped]
  exact mem_emitted_bind_left (List.mem_singleton_self _)

/-- A board that is skipped by mistake has a call without an ack. -/
theorem stale_call (hcarries : P.CarriesTuple) {c : Comm P} {w : W} {a : Startup P W}
    (hready : startupAttempt H cpp s config port c w = .ready a) {board : UInt8}
    (hstale : Pass.StaleSkip cpp s config c.skippedBoards board) :
    ∃ call ∈ a.calls, call.event.boardId = board ∧ call.outcome ≠ .acknowledged := by
  obtain ⟨hconfigured, hunskipped, hin⟩ := hstale
  obtain ⟨hrun, hok⟩ := startupAttempt_ready.mp hready
  obtain ⟨boards, hboards, -⟩ := result_bind_ok.mp hok
  obtain ⟨event, rfl, hsend⟩ := boardsPass_sends hboards hconfigured hunskipped
  -- split the run at the call
  obtain ⟨earlier, later, hsplit⟩ := List.append_of_mem hsend
  have hsteps : (Pass.startupPass P H cpp s config).emitted =
      (Pass.boardsPass H cpp s config).emitted ++ _ := emitted_bind_ok hboards
  rw [hsteps, hsplit, List.append_assoc] at hrun
  obtain ⟨b, hearlier, hrest⟩ := Transition.exec_append_some.mp hrun
  obtain ⟨b', hcall, hlater⟩ := Transition.exec_cons_some.mp hrest
  obtain rfl : b.send port event = b' := Option.some.inj hcall
  -- the skip set is still the old one
  have hskips : b.comm.skippedBoards = c.skippedBoards := by
    refine run_keepsSkips (fun x hx => ?_) hearlier
    have hemitted : x ∈ (Pass.boardsPass H cpp s config).emitted := by
      rw [hsplit]
      exact List.mem_append_left _ hx
    exact boardsPass_keepsSkips x hemitted
  obtain ⟨r, heffect, hsent⟩ := send_effect port event b
  have hmem : ⟨event, b.comm.skippedBoards, r.outcome, r.traffic⟩ ∈ (b.send port event).calls := by
    rw [hsent]
    exact List.mem_append_right _ (List.mem_singleton_self _)
  refine ⟨_, (run_calls hlater).subset hmem, rfl, ?_⟩
  intro hacknowledged
  dsimp only at hacknowledged
  -- a call that returns true for a board in the skip set has skipped it
  have hreturned : r.outcome.returned = true := by
    rw [hacknowledged]
    rfl
  have hskip : r.outcome = .skipped := by
    apply (send_skipped_iff hcarries heffect hreturned).mpr
    rw [hskips]
    exact hin
  rw [hskip] at hacknowledged
  contradiction

/-! ### Completeness -/

/-- With the port open and no flag up, a call that wrote whole frames was
    acknowledged, or skipped its board. -/
theorem accounted_outcome {stale : UInt8 → Prop} {c : Comm P} {call : ConfigCall}
    (h : call.Accounted stale c) (hopen : c.portOpen = true)
    (habort : c.shouldAbortConfigurationEarly = false)
    (hfailure : c.hadConfigurationFailure = false) (hwhole : call.WritesWhole) :
    call.outcome = .acknowledged ∨ call.outcome = .skipped ∧ stale call.event.boardId := by
  have houtcome := h.writesWhole_iff.mp hwhole
  cases h with
  | noPort hport =>
    rw [hport] at hopen
    contradiction
  | abortedEarly habort' =>
    rw [habort'] at habort
    contradiction
  | skipped _ hstale => exact Or.inr ⟨rfl, hstale⟩
  | writeFailed => exact absurd rfl houtcome
  | acknowledged => exact Or.inl rfl
  | unacknowledged _ _ hfailed =>
    rw [hfailed] at hfailure
    contradiction

/-- What is known of the calls of an attempt that gets as far as
    `SendSetupFrame`. -/
theorem ready_calls (hcarries : P.CarriesTuple) {c : Comm P} {w : W} {a : Startup P W}
    (hopen : c.portOpen = true)
    (hready : startupAttempt H cpp s config port c w = .ready a) :
    (∀ call ∈ a.calls, call.Accounted (Pass.StaleSkip cpp s config c.skippedBoards) a.comm) ∧
      ∀ call ∈ a.calls, call.WritesWhole → call.outcome = .acknowledged ∨
        call.outcome = .skipped ∧
          Pass.StaleSkip cpp s config c.skippedBoards call.event.boardId := by
  obtain ⟨hrun, -⟩ := startupAttempt_ready.mp hready
  obtain ⟨st, htracks⟩ := startup_tracks hcarries (List.append_nil _).symm hrun
  obtain ⟨habort, hfailure⟩ := ready_flags hready
  have hopen' : a.comm.portOpen = true := (run_portOpen hrun).trans hopen
  refine ⟨htracks.accounted, ?_⟩
  intro call hcall hwhole
  exact accounted_outcome (htracks.accounted call hcall) hopen' habort hfailure hwhole

/-- **Completeness of the startup**, for every document, every port and every
    behaviour of the boards.  If the attempt gets as far as `SendSetupFrame`:

    - every event for a board that is not skipped was acknowledged if and only
      if the port took every such frame as a whole, and no board was skipped
      by mistake;
    - every call returned true if and only if the port took every frame as a
      whole. -/
theorem startup_complete_iff (hcarries : P.CarriesTuple) {c : Comm P} {w : W}
    {a : Startup P W} (hopen : c.portOpen = true)
    (hready : startupAttempt H cpp s config port c w = .ready a) :
    ((∀ call ∈ a.calls, call.event.boardId ∉ s.skippedBoards → call.Acknowledged P) ↔
      (∀ call ∈ a.calls, call.event.boardId ∉ s.skippedBoards → call.WritesWhole) ∧
        ∀ board, ¬ Pass.StaleSkip cpp s config c.skippedBoards board) ∧
    ((∀ call ∈ a.calls, call.outcome.returned = true) ↔
      ∀ call ∈ a.calls, call.WritesWhole) := by
  obtain ⟨haccounted, houtcome⟩ := ready_calls hcarries hopen hready
  constructor
  · constructor
    · intro hall
      constructor
      · -- an acknowledged call wrote whole frames
        intro call hcall hboard
        apply (haccounted call hcall).writesWhole_iff.mpr
        rw [(hall call hcall hboard).1]
        simp
      · -- a board skipped by mistake has a call without an ack
        intro board hstale
        obtain ⟨call, hcall, rfl, hnot⟩ := stale_call hcarries hready hstale
        exact hnot (hall call hcall hstale.2.1).1
    · intro h call hcall hboard
      obtain ⟨hwhole, hnone⟩ := h
      apply (haccounted call hcall).isAcknowledged
      rcases houtcome call hcall (hwhole call hcall hboard) with hok | ⟨-, hstale⟩
      · exact hok
      · exact absurd hstale (hnone _)
  · constructor
    · -- a call whose write failed returned false
      intro hall call hcall
      apply (haccounted call hcall).writesWhole_iff.mpr
      intro hfailed
      have hreturned := hall call hcall
      rw [hfailed] at hreturned
      contradiction
    · intro hwhole call hcall
      rcases houtcome call hcall (hwhole call hcall) with hok | ⟨hskip, -⟩
      · rw [hok]
        rfl
      · rw [hskip]
        rfl

end Startup

namespace Reference

/-- The first frame is not taken as a whole, the others are acknowledged: the
    attempt gets as far as `SendSetupFrame` without the first event. -/
theorem short_write_unnoticed :
    Accepted header yamlCpp (document []) ∧
      ∃ a, startupAttempt header yamlCpp settings (document []) port comm
          { rounds := 9, writes := [4], replies := [] :: boardAcks.tail } = .ready a ∧
        ∃ call ∈ a.calls, call.event.boardId ∉ settings.skippedBoards ∧
          call.outcome.returned = false ∧ ¬ call.Acknowledged protocol := by
  refine ⟨⟨"", emptyPpuc, ⟨⟨⟩, rfl⟩⟩, ?_⟩
  have houtcomes : (startupAttempt header yamlCpp settings (document []) port comm
      { rounds := 9, writes := [4], replies := [] :: boardAcks.tail }).calls.map
        (List.map ConfigCall.outcome) = some [.writeFailed, .acknowledged, .acknowledged] := by
    decide +kernel
  obtain ⟨calls, hcalls, houtcome⟩ := Option.map_eq_some_iff.mp houtcomes
  obtain ⟨a, hready, rfl⟩ := AttemptEnd.ready_of_calls hcalls
  obtain ⟨call, rest, hsplit, hfailed, -⟩ := List.map_eq_cons_iff.mp houtcome
  refine ⟨a, hready, call, hsplit ▸ List.mem_cons_self, by simp [settings], ?_, ?_⟩
  · rw [hfailed]
    rfl
  · intro hacknowledged
    have hok := hacknowledged.1
    rw [hfailed] at hok
    cases hok

/-- All three events of a board are taken and acknowledged. -/
theorem one_board_complete :
    ∃ a, startupAttempt header yamlCpp settings (document []) port comm
        { rounds := 9, replies := boardAcks } = .ready a ∧
      (((∀ call ∈ a.calls, call.event.boardId ∉ settings.skippedBoards →
          call.Acknowledged protocol) ↔
        (∀ call ∈ a.calls, call.event.boardId ∉ settings.skippedBoards → call.WritesWhole) ∧
          ∀ board, ¬ Pass.StaleSkip yamlCpp settings (document []) comm.skippedBoards board) ∧
      ((∀ call ∈ a.calls, call.outcome.returned = true) ↔
        ∀ call ∈ a.calls, call.WritesWhole)) := by
  have houtcomes : (startupAttempt header yamlCpp settings (document []) port comm
      { rounds := 9, replies := boardAcks }).calls.map (List.map ConfigCall.outcome) =
        some [.acknowledged, .acknowledged, .acknowledged] := by decide +kernel
  obtain ⟨calls, hcalls, -⟩ := Option.map_eq_some_iff.mp houtcomes
  obtain ⟨a, hready, -⟩ := AttemptEnd.ready_of_calls hcalls
  exact ⟨a, hready, Startup.startup_complete_iff protocol_carriesTuple rfl hready⟩

end Reference

end LibPpuc
