import LibPpuc.Startup.Numbering

/-! # Which Boards a Failed Startup Names

  If a startup attempt returns false, `Connect` prints the boards without a
  config ack.  The list is computed from the setters of the attempt and from
  the boards that are present, at whatever check the attempt has stopped.

  From the setters on it names exactly the boards of the document that are
  not skipped and have acknowledged nothing.  An attempt that stops in the
  board loop has not come to the setters: its list is about the boards of the
  last attempt that came to its setters.
-/

namespace LibPpuc

/-- A call for the board was acknowledged. -/
def HasAcknowledged (calls : List ConfigCall) (board : UInt8) : Prop :=
  ∃ call ∈ calls, call.event.boardId = board ∧ call.outcome = .acknowledged

instance (calls : List ConfigCall) (board : UInt8) : Decidable (HasAcknowledged calls board) :=
  inferInstanceAs (Decidable (∃ call ∈ calls,
    call.event.boardId = board ∧ call.outcome = .acknowledged))

theorem hasAcknowledged_concat (calls : List ConfigCall) (call : ConfigCall) (board : UInt8) :
    HasAcknowledged (calls ++ [call]) board ↔
      HasAcknowledged calls board ∨ call.event.boardId = board ∧ call.outcome = .acknowledged := by
  simp [HasAcknowledged, or_and_right, exists_or]

namespace Pass

open Emitter

variable {H : EventHeader} {cpp : YamlCpp} {s : StartupSettings}

/-- The board loop collects the board numbers of the document. -/
theorem configuredBoards_boardsPass {config : Yaml} {boards : Boards}
    (hok : (boardsPass H cpp s config).result = .ok boards) :
    boards.configuredBoards = configuredBoards cpp config := by
  have hloop : ∀ (items : List Yaml) (boards boards' : Boards),
      (items.foldlM (boardPass H cpp s config) boards).result = .ok boards' →
      boards'.configuredBoards = boards.configuredBoards ++
        items.filterMap fun n_board => (cpp.asUInt8 (n_board.get "number")).toOption := by
    intro items
    induction items with
    | nil =>
      intro boards boards' hok
      obtain rfl := Except.ok.inj hok
      simp
    | cons n_board items ih =>
      intro boards boards' hok
      rw [List.foldlM_cons] at hok
      obtain ⟨next, hround, hrest⟩ := result_bind_ok.mp hok
      obtain ⟨board, hnumber, hnext⟩ := boardPass_ok hround
      have hcollected : next.configuredBoards = boards.configuredBoards ++ [board] := by
        split at hnext
        · rw [hnext]
        · obtain ⟨_, _, -, -, rfl⟩ := hnext
          rfl
      rw [ih next boards' hrest, hcollected, List.filterMap_cons, hnumber]
      simp [Except.toOption]
  exact hloop _ _ boards hok

end Pass

namespace Startup

variable {P : Protocol} {W : Type} {H : EventHeader} {port : SerialPort W} {cpp : YamlCpp}
  {s : StartupSettings} {config : Yaml}

/-! ### The Boards That Are Present -/

/-- The boards that are present are those that have answered, besides the ones
    that were there before. -/
def PresentAnswered (before : Finset UInt8) (a : Startup P W) : Prop :=
  ∀ board, board ∈ a.comm.presentBoards ↔ board ∈ before ∨ HasAcknowledged a.calls board

theorem presentAnswered_send (hcarries : P.CarriesTuple) {before : Finset UInt8}
    {a : Startup P W} (h : PresentAnswered before a) (event : ConfigEvent) :
    PresentAnswered before (a.send port event) := by
  intro board
  have hpresent := Comm.presentBoards_sendConfigEvent hcarries port event a.comm a.world
  have hcalls := hasAcknowledged_concat a.calls
    { event := event, skippedBoards := a.comm.skippedBoards,
      outcome := (a.comm.sendConfigEvent port event a.world).outcome,
      traffic := (a.comm.sendConfigEvent port event a.world).traffic } board
  show board ∈ (a.comm.sendConfigEvent port event a.world).comm.presentBoards ↔
    board ∈ before ∨ HasAcknowledged (a.calls ++ [_]) board
  rw [hpresent, hcalls, ← or_assoc, ← h board]
  split
  · next hok => simp [hok, eq_comm, or_comm]
  · next hnot => simp [hnot]

theorem presentBoards_settled (c : Comm P) (x : StartupStep) :
    (settled c x).presentBoards = c.presentBoards := by
  cases x with
  | registerSwitchBoard board =>
    simp only [settled, Comm.registerSwitchBoard]
    split <;> rfl
  | finalizeBoardPresence =>
    obtain ⟨boards, owners, heq⟩ := Comm.finalizeConfiguredBoardPresence_eq c
    rw [show settled c .finalizeBoardPresence = _ from heq]
  | installMappings | setActiveSwitchBoards => rfl
  | send | abortCheck | failureCheck | pushSwitch | pushCoil | pushLamp | tokenRing => rfl

/-- **Step lemma**: no step makes a board present but an ack. -/
theorem presentAnswered_step (hcarries : P.CarriesTuple) {before : Finset UInt8}
    {a a' : Startup P W} {x : StartupStep} (h : PresentAnswered before a)
    (hstep : a.step H port x = some a') : PresentAnswered before a' := by
  obtain ⟨b, events, hcalls, hcomm, -, rfl⟩ := step_settled hstep
  have hsettled : PresentAnswered before b := by
    intro board
    rw [hcomm, presentBoards_settled, hcalls]
    exact h board
  apply sends_invariant (I := PresentAnswered before) _ events hsettled
  intro b event hb
  exact presentAnswered_send hcarries hb event

/-! ### The Boards That Are Configured -/

/-- The boards of the last setters, configured and skipped. -/
def boardLists (c : Comm P) : List UInt8 × Finset UInt8 := (c.configuredBoards, c.skippedBoards)

theorem boardLists_sends (port : SerialPort W) (events : List ConfigEvent) (a : Startup P W) :
    boardLists (a.sends port events).comm = boardLists a.comm := by
  apply sends_invariant (I := fun b => boardLists b.comm = boardLists a.comm) _ events rfl
  intro b event h
  obtain ⟨part, heq⟩ := Comm.sendConfigEvent_eq port event b.comm b.world
  rw [← h]
  show boardLists (b.comm.sendConfigEvent port event b.world).comm = _
  rw [heq]
  rfl

/-- **Step lemma**: only the setters change them. -/
theorem boardLists_step {a a' : Startup P W} {x : StartupStep} (hx : installs x = false)
    (hstep : a.step H port x = some a') : boardLists a'.comm = boardLists a.comm := by
  obtain ⟨b, events, -, hcomm, -, rfl⟩ := step_settled hstep
  rw [boardLists_sends, hcomm]
  cases x with
  | installMappings => simp [installs] at hx
  | registerSwitchBoard board =>
    simp only [settled, Comm.registerSwitchBoard]
    split <;> rfl
  | finalizeBoardPresence =>
    obtain ⟨boards, owners, heq⟩ := Comm.finalizeConfiguredBoardPresence_eq a.comm
    rw [show settled a.comm .finalizeBoardPresence = _ from heq]
    rfl
  | setActiveSwitchBoards => rfl
  | send | abortCheck | failureCheck | pushSwitch | pushCoil | pushLamp | tokenRing => rfl

/-- The setters of a document set its boards. -/
theorem boardLists_installs {a a' : Startup P W} {x : StartupStep}
    (hx : x ∈ (Pass.startupPass P H cpp s config).emitted) (hinstalls : installs x = true)
    (hstep : a.step H port x = some a') :
    boardLists a'.comm = (Pass.configuredBoards cpp config, s.skippedBoards) := by
  obtain ⟨boards, items, numbers, hboards, -, -, rfl⟩ := Pass.installs_startupPass hx hinstalls
  obtain rfl := Option.some.inj hstep
  rw [← Pass.configuredBoards_boardsPass hboards]
  rfl

/-- The lists at a point of an attempt, from the boards they started with. -/
def listsAt (cpp : YamlCpp) (s : StartupSettings) (config : Yaml) (steps : List StartupStep)
    (before : List UInt8 × Finset UInt8) : List UInt8 × Finset UInt8 :=
  if steps.any installs then (Pass.configuredBoards cpp config, s.skippedBoards) else before

/-- **Run lemma**: the lists at any point of an attempt. -/
theorem run_boardLists {steps : List StartupStep} {a a' : Startup P W}
    (hsteps : ∀ x ∈ steps, x ∈ (Pass.startupPass P H cpp s config).emitted)
    (hrun : Transition.exec (step H port) a steps = some a') :
    boardLists a'.comm = listsAt cpp s config steps (boardLists a.comm) := by
  induction steps generalizing a with
  | nil =>
    obtain rfl : a = a' := by simpa using hrun
    rfl
  | cons x steps ih =>
    obtain ⟨b, hstep, hrest⟩ := Transition.exec_cons_some.mp hrun
    obtain ⟨hx, hsteps⟩ := List.forall_mem_cons.mp hsteps
    rw [ih hsteps hrest]
    unfold listsAt
    cases hinstalls : installs x with
    | true => simp [hinstalls, boardLists_installs hx hinstalls hstep]
    | false => simp [hinstalls, boardLists_step hinstalls hstep]

/-! ### The Diagnosis -/

/-- **The boards without a config ack**, at every point where an attempt may
    stop, for every document, every port and every behaviour of the boards:
    the boards of the last setters that were not skipped there and that have
    not answered in this attempt, in their order. -/
theorem missing_boards (hcarries : P.CarriesTuple) {c : Comm P} {w : W} {a : Startup P W}
    {steps : List StartupStep} (hpresent : c.presentBoards = ∅)
    (hsteps : steps <+: (Pass.startupPass P H cpp s config).emitted)
    (hrun : Transition.exec (step H port) (start c w) steps = some a) :
    a.comm.getMissingConfiguredBoards =
      if steps.any installs then
        (Pass.configuredBoards cpp config).filter fun board =>
          board ∉ s.skippedBoards ∧ ¬ HasAcknowledged a.calls board
      else
        c.configuredBoards.filter fun board =>
          board ∉ c.skippedBoards ∧ ¬ HasAcknowledged a.calls board := by
  have hanswered : PresentAnswered ∅ a := by
    apply Transition.exec_invariant (I := PresentAnswered ∅) _ _ hrun
    · intro b x b' hb hstep
      exact presentAnswered_step hcarries hb hstep
    · intro board
      show board ∈ c.presentBoards ↔ board ∈ (∅ : Finset UInt8) ∨ HasAcknowledged [] board
      rw [hpresent]
      simp [HasAcknowledged]
  have hlists := run_boardLists (fun x hx => hsteps.subset hx) hrun
  have hmissing : a.comm.getMissingConfiguredBoards = (boardLists a.comm).1.filter fun board =>
      board ∉ (boardLists a.comm).2 ∧ ¬ HasAcknowledged a.calls board := by
    unfold Comm.getMissingConfiguredBoards
    apply List.filter_congr
    intro board _
    rw [decide_eq_decide, hanswered board]
    simp [boardLists]
  rw [hmissing, hlists]
  unfold listsAt
  split <;> rfl

end Startup

namespace Reference

/-- The steps of a one-board attempt up to the check behind the sections. -/
def stepsToCheck : List StartupStep :=
  (Pass.startupPass protocol header yamlCpp settings (document [])).emitted.take 9

/-- Nobody answers: board 1 is missing. -/
theorem missing_boards_silent :
    ∃ a, Transition.exec (Startup.step header port) (Startup.start comm {}) stepsToCheck =
        some a ∧
      a.comm.getMissingConfiguredBoards =
        if stepsToCheck.any Startup.installs then
          (Pass.configuredBoards yamlCpp (document [])).filter fun board =>
            board ∉ settings.skippedBoards ∧ ¬ HasAcknowledged a.calls board
        else
          comm.configuredBoards.filter fun board =>
            board ∉ comm.skippedBoards ∧ ¬ HasAcknowledged a.calls board := by
  have hrun : (Transition.exec (Startup.step header port) (Startup.start comm {})
      stepsToCheck).isSome = true := by decide +kernel
  obtain ⟨a, hrun⟩ := Option.isSome_iff_exists.mp hrun
  exact ⟨a, hrun, Startup.missing_boards protocol_carriesTuple rfl (List.take_prefix _ _) hrun⟩

end Reference

end LibPpuc
