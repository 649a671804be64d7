import LibPpuc.Runtime.Blocks
import LibPpuc.Reference

/-! # The Firmware Transfer and the Bus Thread

  `UpdateBoardFirmware` goes ahead when `m_runtimeEnabled` is off.  From
  then on until it returns the bus thread shall write nothing.

  The bus thread tests the flag once per iteration, after the trigger
  frames and before everything else it writes.  So it may be past the test
  when the flag is read, and trigger frames are sent in any case.  The
  result: the bus thread is silent in every run in which it has no write
  left before its next test, whatever the boards answer, and no trigger is
  queued, when the transfer starts, and no trigger is queued during the
  transfer.
-/

namespace LibPpuc

variable {P : Protocol} {W : Type}

/-! ### Writes of a Block -/

/-- The environment that remembers every write. -/
def Env.recording (E : Env W) : Env (W × List (List UInt8)) where
  port := E.port.recording
  sourceByte := E.sourceByte
  admin := E.admin

namespace Comm

/-- Waiting for a switch frame writes nothing. -/
theorem awaitSwitchFrame_recording (port : SerialPort W) (c : Comm P) (rounds : Nat)
    (sawAnyReplyBytes hadState : Bool) (w : W × List (List UInt8)) :
    (c.awaitSwitchFrame port.recording rounds sawAnyReplyBytes hadState w).world.2 = w.2 := by
  induction rounds generalizing sawAnyReplyBytes hadState w with
  | zero => rfl
  | succ rounds ih =>
    have hread : (port.recording.read 1 w).2.2 = w.2 := rfl
    -- every branch only reads, then goes on or ends
    unfold awaitSwitchFrame
    split
    · next heq =>
      rw [heq] at hread
      exact (ih _ _ _).trans hread
    · next sync rest w₁ heq =>
      rw [heq] at hread
      split
      · exact (ih _ _ _).trans hread
      · have hheader := port.readExact_recording (P.kHeaderBytes - 1) w₁
        split
        · next heq' =>
          rw [heq'] at hheader
          exact (ih _ _ _).trans (hheader.trans hread)
        · next header w₂ heq' =>
          rw [heq'] at hheader
          split
          · exact (ih _ _ _).trans (hheader.trans hread)
          · next payloadBytes _ =>
            have hbody := port.readExact_recording (payloadBytes + P.kCrcBytes) w₂
            dsimp only
            split
            · next heq'' =>
              rw [heq''] at hbody
              exact (ih _ _ _).trans (hbody.trans (hheader.trans hread))
            · next heq'' =>
              rw [heq''] at hbody
              exact hbody.trans (hheader.trans hread)

/-- `ReceiveSwitchStateFrame` writes nothing. -/
theorem receiveSwitchStateFrame_recording (port : SerialPort W) (expectedBoard : UInt8)
    (r : SwitchReply) (c : Comm P) (w : W × List (List UInt8)) :
    (c.receiveSwitchStateFrame port.recording expectedBoard r w).2.2.2 = w.2 := by
  have hawait := awaitSwitchFrame_recording port c
    (port.recording.window c.switchReplyWindowUs w) false r.hadState w
  unfold receiveSwitchStateFrame
  split
  · dsimp only
    split
    · exact hawait
    · unfold switchReplyTimedOut
      dsimp only
      split <;> exact hawait
  · rfl

/-! ### Blocks without a Write -/

/-- No hop from here on writes a virtual reply, whatever the boards answer. -/
def quietHop (c : Comm P) : Nat → UInt8 → Bool
  | 0, _ => true
  | hops + 1, expected =>
    -- a board in between could answer with the number of a virtualized one
    expected == P.kNoBoard || c.virtualSwitchBoards.keys.isEmpty ||
      (hops == 0 && (c.virtualSwitchBoards.lookup expected).isNone)

/-- From this block on nothing is written before the next runtime test,
    whatever the boards answer, unless an event is queued. -/
def quiet (c : Comm P) : BusPc P → Bool
  | .loop | .popEvent _ | .runtimeTest | .chainDone _ _ | .stopped => true
  | .consumeHoldover nextBoard _ =>
    nextBoard == P.kNoBoard || c.quietHop RS485_COMM_MAX_BOARDS nextBoard
  | .hop hops expected _ _ => c.quietHop hops expected
  | .virtualClear hops _ next _ _ => c.quietHop hops next
  | _ => false

theorem lookup_of_keys_isEmpty {c : Comm P} (h : c.virtualSwitchBoards.keys.isEmpty = true)
    (board : UInt8) : c.virtualSwitchBoards.lookup board = none := by
  rw [AList.lookup_eq_none]
  intro hmem
  have hkey := AList.mem_keys.mp hmem
  rw [List.isEmpty_iff.mp h] at hkey
  exact List.not_mem_nil hkey

/-- A quiet hop on a board of the chain is a reply that has to be received,
    and the next hop is quiet as well. -/
theorem quietHop_succ {c : Comm P} {hops : Nat} {expected : UInt8}
    (h : c.quietHop (hops + 1) expected = true) (hboard : expected ≠ P.kNoBoard) :
    c.virtualSwitchBoards.lookup expected = none ∧ ∀ next, c.quietHop hops next = true := by
  have hcases : c.virtualSwitchBoards.keys.isEmpty = true ∨
      (hops = 0 ∧ c.virtualSwitchBoards.lookup expected = none) := by
    simpa [quietHop, hboard] using h
  rcases hcases with hempty | ⟨rfl, hreal⟩
  · refine ⟨lookup_of_keys_isEmpty hempty expected, ?_⟩
    intro next
    cases hops with
    | zero => rfl
    | succ hops => simp [quietHop, hempty]
  · exact ⟨hreal, fun next => rfl⟩

/-- What the transfer needs of the rest: no queued event, updates stopped. -/
structure Stopped (c : Comm P) : Prop where
  events : c.events = []
  runtime : c.runtimeEnabled = false

/-- Two states with the same queue, flag and virtualized boards. -/
structure SameBus (c c' : Comm P) : Prop where
  events : c'.events = c.events
  runtime : c'.runtimeEnabled = c.runtimeEnabled
  boards : c'.virtualSwitchBoards = c.virtualSwitchBoards

theorem sameBus_of_hostPart {c c' : Comm P} (h : c'.hostPart = c.hostPart) : SameBus c c' where
  events := (congrArg Comm.events h :)
  runtime := (congrArg Comm.runtimeEnabled h :)
  boards := (congrArg Comm.virtualSwitchBoards h :)

theorem SameBus.stopped {c c' : Comm P} (h : SameBus c c') (hstop : Stopped c) : Stopped c' :=
  ⟨h.events.trans hstop.events, h.runtime.trans hstop.runtime⟩

theorem SameBus.quietHop {c c' : Comm P} (h : SameBus c c') (hops : Nat) (expected : UInt8) :
    c'.quietHop hops expected = c.quietHop hops expected := by
  cases hops with
  | zero => rfl
  | succ hops => simp only [Comm.quietHop, h.boards]

theorem SameBus.quiet {c c' : Comm P} (h : SameBus c c') (pc : BusPc P) :
    c'.quiet pc = c.quiet pc := by
  unfold Comm.quiet
  split <;> first | rfl | rw [h.quietHop]

/-- Clearing a dirty flag virtualizes nothing. -/
theorem quietHop_clearDirty (board : UInt8) (c : Comm P) (hops : Nat) (expected : UInt8)
    (h : c.quietHop hops expected = true) :
    (c.clearDirty board).quietHop hops expected = true := by
  cases hops with
  | zero => rfl
  | succ hops =>
    by_cases hboard : expected = P.kNoBoard
    · simp [quietHop, hboard]
    · by_cases hempty : c.virtualSwitchBoards.keys.isEmpty = true
      · -- nothing is virtualized, so no flag is cleared
        have hsame : c.clearDirty board = c := by
          unfold clearDirty
          rw [lookup_of_keys_isEmpty hempty board]
        rw [hsame]
        exact h
      · have hlast : hops = 0 ∧ c.virtualSwitchBoards.lookup expected = none := by
          simpa [quietHop, hboard, hempty] using h
        have hreal : (c.clearDirty board).virtualSwitchBoards.lookup expected = none := by
          rw [lookup_clearDirty, hlast.2]
          split <;> rfl
        simp [quietHop, hlast.1, hreal]

/-- A hop that is quiet writes nothing and leads to a quiet block. -/
theorem quiet_hop (port : SerialPort W) (c : Comm P) (w : W × List (List UInt8)) (hops : Nat)
    (expected : UInt8) (reply : SwitchReply) (refresh : Bool)
    (h : c.quietHop hops expected = true) :
    let r := c.hop port.recording hops expected reply refresh w
    r.2.2.2 = w.2 ∧ SameBus c r.2.1 ∧ r.2.1.quiet r.1 = true := by
  have hsame : SameBus c c := ⟨rfl, rfl, rfl⟩
  unfold hop
  cases hops with
  | zero => exact ⟨rfl, hsame, rfl⟩
  | succ hops =>
    -- the chain ends here, or a real board is awaited
    by_cases hboard : expected = P.kNoBoard
    · simp only [hboard, if_true]
      exact ⟨trivial, hsame, rfl⟩
    · obtain ⟨hreal, hnext⟩ := quietHop_succ h hboard
      have hsilent := receiveSwitchStateFrame_recording port expected reply c w
      have hkept := sameBus_of_hostPart
        (hostPart_receiveSwitchStateFrame port.recording expected reply c w)
      simp only [hboard, if_false, hreal]
      split
      · exact ⟨hsilent, hkept, (hkept.quietHop _ _).trans (hnext _)⟩
      · exact ⟨hsilent, hkept, rfl⟩

/-- **A quiet block** of a stopped host writes nothing and leads to a quiet
    block. -/
theorem quiet_busStep {port : SerialPort W} {sourceByte : EventSource → UInt8}
    {pc pc' : BusPc P} {c c' : Comm P} {w w' : W × List (List UInt8)}
    (hstop : Stopped c) (hquiet : c.quiet pc = true)
    (hstep : c.busStep port.recording sourceByte pc w = some (pc', c', w')) :
    w'.2 = w.2 ∧ Stopped c' ∧ c'.quiet pc' = true := by
  -- blocks that write are not quiet; the others follow one by one
  unfold busStep at hstep
  match pc with
  | .stopped => exact nomatch hstep
  | .loop =>
    obtain ⟨rfl, rfl, rfl⟩ := by simpa using hstep
    refine ⟨rfl, hstop, ?_⟩
    split <;> rfl
  | .popEvent eventsSent =>
    simp only [hstop.events, ite_self] at hstep
    obtain ⟨rfl, rfl, rfl⟩ := by simpa using hstep
    exact ⟨rfl, hstop, rfl⟩
  | .runtimeTest =>
    simp only [hstop.runtime] at hstep
    obtain ⟨rfl, rfl, rfl⟩ := by simpa using hstep
    exact ⟨rfl, hstop, rfl⟩
  | .consumeHoldover nextBoard holdFrames =>
    obtain ⟨rfl, rfl, rfl⟩ := by simpa using hstep
    refine ⟨rfl, ⟨hstop.events, hstop.runtime⟩, ?_⟩
    unfold BusPc.afterFrame
    split
    · rfl
    · next hboard =>
      have hhop : c.quietHop RS485_COMM_MAX_BOARDS nextBoard = true := by
        simpa [quiet, hboard] using hquiet
      exact hhop
  | .hop hops expected reply refresh =>
    have hres := quiet_hop port c w hops expected reply refresh hquiet
    dsimp only at hres hstep
    rw [Option.some.inj hstep] at hres
    obtain ⟨hsilent, hsame, hnext⟩ := hres
    exact ⟨hsilent, hsame.stopped hstop, hnext⟩
  | .virtualClear hops board next sendState refresh =>
    obtain ⟨rfl, rfl, rfl⟩ := by simpa using hstep
    refine ⟨rfl, ?_, quietHop_clearDirty board c hops next hquiet⟩
    unfold clearDirty
    split <;> exact ⟨hstop.events, hstop.runtime⟩
  | .chainDone success refresh =>
    obtain ⟨rfl, rfl, rfl⟩ := by simpa using hstep
    have hsame := sameBus_of_hostPart (hostPart_chainDone port.recording success refresh c w)
    exact ⟨rfl, hsame.stopped hstop, rfl⟩
  | .sendEvent .. | .resyncTest | .resyncSetup | .resyncMapping _ | .inspectQueue
  | .copyState .. | .writeFrame .. | .virtualCopy .. | .virtualWrite .. => exact nomatch hquiet

end Comm

namespace Sys

/-! ### The System during a Transfer -/

/-- The steps the law is about: the bus thread, events other than
    `EVENT_RUN`, and `UpdateBoardFirmware`. -/
def transferLabel : Label → Bool
  | .bus | .updateBoardFirmware _ | .firmware => true
  | .queueEvent event => event.sourceId != .run
  | _ => false

/-- A block of the bus thread during a transfer writes nothing. -/
def BusSilent (E : Env W) (s : Sys P (W × List (List UInt8))) (l : Label) : Prop :=
  l = .bus → s.transferring = true → ∀ s' ∈ s.step E.recording .bus, s'.world.2 = s.world.2

instance (E : Env W) (s : Sys P (W × List (List UInt8))) (l : Label) :
    Decidable (BusSilent E s l) :=
  inferInstanceAs (Decidable (l = .bus → s.transferring = true →
    ∀ s' ∈ s.step E.recording .bus, s'.world.2 = s.world.2))

/-- The condition on a step: a transfer that passes its runtime test finds
    the bus thread quiet whatever the boards answer and no event queued, and
    no trigger is queued while a transfer is on. -/
def leavesBus (s : Sys P W) (l : Label) : Bool :=
  transferLabel l &&
    match l, s.firmware with
    | .firmware, some (_, .runtimeTest) =>
      s.comm.runtimeEnabled || (s.comm.events.isEmpty && s.comm.quiet s.bus)
    | .queueEvent event, _ => !s.transferring || event.sourceId != .effect
    | _, _ => true

/-- While a transfer is on, the bus thread is stopped and quiet. -/
def Exclusive (s : Sys P W) : Prop :=
  s.transferring = true → Comm.Stopped s.comm ∧ s.comm.quiet s.bus = true

section exclusive

variable {E : Env W}

theorem exclusive_bus {s s' : Sys P (W × List (List UInt8))} (h : Exclusive s)
    (hstep : s.step E.recording .bus = some s') :
    Exclusive s' ∧ (s.transferring = true → s'.world.2 = s.world.2) := by
  have hfirmware : s'.transferring = s.transferring := by
    unfold transferring
    rw [(step_bus hstep).2]
  unfold step at hstep
  obtain ⟨⟨pc', c', w'⟩, hblock, rfl⟩ := Option.map_eq_some_iff.mp hstep
  constructor
  · intro hon
    obtain ⟨hstop, hquiet⟩ := h (hfirmware ▸ hon)
    exact (Comm.quiet_busStep hstop hquiet hblock).2
  · intro hon
    obtain ⟨hstop, hquiet⟩ := h hon
    exact (Comm.quiet_busStep hstop hquiet hblock).1

/-- An event other than `EVENT_RUN` and a trigger leaves the bus alone. -/
theorem sameBus_queueEvent (port : SerialPort W) (w : W) {event : Event} (c : Comm P)
    (hrun : event.sourceId ≠ .run) (heffect : event.sourceId ≠ .effect) :
    Comm.SameBus c (c.queueEvent port w event) := by
  have hinv := Comm.queueEvent_effect port w event c
  generalize c.queueEvent port w event = c' at hinv ⊢
  cases hinv with
  | coil => exact ⟨rfl, rfl, rfl⟩
  | level => exact ⟨rfl, rfl, rfl⟩
  | run hsource => exact absurd hsource hrun
  | effect hsource => exact absurd hsource heffect
  | ignored => exact ⟨rfl, rfl, rfl⟩

/-- Only the runtime test starts a transfer, and only if updates are off. -/
theorem transferring_firmwareStep (port : SerialPort W) (A : AdminProtocol)
    (request : FirmwareRequest) (stage : FirmwareStage) (c : Comm P) (w : W)
    (h : (c.firmwareStep port A request stage w).1.transferring = true) :
    stage.transferring = true ∨ (stage = .runtimeTest ∧ c.runtimeEnabled = false) := by
  cases stage with
  | query =>
    exfalso
    revert h
    unfold Comm.firmwareStep
    dsimp only
    split
    · exact nofun
    · split
      · exact nofun
      · split <;> exact nofun
  | runtimeTest =>
    refine Or.inr ⟨rfl, ?_⟩
    by_contra hon
    simp only [Comm.firmwareStep, Bool.not_eq_false] at h hon
    rw [if_pos hon] at h
    exact nomatch h
  | returned result => exact nomatch h
  | sendBegin | awaitBegin | nextChunk | sendChunk | awaitChunk | sendCommit | awaitResult =>
    exact Or.inl rfl

theorem exclusive_step {s s' : Sys P (W × List (List UInt8))} {l : Label} (h : Exclusive s)
    (hguard : leavesBus s l = true) (hstep : s.step E.recording l = some s') : Exclusive s' := by
  unfold leavesBus at hguard
  obtain ⟨hlabel, hguard⟩ := Bool.and_eq_true_iff.mp hguard
  -- an event and a block keep both parts; a transfer starts on the guard
  cases l with
  | bus => exact (exclusive_bus h hstep).1
  | queueEvent event =>
    obtain rfl := step_queueEvent hstep
    intro hon
    have hon' : s.transferring = true := hon
    have hrun : event.sourceId ≠ .run := by simpa [transferLabel] using hlabel
    have heffect : event.sourceId ≠ .effect := by simpa [hon'] using hguard
    have hsame := sameBus_queueEvent E.recording.port s.world s.comm hrun heffect
    obtain ⟨hstop, hquiet⟩ := h hon'
    exact ⟨hsame.stopped hstop, (hsame.quiet s.bus).trans hquiet⟩
  | setVirtualSwitchState | getNextSwitchState => contradiction
  | updateBoardFirmware request =>
    simp only [step] at hstep
    split at hstep
    · obtain rfl := Option.some.inj hstep
      intro hon
      contradiction
    · contradiction
  | firmware =>
    obtain ⟨hpc, hhost⟩ := step_sessionLabel (l := .firmware) rfl hstep
    have hsame := Comm.sameBus_of_hostPart hhost
    intro hon
    have hready : Comm.Stopped s.comm ∧ s.comm.quiet s.bus = true := by
      simp only [step] at hstep
      split at hstep
      · contradiction
      · next request stage hfirmware =>
        obtain rfl := Option.some.inj hstep
        rcases transferring_firmwareStep E.recording.port E.recording.admin request stage s.comm
          s.world hon with hbefore | ⟨rfl, hoff⟩
        · exact h (by unfold transferring; rw [hfirmware]; exact hbefore)
        · -- the transfer starts here: the guard applies
          have hfree : s.comm.events = [] ∧ s.comm.quiet s.bus = true := by
            simpa [hfirmware, hoff] using hguard
          exact ⟨⟨hfree.1, hoff⟩, hfree.2⟩
    refine ⟨hsame.stopped hready.1, ?_⟩
    rw [hpc, hsame.quiet]
    exact hready.2

/-- **The transfer owns the bus.**  From a state without a transfer, in every
    run of the bus thread, of events other than `EVENT_RUN` and of firmware
    transfers whose steps all meet the condition, the bus thread writes
    nothing while a transfer is on. -/
theorem transfer_owns_bus (s : Sys P (W × List (List UInt8))) (ls : List Label)
    (hidle : s.transferring = false)
    (hguard : Transition.Along (step E.recording) (fun s l => leavesBus s l = true) s ls) :
    Transition.Along (step E.recording) (BusSilent E) s ls := by
  refine Transition.along_of_along (fun s l s' h hg hstep => exclusive_step h hg hstep) ?_
    (fun hon => nomatch hidle.symm.trans hon) hguard
  intro s l hexclusive _ heq hon s' hstep
  subst heq
  exact (exclusive_bus hexclusive hstep).2 hon

end exclusive

end Sys

namespace Reference

open Sys

/-- Updates are off, and board 1 answers a version query. -/
def firmwareSystem : Sys protocol (Script × List (List UInt8)) :=
  Sys.start env.recording
    (mappedComm.queueEvent port {} { sourceId := .run, eventId := 0, value := 0 })
    ({ replies := [frame .admin 0xFF 0 1 ([1, 1] ++ List.replicate 11 0)], rounds := 1 }, [])

/-- A call of `UpdateBoardFirmware` up to the start of its transfer. -/
def transferStarts : List Label :=
  [.updateBoardFirmware { board := 1, imageBoardType := 0, image := some [0x55] },
    .firmware, .firmware]

/-- An application effect. -/
def effectEvent : Event := { sourceId := .effect, eventId := 1, value := 1 }

/-- A trigger that is queued during the transfer goes out at once. -/
theorem trigger_during_transfer_sent :
    ¬ ∀ ls : List Label, (∀ l ∈ ls, transferLabel l = true) →
        Transition.Along (step env.recording) (BusSilent env) firmwareSystem ls := by
  intro h
  have hsilent := h (transferStarts ++ .queueEvent effectEvent :: List.replicate 3 .bus) (by decide)
  exact absurd hsilent (by decide +kernel)

/-- Without a trigger the bus thread only turns over its loop. -/
theorem transfer_without_trigger_silent :
    Transition.Along (step env.recording) (BusSilent env) firmwareSystem
      (transferStarts ++ .queueEvent coilOn :: List.replicate 6 .bus ++ [.firmware]) :=
  transfer_owns_bus firmwareSystem _ rfl (by decide +kernel)

end Reference

end LibPpuc
