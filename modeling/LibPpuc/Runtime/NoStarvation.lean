import LibPpuc.Framework.Progress
import LibPpuc.Runtime.BusEpochs

/-! # No Starvation of the Output

  However many events are queued, whatever the boards answer and however
  often the session is disputed: in every stretch of a session that has more
  than `mappings + 107` blocks of the bus thread, an output frame goes out,
  as long as no announcement breaks off and the runtime is enabled.  A switch
  refresh that is due takes the place of the output state in its frame.

  `blocksLeft` bounds the blocks before the one that writes the frame.  It
  goes down with every block and is left alone by the other threads: a round
  takes `RS485_COMM_MAX_EVENTS_TO_SEND` events at most, a chain has
  `RS485_COMM_MAX_BOARDS` hops at most.
-/

namespace LibPpuc

variable {P : Protocol} {W : Type}

/-- A setup or mapping frame that the port did not take whole. -/
def BusEntry.breaksOff : BusEntry P → Bool
  | .written (.setup ..) false | .written (.mapping ..) false => true
  | _ => false

theorem BusEntry.whole_of_setup (sequence epoch : UInt8) (config : RuntimeConfig) {whole : Bool}
    (h : (written (.setup sequence epoch config : BusFrame P) whole).breaksOff = false) :
    whole = true := by
  cases whole with
  | true => rfl
  | false => exact nomatch h

theorem BusEntry.whole_of_mapping (sequence epoch : UInt8) (entry : UInt8 × UInt16 × UInt16)
    {whole : Bool}
    (h : (written (.mapping sequence epoch entry : BusFrame P) whole).breaksOff = false) :
    whole = true := by
  cases whole with
  | true => rfl
  | false => exact nomatch h

/-- An output or refresh frame was handed to the port. -/
def BusEntry.isOutput : BusEntry P → Bool
  | .written frame _ => frame.isOutput
  | .disputed => false

/-- The application switches the runtime off. -/
def Label.stopsRuntime : Label → Bool
  | .queueEvent event => event.sourceId == .run && event.value == 0
  | _ => false

namespace BusPc

/-- At most so many blocks come before the one that writes the next output
    frame. -/
def blocksLeft (mappings : Nat) : BusPc P → Nat
  | .writeFrame .. | .stopped => 0
  | .copyState .. => 1
  | .inspectQueue => 2
  | .resyncMapping rest => rest.length + 3
  | .resyncSetup => mappings + 4
  | .resyncTest => mappings + 5
  | .runtimeTest => mappings + 6
  | .popEvent eventsSent => 2 * (RS485_COMM_MAX_EVENTS_TO_SEND - eventsSent) + mappings + 7
  | .sendEvent eventsSent _ =>
    2 * (RS485_COMM_MAX_EVENTS_TO_SEND - (eventsSent + 1)) + mappings + 8
  | .loop => 2 * RS485_COMM_MAX_EVENTS_TO_SEND + mappings + 8
  | .chainDone .. => 2 * RS485_COMM_MAX_EVENTS_TO_SEND + mappings + 9
  | .hop hops .. => 4 * hops + 2 * RS485_COMM_MAX_EVENTS_TO_SEND + mappings + 10
  | .virtualClear hops .. => 4 * hops + 2 * RS485_COMM_MAX_EVENTS_TO_SEND + mappings + 11
  | .virtualWrite hops .. => 4 * hops + 2 * RS485_COMM_MAX_EVENTS_TO_SEND + mappings + 12
  | .virtualCopy hops .. => 4 * hops + 2 * RS485_COMM_MAX_EVENTS_TO_SEND + mappings + 13
  | .consumeHoldover .. =>
    4 * RS485_COMM_MAX_BOARDS + 2 * RS485_COMM_MAX_EVENTS_TO_SEND + mappings + 11

/-- The local variables of the bus thread keep to their bounds. -/
def InBounds (mappings : Nat) : BusPc P → Prop
  | .copyState nextBoard .. | .writeFrame nextBoard .. => P.isValidBoard nextBoard = true
  | .resyncMapping rest => rest.length ≤ mappings
  | .hop hops .. => hops ≤ RS485_COMM_MAX_BOARDS
  | .virtualCopy hops .. | .virtualWrite hops .. | .virtualClear hops .. =>
    hops < RS485_COMM_MAX_BOARDS
  | .stopped => False
  | _ => True

theorem blocksLeft_le {mappings : Nat} {pc : BusPc P} (h : pc.InBounds mappings) :
    pc.blocksLeft mappings ≤ mappings + 107 := by
  cases pc <;>
    simp only [blocksLeft, InBounds, RS485_COMM_MAX_EVENTS_TO_SEND,
      RS485_COMM_MAX_BOARDS] at h ⊢ <;>
    omega

theorem inBounds_afterFrame (mappings : Nat) (nextBoard : UInt8) (refresh : Bool) :
    (afterFrame nextBoard refresh : BusPc P).InBounds mappings := by
  unfold afterFrame
  split
  · trivial
  · exact Nat.le_refl _

theorem blocksLeft_afterFrame_lt (mappings : Nat) (nextBoard : UInt8) (refresh : Bool)
    (holdFrames : Vector Nat P.kMaxCoilBits) :
    (afterFrame nextBoard refresh : BusPc P).blocksLeft mappings <
      (consumeHoldover nextBoard holdFrames : BusPc P).blocksLeft mappings := by
  unfold afterFrame
  split
  · simp only [blocksLeft]
    omega
  · simp only [blocksLeft]
    omega

end BusPc

namespace Comm

/-- What stays as it is while the bus thread runs. -/
def setupPart (c : Comm P) :
    Bool × Bool × RuntimeConfig × List UInt8 × List (UInt8 × UInt16 × UInt16) :=
  (c.portOpen, c.stopRequested, c.runtimeConfig, c.switchBoards, c.mappingFrames)

/-- The host can write output frames. -/
structure Ready (c : Comm P) : Prop where
  portOpen : c.portOpen = true
  running : c.stopRequested = false
  valid : P.isValidRuntimeConfig c.runtimeConfig = true
  boards : ∀ board ∈ c.switchBoards, P.isValidBoard board = true

theorem Ready.of_setupPart {c c' : Comm P} (h : c.Ready) (hsetup : c'.setupPart = c.setupPart) :
    c'.Ready where
  portOpen := (congrArg (fun p => p.1) hsetup :).trans h.portOpen
  running := (congrArg (fun p => p.2.1) hsetup :).trans h.running
  valid := by
    rw [show c'.runtimeConfig = c.runtimeConfig from congrArg (fun p => p.2.2.1) hsetup]
    exact h.valid
  boards := by
    rw [show c'.switchBoards = c.switchBoards from congrArg (fun p => p.2.2.2.1) hsetup]
    exact h.boards

theorem isValidBoard_polledBoard (hnone : P.isValidBoard P.kNoBoard = true) {c : Comm P}
    (h : c.Ready) (now : Nat) : P.isValidBoard (c.polledBoard now) = true := by
  unfold polledBoard
  split
  · next board rest hboards =>
    split
    · exact h.boards board (by rw [hboards]; exact List.mem_cons_self)
    · exact hnone
  · exact hnone

section blocks

variable {E : Env W} {pc pc' : BusPc P} {c c' : Comm P} {w w' : W} {mappings : Nat}

/-- The block keeps the bounds.  If the runtime is enabled and no announcement
    breaks off, it writes an output frame or leaves fewer blocks. -/
def Moves (E : Env W) (mappings : Nat) (pc : BusPc P) (c : Comm P) (w : W) (pc' : BusPc P) : Prop :=
  pc'.InBounds mappings ∧
    (c.runtimeEnabled = true → (∀ entry ∈ c.writtenBy E pc w, entry.breaksOff = false) →
      (∃ entry ∈ c.writtenBy E pc w, entry.isOutput = true) ∨
        pc'.blocksLeft mappings < pc.blocksLeft mappings)

/-- With a valid board, the block writes. -/
theorem writtenBy_writeFrame (h : c.Ready) {nextBoard : UInt8}
    (hboard : P.isValidBoard nextBoard = true) (refresh : Bool) (snapshot : QueuedOutputSnapshot P)
    (holdFrames : Vector Nat P.kMaxCoilBits) (w : W) :
    ∃ entry ∈ c.writtenBy E (.writeFrame nextBoard refresh snapshot holdFrames) w,
      entry.isOutput = true := by
  simp only [writtenBy, frameOf, h.portOpen, h.valid, hboard, and_self, if_true, Option.map_some,
    Option.toList_some, List.mem_singleton, exists_eq_left]
  cases refresh with
  | true => rfl
  | false => rfl

/-- No announcement breaks off: the setup frame is written. -/
theorem sendSetupFrame_whole (h : c.Ready)
    (hwhole : ∀ entry ∈ c.writtenBy E .resyncSetup w, entry.breaksOff = false) :
    (c.sendSetupFrame E.port w).1 = true := by
  rw [sendSetupFrame_of_open E.port E.sourceByte h.portOpen h.valid w, takes_writeBytes]
  · refine BusEntry.whole_of_setup c.sequence c.epoch c.runtimeConfig (hwhole _ ?_)
    simp only [writtenBy, frameOf, h.portOpen, h.valid, and_self, if_true, Option.map_some,
      Option.toList_some, List.mem_singleton, BusPc.writeWorld]
  · exact h.portOpen

theorem sendMappingFrame_whole (h : c.Ready) {entry : UInt8 × UInt16 × UInt16}
    {rest : List (UInt8 × UInt16 × UInt16)}
    (hwhole : ∀ heard ∈ c.writtenBy E (.resyncMapping (entry :: rest)) w,
      heard.breaksOff = false) :
    (c.sendMappingFrame E.port entry.1 entry.2.1 entry.2.2 w).1 = true := by
  rw [sendMappingFrame_of_open E.port E.sourceByte entry h.portOpen w, takes_writeBytes]
  · refine BusEntry.whole_of_mapping c.sequence c.epoch entry (hwhole _ ?_)
    simp only [writtenBy, frameOf, h.portOpen, if_true, Option.map_some, Option.toList_some,
      List.mem_singleton, BusPc.writeWorld]
  · exact h.portOpen

/-- **Step lemma**: every block moves on. -/
theorem moves_busStep (hnone : P.isValidBoard P.kNoBoard = true) (h : c.Ready)
    (hmappings : c.mappingFrames.length = mappings) (hbounds : pc.InBounds mappings)
    (hblock : c.busStep E.port E.sourceByte pc w = some (pc', c', w')) :
    Moves E mappings pc c w pc' := by
  have hless : pc'.InBounds mappings → pc'.blocksLeft mappings < pc.blocksLeft mappings →
      Moves E mappings pc c w pc' := fun hin hlt => ⟨hin, fun _ _ => Or.inr hlt⟩
  unfold busStep at hblock
  match pc with
  | .stopped => exact nomatch hblock
  | .loop =>
    obtain ⟨rfl, rfl, rfl⟩ := by simpa [h.running] using hblock
    refine hless trivial ?_
    simp only [BusPc.blocksLeft]
    omega
  | .popEvent eventsSent =>
    dsimp only at hblock
    split at hblock
    · -- the round takes one of its events
      split at hblock
      · obtain ⟨rfl, rfl, rfl⟩ := by simpa using hblock
        refine hless trivial ?_
        simp only [BusPc.blocksLeft]
        omega
      · obtain ⟨rfl, rfl, rfl⟩ := by simpa using hblock
        refine hless trivial ?_
        simp only [BusPc.blocksLeft]
        omega
    · obtain ⟨rfl, rfl, rfl⟩ := by simpa using hblock
      refine hless trivial ?_
      simp only [BusPc.blocksLeft]
      omega
  | .sendEvent eventsSent event =>
    obtain ⟨rfl, rfl, rfl⟩ := by simpa using hblock
    refine hless trivial ?_
    simp only [BusPc.blocksLeft]
    omega
  | .runtimeTest =>
    dsimp only at hblock
    split at hblock
    · obtain ⟨rfl, rfl, rfl⟩ := by simpa using hblock
      refine hless trivial ?_
      simp only [BusPc.blocksLeft]
      omega
    · next hdisabled =>
      obtain ⟨rfl, rfl, rfl⟩ := by simpa using hblock
      exact ⟨trivial, fun henabled => absurd henabled hdisabled⟩
  | .resyncTest =>
    dsimp only at hblock
    split at hblock
    · obtain ⟨rfl, rfl, rfl⟩ := by simpa using hblock
      refine hless trivial ?_
      simp only [BusPc.blocksLeft]
      omega
    · obtain ⟨rfl, rfl, rfl⟩ := by simpa using hblock
      refine hless trivial ?_
      simp only [BusPc.blocksLeft]
      omega
  | .resyncSetup =>
    obtain ⟨sequence, log, heq⟩ := sendSetupFrame_eq E.port c w
    dsimp only at hblock
    split at hblock
    · next c₁ w₁ hok =>
      rw [hok] at heq
      obtain ⟨rfl, rfl, rfl⟩ := by simpa using hblock
      have hlength : c₁.mappingFrames.length = mappings := by
        rw [show c₁ = _ from heq]
        exact hmappings
      refine hless (Nat.le_of_eq hlength) ?_
      simp only [BusPc.blocksLeft, hlength]
      omega
    · next hfailed =>
      obtain ⟨rfl, rfl, rfl⟩ := by simpa using hblock
      refine ⟨trivial, fun _ hwhole => ?_⟩
      have hsent := sendSetupFrame_whole h hwhole
      rw [hfailed] at hsent
      exact nomatch hsent
  | .resyncMapping [] =>
    obtain ⟨rfl, rfl, rfl⟩ := by simpa using hblock
    refine hless trivial ?_
    simp only [BusPc.blocksLeft]
    omega
  | .resyncMapping (entry :: rest) =>
    dsimp only at hblock
    split at hblock
    · obtain ⟨rfl, rfl, rfl⟩ := by simpa using hblock
      have hlength : rest.length + 1 ≤ mappings := hbounds
      refine hless (Nat.le_of_succ_le hlength) ?_
      simp only [BusPc.blocksLeft, List.length_cons]
      omega
    · next hfailed =>
      obtain ⟨rfl, rfl, rfl⟩ := by simpa using hblock
      refine ⟨trivial, fun _ hwhole => ?_⟩
      have hsent := sendMappingFrame_whole h hwhole
      rw [hfailed] at hsent
      exact nomatch hsent
  | .inspectQueue =>
    have hboard := isValidBoard_polledBoard hnone h (E.port.steadyMs w)
    have hinspect := Option.some.inj hblock
    unfold inspectQueue at hinspect
    dsimp only at hinspect
    have hdone : ∀ refresh snapshot,
        (.copyState (c.polledBoard (E.port.steadyMs w)) refresh snapshot : BusPc P) = pc' →
          Moves E mappings .inspectQueue c w pc' := by
      rintro refresh snapshot rfl
      refine ⟨hboard, fun _ _ => Or.inr ?_⟩
      simp only [BusPc.blocksLeft]
      omega
    split at hinspect
    · exact hdone _ _ (congrArg Prod.fst hinspect)
    · split at hinspect
      · exact hdone _ _ (congrArg Prod.fst hinspect)
      · exact hdone _ _ (congrArg Prod.fst hinspect)
  | .copyState nextBoard refresh snapshot =>
    obtain ⟨rfl, rfl, rfl⟩ := by simpa using hblock
    have hboard : P.isValidBoard nextBoard = true := hbounds
    refine hless hboard ?_
    simp only [BusPc.blocksLeft]
    omega
  | .writeFrame nextBoard refresh snapshot holdFrames =>
    have hwrites := writtenBy_writeFrame (E := E) h hbounds refresh snapshot holdFrames w
    refine ⟨?_, fun _ _ => Or.inl hwrites⟩
    have hwritten := Option.some.inj hblock
    unfold writeFrame at hwritten
    split at hwritten
    · split at hwritten
      · obtain ⟨rfl, rfl, rfl⟩ := by simpa using hwritten
        exact BusPc.inBounds_afterFrame mappings nextBoard true
      · obtain ⟨rfl, rfl, rfl⟩ := by simpa using hwritten
        trivial
    · split at hwritten
      · obtain ⟨rfl, rfl, rfl⟩ := by simpa using hwritten
        trivial
      · obtain ⟨rfl, rfl, rfl⟩ := by simpa using hwritten
        trivial
  | .consumeHoldover nextBoard holdFrames =>
    obtain ⟨rfl, rfl, rfl⟩ := by simpa using hblock
    exact hless (BusPc.inBounds_afterFrame mappings nextBoard false)
      (BusPc.blocksLeft_afterFrame_lt mappings nextBoard false holdFrames)
  | .hop hops expected reply refresh =>
    have hhops : hops ≤ RS485_COMM_MAX_BOARDS := hbounds
    have hhop := Option.some.inj hblock
    have hend : ∀ success, (.chainDone success refresh : BusPc P) = pc' →
        Moves E mappings (.hop hops expected reply refresh) c w pc' := by
      rintro success rfl
      refine ⟨trivial, fun _ _ => Or.inr ?_⟩
      simp only [BusPc.blocksLeft]
      omega
    unfold hop at hhop
    split at hhop
    · exact hend true (congrArg Prod.fst hhop)
    · split at hhop
      · exact hend true (congrArg Prod.fst hhop)
      · split at hhop
        · split at hhop
          · -- a virtual reply takes three blocks more
            obtain ⟨rfl, rfl, rfl⟩ := by simpa using hhop
            refine hless hhops ?_
            simp only [BusPc.blocksLeft]
            omega
          · exact hend false (congrArg Prod.fst hhop)
        · dsimp only at hhop
          split at hhop
          · obtain rfl := congrArg Prod.fst hhop
            refine hless (Nat.le_of_succ_le hhops) ?_
            simp only [BusPc.blocksLeft]
            omega
          · exact hend false (congrArg Prod.fst hhop)
  | .virtualCopy hops board next sendState refresh =>
    obtain ⟨rfl, rfl, rfl⟩ := by simpa using hblock
    have hhops : hops < RS485_COMM_MAX_BOARDS := hbounds
    refine hless hhops ?_
    simp only [BusPc.blocksLeft]
    omega
  | .virtualWrite hops board next sendState refresh switchCopy =>
    have hhops : hops < RS485_COMM_MAX_BOARDS := hbounds
    dsimp only at hblock
    split at hblock
    · obtain ⟨rfl, rfl, rfl⟩ := by simpa using hblock
      refine hless hhops ?_
      simp only [BusPc.blocksLeft]
      omega
    · obtain ⟨rfl, rfl, rfl⟩ := by simpa using hblock
      refine hless trivial ?_
      simp only [BusPc.blocksLeft]
      omega
  | .virtualClear hops board next sendState refresh =>
    obtain ⟨rfl, rfl, rfl⟩ := by simpa using hblock
    have hhops : hops < RS485_COMM_MAX_BOARDS := hbounds
    refine hless (Nat.le_of_lt hhops) ?_
    simp only [BusPc.blocksLeft]
    omega
  | .chainDone success refresh =>
    obtain ⟨rfl, rfl, rfl⟩ := by simpa using hblock
    refine hless trivial ?_
    simp only [BusPc.blocksLeft]
    omega

end blocks

end Comm

namespace Sys

variable {E : Env W} {s s' : Sys P W} {mappings : Nat}

/-- What the output waits for can only be changed by a `Run` event. -/
theorem step_setupPart {l : Label} (h : s.step E l = some s') :
    s'.comm.setupPart = s.comm.setupPart ∧
      (l.stopsRuntime = false → s.comm.runtimeEnabled = true →
        s'.comm.runtimeEnabled = true) := by
  have hsame : ∀ c' : Comm P, c'.outputPart = s.comm.outputPart →
      c'.setupPart = s.comm.setupPart ∧ c'.runtimeEnabled = s.comm.runtimeEnabled := by
    intro c' hpart
    exact ⟨(congrArg Comm.setupPart hpart :), (congrArg Comm.runtimeEnabled hpart :)⟩
  match l with
  | .bus =>
    have hkept : s'.comm.setupPart = s.comm.setupPart ∧
        s'.comm.runtimeEnabled = s.comm.runtimeEnabled := by
      have heffect := (step_bus h).1
      generalize s.bus = pc at heffect
      generalize s'.bus = pc' at heffect
      generalize s'.comm = c' at heffect ⊢
      cases heffect with
      | session _ _ hhost => exact hsame _ (Comm.outputPart_of_hostPart hhost)
      | written _ hhost => exact hsame _ (Comm.outputPart_of_hostPart hhost)
      | replyWritten hhost => exact hsame _ (Comm.outputPart_of_hostPart hhost)
      | dirtyCleared => exact hsame _ (Comm.outputPart_clearDirty _ _)
      | eventPopped | snapshotPopped | noSnapshot | copied | consumed | dirtyRead
      | bitmapCopied => exact ⟨rfl, rfl⟩
    exact ⟨hkept.1, fun _ henabled => hkept.2.trans henabled⟩
  | .queueEvent event =>
    obtain rfl := step_queueEvent h
    have heffect := Comm.queueEvent_effect E.port s.world event s.comm
    show (s.comm.queueEvent E.port s.world event).setupPart = _ ∧
      (_ → _ → (s.comm.queueEvent E.port s.world event).runtimeEnabled = true)
    generalize s.comm.queueEvent E.port s.world event = c' at heffect ⊢
    cases heffect with
    | run hsource =>
      refine ⟨rfl, fun hrunning _ => ?_⟩
      simpa [Label.stopsRuntime, hsource] using hrunning
    | _ => exact ⟨rfl, fun _ henabled => henabled⟩
  | .setVirtualSwitchState .. | .getNextSwitchState | .updateBoardFirmware _ | .firmware =>
    obtain ⟨-, hpart⟩ := step_elsewhere (by simp) (by simp) h
    obtain ⟨hsetup, hrun⟩ := hsame _ hpart
    exact ⟨hsetup, fun _ henabled => hrun.trans henabled⟩

/-- The bus thread can get to the next output frame. -/
structure OnTheWay (mappings : Nat) (s : Sys P W) : Prop where
  ready : s.comm.Ready
  length : s.comm.mappingFrames.length = mappings
  bounds : s.bus.InBounds mappings

/-- **Step lemma**: it stays so, and a block moves on. -/
theorem onTheWay_step (hnone : P.isValidBoard P.kNoBoard = true) {l : Label}
    (h : OnTheWay mappings s) (hstep : s.step E l = some s') :
    OnTheWay mappings s' ∧ (l ≠ .bus → s'.bus = s.bus) ∧
      (l = .bus → Comm.Moves E mappings s.bus s.comm s.world s'.bus) := by
  obtain ⟨hsetup, -⟩ := step_setupPart hstep
  have hready := h.ready.of_setupPart hsetup
  have hframes : s'.comm.mappingFrames = s.comm.mappingFrames :=
    congrArg (fun p => p.2.2.2.2) hsetup
  have hlength : s'.comm.mappingFrames.length = mappings := by
    rw [hframes]
    exact h.length
  by_cases hbus : l = .bus
  · subst hbus
    unfold step at hstep
    obtain ⟨⟨pc', c', w'⟩, hblock, rfl⟩ := Option.map_eq_some_iff.mp hstep
    have hmoves := Comm.moves_busStep hnone h.ready h.length h.bounds hblock
    exact ⟨⟨hready, hlength, hmoves.1⟩, fun hne => absurd rfl hne, fun _ => hmoves⟩
  · have hpc : s'.bus = s.bus := by
      match l with
      | .bus => exact absurd rfl hbus
      | .queueEvent event =>
        obtain rfl := step_queueEvent hstep
        rfl
      | .setVirtualSwitchState .. | .getNextSwitchState | .updateBoardFirmware _ | .firmware =>
        exact (step_elsewhere (by simp) (by simp) hstep).1
    refine ⟨⟨hready, hlength, ?_⟩, fun _ => hpc, fun h => absurd h hbus⟩
    rw [hpc]
    exact h.bounds

theorem onTheWay_start {c : Comm P} (hopen : c.portOpen = true)
    (hvalid : P.isValidRuntimeConfig c.runtimeConfig = true)
    (hboards : ∀ board ∈ c.switchBoards, P.isValidBoard board = true) (w : W) :
    OnTheWay c.mappingFrames.length (start E c w) where
  ready := ⟨hopen, rfl, hvalid, hboards⟩
  length := rfl
  bounds := trivial

/-- Every state of a session is on the way. -/
theorem onTheWay_run (hnone : P.isValidBoard P.kNoBoard = true) {c : Comm P}
    (hopen : c.portOpen = true) (hvalid : P.isValidRuntimeConfig c.runtimeConfig = true)
    (hboards : ∀ board ∈ c.switchBoards, P.isValidBoard board = true) {w : W} {ls : List Label}
    (hrun : Transition.exec (step E) (start E c w) ls = some s) :
    OnTheWay c.mappingFrames.length s := by
  refine Transition.exec_invariant (I := OnTheWay c.mappingFrames.length) ?_
    (onTheWay_start hopen hvalid hboards w) hrun
  intro s l s' hway hstep
  exact (onTheWay_step hnone hway hstep).1

/-- **Step lemma** for the ranking: while the runtime is enabled and no
    announcement breaks off, the blocks of the bus thread advance. -/
theorem advances_step (hnone : P.isValidBoard P.kNoBoard = true) {l : Label}
    (hI : OnTheWay mappings s ∧ s.comm.runtimeEnabled = true) (hrunning : l.stopsRuntime = false)
    (hstep : s.step E l = some s')
    (hwhole : ∀ entry ∈ busEntries E s l s', entry.breaksOff = false) :
    (OnTheWay mappings s' ∧ s'.comm.runtimeEnabled = true) ∧
      Transition.Advances (busEntries E) (fun entry => entry.isOutput = true) (· == .bus)
        (fun s => s.bus.blocksLeft mappings) s l s' := by
  obtain ⟨hway, henabled⟩ := hI
  obtain ⟨hway', hother, hbus⟩ := onTheWay_step hnone hway hstep
  obtain ⟨-, henabled'⟩ := step_setupPart hstep
  refine ⟨⟨hway', henabled' hrunning henabled⟩, ?_⟩
  unfold Transition.Advances
  by_cases hl : l = .bus
  · subst hl
    obtain ⟨-, hmoves⟩ := hbus rfl
    rcases hmoves henabled fun entry hentry => hwhole entry (List.mem_append_left _ hentry) with
      ⟨entry, hentry, houtput⟩ | hless
    · exact Or.inl ⟨entry, List.mem_append_left _ hentry, houtput⟩
    · exact Or.inr (by simpa using hless)
  · exact Or.inr (by simp [hl, hother hl])

/-- **No starvation**: in every stretch of a session with more than
    `mappings + 107` blocks of the bus thread, while the runtime is enabled
    and no announcement breaks off, an output or refresh frame is handed to
    the port. -/
theorem output_within (hnone : P.isValidBoard P.kNoBoard = true) {c : Comm P}
    (hopen : c.portOpen = true) (hvalid : P.isValidRuntimeConfig c.runtimeConfig = true)
    (hboards : ∀ board ∈ c.switchBoards, P.isValidBoard board = true) {w : W}
    {ls stretch : List Label} (hrun : Transition.exec (step E) (start E c w) ls = some s)
    (henabled : s.comm.runtimeEnabled = true)
    (hstretch : Transition.exec (step E) s stretch = some s')
    (hrunning : ∀ l ∈ stretch, l.stopsRuntime = false)
    (hwhole : ∀ entry ∈ busLog E s stretch, entry.breaksOff = false)
    (hlong : c.mappingFrames.length + 107 < stretch.count .bus) :
    ∃ entry ∈ busLog E s stretch, entry.isOutput = true := by
  -- the stretch starts on the way to an output frame
  have hway := onTheWay_run hnone hopen hvalid hboards hrun
  refine Transition.exec_shows
    (I := fun s => OnTheWay c.mappingFrames.length s ∧ s.comm.runtimeEnabled = true) (· == .bus)
    (fun s => s.bus.blocksLeft c.mappingFrames.length) ?_ ⟨hway, henabled⟩ hstretch hwhole ?_
  · intro s l hl s' hI hstep hfine
    exact advances_step hnone hI (hrunning l hl) hstep hfine
  · exact Nat.lt_of_le_of_lt (BusPc.blocksLeft_le hway.bounds) hlong

end Sys

namespace Reference

open Sys

/-- Every block of the bus thread comes with a new event, and every tenth with
    a change of a switch. -/
def crowded : List Label :=
  (List.range 111).flatMap fun i =>
    [.queueEvent { sourceId := .effect, eventId := 5, value := 1 }, .bus] ++
      if i % 10 = 0 then [.setVirtualSwitchState 30 1] else []

theorem output_within_crowded :
    ∃ entry ∈ busLog env hastySystem crowded, entry.isOutput = true := by
  have hrun : (Transition.exec (step env) hastySystem crowded).isSome = true := by decide +kernel
  obtain ⟨s', hs'⟩ := Option.isSome_iff_exists.mp hrun
  have hstart : Transition.exec (step env) hastySystem [] = some hastySystem := rfl
  exact output_within (c := hastyComm) (by decide) rfl rfl (by decide +kernel) hstart rfl hs'
    (by decide +kernel) (by decide +kernel) (by decide +kernel)

end Reference

end LibPpuc
