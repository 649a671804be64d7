import LibPpuc.Comm.Mapping
import LibPpuc.Framework.Listener
import LibPpuc.Reference
import LibPpuc.Runtime.BusLog

/-! # The Discipline of the Bus Thread

  What a listener on the bus can rely on, whatever the boards answer, which
  writes fail and which events and virtual switches the application sets in
  between; version queries and firmware transfers have frames of their own.
  The listener knows the runtime configuration, the mapping and the session:
  the next sequence number, the epoch, and whether the session is in force.

  - Frames of the host are numbered one after the other, across trigger,
    setup, mapping, output and refresh frames.
  - After a dispute no output or refresh frame goes out before a setup frame
    with the next epoch and, right behind it, the whole mapping in order have
    gone out whole.  If a write of this announcement fails, it starts again
    with a setup frame.  Triggers go out in front of a setup frame as well,
    but never within an announcement.
  - Switch replies follow an output frame that polls, carry its number and
    the epoch, and are at most `RS485_COMM_MAX_BOARDS`.
-/

namespace LibPpuc

variable {P : Protocol} {W : Type}

/-! ### The Listener -/

/-- What is known of the session. -/
inductive SessionSetup where
  /-- A setup frame has to come before the next output frame. -/
  | due
  /-- These mapping frames have to come next; without any, the session is in
      force. -/
  | announcing (rest : List (UInt8 × UInt16 × UInt16))
  deriving DecidableEq

/-- A listener on the bus. -/
structure BusListener where
  config : RuntimeConfig
  mapping : List (UInt8 × UInt16 × UInt16)
  /-- The number of the next frame of the host. -/
  sequence : UInt8
  epoch : UInt8
  setup : SessionSetup
  /-- The number of the frame that polled, and the replies still allowed. -/
  replies : Option (UInt8 × Nat)

namespace BusListener

/-- The next frame of the host may have this number and this epoch. -/
def expects (m : BusListener) (sequence epoch : UInt8) : Prop :=
  sequence = m.sequence ∧ epoch = m.epoch

instance (m : BusListener) (sequence epoch : UInt8) : Decidable (m.expects sequence epoch) :=
  inferInstanceAs (Decidable (_ ∧ _))

/-- No announcement has begun that is not complete. -/
def settled (m : BusListener) : Prop := m.setup = .due ∨ m.setup = .announcing []

instance (m : BusListener) : Decidable m.settled := inferInstanceAs (Decidable (_ ∨ _))

/-- A frame of the host was heard. -/
def counted (m : BusListener) : BusListener :=
  { m with sequence := m.sequence + 1, replies := none }

/-- An output frame with a token opens a chain of replies, if it went out
    whole. -/
def polled (P : Protocol) (m : BusListener) (nextBoard : UInt8) (whole : Bool) : BusListener :=
  { m.counted with
    replies :=
      if whole = true ∧ nextBoard ≠ P.kNoBoard then some (m.sequence, RS485_COMM_MAX_BOARDS)
      else none }

/-- The listener hears an entry of the log; `none` if it refuses it. -/
def hear (m : BusListener) : BusEntry P → Option BusListener
  | .disputed => some { m with setup := .due }
  | .written (.trigger sequence epoch _) _ =>
    if m.expects sequence epoch ∧ m.settled then some m.counted else none
  | .written (.setup sequence epoch config) whole =>
    if sequence = m.sequence ∧ epoch = m.epoch + 1 ∧ config = m.config ∧ m.setup = .due then
      some { m.counted with
        epoch := epoch
        setup := if whole then .announcing m.mapping else .due }
    else none
  | .written (.mapping sequence epoch entry) whole =>
    match m.setup with
    | .announcing (next :: rest) =>
      if m.expects sequence epoch ∧ entry = next then
        some { m.counted with setup := if whole then .announcing rest else .due }
      else none
    | _ => none
  | .written (.outputState nextBoard sequence epoch config _) whole =>
    if m.expects sequence epoch ∧ config = m.config ∧ m.setup = .announcing [] then
      some (m.polled P nextBoard whole)
    else none
  | .written (.switchRefresh nextBoard sequence epoch) whole =>
    if m.expects sequence epoch ∧ m.setup = .announcing [] then some (m.polled P nextBoard whole)
    else none
  | .written (.switchReply _ _ sequence epoch _ _) whole =>
    match m.replies with
    | some (number, hops + 1) =>
      if sequence = number ∧ epoch = m.epoch ∧ m.settled then
        some { m with replies := if whole then some (number, hops) else none }
      else none
    | _ => none

section hear

variable {m : BusListener} {sequence epoch nextBoard : UInt8} {whole : Bool}

theorem hear_trigger (hexpects : m.expects sequence epoch)
    (hsettled : m.settled) (event : Event) :
    m.hear (.written (.trigger sequence epoch event : BusFrame P) whole) = some m.counted :=
  if_pos ⟨hexpects, hsettled⟩

theorem hear_setup (hsequence : sequence = m.sequence) (hepoch : epoch = m.epoch + 1)
    (hdue : m.setup = .due) :
    m.hear (.written (.setup sequence epoch m.config : BusFrame P) whole) =
      some { m.counted with
        epoch := epoch
        setup := if whole then .announcing m.mapping else .due } :=
  if_pos ⟨hsequence, hepoch, rfl, hdue⟩

theorem hear_mapping {entry : UInt8 × UInt16 × UInt16} {rest : List (UInt8 × UInt16 × UInt16)}
    (hexpects : m.expects sequence epoch) (hannouncing : m.setup = .announcing (entry :: rest)) :
    m.hear (.written (.mapping sequence epoch entry : BusFrame P) whole) =
      some { m.counted with setup := if whole then .announcing rest else .due } := by
  simp only [hear, hannouncing]
  exact if_pos ⟨hexpects, trivial⟩

theorem hear_outputState (hexpects : m.expects sequence epoch)
    (hforce : m.setup = .announcing []) (snapshot : QueuedOutputSnapshot P) :
    m.hear (.written (.outputState nextBoard sequence epoch m.config snapshot) whole) =
      some (m.polled P nextBoard whole) :=
  if_pos ⟨hexpects, rfl, hforce⟩

theorem hear_switchRefresh (hexpects : m.expects sequence epoch)
    (hforce : m.setup = .announcing []) :
    m.hear (.written (.switchRefresh nextBoard sequence epoch : BusFrame P) whole) =
      some (m.polled P nextBoard whole) :=
  if_pos ⟨hexpects, hforce⟩

theorem hear_switchReply {sendState : Bool} {switchCopy : Vector UInt8 P.kMaxSwitchBytes}
    {bytes hops : Nat} (hreplies : m.replies = some (sequence, hops + 1)) (hepoch : epoch = m.epoch)
    (hsettled : m.settled) :
    m.hear (.written (.switchReply sendState nextBoard sequence epoch switchCopy bytes) whole) =
      some { m with replies := if whole then some (sequence, hops) else none } := by
  simp only [hear, hreplies]
  exact if_pos ⟨trivial, hepoch, hsettled⟩

end hear

end BusListener

/-! ### The Members behind the Fields -/

/-- Byte 3 of the frames that poll is their number, as the host reads it
    back from there. -/
structure Protocol.NumbersFrames (P : Protocol) : Prop where
  outputState : ∀ nextBoard sequence epoch config coils lamps giLevels,
    (P.buildOutputStateFrame nextBoard sequence epoch config coils lamps giLevels).getD 3 0 =
      sequence
  bare : ∀ type flags nextBoard sequence epoch,
    (P.buildBareFrame type flags nextBoard sequence epoch).getD 3 0 = sequence

/-- The members that the fields of the frames are taken from. -/
structure Line where
  portOpen : Bool
  config : RuntimeConfig
  sequence : UInt8
  epoch : UInt8
  lastOutputSequenceSent : UInt8
  needSessionResync : Bool
  mapping : List (UInt8 × UInt16 × UInt16)

namespace Comm

def line (c : Comm P) : Line where
  portOpen := c.portOpen
  config := c.runtimeConfig
  sequence := c.sequence
  epoch := c.epoch
  lastOutputSequenceSent := c.lastOutputSequenceSent
  needSessionResync := c.needSessionResync
  mapping := c.mappingFrames

section line

variable (port : SerialPort W)

theorem line_writeBytes (context : String) (buffer : List UInt8) (c : Comm P) (w : W) :
    (c.writeBytes port context buffer w).2.1.line = c.line := by
  obtain ⟨log, heq⟩ := writeBytes_eq port context buffer c w
  rw [heq]
  rfl

/-- The result of a write on an open port. -/
theorem takes_writeBytes (context : String) (buffer : List UInt8) {c : Comm P}
    (hopen : c.portOpen = true) (w : W) :
    (c.writeBytes port context buffer w).1 = port.takes buffer w := by
  rw [Bool.eq_iff_iff, writeBytes_ok]
  simp [SerialPort.takes, hopen]

theorem line_clearDirty (board : UInt8) (c : Comm P) : (c.clearDirty board).line = c.line := by
  unfold clearDirty
  split <;> rfl

/-- A reply may dispute the session, and leaves the rest alone. -/
theorem line_receiveSwitchStateFrame (expectedBoard : UInt8) (r : SwitchReply) (c : Comm P)
    (w : W) : ∃ disputed, (c.receiveSwitchStateFrame port expectedBoard r w).2.1.line =
      { c.line with needSessionResync := c.needSessionResync || disputed } := by
  have hkept : c.line =
      { c.line with needSessionResync := c.needSessionResync || false } := by
    rw [Bool.or_false]
    rfl
  unfold receiveSwitchStateFrame
  split
  · dsimp only
    split
    · next f _ =>
      refine ⟨c.disputes f, ?_⟩
      unfold acceptSwitchFrame
      dsimp only
      obtain ⟨log, hcheck⟩ := checkReplyStatus_eq port
        (c.awaitSwitchFrame port (port.window c.switchReplyWindowUs w) false r.hadState w).world
        expectedBoard f c
      rw [hcheck]
      split
      · rfl
      · split
        · obtain ⟨refreshAt, heq⟩ := applySwitchBitmapDiff_eq
            (port.steadyMs (c.awaitSwitchFrame port (port.window c.switchReplyWindowUs w) false
              r.hadState w).world) expectedBoard (f.bitmap P)
            (P.bitsToBytes c.runtimeConfig.switchBits)
            { c with
              anomalyLog := log
              needSessionResync := c.needSessionResync || c.disputes f }
          rw [heq]
          rfl
        · rfl
    · exact ⟨false, hkept⟩
  · exact ⟨false, hkept⟩

/-- So may the end of a chain. -/
theorem line_chainDone (success refresh : Bool) (c : Comm P) (w : W) :
    ∃ disputed, (c.chainDone port success refresh w).line =
      { c.line with needSessionResync := c.needSessionResync || disputed } := by
  have hnote : ∃ disputed, (c.noteSwitchReplyChain port w success).line =
      { c.line with needSessionResync := c.needSessionResync || disputed } := by
    unfold noteSwitchReplyChain
    cases success with
    | true =>
      refine ⟨false, ?_⟩
      simp [line, mappingFrames]
    | false =>
      dsimp only
      rw [if_neg Bool.false_ne_true]
      split
      · refine ⟨true, ?_⟩
        simp [line, mappingFrames, reportAnomaly]
      · refine ⟨false, ?_⟩
        simp [line, mappingFrames, reportAnomaly]
  obtain ⟨disputed, hline⟩ := hnote
  refine ⟨disputed, ?_⟩
  unfold chainDone
  dsimp only
  split
  · exact hline
  · exact hline

end line

end Comm

/-! ### Host and Listener -/

namespace BusListener

/-- The session is in force, or a setup is due. -/
structure AtRest (a : Line) (m : BusListener) : Prop where
  epoch : a.epoch = m.epoch
  setup : m.setup = if a.needSessionResync then .due else .announcing []

/-- At least so many replies are still allowed. -/
def Allows (a : Line) (m : BusListener) (hops : Nat) : Prop :=
  ∃ left, hops ≤ left ∧ m.replies = some (a.lastOutputSequenceSent, left)

/-- What the listener knows before a block. -/
def Standing (a : Line) (m : BusListener) : BusPc P → Prop
  | .resyncSetup => a.epoch = m.epoch + 1 ∧ a.needSessionResync = true ∧ m.setup = .due
  | .resyncMapping rest =>
    a.epoch = m.epoch ∧ a.needSessionResync = true ∧ m.setup = .announcing rest
  | .inspectQueue | .copyState .. | .writeFrame .. => AtRest a m ∧ a.needSessionResync = false
  | .consumeHoldover nextBoard _ =>
    AtRest a m ∧ (nextBoard ≠ P.kNoBoard → Allows a m RS485_COMM_MAX_BOARDS)
  | .hop hops _ _ _ | .virtualClear hops _ _ _ _ => AtRest a m ∧ Allows a m hops
  | .virtualCopy hops _ _ _ _ | .virtualWrite hops _ _ _ _ _ => AtRest a m ∧ Allows a m (hops + 1)
  | _ => AtRest a m

/-- The listener follows a host whose port is open. -/
structure Follows (pc : BusPc P) (a : Line) (m : BusListener) : Prop where
  portOpen : a.portOpen = true
  valid : P.isValidRuntimeConfig a.config = true
  config : m.config = a.config
  mapping : m.mapping = a.mapping
  sequence : m.sequence = a.sequence
  standing : Standing a m pc

/-- A listener that joins the bus while no chain is under way. -/
def joining (c : Comm P) : BusListener where
  config := c.runtimeConfig
  mapping := c.mappingFrames
  sequence := c.sequence
  epoch := c.epoch
  setup := if c.needSessionResync then .due else .announcing []
  replies := none

variable {pc pc' : BusPc P} {a a' : Line} {m : BusListener}

/-- Moving on without a frame. -/
theorem Follows.move (h : Follows pc a m) (hstanding : Standing a m pc') : Follows pc' a m :=
  { h with standing := hstanding }

theorem AtRest.of_in_force (h : AtRest a m) (hforce : a.needSessionResync = false) :
    m.setup = .announcing [] := by
  rw [h.setup, hforce]
  rfl

theorem AtRest.settled (h : AtRest a m) : m.settled := by
  unfold BusListener.settled
  rw [h.setup]
  split
  · exact Or.inl rfl
  · exact Or.inr rfl

/-- The session is disputed while the host is at rest. -/
theorem heard_disputed (m : BusListener) (before after : Bool) :
    Transition.exec hear m (disputedNow before after : List (BusEntry P)) =
      some { m with setup := if before = false ∧ after = true then .due else m.setup } := by
  unfold disputedNow
  split
  · rfl
  · rfl

/-- A dispute ends no chain. -/
theorem Follows.disputed (h : Follows pc a m) (hrest : AtRest a m) (disputed : Bool) :
    ∃ m', Transition.exec hear m
        (disputedNow a.needSessionResync (a.needSessionResync || disputed) : List (BusEntry P)) =
          some m' ∧
      m'.replies = m.replies ∧
      AtRest { a with needSessionResync := a.needSessionResync || disputed } m' ∧
      ∀ pc' : BusPc P,
        Standing { a with needSessionResync := a.needSessionResync || disputed } m' pc' →
        Follows pc' { a with needSessionResync := a.needSessionResync || disputed } m' := by
  refine ⟨_, heard_disputed m _ _, rfl, ⟨hrest.epoch, ?_⟩, fun pc' hstanding => ?_⟩
  · have hsetup := hrest.setup
    cases hneed : a.needSessionResync <;> cases disputed <;> simp [hneed] at hsetup ⊢ <;>
      exact hsetup
  · exact ⟨h.portOpen, h.valid, h.config, h.mapping, h.sequence, hstanding⟩

end BusListener

namespace BusListener

section blocks

variable {E : Env W} {pc pc' : BusPc P} {c c' : Comm P} {w : W} {m : BusListener}

/-- The listener hears what a block enters in the log, and still follows. -/
def Hears (E : Env W) (m : BusListener) (pc : BusPc P) (c : Comm P) (w : W) (pc' : BusPc P)
    (c' : Comm P) : Prop :=
  ∃ m', Transition.exec hear m
      (c.writtenBy E pc w ++ disputedNow c.needSessionResync c'.needSessionResync) = some m' ∧
    Follows pc' c'.line m'

/-- A block that hands over nothing and keeps the session. -/
theorem hears_quiet (h : Follows pc c.line m) (hframe : c.frameOf pc = none)
    (hline : c'.line = c.line) (hstanding : Standing c.line m pc') : Hears E m pc c w pc' c' := by
  have hneed : c'.needSessionResync = c.needSessionResync :=
    (congrArg Line.needSessionResync hline :)
  refine ⟨m, ?_, ?_⟩
  · rw [hneed]
    simp [Comm.writtenBy, hframe, disputedNow]
  · rw [hline]
    exact h.move hstanding

/-- A block that hands over nothing and may dispute the session. -/
theorem hears_disputed (h : Follows pc c.line m) (hframe : c.frameOf pc = none)
    (hrest : AtRest c.line m) {disputed : Bool}
    (hline : c'.line = { c.line with needSessionResync := c.needSessionResync || disputed })
    (hstanding : ∀ m' : BusListener, AtRest c'.line m' → m'.replies = m.replies →
      Standing c'.line m' pc') :
    Hears E m pc c w pc' c' := by
  obtain ⟨m', hheard, hreplies, hrest', hfollows⟩ := h.disputed hrest disputed
  have hneed : c'.needSessionResync = (c.needSessionResync || disputed) :=
    (congrArg Line.needSessionResync hline :)
  refine ⟨m', ?_, ?_⟩
  · rw [hneed]
    simp only [Comm.writtenBy, hframe, Option.map_none, Option.toList_none, List.nil_append]
    exact hheard
  · rw [hline] at hstanding ⊢
    exact hfollows pc' (hstanding m' hrest' hreplies)

/-- A block that hands over a frame and keeps the session's flag. -/
theorem hears_frame (m' : BusListener) {frame : BusFrame P} (hframe : c.frameOf pc = some frame)
    (hheard : m.hear (.written frame
      (E.port.takes (frame.bytes E.sourceByte) (pc.writeWorld E.port w))) = some m')
    (hneed : c'.needSessionResync = c.needSessionResync) (hfollows : Follows pc' c'.line m') :
    Hears E m pc c w pc' c' := by
  refine ⟨m', ?_, hfollows⟩
  rw [hneed]
  simp [Comm.writtenBy, hframe, disputedNow, Transition.exec, hheard]

theorem hears_sendEvent {eventsSent : Nat} {event : Event}
    (h : Follows (.sendEvent eventsSent event : BusPc P) c.line m) :
    Hears E m (.sendEvent eventsSent event) c w (.popEvent (eventsSent + 1))
      (c.sendEvent E.port E.sourceByte event w).2.1 := by
  have hopen : c.portOpen = true := h.portOpen
  have hrest : AtRest c.line m := h.standing
  have hline : (c.sendEvent E.port E.sourceByte event w).2.1.line =
      { c.line with sequence := c.sequence + 1 } := by
    rw [Comm.sendEvent_of_open E.port E.sourceByte event hopen w, Comm.line_writeBytes]
    rfl
  have hframe : c.frameOf (.sendEvent eventsSent event) =
      some (.trigger c.sequence c.epoch event) := by
    simp [Comm.frameOf, hopen]
  refine hears_frame m.counted hframe ?_ (congrArg Line.needSessionResync hline :) ?_
  · exact hear_trigger ⟨h.sequence.symm, hrest.epoch⟩ hrest.settled event
  · rw [hline]
    refine ⟨h.portOpen, h.valid, h.config, h.mapping, ?_, ?_⟩
    · show m.sequence + 1 = c.sequence + 1
      rw [h.sequence]
      rfl
    · exact ⟨hrest.epoch, hrest.setup⟩

theorem hears_resyncSetup (h : Follows (.resyncSetup : BusPc P) c.line m) {whole : Bool} {w' : W}
    (hsent : c.sendSetupFrame E.port w = (whole, c', w')) :
    Hears E m .resyncSetup c w (if whole then .resyncMapping c'.mappingFrames else .loop) c' := by
  have hopen : c.portOpen = true := h.portOpen
  have hvalid : P.isValidRuntimeConfig c.runtimeConfig = true := h.valid
  obtain ⟨hepoch, hneed, hdue⟩ := h.standing
  rw [Comm.sendSetupFrame_of_open E.port E.sourceByte hopen hvalid w] at hsent
  have hline := Comm.line_writeBytes E.port "SetupFrame"
    ((BusFrame.setup c.sequence c.epoch c.runtimeConfig : BusFrame P).bytes E.sourceByte)
    { c with sequence := c.sequence + 1 } w
  have hwhole := Comm.takes_writeBytes E.port "SetupFrame"
    ((BusFrame.setup c.sequence c.epoch c.runtimeConfig : BusFrame P).bytes E.sourceByte)
    (c := { c with sequence := c.sequence + 1 }) hopen w
  rw [hsent] at hline hwhole
  dsimp only at hline hwhole
  have hframe : c.frameOf .resyncSetup = some (.setup c.sequence c.epoch c.runtimeConfig) := by
    simp [Comm.frameOf, hopen, hvalid]
  have hmapping : c'.mappingFrames = m.mapping :=
    (congrArg Line.mapping hline : _).trans h.mapping.symm
  refine hears_frame ({ m.counted with
      epoch := c.epoch
      setup := if whole then .announcing m.mapping else .due }) hframe ?_
    (congrArg Line.needSessionResync hline :) ?_
  · rw [hwhole]
    exact (show c.runtimeConfig = m.config from h.config.symm) ▸
      hear_setup h.sequence.symm hepoch hdue
  · rw [hline]
    refine ⟨h.portOpen, h.valid, h.config, h.mapping, ?_, ?_⟩
    · show m.sequence + 1 = c.sequence + 1
      rw [h.sequence]
      rfl
    · cases whole with
      | true =>
        rw [hmapping]
        exact ⟨rfl, hneed, rfl⟩
      | false =>
        refine ⟨rfl, ?_⟩
        exact (if_pos hneed).symm

theorem hears_resyncMapping {entry : UInt8 × UInt16 × UInt16}
    {rest : List (UInt8 × UInt16 × UInt16)}
    (h : Follows (.resyncMapping (entry :: rest) : BusPc P) c.line m) {whole : Bool} {w' : W}
    (hsent : c.sendMappingFrame E.port entry.1 entry.2.1 entry.2.2 w = (whole, c', w')) :
    Hears E m (.resyncMapping (entry :: rest)) c w (if whole then .resyncMapping rest else .loop)
      c' := by
  have hopen : c.portOpen = true := h.portOpen
  obtain ⟨hepoch, hneed, hannouncing⟩ := h.standing
  rw [Comm.sendMappingFrame_of_open E.port E.sourceByte entry hopen w] at hsent
  have hline := Comm.line_writeBytes E.port "MappingFrame"
    ((BusFrame.mapping c.sequence c.epoch entry : BusFrame P).bytes E.sourceByte)
    { c with sequence := c.sequence + 1 } (E.port.sleepUs 5000 w)
  have hwhole := Comm.takes_writeBytes E.port "MappingFrame"
    ((BusFrame.mapping c.sequence c.epoch entry : BusFrame P).bytes E.sourceByte)
    (c := { c with sequence := c.sequence + 1 }) hopen (E.port.sleepUs 5000 w)
  rw [hsent] at hline hwhole
  dsimp only at hline hwhole
  have hframe : c.frameOf (.resyncMapping (entry :: rest)) =
      some (.mapping c.sequence c.epoch entry) := by
    simp [Comm.frameOf, hopen]
  refine hears_frame ({ m.counted with
      setup := if whole then .announcing rest else .due }) hframe ?_
    (congrArg Line.needSessionResync hline :) ?_
  · rw [hwhole]
    exact hear_mapping ⟨h.sequence.symm, hepoch⟩ hannouncing
  · rw [hline]
    refine ⟨h.portOpen, h.valid, h.config, h.mapping, ?_, ?_⟩
    · show m.sequence + 1 = c.sequence + 1
      rw [h.sequence]
      rfl
    · cases whole with
      | true => exact ⟨hepoch, hneed, rfl⟩
      | false =>
        refine ⟨hepoch, ?_⟩
        exact (if_pos hneed).symm

theorem hears_writeFrame (hnumbers : P.NumbersFrames) {nextBoard : UInt8} {refresh : Bool}
    {snapshot : QueuedOutputSnapshot P} {holdFrames : Vector Nat P.kMaxCoilBits} {w' : W}
    (h : Follows (.writeFrame nextBoard refresh snapshot holdFrames) c.line m)
    (hblock : c.writeFrame E.port nextBoard refresh snapshot holdFrames w = (pc', c', w')) :
    Hears E m (.writeFrame nextBoard refresh snapshot holdFrames) c w pc' c' := by
  obtain ⟨hrest, hforce⟩ : AtRest c.line m ∧ c.needSessionResync = false := h.standing
  have hannouncing := hrest.of_in_force hforce
  cases hframe : c.frameOf (.writeFrame nextBoard refresh snapshot holdFrames) with
  | none =>
    rw [Comm.writeFrame_of_closed E.port hframe w] at hblock
    obtain ⟨rfl, rfl, rfl⟩ := by simpa using hblock
    exact hears_quiet h hframe rfl hrest
  | some frame =>
    obtain ⟨context, heq⟩ := Comm.writeFrame_of_open E.port E.sourceByte hframe w
    rw [heq] at hblock
    -- both frames are numbered and polled with the same fields
    have hsent : (frame.bytes E.sourceByte).getD 3 0 = c.sequence ∧ ∀ whole,
        m.hear (.written frame whole) = some (m.polled P nextBoard whole) := by
      simp only [Comm.frameOf] at hframe
      split at hframe
      · obtain rfl := Option.some.inj hframe
        have hexpected : m.expects c.sequence c.epoch := ⟨h.sequence.symm, hrest.epoch⟩
        cases refresh with
        | true => exact ⟨hnumbers.bare _ _ _ _ _, fun _ => hear_switchRefresh hexpected hannouncing⟩
        | false =>
          refine ⟨hnumbers.outputState _ _ _ _ _ _ _, fun whole => ?_⟩
          rw [show c.runtimeConfig = m.config from h.config.symm]
          exact hear_outputState hexpected hannouncing snapshot
      · cases hframe
    obtain ⟨hnumber, hheard⟩ := hsent
    have hopen : c.portOpen = true := h.portOpen
    have hline := Comm.line_writeBytes E.port context (frame.bytes E.sourceByte)
      { c with
        sequence := c.sequence + 1
        lastOutputSequenceSent := (frame.bytes E.sourceByte).getD 3 0 } w
    have hwhole := Comm.takes_writeBytes E.port context (frame.bytes E.sourceByte)
      (c := { c with
        sequence := c.sequence + 1
        lastOutputSequenceSent := (frame.bytes E.sourceByte).getD 3 0 }) hopen w
    have hnext : m.sequence + 1 = c.sequence + 1 := by
      rw [h.sequence]
      rfl
    have hatRest : ∀ a : Line, a.epoch = c.epoch → a.needSessionResync = c.needSessionResync →
        ∀ whole, AtRest a (m.polled P nextBoard whole) := by
      intro a hepoch hneed whole
      refine ⟨hepoch.trans hrest.epoch, ?_⟩
      rw [hneed]
      exact hrest.setup
    have hallows : nextBoard ≠ P.kNoBoard →
        (m.polled P nextBoard true).replies = some (c.sequence, RS485_COMM_MAX_BOARDS) := by
      intro hboard
      simp only [polled, hboard, ne_eq, not_false_eq_true, and_self, if_true]
      rw [h.sequence]
      rfl
    refine hears_frame (m.polled P nextBoard
      (E.port.takes (frame.bytes E.sourceByte) w)) hframe (hheard _) ?_ ?_
    · split at hblock <;>
      · next hwrite =>
        rw [hwrite] at hline
        obtain ⟨rfl, rfl, rfl⟩ := by simpa using hblock
        exact (congrArg Line.needSessionResync hline :)
    · rw [← hwhole]
      split at hblock
      · next hwrite =>
        rw [hwrite] at hline ⊢
        obtain ⟨rfl, rfl, rfl⟩ := by simpa using hblock
        dsimp only at hline ⊢
        rw [hline]
        refine ⟨h.portOpen, h.valid, h.config, h.mapping, hnext, ?_⟩
        rw [← hnumber] at hallows
        cases refresh with
        | true =>
          simp only [if_true]
          unfold BusPc.afterFrame
          split
          · exact hatRest _ rfl rfl true
          · next hboard => exact ⟨hatRest _ rfl rfl true, _, Nat.le_refl _, hallows hboard⟩
        | false =>
          simp only [Bool.false_eq_true, if_false]
          exact ⟨hatRest _ rfl rfl true, fun hboard => ⟨_, Nat.le_refl _, hallows hboard⟩⟩
      · next hwrite =>
        rw [hwrite] at hline ⊢
        obtain ⟨rfl, rfl, rfl⟩ := by simpa using hblock
        dsimp only at hline ⊢
        rw [hline]
        exact ⟨h.portOpen, h.valid, h.config, h.mapping, hnext, hatRest _ rfl rfl false⟩

theorem hears_virtualWrite {hops : Nat} {board next : UInt8} {sendState refresh : Bool}
    {switchCopy : Vector UInt8 P.kMaxSwitchBytes}
    (h : Follows (.virtualWrite hops board next sendState refresh switchCopy) c.line m)
    {whole : Bool} {w' : W}
    (hsent : c.writeVirtualReply E.port sendState next switchCopy w = (whole, c', w')) :
    Hears E m (.virtualWrite hops board next sendState refresh switchCopy) c w
      (if whole then .virtualClear hops board next sendState refresh
        else .chainDone false refresh) c' := by
  have hopen : c.portOpen = true := h.portOpen
  obtain ⟨hrest, left, hleft, hreplies⟩ := h.standing
  obtain ⟨left, rfl⟩ : ∃ n, left = n + 1 := ⟨left - 1, by omega⟩
  have hline := Comm.line_writeBytes E.port
    (if sendState then "VirtualSwitchStateFrame" else "VirtualSwitchNoChangeFrame")
    (c.virtualReplyFrame sendState next switchCopy) c w
  have hwhole := Comm.takes_writeBytes E.port
    (if sendState then "VirtualSwitchStateFrame" else "VirtualSwitchNoChangeFrame")
    (c.virtualReplyFrame sendState next switchCopy) hopen w
  unfold Comm.writeVirtualReply at hsent
  rw [hsent] at hline hwhole
  dsimp only at hline hwhole
  have hframe : c.frameOf (.virtualWrite hops board next sendState refresh switchCopy) =
      some (.switchReply sendState next c.lastOutputSequenceSent c.epoch switchCopy
        (P.bitsToBytes c.runtimeConfig.switchBits)) := by
    simp [Comm.frameOf, hopen]
  refine hears_frame ({ m with
      replies := if whole then some (c.lastOutputSequenceSent, left) else none }) hframe ?_
    (congrArg Line.needSessionResync hline :) ?_
  · rw [hwhole]
    exact hear_switchReply hreplies hrest.epoch hrest.settled
  · rw [hline]
    refine ⟨h.portOpen, h.valid, h.config, h.mapping, h.sequence, ?_⟩
    have hkept : ∀ replies, AtRest c.line { m with replies := replies } :=
      fun _ => ⟨hrest.epoch, hrest.setup⟩
    cases whole with
    | true => exact ⟨hkept _, left, by omega, rfl⟩
    | false => exact hkept _

theorem hears_hop {hops : Nat} {expected : UInt8} {reply : SwitchReply} {refresh : Bool} {w' : W}
    (h : Follows (.hop hops expected reply refresh : BusPc P) c.line m)
    (hblock : c.hop E.port hops expected reply refresh w = (pc', c', w')) :
    Hears E m (.hop hops expected reply refresh) c w pc' c' := by
  obtain ⟨hrest, left, hleft, hreplies⟩ := h.standing
  unfold Comm.hop at hblock
  cases hops with
  | zero =>
    obtain ⟨rfl, rfl, rfl⟩ := by simpa using hblock
    exact hears_quiet h rfl rfl hrest
  | succ hops =>
    dsimp only at hblock
    split at hblock
    · obtain ⟨rfl, rfl, rfl⟩ := by simpa using hblock
      exact hears_quiet h rfl rfl hrest
    · split at hblock
      · split at hblock
        · obtain ⟨rfl, rfl, rfl⟩ := by simpa using hblock
          exact hears_quiet h rfl rfl ⟨hrest, left, hleft, hreplies⟩
        · obtain ⟨rfl, rfl, rfl⟩ := by simpa using hblock
          exact hears_quiet h rfl rfl hrest
      · -- a reply that was read may dispute the session
        obtain ⟨disputed, hline⟩ :=
          Comm.line_receiveSwitchStateFrame E.port expected reply c w
        rcases hreceive : c.receiveSwitchStateFrame E.port expected reply w with ⟨reply', c₁, w₁⟩
        rw [hreceive] at hline hblock
        dsimp only at hline hblock
        split at hblock
        · obtain ⟨rfl, rfl, rfl⟩ := by simpa using hblock
          refine hears_disputed h rfl hrest hline fun m' hrest' hkept => ⟨hrest', left, ?_, ?_⟩
          · omega
          · rw [hkept, hreplies, hline]
        · obtain ⟨rfl, rfl, rfl⟩ := by simpa using hblock
          exact hears_disputed h rfl hrest hline fun m' hrest' _ => hrest'

/-- **Every block is heard**: the listener follows the bus thread. -/
theorem hears_busStep (hnumbers : P.NumbersFrames) {w' : W} (h : Follows pc c.line m)
    (hblock : c.busStep E.port E.sourceByte pc w = some (pc', c', w')) :
    Hears E m pc c w pc' c' := by
  -- one case per block; those that write were treated above
  unfold Comm.busStep at hblock
  match pc with
  | .stopped => exact nomatch hblock
  | .loop =>
    obtain ⟨rfl, rfl, rfl⟩ := by simpa using hblock
    refine hears_quiet h rfl rfl ?_
    split
    · exact h.standing
    · exact h.standing
  | .popEvent eventsSent =>
    dsimp only at hblock
    split at hblock
    · split at hblock
      · obtain ⟨rfl, rfl, rfl⟩ := by simpa using hblock
        exact hears_quiet h rfl rfl h.standing
      · obtain ⟨rfl, rfl, rfl⟩ := by simpa using hblock
        exact hears_quiet h rfl rfl h.standing
    · obtain ⟨rfl, rfl, rfl⟩ := by simpa using hblock
      exact hears_quiet h rfl rfl h.standing
  | .sendEvent eventsSent event =>
    obtain ⟨rfl, rfl, rfl⟩ := by simpa using hblock
    exact hears_sendEvent h
  | .runtimeTest =>
    dsimp only at hblock
    split at hblock
    · obtain ⟨rfl, rfl, rfl⟩ := by simpa using hblock
      exact hears_quiet h rfl rfl h.standing
    · obtain ⟨rfl, rfl, rfl⟩ := by simpa using hblock
      exact hears_quiet h rfl rfl h.standing
  | .resyncTest =>
    have hrest : AtRest c.line m := h.standing
    have hsetup := hrest.setup
    dsimp only at hblock
    split at hblock
    · next hneed =>
      obtain ⟨rfl, rfl, rfl⟩ := by simpa using hblock
      -- the epoch is counted before the setup frame is sent
      have hdue : m.setup = .due := hsetup.trans (if_pos hneed)
      refine ⟨m, ?_, h.portOpen, h.valid, h.config, h.mapping, h.sequence, ?_⟩
      · simp [Comm.writtenBy, Comm.frameOf, disputedNow, Comm.startResync, Comm.reportAnomaly]
      · refine ⟨?_, hneed, hdue⟩
        show c.epoch + 1 = m.epoch + 1
        rw [← hrest.epoch]
        rfl
    · next hneed =>
      obtain ⟨rfl, rfl, rfl⟩ := by simpa using hblock
      exact hears_quiet h rfl rfl ⟨hrest, Bool.eq_false_iff.mpr hneed⟩
  | .resyncSetup =>
    dsimp only at hblock
    split at hblock
    · next hsent =>
      obtain ⟨rfl, rfl, rfl⟩ := by simpa using hblock
      exact hears_resyncSetup h hsent
    · next hsent =>
      obtain ⟨rfl, rfl, rfl⟩ := by simpa using hblock
      exact hears_resyncSetup h hsent
  | .resyncMapping [] =>
    obtain ⟨hepoch, hneed, hannouncing⟩ := h.standing
    obtain ⟨rfl, rfl, rfl⟩ := by simpa using hblock
    -- the session is in force again
    refine ⟨m, ?_, h.portOpen, h.valid, h.config, h.mapping, h.sequence, ?_⟩
    · simp [Comm.writtenBy, Comm.frameOf, disputedNow]
    · exact ⟨⟨hepoch, hannouncing⟩, rfl⟩
  | .resyncMapping ((domain, index, number) :: rest) =>
    dsimp only at hblock
    split at hblock
    · next hsent =>
      obtain ⟨rfl, rfl, rfl⟩ := by simpa using hblock
      exact hears_resyncMapping h hsent
    · next hsent =>
      obtain ⟨rfl, rfl, rfl⟩ := by simpa using hblock
      exact hears_resyncMapping h hsent
  | .inspectQueue =>
    have hstanding : AtRest c.line m ∧ c.needSessionResync = false := h.standing
    have hinspect := Option.some.inj hblock
    unfold Comm.inspectQueue at hinspect
    dsimp only at hinspect
    split at hinspect
    · obtain ⟨rfl, rfl, rfl⟩ := by simpa using hinspect
      exact hears_quiet h rfl rfl hstanding
    · split at hinspect
      · obtain ⟨rfl, rfl, rfl⟩ := by simpa using hinspect
        exact hears_quiet h rfl rfl hstanding
      · obtain ⟨rfl, rfl, rfl⟩ := by simpa using hinspect
        exact hears_quiet h rfl rfl hstanding
  | .copyState nextBoard refresh snapshot =>
    obtain ⟨rfl, rfl, rfl⟩ := by simpa using hblock
    exact hears_quiet h rfl rfl h.standing
  | .writeFrame nextBoard refresh snapshot holdFrames =>
    exact hears_writeFrame hnumbers h (Option.some.inj hblock)
  | .consumeHoldover nextBoard holdFrames =>
    obtain ⟨hrest, hallows⟩ := h.standing
    obtain ⟨rfl, rfl, rfl⟩ := by simpa using hblock
    refine hears_quiet h rfl rfl ?_
    unfold BusPc.afterFrame
    split
    · exact hrest
    · next hboard => exact ⟨hrest, hallows hboard⟩
  | .hop hops expected reply refresh => exact hears_hop h (Option.some.inj hblock)
  | .virtualCopy hops board next sendState refresh =>
    obtain ⟨rfl, rfl, rfl⟩ := by simpa using hblock
    exact hears_quiet h rfl rfl h.standing
  | .virtualWrite hops board next sendState refresh switchCopy =>
    dsimp only at hblock
    split at hblock
    · next hsent =>
      obtain ⟨rfl, rfl, rfl⟩ := by simpa using hblock
      exact hears_virtualWrite h hsent
    · next hsent =>
      obtain ⟨rfl, rfl, rfl⟩ := by simpa using hblock
      exact hears_virtualWrite h hsent
  | .virtualClear hops board next sendState refresh =>
    obtain ⟨rfl, rfl, rfl⟩ := by simpa using hblock
    exact hears_quiet h rfl (Comm.line_clearDirty board c) h.standing
  | .chainDone success refresh =>
    obtain ⟨rfl, rfl, rfl⟩ := by simpa using hblock
    obtain ⟨disputed, hline⟩ := Comm.line_chainDone E.port success refresh c w
    exact hears_disputed h rfl h.standing hline fun m' hrest' _ => hrest'

end blocks

end BusListener

/-! ### Runs -/

namespace Comm

theorem line_queueEvent (port : SerialPort W) (w : W) (event : Event) (c : Comm P) :
    (c.queueEvent port w event).line = c.line := by
  have heffect := queueEvent_effect port w event c
  generalize c.queueEvent port w event = c' at heffect ⊢
  cases heffect <;> rfl

/-- `SetVirtualSwitchState` works on the switch state only. -/
theorem setVirtualSwitchState_eq (now : Nat) (number : UInt16) (state : UInt8) (c : Comm P) :
    ∃ boards owners bitmap events refreshAt, (c.setVirtualSwitchState now number state).2 =
      { c with
        virtualSwitchBoards := boards
        virtualSwitchOwnerByNumber := owners
        boardPresenceFinalized := true
        switchBitmap := bitmap
        switches := events
        nextSwitchRefreshAt := refreshAt } := by
  obtain ⟨boards, owners, hfinal⟩ := finalizeConfiguredBoardPresence_eq c
  have heffect := setVirtualSwitchState_effect now number state c
  rw [hfinal] at heffect
  generalize (c.setVirtualSwitchState now number state).2 = c' at heffect ⊢
  cases heffect with
  | unchanged => exact ⟨_, _, _, _, _, rfl⟩
  | changed =>
    unfold changeVirtualSwitch noteSwitchActivity
    dsimp only
    split
    · exact ⟨_, owners, _, _, _, rfl⟩
    · exact ⟨_, owners, _, _, _, rfl⟩

theorem line_getNextSwitchState (c : Comm P) : c.getNextSwitchState.2.line = c.line := by
  unfold getNextSwitchState
  split <;> rfl

end Comm

namespace Sys

variable {E : Env W} {s s' : Sys P W}

/-- The other threads hand nothing to the port and leave the session alone. -/
theorem step_line {l : Label} (hbus : l ≠ .bus) (hfirmware : l ≠ .firmware)
    (h : s.step E l = some s') :
    s'.bus = s.bus ∧ s'.comm.line = s.comm.line ∧ busEntries E s l s' = [] := by
  match l with
  | .bus => exact absurd rfl hbus
  | .firmware => exact absurd rfl hfirmware
  | .queueEvent event =>
    obtain rfl := step_queueEvent h
    exact ⟨rfl, Comm.line_queueEvent E.port s.world event s.comm, rfl⟩
  | .setVirtualSwitchState number state =>
    obtain rfl := step_setVirtualSwitchState h
    obtain ⟨boards, owners, bitmap, events, refreshAt, heq⟩ :=
      Comm.setVirtualSwitchState_eq (E.port.steadyMs s.world) number state s.comm
    refine ⟨rfl, ?_, rfl⟩
    show (s.comm.setVirtualSwitchState (E.port.steadyMs s.world) number state).2.line = _
    rw [heq]
    rfl
  | .getNextSwitchState =>
    obtain rfl := Option.some.inj h
    exact ⟨rfl, Comm.line_getNextSwitchState s.comm, rfl⟩
  | .updateBoardFirmware request =>
    simp only [step] at h
    split at h
    · obtain rfl := Option.some.inj h
      exact ⟨rfl, rfl, rfl⟩
    · cases h

/-- **Step lemma**: the listener hears what a step shows, and follows. -/
theorem follows_step (hnumbers : P.NumbersFrames) {m : BusListener} {l : Label}
    (hfirmware : l ≠ .firmware) (h : BusListener.Follows s.bus s.comm.line m)
    (hstep : s.step E l = some s') :
    ∃ m', Transition.exec BusListener.hear m (busEntries E s l s') = some m' ∧
      BusListener.Follows s'.bus s'.comm.line m' := by
  by_cases hbus : l = .bus
  · subst hbus
    unfold step at hstep
    obtain ⟨⟨pc', c', w'⟩, hblock, rfl⟩ := Option.map_eq_some_iff.mp hstep
    exact BusListener.hears_busStep hnumbers h hblock
  · obtain ⟨hpc, hline, hnothing⟩ := step_line hbus hfirmware hstep
    refine ⟨m, ?_, ?_⟩
    · rw [hnothing]
      rfl
    · rw [hpc, hline]
      exact h

theorem follows_start {c : Comm P} (hopen : c.portOpen = true)
    (hvalid : P.isValidRuntimeConfig c.runtimeConfig = true) (w : W) :
    BusListener.Follows (start E c w).bus (start E c w).comm.line (BusListener.joining c) where
  portOpen := hopen
  valid := hvalid
  config := rfl
  mapping := rfl
  sequence := rfl
  standing := ⟨rfl, rfl⟩

/-- **Run lemma**: a listener of the start follows a session without a
    firmware transfer. -/
theorem follows_run (hnumbers : P.NumbersFrames) {c : Comm P} (hopen : c.portOpen = true)
    (hvalid : P.isValidRuntimeConfig c.runtimeConfig = true) {w : W} {ls : List Label}
    (hfirmware : Label.firmware ∉ ls)
    (hrun : Transition.exec (step E) (start E c w) ls = some s') :
    ∃ m', Transition.exec BusListener.hear (BusListener.joining c)
        (busLog E (start E c w) ls) = some m' ∧
      BusListener.Follows s'.bus s'.comm.line m' := by
  refine Transition.exec_observe (R := fun s m => BusListener.Follows s.bus s.comm.line m) ?_
    (follows_start hopen hvalid w) hrun
  intro s l hl s' m hfollows hstep
  refine follows_step hnumbers ?_ hfollows hstep
  rintro rfl
  exact hfirmware hl

/-- **The bus thread keeps the discipline**: whatever the boards answer,
    which writes fail and which events and virtual switches the application
    sets in between, all that the port gets from a session without a firmware
    transfer or version query are the frames of a log that a listener of its
    start accepts. -/
theorem bus_log_accepted (hnumbers : P.NumbersFrames) {c : Comm P} (hopen : c.portOpen = true)
    (hvalid : P.isValidRuntimeConfig c.runtimeConfig = true) {w : W}
    {s' : Sys P (W × List (List UInt8))} {ls : List Label} (hfirmware : Label.firmware ∉ ls)
    (hrun : Transition.exec (step E.recording) (start E.recording c (w, [])) ls = some s') :
    s'.world.2 =
        (framesIn (busLog E.recording (start E.recording c (w, [])) ls)).map
          (BusFrame.bytes E.sourceByte) ∧
      ∃ m', Transition.exec BusListener.hear (BusListener.joining c)
        (busLog E.recording (start E.recording c (w, [])) ls) = some m' := by
  constructor
  · have hwritten := written_busLog hrun hfirmware
    simpa [start] using hwritten
  · obtain ⟨m', hm', -⟩ := follows_run hnumbers hopen hvalid hfirmware hrun
    exact ⟨m', hm'⟩

end Sys

namespace Reference

open Sys

theorem protocol_numbersFrames : protocol.NumbersFrames where
  outputState _ _ _ _ _ _ _ := rfl
  bare _ _ _ _ _ := rfl

/-- A host whose session is disputed when it starts. -/
def disputedComm : Comm protocol := { mappedComm with needSessionResync := true }

/-- A trigger, the setup, the mapping of three and an output frame. -/
def announceAgain : List Label :=
  [.queueEvent { sourceId := .run, eventId := 1, value := 1 },
    .queueEvent { sourceId := .effect, eventId := 5, value := 1 }] ++ List.replicate 14 .bus

theorem bus_log_accepted_announceAgain : ∃ s',
    Transition.exec (step env.recording) (start env.recording disputedComm ({}, []))
        announceAgain = some s' ∧
      s'.world.2.length = 6 ∧
      s'.world.2 = (framesIn (busLog env.recording (start env.recording disputedComm ({}, []))
        announceAgain)).map (BusFrame.bytes env.sourceByte) := by
  have hrun : (Transition.exec (step env.recording) (start env.recording disputedComm ({}, []))
      announceAgain).isSome = true := by decide +kernel
  obtain ⟨s', hs'⟩ := Option.isSome_iff_exists.mp hrun
  have hlength : (Transition.exec (step env.recording)
      (start env.recording disputedComm ({}, [])) announceAgain).map (fun s => s.world.2.length) =
        some 6 := by decide +kernel
  rw [hs'] at hlength
  refine ⟨s', hs', Option.some.inj hlength, ?_⟩
  exact (bus_log_accepted protocol_numbersFrames (c := disputedComm) rfl rfl (by decide) hs').1

end Reference

end LibPpuc
