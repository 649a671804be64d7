import LibPpuc.Runtime.Holdover

/-! # Coil Release

  An off event clears the live bit of its coil at once, yet frames can still
  drive the coil: one that is on its way, the snapshots queued before the
  event, and as many as the hold counter asks for.  Each of them is drained
  by another block of the bus thread.

  `framesLeft` bounds what all three can still put on the wire.  Every step
  pays for the frame it writes out of that bound, so the bound at the off
  event is a bound for every run after it.
-/

namespace LibPpuc

namespace Sys

variable {P : Protocol} {W : Type}

/-! ### Off Events and On Events -/

/-- The event is an off event for coil `i`. -/
structure TurnsOff (c : Comm P) (event : Event) (i : Nat) : Prop where
  source : event.sourceId = .solenoid
  value : event.value = 0
  mapped : c.coilNumberToIndex.lookup event.eventId = some i
  inBuffer : i < P.kMaxCoilBits
  configured : i < c.runtimeConfig.coilBits

/-- The step is an on event for coil `i`. -/
def turnsOnCoil (i : Nat) (s : Sys P W) : Label → Bool
  | .queueEvent event =>
    event.sourceId == .solenoid && event.value != 0 &&
      s.comm.coilNumberToIndex.lookup event.eventId == some i
  | _ => false

/-- No on event for coil `i` arrives in the run. -/
def NoOnEvent (E : Env W) (i : Nat) (s : Sys P W) (ls : List Label) : Prop :=
  Transition.Along (step E) (fun s l => turnsOnCoil i s l = false) s ls

instance (E : Env W) (i : Nat) (s : Sys P W) (ls : List Label) : Decidable (NoOnEvent E i s ls) :=
  inferInstanceAs (Decidable (Transition.Along _ _ _ _))

/-- The frame has coil `i` set. -/
def carriesCoil (i : Nat) (frame : QueuedOutputSnapshot P) : Bool :=
  P.bits.get frame.coilBitmap i

/-- The output frames that a run writes with success. -/
def framesWritten (E : Env W) (s : Sys P W) (ls : List Label) : List (QueuedOutputSnapshot P) :=
  Transition.observe (step E) frameWritten s ls

/-! ### What Can Still Carry the Coil -/

/-- Coil `i` is off in the live state and in every queued snapshot behind the
    first `q`. -/
structure Off (i q : Nat) (c : Comm P) : Prop where
  configured : i < c.heldCoilBits
  live : P.bits.get c.coilBitmap i = false
  queued : ∀ snapshot ∈ c.outputSnapshots.drop q, carriesCoil i snapshot = false

/-- The hold counter of coil `i` after the countdown for a frame that was
    copied with the counters `holdFrames`. -/
def holdAfter (i : Nat) (c : Comm P) (holdFrames : Vector Nat P.kMaxCoilBits) : Nat :=
  if holdAt holdFrames i = 0 then holdAt c.coilHoldFrames i
  else holdAt c.coilHoldFrames i - 1

/-- The frames that can still carry coil `i`, where the first `q` snapshots
    may.  A held frame that is written also takes its count. -/
def framesLeft (i q : Nat) (c : Comm P) : BusPc P → Nat
  | .copyState _ false snapshot =>
    if holdAt c.coilHoldFrames i = 0 ∧
        carriesCoil i (snapshot.getD c.outputSnapshot) = false then q
    else max (q + 1) (holdAt c.coilHoldFrames i)
  | .writeFrame _ false frame holdFrames =>
    if carriesCoil i frame then 1 + max q (holdAfter i c holdFrames)
    else max q (holdAt c.coilHoldFrames i)
  | .consumeHoldover _ holdFrames => max q (holdAfter i c holdFrames)
  | _ => max q (holdAt c.coilHoldFrames i)

section measure

variable {pos : Nat → Nat} {E : Env W} {i q : Nat} {c c' : Comm P} {s s' : Sys P W}

theorem holdAfter_le (i : Nat) (c : Comm P) (holdFrames : Vector Nat P.kMaxCoilBits) :
    holdAfter i c holdFrames ≤ holdAt c.coilHoldFrames i ∧
      holdAt c.coilHoldFrames i ≤ holdAfter i c holdFrames + 1 := by
  unfold holdAfter
  split <;> omega

/-- Between the blocks that carry a frame, the queue and the counter remain. -/
theorem framesLeft_of_carriesNothing {pc : BusPc P} (hcarry : pc.carriesNothing = true) :
    framesLeft i q c pc = max q (holdAt c.coilHoldFrames i) := by
  unfold framesLeft
  split
  · exact Bool.noConfusion hcarry
  · exact Bool.noConfusion hcarry
  · exact Bool.noConfusion hcarry
  · rfl

/-- Wherever the bus thread stands, one frame more than queue and counter
    account for is enough. -/
theorem framesLeft_le (i q : Nat) (c : Comm P) (pc : BusPc P) :
    framesLeft i q c pc ≤ 1 + max q (holdAt c.coilHoldFrames i) := by
  unfold framesLeft
  split
  · split <;> omega
  · have hafter := (holdAfter_le i c ‹_›).1
    split <;> omega
  · have hafter := (holdAfter_le i c ‹_›).1
    omega
  · omega

theorem le_framesLeft_session {pc : BusPc P} (hblock : pc.alwaysShares = false) :
    max q (holdAt c.coilHoldFrames i) ≤ framesLeft i q c pc := by
  unfold framesLeft
  split
  · exact Bool.noConfusion hblock
  · have hafter := (holdAfter_le i c ‹_›).2
    split <;> omega
  · exact Bool.noConfusion hblock
  · exact le_refl _

/-- The measure and the invariant read the output path only. -/
theorem off_congr (h : c'.outputPart = c.outputPart) (hoff : Off i q c) : Off i q c' := by
  have hlive : c'.coilBitmap = c.coilBitmap := (congrArg Comm.coilBitmap h :)
  have hqueue : c'.outputSnapshots = c.outputSnapshots := (congrArg Comm.outputSnapshots h :)
  have hconfig : c'.runtimeConfig = c.runtimeConfig := (congrArg Comm.runtimeConfig h :)
  constructor
  · unfold Comm.heldCoilBits
    rw [hconfig]
    exact hoff.configured
  · rw [hlive]
    exact hoff.live
  · rw [hqueue]
    exact hoff.queued

theorem framesLeft_congr (hhold : holdAt c'.coilHoldFrames i = holdAt c.coilHoldFrames i)
    (hlive : P.bits.get c'.coilBitmap i = P.bits.get c.coilBitmap i) (pc : BusPc P) :
    framesLeft i q c' pc = framesLeft i q c pc := by
  have hcopy : ∀ snapshot : Option (QueuedOutputSnapshot P),
      carriesCoil i (snapshot.getD c'.outputSnapshot) =
        carriesCoil i (snapshot.getD c.outputSnapshot) := by
    intro snapshot
    cases snapshot with
    | none => exact hlive
    | some snapshot => rfl
  unfold framesLeft holdAfter
  simp only [hhold, hcopy]

theorem framesLeft_outputPart (h : c'.outputPart = c.outputPart) (pc : BusPc P) :
    framesLeft i q c' pc = framesLeft i q c pc := by
  have hlive : c'.coilBitmap = c.coilBitmap := (congrArg Comm.coilBitmap h :)
  have hhold : c'.coilHoldFrames = c.coilHoldFrames := (congrArg Comm.coilHoldFrames h :)
  exact framesLeft_congr (by rw [hhold]) (by rw [hlive]) pc

/-! ### Events -/

/-- A coil update that is no on event for coil `i` leaves the coil off. -/
theorem off_setCoil (hP : P.Lawful pos) {index : Nat} {coilOn : Bool} (hoff : Off i q c)
    (hnot : ¬ (i = index ∧ coilOn = true)) :
    P.bits.get (c.setCoil index coilOn).coilBitmap i = false := by
  have hi : i < P.kMaxCoilBits := lt_of_lt_of_le hoff.configured (Nat.min_le_right _ _)
  show P.bits.get (P.bits.set c.coilBitmap index coilOn) i = false
  rw [BitAccess.get_set hP.bits _ _ _ _ (hP.coil_byte_lt hi)]
  split
  · next heq =>
    cases coilOn with
    | true => exact absurd ⟨heq, rfl⟩ hnot
    | false => rfl
  · exact hoff.live

/-- Events other than on events for coil `i` keep the measure. -/
theorem framesLeft_queueEvent (hP : P.Lawful pos) (port : SerialPort W) (w : W) (event : Event)
    (pc : BusPc P) (hoff : Off i q c)
    (hguard : turnsOnCoil i (⟨c, pc, none, w⟩ : Sys P W) (.queueEvent event) = false) :
    Off i q (c.queueEvent port w event) ∧
      framesLeft i q (c.queueEvent port w event) pc ≤ framesLeft i q c pc := by
  have heffect := Comm.queueEvent_effect port w event c
  generalize c.queueEvent port w event = c' at heffect ⊢
  cases heffect with
  | coil index log hsource hlookup hindex =>
    have hnot : ¬ (i = index ∧ (event.value != 0) = true) := by
      intro h
      obtain ⟨rfl, hvalue⟩ := h
      simp [turnsOnCoil, hsource, hlookup, hvalue] at hguard
    have hlive := off_setCoil hP hoff hnot
    have hhold := Comm.holdAt_setCoil c index i (event.value != 0) hindex
    rw [if_neg hnot] at hhold
    constructor
    · refine ⟨hoff.configured, hlive, ?_⟩
      -- the pushed snapshot copies the live state
      intro snapshot hmem
      rcases BoundedQueue.mem_drop_push hmem with hold | rfl
      · exact hoff.queued snapshot hold
      · exact hlive
    · exact le_of_eq (framesLeft_congr hhold (hlive.trans hoff.live.symm) pc)
  | level =>
    refine ⟨⟨hoff.configured, hoff.live, hoff.queued⟩, le_of_eq (framesLeft_congr ?_ ?_ pc)⟩ <;> rfl
  | run =>
    refine ⟨⟨hoff.configured, hoff.live, hoff.queued⟩, le_of_eq (framesLeft_congr ?_ ?_ pc)⟩ <;> rfl
  | effect =>
    refine ⟨⟨hoff.configured, hoff.live, hoff.queued⟩, le_of_eq (framesLeft_congr ?_ ?_ pc)⟩ <;> rfl
  | ignored => exact ⟨hoff, le_refl _⟩

/-! ### Blocks of the Bus Thread -/

/-- The step keeps the coil off and pays for the frame it writes. -/
def Spends (i n : Nat) (s : Sys P W) (l : Label) (s' : Sys P W) : Prop :=
  ∃ q, Off i q s'.comm ∧
    (frameWritten s l s').countP (carriesCoil i) + framesLeft i q s'.comm s'.bus ≤ n

theorem spends_of_nothing {n : Nat} {l : Label} (hnothing : frameWritten s l s' = [])
    (hoff : Off i q s'.comm) (hle : framesLeft i q s'.comm s'.bus ≤ n) : Spends i n s l s' := by
  refine ⟨q, hoff, ?_⟩
  rw [hnothing, List.countP_nil]
  omega

theorem frameWritten_of_carriesNothing {l : Label} (hcarry : s'.bus.carriesNothing = true) :
    frameWritten s l s' = [] := by
  unfold frameWritten
  split
  · next heq =>
    rw [heq] at hcarry
    exact Bool.noConfusion hcarry
  · rfl

/-- A copied frame carries the coil if it is held or in the copied state. -/
theorem carriesCoil_heldSnapshot (hP : P.Lawful pos) (snapshot : QueuedOutputSnapshot P)
    (hbits : i < c.heldCoilBits) :
    carriesCoil i (c.heldSnapshot snapshot) =
      (decide (holdAt c.coilHoldFrames i ≠ 0) || carriesCoil i snapshot) := by
  have hi : i < P.kMaxCoilBits := lt_of_lt_of_le hbits (Nat.min_le_right _ _)
  unfold carriesCoil Comm.heldSnapshot
  rw [Comm.get_applyCoilHoldover hP c snapshot.coilBitmap c.coilHoldFrames hi]
  simp [hbits]

theorem framesLeft_copied (hP : P.Lawful pos) (nextBoard : UInt8) (refresh : Bool)
    (snapshot : Option (QueuedOutputSnapshot P)) (hoff : Off i q c) :
    framesLeft i q c
        (.writeFrame nextBoard refresh (c.heldSnapshot (snapshot.getD c.outputSnapshot))
          c.coilHoldFrames) ≤
      framesLeft i q c (.copyState nextBoard refresh snapshot) := by
  cases refresh with
  | true => exact le_refl _
  | false =>
    have hcarry := carriesCoil_heldSnapshot hP (snapshot.getD c.outputSnapshot) hoff.configured
    simp only [framesLeft, hcarry, holdAfter]
    by_cases hhold : holdAt c.coilHoldFrames i = 0
    · simp only [hhold, ne_eq, not_true_eq_false, decide_false, Bool.false_or, true_and, if_true]
      cases carriesCoil i (snapshot.getD c.outputSnapshot) with
      | true => simp; omega
      | false => simp
    · simp only [hhold, ne_eq, not_false_eq_true, decide_true, Bool.true_or, false_and, if_true,
        if_false]
      omega

theorem holdAt_consumed (holdFrames : Vector Nat P.kMaxCoilBits) (hbits : i < c.heldCoilBits) :
    holdAt (c.consumeCoilHoldoverLocked holdFrames).coilHoldFrames i =
      holdAfter i c holdFrames := by
  rw [Comm.holdAt_consume c holdFrames i]
  unfold holdAfter
  by_cases hzero : holdAt holdFrames i = 0
  · simp [hzero]
  · simp [hzero, hbits]

/-- Popping a snapshot moves the clean part of the queue up by one. -/
theorem framesLeft_popped (hoff : Off i q c) {nextBoard : UInt8}
    {snapshot : QueuedOutputSnapshot P} {rest : List (QueuedOutputSnapshot P)}
    (hqueue : c.outputSnapshots = snapshot :: rest) :
    ∃ q', Off i q' { c with outputSnapshots := rest } ∧
      framesLeft i q' { c with outputSnapshots := rest }
        (.copyState nextBoard false (some snapshot)) ≤ max q (holdAt c.coilHoldFrames i) := by
  have hqueued := hoff.queued
  rw [hqueue] at hqueued
  cases q with
  | zero =>
    -- the popped snapshot is clean as well
    have hclean := hqueued snapshot List.mem_cons_self
    refine ⟨0, ⟨hoff.configured, hoff.live, fun t ht => hqueued t (List.mem_cons_of_mem _ ht)⟩, ?_⟩
    simp only [framesLeft, Option.getD_some, hclean, and_true]
    split <;> omega
  | succ q =>
    refine ⟨q, ⟨hoff.configured, hoff.live, hqueued⟩, ?_⟩
    simp only [framesLeft]
    split <;> omega

theorem spends_bus (hP : P.Lawful pos) (hoff : Off i q s.comm)
    (hstep : s.step E .bus = some s') : Spends i (framesLeft i q s.comm s.bus) s .bus s' := by
  obtain ⟨c, pc, firmware, w⟩ := s
  obtain ⟨c', pc', firmware', w'⟩ := s'
  obtain ⟨heffect, -⟩ := step_bus hstep
  dsimp only at heffect hoff ⊢
  cases heffect with
  | session hblock hcarry hhost =>
    have hsame := Comm.outputPart_of_hostPart hhost
    apply spends_of_nothing (frameWritten_of_carriesNothing hcarry) (off_congr hsame hoff)
    rw [framesLeft_outputPart hsame, framesLeft_of_carriesNothing hcarry]
    exact le_framesLeft_session hblock
  | eventPopped =>
    exact spends_of_nothing rfl ⟨hoff.configured, hoff.live, hoff.queued⟩ (le_refl _)
  | snapshotPopped hqueue =>
    obtain ⟨q', hoff', hle⟩ := framesLeft_popped hoff hqueue
    exact spends_of_nothing rfl hoff' hle
  | noSnapshot hqueue =>
    next nextBoard refresh =>
    cases refresh with
    | true => exact spends_of_nothing rfl hoff (le_refl _)
    | false =>
      -- the queue is empty, so that all of it is clean
      have hnil := hqueue rfl
      have hoff' : Off i 0 c := ⟨hoff.configured, hoff.live, by rw [hnil]; simp⟩
      apply spends_of_nothing rfl hoff'
      have hlive : carriesCoil i c.outputSnapshot = false := hoff.live
      simp only [framesLeft, Option.getD_none, hlive, and_true]
      split <;> omega
  | copied => exact spends_of_nothing rfl hoff (framesLeft_copied hP _ _ _ hoff)
  | written hsent hhost =>
    next nextBoard frame holdFrames =>
    have hsame := Comm.outputPart_of_hostPart hhost
    refine ⟨q, off_congr hsame hoff, ?_⟩
    rw [framesLeft_outputPart hsame]
    have hafter := (holdAfter_le i c holdFrames).1
    simp only [frameWritten, framesLeft, List.countP_singleton]
    split <;> omega
  | consumed =>
    next nextBoard holdFrames =>
    have hcarry := BusPc.afterFrame_carriesNothing (P := P) nextBoard false
    apply spends_of_nothing (frameWritten_of_carriesNothing hcarry)
      ⟨hoff.configured, hoff.live, hoff.queued⟩
    rw [framesLeft_of_carriesNothing hcarry, holdAt_consumed holdFrames hoff.configured]
    exact le_refl _
  | dirtyRead => exact spends_of_nothing rfl hoff (le_refl _)
  | bitmapCopied => exact spends_of_nothing rfl hoff (le_refl _)
  | replyWritten hhost =>
    have hsame := Comm.outputPart_of_hostPart hhost
    apply spends_of_nothing rfl (off_congr hsame hoff)
    exact le_of_eq (framesLeft_outputPart hsame _)
  | dirtyCleared =>
    next _ board _ _ _ =>
    have hsame := Comm.outputPart_clearDirty board c
    apply spends_of_nothing rfl (off_congr hsame hoff)
    exact le_of_eq (framesLeft_outputPart hsame _)

/-- **Step lemma**: every step other than an on event for the coil pays for
    the frame it writes. -/
theorem spends_step (hP : P.Lawful pos) {l : Label} (hoff : Off i q s.comm)
    (hguard : turnsOnCoil i s l = false) (hstep : s.step E l = some s') :
    Spends i (framesLeft i q s.comm s.bus) s l s' := by
  by_cases hbus : l = .bus
  · subst hbus
    exact spends_bus hP hoff hstep
  · have hnothing : frameWritten s l s' = [] := by
      unfold frameWritten
      simp [hbus]
    by_cases hevent : ∃ event, l = .queueEvent event
    · obtain ⟨event, rfl⟩ := hevent
      obtain rfl := step_queueEvent hstep
      obtain ⟨hoff', hle⟩ := framesLeft_queueEvent hP E.port s.world event s.bus hoff hguard
      exact spends_of_nothing hnothing hoff' hle
    · obtain ⟨hpc, hsame⟩ := step_elsewhere hbus (fun event h => hevent ⟨event, h⟩) hstep
      apply spends_of_nothing hnothing (off_congr hsame hoff)
      rw [hpc]
      exact le_of_eq (framesLeft_outputPart hsame _)

/-- After an off event everything behind the snapshots that were queued ahead
    of its own is clean. -/
theorem off_of_turnsOff (hP : P.Lawful pos) {event : Event} (hoff : TurnsOff s.comm event i)
    (hstep : s.step E (.queueEvent event) = some s') :
    Off i (s'.comm.outputSnapshots.length - 1) s'.comm ∧
      holdAt s'.comm.coilHoldFrames i = holdAt s.comm.coilHoldFrames i := by
  obtain rfl := step_queueEvent hstep
  have hvalue : (event.value != 0) = false := by simp [hoff.value]
  have hcoil := Comm.queueEvent_coil E.port s.world hoff.source hoff.mapped hoff.inBuffer
  obtain ⟨log, heq⟩ :=
    Comm.queueOutputSnapshotLocked_eq E.port s.world (s.comm.setCoil i (event.value != 0))
  rw [heq, hvalue] at hcoil
  have hlive : P.bits.get (s.comm.setCoil i false).coilBitmap i = false :=
    BitAccess.get_set_self hP.bits _ i false (hP.coil_byte_lt hoff.inBuffer)
  dsimp only
  rw [hcoil]
  refine ⟨⟨Nat.lt_min.mpr ⟨hoff.configured, hoff.inBuffer⟩, hlive, ?_⟩, rfl⟩
  intro snapshot hmem
  -- only the pushed snapshot stands behind the others
  unfold BoundedQueue.push at hmem
  rw [List.length_append, List.length_singleton, Nat.add_sub_cancel, List.drop_left] at hmem
  obtain rfl := List.mem_singleton.mp hmem
  exact hlive

end measure

/-! ### Whole Runs -/

section runs

variable {pos : Nat → Nat} {E : Env W}

/-- At most `n` more frames can carry coil `i`. -/
def WithinBudget (i : Nat) (s : Sys P W) (n : Nat) : Prop :=
  ∃ q, Off i q s.comm ∧ framesLeft i q s.comm s.bus ≤ n

/-- **Run lemma**: as long as no on event arrives, a run writes no more frames
    with the coil than were left at its start. -/
theorem carriesCoil_run (hP : P.Lawful pos) (i q : Nat) (s : Sys P W) (ls : List Label)
    (hoff : Off i q s.comm) (hguard : NoOnEvent E i s ls) :
    (framesWritten E s ls).countP (carriesCoil i) ≤ framesLeft i q s.comm s.bus := by
  have hinit : WithinBudget i s (framesLeft i q s.comm s.bus) := ⟨q, hoff, le_refl _⟩
  apply Transition.countP_observe_le (carriesCoil i) ?_ hinit hguard
  intro s l s' n hbudget hallowed hstep
  obtain ⟨q, hoff, hle⟩ := hbudget
  obtain ⟨q', hoff', hspent⟩ := spends_step hP hoff hallowed hstep
  exact ⟨framesLeft i q' s'.comm s'.bus, ⟨q', hoff', le_refl _⟩, hspent.trans hle⟩

/-- **Coil release.**  After an off event for coil `i`, in every run of the
    bus thread and all other threads in which no on event for it arrives, at
    most `1 + max Q H` of the frames that are written carry the coil: `Q`
    snapshots were queued ahead of the event's own, and `H` was its hold
    counter. -/
theorem coil_released (hP : P.Lawful pos) (s s' : Sys P W) (event : Event) (i : Nat)
    (ls : List Label) (hoff : TurnsOff s.comm event i)
    (hevent : s.step E (.queueEvent event) = some s') (hguard : NoOnEvent E i s' ls) :
    (framesWritten E s' ls).countP (carriesCoil i) ≤
      1 + max (s'.comm.outputSnapshots.length - 1) (holdAt s.comm.coilHoldFrames i) := by
  obtain ⟨hclean, hhold⟩ := off_of_turnsOff hP hoff hevent
  rw [← hhold]
  exact (carriesCoil_run hP i _ s' ls hclean hguard).trans (framesLeft_le i _ _ _)

end runs

end Sys

namespace Reference

open Sys

/-- A coil that is switched off right after it was switched on, before any
    frame was copied: the hold counter asks for three frames. -/
theorem short_pulse_released :
    (framesWritten env
      { system with comm := (system.comm.queueEvent port {} coilOn).queueEvent port {} coilOff }
      (outputCycle ++ outputCycle ++ outputCycle ++ outputCycle)).countP (carriesCoil 0) ≤ 4 :=
  coil_released protocol_lawful
    { system with comm := system.comm.queueEvent port {} coilOn } _ coilOff 0 _
    ⟨rfl, by decide, by decide +kernel, by decide, by decide⟩ rfl (by decide +kernel)

end Reference

end LibPpuc
