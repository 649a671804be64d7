import LibPpuc.Runtime.CoilRelease
import LibPpuc.Runtime.NoStarvation
import LibPpuc.Framework.Ledger
import Mathlib.Data.Finset.Lattice.Fold
import Mathlib.Order.Lattice.Nat

/-! # Outputs Catch Up

  Once the application has made its last change, the boards come to show
  exactly the live output state.  What can still differ was put on its way
  before: the snapshots in the queue, the coils that are held and a frame
  that is already copied.

  - **Safety**: behind the first `1 + max Q H` output frames that the port
    takes, every frame is the live state; `Q` snapshots are queued and `H` is
    the largest hold counter.  A queued snapshot and a held frame are used
    up by the same frame, so the two do not add up.
  - **Progress**: with blocks enough of the bus thread such a frame is
    written.

  Failed writes do not count: a snapshot that was popped for one is lost, the
  hold counters stay.
-/

namespace LibPpuc

variable {P : Protocol} {W : Type}

/-- The application changes a coil, a lamp or a GI level. -/
def Label.changesOutput : Label → Bool
  | .queueEvent event =>
    event.sourceId == .solenoid || event.sourceId == .light || event.sourceId == .gi
  | _ => false

namespace Comm

/-- The largest hold counter. -/
def longestHold (c : Comm P) : Nat :=
  (Finset.range c.heldCoilBits).sup (holdAt c.coilHoldFrames)

/-- The largest hold counter after the countdown for a frame that was copied
    with the counters `holdFrames`. -/
def longestHoldAfter (c : Comm P) (holdFrames : Vector Nat P.kMaxCoilBits) : Nat :=
  (Finset.range c.heldCoilBits).sup fun i => Sys.holdAfter i c holdFrames

/-- So many output frames can still differ from the live state. -/
def staleFrames (c : Comm P) : Nat := max c.outputSnapshots.length c.longestHold + 1

section holds

variable (c : Comm P) (holdFrames : Vector Nat P.kMaxCoilBits)

theorem longestHoldAfter_le : c.longestHoldAfter holdFrames ≤ c.longestHold := by
  apply Finset.sup_le
  intro i hi
  exact (Sys.holdAfter_le i c holdFrames).1.trans
    (Finset.le_sup (f := holdAt c.coilHoldFrames) hi)

theorem longestHold_le_after : c.longestHold ≤ c.longestHoldAfter holdFrames + 1 := by
  apply Finset.sup_le
  intro i hi
  have hafter := (Sys.holdAfter_le i c holdFrames).2
  have hle : Sys.holdAfter i c holdFrames ≤ c.longestHoldAfter holdFrames :=
    Finset.le_sup (f := fun i => Sys.holdAfter i c holdFrames) hi
  omega

/-- A frame that is written with the present counters counts all of them down. -/
theorem longestHoldAfter_self : c.longestHoldAfter c.coilHoldFrames ≤ c.longestHold - 1 := by
  apply Finset.sup_le
  intro i hi
  have hle : holdAt c.coilHoldFrames i ≤ c.longestHold :=
    Finset.le_sup (f := holdAt c.coilHoldFrames) hi
  unfold Sys.holdAfter
  split <;> omega

theorem longestHold_consume :
    (c.consumeCoilHoldoverLocked holdFrames).longestHold = c.longestHoldAfter holdFrames := by
  apply Finset.sup_congr rfl
  intro i hi
  exact Sys.holdAt_consumed holdFrames (Finset.mem_range.mp hi)

/-- Without a hold the buffers are sent as they are. -/
theorem heldSnapshot_of_none {c : Comm P} (hnone : c.longestHold = 0)
    (snapshot : QueuedOutputSnapshot P) : c.heldSnapshot snapshot = snapshot := by
  have hskip : ∀ (is : List Nat) (coils : Vector UInt8 P.kMaxCoilBytes),
      (∀ i ∈ is, i < c.heldCoilBits) →
      is.foldl (fun coils i => if holdAt c.coilHoldFrames i = 0 then coils
        else P.bits.set coils i true) coils = coils := by
    intro is
    induction is with
    | nil => simp
    | cons i is ih =>
      intro coils his
      have hle : holdAt c.coilHoldFrames i ≤ c.longestHold :=
        Finset.le_sup (f := holdAt c.coilHoldFrames)
          (Finset.mem_range.mpr (his i List.mem_cons_self))
      rw [List.foldl_cons, if_pos (by omega)]
      exact ih coils fun j hj => his j (List.mem_cons_of_mem _ hj)
  unfold heldSnapshot applyCoilHoldover
  rw [hskip _ _ fun i hi => List.mem_range.mp hi]

end holds

end Comm

/-! ### What Is Still on Its Way -/

namespace BusPc

/-- A frame on its way is the live state. -/
def Fresh (live : QueuedOutputSnapshot P) : BusPc P → Prop
  | .copyState _ false (some _) => False
  | .writeFrame _ false frame _ => frame = live
  | _ => True

theorem fresh_of_carriesNothing {live : QueuedOutputSnapshot P} {pc : BusPc P}
    (hcarry : pc.carriesNothing = true) : pc.Fresh live := by
  unfold Fresh
  split
  · exact Bool.noConfusion hcarry
  · exact Bool.noConfusion hcarry
  · trivial

end BusPc

namespace Sys

/-- The frames that may still differ from the live state. -/
def staleLeft (c : Comm P) : BusPc P → Nat
  | .copyState _ false _ => max (c.outputSnapshots.length + 1) c.longestHold
  | .writeFrame _ false _ holdFrames =>
    max c.outputSnapshots.length (c.longestHoldAfter holdFrames) + 1
  | .consumeHoldover _ holdFrames => max c.outputSnapshots.length (c.longestHoldAfter holdFrames)
  | _ => max c.outputSnapshots.length c.longestHold

/-- Nothing is queued, held or on its way but the live state. -/
structure Settled (s : Sys P W) : Prop where
  queue : s.comm.outputSnapshots = []
  hold : s.comm.longestHold = 0
  fresh : s.bus.Fresh s.comm.outputSnapshot

/-- The live state is `live`, and at most `n` more frames differ from it. -/
def SettlesIn (live : QueuedOutputSnapshot P) (n : Nat) (s : Sys P W) : Prop :=
  s.comm.outputSnapshot = live ∧ (Settled s ∨ staleLeft s.comm s.bus ≤ n)

section steps

variable {E : Env W} {c c' : Comm P} {s s' : Sys P W} {live : QueuedOutputSnapshot P} {n : Nat}

theorem staleLeft_le (c : Comm P) (pc : BusPc P) : staleLeft c pc ≤ c.staleFrames := by
  unfold staleLeft Comm.staleFrames
  split
  · omega
  · have hafter := Comm.longestHoldAfter_le c ‹_›
    omega
  · have hafter := Comm.longestHoldAfter_le c ‹_›
    omega
  · omega

theorem staleLeft_of_carriesNothing {pc : BusPc P} (hcarry : pc.carriesNothing = true) :
    staleLeft c pc = max c.outputSnapshots.length c.longestHold := by
  unfold staleLeft
  split
  · exact Bool.noConfusion hcarry
  · exact Bool.noConfusion hcarry
  · exact Bool.noConfusion hcarry
  · rfl

theorem le_staleLeft_session {pc : BusPc P} (hblock : pc.alwaysShares = false) :
    max c.outputSnapshots.length c.longestHold ≤ staleLeft c pc := by
  unfold staleLeft
  split
  · exact Bool.noConfusion hblock
  · have hafter := Comm.longestHold_le_after c ‹_›
    omega
  · exact Bool.noConfusion hblock
  · omega

/-- The measure reads the output path only. -/
theorem staleLeft_outputPart (h : c'.outputPart = c.outputPart) (pc : BusPc P) :
    staleLeft c' pc = staleLeft c pc := by
  have hqueue : c'.outputSnapshots = c.outputSnapshots := (congrArg Comm.outputSnapshots h :)
  have hhold : c'.longestHold = c.longestHold := (congrArg Comm.longestHold h :)
  have hafter : ∀ holdFrames, c'.longestHoldAfter holdFrames = c.longestHoldAfter holdFrames :=
    fun holdFrames => (congrArg (fun c => Comm.longestHoldAfter c holdFrames) h :)
  unfold staleLeft
  simp only [hqueue, hhold, hafter]

/-- The output path is as it was, and so is what is settled. -/
theorem Settled.of_outputPart (hsettled : Settled s)
    (h : s'.comm.outputPart = s.comm.outputPart)
    (hfresh : s'.bus.Fresh s.comm.outputSnapshot) : Settled s' where
  queue := (congrArg Comm.outputSnapshots h :).trans hsettled.queue
  hold := (congrArg Comm.longestHold h :).trans hsettled.hold
  fresh := by
    have hlive : s'.comm.outputSnapshot = s.comm.outputSnapshot :=
      (congrArg Comm.outputSnapshot h :)
    rw [hlive]
    exact hfresh

/-- A step that leaves the output path alone and takes nothing on its way. -/
theorem SettlesIn.of_outputPart (hsettles : SettlesIn live n s)
    (h : s'.comm.outputPart = s.comm.outputPart)
    (hless : staleLeft s.comm s'.bus ≤ staleLeft s.comm s.bus)
    (hfresh : ∀ live, s.bus.Fresh live → s'.bus.Fresh live) : SettlesIn live n s' := by
  obtain ⟨hlive, hleft⟩ := hsettles
  refine ⟨(congrArg Comm.outputSnapshot h :).trans hlive, ?_⟩
  rcases hleft with hsettled | hleft
  · exact Or.inl (hsettled.of_outputPart h (hfresh _ hsettled.fresh))
  · right
    rw [staleLeft_outputPart h]
    exact hless.trans hleft

/-- A step counts down the frame it writes, or the frame is the live state. -/
def Settles (live : QueuedOutputSnapshot P) (n : Nat) (s : Sys P W) (l : Label)
    (s' : Sys P W) : Prop :=
  SettlesIn live (n - (frameWritten s l s').length) s' ∧
    ∀ frame ∈ (frameWritten s l s').drop n, frame = live

theorem settles_of_nothing {l : Label} (hnothing : frameWritten s l s' = [])
    (hsettles : SettlesIn live n s') : Settles live n s l s' := by
  unfold Settles
  rw [hnothing]
  exact ⟨hsettles, by simp⟩

theorem settles_bus (hsettles : SettlesIn live n s) (hstep : s.step E .bus = some s') :
    Settles live n s .bus s' := by
  obtain ⟨c, pc, firmware, w⟩ := s
  obtain ⟨c', pc', firmware', w'⟩ := s'
  obtain ⟨heffect, -⟩ := step_bus hstep
  dsimp only at heffect
  cases heffect with
  | session hblock hcarry hhost =>
    apply settles_of_nothing (frameWritten_of_carriesNothing hcarry)
    apply hsettles.of_outputPart (Comm.outputPart_of_hostPart hhost)
    · rw [staleLeft_of_carriesNothing hcarry]
      exact le_staleLeft_session hblock
    · exact fun live _ => BusPc.fresh_of_carriesNothing hcarry
  | eventPopped | dirtyRead | bitmapCopied =>
    exact settles_of_nothing rfl (hsettles.of_outputPart rfl (le_refl _) fun _ _ => trivial)
  | replyWritten hhost =>
    exact settles_of_nothing rfl
      (hsettles.of_outputPart (Comm.outputPart_of_hostPart hhost) (le_refl _) fun _ _ => trivial)
  | dirtyCleared =>
    exact settles_of_nothing rfl
      (hsettles.of_outputPart (Comm.outputPart_clearDirty _ c) (le_refl _) fun _ _ => trivial)
  | snapshotPopped hqueue =>
    apply settles_of_nothing rfl
    obtain ⟨hlive, hsettled | hleft⟩ := hsettles
    · exact absurd (hqueue.symm.trans hsettled.queue) (by simp)
    · -- the snapshot leaves the queue and is on its way
      simp only [staleLeft, hqueue, List.length_cons] at hleft
      exact ⟨hlive, Or.inr hleft⟩
  | noSnapshot hqueue =>
    next nextBoard refresh =>
    apply settles_of_nothing rfl
    cases refresh with
    | true => exact hsettles.of_outputPart rfl (le_refl _) fun _ _ => trivial
    | false =>
      obtain ⟨hlive, hleft⟩ := hsettles
      refine ⟨hlive, ?_⟩
      have hnil : c.outputSnapshots = [] := hqueue rfl
      by_cases hhold : c.longestHold = 0
      · exact Or.inl ⟨hnil, hhold, trivial⟩
      · -- the copy still holds a coil
        rcases hleft with hsettled | hleft
        · exact absurd hsettled.hold hhold
        · right
          simp only [staleLeft, hnil, List.length_nil] at hleft ⊢
          omega
  | copied =>
    next nextBoard refresh snapshot =>
    apply settles_of_nothing rfl
    cases refresh with
    | true => exact hsettles.of_outputPart rfl (le_refl _) fun _ _ => trivial
    | false =>
      obtain ⟨hlive, hsettled | hleft⟩ := hsettles
      · refine ⟨hlive, Or.inl ⟨hsettled.queue, hsettled.hold, ?_⟩⟩
        cases snapshot with
        | some snapshot => exact False.elim hsettled.fresh
        | none => exact Comm.heldSnapshot_of_none hsettled.hold c.outputSnapshot
      · refine ⟨hlive, Or.inr ?_⟩
        have hown := Comm.longestHoldAfter_self c
        simp only [staleLeft] at hleft ⊢
        omega
  | written hsent hhost =>
    next nextBoard frame holdFrames =>
    have hsame := Comm.outputPart_of_hostPart hhost
    -- what is written is the frame
    show SettlesIn live (n - [frame].length) _ ∧ ∀ x ∈ [frame].drop n, x = live
    obtain ⟨hlive, hsettled | hleft⟩ := hsettles
    · have hframe : frame = live := hsettled.fresh.trans hlive
      refine ⟨⟨(congrArg Comm.outputSnapshot hsame :).trans hlive,
        Or.inl (hsettled.of_outputPart hsame trivial)⟩, ?_⟩
      intro x hx
      obtain rfl := List.mem_singleton.mp (List.mem_of_mem_drop hx)
      exact hframe
    · simp only [staleLeft] at hleft
      constructor
      · refine ⟨(congrArg Comm.outputSnapshot hsame :).trans hlive, Or.inr ?_⟩
        rw [staleLeft_outputPart hsame]
        simp only [staleLeft, List.length_singleton]
        omega
      · rw [List.drop_eq_nil_of_le (by simp only [List.length_singleton]; omega)]
        simp
  | consumed =>
    next nextBoard holdFrames =>
    have hcarry := BusPc.afterFrame_carriesNothing (P := P) nextBoard false
    apply settles_of_nothing (frameWritten_of_carriesNothing hcarry)
    have hhold := Comm.longestHold_consume c holdFrames
    obtain ⟨hlive, hsettled | hleft⟩ := hsettles
    · have hafter := Comm.longestHoldAfter_le c holdFrames
      have hzero : c.longestHold = 0 := hsettled.hold
      exact ⟨hlive, Or.inl ⟨hsettled.queue, by rw [hhold]; omega,
        BusPc.fresh_of_carriesNothing hcarry⟩⟩
    · refine ⟨hlive, Or.inr ?_⟩
      rw [staleLeft_of_carriesNothing hcarry, hhold]
      exact hleft

/-- **Step lemma**: as long as the application changes no output, every step
    counts down the stale frame it writes. -/
theorem settles_step {l : Label} (hsettles : SettlesIn live n s)
    (hquiet : l.changesOutput = false) (hstep : s.step E l = some s') :
    Settles live n s l s' := by
  by_cases hbus : l = .bus
  · subst hbus
    exact settles_bus hsettles hstep
  · have hnothing : frameWritten s l s' = [] := by
      unfold frameWritten
      simp [hbus]
    apply settles_of_nothing hnothing
    by_cases hevent : ∃ event, l = .queueEvent event
    · obtain ⟨event, rfl⟩ := hevent
      obtain rfl := step_queueEvent hstep
      obtain ⟨hlive, hleft⟩ := hsettles
      simp only [Label.changesOutput, Bool.or_eq_false_iff, beq_eq_false_iff_ne] at hquiet
      have heffect := Comm.queueEvent_effect E.port s.world event s.comm
      generalize s.comm.queueEvent E.port s.world event = c' at heffect ⊢
      -- no such event touches the live state, the queue or the counters
      cases heffect with
      | coil _ _ hsource => exact absurd hsource hquiet.1.1
      | level _ _ hsource =>
        rcases hsource with hsource | hsource
        · exact absurd hsource hquiet.1.2
        · exact absurd hsource hquiet.2
      | run | effect | ignored =>
        exact ⟨hlive, hleft.imp (fun h => ⟨h.queue, h.hold, h.fresh⟩) id⟩
    · obtain ⟨hpc, hsame⟩ := step_elsewhere hbus (fun event h => hevent ⟨event, h⟩) hstep
      apply hsettles.of_outputPart hsame
      · rw [hpc]
      · rw [hpc]
        exact fun live hfresh => hfresh

end steps

/-! ### The Frames of the Log -/

end Sys

/-- The output state that a whole frame of the log shows. -/
def BusEntry.shownState : BusEntry P → Option (QueuedOutputSnapshot P)
  | .written (.outputState _ _ _ _ snapshot) true => some snapshot
  | _ => none

/-- A switch refresh was handed to the port. -/
def BusEntry.isRefresh : BusEntry P → Bool
  | .written (.switchRefresh ..) _ => true
  | _ => false

/-- A frame that the port did not take whole. -/
def BusEntry.fails : BusEntry P → Bool
  | .written _ whole => !whole
  | .disputed => false

theorem BusEntry.breaksOff_of_fails {entry : BusEntry P} (h : entry.fails = false) :
    entry.breaksOff = false := by
  cases entry with
  | disputed => rfl
  | written frame whole =>
    cases whole with
    | true => cases frame <;> rfl
    | false => exact Bool.noConfusion h

/-- Without failures, an output frame shows the state or is a refresh. -/
theorem countP_isOutput {log : List (BusEntry P)} (hwhole : ∀ entry ∈ log, entry.fails = false) :
    log.countP BusEntry.isOutput =
      (log.filterMap BusEntry.shownState).length + log.countP BusEntry.isRefresh := by
  induction log with
  | nil => rfl
  | cons entry log ih =>
    have hrest := ih fun entry hentry => hwhole entry (List.mem_cons_of_mem _ hentry)
    have hfirst := hwhole entry List.mem_cons_self
    rw [List.countP_cons, List.countP_cons, List.filterMap_cons, hrest]
    cases entry with
    | disputed => rfl
    | written frame whole =>
      obtain rfl : whole = true := by simpa [BusEntry.fails] using hfirst
      cases frame with
      | outputState nextBoard sequence epoch config snapshot =>
        simp only [BusEntry.isOutput, BusFrame.isOutput, BusEntry.isRefresh, BusEntry.shownState,
          List.length_cons, if_true, Bool.false_eq_true, if_false]
        omega
      | switchRefresh nextBoard sequence epoch => rfl
      | trigger | setup | mapping | switchReply => rfl

namespace Comm

/-- Only `writeFrame` shows the output state. -/
theorem shownState_writtenBy (E : Env W) {pc : BusPc P}
    (hother : ∀ nextBoard frame holdFrames, pc ≠ .writeFrame nextBoard false frame holdFrames)
    (c : Comm P) (w : W) : (c.writtenBy E pc w).filterMap BusEntry.shownState = [] := by
  unfold writtenBy frameOf
  split
  · split <;> rfl
  · split <;> rfl
  · split <;> rfl
  · next nextBoard refresh frame holdFrames =>
    cases refresh with
    | true => split <;> rfl
    | false => exact absurd rfl (hother nextBoard frame holdFrames)
  · split <;> rfl
  · rfl

theorem portOpen_of_frameOf {nextBoard : UInt8} {refresh : Bool} {frame : QueuedOutputSnapshot P}
    {holdFrames : Vector Nat P.kMaxCoilBits} {c : Comm P} {sent : BusFrame P}
    (hsent : c.frameOf (.writeFrame nextBoard refresh frame holdFrames) = some sent) :
    c.portOpen = true := by
  simp only [frameOf] at hsent
  split at hsent
  · next hopen => exact hopen.1
  · cases hsent

theorem frameOf_writeFrame {nextBoard : UInt8} {frame : QueuedOutputSnapshot P}
    {holdFrames : Vector Nat P.kMaxCoilBits} {c : Comm P} {sent : BusFrame P}
    (hsent : c.frameOf (.writeFrame nextBoard false frame holdFrames) = some sent) :
    ∃ sequence epoch config, sent = .outputState nextBoard sequence epoch config frame := by
  simp only [frameOf, Bool.false_eq_true, if_false] at hsent
  split at hsent
  · obtain rfl := Option.some.inj hsent
    exact ⟨_, _, _, rfl⟩
  · cases hsent

end Comm

namespace Sys

variable {E : Env W} {s s' : Sys P W}

/-- The block that writes an output frame shows it if the port takes it. -/
theorem shownState_writeFrame {nextBoard : UInt8} {frame : QueuedOutputSnapshot P}
    {holdFrames : Vector Nat P.kMaxCoilBits} {c c' : Comm P} {pc' : BusPc P}
    {firmware firmware' : Option (FirmwareRequest × FirmwareStage)} {w w' : W}
    (hwritten : c.writeFrame E.port nextBoard false frame holdFrames w = (pc', c', w')) :
    (c.writtenBy E (.writeFrame nextBoard false frame holdFrames) w).filterMap
        BusEntry.shownState =
      frameWritten (⟨c, .writeFrame nextBoard false frame holdFrames, firmware, w⟩ : Sys P W) .bus
        ⟨c', pc', firmware', w'⟩ := by
  cases hframe : c.frameOf (.writeFrame nextBoard false frame holdFrames) with
  | none =>
    rw [Comm.writeFrame_of_closed E.port hframe w] at hwritten
    obtain ⟨rfl, rfl, rfl⟩ := by simpa using hwritten
    simp [Comm.writtenBy, hframe, frameWritten]
  | some sent =>
    obtain ⟨context, heq⟩ := Comm.writeFrame_of_open E.port E.sourceByte hframe w
    have hopen := Comm.portOpen_of_frameOf hframe
    obtain ⟨sequence, epoch, config, rfl⟩ := Comm.frameOf_writeFrame hframe
    generalize hbuffer : (BusFrame.outputState nextBoard sequence epoch config frame).bytes
      E.sourceByte = buffer at heq
    have hentries : c.writtenBy E (.writeFrame nextBoard false frame holdFrames) w =
        [.written (.outputState nextBoard sequence epoch config frame)
          (E.port.takes buffer w)] := by
      unfold Comm.writtenBy
      rw [hframe, ← hbuffer]
      rfl
    have htakes : (Comm.writeBytes E.port context buffer
        { c with
          sequence := c.sequence + 1
          lastOutputSequenceSent := buffer.getD 3 0 } w).1 = E.port.takes buffer w := by
      apply Comm.takes_writeBytes
      exact hopen
    rw [hentries, ← htakes]
    rw [heq] at hwritten
    -- the result of the write decides on both sides
    split at hwritten <;>
    · next hsent =>
      obtain ⟨rfl, rfl, rfl⟩ := by simpa using hwritten
      rw [hsent]
      rfl

/-- What a step shows on the bus is the frame it counts as written. -/
theorem shownState_step {l : Label} (hstep : s.step E l = some s') :
    (busEntries E s l s').filterMap BusEntry.shownState = frameWritten s l s' := by
  by_cases hbus : l = .bus
  · subst hbus
    unfold step at hstep
    obtain ⟨⟨pc', c', w'⟩, hblock, rfl⟩ := Option.map_eq_some_iff.mp hstep
    obtain ⟨c, pc, firmware, w⟩ := s
    have hdisputed : (disputedNow c.needSessionResync c'.needSessionResync :
        List (BusEntry P)).filterMap BusEntry.shownState = [] := by
      unfold disputedNow
      split <;> rfl
    show (c.writtenBy E pc w ++ disputedNow c.needSessionResync c'.needSessionResync).filterMap
      BusEntry.shownState = _
    rw [List.filterMap_append, hdisputed, List.append_nil]
    by_cases hwrite :
        ∃ nextBoard frame holdFrames, pc = .writeFrame nextBoard false frame holdFrames
    · obtain ⟨nextBoard, frame, holdFrames, rfl⟩ := hwrite
      exact shownState_writeFrame (Option.some.inj hblock)
    · rw [Comm.shownState_writtenBy E fun nextBoard frame holdFrames h =>
        hwrite ⟨nextBoard, frame, holdFrames, h⟩]
      unfold frameWritten
      split
      · next hpc _ => exact absurd ⟨_, _, _, hpc⟩ hwrite
      · rfl
  · unfold frameWritten busEntries
    cases l <;> simp_all

/-- The frames that a run writes are those that its log shows. -/
theorem framesWritten_eq (s : Sys P W) (ls : List Label) :
    framesWritten E s ls = (busLog E s ls).filterMap BusEntry.shownState := by
  unfold framesWritten busLog
  rw [Transition.filterMap_observe]
  exact Transition.observe_congr (fun s l s' hstep => (shownState_step hstep).symm) s ls

/-! ### Catching Up -/

/-- **Safety**: all frames behind the stale ones are the live state. -/
theorem live_behind_stale (s : Sys P W) {stretch : List Label}
    (hquiet : ∀ l ∈ stretch, l.changesOutput = false) :
    ∀ frame ∈ (framesWritten E s stretch).drop s.comm.staleFrames,
      frame = s.comm.outputSnapshot := by
  have hstart : SettlesIn s.comm.outputSnapshot s.comm.staleFrames s :=
    ⟨rfl, Or.inr (staleLeft_le s.comm s.bus)⟩
  exact Transition.forall_mem_drop_observe (Q := fun frame => frame = s.comm.outputSnapshot)
    (fun n t l hl t' hsettles hstep => settles_step hsettles (hquiet l hl) hstep) hstart

/-- **Outputs catch up**: in a stretch of a session in which the application
    changes no output, every frame behind the stale ones is the live state;
    and one is written, if the runtime stays enabled, no write fails and the
    bus thread has blocks enough for the stale frames, the refreshes and one
    more. -/
theorem outputs_catch_up (hnone : P.isValidBoard P.kNoBoard = true) {c : Comm P}
    (hopen : c.portOpen = true) (hvalid : P.isValidRuntimeConfig c.runtimeConfig = true)
    (hboards : ∀ board ∈ c.switchBoards, P.isValidBoard board = true) {w : W}
    {ls stretch : List Label} (hrun : Transition.exec (step E) (start E c w) ls = some s)
    (hstretch : Transition.exec (step E) s stretch = some s')
    (hquiet : ∀ l ∈ stretch, l.changesOutput = false) :
    (∀ frame ∈ (framesWritten E s stretch).drop s.comm.staleFrames,
      frame = s.comm.outputSnapshot) ∧
      (s.comm.runtimeEnabled = true → (∀ l ∈ stretch, l.stopsRuntime = false) →
        (∀ entry ∈ busLog E s stretch, entry.fails = false) →
        (s.comm.staleFrames + (busLog E s stretch).countP BusEntry.isRefresh + 1) *
          (c.mappingFrames.length + 108) ≤ stretch.count .bus →
        s.comm.staleFrames < (framesWritten E s stretch).length) := by
  refine ⟨live_behind_stale s hquiet, ?_⟩
  intro henabled hrunning hwhole hlong
  have hway := onTheWay_run hnone hopen hvalid hboards hrun
  have hcount : stretch.countP (· == .bus) ≤ s.bus.blocksLeft c.mappingFrames.length +
      (c.mappingFrames.length + 108) * (busLog E s stretch).countP BusEntry.isOutput := by
    refine Transition.countP_work_le
      (I := fun s => OnTheWay c.mappingFrames.length s ∧ s.comm.runtimeEnabled = true)
      BusEntry.isOutput (· == .bus) (fun s => s.bus.blocksLeft c.mappingFrames.length) ?_ ?_
      ⟨hway, henabled⟩ hstretch hwhole
    · intro s hI
      exact BusPc.blocksLeft_le hI.1.bounds
    · intro s l hl s' hI hstep hfine
      exact advances_step hnone hI (hrunning l hl) hstep
        fun entry hentry => BusEntry.breaksOff_of_fails (hfine entry hentry)
  have hrank := BusPc.blocksLeft_le hway.bounds
  have hkinds := countP_isOutput hwhole
  rw [← framesWritten_eq] at hkinds
  -- the blocks pay for so many output and refresh frames
  have hpaid : s.comm.staleFrames + (busLog E s stretch).countP BusEntry.isRefresh + 1 ≤
      (busLog E s stretch).countP BusEntry.isOutput := by
    have hbus : stretch.count .bus = stretch.countP (· == .bus) := rfl
    by_contra hfew
    have hmore := Nat.mul_le_mul_left (c.mappingFrames.length + 108) (Nat.not_le.mp hfew)
    rw [Nat.mul_comm] at hlong
    rw [Nat.mul_succ] at hmore
    omega
  omega

end Sys

namespace Reference

open Sys

/-- Coil 10 goes on and off again before the bus thread takes a block. -/
def pulse : List Label := [.queueEvent coilOn, .queueEvent coilOff]

/-- The host after that pulse: two snapshots are queued, the coil is held for
    three frames. -/
def pulsedSystem : Sys protocol Script :=
  { hastySystem with
    comm := (hastySystem.comm.queueEvent port hastySystem.world coilOn).queueEvent port
      hastySystem.world coilOff }

theorem outputs_catch_up_pulse :
    (∀ frame ∈ (framesWritten env pulsedSystem (List.replicate 555 .bus)).drop 4,
      frame = pulsedSystem.comm.outputSnapshot) ∧
      4 < (framesWritten env pulsedSystem (List.replicate 555 .bus)).length := by
  have hrun : Transition.exec (step env) (start env hastyComm hastySystem.world) pulse =
      some pulsedSystem := by
    rfl
  have hstretch :
      (Transition.exec (step env) pulsedSystem (List.replicate 555 .bus)).isSome = true := by
    decide +kernel
  obtain ⟨s', hs'⟩ := Option.isSome_iff_exists.mp hstretch
  have hcaught := outputs_catch_up (c := hastyComm) (by decide) rfl rfl (by decide +kernel) hrun hs'
    (by decide +kernel)
  have hstale : pulsedSystem.comm.staleFrames = 4 := by decide +kernel
  rw [hstale] at hcaught
  exact ⟨hcaught.1, hcaught.2 rfl (by decide +kernel) (by decide +kernel) (by decide +kernel)⟩

end Reference

end LibPpuc
