import LibPpuc.Runtime.Blocks
import LibPpuc.Reference

/-! # Coil Pulse Holdover

  An on event for a coil sets its hold counter to N.  The next N output
  frames whose copy is made after the event shall carry the coil, whatever
  off events follow.

  The counter is counted down after the write, for the coils that the
  frame's own copy of the counters held.  So a frame that was copied before
  the event and is written after it takes one count from the new pulse.
  The result: without such a frame the law holds along every run.
-/

namespace LibPpuc

namespace Sys

variable {P : Protocol} {W : Type}

/-! ### Frames and Their Copies -/

/-- The output frame that a step wrote with success. -/
def frameWritten (s : Sys P W) (l : Label) (s' : Sys P W) : List (QueuedOutputSnapshot P) :=
  match l, s.bus, s'.bus with
  | .bus, .writeFrame _ false frame _, .consumeHoldover _ _ => [frame]
  | _, _, _ => []

/-- A step that copies the output state for the next frame. -/
def copiesState (s : Sys P W) (l : Label) : Bool :=
  match l, s.bus with
  | .bus, .copyState .. => true
  | _, _ => false

/-- The system with a flag that a copy step sets. -/
def stepMarked (E : Env W) : Sys P W × Bool → Label → Option (Sys P W × Bool) :=
  Transition.instrument (step E) fun s copied l _ => copied || s.copiesState l

/-- The frames written in a run whose copy step is in the run as well. -/
def framesCopiedIn (E : Env W) (s : Sys P W) (ls : List Label) : List (QueuedOutputSnapshot P) :=
  Transition.observe (stepMarked E)
    (fun p l p' => if p.2 then frameWritten p.1 l p'.1 else []) (s, false) ls

/-- A frame that was copied before the run started takes a count of coil `i`:
    it held the coil and now reaches its countdown. -/
def takesCountFromOutside (i : Nat) (p : Sys P W × Bool) (l : Label) : Bool :=
  match l, p.1.bus, p.2 with
  | .bus, .consumeHoldover _ holdFrames, false => holdAt holdFrames i != 0
  | _, _, _ => false

/-- No step of the run takes a count of coil `i` for an older frame. -/
def NoCountFromOutside (E : Env W) (i : Nat) (s : Sys P W) (ls : List Label) : Prop :=
  Transition.Along (stepMarked E) (fun p l => takesCountFromOutside i p l = false) (s, false) ls

instance (E : Env W) (i : Nat) (s : Sys P W) (ls : List Label) :
    Decidable (NoCountFromOutside E i s ls) :=
  inferInstanceAs (Decidable (Transition.Along _ _ _ _))

/-- The event is an on event for coil `i`. -/
structure TurnsOn (c : Comm P) (event : Event) (i : Nat) : Prop where
  source : event.sourceId = .solenoid
  value : event.value ≠ 0
  mapped : c.coilNumberToIndex.lookup event.eventId = some i
  inBuffer : i < P.kMaxCoilBits
  configured : i < c.runtimeConfig.coilBits

/-- Every frame of the list carries coil `i`. -/
def AllCarry (i : Nat) (frames : List (QueuedOutputSnapshot P)) : Prop :=
  ∀ frame ∈ frames, P.bits.get frame.coilBitmap i = true

instance (i : Nat) (frames : List (QueuedOutputSnapshot P)) : Decidable (AllCarry i frames) :=
  inferInstanceAs (Decidable (∀ frame ∈ frames, P.bits.get frame.coilBitmap i = true))

/-! ### The Invariant -/

/-- How many more frames are sure to hold coil `i`; a re-trigger sets the
    counter back to the full count. -/
def holdLeft (c : Comm P) (i : Nat) : Nat :=
  min (holdAt c.coilHoldFrames i) c.coilHoldFrameCount.toNat

/-- `r` frames are still owed to coil `i`. -/
def Owed (i r : Nat) (p : Sys P W × Bool) : Prop :=
  i < p.1.comm.heldCoilBits ∧
    match p.1.bus, p.2 with
    | .writeFrame _ false frame _, true =>
      r ≤ holdLeft p.1.comm i ∧ (r ≠ 0 → P.bits.get frame.coilBitmap i = true)
    -- the frame that is about to be counted is no longer owed
    | .consumeHoldover _ _, true => r ≤ holdLeft p.1.comm i - 1
    | _, _ => r ≤ holdLeft p.1.comm i

section invariant

variable {pos : Nat → Nat} {E : Env W} {i r : Nat} {p p' : Sys P W × Bool}

theorem holdLeft_eq {c c' : Comm P} (h : c'.outputPart = c.outputPart) :
    holdLeft c' i = holdLeft c i ∧ c'.heldCoilBits = c.heldCoilBits := by
  have hframes : c'.coilHoldFrames = c.coilHoldFrames := (congrArg Comm.coilHoldFrames h :)
  have hcount : c'.coilHoldFrameCount = c.coilHoldFrameCount :=
    (congrArg Comm.coilHoldFrameCount h :)
  have hconfig : c'.runtimeConfig = c.runtimeConfig := (congrArg Comm.runtimeConfig h :)
  unfold holdLeft Comm.heldCoilBits
  rw [hframes, hcount, hconfig]
  exact ⟨rfl, rfl⟩

theorem Owed.le (h : Owed i r p) : r ≤ holdLeft p.1.comm i := by
  obtain ⟨-, h⟩ := h
  split at h <;> omega

/-- Between the blocks that carry a frame, only the counter matters. -/
theorem owed_of_le (hbits : i < p.1.comm.heldCoilBits) (hle : r ≤ holdLeft p.1.comm i)
    (hcarry : p.1.bus.carriesNothing = true) : Owed i r p := by
  refine ⟨hbits, ?_⟩
  split
  · next heq _ =>
    rw [heq] at hcarry
    exact Bool.noConfusion hcarry
  · next heq _ =>
    rw [heq] at hcarry
    exact Bool.noConfusion hcarry
  · exact hle

/-- A longer hold does not hurt while the bus thread stands still. -/
theorem Owed.mono (h : Owed i r p) (hbus : p'.1.bus = p.1.bus) (hflag : p'.2 = p.2)
    (hbits : p'.1.comm.heldCoilBits = p.1.comm.heldCoilBits)
    (hle : holdLeft p.1.comm i ≤ holdLeft p'.1.comm i) : Owed i r p' := by
  obtain ⟨hi, h⟩ := h
  refine ⟨hbits ▸ hi, ?_⟩
  rw [hbus, hflag]
  split at h
  · exact ⟨h.1.trans hle, h.2⟩
  · exact h.trans (Nat.sub_le_sub_right hle 1)
  · exact h.trans hle

/-- An event never shortens the hold: a coil that is set again starts anew. -/
theorem holdLeft_queueEvent (port : SerialPort W) (w : W) (event : Event) (c : Comm P) :
    holdLeft c i ≤ holdLeft (c.queueEvent port w event) i ∧
      (c.queueEvent port w event).heldCoilBits = c.heldCoilBits := by
  have heffect := Comm.queueEvent_effect port w event c
  generalize c.queueEvent port w event = c' at heffect ⊢
  cases heffect with
  | coil index log hsource hlookup hindex =>
    refine ⟨?_, rfl⟩
    show min _ _ ≤ min (holdAt (c.setCoil index (event.value != 0)).coilHoldFrames i) _
    rw [Comm.holdAt_setCoil c index i _ hindex]
    split
    · exact (Nat.min_le_right _ _).trans (le_of_eq (Nat.min_self _).symm)
    · exact le_refl _
  | level => exact ⟨le_refl _, rfl⟩
  | run => exact ⟨le_refl _, rfl⟩
  | effect => exact ⟨le_refl _, rfl⟩
  | ignored => exact ⟨le_refl _, rfl⟩

/-- A countdown takes at most one count, and only if the frame held the coil. -/
theorem holdLeft_consume (c : Comm P) (holdFrames : Vector Nat P.kMaxCoilBits) :
    holdLeft c i - 1 ≤ holdLeft (c.consumeCoilHoldoverLocked holdFrames) i ∧
      (holdAt holdFrames i = 0 →
        holdLeft (c.consumeCoilHoldoverLocked holdFrames) i = holdLeft c i) := by
  have hat := Comm.holdAt_consume c holdFrames i
  unfold holdLeft
  rw [hat]
  show _ ≤ min _ c.coilHoldFrameCount.toNat ∧ (_ → min _ c.coilHoldFrameCount.toNat = _)
  constructor
  · split <;> omega
  · intro hzero
    rw [if_neg (fun h => h.2 hzero)]

/-- A frame that is copied while counts are left carries the coil. -/
theorem copied_frame_carries (hP : P.Lawful pos) (c : Comm P)
    (snapshot : QueuedOutputSnapshot P) (hbits : i < c.heldCoilBits) (hle : r ≤ holdLeft c i)
    (hr : r ≠ 0) : P.bits.get (c.heldSnapshot snapshot).coilBitmap i = true := by
  have hheld : holdAt c.coilHoldFrames i ≠ 0 := by
    unfold holdLeft at hle
    omega
  have hi : i < P.kMaxCoilBits := lt_of_lt_of_le hbits (Nat.min_le_right _ _)
  unfold Comm.heldSnapshot
  rw [Comm.get_applyCoilHoldover hP c snapshot.coilBitmap c.coilHoldFrames hi]
  simp [hbits, hheld]

/-! ### One Step -/

/-- What a step shows of the frames that count. -/
def shown (p : Sys P W × Bool) (l : Label) (p' : Sys P W × Bool) :
    List (QueuedOutputSnapshot P) :=
  if p.2 then frameWritten p.1 l p'.1 else []

/-- The step pays what it shows: the shown frame carries the coil, and one
    frame less is owed. -/
structure Pays (i r : Nat) (p : Sys P W × Bool) (l : Label) (p' : Sys P W × Bool) : Prop where
  carries : AllCarry i ((shown p l p').take r)
  owed : Owed i (r - (shown p l p').length) p'

theorem pays_of_shown_nil {l : Label} (hshown : shown p l p' = []) (howed : Owed i r p') :
    Pays i r p l p' := by
  constructor
  · rw [hshown]
    simp [AllCarry]
  · rw [hshown]
    exact howed

theorem shown_of_carriesNothing {l : Label} (hcarry : p'.1.bus.carriesNothing = true) :
    shown p l p' = [] := by
  unfold shown frameWritten
  split
  · split
    · next heq =>
      rw [heq] at hcarry
      exact Bool.noConfusion hcarry
    · rfl
  · rfl

theorem pays_bus (hP : P.Lawful pos) (h : Owed i r p)
    (hguard : takesCountFromOutside i p .bus = false) (hstep : p.1.step E .bus = some p'.1)
    (hflag : p'.2 = (p.2 || p.1.copiesState .bus)) : Pays i r p .bus p' := by
  obtain ⟨⟨c, pc, firmware, w⟩, copied⟩ := p
  obtain ⟨⟨c', pc', firmware', w'⟩, copied'⟩ := p'
  obtain ⟨heffect, -⟩ := step_bus hstep
  dsimp only at heffect hflag
  have hbits := h.1
  have hle := h.le
  dsimp only at hbits hle
  cases heffect with
  | session hblock hcarry hhost =>
    have hsame := holdLeft_eq (i := i) (Comm.outputPart_of_hostPart hhost)
    refine pays_of_shown_nil (shown_of_carriesNothing hcarry) (owed_of_le ?_ ?_ hcarry)
    · exact hsame.2 ▸ hbits
    · exact hsame.1 ▸ hle
  | eventPopped => exact pays_of_shown_nil (by simp [shown, frameWritten]) ⟨hbits, hle⟩
  | snapshotPopped => exact pays_of_shown_nil (by simp [shown, frameWritten]) ⟨hbits, hle⟩
  | noSnapshot => exact pays_of_shown_nil (by simp [shown, frameWritten]) ⟨hbits, hle⟩
  | copied =>
    refine pays_of_shown_nil (by simp [shown, frameWritten]) ⟨hbits, ?_⟩
    split
    · next heq _ =>
      obtain ⟨-, -, rfl, -⟩ := by simpa using heq
      exact ⟨hle, fun hr => copied_frame_carries hP c _ hbits hle hr⟩
    · next heq _ => exact nomatch heq
    · exact hle
  | written hsent hhost =>
    obtain ⟨hleft, hheld⟩ := holdLeft_eq (i := i) (Comm.outputPart_of_hostPart hhost)
    cases copied with
    | true =>
      obtain ⟨-, hframe⟩ := h
      obtain rfl : copied' = true := hflag
      -- the written frame is one of those that are owed
      constructor
      · intro frame hmem
        have hr : r ≠ 0 := by
          intro heq
          subst heq
          simp at hmem
        have hone := List.mem_of_mem_take hmem
        obtain rfl := by simpa [shown, frameWritten] using hone
        exact hframe.2 hr
      · refine ⟨hheld ▸ hbits, ?_⟩
        show r - 1 ≤ holdLeft c' i - 1
        omega
    | false =>
      -- a frame copied before the event does not count
      obtain rfl : copied' = false := hflag
      refine pays_of_shown_nil rfl ⟨hheld ▸ hbits, ?_⟩
      show r ≤ holdLeft c' i
      omega
  | consumed =>
    next nextBoard holdFrames =>
    have hcarry := BusPc.afterFrame_carriesNothing (P := P) nextBoard false
    refine pays_of_shown_nil (shown_of_carriesNothing hcarry) (owed_of_le hbits ?_ hcarry)
    obtain ⟨hless, hsame⟩ := holdLeft_consume (i := i) c holdFrames
    cases copied with
    | true => exact h.2.trans hless
    | false =>
      -- the guard: an older frame did not hold the coil
      have hzero : holdAt holdFrames i = 0 := by simpa [takesCountFromOutside] using hguard
      exact hsame hzero ▸ hle
  | dirtyRead => exact pays_of_shown_nil (by simp [shown, frameWritten]) ⟨hbits, hle⟩
  | bitmapCopied => exact pays_of_shown_nil (by simp [shown, frameWritten]) ⟨hbits, hle⟩
  | replyWritten hhost =>
    obtain ⟨hleft, hheld⟩ := holdLeft_eq (i := i) (Comm.outputPart_of_hostPart hhost)
    refine pays_of_shown_nil (by simp [shown, frameWritten]) ⟨hheld ▸ hbits, ?_⟩
    exact hleft ▸ hle
  | dirtyCleared =>
    next _ board _ _ _ =>
    obtain ⟨hleft, hheld⟩ := holdLeft_eq (i := i) (Comm.outputPart_clearDirty board c)
    refine pays_of_shown_nil (by simp [shown, frameWritten]) ⟨hheld ▸ hbits, ?_⟩
    exact hleft ▸ hle

/-- **Step lemma**: every step that the guard allows pays what it shows. -/
theorem pays_step (hP : P.Lawful pos) {l : Label} (h : Owed i r p)
    (hguard : takesCountFromOutside i p l = false) (hstep : stepMarked E p l = some p') :
    Pays i r p l p' := by
  obtain ⟨hsys, hflag⟩ := Transition.instrument_some.mp hstep
  -- frames are shown by the bus thread only
  by_cases hbus : l = .bus
  · subst hbus
    exact pays_bus hP h hguard hsys hflag
  · have hnothing : shown p l p' = [] := by
      unfold shown frameWritten
      simp [hbus]
    have hflag' : p'.2 = p.2 := by
      rw [hflag]
      unfold copiesState
      simp [hbus]
    apply pays_of_shown_nil hnothing
    by_cases hevent : ∃ event, l = .queueEvent event
    · obtain ⟨event, rfl⟩ := hevent
      have heq := step_queueEvent hsys
      obtain ⟨hle, hbits⟩ :=
        holdLeft_queueEvent (i := i) E.port p.1.world event p.1.comm
      exact h.mono (by rw [heq]) hflag' (by rw [heq]; exact hbits) (by rw [heq]; exact hle)
    · obtain ⟨hpc, houtput⟩ :=
        step_elsewhere hbus (fun event h => hevent ⟨event, h⟩) hsys
      obtain ⟨hle, hbits⟩ := holdLeft_eq (i := i) houtput
      exact h.mono hpc hflag' hbits (le_of_eq hle.symm)

end invariant

/-! ### Whole Runs -/

section runs

variable {pos : Nat → Nat} {E : Env W}

/-- **Run lemma**: the frames a run shows pay what is owed at its start. -/
theorem owed_run (hP : P.Lawful pos) (i r : Nat) (ls : List Label) (p : Sys P W × Bool)
    (h : Owed i r p)
    (hguard : Transition.Along (stepMarked E)
      (fun p l => takesCountFromOutside i p l = false) p ls) :
    AllCarry i ((Transition.observe (stepMarked E) shown p ls).take r) := by
  refine Transition.forall_mem_take_observe (I := Owed i) ?_ h hguard
  intro r p l p' howed hallowed hstep
  have hpays := pays_step hP howed hallowed hstep
  exact ⟨hpays.owed, hpays.carries⟩

/-- Right after an on event all frames of the pulse are owed. -/
theorem owed_of_turnsOn {s s' : Sys P W} {event : Event} {i : Nat}
    (hon : TurnsOn s.comm event i) (hstep : s.step E (.queueEvent event) = some s') :
    Owed i s.comm.coilHoldFrameCount.toNat (s', false) := by
  obtain rfl := step_queueEvent hstep
  have hvalue : (event.value != 0) = true := bne_iff_ne.mpr hon.value
  have hcoil := Comm.queueEvent_coil E.port s.world hon.source hon.mapped hon.inBuffer
  obtain ⟨log, heq⟩ :=
    Comm.queueOutputSnapshotLocked_eq E.port s.world (s.comm.setCoil i (event.value != 0))
  rw [heq, hvalue] at hcoil
  have hbits : i < s.comm.heldCoilBits := Nat.lt_min.mpr ⟨hon.configured, hon.inBuffer⟩
  constructor
  · rw [hcoil]
    exact hbits
  · -- the event sets the counter to the full count
    have hleft : holdLeft (s.comm.queueEvent E.port s.world event) i =
        s.comm.coilHoldFrameCount.toNat := by
      rw [hcoil]
      show min (holdAt (s.comm.setCoil i true).coilHoldFrames i) _ = _
      rw [Comm.holdAt_setCoil s.comm i i true hon.inBuffer, if_pos ⟨rfl, rfl⟩]
      exact Nat.min_self _
    split
    · next heq => exact nomatch heq
    · next heq => exact nomatch heq
    · exact le_of_eq hleft.symm

/-- **Pulse holdover.**  After an on event for coil `i`, in every run of the
    bus thread and all other threads in which no older frame takes a count
    of the coil, the first N frames that are copied and written in the run
    carry the coil.  The hold count N is fixed along a run. -/
theorem pulse_held (hP : P.Lawful pos) (s s' : Sys P W) (event : Event) (i : Nat)
    (ls : List Label) (hon : TurnsOn s.comm event i)
    (hevent : s.step E (.queueEvent event) = some s')
    (hguard : NoCountFromOutside E i s' ls) :
    AllCarry i ((framesCopiedIn E s' ls).take s.comm.coilHoldFrameCount.toNat) :=
  owed_run hP i _ ls (s', false) (owed_of_turnsOn hon hevent) hguard

end runs

end Sys

namespace Reference

open Sys

/-- A pulse whose first frame is copied when the coil goes off and on again. -/
def retriggered : List Label :=
  .queueEvent coilOn :: List.replicate 6 .bus ++ [.queueEvent coilOff]

/-- The pulse ends, the old frame goes out, then three more. -/
def afterRetrigger : List Label :=
  .queueEvent coilOff :: List.replicate 2 .bus ++ outputCycle ++ outputCycle ++ outputCycle

/-- The law fails for a coil that is set again while a frame that holds it
    is on its way: of the next three frames only two carry the coil. -/
theorem retriggered_pulse_cut :
    ¬ ∀ (before after : List Label) (s s' : Sys protocol Script) (event : Event) (i : Nat),
        Transition.exec (step env) system before = some s → TurnsOn s.comm event i →
        s.step env (.queueEvent event) = some s' →
        AllCarry i ((framesCopiedIn env s' after).take s.comm.coilHoldFrameCount.toNat) := by
  intro h
  have hcut := h retriggered afterRetrigger _ _ coilOn 0 rfl
    ⟨rfl, by decide, by decide +kernel, by decide, by decide⟩ rfl
  exact absurd hcut (by decide +kernel)

/-- A pulse without a re-trigger: all three frames carry the coil. -/
theorem first_pulse_held :
    AllCarry 0 ((framesCopiedIn env
      { system with comm := system.comm.queueEvent port {} coilOn }
      (.queueEvent coilOff :: outputCycle ++ outputCycle ++ outputCycle)).take 3) :=
  pulse_held protocol_lawful system _ coilOn 0 _
    ⟨rfl, by decide, by decide +kernel, by decide, by decide⟩ rfl (by decide +kernel)

end Reference

end LibPpuc
