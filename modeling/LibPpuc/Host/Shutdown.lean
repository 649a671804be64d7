import LibPpuc.Host.Outputs

/-! # The Off Frames of `Disconnect`

  After the bus thread has ended, `Disconnect` clears all output state and
  sends it twice.  Other threads may queue events in between, and an event
  that turns an output on is seen by the next frame.

  Without such an event every frame that `Disconnect` sends is all off.
-/

namespace LibPpuc

namespace Comm

variable {P : Protocol} {W : Type}

/-- Every output is off and no coil is held. -/
structure OutputsOff (c : Comm P) : Prop where
  coils : c.coilBitmap = Vector.replicate _ 0
  holds : c.coilHoldFrames = Vector.replicate _ 0
  lamps : c.lampBitmap = Vector.replicate _ 0
  gi : c.giLevels = Vector.replicate _ 0

/-- The event turns an output on. -/
def turnsOutputOn (c : Comm P) (event : Event) : Bool :=
  match event.sourceId with
  | .solenoid =>
    event.value != 0 &&
      (c.coilNumberToIndex.lookup event.eventId).any fun index => decide (index < P.kMaxCoilBits)
  | .light =>
    event.value != 0 &&
      (c.lampNumberToIndex.lookup event.eventId).any fun index => decide (index < P.kMaxLampBits)
  | .gi =>
    decide (1 ≤ event.eventId.toNat ∧ event.eventId.toNat ≤ P.kGiStrings) &&
      P.clampGiLevel event.value != 0
  | _ => false

section off

variable {pos : Nat → Nat} {port : SerialPort W} {w : W} {c c' : Comm P}

theorem OutputsOff.of_store (h : c.OutputsOff) (hstore : c'.outputStore = c.outputStore) :
    c'.OutputsOff := by
  have hcoils : c'.coilBitmap = c.coilBitmap := (congrArg OutputStore.coilBitmap hstore :)
  have hholds : c'.coilHoldFrames = c.coilHoldFrames :=
    (congrArg OutputStore.coilHoldFrames hstore :)
  have hlamps : c'.lampBitmap = c.lampBitmap := (congrArg OutputStore.lampBitmap hstore :)
  have hgi : c'.giLevels = c.giLevels := (congrArg OutputStore.giLevels hstore :)
  exact ⟨hcoils.trans h.coils, hholds.trans h.holds, hlamps.trans h.lamps, hgi.trans h.gi⟩

theorem outputsOff_clearOutputState (c : Comm P) : c.clearOutputState.OutputsOff :=
  ⟨rfl, rfl, rfl, rfl⟩

/-- There is no counter to count down. -/
theorem OutputsOff.consume (h : c.OutputsOff) (holdFrames : Vector Nat P.kMaxCoilBits) :
    (c.consumeCoilHoldoverLocked holdFrames).OutputsOff := by
  refine ⟨h.coils, ?_, h.lamps, h.gi⟩
  apply Vector.ext
  intro i hi
  have hzero : c.coilHoldFrames[i] = 0 := by simp [h.holds]
  unfold consumeCoilHoldoverLocked
  simp [hzero]

/-- An event that turns no output on leaves all of them off. -/
theorem OutputsOff.queueEvent (hP : P.Lawful pos) (h : c.OutputsOff) {event : Event}
    (hevent : c.turnsOutputOn event = false) : (c.queueEvent port w event).OutputsOff := by
  unfold Comm.queueEvent
  unfold turnsOutputOn at hevent
  cases hsource : event.sourceId with
  | solenoid =>
    rw [hsource] at hevent
    dsimp only at hevent ⊢
    split
    · next index hlookup =>
      split
      · next hindex =>
        -- a mapped coil goes off
        rw [hlookup] at hevent
        have hvalue : (event.value != 0) = false := by simpa [hindex] using hevent
        obtain ⟨log, hpushed⟩ :=
          queueOutputSnapshotLocked_eq port w (c.setCoil index (event.value != 0))
        rw [hpushed, hvalue]
        refine ⟨?_, h.holds, h.lamps, h.gi⟩
        show P.bits.set c.coilBitmap index false = _
        rw [h.coils, BitAccess.set_false_replicate_zero hP.bits]
      · exact h
    · exact h
  | light =>
    rw [hsource] at hevent
    dsimp only at hevent ⊢
    split
    · next index hlookup =>
      split
      · next hindex =>
        rw [hlookup] at hevent
        have hvalue : (event.value != 0) = false := by simpa [hindex] using hevent
        refine ⟨h.coils, h.holds, ?_, h.gi⟩
        dsimp only
        rw [hvalue, h.lamps, BitAccess.set_false_replicate_zero hP.bits]
      · exact h
    · exact h
  | gi =>
    rw [hsource] at hevent
    dsimp only at hevent ⊢
    split
    · next hstring =>
      have hlevel : P.clampGiLevel event.value = 0 := by simpa [hstring] using hevent
      refine ⟨h.coils, h.holds, h.lamps, ?_⟩
      dsimp only
      rw [hlevel, h.gi]
      apply Vector.ext
      intro i hi
      simp
    · exact h
  | run => exact ⟨h.coils, h.holds, h.lamps, h.gi⟩
  | readSwitches => exact h
  | effect =>
    dsimp only
    split
    · exact h
    · exact ⟨h.coils, h.holds, h.lamps, h.gi⟩
  | other _ => exact h

/-- Without a held coil the copied state goes out as it is. -/
theorem OutputsOff.heldSnapshot (h : c.OutputsOff) :
    c.heldSnapshot c.outputSnapshot =
      { coilBitmap := Vector.replicate _ 0
        lampBitmap := Vector.replicate _ 0
        giLevels := Vector.replicate _ 0 } := by
  have hnone : ∀ (is : List Nat) (coils : Vector UInt8 P.kMaxCoilBytes),
      is.foldl (fun coils i =>
        if holdAt c.coilHoldFrames i = 0 then coils else P.bits.set coils i true) coils =
          coils := by
    intro is
    induction is with
    | nil => exact fun coils => rfl
    | cons i is ih =>
      intro coils
      have hzero : holdAt c.coilHoldFrames i = 0 := by
        rw [h.holds]
        unfold holdAt
        rw [Vector.getElem?_replicate]
        split <;> rfl
      rw [List.foldl_cons, if_pos hzero, ih]
  unfold Comm.heldSnapshot applyCoilHoldover
  rw [hnone]
  unfold Comm.outputSnapshot
  rw [h.coils, h.lamps, h.gi]

end off

end Comm

namespace Host

variable {P : Protocol} {W : Type}

/-- The buffers of the output frame that a step of `Disconnect` sends. -/
def offFrame (s : Host P W) (l : HostLabel) (_ : Host P W) : List (QueuedOutputSnapshot P) :=
  match l, s.app with
  | .app, .sendingOff _ =>
    if s.comm.portOpen ∧ P.isValidRuntimeConfig s.comm.runtimeConfig ∧
        P.isValidBoard P.kNoBoard then
      [s.comm.heldSnapshot s.comm.outputSnapshot]
    else []
  | _, _ => []

/-- The output frames that `Disconnect` sends in a run. -/
def offFrames (E : HostEnv W) (s : Host P W) (ls : List HostLabel) :
    List (QueuedOutputSnapshot P) :=
  Transition.observe (step E) offFrame s ls

/-- All coils, lamps and GI strings are off in the frame. -/
def AllOff (frame : QueuedOutputSnapshot P) : Prop :=
  frame.coilBitmap = Vector.replicate _ 0 ∧ frame.lampBitmap = Vector.replicate _ 0 ∧
    frame.giLevels = Vector.replicate _ 0

instance (frame : QueuedOutputSnapshot P) : Decidable (AllOff frame) :=
  inferInstanceAs (Decidable (_ ∧ _ ∧ _))

/-- An event turns an output on after `ClearOutputState` and before the last
    off frame. -/
def lightsUp (E : HostEnv W) (s : Host P W) (l : HostLabel) : Bool :=
  s.sendsOff && (s.queuedEvent E l).any s.comm.turnsOutputOn

/-- No such event in the run. -/
def StaysDark (E : HostEnv W) (s : Host P W) (ls : List HostLabel) : Prop :=
  Transition.Along (step E) (fun s l => s.lightsUp E l = false) s ls

instance (E : HostEnv W) (s : Host P W) (ls : List HostLabel) : Decidable (StaysDark E s ls) :=
  inferInstanceAs (Decidable (Transition.Along _ _ _ _))

/-- Everything is off while off frames are still to be sent. -/
def Dark (s : Host P W) : Prop := s.sendsOff = true → s.comm.OutputsOff

section dark

variable {pos : Nat → Nat} {E : HostEnv W} {s s' : Host P W}

theorem outputsOff_bus {pc pc' : BusPc P} {c' : Comm P} (h : s.comm.OutputsOff)
    (heffect : Comm.BusEffect E.port s.comm s.world pc pc' c') : c'.OutputsOff := by
  generalize s.comm = c at h heffect
  cases heffect with
  | session hblock hcarry hhost => exact h.of_store (Comm.outputStore_of_hostPart hhost)
  | eventPopped => exact ⟨h.coils, h.holds, h.lamps, h.gi⟩
  | snapshotPopped => exact ⟨h.coils, h.holds, h.lamps, h.gi⟩
  | noSnapshot => exact h
  | copied => exact h
  | written hsent hhost => exact h.of_store (Comm.outputStore_of_hostPart hhost)
  | consumed => exact h.consume _
  | dirtyRead => exact h
  | bitmapCopied => exact h
  | replyWritten hhost => exact h.of_store (Comm.outputStore_of_hostPart hhost)
  | dirtyCleared =>
    exact h.of_store (Comm.outputStore_of_outputPart (Comm.outputPart_clearDirty _ _))

/-- **Step lemma**: outputs that are off stay off unless an event turns one
    on. -/
theorem dark_step (hP : P.Lawful pos) {l : HostLabel} (h : s.Dark)
    (hguard : s.lightsUp E l = false) (hstep : s.step E l = some s') : s'.Dark := by
  intro hsends
  cases step_outputEffect hstep with
  | bus hthread hthreads happ heffect =>
    have hbefore : s.sendsOff = true := by
      unfold sendsOff at hsends ⊢
      rwa [happ] at hsends
    exact outputsOff_bus (h hbefore) heffect
  | event hevent hthreads happ hcomm =>
    next event =>
    have hbefore : s.sendsOff = true := happ ▸ hsends
    have hdark : s.comm.turnsOutputOn event = false := by
      unfold lightsUp at hguard
      rw [hbefore, hevent] at hguard
      exact hguard
    rw [hcomm]
    exact (h hbefore).queueEvent hP hdark
  | installed hmapping hthreads happ hstore => exact Bool.noConfusion (happ.symm.trans hsends)
  | snapshotsCleared hblock hthreads happ hstore =>
    exact Bool.noConfusion (happ.symm.trans hsends)
  | outputCleared hblock hthreads hcomm =>
    rw [hcomm]
    exact Comm.outputsOff_clearOutputState s.comm
  | started hblock hthreads happ hstore => exact Bool.noConfusion (happ.symm.trans hsends)
  | quiet hl hthreads happ hstore => exact (h (happ hsends)).of_store hstore

theorem offFrame_allOff (h : s.Dark) {l : HostLabel} :
    ∀ frame ∈ offFrame s l s', AllOff frame := by
  intro frame hmem
  unfold offFrame at hmem
  split at hmem
  · next happ =>
    have hsends : s.sendsOff = true := by
      unfold sendsOff
      rw [happ]
    split at hmem
    · obtain rfl := List.mem_singleton.mp hmem
      rw [(h hsends).heldSnapshot]
      exact ⟨rfl, rfl, rfl⟩
    · exact nomatch hmem
  · exact nomatch hmem

/-- **The off frames.**  From any state in which no off frame is due yet, in
    every run in which no event turns an output on between `ClearOutputState`
    and the last off frame, each output frame that `Disconnect` sends is all
    off. -/
theorem disconnect_leaves_outputs_off (hP : P.Lawful pos) (E : HostEnv W) (s : Host P W)
    (ls : List HostLabel) (hstart : s.sendsOff = false) (hguard : StaysDark E s ls) :
    ∀ frame ∈ offFrames E s ls, AllOff frame := by
  have hdark : s.Dark := fun hsends => Bool.noConfusion (hstart.symm.trans hsends)
  have hstep : ∀ (s : Host P W) l s', s.Dark → s.lightsUp E l = false →
      s.step E l = some s' → s'.Dark ∧ ∀ frame ∈ offFrame s l s', AllOff frame :=
    fun s l s' h hallowed hnext => ⟨dark_step hP h hallowed hnext, offFrame_allOff h⟩
  exact Transition.forall_mem_observe hstep hdark hguard

end dark

end Host

namespace Reference

open Host

/-- The law fails when a coil goes on after `ClearOutputState`: both off
    frames carry it. -/
theorem late_event_energises :
    ¬ ∀ (ls : List HostLabel), ∀ frame ∈ offFrames hostEnv host ls, AllOff frame := by
  intro h
  exact absurd (h (connectWith (document []) ++ disconnectThread 0 ++ [solenoidOn] ++
    sendOffFrames)) (by decide +kernel)

/-- A coil that is on when `Disconnect` is called goes off. -/
theorem energised_coil_goes_off :
    (offFrames hostEnv host
        (connectWith (document []) ++ [solenoidOn] ++ firstFrame 0 ++ [.bus 0] ++
          disconnectThread 0 ++ sendOffFrames)).length = 2 ∧
      ∀ frame ∈ offFrames hostEnv host
          (connectWith (document []) ++ [solenoidOn] ++ firstFrame 0 ++ [.bus 0] ++
            disconnectThread 0 ++ sendOffFrames), AllOff frame :=
  ⟨by decide +kernel,
    disconnect_leaves_outputs_off protocol_lawful hostEnv host _ rfl (by decide +kernel)⟩

end Reference

end LibPpuc
