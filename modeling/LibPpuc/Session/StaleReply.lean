import LibPpuc.Runtime.Blocks
import LibPpuc.Reference

/-! # Stale Switch Replies

  A switch reply echoes the epoch and the host sequence it answers to.  A
  reply that was delayed into a later cycle or session shall change nothing.

  `ReceiveSwitchStateFrame` asks for a resync when an echo does not match,
  and then goes on and applies the bitmap.  The result is exact: along a run
  all changes come from fresh frames if and only if every stale state frame
  that is accepted agrees with the host's bitmap on the bits it may set.
-/

namespace LibPpuc

namespace Comm

variable {P : Protocol} {W : Type}

/-! ### What a Reply Changes -/

/-- The state frame that `ReceiveSwitchStateFrame` applies. -/
def acceptedState (port : SerialPort W) (r : SwitchReply) (c : Comm P) (w : W) :
    Option SwitchFrame :=
  if c.portOpen ∧ P.isValidRuntimeConfig c.runtimeConfig then
    match (c.awaitSwitchFrame port (port.window c.switchReplyWindowUs w) false r.hadState
        w).frame with
    | some f =>
      if f.receivedCrc = f.calculatedCrc P ∧ f.frameType = .switchState then some f else none
    | none => none
  else none

/-- The frame answers the current epoch and the last output frame. -/
def Fresh (c : Comm P) (f : SwitchFrame) : Prop :=
  f.epochSeen P = c.epoch ∧ f.lastHostSequenceSeen P = c.lastOutputSequenceSent

instance (c : Comm P) (f : SwitchFrame) : Decidable (c.Fresh f) :=
  inferInstanceAs (Decidable (_ ∧ _))

/-- The bytes of a switch bitmap on the wire. -/
def switchBytes (c : Comm P) : Nat := P.bitsToBytes c.runtimeConfig.switchBits

/-- The frame agrees with the host on every bit that a reply of `board` may
    set: those under its mask, or all for a board without one. -/
def AgreesOn (c : Comm P) (board : UInt8) (f : SwitchFrame) : Prop :=
  ∀ (k : Nat) (hk : k < P.kMaxSwitchBytes), k < c.switchBytes →
    match c.maskOf board with
    | some mask => (f.bitmap P)[k] &&& mask[k] = c.switchBitmap[k] &&& mask[k]
    | none => (f.bitmap P)[k] = c.switchBitmap[k]

instance (c : Comm P) (board : UInt8) (f : SwitchFrame) : Decidable (c.AgreesOn board f) :=
  match hmask : c.maskOf board with
  | some mask =>
    decidable_of_iff (∀ (k : Nat) (hk : k < P.kMaxSwitchBytes), k < c.switchBytes →
      (f.bitmap P)[k] &&& mask[k] = c.switchBitmap[k] &&& mask[k]) (by simp [AgreesOn, hmask])
  | none =>
    decidable_of_iff (∀ (k : Nat) (hk : k < P.kMaxSwitchBytes), k < c.switchBytes →
      (f.bitmap P)[k] = c.switchBitmap[k]) (by simp [AgreesOn, hmask])

theorem mergedBitmap_eq_iff (c : Comm P) (board : UInt8) (f : SwitchFrame) :
    mergedBitmap (c.maskOf board) c.switchBytes c.switchBitmap (f.bitmap P) = c.switchBitmap ↔
      c.AgreesOn board f := by
  unfold AgreesOn
  cases hmask : c.maskOf board with
  | none => exact BitAccess.copy_eq_iff c.switchBytes c.switchBitmap (f.bitmap P)
  | some mask => exact BitAccess.merge_eq_iff c.switchBytes mask c.switchBitmap (f.bitmap P)

/-- Without an accepted state frame a reply leaves the switch state alone. -/
theorem receive_of_not_accepted (port : SerialPort W) (board : UInt8) (r : SwitchReply)
    (c : Comm P) (w : W) (h : c.acceptedState port r w = none) :
    (c.receiveSwitchStateFrame port board r w).2.1.switchBitmap = c.switchBitmap ∧
      (c.receiveSwitchStateFrame port board r w).2.1.switches = c.switches := by
  unfold acceptedState at h
  unfold receiveSwitchStateFrame
  by_cases hready : c.portOpen ∧ P.isValidRuntimeConfig c.runtimeConfig
  · rw [if_pos hready] at h ⊢
    dsimp only
    cases hframe : (c.awaitSwitchFrame port (port.window c.switchReplyWindowUs w) false
        r.hadState w).frame with
    | some f =>
      obtain ⟨log, hcheck⟩ := checkReplyStatus_eq port
        (c.awaitSwitchFrame port (port.window c.switchReplyWindowUs w) false r.hadState w).world
        board f c
      rw [hframe] at h
      dsimp only at h ⊢
      unfold acceptSwitchFrame
      rw [hcheck]
      -- a wrong CRC ends the call, a no-change frame applies nothing
      by_cases hcrc : f.receivedCrc = f.calculatedCrc P
      · have htype : f.frameType ≠ .switchState := by
          intro htype
          simp [hcrc, htype] at h
        simp [hcrc, htype]
      · simp [hcrc, reportAnomaly]
    | none => exact ⟨rfl, rfl⟩
  · rw [if_neg hready]
    exact ⟨rfl, rfl⟩

/-- An accepted state frame is applied, fresh or not. -/
theorem receive_of_accepted (port : SerialPort W) (board : UInt8) (r : SwitchReply)
    (c : Comm P) (w : W) {f : SwitchFrame} (h : c.acceptedState port r w = some f) :
    (c.receiveSwitchStateFrame port board r w).2.1.switchBitmap =
        mergedBitmap (c.maskOf board) c.switchBytes c.switchBitmap (f.bitmap P) ∧
      (c.receiveSwitchStateFrame port board r w).2.1.switches =
        c.switches ++ reportedEvents (c.maskOf board) (f.bitmap P) c
          (List.range c.runtimeConfig.switchBits) ∧
      P.isValidRuntimeConfig c.runtimeConfig = true := by
  unfold acceptedState at h
  unfold receiveSwitchStateFrame
  by_cases hready : c.portOpen ∧ P.isValidRuntimeConfig c.runtimeConfig
  · rw [if_pos hready] at h ⊢
    dsimp only
    cases hframe : (c.awaitSwitchFrame port (port.window c.switchReplyWindowUs w) false
        r.hadState w).frame with
    | some f' =>
      rw [hframe] at h
      dsimp only at h ⊢
      by_cases haccept : f'.receivedCrc = f'.calculatedCrc P ∧ f'.frameType = .switchState
      · obtain rfl : f' = f := by simpa [haccept] using h
        obtain ⟨log, hcheck⟩ := checkReplyStatus_eq port
          (c.awaitSwitchFrame port (port.window c.switchReplyWindowUs w) false r.hadState
            w).world board f' c
        -- the checks may ask for a resync; the frame is applied all the same
        unfold acceptSwitchFrame
        rw [hcheck]
        simp only [haccept.1, haccept.2, ne_eq, not_true_eq_false, if_false, if_true]
        obtain ⟨refreshAt, heq⟩ := applySwitchBitmapDiff_eq
          (port.steadyMs (c.awaitSwitchFrame port (port.window c.switchReplyWindowUs w) false
            r.hadState w).world) board (f'.bitmap P)
          (P.bitsToBytes c.runtimeConfig.switchBits)
          { c with
            anomalyLog := log
            needSessionResync := c.needSessionResync || c.disputes f' }
        rw [heq]
        exact ⟨rfl, rfl, hready.2⟩
      · rw [if_neg haccept] at h
        exact nomatch h
    | none =>
      rw [hframe] at h
      exact nomatch h
  · rw [if_neg hready] at h
    exact nomatch h

/-- A reply changes the switch state exactly if its frame disagrees. -/
theorem receive_changes_iff {pos : Nat → Nat} (hP : P.Lawful pos) (port : SerialPort W)
    (board : UInt8) (r : SwitchReply) (c : Comm P) (w : W) {f : SwitchFrame}
    (h : c.acceptedState port r w = some f) :
    ((c.receiveSwitchStateFrame port board r w).2.1.switchBitmap ≠ c.switchBitmap ∨
      (c.receiveSwitchStateFrame port board r w).2.1.switches ≠ c.switches) ↔
      ¬ c.AgreesOn board f := by
  obtain ⟨hbitmap, hswitches, hvalid⟩ := receive_of_accepted port board r c w h
  rw [hbitmap, hswitches, ← mergedBitmap_eq_iff]
  constructor
  · intro hchanged hsame
    rcases hchanged with hchange | hevent
    · exact hchange hsame
    · have hnone := reportedEvents_eq_nil hP (c.maskOf board) (f.bitmap P) c
        (hP.validConfig c.runtimeConfig hvalid).2.2 hsame
      exact hevent (by rw [hnone, List.append_nil])
  · exact Or.inl

end Comm

namespace Sys

variable {P : Protocol} {W : Type}

/-! ### Runs -/

/-- The board token and the out parameters with which the step calls
    `ReceiveSwitchStateFrame`. -/
def receives (s : Sys P W) (l : Label) : Option (UInt8 × SwitchReply) :=
  match l, s.bus with
  | .bus, .hop (_ + 1) expected reply _ =>
    if expected = P.kNoBoard ∨ (s.comm.virtualSwitchBoards.lookup expected).isSome then none
    else some (expected, reply)
  | _, _ => none

/-- A change that the step makes to the switch state comes from a fresh
    state frame. -/
def ChangesFresh (E : Env W) (s : Sys P W) (l : Label) : Prop :=
  ∀ r ∈ s.receives l, ∀ s' ∈ s.step E l,
    (s'.comm.switchBitmap ≠ s.comm.switchBitmap ∨ s'.comm.switches ≠ s.comm.switches) →
      ∃ f ∈ s.comm.acceptedState E.port r.2 s.world, s.comm.Fresh f

instance (E : Env W) (s : Sys P W) (l : Label) : Decidable (ChangesFresh E s l) :=
  inferInstanceAs (Decidable (∀ r ∈ s.receives l, ∀ s' ∈ s.step E l, _ → _))

/-- A state frame that the step accepts is fresh or agrees with the host. -/
def FreshOrAgrees (E : Env W) (s : Sys P W) (l : Label) : Prop :=
  ∀ r ∈ s.receives l, ∀ f ∈ s.comm.acceptedState E.port r.2 s.world,
    s.comm.Fresh f ∨ s.comm.AgreesOn r.1 f

instance (E : Env W) (s : Sys P W) (l : Label) : Decidable (FreshOrAgrees E s l) :=
  inferInstanceAs (Decidable (∀ r ∈ s.receives l,
    ∀ f ∈ s.comm.acceptedState E.port r.2 s.world, _))

/-- A receiving step is a call of `ReceiveSwitchStateFrame`. -/
theorem step_receives {E : Env W} {s : Sys P W} {l : Label} {r : UInt8 × SwitchReply}
    (h : s.receives l = some r) :
    ∃ s', s.step E l = some s' ∧
      s'.comm = (s.comm.receiveSwitchStateFrame E.port r.1 r.2 s.world).2.1 := by
  unfold receives at h
  split at h
  · next hops expected reply refresh hbus =>
    split at h
    · exact nomatch h
    · next hreal =>
      obtain rfl := Option.some.inj h
      rw [not_or] at hreal
      have hlookup : s.comm.virtualSwitchBoards.lookup expected = none := by
        simpa using hreal.2
      -- the hop ends with the call, whatever comes back
      have hhop : (s.comm.hop E.port (hops + 1) expected reply refresh s.world).2.1 =
          (s.comm.receiveSwitchStateFrame E.port expected reply s.world).2.1 := by
        unfold Comm.hop
        simp only [hreal.1, hlookup, if_false]
        split <;> rfl
      let r := s.comm.hop E.port (hops + 1) expected reply refresh s.world
      refine ⟨{ s with bus := r.1, comm := r.2.1, world := r.2.2 }, ?_, hhop⟩
      show (s.comm.busStep E.port E.sourceByte s.bus s.world).map _ = some _
      rw [hbus]
      rfl
  · exact nomatch h

/-- **Step lemma**: a step keeps stale frames out exactly if the state frame
    it accepts is fresh or agrees with the host. -/
theorem changesFresh_iff {pos : Nat → Nat} (hP : P.Lawful pos) (E : Env W) (s : Sys P W)
    (l : Label) : ChangesFresh E s l ↔ FreshOrAgrees E s l := by
  unfold ChangesFresh FreshOrAgrees
  apply forall_congr'
  intro r
  apply imp_congr_right
  intro hr
  obtain ⟨s', hstep, hcomm⟩ := step_receives (E := E) hr
  constructor
  · intro hchange f hf
    by_cases hagree : s.comm.AgreesOn r.1 f
    · exact Or.inr hagree
    · -- a frame that disagrees changes something, so it has to be fresh
      have hdiffers := (Comm.receive_changes_iff hP E.port r.1 r.2 s.comm s.world hf).mpr hagree
      rw [← hcomm] at hdiffers
      obtain ⟨f', hf', hfresh⟩ := hchange s' hstep hdiffers
      obtain rfl := Option.some.inj (hf.symm.trans hf')
      exact Or.inl hfresh
  · intro hagree s'' hs'' hdiffers
    obtain rfl := Option.some.inj (hstep.symm.trans hs'')
    rw [hcomm] at hdiffers
    cases hf : s.comm.acceptedState E.port r.2 s.world with
    | none =>
      -- nothing was applied
      obtain ⟨hbitmap, hswitches⟩ :=
        Comm.receive_of_not_accepted E.port r.1 r.2 s.comm s.world hf
      rcases hdiffers with hchange | hevent
      · exact absurd hbitmap hchange
      · exact absurd hswitches hevent
    | some f =>
      have hdisagree :=
        (Comm.receive_changes_iff hP E.port r.1 r.2 s.comm s.world hf).mp hdiffers
      rcases hagree f hf with hfresh | hagree
      · exact ⟨f, rfl, hfresh⟩
      · exact absurd hagree hdisagree

/-- **Stale replies, exactly.**  Along a run every change of the switch state
    by a reply comes from a fresh state frame if and only if every accepted
    state frame is fresh or agrees with the host on the bits it may set. -/
theorem stale_reply_applied_iff {pos : Nat → Nat} (hP : P.Lawful pos) (E : Env W)
    (s : Sys P W) (ls : List Label) :
    Transition.Along (step E) (ChangesFresh E) s ls ↔
      Transition.Along (step E) (FreshOrAgrees E) s ls :=
  Transition.along_congr (changesFresh_iff hP E)

end Sys

namespace Reference

open Sys

/-- A state reply with switch 30 closed that answers sequence 9 of epoch 7. -/
def staleReply : List UInt8 :=
  protocol.buildSwitchReplyFrame true 0xFF 0 7 7 9 0
    (Vector.ofFn fun k => if k.val = 0 then 1 else 0) 1

/-- The reply that answers sequence 0 of epoch 1. -/
def freshReply : List UInt8 :=
  protocol.buildSwitchReplyFrame true 0xFF 0 1 1 0 0
    (Vector.ofFn fun k => if k.val = 0 then 1 else 0) 1

/-- The reply of an earlier session closes the switch in this one. -/
theorem stale_reply_applied :
    ¬ ∀ (rx : List UInt8) (ls : List Label),
        Transition.Along (step env) (ChangesFresh env) (polledSystem rx) ls := by
  intro h
  exact absurd (h staleReply (outputCycle ++ [.bus])) (by decide +kernel)

/-- With a fresh reply both sides hold. -/
theorem fresh_reply_applied :
    Transition.Along (step env) (ChangesFresh env) (polledSystem freshReply)
        (outputCycle ++ [.bus]) ↔
      Transition.Along (step env) (FreshOrAgrees env) (polledSystem freshReply)
        (outputCycle ++ [.bus]) :=
  stale_reply_applied_iff protocol_lawful env (polledSystem freshReply) (outputCycle ++ [.bus])

end Reference

end LibPpuc
