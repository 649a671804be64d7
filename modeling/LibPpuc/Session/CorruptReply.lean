import LibPpuc.Comm.SwitchReply
import LibPpuc.Reference

/-! # Corrupt Switch Replies

  `ReceiveSwitchStateFrame` interprets epoch, echoed sequence and status of
  a reply before it compares the CRC.  So a corrupt frame can ask for a
  session resync.  The result here is exact: a corrupt frame leaves the
  session alone if and only if a resync was wanted anyway or none of the
  three fields happens to ask for one.
-/

namespace LibPpuc

namespace Comm

variable {P : Protocol} {W : Type}

/-! ### A Corrupt Frame -/

/-- A frame whose CRC does not match is dropped after the checks. -/
theorem acceptSwitchFrame_corrupt (port : SerialPort W) (w : W) (expectedBoard : UInt8)
    {f : SwitchFrame} (c : Comm P) (hcrc : f.receivedCrc ≠ f.calculatedCrc P) :
    (c.acceptSwitchFrame port w expectedBoard f).1 = false ∧
      ∃ log, (c.acceptSwitchFrame port w expectedBoard f).2 =
        { c with
          anomalyLog := log
          needSessionResync := c.needSessionResync || c.disputes f } := by
  obtain ⟨log, hcheck⟩ := checkReplyStatus_eq port w expectedBoard f c
  unfold acceptSwitchFrame
  rw [hcheck, if_pos hcrc]
  exact ⟨rfl, _, rfl⟩

/-! ### The Whole Call -/

/-- The call reads `f` as the first complete switch frame. -/
structure ReadsSwitchFrame (port : SerialPort W) (r : SwitchReply) (c : Comm P) (w : W)
    (f : SwitchFrame) : Prop where
  portOpen : c.portOpen = true
  valid : P.isValidRuntimeConfig c.runtimeConfig = true
  frame :
    (c.awaitSwitchFrame port (port.window c.switchReplyWindowUs w) false r.hadState w).frame =
      some f

/-- The call fails and leaves everything but the anomaly log as it was. -/
def ReplyIgnored (port : SerialPort W) (expectedBoard : UInt8) (r : SwitchReply) (c : Comm P)
    (w : W) : Prop :=
  (c.receiveSwitchStateFrame port expectedBoard r w).1.ok = false ∧
    ∃ log, (c.receiveSwitchStateFrame port expectedBoard r w).2.1 = { c with anomalyLog := log }

theorem receiveSwitchStateFrame_corrupt {port : SerialPort W} (expectedBoard : UInt8)
    {r : SwitchReply} {c : Comm P} {w : W} {f : SwitchFrame}
    (hread : ReadsSwitchFrame port r c w f) (hcrc : f.receivedCrc ≠ f.calculatedCrc P) :
    (c.receiveSwitchStateFrame port expectedBoard r w).1.ok = false ∧
      ∃ log, (c.receiveSwitchStateFrame port expectedBoard r w).2.1 =
        { c with
          anomalyLog := log
          needSessionResync := c.needSessionResync || c.disputes f } := by
  unfold receiveSwitchStateFrame
  rw [if_pos ⟨hread.portOpen, hread.valid⟩]
  dsimp only
  rw [hread.frame]
  exact acceptSwitchFrame_corrupt port _ expectedBoard c hcrc

/-- **Corrupt replies, exactly.**  A corrupt reply has no effect on the
    session if and only if a resync was already wanted, or the corrupt bytes
    agree with the session in epoch and sequence and carry no status flag
    that asks for a resync. -/
theorem corrupt_reply_ignored_iff (port : SerialPort W) (expectedBoard : UInt8)
    (r : SwitchReply) (c : Comm P) (w : W) (f : SwitchFrame)
    (hread : ReadsSwitchFrame port r c w f) (hcrc : f.receivedCrc ≠ f.calculatedCrc P) :
    ReplyIgnored port expectedBoard r c w ↔
      c.needSessionResync = true ∨
        (f.epochSeen P = c.epoch ∧ f.lastHostSequenceSeen P = c.lastOutputSequenceSent ∧
          f.wantsResync P = false) := by
  obtain ⟨hfail, log, heq⟩ := receiveSwitchStateFrame_corrupt expectedBoard hread hcrc
  unfold ReplyIgnored
  rw [heq]
  have hdisputes : c.disputes f = false ↔
      (f.epochSeen P = c.epoch ∧ f.lastHostSequenceSeen P = c.lastOutputSequenceSent ∧
        f.wantsResync P = false) := by
    simp [disputes, and_assoc]
  rw [← hdisputes]
  constructor
  · intro h
    obtain ⟨-, log', hsame⟩ := h
    -- only the resync request can tell the two states apart
    have hflag := congrArg Comm.needSessionResync hsame
    change (c.needSessionResync || c.disputes f) = c.needSessionResync at hflag
    cases hneed : c.needSessionResync with
    | true => exact Or.inl rfl
    | false =>
      rw [hneed, Bool.false_or] at hflag
      exact Or.inr hflag
  · intro hquiet
    refine ⟨hfail, log, ?_⟩
    have hflag : (c.needSessionResync || c.disputes f) = c.needSessionResync := by
      rcases hquiet with hneed | hagree
      · rw [hneed, Bool.true_or]
      · rw [hagree, Bool.or_false]
    rw [hflag]

end Comm

namespace Reference

open Comm

/-- A no-change reply of another epoch, with a broken CRC. -/
def corruptReply : List UInt8 := [0xA5, 11, 0xFF, 0, 1, 2, 0, 0, 0, 0]

/-- The same reply in the epoch of `comm`. -/
def corruptReplyInEpoch : List UInt8 := [0xA5, 11, 0xFF, 0, 1, 1, 0, 0, 0, 0]

/-- The reader's result on a reply that is the only input. -/
theorem reads_only_reply (body : List UInt8) (r : SwitchReply)
    (h : (comm.awaitSwitchFrame port 1 false r.hadState
      { rx := body, rounds := 1 }).frame = some ⟨.switchNoChange, body⟩) :
    ReadsSwitchFrame port r comm { rx := body, rounds := 1 } ⟨.switchNoChange, body⟩ :=
  { portOpen := rfl, valid := rfl, frame := h }

/-- Not every corrupt reply is ignored: this one requests a resync. -/
theorem corrupt_reply_resyncs :
    ¬ ∀ (expectedBoard : UInt8) (r : SwitchReply) (c : Comm protocol) (w : Script)
        (f : SwitchFrame), ReadsSwitchFrame port r c w f →
        f.receivedCrc ≠ f.calculatedCrc protocol → ReplyIgnored port expectedBoard r c w := by
  intro h
  obtain ⟨-, log, hsame⟩ := h 1 ⟨false, 0xFF, false⟩ comm
    { rx := corruptReply, rounds := 1 } ⟨.switchNoChange, corruptReply⟩
    (reads_only_reply corruptReply _ rfl) (by decide +kernel)
  have hflag : _ = false := congrArg Comm.needSessionResync hsame
  have hset : (comm.receiveSwitchStateFrame port 1 ⟨false, 0xFF, false⟩
      { rx := corruptReply, rounds := 1 }).2.1.needSessionResync = true := by decide +kernel
  exact Bool.noConfusion (hset.symm.trans hflag)

/-- The same corruption with the epoch byte intact has no effect. -/
theorem corrupt_reply_in_epoch_ignored :
    ReplyIgnored port 1 ⟨false, 0xFF, false⟩ comm { rx := corruptReplyInEpoch, rounds := 1 } :=
  (corrupt_reply_ignored_iff port 1 ⟨false, 0xFF, false⟩ comm
    { rx := corruptReplyInEpoch, rounds := 1 } ⟨.switchNoChange, corruptReplyInEpoch⟩
    (reads_only_reply corruptReplyInEpoch _ rfl) (by decide +kernel)).mpr
    (Or.inr ⟨by decide, by decide, by decide⟩)

end Reference

end LibPpuc
