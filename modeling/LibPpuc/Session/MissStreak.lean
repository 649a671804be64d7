import LibPpuc.Session.CleanChain

/-! # The Miss Streak

  `m_switchReplyMisses` counts the failed chains in a row and asks for a
  session resync from the third one on.  Only a clean chain resets it, a
  resync clears the request alone.  The counter has eight bits: after 256
  failures in a row it starts over, and the next three do not ask.

  Beside a run of chains and resyncs, the true streak is kept as a number.
  The request is right at every chain if and only if no chain fails as the
  256th, 257th or 258th in a row (or the same with further multiples of 256)
  while no request is up.
-/

namespace LibPpuc

namespace ChainHop

variable {P : Protocol} {W : Type}

/-- The reply that is read in the hop asks for a resync by itself. -/
def asksResync (port : SerialPort W) (h : ChainHop P W) : Bool :=
  h.comm.portOpen && P.isValidRuntimeConfig h.comm.runtimeConfig &&
    (h.readFrame port).any h.comm.disputes

/-- What a hop does to the request. -/
theorem needSessionResync_run (port : SerialPort W) (h : ChainHop P W) :
    (h.run port).2.1.needSessionResync = (h.comm.needSessionResync || h.asksResync port) := by
  unfold asksResync readFrame
  cases hvirtual : h.isVirtual with
  | true =>
    obtain ⟨log, boards, heq⟩ := Comm.sendVirtualSwitchReply_eq port h.board h.successor
      { h.reply with nextBoard := h.successor } h.comm h.world
    rw [run_virtual hvirtual, heq]
    simp
  | false =>
    rw [run_real hvirtual, if_neg (by decide)]
    -- a board: only a frame that was found can dispute the session
    unfold Comm.receiveSwitchStateFrame
    split
    · next hready =>
      rw [hready.1, hready.2, Bool.true_and, Bool.true_and]
      dsimp only
      generalize h.comm.awaitSwitchFrame port (port.window h.comm.switchReplyWindowUs h.world)
        false h.reply.hadState h.world = a
      cases a.frame with
      | none => simp [Comm.switchReplyTimedOut, Comm.reportAnomaly]
      | some f =>
        obtain ⟨log, hcheck⟩ := Comm.checkReplyStatus_eq port a.world h.board f h.comm
        unfold Comm.acceptSwitchFrame
        dsimp only
        rw [hcheck]
        split
        · rfl
        · split
          · obtain ⟨refreshAt, happly⟩ := Comm.applySwitchBitmapDiff_eq (port.steadyMs a.world)
              h.board (f.bitmap P) (P.bitsToBytes h.comm.runtimeConfig.switchBits)
              { h.comm with
                anomalyLog := log
                needSessionResync := h.comm.needSessionResync || h.comm.disputes f }
            dsimp only
            rw [happly]
            rfl
          · rfl
    · next hready =>
      have hnever : (h.comm.portOpen && P.isValidRuntimeConfig h.comm.runtimeConfig) = false := by
        rw [← Bool.not_eq_true, Bool.and_eq_true]
        exact hready
      rw [hnever]
      simp

end ChainHop

/-- A chain of switch replies or a resync, and the world it finds. -/
inductive BusOp (W : Type) where
  | chain (firstBoard : UInt8) (world : W)
  | resync (world : W)

namespace Comm

variable {P : Protocol} {W : Type}

/-- The request for a resync at the end of the hops. -/
theorem needSessionResync_chainHops (port : SerialPort W) (hops : Nat) (expected : UInt8)
    (r : SwitchReply) (c : Comm P) (w : W) :
    (chainHops port hops expected r c w).comm.needSessionResync =
      (c.needSessionResync ||
        (chainHops port hops expected r c w).hops.any (ChainHop.asksResync port)) := by
  induction hops generalizing expected r c w with
  | zero => simp [chainHops]
  | succ hops ih =>
    unfold chainHops
    have hhop := ChainHop.needSessionResync_run port ⟨expected, r, c, w⟩
    split
    · simp
    · dsimp only
      split
      · rw [ih, hhop, List.any_cons, Bool.or_assoc]
      · rw [hhop, List.any_cons, List.any_nil, Bool.or_false]

/-! ### Runs -/

/-- One operation of the bus thread. -/
def opStep (port : SerialPort W) (c : Comm P) : BusOp W → Option (Comm P)
  | .chain firstBoard w => some (c.receiveSwitchStateChain port firstBoard w).1
  | .resync w => some (c.resyncSession port w).2.1

/-- The number of chains in a row that failed. -/
def noteStreak (port : SerialPort W) (c : Comm P) (streak : Nat) (op : BusOp W) (_ : Comm P) :
    Nat :=
  match op with
  | .chain firstBoard w => if (c.chainRun port firstBoard w).success then 0 else streak + 1
  | .resync _ => streak

/-- Operations with the streak. -/
def streakStep (port : SerialPort W) : Comm P × Nat → BusOp W → Option (Comm P × Nat) :=
  Transition.instrument (opStep port) (noteStreak port)

/-- After a chain that fails, as its two predecessors did, the request is up;
    and unless it is up at the end of the hops, it is up only then. -/
def AsksOnThird (port : SerialPort W) (p : Comm P × Nat) : BusOp W → Prop
  | .chain firstBoard w =>
    (p.1.receiveSwitchStateChain port firstBoard w).1.needSessionResync = true ↔
      (p.1.chainRun port firstBoard w).comm.needSessionResync = true ∨
        ((p.1.chainRun port firstBoard w).success = false ∧
          RS485_COMM_SWITCH_REPLY_MISS_THRESHOLD ≤ p.2 + 1)
  | .resync _ => True

/-- The chain is not one of those that the counter loses: it is clean, one of
    the first two failures in a row, or a later one that the threshold is met
    for modulo 256; or the request is up, or a reply of the chain asks. -/
def StreakCounts (port : SerialPort W) (p : Comm P × Nat) : BusOp W → Prop
  | .chain firstBoard w =>
    (p.1.chainRun port firstBoard w).success = true ∨
      p.2 + 1 < RS485_COMM_SWITCH_REPLY_MISS_THRESHOLD ∨
      RS485_COMM_SWITCH_REPLY_MISS_THRESHOLD ≤ (p.2 + 1) % 256 ∨
      p.1.needSessionResync = true ∨
      (p.1.chainRun port firstBoard w).hops.any (ChainHop.asksResync port) = true
  | .resync _ => True

/-! ### What the Operations Do -/

/-- The counter and the request after a chain. -/
theorem noteSwitchReplyChain_streak (port : SerialPort W) (w : W) (success : Bool) (c : Comm P) :
    (c.noteSwitchReplyChain port w success).switchReplyMisses.toNat =
        (if success then 0 else (c.switchReplyMisses.toNat + 1) % 256) ∧
      ((c.noteSwitchReplyChain port w success).needSessionResync = true ↔
        c.needSessionResync = true ∨ (success = false ∧
          RS485_COMM_SWITCH_REPLY_MISS_THRESHOLD ≤ (c.switchReplyMisses.toNat + 1) % 256)) := by
  unfold noteSwitchReplyChain
  cases success with
  | true => simp
  | false =>
    by_cases hmany : RS485_COMM_SWITCH_REPLY_MISS_THRESHOLD ≤
        (c.switchReplyMisses.toNat + 1) % 256
    · simp [reportAnomaly, hmany]
    · simp [reportAnomaly, hmany]

/-- A resync leaves the counter alone. -/
theorem switchReplyMisses_resyncSession (port : SerialPort W) (c : Comm P) (w : W) :
    (c.resyncSession port w).2.1.switchReplyMisses = c.switchReplyMisses := by
  obtain ⟨sequence, log, resync, pollAt, heq⟩ := resyncSession_eq port c w
  rw [heq]

/-- The counter is the streak, modulo 256. -/
def CountsStreak (p : Comm P × Nat) : Prop := p.1.switchReplyMisses.toNat = p.2 % 256

theorem streakStep_counts {port : SerialPort W} {p q : Comm P × Nat} {op : BusOp W}
    (h : CountsStreak p) (hstep : streakStep port p op = some q) : CountsStreak q := by
  unfold CountsStreak at h ⊢
  obtain ⟨hop, hstreak⟩ := Transition.instrument_some.mp hstep
  rw [hstreak]
  cases op with
  | chain firstBoard w =>
    have hnext : (p.1.receiveSwitchStateChain port firstBoard w).1 = q.1 := Option.some.inj hop
    rw [receiveSwitchStateChain_eq] at hnext
    have hcount : (p.1.chainRun port firstBoard w).comm.switchReplyMisses =
        p.1.switchReplyMisses :=
      (congrArg Comm.switchReplyMisses (hopPart_chainHops port _ _ _ p.1 w).1 :)
    obtain ⟨hmisses, -⟩ := noteSwitchReplyChain_streak port
      (p.1.chainRun port firstBoard w).world (p.1.chainRun port firstBoard w).success
      (p.1.chainRun port firstBoard w).comm
    rw [hcount, h] at hmisses
    rw [← hnext, hmisses]
    unfold noteStreak
    dsimp only
    split
    · rfl
    · omega
  | resync w =>
    have hnext : (p.1.resyncSession port w).2.1 = q.1 := Option.some.inj hop
    rw [← hnext, switchReplyMisses_resyncSession, h]
    rfl

/-- **One operation** asks on the third failure exactly if its streak counts. -/
theorem asksOnThird_iff (port : SerialPort W) {p : Comm P × Nat} (h : CountsStreak p)
    (op : BusOp W) : AsksOnThird port p op ↔ StreakCounts port p op := by
  unfold CountsStreak at h
  cases op with
  | chain firstBoard w =>
    have hcount : (p.1.chainRun port firstBoard w).comm.switchReplyMisses =
        p.1.switchReplyMisses :=
      (congrArg Comm.switchReplyMisses (hopPart_chainHops port _ _ _ p.1 w).1 :)
    have hflag : (p.1.chainRun port firstBoard w).comm.needSessionResync =
        (p.1.needSessionResync ||
          (p.1.chainRun port firstBoard w).hops.any (ChainHop.asksResync port)) :=
      needSessionResync_chainHops port _ _ _ p.1 w
    obtain ⟨-, hasks⟩ := noteSwitchReplyChain_streak port
      (p.1.chainRun port firstBoard w).world (p.1.chainRun port firstBoard w).success
      (p.1.chainRun port firstBoard w).comm
    rw [hcount, h, hflag] at hasks
    unfold AsksOnThird StreakCounts
    dsimp only
    rw [receiveSwitchStateChain_eq, hasks, hflag, Bool.or_eq_true]
    have hthreshold : RS485_COMM_SWITCH_REPLY_MISS_THRESHOLD = 3 := rfl
    rw [hthreshold]
    cases (p.1.chainRun port firstBoard w).success with
    | true => simp
    | false =>
      by_cases hup : p.1.needSessionResync = true ∨
          (p.1.chainRun port firstBoard w).hops.any (ChainHop.asksResync port) = true
      · rcases hup with hup | hup
        · simp [hup]
        · simp [hup]
      · obtain ⟨hdown, hquiet⟩ := not_or.mp hup
        simp only [hdown, hquiet, false_or, or_false, true_and, Bool.false_eq_true]
        omega
  | resync w => exact Iff.rfl

/-- **The request on the third failure in a row**: along any chains and
    resyncs, from a state in which none has failed, each chain that fails as
    its two predecessors did leaves the request up, and the streak raises it
    only then, if and only if every chain's streak counts. -/
theorem miss_streak_iff (port : SerialPort W) {c : Comm P} (hstart : c.switchReplyMisses = 0)
    (ops : List (BusOp W)) :
    Transition.Along (streakStep port) (AsksOnThird port) (c, 0) ops ↔
      Transition.Along (streakStep port) (StreakCounts port) (c, 0) ops := by
  have hinit : CountsStreak (c, 0) := by
    unfold CountsStreak
    rw [hstart]
    rfl
  constructor
  · exact Transition.along_of_along (fun p op q hinv _ hstep => streakStep_counts hinv hstep)
      (fun p op hinv => (asksOnThird_iff port hinv op).mp) hinit
  · exact Transition.along_of_along (fun p op q hinv _ hstep => streakStep_counts hinv hstep)
      (fun p op hinv => (asksOnThird_iff port hinv op).mpr) hinit

instance (port : SerialPort W) (p : Comm P × Nat) :
    ∀ op, Decidable (AsksOnThird port p op)
  | .chain _ _ => inferInstanceAs (Decidable (_ ↔ _))
  | .resync _ => inferInstanceAs (Decidable True)

instance (port : SerialPort W) (p : Comm P × Nat) :
    ∀ op, Decidable (StreakCounts port p op)
  | .chain _ _ => inferInstanceAs (Decidable (_ ∨ _))
  | .resync _ => inferInstanceAs (Decidable True)

end Comm

namespace Reference

/-- A chain that nobody answers. -/
def silentChain : BusOp Script := .chain 1 {}

/-- Three failures, a resync, and two more. -/
theorem five_failures_count :
    Transition.Along (Comm.streakStep port) (Comm.AsksOnThird port) (polledComm, 0)
      (List.replicate 3 silentChain ++ [.resync {}] ++ List.replicate 2 silentChain) := by
  apply (Comm.miss_streak_iff port rfl _).mpr
  decide +kernel

/-- The 256th failure in a row, after a resync, does not ask. -/
theorem failure_256_does_not_ask :
    ¬ ∀ ops : List (BusOp Script),
      Transition.Along (Comm.streakStep port) (Comm.AsksOnThird port) (polledComm, 0) ops := by
  intro h
  have hlast := h (List.replicate 255 silentChain ++ [.resync {}, silentChain])
  revert hlast
  decide +kernel

end Reference

end LibPpuc
