import LibPpuc.Comm.AckRound
import LibPpuc.Session.CleanChain

/-! # What the Bus Health Counters Mean

  `PPUCBusHealth` has lifetime counters of switch reply chains, of repeated
  config frames and of config frames that were never acknowledged.  The last
  one is bumped in `ReceiveConfigAck`, once for every attempt whose wait runs
  out, and not where a frame is given up.

  Beside a run of config events and chains, `Tally` counts what the counters
  stand for.  The chains and the repeats are always right; the timeouts are
  right throughout a run if and only if in each call one wait runs out where
  the frame is given up, and none elsewhere.
-/

namespace LibPpuc

/-- How the waits of a config frame end, with the attempts left: a write that
    is not whole and an ack end them. -/
def configWaits {W : Type} (P : Protocol) (port : SerialPort W) (buffer : List UInt8) :
    Nat → W → List WaitEnd
  | 0, _ => []
  | left + 1, w =>
    if (port.write buffer w).1 = (buffer.length : Int) then
      let w := (port.write buffer w).2
      let wait := configAckWait P port (tupleOf buffer)
        (port.window RS485_COMM_CONFIG_ACK_TIMEOUT_US w) w
      if wait.1 = .accepted then [.accepted]
      else wait.1 :: configWaits P port buffer left (port.sleepUs 2000 (port.flushInput wait.2))
    else []

namespace Comm

variable {P : Protocol} {W : Type}

/-! ### The Counters -/

/-- The counters that chains and config frames bump. -/
structure Tallies where
  switchReplyChains : UInt32
  switchReplyChainsClean : UInt32
  switchReplyMisses : UInt32
  configAckRetries : UInt32
  configAckTimeouts : UInt32
  deriving DecidableEq

/-- More repeats and timeouts. -/
def Tallies.add (repeats timeouts : Nat) (t : Tallies) : Tallies :=
  { t with
    configAckRetries := t.configAckRetries + UInt32.ofNat repeats
    configAckTimeouts := t.configAckTimeouts + UInt32.ofNat timeouts }

theorem Tallies.add_zero (t : Tallies) : t.add 0 0 = t := by
  simp [Tallies.add]

theorem Tallies.add_add (repeats timeouts repeats' timeouts' : Nat) (t : Tallies) :
    (t.add repeats timeouts).add repeats' timeouts' =
      t.add (repeats + repeats') (timeouts + timeouts') := by
  simp [Tallies.add, UInt32.add_assoc]

/-- Their part of `GetBusHealth`. -/
def tallies (c : Comm P) : Tallies where
  switchReplyChains := c.switchReplyChainCount
  switchReplyChainsClean := c.cleanSwitchReplyChainCount
  switchReplyMisses := c.switchReplyMissCount
  configAckRetries := c.configAckRetryCount
  configAckTimeouts := c.configAckTimeoutCount

theorem tallies_noteConfigMiss (port : SerialPort W) (w : W) (frame : ConfigTuple) (c : Comm P) :
    (c.noteConfigMiss port w frame).tallies = c.tallies := by
  obtain ⟨log, streak, misses, abortBoard, logged, heq⟩ := noteConfigMiss_eq port w frame c
  rw [heq]
  rfl

/-! ### One Config Frame -/

/-- The frames that were handed to the port. -/
def writesIn (traffic : List Traffic) : Nat :=
  traffic.countP fun t => match t with
    | .wrote .. => true
    | .ack _ => false

theorem writesIn_acks {traffic : List Traffic} (h : ∀ t ∈ traffic, ∃ ack, t = .ack ack) :
    writesIn traffic = 0 := by
  unfold writesIn
  rw [List.countP_eq_zero]
  intro t ht
  obtain ⟨ack, rfl⟩ := h t ht
  simp

/-- The writes of an attempt with `left` attempts at most, without the first
    one of the frame. -/
def repeatsIn (left : Nat) (traffic : List Traffic) : Nat :=
  if left = RS485_COMM_CONFIG_ACK_RETRIES then writesIn traffic - 1 else writesIn traffic

/-- The repeat of an attempt and those behind it. -/
theorem repeatsIn_succ {left : Nat} (hleft : left + 1 ≤ RS485_COMM_CONFIG_ACK_RETRIES)
    (buffer : List UInt8) (written : Int) {acks : List Traffic} (hacks : writesIn acks = 0)
    (later : List Traffic) :
    (if left + 1 < RS485_COMM_CONFIG_ACK_RETRIES then 1 else 0) + repeatsIn left later =
      repeatsIn (left + 1) (.wrote buffer written :: acks ++ later) := by
  have hwrites : writesIn (.wrote buffer written :: acks ++ later) = writesIn later + 1 := by
    unfold writesIn at hacks ⊢
    rw [List.cons_append, List.countP_cons_of_pos (by rfl), List.countP_append, hacks, Nat.zero_add]
  have hlater : left ≠ RS485_COMM_CONFIG_ACK_RETRIES := by omega
  unfold repeatsIn
  rw [hwrites, if_neg hlater]
  by_cases hagain : left + 1 < RS485_COMM_CONFIG_ACK_RETRIES
  · rw [if_pos hagain, if_neg (Nat.ne_of_lt hagain)]
    omega
  · have hfirst : left + 1 = RS485_COMM_CONFIG_ACK_RETRIES := by omega
    rw [if_neg hagain, if_pos hfirst]
    omega

/-- The state before the write of an attempt. -/
def countRepeat (left : Nat) (c : Comm P) : Comm P :=
  if left + 1 < RS485_COMM_CONFIG_ACK_RETRIES then
    { c with configAckRetryCount := c.configAckRetryCount + 1 }
  else c

theorem countRepeat_eq (left : Nat) (c : Comm P) :
    c.countRepeat left = { c with
      configAckRetryCount := c.configAckRetryCount +
        UInt32.ofNat (if left + 1 < RS485_COMM_CONFIG_ACK_RETRIES then 1 else 0) } := by
  unfold countRepeat
  split
  · rfl
  · simp

/-- One attempt and those behind it. -/
theorem configAttempts_succ (port : SerialPort W) (buffer : List UInt8) (left : Nat)
    {c : Comm P} (hport : c.portOpen = true) (w : W) :
    ∃ log, c.configAttempts port buffer (left + 1) w =
      if (port.write buffer w).1 = (buffer.length : Int) then
        let sent : Comm P := { c.countRepeat left with anomalyLog := log }
        let r := sent.receiveConfigAck port (tupleOf buffer) (port.write buffer w).2
        if r.accepted then
          ⟨.acknowledged, .wrote buffer (port.write buffer w).1 :: r.traffic,
            r.comm.noteConfigAck (tupleOf buffer).board, r.world⟩
        else
          (r.comm.configAttempts port buffer left (port.sleepUs 2000
            (port.flushInput r.world))).after (.wrote buffer (port.write buffer w).1 :: r.traffic)
      else
        ⟨.writeFailed, [.wrote buffer (port.write buffer w).1],
          { c.countRepeat left with anomalyLog := log }, (port.write buffer w).2⟩ := by
  have hopen : (c.countRepeat left).portOpen = true := by
    rw [countRepeat_eq]
    exact hport
  have hok := writeBytes_ok port "ConfigFrame" buffer (c.countRepeat left) w
  have hworld := world_writeBytes port "ConfigFrame" buffer hopen w
  obtain ⟨log, hwritten⟩ := writeBytes_eq port "ConfigFrame" buffer (c.countRepeat left) w
  refine ⟨log, ?_⟩
  conv_lhs => unfold configAttempts
  rw [← countRepeat]
  dsimp only
  generalize (c.countRepeat left).writeBytes port "ConfigFrame" buffer w = written
    at hok hworld hwritten ⊢
  obtain ⟨ok, c₂, w₂⟩ := written
  dsimp only at hok hworld hwritten
  rw [← hwritten, ← hworld]
  cases ok with
  | false =>
    have hpart : (port.write buffer w).1 ≠ (buffer.length : Int) := by
      intro hwhole
      have hwritten := hok.mpr ⟨hopen, hwhole⟩
      contradiction
    rw [if_neg hpart]
  | true => rw [if_pos (hok.mp rfl).2]

/-- What the attempts of a frame leave in the counters, and how they end. -/
structure CountsWaits (left : Nat) (c : Comm P) (waits : List WaitEnd) (r : SentConfig P W) :
    Prop where
  tallies : r.comm.tallies = c.tallies.add (repeatsIn left r.traffic) (waits.count .ranOut)
  outcome : r.outcome = .unacknowledged ↔ waits.length = left ∧ .accepted ∉ waits

/-- **The attempts of a frame.** -/
theorem configAttempts_countsWaits (port : SerialPort W) (buffer : List UInt8) (left : Nat)
    (hleft : left ≤ RS485_COMM_CONFIG_ACK_RETRIES) {c : Comm P} (hport : c.portOpen = true)
    (w : W) :
    CountsWaits left c (configWaits P port buffer left w)
      (c.configAttempts port buffer left w) := by
  induction left generalizing c w with
  | zero =>
    refine ⟨?_, by simp [configAttempts, configWaits]⟩
    show (c.noteConfigMiss port w (tupleOf buffer)).tallies = _
    rw [tallies_noteConfigMiss]
    exact (Tallies.add_zero _).symm
  | succ left ih =>
    obtain ⟨log, hattempt⟩ := configAttempts_succ port buffer left hport w
    have hnone : repeatsIn left [] = 0 := by
      unfold repeatsIn
      split <;> rfl
    rw [hattempt, countRepeat_eq]
    unfold configWaits
    dsimp only
    split
    · next hwhole =>
      -- the write is whole; the wait decides
      generalize hsent : ({ c with
        anomalyLog := log
        configAckRetryCount := c.configAckRetryCount +
          UInt32.ofNat (if left + 1 < RS485_COMM_CONFIG_ACK_RETRIES then 1 else 0) } : Comm P) =
        sent
      generalize (port.write buffer w).2 = w₁
      have hopen : sent.portOpen = true := by
        rw [← hsent]
        exact hport
      have hreceive : sent.receiveConfigAck port (tupleOf buffer) w₁ =
          awaitConfigAck port (tupleOf buffer)
            (port.window RS485_COMM_CONFIG_ACK_TIMEOUT_US w₁) sent w₁ := if_pos hopen
      have hacks := writesIn_acks (receiveConfigAck_reads port (tupleOf buffer) sent w₁).acks
      have hwait := awaitConfigAck_wait port (tupleOf buffer)
        (port.window RS485_COMM_CONFIG_ACK_TIMEOUT_US w₁) sent w₁
      rw [← hreceive] at hwait
      generalize sent.receiveConfigAck port (tupleOf buffer) w₁ = r₁ at hacks hwait ⊢
      generalize configAckWait P port (tupleOf buffer)
        (port.window RS485_COMM_CONFIG_ACK_TIMEOUT_US w₁) w₁ = wait at hwait ⊢
      obtain ⟨log', hcomm, haccepted, hworld⟩ := hwait
      obtain ⟨waitEnd, w₂⟩ := wait
      rw [← hsent] at hcomm
      dsimp only at hcomm haccepted hworld ⊢
      have htallies₁ : r₁.comm.tallies = c.tallies.add
          (if left + 1 < RS485_COMM_CONFIG_ACK_RETRIES then 1 else 0)
          ([waitEnd].count .ranOut) := by
        rw [hcomm]
        cases waitEnd <;> simp [Comm.tallies, Tallies.add, WaitEnd.timeouts]
      by_cases hend : waitEnd = .accepted
      · subst hend
        rw [if_pos (haccepted.mpr rfl), if_pos rfl]
        have hrepeats := repeatsIn_succ hleft buffer (port.write buffer w).1 hacks []
        rw [hnone, List.append_nil, Nat.add_zero] at hrepeats
        refine ⟨?_, by simp⟩
        dsimp only
        rw [← hrepeats]
        exact htallies₁
      · rw [if_neg (fun h => hend (haccepted.mp h)), if_neg hend, hworld]
        have hopen₁ : r₁.comm.portOpen = true := by
          rw [hcomm]
          exact hport
        obtain ⟨htallies, houtcome⟩ :=
          ih (by omega) hopen₁ (port.sleepUs 2000 (port.flushInput w₂))
        generalize r₁.comm.configAttempts port buffer left
          (port.sleepUs 2000 (port.flushInput w₂)) = rest at htallies houtcome ⊢
        have hrepeats := repeatsIn_succ hleft buffer (port.write buffer w).1 hacks rest.traffic
        constructor
        · show rest.comm.tallies = c.tallies.add (repeatsIn (left + 1)
            (.wrote buffer (port.write buffer w).1 :: r₁.traffic ++ rest.traffic)) _
          rw [htallies, htallies₁, Tallies.add_add, ← hrepeats, ← List.count_append,
            List.singleton_append]
        · show rest.outcome = .unacknowledged ↔ _
          rw [houtcome, List.length_cons, List.mem_cons, not_or]
          have hother : ¬ WaitEnd.accepted = waitEnd := fun h => hend h.symm
          simp [hother]
    · next hpart =>
      have hempty : writesIn [] = 0 := rfl
      have hrepeats := repeatsIn_succ hleft buffer (port.write buffer w).1 hempty []
      rw [hnone, List.append_nil, Nat.add_zero] at hrepeats
      refine ⟨?_, by simp⟩
      dsimp only
      rw [← hrepeats]
      simp [Comm.tallies, Tallies.add]

/-! ### One Call -/

/-- How the waits of a call of `SendConfigEvent` end: there are none if the
    call does not get as far as the wire. -/
def callWaits (port : SerialPort W) (event : ConfigEvent) (c : Comm P) (w : W) : List WaitEnd :=
  if c.portOpen = false ∨ c.shouldAbortConfigurationEarly = true ∨
      (tupleOf (c.configFrame event)).board ∈ c.skippedBoards then []
  else configWaits P port (c.configFrame event) RS485_COMM_CONFIG_ACK_RETRIES (port.sleepUs 5000 w)

/-- The frame is given up: all attempts were waited for in vain. -/
def GivenUp (waits : List WaitEnd) : Prop :=
  waits.length = RS485_COMM_CONFIG_ACK_RETRIES ∧ .accepted ∉ waits

instance (waits : List WaitEnd) : Decidable (GivenUp waits) := inferInstanceAs (Decidable (_ ∧ _))

/-- **A call of `SendConfigEvent`.** -/
theorem sendConfigEvent_countsWaits (port : SerialPort W) (event : ConfigEvent) (c : Comm P)
    (w : W) :
    (c.sendConfigEvent port event w).comm.tallies = c.tallies.add
        (writesIn (c.sendConfigEvent port event w).traffic - 1)
        ((callWaits port event c w).count .ranOut) ∧
      ((c.sendConfigEvent port event w).outcome = .unacknowledged ↔
        GivenUp (callWaits port event c w)) := by
  have hnothing : c.tallies = c.tallies.add (writesIn [] - 1) (([] : List WaitEnd).count .ranOut) :=
    (Tallies.add_zero _).symm
  have hnever : ¬ GivenUp [] := fun h => nomatch h.1
  unfold sendConfigEvent callWaits
  by_cases hport : c.portOpen = false
  · rw [if_pos hport, if_pos (Or.inl hport)]
    exact ⟨hnothing, by simp [hnever]⟩
  rw [if_neg hport]
  by_cases habort : c.shouldAbortConfigurationEarly = true
  · rw [if_pos habort, if_pos (Or.inr (Or.inl habort))]
    exact ⟨hnothing, by simp [hnever]⟩
  rw [if_neg habort]
  dsimp only
  by_cases hskipped : (tupleOf (c.configFrame event)).board ∈ c.skippedBoards
  · rw [if_pos hskipped, if_pos (Or.inr (Or.inr hskipped))]
    exact ⟨hnothing, by simp [hnever]⟩
  · have hwire : ¬ (c.portOpen = false ∨ c.shouldAbortConfigurationEarly = true ∨
        (tupleOf (c.configFrame event)).board ∈ c.skippedBoards) := by
      rintro (h | h | h)
      · exact hport h
      · exact habort h
      · exact hskipped h
    rw [if_neg hskipped, if_neg hwire]
    have hopen : ({ c with sequence := c.sequence + 1 } : Comm P).portOpen = true := by
      simpa using hport
    obtain ⟨htallies, houtcome⟩ := configAttempts_countsWaits port (c.configFrame event)
      RS485_COMM_CONFIG_ACK_RETRIES le_rfl hopen (port.sleepUs 5000 w)
    exact ⟨htallies, houtcome⟩

/-- **A chain**: it is clean or missed. -/
theorem tallies_receiveSwitchStateChain (port : SerialPort W) (firstBoard : UInt8) (c : Comm P)
    (w : W) :
    ∃ clean : Bool, (c.receiveSwitchStateChain port firstBoard w).1.tallies =
      { c.tallies with
        switchReplyChains := c.tallies.switchReplyChains + 1
        switchReplyChainsClean := c.tallies.switchReplyChainsClean + if clean then 1 else 0
        switchReplyMisses := c.tallies.switchReplyMisses + if clean then 0 else 1 } := by
  have hhops : (c.chainRun port firstBoard w).comm.tallies = c.tallies :=
    (congrArg Comm.tallies (hopPart_chainHops port _ _ _ c w).1 :)
  refine ⟨(c.chainRun port firstBoard w).success, ?_⟩
  rw [receiveSwitchStateChain_eq, ← hhops]
  unfold noteSwitchReplyChain
  cases (c.chainRun port firstBoard w).success with
  | true => simp [tallies]
  | false =>
    dsimp only
    rw [if_neg (by decide)]
    split
    · simp [tallies, reportAnomaly]
    · simp [tallies, reportAnomaly]

/-! ### Runs -/

/-- A config event or a chain of switch replies, and the world it finds. -/
inductive TalliedOp (W : Type) where
  | send (event : ConfigEvent) (world : W)
  | chain (firstBoard : UInt8) (world : W)

/-- What the counters stand for. -/
structure FrameTally where
  /-- Config frames that were sent again. -/
  retransmissions : Nat
  /-- Config frames that were never acknowledged. -/
  givenUp : Nat
  deriving DecidableEq, Repr

/-- One operation. -/
def talliedStep (port : SerialPort W) (c : Comm P) : TalliedOp W → Option (Comm P)
  | .send event w => some (c.sendConfigEvent port event w).comm
  | .chain firstBoard w => some (c.receiveSwitchStateChain port firstBoard w).1

/-- What an operation adds to the tally. -/
def noteFrames (port : SerialPort W) (c : Comm P) (tally : FrameTally) (op : TalliedOp W)
    (_ : Comm P) : FrameTally :=
  match op with
  | .send event w =>
    let r := c.sendConfigEvent port event w
    { retransmissions := tally.retransmissions + (writesIn r.traffic - 1)
      givenUp := tally.givenUp + if r.outcome = .unacknowledged then 1 else 0 }
  | .chain _ _ => tally

/-- Operations with the tally. -/
def tallyStep (port : SerialPort W) :
    Comm P × FrameTally → TalliedOp W → Option (Comm P × FrameTally) :=
  Transition.instrument (talliedStep port) (noteFrames port)

/-- **The counters mean what they say.** -/
def TalliesMean (p : Comm P × FrameTally) : Prop :=
  p.1.tallies.switchReplyChains =
      p.1.tallies.switchReplyChainsClean + p.1.tallies.switchReplyMisses ∧
    p.1.tallies.configAckRetries = UInt32.ofNat p.2.retransmissions ∧
    p.1.tallies.configAckTimeouts = UInt32.ofNat p.2.givenUp

instance (p : Comm P × FrameTally) : Decidable (TalliesMean p) :=
  inferInstanceAs (Decidable (_ ∧ _))

/-- One wait runs out if the frame is given up, and none otherwise. -/
def OneTimeoutPerFrame (port : SerialPort W) (p : Comm P × FrameTally) : TalliedOp W → Prop
  | .send event w =>
    (callWaits port event p.1 w).count .ranOut =
      if GivenUp (callWaits port event p.1 w) then 1 else 0
  | .chain _ _ => True

instance (port : SerialPort W) (p : Comm P × FrameTally) :
    ∀ op, Decidable (OneTimeoutPerFrame port p op)
  | .send _ _ => inferInstanceAs (Decidable (_ = _))
  | .chain _ _ => inferInstanceAs (Decidable True)

theorem length_configWaits (port : SerialPort W) (buffer : List UInt8) (left : Nat) (w : W) :
    (configWaits P port buffer left w).length ≤ left := by
  induction left generalizing w with
  | zero => simp [configWaits]
  | succ left ih =>
    unfold configWaits
    dsimp only
    split
    · split
      · simp
      · rw [List.length_cons]
        exact Nat.succ_le_succ (ih _)
    · simp

theorem count_callWaits (port : SerialPort W) (event : ConfigEvent) (c : Comm P) (w : W) :
    (callWaits port event c w).count .ranOut ≤ RS485_COMM_CONFIG_ACK_RETRIES := by
  apply List.count_le_length.trans
  unfold callWaits
  split
  · simp
  · exact length_configWaits port _ _ _

/-- The counter has 32 bits, and a call counts at most three. -/
theorem ofNat_add_inj {tally counted meant : Nat} (hcounted : counted < 2 ^ 32)
    (hmeant : meant < 2 ^ 32) :
    UInt32.ofNat tally + UInt32.ofNat counted = UInt32.ofNat (tally + meant) ↔
      counted = meant := by
  rw [UInt32.ofNat_add, UInt32.add_right_inj]
  constructor
  · intro h
    have hnat := congrArg UInt32.toNat h
    rwa [UInt32.toNat_ofNat_of_lt' hcounted, UInt32.toNat_ofNat_of_lt' hmeant] at hnat
  · exact congrArg UInt32.ofNat

/-- **One operation** keeps the meaning exactly if it counts one timeout per
    frame. -/
theorem talliesMean_step {port : SerialPort W} {p q : Comm P × FrameTally} {op : TalliedOp W}
    (h : TalliesMean p) (hstep : tallyStep port p op = some q) :
    TalliesMean q ↔ OneTimeoutPerFrame port p op := by
  obtain ⟨hchains, hretries, htimeouts⟩ := h
  obtain ⟨hop, htally⟩ := Transition.instrument_some.mp hstep
  unfold TalliesMean
  rw [htally]
  cases op with
  | send event w =>
    have hnext : (p.1.sendConfigEvent port event w).comm = q.1 := Option.some.inj hop
    obtain ⟨hcounters, houtcome⟩ := sendConfigEvent_countsWaits port event p.1 w
    have hfew := count_callWaits port event p.1 w
    have hthree : RS485_COMM_CONFIG_ACK_RETRIES = 3 := rfl
    have hgivenUp : (if (p.1.sendConfigEvent port event w).outcome = .unacknowledged then 1 else 0)
        = if GivenUp (callWaits port event p.1 w) then 1 else 0 := if_congr houtcome rfl rfl
    rw [← hnext, hcounters]
    unfold noteFrames OneTimeoutPerFrame Tallies.add
    dsimp only
    rw [hgivenUp, hretries, htimeouts, ← UInt32.ofNat_add]
    simp only [hchains, true_and]
    -- both are far from the wrap, as a call waits three times at most
    apply ofNat_add_inj
    · omega
    · split <;> omega
  | chain firstBoard w =>
    have hnext : (p.1.receiveSwitchStateChain port firstBoard w).1 = q.1 := Option.some.inj hop
    obtain ⟨clean, hcounters⟩ := tallies_receiveSwitchStateChain port firstBoard p.1 w
    rw [← hnext, hcounters]
    apply iff_of_true
    · refine ⟨?_, hretries, htimeouts⟩
      show p.1.tallies.switchReplyChains + 1 = _
      rw [hchains]
      cases clean with
      | true => rw [if_pos rfl, if_pos rfl, UInt32.add_zero, UInt32.add_assoc, UInt32.add_assoc,
          UInt32.add_comm _ 1]
      | false => rw [if_neg (by decide), if_neg (by decide), UInt32.add_zero, UInt32.add_assoc]
    · trivial

/-- **The bus health counters**: along any config events and chains, from
    counters at zero, the chains are the clean and the missed ones, the
    retries the frames that were sent again, and the timeouts the frames that
    were never acknowledged, after every operation if and only if each event
    counts one timeout where its frame is given up and none elsewhere. -/
theorem tallies_mean_iff (port : SerialPort W) {c : Comm P}
    (hstart : c.tallies = ⟨0, 0, 0, 0, 0⟩) (ops : List (TalliedOp W)) :
    Transition.Always (tallyStep port) TalliesMean (c, ⟨0, 0⟩) ops ↔
      Transition.Along (tallyStep port) (OneTimeoutPerFrame port) (c, ⟨0, 0⟩) ops := by
  apply Transition.always_iff_along (I := fun _ => True)
  · intro p op q _ hmean hstep
    exact ⟨trivial, talliesMean_step hmean hstep⟩
  · intro p op hidle
    cases op with
    | send event w => contradiction
    | chain firstBoard w => trivial
  · trivial
  · unfold TalliesMean
    rw [hstart]
    exact ⟨rfl, rfl, rfl⟩

end Comm

namespace Reference

/-- An event for board 1. -/
def boardEvent : ConfigEvent := ⟨1, 1, 0, 0, 0⟩

/-- Board 1 rejects the event. -/
def rejection : List UInt8 := frame .configAck 0xFF 0 0 [1, 1, 0, 0, 1]

/-- A chain that is missed, a frame that is given up after two rejections and
    one timeout, and a frame that is rejected once and accepted then. -/
theorem rejections_count :
    Transition.Always (Comm.tallyStep port) Comm.TalliesMean (comm, ⟨0, 0⟩)
      [.chain 1 {}, .send boardEvent { rounds := 1, replies := [rejection, rejection] },
        .send boardEvent { rounds := 1, replies := [rejection, ackOf 1 0 0] }] := by
  apply (Comm.tallies_mean_iff port rfl _).mpr
  decide +kernel

/-- One frame that nobody acknowledges is counted three times. -/
theorem silent_frame_counts_thrice :
    ¬ ∀ ops : List (Comm.TalliedOp Script),
      Transition.Always (Comm.tallyStep port) Comm.TalliesMean (comm, ⟨0, 0⟩) ops := by
  intro h
  have hsilent := h [.send boardEvent { rounds := 1 }]
  revert hsilent
  decide +kernel

end Reference

end LibPpuc
