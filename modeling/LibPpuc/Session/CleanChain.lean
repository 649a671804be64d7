import LibPpuc.Runtime.FirmwareUpdate
import LibPpuc.Session.Chain
import LibPpuc.Session.SwitchStream
import LibPpuc.Startup.TokenRing

/-! # A Conforming Bus Is Polled Cleanly

  The chain follows tokens from the wire where a board answers, and the
  host's own list where the host answers.  On a bus that conforms both are
  the successor in the list, so the hops walk the list once from its head.
  The proof is by induction on the part of the list that is left.
-/

namespace LibPpuc

open Successor

namespace Comm

variable {P : Protocol} {W : Type} {pos : Nat → Nat}

/-! ### What a Chain Leaves Alone -/

/-- The state with everything blanked that a clean chain may change. -/
def chainPart (c : Comm P) : Comm P :=
  { c with
    anomalyLog := {}
    nextSwitchRefreshAt := none
    switches := []
    switchBitmap := Vector.replicate _ 0
    virtualSwitchBoards := ∅ }

theorem chainPart_clearDirty (board : UInt8) (c : Comm P) :
    (c.clearDirty board).chainPart = c.chainPart := by
  unfold clearDirty
  split <;> rfl

theorem switchBitmap_clearDirty (board : UInt8) (c : Comm P) :
    (c.clearDirty board).switchBitmap = c.switchBitmap := by
  unfold clearDirty
  split <;> rfl

/-- The board answers by itself, with the states of its switches. -/
def Reports (c : Comm P) (reply : UInt8 → SwitchFrame) (b : UInt8) : Prop :=
  c.virtualSwitchBoards.lookup b = none ∧ (reply b).frameType = .switchState

/-- The frame is the host's reply for the board while its switch bits are
    `bitmap`: a state reply if the board is dirty, in sync, handing on to the
    successor in the list, for the current epoch and the last output frame. -/
def IsVirtualReply (c : Comm P) (b : UInt8) (bitmap : Vector UInt8 P.kMaxSwitchBytes)
    (frame : List UInt8) : Prop :=
  ∃ boardState, c.virtualSwitchBoards.lookup b = some boardState ∧
    frame = P.buildSwitchReplyFrame boardState.dirty (c.switchBoards.nextOr b P.kNoBoard)
      c.lastOutputSequenceSent c.epoch c.epoch c.lastOutputSequenceSent P.kStatusInSync bitmap
      (P.bitsToBytes c.runtimeConfig.switchBits)

/-- A session in which the switch boards can be polled. -/
structure Pollable (c : Comm P) : Prop where
  portOpen : c.portOpen = true
  valid : P.isValidRuntimeConfig c.runtimeConfig = true
  maps : c.SwitchMaps
  oneBoard : c.OneBoardEach

end Comm

/-- What the bus does in a hop: a write succeeds, or the board answers with a
    valid reply that hands on to its successor. -/
inductive ChainHop.Conforms {P : Protocol} {W : Type} (port : SerialPort W)
    (reply : UInt8 → SwitchFrame) (h : ChainHop P W) : Prop
  | virtual {boardState : VirtualSwitchBoardState}
    (hlookup : h.comm.virtualSwitchBoards.lookup h.board = some boardState)
    (hwrite : (port.write (h.comm.virtualReplyFrame boardState.dirty h.successor
      h.comm.switchBitmap) (h.comm.replyPause port h.world)).1 =
        (h.comm.virtualReplyFrame boardState.dirty h.successor h.comm.switchBitmap).length)
  | real (hlookup : h.comm.virtualSwitchBoards.lookup h.board = none)
    (hreply : h.comm.ValidReply h.successor (reply h.board))
    (hanswers : port.Answers (reply h.board).buffer
      (port.window h.comm.switchReplyWindowUs h.world) h.world)

namespace Comm

variable {P : Protocol} {W : Type} {pos : Nat → Nat}

/-! ### The Switch Bits -/

/-- What the replies of `boards` make of the switch bits: each board that
    reports sets the bits it owns, and no others. -/
structure Merges (c : Comm P) (reply : UInt8 → SwitchFrame) (boards : List UInt8)
    (before after : Vector UInt8 P.kMaxSwitchBytes) : Prop where
  reported : ∀ b ∈ boards, c.Reports reply b → ∀ i < c.runtimeConfig.switchBits,
    i < P.kMaxSwitchBits → ownsBit (c.maskOf b) i = true →
      P.bits.get after i = P.bits.get ((reply b).bitmap P) i
  kept : ∀ i < P.kMaxSwitchBits,
    (∀ b ∈ boards, ¬ (c.Reports reply b ∧ ownsBit (c.maskOf b) i = true)) →
      P.bits.get after i = P.bits.get before i

theorem Merges.nil {c : Comm P} {reply : UInt8 → SwitchFrame}
    {bitmap : Vector UInt8 P.kMaxSwitchBytes} : Merges c reply [] bitmap bitmap where
  reported _ hb := absurd hb List.not_mem_nil
  kept _ _ _ := rfl

/-- Another board first, if no later one owns a bit of it. -/
theorem Merges.cons {c : Comm P} {reply : UInt8 → SwitchFrame} {b : UInt8} {bs : List UInt8}
    {before between after : Vector UInt8 P.kMaxSwitchBytes}
    (hfirst : Merges c reply [b] before between) (hrest : Merges c reply bs between after)
    (hunowned : ∀ i < P.kMaxSwitchBits, ownsBit (c.maskOf b) i = true →
      ∀ b' ∈ bs, ownsBit (c.maskOf b') i ≠ true) : Merges c reply (b :: bs) before after where
  reported b' hb' hreports i hi hmax howns := by
    rcases List.mem_cons.mp hb' with rfl | hb'
    · -- later replies leave the reported bit alone
      rw [hrest.kept i hmax fun b'' hb'' h => hunowned i hmax howns b'' hb'' h.2]
      exact hfirst.reported b' List.mem_cons_self hreports i hi hmax howns
    · exact hrest.reported b' hb' hreports i hi hmax howns
  kept i hmax hnone := by
    rw [hrest.kept i hmax fun b' hb' => hnone b' (List.mem_cons_of_mem b hb')]
    apply hfirst.kept i hmax
    intro b' hb'
    obtain rfl := List.mem_singleton.mp hb'
    exact hnone b' List.mem_cons_self

/-- The bits of the mapped switches after the replies of `boards`: what the
    board of the switch has reported, or what it was before the chain. -/
structure Shows (c : Comm P) (reply : UInt8 → SwitchFrame) (boards : List UInt8)
    (bitmap : Vector UInt8 P.kMaxSwitchBytes) : Prop where
  reported : ∀ b ∈ boards, c.Reports reply b → ∀ k ∈ c.numbersOf b, ∀ i,
    c.switchNumberToIndex.lookup k = some i →
      P.bits.get bitmap i = P.bits.get ((reply b).bitmap P) i
  kept : ∀ k i, c.switchNumberToIndex.lookup k = some i →
    (∀ b ∈ boards, c.Reports reply b → k ∉ c.numbersOf b) →
      P.bits.get bitmap i = P.bits.get c.switchBitmap i

/-- A board owns the bits of its numbers, so merging shows the switches. -/
theorem Merges.shows (hP : P.Lawful pos) {c : Comm P} (hsession : c.Pollable)
    {reply : UInt8 → SwitchFrame} {boards : List UInt8}
    (hlt : ∀ b ∈ boards, b.toNat < RS485_COMM_MAX_BOARDS)
    {bitmap : Vector UInt8 P.kMaxSwitchBytes}
    (h : Merges c reply boards c.switchBitmap bitmap) : Shows c reply boards bitmap := by
  have hmax := (hP.validConfig c.runtimeConfig hsession.valid).2.2
  constructor
  · intro b hb hreports k hk i hi
    have hi' := hsession.maps.index_lt hi
    have hi'' : i < P.kMaxSwitchBits := Nat.lt_of_lt_of_le hi' hmax
    exact h.reported b hb hreports i hi' hi''
      ((hsession.maps.ownsBit_iff hP (hlt b hb) hi'').mpr ⟨k, hk, hi⟩)
  · intro k i hi hnone
    have hi' : i < P.kMaxSwitchBits := Nat.lt_of_lt_of_le (hsession.maps.index_lt hi) hmax
    apply h.kept i hi'
    rintro b hb ⟨hreports, howns⟩
    -- a board that owns the bit lists the number
    obtain ⟨k', hk', hki'⟩ := (hsession.maps.ownsBit_iff hP (hlt b hb) hi').mp howns
    obtain rfl := hsession.maps.number_inj hi hki'
    exact hnone b hb hreports hk'

/-! ### One Hop -/

/-- What a conforming hop does, in terms of the session `c₀` that the chain
    began in. -/
structure CleanHop (c₀ : Comm P) (reply : UInt8 → SwitchFrame) (b : UInt8) (c : Comm P)
    (w : W × List (List UInt8)) (result : SwitchReply × Comm P × W × List (List UInt8)) :
    Prop where
  ok : result.1.ok = true
  token : result.1.nextBoard = c₀.getLogicalNextSwitchBoard b
  part : result.2.1.chainPart = c₀.chainPart
  others : ∀ b', b' ≠ b →
    result.2.1.virtualSwitchBoards.lookup b' = c.virtualSwitchBoards.lookup b'
  wrote : c₀.virtualSwitchBoards.lookup b ≠ none →
    ∃ frame, result.2.2.2 = w.2 ++ [frame] ∧ c₀.IsVirtualReply b c.switchBitmap frame
  silent : c₀.virtualSwitchBoards.lookup b = none → result.2.2.2 = w.2
  merged : Merges c₀ reply [b] c.switchBitmap result.2.1.switchBitmap

/-- The bits after the reply of a board. -/
theorem get_repliedBitmap (hP : P.Lawful pos) (c : Comm P) (b : UInt8) (f : SwitchFrame) {i : Nat}
    (hi : i < P.kMaxSwitchBits) :
    P.bits.get (c.repliedBitmap b f) i =
      if f.frameType = .switchState ∧ i / 8 < P.bitsToBytes c.runtimeConfig.switchBits ∧
          ownsBit (c.maskOf b) i = true then P.bits.get (f.bitmap P) i
      else P.bits.get c.switchBitmap i := by
  unfold repliedBitmap
  by_cases hstate : f.frameType = .switchState
  · rw [if_pos hstate, get_mergedBitmap hP _ _ _ _ (hP.switch_byte_lt hi)]
    simp only [hstate, true_and]
  · simp only [hstate, if_false, false_and]

/-- The session is still pollable after a part of the chain. -/
theorem Pollable.of_chainPart {c₀ c : Comm P} (h : c₀.Pollable)
    (hpart : c.chainPart = c₀.chainPart) :
    c.portOpen = true ∧ P.isValidRuntimeConfig c.runtimeConfig = true := by
  have hopen : c.portOpen = c₀.portOpen := (congrArg Comm.portOpen hpart :)
  have hconfig : c.runtimeConfig = c₀.runtimeConfig := (congrArg Comm.runtimeConfig hpart :)
  rw [hopen, hconfig]
  exact ⟨h.portOpen, h.valid⟩

section hop

variable {port : SerialPort W} {reply : UInt8 → SwitchFrame} {c₀ c : Comm P} {b : UInt8}

/-- A hop of a virtualized board: one frame is written, and no bit changes. -/
theorem cleanHop_virtual (hsession : c₀.Pollable) (hpart : c.chainPart = c₀.chainPart)
    {boardState : VirtualSwitchBoardState}
    (hlookup : c.virtualSwitchBoards.lookup b = some boardState)
    (hlookup₀ : c₀.virtualSwitchBoards.lookup b = some boardState) (r : SwitchReply)
    (w : W × List (List UInt8))
    (hwrite : (port.recording.write (c.virtualReplyFrame boardState.dirty
      (c.getLogicalNextSwitchBoard b) c.switchBitmap) (c.replyPause port.recording w)).1 =
        (c.virtualReplyFrame boardState.dirty (c.getLogicalNextSwitchBoard b)
          c.switchBitmap).length) :
    CleanHop c₀ reply b c w (ChainHop.run port.recording ⟨b, r, c, w⟩) ∧
      ChainHop.readFrame port.recording ⟨b, r, c, w⟩ = none := by
  obtain ⟨hopen, hvalid⟩ := hsession.of_chainPart hpart
  have hnext : c.getLogicalNextSwitchBoard b = c₀.getLogicalNextSwitchBoard b :=
    (congrArg (fun d : Comm P => d.getLogicalNextSwitchBoard b) hpart :)
  have hvirtual : ChainHop.isVirtual ⟨b, r, c, w⟩ = true := by
    unfold ChainHop.isVirtual
    rw [show c.virtualSwitchBoards.lookup b = some boardState from hlookup]
    rfl
  have hrun := sendVirtual_of_write hopen hvalid hlookup
    { r with nextBoard := c.getLogicalNextSwitchBoard b } hwrite
  unfold ChainHop.run ChainHop.readFrame
  rw [hvirtual, if_pos rfl, if_pos rfl]
  refine ⟨?_, rfl⟩
  show CleanHop c₀ reply b c w (c.sendVirtualSwitchReply port.recording b
    (c.getLogicalNextSwitchBoard b) { r with nextBoard := c.getLogicalNextSwitchBoard b } w)
  rw [hrun]
  refine ⟨rfl, hnext, (chainPart_clearDirty b c).trans hpart, ?_, ?_, ?_, ?_, ?_⟩
  · intro b' hb'
    rw [lookup_clearDirty, if_neg hb']
  · intro _
    refine ⟨c.virtualReplyFrame boardState.dirty (c.getLogicalNextSwitchBoard b)
      c.switchBitmap, ?_, boardState, hlookup₀, ?_⟩
    · -- the pause writes nothing
      unfold replyPause
      split <;> rfl
    · rw [hnext, getLogicalNextSwitchBoard_eq]
      exact (congrArg (fun d : Comm P => d.virtualReplyFrame boardState.dirty
        (c₀.switchBoards.nextOr b P.kNoBoard) c.switchBitmap) hpart :)
  · intro hnone
    rw [hlookup₀] at hnone
    contradiction
  · intro b' hb' hreports
    obtain rfl := List.mem_singleton.mp hb'
    have hnone := hreports.1
    rw [hlookup₀] at hnone
    contradiction
  · intro i _ _
    show P.bits.get (c.clearDirty b).switchBitmap i = _
    rw [switchBitmap_clearDirty]

/-- A hop of a real board: nothing is written, and its own bits become those
    of the reply. -/
theorem cleanHop_real (hP : P.Lawful pos) (hquiet : P.InSyncIsQuiet) (hsession : c₀.Pollable)
    (hpart : c.chainPart = c₀.chainPart) (hlookup : c.virtualSwitchBoards.lookup b = none)
    (hlookup₀ : c₀.virtualSwitchBoards.lookup b = none)
    (hreply : c.ValidReply (c.getLogicalNextSwitchBoard b) (reply b)) (r : SwitchReply)
    (w : W × List (List UInt8))
    (hanswers : port.recording.Answers (reply b).buffer
      (port.recording.window c.switchReplyWindowUs w) w) :
    CleanHop c₀ reply b c w (ChainHop.run port.recording ⟨b, r, c, w⟩) ∧
      ChainHop.readFrame port.recording ⟨b, r, c, w⟩ = some (reply b) := by
  obtain ⟨hopen, hvalid⟩ := hsession.of_chainPart hpart
  have hconfig : c.runtimeConfig = c₀.runtimeConfig := (congrArg Comm.runtimeConfig hpart :)
  have hnext : c.getLogicalNextSwitchBoard b = c₀.getLogicalNextSwitchBoard b :=
    (congrArg (fun d : Comm P => d.getLogicalNextSwitchBoard b) hpart :)
  have hmask : c.maskOf b = c₀.maskOf b := (congrArg (fun d : Comm P => d.maskOf b) hpart :)
  -- the board is not served by the host
  have hreal : ChainHop.isVirtual ⟨b, r, c, w⟩ = false := by
    unfold ChainHop.isVirtual
    rw [show c.virtualSwitchBoards.lookup b = none from hlookup]
    rfl
  obtain ⟨hframe, log, refreshAt, switches, w', hrun⟩ :=
    receive_validReply hquiet hopen hvalid hreply b r hanswers
  have hwrites := receiveSwitchStateFrame_recording port b r c w
  unfold ChainHop.run ChainHop.readFrame
  rw [hreal, if_neg (by simp), if_neg (by simp)]
  refine ⟨?_, hframe⟩
  dsimp only
  rw [hrun] at hwrites ⊢
  refine ⟨rfl, hnext, hpart, fun _ _ => rfl, fun hsome => absurd hlookup₀ hsome,
    fun _ => hwrites, ?_, ?_⟩
  · -- the bits that the board owns are those of its reply
    intro b' hb' hreports i hi hmax howns
    obtain rfl := List.mem_singleton.mp hb'
    have hbyte := hP.bitsToBytes c.runtimeConfig.switchBits i (by rw [hconfig]; exact hi)
    show P.bits.get (c.repliedBitmap b' (reply b')) i = _
    rw [get_repliedBitmap hP c b' (reply b') hmax, hmask]
    exact if_pos ⟨hreports.2, hbyte, howns⟩
  · -- and no others are
    intro i hmax hnot
    show P.bits.get (c.repliedBitmap b (reply b)) i = _
    rw [get_repliedBitmap hP c b (reply b) hmax, hmask]
    rw [if_neg]
    rintro ⟨hstate, -, howns⟩
    exact hnot b List.mem_cons_self ⟨⟨hlookup₀, hstate⟩, howns⟩

/-- **Step lemma**: a conforming hop of a board. -/
theorem cleanHop (hP : P.Lawful pos) (hquiet : P.InSyncIsQuiet) (hsession : c₀.Pollable)
    (hpart : c.chainPart = c₀.chainPart)
    (hsame : c.virtualSwitchBoards.lookup b = c₀.virtualSwitchBoards.lookup b) (r : SwitchReply)
    (w : W × List (List UInt8))
    (hbus : ChainHop.Conforms port.recording reply ⟨b, r, c, w⟩) :
    CleanHop c₀ reply b c w (ChainHop.run port.recording ⟨b, r, c, w⟩) ∧
      ChainHop.readFrame port.recording ⟨b, r, c, w⟩ =
        if c₀.virtualSwitchBoards.lookup b = none then some (reply b) else none := by
  cases hbus with
  | @virtual boardState hlookup hwrite =>
    have hlookup₀ : c₀.virtualSwitchBoards.lookup b = some boardState := hsame.symm.trans hlookup
    rw [if_neg (by rw [hlookup₀]; simp)]
    exact cleanHop_virtual hsession hpart hlookup hlookup₀ r w hwrite
  | real hlookup hreply hanswers =>
    have hlookup₀ : c₀.virtualSwitchBoards.lookup b = none := hsame.symm.trans hlookup
    rw [if_pos hlookup₀]
    exact cleanHop_real hP hquiet hsession hpart hlookup hlookup₀ hreply r w hanswers

end hop

/-! ### The Whole Chain -/

/-- What the hops for the boards `bs` do, in terms of the session `c₀` that the
    chain began in. -/
structure CleanHops (c₀ : Comm P) (port : SerialPort W) (reply : UInt8 → SwitchFrame)
    (bs : List UInt8) (c : Comm P) (w : W × List (List UInt8))
    (run : ChainRun P (W × List (List UInt8))) : Prop where
  success : run.success = true
  ended : run.expected = P.kNoBoard
  boards : run.hops.map ChainHop.board = bs
  reads : run.hops.filterMap (ChainHop.readFrame port.recording) =
    (bs.filter fun b => (c₀.virtualSwitchBoards.lookup b).isNone).map reply
  writes : ∃ frames, run.world.2 = w.2 ++ frames ∧
    List.Forall₂ (fun h frame => c₀.IsVirtualReply h.board h.comm.switchBitmap frame)
      (run.hops.filter fun h => (c₀.virtualSwitchBoards.lookup h.board).isSome) frames
  part : run.comm.chainPart = c₀.chainPart
  merged : Merges c₀ reply bs c.switchBitmap run.comm.switchBitmap
  /-- Each hop begins with the bits that the hops before it have made. -/
  mergedAt : ∀ done h later, run.hops = done ++ h :: later →
    Merges c₀ reply (done.map ChainHop.board) c.switchBitmap h.comm.switchBitmap

/-- **Run lemma**: the hops for the boards that are left. -/
theorem cleanHops (hP : P.Lawful pos) (hquiet : P.InSyncIsQuiet) {port : SerialPort W}
    {reply : UInt8 → SwitchFrame} {c₀ : Comm P} (hsession : c₀.Pollable)
    (hlt : ∀ b ∈ c₀.switchBoards, b.toNat < RS485_COMM_MAX_BOARDS)
    (hdone : P.kNoBoard ∉ c₀.switchBoards) {done bs : List UInt8}
    (hboards : c₀.switchBoards = done ++ bs) (hnodup : (done ++ bs).Nodup) {hops : Nat}
    (hhops : bs.length ≤ hops) (r : SwitchReply) {c : Comm P} {w : W × List (List UInt8)}
    (hpart : c.chainPart = c₀.chainPart)
    (hsame : ∀ b ∈ bs, c.virtualSwitchBoards.lookup b = c₀.virtualSwitchBoards.lookup b)
    (hbus : ∀ h ∈ (chainHops port.recording hops (bs.headD P.kNoBoard) r c w).hops,
      h.Conforms port.recording reply) :
    CleanHops c₀ port reply bs c w
      (chainHops port.recording hops (bs.headD P.kNoBoard) r c w) := by
  induction bs generalizing done hops r c w with
  | nil =>
    have hstop : chainHops port.recording hops P.kNoBoard r c w =
        ⟨[], true, P.kNoBoard, c, w⟩ := by
      cases hops with
      | zero => rfl
      | succ hops => exact if_pos rfl
    rw [List.headD_nil, hstop]
    refine ⟨rfl, rfl, rfl, rfl, ⟨[], by simp, .nil⟩, hpart, .nil, ?_⟩
    intro done h later hhops
    simp at hhops
  | cons b bs ih =>
    obtain ⟨hops, rfl⟩ : ∃ n, hops = n + 1 := ⟨hops - 1, by rw [List.length_cons] at hhops; omega⟩
    have hmem : b ∈ c₀.switchBoards := by
      rw [hboards]
      exact List.mem_append_right done List.mem_cons_self
    have hmore : b ≠ P.kNoBoard := by
      rintro rfl
      exact hdone hmem
    have hnew : b ∉ done := by
      intro hin
      exact (List.nodup_append.mp hnodup).2.2 b hin b List.mem_cons_self rfl
    have hlater : b ∉ bs := (List.nodup_cons.mp (List.nodup_append.mp hnodup).2.1).1
    have hsuccessor : c₀.getLogicalNextSwitchBoard b = bs.headD P.kNoBoard := by
      rw [getLogicalNextSwitchBoard_eq, hboards]
      exact nextOr_append_cons hnew bs
    rw [List.headD_cons] at hbus ⊢
    unfold chainHops at hbus ⊢
    rw [if_neg hmore] at hbus ⊢
    dsimp only at hbus ⊢
    -- the first hop conforms, whether or not the others are made
    have hfirst : ChainHop.Conforms port.recording reply ⟨b, r, c, w⟩ := by
      apply hbus
      split <;> exact List.mem_cons_self
    obtain ⟨hop, hread⟩ := cleanHop hP hquiet hsession hpart (hsame b List.mem_cons_self) r w hfirst
    generalize ChainHop.run port.recording ⟨b, r, c, w⟩ = result at hop hbus ⊢
    obtain ⟨r', c', w'⟩ := result
    obtain ⟨hok, htoken, hpart', hothers, hwrote, hsilent, hmerged⟩ := hop
    dsimp only at hok htoken hpart' hothers hwrote hsilent hmerged hbus ⊢
    rw [if_pos hok] at hbus ⊢
    rw [htoken, hsuccessor] at hbus ⊢
    dsimp only at hbus ⊢
    have hrest := ih (by rw [hboards, List.append_cons]) (by rwa [← List.append_cons])
      (by rw [List.length_cons] at hhops; omega) r' hpart' (w := w')
      (fun b' hb' => (hothers b' (fun heq => hlater (heq ▸ hb'))).trans
        (hsame b' (List.mem_cons_of_mem b hb')))
      (fun h hh => hbus h (List.mem_cons_of_mem _ hh))
    generalize chainHops port.recording hops (bs.headD P.kNoBoard) r' c' w' = run at hrest ⊢
    -- no later board owns a bit of this one
    have hunowned : ∀ i < P.kMaxSwitchBits, ownsBit (c₀.maskOf b) i = true →
        ∀ b' ∈ bs, ownsBit (c₀.maskOf b') i ≠ true := by
      intro i hi howns b' hb' howns'
      have hmem' : b' ∈ c₀.switchBoards := by
        rw [hboards]
        exact List.mem_append_right done (List.mem_cons_of_mem b hb')
      obtain rfl := hsession.oneBoard.owner_unique hsession.maps hP (hlt b hmem) (hlt b' hmem') hi
        howns howns'
      exact hlater hb'
    refine ⟨hrest.success, hrest.ended, ?_, ?_, ?_, hrest.part,
      hmerged.cons hrest.merged hunowned, ?_⟩
    · rw [List.map_cons, hrest.boards]
    · rw [List.filterMap_cons, hread, hrest.reads]
      cases hlookup : c₀.virtualSwitchBoards.lookup b <;> simp [hlookup]
    · obtain ⟨frames, hlog, hframes⟩ := hrest.writes
      cases hlookup : c₀.virtualSwitchBoards.lookup b with
      | none =>
        refine ⟨frames, ?_, ?_⟩
        · rw [hlog, hsilent hlookup]
        · rw [List.filter_cons_of_neg (by simp [hlookup])]
          exact hframes
      | some boardState =>
        obtain ⟨frame, hframe, hvirtual⟩ := hwrote (by simp [hlookup])
        refine ⟨frame :: frames, ?_, ?_⟩
        · rw [hlog, hframe, List.append_assoc]
          rfl
        · rw [List.filter_cons_of_pos (by simp [hlookup])]
          exact .cons hvirtual hframes
    · intro done' h later hsplit
      cases done' with
      | nil =>
        obtain ⟨rfl, -⟩ := List.cons.inj hsplit
        exact .nil
      | cons first done' =>
        obtain ⟨hhead, htail⟩ := List.cons.inj hsplit
        subst hhead
        refine hmerged.cons (hrest.mergedAt done' h later htail) ?_
        intro i hi howns b' hb'
        -- the hops before this one are for boards of the list
        apply hunowned i hi howns b'
        rw [← hrest.boards, show run.hops = done' ++ h :: later from htail, List.map_append]
        exact List.mem_append_left _ hb'

/-! ### The Poll -/

/-- The chain from `m_switchBoards[0]` on, with its hops. -/
def pollRun (port : SerialPort W) (c : Comm P) (w : W) : ChainRun P W :=
  c.chainRun port (c.switchBoards.headD P.kNoBoard) w

/-- The session after that chain. -/
def afterPoll (port : SerialPort W) (c : Comm P) (w : W) : Comm P :=
  (c.receiveSwitchStateChain port (c.switchBoards.headD P.kNoBoard) w).1

/-- A poll that went as it should; the world remembers the writes. -/
structure CleanPoll (port : SerialPort W) (reply : UInt8 → SwitchFrame) (c : Comm P)
    (w : W × List (List UInt8)) : Prop where
  /-- One hop for each board, in the order of the list. -/
  boards : (c.pollRun port.recording w).hops.map ChainHop.board = c.switchBoards
  ended : (c.pollRun port.recording w).expected = P.kNoBoard
  /-- One reply is read for each board that answers by itself. -/
  reads : (c.pollRun port.recording w).hops.filterMap (ChainHop.readFrame port.recording) =
    (c.switchBoards.filter fun b => (c.virtualSwitchBoards.lookup b).isNone).map reply
  /-- One reply is written in the hop of each virtualized board, with the
      switch bits at that hop, and nothing else. -/
  writes : ∃ frames,
    (c.receiveSwitchStateChain port.recording (c.switchBoards.headD P.kNoBoard) w).2.2 =
      w.2 ++ frames ∧
    List.Forall₂ (fun h frame => c.IsVirtualReply h.board h.comm.switchBitmap frame)
      ((c.pollRun port.recording w).hops.filter fun h =>
        (c.virtualSwitchBoards.lookup h.board).isSome) frames
  /-- At each hop the boards before it have reported. -/
  shownAt : ∀ done h later, (c.pollRun port.recording w).hops = done ++ h :: later →
    Shows c reply (done.map ChainHop.board) h.comm.switchBitmap
  clean : (c.afterPoll port.recording w).cleanSwitchReplyChainCount =
    c.cleanSwitchReplyChainCount + 1
  missed : (c.afterPoll port.recording w).switchReplyMissCount = c.switchReplyMissCount
  missStreak : (c.afterPoll port.recording w).switchReplyMisses = 0
  noResync : (c.afterPoll port.recording w).needSessionResync = c.needSessionResync
  /-- The switches of a board that reports get the reported bits, all others
      keep theirs. -/
  shown : Shows c reply c.switchBoards (c.afterPoll port.recording w).switchBitmap

/-- **A conforming bus is polled cleanly**: for every list of distinct boards
    with numbers in the mask table, every set of virtualized boards among
    them, every contents of the switch state and every session in which the
    boards can be polled. -/
theorem conforming_bus_polled_cleanly (hP : P.Lawful pos) (hno : P.ReservesNoBoard)
    (hquiet : P.InSyncIsQuiet) (port : SerialPort W) (reply : UInt8 → SwitchFrame) (c : Comm P)
    (w : W × List (List UInt8)) (hsession : c.Pollable) (hnodup : c.switchBoards.Nodup)
    (hlt : ∀ b ∈ c.switchBoards, b.toNat < RS485_COMM_MAX_BOARDS)
    (hbus : ∀ h ∈ (c.pollRun port.recording w).hops, h.Conforms port.recording reply) :
    CleanPoll port reply c w := by
  have hdone : P.kNoBoard ∉ c.switchBoards := fun hin => absurd hno (Nat.not_le.mpr (hlt _ hin))
  -- distinct numbers below the hop limit
  have hlength : c.switchBoards.length ≤ RS485_COMM_MAX_BOARDS := by
    have hsub := (Startup.map_toNat_subperm hnodup hlt).length_le
    rwa [List.length_map, List.length_range] at hsub
  have hhops : CleanHops c port reply c.switchBoards c w (c.pollRun port.recording w) :=
    cleanHops hP hquiet hsession hlt hdone (List.nil_append _).symm hnodup hlength _ rfl
      (fun _ _ => rfl) hbus
  have hchain := receiveSwitchStateChain_eq port.recording (c.switchBoards.headD P.kNoBoard) c w
  have hafter : c.afterPoll port.recording w =
      (c.pollRun port.recording w).comm.noteSwitchReplyChain port.recording
        (c.pollRun port.recording w).world true := by
    unfold afterPoll
    rw [hchain, ← hhops.success]
    rfl
  have hpart := hhops.part
  refine ⟨hhops.boards, hhops.ended, hhops.reads, ?_, ?_, ?_, ?_, ?_, ?_, ?_⟩
  · rw [hchain]
    exact hhops.writes
  · intro done h later hsplit
    refine (hhops.mergedAt done h later hsplit).shows hP hsession fun b hb => hlt b ?_
    rw [← hhops.boards, hsplit, List.map_append]
    exact List.mem_append_left _ hb
  · rw [hafter]
    exact (congrArg (fun d : Comm P => d.cleanSwitchReplyChainCount + 1) hpart :)
  · rw [hafter]
    exact (congrArg Comm.switchReplyMissCount hpart :)
  · rw [hafter]
    rfl
  · rw [hafter]
    exact (congrArg Comm.needSessionResync hpart :)
  · rw [hafter]
    exact hhops.merged.shows hP hsession hlt

end Comm

namespace Reference

open Comm

theorem protocol_inSyncIsQuiet : protocol.InSyncIsQuiet := rfl

/-- A scripted world without chunk sizes delivers what lies there. -/
theorem delivers_script (bytes : List UInt8) {rest : List UInt8} {w : Script}
    (log : List (List UInt8)) (hchunks : w.chunks = []) (hrx : w.rx = bytes ++ rest) :
    port.recording.Delivers bytes (w, log) := by
  induction hlength : bytes.length using Nat.strong_induction_on generalizing bytes w with
  | _ length ih =>
    have hread : ∀ n, n ≤ bytes.length → port.recording.read n (w, log) =
        (bytes.take n, { w with rx := bytes.drop n ++ rest }, log) := by
      intro n hn
      simp only [SerialPort.recording, port, hchunks, hrx]
      rw [List.take_append_of_le_length hn, List.drop_append_of_le_length hn]
    refine .intro ?_ ?_
    · intro n hpos hn
      rw [hread n hn]
      refine ⟨?_, List.take_prefix n bytes⟩
      intro hnone
      have hzero := congrArg List.length hnone
      rw [List.length_take, List.length_nil] at hzero
      omega
    · intro n hpos hn
      rw [hread n hn]
      dsimp only
      rw [List.length_take, Nat.min_eq_left hn]
      refine ih (bytes.drop n).length ?_ (bytes.drop n) hchunks rfl rfl
      rw [List.length_drop]
      omega

/-- Board 1 answers and owns switch 30, board 2 is virtualized. -/
def pollSession : Comm protocol := switchSession.setActiveSwitchBoards [1, 2]

/-- Board 1 reports that switch 30 is closed, and hands on to board 2. -/
def pollReply : SwitchFrame where
  frameType := .switchState
  buffer := protocol.buildSwitchReplyFrame true 2 0 1 1 0 0
    (Vector.ofFn fun k => if k.val = 0 then 1 else 0) 1

def pollWorld : Script := { rx := pollReply.buffer, rounds := 1 }

theorem write_script (buffer : List UInt8) {w : Script} (hwrites : w.writes = []) :
    (port.write buffer w).1 = buffer.length := by
  unfold port
  dsimp only
  rw [hwrites]

/-- A virtual hop conforms in a world whose writes succeed. -/
theorem conforms_virtual (reply : UInt8 → SwitchFrame)
    {h : ChainHop protocol (Script × List (List UInt8))} (hvirtual : h.isVirtual = true)
    (hwrites : h.world.1.writes = []) : h.Conforms port.recording reply := by
  obtain ⟨boardState, hlookup⟩ := Option.isSome_iff_exists.mp hvirtual
  refine .virtual hlookup ?_
  -- the pause leaves the script alone
  have hpause : (h.comm.replyPause port.recording h.world).1.writes = [] := by
    unfold replyPause
    split
    · exact hwrites
    · exact hwrites
  exact write_script _ hpause

/-- A hop that waits for `pollReply` conforms. -/
theorem conforms_pollReply {h : ChainHop protocol (Script × List (List UInt8))}
    (hreal : h.isVirtual = false) (hnext : h.successor = 2) (hworld : h.world.1 = pollWorld)
    (hepoch : h.comm.epoch = 1) (hsequence : h.comm.lastOutputSequenceSent = 0)
    (hconfig : h.comm.runtimeConfig = ⟨1, 1, 2⟩) :
    h.Conforms port.recording fun _ => pollReply := by
  have hlookup : h.comm.virtualSwitchBoards.lookup h.board = none := by
    simpa [ChainHop.isVirtual] using hreal
  have hreply : h.comm.IsReply pollReply := by
    refine ⟨pollReply.buffer.tail.take 4, pollReply.buffer.drop 5, 4, by decide +kernel,
      by decide +kernel, by decide +kernel, ?_, by decide +kernel⟩
    unfold switchReplyPayloadBytes
    rw [hconfig]
    rfl
  have hanswers : port.recording.Answers pollReply.buffer 1 h.world :=
    .speaks (@delivers_script pollReply.buffer [] h.world.1 h.world.2 (by rw [hworld]; rfl)
      (by rw [hworld]; exact (List.append_nil _).symm))
  refine .real hlookup ⟨hreply, by decide +kernel, ?_, ?_, by decide +kernel, ?_⟩ ?_
  · rw [hepoch]
    decide +kernel
  · rw [hsequence]
    decide +kernel
  · rw [hnext]
    decide +kernel
  · show port.recording.Answers pollReply.buffer h.world.1.rounds h.world
    rw [hworld]
    exact hanswers

/-- What the bus can see of a hop. -/
def hopFacts (h : ChainHop protocol (Script × List (List UInt8))) :
    Bool × UInt8 × Script × UInt8 × UInt8 × RuntimeConfig :=
  (h.isVirtual, h.successor, h.world.1, h.comm.epoch, h.comm.lastOutputSequenceSent,
    h.comm.runtimeConfig)

theorem pollSession_fits :
    ∀ b ∈ pollSession.switchBoards, b.toNat < RS485_COMM_MAX_BOARDS := by
  intro b hb
  have hactive : b ∈ activeSwitchBoards [1, 2] := hb
  exact Startup.activeSwitchBoards_lt hactive

/-- The reply of board 1 is read, then the host answers for board 2. -/
theorem pollSession_polled : CleanPoll port (fun _ => pollReply) pollSession (pollWorld, []) := by
  have hmaps : pollSession.SwitchMaps :=
    (switchMaps_installMappings protocol_lawful [10] [20] switchItems [1, 2] ∅
      switchHost).finalize.congr rfl rfl rfl rfl rfl
  have hone : pollSession.OneBoardEach := by
    have hinstalled : (switchHost.installMappings [10] [20] switchItems [1, 2] ∅).OneBoardEach :=
      oneBoardEach_installMappings (by decide)
    obtain ⟨boards, owners, heq⟩ := finalizeConfiguredBoardPresence_eq
      (switchHost.installMappings [10] [20] switchItems [1, 2] ∅)
    unfold pollSession switchSession
    rw [heq]
    exact hinstalled
  have hhops : (pollSession.pollRun port.recording (pollWorld, [])).hops.map hopFacts =
      [(false, 2, pollWorld, 1, 0, ⟨1, 1, 2⟩),
        (true, 0xFF, { pollWorld with rx := [] }, 1, 0, ⟨1, 1, 2⟩)] := by
    decide +kernel
  refine conforming_bus_polled_cleanly protocol_lawful protocol_reservesNoBoard
    protocol_inSyncIsQuiet port (fun _ => pollReply) pollSession (pollWorld, [])
    ⟨rfl, by decide +kernel, hmaps, hone⟩ (by decide) pollSession_fits ?_
  intro h hh
  have hfacts := List.mem_map_of_mem (f := hopFacts) hh
  rw [hhops] at hfacts
  simp only [hopFacts, List.mem_cons, List.not_mem_nil, or_false, Prod.mk.injEq] at hfacts
  rcases hfacts with ⟨hreal, hnext, hworld, hepoch, hsequence, hconfig⟩ | ⟨hvirtual, -, hworld, -⟩
  · exact conforms_pollReply hreal hnext hworld hepoch hsequence hconfig
  · exact conforms_virtual _ hvirtual (by rw [hworld]; rfl)

end Reference

end LibPpuc
