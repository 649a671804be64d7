import LibPpuc.Comm.State
import Mathlib.Data.List.Range

/-! # The Switch State

  Switch transitions reach the application through one queue, fed by two
  operations: `ApplySwitchBitmapDiff` merges the reply of a real board into
  `m_switchBitmap` under that board's ownership mask, and
  `SetVirtualSwitchState` sets one switch of a virtualized board.
-/

namespace LibPpuc

/-- Overwrite entry `i` of a virtualized board, and mark the board dirty. -/
def VirtualSwitchBoardState.setEntry (boardState : VirtualSwitchBoardState) (i state : Nat) :
    VirtualSwitchBoardState :=
  { boardState with
    switchStates := boardState.switchStates.set i state
    dirty := true
    sizes := by rw [List.length_set, boardState.sizes] }

/-- A virtualized board after its reply went out. -/
def VirtualSwitchBoardState.clearDirty (boardState : VirtualSwitchBoardState) :
    VirtualSwitchBoardState :=
  { boardState with dirty := false }

namespace Comm

variable {P : Protocol} {W : Type}

/-- `NoteSwitchActivity`: every switch but a button restarts the refresh timer. -/
def noteSwitchActivity (now : Nat) (switchNumber : UInt16) (c : Comm P) : Comm P :=
  if c.switchRefreshIdleMs = 0 ∨ switchNumber ∈ c.buttonSwitchNumbers then c
  else { c with nextSwitchRefreshAt := some (now + c.switchRefreshIdleMs) }

/-! ### Replies of Real Boards -/

/-- The ownership mask of a board, if its number is in the mask table. -/
def maskOf (board : UInt8) (c : Comm P) : Option (Vector UInt8 P.kMaxSwitchBytes) :=
  if board.toNat < RS485_COMM_MAX_BOARDS then some (c.switchOwnershipMaskByBoard board) else none

/-- Whether the diff looks at bit `n`: a board outside the table owns all bits. -/
def ownsBit (mask : Option (Vector UInt8 P.kMaxSwitchBytes)) (n : Nat) : Bool :=
  match mask with
  | some m => P.bits.get m n
  | none => true

/-- The number reported for bit `n`. -/
def switchNumberAt (c : Comm P) (n : Nat) : Nat :=
  match c.switchIndexToNumber[n]? with
  | some number => number.toNat
  | none => n

/-- One round of the loop of `ApplySwitchBitmapDiff`: report bit `n` if it
    is owned and differs. -/
def reportSwitchBit (now : Nat) (mask : Option (Vector UInt8 P.kMaxSwitchBytes))
    (bitmap : Vector UInt8 P.kMaxSwitchBytes) (c : Comm P) (n : Nat) : Comm P :=
  if ownsBit mask n ∧ P.bits.get c.switchBitmap n ≠ P.bits.get bitmap n then
    let switchNumber := c.switchNumberAt n
    let noted := c.noteSwitchActivity now (UInt16.ofNat switchNumber)
    { noted with
      switches := noted.switches ++
        [{ number := switchNumber, state := if P.bits.get bitmap n then 1 else 0 }] }
  else c

/-- `m_switchBitmap` after the reply of a board: the merge under its mask, a
    plain copy for a board outside the mask table. -/
def mergedBitmap (mask : Option (Vector UInt8 P.kMaxSwitchBytes)) (bytes : Nat)
    (old new : Vector UInt8 P.kMaxSwitchBytes) : Vector UInt8 P.kMaxSwitchBytes :=
  match mask with
  | none => BitAccess.copy bytes old new
  | some m => BitAccess.merge bytes m old new

/-- The merge at the end of `ApplySwitchBitmapDiff`. -/
def mergeSwitchBitmap (mask : Option (Vector UInt8 P.kMaxSwitchBytes))
    (bitmap : Vector UInt8 P.kMaxSwitchBytes) (bytes : Nat) (c : Comm P) : Comm P :=
  { c with switchBitmap := mergedBitmap mask bytes c.switchBitmap bitmap }

/-- `ApplySwitchBitmapDiff`. -/
def applySwitchBitmapDiff (now : Nat) (board : UInt8) (bitmap : Vector UInt8 P.kMaxSwitchBytes)
    (bytes : Nat) (c : Comm P) : Comm P :=
  ((List.range c.runtimeConfig.switchBits).foldl
    (reportSwitchBit now (c.maskOf board) bitmap) c).mergeSwitchBitmap
      (c.maskOf board) bitmap bytes

/-! ### Virtualized Boards -/

/-- The state a virtualized board starts with: all switches open. -/
def virtualBoardState (c : Comm P) (board : UInt8) : VirtualSwitchBoardState where
  board := board
  switchNumbers := (c.switchNumbersByBoard.lookup board).getD []
  switchStates := List.replicate ((c.switchNumbersByBoard.lookup board).getD []).length 0
  sizes := List.length_replicate

/-- One round of the board loop of `FinalizeConfiguredBoardPresence`. -/
def virtualizeBoard (c : Comm P) (board : UInt8) : Comm P :=
  if board ∈ c.presentBoards then c
  else
    { c with
      virtualSwitchOwnerByNumber :=
        (c.virtualBoardState board).switchNumbers.foldl
          (fun owners switchNumber => owners.insert switchNumber board)
          c.virtualSwitchOwnerByNumber
      virtualSwitchBoards := c.virtualSwitchBoards.insert board (c.virtualBoardState board) }

/-- `FinalizeConfiguredBoardPresence`: every configured board that did not
    answer is virtualized. -/
def finalizeConfiguredBoardPresence (c : Comm P) : Comm P :=
  if c.boardPresenceFinalized then c
  else
    { c.configuredBoards.foldl virtualizeBoard
        { c with virtualSwitchBoards := ∅, virtualSwitchOwnerByNumber := ∅ } with
      boardPresenceFinalized := true }

theorem finalizeConfiguredBoardPresence_of_finalized {c : Comm P}
    (h : c.boardPresenceFinalized = true) : c.finalizeConfiguredBoardPresence = c := by
  unfold finalizeConfiguredBoardPresence
  rw [if_pos h]

/-- `GetMissingConfiguredBoards`. -/
def getMissingConfiguredBoards (c : Comm P) : List UInt8 :=
  c.configuredBoards.filter fun board => board ∉ c.skippedBoards ∧ board ∉ c.presentBoards

/-- `IsBoardVirtualized`, which finalizes the presence first. -/
def isBoardVirtualized (board : UInt8) (c : Comm P) : Bool × Comm P :=
  let c := c.finalizeConfiguredBoardPresence
  ((c.virtualSwitchBoards.lookup board).isSome, c)

/-- `IsSwitchVirtualized`, which finalizes the presence first. -/
def isSwitchVirtualized (number : UInt16) (c : Comm P) : Bool × Comm P :=
  let c := c.finalizeConfiguredBoardPresence
  ((c.virtualSwitchOwnerByNumber.lookup number).isSome, c)

/-- The update of `SetVirtualSwitchState`, once it is known that the state
    changes: entry, dirty flag, refresh timer, bitmap, event. -/
def changeVirtualSwitch (now : Nat) (boardState : VirtualSwitchBoardState) (owner : UInt8)
    (i : Nat) (number : UInt16) (normalizedState : Nat) (c : Comm P) : Comm P :=
  let noted : Comm P :=
    noteSwitchActivity now number
      { c with
        virtualSwitchBoards :=
          c.virtualSwitchBoards.insert owner (boardState.setEntry i normalizedState) }
  { noted with
    switchBitmap :=
      match noted.switchNumberToIndex.lookup number with
      | some index =>
        if index < P.kMaxSwitchBits then
          P.bits.set noted.switchBitmap index (normalizedState != 0)
        else noted.switchBitmap
      | none => noted.switchBitmap
    switches := noted.switches ++ [{ number := number.toNat, state := normalizedState }] }

/-- `normalizedState` of `SetVirtualSwitchState`. -/
def normalizedState (state : UInt8) : Nat := if state = 0 then 0 else 1

/-- `SetVirtualSwitchState`: whether the number is a virtualized switch. -/
def setVirtualSwitchState (now : Nat) (number : UInt16) (state : UInt8) (c : Comm P) :
    Bool × Comm P :=
  let c := c.finalizeConfiguredBoardPresence
  match c.virtualSwitchOwnerByNumber.lookup number with
  | none => (false, c)
  | some owner =>
    match c.virtualSwitchBoards.lookup owner with
    | none => (false, c)
    | some boardState =>
      match boardState.switchNumbers.idxOf? number with
      | none => (false, c)
      | some i =>
        if boardState.switchStates[i]? = some (normalizedState state) then (true, c)
        else (true, c.changeVirtualSwitch now boardState owner i number (normalizedState state))

/-- `GetNextSwitchState`. -/
def getNextSwitchState (c : Comm P) : Option PPUCSwitchState × Comm P :=
  match c.switches with
  | [] => (none, c)
  | s :: rest => (some s, { c with switches := rest })

/-! ### What a Reply Does to the Switch State -/

/-- The events of a reply: one for every owned bit that differs. -/
def reportedEvents (mask : Option (Vector UInt8 P.kMaxSwitchBytes))
    (bitmap : Vector UInt8 P.kMaxSwitchBytes) (c : Comm P) (ns : List Nat) :
    List PPUCSwitchState :=
  (ns.filter fun n => ownsBit mask n && (P.bits.get c.switchBitmap n != P.bits.get bitmap n)).map
    fun n => { number := c.switchNumberAt n, state := if P.bits.get bitmap n then 1 else 0 }

/-- The loop of `ApplySwitchBitmapDiff` over any list of bits. -/
theorem foldl_reportSwitchBit (now : Nat) (mask : Option (Vector UInt8 P.kMaxSwitchBytes))
    (bitmap : Vector UInt8 P.kMaxSwitchBytes) (ns : List Nat) (c : Comm P) :
    ∃ refreshAt, ns.foldl (reportSwitchBit now mask bitmap) c =
      { c with
        nextSwitchRefreshAt := refreshAt
        switches := c.switches ++ reportedEvents mask bitmap c ns } := by
  induction ns generalizing c with
  | nil => exact ⟨c.nextSwitchRefreshAt, by simp [reportedEvents]⟩
  | cons n ns ih =>
    rw [List.foldl_cons]
    -- a bit is reported if the board owns it and it differs
    by_cases hdiffers : ownsBit mask n ∧ P.bits.get c.switchBitmap n ≠ P.bits.get bitmap n
    · have hround : ∃ refreshAt, reportSwitchBit now mask bitmap c n =
          { c with
            nextSwitchRefreshAt := refreshAt
            switches := c.switches ++
              [{ number := c.switchNumberAt n
                 state := if P.bits.get bitmap n then 1 else 0 }] } := by
        unfold reportSwitchBit noteSwitchActivity
        rw [if_pos hdiffers]
        dsimp only
        split
        · exact ⟨c.nextSwitchRefreshAt, rfl⟩
        · exact ⟨_, rfl⟩
      obtain ⟨refreshAt, hround⟩ := hround
      obtain ⟨refreshAt', hrest⟩ := ih (reportSwitchBit now mask bitmap c n)
      refine ⟨refreshAt', hrest.trans ?_⟩
      rw [hround]
      simp [reportedEvents, hdiffers, switchNumberAt]
    · obtain ⟨refreshAt, hrest⟩ := ih c
      have hround : reportSwitchBit now mask bitmap c n = c := by
        unfold reportSwitchBit
        rw [if_neg hdiffers]
      refine ⟨refreshAt, ?_⟩
      rw [hround, hrest]
      have hskip : (ownsBit mask n && (P.bits.get c.switchBitmap n != P.bits.get bitmap n)) =
          false := by
        simpa using hdiffers
      simp [reportedEvents, hskip]

/-- **What a reply does**: its events are pushed, the bitmap is merged, and
    the refresh timer may move. -/
theorem applySwitchBitmapDiff_eq (now : Nat) (board : UInt8)
    (bitmap : Vector UInt8 P.kMaxSwitchBytes) (bytes : Nat) (c : Comm P) :
    ∃ refreshAt, c.applySwitchBitmapDiff now board bitmap bytes =
      { c with
        nextSwitchRefreshAt := refreshAt
        switches := c.switches ++
          reportedEvents (c.maskOf board) bitmap c (List.range c.runtimeConfig.switchBits)
        switchBitmap := mergedBitmap (c.maskOf board) bytes c.switchBitmap bitmap } := by
  obtain ⟨refreshAt, heq⟩ := foldl_reportSwitchBit now (c.maskOf board) bitmap
    (List.range c.runtimeConfig.switchBits) c
  refine ⟨refreshAt, ?_⟩
  unfold applySwitchBitmapDiff mergeSwitchBitmap
  rw [heq]

section bits

variable {pos : Nat → Nat}

/-- One bit of the merged bitmap. -/
theorem get_mergedBitmap (hP : P.Lawful pos) (mask : Option (Vector UInt8 P.kMaxSwitchBytes))
    (bytes : Nat) (old new : Vector UInt8 P.kMaxSwitchBytes) {n : Nat}
    (hn : n / 8 < P.kMaxSwitchBytes) :
    P.bits.get (mergedBitmap mask bytes old new) n =
      if n / 8 < bytes ∧ ownsBit mask n = true then P.bits.get new n
      else P.bits.get old n := by
  cases mask with
  | none =>
    simp only [mergedBitmap, ownsBit, and_true]
    exact BitAccess.get_copy hP.bits bytes old new n hn
  | some m => exact BitAccess.get_merge hP.bits bytes m old new n hn

/-- A reply that leaves the bitmap as it is pushes no event. -/
theorem reportedEvents_eq_nil (hP : P.Lawful pos)
    (mask : Option (Vector UInt8 P.kMaxSwitchBytes)) (bitmap : Vector UInt8 P.kMaxSwitchBytes)
    (c : Comm P) (hbits : c.runtimeConfig.switchBits ≤ P.kMaxSwitchBits)
    (hsame : mergedBitmap mask (P.bitsToBytes c.runtimeConfig.switchBits) c.switchBitmap bitmap =
      c.switchBitmap) :
    reportedEvents mask bitmap c (List.range c.runtimeConfig.switchBits) = [] := by
  unfold reportedEvents
  rw [List.map_eq_nil_iff, List.filter_eq_nil_iff]
  intro n hn hdiffers
  have hlt : n < c.runtimeConfig.switchBits := List.mem_range.mp hn
  have hget := get_mergedBitmap hP mask (P.bitsToBytes c.runtimeConfig.switchBits)
    c.switchBitmap bitmap (hP.switch_byte_lt (lt_of_lt_of_le hlt hbits))
  have hbyte := hP.bitsToBytes c.runtimeConfig.switchBits n hlt
  simp only [Bool.and_eq_true, bne_iff_ne, ne_eq] at hdiffers
  rw [hsame, if_pos ⟨hbyte, hdiffers.1⟩] at hget
  exact hdiffers.2 hget

end bits

/-! ### What `SetVirtualSwitchState` Can Do -/

/-- The effects a call can have on a state whose presence is finalized. -/
inductive VirtualSwitchEffect (now : Nat) (c : Comm P) (number : UInt16) (state : UInt8) :
    Comm P → Prop where
  /-- The number is not virtualized, or its state is the requested one. -/
  | unchanged : VirtualSwitchEffect now c number state c
  /-- One switch of a virtualized board changes. -/
  | changed {owner : UInt8} {boardState : VirtualSwitchBoardState} {i : Nat}
      (howner : c.virtualSwitchOwnerByNumber.lookup number = some owner)
      (hboard : c.virtualSwitchBoards.lookup owner = some boardState)
      (hindex : boardState.switchNumbers.idxOf? number = some i)
      (hdiffers : boardState.switchStates[i]? ≠ some (normalizedState state)) :
      VirtualSwitchEffect now c number state
        (c.changeVirtualSwitch now boardState owner i number (normalizedState state))

/-- **Inversion of `SetVirtualSwitchState`.** -/
theorem setVirtualSwitchState_effect (now : Nat) (number : UInt16) (state : UInt8) (c : Comm P) :
    VirtualSwitchEffect now c.finalizeConfiguredBoardPresence number state
      (c.setVirtualSwitchState now number state).2 := by
  unfold setVirtualSwitchState
  dsimp only
  split
  · exact .unchanged
  · next howner =>
    split
    · exact .unchanged
    · next hboard =>
      split
      · exact .unchanged
      · next hindex =>
        split
        · exact .unchanged
        · next hdiffers => exact .changed howner hboard hindex hdiffers

end Comm

end LibPpuc
