import LibPpuc.Framework.Alternation
import LibPpuc.Framework.Transition
import LibPpuc.Comm.Mapping
import LibPpuc.Reference

/-! # The Switch Event Stream

  Three representations of a switch have to agree: the events handed to the
  application, its bit in `m_switchBitmap`, and for a virtualized switch its
  entry in the board's states.

  The invariant `InStep` says so for every mapped number, and every
  operation on the switch state keeps it.  So for each number the events
  ever pushed alternate, starting with 1, and the last one is the bit.
-/

namespace LibPpuc

open Alternation

/-- The states reported for a number, in order. -/
def statesOf (number : Nat) (events : List PPUCSwitchState) : List Nat :=
  (events.filter fun e => e.number == number).map PPUCSwitchState.state

theorem statesOf_append (number : Nat) (es fs : List PPUCSwitchState) :
    statesOf number (es ++ fs) = statesOf number es ++ statesOf number fs := by
  unfold statesOf
  rw [List.filter_append, List.map_append]

/-- The other state of a switch. -/
def otherState (state : Nat) : Nat := 1 - state

namespace Comm

variable {P : Protocol} {W : Type}

/-- The bit of index `i` in `m_switchBitmap`, as a switch state. -/
def bitState (bitmap : Vector UInt8 P.kMaxSwitchBytes) (i : Nat) : Nat :=
  if P.bits.get bitmap i then 1 else 0

/-! ### The Operations -/

/-- The operations on the switch state, each at a time of the steady clock. -/
inductive SwitchOp (P : Protocol) where
  /-- `ApplySwitchBitmapDiff` for the reply of a board. -/
  | reply (now : Nat) (board : UInt8) (bitmap : Vector UInt8 P.kMaxSwitchBytes)
  | setVirtualSwitchState (now : Nat) (number : UInt16) (state : UInt8)
  | getNextSwitchState

/-- One operation.  Replies come from boards in the mask table that are not
    virtualized. -/
def switchStep (c : Comm P) : SwitchOp P → Option (Comm P)
  | .reply now board bitmap =>
    if board.toNat < RS485_COMM_MAX_BOARDS ∧ c.virtualSwitchBoards.lookup board = none then
      some (c.applySwitchBitmapDiff now board bitmap (P.bitsToBytes c.runtimeConfig.switchBits))
    else none
  | .setVirtualSwitchState now number state => some (c.setVirtualSwitchState now number state).2
  | .getNextSwitchState => some c.getNextSwitchState.2

/-- The system with the events that the application has taken. -/
def switchStepTaken :
    Comm P × List PPUCSwitchState → SwitchOp P → Option (Comm P × List PPUCSwitchState) :=
  Transition.instrument switchStep fun c taken op _ =>
    match op with
    | .getNextSwitchState => taken ++ c.getNextSwitchState.1.toList
    | _ => taken

/-! ### The Invariant -/

/-- The events ever pushed agree with the bitmap and the virtualized boards. -/
structure InStep (c : Comm P) (ever : List PPUCSwitchState) : Prop where
  alternates : ∀ (i : Nat) (k : UInt16), c.switchIndexToNumber[i]? = some k →
    Alternates otherState 0 (statesOf k.toNat ever)
  last : ∀ (i : Nat) (k : UInt16), c.switchIndexToNumber[i]? = some k →
    final 0 (statesOf k.toNat ever) = bitState c.switchBitmap i
  virtual : ∀ b boardState, c.virtualSwitchBoards.lookup b = some boardState →
    ∀ k j, boardState.switchNumbers.idxOf? k = some j →
      ∀ i, c.switchNumberToIndex.lookup k = some i →
        boardState.switchStates[j]? = some (bitState c.switchBitmap i)

section operations

variable {pos : Nat → Nat} {c : Comm P} {ever : List PPUCSwitchState}

theorem SwitchLayout.index_lt (h : SwitchLayout c) {i : Nat} {k : UInt16}
    (hi : c.switchIndexToNumber[i]? = some k) :
    i < c.runtimeConfig.switchBits ∧ i < P.kMaxSwitchBits := by
  obtain ⟨hlt, -⟩ := List.getElem?_eq_some_iff.mp hi
  exact ⟨h.bits ▸ hlt, lt_of_lt_of_le hlt h.fits⟩

/-- The numbers of a virtualized board are those configured for it. -/
theorem SwitchLayout.mem_numbersOf (h : SwitchLayout c) {b : UInt8}
    {boardState : VirtualSwitchBoardState} {k : UInt16} {j : Nat}
    (hlookup : c.virtualSwitchBoards.lookup b = some boardState)
    (hj : boardState.switchNumbers.idxOf? k = some j) : k ∈ c.numbersOf b := by
  rw [← h.boards b boardState hlookup]
  obtain ⟨hlen, hget, -⟩ := List.idxOf?_eq_some_iff.mp hj
  rw [← hget]
  exact List.getElem_mem hlen

/-! ### A Reply -/

/-- A mapping without duplicates determines the bit of a number. -/
theorem index_inj {mapping : List UInt16} (hnodup : mapping.Nodup) {i j : Nat} {k : UInt16}
    (hi : mapping[i]? = some k) (hj : mapping[j]? = some k) : i = j := by
  obtain ⟨hlt, -⟩ := List.getElem?_eq_some_iff.mp hi
  exact (List.getElem?_inj hlt hnodup).mp (hi.trans hj.symm)

/-- The events of a reply for one number: one, if the bit is owned and differs. -/
theorem statesOf_reportedEvents
    (hbits : c.runtimeConfig.switchBits = c.switchIndexToNumber.length)
    (hnodup : c.switchIndexToNumber.Nodup) (mask : Option (Vector UInt8 P.kMaxSwitchBytes))
    (bitmap : Vector UInt8 P.kMaxSwitchBytes)
    {i : Nat} {k : UInt16} (hi : c.switchIndexToNumber[i]? = some k) :
    statesOf k.toNat
        (reportedEvents mask bitmap c (List.range c.runtimeConfig.switchBits)) =
      if ownsBit mask i = true ∧ P.bits.get c.switchBitmap i ≠ P.bits.get bitmap i then
        [bitState bitmap i]
      else [] := by
  have hlt : i < c.runtimeConfig.switchBits := by
    obtain ⟨hlt, -⟩ := List.getElem?_eq_some_iff.mp hi
    rw [hbits]
    exact hlt
  unfold statesOf reportedEvents
  rw [List.filter_map, List.map_map, List.filter_filter]
  -- among the bits of the loop only bit `i` has the number `k`
  have hfilter : (List.range c.runtimeConfig.switchBits).filter (fun n =>
      ((fun e : PPUCSwitchState => e.number == k.toNat) ∘ fun n =>
        { number := c.switchNumberAt n, state := if P.bits.get bitmap n then 1 else 0 }) n &&
        (ownsBit mask n && (P.bits.get c.switchBitmap n != P.bits.get bitmap n))) =
      ((List.range c.runtimeConfig.switchBits).filter (· == i)).filter (fun n =>
        ownsBit mask n && (P.bits.get c.switchBitmap n != P.bits.get bitmap n)) := by
    rw [List.filter_filter]
    apply List.filter_congr
    intro n hn
    have hn' : n < c.switchIndexToNumber.length := hbits ▸ List.mem_range.mp hn
    have hat : c.switchIndexToNumber[n]? = some c.switchIndexToNumber[n] :=
      List.getElem?_eq_getElem hn'
    have hnumber : (c.switchNumberAt n == k.toNat) = (n == i) := by
      unfold switchNumberAt
      rw [hat]
      by_cases hni : n = i
      · subst hni
        have hk : c.switchIndexToNumber[n] = k := Option.some.inj (hat.symm.trans hi)
        simp [hk]
      · have hk : c.switchIndexToNumber[n].toNat ≠ k.toNat := by
          intro heq
          have hsame : c.switchIndexToNumber[n] = k := UInt16.toNat_inj.mp heq
          exact hni (index_inj hnodup (hsame ▸ hat) hi)
        simp [hni, hk]
    show ((c.switchNumberAt n == k.toNat) && _) = (_ && (n == i))
    rw [hnumber, Bool.and_comm]
  have hcount : (List.range c.runtimeConfig.switchBits).count i = 1 :=
    List.count_eq_one_of_mem List.nodup_range (List.mem_range.mpr hlt)
  rw [hfilter, List.filter_beq, hcount]
  by_cases hreported : ownsBit mask i = true ∧
      P.bits.get c.switchBitmap i ≠ P.bits.get bitmap i
  · rw [if_pos hreported]
    simp [hreported, bitState]
  · rw [if_neg hreported]
    have hskip : (ownsBit mask i && (P.bits.get c.switchBitmap i != P.bits.get bitmap i)) =
        false := by
      simpa using hreported
    simp [hskip]

/-- A board that is not virtualized does not own the bit of a virtualized one. -/
theorem not_ownsBit_of_virtual (h : SwitchLayout c) {board b : UInt8}
    {boardState : VirtualSwitchBoardState} {k : UInt16} {j i : Nat}
    (hboard : board.toNat < RS485_COMM_MAX_BOARDS)
    (hreal : c.virtualSwitchBoards.lookup board = none)
    (hlookup : c.virtualSwitchBoards.lookup b = some boardState)
    (hj : boardState.switchNumbers.idxOf? k = some j)
    (hi : c.switchNumberToIndex.lookup k = some i) :
    ownsBit (c.maskOf board) i = false := by
  have hmask : c.maskOf board = some (c.switchOwnershipMaskByBoard board) := if_pos hboard
  have hlt := (h.index_lt ((h.index k i).mp hi)).2
  rw [hmask]
  by_contra howns
  have hset : P.bits.get (c.switchOwnershipMaskByBoard board) i = true := by
    simpa [ownsBit] using howns
  obtain ⟨k', hk', hi'⟩ := (h.mask board hboard i hlt).mp hset
  have hsame : k' = k := by
    have hat := (h.index k' i).mp hi'
    exact Option.some.inj (hat.symm.trans ((h.index k i).mp hi))
  have hk := h.mem_numbersOf hlookup hj
  have hb : board = b := h.oneBoard board b k (hsame ▸ hk') hk
  rw [hb, hlookup] at hreal
  contradiction

theorem inStep_reply (hP : P.Lawful pos) (hlayout : SwitchLayout c) (h : InStep c ever)
    (now : Nat) {board : UInt8} (bitmap : Vector UInt8 P.kMaxSwitchBytes)
    (hboard : board.toNat < RS485_COMM_MAX_BOARDS)
    (hreal : c.virtualSwitchBoards.lookup board = none) :
    ∃ events, (c.applySwitchBitmapDiff now board bitmap
        (P.bitsToBytes c.runtimeConfig.switchBits)).switches = c.switches ++ events ∧
      SwitchLayout (c.applySwitchBitmapDiff now board bitmap
        (P.bitsToBytes c.runtimeConfig.switchBits)) ∧
      InStep (c.applySwitchBitmapDiff now board bitmap
        (P.bitsToBytes c.runtimeConfig.switchBits)) (ever ++ events) := by
  obtain ⟨refreshAt, heq⟩ := applySwitchBitmapDiff_eq now board bitmap
    (P.bitsToBytes c.runtimeConfig.switchBits) c
  rw [heq]
  refine ⟨_, rfl, ⟨hlayout.finalized, hlayout.bits, hlayout.fits, hlayout.nodup, hlayout.index,
    hlayout.mask, hlayout.mapped, hlayout.oneBoard, hlayout.boards, hlayout.owner⟩, ?_⟩
  -- one mapped bit after the merge
  have hbit : ∀ i k, c.switchIndexToNumber[i]? = some k →
      P.bits.get (mergedBitmap (c.maskOf board) (P.bitsToBytes c.runtimeConfig.switchBits)
          c.switchBitmap bitmap) i =
        if ownsBit (c.maskOf board) i = true then P.bits.get bitmap i
        else P.bits.get c.switchBitmap i := by
    intro i k hi
    obtain ⟨hbits, hmax⟩ := hlayout.index_lt hi
    rw [get_mergedBitmap hP _ _ _ _ (hP.switch_byte_lt hmax)]
    simp only [hP.bitsToBytes _ i hbits, true_and]
  refine ⟨?_, ?_, ?_⟩
  · intro i k hi
    rw [statesOf_append, statesOf_reportedEvents hlayout.bits hlayout.nodup _ bitmap hi]
    split
    · next hreported =>
      refine alternates_snoc.mpr ⟨h.alternates i k hi, ?_⟩
      rw [h.last i k hi]
      have hdiffers := hreported.2
      unfold bitState otherState
      cases hold : P.bits.get c.switchBitmap i <;> cases hnew : P.bits.get bitmap i <;>
        simp_all
    · rw [List.append_nil]
      exact h.alternates i k hi
  · intro i k hi
    rw [statesOf_append, statesOf_reportedEvents hlayout.bits hlayout.nodup _ bitmap hi]
    show _ = bitState (mergedBitmap _ _ _ _) i
    unfold bitState
    rw [hbit i k hi]
    split
    · next hreported => rw [final_snoc, if_pos hreported.1]
    · next hkept =>
      rw [List.append_nil, h.last i k hi]
      unfold bitState
      by_cases howns : ownsBit (c.maskOf board) i = true
      · have hsame : P.bits.get c.switchBitmap i = P.bits.get bitmap i := by
          by_contra hdiffers
          exact hkept ⟨howns, hdiffers⟩
        rw [if_pos howns, hsame]
      · rw [if_neg howns]
  · intro b boardState hlookup k j hj i hi
    have hforeign := not_ownsBit_of_virtual hlayout hboard hreal hlookup hj hi
    have hsame := hbit i k ((hlayout.index k i).mp hi)
    rw [hforeign, if_neg (by decide)] at hsame
    rw [h.virtual b boardState hlookup k j hj i hi]
    show some (bitState c.switchBitmap i) = some (bitState (mergedBitmap _ _ _ _) i)
    unfold bitState
    rw [hsame]

/-! ### A Virtual Switch -/

/-- The update of a mapped virtual switch. -/
theorem changeVirtualSwitch_eq (now : Nat) (boardState : VirtualSwitchBoardState) (owner : UInt8)
    (j : Nat) (number : UInt16) (state : Nat) (c : Comm P) {i : Nat}
    (hi : c.switchNumberToIndex.lookup number = some i) (hmax : i < P.kMaxSwitchBits) :
    ∃ refreshAt, c.changeVirtualSwitch now boardState owner j number state =
      { c with
        virtualSwitchBoards := c.virtualSwitchBoards.insert owner (boardState.setEntry j state)
        nextSwitchRefreshAt := refreshAt
        switchBitmap := P.bits.set c.switchBitmap i (state != 0)
        switches := c.switches ++ [{ number := number.toNat, state := state }] } := by
  unfold changeVirtualSwitch noteSwitchActivity
  dsimp only
  split
  · exact ⟨c.nextSwitchRefreshAt, by simp [hi, hmax]⟩
  · exact ⟨some (now + c.switchRefreshIdleMs), by simp [hi, hmax]⟩

theorem normalizedState_cases (state : UInt8) :
    normalizedState state = 0 ∨ normalizedState state = 1 := by
  unfold normalizedState
  split
  · exact Or.inl rfl
  · exact Or.inr rfl

theorem statesOf_singleton (k number : UInt16) (state : Nat) :
    statesOf k.toNat [{ number := number.toNat, state := state }] =
      if k = number then [state] else [] := by
  unfold statesOf
  by_cases hk : k = number
  · subst hk
    simp
  · have hne : ¬ number.toNat = k.toNat := fun heq => hk (UInt16.toNat_inj.mp heq).symm
    simp [hk, hne]

theorem bitState_cases (bitmap : Vector UInt8 P.kMaxSwitchBytes) (i : Nat) :
    bitState bitmap i = 0 ∨ bitState bitmap i = 1 := by
  unfold bitState
  split <;> simp

theorem bitState_set_self (hP : P.Lawful pos) (bitmap : Vector UInt8 P.kMaxSwitchBytes)
    {i v : Nat} (hi : i < P.kMaxSwitchBits) (hv : v = 0 ∨ v = 1) :
    bitState (P.bits.set bitmap i (v != 0)) i = v := by
  unfold bitState
  rw [BitAccess.get_set_self hP.bits _ _ _ (hP.switch_byte_lt hi)]
  rcases hv with rfl | rfl <;> rfl

theorem bitState_set_ne (hP : P.Lawful pos) (bitmap : Vector UInt8 P.kMaxSwitchBytes)
    {i j : Nat} (value : Bool) (hj : j < P.kMaxSwitchBits) (hne : i ≠ j) :
    bitState (P.bits.set bitmap i value) j = bitState bitmap j := by
  unfold bitState
  rw [BitAccess.get_set_ne hP.bits _ _ (hP.switch_byte_lt hj) hne]

/-- The layout does not depend on the states of a virtualized board. -/
theorem SwitchLayout.setEntry (h : SwitchLayout c) {owner : UInt8}
    {boardState : VirtualSwitchBoardState}
    (hboard : c.virtualSwitchBoards.lookup owner = some boardState) (j state : Nat)
    (refreshAt : Option Nat) (bitmap : Vector UInt8 P.kMaxSwitchBytes)
    (switches : List PPUCSwitchState) :
    SwitchLayout { c with
      virtualSwitchBoards := c.virtualSwitchBoards.insert owner (boardState.setEntry j state)
      nextSwitchRefreshAt := refreshAt
      switchBitmap := bitmap
      switches := switches } := by
  refine ⟨h.finalized, h.bits, h.fits, h.nodup, h.index, h.mask, h.mapped, h.oneBoard, ?_, ?_⟩
  · intro b boardState' hlookup
    by_cases hb : b = owner
    · subst hb
      rw [AList.lookup_insert] at hlookup
      obtain rfl := Option.some.inj hlookup
      exact h.boards b boardState hboard
    · rw [AList.lookup_insert_ne hb] at hlookup
      exact h.boards b boardState' hlookup
  · intro k b
    rw [h.owner k b]
    by_cases hb : b = owner
    · subst hb
      rw [AList.lookup_insert, hboard]
      rfl
    · rw [AList.lookup_insert_ne hb]
      rfl

/-- A number of one virtualized board is no number of another. -/
theorem SwitchLayout.number_ne (h : SwitchLayout c) {owner b : UInt8}
    {boardState : VirtualSwitchBoardState} {number k : UInt16} {j : Nat}
    (hmem : number ∈ c.numbersOf owner) (hb : b ≠ owner)
    (hlookup : c.virtualSwitchBoards.lookup b = some boardState)
    (hj : boardState.switchNumbers.idxOf? k = some j) : k ≠ number := by
  intro heq
  subst heq
  exact hb (h.oneBoard b owner k (h.mem_numbersOf hlookup hj) hmem)

/-- The entries of all virtualized boards follow a change of one switch. -/
theorem InStep.virtual_setEntry (hlayout : SwitchLayout c) (h : InStep c ever) {owner : UInt8}
    {boardState : VirtualSwitchBoardState} {number : UInt16} {i j v : Nat}
    {bitmap : Vector UInt8 P.kMaxSwitchBytes} (hmem : number ∈ c.numbersOf owner)
    (hboard : c.virtualSwitchBoards.lookup owner = some boardState)
    (hj : boardState.switchNumbers.idxOf? number = some j)
    (hi : c.switchNumberToIndex.lookup number = some i) (hnew : bitState bitmap i = v)
    (hother : ∀ i' k', c.switchIndexToNumber[i']? = some k' → k' ≠ number →
      bitState bitmap i' = bitState c.switchBitmap i') {b : UInt8}
    {boardState' : VirtualSwitchBoardState}
    (hlookup : (c.virtualSwitchBoards.insert owner (boardState.setEntry j v)).lookup b =
      some boardState') {k : UInt16} {j' i' : Nat}
    (hj' : boardState'.switchNumbers.idxOf? k = some j')
    (hi' : c.switchNumberToIndex.lookup k = some i') :
    boardState'.switchStates[j']? = some (bitState bitmap i') := by
  have hat' := (hlayout.index k i').mp hi'
  by_cases hb : b = owner
  · subst hb
    rw [AList.lookup_insert] at hlookup
    obtain rfl := Option.some.inj hlookup
    have hj'' : boardState.switchNumbers.idxOf? k = some j' := hj'
    show (boardState.switchStates.set j v)[j']? = _
    by_cases hk : k = number
    · -- the entry that is set
      subst hk
      obtain rfl : j = j' := Option.some.inj (hj.symm.trans hj'')
      obtain rfl : i = i' := Option.some.inj (hi.symm.trans hi')
      obtain ⟨hlen, -⟩ := List.idxOf?_eq_some_iff.mp hj
      rw [List.getElem?_set_self (boardState.sizes.symm ▸ hlen)]
      exact congrArg some hnew.symm
    · -- another entry of the board
      have hjj : j ≠ j' := by
        intro heq
        subst heq
        obtain ⟨_, hget, -⟩ := List.idxOf?_eq_some_iff.mp hj
        obtain ⟨_, hget', -⟩ := List.idxOf?_eq_some_iff.mp hj''
        exact hk (hget'.symm.trans hget)
      rw [List.getElem?_set_ne hjj]
      have hbefore := h.virtual b boardState hboard k j' hj'' i' hi'
      rw [hbefore, hother i' k hat' hk]
  · rw [AList.lookup_insert_ne hb] at hlookup
    have hk := hlayout.number_ne hmem hb hlookup hj'
    have hbefore := h.virtual b boardState' hlookup k j' hj' i' hi'
    rw [hbefore, hother i' k hat' hk]

theorem inStep_changeVirtualSwitch (hP : P.Lawful pos) (hlayout : SwitchLayout c)
    (h : InStep c ever) (now : Nat) {owner : UInt8} {boardState : VirtualSwitchBoardState}
    {j : Nat} {number : UInt16} {state : UInt8}
    (howner : c.virtualSwitchOwnerByNumber.lookup number = some owner)
    (hboard : c.virtualSwitchBoards.lookup owner = some boardState)
    (hj : boardState.switchNumbers.idxOf? number = some j)
    (hdiffers : boardState.switchStates[j]? ≠ some (normalizedState state)) :
    let c' := c.changeVirtualSwitch now boardState owner j number (normalizedState state)
    let event : PPUCSwitchState := { number := number.toNat, state := normalizedState state }
    c'.switches = c.switches ++ [event] ∧ SwitchLayout c' ∧ InStep c' (ever ++ [event]) := by
  obtain ⟨hmem, -⟩ := (hlayout.owner number owner).mp howner
  obtain ⟨i, hi⟩ := hlayout.mapped owner number hmem
  have hat := (hlayout.index number i).mp hi
  have hmax := (hlayout.index_lt hat).2
  obtain ⟨refreshAt, heq⟩ :=
    changeVirtualSwitch_eq now boardState owner j number (normalizedState state) c hi hmax
  dsimp only
  rw [heq]
  generalize hstate : normalizedState state = v at hdiffers
  have hv : v = 0 ∨ v = 1 := hstate ▸ normalizedState_cases state
  have hentry := h.virtual owner boardState hboard number j hj i hi
  -- the entry differs from the new state, so the bit does too
  have hflip : v = otherState (bitState c.switchBitmap i) := by
    rw [hentry] at hdiffers
    have hne : bitState c.switchBitmap i ≠ v := fun hsame => hdiffers (congrArg some hsame)
    have hbit := bitState_cases c.switchBitmap i
    unfold otherState
    omega
  have hnew := bitState_set_self hP c.switchBitmap hmax hv
  have hother : ∀ i' k', c.switchIndexToNumber[i']? = some k' → k' ≠ number →
      bitState (P.bits.set c.switchBitmap i (v != 0)) i' = bitState c.switchBitmap i' := by
    intro i' k' hi' hk'
    apply bitState_set_ne hP _ _ (hlayout.index_lt hi').2
    intro heq
    subst heq
    exact hk' (Option.some.inj (hi'.symm.trans hat))
  refine ⟨rfl, hlayout.setEntry hboard j v refreshAt _ _, ⟨?_, ?_, ?_⟩⟩
  · intro i' k' hi'
    rw [statesOf_append, statesOf_singleton]
    split
    · next hk =>
      subst hk
      refine alternates_snoc.mpr ⟨h.alternates i' k' hi', ?_⟩
      rw [h.last i' k' hi', index_inj hlayout.nodup hi' hat]
      exact hflip
    · rw [List.append_nil]
      exact h.alternates i' k' hi'
  · intro i' k' hi'
    rw [statesOf_append, statesOf_singleton]
    split
    · next hk =>
      subst hk
      rw [final_snoc, index_inj hlayout.nodup hi' hat]
      exact hnew.symm
    · next hk =>
      rw [List.append_nil, h.last i' k' hi']
      exact (hother i' k' hi' hk).symm
  · intro b boardState' hlookup k' j' hj' i' hi'
    exact h.virtual_setEntry hlayout hmem hboard hj hi hnew hother hlookup hj' hi'

/-! ### Runs -/

/-- The invariant of a session: the layout, and the events taken and still
    queued in step with it. -/
def SessionInStep (p : Comm P × List PPUCSwitchState) : Prop :=
  SwitchLayout p.1 ∧ InStep p.1 (p.2 ++ p.1.switches)

/-- **Step lemma**: every operation keeps the session in step. -/
theorem sessionInStep_step (hP : P.Lawful pos) {p p' : Comm P × List PPUCSwitchState}
    {op : SwitchOp P} (h : SessionInStep p) (hstep : switchStepTaken p op = some p') :
    SessionInStep p' := by
  obtain ⟨c, taken⟩ := p
  obtain ⟨c', taken'⟩ := p'
  obtain ⟨hop, htaken⟩ := Transition.instrument_some.mp hstep
  obtain ⟨hlayout, hinStep⟩ := h
  dsimp only at hop htaken hlayout hinStep
  cases op with
  | reply now board bitmap =>
    obtain rfl : taken' = taken := htaken
    unfold switchStep at hop
    dsimp only at hop
    split at hop
    · next hready =>
      obtain ⟨events, hswitches, hlayout', hinStep'⟩ :=
        inStep_reply hP hlayout hinStep now bitmap hready.1 hready.2
      obtain rfl := Option.some.inj hop
      refine ⟨hlayout', ?_⟩
      show InStep _ (taken' ++ (c.applySwitchBitmapDiff now board bitmap _).switches)
      rw [hswitches, ← List.append_assoc]
      exact hinStep'
    · exact nomatch hop
  | setVirtualSwitchState now number state =>
    obtain rfl : taken' = taken := htaken
    obtain rfl := Option.some.inj hop
    have heffect := setVirtualSwitchState_effect now number state c
    rw [finalizeConfiguredBoardPresence_of_finalized hlayout.finalized] at heffect
    generalize (c.setVirtualSwitchState now number state).2 = c' at heffect ⊢
    cases heffect with
    | unchanged => exact ⟨hlayout, hinStep⟩
    | changed howner hboard hindex hdiffers =>
      obtain ⟨hswitches, hlayout', hinStep'⟩ :=
        inStep_changeVirtualSwitch hP hlayout hinStep now howner hboard hindex hdiffers
      refine ⟨hlayout', ?_⟩
      dsimp only
      rw [hswitches, ← List.append_assoc]
      exact hinStep'
  | getNextSwitchState =>
    obtain rfl := Option.some.inj hop
    obtain rfl : taken' = taken ++ c.getNextSwitchState.1.toList := htaken
    -- an event only moves from the queue to the taken ones
    unfold getNextSwitchState
    split
    · next hqueue =>
      refine ⟨hlayout, ?_⟩
      dsimp only
      rw [Option.toList_none, List.append_nil]
      exact hinStep
    · next event rest hqueue =>
      refine ⟨⟨hlayout.finalized, hlayout.bits, hlayout.fits, hlayout.nodup, hlayout.index,
        hlayout.mask, hlayout.mapped, hlayout.oneBoard, hlayout.boards, hlayout.owner⟩, ?_⟩
      dsimp only
      rw [Option.toList_some, List.append_assoc, List.singleton_append, ← hqueue]
      exact ⟨hinStep.alternates, hinStep.last, hinStep.virtual⟩

/-- A new session with a clear bitmap and an empty queue is in step. -/
theorem sessionInStep_start (hP : P.Lawful pos) (coilNumbers lampNumbers : List UInt16)
    {items : List SwitchItem} (hitems : SwitchItem.Admissible P items)
    (configuredBoards : List UInt8) (skippedBoards : Finset UInt8) (c : Comm P)
    (hbitmap : c.switchBitmap = Vector.replicate _ 0) (hswitches : c.switches = []) :
    SessionInStep ((c.installMappings coilNumbers lampNumbers items configuredBoards
      skippedBoards).finalizeConfiguredBoardPresence, []) := by
  have hlayout := switchLayout_installMappings hP coilNumbers lampNumbers hitems
    configuredBoards skippedBoards c
  generalize hc : c.installMappings coilNumbers lampNumbers items configuredBoards
    skippedBoards = c₁ at hlayout ⊢
  have hopen := virtualBoards_open (c := c₁) (by rw [← hc]; rfl)
  obtain ⟨boards, owners, heq⟩ := finalizeConfiguredBoardPresence_eq c₁
  have hqueue : c₁.finalizeConfiguredBoardPresence.switches = [] := by
    rw [heq]
    show c₁.switches = []
    rw [← hc]
    exact hswitches
  have hbit : ∀ i < P.kMaxSwitchBits,
      bitState c₁.finalizeConfiguredBoardPresence.switchBitmap i = 0 := by
    intro i hi
    have hclear : c₁.finalizeConfiguredBoardPresence.switchBitmap = Vector.replicate _ 0 := by
      rw [heq]
      show c₁.switchBitmap = _
      rw [← hc]
      exact hbitmap
    unfold bitState
    rw [hclear, BitAccess.get_replicate_zero hP.bits i (hP.switch_byte_lt hi)]
    rfl
  refine ⟨hlayout, ?_⟩
  dsimp only
  rw [hqueue]
  refine ⟨fun _ _ _ => trivial, ?_, ?_⟩
  · intro i k hi
    exact (hbit i (hlayout.index_lt hi).2).symm
  · intro b boardState hlookup k j hj i hi
    obtain ⟨hlen, -⟩ := List.idxOf?_eq_some_iff.mp hj
    rw [hopen b hlookup, hbit i (hlayout.index_lt ((hlayout.index k i).mp hi)).2]
    exact List.getElem?_replicate_of_lt hlen

/-- **The switch event stream.**  In a session built from admissible switch
    items, after any sequence of replies of real boards, calls of
    `SetVirtualSwitchState` and events taken by the application, for every
    mapped number the events ever pushed alternate from 0, the last one is
    the number's bit, and a virtualized switch has that state too. -/
theorem switch_stream_in_step (hP : P.Lawful pos) (coilNumbers lampNumbers : List UInt16)
    (items : List SwitchItem) (hitems : SwitchItem.Admissible P items)
    (configuredBoards : List UInt8) (skippedBoards : Finset UInt8) (c : Comm P)
    (hbitmap : c.switchBitmap = Vector.replicate _ 0) (hswitches : c.switches = [])
    (ops : List (SwitchOp P)) (p : Comm P × List PPUCSwitchState)
    (hrun : Transition.exec switchStepTaken
      ((c.installMappings coilNumbers lampNumbers items configuredBoards
        skippedBoards).finalizeConfiguredBoardPresence, []) ops = some p) :
    InStep p.1 (p.2 ++ p.1.switches) :=
  (Transition.exec_invariant (fun _ _ _ h hstep => sessionInStep_step hP h hstep)
    (sessionInStep_start hP coilNumbers lampNumbers hitems configuredBoards skippedBoards c
      hbitmap hswitches) hrun).2

end operations

end Comm

/-! ### Example -/

namespace Reference

open Comm

/-- Board 1 answers and owns switch 30; board 2 is missing, switch 31 is
    virtual. -/
def switchItems : List SwitchItem := [{ board := 1, number := 30 }, { board := 2, number := 31 }]

/-- The host that starts a session with these switches. -/
def switchHost : Comm protocol := { comm with presentBoards := {1} }

/-- The session after startup. -/
def switchSession : Comm protocol :=
  (switchHost.installMappings [10] [20] switchItems [1, 2] ∅).finalizeConfiguredBoardPresence

/-- Both switches close, one event is taken, switch 30 opens. -/
def switchOps : List (SwitchOp protocol) :=
  [.reply 0 1 (Vector.ofFn fun k => if k.val = 0 then 3 else 0),
    .setVirtualSwitchState 0 31 7, .getNextSwitchState, .reply 0 1 (Vector.replicate _ 0)]

/-- The state after these operations, with the events taken. -/
def switchesAfter : Comm protocol × List PPUCSwitchState :=
  (Transition.exec switchStepTaken (switchSession, []) switchOps).getD (switchSession, [])

/-- The session is in step after them, with three events pushed. -/
theorem two_switches_in_step :
    InStep switchesAfter.1 (switchesAfter.2 ++ switchesAfter.1.switches) :=
  switch_stream_in_step protocol_lawful [10] [20] switchItems
    ⟨by decide, by decide, by decide⟩ [1, 2] ∅ switchHost rfl rfl switchOps switchesAfter rfl

end Reference

end LibPpuc
