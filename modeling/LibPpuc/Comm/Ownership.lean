import LibPpuc.Comm.Mapping

/-! # Who Owns a Switch Bit

  Masks and maps follow from the mapping and the boards' numbers:
  `SetMappings` and `SetSwitchNumbersByBoard` rebuild them, and nothing else
  writes them.  So a board owns a bit if and only if the bit's number is one
  of its own, for any mapping and any numbers.
-/

namespace LibPpuc

namespace Comm

variable {P : Protocol} {pos : Nat → Nat} {c c' : Comm P}

/-- The masks and the index belong to the mapping, which fits the switch
    bits on the wire. -/
structure SwitchMaps (c : Comm P) : Prop where
  masks : ∀ b : UInt8, b.toNat < RS485_COMM_MAX_BOARDS →
    c.switchOwnershipMaskByBoard b = ownershipMask c.switchNumberToIndex (c.numbersOf b)
  index : c.switchNumberToIndex = numberToIndex c.switchIndexToNumber
  bits : c.switchIndexToNumber.length ≤ c.runtimeConfig.switchBits

/-- What a startup attempt installs, whatever the document says. -/
theorem switchMaps_installMappings (hP : P.Lawful pos) (coilNumbers lampNumbers : List UInt16)
    (items : List SwitchItem) (configuredBoards : List UInt8) (skippedBoards : Finset UInt8)
    (c : Comm P) :
    SwitchMaps (c.installMappings coilNumbers lampNumbers items configuredBoards
      skippedBoards) where
  masks _ hb := mask_rebuildSwitchOwnershipMasks _ hb
  index := rfl
  bits := Nat.le_of_eq (switchBits_installMappings hP coilNumbers lampNumbers items
    configuredBoards skippedBoards c).symm

/-- The maps depend on five members. -/
theorem SwitchMaps.congr (h : SwitchMaps c)
    (hmasks : c'.switchOwnershipMaskByBoard = c.switchOwnershipMaskByBoard)
    (hnumbers : c'.switchNumbersByBoard = c.switchNumbersByBoard)
    (hindex : c'.switchNumberToIndex = c.switchNumberToIndex)
    (hmapping : c'.switchIndexToNumber = c.switchIndexToNumber)
    (hconfig : c'.runtimeConfig = c.runtimeConfig) : SwitchMaps c' := by
  obtain ⟨masks, index, bits⟩ := h
  constructor
  · intro b hb
    unfold numbersOf
    rw [hmasks, hindex, hnumbers]
    exact masks b hb
  · rw [hindex, hmapping]
    exact index
  · rw [hmapping, hconfig]
    exact bits

theorem SwitchMaps.finalize (h : SwitchMaps c) :
    SwitchMaps c.finalizeConfiguredBoardPresence := by
  obtain ⟨boards, owners, heq⟩ := finalizeConfiguredBoardPresence_eq c
  rw [heq]
  exact h.congr rfl rfl rfl rfl rfl

/-- A mapped number has the bit that names it. -/
theorem SwitchMaps.numberAt (h : SwitchMaps c) {k : UInt16} {i : Nat}
    (hi : c.switchNumberToIndex.lookup k = some i) : c.switchIndexToNumber[i]? = some k := by
  rw [h.index] at hi
  exact getElem?_of_lookup_numberToIndex hi

/-- Numbers determine their bits, and bits their numbers. -/
theorem SwitchMaps.number_inj (h : SwitchMaps c) {k k' : UInt16} {i : Nat}
    (hi : c.switchNumberToIndex.lookup k = some i)
    (hi' : c.switchNumberToIndex.lookup k' = some i) : k = k' :=
  Option.some.inj ((h.numberAt hi).symm.trans (h.numberAt hi'))

theorem SwitchMaps.index_lt (h : SwitchMaps c) {k : UInt16} {i : Nat}
    (hi : c.switchNumberToIndex.lookup k = some i) : i < c.runtimeConfig.switchBits := by
  obtain ⟨hlt, -⟩ := List.getElem?_eq_some_iff.mp (h.numberAt hi)
  exact Nat.lt_of_lt_of_le hlt h.bits

/-- **A board in the mask table owns the bits of its own numbers.** -/
theorem SwitchMaps.ownsBit_iff (h : SwitchMaps c) (hP : P.Lawful pos) {b : UInt8}
    (hb : b.toNat < RS485_COMM_MAX_BOARDS) {i : Nat} (hi : i < P.kMaxSwitchBits) :
    ownsBit (c.maskOf b) i = true ↔
      ∃ k ∈ c.numbersOf b, c.switchNumberToIndex.lookup k = some i := by
  have hmask : c.maskOf b = some (c.switchOwnershipMaskByBoard b) := if_pos hb
  rw [hmask, h.masks b hb]
  exact get_ownershipMask hP c.switchNumberToIndex (c.numbersOf b) hi

/-- No switch number is configured on two boards. -/
def OneBoardEach (c : Comm P) : Prop :=
  ∀ b b' k, k ∈ c.numbersOf b → k ∈ c.numbersOf b' → b = b'

/-- It is a fact about the switches of the document. -/
theorem oneBoardEach_installMappings {coilNumbers lampNumbers : List UInt16}
    {items : List SwitchItem} {configuredBoards : List UInt8} {skippedBoards : Finset UInt8}
    {c : Comm P} (h : ∀ x ∈ items, ∀ y ∈ items, x.number = y.number → x.board = y.board) :
    OneBoardEach (c.installMappings coilNumbers lampNumbers items configuredBoards
      skippedBoards) := by
  intro b b' k hb hb'
  obtain ⟨x, hx, rfl, rfl⟩ := (SwitchItem.mem_switchNumbersByBoard items b k).mp hb
  obtain ⟨y, hy, rfl, hnumber⟩ := (SwitchItem.mem_switchNumbersByBoard items b' _).mp hb'
  exact h x hx y hy hnumber.symm

/-- Two boards of the mask table do not own one bit. -/
theorem OneBoardEach.owner_unique (h : OneBoardEach c) (hmaps : SwitchMaps c) (hP : P.Lawful pos)
    {b b' : UInt8} (hb : b.toNat < RS485_COMM_MAX_BOARDS) (hb' : b'.toNat < RS485_COMM_MAX_BOARDS)
    {i : Nat} (hi : i < P.kMaxSwitchBits) (howns : ownsBit (c.maskOf b) i = true)
    (howns' : ownsBit (c.maskOf b') i = true) : b = b' := by
  -- both own the bit through a number, and a bit has one number only
  obtain ⟨k, hk, hki⟩ := (hmaps.ownsBit_iff hP hb hi).mp howns
  obtain ⟨k', hk', hki'⟩ := (hmaps.ownsBit_iff hP hb' hi).mp howns'
  obtain rfl := hmaps.number_inj hki hki'
  exact h b b' k hk hk'

/-! ### The Setup of a Session -/

/-- The members that a session leaves as the startup attempt has set them. -/
structure SwitchSetup (P : Protocol) where
  switchBoards : List UInt8
  switchNumbersByBoard : Map UInt8 (List UInt16)
  switchOwnershipMaskByBoard : UInt8 → Vector UInt8 P.kMaxSwitchBytes
  runtimeConfig : RuntimeConfig
  switchIndexToNumber : List UInt16
  switchNumberToIndex : Map UInt16 Nat

def switchSetup (c : Comm P) : SwitchSetup P where
  switchBoards := c.switchBoards
  switchNumbersByBoard := c.switchNumbersByBoard
  switchOwnershipMaskByBoard := c.switchOwnershipMaskByBoard
  runtimeConfig := c.runtimeConfig
  switchIndexToNumber := c.switchIndexToNumber
  switchNumberToIndex := c.switchNumberToIndex

/-- The switch state is set up for the switches `items` of a document. -/
structure SetUpFor (items : List SwitchItem) (c : Comm P) : Prop where
  maps : SwitchMaps c
  /-- Every switch bit has a number. -/
  full : c.runtimeConfig.switchBits = c.switchIndexToNumber.length
  numbers : ∀ b k, k ∈ c.numbersOf b ↔ ∃ item ∈ items, item.board = b ∧ item.number = k

theorem setUpFor_installMappings (hP : P.Lawful pos) (coilNumbers lampNumbers : List UInt16)
    (items : List SwitchItem) (configuredBoards : List UInt8) (skippedBoards : Finset UInt8)
    (c : Comm P) :
    SetUpFor items (c.installMappings coilNumbers lampNumbers items configuredBoards
      skippedBoards) where
  maps := switchMaps_installMappings hP coilNumbers lampNumbers items configuredBoards
    skippedBoards c
  full := switchBits_installMappings hP coilNumbers lampNumbers items configuredBoards
    skippedBoards c
  numbers := SwitchItem.mem_switchNumbersByBoard items

/-- It depends on the setup only, and not on the polled boards. -/
theorem SetUpFor.of_setup {items : List SwitchItem} (h : SetUpFor items c)
    (heq : { c'.switchSetup with switchBoards := [] } = { c.switchSetup with switchBoards := [] }) :
    SetUpFor items c' := by
  have hnumbers : c'.switchNumbersByBoard = c.switchNumbersByBoard :=
    (congrArg SwitchSetup.switchNumbersByBoard heq :)
  have hmapping : c'.switchIndexToNumber = c.switchIndexToNumber :=
    (congrArg SwitchSetup.switchIndexToNumber heq :)
  have hconfig : c'.runtimeConfig = c.runtimeConfig :=
    (congrArg SwitchSetup.runtimeConfig heq :)
  constructor
  · exact h.maps.congr (congrArg SwitchSetup.switchOwnershipMaskByBoard heq :) hnumbers
      (congrArg SwitchSetup.switchNumberToIndex heq :) hmapping hconfig
  · rw [hconfig, hmapping]
    exact h.full
  · intro b k
    unfold numbersOf
    rw [hnumbers]
    exact h.numbers b k

end Comm

end LibPpuc
