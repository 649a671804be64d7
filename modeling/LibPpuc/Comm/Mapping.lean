import LibPpuc.Comm.Switch

/-! # The Mappings of a Session

  `PPUC::Connect` collects the numbers of each domain in a sorted set, cuts
  it to the size the protocol allows and hands the result to the
  communication object, which derives the inverse map and, for the switches,
  one ownership mask for each board.

  `SwitchLayout` is what the switch state relies on afterwards: numbers and
  bits correspond one to one, masks and virtualized boards follow the
  configured numbers, and no number belongs to two boards.
-/

namespace LibPpuc

/-! ### Sets of Numbers -/

/-- `std::set<uint16_t>::insert`, on the elements in iteration order. -/
def insertNumber (k : UInt16) : List UInt16 → List UInt16
  | [] => [k]
  | n :: ns => if k < n then k :: n :: ns else if k = n then n :: ns else n :: insertNumber k ns

/-- The set of the given numbers, in iteration order. -/
def numberSet (numbers : List UInt16) : List UInt16 :=
  numbers.foldl (fun s k => insertNumber k s) []

theorem mem_insertNumber {k n : UInt16} {s : List UInt16} :
    n ∈ insertNumber k s ↔ n = k ∨ n ∈ s := by
  induction s with
  | nil => simp [insertNumber]
  | cons m ms ih =>
    unfold insertNumber
    split
    · simp
    · split
      · next heq => simp [heq]
      · simp only [List.mem_cons, ih]
        exact or_left_comm

/-- Insertion keeps the order. -/
theorem pairwise_insertNumber {k : UInt16} {s : List UInt16} (h : s.Pairwise (· < ·)) :
    (insertNumber k s).Pairwise (· < ·) := by
  induction s with
  | nil => simp [insertNumber]
  | cons m ms ih =>
    have hms := List.pairwise_cons.mp h
    unfold insertNumber
    split
    · next hlt =>
      -- the new number goes first
      refine List.pairwise_cons.mpr ⟨?_, h⟩
      intro n hn
      rcases List.mem_cons.mp hn with rfl | hn
      · exact hlt
      · exact UInt16.lt_trans hlt (hms.1 n hn)
    · split
      · exact h
      · next hge hne =>
        -- the new number goes into the rest
        refine List.pairwise_cons.mpr ⟨?_, ih hms.2⟩
        intro n hn
        rcases mem_insertNumber.mp hn with rfl | hn
        · have hle : m ≤ n := UInt16.not_lt.mp hge
          exact UInt16.lt_of_le_of_ne hle (fun heq => hne heq.symm)
        · exact hms.1 n hn

theorem mem_numberSet {n : UInt16} {numbers : List UInt16} :
    n ∈ numberSet numbers ↔ n ∈ numbers := by
  have hfold : ∀ (ks s : List UInt16),
      n ∈ ks.foldl (fun s k => insertNumber k s) s ↔ n ∈ ks ∨ n ∈ s := by
    intro ks
    induction ks with
    | nil => simp
    | cons k ks ih =>
      intro s
      rw [List.foldl_cons, ih, mem_insertNumber, List.mem_cons]
      exact or_left_comm.trans or_assoc.symm
  simpa [numberSet] using hfold numbers []

theorem pairwise_numberSet (numbers : List UInt16) : (numberSet numbers).Pairwise (· < ·) := by
  have hfold : ∀ (ks s : List UInt16), s.Pairwise (· < ·) →
      (ks.foldl (fun s k => insertNumber k s) s).Pairwise (· < ·) := by
    intro ks
    induction ks with
    | nil => exact fun s h => h
    | cons k ks ih => exact fun s h => ih _ (pairwise_insertNumber h)
  exact hfold numbers [] List.Pairwise.nil

theorem nodup_numberSet (numbers : List UInt16) : (numberSet numbers).Nodup :=
  (pairwise_numberSet numbers).imp fun h => UInt16.ne_of_lt h

/-! ### Mappings -/

/-- The size of a domain on the wire: at least one bit, at most `kMax`.  The
    number of elements is converted to 16 bits. -/
def domainBits (kMax : Nat) (numbers : List UInt16) : Nat :=
  min (max 1 ((numberSet numbers).length % 65536)) kMax

/-- The mapping of a domain: `resize` cuts the sorted numbers, or fills up
    with zeros. -/
def domainMapping (kMax : Nat) (numbers : List UInt16) : List UInt16 :=
  (numberSet numbers).take (domainBits kMax numbers) ++
    List.replicate (domainBits kMax numbers - (numberSet numbers).length) 0

theorem length_domainMapping (kMax : Nat) (numbers : List UInt16) :
    (domainMapping kMax numbers).length = domainBits kMax numbers := by
  unfold domainMapping
  rw [List.length_append, List.length_take, List.length_replicate]
  omega

theorem domainBits_le (kMax : Nat) (numbers : List UInt16) : domainBits kMax numbers ≤ kMax :=
  Nat.min_le_right _ _

/-- A domain that fits is mapped whole; an empty one gets the number 0. -/
theorem domainMapping_eq {kMax : Nat} {numbers : List UInt16} (hpos : 0 < kMax)
    (hfits : (numberSet numbers).length ≤ kMax) (hmax : kMax < 65536) :
    domainMapping kMax numbers = if numbers = [] then [0] else numberSet numbers := by
  have hmod : (numberSet numbers).length % 65536 = (numberSet numbers).length :=
    Nat.mod_eq_of_lt (lt_of_le_of_lt hfits hmax)
  unfold domainMapping domainBits
  rw [hmod]
  split
  · next hempty =>
    -- no number: one bit, mapped to 0
    subst hempty
    have hone : min (max 1 0) kMax = 1 := by omega
    show List.take (min (max 1 0) kMax) [] ++ List.replicate (min (max 1 0) kMax - 0) 0 = [0]
    rw [hone]
    rfl
  · next hsome =>
    -- the bits are as many as the numbers
    have hne : (numberSet numbers).length ≠ 0 := by
      intro hzero
      obtain ⟨k, hk⟩ := List.exists_mem_of_ne_nil numbers hsome
      have hmem := mem_numberSet.mpr hk
      rw [List.length_eq_zero_iff.mp hzero] at hmem
      exact List.not_mem_nil hmem
    have hbits : min (max 1 (numberSet numbers).length) kMax = (numberSet numbers).length := by
      omega
    rw [hbits, List.take_length, Nat.sub_self, List.replicate_zero, List.append_nil]

/-- No number is mapped twice, whether the domain fits or not. -/
theorem nodup_domainMapping (kMax : Nat) (numbers : List UInt16) :
    (domainMapping kMax numbers).Nodup := by
  unfold domainMapping
  by_cases hempty : (numberSet numbers).length = 0
  · -- no number: at most one bit, mapped to 0
    have hbits : domainBits kMax numbers ≤ 1 := by
      unfold domainBits
      rw [hempty]
      omega
    rw [List.length_eq_zero_iff.mp hempty, List.take_nil, List.nil_append]
    apply List.nodup_replicate.mpr
    show domainBits kMax numbers - 0 ≤ 1
    omega
  · have hbits : domainBits kMax numbers - (numberSet numbers).length = 0 := by
      have hmod := Nat.mod_le (numberSet numbers).length 65536
      unfold domainBits
      omega
    rw [hbits, List.replicate_zero, List.append_nil]
    exact (nodup_numberSet numbers).sublist (List.take_sublist _ _)

theorem mem_domainMapping {kMax : Nat} {numbers : List UInt16} (hpos : 0 < kMax)
    (hfits : (numberSet numbers).length ≤ kMax) (hmax : kMax < 65536) {k : UInt16}
    (hk : k ∈ numbers) : k ∈ domainMapping kMax numbers := by
  rw [domainMapping_eq hpos hfits hmax, if_neg (List.ne_nil_of_mem hk)]
  exact mem_numberSet.mpr hk

/-! ### Maps Built by Insertion -/

section maps

variable {κ ν : Type} [DecidableEq κ]

theorem lookup_foldl_insert {pairs : List (κ × ν)} (hkeys : (pairs.map Prod.fst).Nodup)
    (m : Map κ ν) (k : κ) (v : ν) :
    (pairs.foldl (fun m p => m.insert p.1 p.2) m).lookup k = some v ↔
      (k, v) ∈ pairs ∨ (k ∉ pairs.map Prod.fst ∧ m.lookup k = some v) := by
  induction pairs generalizing m with
  | nil => simp
  | cons p ps ih =>
    obtain ⟨a, b⟩ := p
    have hps := List.nodup_cons.mp hkeys
    rw [List.foldl_cons, ih hps.2]
    by_cases hka : k = a
    · subst hka
      have hout : ∀ u, (k, u) ∉ ps := fun u hmem => hps.1 (List.mem_map.mpr ⟨(k, u), hmem, rfl⟩)
      rw [AList.lookup_insert]
      simp [hout, hps.1, eq_comm]
    · rw [AList.lookup_insert_ne hka]
      simp [hka]

/-- Whatever is found was inserted, also where keys repeat. -/
theorem mem_of_lookup_foldl_insert {pairs : List (κ × ν)} {m : Map κ ν} {k : κ} {v : ν}
    (h : (pairs.foldl (fun m p => m.insert p.1 p.2) m).lookup k = some v) :
    (k, v) ∈ pairs ∨ m.lookup k = some v := by
  induction pairs generalizing m with
  | nil => exact Or.inr h
  | cons p ps ih =>
    obtain ⟨a, b⟩ := p
    rcases ih h with hlater | hnow
    · exact Or.inl (List.mem_cons_of_mem _ hlater)
    · by_cases hka : k = a
      · subst hka
        rw [AList.lookup_insert] at hnow
        obtain rfl := Option.some.inj hnow
        exact Or.inl List.mem_cons_self
      · rw [AList.lookup_insert_ne hka] at hnow
        exact Or.inr hnow

/-- Insertion of one value for many keys. -/
theorem lookup_foldl_insert_const (ks : List κ) (v : ν) (m : Map κ ν) (k : κ) :
    (ks.foldl (fun m k => m.insert k v) m).lookup k =
      if k ∈ ks then some v else m.lookup k := by
  induction ks generalizing m with
  | nil => simp
  | cons a ks ih =>
    rw [List.foldl_cons, ih]
    by_cases hk : k ∈ ks
    · simp [hk]
    · by_cases hka : k = a
      · subst hka
        simp [hk, AList.lookup_insert]
      · simp [hk, hka, AList.lookup_insert_ne]

end maps

/-- The inverse of a duplicate-free mapping. -/
theorem Comm.lookup_numberToIndex {numbers : List UInt16} (h : numbers.Nodup) (k : UInt16)
    (i : Nat) : (Comm.numberToIndex numbers).lookup k = some i ↔ numbers[i]? = some k := by
  unfold Comm.numberToIndex
  have hkeys : (numbers.zipIdx.map Prod.fst).Nodup := by
    rwa [List.zipIdx_map_fst]
  rw [lookup_foldl_insert hkeys, List.mk_mem_zipIdx_iff_getElem?]
  simp [AList.lookup_empty]

/-- A number found in the inverse is the one at its index. -/
theorem Comm.getElem?_of_lookup_numberToIndex {numbers : List UInt16} {k : UInt16} {i : Nat}
    (h : (Comm.numberToIndex numbers).lookup k = some i) : numbers[i]? = some k := by
  unfold Comm.numberToIndex at h
  rcases mem_of_lookup_foldl_insert h with hmem | hnone
  · exact List.mk_mem_zipIdx_iff_getElem?.mp hmem
  · rw [AList.lookup_empty] at hnone
    exact nomatch hnone

/-! ### Switches of the Configuration -/

/-- A switch of the configuration, as the startup pass reads it. -/
structure SwitchItem where
  board : UInt8
  number : UInt16
  button : Bool := false
  deriving DecidableEq, Repr

/-- `switchNumbersByBoard`: the numbers of each board, in the order read. -/
def SwitchItem.switchNumbersByBoard (items : List SwitchItem) : Map UInt8 (List UInt16) :=
  items.foldl
    (fun m item => m.insert item.board ((m.lookup item.board).getD [] ++ [item.number])) ∅

theorem SwitchItem.mem_switchNumbersByBoard (items : List SwitchItem) (b : UInt8) (k : UInt16) :
    k ∈ ((SwitchItem.switchNumbersByBoard items).lookup b).getD [] ↔
      ∃ item ∈ items, item.board = b ∧ item.number = k := by
  -- over the numbers collected so far
  have hfold : ∀ (items : List SwitchItem) (m : Map UInt8 (List UInt16)),
      k ∈ ((items.foldl (fun m item =>
          m.insert item.board ((m.lookup item.board).getD [] ++ [item.number])) m).lookup b).getD
            [] ↔
        (∃ item ∈ items, item.board = b ∧ item.number = k) ∨ k ∈ (m.lookup b).getD [] := by
    intro items
    induction items with
    | nil => simp
    | cons item items ih =>
      intro m
      rw [List.foldl_cons, ih]
      by_cases hb : item.board = b
      · -- the item extends its board's list
        subst hb
        rw [AList.lookup_insert]
        simp only [Option.getD_some, List.mem_append, List.mem_cons, List.not_mem_nil, or_false,
          exists_eq_or_imp, true_and]
        constructor
        · intro hcases
          rcases hcases with hlater | hold | rfl
          · exact Or.inl (Or.inr hlater)
          · exact Or.inr hold
          · exact Or.inl (Or.inl rfl)
        · intro hcases
          rcases hcases with (rfl | hlater) | hold
          · exact Or.inr (Or.inr rfl)
          · exact Or.inl hlater
          · exact Or.inr (Or.inl hold)
      · rw [AList.lookup_insert_ne (fun h => hb h.symm)]
        simp [hb]
  simpa [SwitchItem.switchNumbersByBoard, AList.lookup_empty] using hfold items ∅

/-- The switch items a session is built from: no number on two boards, all
    boards in the mask table, and no more numbers than bits. -/
structure SwitchItem.Admissible (P : Protocol) (items : List SwitchItem) : Prop where
  oneBoard : ∀ x ∈ items, ∀ y ∈ items, x.number = y.number → x.board = y.board
  boards : ∀ item ∈ items, item.board.toNat < RS485_COMM_MAX_BOARDS
  fits : (numberSet (items.map SwitchItem.number)).length ≤ P.kMaxSwitchBits

namespace Comm

variable {P : Protocol} {W : Type}

/-- The part of `startupAttempt` that installs mappings, runtime config and
    switch owners, from the numbers it has collected. -/
def installMappings (coilNumbers lampNumbers : List UInt16) (items : List SwitchItem)
    (configuredBoards : List UInt8) (skippedBoards : Finset UInt8) (c : Comm P) : Comm P :=
  let coilMapping := domainMapping P.kMaxCoilBits coilNumbers
  let lampMapping := domainMapping P.kMaxLampBits lampNumbers
  let switchMapping := domainMapping P.kMaxSwitchBits (items.map SwitchItem.number)
  let runtimeConfig : RuntimeConfig :=
    { coilBits := coilMapping.length
      lampBits := lampMapping.length
      switchBits := switchMapping.length }
  (((((c.setMappings coilMapping lampMapping switchMapping).setRuntimeConfig
    runtimeConfig).setConfiguredBoards configuredBoards).setSwitchNumbersByBoard
      (SwitchItem.switchNumbersByBoard items)).setButtonSwitchNumbers
        ((items.filter SwitchItem.button).map SwitchItem.number).toFinset).setSkippedBoards
          skippedBoards

/-- The configured switch numbers of a board. -/
def numbersOf (c : Comm P) (b : UInt8) : List UInt16 := (c.switchNumbersByBoard.lookup b).getD []

/-! ### The Layout of the Switch State -/

/-- What the operations on the switch state rely on. -/
structure SwitchLayout (c : Comm P) : Prop where
  finalized : c.boardPresenceFinalized = true
  bits : c.runtimeConfig.switchBits = c.switchIndexToNumber.length
  fits : c.switchIndexToNumber.length ≤ P.kMaxSwitchBits
  nodup : c.switchIndexToNumber.Nodup
  index : ∀ k i, c.switchNumberToIndex.lookup k = some i ↔ c.switchIndexToNumber[i]? = some k
  mask : ∀ b : UInt8, b.toNat < RS485_COMM_MAX_BOARDS → ∀ i < P.kMaxSwitchBits,
    (P.bits.get (c.switchOwnershipMaskByBoard b) i = true ↔
      ∃ k ∈ c.numbersOf b, c.switchNumberToIndex.lookup k = some i)
  mapped : ∀ b, ∀ k ∈ c.numbersOf b, ∃ i, c.switchNumberToIndex.lookup k = some i
  oneBoard : ∀ b b' k, k ∈ c.numbersOf b → k ∈ c.numbersOf b' → b = b'
  boards : ∀ b boardState, c.virtualSwitchBoards.lookup b = some boardState →
    boardState.switchNumbers = c.numbersOf b
  owner : ∀ k b, c.virtualSwitchOwnerByNumber.lookup k = some b ↔
    k ∈ c.numbersOf b ∧ (c.virtualSwitchBoards.lookup b).isSome = true

section layout

variable {pos : Nat → Nat}

theorem ownershipMask_append (index : Map UInt16 Nat) (numbers : List UInt16) (k : UInt16) :
    ownershipMask (P := P) index (numbers ++ [k]) =
      (index.lookup k).elim (ownershipMask index numbers)
        (P.bits.set (ownershipMask index numbers) · true) := by
  unfold ownershipMask
  rw [List.foldl_append, List.foldl_cons, List.foldl_nil]
  cases index.lookup k <;> rfl

/-- One bit of an ownership mask. -/
theorem get_ownershipMask (hP : P.Lawful pos) (index : Map UInt16 Nat) (numbers : List UInt16)
    {i : Nat} (hi : i < P.kMaxSwitchBits) :
    P.bits.get (ownershipMask (P := P) index numbers) i = true ↔
      ∃ k ∈ numbers, index.lookup k = some i := by
  induction numbers using List.reverseRecOn with
  | nil => simpa [ownershipMask] using BitAccess.get_replicate_zero hP.bits i (hP.switch_byte_lt hi)
  | append_singleton numbers k ih =>
    rw [ownershipMask_append]
    cases hk : index.lookup k with
    | none => simp [hk, ih]
    | some j =>
      rw [Option.elim_some, BitAccess.get_set hP.bits _ j i true (hP.switch_byte_lt hi)]
      by_cases hij : i = j
      · subst hij
        simp [hk]
      · have hji : ¬ j = i := fun h => hij h.symm
        simp [hk, hij, hji, ih]

/-- The mask of a board within the protocol's range. -/
theorem mask_rebuildSwitchOwnershipMasks (c : Comm P) {board : UInt8}
    (hboard : board.toNat < RS485_COMM_MAX_BOARDS) :
    c.rebuildSwitchOwnershipMasks.switchOwnershipMaskByBoard board =
      ownershipMask c.switchNumberToIndex (c.numbersOf board) := by
  unfold rebuildSwitchOwnershipMasks numbersOf
  dsimp only
  cases c.switchNumbersByBoard.lookup board with
  | none => rfl
  | some numbers => exact if_pos hboard

/-- What the board loop of `FinalizeConfiguredBoardPresence` keeps. -/
structure VirtualLayout (c : Comm P) : Prop where
  boards : ∀ b boardState, c.virtualSwitchBoards.lookup b = some boardState →
    boardState = c.virtualBoardState b
  owner : ∀ k b, c.virtualSwitchOwnerByNumber.lookup k = some b →
    k ∈ c.numbersOf b ∧ (c.virtualSwitchBoards.lookup b).isSome = true
  owned : ∀ k b, k ∈ c.numbersOf b → (c.virtualSwitchBoards.lookup b).isSome = true →
    (c.virtualSwitchOwnerByNumber.lookup k).isSome = true

theorem VirtualLayout.virtualizeBoard {c : Comm P} (h : VirtualLayout c) (board : UInt8) :
    VirtualLayout (c.virtualizeBoard board) := by
  unfold Comm.virtualizeBoard
  split
  · -- a present board stays real
    exact h
  · have hnumbers : (c.virtualBoardState board).switchNumbers = c.numbersOf board := rfl
    -- in each map the new board comes first, all else is as before
    refine ⟨?_, ?_, ?_⟩
    · intro b boardState hlookup
      by_cases hb : b = board
      · subst hb
        rw [AList.lookup_insert] at hlookup
        exact (Option.some.inj hlookup).symm
      · rw [AList.lookup_insert_ne hb] at hlookup
        exact h.boards b boardState hlookup
    · intro k b hlookup
      dsimp only at hlookup ⊢
      rw [lookup_foldl_insert_const, hnumbers] at hlookup
      by_cases hb : b = board
      · subst hb
        rw [AList.lookup_insert]
        split at hlookup
        · next hmem => exact ⟨hmem, rfl⟩
        · exact ⟨(h.owner k b hlookup).1, rfl⟩
      · rw [AList.lookup_insert_ne hb]
        split at hlookup
        · exact absurd (Option.some.inj hlookup).symm hb
        · exact h.owner k b hlookup
    · intro k b hmem hvirtual
      dsimp only at hvirtual ⊢
      rw [lookup_foldl_insert_const, hnumbers]
      split
      · rfl
      · next hother =>
        have hb : b ≠ board := by
          intro heq
          subst heq
          exact hother hmem
        rw [AList.lookup_insert_ne hb] at hvirtual
        exact h.owned k b hmem hvirtual

/-- `FinalizeConfiguredBoardPresence` leaves everything else alone. -/
theorem finalizeConfiguredBoardPresence_eq (c : Comm P) :
    ∃ boards owners, c.finalizeConfiguredBoardPresence =
      { c with
        virtualSwitchBoards := boards
        virtualSwitchOwnerByNumber := owners
        boardPresenceFinalized := true } := by
  -- each round only inserts into the two maps
  have hfold : ∀ (configured : List UInt8) (c : Comm P), ∃ boards owners,
      configured.foldl Comm.virtualizeBoard c =
        { c with virtualSwitchBoards := boards, virtualSwitchOwnerByNumber := owners } := by
    intro configured
    induction configured with
    | nil => exact fun c => ⟨c.virtualSwitchBoards, c.virtualSwitchOwnerByNumber, rfl⟩
    | cons board configured ih =>
      intro c
      obtain ⟨boards, owners, heq⟩ := ih (c.virtualizeBoard board)
      refine ⟨boards, owners, ?_⟩
      rw [List.foldl_cons, heq]
      unfold Comm.virtualizeBoard
      split <;> rfl
  unfold finalizeConfiguredBoardPresence
  split
  · next hfinal => exact ⟨c.virtualSwitchBoards, c.virtualSwitchOwnerByNumber, by rw [← hfinal]⟩
  · obtain ⟨boards, owners, heq⟩ := hfold c.configuredBoards
      { c with virtualSwitchBoards := ∅, virtualSwitchOwnerByNumber := ∅ }
    exact ⟨boards, owners, by rw [heq]⟩

theorem virtualLayout_finalize {c : Comm P} (h : c.boardPresenceFinalized = false) :
    VirtualLayout c.finalizeConfiguredBoardPresence := by
  have hfold : ∀ (configured : List UInt8) (c : Comm P), VirtualLayout c →
      VirtualLayout (configured.foldl Comm.virtualizeBoard c) := by
    intro configured
    induction configured with
    | nil => exact fun c h => h
    | cons board configured ih => exact fun c h => ih _ (h.virtualizeBoard board)
  have hempty : VirtualLayout
      { c with virtualSwitchBoards := ∅, virtualSwitchOwnerByNumber := ∅ } := by
    refine ⟨?_, ?_, ?_⟩
    · intro b boardState hlookup
      exact nomatch (AList.lookup_empty b).symm.trans hlookup
    · intro k b hlookup
      exact nomatch (AList.lookup_empty k).symm.trans hlookup
    · intro k b _ hvirtual
      exact nomatch hvirtual
  have hresult := hfold c.configuredBoards _ hempty
  unfold finalizeConfiguredBoardPresence
  rw [if_neg (by rw [h]; decide)]
  exact ⟨hresult.boards, hresult.owner, hresult.owned⟩

/-- The built configuration is accepted: there are as many bits as mapped
    numbers. -/
theorem runtimeConfig_installMappings (hP : P.Lawful pos) (coilNumbers lampNumbers : List UInt16)
    (items : List SwitchItem) (configuredBoards : List UInt8) (skippedBoards : Finset UInt8)
    (c : Comm P) :
    (c.installMappings coilNumbers lampNumbers items configuredBoards
      skippedBoards).runtimeConfig =
        { coilBits := (domainMapping P.kMaxCoilBits coilNumbers).length
          lampBits := (domainMapping P.kMaxLampBits lampNumbers).length
          switchBits :=
            (domainMapping P.kMaxSwitchBits (items.map SwitchItem.number)).length } := by
  have hsize : ∀ (kMax : Nat) (numbers : List UInt16), 0 < kMax →
      1 ≤ (domainMapping kMax numbers).length ∧ (domainMapping kMax numbers).length ≤ kMax := by
    intro kMax numbers hpos
    rw [length_domainMapping]
    unfold domainBits
    omega
  have haccept := hP.acceptsConfig
    { coilBits := (domainMapping P.kMaxCoilBits coilNumbers).length
      lampBits := (domainMapping P.kMaxLampBits lampNumbers).length
      switchBits := (domainMapping P.kMaxSwitchBits (items.map SwitchItem.number)).length }
    (hsize _ _ hP.maxCoilBits.1) (hsize _ _ hP.maxLampBits.1) (hsize _ _ hP.maxSwitchBits.1)
  show (if P.isValidRuntimeConfig _ = true then _ else c.runtimeConfig) = _
  rw [if_pos haccept]

theorem switchBits_installMappings (hP : P.Lawful pos) (coilNumbers lampNumbers : List UInt16)
    (items : List SwitchItem) (configuredBoards : List UInt8) (skippedBoards : Finset UInt8)
    (c : Comm P) :
    (c.installMappings coilNumbers lampNumbers items configuredBoards
      skippedBoards).runtimeConfig.switchBits =
        (domainMapping P.kMaxSwitchBits (items.map SwitchItem.number)).length := by
  rw [runtimeConfig_installMappings hP]

/-- **The layout of a session**: what `startupAttempt` installs, followed by
    the presence of the boards, meets the layout, whichever boards are
    present. -/
theorem switchLayout_installMappings (hP : P.Lawful pos) (coilNumbers lampNumbers : List UInt16)
    {items : List SwitchItem} (hitems : SwitchItem.Admissible P items)
    (configuredBoards : List UInt8) (skippedBoards : Finset UInt8) (c : Comm P) :
    SwitchLayout (c.installMappings coilNumbers lampNumbers items configuredBoards
      skippedBoards).finalizeConfiguredBoardPresence := by
  generalize hc : c.installMappings coilNumbers lampNumbers items configuredBoards
    skippedBoards = c₁
  have hvirtual : VirtualLayout c₁.finalizeConfiguredBoardPresence :=
    virtualLayout_finalize (by rw [← hc]; rfl)
  obtain ⟨boards, owners, heq⟩ := finalizeConfiguredBoardPresence_eq c₁
  rw [heq] at hvirtual ⊢
  -- the mapping, and the numbers of the boards
  have hmapping : c₁.switchIndexToNumber =
      domainMapping P.kMaxSwitchBits (items.map SwitchItem.number) := by
    rw [← hc]
    rfl
  have hnodup := nodup_domainMapping P.kMaxSwitchBits (items.map SwitchItem.number)
  have hnumbers : ∀ b k, k ∈ c₁.numbersOf b ↔ ∃ item ∈ items, item.board = b ∧ item.number = k := by
    intro b k
    rw [← hc]
    exact SwitchItem.mem_switchNumbersByBoard items b k
  have hindex : ∀ k i, c₁.switchNumberToIndex.lookup k = some i ↔
      c₁.switchIndexToNumber[i]? = some k := by
    intro k i
    rw [← hc]
    exact lookup_numberToIndex hnodup k i
  have honeBoard : ∀ b b' k, k ∈ c₁.numbersOf b → k ∈ c₁.numbersOf b' → b = b' := by
    intro b b' k hb hb'
    obtain ⟨x, hx, rfl, rfl⟩ := (hnumbers b k).mp hb
    obtain ⟨y, hy, rfl, hnumber⟩ := (hnumbers b' _).mp hb'
    exact hitems.oneBoard x hx y hy hnumber.symm
  refine
    { finalized := rfl
      bits := ?_
      fits := ?_
      nodup := ?_
      index := hindex
      mask := ?_
      mapped := ?_
      oneBoard := honeBoard
      boards := ?_
      owner := ?_ }
  · show c₁.runtimeConfig.switchBits = c₁.switchIndexToNumber.length
    rw [hmapping, ← hc]
    exact switchBits_installMappings hP coilNumbers lampNumbers items configuredBoards
      skippedBoards c
  · show c₁.switchIndexToNumber.length ≤ _
    rw [hmapping, length_domainMapping]
    exact domainBits_le _ _
  · show c₁.switchIndexToNumber.Nodup
    rw [hmapping]
    exact hnodup
  · intro b hb i hi
    show P.bits.get (c₁.switchOwnershipMaskByBoard b) i = true ↔ _
    have hmask : c₁.switchOwnershipMaskByBoard b =
        ownershipMask c₁.switchNumberToIndex (c₁.numbersOf b) := by
      rw [← hc]
      exact mask_rebuildSwitchOwnershipMasks _ hb
    rw [hmask]
    exact get_ownershipMask hP c₁.switchNumberToIndex (c₁.numbersOf b) hi
  · intro b k hk
    obtain ⟨item, hitem, -, rfl⟩ := (hnumbers b k).mp hk
    have hmem := mem_domainMapping hP.maxSwitchBits.1 hitems.fits hP.maxSwitchBits.2
      (List.mem_map_of_mem (f := SwitchItem.number) hitem)
    obtain ⟨i, hi⟩ := List.mem_iff_getElem?.mp hmem
    refine ⟨i, (hindex _ _).mpr ?_⟩
    rw [hmapping]
    exact hi
  · intro b boardState hlookup
    have hstate := hvirtual.boards b boardState hlookup
    rw [hstate]
    rfl
  · intro k b
    constructor
    · exact hvirtual.owner k b
    · intro h
      obtain ⟨hmem, hboard⟩ := h
      obtain ⟨b', hb'⟩ := Option.isSome_iff_exists.mp (hvirtual.owned k b hmem hboard)
      -- the owner is the one board the number is configured for
      have hsame := honeBoard b b' k hmem (hvirtual.owner k b' hb').1
      rw [hsame]
      exact hb'

/-- The virtualized boards of a new session have all switches open. -/
theorem virtualBoards_open {c : Comm P} (h : c.boardPresenceFinalized = false) (b : UInt8)
    {boardState : VirtualSwitchBoardState}
    (hlookup : c.finalizeConfiguredBoardPresence.virtualSwitchBoards.lookup b = some boardState) :
    boardState.switchStates = List.replicate boardState.switchNumbers.length 0 := by
  rw [(virtualLayout_finalize h).boards b boardState hlookup]
  rfl

end layout

end Comm

end LibPpuc
