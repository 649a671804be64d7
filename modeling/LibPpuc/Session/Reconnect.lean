import LibPpuc.Host.Presence
import LibPpuc.Session.Lifetime
import LibPpuc.Session.SwitchStream

/-! # Virtual Switches Across Sessions

  The state of a virtualized switch is kept twice, as an entry of its board
  and as a bit of `m_switchBitmap`, and the two live for different times:
  `FinalizeConfiguredBoardPresence` starts every session with open entries,
  the bitmap is never reset.  A switch that was closed when a session ended
  and is virtualized in the next one has an open entry and a closed bit; a
  call that opens it returns true, and the application never hears of it.

  So entries and bits agree in every state that an object reaches, and every
  change of a virtual switch is pushed, if and only if whenever a session
  starts all switches of the boards that do not answer were last reported
  open, and no state frame changes the bit of a virtualized switch.
-/

namespace LibPpuc

open Alternation

/-- The last state reported for a number; at first all switches are open. -/
def lastTold (number : UInt16) (events : List PPUCSwitchState) : Nat :=
  final 0 (statesOf number.toNat events)

theorem lastTold_append (number : UInt16) {es fs : List PPUCSwitchState}
    (h : statesOf number.toNat fs = []) : lastTold number (es ++ fs) = lastTold number es := by
  unfold lastTold
  rw [statesOf_append, h, List.append_nil]

theorem lastTold_append_singleton (number : UInt16) {es fs : List PPUCSwitchState} {state : Nat}
    (h : statesOf number.toNat fs = [state]) : lastTold number (es ++ fs) = state := by
  unfold lastTold
  rw [statesOf_append, h, final_snoc]

/-- The switch mapping of a document. -/
def switchMapping (P : Protocol) (cpp : YamlCpp) (config : Yaml) : List UInt16 :=
  match Pass.collectSwitches cpp config with
  | .ok items => domainMapping P.kMaxSwitchBits (items.map SwitchItem.number)
  | .error _ => []

theorem switchMapping_eq {P : Protocol} {cpp : YamlCpp} {config : Yaml} {items : List SwitchItem}
    (h : Pass.collectSwitches cpp config = .ok items) :
    switchMapping P cpp config =
      domainMapping P.kMaxSwitchBits (items.map SwitchItem.number) := by
  unfold switchMapping
  rw [h]

theorem nodup_switchMapping (P : Protocol) (cpp : YamlCpp) (config : Yaml) :
    (switchMapping P cpp config).Nodup := by
  unfold switchMapping
  split
  · exact nodup_domainMapping _ _
  · exact List.nodup_nil

theorem lt_of_switchMapping {P : Protocol} {cpp : YamlCpp} {config : Yaml} {i : Nat} {k : UInt16}
    (h : (switchMapping P cpp config)[i]? = some k) : i < P.kMaxSwitchBits := by
  obtain ⟨hlt, -⟩ := List.getElem?_eq_some_iff.mp h
  unfold switchMapping at hlt
  split at hlt
  · rw [length_domainMapping] at hlt
    exact Nat.lt_of_lt_of_le hlt (domainBits_le _ _)
  · exact absurd hlt (Nat.not_lt_zero i)

namespace Comm

variable {P : Protocol} {W : Type}

/-! ### Entries and Bits -/

/-- The entry that `SetVirtualSwitchState` compares with; none if the number
    is not virtualized. -/
def virtualEntry (number : UInt16) (c : Comm P) : Option Nat :=
  (c.virtualSwitchOwnerByNumber.lookup number).bind fun owner =>
    (c.virtualSwitchBoards.lookup owner).bind fun boardState =>
      (boardState.switchNumbers.idxOf? number).bind fun i => boardState.switchStates[i]?

/-- The entry of each virtualized mapped switch is its bit. -/
def VirtualInStep (c : Comm P) : Prop :=
  ∀ i < c.switchIndexToNumber.length, ∀ k ∈ c.switchIndexToNumber[i]?,
    ∀ v ∈ c.virtualEntry k, v = bitState c.switchBitmap i

instance (c : Comm P) : Decidable c.VirtualInStep :=
  haveI (i : Nat) : Decidable (∀ k ∈ c.switchIndexToNumber[i]?, ∀ v ∈ c.virtualEntry k,
      v = bitState c.switchBitmap i) :=
    Option.decidableForallMem _
  inferInstanceAs (Decidable (∀ i < c.switchIndexToNumber.length, _))

/-- Whenever a virtual switch is set to another state than the one last
    reported, an event is pushed. -/
def PushesChanges (told : List PPUCSwitchState) (c : Comm P) : Prop :=
  ∀ (number : UInt16) (state : UInt8) (now : Nat), (c.virtualEntry number).isSome = true →
    normalizedState state ≠ lastTold number told →
      (c.setVirtualSwitchState now number state).2.switches =
        c.switches ++ [{ number := number.toNat, state := normalizedState state }]

/-- The virtual switches are consistent, with the events that the application
    has taken. -/
def VirtualsConsistent (p : Comm P × List PPUCSwitchState) : Prop :=
  p.1.VirtualInStep ∧ p.1.PushesChanges (p.2 ++ p.1.switches)

/-- What keeps them consistent.  At a `Connect` that succeeds, the switches
    of all boards that do not answer were last reported open.  A state frame
    that is applied repeats the bits of the virtualized switches. -/
def KeepsVirtuals (E : HostEnv W) (config : Yaml) (p : Comm P × List PPUCSwitchState) :
    SessionOp W → Prop
  | .connect s forceHardReset w =>
    ∀ c' ∈ p.1.sessionStep E config (.connect s forceHardReset w),
      ∀ b ∈ c'.configuredBoards, b ∉ c'.presentBoards →
        ∀ k ∈ c'.numbersOf b, lastTold k (p.2 ++ p.1.switches) = 0
  | .reply board r w =>
    p.1.virtualSwitchBoards.lookup board = none → ∀ f ∈ p.1.acceptedState E.port r w,
      ∀ i < p.1.switchIndexToNumber.length, ∀ k ∈ p.1.switchIndexToNumber[i]?,
        (p.1.virtualEntry k).isSome = true → ownsBit (p.1.maskOf board) i = true →
          P.bits.get (f.bitmap P) i = P.bits.get p.1.switchBitmap i
  | _ => True

instance (E : HostEnv W) (config : Yaml) (p : Comm P × List PPUCSwitchState)
    (op : SessionOp W) : Decidable (KeepsVirtuals E config p op) :=
  match op with
  | .connect s forceHardReset w =>
    haveI (c' : Comm P) (b : UInt8) : Decidable (∀ k ∈ c'.numbersOf b,
        lastTold k (p.2 ++ p.1.switches) = 0) := List.decidableBAll _ _
    haveI (c' : Comm P) : Decidable (∀ b ∈ c'.configuredBoards, b ∉ c'.presentBoards →
        ∀ k ∈ c'.numbersOf b, lastTold k (p.2 ++ p.1.switches) = 0) := List.decidableBAll _ _
    inferInstanceAs (Decidable (∀ c' ∈ p.1.sessionStep E config (.connect s forceHardReset w), _))
  | .reply board r w =>
    haveI (f : SwitchFrame) (i : Nat) : Decidable (∀ k ∈ p.1.switchIndexToNumber[i]?,
        (p.1.virtualEntry k).isSome = true → ownsBit (p.1.maskOf board) i = true →
          P.bits.get (f.bitmap P) i = P.bits.get p.1.switchBitmap i) :=
      Option.decidableForallMem _
    inferInstanceAs (Decidable (p.1.virtualSwitchBoards.lookup board = none →
      ∀ f ∈ p.1.acceptedState E.port r w, ∀ i < p.1.switchIndexToNumber.length, _))
  | .virtualReply _ _ _ _ | .setVirtualSwitchState _ _ _ | .getNextSwitchState | .disconnect _ =>
    isTrue trivial

/-! ### Entries -/

variable {pos : Nat → Nat} {c c' : Comm P}

theorem virtualEntry_congr (howners : c'.virtualSwitchOwnerByNumber = c.virtualSwitchOwnerByNumber)
    (hboards : c'.virtualSwitchBoards = c.virtualSwitchBoards) (k : UInt16) :
    c'.virtualEntry k = c.virtualEntry k := by
  unfold virtualEntry
  rw [howners, hboards]

/-- **Entries start open**: the virtualized switches of a new session are those
    of the configured boards that are not present. -/
theorem mem_virtualEntry_finalize (h : c.boardPresenceFinalized = false) {k : UInt16} {v : Nat} :
    v ∈ c.finalizeConfiguredBoardPresence.virtualEntry k ↔
      v = 0 ∧ ∃ b ∈ c.configuredBoards, b ∉ c.presentBoards ∧ k ∈ c.numbersOf b := by
  have hlayout := virtualLayout_finalize h
  have hvirtual := fun b => virtualized_finalize h b
  have hnumbers : ∀ b, c.finalizeConfiguredBoardPresence.numbersOf b = c.numbersOf b := by
    obtain ⟨boards, owners, heq⟩ := finalizeConfiguredBoardPresence_eq c
    rw [heq]
    exact fun _ => rfl
  generalize c.finalizeConfiguredBoardPresence = d at hlayout hvirtual hnumbers ⊢
  unfold virtualEntry
  simp only [Option.mem_def, Option.bind_eq_some_iff]
  constructor
  · rintro ⟨b, howner, boardState, hboard, i, hi, hv⟩
    obtain ⟨hmem, hsome⟩ := hlayout.owner k b howner
    obtain ⟨hconfigured, habsent⟩ := (hvirtual b).mp hsome
    obtain rfl := hlayout.boards b boardState hboard
    refine ⟨?_, b, hconfigured, habsent, hnumbers b ▸ hmem⟩
    -- all entries of a new board are zero
    exact (List.mem_replicate.mp (List.mem_of_getElem? hv)).2
  · rintro ⟨rfl, b, hconfigured, habsent, hmem⟩
    have hsome := (hvirtual b).mpr ⟨hconfigured, habsent⟩
    have howned := hlayout.owned k b ((hnumbers b).symm ▸ hmem) hsome
    obtain ⟨owner, howner⟩ := Option.isSome_iff_exists.mp howned
    obtain ⟨hmem', hsome'⟩ := hlayout.owner k owner howner
    obtain ⟨boardState, hboard⟩ := Option.isSome_iff_exists.mp hsome'
    obtain rfl := hlayout.boards owner boardState hboard
    have hlisted : k ∈ (d.virtualBoardState owner).switchNumbers := hmem'
    obtain ⟨i, hi⟩ : ∃ i, (d.virtualBoardState owner).switchNumbers.idxOf? k = some i := by
      cases hindex : (d.virtualBoardState owner).switchNumbers.idxOf? k with
      | some i => exact ⟨i, rfl⟩
      | none => exact absurd hlisted (List.idxOf?_eq_none_iff.mp hindex)
    obtain ⟨hlt, -⟩ := List.idxOf?_eq_some_iff.mp hi
    refine ⟨owner, howner, _, hboard, i, hi, ?_⟩
    exact List.getElem?_replicate_of_lt hlt

theorem virtualEntry_clearDirty (board : UInt8) (c : Comm P) (k : UInt16) :
    (c.clearDirty board).virtualEntry k = c.virtualEntry k := by
  have howners : (c.clearDirty board).virtualSwitchOwnerByNumber =
      c.virtualSwitchOwnerByNumber := by
    unfold clearDirty
    split <;> rfl
  unfold virtualEntry
  rw [howners]
  apply congrArg
  funext owner
  rw [lookup_clearDirty]
  split
  · cases c.virtualSwitchBoards.lookup owner <;> rfl
  · rfl

/-- One entry changes. -/
theorem virtualEntry_changeVirtualSwitch (now : Nat) {owner : UInt8}
    {boardState : VirtualSwitchBoardState} {j : Nat} {number : UInt16} (state : Nat)
    (howner : c.virtualSwitchOwnerByNumber.lookup number = some owner)
    (hboard : c.virtualSwitchBoards.lookup owner = some boardState)
    (hj : boardState.switchNumbers.idxOf? number = some j) (k : UInt16) :
    (c.changeVirtualSwitch now boardState owner j number state).virtualEntry k =
      if k = number then some state else c.virtualEntry k := by
  have howners : (c.changeVirtualSwitch now boardState owner j number
      state).virtualSwitchOwnerByNumber = c.virtualSwitchOwnerByNumber := by
    unfold changeVirtualSwitch noteSwitchActivity
    dsimp only
    split <;> rfl
  have hboards := (virtualSwitchBoards_changeVirtualSwitch now boardState owner j number state c).1
  -- within the board that owns the number
  have hset : ∀ k, ((boardState.setEntry j state).switchNumbers.idxOf? k).bind
      (fun i => (boardState.setEntry j state).switchStates[i]?) =
        if k = number then some state
        else (boardState.switchNumbers.idxOf? k).bind fun i => boardState.switchStates[i]? := by
    intro k
    show (boardState.switchNumbers.idxOf? k).bind
      (fun i => (boardState.switchStates.set j state)[i]?) = _
    obtain ⟨hlt, hat, -⟩ := List.idxOf?_eq_some_iff.mp hj
    by_cases hk : k = number
    · subst hk
      rw [if_pos rfl, hj, Option.bind_some]
      exact List.getElem?_set_self (boardState.sizes.symm ▸ hlt)
    · -- another entry has another position, as a number has one position only
      rw [if_neg hk]
      cases hi : boardState.switchNumbers.idxOf? k with
      | none => rfl
      | some i =>
        have hne : j ≠ i := by
          rintro rfl
          obtain ⟨_, hat', -⟩ := List.idxOf?_eq_some_iff.mp hi
          exact hk (hat'.symm.trans hat)
        exact List.getElem?_set_ne hne
  -- and over all boards
  unfold virtualEntry
  rw [howners, hboards]
  by_cases hk : k = number
  · subst hk
    rw [howner, Option.bind_some, AList.lookup_insert, Option.bind_some, hset, if_pos rfl,
      if_pos rfl]
  · rw [if_neg hk]
    apply congrArg
    funext b
    by_cases hb : b = owner
    · subst hb
      rw [AList.lookup_insert, hboard, Option.bind_some, Option.bind_some, hset, if_neg hk]
    · rw [AList.lookup_insert_ne hb]

/-- What a call does where the entry is another one. -/
theorem switches_setVirtualSwitchState (hfinal : c.boardPresenceFinalized = true)
    {number : UInt16} {v : Nat} (hv : v ∈ c.virtualEntry number) (now : Nat) (state : UInt8) :
    (c.setVirtualSwitchState now number state).2.switches =
      if v = normalizedState state then c.switches
      else c.switches ++ [{ number := number.toNat, state := normalizedState state }] := by
  unfold virtualEntry at hv
  simp only [Option.mem_def, Option.bind_eq_some_iff] at hv
  obtain ⟨owner, howner, boardState, hboard, i, hi, hstate⟩ := hv
  have hchange : (c.changeVirtualSwitch now boardState owner i number
      (normalizedState state)).switches =
        c.switches ++ [{ number := number.toNat, state := normalizedState state }] := by
    unfold changeVirtualSwitch noteSwitchActivity
    dsimp only
    split <;> rfl
  unfold setVirtualSwitchState
  rw [finalizeConfiguredBoardPresence_of_finalized hfinal]
  simp only [howner, hboard, hi, hstate, Option.some.injEq]
  split
  · rfl
  · exact hchange

/-! ### The Invariant -/

/-- No session has been started yet. -/
structure Unused (c : Comm P) : Prop where
  closed : c.portOpen = false
  unmapped : c.switchIndexToNumber = []
  noOwners : c.virtualSwitchOwnerByNumber = ∅

/-- A session has been started for the mapping. -/
structure Used (mapping : List UInt16) (c : Comm P) : Prop where
  mapped : c.switchIndexToNumber = mapping
  bits : c.runtimeConfig.switchBits = c.switchIndexToNumber.length
  index : c.switchNumberToIndex = numberToIndex c.switchIndexToNumber
  finalized : c.boardPresenceFinalized = true
  binary : ∀ k, ∀ v ∈ c.virtualEntry k, v = 0 ∨ v = 1

/-- **The invariant**, which needs no guard: the bit of a mapped number is the
    last state reported for it. -/
structure BitsTold (mapping : List UInt16) (p : Comm P × List PPUCSwitchState) : Prop where
  told : ∀ (i : Nat) (k : UInt16), mapping[i]? = some k →
    lastTold k (p.2 ++ p.1.switches) = bitState p.1.switchBitmap i
  phase : Unused p.1 ∨ Used mapping p.1

/-- The entry of every virtualized switch is the last state reported for it. -/
def EntriesTold (p : Comm P × List PPUCSwitchState) : Prop :=
  ∀ k, ∀ v ∈ p.1.virtualEntry k, v = lastTold k (p.2 ++ p.1.switches)

theorem Unused.virtualEntry_eq (h : Unused c) (k : UInt16) : c.virtualEntry k = none := by
  unfold virtualEntry
  rw [h.noOwners, AList.lookup_empty]
  rfl

/-- Where entries are there, a session has been started. -/
theorem BitsTold.used {mapping : List UInt16} {p : Comm P × List PPUCSwitchState}
    (h : BitsTold mapping p) {k : UInt16} {v : Nat} (hv : v ∈ p.1.virtualEntry k) :
    Used mapping p.1 := by
  rcases h.phase with hunused | hused
  · rw [hunused.virtualEntry_eq] at hv
    exact nomatch hv
  · exact hused

/-- An open port belongs to a session. -/
theorem BitsTold.used_of_open {mapping : List UInt16} {p : Comm P × List PPUCSwitchState}
    (h : BitsTold mapping p) (hopen : p.1.portOpen = true) : Used mapping p.1 := by
  rcases h.phase with hunused | hused
  · rw [hunused.closed] at hopen
    exact nomatch hopen
  · exact hused

theorem Used.of_setup {mapping : List UInt16} (h : Used mapping c)
    (hsetup : c'.switchSetup = c.switchSetup)
    (hfinal : c'.boardPresenceFinalized = c.boardPresenceFinalized)
    (hbinary : ∀ k, ∀ v ∈ c'.virtualEntry k, v = 0 ∨ v = 1) : Used mapping c' := by
  have hmapping : c'.switchIndexToNumber = c.switchIndexToNumber :=
    (congrArg SwitchSetup.switchIndexToNumber hsetup :)
  have hconfig : c'.runtimeConfig = c.runtimeConfig :=
    (congrArg SwitchSetup.runtimeConfig hsetup :)
  have hindex : c'.switchNumberToIndex = c.switchNumberToIndex :=
    (congrArg SwitchSetup.switchNumberToIndex hsetup :)
  refine ⟨hmapping.trans h.mapped, ?_, ?_, hfinal.trans h.finalized, hbinary⟩
  · rw [hmapping, hconfig]
    exact h.bits
  · rw [hmapping, hindex]
    exact h.index

theorem Used.congr {mapping : List UInt16} (h : Used mapping c)
    (hsetup : c'.switchSetup = c.switchSetup)
    (hfinal : c'.boardPresenceFinalized = c.boardPresenceFinalized)
    (hentries : ∀ k, c'.virtualEntry k = c.virtualEntry k) : Used mapping c' := by
  apply h.of_setup hsetup hfinal
  intro k
  rw [hentries]
  exact h.binary k

/-- Under the invariant the virtual switches are consistent exactly if the
    entries are the states last reported. -/
theorem virtualsConsistent_iff {mapping : List UInt16} {p : Comm P × List PPUCSwitchState}
    (h : BitsTold mapping p) : VirtualsConsistent p ↔ EntriesTold p := by
  constructor
  · rintro ⟨-, hpushes⟩ k v hv
    have hused := h.used hv
    by_contra hdiffers
    -- a call with the state of the entry pushes nothing
    obtain ⟨state, hstate⟩ : ∃ state : UInt8, normalizedState state = v := by
      rcases hused.binary k v hv with rfl | rfl
      · exact ⟨0, rfl⟩
      · exact ⟨1, rfl⟩
    have hpushed := hpushes k state 0 (Option.isSome_iff_exists.mpr ⟨v, hv⟩) (hstate ▸ hdiffers)
    rw [switches_setVirtualSwitchState hused.finalized hv, if_pos hstate.symm] at hpushed
    simp at hpushed
  · intro hentries
    constructor
    · intro i _ k hk v hv
      have hused := h.used hv
      rw [hused.mapped] at hk
      exact (hentries k v hv).trans (h.told i k hk)
    · intro number state now hsome hchanges
      obtain ⟨v, hv⟩ := Option.isSome_iff_exists.mp hsome
      have hused := h.used hv
      rw [switches_setVirtualSwitchState hused.finalized hv, if_neg]
      intro heq
      exact hchanges (heq.symm.trans (hentries number v hv))

section steps

variable {mapping : List UInt16} {taken : List PPUCSwitchState}

/-! ### Steps That Change Nothing -/

/-- The operation leaves bits, events and entries alone. -/
structure KeepsSwitches (c c' : Comm P) : Prop where
  bitmap : c'.switchBitmap = c.switchBitmap
  switches : c'.switches = c.switches
  setup : c'.switchSetup = c.switchSetup
  finalized : c'.boardPresenceFinalized = c.boardPresenceFinalized
  entries : ∀ k, c'.virtualEntry k = c.virtualEntry k

theorem KeepsSwitches.refl (c : Comm P) : KeepsSwitches c c := ⟨rfl, rfl, rfl, rfl, fun _ => rfl⟩

theorem KeepsSwitches.trans {c'' : Comm P} (h : KeepsSwitches c c') (h' : KeepsSwitches c' c'') :
    KeepsSwitches c c'' where
  bitmap := h'.bitmap.trans h.bitmap
  switches := h'.switches.trans h.switches
  setup := h'.setup.trans h.setup
  finalized := h'.finalized.trans h.finalized
  entries k := (h'.entries k).trans (h.entries k)

/-- Whether the port is open does not matter. -/
theorem KeepsSwitches.of_store
    (h : { c'.switchStore with portOpen := false } = { c.switchStore with portOpen := false }) :
    KeepsSwitches c c' where
  bitmap := (congrArg SwitchStore.switchBitmap h :)
  switches := (congrArg SwitchStore.switches h :)
  setup := (congrArg (fun st : SwitchStore P =>
    (⟨st.switchBoards, st.switchNumbersByBoard, st.switchOwnershipMaskByBoard, st.runtimeConfig,
      st.switchIndexToNumber, st.switchNumberToIndex⟩ : SwitchSetup P)) h :)
  finalized := (congrArg SwitchStore.boardPresenceFinalized h :)
  entries := virtualEntry_congr (congrArg SwitchStore.virtualSwitchOwnerByNumber h :)
    (congrArg SwitchStore.virtualSwitchBoards h :)

theorem keepsSwitches_disconnect (port : SerialPort W) (c : Comm P) (w : W) :
    KeepsSwitches c (c.disconnect port w) := by
  apply KeepsSwitches.of_store
  rw [switchStore_disconnect]

theorem keepsSwitches_clearDirty (board : UInt8) (c : Comm P) :
    KeepsSwitches c (c.clearDirty board) where
  bitmap := by
    unfold clearDirty
    split <;> rfl
  switches := by
    unfold clearDirty
    split <;> rfl
  setup := switchSetup_clearDirty board c
  finalized := boardPresenceFinalized_clearDirty board c
  entries := virtualEntry_clearDirty board c

theorem keepsSwitches_sendVirtualSwitchReply (port : SerialPort W) (board nextBoard : UInt8)
    (r : SwitchReply) (c : Comm P) (w : W) :
    KeepsSwitches c (c.sendVirtualSwitchReply port board nextBoard r w).2.1 := by
  have hwritten : ∀ dirty w,
      KeepsSwitches c (c.writeVirtualReply port dirty nextBoard c.switchBitmap w).2.1 := by
    intro dirty w
    apply KeepsSwitches.of_store
    unfold writeVirtualReply
    rw [switchStore_writeBytes]
  have hcleared : ∀ dirty w, KeepsSwitches c
      (if (c.writeVirtualReply port dirty nextBoard c.switchBitmap w).1 = true then
        (c.writeVirtualReply port dirty nextBoard c.switchBitmap w).2.1.clearDirty board
      else (c.writeVirtualReply port dirty nextBoard c.switchBitmap w).2.1) := by
    intro dirty w
    split
    · exact (hwritten dirty w).trans (keepsSwitches_clearDirty board _)
    · exact hwritten dirty w
  unfold sendVirtualSwitchReply
  split
  · exact KeepsSwitches.refl c
  · split
    · exact hcleared _ _
    · exact KeepsSwitches.refl c

/-- A frame that is not applied. -/
theorem keepsSwitches_receive (port : SerialPort W) (board : UInt8) (r : SwitchReply)
    (c : Comm P) (w : W) (h : c.acceptedState port r w = none) :
    KeepsSwitches c (c.receiveSwitchStateFrame port board r w).2.1 := by
  obtain ⟨hbitmap, hswitches⟩ := receive_of_not_accepted port board r c w h
  have hhost := hostPart_receiveSwitchStateFrame port board r c w
  exact ⟨hbitmap, hswitches, (congrArg switchSetup hhost :),
    (congrArg boardPresenceFinalized hhost :),
    fun k => (congrArg (fun d : Comm P => d.virtualEntry k) hhost :)⟩

theorem KeepsSwitches.told (hkeeps : KeepsSwitches c c') (h : BitsTold mapping (c, taken))
    (hused : Used mapping c) : BitsTold mapping (c', taken) := by
  refine ⟨?_, Or.inr (hused.congr hkeeps.setup hkeeps.finalized hkeeps.entries)⟩
  intro i k hi
  dsimp only
  rw [hkeeps.bitmap, hkeeps.switches]
  exact h.told i k hi

theorem KeepsSwitches.entriesTold (hkeeps : KeepsSwitches c c')
    (h : EntriesTold (c, taken)) : EntriesTold (c', taken) := by
  intro k v hv
  dsimp only at hv ⊢
  rw [hkeeps.entries] at hv
  rw [hkeeps.switches]
  exact h k v hv

/-! ### A Reply -/

/-- A mapped number is reported if its bit is owned and differs. -/
theorem lastTold_reported (hbits : c.runtimeConfig.switchBits = c.switchIndexToNumber.length)
    (hnodup : c.switchIndexToNumber.Nodup) (mask : Option (Vector UInt8 P.kMaxSwitchBytes))
    (bitmap : Vector UInt8 P.kMaxSwitchBytes) {i : Nat} {k : UInt16}
    (hi : c.switchIndexToNumber[i]? = some k) (told : List PPUCSwitchState) :
    lastTold k (told ++ reportedEvents mask bitmap c (List.range c.runtimeConfig.switchBits)) =
      if ownsBit mask i = true ∧ P.bits.get c.switchBitmap i ≠ P.bits.get bitmap i then
        bitState bitmap i
      else lastTold k told := by
  have hstates := statesOf_reportedEvents hbits hnodup mask bitmap hi
  split
  · next hreported =>
    rw [if_pos hreported] at hstates
    exact lastTold_append_singleton k hstates
  · next hkept =>
    rw [if_neg hkept] at hstates
    exact lastTold_append k hstates

/-- No other number is reported. -/
theorem lastTold_reported_of_not_mem
    (hbits : c.runtimeConfig.switchBits = c.switchIndexToNumber.length)
    (mask : Option (Vector UInt8 P.kMaxSwitchBytes)) (bitmap : Vector UInt8 P.kMaxSwitchBytes)
    {k : UInt16} (hk : k ∉ c.switchIndexToNumber) (told : List PPUCSwitchState) :
    lastTold k (told ++ reportedEvents mask bitmap c (List.range c.runtimeConfig.switchBits)) =
      lastTold k told := by
  apply lastTold_append
  unfold statesOf
  rw [List.map_eq_nil_iff, List.filter_eq_nil_iff]
  intro event hevent hnumber
  obtain ⟨n, hn, -, -, rfl⟩ := mem_reportedEvents.mp hevent
  have hlt : n < c.switchIndexToNumber.length := hbits ▸ List.mem_range.mp hn
  have hat : c.switchNumberAt n = c.switchIndexToNumber[n].toNat := by
    unfold switchNumberAt
    rw [List.getElem?_eq_getElem hlt]
  have hsame : c.switchIndexToNumber[n] = k := by
    apply UInt16.toNat_inj.mp
    rw [← hat]
    simpa using hnumber
  exact hk (hsame ▸ List.getElem_mem hlt)

theorem bitState_inj {a b : Vector UInt8 P.kMaxSwitchBytes} {i : Nat} :
    bitState a i = bitState b i ↔ P.bits.get a i = P.bits.get b i := by
  unfold bitState
  cases P.bits.get a i <;> cases P.bits.get b i <;> simp

/-- A state frame keeps bits and reports in step.  The entries stay in step
    exactly if the frame repeats the bits of the virtualized switches that it
    may write. -/
theorem told_of_accepted (hP : P.Lawful pos) (hnodup : mapping.Nodup)
    (hmax : ∀ (i : Nat) (k : UInt16), mapping[i]? = some k → i < P.kMaxSwitchBits)
    (port : SerialPort W) (board : UInt8) (r : SwitchReply) (w : W) {f : SwitchFrame}
    (hf : c.acceptedState port r w = some f) (h : BitsTold mapping (c, taken))
    (hused : Used mapping c) (hentries : EntriesTold (c, taken)) :
    BitsTold mapping ((c.receiveSwitchStateFrame port board r w).2.1, taken) ∧
      (EntriesTold ((c.receiveSwitchStateFrame port board r w).2.1, taken) ↔
        ∀ i < c.switchIndexToNumber.length, ∀ k ∈ c.switchIndexToNumber[i]?,
          (c.virtualEntry k).isSome = true → ownsBit (c.maskOf board) i = true →
            P.bits.get (f.bitmap P) i = P.bits.get c.switchBitmap i) := by
  obtain ⟨hbitmap, hswitches, -⟩ := receive_of_accepted port board r c w hf
  have hhost := hostPart_receiveSwitchStateFrame port board r c w
  have hvirtual : ∀ k, (c.receiveSwitchStateFrame port board r w).2.1.virtualEntry k =
      c.virtualEntry k := fun k => (congrArg (fun d : Comm P => d.virtualEntry k) hhost :)
  have hused' : Used mapping (c.receiveSwitchStateFrame port board r w).2.1 :=
    hused.congr (congrArg switchSetup hhost :) (congrArg boardPresenceFinalized hhost :) hvirtual
  generalize (c.receiveSwitchStateFrame port board r w).2.1 = c' at *
  rw [← hused.mapped] at hnodup hmax
  have htold : ∀ (i : Nat) (k : UInt16), c.switchIndexToNumber[i]? = some k →
      lastTold k (taken ++ c'.switches) =
        if ownsBit (c.maskOf board) i = true ∧
            P.bits.get c.switchBitmap i ≠ P.bits.get (f.bitmap P) i then
          bitState (f.bitmap P) i
        else lastTold k (taken ++ c.switches) := by
    intro i k hi
    rw [hswitches, ← List.append_assoc]
    exact lastTold_reported hused.bits hnodup _ _ hi _
  constructor
  · refine ⟨?_, Or.inr hused'⟩
    intro i k hi
    have hold := h.told i k hi
    rw [← hused.mapped] at hi
    have hlt : i < c.runtimeConfig.switchBits := by
      obtain ⟨hlt, -⟩ := List.getElem?_eq_some_iff.mp hi
      rw [hused.bits]
      exact hlt
    -- the merge takes the owned bits, and these are reported
    have hmerged : P.bits.get c'.switchBitmap i =
        if ownsBit (c.maskOf board) i = true then P.bits.get (f.bitmap P) i
        else P.bits.get c.switchBitmap i := by
      rw [hbitmap, get_mergedBitmap hP _ _ _ _ (hP.switch_byte_lt (hmax i k hi))]
      have hbyte : i / 8 < c.switchBytes := hP.bitsToBytes _ i hlt
      simp only [hbyte, true_and]
    dsimp only at hold ⊢
    rw [htold i k hi]
    split
    · next hreported =>
      rw [if_pos hreported.1] at hmerged
      exact bitState_inj.mpr hmerged.symm
    · next hkept =>
      rw [hold]
      apply bitState_inj.mpr
      rw [hmerged]
      split
      · next howns =>
        by_contra hdiffers
        exact hkept ⟨howns, hdiffers⟩
      · rfl
  · constructor
    · intro hentries' i _ k hi hsome howns
      obtain ⟨v, hv⟩ := Option.isSome_iff_exists.mp hsome
      by_contra hdiffers
      -- otherwise the bit is reported, and the entry is the old one
      have hreported := htold i k hi
      rw [if_pos ⟨howns, fun heq => hdiffers heq.symm⟩] at hreported
      have hold : bitState c.switchBitmap i = v := by
        rw [hentries k v hv]
        exact (h.told i k (hused.mapped ▸ hi)).symm
      have hnew : v = bitState (f.bitmap P) i := by
        rw [← hreported]
        exact hentries' k v (by rw [hvirtual]; exact hv)
      exact hdiffers (bitState_inj.mp (hold.trans hnew).symm)
    · intro hrepeats k v hv
      dsimp only at hv ⊢
      rw [hvirtual] at hv
      rw [hentries k v hv]
      dsimp only
      by_cases hk : k ∈ c.switchIndexToNumber
      · obtain ⟨i, hi⟩ := List.mem_iff_getElem?.mp hk
        obtain ⟨hlt, -⟩ := List.getElem?_eq_some_iff.mp hi
        rw [htold i k hi, if_neg]
        rintro ⟨howns, hdiffers⟩
        exact hdiffers (hrepeats i hlt k hi (Option.isSome_iff_exists.mpr ⟨v, hv⟩) howns).symm
      · rw [hswitches, ← List.append_assoc]
        exact (lastTold_reported_of_not_mem hused.bits _ _ hk _).symm

/-! ### A Virtual Switch -/

/-- The bits of all other numbers stay. -/
theorem bitState_changeVirtualSwitch (hP : P.Lawful pos) (hnodup : mapping.Nodup)
    (hmax : ∀ (i : Nat) (k : UInt16), mapping[i]? = some k → i < P.kMaxSwitchBits)
    (hused : Used mapping c) (now : Nat) (boardState : VirtualSwitchBoardState) (owner : UInt8)
    (j : Nat) (number : UInt16) {v : Nat} (hv : v = 0 ∨ v = 1) {i : Nat} {k : UInt16}
    (hi : mapping[i]? = some k) :
    bitState (c.changeVirtualSwitch now boardState owner j number v).switchBitmap i =
      if k = number then v else bitState c.switchBitmap i := by
  have hindex : ∀ k i, c.switchNumberToIndex.lookup k = some i ↔ mapping[i]? = some k := by
    intro k i
    rw [hused.index, hused.mapped]
    exact lookup_numberToIndex hnodup k i
  cases hlookup : c.switchNumberToIndex.lookup number with
  | some n =>
    have hat := (hindex number n).mp hlookup
    obtain ⟨refreshAt, heq⟩ := changeVirtualSwitch_eq now boardState owner j number v c hlookup
      (hmax n number hat)
    rw [heq]
    dsimp only
    split
    · next hk =>
      subst hk
      obtain rfl := index_inj hnodup hi hat
      exact bitState_set_self hP c.switchBitmap (hmax i k hi) hv
    · next hk =>
      apply bitState_set_ne hP _ _ (hmax i k hi)
      rintro rfl
      exact hk (Option.some.inj (hi.symm.trans hat))
  | none =>
    have hk : k ≠ number := by
      rintro rfl
      exact nomatch hlookup.symm.trans ((hindex k i).mpr hi)
    have hkept : (c.changeVirtualSwitch now boardState owner j number v).switchBitmap =
        c.switchBitmap := by
      unfold changeVirtualSwitch noteSwitchActivity
      split <;> simp [hlookup]
    rw [if_neg hk, hkept]

theorem told_setVirtualSwitchState (hP : P.Lawful pos) (hnodup : mapping.Nodup)
    (hmax : ∀ (i : Nat) (k : UInt16), mapping[i]? = some k → i < P.kMaxSwitchBits)
    (now : Nat) (number : UInt16) (state : UInt8) (h : BitsTold mapping (c, taken))
    (hused : Used mapping c) (hentries : EntriesTold (c, taken)) :
    BitsTold mapping ((c.setVirtualSwitchState now number state).2, taken) ∧
      EntriesTold ((c.setVirtualSwitchState now number state).2, taken) := by
  have heffect := setVirtualSwitchState_effect now number state c
  rw [finalizeConfiguredBoardPresence_of_finalized hused.finalized] at heffect
  generalize (c.setVirtualSwitchState now number state).2 = c' at heffect ⊢
  cases heffect with
  | unchanged => exact ⟨h, hentries⟩
  | @changed owner boardState j howner hboard hj hdiffers =>
    generalize hstate : normalizedState state = v
    have hv : v = 0 ∨ v = 1 := hstate ▸ normalizedState_cases state
    have hentry := virtualEntry_changeVirtualSwitch now v howner hboard hj
    have hbit := fun (i : Nat) (k : UInt16) (hi : mapping[i]? = some k) =>
      bitState_changeVirtualSwitch hP hnodup hmax hused now boardState owner j number hv hi
    have hsetup := switchSetup_changeVirtualSwitch now boardState owner j number v c
    have hfinal := (virtualSwitchBoards_changeVirtualSwitch now boardState owner j number v c).2
    have hswitches : (c.changeVirtualSwitch now boardState owner j number v).switches =
        c.switches ++ [{ number := number.toNat, state := v }] := by
      unfold changeVirtualSwitch noteSwitchActivity
      dsimp only
      split <;> rfl
    generalize c.changeVirtualSwitch now boardState owner j number v = c' at *
    -- the number is told its new state, the others are told nothing
    have htold : ∀ k, lastTold k (taken ++ c'.switches) =
        if k = number then v else lastTold k (taken ++ c.switches) := by
      intro k
      have hstates := statesOf_singleton k number v
      rw [hswitches, ← List.append_assoc]
      split
      · next hk =>
        rw [if_pos hk] at hstates
        exact lastTold_append_singleton k hstates
      · next hk =>
        rw [if_neg hk] at hstates
        exact lastTold_append k hstates
    refine ⟨⟨?_, Or.inr ?_⟩, ?_⟩
    · intro i k hi
      dsimp only
      rw [htold, hbit i k hi]
      split
      · rfl
      · exact h.told i k hi
    · apply hused.of_setup hsetup hfinal
      intro k u hu
      rw [hentry] at hu
      split at hu
      · exact (Option.some.inj hu) ▸ hv
      · exact hused.binary k u hu
    · intro k u hu
      dsimp only at hu ⊢
      rw [hentry] at hu
      rw [htold]
      split at hu
      · next hk =>
        rw [if_pos hk]
        exact (Option.some.inj hu).symm
      · next hk =>
        rw [if_neg hk]
        exact hentries k u hu

/-! ### A New Session -/

/-- A `Connect` keeps bits and reports in step.  The entries are in step
    afterwards exactly if what is virtualized was last reported open. -/
theorem told_startSession (hP : P.Lawful pos) (hcarries : P.CarriesTuple) {E : HostEnv W}
    {config : Yaml} {s : StartupSettings} {forceHardReset : Bool} {w : W}
    (hstart : c.startSession E config s forceHardReset w = some c')
    (h : BitsTold (switchMapping P E.cpp config) (c, taken)) :
    BitsTold (switchMapping P E.cpp config) (c', taken) ∧
      (EntriesTold (c', taken) ↔ ∀ b ∈ c'.configuredBoards, b ∉ c'.presentBoards →
        ∀ k ∈ c'.numbersOf b, lastTold k (taken ++ c.switches) = 0) := by
  obtain ⟨items, hitems, b, hinstalled, hpresent, hstore⟩ :=
    startSession_installed hP hcarries hstart
  have hentry : ∀ k, c'.virtualEntry k = b.finalizeConfiguredBoardPresence.virtualEntry k :=
    virtualEntry_congr (congrArg SwitchStore.virtualSwitchOwnerByNumber hstore :)
      (congrArg SwitchStore.virtualSwitchBoards hstore :)
  obtain ⟨boards, owners, heq⟩ := finalizeConfiguredBoardPresence_eq b
  rw [heq] at hpresent hstore
  have hbitmap : c'.switchBitmap = c.switchBitmap :=
    (congrArg SwitchStore.switchBitmap hstore :).trans hinstalled.bitmap
  have hswitches : c'.switches = c.switches :=
    (congrArg SwitchStore.switches hstore :).trans hinstalled.switches
  have hmapping : c'.switchIndexToNumber = b.switchIndexToNumber :=
    (congrArg SwitchStore.switchIndexToNumber hstore :)
  have hconfig : c'.runtimeConfig = b.runtimeConfig :=
    (congrArg SwitchStore.runtimeConfig hstore :)
  have hindex : c'.switchNumberToIndex = b.switchNumberToIndex :=
    (congrArg SwitchStore.switchNumberToIndex hstore :)
  have hconfigured : c'.configuredBoards = b.configuredBoards :=
    (congrArg SwitchStore.configuredBoards hstore :)
  have hnumbers : ∀ board, c'.numbersOf board = b.numbersOf board :=
    fun board => (congrArg (fun st : SwitchStore P =>
      (st.switchNumbersByBoard.lookup board).getD []) hstore :)
  -- the entries of the session, which are all open
  have hopen : ∀ k v, v ∈ c'.virtualEntry k ↔ v = 0 ∧
      ∃ board ∈ c'.configuredBoards, board ∉ c'.presentBoards ∧ k ∈ c'.numbersOf board := by
    intro k v
    rw [hentry, mem_virtualEntry_finalize hinstalled.latch, hconfigured, hpresent]
    simp only [hnumbers]
  constructor
  · refine ⟨?_, Or.inr ⟨?_, ?_, ?_, ?_, ?_⟩⟩
    · intro i k hi
      dsimp only
      rw [hbitmap, hswitches]
      exact h.told i k hi
    · rw [hmapping, hinstalled.mapping, switchMapping_eq hitems]
    · rw [hmapping, hconfig]
      exact hinstalled.setup.full
    · rw [hmapping, hindex]
      exact hinstalled.setup.maps.index
    · exact (congrArg SwitchStore.boardPresenceFinalized hstore :)
    · intro k v hv
      exact Or.inl ((hopen k v).mp hv).1
  · unfold EntriesTold
    dsimp only
    rw [hswitches]
    constructor
    · intro hentries board hboard habsent k hk
      exact (hentries k 0 ((hopen k 0).mpr ⟨rfl, board, hboard, habsent, hk⟩)).symm
    · intro hclosed k v hv
      obtain ⟨rfl, board, hboard, habsent, hk⟩ := (hopen k v).mp hv
      exact (hclosed board hboard habsent k hk).symm

/-! ### Runs -/

/-- An event only moves from the queue to the taken ones. -/
theorem taken_getNextSwitchState (c : Comm P) (taken : List PPUCSwitchState) :
    taken ++ c.getNextSwitchState.1.toList ++ c.getNextSwitchState.2.switches =
      taken ++ c.switches := by
  unfold getNextSwitchState
  split
  · rw [Option.toList_none, List.append_nil]
  · next event rest hqueue => simp [hqueue]

/-- Taking an event keeps bits, entries and reports in step. -/
theorem told_getNextSwitchState (h : BitsTold mapping (c, taken))
    (hentries : EntriesTold (c, taken)) :
    BitsTold mapping (c.getNextSwitchState.2, taken ++ c.getNextSwitchState.1.toList) ∧
      EntriesTold (c.getNextSwitchState.2, taken ++ c.getNextSwitchState.1.toList) := by
  have hsame := taken_getNextSwitchState c taken
  have hhost := hostPart_getNextSwitchState c
  have hbitmap : c.getNextSwitchState.2.switchBitmap = c.switchBitmap := by
    unfold getNextSwitchState
    split <;> rfl
  have hvirtual : ∀ k, c.getNextSwitchState.2.virtualEntry k = c.virtualEntry k :=
    fun k => (congrArg (fun d : Comm P => d.virtualEntry k) hhost :)
  generalize c.getNextSwitchState.2 = c' at *
  refine ⟨⟨?_, ?_⟩, ?_⟩
  · intro i k hi
    dsimp only
    rw [hsame, hbitmap]
    exact h.told i k hi
  · rcases h.phase with hunused | hused
    · exact Or.inl ⟨(congrArg portOpen hhost :).trans hunused.closed,
        (congrArg switchIndexToNumber hhost :).trans hunused.unmapped,
        (congrArg virtualSwitchOwnerByNumber hhost :).trans hunused.noOwners⟩
    · exact Or.inr (hused.congr (congrArg switchSetup hhost :)
        (congrArg boardPresenceFinalized hhost :) hvirtual)
  · intro k v hv
    dsimp only at hv ⊢
    rw [hvirtual] at hv
    rw [hsame]
    exact hentries k v hv

/-- **Step lemma**: bits and reports stay in step, and the entries do exactly
    if the operation keeps the virtual switches. -/
theorem told_step (hP : P.Lawful pos) (hcarries : P.CarriesTuple) {E : HostEnv W} {config : Yaml}
    {p p' : Comm P × List PPUCSwitchState} {op : SessionOp W}
    (h : BitsTold (switchMapping P E.cpp config) p) (hentries : EntriesTold p)
    (hstep : sessionStepTaken E config p op = some p') :
    BitsTold (switchMapping P E.cpp config) p' ∧
      (EntriesTold p' ↔ KeepsVirtuals E config p op) := by
  obtain ⟨c, taken⟩ := p
  obtain ⟨c', taken'⟩ := p'
  obtain ⟨hop, htaken⟩ := Transition.instrument_some.mp hstep
  dsimp only at hop htaken
  have hnodup := nodup_switchMapping P E.cpp config
  have hmax : ∀ (i : Nat) (k : UInt16), (switchMapping P E.cpp config)[i]? = some k →
      i < P.kMaxSwitchBits := fun i k => lt_of_switchMapping
  cases op with
  | connect s forceHardReset w =>
    obtain rfl : taken' = taken := htaken
    have hstart := (Option.ite_none_left_eq_some.mp hop).2
    obtain ⟨htold, hiff⟩ := told_startSession hP hcarries hstart h
    refine ⟨htold, hiff.trans ?_⟩
    unfold KeepsVirtuals
    dsimp only
    rw [hop]
    constructor
    · intro hguard c'' hc''
      obtain rfl := Option.some.inj hc''
      exact hguard
    · exact fun hguard => hguard c' rfl
  | reply board r w =>
    obtain rfl : taken' = taken := htaken
    obtain ⟨hready, hdone⟩ := Option.ite_none_right_eq_some.mp hop
    obtain rfl := Option.some.inj hdone
    have hused := h.used_of_open hready.1
    unfold KeepsVirtuals
    dsimp only
    cases hf : c.acceptedState E.port r w with
    | none =>
      -- without a switch-state frame nothing is learned
      have hkeeps := keepsSwitches_receive E.port board r c w hf
      refine ⟨hkeeps.told h hused, iff_of_true (hkeeps.entriesTold hentries) ?_⟩
      intro _ f hf'
      exact nomatch hf'
    | some f =>
      -- the frame decides what the board is said to show
      obtain ⟨htold, hiff⟩ :=
        told_of_accepted hP hnodup hmax E.port board r w hf h hused hentries
      refine ⟨htold, hiff.trans ?_⟩
      constructor
      · intro hguard _ f' hf'
        obtain rfl := Option.some.inj hf'
        exact hguard
      · exact fun hguard => hguard hready.2 f rfl
  | virtualReply board nextBoard r w =>
    obtain rfl : taken' = taken := htaken
    obtain ⟨hready, hdone⟩ := Option.ite_none_right_eq_some.mp hop
    obtain rfl := Option.some.inj hdone
    have hkeeps := keepsSwitches_sendVirtualSwitchReply E.port board nextBoard r c w
    exact ⟨hkeeps.told h (h.used_of_open hready),
      iff_of_true (hkeeps.entriesTold hentries) trivial⟩
  | setVirtualSwitchState number state w =>
    obtain rfl : taken' = taken := htaken
    obtain ⟨hready, hdone⟩ := Option.ite_none_right_eq_some.mp hop
    obtain rfl := Option.some.inj hdone
    obtain ⟨htold, hentries'⟩ := told_setVirtualSwitchState hP hnodup hmax
      (E.port.steadyMs w) number state h (h.used_of_open hready) hentries
    exact ⟨htold, iff_of_true hentries' trivial⟩
  | getNextSwitchState =>
    obtain rfl : taken' = taken ++ c.getNextSwitchState.1.toList := htaken
    obtain rfl := Option.some.inj hop
    obtain ⟨htold, hentries'⟩ := told_getNextSwitchState h hentries
    exact ⟨htold, iff_of_true hentries' trivial⟩
  | disconnect w =>
    obtain rfl : taken' = taken := htaken
    obtain ⟨hready, hdone⟩ := Option.ite_none_right_eq_some.mp hop
    obtain rfl := Option.some.inj hdone
    have hkeeps := keepsSwitches_disconnect E.port c w
    exact ⟨hkeeps.told h (h.used_of_open hready),
      iff_of_true (hkeeps.entriesTold hentries) trivial⟩

/-- An operation that is not possible does no harm. -/
theorem keepsVirtuals_of_disabled {E : HostEnv W} {config : Yaml}
    {p : Comm P × List PPUCSwitchState} {op : SessionOp W}
    (h : sessionStepTaken E config p op = none) : KeepsVirtuals E config p op := by
  have hnone : p.1.sessionStep E config op = none := Option.map_eq_none_iff.mp h
  cases op with
  | connect s forceHardReset w =>
    intro c' hc'
    exact nomatch hnone.symm.trans hc'
  | reply board r w =>
    intro hreal f hf
    unfold sessionStep at hnone
    dsimp only at hnone
    split at hnone
    · exact nomatch hnone
    · next hready =>
      -- a frame is accepted only while the port is open
      have hclosed : ¬ p.1.portOpen = true := fun hopen => hready ⟨hopen, hreal⟩
      unfold acceptedState at hf
      rw [if_neg fun hvalid => hclosed hvalid.1] at hf
      exact nomatch hf
  | virtualReply | setVirtualSwitchState | getNextSwitchState | disconnect => trivial

/-- A freshly constructed object. -/
theorem told_fresh (hP : P.Lawful pos) (cpp : YamlCpp) (config : Yaml) (now : Nat) :
    BitsTold (switchMapping P cpp config) (Comm.fresh P now, []) where
  told i k hi := by
    show 0 = bitState (Vector.replicate _ 0) i
    unfold bitState
    rw [BitAccess.get_replicate_zero hP.bits i (hP.switch_byte_lt (lt_of_switchMapping hi))]
    rfl
  phase := Or.inl ⟨rfl, rfl, rfl⟩

/-- **Virtual switches survive reconnects, exactly.**  Over every sequence of
    sessions of one object, in every state that it passes, entries and bits of
    the virtualized switches agree and every change of a virtual switch is
    pushed, if and only if at each `Connect` all switches of boards that do
    not answer were last reported open, and each applied state frame repeats
    the bits of the virtualized switches. -/
theorem virtuals_consistent_iff (hP : P.Lawful pos) (hcarries : P.CarriesTuple) (E : HostEnv W)
    (config : Yaml) (now : Nat) (ops : List (SessionOp W)) :
    Transition.Always (sessionStepTaken E config) VirtualsConsistent (Comm.fresh P now, []) ops ↔
      Transition.Along (sessionStepTaken E config) (KeepsVirtuals E config)
        (Comm.fresh P now, []) ops := by
  have hfresh := told_fresh hP E.cpp config now
  have hstart : EntriesTold (Comm.fresh P now, []) := by
    intro k v hv
    have hnone : (Comm.fresh P now).virtualEntry k = none :=
      Unused.virtualEntry_eq ⟨rfl, rfl, rfl⟩ k
    exact nomatch hnone.symm.trans hv
  apply Transition.always_iff_along (I := BitsTold (switchMapping P E.cpp config)) _ _ hfresh
  · exact (virtualsConsistent_iff hfresh).mpr hstart
  · intro p op p' h hconsistent hstep
    obtain ⟨htold, hiff⟩ :=
      told_step hP hcarries h ((virtualsConsistent_iff h).mp hconsistent) hstep
    exact ⟨htold, (virtualsConsistent_iff htold).trans hiff⟩
  · exact fun _ _ => keepsVirtuals_of_disabled

end steps

end Comm

namespace Reference

open Comm

/-- Board 2 is skipped. -/
def withoutBoard2 : StartupSettings := { settings with skippedBoards := {2} }

/-- A world in which board 1 accepts all events of a session. -/
def board1World : Script where
  replies := [[]] ++ (pollingAcks [1]).take 3 ++ acksOfSwitch 1 ++ (pollingAcks [1]).drop 3
  rounds := 4

def connectBoard1 : SessionOp Script := .connect withoutBoard2 false board1World

/-- Switch 31 of board 2 is closed in one session, and again open in the next
    one. -/
def closedAtDisconnect : List (SessionOp Script) :=
  [connectBoard1, .setVirtualSwitchState 31 1 board1World, .disconnect board1World, connectBoard1]

/-- After the second `Connect` the call that opens the switch succeeds, and the
    application goes on taking it for closed. -/
theorem opening_not_pushed :
    Accepted header yamlCpp (twoBoardDocument "2") ∧
      ¬ Transition.Always (sessionStepTaken hostEnv (twoBoardDocument "2")) VirtualsConsistent
        (Comm.fresh protocol 0, []) closedAtDisconnect ∧
      ∃ p, Transition.exec (sessionStepTaken hostEnv (twoBoardDocument "2"))
          (Comm.fresh protocol 0, []) closedAtDisconnect = some p ∧
        lastTold 31 (p.2 ++ p.1.switches) = 1 ∧
        (p.1.setVirtualSwitchState 0 31 0).1 = true ∧
        (p.1.setVirtualSwitchState 0 31 0).2.switches = p.1.switches := by
  refine ⟨⟨"", emptyPpuc, ⟨⟨⟩, rfl⟩⟩, ?_, ?_⟩
  · intro h
    have hbits : Transition.Always (sessionStepTaken hostEnv (twoBoardDocument "2"))
        (fun p => p.1.VirtualInStep) (Comm.fresh protocol 0, []) closedAtDisconnect :=
      h.mono fun _ hp => hp.1
    exact absurd hbits (by decide +kernel)
  · have hrun : (Transition.exec (sessionStepTaken hostEnv (twoBoardDocument "2"))
        (Comm.fresh protocol 0, []) closedAtDisconnect).map (fun p =>
          decide (lastTold 31 (p.2 ++ p.1.switches) = 1 ∧
            (p.1.setVirtualSwitchState 0 31 0).1 = true ∧
            (p.1.setVirtualSwitchState 0 31 0).2.switches = p.1.switches)) = some true := by
      decide +kernel
    obtain ⟨p, hexec, hfacts⟩ := Option.map_eq_some_iff.mp hrun
    exact ⟨p, hexec, of_decide_eq_true hfacts⟩

/-- Opened again before the session ends, it stays consistent. -/
theorem opened_before_disconnect :
    Transition.Always (sessionStepTaken hostEnv (twoBoardDocument "2")) VirtualsConsistent
      (Comm.fresh protocol 0, [])
      [connectBoard1, .setVirtualSwitchState 31 1 board1World,
        .setVirtualSwitchState 31 0 board1World, .getNextSwitchState, .disconnect board1World,
        connectBoard1, .setVirtualSwitchState 31 1 board1World] :=
  (virtuals_consistent_iff protocol_lawful protocol_carriesTuple hostEnv (twoBoardDocument "2") 0
    _).mpr (by decide +kernel)

end Reference

end LibPpuc
