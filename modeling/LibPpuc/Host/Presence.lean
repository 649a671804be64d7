import LibPpuc.Host.Lifecycle
import LibPpuc.Runtime.VirtualReply
import LibPpuc.Startup.SwitchStore

/-! # Present or Virtualized

  The host answers for a configured board that is not there.  Which boards
  these are is computed once and latched: by `FinalizeConfiguredBoardPresence`
  and by every query that needs it.  The setters drop the latch.  An ack does
  not: it adds its board to the present ones at any time.

  So present and virtualized boards are told apart in every state that the
  public operations reach, in any order, exactly if no virtualized board
  acknowledges a config event while the latch is set.
-/

namespace LibPpuc

namespace Comm

variable {P : Protocol} {W : Type}

/-! ### Who Is Virtualized -/

/-- Once the presence is final, the configured boards that are virtualized are
    those that are not present. -/
def PresenceDecided (c : Comm P) : Prop :=
  c.boardPresenceFinalized = true → ∀ b ∈ c.configuredBoards,
    ((c.virtualSwitchBoards.lookup b).isSome = true ↔ b ∉ c.presentBoards)

instance (c : Comm P) : Decidable c.PresenceDecided :=
  haveI : Decidable (∀ b ∈ c.configuredBoards,
      ((c.virtualSwitchBoards.lookup b).isSome = true ↔ b ∉ c.presentBoards)) :=
    List.decidableBAll _ _
  inferInstanceAs (Decidable (c.boardPresenceFinalized = true → _))

/-- It is not decided as long as the latch is open. -/
theorem presenceDecided_of_open {c : Comm P} (h : c.boardPresenceFinalized = false) :
    c.PresenceDecided := by
  intro hfinal
  rw [h] at hfinal
  exact nomatch hfinal

/-- The board loop of `FinalizeConfiguredBoardPresence`. -/
theorem virtualized_foldl (configured : List UInt8) (b : UInt8) (c : Comm P) :
    (((configured.foldl virtualizeBoard c).virtualSwitchBoards.lookup b).isSome = true ↔
        b ∈ configured ∧ b ∉ c.presentBoards ∨
          (c.virtualSwitchBoards.lookup b).isSome = true) := by
  induction configured generalizing c with
  | nil => simp
  | cons board configured ih =>
    have hpresent : (c.virtualizeBoard board).presentBoards = c.presentBoards := by
      unfold virtualizeBoard
      split <;> rfl
    rw [List.foldl_cons, ih, hpresent, List.mem_cons]
    -- the first board is virtualized unless it is present
    by_cases hin : board ∈ c.presentBoards
    · have hsame : c.virtualizeBoard board = c := if_pos hin
      rw [hsame]
      constructor
      · rintro (⟨hlater, habsent⟩ | hold)
        · exact Or.inl ⟨Or.inr hlater, habsent⟩
        · exact Or.inr hold
      · rintro (⟨rfl | hlater, habsent⟩ | hold)
        · exact absurd hin habsent
        · exact Or.inl ⟨hlater, habsent⟩
        · exact Or.inr hold
    · have hboards : (c.virtualizeBoard board).virtualSwitchBoards =
          c.virtualSwitchBoards.insert board (c.virtualBoardState board) := by
        unfold virtualizeBoard
        rw [if_neg hin]
      rw [hboards]
      by_cases hb : b = board
      · subst hb
        rw [AList.lookup_insert]
        simp [hin]
      · rw [AList.lookup_insert_ne hb]
        simp [hb]

/-- **What is virtualized**: the configured boards that are not present. -/
theorem virtualized_finalize {c : Comm P} (h : c.boardPresenceFinalized = false) (b : UInt8) :
    ((c.finalizeConfiguredBoardPresence.virtualSwitchBoards.lookup b).isSome = true ↔
      b ∈ c.configuredBoards ∧ b ∉ c.presentBoards) := by
  have hloop := virtualized_foldl c.configuredBoards b
    { c with virtualSwitchBoards := ∅, virtualSwitchOwnerByNumber := ∅ }
  unfold finalizeConfiguredBoardPresence
  rw [if_neg (by rw [h]; decide)]
  exact hloop.trans (or_iff_left (by simp [AList.lookup_empty]))

theorem PresenceDecided.finalize {c : Comm P} (h : c.PresenceDecided) :
    c.finalizeConfiguredBoardPresence.PresenceDecided := by
  cases hfinal : c.boardPresenceFinalized with
  | true =>
    rw [finalizeConfiguredBoardPresence_of_finalized hfinal]
    exact h
  | false =>
    intro _ b hb
    have hvirtual := virtualized_finalize hfinal b
    obtain ⟨boards, owners, heq⟩ := finalizeConfiguredBoardPresence_eq c
    rw [heq] at hvirtual hb ⊢
    exact hvirtual.trans (and_iff_right hb)

/-- The sets do not depend on the states of the virtual switches. -/
theorem PresenceDecided.setVirtualSwitchState {c : Comm P} (h : c.PresenceDecided) (now : Nat)
    (number : UInt16) (state : UInt8) :
    (c.setVirtualSwitchState now number state).2.PresenceDecided := by
  have hfinalized := h.finalize
  have heffect := setVirtualSwitchState_effect now number state c
  generalize c.finalizeConfiguredBoardPresence = d at hfinalized heffect
  generalize (c.setVirtualSwitchState now number state).2 = c' at heffect ⊢
  cases heffect with
  | unchanged => exact hfinalized
  | @changed owner boardState i howner hboard hindex hdiffers =>
    have hkept : ∀ value, (d.changeVirtualSwitch now boardState owner i number
        value).configuredBoards = d.configuredBoards ∧
        (d.changeVirtualSwitch now boardState owner i number value).presentBoards =
          d.presentBoards := by
      intro value
      unfold changeVirtualSwitch noteSwitchActivity
      dsimp only
      split <;> exact ⟨rfl, rfl⟩
    obtain ⟨hboards, hfinal⟩ := virtualSwitchBoards_changeVirtualSwitch now boardState owner i
      number (normalizedState state) d
    obtain ⟨hconfigured, hpresent⟩ := hkept (normalizedState state)
    unfold PresenceDecided
    rw [hboards, hfinal, hconfigured, hpresent]
    intro hlatch b hb
    rw [← hfinalized hlatch b hb]
    -- the owner has been virtualized before
    by_cases howned : b = owner
    · subst howned
      rw [AList.lookup_insert, hboard]
      simp
    · rw [AList.lookup_insert_ne howned]

/-! ### Calls in Any Order -/

/-- A call of a public operation that has to do with the presence of boards,
    in the world in which it is made. -/
inductive PresenceCall (W : Type) where
  | connect (opened : Bool)
  | setConfiguredBoards (boards : List UInt8)
  | setSwitchNumbersByBoard (switchesByBoard : Map UInt8 (List UInt16))
  | setSkippedBoards (boards : Finset UInt8)
  | sendConfigEvent (event : ConfigEvent) (w : W)
  | finalizeConfiguredBoardPresence
  | isBoardVirtualized (board : UInt8)
  | isSwitchVirtualized (number : UInt16)
  | setVirtualSwitchState (number : UInt16) (state : UInt8) (w : W)

/-- The state after a call. -/
def presenceStep (port : SerialPort W) (c : Comm P) : PresenceCall W → Option (Comm P)
  | .connect opened => some (c.connect opened)
  | .setConfiguredBoards boards => some (c.setConfiguredBoards boards)
  | .setSwitchNumbersByBoard switchesByBoard => some (c.setSwitchNumbersByBoard switchesByBoard)
  | .setSkippedBoards boards => some (c.setSkippedBoards boards)
  | .sendConfigEvent event w => some (c.sendConfigEvent port event w).comm
  | .finalizeConfiguredBoardPresence => some c.finalizeConfiguredBoardPresence
  | .isBoardVirtualized board => some (c.isBoardVirtualized board).2
  | .isSwitchVirtualized number => some (c.isSwitchVirtualized number).2
  | .setVirtualSwitchState number state w =>
    some (c.setVirtualSwitchState (port.steadyMs w) number state).2

/-- No virtualized board acknowledges an event. -/
def NoLateAck (port : SerialPort W) (c : Comm P) : PresenceCall W → Prop
  | .sendConfigEvent event w =>
    c.boardPresenceFinalized = true → event.boardId ∈ c.configuredBoards →
      event.boardId ∉ c.presentBoards → (c.sendConfigEvent port event w).outcome ≠ .acknowledged
  | _ => True

/-- A call of `SendConfigEvent` keeps the sets apart exactly if it is no late
    ack. -/
theorem presenceDecided_sendConfigEvent (hcarries : P.CarriesTuple) (port : SerialPort W)
    {c : Comm P} (h : c.PresenceDecided) (event : ConfigEvent) (w : W) :
    (c.sendConfigEvent port event w).comm.PresenceDecided ↔
      NoLateAck port c (.sendConfigEvent event w) := by
  have hstore := switchStore_sendConfigEvent port event c w
  have hpresent := presentBoards_sendConfigEvent hcarries port event c w
  have hconfigured : (c.sendConfigEvent port event w).comm.configuredBoards =
      c.configuredBoards := (congrArg SwitchStore.configuredBoards hstore :)
  have hboards : (c.sendConfigEvent port event w).comm.virtualSwitchBoards =
      c.virtualSwitchBoards := (congrArg SwitchStore.virtualSwitchBoards hstore :)
  have hfinal : (c.sendConfigEvent port event w).comm.boardPresenceFinalized =
      c.boardPresenceFinalized := (congrArg SwitchStore.boardPresenceFinalized hstore :)
  unfold PresenceDecided NoLateAck
  rw [hconfigured, hboards, hfinal, hpresent]
  constructor
  · intro hdecided hlatch hin habsent hacknowledged
    -- the board is virtualized, and now present too
    have hvirtual := (h hlatch event.boardId hin).mpr habsent
    have hout := (hdecided hlatch event.boardId hin).mp hvirtual
    rw [if_pos hacknowledged] at hout
    exact hout (Finset.mem_insert_self _ _)
  · intro hguard hlatch b hb
    rw [h hlatch b hb]
    split
    · next hacknowledged =>
      rw [Finset.mem_insert, not_or]
      refine ⟨fun habsent => ⟨?_, habsent⟩, And.right⟩
      rintro rfl
      exact hguard hlatch hb habsent hacknowledged
    · exact Iff.rfl

/-- **Step lemma**: a call keeps present and virtualized boards apart exactly
    if it is no late ack. -/
theorem presenceDecided_step (hcarries : P.CarriesTuple) (port : SerialPort W) {c c' : Comm P}
    (h : c.PresenceDecided) {l : PresenceCall W} (hstep : c.presenceStep port l = some c') :
    c'.PresenceDecided ↔ NoLateAck port c l := by
  cases l with
  | connect opened =>
    obtain rfl := Option.some.inj hstep
    refine iff_of_true ?_ trivial
    cases opened with
    | true => exact presenceDecided_of_open rfl
    | false => exact h
  | setConfiguredBoards | setSwitchNumbersByBoard | setSkippedBoards =>
    obtain rfl := Option.some.inj hstep
    exact iff_of_true (presenceDecided_of_open rfl) trivial
  | sendConfigEvent event w =>
    obtain rfl := Option.some.inj hstep
    exact presenceDecided_sendConfigEvent hcarries port h event w
  | finalizeConfiguredBoardPresence | isBoardVirtualized | isSwitchVirtualized =>
    obtain rfl := Option.some.inj hstep
    exact iff_of_true h.finalize trivial
  | setVirtualSwitchState number state w =>
    obtain rfl := Option.some.inj hstep
    exact iff_of_true (h.setVirtualSwitchState _ number state) trivial

/-- **Present or virtualized, exactly**: in every state that a sequence of
    calls passes, the configured boards that are virtualized are those that
    are not present, if and only if no call is a late ack. -/
theorem presence_decided_iff (hcarries : P.CarriesTuple) (port : SerialPort W) (now : Nat)
    (calls : List (PresenceCall W)) :
    Transition.Always (presenceStep port) PresenceDecided (Comm.fresh P now) calls ↔
      Transition.Along (presenceStep port) (NoLateAck port) (Comm.fresh P now) calls := by
  apply Transition.always_iff_along (I := fun _ : Comm P => True)
  · intro c l c' _ h hstep
    exact ⟨trivial, presenceDecided_step hcarries port h hstep⟩
  · intro c l hnone
    cases l <;> exact nomatch hnone
  · trivial
  · exact presenceDecided_of_open rfl

end Comm

namespace Reference

open Comm

/-- The first event for board 1. -/
def firstEvent : ConfigEvent :=
  { boardId := 1, topic := header.CONFIG_TOPIC_PLATFORM, index := 0,
    key := header.CONFIG_TOPIC_PLATFORM, value := 7 }

/-- A world in which board 1 accepts its next event. -/
def board1Accepts : Script := { replies := boardAcks, rounds := 4 }

/-- The board is asked for before its first event is sent. -/
def askedTooEarly : List (PresenceCall Script) :=
  [.connect true, .setConfiguredBoards [1], .isBoardVirtualized 1,
    .sendConfigEvent firstEvent board1Accepts]

/-- Board 1 is present and virtualized. -/
theorem present_and_virtualized :
    ¬ ∀ calls : List (PresenceCall Script),
        Transition.Always (presenceStep port) PresenceDecided (Comm.fresh protocol 0) calls := by
  intro h
  exact absurd (h askedTooEarly) (by decide +kernel)

/-- With the question after the event both sides hold. -/
theorem asked_after_event :
    Transition.Always (presenceStep port) PresenceDecided (Comm.fresh protocol 0)
        [.connect true, .setConfiguredBoards [1, 2],
          .sendConfigEvent firstEvent board1Accepts, .isBoardVirtualized 1] ↔
      Transition.Along (presenceStep port) (NoLateAck port) (Comm.fresh protocol 0)
        [.connect true, .setConfiguredBoards [1, 2],
          .sendConfigEvent firstEvent board1Accepts, .isBoardVirtualized 1] :=
  presence_decided_iff protocol_carriesTuple port 0 _

end Reference

end LibPpuc
