import LibPpuc.Runtime.Blocks
import LibPpuc.Reference

/-! # Replies for Virtualized Boards and the Dirty Flag

  `SetVirtualSwitchState` marks its board dirty, `SendVirtualSwitchReply`
  reads the flag, copies the bitmap, writes the frame and clears the flag.
  A clean board shall have no change that the last state reply missed.

  The clearing step does not look at the board again.  The result is exact:
  the law holds at every state of a run if and only if no clearing step of
  the run follows a change that came after the reply had captured the
  board.  A state reply captures it when it copies the bitmap, a no-change
  reply when it reads the flag.
-/

namespace LibPpuc

namespace Comm

variable {P : Protocol} {W : Type}

/-- The switch states of a virtualized board. -/
def boardStates (board : UInt8) (c : Comm P) : Option (List Nat) :=
  (c.virtualSwitchBoards.lookup board).map VirtualSwitchBoardState.switchStates

/-! ### Who Touches the Virtualized Boards -/

theorem virtualSwitchBoards_queueEvent (port : SerialPort W) (w : W) (event : Event)
    (c : Comm P) :
    (c.queueEvent port w event).virtualSwitchBoards = c.virtualSwitchBoards ∧
      (c.queueEvent port w event).boardPresenceFinalized = c.boardPresenceFinalized := by
  have heffect := queueEvent_effect port w event c
  generalize c.queueEvent port w event = c' at heffect ⊢
  cases heffect <;> exact ⟨rfl, rfl⟩

theorem virtualSwitchBoards_of_hostPart {c c' : Comm P} (h : c'.hostPart = c.hostPart) :
    c'.virtualSwitchBoards = c.virtualSwitchBoards ∧
      c'.boardPresenceFinalized = c.boardPresenceFinalized :=
  ⟨(congrArg Comm.virtualSwitchBoards h :), (congrArg Comm.boardPresenceFinalized h :)⟩

theorem virtualSwitchBoards_changeVirtualSwitch (now : Nat)
    (boardState : VirtualSwitchBoardState) (owner : UInt8) (i : Nat) (number : UInt16)
    (state : Nat) (c : Comm P) :
    (c.changeVirtualSwitch now boardState owner i number state).virtualSwitchBoards =
        c.virtualSwitchBoards.insert owner (boardState.setEntry i state) ∧
      (c.changeVirtualSwitch now boardState owner i number state).boardPresenceFinalized =
        c.boardPresenceFinalized := by
  unfold changeVirtualSwitch noteSwitchActivity
  dsimp only
  split <;> exact ⟨rfl, rfl⟩

theorem boardPresenceFinalized_clearDirty (board : UInt8) (c : Comm P) :
    (c.clearDirty board).boardPresenceFinalized = c.boardPresenceFinalized := by
  unfold clearDirty
  split <;> rfl

end Comm

namespace Sys

variable {P : Protocol} {W : Type}

/-! ### Changes, Captures, Deliveries -/

/-- What happened to the switches of one virtualized board. -/
structure History where
  /-- How often a switch of the board has changed. -/
  changes : Nat := 0
  /-- The changes that the reply under way has seen. -/
  captured : Nat := 0
  /-- The changes that the last written state reply had seen. -/
  delivered : Nat := 0
  deriving DecidableEq

/-- The history of board `b` after a step. -/
def record (b : UInt8) (s : Sys P W) (g : History) (l : Label) (s' : Sys P W) : History :=
  match l with
  | .setVirtualSwitchState _ _ =>
    if s.comm.boardStates b = s'.comm.boardStates b then g
    else { g with changes := g.changes + 1 }
  | .bus =>
    match s.bus, s'.bus with
    | .hop .., .virtualCopy _ board _ _ _ =>
      if board = b then { g with captured := g.changes } else g
    | .virtualCopy _ board _ sendState _, .virtualWrite .. =>
      if board = b ∧ sendState = true then { g with captured := g.changes } else g
    | .virtualWrite _ board _ sendState _ _, .virtualClear .. =>
      if board = b ∧ sendState = true then { g with delivered := g.captured } else g
    | _, _ => g
  | _ => g

/-- The system with the history of board `b`. -/
def stepRecorded (E : Env W) (b : UInt8) : Sys P W × History → Label → Option (Sys P W × History) :=
  Transition.instrument (step E) (record b)

/-- If the board is virtualized and clean, no switch of it has changed since
    the bitmap copy of the last state reply that was written for it. -/
def NothingLost (b : UInt8) (p : Sys P W × History) : Prop :=
  ∀ boardState, p.1.comm.virtualSwitchBoards.lookup b = some boardState →
    boardState.dirty = false → p.2.changes = p.2.delivered

instance (b : UInt8) (p : Sys P W × History) : Decidable (NothingLost b p) :=
  inferInstanceAs (Decidable (∀ boardState ∈ p.1.comm.virtualSwitchBoards.lookup b,
    boardState.dirty = false → p.2.changes = p.2.delivered))

/-- A clearing step for the board comes before any further change. -/
def clearsInTime (b : UInt8) (p : Sys P W × History) (l : Label) : Bool :=
  match l, p.1.bus with
  | .bus, .virtualClear _ board _ _ _ => board != b || p.2.changes == p.2.captured
  | _, _ => true

/-- All clearing steps of the run are in time. -/
def ClearsInTime (E : Env W) (b : UInt8) (s : Sys P W) (ls : List Label) : Prop :=
  Transition.Along (stepRecorded E b) (fun p l => clearsInTime b p l = true) (s, {}) ls

instance (E : Env W) (b : UInt8) (s : Sys P W) (ls : List Label) :
    Decidable (ClearsInTime E b s ls) :=
  inferInstanceAs (Decidable (Transition.Along _ _ _ _))

/-- The law at every state the run passes. -/
def NeverLost (E : Env W) (b : UInt8) (s : Sys P W) (ls : List Label) : Prop :=
  Transition.Always (stepRecorded E b) (NothingLost b) (s, {}) ls

instance (E : Env W) (b : UInt8) (s : Sys P W) (ls : List Label) :
    Decidable (NeverLost E b s ls) :=
  inferInstanceAs (Decidable (Transition.Always _ _ _ _))

/-! ### The Invariant -/

/-- A reply for board `b` is under way that has seen all its data, or will
    not send any. -/
def captures (b : UInt8) : BusPc P → Bool
  | .virtualCopy _ board _ sendState _ => board == b && !sendState
  | .virtualWrite _ board _ sendState _ _ => board == b && !sendState
  | .virtualClear _ board _ _ _ => board == b
  | _ => false

/-- A reply for board `b` is under way. -/
def replies (b : UInt8) : BusPc P → Bool
  | .virtualCopy _ board _ _ _ => board == b
  | .virtualWrite _ board _ _ _ _ => board == b
  | .virtualClear _ board _ _ _ => board == b
  | _ => false

/-- A state reply for board `b` is under way. -/
def sendsState (b : UInt8) : BusPc P → Bool
  | .virtualCopy _ board _ sendState _ => board == b && sendState
  | .virtualWrite _ board _ sendState _ _ => board == b && sendState
  | _ => false

/-- What holds besides the law: the presence stays finalized, a board stays
    virtualized during its reply, and dirty until a state reply is written,
    and what a reply leaves to be cleared is what was delivered last. -/
structure Pending (b : UInt8) (p : Sys P W × History) : Prop where
  finalized : p.1.comm.boardPresenceFinalized = true
  virtualized : replies b p.1.bus = true → (p.1.comm.virtualSwitchBoards.lookup b).isSome = true
  dirty : sendsState b p.1.bus = true → ∀ boardState,
    p.1.comm.virtualSwitchBoards.lookup b = some boardState → boardState.dirty = true
  captured : captures b p.1.bus = true → p.2.captured = p.2.delivered

section step

variable {E : Env W} {b : UInt8} {p p' : Sys P W × History}

/-- A step that leaves the boards and the history alone keeps everything. -/
theorem pending_of_same (h : Pending b p) (hlost : NothingLost b p)
    (hboards : p'.1.comm.virtualSwitchBoards = p.1.comm.virtualSwitchBoards ∧
      p'.1.comm.boardPresenceFinalized = p.1.comm.boardPresenceFinalized)
    (hhistory : p'.2 = p.2)
    (hreplies : replies b p'.1.bus = true → replies b p.1.bus = true)
    (hsends : sendsState b p'.1.bus = true → sendsState b p.1.bus = true)
    (hcaptures : captures b p'.1.bus = true → captures b p.1.bus = true) :
    Pending b p' ∧ NothingLost b p' := by
  refine ⟨⟨hboards.2 ▸ h.finalized, ?_, ?_, ?_⟩, ?_⟩
  · intro hreply
    rw [hboards.1]
    exact h.virtualized (hreplies hreply)
  · intro hsend boardState hlookup
    exact h.dirty (hsends hsend) boardState (hboards.1 ▸ hlookup)
  · intro hcapture
    rw [hhistory]
    exact h.captured (hcaptures hcapture)
  · intro boardState hlookup hclean
    rw [hhistory]
    exact hlost boardState (hboards.1 ▸ hlookup) hclean

/-- A bus thread that carries nothing is not in a reply. -/
theorem pending_of_carriesNothing (h : Pending b p) (hlost : NothingLost b p)
    (hboards : p'.1.comm.virtualSwitchBoards = p.1.comm.virtualSwitchBoards ∧
      p'.1.comm.boardPresenceFinalized = p.1.comm.boardPresenceFinalized)
    (hhistory : p'.2 = p.2) (hcarry : p'.1.bus.carriesNothing = true) :
    Pending b p' ∧ NothingLost b p' := by
  have hidle : replies b p'.1.bus = false ∧ sendsState b p'.1.bus = false ∧
      captures b p'.1.bus = false := by
    generalize p'.1.bus = pc at hcarry ⊢
    cases pc <;> first | exact ⟨rfl, rfl, rfl⟩ | exact nomatch hcarry
  refine pending_of_same h hlost hboards hhistory ?_ ?_ ?_
  · intro hreply
    exact nomatch hidle.1.symm.trans hreply
  · intro hsend
    exact nomatch hidle.2.1.symm.trans hsend
  · intro hcapture
    exact nomatch hidle.2.2.symm.trans hcapture

theorem record_of_carriesNothing {s s' : Sys P W} {g : History}
    (hcarry : s'.bus.carriesNothing = true) : record b s g .bus s' = g := by
  unfold record
  dsimp only
  split
  · next heq => rw [heq] at hcarry; exact nomatch hcarry
  · next heq => rw [heq] at hcarry; exact nomatch hcarry
  · next heq => rw [heq] at hcarry; exact nomatch hcarry
  · rfl

/-- What a step has to keep: the invariant, and the law exactly if the step
    meets the guard. -/
def Keeps (b : UInt8) (p : Sys P W × History) (l : Label) (p' : Sys P W × History) : Prop :=
  Pending b p' ∧ (NothingLost b p' ↔ clearsInTime b p l = true)

theorem keeps_of_lawful {l : Label} (hguard : clearsInTime b p l = true)
    (h : Pending b p' ∧ NothingLost b p') : Keeps b p l p' :=
  ⟨h.1, fun _ => hguard, fun _ => h.2⟩

/-- A clearing step for `b` keeps the law exactly if it comes in time. -/
theorem keeps_clear {c : Comm P} {g : History} {hops : Nat} {next : UInt8}
    {sendState refresh : Bool} {firmware : Option (FirmwareRequest × FirmwareStage)} {w w' : W}
    (h : Pending b (⟨c, .virtualClear hops b next sendState refresh, firmware, w⟩, g)) :
    Keeps b (⟨c, .virtualClear hops b next sendState refresh, firmware, w⟩, g) .bus
      (⟨c.clearDirty b,
        .hop hops next { ok := true, nextBoard := next, hadState := sendState } refresh,
        firmware, w'⟩, g) := by
  have hcaptured : g.captured = g.delivered := h.captured (by simp [captures])
  have hvirtual : (c.virtualSwitchBoards.lookup b).isSome = true :=
    h.virtualized (by simp [replies])
  obtain ⟨boardState, hboard⟩ := Option.isSome_iff_exists.mp hvirtual
  have hlookup : (c.clearDirty b).virtualSwitchBoards.lookup b = some boardState.clearDirty := by
    rw [Comm.lookup_clearDirty, if_pos rfl, hboard]
    rfl
  refine ⟨⟨?_, nofun, nofun, nofun⟩, ?_⟩
  · exact (Comm.boardPresenceFinalized_clearDirty b c).trans h.finalized
  · constructor
    · intro hlost
      -- the board is clean now, so nothing may be missing
      have hsame : g.changes = g.delivered := hlost _ hlookup rfl
      simp [clearsInTime, hsame, hcaptured]
    · intro hguard _ _ _
      have hsame : g.changes = g.captured := by simpa [clearsInTime] using hguard
      exact hsame.trans hcaptured

theorem keeps_bus (h : Pending b p) (hlost : NothingLost b p)
    (hstep : p.1.step E .bus = some p'.1) (hrecord : p'.2 = record b p.1 p.2 .bus p'.1) :
    Keeps b p .bus p' := by
  obtain ⟨⟨c, pc, firmware, w⟩, g⟩ := p
  obtain ⟨⟨c', pc', firmware', w'⟩, g'⟩ := p'
  obtain ⟨heffect, hfirmware⟩ := step_bus hstep
  dsimp only at heffect hrecord hfirmware
  subst hfirmware
  cases heffect with
  | session hblock hcarry hhost =>
    have hguard : clearsInTime b (⟨c, pc, firmware', w⟩, g) .bus = true := by
      cases pc <;> first | rfl | exact nomatch hblock
    rw [record_of_carriesNothing hcarry] at hrecord
    exact keeps_of_lawful hguard (pending_of_carriesNothing h hlost
      (Comm.virtualSwitchBoards_of_hostPart hhost) hrecord hcarry)
  | eventPopped =>
    exact keeps_of_lawful rfl (pending_of_carriesNothing h hlost ⟨rfl, rfl⟩ hrecord rfl)
  | snapshotPopped =>
    exact keeps_of_lawful rfl (pending_of_same h hlost ⟨rfl, rfl⟩ hrecord nofun nofun nofun)
  | noSnapshot =>
    exact keeps_of_lawful rfl (pending_of_same h hlost ⟨rfl, rfl⟩ hrecord nofun nofun nofun)
  | copied =>
    exact keeps_of_lawful rfl (pending_of_same h hlost ⟨rfl, rfl⟩ hrecord nofun nofun nofun)
  | written hsent hhost =>
    exact keeps_of_lawful rfl (pending_of_same h hlost
      (Comm.virtualSwitchBoards_of_hostPart hhost) hrecord nofun nofun nofun)
  | consumed =>
    next nextBoard holdFrames =>
    have hcarry := BusPc.afterFrame_carriesNothing (P := P) nextBoard false
    rw [record_of_carriesNothing hcarry] at hrecord
    exact keeps_of_lawful rfl (pending_of_carriesNothing h hlost ⟨rfl, rfl⟩ hrecord hcarry)
  | dirtyRead hlookup =>
    next hops board reply refresh boardState =>
    apply keeps_of_lawful rfl
    -- the read starts a reply of the board, and a silent one is captured here
    by_cases hboard : board = b
    · subst hboard
      obtain rfl : g' = { g with captured := g.changes } := hrecord.trans (if_pos rfl)
      refine ⟨⟨h.finalized, ?_, ?_, ?_⟩, hlost⟩
      · intro _
        exact Option.isSome_iff_exists.mpr ⟨boardState, hlookup⟩
      · intro hsend boardState' hlookup'
        obtain rfl := Option.some.inj (hlookup.symm.trans hlookup')
        simpa [sendsState] using hsend
      · intro hcapture
        have hclean : boardState.dirty = false := by simpa [captures] using hcapture
        exact hlost boardState hlookup hclean
    · obtain rfl : g' = g := hrecord.trans (if_neg hboard)
      refine pending_of_same h hlost ⟨rfl, rfl⟩ rfl ?_ ?_ ?_ <;>
      · intro hmine
        simp [replies, sendsState, captures, hboard] at hmine
  | bitmapCopied =>
    next hops board next sendState refresh =>
    apply keeps_of_lawful rfl
    -- a state reply is captured at the bitmap copy
    by_cases hstate : board = b ∧ sendState = true
    · obtain rfl : g' = { g with captured := g.changes } := hrecord.trans (if_pos hstate)
      refine ⟨⟨h.finalized, h.virtualized, h.dirty, ?_⟩, hlost⟩
      intro hcapture
      simp [captures, hstate.2] at hcapture
    · obtain rfl : g' = g := hrecord.trans (if_neg hstate)
      exact pending_of_same h hlost ⟨rfl, rfl⟩ rfl id id id
  | replyWritten hhost =>
    next hops board next sendState refresh switchCopy =>
    apply keeps_of_lawful rfl
    obtain ⟨hboards, hfinal⟩ := Comm.virtualSwitchBoards_of_hostPart hhost
    by_cases hstate : board = b ∧ sendState = true
    · obtain ⟨rfl, rfl⟩ := hstate
      obtain rfl : g' = { g with delivered := g.captured } := hrecord.trans (if_pos ⟨rfl, rfl⟩)
      refine ⟨⟨hfinal.trans h.finalized, ?_, nofun, fun _ => rfl⟩, ?_⟩
      · intro hreply
        show (c'.virtualSwitchBoards.lookup board).isSome = true
        rw [hboards]
        exact h.virtualized hreply
      · -- a board whose state was sent is still dirty
        intro boardState hlookup hclean
        have hdirty := h.dirty (by simp [sendsState]) boardState (hboards ▸ hlookup)
        exact nomatch hclean.symm.trans hdirty
    · obtain rfl : g' = g := hrecord.trans (if_neg hstate)
      refine pending_of_same h hlost ⟨hboards, hfinal⟩ rfl id nofun ?_
      intro hcapture
      have hboard : board = b := by simpa [captures] using hcapture
      have hsilent : sendState = false := by simpa [hboard] using hstate
      simp [captures, hboard, hsilent]
  | dirtyCleared =>
    next hops board next sendState refresh =>
    by_cases hboard : board = b
    · subst hboard
      obtain rfl : g' = g := hrecord
      exact keeps_clear h
    · obtain rfl : g' = g := hrecord
      have hlookup := Comm.lookup_clearDirty board b c
      rw [if_neg (fun h => hboard h.symm)] at hlookup
      have hfinal : (c.clearDirty board).boardPresenceFinalized = c.boardPresenceFinalized :=
        Comm.boardPresenceFinalized_clearDirty board c
      refine keeps_of_lawful (by simp [clearsInTime, hboard])
        ⟨⟨hfinal.trans h.finalized, nofun, nofun, nofun⟩, ?_⟩
      intro boardState hboardState hclean
      exact hlost boardState (hlookup ▸ hboardState) hclean

/-- A call of `SetVirtualSwitchState` marks the board whose switch it changes. -/
theorem keeps_setVirtualSwitchState {number : UInt16} {state : UInt8} (h : Pending b p)
    (hlost : NothingLost b p) (hstep : p.1.step E (.setVirtualSwitchState number state) = some p'.1)
    (hrecord : p'.2 = record b p.1 p.2 (.setVirtualSwitchState number state) p'.1) :
    Keeps b p (.setVirtualSwitchState number state) p' := by
  obtain ⟨s, g⟩ := p
  obtain ⟨s', g'⟩ := p'
  have heffect := Comm.setVirtualSwitchState_effect (E.port.steadyMs s.world) number state s.comm
  rw [Comm.finalizeConfiguredBoardPresence_of_finalized h.finalized] at heffect
  have heq := step_setVirtualSwitchState hstep
  dsimp only at heq hrecord
  have hbus : s'.bus = s.bus := by rw [heq]
  have hcomm : s'.comm =
      (s.comm.setVirtualSwitchState (E.port.steadyMs s.world) number state).2 := by rw [heq]
  rw [← hcomm] at heffect
  clear hcomm heq hstep
  apply keeps_of_lawful rfl
  generalize hc : s'.comm = c' at heffect
  cases heffect with
  | unchanged =>
    have hsame : g' = g := by
      rw [hrecord]
      unfold record
      dsimp only
      rw [if_pos (congrArg (Comm.boardStates b) hc.symm)]
    refine pending_of_same h hlost ⟨by rw [hc], by rw [hc]⟩ hsame ?_ ?_ ?_ <;>
      simp only [hbus, imp_self]
  | changed howner hboard hindex hdiffers =>
    next owner boardState i =>
    obtain ⟨hboards, hfinal⟩ := Comm.virtualSwitchBoards_changeVirtualSwitch
      (E.port.steadyMs s.world) boardState owner i number (Comm.normalizedState state) s.comm
    rw [← hc] at hboards hfinal
    by_cases howns : owner = b
    · subst howns
      have hlookup : s'.comm.virtualSwitchBoards.lookup owner =
          some (boardState.setEntry i (Comm.normalizedState state)) := by
        rw [hboards]
        exact AList.lookup_insert _
      have hdirty : ∀ boardState', s'.comm.virtualSwitchBoards.lookup owner = some boardState' →
          boardState'.dirty = true := by
        intro boardState' hlookup'
        obtain rfl := Option.some.inj (hlookup.symm.trans hlookup')
        rfl
      -- the board is dirty from here on, so nothing is lost
      have hhistory : g'.captured = g.captured ∧ g'.delivered = g.delivered := by
        rw [hrecord]
        unfold record
        dsimp only
        split <;> exact ⟨rfl, rfl⟩
      refine ⟨⟨hfinal.trans h.finalized, ?_, fun _ => hdirty, ?_⟩, ?_⟩
      · intro _
        exact Option.isSome_iff_exists.mpr ⟨_, hlookup⟩
      · intro hcapture
        rw [hhistory.1, hhistory.2]
        exact h.captured (hbus ▸ hcapture)
      · intro boardState' hlookup' hclean
        exact nomatch hclean.symm.trans (hdirty boardState' hlookup')
    · -- another board: the state of `b` is as before
      have hlookup : s'.comm.virtualSwitchBoards.lookup b =
          s.comm.virtualSwitchBoards.lookup b := by
        rw [hboards]
        exact AList.lookup_insert_ne (fun h => howns h.symm)
      have hsame : g' = g := by
        rw [hrecord]
        unfold record Comm.boardStates
        dsimp only
        rw [hlookup, if_pos rfl]
      subst hsame
      refine ⟨⟨hfinal.trans h.finalized, ?_, ?_, ?_⟩, ?_⟩
      · intro hreply
        rw [hlookup]
        exact h.virtualized (hbus ▸ hreply)
      · intro hsend boardState' hboardState
        exact h.dirty (hbus ▸ hsend) boardState' (hlookup ▸ hboardState)
      · intro hcapture
        exact h.captured (hbus ▸ hcapture)
      · intro boardState' hboardState hclean
        exact hlost boardState' (hlookup ▸ hboardState) hclean

/-- **Step lemma**: a step keeps the law exactly if it meets the guard. -/
theorem keeps_step {l : Label} (h : Pending b p) (hlost : NothingLost b p)
    (hstep : stepRecorded E b p l = some p') : Keeps b p l p' := by
  obtain ⟨hsys, hrecord⟩ := Transition.instrument_some.mp hstep
  -- calls that touch no virtualized board, then the other three
  by_cases hl : sessionLabel l = true
  · obtain ⟨hpc, hhost⟩ := step_sessionLabel hl hsys
    have hsame : p'.2 = p.2 := by
      rw [hrecord]
      cases l <;> first | rfl | exact nomatch hl
    refine keeps_of_lawful (by cases l <;> first | rfl | exact nomatch hl)
      (pending_of_same h hlost (Comm.virtualSwitchBoards_of_hostPart hhost) hsame ?_ ?_ ?_) <;>
    simp only [hpc, imp_self]
  · match l with
    | .bus => exact keeps_bus h hlost hsys hrecord
    | .queueEvent event =>
      have heq := step_queueEvent hsys
      have hboards := Comm.virtualSwitchBoards_queueEvent E.port p.1.world event p.1.comm
      refine keeps_of_lawful rfl (pending_of_same h hlost ?_ hrecord ?_ ?_ ?_)
      · rw [heq]
        exact hboards
      all_goals simp only [heq, imp_self]
    | .setVirtualSwitchState number state => exact keeps_setVirtualSwitchState h hlost hsys hrecord
    | .getNextSwitchState | .updateBoardFirmware _ | .firmware => exact absurd rfl hl

end step

/-! ### Whole Runs -/

/-- **Virtual switch changes, exactly.**  From a state with finalized board
    presence in which no reply is under way, a clean virtualized board never
    has a change that its last state reply missed if and only if every
    clearing step of the run comes before any change the reply did not
    capture. -/
theorem virtual_change_never_lost_iff (E : Env W) (b : UInt8) (s : Sys P W) (ls : List Label)
    (hfinal : s.comm.boardPresenceFinalized = true) (hbus : s.bus.carriesNothing = true) :
    NeverLost E b s ls ↔ ClearsInTime E b s ls := by
  have hidle : replies b s.bus = false ∧ sendsState b s.bus = false ∧
      captures b s.bus = false := by
    generalize s.bus = pc at hbus ⊢
    cases pc <;> first | exact ⟨rfl, rfl, rfl⟩ | contradiction
  have hstep : ∀ (p : Sys P W × History) (l : Label) (p' : Sys P W × History), Pending b p →
      NothingLost b p → stepRecorded E b p l = some p' →
      Pending b p' ∧ (NothingLost b p' ↔ clearsInTime b p l = true) :=
    fun p l p' hpending hlost hstep => keeps_step hpending hlost hstep
  have hdisabled : ∀ (p : Sys P W × History) (l : Label), stepRecorded E b p l = none →
      clearsInTime b p l = true := by
    -- only an enabled step can clear a flag
    intro p l hnone
    unfold clearsInTime
    split
    · next hops board next sendState refresh heq =>
      simp [stepRecorded, Transition.instrument, step, Comm.busStep, heq] at hnone
    · rfl
  have hpending : Pending b (s, ({} : History)) := by
    refine ⟨hfinal, ?_, ?_, fun _ => rfl⟩
    · intro hreply
      exact absurd hreply (by simp [hidle.1])
    · intro hsend
      exact absurd hsend (by simp [hidle.2.1])
  exact Transition.always_iff_along hstep hdisabled hpending fun _ _ _ => rfl

end Sys

namespace Reference

open Sys

/-- Switch 30 closes, and opens again while the state reply that carries the
    closed switch is written. -/
def changeDuringReply : List Label :=
  .setVirtualSwitchState 30 1 :: outputCycle ++ List.replicate 2 .bus ++
    [.setVirtualSwitchState 30 0] ++ List.replicate 2 .bus

/-- The second change is lost: the flag is cleared behind it. -/
theorem change_during_reply_lost :
    ¬ ∀ (b : UInt8) (ls : List Label), NeverLost env b virtualSystem ls := by
  intro h
  exact absurd (h 1 changeDuringReply) (by decide +kernel)

/-- Without a call during the reply nothing is lost. -/
theorem change_before_reply_kept :
    NeverLost env 1 virtualSystem
        (.setVirtualSwitchState 30 1 :: outputCycle ++ List.replicate 6 .bus) ↔
      ClearsInTime env 1 virtualSystem
        (.setVirtualSwitchState 30 1 :: outputCycle ++ List.replicate 6 .bus) :=
  virtual_change_never_lost_iff env 1 virtualSystem _ (by decide +kernel) rfl

end Reference

end LibPpuc
