import LibPpuc.Host.Lifecycle
import LibPpuc.Runtime.VirtualReply
import LibPpuc.Session.StaleReply
import LibPpuc.Startup.Sections

/-! # Boards Change Their Own Switches Only

  A state frame carries all switch bits, but it is applied under the mask of
  the board whose token it answers.  The masks are a table of eight; a board
  with a larger number has none, and its frames are copied whole.  The
  tokens come from the boards: a board hands on to whatever it was told when
  it was configured, also to a number outside the table.

  So along a session every board keeps to its own switches if and only if
  each frame that is applied under a token outside the table repeats the
  host's bits for the switches of the others.
-/

namespace LibPpuc

namespace Startup

variable {P : Protocol} {W : Type}

/-- The session after an attempt that gets as far as `SendSetupFrame`: the
    setup, `SetGIState` and `Run`. -/
def session (E : Env W) (H : EventHeader) (s : StartupSettings) (a : Startup P W) :
    Option (Sys P W) :=
  match a.sendSetup E.port with
  | (false, _, _) => none
  | (true, c, w) =>
    let w := E.port.sleepUs 1000000 w
    some (Sys.start E
      (if s.platform = H.PLATFORM_WPC then c else c.queueEvent E.port w (Host.giOn P)) w)

end Startup

namespace Comm

variable {P : Protocol} {W : Type} {pos : Nat → Nat}

/-! ### What Keeps the Setup -/

/-- What a session takes over from its startup attempt. -/
def sessionPart (c : Comm P) : SwitchStore P × Finset UInt8 := (c.switchStore, c.presentBoards)

theorem sessionPart_writeBytes (port : SerialPort W) (context : String) (buffer : List UInt8)
    (c : Comm P) (w : W) :
    (c.writeBytes port context buffer w).2.1.sessionPart = c.sessionPart := by
  obtain ⟨log, heq⟩ := writeBytes_eq port context buffer c w
  rw [heq]
  rfl

theorem sessionPart_sendSetupFrame (port : SerialPort W) (c : Comm P) (w : W) :
    (c.sendSetupFrame port w).2.1.sessionPart = c.sessionPart := by
  obtain ⟨sequence, log, heq⟩ := sendSetupFrame_eq port c w
  rw [heq]
  rfl

theorem sessionPart_sendMappingFrameList (port : SerialPort W)
    (frames : List (UInt8 × UInt16 × UInt16)) (c : Comm P) (w : W) :
    (sendMappingFrameList port frames c w).2.1.sessionPart = c.sessionPart := by
  obtain ⟨sequence, log, heq⟩ := sendMappingFrameList_eq port frames c w
  rw [heq]
  rfl

theorem sessionPart_queueEvent (port : SerialPort W) (w : W) (event : Event) (c : Comm P) :
    (c.queueEvent port w event).sessionPart = c.sessionPart := by
  have heffect := queueEvent_effect port w event c
  generalize c.queueEvent port w event = c' at heffect ⊢
  cases heffect <;> rfl

theorem switchSetup_clearDirty (board : UInt8) (c : Comm P) :
    (c.clearDirty board).switchSetup = c.switchSetup := by
  unfold clearDirty
  split <;> rfl

theorem switchSetup_changeVirtualSwitch (now : Nat) (boardState : VirtualSwitchBoardState)
    (owner : UInt8) (i : Nat) (number : UInt16) (state : Nat) (c : Comm P) :
    (c.changeVirtualSwitch now boardState owner i number state).switchSetup = c.switchSetup := by
  unfold changeVirtualSwitch noteSwitchActivity
  dsimp only
  split <;> rfl

end Comm

namespace Sys

variable {P : Protocol} {W : Type} {E : Env W} {s s' : Sys P W} {pos : Nat → Nat}

/-- **Step lemma**: a session keeps its setup. -/
theorem step_switchSetup {l : Label} (hfinal : s.comm.boardPresenceFinalized = true)
    (h : s.step E l = some s') :
    s'.comm.switchSetup = s.comm.switchSetup ∧ s'.comm.boardPresenceFinalized = true := by
  have hhost : ∀ c' : Comm P, c'.hostPart = s.comm.hostPart →
      c'.switchSetup = s.comm.switchSetup ∧ c'.boardPresenceFinalized = true := by
    intro c' hpart
    refine ⟨(congrArg Comm.switchSetup hpart :), ?_⟩
    exact (congrArg Comm.boardPresenceFinalized hpart :).trans hfinal
  cases l with
  | bus =>
    have heffect := (step_bus h).1
    generalize s.bus = pc at heffect
    generalize s'.bus = pc' at heffect
    generalize s'.comm = c' at heffect ⊢
    cases heffect with
    | session hblock hcarry hpart => exact hhost _ hpart
    | written hsent hpart => exact hhost _ hpart
    | replyWritten hpart => exact hhost _ hpart
    | eventPopped | snapshotPopped | noSnapshot | copied | consumed | dirtyRead | bitmapCopied =>
      exact ⟨rfl, hfinal⟩
    | dirtyCleared =>
      next hops board next sendState refresh =>
      refine ⟨Comm.switchSetup_clearDirty board s.comm, ?_⟩
      rw [Comm.boardPresenceFinalized_clearDirty]
      exact hfinal
  | queueEvent event =>
    obtain rfl := step_queueEvent h
    have hpart := Comm.sessionPart_queueEvent E.port s.world event s.comm
    have hstore : (s.comm.queueEvent E.port s.world event).switchStore = s.comm.switchStore :=
      congrArg Prod.fst hpart
    refine ⟨Comm.switchSetup_of_switchStore hstore, ?_⟩
    exact (congrArg SwitchStore.boardPresenceFinalized hstore :).trans hfinal
  | setVirtualSwitchState number state =>
    obtain rfl := step_setVirtualSwitchState h
    have heffect := Comm.setVirtualSwitchState_effect (E.port.steadyMs s.world) number state s.comm
    rw [Comm.finalizeConfiguredBoardPresence_of_finalized hfinal] at heffect
    dsimp only
    generalize (s.comm.setVirtualSwitchState (E.port.steadyMs s.world) number state).2 = c'
      at heffect ⊢
    cases heffect with
    | unchanged => exact ⟨rfl, hfinal⟩
    | changed howner hboard hindex hdiffers =>
      refine ⟨Comm.switchSetup_changeVirtualSwitch _ _ _ _ _ _ _, ?_⟩
      rw [(Comm.virtualSwitchBoards_changeVirtualSwitch _ _ _ _ _ _ _).2]
      exact hfinal
  | getNextSwitchState => exact hhost _ (step_sessionLabel rfl h).2
  | updateBoardFirmware request => exact hhost _ (step_sessionLabel rfl h).2
  | firmware => exact hhost _ (step_sessionLabel rfl h).2

end Sys

namespace Startup

variable {P : Protocol} {W : Type} {E : Env W} {H : EventHeader} {s : StartupSettings}
  {a : Startup P W} {t : Sys P W}

/-- The setup frames and `SetGIState` leave alone what the attempt has built. -/
theorem session_start (h : a.session E H s = some t) :
    t.comm.switchStore = a.comm.switchStore ∧ t.comm.presentBoards = a.comm.presentBoards ∧
      t.bus = .loop := by
  have hsetup : (a.sendSetup E.port).2.1.sessionPart = a.comm.sessionPart := by
    have hframe := Comm.sessionPart_sendSetupFrame E.port a.comm a.world
    unfold sendSetup
    split
    · next heq =>
      rw [heq] at hframe
      exact (Comm.sessionPart_sendMappingFrameList E.port _ _ _).trans hframe
    · next heq =>
      rw [heq] at hframe
      exact hframe
  unfold session at h
  split at h
  · exact nomatch h
  · next c w heq =>
    obtain rfl := Option.some.inj h
    rw [heq] at hsetup
    have hstart : ∀ c' : Comm P, c'.sessionPart = c.sessionPart →
        c'.switchStore = a.comm.switchStore ∧ c'.presentBoards = a.comm.presentBoards :=
      fun c' hpart => Prod.ext_iff.mp (hpart.trans hsetup)
    -- `SetGIState` queues one event, or nothing on a WPC machine
    dsimp only [Sys.start]
    split
    · obtain ⟨hstore, hpresent⟩ := hstart c rfl
      exact ⟨hstore, hpresent, rfl⟩
    · obtain ⟨hstore, hpresent⟩ := hstart _ (Comm.sessionPart_queueEvent E.port _ (Host.giOn P) c)
      exact ⟨hstore, hpresent, rfl⟩

end Startup

/-! ### Frames Applied Under a Token -/

/-- The document lists the switch for the board. -/
def SwitchItem.Lists (items : List SwitchItem) (board : UInt8) (number : Nat) : Prop :=
  ∃ item ∈ items, item.board = board ∧ item.number.toNat = number

instance (items : List SwitchItem) (board : UInt8) (number : Nat) :
    Decidable (SwitchItem.Lists items board number) :=
  inferInstanceAs (Decidable (∃ item ∈ items, _))

namespace Sys

variable {P : Protocol} {W : Type}

/-- A state frame that the step applies under the token of a board changes
    no bit of a switch that the document does not list for the board, and
    pushes no event for such a switch. -/
def OwnSwitchesOnly (E : Env W) (items : List SwitchItem) (s : Sys P W) (l : Label) : Prop :=
  ∀ r ∈ s.receives l, ∀ _ ∈ s.comm.acceptedState E.port r.2 s.world, ∀ s' ∈ s.step E l,
    (∀ i < s.comm.switchIndexToNumber.length,
      ¬ SwitchItem.Lists items r.1 (s.comm.switchNumberAt i) →
        P.bits.get s'.comm.switchBitmap i = P.bits.get s.comm.switchBitmap i) ∧
    ∀ event ∈ s'.comm.switches.drop s.comm.switches.length,
      SwitchItem.Lists items r.1 event.number

instance (E : Env W) (items : List SwitchItem) (s : Sys P W) (l : Label) :
    Decidable (OwnSwitchesOnly E items s l) :=
  inferInstanceAs (Decidable (∀ r ∈ s.receives l,
    ∀ _ ∈ s.comm.acceptedState E.port r.2 s.world, ∀ s' ∈ s.step E l, _ ∧ _))

/-- The token of a state frame that is applied is in the mask table, or the
    frame repeats the bits of all switches of other boards. -/
def InTableOrRepeats (E : Env W) (items : List SwitchItem) (s : Sys P W) (l : Label) : Prop :=
  ∀ r ∈ s.receives l, ∀ f ∈ s.comm.acceptedState E.port r.2 s.world,
    r.1.toNat < RS485_COMM_MAX_BOARDS ∨
      ∀ i < s.comm.switchIndexToNumber.length,
        ¬ SwitchItem.Lists items r.1 (s.comm.switchNumberAt i) →
          P.bits.get (f.bitmap P) i = P.bits.get s.comm.switchBitmap i

end Sys

namespace Comm

variable {P : Protocol} {pos : Nat → Nat} {items : List SwitchItem} {c : Comm P}

theorem mem_reportedEvents {mask : Option (Vector UInt8 P.kMaxSwitchBytes)}
    {bitmap : Vector UInt8 P.kMaxSwitchBytes} {ns : List Nat} {event : PPUCSwitchState} :
    event ∈ reportedEvents mask bitmap c ns ↔
      ∃ n ∈ ns, ownsBit mask n = true ∧ P.bits.get c.switchBitmap n ≠ P.bits.get bitmap n ∧
        { number := c.switchNumberAt n, state := if P.bits.get bitmap n then 1 else 0 } =
          event := by
  unfold reportedEvents
  simp only [List.mem_map, List.mem_filter, Bool.and_eq_true, bne_iff_ne, ne_eq, and_assoc]

/-- A board in the mask table owns no bit of another board's switch. -/
theorem SetUpFor.lists_of_ownsBit (h : c.SetUpFor items) (hP : P.Lawful pos) {b : UInt8}
    (hb : b.toNat < RS485_COMM_MAX_BOARDS) {i : Nat} (hi : i < P.kMaxSwitchBits)
    (howns : ownsBit (c.maskOf b) i = true) : SwitchItem.Lists items b (c.switchNumberAt i) := by
  obtain ⟨k, hk, hki⟩ := (h.maps.ownsBit_iff hP hb hi).mp howns
  obtain ⟨item, hitem, hboard, hnumber⟩ := (h.numbers b k).mp hk
  refine ⟨item, hitem, hboard, ?_⟩
  unfold switchNumberAt
  rw [h.maps.numberAt hki, hnumber]

end Comm

namespace Sys

variable {P : Protocol} {W : Type} {pos : Nat → Nat}

/-- **Step lemma**: in a state that is set up for the switches of a document,
    a frame keeps to the switches of its board exactly if its token is in the
    mask table or it repeats the other bits. -/
theorem ownSwitchesOnly_iff (hP : P.Lawful pos) (E : Env W) {items : List SwitchItem}
    {s : Sys P W} (hsetup : s.comm.SetUpFor items) (l : Label) :
    OwnSwitchesOnly E items s l ↔ InTableOrRepeats E items s l := by
  unfold OwnSwitchesOnly InTableOrRepeats
  apply forall_congr'
  intro r
  apply imp_congr_right
  intro hr
  apply forall_congr'
  intro f
  apply imp_congr_right
  intro hf
  obtain ⟨s', hstep, hcomm⟩ := step_receives (E := E) hr
  obtain ⟨hbitmap, hswitches, hvalid⟩ :=
    Comm.receive_of_accepted E.port r.1 r.2 s.comm s.world hf
  rw [← hcomm] at hbitmap hswitches
  have hmax := (hP.validConfig _ hvalid).2.2
  have hpushed : s'.comm.switches.drop s.comm.switches.length =
      Comm.reportedEvents (s.comm.maskOf r.1) (f.bitmap P) s.comm
        (List.range s.comm.runtimeConfig.switchBits) := by
    rw [hswitches, List.drop_left]
  constructor
  · intro hown
    obtain ⟨-, hevents⟩ := hown s' hstep
    by_cases htable : r.1.toNat < RS485_COMM_MAX_BOARDS
    · exact Or.inl htable
    · refine Or.inr ?_
      intro i hi hforeign
      -- without a mask every bit that differs is reported
      by_contra hdiffers
      have hmask : s.comm.maskOf r.1 = none := if_neg htable
      apply hforeign
      refine hevents ⟨s.comm.switchNumberAt i, if P.bits.get (f.bitmap P) i then 1 else 0⟩ ?_
      rw [hpushed, Comm.mem_reportedEvents, hmask]
      refine ⟨i, List.mem_range.mpr (hsetup.full ▸ hi), rfl, ?_, rfl⟩
      exact fun hsame => hdiffers hsame.symm
  · intro hcond s'' hs''
    obtain rfl := Option.some.inj (hstep.symm.trans hs'')
    -- a bit of another board's switch is not owned, or it agrees
    have hkept : ∀ i < s.comm.switchIndexToNumber.length,
        ¬ SwitchItem.Lists items r.1 (s.comm.switchNumberAt i) →
          Comm.ownsBit (s.comm.maskOf r.1) i = true →
            P.bits.get (f.bitmap P) i = P.bits.get s.comm.switchBitmap i := by
      intro i hi hforeign howns
      rcases hcond with htable | hrepeats
      · have hi' : i < P.kMaxSwitchBits :=
          Nat.lt_of_lt_of_le (hsetup.full.symm ▸ hi) hmax
        exact absurd (hsetup.lists_of_ownsBit hP htable hi' howns) hforeign
      · exact hrepeats i hi hforeign
    constructor
    · intro i hi hforeign
      have hi' : i < P.kMaxSwitchBits := Nat.lt_of_lt_of_le (hsetup.full.symm ▸ hi) hmax
      rw [hbitmap, Comm.get_mergedBitmap hP _ _ _ _ (hP.switch_byte_lt hi')]
      split
      · next howns => exact hkept i hi hforeign howns.2
      · rfl
    · intro event hevent
      rw [hpushed] at hevent
      obtain ⟨i, hi, howns, hdiffers, rfl⟩ := Comm.mem_reportedEvents.mp hevent
      by_contra hforeign
      have hi' : i < s.comm.switchIndexToNumber.length := hsetup.full ▸ List.mem_range.mp hi
      exact hdiffers (hkept i hi' hforeign howns).symm

/-- A state of a session after an attempt for the switches `items`. -/
structure InSession (items : List SwitchItem) (s : Sys P W) : Prop where
  setup : s.comm.SetUpFor items
  finalized : s.comm.boardPresenceFinalized = true

theorem InSession.step {E : Env W} {items : List SwitchItem} {s s' : Sys P W} {l : Label}
    (h : InSession items s) (hstep : s.step E l = some s') : InSession items s' := by
  obtain ⟨hsetup, hfinal⟩ := step_switchSetup h.finalized hstep
  refine ⟨h.setup.of_setup ?_, hfinal⟩
  rw [hsetup]

theorem inSession_session (hP : P.Lawful pos) (hcarries : P.CarriesTuple) {E : Env W}
    {H : EventHeader} {cpp : YamlCpp} {settings : StartupSettings} {config : Yaml} {c : Comm P}
    {w : W} {a : Startup P W} {t : Sys P W} {items : List SwitchItem}
    (hready : startupAttempt H cpp settings config E.port c w = .ready a)
    (hsession : a.session E H settings = some t)
    (hitems : Pass.collectSwitches cpp config = .ok items) : InSession items t := by
  obtain ⟨hstore, -, -⟩ := Startup.session_start hsession
  refine ⟨(Startup.ready_setUpFor hP hcarries hready hitems).of_setup ?_, ?_⟩
  · rw [Comm.switchSetup_of_switchStore hstore]
  · have hfinal : t.comm.boardPresenceFinalized = a.comm.boardPresenceFinalized :=
      (congrArg SwitchStore.boardPresenceFinalized hstore :)
    exact hfinal.trans (Startup.ready_finalized hcarries hready)

/-- **Isolation, exactly.**  Along any run of a session every applied state
    frame keeps to the switches that the document lists for the board of its
    token if and only if each token is in the mask table or its frame repeats
    the bits of the others. -/
theorem own_switches_iff (hP : P.Lawful pos) (hcarries : P.CarriesTuple) {E : Env W}
    {H : EventHeader} {cpp : YamlCpp} {settings : StartupSettings} {config : Yaml} {c : Comm P}
    {w : W} {a : Startup P W} {t : Sys P W} {items : List SwitchItem}
    (hready : startupAttempt H cpp settings config E.port c w = .ready a)
    (hsession : a.session E H settings = some t)
    (hitems : Pass.collectSwitches cpp config = .ok items) (ls : List Label) :
    Transition.Along (step E) (OwnSwitchesOnly E items) t ls ↔
      Transition.Along (step E) (InTableOrRepeats E items) t ls := by
  have hinit := inSession_session hP hcarries hready hsession hitems
  have hstep : ∀ (G : Sys P W → Label → Prop) (s : Sys P W) l s', InSession items s → G s l →
      s.step E l = some s' → InSession items s' := fun _ _ _ _ h _ hs => h.step hs
  constructor
  · intro hown
    exact Transition.along_of_along (hstep _)
      (fun s l h => (ownSwitchesOnly_iff hP E h.setup l).mp) hinit hown
  · intro hcond
    exact Transition.along_of_along (hstep _)
      (fun s l h => (ownSwitchesOnly_iff hP E h.setup l).mpr) hinit hcond

end Sys

/-! ### The Tokens of a Session -/

/-- The board whose turn the block hands on. -/
def BusPc.token {P : Protocol} : BusPc P → Option UInt8
  | .copyState next .. | .writeFrame next .. | .consumeHoldover next .. => some next
  | .hop _ expected .. => some expected
  | .virtualCopy _ _ next .. | .virtualWrite _ _ next .. | .virtualClear _ _ next .. => some next
  | _ => none

theorem BusPc.token_afterFrame {P : Protocol} {next b : UInt8} {refresh : Bool}
    (h : b ∈ (BusPc.afterFrame next refresh : BusPc P).token) : b = next := by
  unfold afterFrame at h
  split at h
  · exact nomatch h
  · exact (Option.some.inj h).symm

namespace Comm

variable {P : Protocol} {W : Type}

/-- Where a token can come from. -/
inductive TokenFrom (port : SerialPort W) (c : Comm P) (w : W) (pc : BusPc P) (b : UInt8) :
    Prop where
  | before (h : b ∈ pc.token)
  | done (h : b = P.kNoBoard)
  /-- The first active board, or the one after a virtualized board. -/
  | active (h : b ∈ c.switchBoards)
  /-- The reply of a board. -/
  | handedOn {hops : Nat} {expected : UInt8} {reply : SwitchReply} {refresh : Bool}
      (hpc : pc = .hop (hops + 1) expected reply refresh) (hexpected : expected ≠ P.kNoBoard)
      (hreal : c.virtualSwitchBoards.lookup expected = none)
      (hok : (c.receiveSwitchStateFrame port expected reply w).1.ok = true)
      (h : b = (c.receiveSwitchStateFrame port expected reply w).1.nextBoard)

theorem polledBoard_mem (now : Nat) (c : Comm P) :
    c.polledBoard now = P.kNoBoard ∨ c.polledBoard now ∈ c.switchBoards := by
  unfold polledBoard
  split
  · next board rest heq =>
    split
    · exact Or.inr (heq ▸ List.mem_cons_self)
    · exact Or.inl rfl
  · exact Or.inl rfl

theorem hop_token {port : SerialPort W} {hops : Nat} {expected b : UInt8} {reply : SwitchReply}
    {refresh : Bool} {c : Comm P} {w : W}
    (hb : b ∈ (c.hop port hops expected reply refresh w).1.token) :
    TokenFrom port c w (.hop hops expected reply refresh) b := by
  unfold hop at hb
  cases hops with
  | zero => exact nomatch hb
  | succ hops =>
    dsimp only at hb
    split at hb
    · exact nomatch hb
    · next hexpected =>
      split at hb
      · split at hb
        · -- the host looks up the successor of a virtualized board
          obtain rfl := Option.some.inj hb
          rw [getLogicalNextSwitchBoard_eq]
          rcases Successor.nextOr_mem_or c.switchBoards expected P.kNoBoard with hin | hnone
          · exact .active hin
          · exact .done hnone
        · exact nomatch hb
      · next hreal =>
        split at hb
        · next hok => exact .handedOn rfl hexpected hreal hok (Option.some.inj hb).symm
        · exact nomatch hb

/-- **Inversion of a block**: where the token it leaves comes from. -/
theorem busStep_token {port : SerialPort W} {sourceByte : EventSource → UInt8}
    {pc pc' : BusPc P} {c c' : Comm P} {w w' : W}
    (h : c.busStep port sourceByte pc w = some (pc', c', w')) {b : UInt8} (hb : b ∈ pc'.token) :
    TokenFrom port c w pc b := by
  -- one case per block; most blocks leave no token
  unfold busStep at h
  match pc with
  | .stopped => exact nomatch h
  | .loop =>
    obtain ⟨rfl, rfl, rfl⟩ := by simpa using h
    split at hb <;> exact nomatch hb
  | .popEvent eventsSent =>
    dsimp only at h
    split at h
    · split at h <;>
      · obtain ⟨rfl, rfl, rfl⟩ := by simpa using h
        exact nomatch hb
    · obtain ⟨rfl, rfl, rfl⟩ := by simpa using h
      exact nomatch hb
  | .sendEvent eventsSent event =>
    obtain ⟨rfl, rfl, rfl⟩ := by simpa using h
    exact nomatch hb
  | .runtimeTest | .resyncTest | .resyncSetup | .resyncMapping (_ :: _) =>
    dsimp only at h
    split at h <;>
    · obtain ⟨rfl, rfl, rfl⟩ := by simpa using h
      exact nomatch hb
  | .resyncMapping [] =>
    obtain ⟨rfl, rfl, rfl⟩ := by simpa using h
    exact nomatch hb
  | .inspectQueue =>
    obtain ⟨rfl, rfl, rfl⟩ := by simpa [Prod.ext_iff] using h
    have hpolled : b = c.polledBoard (port.steadyMs w) := by
      unfold inspectQueue at hb
      dsimp only at hb
      split at hb
      · exact (Option.some.inj hb).symm
      · split at hb <;> exact (Option.some.inj hb).symm
    subst hpolled
    rcases polledBoard_mem (port.steadyMs w) c with hnone | hfirst
    · exact .done hnone
    · exact .active hfirst
  | .copyState next refresh snapshot =>
    obtain ⟨rfl, rfl, rfl⟩ := by simpa using h
    exact .before hb
  | .writeFrame next refresh frame holdFrames =>
    obtain ⟨rfl, rfl, rfl⟩ := by simpa [Prod.ext_iff] using h
    unfold writeFrame at hb
    split at hb
    · split at hb
      · exact .before (congrArg some (BusPc.token_afterFrame hb).symm)
      · exact nomatch hb
    · split at hb
      · exact .before hb
      · exact nomatch hb
  | .consumeHoldover next holdFrames =>
    obtain ⟨rfl, rfl, rfl⟩ := by simpa using h
    exact .before (congrArg some (BusPc.token_afterFrame hb).symm)
  | .hop hops expected reply refresh =>
    obtain ⟨rfl, rfl, rfl⟩ := by simpa [Prod.ext_iff] using h
    exact hop_token hb
  | .virtualCopy hops board next sendState refresh =>
    obtain ⟨rfl, rfl, rfl⟩ := by simpa using h
    exact .before hb
  | .virtualWrite hops board next sendState refresh switchCopy =>
    dsimp only at h
    split at h
    · obtain ⟨rfl, rfl, rfl⟩ := by simpa using h
      exact .before hb
    · obtain ⟨rfl, rfl, rfl⟩ := by simpa using h
      exact nomatch hb
  | .virtualClear hops board next sendState refresh =>
    obtain ⟨rfl, rfl, rfl⟩ := by simpa using h
    exact .before hb
  | .chainDone success refresh =>
    obtain ⟨rfl, rfl, rfl⟩ := by simpa using h
    exact nomatch hb

end Comm

namespace Startup

variable {P : Protocol} {W : Type} {H : EventHeader} {port : SerialPort W}

/-- What a polled board was told is a polled board again, or `kNoBoard`. -/
theorem tokenOf_mem (hcarries : P.CarriesTuple) {cpp : YamlCpp} {s : StartupSettings}
    {config : Yaml} {c : Comm P} {w : W} {a : Startup P W}
    (hready : startupAttempt H cpp s config port c w = .ready a) {board : UInt8}
    (hboard : board ∈ Pass.pollEventsBoards cpp s config) :
    a.tokenOf H board = P.kNoBoard ∨
      a.tokenOf H board ∈ Pass.pollEventsBoards cpp s config := by
  obtain ⟨hactive, htold⟩ := ready_ring hcarries hready
  unfold tokenOf
  split
  · next hpresent =>
    rw [htold board hboard hpresent]
    cases hlast : Successor.lastNext P.kNoBoard board (Pass.pollEventsBoards cpp s config) with
    | none => exact Or.inl rfl
    | some next =>
      have hback : next.toUInt32.toUInt8 = next := by simp
      show next.toUInt32.toUInt8 = P.kNoBoard ∨ next.toUInt32.toUInt8 ∈ _
      rw [hback]
      exact (Successor.lastNext_mem_or hlast).symm
  · rw [Comm.getLogicalNextSwitchBoard_eq, hactive]
    rcases Successor.nextOr_mem_or (activeSwitchBoards (Pass.pollEventsBoards cpp s config)) board
      P.kNoBoard with hin | hnone
    · exact Or.inr (activeSwitchBoards_subset _ hin)
    · exact Or.inl hnone

end Startup

namespace Sys

variable {P : Protocol} {W : Type} {E : Env W} {H : EventHeader} {a : Startup P W}

/-- A reply that the step accepts hands on to the board that `Connect` has
    configured as the next one. -/
def HandsOnAsTold (E : Env W) (H : EventHeader) (a : Startup P W) (s : Sys P W) (l : Label) :
    Prop :=
  ∀ r ∈ s.receives l,
    (s.comm.receiveSwitchStateFrame E.port r.1 r.2 s.world).1.ok = true →
      (s.comm.receiveSwitchStateFrame E.port r.1 r.2 s.world).1.nextBoard = a.tokenOf H r.1

instance (s : Sys P W) (l : Label) : Decidable (HandsOnAsTold E H a s l) :=
  inferInstanceAs (Decidable (∀ r ∈ s.receives l, _ → _))

/-- Only boards of the list get a turn. -/
structure TurnsAmong (boards : List UInt8) (s : Sys P W) : Prop where
  active : s.comm.switchBoards ⊆ boards
  token : ∀ b ∈ s.bus.token, b = P.kNoBoard ∨ b ∈ boards

/-- **Step lemma**: replies that hand on as told keep the turns among the
    polled boards. -/
theorem TurnsAmong.step {boards : List UInt8}
    (hnext : ∀ board ∈ boards, a.tokenOf H board = P.kNoBoard ∨ a.tokenOf H board ∈ boards)
    {s s' : Sys P W} {l : Label} (h : TurnsAmong boards s)
    (hfinal : s.comm.boardPresenceFinalized = true) (htold : HandsOnAsTold E H a s l)
    (hstep : s.step E l = some s') : TurnsAmong boards s' := by
  have hactive : s'.comm.switchBoards = s.comm.switchBoards :=
    (congrArg Comm.SwitchSetup.switchBoards (step_switchSetup hfinal hstep).1 :)
  refine ⟨hactive ▸ h.active, ?_⟩
  by_cases hbus : l = .bus
  · subst hbus
    intro b hb
    simp only [Sys.step] at hstep
    obtain ⟨⟨pc', c', w'⟩, hblock, rfl⟩ := Option.map_eq_some_iff.mp hstep
    cases Comm.busStep_token hblock hb with
    | before hbefore => exact h.token b hbefore
    | done hdone => exact Or.inl hdone
    | active hin => exact Or.inr (h.active hin)
    | @handedOn hops expected reply refresh hpc hexpected hreal hok heq =>
      -- the reply was received under a token of the list
      have hreceives : s.receives .bus = some (expected, reply) := by
        unfold receives
        rw [hpc]
        exact if_neg (by simp [hexpected, hreal])
      have hturn : expected ∈ boards := by
        refine (h.token expected ?_).resolve_left hexpected
        rw [hpc]
        rfl
      rw [heq, htold _ hreceives hok]
      exact hnext expected hturn
  · have hpc : s'.bus = s.bus := by
      by_cases hevent : ∃ event, l = .queueEvent event
      · obtain ⟨event, rfl⟩ := hevent
        obtain rfl := step_queueEvent hstep
        rfl
      · exact (step_elsewhere hbus (fun event heq => hevent ⟨event, heq⟩) hstep).1
    rw [hpc]
    exact h.token

/-- **Where all polled boards are in the mask table, every board keeps to its
    own switches**, as long as the boards hand on as they were told. -/
theorem own_switches_of_numbers {pos : Nat → Nat} (hP : P.Lawful pos)
    (hcarries : P.CarriesTuple) {cpp : YamlCpp} {settings : StartupSettings} {config : Yaml}
    {c : Comm P} {w : W} {t : Sys P W} {items : List SwitchItem}
    (hready : startupAttempt H cpp settings config E.port c w = .ready a)
    (hsession : a.session E H settings = some t)
    (hitems : Pass.collectSwitches cpp config = .ok items)
    (hnumbers : ∀ board ∈ Pass.pollEventsBoards cpp settings config,
      board.toNat < RS485_COMM_MAX_BOARDS) {ls : List Label}
    (htold : Transition.Along (step E) (HandsOnAsTold E H a) t ls) :
    Transition.Along (step E) (OwnSwitchesOnly E items) t ls := by
  apply (own_switches_iff hP hcarries hready hsession hitems ls).mpr
  have hinit := inSession_session hP hcarries hready hsession hitems
  obtain ⟨hstore, -, hloop⟩ := Startup.session_start hsession
  have hactive : t.comm.switchBoards = a.comm.switchBoards :=
    (congrArg SwitchStore.switchBoards hstore :)
  have hturns : TurnsAmong (Pass.pollEventsBoards cpp settings config) t := by
    constructor
    · rw [hactive, (Startup.ready_ring hcarries hready).1]
      exact Startup.activeSwitchBoards_subset _
    · intro b hb
      rw [hloop] at hb
      exact nomatch hb
  refine Transition.along_of_along
    (I := fun s => InSession items s ∧
      TurnsAmong (Pass.pollEventsBoards cpp settings config) s) ?_ ?_ ⟨hinit, hturns⟩ htold
  · intro s l s' h hguard hs
    exact ⟨h.1.step hs, h.2.step (fun _ => Startup.tokenOf_mem hcarries hready) h.1.finalized
      hguard hs⟩
  · intro s l h hguard r hr f hf
    -- the token is that of a hop, so it is a polled board
    unfold receives at hr
    split at hr
    · next hops expected reply refresh hbus =>
      split at hr
      · exact nomatch hr
      · next hreal =>
        obtain rfl := Option.some.inj hr
        have hturn := h.2.token expected (by rw [hbus]; rfl)
        exact Or.inl (hnumbers expected (hturn.resolve_left fun hdone => hreal (Or.inl hdone)))
    · exact nomatch hr

end Sys

namespace Reference

open Sys

/-- The reference environment, with long pauses. -/
def slowEnv : Env Script :=
  { env with port := { port with sleepUs := fun us w => { w with now := w.now + us } } }

/-- Board 1 has switch 30, a second board has switch 31; both are polled. -/
def twoBoardDocument (second : String) : Yaml :=
  record
    [("debug", scalar "false"), ("rom", scalar "rom"), ("serialPort", scalar "port"),
      ("platform", scalar "SYS11"), ("coinDoorClosedSwitch", scalar "5"),
      ("gameOnSolenoid", scalar "6"),
      ("boards", list (["1", second].map fun number =>
        record [("number", scalar number), ("pollEvents", scalar "true")])),
      ("switches", list ([("1", "30"), (second, "31")].map fun entry =>
        record [("board", scalar entry.1), ("port", scalar "2"), ("number", scalar entry.2),
          ("debounce", scalar "3"), ("description", scalar "switch")]))]

/-- A board accepts the events of a switch. -/
def acksOfSwitch (board : UInt8) : List (List UInt8) :=
  [header.CONFIG_TOPIC_PORT, header.CONFIG_TOPIC_NUMBER, header.CONFIG_TOPIC_DEBOUNCE_TIME,
    header.CONFIG_TOPIC_MODE].zipIdx.map fun key =>
      ackFrom ⟨board, header.CONFIG_TOPIC_SWITCHES, UInt8.ofNat key.2, key.1⟩

/-- The state frame of a board that answers output frame 24. -/
def stateReply (nextBoard switches : UInt8) : List UInt8 :=
  protocol.buildSwitchReplyFrame true nextBoard 0 1 1 24 0
    (Vector.ofFn fun k => if k.val = 0 then switches else 0) 1

/-- Both boards accept all events.  Then each answers the second output frame
    and reports its own switch closed. -/
def twoBoardWorld (second : UInt8) : Script where
  replies :=
    (pollingAcks [1, second]).take 6 ++ acksOfSwitch 1 ++ acksOfSwitch second ++
      (pollingAcks [1, second]).drop 6 ++ List.replicate 6 [] ++
      [stateReply second 1 ++ stateReply 0xFF 2]
  rounds := 4

/-- The attempt with that document in that world, and its session. -/
def twoBoardSession (number : String) (second : UInt8) :
    Option (Startup protocol Script × Sys protocol Script) :=
  (startupAttempt header yamlCpp settings (twoBoardDocument number) slowEnv.port comm
    (twoBoardWorld second)).attempt.bind fun a =>
      (a.session slowEnv header settings).map fun t => (a, t)

theorem of_twoBoardSession {number : String} {second : UInt8} {a : Startup protocol Script}
    {t : Sys protocol Script} (h : twoBoardSession number second = some (a, t)) :
    startupAttempt header yamlCpp settings (twoBoardDocument number) slowEnv.port comm
        (twoBoardWorld second) = .ready a ∧
      a.session slowEnv header settings = some t := by
  obtain ⟨a', hattempt, hsession⟩ := Option.bind_eq_some_iff.mp h
  obtain ⟨t', ht, heq⟩ := Option.map_eq_some_iff.mp hsession
  obtain ⟨rfl, rfl⟩ := Prod.mk.inj heq
  exact ⟨AttemptEnd.ready_of_attempt hattempt, ht⟩

/-- Two output cycles, and the chain after the second one. -/
def secondPoll : List Label := outputCycle ++ outputCycle ++ [.bus, .bus]

/-- Board 9 opens switch 30 of board 1. -/
theorem board_9_opens_switch_30 :
    Accepted header yamlCpp (twoBoardDocument "9") ∧
      Pass.collectSwitches yamlCpp (twoBoardDocument "9") =
        .ok [{ board := 1, number := 30 }, { board := 9, number := 31 }] ∧
      ∃ a t, startupAttempt header yamlCpp settings (twoBoardDocument "9") slowEnv.port comm
            (twoBoardWorld 9) = .ready a ∧
        a.session slowEnv header settings = some t ∧
        Transition.Along (step slowEnv) (HandsOnAsTold slowEnv header a) t secondPoll ∧
        ¬ Transition.Along (step slowEnv)
          (OwnSwitchesOnly slowEnv [{ board := 1, number := 30 }, { board := 9, number := 31 }])
          t secondPoll := by
  refine ⟨⟨"", emptyPpuc, ⟨⟨⟩, rfl⟩⟩, rfl, ?_⟩
  have hrun : (twoBoardSession "9" 9).map (fun p =>
      (decide (Transition.Along (step slowEnv) (HandsOnAsTold slowEnv header p.1) p.2 secondPoll),
        decide (Transition.Along (step slowEnv)
          (OwnSwitchesOnly slowEnv [{ board := 1, number := 30 }, { board := 9, number := 31 }])
          p.2 secondPoll))) = some (true, false) := by
    decide +kernel
  obtain ⟨⟨a, t⟩, hsession, hfacts⟩ := Option.map_eq_some_iff.mp hrun
  obtain ⟨hready, ht⟩ := of_twoBoardSession hsession
  obtain ⟨htold, hown⟩ := Prod.mk.inj hfacts
  exact ⟨a, t, hready, ht, of_decide_eq_true htold, of_decide_eq_false hown⟩

/-- With board 2 for board 9 both keep to their own switches. -/
theorem board_2_keeps_to_switch_31 :
    ∃ t, (twoBoardSession "2" 2).map Prod.snd = some t ∧
      (Transition.Along (step slowEnv)
          (OwnSwitchesOnly slowEnv [{ board := 1, number := 30 }, { board := 2, number := 31 }])
          t secondPoll ↔
        Transition.Along (step slowEnv)
          (InTableOrRepeats slowEnv [{ board := 1, number := 30 }, { board := 2, number := 31 }])
          t secondPoll) := by
  have hrun : (twoBoardSession "2" 2).isSome = true := by decide +kernel
  obtain ⟨⟨a, t⟩, hsession⟩ := Option.isSome_iff_exists.mp hrun
  obtain ⟨hready, ht⟩ := of_twoBoardSession hsession
  refine ⟨t, by rw [hsession]; rfl, ?_⟩
  exact own_switches_iff protocol_lawful protocol_carriesTuple hready ht rfl secondPoll

end Reference

end LibPpuc
