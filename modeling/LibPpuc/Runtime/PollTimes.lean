import LibPpuc.Framework.Deadline
import LibPpuc.Runtime.Timers

/-! # When the Boards are Polled

  No board is polled for `RS485_COMM_SWITCH_POLL_STARTUP_HOLD_MS` after the
  bus thread has started, and after each completed resync.  A refresh takes
  the place of an output frame once no switch but a button has changed, and no
  refresh has ended, for `m_switchRefreshIdleMs`.

  The log of a run shows the marks that start the two timers again, what the
  bus thread chooses, and the frames that poll.  Every choice is explained by
  the marks in front of it, every frame by the choice in front of it.
-/

namespace LibPpuc

variable {P : Protocol} {W : Type}

/-! ### The Log -/

inductive PollEntry where
  /-- A resync is completed. -/
  | announced (now : Nat)
  /-- The board to poll next, and whether by a refresh. -/
  | chosen (now : Nat) (nextBoard : UInt8) (refresh : Bool)
  /-- A frame with this token was handed to the port. -/
  | sent (nextBoard : UInt8) (refresh : Bool)
  /-- The chain behind a refresh has ended. -/
  | refreshed (now : Nat)
  /-- The application was told about a switch. -/
  | switched (now number : Nat)
  deriving DecidableEq

namespace PollEntry

/-- The mark that holds the polls. -/
def announcedAt : PollEntry → Option Nat
  | .announced now => some now
  | _ => none

/-- The mark that puts off the next refresh. -/
def activeAt (buttonSwitchNumbers : Finset UInt16) : PollEntry → Option Nat
  | .refreshed now => some now
  | .switched now number =>
    if UInt16.ofNat number ∈ buttonSwitchNumbers then none else some now
  | _ => none

def isSwitched : PollEntry → Bool
  | .switched .. => true
  | _ => false

end PollEntry

/-- What a block of the bus thread shows. -/
def Comm.pollShown (port : SerialPort W) (pc pc' : BusPc P) (c : Comm P) (w w' : W) :
    List PollEntry :=
  match pc, pc' with
  | .resyncMapping [], _ => [.announced (port.steadyMs w')]
  | .inspectQueue, .copyState nextBoard refresh _ =>
    [.chosen (port.steadyMs w) nextBoard refresh]
  | .writeFrame nextBoard refresh frame holdFrames, _ =>
    if (c.frameOf (.writeFrame nextBoard refresh frame holdFrames)).isSome then
      [.sent nextBoard refresh]
    else []
  | .chainDone _ true, _ => [.refreshed (port.steadyMs w')]
  | _, _ => []

namespace Sys

/-- What a step of the system shows. -/
def pollEntries (E : Env W) (s : Sys P W) (l : Label) (s' : Sys P W) : List PollEntry :=
  (match l with
    | .bus => s.comm.pollShown E.port s.bus s'.bus s.world s'.world
    | _ => []) ++
  (s'.comm.switches.drop s.comm.switches.length).map fun event =>
    .switched (E.port.steadyMs s'.world) event.number

def pollLog (E : Env W) (s : Sys P W) (ls : List Label) : List PollEntry :=
  Transition.observe (step E) (pollEntries E) s ls

end Sys

/-! ### What Explains an Entry -/

/-- The marks that hold the polls. -/
def pollMarks (start : Nat) (past : List PollEntry) : List Nat :=
  start :: past.filterMap PollEntry.announcedAt

/-- The marks that put off the refresh. -/
def refreshMarks (start : Nat) (buttonSwitchNumbers : Finset UInt16) (past : List PollEntry) :
    List Nat :=
  start :: past.filterMap (PollEntry.activeAt buttonSwitchNumbers)

/-- This was chosen last, and since then only switches have changed. -/
def ChosenLast (past : List PollEntry) (nextBoard : UInt8) (refresh : Bool) : Prop :=
  ∃ earlier now later, past = earlier ++ .chosen now nextBoard refresh :: later ∧
    ∀ entry ∈ later, entry.isSwitched = true

theorem ChosenLast.switched {past entries : List PollEntry} {nextBoard : UInt8} {refresh : Bool}
    (h : ChosenLast past nextBoard refresh)
    (hswitched : ∀ entry ∈ entries, entry.isSwitched = true) :
    ChosenLast (past ++ entries) nextBoard refresh := by
  obtain ⟨earlier, now, later, rfl, hlater⟩ := h
  refine ⟨earlier, now, later ++ entries, by simp, ?_⟩
  intro entry hentry
  rcases List.mem_append.mp hentry with hearlier | hlast
  · exact hlater entry hearlier
  · exact hswitched entry hlast

/-- What the entries in front of an entry say about it. -/
def OnTime (P : Protocol) (start : Nat) (t : Timing) (past : List PollEntry) :
    PollEntry → Prop
  | .chosen now nextBoard refresh =>
    nextBoard =
        (if ∀ mark ∈ pollMarks start past, mark + RS485_COMM_SWITCH_POLL_STARTUP_HOLD_MS ≤ now
          then t.switchBoards.headD P.kNoBoard else P.kNoBoard) ∧
      (refresh = true ↔ nextBoard ≠ P.kNoBoard ∧ 0 < t.switchRefreshIdleMs ∧
        ∀ mark ∈ refreshMarks start t.buttonSwitchNumbers past,
          mark + t.switchRefreshIdleMs ≤ now)
  | .sent nextBoard refresh => ChosenLast past nextBoard refresh
  | _ => True

/-! ### The Timers Agree with the Log -/

open Transition

/-- At time `now` the timers `u` are what the log says; `t` is the setup. -/
structure Agree (start : Nat) (t : Timing) (past : List PollEntry) (now : Nat) (u : Timing) :
    Prop where
  boards : u.switchBoards = t.switchBoards
  idle : u.switchRefreshIdleMs = t.switchRefreshIdleMs
  buttons : u.buttonSwitchNumbers = t.buttonSwitchNumbers
  poll : IsDeadline RS485_COMM_SWITCH_POLL_STARTUP_HOLD_MS (pollMarks start past)
    u.nextSwitchPollAt
  refresh : 0 < t.switchRefreshIdleMs → ∃ deadline, u.nextSwitchRefreshAt = some deadline ∧
    IsDeadline t.switchRefreshIdleMs (refreshMarks start t.buttonSwitchNumbers past) deadline
  pollPast : ∀ mark ∈ pollMarks start past, mark ≤ now
  refreshPast : ∀ mark ∈ refreshMarks start t.buttonSwitchNumbers past, mark ≤ now

namespace Agree

variable {start now now' : Nat} {t u : Timing} {past : List PollEntry}

theorem later (h : Agree start t past now u) (hle : now ≤ now') : Agree start t past now' u :=
  { h with
    pollPast := fun mark hmark => (h.pollPast mark hmark).trans hle
    refreshPast := fun mark hmark => (h.refreshPast mark hmark).trans hle }

/-- An entry that is no mark. -/
theorem unmarked (h : Agree start t past now u) {entry : PollEntry}
    (hpoll : entry.announcedAt = none)
    (hrefresh : entry.activeAt t.buttonSwitchNumbers = none) :
    Agree start t (past ++ [entry]) now u := by
  have hpolls : pollMarks start (past ++ [entry]) = pollMarks start past := by
    simp [pollMarks, hpoll]
  have hrefreshes : refreshMarks start t.buttonSwitchNumbers (past ++ [entry]) =
      refreshMarks start t.buttonSwitchNumbers past := by
    simp [refreshMarks, hrefresh]
  refine { h with poll := ?_, refresh := ?_, pollPast := ?_, refreshPast := ?_ }
  · rw [hpolls]
    exact h.poll
  · rw [hrefreshes]
    exact h.refresh
  · rw [hpolls]
    exact h.pollPast
  · rw [hrefreshes]
    exact h.refreshPast

theorem announced (h : Agree start t past now u) :
    Agree start t (past ++ [.announced now]) now
      { u with nextSwitchPollAt := now + RS485_COMM_SWITCH_POLL_STARTUP_HOLD_MS } := by
  have hpolls : pollMarks start (past ++ [.announced now]) = pollMarks start past ++ [now] := by
    simp [pollMarks, PollEntry.announcedAt]
  have hrefreshes : refreshMarks start t.buttonSwitchNumbers (past ++ [.announced now]) =
      refreshMarks start t.buttonSwitchNumbers past := by
    simp [refreshMarks, PollEntry.activeAt]
  refine { h with poll := ?_, refresh := ?_, pollPast := ?_, refreshPast := ?_ }
  · rw [hpolls]
    exact .restart h.pollPast (by simp) (by simp)
  · rw [hrefreshes]
    exact h.refresh
  · rw [hpolls]
    intro mark hmark
    rcases List.mem_append.mp hmark with hearlier | hlast
    · exact h.pollPast mark hearlier
    · exact Nat.le_of_eq (List.mem_singleton.mp hlast)
  · rw [hrefreshes]
    exact h.refreshPast

/-- Marks that put off the refresh, if there are any. -/
theorem active (h : Agree start t past now u) {entries : List PollEntry}
    {refreshAt : Option Nat} {switches : List PPUCSwitchState}
    (hpoll : ∀ entry ∈ entries, entry.announcedAt = none)
    (hmarks : ∀ mark ∈ entries.filterMap (PollEntry.activeAt t.buttonSwitchNumbers), mark = now)
    (hrefreshAt : 0 < t.switchRefreshIdleMs → refreshAt =
      if entries.filterMap (PollEntry.activeAt t.buttonSwitchNumbers) = []
        then u.nextSwitchRefreshAt else some (now + t.switchRefreshIdleMs)) :
    Agree start t (past ++ entries) now
      { u with nextSwitchRefreshAt := refreshAt, switches := switches } := by
  have hpolls : pollMarks start (past ++ entries) = pollMarks start past := by
    have hnone : entries.filterMap PollEntry.announcedAt = [] := by
      simpa [List.filterMap_eq_nil_iff] using hpoll
    simp [pollMarks, hnone]
  have hrefreshes : refreshMarks start t.buttonSwitchNumbers (past ++ entries) =
      refreshMarks start t.buttonSwitchNumbers past ++
        entries.filterMap (PollEntry.activeAt t.buttonSwitchNumbers) := by
    simp [refreshMarks]
  refine { h with poll := ?_, refresh := ?_, pollPast := ?_, refreshPast := ?_ }
  · rw [hpolls]
    exact h.poll
  · -- activity restarts the refresh deadline
    intro hidle
    rw [hrefreshes]
    obtain ⟨deadline, hdeadline, hdue⟩ := h.refresh hidle
    by_cases hnone : entries.filterMap (PollEntry.activeAt t.buttonSwitchNumbers) = []
    · refine ⟨deadline, ?_, ?_⟩
      · simpa [hnone, hdeadline] using hrefreshAt hidle
      · rw [hnone, List.append_nil]
        exact hdue
    · refine ⟨now + t.switchRefreshIdleMs, ?_, .restart h.refreshPast hmarks hnone⟩
      simpa [hnone] using hrefreshAt hidle
  · rw [hpolls]
    exact h.pollPast
  · rw [hrefreshes]
    intro mark hmark
    rcases List.mem_append.mp hmark with hearlier | hlast
    · exact h.refreshPast mark hearlier
    · exact Nat.le_of_eq (hmarks mark hlast)

theorem refreshed (h : Agree start t past now u) {refreshAt : Option Nat}
    (hrefreshAt : 0 < t.switchRefreshIdleMs → refreshAt = some (now + t.switchRefreshIdleMs)) :
    Agree start t (past ++ [.refreshed now]) now
      { u with nextSwitchRefreshAt := refreshAt } := by
  apply h.active
  · simp [PollEntry.announcedAt]
  · simp [PollEntry.activeAt]
  · simpa [PollEntry.activeAt] using hrefreshAt

theorem told (h : Agree start t past now u) (events : List PPUCSwitchState) :
    Agree start t (past ++ events.map fun event => .switched now event.number) now
      (u.told now events) := by
  have hmem : ∀ mark, mark ∈ (events.map fun event => PollEntry.switched now event.number).filterMap
      (PollEntry.activeAt t.buttonSwitchNumbers) ↔
        mark = now ∧ ∃ event ∈ events, UInt16.ofNat event.number ∉ t.buttonSwitchNumbers := by
    intro mark
    simp only [List.filterMap_map, List.mem_filterMap, Function.comp_apply, PollEntry.activeAt,
      Option.ite_none_left_eq_some, Option.some.injEq]
    grind
  apply h.active
  · simp [PollEntry.announcedAt]
  · exact fun mark hmark => ((hmem mark).mp hmark).1
  · intro hidle
    have hactivity : ∀ event, u.IsActivity event ↔
        UInt16.ofNat event.number ∉ t.buttonSwitchNumbers := by
      intro event
      simp [Timing.IsActivity, h.idle, h.buttons, hidle]
    by_cases hsome : ∃ event ∈ events, UInt16.ofNat event.number ∉ t.buttonSwitchNumbers
    · have hmarks := List.ne_nil_of_mem ((hmem now).mpr ⟨rfl, hsome⟩)
      simp only [hactivity, if_pos hsome, if_neg hmarks, h.idle]
    · have hmarks := List.eq_nil_iff_forall_not_mem.mpr
        fun mark hmark => hsome ((hmem mark).mp hmark).2
      simp only [hactivity, if_neg hsome, hmarks, if_true]

end Agree

/-! ### Choices -/

namespace Comm

theorem polledBoard_eq (now : Nat) (c : Comm P) :
    c.polledBoard now =
      if c.nextSwitchPollAt ≤ now then c.switchBoards.headD P.kNoBoard else P.kNoBoard := by
  unfold polledBoard
  cases c.switchBoards with
  | nil => simp
  | cons board boards => rfl

theorem refreshDue_iff (now : Nat) (c : Comm P) :
    c.refreshDue now = true ↔
      c.polledBoard now ≠ P.kNoBoard ∧ 0 < c.switchRefreshIdleMs ∧
        ∃ deadline, c.nextSwitchRefreshAt = some deadline ∧ deadline ≤ now := by
  unfold refreshDue
  cases c.nextSwitchRefreshAt with
  | none => simp
  | some deadline => simp [and_assoc]

/-- A choice is explained by the marks. -/
theorem onTime_chosen {start now : Nat} {t : Timing} {past : List PollEntry} {c : Comm P}
    (h : Agree start t past now c.timing) :
    OnTime P start t past (.chosen now (c.polledBoard now) (c.refreshDue now)) := by
  have hboards : c.switchBoards = t.switchBoards := h.boards
  have hidle : c.switchRefreshIdleMs = t.switchRefreshIdleMs := h.idle
  have hpoll := h.poll now
  constructor
  · rw [polledBoard_eq, hboards]
    exact if_congr hpoll rfl rfl
  · rw [refreshDue_iff, hidle]
    refine and_congr_right fun _ => and_congr_right fun hpositive => ?_
    obtain ⟨deadline, hdeadline, hdue⟩ := h.refresh hpositive
    rw [show c.nextSwitchRefreshAt = some deadline from hdeadline]
    simpa using hdue now

/-- What `inspectQueue` chooses. -/
theorem inspectQueue_chooses (port : SerialPort W) (c : Comm P) (w : W) :
    ∃ snapshot, (c.inspectQueue port w).1 =
      .copyState (c.polledBoard (port.steadyMs w)) (c.refreshDue (port.steadyMs w)) snapshot := by
  unfold inspectQueue
  dsimp only
  split
  · next hdue => exact ⟨none, by rw [hdue]⟩
  · next hearly =>
    rw [Bool.not_eq_true] at hearly
    rw [hearly]
    split
    · exact ⟨some _, rfl⟩
    · exact ⟨none, rfl⟩

end Comm

/-- The choice that the next frame follows. -/
def BusPc.choice : BusPc P → Option (UInt8 × Bool)
  | .copyState nextBoard refresh _ | .writeFrame nextBoard refresh _ _ =>
    some (nextBoard, refresh)
  | _ => none

/-- Only `inspectQueue` chooses, and a choice lasts for two blocks. -/
theorem choice_busEffect {port : SerialPort W} {c c' : Comm P} {w : W} {pc pc' : BusPc P}
    (h : Comm.BusEffect port c w pc pc' c') (hother : pc ≠ .inspectQueue) {nextBoard : UInt8}
    {refresh : Bool} (hchoice : pc'.choice = some (nextBoard, refresh)) :
    ∃ snapshot, pc = .copyState nextBoard refresh snapshot := by
  have hafter : ∀ nextBoard refresh,
      (BusPc.afterFrame nextBoard refresh : BusPc P).choice = none := by
    intro nextBoard refresh
    unfold BusPc.afterFrame
    split <;> rfl
  cases h with
  | session hblock hcarry hhost =>
    cases pc' <;> simp_all [BusPc.carriesNothing, BusPc.choice]
  | snapshotPopped | noSnapshot => exact absurd rfl hother
  | @copied nextBoard' refresh' snapshot =>
    obtain ⟨rfl, rfl⟩ := by simpa [BusPc.choice] using hchoice
    exact ⟨snapshot, rfl⟩
  | consumed =>
    rw [hafter] at hchoice
    cases hchoice
  | eventPopped | written | dirtyRead | bitmapCopied | replyWritten | dirtyCleared =>
    simp [BusPc.choice] at hchoice

/-- Besides `inspectQueue`, a block that leaves the timers alone shows at most
    the frame it was chosen for. -/
theorem pollShown_of_quiet (port : SerialPort W) {pc : BusPc P} (pc' : BusPc P) (c : Comm P)
    (w w' : W) (hquiet : Comm.movesTimers pc = false) (hother : pc ≠ .inspectQueue) :
    c.pollShown port pc pc' w w' = [] ∨
      ∃ nextBoard refresh, c.pollShown port pc pc' w w' = [.sent nextBoard refresh] ∧
        pc.choice = some (nextBoard, refresh) ∧
        ∀ snapshot, pc ≠ .copyState nextBoard refresh snapshot := by
  match pc with
  | .inspectQueue => exact absurd rfl hother
  | .resyncMapping [] | .hop .. | .chainDone .. => simp [Comm.movesTimers] at hquiet
  | .writeFrame nextBoard refresh frame holdFrames =>
    by_cases hframe : (c.frameOf (.writeFrame nextBoard refresh frame holdFrames)).isSome = true
    · refine Or.inr ⟨nextBoard, refresh, ?_, rfl, by simp⟩
      simp [Comm.pollShown, hframe]
    · exact Or.inl (by simp [Comm.pollShown, hframe])
  | .loop | .popEvent _ | .sendEvent .. | .runtimeTest | .resyncTest | .resyncSetup
  | .resyncMapping (_ :: _) | .copyState .. | .consumeHoldover .. | .virtualCopy ..
  | .virtualWrite .. | .virtualClear .. | .stopped => exact Or.inl (by simp [Comm.pollShown])

/-! ### Runs -/

namespace Sys

variable {E : Env W} {s s' : Sys P W} {start : Nat} {t : Timing} {past : List PollEntry}

/-- The state is what the log says. -/
structure Timed (E : Env W) (start : Nat) (t : Timing) (past : List PollEntry) (s : Sys P W) :
    Prop where
  agree : Agree start t past (E.port.steadyMs s.world) s.comm.timing
  chosen : ∀ nextBoard refresh, s.bus.choice = some (nextBoard, refresh) →
    ChosenLast past nextBoard refresh

/-- A step leaves the state on time, and what it shows is explained. -/
def StaysTimed (E : Env W) (start : Nat) (t : Timing) (past : List PollEntry) (s : Sys P W)
    (l : Label) (s' : Sys P W) : Prop :=
  Timed E start t (past ++ pollEntries E s l s') s' ∧
    ∀ before entry after, pollEntries E s l s' = before ++ entry :: after →
      OnTime P start t (past ++ before) entry

/-- The application is told about switches, and nothing else is shown. -/
theorem staysTimed_told {l : Label} (h : Timed E start t past s)
    (hshown : pollEntries E s l s' =
      (s'.comm.switches.drop s.comm.switches.length).map fun event =>
        .switched (E.port.steadyMs s'.world) event.number)
    (htells : Comm.Tells E.port s.comm s.world s'.comm s'.world)
    (hchoice : ∀ choice, s'.bus.choice = some choice → s.bus.choice = some choice) :
    StaysTimed E start t past s l s' := by
  obtain ⟨events, htold⟩ := htells.timing
  have hswitches : s'.comm.switches = s.comm.switches ++ events := congrArg Timing.switches htold
  rw [hswitches, List.drop_left] at hshown
  have hagree := (h.agree.later htells.clock).told events
  rw [← htold] at hagree
  constructor
  · constructor
    · rw [hshown]
      exact hagree
    · intro nextBoard refresh hnext
      rw [hshown]
      exact (h.chosen nextBoard refresh (hchoice _ hnext)).switched
        (by simp [PollEntry.isSwitched])
  · intro before entry after hview
    have hmem : entry ∈ pollEntries E s l s' := by simp [hview]
    rw [hshown] at hmem
    obtain ⟨event, -, rfl⟩ := List.mem_map.mp hmem
    trivial

/-- One entry is shown, and no switch has changed. -/
theorem staysTimed_shown {entry : PollEntry}
    (hshown : s.comm.pollShown E.port s.bus s'.bus s.world s'.world = [entry])
    (hswitches : s'.comm.switches = s.comm.switches)
    (hagree : Agree start t (past ++ [entry]) (E.port.steadyMs s'.world) s'.comm.timing)
    (hchosen : ∀ nextBoard refresh, s'.bus.choice = some (nextBoard, refresh) →
      ChosenLast (past ++ [entry]) nextBoard refresh)
    (hontime : OnTime P start t past entry) : StaysTimed E start t past s .bus s' := by
  have hentries : pollEntries E s .bus s' = [entry] := by
    unfold pollEntries
    simp [hshown, hswitches]
  constructor
  · rw [hentries]
    exact ⟨hagree, hchosen⟩
  · intro before entry' after hview
    rw [hentries] at hview
    cases before with
    | nil =>
      obtain ⟨rfl, -⟩ := List.cons.inj hview
      simpa using hontime
    | cons first before => simp at hview

theorem staysTimed_bus (hsteady : E.port.Steady) (h : Timed E start t past s)
    (hstep : s.step E .bus = some s') : StaysTimed E start t past s .bus s' := by
  have heffect := (step_bus hstep).1
  unfold step at hstep
  obtain ⟨⟨pc', c', w'⟩, hblock, rfl⟩ := Option.map_eq_some_iff.mp hstep
  obtain ⟨c, pc, firmware, w⟩ := s
  dsimp only at hblock heffect h ⊢
  by_cases hquiet : Comm.movesTimers pc = false
  · have hidles := Comm.idles_busStep hsteady hquiet hblock
    have hagree : Agree start t past (E.port.steadyMs w') c'.timing := by
      rw [hidles.timing]
      exact h.agree.later hidles.clock
    have hswitches : c'.switches = c.switches := congrArg Timing.switches hidles.timing
    by_cases hinspect : pc = .inspectQueue
    · -- the choice follows the timers
      subst hinspect
      obtain ⟨snapshot, hchooses⟩ := Comm.inspectQueue_chooses E.port c w
      have hpc' : pc' = (c.inspectQueue E.port w).1 := by
        simp only [Comm.busStep, Option.some.injEq] at hblock
        exact (congrArg Prod.fst hblock).symm
      rw [hchooses] at hpc'
      subst hpc'
      refine staysTimed_shown rfl hswitches (hagree.unmarked rfl rfl) ?_
        (Comm.onTime_chosen h.agree)
      intro nextBoard refresh hchoice
      obtain ⟨rfl, rfl⟩ := by simpa [BusPc.choice] using hchoice
      exact ⟨past, _, [], rfl, by simp⟩
    · rcases pollShown_of_quiet E.port pc' c w w' hquiet hinspect with
        hnone | ⟨nextBoard, refresh, hsent, hchoice, hnot⟩
      · refine staysTimed_told h (by simp [pollEntries, hnone]) hidles.tells ?_
        rintro ⟨nextBoard, refresh⟩ hchoice
        obtain ⟨snapshot, rfl⟩ := choice_busEffect heffect hinspect hchoice
        rfl
      · -- the frame follows the choice, which is used up
        refine staysTimed_shown hsent hswitches (hagree.unmarked rfl rfl) ?_
          (h.chosen nextBoard refresh hchoice)
        intro nextBoard' refresh' hchoice'
        obtain ⟨snapshot, rfl⟩ := choice_busEffect heffect hinspect hchoice'
        obtain ⟨rfl, rfl⟩ := by simpa [BusPc.choice] using hchoice
        exact absurd rfl (hnot snapshot)
  · have hnochoice : ∀ choice, pc'.choice ≠ some choice := by
      rintro ⟨nextBoard, refresh⟩ hchoice
      have hother : pc ≠ .inspectQueue := by
        rintro rfl
        exact hquiet rfl
      obtain ⟨snapshot, rfl⟩ := choice_busEffect heffect hother hchoice
      exact hquiet rfl
    rw [Bool.not_eq_false] at hquiet
    rcases Comm.movesTimers_cases hquiet with
      rfl | ⟨hops, expected, reply, refresh, rfl⟩ | ⟨success, refresh, rfl⟩
    · -- a resync is completed
      obtain ⟨rfl, rfl, rfl⟩ := by simpa [Comm.busStep] using hblock
      have hclock := (hsteady.flushInput w).trans (hsteady.sleepUs 20000 (E.port.flushInput w))
      exact staysTimed_shown rfl rfl (h.agree.later hclock).announced
        (fun _ _ hchoice => absurd hchoice (hnochoice _)) trivial
    · have htells := Comm.tells_hop hsteady hops expected reply refresh c w
      obtain ⟨rfl, rfl, rfl⟩ := by simpa [Comm.busStep, Prod.ext_iff] using hblock
      exact staysTimed_told h (by simp [pollEntries, Comm.pollShown]) htells
        fun choice hchoice => absurd hchoice (hnochoice choice)
    · have htiming : (c.chainDone E.port success refresh w).timing = _ :=
        Comm.timing_chainDone success refresh c w
      obtain ⟨rfl, rfl, rfl⟩ := by simpa [Comm.busStep] using hblock
      cases refresh with
      | true =>
        refine staysTimed_shown rfl (congrArg Timing.switches htiming) ?_
          (fun _ _ hchoice => absurd hchoice (hnochoice _)) trivial
        rw [htiming]
        apply h.agree.refreshed
        intro hidle
        rw [← h.agree.idle] at hidle ⊢
        exact if_pos ⟨rfl, hidle⟩
      | false =>
        have hsame : (c.chainDone E.port success false w).timing = c.timing := by
          rw [htiming]
          simp [Comm.timing]
        exact staysTimed_told h (by simp [pollEntries, Comm.pollShown])
          (Comm.Idles.tells ⟨hsame, Nat.le_refl _⟩)
          fun choice hchoice => absurd hchoice (hnochoice choice)

/-- **Step lemma**: every step stays on time. -/
theorem staysTimed_step (hsteady : E.port.Steady) {l : Label} (h : Timed E start t past s)
    (hstep : s.step E l = some s') : StaysTimed E start t past s l s' := by
  match l with
  | .bus => exact staysTimed_bus hsteady h hstep
  | .queueEvent event =>
    obtain rfl := step_queueEvent hstep
    have heffect := Comm.queueEvent_effect E.port s.world event s.comm
    have hsame : (s.comm.queueEvent E.port s.world event).timing = s.comm.timing := by
      generalize s.comm.queueEvent E.port s.world event = c' at heffect ⊢
      cases heffect <;> rfl
    exact staysTimed_told h (by simp [pollEntries]) (Comm.Idles.tells ⟨hsame, Nat.le_refl _⟩)
      fun _ hchoice => hchoice
  | .setVirtualSwitchState number state =>
    obtain rfl := step_setVirtualSwitchState hstep
    exact staysTimed_told h (by simp [pollEntries])
      ⟨Comm.timing_setVirtualSwitchState (E.port.steadyMs s.world) number state s.comm,
        Nat.le_refl _⟩ fun _ hchoice => hchoice
  | .getNextSwitchState =>
    obtain rfl := Option.some.inj hstep
    -- the queue gets shorter, and nothing is shown
    have hshort : s.comm.getNextSwitchState.2.switches.length ≤ s.comm.switches.length := by
      unfold Comm.getNextSwitchState
      split
      · exact Nat.le_refl _
      · next hqueue => simp [hqueue]
    have hnone : pollEntries E s .getNextSwitchState
        { s with comm := s.comm.getNextSwitchState.2 } = [] := by
      simpa [pollEntries] using hshort
    have hkept : { s.comm.getNextSwitchState.2.timing with switches := s.comm.switches } =
        s.comm.timing := by
      unfold Comm.getNextSwitchState
      split <;> rfl
    refine ⟨?_, by simp [hnone]⟩
    rw [hnone, List.append_nil]
    refine ⟨?_, h.chosen⟩
    have hagree := h.agree
    rw [← hkept] at hagree
    exact { hagree with }
  | .updateBoardFirmware request =>
    simp only [step] at hstep
    split at hstep
    · obtain rfl := Option.some.inj hstep
      exact staysTimed_told h (by simp [pollEntries])
        (Comm.Idles.tells ⟨rfl, Nat.le_refl _⟩) fun _ hchoice => hchoice
    · simp at hstep
  | .firmware =>
    simp only [step] at hstep
    split at hstep
    · simp at hstep
    · next request stage hfirmware =>
      obtain rfl := Option.some.inj hstep
      have hidles := Comm.idles_firmwareStep hsteady E.admin request stage s.comm s.world
      exact staysTimed_told h (by simp [pollEntries]) hidles.tells fun _ hchoice => hchoice

theorem timed_start (E : Env W) (c : Comm P) (w : W) :
    Timed E (E.port.steadyMs w) c.timing [] (Sys.start E c w) where
  agree :=
    { boards := rfl
      idle := rfl
      buttons := rfl
      poll := isDeadline_start _ _
      refresh := by
        intro hidle
        refine ⟨_, if_neg (Nat.ne_of_gt hidle), ?_⟩
        exact isDeadline_start _ _
      pollPast := by simp [pollMarks, Sys.start]
      refreshPast := by simp [refreshMarks, Sys.start] }
  chosen := by simp [Sys.start, BusPc.choice]

/-- **The boards are polled on time**, in every run, whatever the boards answer
    and the threads of the host do.  The bus thread chooses the first board
    exactly if its start and every completed resync lie
    `RS485_COMM_SWITCH_POLL_STARTUP_HOLD_MS` back.  It chooses a refresh
    exactly if a board is polled, the refresh is enabled, and the start, every
    change of a switch that is no button and every end of a refresh lie
    `m_switchRefreshIdleMs` back.  Every frame that may poll carries the choice
    in front of it, and between both only switches of virtual boards change. -/
theorem polls_on_time (hsteady : E.port.Steady) (c : Comm P) (w : W) (ls : List Label) :
    ∀ before entry after, pollLog E (Sys.start E c w) ls = before ++ entry :: after →
      OnTime P (E.port.steadyMs w) c.timing before entry := by
  have hstep : ∀ past (s : Sys P W) l s', Timed E (E.port.steadyMs w) c.timing past s →
      step E s l = some s' → StaysTimed E (E.port.steadyMs w) c.timing past s l s' :=
    fun past s l s' h hstep => staysTimed_step hsteady h hstep
  have hexplained := observe_explained hstep (timed_start E c w) ls
  simpa [pollLog] using hexplained

end Sys

namespace Reference

/-- Only a sleep takes time. -/
theorem port_steady : port.Steady where
  write buffer w := by
    unfold port
    dsimp only
    split <;> exact Nat.le_refl _
  read n w := by
    unfold port
    dsimp only
    split <;> exact Nat.le_refl _
  inputWaiting w := Nat.le_refl _
  flushInput w := Nat.le_refl _
  sleepUs us w := Nat.le_add_right _ _

/-- A host that answers for board 1, with a refresh after 1500 ms. -/
def quietComm : Comm protocol :=
  { virtualComm with switchRefreshIdleMs := 1500, outputFrameIntervalMs := 400 }

/-- Switch 30 changes once. -/
def quietRun : List Label :=
  List.replicate 24 .bus ++ [.setVirtualSwitchState 30 1] ++ List.replicate 70 .bus

/-- What the run shows before the refresh. -/
def quietPast : List PollEntry :=
  [.chosen 0 255 false, .sent 255 false, .chosen 400 1 false, .sent 1 false, .switched 800 30,
    .chosen 800 1 false, .sent 1 false, .chosen 1200 1 false, .sent 1 false,
    .chosen 1600 1 false, .sent 1 false, .chosen 2000 1 false, .sent 1 false]

/-- The change at 800 ms puts off the refresh to the choice at 2400 ms. -/
theorem polls_on_time_quiet :
    OnTime protocol (env.port.steadyMs {}) quietComm.timing quietPast (.chosen 2400 1 true) := by
  have hlog : Sys.pollLog env (Sys.start env quietComm {}) quietRun =
      quietPast ++ .chosen 2400 1 true :: [.sent 1 true, .refreshed 2800] := by
    decide +kernel
  exact Sys.polls_on_time (E := env) port_steady quietComm {} quietRun quietPast _ _ hlog

end Reference

end LibPpuc
