import LibPpuc.Startup.Sequence

/-! # The Calls of an Attempt

  What can be said of the calls of `SendConfigEvent` at any point of a
  startup attempt, for every port and every behaviour of the boards:

  - each call is accounted for, by its own traffic or by what it left in the
    session;
  - as long as every call returned true, a frame is never sent right after
    a frame with the same tuple.

  The run is followed by the monitor of `LibPpuc.Startup.Sequence`.
-/

namespace LibPpuc

/-! ### Accounts -/

namespace ConfigCall

/-- Every frame of the call was taken by the port as a whole. -/
def WritesWhole (call : ConfigCall) : Prop :=
  ∀ buffer written, Traffic.wrote buffer written ∈ call.traffic → written = buffer.length

/-- The call ended with an ack of its tuple that says accepted. -/
def Acknowledged (P : Protocol) (call : ConfigCall) : Prop :=
  call.outcome = .acknowledged ∧
    ∃ earlier ack, call.traffic = earlier ++ [.ack ack] ∧ tupleOf ack = call.event.tuple ∧
      ackStatus ack = P.kConfigAckAccepted

/-- How a call shows, in its traffic or in the session `c` after it. -/
inductive Accounted {P : Protocol} (stale : UInt8 → Prop) (c : Comm P) : ConfigCall → Prop where
  | noPort {event : ConfigEvent} {skips : Finset UInt8} (hport : c.portOpen = false) :
    Accounted stale c ⟨event, skips, .noPort, []⟩
  | abortedEarly {event : ConfigEvent} {skips : Finset UInt8}
    (habort : c.shouldAbortConfigurationEarly = true) :
    Accounted stale c ⟨event, skips, .abortedEarly, []⟩
  | skipped {event : ConfigEvent} {skips : Finset UInt8} (hboard : event.boardId ∈ skips)
    (hstale : stale event.boardId) : Accounted stale c ⟨event, skips, .skipped, []⟩
  | writeFailed {event : ConfigEvent} {skips : Finset UInt8} {frame : List UInt8}
    {earlier : List Traffic} {written : Int} (htuple : tupleOf frame = event.tuple)
    (hearlier : Comm.WholeTraffic frame earlier) (hpart : written ≠ frame.length) :
    Accounted stale c ⟨event, skips, .writeFailed, earlier ++ [.wrote frame written]⟩
  | acknowledged {event : ConfigEvent} {skips : Finset UInt8} {frame ack : List UInt8}
    {earlier : List Traffic} (htuple : tupleOf frame = event.tuple)
    (hearlier : Comm.WholeTraffic frame earlier) (hack : tupleOf ack = event.tuple)
    (hstatus : ackStatus ack = P.kConfigAckAccepted) :
    Accounted stale c ⟨event, skips, .acknowledged, earlier ++ [.ack ack]⟩
  | unacknowledged {event : ConfigEvent} {skips : Finset UInt8} {frame : List UInt8}
    {traffic : List Traffic} (htuple : tupleOf frame = event.tuple)
    (htraffic : Comm.WholeTraffic frame traffic) (hfailed : c.hadConfigurationFailure = true) :
    Accounted stale c ⟨event, skips, .unacknowledged, traffic⟩

variable {P : Protocol} {stale : UInt8 → Prop} {c c' : Comm P} {call : ConfigCall}

/-- Raised flags stay raised, so accounts stay true. -/
theorem Accounted.sticky (h : call.Accounted stale c) (hsticky : Startup.Sticky c c') :
    call.Accounted stale c' := by
  cases h with
  | noPort hport => exact .noPort (hsticky.portOpen.trans hport)
  | abortedEarly habort => exact .abortedEarly (hsticky.aborted habort)
  | skipped hboard hstale => exact .skipped hboard hstale
  | writeFailed htuple hearlier hpart => exact .writeFailed htuple hearlier hpart
  | acknowledged htuple hearlier hack hstatus =>
    exact .acknowledged htuple hearlier hack hstatus
  | unacknowledged htuple htraffic hfailed =>
    exact .unacknowledged htuple htraffic (hsticky.failed hfailed)

/-- Whole traffic has whole writes. -/
theorem writesWhole_of_traffic {event : ConfigEvent} {skips : Finset UInt8}
    {outcome : SendOutcome} {frame : List UInt8} {traffic : List Traffic}
    (h : Comm.WholeTraffic frame traffic) :
    WritesWhole ⟨event, skips, outcome, traffic⟩ := by
  intro buffer written hmem
  rcases h _ hmem with hwrote | ⟨ack, hack⟩
  · obtain ⟨rfl, rfl⟩ := Traffic.wrote.inj hwrote
    rfl
  · exact nomatch hack

/-- A call wrote whole frames if and only if no write failed it. -/
theorem Accounted.writesWhole_iff (h : call.Accounted stale c) :
    call.WritesWhole ↔ call.outcome ≠ .writeFailed := by
  cases h with
  | noPort => simp [WritesWhole]
  | abortedEarly => simp [WritesWhole]
  | skipped => simp [WritesWhole]
  | writeFailed htuple hearlier hpart =>
    -- its last write was short
    refine ⟨fun hwhole => ?_, fun houtcome => absurd rfl houtcome⟩
    exact absurd (hwhole _ _ (List.mem_append_right _ (List.mem_singleton_self _))) hpart
  | @acknowledged event skips frame ack earlier htuple hearlier hack hstatus =>
    have hwhole : Comm.WholeTraffic frame (earlier ++ [.ack ack]) := by
      intro t ht
      rcases List.mem_append.mp ht with hin | hlast
      · exact hearlier t hin
      · exact Or.inr ⟨ack, List.mem_singleton.mp hlast⟩
    exact ⟨fun _ => by simp, fun _ => writesWhole_of_traffic hwhole⟩
  | unacknowledged htuple htraffic =>
    exact ⟨fun _ => by simp, fun _ => writesWhole_of_traffic htraffic⟩

/-- The account of a call that ended with the awaited ack: whole frames, all
    the same, and the ack last. -/
theorem Accounted.of_acknowledged (h : call.Accounted stale c)
    (hok : call.outcome = .acknowledged) :
    ∃ frame earlier ack, tupleOf frame = call.event.tuple ∧ Comm.WholeTraffic frame earlier ∧
      call.traffic = earlier ++ [.ack ack] ∧ tupleOf ack = call.event.tuple ∧
      ackStatus ack = P.kConfigAckAccepted := by
  cases h with
  | acknowledged htuple hearlier hack hstatus =>
    exact ⟨_, _, _, htuple, hearlier, rfl, hack, hstatus⟩
  | noPort | abortedEarly | skipped | writeFailed | unacknowledged => contradiction

/-- The account of a call that skipped its board. -/
theorem Accounted.of_skipped (h : call.Accounted stale c) (hskip : call.outcome = .skipped) :
    call.traffic = [] ∧ call.event.boardId ∈ call.skippedBoards ∧ stale call.event.boardId := by
  cases h with
  | skipped hboard hstale => exact ⟨rfl, hboard, hstale⟩
  | noPort | abortedEarly | acknowledged | writeFailed | unacknowledged => contradiction

theorem Accounted.isAcknowledged (h : call.Accounted stale c) (hok : call.outcome = .acknowledged) :
    call.Acknowledged P := by
  obtain ⟨frame, earlier, ack, -, -, htraffic, hack, hstatus⟩ := h.of_acknowledged hok
  exact ⟨hok, earlier, ack, htraffic, hack, hstatus⟩

end ConfigCall

/-! ### The Last Frame -/

/-- The tuple of the last frame that was sent, if every call returned true. -/
def lastSent (calls : List ConfigCall) : Option ConfigTuple :=
  calls.foldl (fun last call => if call.outcome = .skipped then last else some call.event.tuple)
    none

/-- Every call returned true. -/
def AllReturned (calls : List ConfigCall) : Prop :=
  ∀ call ∈ calls, call.outcome.returned = true

theorem lastSent_concat (calls : List ConfigCall) (call : ConfigCall) :
    lastSent (calls ++ [call]) =
      if call.outcome = .skipped then lastSent calls else some call.event.tuple := by
  unfold lastSent
  rw [List.foldl_append]
  rfl

/-- No frame follows a frame with the same tuple, as long as every call
    returned true. -/
def NeverRepeats (calls : List ConfigCall) : Prop :=
  ∀ before call after, calls = before ++ call :: after → AllReturned before →
    call.outcome = .acknowledged → lastSent before ≠ some call.event.tuple

/-- One more call. -/
theorem NeverRepeats.concat {calls : List ConfigCall} {call : ConfigCall}
    (h : NeverRepeats calls)
    (hcall : AllReturned calls → call.outcome = .acknowledged →
      lastSent calls ≠ some call.event.tuple) :
    NeverRepeats (calls ++ [call]) := by
  intro before call' after heq hbefore hok
  rcases List.eq_nil_or_concat after with rfl | ⟨after', last, rfl⟩
  · -- the new call itself
    obtain ⟨rfl, hlast⟩ := List.append_inj' heq rfl
    obtain rfl : call = call' := List.singleton_inj.mp hlast
    exact hcall hbefore hok
  · -- a call of the past
    have hsplit : calls ++ [call] = (before ++ call' :: after') ++ [last] := by
      rw [heq]
      simp
    obtain ⟨hcalls, -⟩ := List.append_inj' hsplit rfl
    exact h before call' after' hcalls hbefore hok

/-! ### Following a Run -/

/-- The attempt `a` is where the monitor takes it to be. -/
structure Tracks {P : Protocol} {W : Type} (H : EventHeader) (stale : UInt8 → Prop)
    (a : Startup P W) (st : SendState) : Prop where
  skipped : a.comm.skippedBoards = st.skipped
  accounted : ∀ call ∈ a.calls, call.Accounted stale a.comm
  last : AllReturned a.calls → st.last = lastSent a.calls
  neverRepeats : H.TopicsDistinct → NeverRepeats a.calls

namespace Startup

variable {P : Protocol} {W : Type} {H : EventHeader} {port : SerialPort W}
  {stale : UInt8 → Prop}

theorem tracks_start (c : Comm P) (w : W) :
    Tracks H stale (start c w) ⟨c.skippedBoards, none⟩ := by
  refine ⟨rfl, fun call hcall => absurd hcall (by simp [start]), fun _ => rfl, ?_⟩
  intro _ before call after heq
  exact absurd heq.symm (by simp [start])

/-- The account of a call that has just returned. -/
theorem send_accounted (hcarries : P.CarriesTuple) {event : ConfigEvent} {a : Startup P W}
    {r : Comm.SentConfig P W} (heffect : Comm.SendEffect port event a.comm r)
    (hstale : event.boardId ∈ a.comm.skippedBoards → stale event.boardId) :
    ConfigCall.Accounted stale r.comm ⟨event, a.comm.skippedBoards, r.outcome, r.traffic⟩ := by
  have htuple : tupleOf (a.comm.configFrame event) = event.tuple := hcarries _ _ _ event
  cases heffect with
  | noPort hport => exact .noPort hport
  | abortedEarly habort => exact .abortedEarly habort
  | skipped hready hboard =>
    rw [htuple] at hboard
    exact .skipped hboard (hstale hboard)
  | writeFailed hready hboard hearlier hpart => exact .writeFailed htuple hearlier hpart
  | acknowledged hready hboard hearlier hack hstatus =>
    exact .acknowledged htuple hearlier (hack.trans htuple) hstatus
  | unacknowledged hready hboard htraffic =>
    exact .unacknowledged htuple htraffic (Comm.noteConfigMiss_kept port _ _ _).2.1

/-- A call that returns true skips its board if and only if the board is in
    the skip set. -/
theorem send_skipped_iff (hcarries : P.CarriesTuple) {event : ConfigEvent} {a : Startup P W}
    {r : Comm.SentConfig P W} (heffect : Comm.SendEffect port event a.comm r)
    (hok : r.outcome.returned = true) :
    r.outcome = .skipped ↔ event.boardId ∈ a.comm.skippedBoards := by
  have htuple : tupleOf (a.comm.configFrame event) = event.tuple := hcarries _ _ _ event
  cases heffect with
  | skipped hready hboard =>
    rw [htuple] at hboard
    exact iff_of_true rfl hboard
  | acknowledged hready hboard =>
    rw [htuple] at hboard
    exact iff_of_false (by simp) hboard
  | noPort | abortedEarly | writeFailed | unacknowledged => contradiction

/-- **Step lemma**: a call on an admitted event. -/
theorem tracks_send (hcarries : P.CarriesTuple) {event : ConfigEvent} {a : Startup P W}
    {st : SendState} (h : Tracks H stale a st) (hfits : st.Fits H stale event) :
    Tracks H stale (a.send port event) (st.feed event) := by
  obtain ⟨r, heffect, heq⟩ := send_effect port event a
  obtain ⟨hsticky, hskipped⟩ := heffect.kept
  have hstale : event.boardId ∈ a.comm.skippedBoards → stale event.boardId := by
    intro hboard
    unfold SendState.Fits at hfits
    rwa [if_pos (h.skipped ▸ hboard)] at hfits
  rw [heq]
  refine ⟨?_, ?_, ?_, ?_⟩
  · -- the skip set
    unfold SendState.feed
    have hskips := hskipped.trans h.skipped
    split <;> exact hskips
  · -- the accounts
    intro call hcall
    rcases List.mem_append.mp hcall with hold | hnew
    · exact (h.accounted call hold).sticky hsticky
    · obtain rfl := List.mem_singleton.mp hnew
      exact send_accounted hcarries heffect hstale
  · -- the last frame
    intro hall
    have hbefore : AllReturned a.calls := fun call hcall => hall call (List.mem_append_left _ hcall)
    have hok : r.outcome.returned = true :=
      hall _ (List.mem_append_right _ (List.mem_singleton_self _))
    have hiff := send_skipped_iff hcarries heffect hok
    dsimp only
    rw [lastSent_concat, ← h.last hbefore]
    unfold SendState.feed
    by_cases hboard : event.boardId ∈ a.comm.skippedBoards
    · rw [if_pos (h.skipped ▸ hboard), if_pos (hiff.mpr hboard)]
    · rw [if_neg (h.skipped ▸ hboard), if_neg (mt hiff.mp hboard)]
  · -- the tuples
    intro hdistinct
    apply (h.neverRepeats hdistinct).concat
    intro hbefore hok
    dsimp only at hok ⊢
    have hboard : event.boardId ∉ st.skipped := by
      intro hin
      have hskip := (send_skipped_iff hcarries heffect (by rw [hok]; rfl)).mpr (h.skipped ▸ hin)
      exact nomatch hok.symm.trans hskip
    unfold SendState.Fits at hfits
    rw [if_neg hboard] at hfits
    rw [← h.last hbefore]
    exact hfits hdistinct

/-- The calls of one step. -/
theorem tracks_sends (hcarries : P.CarriesTuple) {events : List ConfigEvent} {a : Startup P W}
    {st : SendState} (h : Tracks H stale a st) (hfits : st.FitsAll H stale events) :
    Tracks H stale (a.sends port events) (events.foldl SendState.feed st) := by
  induction events generalizing a st with
  | nil => exact h
  | cons event events ih => exact ih (tracks_send hcarries h hfits.1) hfits.2

theorem tracks_quiet {x : StartupStep} {a b : Startup P W} {st : SendState}
    (h : Tracks H stale a st) (hquiet : Quiet x a b) :
    Tracks H stale b { st with skipped := skippedAfter st.skipped x } := by
  refine ⟨?_, ?_, ?_, ?_⟩
  · rw [hquiet.skipped, h.skipped]
  · intro call hcall
    rw [hquiet.calls] at hcall
    exact (h.accounted call hcall).sticky hquiet.sticky
  · rw [hquiet.calls]
    exact h.last
  · rw [hquiet.calls]
    exact h.neverRepeats

theorem feed_skipped (st : SendState) (event : ConfigEvent) :
    (st.feed event).skipped = st.skipped := by
  unfold SendState.feed
  split <;> rfl

/-- A step that sends leaves the skip set alone. -/
theorem skippedAfter_of_events {x : StartupStep} {events : List ConfigEvent}
    (h : events ∈ eventsOf H x) (hsends : events ≠ []) (skipped : Finset UInt8) :
    skippedAfter skipped x = skipped := by
  cases x with
  | installMappings => exact absurd (List.mem_singleton.mp h) hsends
  | _ => rfl

theorem feeds_skipped (events : List ConfigEvent) (st : SendState) :
    (events.foldl SendState.feed st).skipped = st.skipped := by
  induction events generalizing st with
  | nil => rfl
  | cons event events ih => exact (ih _).trans (feed_skipped st event)

/-- **Step lemma**: the monitor matches every step of an attempt. -/
theorem tracks_step (hcarries : P.CarriesTuple) (a : Startup P W) (st : SendState)
    (x : StartupStep) (a' : Startup P W) (h : Tracks H stale a st)
    (hadmits : (sendMonitor H stale).admits st x) (hstep : a.step H port x = some a') :
    ∃ st', (sendMonitor H stale).next st x st' ∧ Tracks H stale a' st' := by
  obtain ⟨b, events, hquiet, hmem, rfl⟩ := step_effect hstep
  refine ⟨_, ⟨events, hmem, rfl⟩, ?_⟩
  have hb := tracks_quiet h hquiet
  by_cases hsends : events = []
  · subst hsends
    exact hb
  · -- the step sends, so it is no setter
    have hsame := skippedAfter_of_events hmem hsends st.skipped
    rw [hsame] at hb ⊢
    rw [← feeds_skipped events st]
    exact tracks_sends hcarries hb (hadmits events hmem)

/-- **Run lemma**: at any point of a startup attempt. -/
theorem startup_tracks (hcarries : P.CarriesTuple) {cpp : YamlCpp} {s : StartupSettings}
    {config : Yaml} {c : Comm P} {w : W} {a : Startup P W} {done rest : List StartupStep}
    (hsteps : (Pass.startupPass P H cpp s config).emitted = done ++ rest)
    (hrun : Transition.exec (step H port) (start c w) done = some a) :
    ∃ st, Tracks H (Pass.StaleSkip cpp s config c.skippedBoards) a st := by
  have hpass := Pass.triple_startupPass P H cpp s config c.skippedBoards
    ⟨c.skippedBoards, none⟩ ⟨rfl, fun t h => nomatch h⟩
  unfold Emitter.Meets at hpass
  rw [hsteps] at hpass
  obtain ⟨st, htracks, -⟩ := hpass.exec (tracks_step hcarries) (tracks_start c w) hrun
  exact ⟨st, htracks⟩

end Startup

end LibPpuc
