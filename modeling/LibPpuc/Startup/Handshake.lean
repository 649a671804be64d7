import LibPpuc.Framework.OrderedBus
import LibPpuc.Startup.Calls
import LibPpuc.Startup.Reference

/-! # The Config Handshake

  An ack carries neither the sequence number nor the value of the frame it
  answers, and a retried frame may be answered more than once.  So the ack
  that ends a call of `SendConfigEvent` might be a late answer to an earlier
  frame with the same tuple.

  It never is, on a bus that keeps the order: the ack answers a request
  later than the one that ended the call before, and since then only frames
  of that call and of this one were sent.  Their tuples differ, as the
  startup pass never sends two events in a row with the same tuple.
-/

namespace LibPpuc

open OrderedBus

/-! ### Traffic on the Bus -/

/-- A frame or ack, as a message on a bus. -/
def Traffic.seen : Traffic → Seen (List UInt8) (List UInt8)
  | .wrote buffer _ => .sent buffer
  | .ack frame => .got frame

/-- All that the host saw during some calls. -/
def seenBy (calls : List ConfigCall) : List (Seen (List UInt8) (List UInt8)) :=
  calls.flatMap fun call => call.traffic.map Traffic.seen

/-- The frames written during some calls. -/
def framesOf (calls : List ConfigCall) : List (List UInt8) := sentIn (seenBy calls)

/-- An ack echoes board, topic, index and key. -/
def EchoesTuple (request reply : List UInt8) : Prop := tupleOf reply = tupleOf request

instance (request reply : List UInt8) : Decidable (EchoesTuple request reply) :=
  inferInstanceAs (Decidable (_ = _))

/-- The host's traffic is that of a lossy bus that keeps the order, with
    boards that answer every frame they get, and nothing in flight before. -/
def OnBus (calls : List ConfigCall) (bus : Bus (List UInt8) (List UInt8)) : Prop :=
  Explains EchoesTuple Bus.empty (seenBy calls) bus

/-- One of the frames of `call`, which follows the calls `before`, was
    answered with an ack that says accepted. -/
def AcceptedOwnFrame (P : Protocol) (before : List ConfigCall) (call : ConfigCall)
    (bus : Bus (List UInt8) (List UInt8)) : Prop :=
  ∃ n ack, (framesOf before).length ≤ n ∧ n < (framesOf (before ++ [call])).length ∧
    (n, ack) ∈ bus.answered ∧ ackStatus ack = P.kConfigAckAccepted

theorem seenBy_append (calls calls' : List ConfigCall) :
    seenBy (calls ++ calls') = seenBy calls ++ seenBy calls' := List.flatMap_append

theorem seenBy_singleton (call : ConfigCall) :
    seenBy [call] = call.traffic.map Traffic.seen := by
  simp [seenBy]

/-- Whole traffic sends one frame, again and again. -/
theorem sentIn_whole {frame : List UInt8} {traffic : List Traffic}
    (h : Comm.WholeTraffic frame traffic) :
    ∀ buffer ∈ sentIn (traffic.map Traffic.seen), buffer = frame := by
  intro buffer hbuffer
  obtain ⟨seen, hseen, hsent⟩ := List.mem_filterMap.mp hbuffer
  obtain ⟨t, ht, rfl⟩ := List.mem_map.mp hseen
  rcases h t ht with rfl | ⟨ack, rfl⟩
  · exact (Option.some.inj hsent).symm
  · exact nomatch hsent

/-! ### Between the Calls -/

/-- After calls that all returned true: a frame of the last call that sent
    something was answered, and all frames since have that call's tuple. -/
def Settled (calls : List ConfigCall) (bus : Bus (List UInt8) (List UInt8)) : Prop :=
  match lastSent calls with
  | none => bus.sent = []
  | some tuple => ∃ answer ∈ bus.delivered, ∀ n frame, answer.1 ≤ n →
      bus.sent[n]? = some frame → tupleOf frame = tuple

/-- **Step lemma**: a call that was acknowledged, after calls that all
    returned true, by an ack for one of its own frames. -/
theorem acknowledged_settles {P : Protocol} {before : List ConfigCall} {call : ConfigCall}
    {stale : UInt8 → Prop} {c : Comm P} {bus bus' : Bus (List UInt8) (List UInt8)}
    (hordered : Ordered EchoesTuple bus) (hsettled : Settled before bus)
    (haccounted : call.Accounted stale c) (hok : call.outcome = .acknowledged)
    (hfresh : lastSent before ≠ some call.event.tuple)
    (hbus : Explains EchoesTuple bus (seenBy [call]) bus') :
    Settled (before ++ [call]) bus' ∧
      ∃ n ack, bus.sent.length ≤ n ∧ n < bus'.sent.length ∧ (n, ack) ∈ bus'.answered ∧
        ackStatus ack = P.kConfigAckAccepted := by
  obtain ⟨frame, earlier, ack, htuple, hearlier, htraffic, hack, hstatus⟩ :=
    haccounted.of_acknowledged hok
  rw [seenBy_singleton, htraffic, List.map_append] at hbus
  have hsent := hbus.sent
  obtain ⟨n, request, hdelivered, hanswered, hnewer, hrequest, hechoes⟩ :=
    read_new_reply hordered hbus
  have hown : ∀ m buffer, bus.sent.length ≤ m → bus'.sent[m]? = some buffer →
      tupleOf buffer = call.event.tuple := by
    intro m buffer hm hbuffer
    rw [hsent, sentIn_append, List.getElem?_append_right hm] at hbuffer
    have hmem := List.mem_of_getElem? hbuffer
    rcases List.mem_append.mp hmem with hframe | hnone
    · rw [sentIn_whole hearlier buffer hframe]
      exact htuple
    · contradiction
  -- an older request with this tuple would be one of the call before
  have hlate : bus.sent.length ≤ n := by
    by_contra hold
    have hlt : n < bus.sent.length := by omega
    rw [hsent, List.getElem?_append_left hlt] at hrequest
    unfold Settled at hsettled
    split at hsettled
    · next hnone =>
      rw [hsettled] at hlt
      exact absurd hlt (Nat.not_lt_zero n)
    · next tuple hlast =>
      obtain ⟨answer, hanswer, hsince⟩ := hsettled
      have hbefore := hsince n request (hnewer answer hanswer).le hrequest
      have hsame : tuple = call.event.tuple := by
        rw [← hbefore, ← hack]
        exact Eq.symm hechoes
      exact hfresh (hlast.trans (congrArg some hsame))
  have hlt : n < bus'.sent.length := (List.getElem?_eq_some_iff.mp hrequest).1
  refine ⟨?_, n, ack, hlate, hlt, hanswered, hstatus⟩
  unfold Settled
  rw [lastSent_concat, if_neg (by simp [hok])]
  refine ⟨(n, ack), hdelivered, ?_⟩
  intro m buffer hm hbuffer
  exact hown m buffer (hlate.trans hm) hbuffer

/-- A call that skips its board changes nothing. -/
theorem skipped_settles {P : Protocol} {before : List ConfigCall} {call : ConfigCall}
    {stale : UInt8 → Prop} {c : Comm P} {bus bus' : Bus (List UInt8) (List UInt8)}
    (hsettled : Settled before bus) (haccounted : call.Accounted stale c)
    (hok : call.outcome = .skipped)
    (hbus : Explains EchoesTuple bus (seenBy [call]) bus') :
    Settled (before ++ [call]) bus' := by
  obtain ⟨htraffic, -, -⟩ := haccounted.of_skipped hok
  have hnothing : seenBy [call] = [] := by
    rw [seenBy_singleton, htraffic]
    rfl
  rw [hnothing] at hbus
  have hsent : bus'.sent = bus.sent := hbus.sent.trans (List.append_nil _)
  unfold Settled at hsettled ⊢
  rw [lastSent_concat, if_pos hok, hsent]
  obtain ⟨run, hrun, -⟩ := hbus
  obtain ⟨-, ⟨more, hdelivered, -⟩, -⟩ := run_histories hrun
  split
  · next hnone => rwa [hnone] at hsettled
  · next tuple hlast =>
    rw [hlast] at hsettled
    obtain ⟨answer, hanswer, hsince⟩ := hsettled
    refine ⟨answer, ?_, hsince⟩
    rw [hdelivered]
    exact List.mem_append_left _ hanswer

/-- The two ways to return true. -/
theorem SendOutcome.returned_cases {outcome : SendOutcome} (h : outcome.returned = true) :
    outcome = .acknowledged ∨ outcome = .skipped := by
  cases outcome with
  | acknowledged => exact Or.inl rfl
  | skipped => exact Or.inr rfl
  | noPort | abortedEarly | writeFailed | unacknowledged => contradiction

/-- **Run lemma**: calls that all returned true leave the bus settled. -/
theorem calls_settled {P : Protocol} {stale : UInt8 → Prop} {c : Comm P}
    {calls : List ConfigCall} {bus : Bus (List UInt8) (List UInt8)}
    (haccounted : ∀ call ∈ calls, call.Accounted stale c) (hrepeats : NeverRepeats calls)
    (hreturned : AllReturned calls) (hbus : OnBus calls bus) : Settled calls bus := by
  induction calls using List.reverseRecOn generalizing bus with
  | nil => exact hbus.sent
  | append_singleton calls call ih =>
    unfold OnBus at hbus
    rw [seenBy_append] at hbus
    obtain ⟨bus', hearlier, hlast⟩ := hbus.split
    have hcalls : ∀ call' ∈ calls, call' ∈ calls ++ [call] :=
      fun call' h => List.mem_append_left _ h
    have hcall : call ∈ calls ++ [call] := List.mem_append_right _ (List.mem_singleton_self _)
    have hbefore : AllReturned calls := fun call' h => hreturned call' (hcalls call' h)
    have hearly : NeverRepeats calls := by
      intro before call' after heq
      exact hrepeats before call' (after ++ [call]) (by simp [heq])
    have hsettled := ih (fun call' h => haccounted call' (hcalls call' h)) hearly hbefore hearlier
    rcases SendOutcome.returned_cases (hreturned call hcall) with hok | hok
    · have hfresh := hrepeats calls call [] rfl hbefore hok
      have hordered := hearlier.ordered (ordered_empty _)
      exact (acknowledged_settles hordered hsettled (haccounted call hcall) hok hfresh hlast).1
    · exact skipped_settles hsettled (haccounted call hcall) hok hlast

/-! ### The Handshake -/

/-- **Config handshake**: at any point of the startup attempt for any document,
    on a lossy bus that keeps the order.  A call for a board that is not
    skipped, after calls that all returned true, returns true only if one of
    this call's own frames was accepted. -/
theorem config_handshake {P : Protocol} {W : Type} {H : EventHeader} {port : SerialPort W}
    {cpp : YamlCpp} {s : StartupSettings} {config : Yaml} {c : Comm P} {w : W} {a : Startup P W}
    {done rest : List StartupStep} {bus : Bus (List UInt8) (List UInt8)}
    (hcarries : P.CarriesTuple) (htopics : H.TopicsDistinct)
    (hsteps : (Pass.startupPass P H cpp s config).emitted = done ++ rest)
    (hrun : Transition.exec (Startup.step H port) (Startup.start c w) done = some a)
    (hbus : OnBus a.calls bus) {before after : List ConfigCall} {call : ConfigCall}
    (hcalls : a.calls = before ++ call :: after) (hbefore : AllReturned before)
    (hboard : call.event.boardId ∉ call.skippedBoards)
    (hreturned : call.outcome.returned = true) : AcceptedOwnFrame P before call bus := by
  obtain ⟨st, htracks⟩ := Startup.startup_tracks hcarries hsteps hrun
  have hcall : call ∈ a.calls := by simp [hcalls]
  have haccounted := htracks.accounted call hcall
  -- the call was acknowledged, as its board is not skipped
  have hok : call.outcome = .acknowledged := by
    rcases SendOutcome.returned_cases hreturned with hok | hskip
    · exact hok
    · obtain ⟨-, hin, -⟩ := haccounted.of_skipped hskip
      contradiction
  have hrepeats := htracks.neverRepeats htopics
  have hfresh := hrepeats before call after hcalls hbefore hok
  -- cut the traffic before and after the call
  unfold OnBus at hbus
  have hlist : a.calls = before ++ ([call] ++ after) := hcalls
  rw [hlist, seenBy_append, seenBy_append] at hbus
  obtain ⟨bus₁, hbus₁, htail⟩ := hbus.split
  obtain ⟨bus₂, hbus₂, hbus₃⟩ := htail.split
  have hsettled : Settled before bus₁ := by
    refine calls_settled (fun call' h => htracks.accounted call' ?_) ?_ hbefore hbus₁
    · rw [hcalls]
      exact List.mem_append_left _ h
    · intro before' call' after' heq
      exact hrepeats before' call' (after' ++ call :: after) (by simp [hcalls, heq])
  obtain ⟨-, n, ack, hlow, hhigh, hanswered, hstatus⟩ :=
    acknowledged_settles (hbus₁.ordered (ordered_empty _)) hsettled haccounted hok hfresh hbus₂
  have hsent₁ : bus₁.sent = framesOf before := hbus₁.sent
  have hsent₂ : bus₂.sent = framesOf (before ++ [call]) := by
    unfold framesOf
    rw [seenBy_append, sentIn_append, hbus₂.sent, hsent₁]
    rfl
  exact ⟨n, ack, hsent₁ ▸ hlow, hsent₂ ▸ hhigh, hbus₃.answered hanswered, hstatus⟩

namespace Reference

/-! ### A Late Duplicate Ack -/

/-- An event for board 1, and its frame in epoch 1. -/
def eventOf (topic key : UInt8) (value : UInt32) : ConfigEvent := ⟨1, topic, 0, key, value⟩

def frameOf (sequence : UInt8) (event : ConfigEvent) : List UInt8 :=
  protocol.buildConfigFrame 0xFF sequence 1 1 event.topic event.index event.key event.value

def platformEvent : ConfigEvent :=
  eventOf header.CONFIG_TOPIC_PLATFORM header.CONFIG_TOPIC_PLATFORM 7

def coinDoorEvent : ConfigEvent :=
  eventOf header.CONFIG_TOPIC_COIN_DOOR_CLOSED_SWITCH header.CONFIG_TOPIC_NUMBER 5

def gameOnEvent : ConfigEvent :=
  eventOf header.CONFIG_TOPIC_GAME_ON_SOLENOID header.CONFIG_TOPIC_NUMBER 6

/-- The ack of an event. -/
def ackFor (event : ConfigEvent) : List UInt8 := ackOf event.topic event.index event.key

/-- The answer to the first frame comes after the retry; the one to the retry
    comes during the second call. -/
def lateAcks : Script where
  rounds := 9
  replies :=
    [[], ackFor platformEvent ++ ackFor platformEvent, ackFor coinDoorEvent, ackFor gameOnEvent]

/-- The calls of an attempt in that world. -/
def lateAckCalls : List ConfigCall :=
  [⟨platformEvent, ∅, .acknowledged,
      [.wrote (frameOf 0 platformEvent) 15, .wrote (frameOf 0 platformEvent) 15,
        .ack (ackFor platformEvent)]⟩,
    ⟨coinDoorEvent, ∅, .acknowledged,
      [.wrote (frameOf 1 coinDoorEvent) 15, .ack (ackFor platformEvent),
        .ack (ackFor coinDoorEvent)]⟩,
    ⟨gameOnEvent, ∅, .acknowledged,
      [.wrote (frameOf 2 gameOnEvent) 15, .ack (ackFor gameOnEvent)]⟩]

/-- What happened on the bus. -/
def lateAckRun : List (Act (List UInt8) (List UInt8)) :=
  [.send (frameOf 0 platformEvent), .send (frameOf 0 platformEvent),
    .answer (ackFor platformEvent), .deliver, .answer (ackFor platformEvent),
    .send (frameOf 1 coinDoorEvent), .answer (ackFor coinDoorEvent), .deliver, .deliver,
    .send (frameOf 2 gameOnEvent), .answer (ackFor gameOnEvent), .deliver]

theorem header_topics : header.TopicsDistinct where
  coinDoor := by decide
  gameOn := by simp [EventHeader.openingTopics, header]

/-- The second call returns true because of its own frame. -/
theorem late_ack_not_taken :
    ∃ (a : Startup protocol Script) (bus : Bus (List UInt8) (List UInt8)) (call : ConfigCall),
      OnBus a.calls bus ∧ call ∈ a.calls ∧ call.event = coinDoorEvent ∧
        AcceptedOwnFrame protocol (lateAckCalls.take 1) call bus := by
  have hcalls : (startupAttempt header yamlCpp settings (document []) port comm lateAcks).calls =
      some lateAckCalls := by decide +kernel
  obtain ⟨a, hready, hcalls⟩ := AttemptEnd.ready_of_calls hcalls
  obtain ⟨hrun, -⟩ := startupAttempt_ready.mp hready
  have hlog : OnBus lateAckCalls
      ((Transition.exec (step EchoesTuple) Bus.empty lateAckRun).getD Bus.empty) :=
    ⟨lateAckRun, by decide +kernel, by decide +kernel⟩
  rw [← hcalls] at hlog
  have hsplit : a.calls = lateAckCalls.take 1 ++
      ⟨coinDoorEvent, ∅, .acknowledged, [.wrote (frameOf 1 coinDoorEvent) 15,
        .ack (ackFor platformEvent), .ack (ackFor coinDoorEvent)]⟩ :: lateAckCalls.drop 2 := hcalls
  have hbefore : AllReturned (lateAckCalls.take 1) := by
    intro call hcall
    obtain rfl := List.mem_singleton.mp hcall
    rfl
  refine ⟨a, _, _, hlog, hsplit ▸ List.mem_append_right _ List.mem_cons_self, rfl, ?_⟩
  exact config_handshake protocol_carriesTuple header_topics (List.append_nil _).symm hrun hlog
    hsplit hbefore (by simp) rfl

end Reference

end LibPpuc
