import LibPpuc.Startup.Attempt

/-! # The Sequence of the Config Events

  Two facts about the events of a startup attempt, for every document:

  - no event is sent for a board that `SendConfigEvent` skips, except for
    boards that are skipped by mistake: they are configured and not skipped
    now, but still in the skip set of an earlier session;
  - the events that are not skipped follow each other with different tuples.

  Both are read off the startup pass with one monitor.  Its state is the
  skip set of `RS485Comm` and the tuple of the last frame.  The second fact
  needs little of the topics: a group of events starts at index 0 and ends
  at another index, only the events of the board loop all have index 0.
-/

namespace LibPpuc

/-- The topics of the first event of a group after the board loop, and those
    of the board loop before its last one. -/
def EventHeader.openingTopics (H : EventHeader) : List UInt8 :=
  [H.CONFIG_TOPIC_PLATFORM, H.CONFIG_TOPIC_COIN_DOOR_CLOSED_SWITCH, H.CONFIG_TOPIC_SWITCH_MATRIX,
    H.CONFIG_TOPIC_SWITCHES, H.CONFIG_TOPIC_PWM, H.CONFIG_TOPIC_LED_STRING,
    H.CONFIG_TOPIC_SWITCH_CHAIN]

/-- The topics that have to differ. -/
structure EventHeader.TopicsDistinct (H : EventHeader) : Prop where
  coinDoor : H.CONFIG_TOPIC_PLATFORM ≠ H.CONFIG_TOPIC_COIN_DOOR_CLOSED_SWITCH
  gameOn : ∀ topic ∈ H.openingTopics, topic ≠ H.CONFIG_TOPIC_GAME_ON_SOLENOID

/-! ### The Monitor -/

/-- The skip set of `RS485Comm`, and the tuple of the last frame. -/
structure SendState where
  skipped : Finset UInt8
  last : Option ConfigTuple

/-- The state after an event. -/
def SendState.feed (st : SendState) (event : ConfigEvent) : SendState :=
  if event.boardId ∈ st.skipped then st else { st with last := some event.tuple }

/-- An event may be sent: its board is skipped by mistake, or it differs from
    the last frame. -/
def SendState.Fits (H : EventHeader) (stale : UInt8 → Prop) (st : SendState)
    (event : ConfigEvent) : Prop :=
  if event.boardId ∈ st.skipped then stale event.boardId
  else H.TopicsDistinct → st.last ≠ some event.tuple

/-- All events may be sent, one after the other. -/
def SendState.FitsAll (H : EventHeader) (stale : UInt8 → Prop) :
    SendState → List ConfigEvent → Prop
  | _, [] => True
  | st, event :: events =>
    st.Fits H stale event ∧ SendState.FitsAll H stale (st.feed event) events

/-- The monitor of the startup pass. -/
def sendMonitor (H : EventHeader) (stale : UInt8 → Prop) : Monitor StartupStep SendState where
  admits st x := ∀ events ∈ Startup.eventsOf H x, st.FitsAll H stale events
  next st x st' := ∃ events ∈ Startup.eventsOf H x,
    st' = { events.foldl SendState.feed st with
      skipped := Startup.skippedAfter st.skipped x }

/-! ### Between the Events -/

/-- The last frame has index `i`, and no board of `S` may be sent to. -/
structure SentAt (S : Finset UInt8) (i : UInt8) (st : SendState) : Prop where
  skipped : st.skipped = S
  last : ∃ t, st.last = some t ∧ t.index = i

/-- A group has begun or ended at an index other than 0. -/
structure Inside (S : Finset UInt8) (st : SendState) : Prop where
  skipped : st.skipped = S
  last : ∃ t, st.last = some t ∧ t.index ≠ 0

/-- Between two groups: nothing was sent, or a group or the board loop has
    ended. -/
structure Between (H : EventHeader) (S : Finset UInt8) (st : SendState) : Prop where
  skipped : st.skipped = S
  last : ∀ t, st.last = some t → t.index ≠ 0 ∨ t.topic = H.CONFIG_TOPIC_GAME_ON_SOLENOID

/-- During the board loop. -/
structure InBoards (H : EventHeader) (S : Finset UInt8) (st : SendState) : Prop where
  skipped : st.skipped = S
  last : ∀ t, st.last = some t → t.topic = H.CONFIG_TOPIC_GAME_ON_SOLENOID

theorem SentAt.inside {S : Finset UInt8} {i : UInt8} {st : SendState} (h : SentAt S i st)
    (hi : i ≠ 0) : Inside S st := by
  obtain ⟨t, hlast, hindex⟩ := h.last
  exact ⟨h.skipped, t, hlast, hindex ▸ hi⟩

theorem Inside.between {H : EventHeader} {S : Finset UInt8} {st : SendState} (h : Inside S st) :
    Between H S st := by
  obtain ⟨t, hlast, hindex⟩ := h.last
  refine ⟨h.skipped, ?_⟩
  intro t' hlast'
  obtain rfl : t = t' := Option.some.inj (hlast.symm.trans hlast')
  exact Or.inl hindex

namespace Pass

open Emitter

section walk

variable {P : Protocol} {H : EventHeader} {cpp : YamlCpp} {s : StartupSettings}
  {stale : UInt8 → Prop} {S : Finset UInt8}

/-- Steps other than events and setters. -/
theorem triple_emit_quiet {x : StartupStep} {pre : SendState → Prop}
    (hevents : Startup.eventsOf H x = [[]])
    (hskipped : ∀ skipped, Startup.skippedAfter skipped x = skipped) :
    Triple (sendMonitor H stale) pre (emit x : Pass Unit) fun _ => pre := by
  apply Triple.emit
  intro st hst
  constructor
  · intro events hmem
    rw [hevents] at hmem
    obtain rfl := List.mem_singleton.mp hmem
    exact trivial
  · intro st' hnext
    obtain ⟨events, hmem, rfl⟩ := hnext
    rw [hevents] at hmem
    obtain rfl := List.mem_singleton.mp hmem
    rw [hskipped]
    exact hst

/-- An event for a board that is not skipped. -/
theorem triple_send {board topic index key : UInt8} {value : UInt32} {pre : SendState → Prop}
    (hskipped : ∀ st, pre st → st.skipped = S) (hboard : board ∉ S)
    (hdiffers : ∀ st, pre st → H.TopicsDistinct → ∀ t, st.last = some t →
      t.index ≠ index ∨ t.topic ≠ topic) :
    Triple (sendMonitor H stale) pre (send board topic index key value)
      fun _ st => st.skipped = S ∧ st.last = some ⟨board, topic, index, key⟩ := by
  apply Triple.emit
  intro st hst
  have hsent : board ∉ st.skipped := (hskipped st hst).symm ▸ hboard
  constructor
  · intro events hmem
    obtain rfl := List.mem_singleton.mp hmem
    refine ⟨?_, trivial⟩
    show if board ∈ st.skipped then _ else _
    rw [if_neg hsent]
    intro hdistinct heq
    rcases hdiffers st hst hdistinct _ heq with hindex | htopic
    · exact hindex rfl
    · exact htopic rfl
  · intro st' hnext
    obtain ⟨events, hmem, rfl⟩ := hnext
    obtain rfl := List.mem_singleton.mp hmem
    refine ⟨hskipped st hst, ?_⟩
    show (if board ∈ st.skipped then st else _).last = _
    rw [if_neg hsent]
    rfl

theorem triple_send_next {board topic i key : UInt8} {value : UInt32} (index : UInt8)
    (hboard : board ∉ S) (hindex : i ≠ index) :
    Triple (sendMonitor H stale) (SentAt S i) (send board topic index key value)
      fun _ => SentAt S index := by
  refine (triple_send (fun st hst => hst.skipped) hboard ?_).mono (fun _ h => h) ?_
  · intro st hst _ t hlast
    obtain ⟨t', hlast', hi⟩ := hst.last
    obtain rfl : t' = t := Option.some.inj (hlast'.symm.trans hlast)
    exact Or.inl (hi ▸ hindex)
  · intro _ st hpost
    obtain ⟨hskipped, hlast⟩ := hpost
    exact ⟨hskipped, _, hlast, rfl⟩

/-- The first event of a group inside a section. -/
theorem triple_send_inside {board topic key : UInt8} {value : UInt32} (hboard : board ∉ S) :
    Triple (sendMonitor H stale) (Inside S) (send board topic 0 key value)
      fun _ => SentAt S 0 := by
  refine (triple_send (fun st hst => hst.skipped) hboard ?_).mono (fun _ h => h) ?_
  · intro st hst _ t hlast
    obtain ⟨t', hlast', hindex⟩ := hst.last
    obtain rfl : t' = t := Option.some.inj (hlast'.symm.trans hlast)
    exact Or.inl hindex
  · intro _ st hpost
    obtain ⟨hskipped, hlast⟩ := hpost
    exact ⟨hskipped, _, hlast, rfl⟩

/-- The first event of a section's item. -/
theorem triple_send_between {board topic key : UInt8} {value : UInt32} (hboard : board ∉ S)
    (htopic : topic ∈ H.openingTopics) :
    Triple (sendMonitor H stale) (Between H S) (send board topic 0 key value)
      fun _ => SentAt S 0 := by
  refine (triple_send (fun st hst => hst.skipped) hboard ?_).mono (fun _ h => h) ?_
  · intro st hst hdistinct t hlast
    rcases hst.last t hlast with hindex | hgameOn
    · exact Or.inl hindex
    · exact Or.inr (hgameOn ▸ (hdistinct.gameOn topic htopic).symm)
  · intro _ st hpost
    obtain ⟨hskipped, hlast⟩ := hpost
    exact ⟨hskipped, _, hlast, rfl⟩

/-! ### Items -/

/-- The board of an item is not skipped. -/
def Unskipped (cpp : YamlCpp) (S : Finset UInt8) (item : Yaml) : Prop :=
  ∀ board, cpp.asUInt8 (item.get "board") = .ok board → board ∉ S

/-- An event of an item is an event of its board. -/
theorem triple_sendItem {item : Yaml} {topic index key : UInt8} {value : Except Failure UInt32}
    {pre : SendState → Prop} {post : Unit → SendState → Prop} (hitem : Unskipped cpp S item)
    (h : ∀ board v, board ∉ S →
      Triple (sendMonitor H stale) pre (send board topic index key v) post) :
    Triple (sendMonitor H stale) pre (sendItem cpp item topic index key value) post := by
  apply Triple.read
  intro board hboard
  apply Triple.read
  intro v _
  exact h board v (hitem board hboard)

theorem triple_item_next {item : Yaml} {topic i key : UInt8} {value : Except Failure UInt32}
    (index : UInt8) (hitem : Unskipped cpp S item) (hindex : i ≠ index) :
    Triple (sendMonitor H stale) (SentAt S i) (sendItem cpp item topic index key value)
      fun _ => SentAt S index :=
  triple_sendItem hitem fun _ _ hboard => triple_send_next index hboard hindex

theorem triple_item_inside {item : Yaml} {topic key : UInt8} {value : Except Failure UInt32}
    (hitem : Unskipped cpp S item) :
    Triple (sendMonitor H stale) (Inside S) (sendItem cpp item topic 0 key value)
      fun _ => SentAt S 0 :=
  triple_sendItem hitem fun _ _ hboard => triple_send_inside hboard

theorem triple_item_between {item : Yaml} {topic key : UInt8} {value : Except Failure UInt32}
    (hitem : Unskipped cpp S item) (htopic : topic ∈ H.openingTopics) :
    Triple (sendMonitor H stale) (Between H S) (sendItem cpp item topic 0 key value)
      fun _ => SentAt S 0 :=
  triple_sendItem hitem fun _ _ hboard => triple_send_between hboard htopic

/-- The body under a condition. -/
theorem triple_onlyIf {c : Prop} {_ : Decidable c} {body : Pass Unit} {pre : SendState → Prop}
    (h : c → Triple (sendMonitor H stale) pre body fun _ => pre) :
    Triple (sendMonitor H stale) pre (onlyIf c body) fun _ => pre := by
  unfold onlyIf
  split
  · next hc => exact h hc
  · exact Triple.pure fun _ hst => hst

/-- The body of an item whose board is not skipped. -/
theorem triple_unlessSkipped {item : Yaml} {body : Pass Unit} {pre : SendState → Prop}
    (h : Unskipped cpp s.skippedBoards item →
      Triple (sendMonitor H stale) pre body fun _ => pre) :
    Triple (sendMonitor H stale) pre (unlessSkipped cpp s item body) fun _ => pre := by
  apply Triple.read
  intro board hboard
  apply triple_onlyIf
  intro hskipped
  apply h
  intro board' hboard'
  obtain rfl : board = board' := Except.ok.inj (hboard.symm.trans hboard')
  exact hskipped

theorem triple_printDescription {item : Yaml} {pre : SendState → Prop} :
    Triple (sendMonitor H stale) pre (printDescription cpp s item) fun _ => pre :=
  triple_onlyIf fun _ => Triple.ofExcept fun _ _ _ hst => hst

theorem triple_pushSwitch {n_switch : Yaml} {pre : SendState → Prop} :
    Triple (sendMonitor H stale) pre (pushSwitch cpp n_switch) fun _ => pre :=
  Triple.read fun _ _ => Triple.read fun _ _ => Triple.read fun _ _ => Triple.read fun _ _ =>
    Triple.read fun _ _ => triple_emit_quiet rfl fun _ => rfl

theorem triple_pushCoil {n_pwmOutput : Yaml} {type : UInt8} {pre : SendState → Prop} :
    Triple (sendMonitor H stale) pre (pushCoil cpp n_pwmOutput type) fun _ => pre :=
  Triple.read fun _ _ => Triple.read fun _ _ => Triple.read fun _ _ => Triple.read fun _ _ =>
    Triple.read fun _ _ => triple_emit_quiet rfl fun _ => rfl

theorem triple_abortCheck {pre : SendState → Prop} :
    Triple (sendMonitor H stale) pre (emit .abortCheck : Pass Unit) fun _ => pre :=
  triple_emit_quiet rfl fun _ => rfl

theorem triple_failureCheck {pre : SendState → Prop} :
    Triple (sendMonitor H stale) pre (emit .failureCheck : Pass Unit) fun _ => pre :=
  triple_emit_quiet rfl fun _ => rfl

/-- A program that starts inside a group, right after an event. -/
theorem triple_of_inside {α : Type} {p : Pass α} {i : UInt8} {post : α → SendState → Prop}
    (hi : i ≠ 0) (h : Triple (sendMonitor H stale) (Inside S) p post) :
    Triple (sendMonitor H stale) (SentAt S i) p post :=
  h.mono (fun _ hst => hst.inside hi) fun _ _ hst => hst

theorem triple_of_between {α : Type} {p : Pass α} {post : α → SendState → Prop}
    (h : Triple (sendMonitor H stale) (Between H S) p post) :
    Triple (sendMonitor H stale) (Inside S) p post :=
  h.mono (fun _ hst => hst.between) fun _ _ hst => hst

/-- A program that ends right after an event. -/
theorem triple_ends_inside {α : Type} {p : Pass α} {i : UInt8} {pre : SendState → Prop}
    (hi : i ≠ 0) (h : Triple (sendMonitor H stale) pre p fun _ => SentAt S i) :
    Triple (sendMonitor H stale) pre p fun _ => Inside S :=
  h.mono (fun _ hst => hst) fun _ _ hst => hst.inside hi

theorem triple_ends_between {α : Type} {p : Pass α} {pre : SendState → Prop}
    (h : Triple (sendMonitor H stale) pre p fun _ => Inside S) :
    Triple (sendMonitor H stale) pre p fun _ => Between H S :=
  h.mono (fun _ hst => hst) fun _ _ hst => hst.between

/-! ### Switches -/

theorem triple_matrixSwitchPass {n_switch : Yaml} :
    Triple (sendMonitor H stale) (Between H s.skippedBoards) (matrixSwitchPass H cpp s n_switch)
      fun _ => Between H s.skippedBoards := by
  refine triple_printDescription.seq (Triple.seq (triple_unlessSkipped fun hitem => ?_)
    triple_pushSwitch)
  apply (triple_item_between hitem (by simp [EventHeader.openingTopics])).seq
  exact triple_ends_between
    (triple_ends_inside (by decide) (triple_item_next 1 hitem (by decide)))

theorem triple_switchMatrixPass {switchMatrix : Yaml} :
    Triple (sendMonitor H stale) (Between H s.skippedBoards)
      (switchMatrixPass H cpp s switchMatrix) fun _ => Between H s.skippedBoards := by
  apply triple_unlessSkipped
  intro hitem
  apply (triple_item_between hitem (by simp [EventHeader.openingTopics])).seq
  apply (triple_item_next 1 hitem (by decide)).seq
  exact triple_of_inside (by decide)
    (triple_of_between (Triple.forM fun n_switch _ => triple_matrixSwitchPass))

theorem triple_switchPass {n_switch : Yaml} :
    Triple (sendMonitor H stale) (Between H s.skippedBoards) (switchPass H cpp s n_switch)
      fun _ => Between H s.skippedBoards := by
  refine triple_printDescription.seq (Triple.seq (triple_unlessSkipped fun hitem => ?_)
    (triple_pushSwitch.seq triple_abortCheck))
  apply (triple_item_between hitem (by simp [EventHeader.openingTopics])).seq
  apply (triple_item_next 1 hitem (by decide)).seq
  apply (triple_item_next 2 hitem (by decide)).seq
  exact triple_ends_between
    (triple_ends_inside (by decide) (triple_item_next 3 hitem (by decide)))

/-! ### Effects -/

theorem triple_sendTriggerConfig {board : UInt8} {port type source number value : UInt32}
    (hboard : board ∉ S) :
    Triple (sendMonitor H stale) (Inside S)
      (sendTriggerConfig H board port type source number value) fun _ => Inside S := by
  apply (triple_send_inside hboard).seq
  apply (triple_send_next 1 hboard (by decide)).seq
  apply (triple_send_next 2 hboard (by decide)).seq
  apply (triple_send_next 3 hboard (by decide)).seq
  exact triple_ends_inside (by decide) (triple_send_next 4 hboard (by decide))

theorem triple_effectTriggersPass {item effect : Yaml} {type : UInt8} {context : String}
    (hitem : Unskipped cpp S item) :
    Triple (sendMonitor H stale) (Inside S) (effectTriggersPass H cpp item effect type context)
      fun _ => Inside S := by
  apply Triple.read
  intro board hboard
  apply Triple.read
  intro port _
  have hskipped := hitem board hboard
  refine Triple.seq (triple_onlyIf fun _ => ?_) (triple_onlyIf fun _ => ?_)
  · apply Triple.read
    intro name _
    apply triple_onlyIf
    intro _
    exact Triple.read fun value _ => triple_sendTriggerConfig hskipped
  · apply Triple.read
    intro name _
    apply Triple.read
    intro source _
    apply Triple.read
    intro number _
    apply Triple.read
    intro value _
    split
    · exact Triple.ofExcept fun _ h => nomatch h
    · exact triple_sendTriggerConfig hskipped

/-! ### PWM Outputs -/

theorem triple_pwmEffectPass {n_pwmOutput n_pwm_effect : Yaml}
    (hitem : Unskipped cpp S n_pwmOutput) :
    Triple (sendMonitor H stale) (Inside S) (pwmEffectPass H cpp n_pwmOutput n_pwm_effect)
      fun _ => Inside S := by
  apply (triple_item_inside hitem).seq
  apply (triple_item_next 1 hitem (by decide)).seq
  apply (triple_item_next 2 hitem (by decide)).seq
  apply (triple_item_next 3 hitem (by decide)).seq
  apply (triple_item_next 4 hitem (by decide)).seq
  apply (triple_item_next 5 hitem (by decide)).seq
  apply (triple_item_next 6 hitem (by decide)).seq
  apply (triple_item_next 7 hitem (by decide)).seq
  apply (triple_item_next 8 hitem (by decide)).seq
  exact triple_of_inside (by decide)
    ((triple_effectTriggersPass hitem).seq triple_abortCheck)

theorem triple_pwmOutputPass {n_pwmOutput : Yaml} :
    Triple (sendMonitor H stale) (Between H s.skippedBoards) (pwmOutputPass H cpp s n_pwmOutput)
      fun _ => Between H s.skippedBoards := by
  apply triple_unlessSkipped
  intro hitem
  apply triple_printDescription.seq
  apply (triple_item_between hitem (by simp [EventHeader.openingTopics])).seq
  apply (triple_item_next 1 hitem (by decide)).seq
  apply (triple_item_next 2 hitem (by decide)).seq
  apply (triple_item_next 3 hitem (by decide)).seq
  apply (triple_item_next 4 hitem (by decide)).seq
  apply (triple_item_next 5 hitem (by decide)).seq
  apply (triple_item_next 6 hitem (by decide)).seq
  apply (triple_item_next 7 hitem (by decide)).seq
  apply Triple.read
  intro c_type _
  apply (triple_item_next 8 hitem (by decide)).seq
  refine triple_of_inside (by decide) (triple_ends_between ?_)
  apply Triple.seq (Triple.forM fun n_pwm_effect _ => triple_pwmEffectPass hitem)
  exact triple_pushCoil.seq triple_abortCheck

/-! ### LED Stripes -/

/-- Indices of segment events never wrap to 0 at the end of a segment. -/
theorem segment_index {index : UInt8} (h : index.toNat % 4 = 2) :
    (index + 4).toNat % 4 = 2 ∧ index - 1 ≠ 0 := by
  constructor
  · rw [UInt8.toNat_add]
    show (index.toNat + 4) % 256 % 4 = 2
    omega
  · intro hzero
    have hback := UInt8.sub_add_cancel index 1
    rw [hzero] at hback
    subst hback
    exact absurd h (by decide)

/-- The events of a segment, numbered from `index`. -/
theorem triple_segmentEvents {n_ledStripe n_segment : Yaml} {index : UInt8}
    (hitem : Unskipped cpp S n_ledStripe) :
    Triple (sendMonitor H stale) (SentAt S (index - 1))
      (ledSegmentPass H cpp n_ledStripe index n_segment)
      fun index' st => index' = index + 4 ∧ SentAt S (index + 3) st := by
  have hnext : ∀ i : UInt8, i ≠ i + 1 := by
    intro i h
    have hvalue := congrArg UInt8.toNat h
    rw [UInt8.toNat_add] at hvalue
    have hlt := i.toNat_lt
    have hone : (1 : UInt8).toNat = 1 := rfl
    omega
  have hplus : ∀ j : UInt8, index + j ≠ index + (j + 1) := fun j =>
    UInt8.add_assoc index j 1 ▸ hnext (index + j)
  have hfirst : index - 1 ≠ index := fun h =>
    hnext (index - 1) (h.trans (UInt8.sub_add_cancel index 1).symm)
  apply (triple_item_next index hitem hfirst).seq
  apply (triple_item_next (index + 1) hitem (hnext index)).seq
  apply (triple_item_next (index + 2) hitem (hplus 1)).seq
  apply (triple_item_next (index + 3) hitem (hplus 2)).seq
  exact triple_abortCheck.seq (Triple.pure fun st h => ⟨rfl, h⟩)

/-- The state before a segment: the index runs on. -/
def BeforeSegment (S : Finset UInt8) (index : UInt8) (st : SendState) : Prop :=
  index.toNat % 4 = 2 ∧ SentAt S (index - 1) st

theorem triple_ledSegmentPass {n_ledStripe n_segment : Yaml} {index : UInt8}
    (hitem : Unskipped cpp S n_ledStripe) :
    Triple (sendMonitor H stale) (BeforeSegment S index)
      (ledSegmentPass H cpp n_ledStripe index n_segment) (BeforeSegment S) := by
  by_cases hindex : index.toNat % 4 = 2
  · apply (triple_segmentEvents hitem).mono (fun st hst => hst.2)
    intro index' st hpost
    obtain ⟨rfl, hst⟩ := hpost
    refine ⟨(segment_index hindex).1, ?_⟩
    have hlast : index + 4 - 1 = index + 3 := by
      rw [show (4 : UInt8) = 3 + 1 from rfl, ← UInt8.add_assoc, UInt8.add_sub_cancel]
    exact hlast ▸ hst
  · intro st hst
    exact absurd hst.1 hindex

theorem triple_ledEffectPass {n_ledStripe n_led_effect : Yaml}
    (hitem : Unskipped cpp S n_ledStripe) :
    Triple (sendMonitor H stale) (Inside S) (ledEffectPass H cpp n_ledStripe n_led_effect)
      fun _ => Inside S := by
  apply (triple_item_inside hitem).seq
  apply (triple_item_next 1 hitem (by decide)).seq
  apply Triple.read
  intro colors _
  apply (triple_item_next 2 hitem (by decide)).seq
  apply (triple_item_next 3 hitem (by decide)).seq
  apply (triple_item_next 4 hitem (by decide)).seq
  apply (triple_item_next 5 hitem (by decide)).seq
  apply (triple_item_next 6 hitem (by decide)).seq
  apply (triple_item_next 7 hitem (by decide)).seq
  apply (triple_item_next 8 hitem (by decide)).seq
  apply (triple_item_next 9 hitem (by decide)).seq
  apply (triple_item_next 10 hitem (by decide)).seq
  apply (triple_item_next 11 hitem (by decide)).seq
  apply (triple_item_next 12 hitem (by decide)).seq
  exact triple_of_inside (by decide)
    ((triple_effectTriggersPass hitem).seq triple_abortCheck)

theorem triple_ledItemPass {type board : UInt8} {port : UInt32} {item : Yaml} {itemIndex : Nat}
    (hboard : board ∉ S) :
    Triple (sendMonitor H stale) (Inside S) (ledItemPass H cpp type board port item itemIndex)
      fun _ => Inside S := by
  apply triple_abortCheck.seq
  apply Triple.read
  intro description _
  apply Triple.read
  intro number _
  apply Triple.read
  intro ledNumber _
  apply Triple.read
  intro color _
  apply (triple_send_inside hboard).seq
  apply (triple_send_next 1 hboard (by decide)).seq
  apply (triple_send_next 2 hboard (by decide)).seq
  apply (triple_send_next 3 hboard (by decide)).seq
  apply (triple_send_next 4 hboard (by decide)).seq
  exact triple_of_inside (by decide) (triple_emit_quiet rfl fun _ => rfl)

theorem triple_sendLedConfigBlock {n_ledStripe : Yaml} {field : String} {type : UInt8}
    (hitem : Unskipped cpp S n_ledStripe) :
    Triple (sendMonitor H stale) (Inside S) (sendLedConfigBlock H cpp n_ledStripe field type)
      fun _ => Inside S :=
  Triple.read fun board hboard => Triple.read fun _ _ =>
    Triple.forM fun _ _ => triple_ledItemPass (hitem board hboard)

theorem triple_ledStripePass {n_ledStripe : Yaml} :
    Triple (sendMonitor H stale) (Between H s.skippedBoards) (ledStripePass H cpp s n_ledStripe)
      fun _ => Between H s.skippedBoards := by
  apply triple_unlessSkipped
  intro hitem
  apply (triple_item_between hitem (by simp [EventHeader.openingTopics])).seq
  apply (triple_item_next 1 hitem (by decide)).seq
  apply (triple_item_next 2 hitem (by decide)).seq
  apply (triple_item_next 3 hitem (by decide)).seq
  apply (triple_item_next 4 hitem (by decide)).seq
  apply (triple_item_next 5 hitem (by decide)).seq
  have hsegments : Triple (sendMonitor H stale) (SentAt s.skippedBoards 5)
      ((n_ledStripe.get "segments").items.foldlM (ledSegmentPass H cpp n_ledStripe) 6)
      fun _ => Inside s.skippedBoards := by
    refine (Triple.foldlM (BeforeSegment s.skippedBoards)
      (fun _ _ _ => triple_ledSegmentPass hitem) 6).mono ?_ ?_
    · exact fun st hst => ⟨by decide, hst⟩
    · exact fun index st hst => hst.2.inside (segment_index hst.1).2
  refine hsegments.seq (triple_ends_between ?_)
  apply Triple.seq (Triple.forM fun _ _ => triple_ledEffectPass hitem)
  apply (triple_sendLedConfigBlock hitem).seq
  apply (triple_sendLedConfigBlock hitem).seq
  exact (triple_sendLedConfigBlock hitem).seq triple_abortCheck

/-! ### The Sections -/

theorem triple_sectionsPass {config : Yaml} :
    Triple (sendMonitor H stale) (Between H s.skippedBoards) (sectionsPass H cpp s config)
      fun _ => Between H s.skippedBoards := by
  apply Triple.seq (triple_onlyIf fun _ => triple_switchMatrixPass)
  refine triple_abortCheck.seq (Triple.seq (Triple.forM fun _ _ => triple_switchPass) ?_)
  refine triple_abortCheck.seq (Triple.seq (Triple.forM fun _ _ => triple_pwmOutputPass) ?_)
  refine triple_abortCheck.seq (Triple.seq (Triple.forM fun _ _ => triple_ledStripePass) ?_)
  exact triple_abortCheck.seq triple_failureCheck

/-! ### The Board Loop -/

/-- An event for a board that is skipped by mistake. -/
theorem triple_send_stale {board topic index key : UInt8} {value : UInt32} (hboard : board ∈ S)
    (hstale : stale board) :
    Triple (sendMonitor H stale) (InBoards H S) (send board topic index key value)
      fun _ => InBoards H S := by
  apply Triple.emit
  intro st hst
  have hskipped : board ∈ st.skipped := hst.skipped.symm ▸ hboard
  constructor
  · intro events hmem
    obtain rfl := List.mem_singleton.mp hmem
    refine ⟨?_, trivial⟩
    show if board ∈ st.skipped then _ else _
    rw [if_pos hskipped]
    exact hstale
  · intro st' hnext
    obtain ⟨events, hmem, rfl⟩ := hnext
    obtain rfl := List.mem_singleton.mp hmem
    have hfeed : st.feed ⟨board, topic, index, key, value⟩ = st := if_pos hskipped
    refine ⟨hst.skipped, ?_⟩
    intro t hlast
    exact hst.last t (hfeed ▸ hlast)

/-- The last frame has the given topic. -/
def LastTopic (S : Finset UInt8) (topic : UInt8) (st : SendState) : Prop :=
  st.skipped = S ∧ ∃ t, st.last = some t ∧ t.topic = topic

theorem triple_send_topic {board topic index key : UInt8} {value : UInt32}
    {pre : SendState → Prop} (hskipped : ∀ st, pre st → st.skipped = S) (hboard : board ∉ S)
    (hdiffers : ∀ st, pre st → H.TopicsDistinct → ∀ t, st.last = some t → t.topic ≠ topic) :
    Triple (sendMonitor H stale) pre (send board topic index key value)
      fun _ => LastTopic S topic := by
  refine (triple_send hskipped hboard ?_).mono (fun _ h => h) ?_
  · exact fun st hst hdistinct t hlast => Or.inr (hdiffers st hst hdistinct t hlast)
  · exact fun _ st hst => ⟨hst.1, _, hst.2, rfl⟩

/-- What the board loop keeps. -/
def BoardsInv (H : EventHeader) (s : StartupSettings) (S : Finset UInt8) (boards : Boards)
    (st : SendState) : Prop :=
  InBoards H S st ∧ ∀ board ∈ boards.switchBoards, board ∉ s.skippedBoards

/-- The three events of a board that is not skipped on purpose: all are sent,
    or all are skipped by mistake. -/
theorem triple_boardEvents {board : UInt8} (hstale : board ∈ S → stale board) :
    ∃ first second : SendState → Prop,
      (∀ v, Triple (sendMonitor H stale) (InBoards H S)
        (send board H.CONFIG_TOPIC_PLATFORM 0 H.CONFIG_TOPIC_PLATFORM v) fun _ => first) ∧
      (∀ v, Triple (sendMonitor H stale) first
        (send board H.CONFIG_TOPIC_COIN_DOOR_CLOSED_SWITCH 0 H.CONFIG_TOPIC_NUMBER v)
          fun _ => second) ∧
      (∀ v, Triple (sendMonitor H stale) second
        (send board H.CONFIG_TOPIC_GAME_ON_SOLENOID 0 H.CONFIG_TOPIC_NUMBER v)
          fun _ => InBoards H S) := by
  by_cases hboard : board ∈ S
  · exact ⟨InBoards H S, InBoards H S, fun _ => triple_send_stale hboard (hstale hboard),
      fun _ => triple_send_stale hboard (hstale hboard),
      fun _ => triple_send_stale hboard (hstale hboard)⟩
  · refine ⟨LastTopic S H.CONFIG_TOPIC_PLATFORM,
      LastTopic S H.CONFIG_TOPIC_COIN_DOOR_CLOSED_SWITCH, ?_, ?_, ?_⟩
    · refine fun v => triple_send_topic (fun st hst => hst.skipped) hboard ?_
      intro st hst hdistinct t hlast
      rw [hst.last t hlast]
      exact (hdistinct.gameOn _ (by simp [EventHeader.openingTopics])).symm
    · refine fun v => triple_send_topic (fun st hst => hst.1) hboard ?_
      intro st hpost hdistinct t hlast
      obtain ⟨_, t', hlast', htopic⟩ := hpost
      obtain rfl : t' = t := Option.some.inj (hlast'.symm.trans hlast)
      exact htopic ▸ hdistinct.coinDoor
    · refine fun v => (triple_send_topic (fun st hst => hst.1) hboard ?_).mono (fun _ h => h) ?_
      · intro st hpost hdistinct t hlast
        obtain ⟨_, t', hlast', htopic⟩ := hpost
        obtain rfl : t' = t := Option.some.inj (hlast'.symm.trans hlast)
        exact htopic ▸ hdistinct.gameOn _ (by simp [EventHeader.openingTopics])
      · intro _ st hpost
        obtain ⟨hskipped, t, hlast, htopic⟩ := hpost
        refine ⟨hskipped, ?_⟩
        intro t' hlast'
        obtain rfl : t = t' := Option.some.inj (hlast.symm.trans hlast')
        exact htopic

/-- One round of the board loop. -/
theorem triple_boardPass {config n_board : Yaml} {boards : Boards}
    (hstale : ∀ board, cpp.asUInt8 (n_board.get "number") = .ok board →
      board ∉ s.skippedBoards → board ∈ S → stale board) :
    Triple (sendMonitor H stale) (BoardsInv H s S boards) (boardPass H cpp s config boards n_board)
      (BoardsInv H s S) := by
  by_cases hboards : ∀ board ∈ boards.switchBoards, board ∉ s.skippedBoards
  · refine Triple.strengthen (InBoards H S) ?_ (fun _ h => h.1)
    apply Triple.read
    intro board hboard
    dsimp only
    split
    · exact Triple.pure fun st hst => ⟨hst, hboards⟩
    · next hskipped =>
      obtain ⟨first, second, hfirst, hsecond, hthird⟩ :=
        triple_boardEvents (H := H) (hstale board hboard hskipped)
      refine (hfirst _).seq (Triple.read fun coinDoor _ => ?_)
      refine (hsecond _).seq (Triple.read fun gameOn _ => ?_)
      refine (hthird _).seq (Triple.read fun pollEvents _ => ?_)
      apply Triple.seq (triple_onlyIf fun _ => triple_emit_quiet rfl fun _ => rfl)
      refine triple_abortCheck.seq (Triple.pure fun st hst => ⟨hst, ?_⟩)
      intro board' hmem
      dsimp only at hmem
      split at hmem
      · rcases List.mem_append.mp hmem with hold | hnew
        · exact hboards board' hold
        · obtain rfl := List.mem_singleton.mp hnew
          exact hskipped
      · exact hboards board' hmem
  · intro st hst
    exact absurd hst.2 hboards

/-! ### The Whole Pass -/

/-- The setters replace the skip set. -/
theorem triple_mappingPass {config : Yaml} {boards : Boards} :
    Triple (sendMonitor H stale) (InBoards H S) (mappingPass cpp s config boards)
      fun _ => Between H s.skippedBoards := by
  apply Triple.read
  intro items _
  apply Triple.read
  intro numbers _
  apply Triple.emit
  intro st hst
  constructor
  · intro events hmem
    obtain rfl := List.mem_singleton.mp hmem
    exact trivial
  · intro st' hnext
    obtain ⟨events, hmem, rfl⟩ := hnext
    obtain rfl := List.mem_singleton.mp hmem
    exact ⟨rfl, fun t hlast => Or.inr (hst.last t hlast)⟩

/-- The two events of a board of the token ring. -/
theorem triple_tokenRing {current next : UInt8} {delay : UInt32} (hboard : current ∉ S) :
    Triple (sendMonitor H stale) (Between H S)
      (emit (.tokenRing current next delay) : Pass Unit) fun _ => Between H S := by
  apply Triple.emit
  intro st hst
  have hsent : current ∉ st.skipped := hst.skipped.symm ▸ hboard
  have hfeed : st.feed (Startup.nextBoardEvent H current next) =
      { st with last := some (Startup.nextBoardEvent H current next).tuple } := if_neg hsent
  have hfeed' : (st.feed (Startup.nextBoardEvent H current next)).feed
      (Startup.replyDelayEvent H current delay) =
      { st with last := some (Startup.replyDelayEvent H current delay).tuple } := by
    rw [hfeed]
    exact if_neg hsent
  constructor
  · intro events hmem
    rcases List.mem_cons.mp hmem with rfl | hmem
    · exact trivial
    · obtain rfl := List.mem_singleton.mp hmem
      refine ⟨?_, ?_, trivial⟩
      · show if current ∈ st.skipped then _ else _
        rw [if_neg hsent]
        intro hdistinct heq
        rcases hst.last _ heq with hindex | hgameOn
        · exact hindex rfl
        · exact hdistinct.gameOn H.CONFIG_TOPIC_SWITCH_CHAIN
            (by simp [EventHeader.openingTopics]) hgameOn
      · rw [hfeed]
        show if current ∈ st.skipped then _ else _
        rw [if_neg hsent]
        intro _ heq
        exact absurd (congrArg ConfigTuple.index (Option.some.inj heq))
          (show (0 : UInt8) ≠ 1 by decide)
  · intro st' hnext
    obtain ⟨events, hmem, rfl⟩ := hnext
    rcases List.mem_cons.mp hmem with rfl | hmem
    · exact hst
    · obtain rfl := List.mem_singleton.mp hmem
      refine ⟨hst.skipped, ?_⟩
      intro t hlast
      have hlast' : some (Startup.replyDelayEvent H current delay).tuple = some t := by
        rw [← hlast]
        exact (congrArg SendState.last hfeed').symm
      obtain rfl := Option.some.inj hlast'
      exact Or.inl (show (1 : UInt8) ≠ 0 by decide)

theorem triple_tokenRingPass {switchBoards : List UInt8}
    (hboards : ∀ board ∈ switchBoards, board ∉ S) :
    Triple (sendMonitor H stale) (Between H S) (tokenRingPass P s switchBoards)
      fun _ => Between H S := by
  apply Triple.seq (triple_emit_quiet rfl fun _ => rfl)
  apply Triple.seq (triple_emit_quiet rfl fun _ => rfl)
  apply Triple.forM
  intro entry hentry
  exact triple_tokenRing (hboards entry.1 (List.fst_mem_of_mem_zipIdx hentry))

/-- The board numbers of a document. -/
def configuredBoards (cpp : YamlCpp) (config : Yaml) : List UInt8 :=
  (config.get "boards").items.filterMap fun n_board =>
    (cpp.asUInt8 (n_board.get "number")).toOption

theorem mem_configuredBoards {config : Yaml} {board : UInt8} :
    board ∈ configuredBoards cpp config ↔
      ∃ n_board ∈ (config.get "boards").items, cpp.asUInt8 (n_board.get "number") = .ok board := by
  unfold configuredBoards
  rw [List.mem_filterMap]
  refine exists_congr fun n_board => and_congr_right fun _ => ?_
  cases cpp.asUInt8 (n_board.get "number") with
  | ok n => simp [Except.toOption]
  | error e => simp [Except.toOption]

/-- The boards that the attempt skips by mistake: configured and not skipped
    now, but still in the skip set `S` of `RS485Comm`. -/
def StaleSkip (cpp : YamlCpp) (s : StartupSettings) (config : Yaml) (S : Finset UInt8)
    (board : UInt8) : Prop :=
  board ∈ configuredBoards cpp config ∧ board ∉ s.skippedBoards ∧ board ∈ S

/-- **The sequence of the events**: the monitor admits the whole pass. -/
theorem triple_startupPass (P : Protocol) (H : EventHeader) (cpp : YamlCpp) (s : StartupSettings)
    (config : Yaml) (S : Finset UInt8) :
    Triple (sendMonitor H (StaleSkip cpp s config S)) (InBoards H S)
      (startupPass P H cpp s config) fun _ _ => True := by
  have hboards : Triple (sendMonitor H (StaleSkip cpp s config S)) (InBoards H S)
      (boardsPass H cpp s config) (BoardsInv H s S) := by
    refine (Triple.foldlM (BoardsInv H s S) ?_ _).mono (fun st hst => ⟨hst, by simp⟩)
      (fun _ _ h => h)
    intro n_board hmem boards
    apply triple_boardPass
    intro board hboard hskipped hin
    exact ⟨mem_configuredBoards.mpr ⟨n_board, hmem, hboard⟩, hskipped, hin⟩
  apply hboards.bind
  intro boards
  by_cases hunskipped : ∀ board ∈ boards.switchBoards, board ∉ s.skippedBoards
  · refine Triple.strengthen (InBoards H S) ?_ (fun _ h => h.1)
    refine triple_abortCheck.seq (triple_mappingPass.seq ?_)
    refine triple_sectionsPass.seq ((triple_tokenRingPass hunskipped).seq ?_)
    apply triple_abortCheck.seq
    exact triple_failureCheck.mono (fun _ h => h) (fun _ _ _ => trivial)
  · intro st hst
    exact absurd hst.2 hunskipped

end walk

end Pass

end LibPpuc
