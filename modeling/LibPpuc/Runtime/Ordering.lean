import LibPpuc.Runtime.Blocks
import LibPpuc.Reference

/-! # The Order of the Output Frames

  The live output state is numbered by the updates it has absorbed.  A
  queued snapshot keeps the number it was pushed with, a frame without a
  snapshot gets the number that is current when it is copied.

  The queue is inspected before the sleep of the frame interval, the live
  state is copied after it.  When a coil update is followed by another
  update in between, the frame is newer than the snapshot that is queued by
  then, and the next frame goes back.  The result: the numbers of the
  written frames never decrease along a run in which every copy of the live
  state is as old as the queued snapshots.
-/

namespace LibPpuc

namespace Comm

variable {P : Protocol} {W : Type}

/-! ### What an Event Adds to the Output State -/

/-- How `QueueEvent` changes the output state. -/
inductive Absorbed where
  | nothing
  /-- A lamp or GI update. -/
  | level
  /-- A coil update, which also queues a snapshot. -/
  | coil
  deriving DecidableEq

/-- Whether the output state absorbs an event. -/
def absorbed (event : Event) (c : Comm P) : Absorbed :=
  match event.sourceId with
  | .solenoid =>
    match c.coilNumberToIndex.lookup event.eventId with
    | some index => if index < P.kMaxCoilBits then .coil else .nothing
    | none => .nothing
  | .gi =>
    if 1 ≤ event.eventId.toNat ∧ event.eventId.toNat ≤ P.kGiStrings then .level else .nothing
  | .light =>
    match c.lampNumberToIndex.lookup event.eventId with
    | some index => if index < P.kMaxLampBits then .level else .nothing
    | none => .nothing
  | _ => .nothing

/-- Only coil updates queue a snapshot, and it is a copy of the new state. -/
theorem outputSnapshots_queueEvent (port : SerialPort W) (w : W) (event : Event) (c : Comm P) :
    (c.queueEvent port w event).outputSnapshots =
      if c.absorbed event = .coil then
        BoundedQueue.push RS485_COMM_OUTPUT_QUEUE_SIZE_MAX c.outputSnapshots
          (c.queueEvent port w event).outputSnapshot
      else c.outputSnapshots := by
  unfold absorbed
  -- only the first case pushes; the others leave the queue alone
  cases hsource : event.sourceId with
  | solenoid =>
    dsimp only
    split
    · next index hlookup =>
      split
      · next hindex =>
        obtain ⟨log, heq⟩ :=
          queueOutputSnapshotLocked_eq port w (c.setCoil index (event.value != 0))
        rw [queueEvent_coil port w hsource hlookup hindex, heq, if_pos rfl]
        rfl
      · next hindex => simp [queueEvent, hsource, hlookup, hindex]
    · next hlookup => simp [queueEvent, hsource, hlookup]
  | gi => simp only [queueEvent, hsource]; split <;> simp
  | light =>
    dsimp only
    split
    · next index hlookup => simp only [queueEvent, hsource, hlookup]; split <;> simp
    · next hlookup => simp [queueEvent, hsource, hlookup]
  | run => simp [queueEvent, hsource]
  | readSwitches => simp [queueEvent, hsource]
  | effect => simp only [queueEvent, hsource]; split <;> simp
  | other code => simp [queueEvent, hsource]

end Comm

namespace Sys

variable {P : Protocol} {W : Type}

/-! ### Numbers -/

/-- The numbers of the output states a system holds. -/
structure Numbers where
  /-- The updates the live state has absorbed. -/
  live : Nat := 0
  /-- The numbers of the queued snapshots, oldest first. -/
  queued : List Nat := []
  /-- The number of the output state the bus thread carries. -/
  carried : Nat := 0
  deriving DecidableEq

/-- The numbers after an event. -/
def Numbers.absorb (g : Numbers) : Comm.Absorbed → Numbers
  | .nothing => g
  | .level => { g with live := g.live + 1 }
  | .coil =>
    { g with
      live := g.live + 1
      queued := BoundedQueue.push RS485_COMM_OUTPUT_QUEUE_SIZE_MAX g.queued (g.live + 1) }

/-- The numbers after a step. -/
def number (s : Sys P W) (g : Numbers) (l : Label) (s' : Sys P W) : Numbers :=
  match l with
  | .queueEvent event => g.absorb (s.comm.absorbed event)
  | .bus =>
    match s.bus, s'.bus with
    | .inspectQueue, .copyState _ _ (some _) =>
      { g with carried := g.queued.headD 0, queued := g.queued.tail }
    | .copyState _ _ none, _ => { g with carried := g.live }
    | _, _ => g
  | _ => g

/-- The system with its numbers. -/
def stepNumbered (E : Env W) : Sys P W × Numbers → Label → Option (Sys P W × Numbers) :=
  Transition.instrument (step E) number

/-- The number of the output frame that a step wrote with success. -/
def numberWritten (p : Sys P W × Numbers) (l : Label) (p' : Sys P W × Numbers) : List Nat :=
  match l, p.1.bus, p'.1.bus with
  | .bus, .writeFrame _ false _ _, .consumeHoldover _ _ => [p.2.carried]
  | _, _, _ => []

/-- The numbers of the output frames a run writes, in order. -/
def numbersWritten (E : Env W) (s : Sys P W) (ls : List Label) : List Nat :=
  Transition.observe (stepNumbered E) numberWritten (s, {}) ls

/-- When the live state is copied for an output frame, no queued snapshot is
    older than it. -/
def liveCopyInOrder (p : Sys P W × Numbers) (l : Label) : Bool :=
  match l, p.1.bus with
  | .bus, .copyState _ false none => p.2.queued.all fun n => decide (p.2.live ≤ n)
  | _, _ => true

/-- Every copy of the live state in the run is as old as the queue. -/
def LiveCopiesInOrder (E : Env W) (s : Sys P W) (ls : List Label) : Prop :=
  Transition.Along (stepNumbered E) (fun p l => liveCopyInOrder p l = true) (s, {}) ls

instance (E : Env W) (s : Sys P W) (ls : List Label) : Decidable (LiveCopiesInOrder E s ls) :=
  inferInstanceAs (Decidable (Transition.Along _ _ _ _))

/-! ### The Invariant -/

/-- The bus thread carries an output state that has a number. -/
def carriesOutput : BusPc P → Bool
  | .copyState _ _ (some _) | .writeFrame _ false _ _ => true
  | _ => false

/-- A state with number `n` is not newer than the queue and the live state. -/
structure Numbers.NotAfter (g : Numbers) (n : Nat) : Prop where
  live : n ≤ g.live
  queued : ∀ k ∈ g.queued, n ≤ k

/-- The numbers are in order: the last written one, the carried one, the
    queue, the live state.  Of the system only the length of the snapshot
    queue counts, and whether the bus thread carries an output state. -/
structure Ordered (last length : Nat) (carries : Bool) (g : Numbers) : Prop where
  sameLength : g.queued.length = length
  sorted : g.queued.Pairwise (· ≤ ·)
  queued_le : ∀ n ∈ g.queued, n ≤ g.live
  last_le : g.NotAfter last
  carried : carries = true → last ≤ g.carried ∧ g.NotAfter g.carried

/-- `Ordered` for a state of the system. -/
def OrderedAt (last : Nat) (p : Sys P W × Numbers) : Prop :=
  Ordered last p.1.comm.outputSnapshots.length (carriesOutput p.1.bus) p.2

section numbers

variable {last length n : Nat} {carries carries' : Bool} {g : Numbers}

/-- Without a carried state the number it would have does not matter. -/
theorem Ordered.dropCarried (h : Ordered last length carries g) (k : Nat) :
    Ordered last length false { g with carried := k } where
  sameLength := h.sameLength
  sorted := h.sorted
  queued_le := h.queued_le
  last_le := ⟨h.last_le.live, h.last_le.queued⟩
  carried := fun hfalse => Bool.noConfusion hfalse

theorem Numbers.NotAfter.absorb (h : g.NotAfter n) (a : Comm.Absorbed) :
    (g.absorb a).NotAfter n := by
  cases a with
  | nothing => exact h
  | level => exact ⟨h.live.trans (Nat.le_succ _), h.queued⟩
  | coil =>
    refine ⟨h.live.trans (Nat.le_succ _), ?_⟩
    intro k hk
    rcases BoundedQueue.mem_push hk with hold | rfl
    · exact h.queued k hold
    · exact h.live.trans (Nat.le_succ _)

/-- An event keeps the order: its number is larger than all others. -/
theorem Ordered.absorb (h : Ordered last length carries g) (a : Comm.Absorbed) :
    Ordered last (g.absorb a).queued.length carries (g.absorb a) where
  sameLength := rfl
  sorted := by
    cases a with
    | nothing => exact h.sorted
    | level => exact h.sorted
    | coil =>
      -- the snapshot goes behind the others
      exact BoundedQueue.pairwise_push h.sorted fun n hn =>
        (h.queued_le n hn).trans (Nat.le_succ _)
  queued_le := by
    cases a with
    | nothing => exact h.queued_le
    | level => exact fun n hn => (h.queued_le n hn).trans (Nat.le_succ _)
    | coil =>
      intro n hn
      rcases BoundedQueue.mem_push hn with hold | rfl
      · exact (h.queued_le n hold).trans (Nat.le_succ _)
      · exact le_refl _
  last_le := h.last_le.absorb a
  carried := by
    intro hcarries
    have hcarried : (g.absorb a).carried = g.carried := by cases a <;> rfl
    rw [hcarried]
    exact ⟨(h.carried hcarries).1, (h.carried hcarries).2.absorb a⟩

/-- Popping hands the oldest snapshot to the bus thread. -/
theorem Ordered.pop (h : Ordered last (length + 1) carries g) :
    Ordered last length carries'
      { g with carried := g.queued.headD 0, queued := g.queued.tail } := by
  obtain ⟨live, queued, carried⟩ := g
  match queued with
  | [] => exact nomatch h.sameLength
  | k :: rest =>
    have hsorted := List.pairwise_cons.mp h.sorted
    refine ⟨Nat.succ.inj h.sameLength, hsorted.2, ?_, ?_, ?_⟩
    · exact fun n hn => h.queued_le n (List.mem_cons_of_mem k hn)
    · exact ⟨h.last_le.live, fun n hn => h.last_le.queued n (List.mem_cons_of_mem k hn)⟩
    · intro _
      exact ⟨h.last_le.queued k List.mem_cons_self, h.queued_le k List.mem_cons_self, hsorted.1⟩

/-- A copy of the live state is carried, if the queue is not older. -/
theorem Ordered.copyLive (h : Ordered last length carries g)
    (hqueue : ∀ n ∈ g.queued, g.live ≤ n) :
    Ordered last length carries' { g with carried := g.live } where
  sameLength := h.sameLength
  sorted := h.sorted
  queued_le := h.queued_le
  last_le := ⟨h.last_le.live, h.last_le.queued⟩
  carried _ := ⟨h.last_le.live, le_refl _, hqueue⟩

/-- Writing the carried state makes its number the last one. -/
theorem Ordered.write (h : Ordered last length true g) : Ordered g.carried length false g :=
  { h with
    last_le := (h.carried rfl).2
    carried := fun hfalse => Bool.noConfusion hfalse }

end numbers

/-! ### One Step -/

/-- What a step shows is in order, and so is the state it leads to. -/
structure ShowsInOrder (last : Nat) (p : Sys P W × Numbers) (l : Label)
    (p' : Sys P W × Numbers) : Prop where
  shown : numberWritten p l p' = [] ∨
    ∃ n, numberWritten p l p' = [n] ∧ last ≤ n
  ordered : OrderedAt ((numberWritten p l p').headD last) p'

section step

variable {E : Env W} {last : Nat} {p p' : Sys P W × Numbers}

theorem showsInOrder_of_nil {l : Label} (hnil : numberWritten p l p' = [])
    (hordered : OrderedAt last p') : ShowsInOrder last p l p' := by
  refine ⟨Or.inl hnil, ?_⟩
  rw [hnil]
  exact hordered

theorem length_of_outputPart {c c' : Comm P} (h : c'.outputPart = c.outputPart) :
    c'.outputSnapshots.length = c.outputSnapshots.length :=
  (congrArg (fun c => c.outputSnapshots.length) h :)

theorem carriesOutput_of_carriesNothing {pc : BusPc P} (h : pc.carriesNothing = true) :
    carriesOutput pc = false := by
  cases pc <;> first | rfl | exact nomatch h

theorem length_absorb (port : SerialPort W) (w : W) (event : Event) (c : Comm P) (g : Numbers)
    (h : g.queued.length = c.outputSnapshots.length) :
    (g.absorb (c.absorbed event)).queued.length =
      (c.queueEvent port w event).outputSnapshots.length := by
  rw [Comm.outputSnapshots_queueEvent]
  cases habsorbed : c.absorbed event with
  | nothing => exact h
  | level => exact h
  | coil =>
    rw [if_pos rfl, BoundedQueue.length_push]
    show (BoundedQueue.push _ g.queued (g.live + 1)).length = _
    rw [BoundedQueue.length_push, h]

theorem numberWritten_of_carriesNothing {l : Label} (hcarry : p'.1.bus.carriesNothing = true) :
    numberWritten p l p' = [] := by
  unfold numberWritten
  split
  · next heq =>
    rw [heq] at hcarry
    exact Bool.noConfusion hcarry
  · rfl

/-- A block that ends without a carried state at most sets the carried number. -/
theorem number_of_carriesNothing {s s' : Sys P W} {g g' : Numbers}
    (hcarry : s'.bus.carriesNothing = true) (hnumber : g' = number s g .bus s') :
    ∃ k, g' = { g with carried := k } := by
  rw [hnumber]
  unfold number
  dsimp only
  split
  · next heq =>
    rw [heq] at hcarry
    exact nomatch hcarry
  · exact ⟨_, rfl⟩
  · exact ⟨g.carried, rfl⟩

theorem showsInOrder_bus (h : OrderedAt last p) (hguard : liveCopyInOrder p .bus = true)
    (hstep : p.1.step E .bus = some p'.1) (hnumber : p'.2 = number p.1 p.2 .bus p'.1) :
    ShowsInOrder last p .bus p' := by
  obtain ⟨⟨c, pc, firmware, w⟩, g⟩ := p
  obtain ⟨⟨c', pc', firmware', w'⟩, g'⟩ := p'
  obtain ⟨heffect, -⟩ := step_bus hstep
  dsimp only at heffect hnumber
  cases heffect with
  | session hblock hcarry hhost =>
    apply showsInOrder_of_nil (numberWritten_of_carriesNothing hcarry)
    have hlength := length_of_outputPart (Comm.outputPart_of_hostPart hhost)
    have hcarries := carriesOutput_of_carriesNothing hcarry
    obtain ⟨k, hk⟩ := number_of_carriesNothing hcarry hnumber
    show Ordered last c'.outputSnapshots.length (carriesOutput pc') g'
    rw [hlength, hcarries, hk]
    exact h.dropCarried k
  | eventPopped =>
    obtain rfl : g' = g := hnumber
    exact showsInOrder_of_nil rfl (h.dropCarried g'.carried)
  | snapshotPopped hqueue =>
    obtain rfl : g' = { g with carried := g.queued.headD 0, queued := g.queued.tail } := hnumber
    have hfull : Ordered last c.outputSnapshots.length false g := h
    rw [hqueue] at hfull
    exact showsInOrder_of_nil rfl hfull.pop
  | noSnapshot =>
    obtain rfl : g' = g := hnumber
    exact showsInOrder_of_nil rfl (h.dropCarried g'.carried)
  | copied =>
    next nextBoard refresh snapshot =>
    apply showsInOrder_of_nil rfl
    match snapshot, refresh with
    | some snapshot, false =>
      obtain rfl : g' = g := hnumber
      exact h
    | some snapshot, true =>
      obtain rfl : g' = g := hnumber
      exact h.dropCarried g'.carried
    | none, false =>
      -- the guard: the queue is not older than the live state
      obtain rfl : g' = { g with carried := g.live } := hnumber
      have hqueue : ∀ n ∈ g.queued, g.live ≤ n := by
        simpa [liveCopyInOrder] using hguard
      exact h.copyLive hqueue
    | none, true =>
      obtain rfl : g' = { g with carried := g.live } := hnumber
      exact h.dropCarried g.live
  | written hsent hhost =>
    obtain rfl : g' = g := hnumber
    have hlength := length_of_outputPart (Comm.outputPart_of_hostPart hhost)
    refine ⟨Or.inr ⟨g'.carried, rfl, (h.carried rfl).1⟩, ?_⟩
    show Ordered g'.carried c'.outputSnapshots.length false g'
    rw [hlength]
    exact h.write
  | consumed =>
    next nextBoard holdFrames =>
    have hcarry := BusPc.afterFrame_carriesNothing (P := P) nextBoard false
    obtain rfl : g' = g := hnumber
    apply showsInOrder_of_nil (numberWritten_of_carriesNothing hcarry)
    show Ordered last _ (carriesOutput (BusPc.afterFrame nextBoard false)) g'
    rw [carriesOutput_of_carriesNothing hcarry]
    exact h.dropCarried g'.carried
  | dirtyRead =>
    obtain rfl : g' = g := hnumber
    exact showsInOrder_of_nil rfl (h.dropCarried g'.carried)
  | bitmapCopied =>
    obtain rfl : g' = g := hnumber
    exact showsInOrder_of_nil rfl (h.dropCarried g'.carried)
  | replyWritten hhost =>
    obtain rfl : g' = g := hnumber
    have hlength := length_of_outputPart (Comm.outputPart_of_hostPart hhost)
    apply showsInOrder_of_nil rfl
    show Ordered last c'.outputSnapshots.length false g'
    rw [hlength]
    exact h.dropCarried g'.carried
  | dirtyCleared =>
    next _ board _ _ _ =>
    obtain rfl : g' = g := hnumber
    have hlength := length_of_outputPart (Comm.outputPart_clearDirty board c)
    apply showsInOrder_of_nil rfl
    show Ordered last (c.clearDirty board).outputSnapshots.length false g'
    rw [hlength]
    exact h.dropCarried g'.carried

/-- **Step lemma**: a step that the guard allows shows its number in order. -/
theorem showsInOrder_step {l : Label} (h : OrderedAt last p)
    (hguard : liveCopyInOrder p l = true) (hstep : stepNumbered E p l = some p') :
    ShowsInOrder last p l p' := by
  obtain ⟨hsys, hnumber⟩ := Transition.instrument_some.mp hstep
  by_cases hbus : l = .bus
  · subst hbus
    exact showsInOrder_bus h hguard hsys hnumber
  · apply showsInOrder_of_nil (by unfold numberWritten; simp [hbus])
    -- events add to the numbers, all else keeps them
    by_cases hevent : ∃ event, l = .queueEvent event
    · obtain ⟨event, rfl⟩ := hevent
      have heq := step_queueEvent hsys
      have hlength := length_absorb E.port p.1.world event p.1.comm p.2 h.sameLength
      have habsorb := h.absorb (p.1.comm.absorbed event)
      unfold OrderedAt
      rw [hnumber, heq]
      rwa [hlength] at habsorb
    · obtain ⟨hpc, houtput⟩ :=
        step_elsewhere hbus (fun event h => hevent ⟨event, h⟩) hsys
      have hsame : p'.2 = p.2 := by
        rw [hnumber]
        cases l <;> first | rfl | exact absurd rfl hbus | exact absurd ⟨_, rfl⟩ hevent
      unfold OrderedAt
      rw [hpc, hsame, length_of_outputPart houtput]
      exact h

end step

/-! ### Whole Runs -/

section runs

variable {E : Env W}

/-- **Run lemma**: from an ordered state on, the shown numbers are in order. -/
theorem ordered_run (last : Nat) (ls : List Label) (p : Sys P W × Numbers)
    (h : OrderedAt last p)
    (hguard : Transition.Along (stepNumbered E) (fun p l => liveCopyInOrder p l = true) p ls) :
    (last :: Transition.observe (stepNumbered E) numberWritten p ls).Pairwise (· ≤ ·) := by
  refine Transition.pairwise_observe (I := OrderedAt) ?_ h hguard
  intro last p l p' hordered hallowed hstep
  obtain ⟨hshown, hordered'⟩ := showsInOrder_step hordered hallowed hstep
  -- a step without a frame keeps the last number
  rcases hshown with hnil | ⟨n, hone, hle⟩
  · rw [hnil] at hordered'
    exact Or.inl ⟨hnil, hordered'⟩
  · rw [hone] at hordered'
    exact Or.inr ⟨n, hone, hle, hordered'⟩

/-- **Output history.**  From a state with an empty snapshot queue whose bus
    thread carries no output, in every run in which no live state is copied
    over an older queued snapshot, the numbers of the written frames never
    decrease. -/
theorem output_numbers_sorted (s : Sys P W) (ls : List Label)
    (hqueue : s.comm.outputSnapshots = []) (hbus : s.bus.carriesNothing = true)
    (hguard : LiveCopiesInOrder E s ls) : (numbersWritten E s ls).Pairwise (· ≤ ·) := by
  have hinit : OrderedAt 0 (s, ({} : Numbers)) := by
    refine ⟨?_, List.Pairwise.nil, by simp, ⟨le_refl _, by simp⟩, ?_⟩
    · rw [hqueue]
      rfl
    · intro hcarries
      rw [carriesOutput_of_carriesNothing hbus] at hcarries
      exact Bool.noConfusion hcarries
  exact (List.pairwise_cons.mp (ordered_run 0 ls _ hinit hguard)).2

end runs

end Sys

namespace Reference

open Sys

def lampOn : Event := { sourceId := .light, eventId := 20, value := 1 }

/-- A coil and a lamp update arrive during the sleep that follows an
    inspection of the empty queue. -/
def updatesDuringSleep : List Label :=
  List.replicate 5 .bus ++ [.queueEvent coilOn, .queueEvent lampOn] ++
    List.replicate 3 .bus ++ outputCycle

/-- The frame after the sleep has both updates, the next one only the coil. -/
theorem output_goes_back :
    ¬ ∀ ls : List Label, (numbersWritten env system ls).Pairwise (· ≤ ·) := by
  intro h
  exact absurd (h updatesDuringSleep) (by decide +kernel)

/-- The same updates before the inspection come in order. -/
theorem updates_before_inspection_sorted :
    (numbersWritten env system
      ([.queueEvent coilOn, .queueEvent lampOn] ++ outputCycle ++ outputCycle)).Pairwise
        (· ≤ ·) :=
  output_numbers_sorted system _ rfl rfl (by decide +kernel)

end Reference

end LibPpuc
