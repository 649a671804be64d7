import LibPpuc.Host.Outputs
import LibPpuc.Runtime.CoilRelease
import LibPpuc.Comm.Mapping

/-! # The Meaning of Coil Bits across Sessions

  The live bitmap, the hold counters and the queued snapshots are keyed by
  coil index.  What an index stands for is decided by the mapping, which
  every startup attempt replaces.

  Beside a run, `Provenance` records the on events that each stored coil bit
  stems from.  As long as no mapping is installed that gives another number
  to an index that is still driven, every coil bit on the wire stems from on
  events for the number that the mapping in force gives to it.
-/

namespace LibPpuc

namespace Host

variable {P : Protocol} {W : Type}

/-! ### Where Coil Bits Stem From -/

/-- For each coil index, the numbers of the on events that its bit stems
    from. -/
abbrev Stems : Type := Nat → List UInt16

/-- Every set bit stems from the event that is last known for its index. -/
def stemsOf (coils : Vector UInt8 P.kMaxCoilBytes) (lastOn : Nat → UInt16) : Stems := fun i =>
  if P.bits.get coils i then [lastOn i] else []

/-- The history of the stored coil bits. -/
structure Provenance where
  /-- The number of the last on event for each index. -/
  lastOn : Nat → UInt16
  /-- For each queued snapshot. -/
  queued : List Stems
  /-- For what each bus thread has popped or copied. -/
  carried : Nat → Stems

/-- Nothing is set. -/
def Provenance.start : Provenance where
  lastOn := fun _ => 0
  queued := []
  carried := fun _ _ => []

/-- The history after an event. -/
def noteEvent (c : Comm P) (event : Event) (t : Provenance) : Provenance :=
  match event.sourceId with
  | .solenoid =>
    match c.coilNumberToIndex.lookup event.eventId with
    | some index =>
      if index < P.kMaxCoilBits then
        let lastOn :=
          if event.value ≠ 0 then Function.update t.lastOn index event.eventId else t.lastOn
        { t with
          lastOn := lastOn
          queued :=
            BoundedQueue.push RS485_COMM_OUTPUT_QUEUE_SIZE_MAX t.queued
              (stemsOf (c.setCoil index (event.value != 0)).coilBitmap lastOn) }
      else t
    | none => t
  | _ => t

/-- What the coils of the state stem from that is copied for a frame: a popped
    snapshot, or the live state. -/
def sourceStems (c : Comm P) (snapshot : Option (QueuedOutputSnapshot P)) (k : Nat)
    (t : Provenance) : Stems :=
  match snapshot with
  | some _ => t.carried k
  | none => stemsOf c.coilBitmap t.lastOn

/-- What the coils of the frame stem from, with those that are held. -/
def copiedStems (c : Comm P) (snapshot : Option (QueuedOutputSnapshot P)) (k : Nat)
    (t : Provenance) : Stems := fun i =>
  sourceStems c snapshot k t i ++
    if i < c.heldCoilBits ∧ holdAt c.coilHoldFrames i ≠ 0 then [t.lastOn i] else []

/-- The history after a block of bus thread `k`. -/
def noteBlock (c : Comm P) (k : Nat) (pc pc' : BusPc P) (t : Provenance) : Provenance :=
  match pc, pc' with
  | .inspectQueue, .copyState _ _ (some _) =>
    { t with
      queued := t.queued.tail
      carried := Function.update t.carried k (t.queued.headD fun _ => []) }
  | .copyState _ _ snapshot, _ =>
    { t with carried := Function.update t.carried k (copiedStems c snapshot k t) }
  | _, _ => t

/-- The history after a step. -/
def note (E : HostEnv W) (s : Host P W) (t : Provenance) (l : HostLabel) (s' : Host P W) :
    Provenance :=
  match s.queuedEvent E l with
  | some event => noteEvent s.comm event t
  | none =>
    match l, s.app with
    | .bus k, _ =>
      match s.threads[k]?, s'.threads[k]? with
      | some pc, some pc' => noteBlock s.comm k pc pc' t
      | _, _ => t
    | .app, .clearingSnapshots => { t with queued := [] }
    | _, _ => t

/-- The host with the history of its coil bits. -/
def stepNoted (E : HostEnv W) :
    Host P W × Provenance → HostLabel → Option (Host P W × Provenance) :=
  Transition.instrument (step E) (note E)

/-! ### Frames and What They Drive -/

/-- An output frame on the wire, with the mapping in force. -/
structure DrivenFrame (P : Protocol) where
  frame : QueuedOutputSnapshot P
  coilIndexToNumber : List UInt16
  stems : Stems

/-- The output frame that a bus thread wrote with success. -/
def frameDriven (p : Host P W × Provenance) (l : HostLabel) (p' : Host P W × Provenance) :
    List (DrivenFrame P) :=
  match l with
  | .bus k =>
    match p.1.threads[k]?, p'.1.threads[k]? with
    | some (.writeFrame _ false frame _), some (.consumeHoldover _ _) =>
      [{ frame := frame
         coilIndexToNumber := p.1.comm.coilIndexToNumber
         stems := p.2.carried k }]
    | _, _ => []
  | _ => []

/-- The output frames that the bus threads of a run write. -/
def framesDriven (E : HostEnv W) (s : Host P W) (ls : List HostLabel) : List (DrivenFrame P) :=
  Transition.observe (stepNoted E) frameDriven (s, Provenance.start) ls

/-- Each set coil bit stems from on events, all for the number that the
    mapping gives to its index. -/
def Justified (mapping : List UInt16) (coils : Vector UInt8 P.kMaxCoilBytes) (stems : Stems) :
    Prop :=
  ∀ i < P.kMaxCoilBits, (P.bits.get coils i = true ↔ stems i ≠ []) ∧
    ∀ number ∈ stems i, mapping[i]? = some number

instance (mapping : List UInt16) (coils : Vector UInt8 P.kMaxCoilBytes) (stems : Stems) :
    Decidable (Justified mapping coils stems) :=
  inferInstanceAs (Decidable (∀ i < P.kMaxCoilBits, _ ∧ _))

/-! ### The Guard -/

/-- The coils a bus thread has popped or copied. -/
def carriedCoils : BusPc P → Option (Vector UInt8 P.kMaxCoilBytes)
  | .copyState _ _ (some snapshot) => some snapshot.coilBitmap
  | .writeFrame _ _ frame _ => some frame.coilBitmap
  | _ => none

/-- The coils that still drive something: live, queued, or on their way. -/
def storedCoils (s : Host P W) : List (Vector UInt8 P.kMaxCoilBytes) :=
  s.comm.coilBitmap :: s.comm.outputSnapshots.map QueuedOutputSnapshot.coilBitmap ++
    s.threads.filterMap carriedCoils

/-- Coil index `i` is set somewhere or held. -/
def drivesCoil (s : Host P W) (i : Nat) : Bool :=
  holdAt s.comm.coilHoldFrames i != 0 || s.storedCoils.any fun coils => P.bits.get coils i

/-- A mapping that the step installs gives every index that is still driven
    the number it had. -/
def keepsNumbers (s : Host P W) (l : HostLabel) : Prop :=
  ∀ mapping ∈ s.installedMapping l, ∀ i < P.kMaxCoilBits, s.drivesCoil i = true →
    mapping[i]? = s.comm.coilIndexToNumber[i]?

instance (s : Host P W) (l : HostLabel) : Decidable (s.keepsNumbers l) :=
  inferInstanceAs (Decidable (∀ mapping ∈ s.installedMapping l, _))

/-- No step of the run gives another number to an index that is driven. -/
def KeepsNumbers (E : HostEnv W) (s : Host P W) (ls : List HostLabel) : Prop :=
  Transition.Along (stepNoted E) (fun p l => p.1.keepsNumbers l) (s, Provenance.start) ls

instance (E : HostEnv W) (s : Host P W) (ls : List HostLabel) : Decidable (KeepsNumbers E s ls) :=
  inferInstanceAs (Decidable (Transition.Along _ _ _ _))

/-! ### The Invariant -/

/-- Every stored coil bit has the meaning it was set with. -/
structure Meaning (p : Host P W × Provenance) : Prop where
  index : ∀ number i, p.1.comm.coilNumberToIndex.lookup number = some i →
    p.1.comm.coilIndexToNumber[i]? = some number
  live : Justified p.1.comm.coilIndexToNumber p.1.comm.coilBitmap
    (stemsOf p.1.comm.coilBitmap p.2.lastOn)
  held : ∀ i < P.kMaxCoilBits, holdAt p.1.comm.coilHoldFrames i ≠ 0 →
    p.1.comm.coilIndexToNumber[i]? = some (p.2.lastOn i)
  queued : List.Forall₂ (fun snapshot stems =>
    Justified p.1.comm.coilIndexToNumber snapshot.coilBitmap stems)
    p.1.comm.outputSnapshots p.2.queued
  carried : ∀ k pc coils, p.1.threads[k]? = some pc → carriedCoils pc = some coils →
    Justified p.1.comm.coilIndexToNumber coils (p.2.carried k)

section meaning

variable {pos : Nat → Nat} {E : HostEnv W} {p p' : Host P W × Provenance}

theorem justified_stemsOf {mapping : List UInt16} {coils : Vector UInt8 P.kMaxCoilBytes}
    {lastOn : Nat → UInt16} :
    Justified mapping coils (stemsOf coils lastOn) ↔
      ∀ i < P.kMaxCoilBits, P.bits.get coils i = true → mapping[i]? = some (lastOn i) := by
  unfold Justified stemsOf
  constructor
  · intro h i hi hbit
    exact (h i hi).2 _ (by simp [hbit])
  · intro h i hi
    cases hbit : P.bits.get coils i with
    | true => simpa using h i hi hbit
    | false => simp

/-- Nothing is remapped, and no coil is added to the live state or held. -/
theorem Meaning.of_fewer (h : Meaning p)
    (hmapping : p'.1.comm.coilIndexToNumber = p.1.comm.coilIndexToNumber)
    (hindex : p'.1.comm.coilNumberToIndex = p.1.comm.coilNumberToIndex)
    (hlast : p'.2.lastOn = p.2.lastOn)
    (hlive : ∀ i < P.kMaxCoilBits, P.bits.get p'.1.comm.coilBitmap i = true →
      P.bits.get p.1.comm.coilBitmap i = true)
    (hheld : ∀ i, holdAt p'.1.comm.coilHoldFrames i ≠ 0 →
      holdAt p.1.comm.coilHoldFrames i ≠ 0)
    (hqueued : List.Forall₂ (fun snapshot stems =>
      Justified p.1.comm.coilIndexToNumber snapshot.coilBitmap stems)
      p'.1.comm.outputSnapshots p'.2.queued)
    (hcarried : ∀ (k : Nat) (pc : BusPc P) (coils : Vector UInt8 P.kMaxCoilBytes),
      p'.1.threads[k]? = some pc → carriedCoils pc = some coils →
      Justified p.1.comm.coilIndexToNumber coils (p'.2.carried k)) : Meaning p' := by
  constructor
  · rw [hmapping, hindex]
    exact h.index
  · rw [hmapping, hlast]
    apply justified_stemsOf.mpr
    exact fun i hi hbit => justified_stemsOf.mp h.live i hi (hlive i hi hbit)
  · rw [hmapping, hlast]
    exact fun i hi hhold => h.held i hi (hheld i hhold)
  · rw [hmapping]
    exact hqueued
  · rw [hmapping]
    exact hcarried

/-- The same stores with the same history. -/
theorem Meaning.of_store (h : Meaning p) (hstore : p'.1.comm.outputStore = p.1.comm.outputStore)
    (htrace : p'.2 = p.2)
    (hcarried : ∀ (k : Nat) (pc : BusPc P) (coils : Vector UInt8 P.kMaxCoilBytes),
      p'.1.threads[k]? = some pc → carriedCoils pc = some coils → p.1.threads[k]? = some pc) :
    Meaning p' := by
  have hlive : p'.1.comm.coilBitmap = p.1.comm.coilBitmap :=
    (congrArg OutputStore.coilBitmap hstore :)
  have hframes : p'.1.comm.coilHoldFrames = p.1.comm.coilHoldFrames :=
    (congrArg OutputStore.coilHoldFrames hstore :)
  have hqueue : p'.1.comm.outputSnapshots = p.1.comm.outputSnapshots :=
    (congrArg OutputStore.outputSnapshots hstore :)
  refine h.of_fewer (congrArg OutputStore.coilIndexToNumber hstore :)
    (congrArg OutputStore.coilNumberToIndex hstore :) (by rw [htrace]) ?_ ?_ ?_ ?_
  · rw [hlive]
    exact fun i _ hbit => hbit
  · rw [hframes]
    exact fun i hhold => hhold
  · rw [hqueue, htrace]
    exact h.queued
  · intro k pc coils hthread hcoils
    rw [htrace]
    exact h.carried k pc coils (hcarried k pc coils hthread hcoils) hcoils

/-! ### Blocks of the Bus Threads -/

/-- A block of thread `k` that keeps mapping and live state. -/
theorem Meaning.of_block (h : Meaning p) {k : Nat} {pc' : BusPc P}
    (hthreads : p'.1.threads = p.1.threads.set k pc')
    (hmapping : p'.1.comm.coilIndexToNumber = p.1.comm.coilIndexToNumber)
    (hindex : p'.1.comm.coilNumberToIndex = p.1.comm.coilNumberToIndex)
    (hlive : p'.1.comm.coilBitmap = p.1.comm.coilBitmap) (hlast : p'.2.lastOn = p.2.lastOn)
    (hheld : ∀ i, holdAt p'.1.comm.coilHoldFrames i ≠ 0 →
      holdAt p.1.comm.coilHoldFrames i ≠ 0)
    (hqueued : List.Forall₂ (fun snapshot stems =>
      Justified p.1.comm.coilIndexToNumber snapshot.coilBitmap stems)
      p'.1.comm.outputSnapshots p'.2.queued)
    (hother : ∀ j, j ≠ k → p'.2.carried j = p.2.carried j)
    (hown : ∀ coils, carriedCoils pc' = some coils →
      Justified p.1.comm.coilIndexToNumber coils (p'.2.carried k)) : Meaning p' := by
  refine h.of_fewer hmapping hindex hlast ?_ hheld hqueued ?_
  · rw [hlive]
    exact fun i _ hbit => hbit
  · intro j pc coils hthread hcoils
    rw [hthreads, List.getElem?_set] at hthread
    split at hthread
    · next hjk =>
      subst hjk
      split at hthread
      · obtain rfl := Option.some.inj hthread
        exact hown coils hcoils
      · exact nomatch hthread
    · next hjk =>
      rw [hother j (fun heq => hjk heq.symm)]
      exact h.carried j pc coils hthread hcoils

/-- A block that keeps the store and carries no coils on. -/
theorem Meaning.of_quietBlock (h : Meaning p) {k : Nat} {pc' : BusPc P}
    (hthreads : p'.1.threads = p.1.threads.set k pc')
    (hstore : p'.1.comm.outputStore = p.1.comm.outputStore) (htrace : p'.2 = p.2)
    (hnothing : carriedCoils pc' = none) : Meaning p' := by
  have hqueue : p'.1.comm.outputSnapshots = p.1.comm.outputSnapshots :=
    (congrArg OutputStore.outputSnapshots hstore :)
  have hframes : p'.1.comm.coilHoldFrames = p.1.comm.coilHoldFrames :=
    (congrArg OutputStore.coilHoldFrames hstore :)
  refine h.of_block hthreads (congrArg OutputStore.coilIndexToNumber hstore :)
    (congrArg OutputStore.coilNumberToIndex hstore :) (congrArg OutputStore.coilBitmap hstore :)
    (by rw [htrace]) ?_ ?_ ?_ ?_
  · intro i hhold
    rw [hframes] at hhold
    exact hhold
  · rw [hqueue, htrace]
    exact h.queued
  · intro j _
    rw [htrace]
  · intro coils hcoils
    rw [hnothing] at hcoils
    exact nomatch hcoils

theorem noteBlock_of_session {c : Comm P} {k : Nat} {pc pc' : BusPc P} {t : Provenance}
    (hblock : pc.alwaysShares = false) : noteBlock c k pc pc' t = t := by
  unfold noteBlock
  split
  · exact Bool.noConfusion hblock
  · exact Bool.noConfusion hblock
  · rfl

theorem carriedCoils_of_carriesNothing {pc : BusPc P} (hcarry : pc.carriesNothing = true) :
    carriedCoils pc = none := by
  unfold carriedCoils
  split
  · exact Bool.noConfusion hcarry
  · exact Bool.noConfusion hcarry
  · rfl

/-- A copied frame is justified by what was copied and what is held. -/
theorem justified_copied (hP : P.Lawful pos) (h : Meaning p) {k : Nat} {nextBoard : UInt8}
    {refresh : Bool} {snapshot : Option (QueuedOutputSnapshot P)}
    (hthread : p.1.threads[k]? = some (.copyState nextBoard refresh snapshot)) :
    Justified p.1.comm.coilIndexToNumber
      (p.1.comm.heldSnapshot (snapshot.getD p.1.comm.outputSnapshot)).coilBitmap
      (copiedStems p.1.comm snapshot k p.2) := by
  -- the copied state is justified as it is
  have hsource : Justified p.1.comm.coilIndexToNumber
      (snapshot.getD p.1.comm.outputSnapshot).coilBitmap
      (sourceStems p.1.comm snapshot k p.2) := by
    cases snapshot with
    | some snapshot => exact h.carried k _ _ hthread rfl
    | none => exact h.live
  intro i hi
  obtain ⟨hbit, hnumbers⟩ := hsource i hi
  have hget := Comm.get_applyCoilHoldover hP p.1.comm
    (snapshot.getD p.1.comm.outputSnapshot).coilBitmap p.1.comm.coilHoldFrames hi
  unfold copiedStems
  constructor
  · show P.bits.get (p.1.comm.applyCoilHoldover _ _) i = true ↔ _
    rw [hget]
    by_cases hhold : i < p.1.comm.heldCoilBits ∧ holdAt p.1.comm.coilHoldFrames i ≠ 0
    · simp [hhold]
    · rw [if_neg hhold, List.append_nil, decide_eq_false hhold, Bool.false_or]
      exact hbit
  · intro number hnumber
    rcases List.mem_append.mp hnumber with hold | hnew
    · exact hnumbers number hold
    · split at hnew
      · next hhold =>
        obtain rfl := List.mem_singleton.mp hnew
        exact h.held i hi hhold.2
      · exact nomatch hnew

theorem meaning_bus (hP : P.Lawful pos) (h : Meaning p) {k : Nat} {pc pc' : BusPc P}
    (hthread : p.1.threads[k]? = some pc) (hthreads : p'.1.threads = p.1.threads.set k pc')
    (heffect : Comm.BusEffect E.port p.1.comm p.1.world pc pc' p'.1.comm)
    (htrace : p'.2 = noteBlock p.1.comm k pc pc' p.2) : Meaning p' := by
  obtain ⟨s, t⟩ := p
  obtain ⟨s', t'⟩ := p'
  dsimp only at hthread hthreads heffect htrace
  generalize hc' : s'.comm = c' at heffect
  cases heffect with
  | session hblock hcarry hhost =>
    rw [noteBlock_of_session hblock] at htrace
    subst hc'
    exact h.of_quietBlock hthreads (Comm.outputStore_of_hostPart hhost) htrace
      (carriedCoils_of_carriesNothing hcarry)
  | eventPopped hqueue =>
    refine h.of_quietBlock hthreads ?_ htrace rfl
    rw [hc']
    rfl
  | snapshotPopped hqueue =>
    next nextBoard snapshot rest =>
    -- the head of the queue is now carried by the thread
    have hqueued := h.queued
    dsimp only at hqueued
    rw [hqueue] at hqueued
    obtain ⟨stems, stemsRest, hhead, htail, hstems⟩ := List.forall₂_cons_left_iff.mp hqueued
    subst htrace
    refine h.of_block hthreads (by rw [hc']) (by rw [hc']) (by rw [hc']) rfl ?_ ?_ ?_ ?_
    · intro i hhold
      dsimp only at hhold
      rw [hc'] at hhold
      exact hhold
    · dsimp only [noteBlock]
      rw [hc', hstems]
      exact htail
    · intro j hj
      exact Function.update_of_ne hj _ _
    · intro coils hcoils
      obtain rfl := Option.some.inj hcoils
      dsimp only [noteBlock]
      rw [Function.update_self, hstems]
      exact hhead
  | noSnapshot hqueue =>
    refine h.of_quietBlock hthreads ?_ htrace rfl
    rw [hc']
  | copied =>
    next nextBoard refresh snapshot =>
    have hown := justified_copied hP h hthread
    subst htrace
    refine h.of_block hthreads (by rw [hc']) (by rw [hc']) (by rw [hc']) rfl ?_ ?_ ?_ ?_
    · intro i hhold
      dsimp only at hhold
      rw [hc'] at hhold
      exact hhold
    · dsimp only [noteBlock]
      rw [hc']
      exact h.queued
    · intro j hj
      exact Function.update_of_ne hj _ _
    · intro coils hcoils
      obtain rfl := Option.some.inj hcoils
      dsimp only [noteBlock]
      rw [Function.update_self]
      exact hown
  | written hsent hhost =>
    subst hc'
    exact h.of_quietBlock hthreads (Comm.outputStore_of_hostPart hhost) htrace rfl
  | consumed =>
    next nextBoard holdFrames =>
    have hcarry := BusPc.afterFrame_carriesNothing (P := P) nextBoard false
    subst htrace
    refine h.of_block hthreads (by rw [hc']; rfl) (by rw [hc']; rfl) (by rw [hc']; rfl) rfl ?_ ?_
      (fun j _ => rfl) ?_
    · intro i hhold hzero
      dsimp only at hhold hzero
      rw [hc', Comm.holdAt_consume, hzero] at hhold
      simp at hhold
    · dsimp only [noteBlock]
      rw [hc']
      exact h.queued
    · intro coils hcoils
      rw [carriedCoils_of_carriesNothing hcarry] at hcoils
      exact nomatch hcoils
  | dirtyRead hlookup =>
    refine h.of_quietBlock hthreads ?_ htrace rfl
    rw [hc']
  | bitmapCopied =>
    refine h.of_quietBlock hthreads ?_ htrace rfl
    rw [hc']
  | replyWritten hhost =>
    subst hc'
    exact h.of_quietBlock hthreads (Comm.outputStore_of_hostPart hhost) htrace rfl
  | dirtyCleared =>
    refine h.of_quietBlock hthreads ?_ htrace rfl
    rw [hc']
    exact Comm.outputStore_of_outputPart (Comm.outputPart_clearDirty _ _)

/-! ### Events -/

theorem noteEvent_coil {c : Comm P} {event : Event} {index : Nat} (t : Provenance)
    (hsource : event.sourceId = .solenoid)
    (hlookup : c.coilNumberToIndex.lookup event.eventId = some index)
    (hindex : index < P.kMaxCoilBits) :
    noteEvent c event t =
      let lastOn :=
        if event.value ≠ 0 then Function.update t.lastOn index event.eventId else t.lastOn
      { t with
        lastOn := lastOn
        queued :=
          BoundedQueue.push RS485_COMM_OUTPUT_QUEUE_SIZE_MAX t.queued
            (stemsOf (c.setCoil index (event.value != 0)).coilBitmap lastOn) } := by
  unfold noteEvent
  simp only [hsource, hlookup, hindex, if_true]

theorem noteEvent_other {c : Comm P} {event : Event} (t : Provenance)
    (hnot : ¬ ∃ index, event.sourceId = .solenoid ∧
      c.coilNumberToIndex.lookup event.eventId = some index ∧ index < P.kMaxCoilBits) :
    noteEvent c event t = t := by
  unfold noteEvent
  split
  · next hsource =>
    split
    · next index hlookup =>
      split
      · next hindex => exact absurd ⟨index, hsource, hlookup, hindex⟩ hnot
      · rfl
    · rfl
  · rfl

/-- After a coil update the live state stems from the events that are last
    known. -/
theorem justified_setCoil (hP : P.Lawful pos) (h : Meaning p) {event : Event} {index : Nat}
    (hlookup : p.1.comm.coilNumberToIndex.lookup event.eventId = some index)
    (hindex : index < P.kMaxCoilBits) :
    Justified p.1.comm.coilIndexToNumber
      (p.1.comm.setCoil index (event.value != 0)).coilBitmap
      (stemsOf (p.1.comm.setCoil index (event.value != 0)).coilBitmap
        (if event.value ≠ 0 then Function.update p.2.lastOn index event.eventId
        else p.2.lastOn)) := by
  have hlive := justified_stemsOf.mp h.live
  apply justified_stemsOf.mpr
  intro i hi hbit
  have hget : P.bits.get (p.1.comm.setCoil index (event.value != 0)).coilBitmap i =
      if i = index then event.value != 0 else P.bits.get p.1.comm.coilBitmap i :=
    BitAccess.get_set hP.bits _ _ _ _ (hP.coil_byte_lt hi)
  rw [hget] at hbit
  by_cases hii : i = index
  · -- the coil of the event is on, so it was an on event
    subst hii
    rw [if_pos rfl] at hbit
    rw [if_pos (bne_iff_ne.mp hbit), Function.update_self]
    exact h.index _ _ hlookup
  · rw [if_neg hii] at hbit
    have hold := hlive i hi hbit
    split
    · rw [Function.update_of_ne hii]
      exact hold
    · exact hold

theorem meaning_event (hP : P.Lawful pos) (h : Meaning p) {event : Event}
    (hthreads : p'.1.threads = p.1.threads)
    (hcomm : p'.1.comm = p.1.comm.queueEvent E.port p.1.world event)
    (htrace : p'.2 = noteEvent p.1.comm event p.2) : Meaning p' := by
  by_cases hcoil : ∃ index, event.sourceId = .solenoid ∧
      p.1.comm.coilNumberToIndex.lookup event.eventId = some index ∧ index < P.kMaxCoilBits
  · obtain ⟨index, hsource, hlookup, hindex⟩ := hcoil
    have hlive := justified_setCoil hP h hlookup hindex
    obtain ⟨log, hpushed⟩ := Comm.queueOutputSnapshotLocked_eq E.port p.1.world
      (p.1.comm.setCoil index (event.value != 0))
    rw [Comm.queueEvent_coil E.port p.1.world hsource hlookup hindex, hpushed] at hcomm
    rw [noteEvent_coil p.2 hsource hlookup hindex] at htrace
    constructor
    · rw [hcomm]
      exact h.index
    · rw [hcomm, htrace]
      exact hlive
    · -- a held coil was held before, or is the one that goes on
      rw [hcomm, htrace]
      intro i hi hhold
      have hset := Comm.holdAt_setCoil p.1.comm index i (event.value != 0) hindex
      have hhold' : holdAt (p.1.comm.setCoil index (event.value != 0)).coilHoldFrames i ≠ 0 :=
        hhold
      rw [hset] at hhold'
      dsimp only
      by_cases hii : i = index
      · subst hii
        by_cases hvalue : event.value ≠ 0
        · rw [if_pos hvalue, Function.update_self]
          exact h.index _ _ hlookup
        · rw [if_neg hvalue]
          rw [if_neg (fun hon => hvalue (bne_iff_ne.mp hon.2))] at hhold'
          exact h.held i hi hhold'
      · rw [if_neg (fun hon => hii hon.1)] at hhold'
        have hold := h.held i hi hhold'
        split
        · rw [Function.update_of_ne hii]
          exact hold
        · exact hold
    · rw [hcomm, htrace]
      exact BoundedQueue.forall₂_push h.queued hlive
    · rw [hcomm, htrace, hthreads]
      exact h.carried
  · rw [noteEvent_other p.2 hcoil] at htrace
    have heffect := Comm.queueEvent_effect E.port p.1.world event p.1.comm
    rw [← hcomm] at heffect
    have hcarried : ∀ (k : Nat) (pc : BusPc P) (coils : Vector UInt8 P.kMaxCoilBytes),
        p'.1.threads[k]? = some pc → carriedCoils pc = some coils →
        p.1.threads[k]? = some pc := fun k pc coils hthread _ => hthreads ▸ hthread
    generalize hc' : p'.1.comm = c' at heffect
    -- without a mapped coil the event leaves the coils alone
    cases heffect with
    | coil index log hsource hlookup hindex =>
      exact absurd ⟨index, hsource, hlookup, hindex⟩ hcoil
    | level =>
      constructor
      · rw [hc']
        exact h.index
      · rw [hc', htrace]
        exact h.live
      · rw [hc', htrace]
        exact h.held
      · rw [hc', htrace]
        exact h.queued
      · rw [hc', htrace, hthreads]
        exact h.carried
    | run => exact h.of_store (by rw [hc']; rfl) htrace hcarried
    | effect => exact h.of_store (by rw [hc']; rfl) htrace hcarried
    | ignored => exact h.of_store (by rw [hc']) htrace hcarried

/-! ### Installing a Mapping -/

/-- Coils whose indices keep their numbers stay justified. -/
theorem Justified.remap {mapping mapping' : List UInt16}
    {coils : Vector UInt8 P.kMaxCoilBytes} {stems : Stems} (h : Justified mapping coils stems)
    (hkeep : ∀ i < P.kMaxCoilBits, P.bits.get coils i = true → mapping'[i]? = mapping[i]?) :
    Justified mapping' coils stems := by
  intro i hi
  obtain ⟨hbit, hnumbers⟩ := h i hi
  refine ⟨hbit, fun number hnumber => ?_⟩
  rw [hkeep i hi (hbit.mpr (List.ne_nil_of_mem hnumber))]
  exact hnumbers number hnumber

theorem drivesCoil_of_mem {s : Host P W} {coils : Vector UInt8 P.kMaxCoilBytes} {i : Nat}
    (hmem : coils ∈ s.storedCoils) (hbit : P.bits.get coils i = true) :
    s.drivesCoil i = true := by
  unfold drivesCoil
  rw [Bool.or_eq_true]
  exact Or.inr (List.any_eq_true.mpr ⟨coils, hmem, hbit⟩)

theorem meaning_installed (h : Meaning p) {mapping : List UInt16}
    (hthreads : p'.1.threads = p.1.threads)
    (hstore : p'.1.comm.outputStore = { p.1.comm.outputStore with
      coilIndexToNumber := mapping
      coilNumberToIndex := Comm.numberToIndex mapping })
    (htrace : p'.2 = p.2)
    (hguard : ∀ i < P.kMaxCoilBits, p.1.drivesCoil i = true →
      mapping[i]? = p.1.comm.coilIndexToNumber[i]?) : Meaning p' := by
  have hmapping : p'.1.comm.coilIndexToNumber = mapping :=
    (congrArg OutputStore.coilIndexToNumber hstore :)
  have hindex : p'.1.comm.coilNumberToIndex = Comm.numberToIndex mapping :=
    (congrArg OutputStore.coilNumberToIndex hstore :)
  have hlive : p'.1.comm.coilBitmap = p.1.comm.coilBitmap :=
    (congrArg OutputStore.coilBitmap hstore :)
  have hheld : p'.1.comm.coilHoldFrames = p.1.comm.coilHoldFrames :=
    (congrArg OutputStore.coilHoldFrames hstore :)
  have hqueue : p'.1.comm.outputSnapshots = p.1.comm.outputSnapshots :=
    (congrArg OutputStore.outputSnapshots hstore :)
  -- a coil that a stored buffer drives keeps its number
  have hkeep : ∀ coils ∈ p.1.storedCoils, ∀ i < P.kMaxCoilBits, P.bits.get coils i = true →
      mapping[i]? = p.1.comm.coilIndexToNumber[i]? :=
    fun coils hmem i hi hbit => hguard i hi (drivesCoil_of_mem hmem hbit)
  -- the lookup, the live buffer, the holds, the queue and the threads
  constructor
  · rw [hmapping, hindex]
    exact fun number i hlookup => Comm.getElem?_of_lookup_numberToIndex hlookup
  · rw [hmapping, hlive, htrace]
    exact h.live.remap (hkeep _ List.mem_cons_self)
  · rw [hmapping, hheld, htrace]
    intro i hi hhold
    have hdrives : p.1.drivesCoil i = true := by
      unfold drivesCoil
      rw [Bool.or_eq_true]
      exact Or.inl (bne_iff_ne.mpr hhold)
    rw [hguard i hi hdrives]
    exact h.held i hi hhold
  · rw [hmapping, hqueue, htrace]
    have hqueued : ∀ snapshot ∈ p.1.comm.outputSnapshots,
        snapshot.coilBitmap ∈ p.1.storedCoils := by
      intro snapshot hmem
      apply List.mem_append_left
      exact List.mem_cons_of_mem _ (List.mem_map_of_mem hmem)
    refine List.Forall₂.imp ?_ (List.forall₂_and_left _ _ |>.mpr ⟨hqueued, h.queued⟩)
    exact fun snapshot stems hboth => hboth.2.remap (hkeep _ hboth.1)
  · intro k pc coils hthread hcoils
    rw [hthreads] at hthread
    rw [hmapping, htrace]
    have hmem : coils ∈ p.1.storedCoils := by
      apply List.mem_append_right
      exact List.mem_filterMap.mpr ⟨pc, List.mem_of_getElem? hthread, hcoils⟩
    exact (h.carried k pc coils hthread hcoils).remap (hkeep _ hmem)

/-! ### Steps -/

/-- A step that cannot touch the snapshot queue leaves the history alone. -/
theorem note_of_quiet {s s' : Host P W} {l : HostLabel} (t : Provenance)
    (hl : s.touchesSnapshots E l = false) : note E s t l s' = t := by
  unfold touchesSnapshots at hl
  obtain ⟨hevent, hblock⟩ := Bool.or_eq_false_iff.mp hl
  have hnone : s.queuedEvent E l = none := by simpa using hevent
  unfold note
  rw [hnone]
  dsimp only
  split
  · exact Bool.noConfusion hblock
  · next happ =>
    rw [happ] at hblock
    exact Bool.noConfusion hblock
  · rfl

theorem note_bus {s s' : Host P W} {k : Nat} {pc pc' : BusPc P} (t : Provenance)
    (hthread : s.threads[k]? = some pc) (hthreads : s'.threads = s.threads.set k pc') :
    note E s t (.bus k) s' = noteBlock s.comm k pc pc' t := by
  have hk : k < s.threads.length := (List.getElem?_eq_some_iff.mp hthread).1
  have hthread' : s'.threads[k]? = some pc' := by
    rw [hthreads, List.getElem?_set_self hk]
  unfold note queuedEvent
  dsimp only
  rw [hthread, hthread']

theorem holdAt_replicate_zero {n : Nat} (i : Nat) : holdAt (Vector.replicate n 0) i = 0 := by
  unfold holdAt
  rw [Vector.getElem?_replicate]
  split <;> rfl

/-- Threads that carry coils are the ones from before. -/
theorem thread_of_append {s s' : Host P W} (hthreads : s'.threads = s.threads ++ [.loop])
    (k : Nat) (pc : BusPc P) (coils : Vector UInt8 P.kMaxCoilBytes)
    (hthread : s'.threads[k]? = some pc) (hcoils : carriedCoils pc = some coils) :
    s.threads[k]? = some pc := by
  rw [hthreads, List.getElem?_append] at hthread
  split at hthread
  · exact hthread
  · have hmem := List.mem_of_getElem? hthread
    obtain rfl := List.mem_singleton.mp hmem
    exact nomatch hcoils

/-- Clearing the queue leaves fewer coils to justify. -/
theorem meaning_snapshotsCleared (h : Meaning p) (hthreads : p'.1.threads = p.1.threads)
    (hstore : p'.1.comm.outputStore = { p.1.comm.outputStore with outputSnapshots := [] })
    (htrace : p'.2 = { p.2 with queued := [] }) : Meaning p' := by
  have hqueue : p'.1.comm.outputSnapshots = [] := (congrArg OutputStore.outputSnapshots hstore :)
  have hlive : p'.1.comm.coilBitmap = p.1.comm.coilBitmap :=
    (congrArg OutputStore.coilBitmap hstore :)
  have hframes : p'.1.comm.coilHoldFrames = p.1.comm.coilHoldFrames :=
    (congrArg OutputStore.coilHoldFrames hstore :)
  refine h.of_fewer (congrArg OutputStore.coilIndexToNumber hstore :)
    (congrArg OutputStore.coilNumberToIndex hstore :) (by rw [htrace]) ?_ ?_ ?_ ?_
  · rw [hlive]
    exact fun i _ hbit => hbit
  · rw [hframes]
    exact fun i hhold => hhold
  · rw [hqueue, htrace]
    exact List.Forall₂.nil
  · intro k pc coils hthread hcoils
    rw [htrace]
    exact h.carried k pc coils (hthreads ▸ hthread) hcoils

/-- So does clearing the output state. -/
theorem meaning_outputCleared (hP : P.Lawful pos) (h : Meaning p)
    (hthreads : p'.1.threads = p.1.threads) (hcomm : p'.1.comm = p.1.comm.clearOutputState)
    (htrace : p'.2 = p.2) : Meaning p' := by
  refine h.of_fewer (by rw [hcomm]; rfl) (by rw [hcomm]; rfl) (by rw [htrace]) ?_ ?_ ?_ ?_
  · -- no coil is set or held
    intro i hi hbit
    have hclear : P.bits.get p'.1.comm.coilBitmap i = false := by
      rw [hcomm]
      exact BitAccess.get_replicate_zero hP.bits i (hP.coil_byte_lt hi)
    exact nomatch hclear.symm.trans hbit
  · intro i hhold
    rw [hcomm] at hhold
    exact absurd (holdAt_replicate_zero i) hhold
  · rw [hcomm, htrace]
    exact h.queued
  · intro k pc coils hthread hcoils
    rw [htrace]
    exact h.carried k pc coils (hthreads ▸ hthread) hcoils

/-- **Step lemma**: a step that the guard allows keeps the meaning of all
    stored coil bits. -/
theorem meaning_step (hP : P.Lawful pos) {l : HostLabel} (h : Meaning p)
    (hguard : p.1.keepsNumbers l) (hstep : stepNoted E p l = some p') : Meaning p' := by
  obtain ⟨hsys, htrace⟩ := Transition.instrument_some.mp hstep
  obtain ⟨s, t⟩ := p
  obtain ⟨s', t'⟩ := p'
  dsimp only at hsys htrace hguard
  cases step_outputEffect hsys with
  | bus hthread hthreads happ heffect =>
    rw [note_bus t hthread hthreads] at htrace
    exact meaning_bus hP h hthread hthreads heffect htrace
  | event hevent hthreads happ hcomm =>
    refine meaning_event (E := E) hP h hthreads hcomm ?_
    unfold note at htrace
    rw [hevent] at htrace
    exact htrace
  | installed hmapping hthreads happ hstore =>
    next mapping =>
    -- mappings are installed while the session starts
    have hquiet : s.touchesSnapshots E l = false := by
      cases l with
      | app =>
        unfold installedMapping at hmapping
        cases hpc : s.app with
        | starting rest result => exact touchesSnapshots_app hpc (by simp)
        | _ =>
          rw [hpc] at hmapping
          exact nomatch hmapping
      | _ => exact nomatch hmapping
    rw [note_of_quiet t hquiet] at htrace
    exact meaning_installed h hthreads hstore htrace (hguard mapping hmapping)
  | snapshotsCleared hblock hthreads happ hstore =>
    have hnote : t' = { t with queued := [] } := by
      rw [htrace]
      unfold note queuedEvent
      rw [hblock]
    exact meaning_snapshotsCleared h hthreads hstore hnote
  | outputCleared hblock hthreads hcomm =>
    rw [note_of_quiet t (touchesSnapshots_app hblock (by simp))] at htrace
    exact meaning_outputCleared hP h hthreads hcomm htrace
  | started hblock hthreads happ hstore =>
    rw [note_of_quiet t (touchesSnapshots_app hblock (by simp))] at htrace
    exact h.of_store hstore htrace (thread_of_append hthreads)
  | quiet hl hthreads happ hstore =>
    rw [note_of_quiet t hl] at htrace
    refine h.of_store hstore htrace ?_
    intro k pc coils hthread hcoils
    exact hthreads ▸ hthread

/-! ### Whole Runs -/

/-- A freshly constructed host stores no coil bits. -/
theorem meaning_constructed (hP : P.Lawful pos) (E : HostEnv W) (ppuc : Ppuc)
    (gameOnSolenoid : UInt8) (w : W) :
    Meaning (P := P) (constructed E ppuc gameOnSolenoid w, Provenance.start) := by
  constructor
  · intro number i hlookup
    have hnone : (∅ : Map UInt16 Nat).lookup number = some i := hlookup
    rw [AList.lookup_empty] at hnone
    exact nomatch hnone
  · apply justified_stemsOf.mpr
    intro i hi hbit
    have hclear := BitAccess.get_replicate_zero hP.bits i (hP.coil_byte_lt hi)
    exact nomatch hclear.symm.trans hbit
  · exact fun i _ hhold => absurd (holdAt_replicate_zero i) hhold
  · exact List.Forall₂.nil
  · exact fun k pc coils hthread => nomatch hthread

/-- A thread that writes a frame has carried it. -/
theorem frameDriven_justified (h : Meaning p) {l : HostLabel} :
    ∀ d ∈ frameDriven p l p', Justified d.coilIndexToNumber d.frame.coilBitmap d.stems := by
  intro d hd
  unfold frameDriven at hd
  split at hd
  · split at hd
    · next hthread _ =>
      obtain rfl := List.mem_singleton.mp hd
      exact h.carried _ _ _ hthread rfl
    · exact nomatch hd
  · exact nomatch hd

/-- **Coil bits keep their meaning.**  In every run of the host in which no
    mapping gives another number to an index that is still driven, each coil
    bit of each output frame on the wire stems from on events for the number
    that the mapping in force gives to its index. -/
theorem coil_bits_keep_meaning (hP : P.Lawful pos) (E : HostEnv W) (ppuc : Ppuc)
    (gameOnSolenoid : UInt8) (w : W) (ls : List HostLabel)
    (hguard : KeepsNumbers E (constructed (P := P) E ppuc gameOnSolenoid w) ls) :
    ∀ d ∈ framesDriven E (constructed (P := P) E ppuc gameOnSolenoid w) ls,
      Justified d.coilIndexToNumber d.frame.coilBitmap d.stems := by
  have hstart := meaning_constructed (P := P) hP E ppuc gameOnSolenoid w
  have hstep : ∀ (p : Host P W × Provenance) l p', Meaning p → p.1.keepsNumbers l →
      stepNoted E p l = some p' → Meaning p' ∧
        ∀ d ∈ frameDriven p l p', Justified d.coilIndexToNumber d.frame.coilBitmap d.stems :=
    fun p l p' h hallowed hnext =>
      ⟨meaning_step hP h hallowed hnext, frameDriven_justified h⟩
  exact Transition.forall_mem_observe hstep hstart hguard

end meaning

end Host

namespace Reference

open Host

/-- The coil goes on between two sessions. -/
def onBetweenSessions : List HostLabel :=
  connectWith (document []) ++ disconnectThread 0 ++ sendOffFrames ++ [solenoidOn] ++
    connectWith otherDocument ++ firstFrame 1

/-- The law fails when a coil goes on after `Disconnect` and the next session
    has another mapping: the first frame drives solenoid 7 for an event of
    solenoid 6. -/
theorem stale_coil_drives_another :
    ¬ ∀ (ls : List HostLabel), ∀ d ∈ framesDriven hostEnv host ls,
      Justified d.coilIndexToNumber d.frame.coilBitmap d.stems := by
  intro h
  exact absurd (h onBetweenSessions) (by decide +kernel)

/-- One session with an on event: its frame drives the solenoid of the event. -/
theorem one_session_keeps_meaning :
    (framesDriven hostEnv host
        (connectWith (document []) ++ [solenoidOn] ++ firstFrame 0)).length = 1 ∧
      ∀ d ∈ framesDriven hostEnv host
          (connectWith (document []) ++ [solenoidOn] ++ firstFrame 0),
        Justified d.coilIndexToNumber d.frame.coilBitmap d.stems :=
  ⟨by decide +kernel,
    coil_bits_keep_meaning protocol_lawful hostEnv emptyPpuc 0 twoSessions _ (by decide +kernel)⟩

end Reference

end LibPpuc
