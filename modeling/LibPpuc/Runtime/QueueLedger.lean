import LibPpuc.Framework.Ledger
import LibPpuc.Runtime.NoStarvation

/-! # The Ledger of the Triggers

  `m_events` carries the triggers of effects from the threads of the host to
  the bus thread.  An event that is accepted is handed to the port exactly
  once, in the order of the calls; it is refused only if
  `RS485_COMM_QUEUE_SIZE_MAX` events wait.  `Run` does not look at the result
  of the write, so an event whose frame the port did not take whole is not
  sent again.
-/

namespace LibPpuc

variable {P : Protocol} {W : Type}

/-! ### Triggers -/

/-- The event of a trigger frame. -/
def BusEntry.trigger : BusEntry P → Option Event
  | .written (.trigger _ _ event) _ => some event
  | _ => none

/-- The event that was taken from the queue and is not sent yet. -/
def BusPc.takenEvent : BusPc P → List Event
  | .sendEvent _ event => [event]
  | _ => []

namespace Sys

/-- The events that were accepted and are not sent yet. -/
def waitingEvents (s : Sys P W) : List Event := s.bus.takenEvent ++ s.comm.events

/-- The event that a step accepts. -/
def acceptedEvent (s : Sys P W) (l : Label) (_ : Sys P W) : List Event :=
  match l with
  | .queueEvent event =>
    if event.sourceId = .effect ∧ s.comm.events.length < RS485_COMM_QUEUE_SIZE_MAX then [event]
    else []
  | _ => []

/-- The events that a run accepts. -/
def acceptedEvents (E : Env W) (s : Sys P W) (ls : List Label) : List Event :=
  Transition.observe (step E) acceptedEvent s ls

end Sys

namespace Comm

/-- Only effects are queued, and only as long as there is room. -/
theorem events_queueEvent (port : SerialPort W) (w : W) (event : Event) (c : Comm P) :
    (c.queueEvent port w event).events = c.events ++
      if event.sourceId = .effect ∧ c.events.length < RS485_COMM_QUEUE_SIZE_MAX then [event]
      else [] := by
  by_cases hsource : event.sourceId = .effect
  · unfold queueEvent
    simp only [hsource, true_and]
    by_cases hfull : RS485_COMM_QUEUE_SIZE_MAX ≤ c.events.length
    · rw [if_pos hfull, if_neg (Nat.not_lt.mpr hfull), List.append_nil]
    · rw [if_neg hfull, if_pos (Nat.not_le.mp hfull)]
  · have heffect := queueEvent_effect port w event c
    generalize c.queueEvent port w event = c' at heffect ⊢
    rw [if_neg fun h => hsource h.1, List.append_nil]
    cases heffect with
    | effect heffect => exact absurd heffect hsource
    | coil | level | run | ignored => rfl

/-- Only `popEvent` takes an event. -/
theorem takenEvent_busStep {port : SerialPort W} {sourceByte : EventSource → UInt8}
    {pc pc' : BusPc P} {c c' : Comm P} {w w' : W}
    (hblock : c.busStep port sourceByte pc w = some (pc', c', w'))
    (hother : ∀ eventsSent, pc ≠ .popEvent eventsSent) : pc'.takenEvent = [] := by
  have hafter : ∀ nextBoard refresh,
      (BusPc.afterFrame nextBoard refresh : BusPc P).takenEvent = [] := by
    intro nextBoard refresh
    unfold BusPc.afterFrame
    split <;> rfl
  -- only `popEvent` takes an event out of the queue
  unfold busStep at hblock
  match pc with
  | .stopped => exact nomatch hblock
  | .popEvent eventsSent => exact absurd rfl (hother eventsSent)
  | .loop =>
    obtain ⟨rfl, rfl, rfl⟩ := by simpa using hblock
    split <;> rfl
  | .sendEvent .. | .resyncMapping [] | .copyState .. | .virtualCopy .. | .virtualClear ..
  | .chainDone .. =>
    obtain ⟨rfl, rfl, rfl⟩ := by simpa using hblock
    rfl
  | .runtimeTest | .resyncTest | .resyncSetup | .resyncMapping (_ :: _) | .virtualWrite .. =>
    dsimp only at hblock
    split at hblock <;>
    · obtain ⟨rfl, rfl, rfl⟩ := by simpa using hblock
      rfl
  | .inspectQueue =>
    have hinspect := Option.some.inj hblock
    unfold inspectQueue at hinspect
    dsimp only at hinspect
    split at hinspect
    · obtain rfl := congrArg Prod.fst hinspect
      rfl
    · split at hinspect <;>
      · obtain rfl := congrArg Prod.fst hinspect
        rfl
  | .writeFrame nextBoard refresh frame holdFrames =>
    have hwritten := Option.some.inj hblock
    unfold writeFrame at hwritten
    split at hwritten <;> split at hwritten <;> obtain rfl := congrArg Prod.fst hwritten
    · exact hafter nextBoard true
    · rfl
    · rfl
    · rfl
  | .consumeHoldover nextBoard holdFrames =>
    obtain ⟨rfl, rfl, rfl⟩ := by simpa using hblock
    exact hafter nextBoard false
  | .hop hops expected reply refresh =>
    have hhop := Option.some.inj hblock
    unfold hop at hhop
    split at hhop
    · obtain rfl := congrArg Prod.fst hhop
      rfl
    · split at hhop
      · obtain rfl := congrArg Prod.fst hhop
        rfl
      · split at hhop
        · split at hhop <;>
          · obtain rfl := congrArg Prod.fst hhop
            rfl
        · dsimp only at hhop
          split at hhop <;>
          · obtain rfl := congrArg Prod.fst hhop
            rfl

/-- Only `sendEvent` writes a trigger frame. -/
theorem trigger_writtenBy (E : Env W) {pc : BusPc P}
    (hother : ∀ eventsSent event, pc ≠ .sendEvent eventsSent event) (c : Comm P) (w : W) :
    (c.writtenBy E pc w).filterMap BusEntry.trigger = [] := by
  unfold writtenBy frameOf
  split
  · next eventsSent event => exact absurd rfl (hother eventsSent event)
  · split <;> rfl
  · split <;> rfl
  · -- an output or a refresh frame
    split
    · split <;> rfl
    · rfl
  · split <;> rfl
  · rfl

/-- **Step lemma**: a block takes the oldest event, sends the one it took, or
    leaves the events alone. -/
theorem balanced_busStep {E : Env W} {pc pc' : BusPc P} {c c' : Comm P} {w w' : W}
    (hopen : c.portOpen = true)
    (hblock : c.busStep E.port E.sourceByte pc w = some (pc', c', w')) :
    pc.takenEvent ++ c.events =
      (c.writtenBy E pc w).filterMap BusEntry.trigger ++ (pc'.takenEvent ++ c'.events) := by
  -- an event moves from the queue to the thread, and from there to the bus
  by_cases hpop : ∃ eventsSent, pc = .popEvent eventsSent
  · obtain ⟨eventsSent, rfl⟩ := hpop
    rw [trigger_writtenBy E (by simp)]
    simp only [busStep] at hblock
    split at hblock
    · split at hblock
      · next event rest hevents =>
        obtain ⟨rfl, rfl, rfl⟩ := by simpa using hblock
        exact hevents
      · obtain ⟨rfl, rfl, rfl⟩ := by simpa using hblock
        rfl
    · obtain ⟨rfl, rfl, rfl⟩ := by simpa using hblock
      rfl
  · have htaken : pc'.takenEvent = [] :=
      takenEvent_busStep hblock fun eventsSent h => hpop ⟨eventsSent, h⟩
    have hevents : c'.events = c.events := by
      have heffect := busStep_effect E.port hblock
      cases heffect with
      | session _ _ hhost => exact (congrArg Comm.events hhost :)
      | written _ hhost => exact (congrArg Comm.events hhost :)
      | replyWritten hhost => exact (congrArg Comm.events hhost :)
      | eventPopped => exact absurd ⟨_, rfl⟩ hpop
      | dirtyCleared =>
        unfold clearDirty
        split <;> rfl
      | snapshotPopped | noSnapshot | copied | consumed | dirtyRead | bitmapCopied => rfl
    -- no other block takes one, so what it held is written now
    rw [htaken, hevents]
    by_cases hsend : ∃ eventsSent event, pc = .sendEvent eventsSent event
    · obtain ⟨eventsSent, event, rfl⟩ := hsend
      simp [writtenBy, frameOf, hopen, BusEntry.trigger, BusPc.takenEvent]
    · have hpc : pc.takenEvent = [] := by
        unfold BusPc.takenEvent
        split
        · next eventsSent event => exact absurd ⟨eventsSent, event, rfl⟩ hsend
        · rfl
      rw [hpc, trigger_writtenBy E fun eventsSent event h => hsend ⟨eventsSent, event, h⟩]
      rfl

end Comm

namespace Sys

variable {E : Env W} {s s' : Sys P W} {ls : List Label}

/-- The events of the trigger frames that a step hands to the port. -/
def sentEvents (E : Env W) (s : Sys P W) (l : Label) (s' : Sys P W) : List Event :=
  (busEntries E s l s').filterMap BusEntry.trigger

/-- **Step lemma**: a step keeps the balance of the events. -/
theorem balanced_events {l : Label} (hopen : s.comm.portOpen = true)
    (h : s.step E l = some s') :
    Transition.Balanced waitingEvents acceptedEvent (sentEvents E) s l s' := by
  unfold Transition.Balanced waitingEvents
  match l with
  | .bus =>
    unfold step at h
    obtain ⟨⟨pc', c', w'⟩, hblock, rfl⟩ := Option.map_eq_some_iff.mp h
    have hdisputed : (disputedNow s.comm.needSessionResync c'.needSessionResync :
        List (BusEntry P)).filterMap BusEntry.trigger = [] := by
      unfold disputedNow
      split <;> rfl
    have hsent : sentEvents E s .bus { s with bus := pc', comm := c', world := w' } =
        (s.comm.writtenBy E s.bus s.world).filterMap BusEntry.trigger := by
      simp [sentEvents, busEntries, hdisputed]
    rw [hsent]
    simpa [acceptedEvent] using Comm.balanced_busStep hopen hblock
  | .queueEvent event =>
    obtain rfl := step_queueEvent h
    have hevents := Comm.events_queueEvent E.port s.world event s.comm
    simp [sentEvents, busEntries, acceptedEvent, hevents]
  | .getNextSwitchState | .updateBoardFirmware _ | .firmware =>
    obtain ⟨hpc, hhost⟩ := step_sessionLabel rfl h
    have hevents : s'.comm.events = s.comm.events := (congrArg Comm.events hhost :)
    simp [sentEvents, busEntries, acceptedEvent, hpc, hevents]
  | .setVirtualSwitchState number state =>
    obtain rfl := step_setVirtualSwitchState h
    obtain ⟨boards, owners, bitmap, events, refreshAt, heq⟩ :=
      Comm.setVirtualSwitchState_eq (E.port.steadyMs s.world) number state s.comm
    simp [sentEvents, busEntries, acceptedEvent, heq]

/-- A queue never holds more than its limit. -/
theorem length_events_step {l : Label} (h : s.step E l = some s')
    (hroom : s.comm.events.length ≤ RS485_COMM_QUEUE_SIZE_MAX) :
    s'.comm.events.length ≤ RS485_COMM_QUEUE_SIZE_MAX := by
  match l with
  | .bus =>
    have hshrinks : s'.comm.events.length ≤ s.comm.events.length := by
      have heffect := (step_bus h).1
      generalize s.bus = pc at heffect
      generalize s'.bus = pc' at heffect
      generalize s'.comm = c' at heffect ⊢
      cases heffect with
      | session _ _ hhost | written _ hhost | replyWritten hhost =>
        exact Nat.le_of_eq (congrArg (fun c => (Comm.events c).length) hhost :)
      | eventPopped hqueue => simp [hqueue]
      | dirtyCleared =>
        unfold Comm.clearDirty
        split <;> exact Nat.le_refl _
      | snapshotPopped | noSnapshot | copied | consumed | dirtyRead | bitmapCopied =>
        exact Nat.le_refl _
    omega
  | .queueEvent event =>
    obtain rfl := step_queueEvent h
    have hevents := Comm.events_queueEvent E.port s.world event s.comm
    show (s.comm.queueEvent E.port s.world event).events.length ≤ _
    rw [hevents]
    split
    · next haccepted =>
      rw [List.length_append]
      exact haccepted.2
    · simpa using hroom
  | .getNextSwitchState | .updateBoardFirmware _ | .firmware =>
    obtain ⟨-, hhost⟩ := step_sessionLabel rfl h
    have hevents : s'.comm.events = s.comm.events := (congrArg Comm.events hhost :)
    rw [hevents]
    exact hroom
  | .setVirtualSwitchState number state =>
    obtain rfl := step_setVirtualSwitchState h
    obtain ⟨boards, owners, bitmap, events, refreshAt, heq⟩ :=
      Comm.setVirtualSwitchState_eq (E.port.steadyMs s.world) number state s.comm
    simpa [heq] using hroom

/-- **Triggers go out exactly once and in order**: what waited and what was
    accepted is what was handed to the port, whole or not, and what waits now.
    At most `RS485_COMM_QUEUE_SIZE_MAX` events are queued. -/
theorem triggers_in_order (hopen : s.comm.portOpen = true)
    (hroom : s.comm.events.length ≤ RS485_COMM_QUEUE_SIZE_MAX)
    (hrun : Transition.exec (step E) s ls = some s') :
    s.waitingEvents ++ acceptedEvents E s ls =
        (busLog E s ls).filterMap BusEntry.trigger ++ s'.waitingEvents ∧
      s'.comm.events.length ≤ RS485_COMM_QUEUE_SIZE_MAX := by
  constructor
  · unfold acceptedEvents busLog
    rw [Transition.filterMap_observe]
    refine Transition.exec_ledger (I := fun s => s.comm.portOpen = true) ?_ hopen hrun
    intro s l s' hopen hstep
    refine ⟨?_, balanced_events hopen hstep⟩
    obtain ⟨hsetup, -⟩ := step_setupPart hstep
    exact (congrArg (fun p => p.1) hsetup :).trans hopen
  · exact Transition.exec_invariant
      (I := fun s => s.comm.events.length ≤ RS485_COMM_QUEUE_SIZE_MAX)
      (fun _ _ _ hroom hstep => length_events_step hstep hroom) hroom hrun

end Sys

namespace Reference

open Sys

/-- Three effects are queued while the bus thread sends the first of them. -/
def threeEffects : List Label :=
  [.queueEvent { sourceId := .effect, eventId := 1, value := 1 },
    .queueEvent { sourceId := .effect, eventId := 2, value := 1 }] ++
    List.replicate 2 .bus ++
    [.queueEvent { sourceId := .effect, eventId := 3, value := 1 }] ++ List.replicate 3 .bus

theorem triggers_in_order_threeEffects :
    (acceptedEvents env system threeEffects).length = 3 ∧ ∃ s',
      Transition.exec (step env) system threeEffects = some s' ∧
        system.waitingEvents ++ acceptedEvents env system threeEffects =
          (busLog env system threeEffects).filterMap BusEntry.trigger ++ s'.waitingEvents := by
  have hrun : (Transition.exec (step env) system threeEffects).isSome = true := by
    decide +kernel
  obtain ⟨s', hs'⟩ := Option.isSome_iff_exists.mp hrun
  exact ⟨by decide +kernel, s', hs', (triggers_in_order rfl (by decide) hs').1⟩

end Reference

end LibPpuc
