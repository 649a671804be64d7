import LibPpuc.Config.Schema
import LibPpuc.Startup.Numbering
import LibPpuc.Startup.Records

/-! # A Startup Attempt Sends the Records of Its Document

  The startup pass walks the document event by event, with checks and reads
  between the events.  What it sends is the list of the document's records
  all the same, each in one piece.  So every board can read back what the
  document says about it, followed by its place in the token ring.
-/

namespace LibPpuc

/-! ### The Pass Sends the Records -/

/-- The event of a step. -/
def Startup.sentBy : StartupStep → List ConfigEvent
  | .send event => [event]
  | _ => []

namespace Pass

open Emitter

variable {P : Protocol} {H : EventHeader} {cpp : YamlCpp} {s : StartupSettings}

/-- A part of the pass that returns has sent these records. -/
def SendsRecords {α : Type} (records : List ConfigRecord) (p : Pass α) : Prop :=
  Writes Startup.sentBy (records.flatMap ConfigRecord.events) p

namespace SendsRecords

variable {α β : Type} {p : Pass α} {records later : List ConfigRecord}

theorem of_eq {records' : List ConfigRecord} (h : SendsRecords records p)
    (heq : records = records') : SendsRecords records' p := heq ▸ h

theorem bind {f : α → Pass β} (hp : SendsRecords records p)
    (hf : ∀ a, p.result = .ok a → SendsRecords later (f a)) :
    SendsRecords (records ++ later) (p >>= f) :=
  (Writes.bind hp hf).of_eq List.flatMap_append.symm

theorem seq {q : Pass β} (hp : SendsRecords records p) (hq : SendsRecords later q) :
    SendsRecords (records ++ later) (p >>= fun _ => q) := hp.bind fun _ _ => hq

/-- What sends nothing, then the rest. -/
theorem after {q : Pass β} (hp : SendsRecords [] p) (hq : SendsRecords later q) :
    SendsRecords later (p >>= fun _ => q) := hp.seq hq

/-- The rest sends nothing. -/
theorem before {q : Pass β} (hp : SendsRecords records p) (hq : SendsRecords [] q) :
    SendsRecords records (p >>= fun _ => q) := (hp.seq hq).of_eq (List.append_nil _)

theorem onlyIf {c : Prop} [Decidable c] {body : Pass Unit} (h : SendsRecords records body) :
    SendsRecords (if c then records else []) (onlyIf c body) := by
  unfold LibPpuc.onlyIf
  split
  · exact h
  · exact Writes.pure _

theorem forM {γ : Type} {f : γ → Pass PUnit} {part : γ → List ConfigRecord} {xs : List γ}
    (h : ∀ y ∈ xs, SendsRecords (part y) (f y)) :
    SendsRecords (xs.flatMap part) (xs.forM f) :=
  (Writes.forM h).of_eq List.flatMap_assoc.symm

end SendsRecords

theorem valueOf_ok {α : Type} [Inhabited α] {r : Except Failure α} {a : α} (h : r = .ok a) :
    valueOf r = a := by
  rw [h]
  rfl

/-- An event of an item. -/
theorem writes_item (item : Yaml) (topic index key : UInt8) (value : Except Failure UInt32) :
    Writes Startup.sentBy
      [{ boardId := itemBoard cpp item, topic := topic, index := index, key := key,
         value := valueOf value }]
      (sendItem cpp item topic index key value) := by
  apply Writes.read
  intro board hboard
  apply Writes.read
  intro value' hvalue
  rw [itemBoard, valueOf_ok hboard, valueOf_ok hvalue]
  exact Writes.emit _

/-- An event of an item, and what follows. -/
theorem writes_sendItem {item : Yaml} {topic index key : UInt8} {value : Except Failure UInt32}
    {α : Type} {q : Pass α} {events : List ConfigEvent} (hq : Writes Startup.sentBy events q) :
    Writes Startup.sentBy
      ({ boardId := itemBoard cpp item, topic := topic, index := index, key := key,
         value := valueOf value } :: events)
      (sendItem cpp item topic index key value >>= fun _ => q) :=
  (writes_item item topic index key value).seq hq

/-- An event of a board, and what follows. -/
theorem writes_send {board topic index key : UInt8} {value : UInt32} {α : Type} {q : Pass α}
    {events : List ConfigEvent} (hq : Writes Startup.sentBy events q) :
    Writes Startup.sentBy
      ({ boardId := board, topic := topic, index := index, key := key, value := value } :: events)
      (send board topic index key value >>= fun _ => q) :=
  (Writes.emit (StartupStep.send _)).seq hq

theorem sends_unlessSkipped {item : Yaml} {body : Pass Unit} {records : List ConfigRecord}
    (h : SendsRecords records body) :
    SendsRecords (toldTo cpp s item records) (unlessSkipped cpp s item body) := by
  apply Writes.read
  intro board hboard
  rw [toldTo, itemBoard, valueOf_ok hboard]
  exact h.onlyIf

theorem sends_printDescription (item : Yaml) :
    SendsRecords [] (printDescription cpp s item) := by
  have hprint := SendsRecords.onlyIf (c := s.debug = true)
    (show SendsRecords [] (ofExcept _) from Writes.ofExcept
      ((cpp.asString (item.get "description")).map fun _ => PUnit.unit))
  rwa [ite_self] at hprint

/-- Steps other than events. -/
theorem sends_check (x : StartupStep) (h : Startup.sentBy x = []) :
    SendsRecords [] (emit x : Pass PUnit) := (Writes.emit x).of_eq h

theorem sends_lastCheck {α : Type} (a : α) :
    SendsRecords [] (emit .abortCheck >>= fun _ => pure a : Pass α) :=
  Writes.seq (Writes.emit StartupStep.abortCheck) (Writes.pure a)

theorem sends_pushSwitch (n_switch : Yaml) : SendsRecords [] (pushSwitch cpp n_switch) :=
  .read fun _ _ => .read fun _ _ => .read fun _ _ => .read fun _ _ => .read fun _ _ => .emit _

theorem sends_pushCoil (n_pwmOutput : Yaml) (type : UInt8) :
    SendsRecords [] (pushCoil cpp n_pwmOutput type) :=
  .read fun _ _ => .read fun _ _ => .read fun _ _ => .read fun _ _ => .read fun _ _ => .emit _

theorem sends_matrixSwitchPass (n_switch : Yaml) :
    SendsRecords (matrixSwitchRecords H cpp s n_switch) (matrixSwitchPass H cpp s n_switch) := by
  apply (sends_printDescription n_switch).after
  refine SendsRecords.before ?_ (sends_pushSwitch n_switch)
  apply sends_unlessSkipped
  apply writes_sendItem
  exact writes_item _ _ _ _ _

theorem sends_switchMatrixPass (switchMatrix : Yaml) :
    SendsRecords (switchMatrixRecords H cpp s switchMatrix)
      (switchMatrixPass H cpp s switchMatrix) := by
  apply sends_unlessSkipped
  apply writes_sendItem
  apply writes_sendItem
  exact SendsRecords.forM fun n_switch _ => sends_matrixSwitchPass n_switch

theorem sends_switchPass (n_switch : Yaml) :
    SendsRecords (switchRecords H cpp s n_switch) (switchPass H cpp s n_switch) := by
  apply (sends_printDescription n_switch).after
  refine SendsRecords.before ?_ ((sends_pushSwitch n_switch).after (sends_check _ rfl))
  apply sends_unlessSkipped
  apply writes_sendItem
  apply writes_sendItem
  apply writes_sendItem
  exact writes_item _ _ _ _ _

theorem sends_sendTriggerConfig (board : UInt8) (port type source number value : UInt32) :
    SendsRecords [triggerRecord H board port type source number value]
      (sendTriggerConfig H board port type source number value) := by
  apply writes_send
  apply writes_send
  apply writes_send
  apply writes_send
  exact Writes.emit _

theorem sends_namedTrigger (effect : Yaml) (type : UInt32) (board : UInt8) (port : UInt32) :
    SendsRecords (namedTriggerRecords H cpp board port type effect)
      (sendNamedEffectTriggerConfig H cpp effect type board port) := by
  have hnamed : SendsRecords
      (if Pass.isBlank (valueOf (cpp.asString (effect.get "name"))) = false then
        [triggerRecord H board port type H.EVENT_SOURCE_EFFECT
          (H.hashNamedTriggerId (valueOf (cpp.asString (effect.get "name"))))
          (valueOf (readOptional cpp.asUInt32 (effect.get "value") 1))] else [])
      (ofExcept (cpp.asString (effect.get "name")) >>= fun name =>
        onlyIf (isBlank name = false) do
          let value ← ofExcept (readOptional cpp.asUInt32 (effect.get "value") 1)
          sendTriggerConfig H board port type H.EVENT_SOURCE_EFFECT (H.hashNamedTriggerId name)
            value) := by
    apply Writes.read
    intro name hname
    rw [valueOf_ok hname]
    apply SendsRecords.onlyIf
    apply Writes.read
    intro value hvalue
    rw [valueOf_ok hvalue]
    exact sends_sendTriggerConfig _ _ _ _ _ _
  apply hnamed.onlyIf.of_eq
  rw [namedTriggerRecords]
  split <;> split <;> simp_all

theorem sends_simpleTrigger (effect : Yaml) (type : UInt32) (board : UInt8) (port : UInt32)
    (context : String) :
    SendsRecords (simpleTriggerRecords H cpp board port type effect)
      (sendSimpleEffectTriggerConfig H cpp effect type board port context) := by
  apply SendsRecords.onlyIf
  apply Writes.read
  intro name hname
  apply Writes.read
  intro source hsource
  apply Writes.read
  intro number hnumber
  apply Writes.read
  intro value hvalue
  rw [valueOf_ok hname, valueOf_ok hsource, word, word, valueOf_ok hnumber, valueOf_ok hvalue]
  split
  · -- a value that is neither 0 nor 1 is not returned from
    intro _ herror
    cases herror
  · exact sends_sendTriggerConfig _ _ _ _ _ _

theorem sends_effectTriggersPass (item effect : Yaml) (type : UInt8) (context : String) :
    SendsRecords (effectTriggerRecords H cpp item type effect)
      (effectTriggersPass H cpp item effect type context) := by
  apply Writes.read
  intro board hboard
  apply Writes.read
  intro port hport
  rw [effectTriggerRecords, itemBoard, word, valueOf_ok hboard, valueOf_ok hport]
  exact (sends_namedTrigger effect _ board port).seq (sends_simpleTrigger effect _ board port _)

theorem sends_pwmEffectPass (n_pwmOutput effect : Yaml) :
    SendsRecords (pwmEffectRecords H cpp n_pwmOutput effect)
      (pwmEffectPass H cpp n_pwmOutput effect) := by
  apply writes_sendItem
  apply writes_sendItem
  apply writes_sendItem
  apply writes_sendItem
  apply writes_sendItem
  apply writes_sendItem
  apply writes_sendItem
  apply writes_sendItem
  apply writes_sendItem
  exact (sends_effectTriggersPass _ _ _ _).before (sends_check _ rfl)

theorem sends_pwmOutputPass (n_pwmOutput : Yaml) :
    SendsRecords (pwmOutputRecords H cpp s n_pwmOutput) (pwmOutputPass H cpp s n_pwmOutput) := by
  apply sends_unlessSkipped
  apply (sends_printDescription n_pwmOutput).after
  apply writes_sendItem
  apply writes_sendItem
  apply writes_sendItem
  apply writes_sendItem
  apply writes_sendItem
  apply writes_sendItem
  apply writes_sendItem
  apply writes_sendItem
  apply Writes.read
  intro c_type htype
  rw [valueOf_ok htype]
  apply writes_sendItem
  apply SendsRecords.before (SendsRecords.forM fun effect _ => sends_pwmEffectPass _ effect)
  exact (sends_pushCoil _ _).after (sends_check _ rfl)

/-- One segment. -/
theorem ledSegment_record (n_ledStripe segment : Yaml) (index : UInt8) :
    SendsRecords (ledSegmentRecords H cpp n_ledStripe index [segment])
      (ledSegmentPass H cpp n_ledStripe index segment) := by
  -- the second index is one more than the first, and so on
  have hsecond : index + 1 + 1 = index + 2 := UInt8.add_assoc index 1 1
  have hthird : index + 1 + 1 + 1 = index + 3 := by
    rw [hsecond]
    exact UInt8.add_assoc index 2 1
  have hevents : (ledSegmentRecords H cpp n_ledStripe index [segment]).flatMap
      ConfigRecord.events =
        [(index, H.CONFIG_TOPIC_PORT, word cpp n_ledStripe "port"),
          (index + 1, H.CONFIG_TOPIC_NUMBER, word cpp segment "number"),
          (index + 2, H.CONFIG_TOPIC_FROM, word cpp segment "from"),
          (index + 3, H.CONFIG_TOPIC_TO, word cpp segment "to")].map fun entry =>
            { boardId := itemBoard cpp n_ledStripe, topic := H.CONFIG_TOPIC_LED_SEGMENT,
              index := entry.1, key := entry.2.1, value := entry.2.2 } := by
    rw [← hthird, ← hsecond]
    rfl
  apply Writes.of_eq _ hevents.symm
  apply writes_sendItem
  apply writes_sendItem
  apply writes_sendItem
  apply writes_sendItem
  exact sends_lastCheck _

theorem sends_ledSegments (n_ledStripe : Yaml) (segments : List Yaml) (index : UInt8) :
    SendsRecords (ledSegmentRecords H cpp n_ledStripe index segments)
      (segments.foldlM (ledSegmentPass H cpp n_ledStripe) index) := by
  induction segments generalizing index with
  | nil => exact Writes.pure _
  | cons segment segments ih =>
    rw [List.foldlM_cons]
    apply SendsRecords.bind (ledSegment_record n_ledStripe segment index)
    intro next hnext
    have hindex : next = index + 4 := by
      obtain ⟨_, -, hnext⟩ := result_bind_ok.mp hnext
      obtain ⟨_, -, hnext⟩ := result_bind_ok.mp hnext
      obtain ⟨_, -, hnext⟩ := result_bind_ok.mp hnext
      obtain ⟨_, -, hnext⟩ := result_bind_ok.mp hnext
      obtain ⟨_, -, hnext⟩ := result_bind_ok.mp hnext
      exact (Except.ok.inj hnext).symm
    rw [hindex]
    exact ih (index + 4)

theorem sends_ledEffectPass (n_ledStripe effect : Yaml) :
    SendsRecords (ledEffectRecords H cpp n_ledStripe effect)
      (ledEffectPass H cpp n_ledStripe effect) := by
  apply writes_sendItem
  apply writes_sendItem
  apply Writes.read
  intro colors hcolors
  rw [valueOf_ok hcolors]
  apply writes_sendItem
  apply writes_sendItem
  apply writes_sendItem
  apply writes_sendItem
  apply writes_sendItem
  apply writes_sendItem
  apply writes_sendItem
  apply writes_sendItem
  apply writes_sendItem
  apply writes_sendItem
  apply writes_sendItem
  exact (sends_effectTriggersPass _ _ _ _).before (sends_check _ rfl)

/-- A color is the value of its digits, in whatever context it is read. -/
theorem parseRequiredHexColorField_eq_ok {item : Yaml} {field context : String} {color : UInt32}
    (h : parseRequiredHexColorField cpp item field context = .ok color) :
    parseHex (colorDigits (valueOf (cpp.asString (item.get field)))) = some color := by
  obtain ⟨text, htext, hcolor⟩ := ok_of_bind h
  rw [valueOf_ok (readRequiredYamlField_eq_ok htext)]
  cases hparsed : parseHex (colorDigits text) with
  | none => simp [hparsed] at hcolor
  | some parsed => simpa [hparsed] using hcolor

theorem sends_ledItemPass {n_ledStripe item : Yaml} {type board : UInt8} {port : UInt32}
    {itemIndex : Nat} (hboard : itemBoard cpp n_ledStripe = board)
    (hport : word cpp n_ledStripe "port" = port) :
    SendsRecords [lampRecord H cpp n_ledStripe type item]
      (ledItemPass H cpp type board port item itemIndex) := by
  apply (sends_check .abortCheck rfl).after
  apply Writes.read
  intro description _
  apply Writes.read
  intro number hnumber
  apply Writes.read
  intro ledNumber hledNumber
  apply Writes.read
  intro color hcolor
  rw [lampRecord, hboard, hport, word, valueOf_ok (readRequiredYamlField_eq_ok hnumber), word,
    valueOf_ok (readRequiredYamlField_eq_ok hledNumber),
    parseRequiredHexColorField_eq_ok hcolor]
  apply writes_send
  apply writes_send
  apply writes_send
  apply writes_send
  apply writes_send
  exact Writes.emit _

theorem sends_ledBlock (n_ledStripe : Yaml) (field : String) (type : UInt8) :
    SendsRecords (ledBlockRecords H cpp n_ledStripe field type)
      (sendLedConfigBlock H cpp n_ledStripe field type) := by
  apply Writes.read
  intro board hboard
  apply Writes.read
  intro port hport
  have hitems : ∀ entry ∈ (n_ledStripe.get field).items.zipIdx,
      SendsRecords [lampRecord H cpp n_ledStripe type entry.1]
        (ledItemPass H cpp type board port entry.1 entry.2) :=
    fun _ _ => sends_ledItemPass (valueOf_ok hboard) (valueOf_ok hport)
  apply (SendsRecords.forM hitems).of_eq
  -- the index of an item shows in errors only
  rw [← List.map_eq_flatMap, ledBlockRecords]
  conv_rhs => rw [← List.zipIdx_map_fst 0 (n_ledStripe.get field).items, List.map_map]
  rfl

theorem sends_ledStripePass (n_ledStripe : Yaml) :
    SendsRecords (ledStripeRecords H cpp s n_ledStripe) (ledStripePass H cpp s n_ledStripe) := by
  apply sends_unlessSkipped
  apply writes_sendItem
  apply writes_sendItem
  apply writes_sendItem
  apply writes_sendItem
  apply writes_sendItem
  apply writes_sendItem
  simp only [List.append_assoc]
  apply SendsRecords.bind (sends_ledSegments n_ledStripe _ 6)
  intro _ _
  apply SendsRecords.seq (SendsRecords.forM fun effect _ => sends_ledEffectPass _ effect)
  apply (sends_ledBlock n_ledStripe "lamps" _).seq
  apply (sends_ledBlock n_ledStripe "flashers" _).seq
  exact (sends_ledBlock n_ledStripe "gi" _).before (sends_check _ rfl)

theorem sends_sectionsPass (config : Yaml) :
    SendsRecords (sectionRecords H cpp s config) (sectionsPass H cpp s config) := by
  unfold sectionRecords
  simp only [List.append_assoc]
  apply (sends_switchMatrixPass _).onlyIf.seq
  apply (sends_check .abortCheck rfl).after
  apply (SendsRecords.forM fun n_switch _ => sends_switchPass n_switch).seq
  apply (sends_check .abortCheck rfl).after
  apply (SendsRecords.forM fun n_pwmOutput _ => sends_pwmOutputPass n_pwmOutput).seq
  apply (sends_check .abortCheck rfl).after
  apply (SendsRecords.forM fun n_ledStripe _ => sends_ledStripePass n_ledStripe).before
  exact (sends_check .abortCheck rfl).after (sends_check .failureCheck rfl)

theorem sends_boardPass (config n_board : Yaml) (boards : Boards) :
    SendsRecords (boardRecords H cpp s config n_board)
      (boardPass H cpp s config boards n_board) := by
  apply Writes.read
  intro board hboard
  rw [boardRecords, valueOf_ok hboard]
  dsimp only
  split
  · exact Writes.pure _
  · apply writes_send
    apply Writes.read
    intro coinDoorClosedSwitch hcoin
    rw [valueOf_ok hcoin]
    apply writes_send
    apply Writes.read
    intro gameOnSolenoid hgame
    rw [valueOf_ok hgame]
    apply writes_send
    apply Writes.read
    intro pollEvents _
    have hregister := (sends_check (.registerSwitchBoard board) rfl).onlyIf
      (c := pollEvents = true)
    rw [ite_self] at hregister
    exact hregister.after (sends_lastCheck _)

theorem sends_boardsPass (config : Yaml) :
    SendsRecords ((config.get "boards").items.flatMap (boardRecords H cpp s config))
      (boardsPass H cpp s config) := by
  apply Writes.of_eq _ List.flatMap_assoc.symm
  exact Writes.foldlM (fun n_board _ boards => sends_boardPass config n_board boards) _

theorem sends_mappingPass (config : Yaml) (boards : Boards) :
    SendsRecords [] (mappingPass cpp s config boards) :=
  .read fun _ _ => .read fun _ _ => .emit _

/-- The board loop sends, registers boards and checks. -/
theorem only_boardsPass {Q : StartupStep → Prop} (hsend : ∀ event, Q (.send event))
    (hregister : ∀ board, Q (.registerSwitchBoard board)) (hcheck : Q .abortCheck)
    (config : Yaml) : Only Q (boardsPass H cpp s config) := by
  refine only_foldlM (fun boards n_board _ => ?_) _
  refine only_bind (only_ofExcept _) fun board => ?_
  dsimp only
  split
  · exact only_pure _
  · refine only_bind (only_emit (hsend _)) fun _ => ?_
    refine only_bind (only_ofExcept _) fun _ => ?_
    refine only_bind (only_emit (hsend _)) fun _ => ?_
    refine only_bind (only_ofExcept _) fun _ => ?_
    refine only_bind (only_emit (hsend _)) fun _ => ?_
    refine only_bind (only_ofExcept _) fun pollEvents => ?_
    refine only_bind ?_ fun _ => only_bind (only_emit hcheck) fun _ => only_pure _
    unfold onlyIf
    split
    · exact only_emit (hregister board)
    · exact only_pure _

/-- **What a pass that returns sends before the ring**: the records of its
    document. -/
theorem startupPass_records {config : Yaml}
    (hok : (startupPass P H cpp s config).result = .ok ⟨⟩) :
    ∃ done, (startupPass P H cpp s config).emitted =
        done ++ .finalizeBoardPresence ::
          .setActiveSwitchBoards (pollEventsBoards cpp s config) ::
          (ringSteps P.kNoBoard s.switchReplyDelayUs (pollEventsBoards cpp s config) ++
            [.abortCheck, .failureCheck]) ∧
      (∀ x ∈ done, Startup.eventsOf H x = [Startup.sentBy x]) ∧
      done.flatMap Startup.sentBy =
        (documentRecords H cpp s config).flatMap ConfigRecord.events := by
  obtain ⟨boards, hboards, hrest⟩ := result_bind_ok.mp hok
  obtain ⟨_, -, hrest⟩ := result_bind_ok.mp hrest
  obtain ⟨_, hmapping, hrest⟩ := result_bind_ok.mp hrest
  obtain ⟨_, hsections, -⟩ := result_bind_ok.mp hrest
  let ring : Pass Unit := do
    tokenRingPass P s boards.switchBoards
    emit .abortCheck
    emit .failureCheck
  have hring : ring.emitted = .finalizeBoardPresence ::
      .setActiveSwitchBoards (pollEventsBoards cpp s config) ::
      (ringSteps P.kNoBoard s.switchReplyDelayUs (pollEventsBoards cpp s config) ++
        [.abortCheck, .failureCheck]) := by
    show (tokenRingPass P s boards.switchBoards >>= _).emitted = _
    rw [switchBoards_boardsPass hboards, tokenRingPass_eq]
    rfl
  have hemitted : (startupPass P H cpp s config).emitted =
      (boardsPass H cpp s config).emitted ++ _ := emitted_bind_ok hboards
  have hlater : (mappingPass cpp s config boards >>= fun _ =>
      sectionsPass H cpp s config >>= fun _ => ring).emitted =
        (mappingPass cpp s config boards).emitted ++
          ((sectionsPass H cpp s config).emitted ++ ring.emitted) := by
    rw [emitted_bind_ok hmapping, emitted_bind_ok hsections]
  refine ⟨(boardsPass H cpp s config).emitted ++ .abortCheck ::
    ((mappingPass cpp s config boards).emitted ++ (sectionsPass H cpp s config).emitted),
    ?_, ?_, ?_⟩
  · rw [hemitted, ← hring, List.append_assoc]
    apply congrArg
    show StartupStep.abortCheck :: (mappingPass cpp s config boards >>= fun _ =>
      sectionsPass H cpp s config >>= fun _ => ring).emitted = _
    rw [hlater]
    simp
  · -- only the ring decides at run time what it sends
    intro x hx
    simp only [List.mem_append, List.mem_cons] at hx
    rcases hx with hx | rfl | hx | hx
    · exact only_boardsPass (Q := fun x => Startup.eventsOf H x = [Startup.sentBy x])
        (fun _ => rfl) (fun _ => rfl) rfl config x hx
    · rfl
    · have hmaps : Only (fun x => Startup.eventsOf H x = [Startup.sentBy x])
          (mappingPass cpp s config boards) :=
        only_bind (only_ofExcept _) fun _ => only_bind (only_ofExcept _) fun _ => only_emit rfl
      exact hmaps x hx
    · have hsends := onlySends_sectionsPass config x hx
      cases x with
      | send | pushSwitch | pushCoil | pushLamp | abortCheck | failureCheck => rfl
      | registerSwitchBoard | installMappings | finalizeBoardPresence | setActiveSwitchBoards
      | tokenRing => simp [Startup.sendsOrLists] at hsends
  · rw [List.flatMap_append, List.flatMap_cons, List.flatMap_append,
      sends_boardsPass config boards hboards, sends_mappingPass config boards _ hmapping,
      sends_sectionsPass config _ hsections, documentRecords, List.flatMap_append]
    rfl

end Pass

namespace Startup

variable {P : Protocol} {W : Type} {H : EventHeader} {port : SerialPort W}

/-- The events of all calls. -/
def sentEvents (a : Startup P W) : List ConfigEvent := a.calls.map ConfigCall.event

theorem sentEvents_sends (port : SerialPort W) (events : List ConfigEvent) (a : Startup P W) :
    (a.sends port events).sentEvents = a.sentEvents ++ events := by
  induction events generalizing a with
  | nil => exact (List.append_nil _).symm
  | cons event events ih =>
    show ((a.send port event).sends port events).sentEvents = _
    rw [ih]
    simp [sentEvents, send]

/-- **Step lemma**: a step that is none of the ring sends its event. -/
theorem step_sentEvents {a a' : Startup P W} {x : StartupStep}
    (hx : eventsOf H x = [sentBy x]) (h : a.step H port x = some a') :
    a'.sentEvents = a.sentEvents ++ sentBy x := by
  obtain ⟨b, events, hcalls, -, hevents, rfl⟩ := step_settled h
  rw [hx, List.mem_singleton] at hevents
  rw [sentEvents_sends, hevents, sentEvents, hcalls, sentEvents]

/-- **Run lemma**: what was sent before the ring. -/
theorem run_sentEvents {steps : List StartupStep} {a a' : Startup P W}
    (hsteps : ∀ x ∈ steps, eventsOf H x = [sentBy x])
    (hrun : Transition.exec (step H port) a steps = some a') :
    a'.sentEvents = a.sentEvents ++ steps.flatMap sentBy := by
  induction steps generalizing a with
  | nil =>
    obtain rfl : a = a' := by simpa using hrun
    simp
  | cons x steps ih =>
    obtain ⟨b, hstep, hrest⟩ := Transition.exec_cons_some.mp hrun
    obtain ⟨hx, hsteps⟩ := List.forall_mem_cons.mp hsteps
    rw [ih hsteps hrest, step_sentEvents hx hstep, List.flatMap_cons, List.append_assoc]

/-- **Run lemma** of the ring: each present board gets its record. -/
theorem ring_sentEvents (hcarries : P.CarriesTuple) {s : StartupSettings} {done : UInt8}
    {boards : List UInt8} {a a' : Startup P W}
    (hrun : Transition.exec (step H port) a
      (Pass.ringSteps done s.switchReplyDelayUs boards) = some a') :
    a'.sentEvents = a.sentEvents ++
      (ringRecords H s done a.comm.presentBoards boards).flatMap ConfigRecord.events := by
  induction boards generalizing a with
  | nil =>
    obtain rfl : a = a' := by simpa [Pass.ringSteps] using hrun
    simp [ringRecords]
  | cons board boards ih =>
    obtain ⟨b, hstep, hrest⟩ := Transition.exec_cons_some.mp hrun
    have hsent : b.sentEvents = a.sentEvents ++
        (if board ∈ a.comm.presentBoards then
          [newRecord board H.CONFIG_TOPIC_SWITCH_CHAIN H.switchChainKeys
            [(boards.headD done).toUInt32, s.switchReplyDelayUs]]
        else []).flatMap ConfigRecord.events := by
      simp only [step] at hstep
      split at hstep
      · next hpresent =>
        obtain rfl := Option.some.inj hstep
        rw [if_pos hpresent]
        exact sentEvents_sends port [nextBoardEvent H board (boards.headD done),
          replyDelayEvent H board s.switchReplyDelayUs] a
      · next habsent =>
        obtain rfl := Option.some.inj hstep
        simp [habsent]
    rw [ih hrest, (step_tokenRing hcarries hstep).1, hsent, ringRecords, List.flatMap_append,
      List.append_assoc]

/-- The calls of `SendConfigEvent` for a board. -/
def callsTo (board : UInt8) (a : Startup P W) : List ConfigCall :=
  a.calls.filter fun call => call.event.boardId = board

/-- All events of an attempt that gets as far as `SendSetupFrame`. -/
theorem ready_sentEvents (hcarries : P.CarriesTuple) {cpp : YamlCpp} {s : StartupSettings}
    {config : Yaml} {c : Comm P} {w : W} {a : Startup P W}
    (hready : startupAttempt H cpp s config port c w = .ready a) :
    a.sentEvents = (documentRecords H cpp s config ++ ringRecords H s P.kNoBoard
      a.comm.presentBoards (Pass.pollEventsBoards cpp s config)).flatMap
        ConfigRecord.events := by
  obtain ⟨hrun, hok⟩ := startupAttempt_ready.mp hready
  obtain ⟨done, hsteps, hsent, hdone⟩ := Pass.startupPass_records hok
  rw [hsteps] at hrun
  obtain ⟨b, hbefore, hrun⟩ := Transition.exec_append_some.mp hrun
  obtain ⟨b', hfinalize, hrun⟩ := Transition.exec_cons_some.mp hrun
  obtain ⟨b'', hactive, hrun⟩ := Transition.exec_cons_some.mp hrun
  obtain ⟨a', hring, hchecks⟩ := Transition.exec_append_some.mp hrun
  obtain rfl : a' = a := by
    obtain ⟨a₁, habort, hchecks⟩ := Transition.exec_cons_some.mp hchecks
    obtain ⟨a₂, hfailure, hend⟩ := Transition.exec_cons_some.mp hchecks
    obtain rfl : a₂ = a := by simpa using hend
    obtain ⟨-, rfl⟩ := step_abortCheck habort
    exact (step_failureCheck hfailure).2.symm
  -- the two setters before the ring send nothing
  have hfirst : b.sentEvents = done.flatMap sentBy := run_sentEvents hsent hbefore
  have hfinalized := step_sentEvents rfl hfinalize
  have hactivated := step_sentEvents rfl hactive
  rw [ring_sentEvents hcarries hring, hactivated, hfinalized, hfirst, hdone,
    (run_ring hcarries hring).1, List.flatMap_append]
  simp [sentBy]

/-- **A board reads its part of the document**, for every document, every skip
    set, every port and every behaviour of the boards.  If the attempt gets as
    far as `SendSetupFrame`:

    - the events that `SendConfigEvent` was called with for a board read back
      as the records that the document has for it, in order and complete, with
      its place in the token ring at the end if it is present;
    - if the port took the frames of a board as a whole and the board was not
      skipped by mistake, it has acknowledged all of them.

    A board that was skipped by mistake is not written the events in front of
    the setters. -/
theorem board_reads_document (hdistinct : H.RecordsDistinct) (hcarries : P.CarriesTuple)
    {cpp : YamlCpp} {s : StartupSettings} {config : Yaml} {c : Comm P} {w : W}
    {a : Startup P W} (hopen : c.portOpen = true)
    (hready : startupAttempt H cpp s config port c w = .ready a) (board : UInt8) :
    RecordCode.readAll (readRecord H) ((a.callsTo board).map ConfigCall.event) =
        some ((documentRecords H cpp s config ++ ringRecords H s P.kNoBoard
          a.comm.presentBoards (Pass.pollEventsBoards cpp s config)).filter
            fun r => r.board = board) ∧
      (¬ Pass.StaleSkip cpp s config c.skippedBoards board →
        (∀ call ∈ a.callsTo board, call.WritesWhole) →
        ∀ call ∈ a.callsTo board, call.outcome = .acknowledged) := by
  constructor
  · have hevents : (a.callsTo board).map ConfigCall.event =
        a.sentEvents.filter fun e => e.boardId = board := by
      rw [sentEvents, List.filter_map]
      rfl
    rw [hevents, ready_sentEvents hcarries hready]
    apply readAll_records hdistinct
    rw [List.forall_mem_append]
    exact ⟨fits_documentRecords config, fits_ringRecords _ _ _⟩
  · intro hstale hwhole call hcall
    obtain ⟨hmem, hboard⟩ := List.mem_filter.mp hcall
    rcases (ready_calls hcarries hopen hready).2 call hmem (hwhole call hcall) with hok | ⟨-, hskip⟩
    · exact hok
    · rw [decide_eq_true_eq.mp hboard] at hskip
      exact absurd hskip hstale

end Startup

namespace Reference

theorem header_recordsDistinct : header.RecordsDistinct := by
  show (header.templates.map fun t => (t.1, t.2.head?)).Nodup
  decide +kernel

/-- Board 1 is polled and has switch 30. -/
def polledSwitchDocument : Yaml :=
  record
    [("debug", scalar "false"), ("rom", scalar "rom"), ("serialPort", scalar "port"),
      ("platform", scalar "SYS11"), ("coinDoorClosedSwitch", scalar "5"),
      ("gameOnSolenoid", scalar "6"),
      ("boards", list [record [("number", scalar "1"), ("pollEvents", scalar "true")]]),
      ("switches", list
        [record [("description", scalar "left ramp"), ("board", scalar "1"),
          ("port", scalar "2"), ("number", scalar "30"), ("debounce", scalar "5")]])]

/-- It accepts all events. -/
def polledSwitchAcks : Script where
  rounds := 9
  replies := (pollingAcks [1]).take 3 ++
    header.switchKeys.zipIdx.map (fun key =>
      ackFrom ⟨1, header.CONFIG_TOPIC_SWITCHES, UInt8.ofNat key.2, key.1⟩) ++
    (pollingAcks [1]).drop 3

theorem board_1_reads_switch_30 :
    ∃ a, startupAttempt header yamlCpp settings polledSwitchDocument port comm
        polledSwitchAcks = .ready a ∧
      RecordCode.readAll (readRecord header) ((a.callsTo 1).map ConfigCall.event) =
        some ((documentRecords header yamlCpp settings polledSwitchDocument ++
          ringRecords header settings protocol.kNoBoard a.comm.presentBoards
            (Pass.pollEventsBoards yamlCpp settings polledSwitchDocument)).filter
              fun r => r.board = 1) ∧
      (¬ Pass.StaleSkip yamlCpp settings polledSwitchDocument comm.skippedBoards 1 →
        (∀ call ∈ a.callsTo 1, call.WritesWhole) →
        ∀ call ∈ a.callsTo 1, call.outcome = .acknowledged) := by
  have hrun : (startupAttempt header yamlCpp settings polledSwitchDocument port comm
      polledSwitchAcks).attempt.isSome = true := by decide +kernel
  obtain ⟨a, hattempt⟩ := Option.isSome_iff_exists.mp hrun
  have hready := AttemptEnd.ready_of_attempt hattempt
  exact ⟨a, hready, Startup.board_reads_document header_recordsDistinct protocol_carriesTuple
    rfl hready 1⟩

end Reference

end LibPpuc
