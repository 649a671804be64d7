import Mathlib.Data.List.Perm.Basic
import LibPpuc.Startup.RecordStream
import LibPpuc.Startup.Soundness

/-! # The Application and the Boards Are Told the Same

  `GetCoils`, `GetLamps` and `GetSwitches` tell the application what there is
  to play.  A startup attempt fills the three lists on its way through the
  document, between the events for the boards, with conversions of its own:
  what goes to a board as a word goes to the application as a byte.

  `documentCoils`, `documentLamps` and `documentSwitches` are the lists in the
  document's own terms.  Entry by entry they match the records of the boards
  that have been told about a coil, a lamp or a switch.
-/

namespace LibPpuc

/-- An entry of one of the three lists. -/
inductive ListedItem where
  | switch (entry : PPUCSwitch)
  | coil (entry : PPUCCoil)
  | lamp (entry : PPUCLamp)

namespace ListedItem

def switch? : ListedItem → Option PPUCSwitch
  | .switch entry => some entry
  | _ => none

def coil? : ListedItem → Option PPUCCoil
  | .coil entry => some entry
  | _ => none

def lamp? : ListedItem → Option PPUCLamp
  | .lamp entry => some entry
  | _ => none

end ListedItem

/-- The entry of a step. -/
def Startup.listedBy : StartupStep → List ListedItem
  | .pushSwitch entry => [.switch entry]
  | .pushCoil entry => [.coil entry]
  | .pushLamp board port type number description color =>
    [.lamp
      { board := board, port := port.toUInt8, type := type, number := number.toUInt8,
        description := description, color := color }]
  | _ => []

/-! ### The Lists of a Document -/

section document

variable (H : EventHeader) (cpp : YamlCpp) (s : StartupSettings)

def byte (item : Yaml) (field : String) : UInt8 := valueOf (cpp.asUInt8 (item.get field))

def described (item : Yaml) : String := valueOf (cpp.asString (item.get "description"))

def flag (item : Yaml) (field : String) : Bool :=
  valueOf (readOptional cpp.asBool (item.get field) false)

def listedSwitch (n_switch : Yaml) : PPUCSwitch where
  board := itemBoard cpp n_switch
  port := byte cpp n_switch "port"
  number := byte cpp n_switch "number"
  description := described cpp n_switch
  button := flag cpp n_switch "button"

def listedCoil (n_pwmOutput : Yaml) : PPUCCoil where
  board := itemBoard cpp n_pwmOutput
  port := byte cpp n_pwmOutput "port"
  type := resolvePwmType H (valueOf (cpp.asString (n_pwmOutput.get "type")))
  number := byte cpp n_pwmOutput "number"
  description := described cpp n_pwmOutput
  ballSearch := flag cpp n_pwmOutput "ballSearch"

/-- A lamp keeps the low byte of its port and of its number. -/
def listedLamp (n_ledStripe : Yaml) (type : UInt8) (item : Yaml) : PPUCLamp where
  board := itemBoard cpp n_ledStripe
  port := (word cpp n_ledStripe "port").toUInt8
  type := type
  number := (word cpp item "number").toUInt8
  description := described cpp item
  color := (parseHex (colorDigits (valueOf (cpp.asString (item.get "color"))))).getD 0

def blockLamps (n_ledStripe : Yaml) (field : String) (type : UInt8) : List PPUCLamp :=
  (n_ledStripe.get field).items.map (listedLamp cpp n_ledStripe type)

def stripeLamps (n_ledStripe : Yaml) : List PPUCLamp :=
  blockLamps cpp n_ledStripe "lamps" H.LED_TYPE_LAMP ++
    blockLamps cpp n_ledStripe "flashers" H.LED_TYPE_FLASHER ++
    blockLamps cpp n_ledStripe "gi" H.LED_TYPE_GI

/-- The items on boards that are not skipped. -/
def unskipped (items : List Yaml) : List Yaml :=
  items.filter fun item => itemBoard cpp item ∉ s.skippedBoards

/-- A switch is listed even if its board is skipped; a matrix on a skipped
    board is left out with all its switches. -/
def documentSwitches (config : Yaml) : List PPUCSwitch :=
  (if (config.get "switchMatrix").isDefined = true ∧
      itemBoard cpp (config.get "switchMatrix") ∉ s.skippedBoards then
      ((config.get "switchMatrix").get "switches").items.map (listedSwitch cpp) else []) ++
    (config.get "switches").items.map (listedSwitch cpp)

def documentCoils (config : Yaml) : List PPUCCoil :=
  (unskipped cpp s (config.get "pwmOutput").items).map (listedCoil H cpp)

def documentLamps (config : Yaml) : List PPUCLamp :=
  (unskipped cpp s (config.get "ledStripes").items).flatMap (stripeLamps H cpp)

end document

/-! ### The Pass Lists the Document -/

namespace Pass

open Emitter

variable {P : Protocol} {H : EventHeader} {cpp : YamlCpp} {s : StartupSettings}

/-- A part of the pass that returns has listed these items. -/
def Lists {α : Type} (items : List ListedItem) (p : Pass α) : Prop :=
  Writes Startup.listedBy items p

namespace Lists

variable {α β : Type} {p : Pass α} {items later : List ListedItem}

theorem of_eq {items' : List ListedItem} (h : Lists items p) (heq : items = items') :
    Lists items' p := heq ▸ h

theorem pure (a : α) : Lists [] (Pure.pure a : Pass α) := Writes.pure a

theorem seq {q : Pass β} (hp : Lists items p) (hq : Lists later q) :
    Lists (items ++ later) (p >>= fun _ => q) := Writes.seq hp hq

/-- What lists nothing, then the rest. -/
theorem after {f : α → Pass β} (hp : Lists [] p) (hf : ∀ a, Lists later (f a)) :
    Lists later (p >>= f) := Writes.bind hp fun a _ => hf a

theorem onlyIf {c : Prop} [Decidable c] {body : Pass Unit} (h : Lists items body) :
    Lists (if c then items else []) (onlyIf c body) := by
  unfold LibPpuc.onlyIf
  split
  · exact h
  · exact Lists.pure _

theorem forM {γ : Type} {f : γ → Pass PUnit} {part : γ → List ListedItem} {xs : List γ}
    (h : ∀ y ∈ xs, Lists (part y) (f y)) : Lists (xs.flatMap part) (xs.forM f) := Writes.forM h

/-- Rounds that list nothing. -/
theorem forM_nothing {γ : Type} {f : γ → Pass PUnit} {xs : List γ} (h : ∀ y, Lists [] (f y)) :
    Lists [] (xs.forM f) := (forM fun y _ => h y).of_eq (by simp)

end Lists

theorem lists_check (x : StartupStep) (h : Startup.listedBy x = []) :
    Lists [] (emit x : Pass PUnit) := (Writes.emit x).of_eq h

theorem lists_read {α : Type} (r : Except Failure α) : Lists [] (ofExcept r : Pass α) :=
  Writes.ofExcept r

theorem lists_sendItem (item : Yaml) (topic index key : UInt8) (value : Except Failure UInt32) :
    Lists [] (sendItem cpp item topic index key value) :=
  (lists_read _).after fun _ => (lists_read _).after fun _ => lists_check _ rfl

theorem lists_printDescription (item : Yaml) : Lists [] (printDescription cpp s item) := by
  have hprint := Lists.onlyIf (c := s.debug = true)
    (lists_read ((cpp.asString (item.get "description")).map fun _ => PUnit.unit))
  rwa [ite_self] at hprint

theorem lists_unlessSkipped {item : Yaml} {body : Pass Unit} {items : List ListedItem}
    (h : Lists items body) :
    Lists (if itemBoard cpp item ∉ s.skippedBoards then items else [])
      (unlessSkipped cpp s item body) := by
  apply Writes.read
  intro board hboard
  rw [itemBoard, valueOf_ok hboard]
  exact h.onlyIf

/-- The events for a board list nothing, sent or not. -/
theorem lists_eventsUnlessSkipped {item : Yaml} {body : Pass Unit} (h : Lists [] body) :
    Lists [] (unlessSkipped cpp s item body) :=
  (lists_unlessSkipped h).of_eq (ite_self _)

theorem lists_pushSwitch (n_switch : Yaml) :
    Lists [.switch (listedSwitch cpp n_switch)] (pushSwitch cpp n_switch) := by
  apply Writes.read
  intro board hboard
  apply Writes.read
  intro port hport
  apply Writes.read
  intro number hnumber
  apply Writes.read
  intro description hdescription
  apply Writes.read
  intro button hbutton
  have hentry : listedSwitch cpp n_switch =
      { board := board, port := port, number := number, description := description,
        button := button } := by
    simp only [listedSwitch, itemBoard, byte, described, flag, valueOf_ok hboard,
      valueOf_ok hport, valueOf_ok hnumber, valueOf_ok hdescription, valueOf_ok hbutton]
  rw [hentry]
  exact Writes.emit _

/-- An event of an item, then the rest. -/
theorem lists_sendItem_then {item : Yaml} {topic index key : UInt8}
    {value : Except Failure UInt32} {α : Type} {q : Pass α} {items : List ListedItem}
    (hq : Lists items q) : Lists items (sendItem cpp item topic index key value >>= fun _ => q) :=
  (lists_sendItem item topic index key value).after fun _ => hq

/-- A conversion, then the rest. -/
theorem lists_read_then {α β : Type} {r : Except Failure α} {f : α → Pass β}
    {items : List ListedItem} (hf : ∀ a, Lists items (f a)) : Lists items (ofExcept r >>= f) :=
  (lists_read r).after hf

/-- An event, then the rest. -/
theorem lists_send_then {board topic index key : UInt8} {value : UInt32} {α : Type} {q : Pass α}
    {items : List ListedItem} (hq : Lists items q) :
    Lists items (send board topic index key value >>= fun _ => q) :=
  (lists_check (.send _) rfl).after fun _ => hq

theorem lists_matrixSwitchPass (n_switch : Yaml) :
    Lists [.switch (listedSwitch cpp n_switch)] (matrixSwitchPass H cpp s n_switch) := by
  refine (lists_printDescription n_switch).after fun _ => ?_
  refine (lists_eventsUnlessSkipped ?_).after fun _ => lists_pushSwitch n_switch
  apply lists_sendItem_then
  exact lists_sendItem _ _ _ _ _

theorem lists_switchMatrixPass (switchMatrix : Yaml) :
    Lists (if itemBoard cpp switchMatrix ∉ s.skippedBoards then
        (switchMatrix.get "switches").items.map fun n_switch =>
          .switch (listedSwitch cpp n_switch) else [])
      (switchMatrixPass H cpp s switchMatrix) := by
  apply lists_unlessSkipped
  apply lists_sendItem_then
  apply lists_sendItem_then
  rw [List.map_eq_flatMap]
  exact Lists.forM fun n_switch _ => lists_matrixSwitchPass n_switch

theorem lists_switchPass (n_switch : Yaml) :
    Lists [.switch (listedSwitch cpp n_switch)] (switchPass H cpp s n_switch) := by
  refine (lists_printDescription n_switch).after fun _ => ?_
  refine (lists_eventsUnlessSkipped ?_).after fun _ =>
    (lists_pushSwitch n_switch).seq (lists_check .abortCheck rfl)
  apply lists_sendItem_then
  apply lists_sendItem_then
  apply lists_sendItem_then
  exact lists_sendItem _ _ _ _ _

theorem lists_sendTriggerConfig (board : UInt8) (port type source number value : UInt32) :
    Lists [] (sendTriggerConfig H board port type source number value) := by
  apply lists_send_then
  apply lists_send_then
  apply lists_send_then
  apply lists_send_then
  exact lists_check _ rfl

/-- The triggers of an effect are for the boards alone. -/
theorem lists_effectTriggersPass (item effect : Yaml) (type : UInt8) (context : String) :
    Lists [] (effectTriggersPass H cpp item effect type context) := by
  apply lists_read_then
  intro board
  apply lists_read_then
  intro port
  have hnamed : Lists [] (sendNamedEffectTriggerConfig H cpp effect type.toUInt32 board port) := by
    apply Lists.of_eq (Lists.onlyIf _) (ite_self _)
    apply lists_read_then
    intro name
    apply Lists.of_eq (Lists.onlyIf _) (ite_self _)
    apply lists_read_then
    intro value
    exact lists_sendTriggerConfig _ _ _ _ _ _
  apply hnamed.after
  intro _
  apply Lists.of_eq (Lists.onlyIf _) (ite_self _)
  apply lists_read_then
  intro name
  apply lists_read_then
  intro source
  apply lists_read_then
  intro number
  apply lists_read_then
  intro value
  split
  · exact lists_read _
  · exact lists_sendTriggerConfig _ _ _ _ _ _

theorem lists_pwmEffectPass (n_pwmOutput effect : Yaml) :
    Lists [] (pwmEffectPass H cpp n_pwmOutput effect) := by
  apply lists_sendItem_then
  apply lists_sendItem_then
  apply lists_sendItem_then
  apply lists_sendItem_then
  apply lists_sendItem_then
  apply lists_sendItem_then
  apply lists_sendItem_then
  apply lists_sendItem_then
  apply lists_sendItem_then
  exact (lists_effectTriggersPass _ _ _ _).after fun _ => lists_check _ rfl

theorem lists_pushCoil {n_pwmOutput : Yaml} {type : UInt8}
    (htype : resolvePwmType H (valueOf (cpp.asString (n_pwmOutput.get "type"))) = type) :
    Lists [.coil (listedCoil H cpp n_pwmOutput)] (pushCoil cpp n_pwmOutput type) := by
  apply Writes.read
  intro board hboard
  apply Writes.read
  intro port hport
  apply Writes.read
  intro number hnumber
  apply Writes.read
  intro description hdescription
  apply Writes.read
  intro ballSearch hballSearch
  have hentry : listedCoil H cpp n_pwmOutput =
      { board := board, port := port, type := type, number := number, description := description,
        ballSearch := ballSearch } := by
    simp only [listedCoil, itemBoard, byte, described, flag, valueOf_ok hboard,
      valueOf_ok hport, valueOf_ok hnumber, valueOf_ok hdescription, valueOf_ok hballSearch,
      htype]
  rw [hentry]
  exact Writes.emit _

theorem lists_pwmOutputPass (n_pwmOutput : Yaml) :
    Lists (if itemBoard cpp n_pwmOutput ∉ s.skippedBoards then
        [.coil (listedCoil H cpp n_pwmOutput)] else [])
      (pwmOutputPass H cpp s n_pwmOutput) := by
  apply lists_unlessSkipped
  apply (lists_printDescription n_pwmOutput).after
  intro _
  apply lists_sendItem_then
  apply lists_sendItem_then
  apply lists_sendItem_then
  apply lists_sendItem_then
  apply lists_sendItem_then
  apply lists_sendItem_then
  apply lists_sendItem_then
  apply lists_sendItem_then
  apply Writes.read
  intro c_type htype
  apply lists_sendItem_then
  apply (Lists.forM_nothing fun effect => lists_pwmEffectPass _ effect).after
  intro _
  exact (lists_pushCoil (by rw [valueOf_ok htype])).seq (lists_check .abortCheck rfl)

theorem lists_ledSegments (n_ledStripe : Yaml) (segments : List Yaml) (index : UInt8) :
    Lists [] (segments.foldlM (ledSegmentPass H cpp n_ledStripe) index) := by
  have hpart : ∀ segment ∈ segments, ∀ index,
      Lists [] (ledSegmentPass H cpp n_ledStripe index segment) := by
    intro segment _ index
    apply lists_sendItem_then
    apply lists_sendItem_then
    apply lists_sendItem_then
    apply lists_sendItem_then
    exact (lists_check .abortCheck rfl).after fun _ => Lists.pure _
  exact (Writes.foldlM hpart index).of_eq (by simp)

theorem lists_ledEffectPass (n_ledStripe effect : Yaml) :
    Lists [] (ledEffectPass H cpp n_ledStripe effect) := by
  apply lists_sendItem_then
  apply lists_sendItem_then
  apply lists_read_then
  intro colors
  apply lists_sendItem_then
  apply lists_sendItem_then
  apply lists_sendItem_then
  apply lists_sendItem_then
  apply lists_sendItem_then
  apply lists_sendItem_then
  apply lists_sendItem_then
  apply lists_sendItem_then
  apply lists_sendItem_then
  apply lists_sendItem_then
  apply lists_sendItem_then
  exact (lists_effectTriggersPass _ _ _ _).after fun _ => lists_check _ rfl

theorem lists_ledItemPass {n_ledStripe item : Yaml} {type board : UInt8} {port : UInt32}
    {itemIndex : Nat} (hboard : itemBoard cpp n_ledStripe = board)
    (hport : word cpp n_ledStripe "port" = port) :
    Lists [.lamp (listedLamp cpp n_ledStripe type item)]
      (ledItemPass H cpp type board port item itemIndex) := by
  apply (lists_check .abortCheck rfl).after
  intro _
  apply Writes.read
  intro description hdescription
  apply Writes.read
  intro number hnumber
  apply lists_read_then
  intro ledNumber
  apply Writes.read
  intro color hcolor
  have hentry : listedLamp cpp n_ledStripe type item =
      { board := board, port := port.toUInt8, type := type, number := number.toUInt8,
        description := description, color := color } := by
    rw [listedLamp, hboard, hport, word, valueOf_ok (readRequiredYamlField_eq_ok hnumber),
      described, valueOf_ok (readRequiredYamlField_eq_ok hdescription),
      parseRequiredHexColorField_eq_ok hcolor, Option.getD_some]
  rw [hentry]
  apply lists_send_then
  apply lists_send_then
  apply lists_send_then
  apply lists_send_then
  apply lists_send_then
  exact Writes.emit _

theorem lists_ledBlock (n_ledStripe : Yaml) (field : String) (type : UInt8) :
    Lists ((blockLamps cpp n_ledStripe field type).map .lamp)
      (sendLedConfigBlock H cpp n_ledStripe field type) := by
  apply Writes.read
  intro board hboard
  apply Writes.read
  intro port hport
  have hitems : ∀ entry ∈ (n_ledStripe.get field).items.zipIdx,
      Lists [.lamp (listedLamp cpp n_ledStripe type entry.1)]
        (ledItemPass H cpp type board port entry.1 entry.2) :=
    fun _ _ => lists_ledItemPass (valueOf_ok hboard) (valueOf_ok hport)
  apply (Lists.forM hitems).of_eq
  -- the index of an item shows in errors only
  rw [← List.map_eq_flatMap, blockLamps, List.map_map]
  conv_rhs => rw [← List.zipIdx_map_fst 0 (n_ledStripe.get field).items, List.map_map]
  rfl

theorem lists_ledStripePass (n_ledStripe : Yaml) :
    Lists (if itemBoard cpp n_ledStripe ∉ s.skippedBoards then
        (stripeLamps H cpp n_ledStripe).map .lamp else [])
      (ledStripePass H cpp s n_ledStripe) := by
  apply lists_unlessSkipped
  apply lists_sendItem_then
  apply lists_sendItem_then
  apply lists_sendItem_then
  apply lists_sendItem_then
  apply lists_sendItem_then
  apply lists_sendItem_then
  apply (lists_ledSegments n_ledStripe _ 6).after
  intro _
  apply (Lists.forM_nothing fun effect => lists_ledEffectPass _ effect).after
  intro _
  rw [stripeLamps, List.map_append, List.map_append, List.append_assoc]
  apply (lists_ledBlock n_ledStripe "lamps" _).seq
  apply (lists_ledBlock n_ledStripe "flashers" _).seq
  exact ((lists_ledBlock n_ledStripe "gi" _).seq (lists_check .abortCheck rfl)).of_eq
    (List.append_nil _)

/-- Rounds over the items on boards that are not skipped. -/
theorem flatMap_unskipped {α : Type} (f : Yaml → List α) (items : List Yaml) :
    (items.flatMap fun item => if itemBoard cpp item ∉ s.skippedBoards then f item else []) =
      (unskipped cpp s items).flatMap f := by
  induction items with
  | nil => rfl
  | cons item items ih =>
    rw [List.flatMap_cons, ih, unskipped, unskipped, List.filter_cons]
    by_cases hskip : itemBoard cpp item ∈ s.skippedBoards
    · simp [hskip]
    · simp [hskip]

/-- What the sections list, in the order of the document. -/
theorem lists_sectionsPass (config : Yaml) :
    Lists ((documentSwitches cpp s config).map .switch ++
        (documentCoils H cpp s config).map .coil ++ (documentLamps H cpp s config).map .lamp)
      (sectionsPass H cpp s config) := by
  have hmatrix : Lists _ (onlyIf ((config.get "switchMatrix").isDefined = true)
      (switchMatrixPass H cpp s (config.get "switchMatrix"))) :=
    (lists_switchMatrixPass (config.get "switchMatrix")).onlyIf
  have hswitches : Lists _ ((config.get "switches").items.forM (switchPass H cpp s)) :=
    Lists.forM fun n_switch _ => lists_switchPass n_switch
  have hcoils : Lists _ ((config.get "pwmOutput").items.forM (pwmOutputPass H cpp s)) :=
    Lists.forM fun n_pwmOutput _ => lists_pwmOutputPass n_pwmOutput
  have hlamps : Lists _ ((config.get "ledStripes").items.forM (ledStripePass H cpp s)) :=
    Lists.forM fun n_ledStripe _ => lists_ledStripePass n_ledStripe
  have hchecks := (lists_check .abortCheck rfl).seq (lists_check .failureCheck rfl)
  have hall := hmatrix.seq ((lists_check .abortCheck rfl).seq (hswitches.seq
    ((lists_check .abortCheck rfl).seq (hcoils.seq ((lists_check .abortCheck rfl).seq
      (hlamps.seq hchecks))))))
  apply Lists.of_eq hall
  rw [flatMap_unskipped, flatMap_unskipped]
  simp only [documentSwitches, documentCoils, documentLamps, List.map_append, List.map_map,
    List.map_flatMap, List.nil_append, List.append_nil, List.append_assoc,
    ← List.map_eq_flatMap]
  congr 1
  split
  · next hdefined => split <;> simp_all
  · next hdefined => simp [hdefined]

/-- Steps that list nothing. -/
theorem lists_of_only {α : Type} {p : Pass α} (h : Only (fun x => Startup.listedBy x = []) p) :
    Lists [] p := by
  intro _ _
  rw [List.flatMap_eq_nil_iff]
  exact h

/-- **What a pass that returns lists**. -/
theorem lists_startupPass (config : Yaml) :
    Lists ((documentSwitches cpp s config).map .switch ++
        (documentCoils H cpp s config).map .coil ++ (documentLamps H cpp s config).map .lamp)
      (startupPass P H cpp s config) := by
  have hboards : Lists [] (boardsPass H cpp s config) :=
    lists_of_only (only_boardsPass (Q := fun x => Startup.listedBy x = []) (fun _ => rfl)
      (fun _ => rfl) rfl config)
  have hmapping : ∀ boards, Lists [] (mappingPass cpp s config boards) := fun boards =>
    lists_of_only (only_bind (only_ofExcept _) fun _ =>
      only_bind (only_ofExcept _) fun _ => only_emit rfl)
  have hring : ∀ boards, Lists [] (tokenRingPass P s boards) := by
    intro boards
    apply (lists_check .finalizeBoardPresence rfl).after
    intro _
    apply (lists_check (.setActiveSwitchBoards boards) rfl).after
    intro _
    exact Lists.forM_nothing fun entry => lists_check _ rfl
  apply hboards.after
  intro boards
  apply (lists_check .abortCheck rfl).after
  intro _
  apply (hmapping boards).after
  intro _
  exact ((lists_sectionsPass config).seq ((hring _).seq
    ((lists_check .abortCheck rfl).seq (lists_check .failureCheck rfl)))).of_eq
      (List.append_nil _)

end Pass

/-! ### The Lists of an Attempt -/

namespace Startup

variable {P : Protocol} {W : Type} {H : EventHeader} {port : SerialPort W}

/-- `m_switches`, `m_coils` and `m_lamps`. -/
def playable (a : Startup P W) : List PPUCSwitch × List PPUCCoil × List PPUCLamp :=
  (a.switches, a.coils, a.lamps)

theorem playable_sends (events : List ConfigEvent) (a : Startup P W) :
    (a.sends port events).playable = a.playable :=
  sends_invariant (I := fun b => b.playable = a.playable) (fun _ _ h => h) events rfl

/-- **Step lemma**: a step appends its entry to its list. -/
theorem step_playable {a a' : Startup P W} {x : StartupStep} (h : a.step H port x = some a') :
    a'.playable = (a.switches ++ (listedBy x).filterMap ListedItem.switch?,
      a.coils ++ (listedBy x).filterMap ListedItem.coil?,
      a.lamps ++ (listedBy x).filterMap ListedItem.lamp?) := by
  have hnothing : listedBy x = [] → a'.playable = a.playable →
      a'.playable = (a.switches ++ (listedBy x).filterMap ListedItem.switch?,
        a.coils ++ (listedBy x).filterMap ListedItem.coil?,
        a.lamps ++ (listedBy x).filterMap ListedItem.lamp?) := by
    intro hnone hsame
    rw [hsame, hnone]
    simp [playable]
  cases x with
  | pushSwitch entry | pushCoil entry =>
    obtain rfl := Option.some.inj h
    simp [playable, listedBy, ListedItem.switch?, ListedItem.coil?, ListedItem.lamp?]
  | pushLamp board port type number description color =>
    obtain rfl := Option.some.inj h
    simp [playable, listedBy, ListedItem.switch?, ListedItem.coil?, ListedItem.lamp?]
  | abortCheck =>
    obtain ⟨-, rfl⟩ := step_abortCheck h
    exact hnothing rfl rfl
  | failureCheck =>
    obtain ⟨-, rfl⟩ := step_failureCheck h
    exact hnothing rfl rfl
  | send | registerSwitchBoard | installMappings | finalizeBoardPresence
  | setActiveSwitchBoards =>
    obtain rfl := Option.some.inj h
    exact hnothing rfl rfl
  | tokenRing current next switchReplyDelayUs =>
    simp only [step] at h
    split at h
    · obtain rfl := Option.some.inj h
      exact hnothing rfl (playable_sends [nextBoardEvent H current next,
        replyDelayEvent H current switchReplyDelayUs] a)
    · obtain rfl := Option.some.inj h
      exact hnothing rfl rfl

/-- **Run lemma**: the lists grow by the entries of the steps. -/
theorem run_playable {steps : List StartupStep} {a a' : Startup P W}
    (hrun : Transition.exec (step H port) a steps = some a') :
    a'.playable = (a.switches ++ (steps.flatMap listedBy).filterMap ListedItem.switch?,
      a.coils ++ (steps.flatMap listedBy).filterMap ListedItem.coil?,
      a.lamps ++ (steps.flatMap listedBy).filterMap ListedItem.lamp?) := by
  induction steps generalizing a with
  | nil =>
    obtain rfl : a = a' := by simpa using hrun
    simp [playable]
  | cons x steps ih =>
    obtain ⟨b, hstep, hrest⟩ := Transition.exec_cons_some.mp hrun
    have hfirst := step_playable hstep
    simp only [playable, Prod.mk.injEq] at hfirst
    rw [ih hrest, hfirst.1, hfirst.2.1, hfirst.2.2]
    simp [List.filterMap_append]

/-- The lists of an attempt that gets as far as `SendSetupFrame`. -/
theorem ready_playable {cpp : YamlCpp} {s : StartupSettings} {config : Yaml} {c : Comm P} {w : W}
    {a : Startup P W} (hready : startupAttempt H cpp s config port c w = .ready a) :
    a.playable =
      (documentSwitches cpp s config, documentCoils H cpp s config,
        documentLamps H cpp s config) := by
  obtain ⟨hrun, hok⟩ := startupAttempt_ready.mp hready
  have hlisted : (Pass.startupPass P H cpp s config).emitted.flatMap listedBy = _ :=
    Pass.lists_startupPass config ⟨⟩ hok
  rw [run_playable hrun, hlisted]
  simp [start, List.filterMap_append, List.filterMap_map, Function.comp_def,
    ListedItem.switch?, ListedItem.coil?, ListedItem.lamp?]

end Startup

end LibPpuc
