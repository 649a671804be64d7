import LibPpuc.Framework.Numeral
import LibPpuc.Startup.Lists

/-! # Skipped Boards Are Left Alone

  `SetSkippedBoardsCsv` reads the boards to leave out from a list of numbers
  with commas between them.  A token that is not the numeral of a byte is
  ignored.  `mem_setSkippedBoardsCsv` says which boards a text names, and
  `setSkippedBoardsCsv_csvOf` that a list of numbers names its boards.

  A startup attempt has many places that send events, each with a check of its
  own.  None of them sends an event to a board of the skip set.
-/

namespace LibPpuc

open Numeral

/-! ### The Text -/

section text

variable {LONG_MAX : Nat}

/-- One token of the text. -/
def skipToken (LONG_MAX : Nat) (token : List Char) (skippedBoards : Finset UInt8) :
    Finset UInt8 :=
  if token ≠ [] then
    match strtol LONG_MAX token with
    | some (value, []) =>
      if 0 ≤ value ∧ value ≤ 255 then insert (UInt8.ofNat value.toNat) skippedBoards
      else skippedBoards
    | _ => skippedBoards
  else skippedBoards

/-- The loop of `SetSkippedBoardsCsv`. -/
def skipTokens (LONG_MAX : Nat) (csv : List Char) (start : Nat) (skippedBoards : Finset UInt8) :
    Finset UInt8 :=
  if start < csv.length then
    match (csv.drop start).idxOf? ',' with
    | none => skipToken LONG_MAX (csv.drop start) skippedBoards
    | some length =>
      skipTokens LONG_MAX csv (start + length + 1)
        (skipToken LONG_MAX ((csv.drop start).take length) skippedBoards)
  else skippedBoards
termination_by csv.length - start

/-- `SetSkippedBoardsCsv`; without a text no board is skipped. -/
def setSkippedBoardsCsv (LONG_MAX : Nat) : Option String → Finset UInt8
  | none => ∅
  | some skippedBoardsCsv =>
    if skippedBoardsCsv.toList = [] then ∅ else skipTokens LONG_MAX skippedBoardsCsv.toList 0 ∅

/-- A token of the text is a numeral of the board. -/
def NamesBoard (skippedBoardsCsv : String) (board : UInt8) : Prop :=
  ∃ token ∈ skippedBoardsCsv.toList.splitOn ',', IsNumeral token board.toNat

/-- The numbers of the boards, with commas between them. -/
def csvOf (boards : List UInt8) : List Char :=
  [','].intercalate (boards.map fun board => Nat.toDigits 10 board.toNat)

theorem mem_skipToken (hlong : 2147483647 ≤ LONG_MAX) {token : List Char}
    {skippedBoards : Finset UInt8} {board : UInt8} :
    board ∈ skipToken LONG_MAX token skippedBoards ↔
      board ∈ skippedBoards ∨ IsNumeral token board.toNat := by
  have hbyte := board.toNat_lt
  rw [← strtol_eq_iff LONG_MAX (by omega) (by omega)]
  unfold skipToken
  split
  · split
    · next value hread =>
      rw [hread]
      simp only [Option.some.injEq, Prod.mk.injEq, and_true]
      split
      · next hrange =>
        rw [Finset.mem_insert, or_comm]
        apply or_congr_right
        rw [← UInt8.toNat_inj, UInt8.toNat_ofNat_of_lt' (by unfold UInt8.size; omega)]
        omega
      · next hrange =>
        rw [or_iff_left]
        omega
    · next hother =>
      rw [or_iff_left]
      exact hother _
  · next hempty =>
    obtain rfl : token = [] := Classical.not_not.mp hempty
    simp [strtol, takeSign]

/-- The loop takes the text apart at its commas. -/
theorem skipTokens_eq (csv : List Char) (start : Nat) (skippedBoards : Finset UInt8) :
    skipTokens LONG_MAX csv start skippedBoards =
      ((csv.drop start).splitOn ',').foldl (fun skipped token => skipToken LONG_MAX token skipped)
        skippedBoards := by
  fun_induction skipTokens LONG_MAX csv start skippedBoards with
  | case1 start skippedBoards hlt hnone =>
    rw [List.splitOn_eq_singleton (List.idxOf?_eq_none_iff.mp hnone)]
    rfl
  | case2 start skippedBoards hlt length hsome ih =>
    obtain ⟨hlength, hcomma, hbefore⟩ := List.idxOf?_eq_some_iff.mp hsome
    have hnone : ',' ∉ (csv.drop start).take length := by
      intro hmem
      obtain ⟨i, hi, heq⟩ := List.mem_take_iff_getElem.mp hmem
      exact hbefore i (by omega) heq
    have hrest : csv.drop start = (csv.drop start).take length ++
        ',' :: csv.drop (start + length + 1) := by
      conv_lhs => rw [← List.take_append_drop length (csv.drop start)]
      rw [List.drop_eq_getElem_cons hlength, hcomma, List.drop_drop]
      rfl
    rw [ih]
    conv_rhs => rw [hrest, List.splitOn_append_cons_self_of_not_mem hnone]
    rfl
  | case3 start skippedBoards hge =>
    -- behind a comma at the end there is an empty token
    rw [List.drop_eq_nil_of_le (by omega)]
    simp [skipToken]

/-- The boards of a text. -/
theorem mem_setSkippedBoardsCsv (hlong : 2147483647 ≤ LONG_MAX) (skippedBoardsCsv : String)
    (board : UInt8) :
    board ∈ setSkippedBoardsCsv LONG_MAX (some skippedBoardsCsv) ↔
      NamesBoard skippedBoardsCsv board := by
  have htokens : ∀ (tokens : List (List Char)) (skippedBoards : Finset UInt8),
      board ∈ tokens.foldl (fun skipped token => skipToken LONG_MAX token skipped)
          skippedBoards ↔
        board ∈ skippedBoards ∨ ∃ token ∈ tokens, IsNumeral token board.toNat := by
    intro tokens
    induction tokens with
    | nil => simp
    | cons token tokens ih =>
      intro skippedBoards
      rw [List.foldl_cons, ih, mem_skipToken hlong]
      simp [or_assoc]
  simp only [setSkippedBoardsCsv, NamesBoard]
  split
  · next htext =>
    have hempty : ¬ IsNumeral [] board.toNat := not_isNumeral_nil
    simp [htext, hempty]
  · rw [skipTokens_eq, htokens]
    simp

/-- A list of numbers names its boards and no others. -/
theorem setSkippedBoardsCsv_csvOf (hlong : 2147483647 ≤ LONG_MAX) (boards : List UInt8) :
    setSkippedBoardsCsv LONG_MAX (some (String.ofList (csvOf boards))) = boards.toFinset := by
  ext board
  rw [mem_setSkippedBoardsCsv hlong, NamesBoard, String.toList_ofList, List.mem_toFinset]
  by_cases hnone : boards = []
  · have hempty : ¬ IsNumeral [] board.toNat := not_isNumeral_nil
    simp [hnone, csvOf, hempty]
  · rw [csvOf, List.splitOn_intercalate]
    · constructor
      · rintro ⟨token, htoken, hnumeral⟩
        obtain ⟨named, hnamed, rfl⟩ := List.mem_map.mp htoken
        have hsame := hnumeral.unique (isNumeral_toDigits named.toNat)
        obtain rfl : board = named := UInt8.toNat_inj.mp (by omega)
        exact hnamed
      · exact fun hmem => ⟨_, List.mem_map_of_mem hmem, isNumeral_toDigits board.toNat⟩
    · -- a comma is no digit
      intro token htoken hcomma
      obtain ⟨named, -, rfl⟩ := List.mem_map.mp htoken
      have hdigit := Nat.isDigit_of_mem_toDigits (by omega) (by omega) hcomma
      simp at hdigit
    · simpa using hnone

end text

/-! ### The Pass Spares Skipped Boards -/

/-- The step sends no event to a board of the skip set. -/
def Startup.Spares (skippedBoards : Finset UInt8) : StartupStep → Prop
  | .send event => event.boardId ∉ skippedBoards
  | .tokenRing current _ _ => current ∉ skippedBoards
  | _ => True

namespace Pass

open Emitter

variable {P : Protocol} {H : EventHeader} {cpp : YamlCpp} {s : StartupSettings}

/-- A part of the pass that sends nothing to skipped boards. -/
def Sparing {α : Type} (s : StartupSettings) (p : Pass α) : Prop :=
  Only (Startup.Spares s.skippedBoards) p

namespace Sparing

variable {α β : Type} {p : Pass α} {f : α → Pass β}

theorem pure (a : α) : Sparing s (Pure.pure a : Pass α) := only_pure a

theorem emit {x : StartupStep} (h : Startup.Spares s.skippedBoards x) :
    Sparing s (Emitter.emit x : Pass PUnit) := only_emit h

theorem bind (hp : Sparing s p) (hf : ∀ a, Sparing s (f a)) : Sparing s (p >>= f) :=
  only_bind hp hf

theorem seq {q : Pass β} (hp : Sparing s p) (hq : Sparing s q) :
    Sparing s (p >>= fun _ => q) := hp.bind fun _ => hq

/-- A conversion, then the rest. -/
theorem read {r : Except Failure α} (h : ∀ a, r = .ok a → Sparing s (f a)) :
    Sparing s (ofExcept r >>= f) := only_bind_ok (only_ofExcept r) h

theorem onlyIf {c : Prop} [Decidable c] {body : Pass Unit} (h : c → Sparing s body) :
    Sparing s (onlyIf c body) := by
  unfold LibPpuc.onlyIf
  split
  · next hc => exact h hc
  · exact pure _

theorem forM {γ : Type} {g : γ → Pass PUnit} {xs : List γ} (h : ∀ y ∈ xs, Sparing s (g y)) :
    Sparing s (xs.forM g) := by
  induction xs with
  | nil => exact pure _
  | cons y ys ih =>
    obtain ⟨hy, hys⟩ := List.forall_mem_cons.mp h
    show Sparing s (g y >>= fun _ => ys.forM g)
    exact hy.seq (ih hys)

end Sparing

theorem sparing_abortCheck : Sparing s (emit .abortCheck) := .emit trivial

theorem sparing_send {board topic index key : UInt8} {value : UInt32}
    (h : board ∉ s.skippedBoards) : Sparing s (send board topic index key value) := .emit h

theorem sparing_sendItem {item : Yaml} {topic index key : UInt8} {value : Except Failure UInt32}
    (h : itemBoard cpp item ∉ s.skippedBoards) :
    Sparing s (sendItem cpp item topic index key value) := by
  apply Sparing.read
  intro board hboard
  apply Sparing.read
  intro value' _
  rw [itemBoard, valueOf_ok hboard] at h
  exact sparing_send h

theorem sparing_printDescription (item : Yaml) : Sparing s (printDescription cpp s item) :=
  .onlyIf fun _ => only_ofExcept _

/-- The check of an item holds for all that is sent to its board. -/
theorem sparing_unlessSkipped {item : Yaml} {body : Pass Unit}
    (h : itemBoard cpp item ∉ s.skippedBoards → Sparing s body) :
    Sparing s (unlessSkipped cpp s item body) := by
  apply Sparing.read
  intro board hboard
  apply Sparing.onlyIf
  intro htold
  apply h
  rwa [itemBoard, valueOf_ok hboard]

theorem sparing_pushSwitch (n_switch : Yaml) : Sparing s (pushSwitch cpp n_switch) :=
  .read fun _ _ => .read fun _ _ => .read fun _ _ => .read fun _ _ => .read fun _ _ =>
    .emit trivial

theorem sparing_pushCoil (n_pwmOutput : Yaml) (type : UInt8) :
    Sparing s (pushCoil cpp n_pwmOutput type) :=
  .read fun _ _ => .read fun _ _ => .read fun _ _ => .read fun _ _ => .read fun _ _ =>
    .emit trivial

/-- The switches of a matrix may be on other boards than the matrix. -/
theorem sparing_matrixSwitchPass (n_switch : Yaml) :
    Sparing s (matrixSwitchPass H cpp s n_switch) := by
  apply (sparing_printDescription n_switch).seq
  refine (sparing_unlessSkipped fun htold => ?_).seq (sparing_pushSwitch n_switch)
  exact (sparing_sendItem htold).seq (sparing_sendItem htold)

theorem sparing_switchMatrixPass (switchMatrix : Yaml) :
    Sparing s (switchMatrixPass H cpp s switchMatrix) := by
  apply sparing_unlessSkipped
  intro htold
  apply (sparing_sendItem htold).seq
  apply (sparing_sendItem htold).seq
  exact Sparing.forM fun n_switch _ => sparing_matrixSwitchPass n_switch

theorem sparing_switchPass (n_switch : Yaml) : Sparing s (switchPass H cpp s n_switch) := by
  apply (sparing_printDescription n_switch).seq
  refine (sparing_unlessSkipped fun htold => ?_).seq
    ((sparing_pushSwitch n_switch).seq (.emit trivial))
  apply (sparing_sendItem htold).seq
  apply (sparing_sendItem htold).seq
  exact (sparing_sendItem htold).seq (sparing_sendItem htold)

theorem sparing_sendTriggerConfig {board : UInt8} (h : board ∉ s.skippedBoards)
    (port type source number value : UInt32) :
    Sparing s (sendTriggerConfig H board port type source number value) := by
  apply (sparing_send h).seq
  apply (sparing_send h).seq
  apply (sparing_send h).seq
  exact (sparing_send h).seq (sparing_send h)

theorem sparing_effectTriggersPass {item : Yaml} (h : itemBoard cpp item ∉ s.skippedBoards)
    (effect : Yaml) (type : UInt8) (context : String) :
    Sparing s (effectTriggersPass H cpp item effect type context) := by
  apply Sparing.read
  intro board hboard
  rw [itemBoard, valueOf_ok hboard] at h
  apply Sparing.read
  intro port _
  have hnamed : Sparing s (sendNamedEffectTriggerConfig H cpp effect type.toUInt32 board port) :=
    .onlyIf fun _ => .read fun _ _ => .onlyIf fun _ => .read fun _ _ =>
      sparing_sendTriggerConfig h _ _ _ _ _
  apply hnamed.seq
  apply Sparing.onlyIf
  intro _
  apply Sparing.read
  intro name _
  apply Sparing.read
  intro source _
  apply Sparing.read
  intro number _
  apply Sparing.read
  intro value _
  split
  · exact only_ofExcept _
  · exact sparing_sendTriggerConfig h _ _ _ _ _

theorem sparing_pwmOutputPass (n_pwmOutput : Yaml) :
    Sparing s (pwmOutputPass H cpp s n_pwmOutput) := by
  apply sparing_unlessSkipped
  intro htold
  apply (sparing_printDescription n_pwmOutput).seq
  iterate 8 apply (sparing_sendItem htold).seq
  apply Sparing.read
  intro c_type _
  apply (sparing_sendItem htold).seq
  refine (Sparing.forM fun effect _ => ?_).seq ((sparing_pushCoil _ _).seq (.emit trivial))
  iterate 9 apply (sparing_sendItem htold).seq
  exact (sparing_effectTriggersPass htold _ _ _).seq (.emit trivial)

theorem sparing_ledEffectPass {n_ledStripe : Yaml}
    (h : itemBoard cpp n_ledStripe ∉ s.skippedBoards) (effect : Yaml) :
    Sparing s (ledEffectPass H cpp n_ledStripe effect) := by
  iterate 2 apply (sparing_sendItem h).seq
  apply Sparing.read
  intro colors _
  iterate 11 apply (sparing_sendItem h).seq
  exact (sparing_effectTriggersPass h _ _ _).seq (.emit trivial)

theorem sparing_ledBlock {n_ledStripe : Yaml} (h : itemBoard cpp n_ledStripe ∉ s.skippedBoards)
    (field : String) (type : UInt8) :
    Sparing s (sendLedConfigBlock H cpp n_ledStripe field type) := by
  apply Sparing.read
  intro board hboard
  rw [itemBoard, valueOf_ok hboard] at h
  apply Sparing.read
  intro port _
  apply Sparing.forM
  intro entry _
  -- one item of the block
  apply sparing_abortCheck.seq
  apply Sparing.read
  intro description _
  apply Sparing.read
  intro number _
  apply Sparing.read
  intro ledNumber _
  apply Sparing.read
  intro color _
  iterate 5 apply (sparing_send h).seq
  exact .emit trivial

theorem sparing_ledStripePass (n_ledStripe : Yaml) :
    Sparing s (ledStripePass H cpp s n_ledStripe) := by
  apply sparing_unlessSkipped
  intro htold
  iterate 6 apply (sparing_sendItem htold).seq
  have hsegments : Sparing s ((n_ledStripe.get "segments").items.foldlM
      (ledSegmentPass H cpp n_ledStripe) 6) := by
    apply only_foldlM
    intro index segment _
    show Sparing s _
    iterate 4 apply (sparing_sendItem htold).seq
    exact sparing_abortCheck.seq (.pure _)
  apply hsegments.bind
  intro _
  apply (Sparing.forM fun effect _ => sparing_ledEffectPass htold effect).seq
  apply (sparing_ledBlock htold _ _).seq
  apply (sparing_ledBlock htold _ _).seq
  exact (sparing_ledBlock htold _ _).seq (.emit trivial)

theorem sparing_sectionsPass (config : Yaml) : Sparing s (sectionsPass H cpp s config) := by
  apply (Sparing.onlyIf fun _ => sparing_switchMatrixPass _).seq
  apply sparing_abortCheck.seq
  apply (Sparing.forM fun n_switch _ => sparing_switchPass n_switch).seq
  apply sparing_abortCheck.seq
  apply (Sparing.forM fun n_pwmOutput _ => sparing_pwmOutputPass n_pwmOutput).seq
  apply sparing_abortCheck.seq
  apply (Sparing.forM fun n_ledStripe _ => sparing_ledStripePass n_ledStripe).seq
  exact sparing_abortCheck.seq (.emit trivial)

theorem pollEventsBoards_unskipped {config : Yaml} {board : UInt8}
    (h : board ∈ pollEventsBoards cpp s config) : board ∉ s.skippedBoards := by
  obtain ⟨n_board, -, hpolled⟩ := List.mem_filterMap.mp h
  unfold pollEventsBoard at hpolled
  split at hpolled
  · split at hpolled
    · simp at hpolled
    · next htold =>
      split at hpolled
      · obtain rfl := Option.some.inj hpolled
        exact htold
      · simp at hpolled
  · simp at hpolled

theorem sparing_boardsPass (config : Yaml) : Sparing s (boardsPass H cpp s config) := by
  apply only_foldlM
  intro boards n_board _
  show Sparing s _
  apply Sparing.read
  intro board _
  dsimp only
  split
  · exact .pure _
  · next htold =>
    apply (sparing_send htold).seq
    apply Sparing.read
    intro coinDoorClosedSwitch _
    apply (sparing_send htold).seq
    apply Sparing.read
    intro gameOnSolenoid _
    apply (sparing_send htold).seq
    apply Sparing.read
    intro pollEvents _
    have hregister : Sparing s (onlyIf (pollEvents = true)
        (emit (.registerSwitchBoard board))) := .onlyIf fun _ => .emit trivial
    exact hregister.seq (sparing_abortCheck.seq (.pure _))

/-- **The whole pass spares skipped boards**, whether it returns or not. -/
theorem sparing_startupPass (config : Yaml) : Sparing s (startupPass P H cpp s config) := by
  apply only_bind_ok (sparing_boardsPass config)
  intro boards hboards
  apply sparing_abortCheck.seq
  have hmapping : Sparing s (mappingPass cpp s config boards) :=
    .read fun _ _ => .read fun _ _ => .emit trivial
  apply hmapping.seq
  apply (sparing_sectionsPass config).seq
  have hring : Sparing s (tokenRingPass P s boards.switchBoards) := by
    have hfinalize : Sparing s (emit .finalizeBoardPresence) := .emit trivial
    have hactive : Sparing s (emit (.setActiveSwitchBoards boards.switchBoards)) := .emit trivial
    apply hfinalize.seq
    apply hactive.seq
    apply Sparing.forM
    intro entry hentry
    have hboard := List.fst_mem_of_mem_zipIdx hentry
    rw [switchBoards_boardsPass hboards] at hboard
    exact .emit (pollEventsBoards_unskipped hboard)
  exact hring.seq (sparing_abortCheck.seq (.emit trivial))

end Pass

/-! ### An Attempt Leaves Skipped Boards Alone -/

namespace Startup

variable {P : Protocol} {W : Type} {H : EventHeader} {port : SerialPort W}

/-- **Step lemma**: a step that spares a set of boards sends them nothing. -/
theorem step_spares {skippedBoards : Finset UInt8} {a a' : Startup P W} {x : StartupStep}
    (hx : Spares skippedBoards x) (h : a.step H port x = some a')
    (ha : ∀ event ∈ a.sentEvents, event.boardId ∉ skippedBoards) :
    ∀ event ∈ a'.sentEvents, event.boardId ∉ skippedBoards := by
  obtain ⟨b, events, hcalls, -, hevents, rfl⟩ := step_settled h
  have hsent : b.sentEvents = a.sentEvents := by
    rw [sentEvents, hcalls, sentEvents]
  rw [sentEvents_sends, hsent, List.forall_mem_append]
  refine ⟨ha, ?_⟩
  intro event hevent
  cases x with
  | send sent =>
    simp only [eventsOf, List.mem_singleton] at hevents
    subst hevents
    obtain rfl := List.mem_singleton.mp hevent
    exact hx
  | tokenRing current next switchReplyDelayUs =>
    simp only [eventsOf, List.mem_cons, List.not_mem_nil, or_false] at hevents
    rcases hevents with rfl | rfl
    · simp at hevent
    · simp only [List.mem_cons, List.not_mem_nil, or_false] at hevent
      rcases hevent with rfl | rfl
      · exact hx
      · exact hx
  | abortCheck | failureCheck | registerSwitchBoard | installMappings | pushSwitch | pushCoil
  | pushLamp | finalizeBoardPresence | setActiveSwitchBoards =>
    simp only [eventsOf, List.mem_singleton] at hevents
    simp [hevents] at hevent

/-- **Run lemma**: a run of such steps. -/
theorem run_spares {skippedBoards : Finset UInt8} {steps : List StartupStep} {a a' : Startup P W}
    (hsteps : ∀ x ∈ steps, Spares skippedBoards x)
    (hrun : Transition.exec (step H port) a steps = some a')
    (ha : ∀ event ∈ a.sentEvents, event.boardId ∉ skippedBoards) :
    ∀ event ∈ a'.sentEvents, event.boardId ∉ skippedBoards := by
  induction steps generalizing a with
  | nil =>
    obtain rfl : a = a' := by simpa using hrun
    exact ha
  | cons x steps ih =>
    obtain ⟨b, hstep, hrest⟩ := Transition.exec_cons_some.mp hrun
    obtain ⟨hx, hsteps⟩ := List.forall_mem_cons.mp hsteps
    exact ih hsteps hrest (step_spares hx hstep ha)

/-- **Boards that are named to be skipped are left alone**, at every point
    where an attempt may stop, for every text, every document, every port and
    every behaviour of the boards: no event was sent to a board that the text
    names.  A list of numbers names its boards and no others. -/
theorem named_boards_left_alone {LONG_MAX : Nat} (hlong : 2147483647 ≤ LONG_MAX)
    {cpp : YamlCpp} {s : StartupSettings} {config : Yaml} {c : Comm P} {w : W}
    {a : Startup P W} {steps : List StartupStep} {skippedBoardsCsv : String}
    (hskipped : s.skippedBoards = setSkippedBoardsCsv LONG_MAX (some skippedBoardsCsv))
    (hsteps : steps <+: (Pass.startupPass P H cpp s config).emitted)
    (hrun : Transition.exec (step H port) (start c w) steps = some a) :
    (∀ event ∈ a.sentEvents, ¬ NamesBoard skippedBoardsCsv event.boardId) ∧
      ∀ boards : List UInt8, skippedBoardsCsv.toList = csvOf boards →
        ∀ board, NamesBoard skippedBoardsCsv board ↔ board ∈ boards := by
  have hspared : ∀ event ∈ a.sentEvents, event.boardId ∉ s.skippedBoards :=
    run_spares (fun x hx => Pass.sparing_startupPass config x (hsteps.subset hx)) hrun
      (by simp [start, sentEvents])
  constructor
  · intro event hevent
    rw [← mem_setSkippedBoardsCsv hlong, ← hskipped]
    exact hspared event hevent
  · intro boards htext board
    have hcsv := setSkippedBoardsCsv_csvOf hlong boards
    rw [← htext, String.ofList_toList] at hcsv
    rw [← mem_setSkippedBoardsCsv hlong, hcsv, List.mem_toFinset]

end Startup

namespace Reference

/-- Board 9 is skipped. -/
def withoutBoard9 : StartupSettings := { settings with skippedBoards := {9} }

/-- The first steps for boards 1 and 9. -/
def firstSteps : List StartupStep :=
  (Pass.startupPass protocol header yamlCpp withoutBoard9
    (pollingDocument ["9", "1"])).emitted.take 6

theorem board_9_left_alone :
    ∃ a, Transition.exec (Startup.step header port)
        (Startup.start comm { rounds := 4, replies := pollingAcks [1] }) firstSteps =
          some a ∧
      a.sentEvents.length = 3 ∧
      (∀ event ∈ a.sentEvents, ¬ NamesBoard (String.ofList (csvOf [9])) event.boardId) ∧
      ∀ boards : List UInt8, (String.ofList (csvOf [9])).toList = csvOf boards →
        ∀ board, NamesBoard (String.ofList (csvOf [9])) board ↔ board ∈ boards := by
  have hrun : ((Transition.exec (Startup.step header port)
      (Startup.start comm { rounds := 4, replies := pollingAcks [1] }) firstSteps).map fun a =>
        a.sentEvents.length) = some 3 := by decide +kernel
  obtain ⟨a, hrun, hlength⟩ := Option.map_eq_some_iff.mp hrun
  have hskipped : withoutBoard9.skippedBoards =
      setSkippedBoardsCsv 2147483647 (some (String.ofList (csvOf [9]))) :=
    (setSkippedBoardsCsv_csvOf (Nat.le_refl _) [9]).symm
  exact ⟨a, hrun, hlength, Startup.named_boards_left_alone (Nat.le_refl _)
    hskipped (List.take_prefix _ _) hrun⟩

end Reference

end LibPpuc
