import Mathlib.Data.Finset.Sort
import LibPpuc.Firmware.AdminAlignment
import LibPpuc.Runtime.Blocks
import LibPpuc.Startup.Numbering
import LibPpuc.Startup.Soundness

/-! # The Versions of All Boards

  `PPUC::QueryBoardVersions` asks the boards of the document that are not
  skipped, one after the other.  Nothing but its turn and the number in a
  report ties an answer to a board: all boards share the line, and a board may
  answer late.

  So the result is read against all that the port has delivered.  These bytes
  fall into one part for each board, and a board counts as answering only if
  its part ends with a whole report that names it.
-/

namespace LibPpuc

namespace Comm

variable {P : Protocol} {A : AdminProtocol} {W : Type}

/-- The loop of `QueryBoardVersions`, with the default timeout of a query. -/
def queryBoards (port : SerialPort W) (A : AdminProtocol) :
    List UInt8 → Comm P → W → List PPUCBoardVersion × Comm P × W
  | [], c, w => ([], c, w)
  | board :: boards, c, w =>
    let (version, c, w) := c.queryBoardVersion port A board 250 w
    let (versions, c, w) := queryBoards port A boards c w
    (version :: versions, c, w)

/-- `PPUC::QueryBoardVersions`; the boards are a sorted set. -/
def queryBoardVersions (cpp : YamlCpp) (port : SerialPort W) (A : AdminProtocol)
    (skippedBoards : Finset UInt8) (ppucConfig : Yaml) (c : Comm P) (w : W) :
    Except Failure (List PPUCBoardVersion × Comm P × W) := do
  let numbers ← (ppucConfig.get "boards").items.mapM fun board =>
    cpp.asUInt8 (board.get "number")
  let boards := (numbers.filter fun number => number ∉ skippedBoards).toFinset
  pure (c.queryBoards port A boards.sort w)

/-! ### One Query -/

/-- What was read for a board backs its entry: an entry other than the default
    repeats a report of the board that was read last. -/
def Backed (P : Protocol) (A : AdminProtocol) (version : PPUCBoardVersion) (read : List UInt8) :
    Prop :=
  version = { board := version.board } ∨
    ∃ before report, read = before ++ report ∧ IsReport P A version.board report version

theorem versionReport_board {board : UInt8} {payload : List UInt8} {version : PPUCBoardVersion}
    (h : versionReport A board payload = some version) : version.board = board := by
  simp only [versionReport] at h
  split at h
  · simp at h
  · obtain rfl := Option.some.inj h
    rfl

/-- A hunt adds to what was read. -/
theorem hunt_reads (port : SerialPort W) (sync : UInt8) (tail : Nat) {α : Type}
    (accept : List UInt8 → Option α) (rounds : Nat) (w : W × List UInt8) :
    ∃ got, (port.recordingReads.hunt sync tail (fun block w => (accept block, w)) rounds w).2.2 =
      w.2 ++ got := by
  induction rounds generalizing w with
  | zero => exact ⟨[], (List.append_nil _).symm⟩
  | succ rounds ih =>
    obtain ⟨got, hgot, -⟩ := port.huntRound_recordingReads sync tail accept w
    unfold SerialPort.hunt
    generalize port.recordingReads.huntRound sync tail (fun block w => (accept block, w)) w =
      round at hgot
    obtain ⟨found, w₁⟩ := round
    cases found with
    | some a => exact ⟨got, hgot⟩
    | none =>
      obtain ⟨later, hlater⟩ := ih w₁
      refine ⟨got ++ later, ?_⟩
      dsimp only
      rw [hlater, hgot, List.append_assoc]

/-- **One query**, in any world: its entry is for the board, and backed by what
    was read from the query on. -/
theorem queryBoardVersion_backed (hpositive : 0 < A.kAdminFrameBytes) (port : SerialPort W)
    (c : Comm P) (board : UInt8) (timeoutMs : Nat) (w : W × List UInt8) :
    let r := c.queryBoardVersion port.recordingReads A board timeoutMs w
    r.1.board = board ∧ ∃ read, r.2.2.2 = w.2 ++ read ∧ Backed P A r.1 read := by
  have hdefault : ∀ read, Backed P A { board := board } read := fun _ => Or.inl rfl
  dsimp only
  unfold queryBoardVersion
  split
  · next hready =>
    have hworld := world_writeBytes port.recordingReads "AdminVersionQuery"
      (A.buildVersionQueryFrame board c.sequence c.epoch)
      (c := { c with sequence := c.sequence + 1 }) hready.1 (port.recordingReads.flushInput w)
    dsimp only
    generalize ({ c with sequence := c.sequence + 1 } : Comm P).writeBytes port.recordingReads
      "AdminVersionQuery" (A.buildVersionQueryFrame board c.sequence c.epoch)
      (port.recordingReads.flushInput w) = written at hworld
    obtain ⟨ok, c₁, w₁⟩ := written
    -- neither the flush nor the write reads anything
    have hlog : w₁.2 = w.2 := by
      change w₁ = _ at hworld
      rw [hworld]
      simp [SerialPort.recordingReads]
    cases ok with
    | false => exact ⟨rfl, [], by simpa using hlog, hdefault _⟩
    | true =>
      dsimp only
      obtain ⟨hvalue, hlast⟩ := huntAdminFrame_hunt port.recordingReads (versionReport A board)
        A.kAdminFrameBytes s!"Invalid admin frame CRC while querying board {board}"
        (port.recordingReads.window (timeoutMs * 1000) w₁) c₁ w₁
      generalize c₁.huntAdminFrame port.recordingReads A A.kAdminFrameBytes
        s!"Invalid admin frame CRC while querying board {board}" (versionReport A board)
        (port.recordingReads.window (timeoutMs * 1000) w₁) w₁ = result at hvalue hlast
      obtain ⟨found, c₂, w₂⟩ := result
      dsimp only at hvalue hlast
      cases found with
      | none =>
        obtain ⟨got, hgot⟩ := hunt_reads port P.kSyncByte (A.kAdminFrameBytes - 1)
          (admitted P A (versionReport A board))
          (port.recordingReads.window (timeoutMs * 1000) w₁) w₁
        refine ⟨rfl, got, ?_, hdefault _⟩
        show w₂.2 = w.2 ++ got
        rw [hlast, hgot, hlog]
      | some version =>
        obtain ⟨before, rest, hread, hrest, hadmitted⟩ :=
          port.hunt_recordingReads (admitted P A (versionReport A board))
            (Prod.ext hvalue.symm hlast.symm)
        obtain ⟨hadmin, hcontents⟩ := adminFrame_of_admitted hpositive hrest hadmitted
        have hboard := versionReport_board hcontents
        refine ⟨hboard, before ++ P.kSyncByte :: rest, ?_, Or.inr ⟨before, _, rfl, ?_⟩⟩
        · show w₂.2 = _
          rw [hread, hlog, List.append_assoc]
        · exact ⟨hadmin, by rw [hboard]; exact hcontents⟩
  · exact ⟨rfl, [], (List.append_nil _).symm, hdefault _⟩

/-! ### All Queries -/

/-- **Run lemma**: what is read falls into one part for each board. -/
theorem queryBoards_backed (hpositive : 0 < A.kAdminFrameBytes) (port : SerialPort W)
    (boards : List UInt8) (c : Comm P) (w : W × List UInt8) :
    let r := c.queryBoards port.recordingReads A boards w
    r.1.map PPUCBoardVersion.board = boards ∧ r.2.1.hostPart = c.hostPart ∧
      ∃ parts, r.2.2.2 = w.2 ++ parts.flatten ∧ List.Forall₂ (Backed P A) r.1 parts := by
  induction boards generalizing c w with
  | nil => exact ⟨rfl, rfl, [], by simp [queryBoards], .nil⟩
  | cons board boards ih =>
    obtain ⟨hboard, read, hread, hbacked⟩ := queryBoardVersion_backed hpositive port c board 250 w
    have hkept := hostPart_queryBoardVersion port.recordingReads A board 250 c w
    dsimp only at ih ⊢
    unfold queryBoards
    generalize c.queryBoardVersion port.recordingReads A board 250 w = first
      at hboard hread hbacked hkept
    obtain ⟨version, c₁, w₁⟩ := first
    obtain ⟨hboards, hhost, parts, hparts, hall⟩ := ih c₁ w₁
    dsimp only at hboard hread hbacked hkept ⊢
    refine ⟨?_, hhost.trans hkept, read :: parts, ?_, .cons hbacked hall⟩
    · rw [List.map_cons, hboard, hboards]
    · rw [hparts, hread, List.flatten_cons, List.append_assoc]

/-- **The versions of all boards**, for every accepted document, in any world:
    the query returns, with one entry for each board of the document that is
    not skipped, in ascending order.  It leaves the outputs, the setup and the
    queues alone.  All bytes that were read fall into one part for each entry,
    and an entry that says a board has responded repeats the report of that
    board which was read last in its own part. -/
theorem version_census {H : EventHeader} {cpp : YamlCpp} {config : Yaml}
    (haccepted : Accepted H cpp config) (hpositive : 0 < A.kAdminFrameBytes)
    (port : SerialPort W) (skippedBoards : Finset UInt8) (c : Comm P) (w : W) :
    ∃ versions c' w' parts,
      queryBoardVersions cpp port.recordingReads A skippedBoards config c (w, []) =
        .ok (versions, c', (w', parts.flatten)) ∧
      (versions.map PPUCBoardVersion.board).Pairwise (· < ·) ∧
      (∀ board, board ∈ versions.map PPUCBoardVersion.board ↔
        board ∈ Pass.configuredBoards cpp config ∧ board ∉ skippedBoards) ∧
      List.Forall₂ (Backed P A) versions parts ∧
      c'.hostPart = c.hostPart := by
  have hnumber : ∀ board ∈ (config.get "boards").items,
      Returns (cpp.asUInt8 (board.get "number")) :=
    fun board hboard => ((validConfiguration haccepted.valid).boards board hboard).number.2
  obtain ⟨numbers, hnumbers⟩ := returns_mapM.mpr hnumber
  have hmem : ∀ board, board ∈ numbers ↔ board ∈ Pass.configuredBoards cpp config := fun board =>
    (mem_mapM hnumbers board).trans Pass.mem_configuredBoards.symm
  let boards := (numbers.filter fun number => number ∉ skippedBoards).toFinset
  obtain ⟨hboards, hhost, parts, hparts, hall⟩ :=
    queryBoards_backed hpositive port boards.sort c (w, [])
  generalize hresult : c.queryBoards port.recordingReads A boards.sort (w, []) = result
    at hboards hhost hparts hall
  obtain ⟨versions, c', w', read⟩ := result
  simp only [List.nil_append] at hparts
  subst hparts
  refine ⟨versions, c', w', parts, ?_, ?_, fun board => ?_, hall, hhost⟩
  · unfold queryBoardVersions
    rw [hnumbers]
    exact congrArg Except.ok hresult
  · simp only [hboards]
    exact ((boards.pairwise_sort (· ≤ ·)).and (boards.sort_nodup (· ≤ ·))).imp fun h =>
      UInt8.lt_of_le_of_ne h.1 h.2
  · simp [hboards, boards, hmem]

end Comm

namespace Reference

/-- Board 1 answers with its version. -/
theorem version_census_board_1 :
    ∃ versions c' w' parts,
      Comm.queryBoardVersions yamlCpp port.recordingReads admin ∅ (document []) comm
          ({ rounds := 40, replies := [reportOfBoard] }, []) =
        .ok (versions, c', (w', parts.flatten)) ∧
      (versions.map PPUCBoardVersion.board).Pairwise (· < ·) ∧
      (∀ board, board ∈ versions.map PPUCBoardVersion.board ↔
        board ∈ Pass.configuredBoards yamlCpp (document []) ∧ board ∉ (∅ : Finset UInt8)) ∧
      List.Forall₂ (Comm.Backed protocol admin) versions parts ∧
      c'.hostPart = comm.hostPart := by
  have haccepted : Accepted header yamlCpp (document []) := ⟨"", emptyPpuc, ⟨⟨⟩, rfl⟩⟩
  exact Comm.version_census haccepted (by decide) port ∅ comm _

example : (Comm.queryBoardVersions yamlCpp port admin ∅ (document []) comm
    { rounds := 40, replies := [reportOfBoard] }).toOption.map Prod.fst =
      some [reportedVersion] := by
  decide +kernel

end Reference

end LibPpuc
