import LibPpuc.Comm.AckStream
import LibPpuc.Comm.Firmware
import LibPpuc.Hunt

/-! # The Admin Reply behind Noise

  A board that is booting can emit anything.  `QueryBoardVersion` and
  `AwaitAdminReply` hunt for a sync byte and then take a block of a whole
  frame, whatever is in it.  A sync byte in the noise can so swallow the
  beginning of the real frame.

  The frame is found behind noise, whatever the world, if and only if the
  hunt stands right before it, or the block that reaches into it happens to be
  a frame that says the same.  What is found, in any world, was read.
-/

namespace LibPpuc

/-- An admin frame of the given size with a correct CRC. -/
structure AdminFrame (P : Protocol) (A : AdminProtocol) (frameBytes : Nat) (frame : List UInt8) :
    Prop where
  sync : frame.head? = some P.kSyncByte
  size : frame.length = frameBytes
  type : P.extractType (frame.getD 1 0) = .admin
  crc : A.verifyCrc frame = true

/-- What the reader takes from a block. -/
def admitted {α : Type} (P : Protocol) (A : AdminProtocol) (accept : List UInt8 → Option α)
    (block : List UInt8) : Option α :=
  if P.extractType (block.getD 1 0) ≠ .admin then none
  else if A.verifyCrc block = false then none
  else accept (block.drop P.kHeaderBytes)

/-- Counted from the first byte of the noise, in single bytes other than the
    sync byte and in blocks of a whole frame from a sync byte on, `frame` comes
    next; or the block that reaches into it is itself an admin frame that says
    the same. -/
inductive Uncovered {α : Type} (P : Protocol) (A : AdminProtocol) (frameBytes : Nat)
    (accept : List UInt8 → Option α) (noise frame : List UInt8) (value : α) : Prop
  | aligned (h : Skipped P.kSyncByte (frameBytes - 1) (fun _ => True) noise)
  | straddled (skipped head : List UInt8) (hnoise : noise = skipped ++ head)
    (hskipped : Skipped P.kSyncByte (frameBytes - 1) (fun _ => True) skipped)
    (hsome : head ≠ []) (hshort : head.length < frameBytes)
    (hframe : AdminFrame P A frameBytes (head ++ frame.take (frameBytes - head.length)))
    (hvalue : accept ((head ++ frame.take (frameBytes - head.length)).drop P.kHeaderBytes) =
      some value)

section hunt

variable {P : Protocol} {A : AdminProtocol} {W : Type} {α : Type} {accept : List UInt8 → Option α}

theorem admitted_eq_some {block : List UInt8} {a : α} :
    admitted P A accept block = some a ↔
      P.extractType (block.getD 1 0) = .admin ∧ A.verifyCrc block = true ∧
        accept (block.drop P.kHeaderBytes) = some a := by
  unfold admitted
  generalize P.extractType (block.getD 1 0) = type
  by_cases htype : type = .admin
  · rw [if_neg (by simp [htype])]
    by_cases hcrc : A.verifyCrc block = true
    · rw [if_neg (by simp [hcrc])]
      simp [htype, hcrc]
    · rw [if_pos (by simpa using hcrc)]
      simp [hcrc]
  · rw [if_pos htype]
    simp [htype]

theorem AdminFrame.positive {frameBytes : Nat} {frame : List UInt8}
    (h : AdminFrame P A frameBytes frame) : 0 < frameBytes := by
  obtain ⟨later, rfl⟩ := List.head?_eq_some_iff.mp h.sync
  rw [← h.size]
  exact Nat.succ_pos later.length

theorem AdminFrame.admitted {frameBytes : Nat} {frame : List UInt8}
    (h : AdminFrame P A frameBytes frame) {a : α}
    (haccept : accept (frame.drop P.kHeaderBytes) = some a) :
    admitted P A accept frame = some a :=
  admitted_eq_some.mpr ⟨h.type, h.crc, haccept⟩

/-- **The reading loop is a hunt** for blocks of a whole frame. -/
theorem Comm.huntAdminFrame_hunt (port : SerialPort W) (accept : List UInt8 → Option α)
    (frameBytes : Nat) (crcMessage : String) (rounds : Nat) (c : Comm P) (w : W) :
    (c.huntAdminFrame port A frameBytes crcMessage accept rounds w).1 =
        (port.hunt P.kSyncByte (frameBytes - 1)
          (fun block w => (admitted P A accept block, w)) rounds w).1 ∧
      (c.huntAdminFrame port A frameBytes crcMessage accept rounds w).2.2 =
        (port.hunt P.kSyncByte (frameBytes - 1)
          (fun block w => (admitted P A accept block, w)) rounds w).2 := by
  induction rounds generalizing c w with
  | zero => exact ⟨rfl, rfl⟩
  | succ rounds ih =>
    unfold Comm.huntAdminFrame SerialPort.hunt SerialPort.huntRound
    generalize port.read 1 w = first
    obtain ⟨first, w₁⟩ := first
    cases first with
    | nil => exact ih c w₁
    | cons byte more =>
      dsimp only
      by_cases hsync : byte ≠ P.kSyncByte
      · rw [if_pos hsync, if_pos hsync]
        exact ih c w₁
      · rw [if_neg hsync, if_neg hsync]
        generalize port.readExact (frameBytes - 1) w₁ = second
        obtain ⟨second, w₂⟩ := second
        cases second with
        | none => exact ih c w₂
        | some rest =>
          dsimp only
          generalize hadmitted : admitted P A accept (byte :: rest) = result
          unfold admitted at hadmitted
          rw [List.getD_cons_succ] at hadmitted
          by_cases htype : P.extractType (rest.getD 0 0) ≠ .admin
          · rw [if_pos htype] at hadmitted ⊢
            subst hadmitted
            exact ih c w₂
          · rw [if_neg htype] at hadmitted ⊢
            by_cases hcrc : A.verifyCrc (byte :: rest) = false
            · rw [if_pos hcrc] at hadmitted ⊢
              subst hadmitted
              exact ih _ w₂
            · rw [if_neg hcrc] at hadmitted ⊢
              rw [hadmitted]
              cases result with
              | none => exact ih c w₂
              | some a => exact ⟨rfl, rfl⟩

/-- No admin frame of the given size lies in the noise. -/
def HoldsNone (P : Protocol) (A : AdminProtocol) (frameBytes : Nat) (noise : List UInt8) : Prop :=
  ∀ frame, frame <:+: noise → ¬ AdminFrame P A frameBytes frame

/-- The hunt passes over the blocks of such noise. -/
theorem Skipped.admits_none {frameBytes : Nat} (hbytes : 0 < frameBytes) {noise : List UInt8}
    (h : Skipped P.kSyncByte (frameBytes - 1) (fun _ => True) noise)
    (hnone : HoldsNone P A frameBytes noise) :
    Skipped P.kSyncByte (frameBytes - 1) (fun block => admitted P A accept block = none) noise := by
  induction h with
  | nil => exact .nil
  | @byte b bytes hb hrest ih =>
    apply Skipped.byte hb
    apply ih
    intro frame hwithin
    exact hnone frame (hwithin.trans (List.suffix_cons b bytes).isInfix)
  | @block rest bytes hlength _ hrest ih =>
    apply Skipped.block hlength
    · rw [Option.eq_none_iff_forall_ne_some]
      intro a hadmitted
      obtain ⟨htype, hcrc, -⟩ := admitted_eq_some.mp hadmitted
      apply hnone _ (List.prefix_append _ bytes).isInfix
      refine ⟨rfl, ?_, htype, hcrc⟩
      rw [List.length_cons]
      omega
    · apply ih
      intro frame hwithin
      exact hnone frame (hwithin.trans (List.suffix_append _ bytes).isInfix)

section found

variable {frameBytes : Nat} {noise frame : List UInt8} {value : α}

/-- A block at which the hunt stands, and that is admitted. -/
theorem hunt_admitted {port : SerialPort W} {R : List UInt8 → W → Prop} (hR : port.Supplies R)
    {block rest : List UInt8} (hblock : AdminFrame P A frameBytes block)
    (haccept : accept (block.drop P.kHeaderBytes) = some value) {w : W} (h : R (block ++ rest) w)
    (rounds : Nat) :
    (port.hunt P.kSyncByte (frameBytes - 1) (fun block w => (admitted P A accept block, w))
      (rounds + 1) w).1 = some value := by
  have hadmitted := hblock.admitted haccept
  have hsize := hblock.size
  obtain ⟨later, rfl⟩ := List.head?_eq_some_iff.mp hblock.sync
  rw [List.length_cons] at hsize
  have hlength : later.length = frameBytes - 1 := by omega
  obtain ⟨w', hround, -⟩ := SerialPort.huntRound_block hR
    (fun block w => (admitted P A accept block, w)) hlength h
  rw [SerialPort.hunt, hround, hadmitted]

/-- The admin frame that the hunt gets to. -/
theorem Uncovered.block (hframe : AdminFrame P A frameBytes frame)
    (hvalue : accept (frame.drop P.kHeaderBytes) = some value)
    (h : Uncovered P A frameBytes accept noise frame value) :
    ∃ skipped block after, noise ++ frame = skipped ++ (block ++ after) ∧ skipped <:+: noise ∧
      Skipped P.kSyncByte (frameBytes - 1) (fun _ => True) skipped ∧
      AdminFrame P A frameBytes block ∧ accept (block.drop P.kHeaderBytes) = some value := by
  cases h with
  | aligned hskipped =>
    exact ⟨noise, frame, [], by simp, List.infix_refl noise, hskipped, hframe, hvalue⟩
  | straddled skipped head hnoise hskipped hsome hshort hblock hsame =>
    refine ⟨skipped, head ++ frame.take (frameBytes - head.length),
      frame.drop (frameBytes - head.length), ?_, ?_, hskipped, hblock, hsame⟩
    · rw [hnoise, List.append_assoc, List.append_assoc, List.take_append_drop]
    · rw [hnoise]
      exact (List.prefix_append skipped head).isInfix

/-- **A frame that is uncovered is found**, whatever the world. -/
theorem Uncovered.found (hframe : AdminFrame P A frameBytes frame)
    (hvalue : accept (frame.drop P.kHeaderBytes) = some value)
    (hnone : HoldsNone P A frameBytes noise)
    (huncovered : Uncovered P A frameBytes accept noise frame value)
    {port : SerialPort W} {R : List UInt8 → W → Prop} (hR : port.Supplies R) {w w₀ : W}
    {silence : Nat} (hsilent : port.Silent silence w w₀) {rest : List UInt8}
    (h : R (noise ++ frame ++ rest) w₀) {rounds : Nat} (hrounds : silence + noise.length < rounds) :
    (port.hunt P.kSyncByte (frameBytes - 1) (fun block w => (admitted P A accept block, w))
      rounds w).1 = some value := by
  have hpassed : ∀ block (w : W), admitted P A accept block = none →
      (admitted P A accept block, w) = (none, w) := by
    intro block w hadmitted
    rw [hadmitted]
  have hpositive := hframe.positive
  obtain ⟨n, rfl⟩ := Nat.exists_eq_add_of_le (show silence ≤ rounds by omega)
  rw [SerialPort.hunt_of_silent hsilent]
  obtain ⟨skipped, block, after, heq, hwithin, hskipped, hblock, hsame⟩ :=
    huncovered.block hframe hvalue
  have hnone' : HoldsNone P A frameBytes skipped := fun f hf => hnone f (hf.trans hwithin)
  have hle := hwithin.length_le
  have hroom : skipped.length ≤ n := by omega
  rw [heq, List.append_assoc, List.append_assoc] at h
  obtain ⟨later, w₁, hlater, hbytes, hskip⟩ := SerialPort.hunt_of_skipped hR hpassed
    (hskipped.admits_none hpositive hnone') h hroom
  obtain ⟨m, rfl⟩ : ∃ m, later = m + 1 := ⟨later - 1, by omega⟩
  rw [hskip]
  exact hunt_admitted hR hblock hsame hbytes m

/-- **A frame that is found** where everything has arrived, and nothing comes
    behind it, is uncovered. -/
theorem Uncovered.of_arrived (hframe : AdminFrame P A frameBytes frame)
    (hnone : HoldsNone P A frameBytes noise) {rounds : Nat}
    (h : (SerialPort.arrived.hunt P.kSyncByte (frameBytes - 1)
      (fun block w => (admitted P A accept block, w)) rounds (noise ++ frame)).1 = some value) :
    Uncovered P A frameBytes accept noise frame value := by
  generalize hhunt : SerialPort.arrived.hunt P.kSyncByte (frameBytes - 1)
    (fun block w => (admitted P A accept block, w)) rounds (noise ++ frame) = result at h
  obtain ⟨found, later⟩ := result
  obtain rfl : found = some value := h
  have hfound : ∀ (block bytes : List UInt8), (admitted P A accept block, bytes).1 = none →
      (admitted P A accept block = none ∧ (admitted P A accept block, bytes).2 = bytes) ∨
        (admitted P A accept block, bytes).2 = [] :=
    fun block bytes hnothing => Or.inl ⟨hnothing, rfl⟩
  obtain ⟨skipped, rest, after, heq, hrest, hskipped, hadmitted⟩ :=
    SerialPort.hunt_arrived hfound hhunt
  obtain ⟨hvalue, -⟩ := Prod.mk.inj hadmitted
  obtain ⟨htype, hcrc, haccept⟩ := admitted_eq_some.mp hvalue
  have hsize := hframe.size
  have hpositive := hframe.positive
  have hblock : AdminFrame P A frameBytes (P.kSyncByte :: rest) := by
    refine ⟨rfl, ?_, htype, hcrc⟩
    rw [List.length_cons]
    omega
  generalize P.kSyncByte :: rest = block at *
  have hskipped' := hskipped.mono (fun _ _ => trivial)
  have hlength := congrArg List.length heq
  simp only [List.length_append, hsize, hblock.size] at hlength
  -- the block begins where the noise ends, or before
  have hleads : skipped <+: noise := by
    apply List.prefix_of_prefix_length_le (heq ▸ List.prefix_append skipped _)
      (List.prefix_append noise frame)
    omega
  obtain ⟨head, rfl⟩ := hleads
  rw [List.append_assoc] at heq
  have hhead : head ++ frame = block ++ after := List.append_cancel_left heq
  by_cases hnothing : head = []
  · subst hnothing
    rw [List.append_nil]
    exact .aligned hskipped'
  by_cases hinside : frameBytes ≤ head.length
  · -- such a block would lie in the noise
    have hleads : block <+: head := by
      apply List.prefix_of_prefix_length_le (hhead ▸ List.prefix_append block after)
        (List.prefix_append head frame)
      rw [hblock.size]
      exact hinside
    have hwithin : block <:+: skipped ++ head :=
      hleads.isInfix.trans (List.suffix_append skipped head).isInfix
    exact absurd hblock (hnone block hwithin)
  · have hshort : head.length < frameBytes := by omega
    have htake : head ++ frame.take (frameBytes - head.length) = block := by
      have htaken := congrArg (List.take frameBytes) hhead
      rwa [List.take_append, List.take_of_length_le (Nat.le_of_lt hshort), ← hblock.size,
        List.take_left, hblock.size] at htaken
    apply Uncovered.straddled skipped head rfl hskipped' hnothing hshort
    · rw [htake]
      exact hblock
    · rw [htake]
      exact haccept

end found

end hunt

namespace Comm

variable {P : Protocol} {A : AdminProtocol} {W : Type}

/-- A version report from the board with these contents. -/
structure IsReport (P : Protocol) (A : AdminProtocol) (board : UInt8) (frame : List UInt8)
    (version : PPUCBoardVersion) : Prop where
  isAdmin : AdminFrame P A A.kAdminFrameBytes frame
  contents : versionReport A board (frame.drop P.kHeaderBytes) = some version

/-- The awaited reply of the board, with this status and offset. -/
structure IsAdminReply (P : Protocol) (A : AdminProtocol) (board expectedCommand : UInt8)
    (frame : List UInt8) (reply : UInt8 × UInt32) : Prop where
  isAdmin : AdminFrame P A A.kUpdateAckFrameBytes frame
  contents : updateReply A board expectedCommand (frame.drop P.kHeaderBytes) = some reply

/-- `QueryBoardVersion` returns `version` in every world that takes the query
    and in which the noise, the report and then anything arrive after that, in
    any portions and after any silence that leaves a round for each byte of the
    noise and one for the report. -/
def QueryFinds (A : AdminProtocol) (c : Comm P) (board : UInt8) (report : List UInt8)
    (version : PPUCBoardVersion) (noise : List UInt8) : Prop :=
  ∀ (W : Type) (port : SerialPort W) (R : List UInt8 → W → Prop) (timeoutMs silence : Nat)
    (w w₀ w₁ : W) (rest : List UInt8),
    port.Supplies R →
    port.write (A.buildVersionQueryFrame board c.sequence c.epoch) (port.flushInput w) =
      (((A.buildVersionQueryFrame board c.sequence c.epoch).length : Int), w₀) →
    port.Silent silence w₀ w₁ → R (noise ++ report ++ rest) w₁ →
    silence + noise.length < port.window (timeoutMs * 1000) w₀ →
    (c.queryBoardVersion port A board timeoutMs w).1 = version

/-- `AwaitAdminReply` returns `reply` in every such world. -/
def AwaitFinds (A : AdminProtocol) (c : Comm P) (board expectedCommand : UInt8)
    (ack : List UInt8) (reply : UInt8 × UInt32) (noise : List UInt8) : Prop :=
  ∀ (W : Type) (port : SerialPort W) (R : List UInt8 → W → Prop) (timeoutMs silence : Nat)
    (w w₁ : W) (rest : List UInt8),
    port.Supplies R → port.Silent silence w w₁ → R (noise ++ ack ++ rest) w₁ →
    silence + noise.length < port.window (timeoutMs * 1000) w →
    (c.awaitAdminReply port A board expectedCommand timeoutMs w).1 = some reply

theorem IsReport.responded {board : UInt8} {frame : List UInt8} {version : PPUCBoardVersion}
    (h : IsReport P A board frame version) : version.responded = true := by
  have hcontents := h.contents
  unfold versionReport at hcontents
  dsimp only at hcontents
  split at hcontents
  · simp at hcontents
  · obtain rfl := Option.some.inj hcontents
    rfl

/-- The hunt of `QueryBoardVersion`, after a query that went out. -/
theorem queryBoardVersion_hunt {port : SerialPort W} {c : Comm P} (hopen : c.portOpen = true)
    {board : UInt8} (hboard : P.isValidBoard board = true) {w w₀ : W}
    (hwrite : port.write (A.buildVersionQueryFrame board c.sequence c.epoch) (port.flushInput w) =
      (((A.buildVersionQueryFrame board c.sequence c.epoch).length : Int), w₀))
    (timeoutMs : Nat) :
    let hunted := port.hunt P.kSyncByte (A.kAdminFrameBytes - 1)
      (fun block w => (admitted P A (versionReport A board) block, w))
      (port.window (timeoutMs * 1000) w₀) w₀
    (c.queryBoardVersion port A board timeoutMs w).1 = hunted.1.getD { board := board } ∧
      (c.queryBoardVersion port A board timeoutMs w).2.2 = hunted.2 := by
  intro hunted
  have hopen' : ({ c with sequence := c.sequence + 1 } : Comm P).portOpen = true := hopen
  have hok := (writeBytes_ok port "AdminVersionQuery"
    (A.buildVersionQueryFrame board c.sequence c.epoch) { c with sequence := c.sequence + 1 }
    (port.flushInput w)).mpr ⟨hopen', by rw [hwrite]⟩
  have hworld := world_writeBytes port "AdminVersionQuery"
    (A.buildVersionQueryFrame board c.sequence c.epoch) hopen' (port.flushInput w)
  rw [hwrite] at hworld
  unfold queryBoardVersion
  rw [if_pos ⟨hopen, hboard⟩]
  dsimp only
  generalize ({ c with sequence := c.sequence + 1 } : Comm P).writeBytes port "AdminVersionQuery"
    (A.buildVersionQueryFrame board c.sequence c.epoch) (port.flushInput w) = written at hok hworld
  obtain ⟨ok, c₁, w₁⟩ := written
  obtain rfl : ok = true := hok
  obtain rfl : w₁ = w₀ := hworld
  dsimp only
  obtain ⟨hvalue, hlast⟩ := huntAdminFrame_hunt port (versionReport A board)
    A.kAdminFrameBytes s!"Invalid admin frame CRC while querying board {board}"
    (port.window (timeoutMs * 1000) w₁) c₁ w₁
  generalize c₁.huntAdminFrame port A A.kAdminFrameBytes
    s!"Invalid admin frame CRC while querying board {board}" (versionReport A board)
    (port.window (timeoutMs * 1000) w₁) w₁ = result at hvalue hlast
  obtain ⟨found, c₂, w₂⟩ := result
  dsimp only at hvalue hlast
  rw [show hunted.1 = found from hvalue.symm, show hunted.2 = w₂ from hlast.symm]
  cases found with
  | none => exact ⟨rfl, rfl⟩
  | some version => exact ⟨rfl, rfl⟩

/-- A board that responded was hunted for. -/
theorem queryBoardVersion_responded {port : SerialPort W} {c : Comm P} {board : UInt8}
    {timeoutMs : Nat} {w : W}
    (h : (c.queryBoardVersion port A board timeoutMs w).1.responded = true) :
    c.portOpen = true ∧ P.isValidBoard board = true ∧
      port.write (A.buildVersionQueryFrame board c.sequence c.epoch) (port.flushInput w) =
        (((A.buildVersionQueryFrame board c.sequence c.epoch).length : Int),
          (port.write (A.buildVersionQueryFrame board c.sequence c.epoch)
            (port.flushInput w)).2) := by
  unfold queryBoardVersion at h
  split at h
  · next hready =>
    refine ⟨hready.1, hready.2, ?_⟩
    dsimp only at h
    have hok := writeBytes_ok port "AdminVersionQuery"
      (A.buildVersionQueryFrame board c.sequence c.epoch) { c with sequence := c.sequence + 1 }
      (port.flushInput w)
    generalize ({ c with sequence := c.sequence + 1 } : Comm P).writeBytes port
      "AdminVersionQuery" (A.buildVersionQueryFrame board c.sequence c.epoch) (port.flushInput w) =
      written at h hok
    obtain ⟨ok, c₁, w₁⟩ := written
    cases ok with
    | false => simp at h
    | true =>
      obtain ⟨-, hwhole⟩ := hok.mp rfl
      exact Prod.ext hwhole rfl
  · simp at h

/-- **The report behind noise.** -/
theorem queryFinds_iff {c : Comm P} (hopen : c.portOpen = true) {board : UInt8}
    (hboard : P.isValidBoard board = true) {report : List UInt8} {version : PPUCBoardVersion}
    (hreport : IsReport P A board report version) {noise : List UInt8}
    (hnone : HoldsNone P A A.kAdminFrameBytes noise) :
    QueryFinds A c board report version noise ↔
      Uncovered P A A.kAdminFrameBytes (versionReport A board) noise report version := by
  constructor
  · intro hfinds
    -- a port on which all has arrived: it reads what is there, byte for byte
    have hroom : 0 + noise.length < SerialPort.arrived.window (250 * 1000) (noise ++ report) := by
      obtain ⟨later, rfl⟩ := List.head?_eq_some_iff.mp hreport.isAdmin.sync
      show 0 + noise.length < (noise ++ (P.kSyncByte :: later)).length
      rw [List.length_append, List.length_cons]
      omega
    have hwrite : SerialPort.arrived.write (A.buildVersionQueryFrame board c.sequence c.epoch)
        (SerialPort.arrived.flushInput (noise ++ report)) =
        (((A.buildVersionQueryFrame board c.sequence c.epoch).length : Int), noise ++ report) := rfl
    have hversion := hfinds (List UInt8) SerialPort.arrived Eq 250 0 (noise ++ report)
      (noise ++ report) (noise ++ report) [] SerialPort.arrived_supplies hwrite rfl
      (List.append_nil _) hroom
    obtain ⟨hvalue, -⟩ := queryBoardVersion_hunt hopen hboard hwrite 250
    rw [hversion] at hvalue
    have hresponded := hreport.responded
    generalize hhunt : SerialPort.arrived.hunt P.kSyncByte (A.kAdminFrameBytes - 1)
      (fun block w => (admitted P A (versionReport A board) block, w))
      (SerialPort.arrived.window (250 * 1000) (noise ++ report)) (noise ++ report) = hunted
      at hvalue
    have hfirst := congrArg Prod.fst hhunt
    -- without a frame there is no response
    obtain ⟨found, later⟩ := hunted
    cases found with
    | none =>
      subst hvalue
      simp at hresponded
    | some version' =>
      obtain rfl : version = version' := hvalue
      exact Uncovered.of_arrived hreport.isAdmin hnone hfirst
  · intro huncovered W port R timeoutMs silence w w₀ w₁ rest hR hwrite hsilent h hrounds
    obtain ⟨hvalue, -⟩ := queryBoardVersion_hunt hopen hboard hwrite timeoutMs
    rw [hvalue, huncovered.found hreport.isAdmin hreport.contents hnone hR hsilent h hrounds]
    rfl

/-- **The reply behind noise.** -/
theorem awaitFinds_iff (c : Comm P) {board expectedCommand : UInt8} {ack : List UInt8}
    {reply : UInt8 × UInt32} (hack : IsAdminReply P A board expectedCommand ack reply)
    {noise : List UInt8} (hnone : HoldsNone P A A.kUpdateAckFrameBytes noise) :
    AwaitFinds A c board expectedCommand ack reply noise ↔
      Uncovered P A A.kUpdateAckFrameBytes (updateReply A board expectedCommand) noise ack
        reply := by
  constructor
  · intro hfinds
    have hroom : 0 + noise.length < SerialPort.arrived.window (2000 * 1000) (noise ++ ack) := by
      obtain ⟨later, rfl⟩ := List.head?_eq_some_iff.mp hack.isAdmin.sync
      show 0 + noise.length < (noise ++ (P.kSyncByte :: later)).length
      rw [List.length_append, List.length_cons]
      omega
    have hreply := hfinds (List UInt8) SerialPort.arrived Eq 2000 0 (noise ++ ack) (noise ++ ack)
      [] SerialPort.arrived_supplies rfl (List.append_nil _) hroom
    unfold awaitAdminReply at hreply
    rw [(huntAdminFrame_hunt SerialPort.arrived _ _ _ _ c (noise ++ ack)).1] at hreply
    exact Uncovered.of_arrived hack.isAdmin hnone hreply
  · intro huncovered W port R timeoutMs silence w w₁ rest hR hsilent h hrounds
    unfold awaitAdminReply
    rw [(huntAdminFrame_hunt port _ _ _ _ c w).1]
    exact huncovered.found hack.isAdmin hack.contents hnone hR hsilent h hrounds

/-- What the hunt takes from a block makes it an admin frame. -/
theorem adminFrame_of_admitted {α : Type} {accept : List UInt8 → Option α} {frameBytes : Nat}
    (hpositive : 0 < frameBytes) {rest : List UInt8} (hrest : rest.length = frameBytes - 1) {a : α}
    (h : admitted P A accept (P.kSyncByte :: rest) = some a) :
    AdminFrame P A frameBytes (P.kSyncByte :: rest) ∧
      accept ((P.kSyncByte :: rest).drop P.kHeaderBytes) = some a := by
  obtain ⟨htype, hcrc, haccept⟩ := admitted_eq_some.mp h
  refine ⟨⟨rfl, ?_, htype, hcrc⟩, haccept⟩
  rw [List.length_cons]
  omega

/-- **A returned report was read**, in any world. -/
theorem report_was_read (hpositive : 0 < A.kAdminFrameBytes) (port : SerialPort W) (c : Comm P)
    (board : UInt8) (timeoutMs : Nat) (w : W)
    (h : (c.queryBoardVersion port.recordingReads A board timeoutMs (w, [])).1.responded = true) :
    ∃ before report,
      (c.queryBoardVersion port.recordingReads A board timeoutMs (w, [])).2.2.2 =
        before ++ report ∧
      IsReport P A board report
        (c.queryBoardVersion port.recordingReads A board timeoutMs (w, [])).1 := by
  obtain ⟨hopen, hboard, hwrite⟩ := queryBoardVersion_responded h
  obtain ⟨hvalue, hlast⟩ := queryBoardVersion_hunt hopen hboard hwrite timeoutMs
  rw [hvalue] at h ⊢
  rw [hlast]
  generalize hhunt : port.recordingReads.hunt P.kSyncByte (A.kAdminFrameBytes - 1)
    (fun block w => (admitted P A (versionReport A board) block, w)) _ _ = hunted at h ⊢
  obtain ⟨found, w'⟩ := hunted
  cases found with
  | none => simp at h
  | some version =>
    obtain ⟨before, rest, hlog, hrest, hadmitted⟩ :=
      port.hunt_recordingReads (admitted P A (versionReport A board)) hhunt
    obtain ⟨hadmin, hcontents⟩ := adminFrame_of_admitted hpositive hrest hadmitted
    exact ⟨before, _, hlog, hadmin, hcontents⟩

/-- **A returned reply was read**, in any world. -/
theorem reply_was_read (hpositive : 0 < A.kUpdateAckFrameBytes) (port : SerialPort W)
    (c : Comm P) (board expectedCommand : UInt8) (timeoutMs : Nat) (w : W)
    {reply : UInt8 × UInt32}
    (h : (c.awaitAdminReply port.recordingReads A board expectedCommand timeoutMs (w, [])).1 =
      some reply) :
    ∃ before ack,
      (c.awaitAdminReply port.recordingReads A board expectedCommand timeoutMs (w, [])).2.2.2 =
        before ++ ack ∧
      IsAdminReply P A board expectedCommand ack reply := by
  unfold awaitAdminReply at h ⊢
  obtain ⟨hvalue, hlast⟩ := huntAdminFrame_hunt port.recordingReads
    (updateReply A board expectedCommand) A.kUpdateAckFrameBytes s!"Invalid admin ack CRC from board {board}"
    (port.recordingReads.window (timeoutMs * 1000) (w, [])) c (w, [])
  rw [hvalue] at h
  rw [hlast]
  obtain ⟨before, rest, hlog, hrest, hadmitted⟩ :=
    port.hunt_recordingReads (admitted P A (updateReply A board expectedCommand))
      (Prod.ext h rfl)
  obtain ⟨hadmin, hcontents⟩ := adminFrame_of_admitted hpositive hrest hadmitted
  exact ⟨before, _, hlog, hadmin, hcontents⟩

/-- **The admin readers behind noise**: where the noise has no admin frame
    with a correct CRC, `QueryBoardVersion` finds the version report behind it,
    whatever the world, if and only if the report is uncovered, and likewise
    `AwaitAdminReply` the awaited reply; and whatever either of them returns, in
    any world, it has read as a whole frame with a correct CRC. -/
theorem admin_reader_exact {c : Comm P} (hopen : c.portOpen = true)
    {board expectedCommand : UInt8} (hboard : P.isValidBoard board = true)
    {report ack : List UInt8} {version : PPUCBoardVersion} {reply : UInt8 × UInt32}
    (hreport : IsReport P A board report version)
    (hack : IsAdminReply P A board expectedCommand ack reply) {noise noise' : List UInt8}
    (hnone : HoldsNone P A A.kAdminFrameBytes noise)
    (hnone' : HoldsNone P A A.kUpdateAckFrameBytes noise') :
    (QueryFinds A c board report version noise ↔
      Uncovered P A A.kAdminFrameBytes (versionReport A board) noise report version) ∧
    (AwaitFinds A c board expectedCommand ack reply noise' ↔
      Uncovered P A A.kUpdateAckFrameBytes (updateReply A board expectedCommand) noise' ack
        reply) ∧
    (∀ (W : Type) (port : SerialPort W) (c : Comm P) (board : UInt8) (timeoutMs : Nat) (w : W),
      (c.queryBoardVersion port.recordingReads A board timeoutMs (w, [])).1.responded = true →
      ∃ before report,
        (c.queryBoardVersion port.recordingReads A board timeoutMs (w, [])).2.2.2 =
          before ++ report ∧
        IsReport P A board report
          (c.queryBoardVersion port.recordingReads A board timeoutMs (w, [])).1) ∧
    (∀ (W : Type) (port : SerialPort W) (c : Comm P) (board expectedCommand : UInt8)
      (timeoutMs : Nat) (w : W) (reply : UInt8 × UInt32),
      (c.awaitAdminReply port.recordingReads A board expectedCommand timeoutMs (w, [])).1 =
        some reply →
      ∃ before ack,
        (c.awaitAdminReply port.recordingReads A board expectedCommand timeoutMs (w, [])).2.2.2 =
          before ++ ack ∧
        IsAdminReply P A board expectedCommand ack reply) := by
  refine ⟨queryFinds_iff hopen hboard hreport hnone, awaitFinds_iff c hack hnone', ?_, ?_⟩
  · intro W port c board timeoutMs w h
    exact report_was_read hreport.isAdmin.positive port c board timeoutMs w h
  · intro W port c board expectedCommand timeoutMs w reply h
    exact reply_was_read hack.isAdmin.positive port c board expectedCommand timeoutMs w h

end Comm

/-- Noise that is shorter than a frame. -/
theorem HoldsNone.of_short {P : Protocol} {A : AdminProtocol} {frameBytes : Nat}
    {noise : List UInt8} (h : noise.length < frameBytes) : HoldsNone P A frameBytes noise := by
  intro frame hwithin hframe
  have hle := hwithin.length_le
  rw [hframe.size] at hle
  omega

namespace Reference

/-- Version 2.5.7 of board 1. -/
def reportOfBoard : List UInt8 :=
  frame .admin 0xFF 0 0 [1, 1, 2, 5, 7, 1, 0, 0, 3, 0, 0, 0, 9]

def reportedVersion : PPUCBoardVersion where
  board := 1
  responded := true
  firmwareMajor := 2
  firmwareMinor := 5
  firmwarePatch := 7
  adminProtocolMajor := 1
  boardType := 3
  buildId := 9

/-- Board 1 acknowledges the beginning of an update. -/
def beginAck : List UInt8 := frame .admin 0xFF 0 0 [2, 1, 0, 0, 0, 0, 0]

theorem reportOfBoard_isReport :
    Comm.IsReport protocol admin 1 reportOfBoard reportedVersion :=
  ⟨⟨rfl, by decide, by decide, by decide +kernel⟩, by decide +kernel⟩

theorem beginAck_isAdminReply : Comm.IsAdminReply protocol admin 1 2 beginAck (0, 0) :=
  ⟨⟨rfl, by decide, by decide, by decide +kernel⟩, by decide +kernel⟩

/-- Bytes without a sync byte cover nothing. -/
theorem found_behind_zeros :
    Comm.QueryFinds admin comm 1 reportOfBoard reportedVersion [0, 0, 0] ∧
      Comm.AwaitFinds admin comm 1 2 beginAck (0, 0) [0, 0, 0] := by
  have hnone : HoldsNone protocol admin admin.kAdminFrameBytes [0, 0, 0] :=
    .of_short (by decide)
  have hnone' : HoldsNone protocol admin admin.kUpdateAckFrameBytes [0, 0, 0] :=
    .of_short (by decide)
  obtain ⟨hquery, hawait, -, -⟩ := Comm.admin_reader_exact (c := comm) rfl (by decide)
    reportOfBoard_isReport beginAck_isAdminReply hnone hnone'
  exact ⟨hquery.mpr (.aligned (Skipped.of_not_mem (by decide))),
    hawait.mpr (.aligned (Skipped.of_not_mem (by decide)))⟩

/-- Behind one sync byte the report is lost. -/
theorem sync_byte_covers_report :
    ¬ ∀ noise, HoldsNone protocol admin admin.kAdminFrameBytes noise →
      Comm.QueryFinds admin comm 1 reportOfBoard reportedVersion noise := by
  intro h
  have hversion := h [0xA5] (HoldsNone.of_short (by decide)) Script port (Feeds 0) 250 0
    { rounds := 100, replies := [0xA5 :: reportOfBoard] } _ _ [] (feed_script.supplies 0) rfl rfl
    ⟨rfl, by decide⟩ (by decide)
  revert hversion
  decide +kernel

end Reference

end LibPpuc
