import LibPpuc.Firmware.Traffic
import LibPpuc.Framework.StagedTransfer
import Mathlib.Data.Nat.Init

/-! # A Firmware Transfer Delivers the Image

  The board stages a chunk only at the end of what it has staged, and
  acknowledges a chunk with Ok only if it holds it.  The bus keeps the
  order and may lose everything.  Then an Ok ack for the position `sent`,
  however old, says that the board holds the chunk the host is waiting for.

  The invariant of the call ties the position to what is staged and to the
  acks that were read.  The offset on the wire has 32 bits, and so has the
  image length in the begin frame: this is where a transfer can go wrong
  unnoticed.
-/

namespace LibPpuc

open OrderedBus (Seen)
open StagedTransfer (Receiver Faithful Sound Delivered)

/-! ### The Board under Update -/

/-- How a board reads the frames of an update. -/
structure UpdateBoard where
  /-- The offset and the data of a chunk frame. -/
  readChunk : List UInt8 → Option (UInt32 × List UInt8)

/-- The board reads the frames as the host builds them. -/
structure UpdateBoard.Reads (B : UpdateBoard) (A : AdminProtocol) (board : UInt8) : Prop where
  chunk : ∀ sequence epoch offset data, data.length ≤ A.kAdminChunkBytes →
    B.readChunk (A.buildUpdateChunkFrame board sequence epoch offset data) = some (offset, data)
  query : ∀ sequence epoch, B.readChunk (A.buildVersionQueryFrame board sequence epoch) = none
  begin : ∀ sequence epoch imageBytes imageCrc,
    B.readChunk (A.buildUpdateBeginFrame board sequence epoch imageBytes imageCrc) = none
  commit : ∀ sequence epoch,
    B.readChunk (A.buildUpdateCommitFrame board sequence epoch) = none

/-- The board as the receiver of a staged transfer. -/
def updateReceiver (P : Protocol) (A : AdminProtocol) (board : UInt8) (B : UpdateBoard) :
    Receiver (List UInt8) (List UInt8) UInt8 where
  chunkOf frame := (B.readChunk frame).map fun chunk => (chunk.1.toNat, chunk.2)
  confirms frame :=
    match Comm.updateReply A board A.kAdminUpdateChunkAck (frame.drop P.kHeaderBytes) with
    | some (status, offset) => if status = A.kUpdateOk then some offset.toNat else none
    | none => none

/-- The bus between the host and the board. -/
abbrev UpdateBus : Type := StagedTransfer.Bus (List UInt8) (List UInt8) UInt8

theorem confirms_chunkAck {P : Protocol} {A : AdminProtocol} {board : UInt8} {B : UpdateBoard}
    {offset : UInt32} {frame : List UInt8} (h : IsChunkAck P A board offset frame) :
    (updateReceiver P A board B).confirms frame = some offset.toNat := by
  unfold IsChunkAck at h
  simp [updateReceiver, h]

/-! ### What the Claims of a Call Mean -/

section call

variable (P : Protocol) (A : AdminProtocol) (request : FirmwareRequest)

/-- The image of a request. -/
def FirmwareRequest.bytes (request : FirmwareRequest) : List UInt8 := request.image.getD []

/-- The position of the last chunk. -/
def lastChunk (A : AdminProtocol) (request : FirmwareRequest) : Nat :=
  (request.bytes.length - 1) / A.kAdminChunkBytes * A.kAdminChunkBytes

/-- Every byte below `n` lies in a chunk whose Ok ack was read. -/
def AckedBelow (seen : List AdminSeen) (n : Nat) : Prop :=
  ∀ p < n, ∃ (offset : UInt32) (ack : List UInt8), Seen.got ack ∈ seen ∧
    IsChunkAck P A request.board offset ack ∧ A.kAdminChunkBytes ∣ offset.toNat ∧
    offset.toNat ≤ p ∧ p < offset.toNat + A.kAdminChunkBytes

/-- The begin frame was sent, with these 32 bits for the length. -/
def BeginSent (seen : List AdminSeen) (imageBytes : UInt32) : Prop :=
  ∃ sequence epoch, Seen.sent (A.buildUpdateBeginFrame request.board sequence epoch imageBytes
    (P.crc16Ccitt request.bytes)) ∈ seen

/-- The commit frame was sent when all chunks had been acknowledged. -/
def CommitSent (seen : List AdminSeen) : Prop :=
  ∃ before after sequence epoch,
    seen = before ++ .sent (A.buildUpdateCommitFrame request.board sequence epoch) :: after ∧
      AckedBelow P A request before request.bytes.length

/-- The bytes below `n` are a prefix of the image that the board has
    acknowledged. -/
structure AcknowledgedPrefix (b : UpdateBus) (seen : List AdminSeen) (n : Nat) : Prop where
  bound : n ≤ request.bytes.length
  acked : AckedBelow P A request seen n
  staged : request.bytes.take n <+: b.staged

/-- A transfer that reports success has delivered the image. -/
structure ImageDelivered (b : UpdateBus) (seen : List AdminSeen) (bytesSent : Nat) : Prop where
  staged : b.staged = request.bytes
  begin : ∃ imageBytes, BeginSent P A request seen imageBytes ∧
    imageBytes.toNat = request.bytes.length
  commit : CommitSent P A request seen
  bytesSent : bytesSent = request.bytes.length

end call

/-! ### The Invariant -/

section invariant

variable {P : Protocol} {A : AdminProtocol} {request : FirmwareRequest} {B : UpdateBoard}

/-- A position between chunks, or the end of the image. -/
def Aligned (A : AdminProtocol) (request : FirmwareRequest) (sent : Nat) : Prop :=
  sent < request.bytes.length → A.kAdminChunkBytes ∣ sent

/-- What is known of the traffic at a stage. -/
def StageSound (P : Protocol) (A : AdminProtocol) (request : FirmwareRequest)
    (seen : List AdminSeen) : FirmwareStage → Prop
  | .query | .runtimeTest | .sendBegin => True
  | .awaitBegin => BeginSent P A request seen (UInt32.ofNat request.bytes.length)
  | .nextChunk sent =>
    BeginSent P A request seen (UInt32.ofNat request.bytes.length) ∧ Aligned A request sent
  | .sendChunk sent _ frame | .awaitChunk sent _ frame =>
    BeginSent P A request seen (UInt32.ofNat request.bytes.length) ∧ Aligned A request sent ∧
      sent < request.bytes.length ∧
      ∃ sequence epoch, frame = chunkFrame A request sequence epoch sent
  | .sendCommit sent =>
    BeginSent P A request seen (UInt32.ofNat request.bytes.length) ∧
      request.bytes.length ≤ sent
  | .awaitResult sent =>
    BeginSent P A request seen (UInt32.ofNat request.bytes.length) ∧
      request.bytes.length ≤ sent ∧ CommitSent P A request seen
  | .returned result =>
    result.ok = true → BeginSent P A request seen (UInt32.ofNat request.bytes.length) ∧
      request.bytes.length ≤ result.bytesSent ∧ CommitSent P A request seen

/-- The invariant of a call: its position is within the image, and below it
    everything is acknowledged and staged. -/
structure CallSound (P : Protocol) (A : AdminProtocol) (request : FirmwareRequest)
    (b : UpdateBus) (stage : FirmwareStage) (seen : List AdminSeen) : Prop where
  bound : stage.acknowledged ≤ request.bytes.length
  staged : stage.acknowledged ≤ b.staged.length
  acked : AckedBelow P A request seen stage.acknowledged
  stage : StageSound P A request seen stage

theorem AckedBelow.append {seen : List AdminSeen} {n : Nat} (h : AckedBelow P A request seen n)
    (more : List AdminSeen) : AckedBelow P A request (seen ++ more) n := by
  intro p hp
  obtain ⟨offset, ack, hread, hack⟩ := h p hp
  exact ⟨offset, ack, List.mem_append_left _ hread, hack⟩

theorem BeginSent.append {seen : List AdminSeen} {imageBytes : UInt32}
    (h : BeginSent P A request seen imageBytes) (more : List AdminSeen) :
    BeginSent P A request (seen ++ more) imageBytes := by
  obtain ⟨sequence, epoch, hsent⟩ := h
  exact ⟨sequence, epoch, List.mem_append_left _ hsent⟩

theorem CommitSent.append {seen : List AdminSeen} (h : CommitSent P A request seen)
    (more : List AdminSeen) : CommitSent P A request (seen ++ more) := by
  obtain ⟨before, after, sequence, epoch, rfl, hacked⟩ := h
  refine ⟨before, after ++ more, sequence, epoch, ?_, hacked⟩
  rw [List.append_assoc, List.cons_append]

/-- The ack of the chunk at `sent` extends the acknowledged part by it. -/
theorem AckedBelow.extend {seen earlier : List AdminSeen} {sent : Nat} {offset : UInt32}
    {ack : List UInt8} (h : AckedBelow P A request seen sent)
    (hack : IsChunkAck P A request.board offset ack) (hoffset : offset.toNat = sent)
    (haligned : A.kAdminChunkBytes ∣ sent) :
    AckedBelow P A request (seen ++ (earlier ++ [.got ack]))
      (sent + min A.kAdminChunkBytes (request.bytes.length - sent)) := by
  intro p hp
  by_cases hold : p < sent
  · exact h.append _ p hold
  · refine ⟨offset, ack, ?_, hack, ?_, ?_, ?_⟩
    · simp
    · rw [hoffset]
      exact haligned
    · omega
    · omega

/-- The chunk frame of a position that is staged is faithful. -/
theorem faithful_chunkFrame (hreads : B.Reads A request.board) {sequence epoch : UInt8}
    {sent : Nat} {staged : List UInt8} (hstaged : sent ≤ staged.length) :
    Faithful (updateReceiver P A request.board B) request.bytes A.kAdminChunkBytes staged
      (chunkFrame A request sequence epoch sent) := by
  intro position data hchunk
  have hread : B.readChunk (chunkFrame A request sequence epoch sent) =
      some (UInt32.ofNat sent, (request.bytes.drop sent).take A.kAdminChunkBytes) := by
    apply hreads.chunk
    rw [List.length_take]
    omega
  simp only [updateReceiver, hread, Option.map_some, Option.some.injEq, Prod.mk.injEq] at hchunk
  obtain ⟨hposition, hdata⟩ := hchunk
  have hwrap : position = sent % 2 ^ 32 := by
    rw [← hposition]
    exact UInt32.toNat_ofNat'
  by_cases hsmall : sent < 2 ^ 32
  · rw [Nat.mod_eq_of_lt hsmall] at hwrap
    rw [hwrap]
    exact Or.inr hdata.symm
  · -- the offset has wrapped around: the board is far beyond it
    have hlt : sent % 2 ^ 32 < 2 ^ 32 := Nat.mod_lt _ (by decide)
    exact Or.inl (by omega)

theorem faithful_control (hreads : B.Reads A request.board) {frame : List UInt8}
    {staged : List UInt8} (h : IsControlFrame A P request frame) :
    Faithful (updateReceiver P A request.board B) request.bytes A.kAdminChunkBytes staged
      frame := by
  have hnone : B.readChunk frame = none := by
    cases h with
    | query sequence epoch => exact hreads.query sequence epoch
    | begin sequence epoch => exact hreads.begin sequence epoch _ _
    | commit sequence epoch => exact hreads.commit sequence epoch
  intro position data hchunk
  simp [updateReceiver, hnone] at hchunk

/-- Everything a stage sends is faithful. -/
theorem faithful_stage (hreads : B.Reads A request.board) {b : UpdateBus}
    {stage stage' : FirmwareStage} {seen traffic : List AdminSeen}
    (h : CallSound P A request b stage seen)
    (heffect : StageEffect A P request stage stage' traffic)
    {frame : List UInt8} (hsent : Seen.sent frame ∈ traffic) :
    Faithful (updateReceiver P A request.board B) request.bytes A.kAdminChunkBytes b.staged
      frame := by
  have hone : ∀ {frame' : List UInt8}, IsControlFrame A P request frame' →
      Seen.sent frame ∈ [(Seen.sent frame' : AdminSeen)] →
      Faithful (updateReceiver P A request.board B) request.bytes A.kAdminChunkBytes b.staged
        frame := by
    intro frame' hframe' hmem
    obtain rfl := Seen.sent.inj (List.mem_singleton.mp hmem)
    exact faithful_control hreads hframe'
  cases heffect with
  | failed hcontrol => exact faithful_control hreads (hcontrol frame hsent)
  | chunkFailed honly =>
    obtain ⟨-, -, -, sequence, epoch, hframe⟩ := h.stage
    rw [honly frame hsent, hframe]
    exact faithful_chunkFrame hreads h.staged
  | queried hcontrol => exact faithful_control hreads (hcontrol frame hsent)
  | tested => cases hsent
  | begun => exact hone (.begin _ _) hsent
  | accepted hcontrol => exact faithful_control hreads (hcontrol frame hsent)
  | chunkBuilt => cases hsent
  | allSent => cases hsent
  | chunkSent =>
    obtain ⟨-, -, -, sequence, epoch, hframe⟩ := h.stage
    obtain rfl := Seen.sent.inj (List.mem_singleton.mp hsent)
    rw [hframe]
    exact faithful_chunkFrame hreads h.staged
  | chunkAcked hcontrol => exact faithful_control hreads (hcontrol frame hsent)
  | retried hcontrol => exact faithful_control hreads (hcontrol frame hsent)
  | committed => exact hone (.commit _ _) hsent
  | succeeded hcontrol => exact faithful_control hreads (hcontrol frame hsent)
  | stays => cases hsent

/-- A stage that keeps its position. -/
theorem CallSound.keep {b b' : UpdateBus} {stage stage' : FirmwareStage}
    {seen traffic : List AdminSeen} (h : CallSound P A request b stage seen)
    (hgrows : StagedTransfer.Grows b b') (hposition : stage'.acknowledged = stage.acknowledged)
    (hstage : StageSound P A request (seen ++ traffic) stage') :
    CallSound P A request b' stage' (seen ++ traffic) := by
  refine ⟨?_, ?_, ?_, hstage⟩
  · rw [hposition]
    exact h.bound
  · rw [hposition]
    exact h.staged.trans hgrows.staged.length_le
  · rw [hposition]
    exact h.acked.append traffic

/-- **Step lemma**: a stage keeps the invariant, whatever the bus did
    meanwhile. -/
theorem callSound_stage {b b' : UpdateBus}
    {run : List (StagedTransfer.Act (List UInt8) (List UInt8))}
    {stage stage' : FirmwareStage} {seen traffic : List AdminSeen}
    (h : CallSound P A request b stage seen)
    (heffect : StageEffect A P request stage stage' traffic)
    (hbus : Delivered (updateReceiver P A request.board B) request.bytes A.kAdminChunkBytes b run
      traffic b') : CallSound P A request b' stage' (seen ++ traffic) := by
  have hstage := h.stage
  cases heffect with
  | failed =>
    refine h.keep hbus.grows rfl ?_
    intro hok
    contradiction
  | chunkFailed =>
    refine h.keep hbus.grows rfl ?_
    intro hok
    contradiction
  | queried => exact h.keep hbus.grows rfl trivial
  | tested => exact h.keep hbus.grows rfl trivial
  | begun =>
    refine h.keep hbus.grows rfl ?_
    exact ⟨_, _, List.mem_append_right _ (List.mem_singleton_self _)⟩
  | accepted =>
    refine h.keep hbus.grows rfl ⟨hstage.append _, ?_⟩
    intro _
    exact Nat.dvd_zero _
  | chunkBuilt hmore =>
    obtain ⟨hbegin, haligned⟩ := hstage
    exact h.keep hbus.grows rfl ⟨hbegin.append _, haligned, hmore, _, _, rfl⟩
  | allSent hall =>
    obtain ⟨hbegin, -⟩ := hstage
    exact h.keep hbus.grows rfl ⟨hbegin.append _, hall⟩
  | chunkSent =>
    obtain ⟨hbegin, hrest⟩ := hstage
    exact h.keep hbus.grows rfl ⟨hbegin.append _, hrest⟩
  | chunkAcked hcontrol hack hoffset =>
    next sent attempt frame ack earlier offset =>
    obtain ⟨hbegin, haligned, hmore, -⟩ := hstage
    have hdvd := haligned hmore
    -- the ack is backed: the board holds this very chunk
    have hheld : offset.toNat ∈ b'.held :=
      hbus.backed ack _ (by simp) (confirms_chunkAck hack)
    have hend := hbus.sound.held _ hheld
    rw [hoffset] at hend
    refine ⟨?_, ?_, ?_, hbegin.append _, ?_⟩
    · show sent + min A.kAdminChunkBytes (request.bytes.length - sent) ≤ request.bytes.length
      omega
    · show sent + min A.kAdminChunkBytes (request.bytes.length - sent) ≤ b'.staged.length
      omega
    · exact AckedBelow.extend h.acked hack hoffset hdvd
    · intro hlater
      have hfull : min A.kAdminChunkBytes (request.bytes.length - sent) = A.kAdminChunkBytes := by
        have hlater' : sent + min A.kAdminChunkBytes (request.bytes.length - sent) <
            request.bytes.length := hlater
        omega
      show A.kAdminChunkBytes ∣ sent + min A.kAdminChunkBytes (request.bytes.length - sent)
      rw [hfull]
      exact (Nat.dvd_add_right hdvd).mpr (Nat.dvd_refl _)
  | retried =>
    obtain ⟨hbegin, hrest⟩ := hstage
    exact h.keep hbus.grows rfl ⟨hbegin.append _, hrest⟩
  | committed =>
    next sent sequence epoch =>
    obtain ⟨hbegin, hall⟩ := hstage
    refine h.keep hbus.grows rfl ⟨hbegin.append _, hall, seen, [], sequence, epoch, rfl, ?_⟩
    intro p hp
    have hacked : AckedBelow P A request seen sent := h.acked
    exact hacked p (by omega)
  | succeeded =>
    obtain ⟨hbegin, hall, hcommit⟩ := hstage
    exact h.keep hbus.grows rfl fun _ => ⟨hbegin.append _, hall, hcommit.append _⟩
  | stays =>
    refine h.keep hbus.grows rfl ?_
    intro hok
    obtain ⟨hbegin, hall, hcommit⟩ := hstage hok
    exact ⟨hbegin.append _, hall, hcommit.append _⟩

end invariant

/-! ### Whole Calls -/

section transfer

variable {P : Protocol} {W : Type} {port : SerialPort W} {A : AdminProtocol}
  {request : FirmwareRequest} {B : UpdateBoard}

/-- **Run lemma**: the invariant holds after every stage, for everything the
    bus can have done with the traffic so far. -/
theorem callSound_after (hreads : B.Reads A request.board) (c : Comm P) (w : W) (n : Nat)
    {run : List (StagedTransfer.Act (List UInt8) (List UInt8))} {b : UpdateBus}
    (hrun : Transition.exec (StagedTransfer.step (updateReceiver P A request.board B))
      StagedTransfer.Bus.empty run = some b)
    (hseen : Transition.observe (StagedTransfer.step (updateReceiver P A request.board B))
      StagedTransfer.view StagedTransfer.Bus.empty run =
        (UpdateCall.after port A request c w n).seen) :
    Delivered (updateReceiver P A request.board B) request.bytes A.kAdminChunkBytes
        StagedTransfer.Bus.empty run (UpdateCall.after port A request c w n).seen b ∧
      CallSound P A request b (UpdateCall.after port A request c w n).stage
        (UpdateCall.after port A request c w n).seen := by
  induction n generalizing run b with
  | zero =>
    have hempty := StagedTransfer.sound_empty (updateReceiver P A request.board B) request.bytes
      A.kAdminChunkBytes
    have hnone : ∀ frame, Seen.sent frame ∈
        Transition.observe (StagedTransfer.step (updateReceiver P A request.board B))
          StagedTransfer.view StagedTransfer.Bus.empty run →
        Faithful (updateReceiver P A request.board B) request.bytes A.kAdminChunkBytes []
          frame := by
      intro frame hsent
      rw [hseen] at hsent
      cases hsent
    have hbus := StagedTransfer.delivered_run hempty hrun hnone
    rw [hseen] at hbus
    refine ⟨hbus, Nat.zero_le _, Nat.zero_le _, ?_, trivial⟩
    intro p hp
    exact absurd hp (Nat.not_lt_zero p)
  | succ n ih =>
    unfold UpdateCall.after at hseen ⊢
    rw [Function.iterate_succ_apply'] at hseen ⊢
    -- the bus run is one for the stages before and one for the last stage
    obtain ⟨run₁, run₂, u, rfl, hrun₁, hseen₁, hrun₂, hseen₂⟩ :=
      Transition.exec_split StagedTransfer.view_length hrun hseen
    obtain ⟨hbus₁, hcall⟩ := ih hrun₁ hseen₁
    generalize hcallₙ : (UpdateCall.next port A request)^[n] (UpdateCall.start c w) = callₙ at *
    have hafter : UpdateCall.after port A request c w n = callₙ := hcallₙ
    rw [hafter] at hbus₁ hcall
    have heffect := Comm.firmwareStep_effect port A request callₙ.stage callₙ.comm callₙ.world
    have hbus₂ := StagedTransfer.delivered_run hbus₁.sound hrun₂ (by
      intro frame hsent
      rw [hseen₂] at hsent
      exact faithful_stage hreads hcall heffect hsent)
    rw [hseen₂] at hbus₂
    exact ⟨hbus₁.append hrun₁ hbus₂, callSound_stage hcall heffect hbus₂⟩

/-- A transfer whose last chunk lies beyond 32 bits is never acknowledged. -/
theorem lastChunk_lt {seen : List AdminSeen} (hsome : 0 < request.bytes.length)
    (h : AckedBelow P A request seen request.bytes.length) : lastChunk A request < 2 ^ 32 := by
  have hlast : lastChunk A request ≤ request.bytes.length - 1 := Nat.div_mul_le_self _ _
  obtain ⟨offset, ack, -, -, ⟨k, hk⟩, hle, hlt⟩ := h (lastChunk A request) (by omega)
  have hoffset : offset.toNat < 2 ^ 32 := offset.toNat_lt
  -- two chunk positions less than a chunk apart are the same
  have hsame : (request.bytes.length - 1) / A.kAdminChunkBytes = k := by
    unfold lastChunk at hle hlt
    rw [hk, Nat.mul_comm A.kAdminChunkBytes k] at hle hlt
    have hpos : 0 < A.kAdminChunkBytes := by
      by_contra hzero
      have hzero' : A.kAdminChunkBytes = 0 := by omega
      rw [hzero'] at hlt
      simp at hlt
    have hge : k ≤ (request.bytes.length - 1) / A.kAdminChunkBytes :=
      Nat.le_of_mul_le_mul_right hle hpos
    have hup : (request.bytes.length - 1) / A.kAdminChunkBytes < k + 1 := by
      rw [← Nat.succ_mul] at hlt
      exact Nat.lt_of_mul_lt_mul_right hlt
    omega
  have heq : lastChunk A request = offset.toNat := by
    unfold lastChunk
    rw [hsame, hk, Nat.mul_comm]
  rw [heq]
  exact hoffset

/-- **A firmware transfer delivers the image.**  For every image that fits
    the 32 bits of the begin frame (or whose last chunk does not fit those
    of a chunk frame), after every stage of the call and for everything the
    bus may have done: at every point the board's staged bytes are a prefix
    of the image; a call that returned ok has delivered the image; a call
    that failed reports a prefix that the board has acknowledged. -/
theorem firmware_transfer (hreads : B.Reads A request.board)
    (hsize : request.bytes.length < 2 ^ 32 ∨ 2 ^ 32 ≤ lastChunk A request) (c : Comm P) (w : W)
    (n : Nat) (run : List (StagedTransfer.Act (List UInt8) (List UInt8))) (b : UpdateBus)
    (hrun : Transition.exec (StagedTransfer.step (updateReceiver P A request.board B))
      StagedTransfer.Bus.empty run = some b)
    (hseen : Transition.observe (StagedTransfer.step (updateReceiver P A request.board B))
      StagedTransfer.view StagedTransfer.Bus.empty run =
        (UpdateCall.after port A request c w n).seen) :
    Transition.Always (StagedTransfer.step (updateReceiver P A request.board B))
        (fun b => b.staged <+: request.bytes) StagedTransfer.Bus.empty run ∧
      ∀ result, (UpdateCall.after port A request c w n).stage = .returned result →
        if result.ok then
          ImageDelivered P A request b (UpdateCall.after port A request c w n).seen
            result.bytesSent
        else
          AcknowledgedPrefix P A request b (UpdateCall.after port A request c w n).seen
            result.bytesSent := by
  obtain ⟨hbus, hcall⟩ := callSound_after hreads c w n hrun hseen
  refine ⟨hbus.always, ?_⟩
  intro result hreturned
  rw [hreturned] at hcall
  have hbound : result.bytesSent ≤ request.bytes.length := hcall.bound
  have hstaged : result.bytesSent ≤ b.staged.length := hcall.staged
  have hstarts := hbus.sound.staged
  split
  · next hok =>
    obtain ⟨hbegin, hall, hcommit⟩ := hcall.stage hok
    refine ⟨hstarts.eq_of_length_le (by omega), ⟨_, hbegin, ?_⟩, hcommit, by omega⟩
    rw [UInt32.toNat_ofNat']
    apply Nat.mod_eq_of_lt
    rcases hsize with hsmall | hlarge
    · exact hsmall
    · -- all chunks were acknowledged, the last one among them
      obtain ⟨before, -, -, -, -, hacked⟩ := hcommit
      by_contra hlong
      have hlast := lastChunk_lt (by omega) hacked
      omega
  · refine ⟨hbound, hcall.acked, ?_⟩
    have htake : request.bytes.take result.bytesSent = b.staged.take result.bytesSent := by
      obtain ⟨rest, hrest⟩ := hstarts
      rw [← hrest, List.take_append_of_le_length hstaged]
    rw [htake]
    exact List.take_prefix _ _

end transfer

end LibPpuc
