import LibPpuc.Comm.AckStream
import LibPpuc.Hunt
import LibPpuc.Session.CleanChain

/-! # The Switch Reply behind Other Frames

  `ReceiveSwitchStateFrame` ignores a frame of another type after its header:
  the payload is not drained, as `ReceiveConfigAck` does it, but searched for
  the next sync byte.  A sync byte in it heads a block of header length, and
  if that block reaches into the reply, the reply is lost.

  The reader is a hunt for blocks of header length, so the reply behind some
  bytes is accepted, whatever the world, if and only if the hunt skips
  exactly these bytes.
-/

namespace LibPpuc

/-- A block that begins like a header of a frame that is no switch reply. -/
def ForeignHeader (P : Protocol) (header : List UInt8) : Prop :=
  P.extractType (header.getD 1 0) ≠ .switchState ∧
    P.extractType (header.getD 1 0) ≠ .switchNoChange

instance (P : Protocol) (header : List UInt8) : Decidable (ForeignHeader P header) :=
  inferInstanceAs (Decidable (_ ∧ _))

/-- A well-formed frame of another type: a header, any payload, and a CRC. -/
structure ForeignFrame (P : Protocol) (frame : List UInt8) : Prop where
  sync : frame.head? = some P.kSyncByte
  size : P.kHeaderBytes + P.kCrcBytes ≤ frame.length
  foreign : ForeignHeader P frame

namespace Comm

variable {P : Protocol} {W : Type}

/-- What the reader makes of a header. -/
def switchFound (port : SerialPort W) (c : Comm P) (header : List UInt8) (w : W) :
    Option SwitchFrame × W :=
  match c.switchReplyPayloadBytes (P.extractType (header.getD 1 0)) with
  | none => (none, w)
  | some payloadBytes =>
    match port.readExact (payloadBytes + P.kCrcBytes) w with
    | (none, w) => (none, w)
    | (some body, w) =>
      (some { frameType := P.extractType (header.getD 1 0), buffer := header ++ body }, w)

/-- **The reading loop is a hunt** for blocks of header length. -/
theorem awaitSwitchFrame_hunt (port : SerialPort W) (c : Comm P) (rounds : Nat)
    (sawAnyReplyBytes hadState : Bool) (w : W) :
    (c.awaitSwitchFrame port rounds sawAnyReplyBytes hadState w).frame =
        (port.hunt P.kSyncByte (P.kHeaderBytes - 1) (c.switchFound port) rounds w).1 ∧
      (c.awaitSwitchFrame port rounds sawAnyReplyBytes hadState w).world =
        (port.hunt P.kSyncByte (P.kHeaderBytes - 1) (c.switchFound port) rounds w).2 ∧
      ∀ f, (c.awaitSwitchFrame port rounds sawAnyReplyBytes hadState w).frame = some f →
        (c.awaitSwitchFrame port rounds sawAnyReplyBytes hadState w).hadState =
          (f.frameType == .switchState) := by
  -- both loops read in the same order, and give a round up in the same places
  induction rounds generalizing sawAnyReplyBytes hadState w with
  | zero => exact ⟨rfl, rfl, fun f h => by simp [awaitSwitchFrame] at h⟩
  | succ rounds ih =>
    unfold awaitSwitchFrame SerialPort.hunt SerialPort.huntRound
    generalize port.read 1 w = first
    obtain ⟨first, w₁⟩ := first
    cases first with
    | nil => exact ih sawAnyReplyBytes hadState w₁
    | cons sync more =>
      dsimp only
      by_cases hsync : sync ≠ P.kSyncByte
      · rw [if_pos hsync, if_pos hsync]
        exact ih true hadState w₁
      · rw [if_neg hsync, if_neg hsync]
        generalize port.readExact (P.kHeaderBytes - 1) w₁ = second
        obtain ⟨second, w₂⟩ := second
        cases second with
        | none => exact ih true hadState w₂
        | some header =>
          dsimp only
          generalize hfound : c.switchFound port (sync :: header) w₂ = found
          unfold switchFound at hfound
          rw [List.getD_cons_succ] at hfound
          -- a type that is no reply has no length, so nothing more is read
          generalize c.switchReplyPayloadBytes (P.extractType (header.getD 0 0)) = payload
            at hfound ⊢
          cases payload with
          | none =>
            subst hfound
            exact ih true hadState w₂
          | some payloadBytes =>
            dsimp only at hfound ⊢
            generalize port.readExact (payloadBytes + P.kCrcBytes) w₂ = third at hfound ⊢
            obtain ⟨third, w₃⟩ := third
            cases third with
            | none =>
              subst hfound
              exact ih true _ w₃
            | some body =>
              subst hfound
              refine ⟨rfl, rfl, ?_⟩
              intro f hf
              obtain rfl := Option.some.inj hf
              rfl

/-- The rest of the reader, with the frame that the hunt has found. -/
theorem receiveSwitchStateFrame_some {port : SerialPort W} {c : Comm P}
    (hopen : c.portOpen = true) (hvalid : P.isValidRuntimeConfig c.runtimeConfig = true)
    {f : SwitchFrame} {w w' : W}
    (hhunt : port.hunt P.kSyncByte (P.kHeaderBytes - 1) (c.switchFound port)
      (port.window c.switchReplyWindowUs w) w = (some f, w')) (board : UInt8) (r : SwitchReply) :
    c.receiveSwitchStateFrame port board r w =
      ({ ok := (c.acceptSwitchFrame port w' board f).1
         nextBoard := f.nextBoard
         hadState := f.frameType == .switchState },
        (c.acceptSwitchFrame port w' board f).2, w') := by
  obtain ⟨hframe, hworld, hstate⟩ := awaitSwitchFrame_hunt port c
    (port.window c.switchReplyWindowUs w) false r.hadState w
  rw [hhunt] at hframe hworld
  unfold receiveSwitchStateFrame
  rw [if_pos ⟨hopen, hvalid⟩]
  dsimp only
  rw [hframe, hworld, hstate f hframe]

/-- Without a frame there is no success. -/
theorem receiveSwitchStateFrame_none {port : SerialPort W} {c : Comm P} {w w' : W}
    (hhunt : port.hunt P.kSyncByte (P.kHeaderBytes - 1) (c.switchFound port)
      (port.window c.switchReplyWindowUs w) w = (none, w')) (board : UInt8) (r : SwitchReply) :
    (c.receiveSwitchStateFrame port board r w).1.ok = false := by
  obtain ⟨hframe, -, -⟩ := awaitSwitchFrame_hunt port c
    (port.window c.switchReplyWindowUs w) false r.hadState w
  rw [hhunt] at hframe
  unfold receiveSwitchStateFrame
  split
  · dsimp only
    rw [hframe]
  · rfl

theorem acceptSwitchFrame_of_crc {port : SerialPort W} {c : Comm P} {f : SwitchFrame}
    (hcrc : f.receivedCrc = f.calculatedCrc P) (w : W) (board : UInt8) :
    (c.acceptSwitchFrame port w board f).1 = true := by
  unfold acceptSwitchFrame
  dsimp only
  rw [if_neg (by simp [hcrc])]
  split
  · rfl
  · rfl

/-- The reply `f` is accepted behind `noise`: in every world in which the
    noise, the reply and then anything arrive, in any portions and after any
    silence that leaves a round for each byte of the noise and one for the
    reply, the reader returns what the reply says and has read the input up to
    its end. -/
def AcceptsBehind (c : Comm P) (board : UInt8) (f : SwitchFrame) (noise : List UInt8) : Prop :=
  ∀ (W : Type) (port : SerialPort W) (R : List UInt8 → W → Prop) (r : SwitchReply) (w w₀ : W)
    (silence : Nat) (rest : List UInt8),
    port.Supplies R → port.Silent silence w w₀ → R (noise ++ f.buffer ++ rest) w₀ →
    silence + noise.length < port.window c.switchReplyWindowUs w →
    ∃ w', R rest w' ∧ c.receiveSwitchStateFrame port board r w =
      ({ ok := true, nextBoard := f.nextBoard, hadState := f.frameType == .switchState },
        (c.acceptSwitchFrame port w' board f).2, w')

/-- The reply, once the hunt stands right before it. -/
theorem hunt_isReply {port : SerialPort W} {R : List UInt8 → W → Prop} (hR : port.Supplies R)
    {c : Comm P} {f : SwitchFrame} (hreply : c.IsReply f) {rest : List UInt8} {w : W}
    (h : R (f.buffer ++ rest) w) (rounds : Nat) :
    ∃ w', R rest w' ∧
      port.hunt P.kSyncByte (P.kHeaderBytes - 1) (c.switchFound port) (rounds + 1) w =
        (some f, w') := by
  obtain ⟨header, body, payloadBytes, hbuffer, hheader, htype, hpayload, hbody⟩ := hreply
  rw [hbuffer, List.append_assoc] at h
  obtain ⟨w₁, hround, hlater⟩ := SerialPort.huntRound_block hR (c.switchFound port) hheader h
  obtain ⟨w₂, hread, hrest⟩ := port.readExact_append_of_supplies hR hbody hlater
  refine ⟨w₂, hrest, ?_⟩
  have hfound : c.switchFound port (P.kSyncByte :: header) w₁ = (some f, w₂) := by
    unfold switchFound
    rw [List.getD_cons_succ, ← htype, hpayload]
    dsimp only
    rw [hread]
    dsimp only
    rw [← hbuffer]
  rw [SerialPort.hunt, hround, hfound]

/-- A frame that the hunt finds is a reply of the session's size. -/
theorem switchFound_some {c : Comm P} {header after later : List UInt8}
    {f : SwitchFrame} (hheader : header.length = P.kHeaderBytes - 1)
    (h : c.switchFound SerialPort.arrived (P.kSyncByte :: header) after = (some f, later)) :
    c.IsReply f ∧ P.kSyncByte :: header ++ after = f.buffer ++ later := by
  unfold switchFound at h
  rw [List.getD_cons_succ] at h
  cases hpayload : c.switchReplyPayloadBytes (P.extractType (header.getD 0 0)) with
  | none =>
    rw [hpayload] at h
    simp at h
  | some payloadBytes =>
    rw [hpayload] at h
    dsimp only at h
    rw [SerialPort.readExact_arrived] at h
    by_cases hfits : payloadBytes + P.kCrcBytes ≤ after.length
    · rw [if_pos hfits] at h
      obtain ⟨hf, rfl⟩ := Prod.mk.inj h
      obtain rfl := Option.some.inj hf
      refine ⟨⟨header, after.take (payloadBytes + P.kCrcBytes), payloadBytes, rfl, hheader, rfl,
        hpayload, ?_⟩, ?_⟩
      · rw [List.length_take, Nat.min_eq_left hfits]
      · rw [List.append_assoc, List.take_append_drop]
    · rw [if_neg hfits] at h
      simp at h

theorem switchReplyPayloadBytes_eq_none (c : Comm P) (header : List UInt8) :
    c.switchReplyPayloadBytes (P.extractType (header.getD 1 0)) = none ↔
      ForeignHeader P header := by
  unfold ForeignHeader
  cases P.extractType (header.getD 1 0) <;> simp [switchReplyPayloadBytes]

/-- What the hunt passes over, or what it loses at the end. -/
theorem switchFound_none (c : Comm P) (block bytes : List UInt8)
    (h : (c.switchFound SerialPort.arrived block bytes).1 = none) :
    (ForeignHeader P block ∧ (c.switchFound SerialPort.arrived block bytes).2 = bytes) ∨
      (c.switchFound SerialPort.arrived block bytes).2 = [] := by
  unfold switchFound at h ⊢
  cases hpayload : c.switchReplyPayloadBytes (P.extractType (block.getD 1 0)) with
  | none => exact Or.inl ⟨(c.switchReplyPayloadBytes_eq_none block).mp hpayload, rfl⟩
  | some payloadBytes =>
    rw [hpayload] at h
    dsimp only at h ⊢
    rw [SerialPort.readExact_arrived] at h ⊢
    by_cases hfits : payloadBytes + P.kCrcBytes ≤ bytes.length
    · rw [if_pos hfits] at h
      simp at h
    · rw [if_neg hfits]
      exact Or.inr rfl

/-- The length of a reply follows from its type. -/
theorem IsReply.length_eq {c : Comm P} {f f' : SwitchFrame} (h : c.IsReply f)
    (h' : c.IsReply f') (htype : f'.frameType = f.frameType) :
    f'.buffer.length = f.buffer.length := by
  obtain ⟨header, body, payloadBytes, hbuffer, hheader, -, hpayload, hbody⟩ := h
  obtain ⟨header', body', payloadBytes', hbuffer', hheader', -, hpayload', hbody'⟩ := h'
  rw [htype, hpayload] at hpayload'
  obtain rfl := Option.some.inj hpayload'
  simp only [hbuffer, hbuffer', List.length_append, List.length_cons, hheader, hheader', hbody,
    hbody']

/-- There are two types of replies. -/
theorem IsReply.frameType_eq {c : Comm P} {f f' : SwitchFrame} (h : c.IsReply f)
    (h' : c.IsReply f')
    (hstate : (f'.frameType == .switchState) = (f.frameType == .switchState)) :
    f'.frameType = f.frameType := by
  have htwo : ∀ {g}, c.IsReply g → g.frameType = .switchState ∨ g.frameType = .switchNoChange := by
    rintro g ⟨header, body, payloadBytes, -, -, -, hpayload, -⟩
    unfold switchReplyPayloadBytes at hpayload
    split at hpayload
    · next heq => exact Or.inl heq
    · next heq => exact Or.inr heq
    · simp at hpayload
  rcases htwo h with htype | htype <;> rcases htwo h' with htype' | htype' <;>
    simp [htype, htype'] at hstate ⊢

/-- **The reply behind other bytes** is accepted, as it is where it comes
    first, if and only if the bytes fall into single bytes other than the sync
    byte and blocks of header length that are no header of a switch reply. -/
theorem acceptsBehind_iff {c : Comm P} (hopen : c.portOpen = true)
    (hvalid : P.isValidRuntimeConfig c.runtimeConfig = true) {f : SwitchFrame}
    (hreply : c.IsReply f) (hcrc : f.receivedCrc = f.calculatedCrc P) (board : UInt8)
    (noise : List UInt8) :
    c.AcceptsBehind board f noise ↔
      Skipped P.kSyncByte (P.kHeaderBytes - 1) (ForeignHeader P) noise := by
  constructor
  · intro haccepts
    -- everything has arrived, and nothing comes behind the reply
    have hroom : 0 + noise.length <
        SerialPort.arrived.window c.switchReplyWindowUs (noise ++ f.buffer) := by
      obtain ⟨header, body, payloadBytes, hbuffer, -⟩ := hreply
      show 0 + noise.length < (noise ++ f.buffer).length
      rw [hbuffer, List.length_append, List.cons_append, List.length_cons]
      omega
    obtain ⟨w', hrest, hreceive⟩ := haccepts (List UInt8) SerialPort.arrived Eq ⟨false, 0, false⟩
      (noise ++ f.buffer) (noise ++ f.buffer) 0 [] SerialPort.arrived_supplies rfl
      (List.append_nil _) hroom
    obtain rfl : [] = w' := hrest
    generalize hhunt : SerialPort.arrived.hunt P.kSyncByte (P.kHeaderBytes - 1)
      (c.switchFound SerialPort.arrived)
      (SerialPort.arrived.window c.switchReplyWindowUs (noise ++ f.buffer)) (noise ++ f.buffer) =
        result at *
    obtain ⟨found, later⟩ := result
    cases found with
    | none =>
      have hfails := receiveSwitchStateFrame_none hhunt board ⟨false, 0, false⟩
      rw [hreceive] at hfails
      simp at hfails
    | some f' =>
      rw [receiveSwitchStateFrame_some hopen hvalid hhunt] at hreceive
      obtain ⟨hresult, hcomm⟩ := Prod.mk.inj hreceive
      obtain rfl : later = [] := (Prod.mk.inj hcomm).2
      obtain ⟨skipped, header, after, heq, hheader, hskipped, hfound⟩ :=
        SerialPort.hunt_arrived (c.switchFound_none) hhunt
      obtain ⟨hreply', hbuffer⟩ := switchFound_some hheader hfound
      rw [hbuffer, List.append_nil] at heq
      -- the frame that was found is as long as the reply, and ends where it does
      have htype := hreply.frameType_eq hreply' (congrArg SwitchReply.hadState hresult)
      have hlength := hreply.length_eq hreply' htype
      have hsame := (List.append_inj_left' heq hlength.symm)
      rw [hsame]
      exact hskipped
  · intro hskipped W port R r w w₀ silence rest hR hsilent h hrounds
    have hpassed : ∀ block w, ForeignHeader P block → c.switchFound port block w = (none, w) := by
      intro block w hforeign
      unfold switchFound
      rw [(c.switchReplyPayloadBytes_eq_none block).mpr hforeign]
    obtain ⟨rounds, hwindow⟩ := Nat.exists_eq_add_of_le
      (show silence ≤ port.window c.switchReplyWindowUs w by omega)
    have hroom : noise.length ≤ rounds := by omega
    rw [List.append_assoc] at h
    obtain ⟨later, w₁, hlater, hbytes, hskip⟩ :=
      SerialPort.hunt_of_skipped hR hpassed hskipped h hroom
    obtain ⟨n, rfl⟩ : ∃ n, later = n + 1 := ⟨later - 1, by omega⟩
    obtain ⟨w', hrest, hfind⟩ := hunt_isReply hR hreply hbytes n
    have hhunt : port.hunt P.kSyncByte (P.kHeaderBytes - 1) (c.switchFound port)
        (port.window c.switchReplyWindowUs w) w = (some f, w') := by
      rw [hwindow, SerialPort.hunt_of_silent hsilent, hskip, hfind]
    refine ⟨w', hrest, ?_⟩
    rw [receiveSwitchStateFrame_some hopen hvalid hhunt, acceptSwitchFrame_of_crc hcrc]

end Comm

/-- A frame of another type without a sync byte behind its header. -/
theorem ForeignFrame.skipped {P : Protocol} {frame : List UInt8} (h : ForeignFrame P frame)
    (hheader : 2 ≤ P.kHeaderBytes) (hquiet : P.kSyncByte ∉ frame.drop P.kHeaderBytes) :
    Skipped P.kSyncByte (P.kHeaderBytes - 1) (ForeignHeader P) frame := by
  obtain ⟨later, rfl⟩ := List.head?_eq_some_iff.mp h.sync
  have hsize := h.size
  rw [List.length_cons] at hsize
  obtain ⟨n, hn⟩ : ∃ n, P.kHeaderBytes = n + 2 := Nat.exists_eq_add_of_le' hheader
  rw [hn, List.drop_succ_cons] at hquiet
  rw [hn, Nat.add_succ_sub_one]
  have hsplit : P.kSyncByte :: later =
      P.kSyncByte :: later.take (n + 1) ++ later.drop (n + 1) := by
    rw [List.cons_append, List.take_append_drop]
  rw [hsplit]
  apply Skipped.block
  · rw [List.length_take]
    omega
  · have hforeign := h.foreign
    unfold ForeignHeader at hforeign ⊢
    cases later with
    | nil => exact hforeign
    | cons b later => exact hforeign
  · exact Skipped.of_not_mem hquiet

namespace Reference

theorem pollReply_isReply : pollSession.IsReply pollReply := by
  refine ⟨pollReply.buffer.tail.take 4, pollReply.buffer.drop 5, 4, ?_⟩
  decide +kernel

/-- A config frame with a sync byte at the end of its payload. -/
def latentSync : List UInt8 := frame .config 0xFF 0 0 [1, 1, 0, 0, 0, 0, 0, 0xA5]

theorem latentSync_foreign : ForeignFrame protocol latentSync :=
  ⟨rfl, by decide, by decide⟩

/-- That frame and the reply. -/
def latentWorld : Script := { rx := latentSync ++ pollReply.buffer, rounds := 100 }

/-- A heartbeat and a config frame are passed over. -/
theorem accepted_behind_heartbeat :
    pollSession.AcceptsBehind 1 pollReply
      (frame .heartbeat 0xFF 1 0 [] ++ frame .config 0xFF 0 0 [1, 1, 0, 0, 0, 0, 0, 1]) := by
  apply (Comm.acceptsBehind_iff rfl (by decide) pollReply_isReply (by decide +kernel) 1 _).mpr
  apply Skipped.append
  · exact ForeignFrame.skipped ⟨rfl, by decide, by decide⟩ (by decide) (by decide +kernel)
  · exact ForeignFrame.skipped ⟨rfl, by decide, by decide⟩ (by decide) (by decide +kernel)

/-- The reply is lost behind the other config frame. -/
theorem lost_behind_latentSync :
    ¬ ∀ frames : List (List UInt8), (∀ frame ∈ frames, ForeignFrame protocol frame) →
      pollSession.AcceptsBehind 1 pollReply frames.flatten := by
  intro h
  have hforeign : ∀ frame ∈ [latentSync], ForeignFrame protocol frame := by
    intro frame hframe
    obtain rfl := List.mem_singleton.mp hframe
    exact latentSync_foreign
  obtain ⟨w', -, hreceive⟩ := h [latentSync] hforeign Script port (Feeds 0) ⟨false, 0, false⟩
    latentWorld latentWorld 0 [] (feed_script.supplies 0) rfl
    ⟨by simp [latentWorld], by simp [latentWorld]⟩ (by decide +kernel)
  have hok : (pollSession.receiveSwitchStateFrame port 1 ⟨false, 0, false⟩ latentWorld).1.ok =
      true := congrArg (fun result => result.1.ok) hreceive
  revert hok
  decide +kernel

end Reference

end LibPpuc
