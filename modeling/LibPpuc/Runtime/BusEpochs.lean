import LibPpuc.Runtime.BusDiscipline

/-! # Numbers and Epochs on the Bus

  What the boards get from the discipline of the bus thread, read off the
  log alone, in sessions without a firmware transfer or version query.

  - The frames of the host are numbered one after the other, and so are the
    epochs of the setup frames, with those that the port did not take whole.
  - Between a dispute and the next output frame stand a whole setup frame
    with the epoch of that output frame and, behind it and in one piece, the
    whole mapping.
-/

namespace LibPpuc

variable {P : Protocol} {W : Type}

/-- The epoch a frame carries. -/
def BusFrame.epoch : BusFrame P → UInt8
  | .trigger _ epoch _ | .setup _ epoch _ | .mapping _ epoch _ | .outputState _ _ epoch _ _
  | .switchRefresh _ _ epoch | .switchReply _ _ _ epoch _ _ => epoch

namespace BusEntry

/-- The number of a frame of the host; a reply carries that of the frame that
    polled. -/
def number : BusEntry P → Option UInt8
  | .written (.trigger sequence _ _) _ | .written (.setup sequence _ _) _
  | .written (.mapping sequence _ _) _ | .written (.outputState _ sequence _ _ _) _
  | .written (.switchRefresh _ sequence _) _ => some sequence
  | .written (.switchReply ..) _ | .disputed => none

/-- The epoch a setup frame announces. -/
def announcedEpoch : BusEntry P → Option UInt8
  | .written (.setup _ epoch _) _ => some epoch
  | _ => none

/-- The entry leaves the session in force. -/
def keepsSession : BusEntry P → Bool
  | .written (.setup ..) _ | .written (.mapping ..) _ | .disputed => false
  | .written .. => true

end BusEntry

/-- A setup frame and the mapping frames behind it, all of them whole. -/
def announcement (sequence epoch : UInt8) (config : RuntimeConfig)
    (mapping : List (UInt8 × UInt16 × UInt16)) : List (BusEntry P) :=
  .written (.setup sequence epoch config) true ::
    mapping.zipIdx.map fun p =>
      .written (.mapping (sequence + 1 + UInt8.ofNat p.2) epoch p.1) true

/-- An announcement that goes on. -/
theorem announcement_snoc (sequence epoch : UInt8) (config : RuntimeConfig)
    (mapping : List (UInt8 × UInt16 × UInt16)) (entry : UInt8 × UInt16 × UInt16) :
    (announcement sequence epoch config (mapping ++ [entry]) : List (BusEntry P)) =
      announcement sequence epoch config mapping ++
        [.written (.mapping (sequence + 1 + UInt8.ofNat mapping.length) epoch entry) true] := by
  simp [announcement, List.zipIdx_append]

namespace BusListener

variable {m m' m₁ : BusListener} {log : List (BusEntry P)}

/-- The listener has heard an announcement since a setup was due: up to the
    frames in `rest`, and then nothing that ends the session. -/
def Announced (m : BusListener) (log : List (BusEntry P)) (m' : BusListener)
    (rest : List (UInt8 × UInt16 × UInt16)) : Prop :=
  ∃ early sequence done late,
    log = early ++ announcement sequence m'.epoch m.config done ++ late ∧
      m.mapping = done ++ rest ∧ late.all BusEntry.keepsSession = true ∧
      (rest ≠ [] → late = [] ∧ m'.sequence = sequence + 1 + UInt8.ofNat done.length)

/-- What hearing an entry does to the session. -/
inductive Heard (m : BusListener) : BusEntry P → BusListener → Prop where
  | disputed : Heard m .disputed { m with setup := .due }
  /-- Besides the session, a frame that keeps it counts and polls. -/
  | kept {entry : BusEntry P} (sequence : UInt8) (replies : Option (UInt8 × Nat))
      (hkeeps : entry.keepsSession = true) (hsettled : m.settled)
      (hcount : (entry.number = none ∧ sequence = m.sequence) ∨
        (entry.number = some m.sequence ∧ sequence = m.sequence + 1)) :
      Heard m entry { m with sequence := sequence, replies := replies }
  | setup (whole : Bool) (hdue : m.setup = .due) :
      Heard m (.written (.setup m.sequence (m.epoch + 1) m.config) whole)
        { m.counted with
          epoch := m.epoch + 1
          setup := if whole then .announcing m.mapping else .due }
  | mapping (whole : Bool) {entry : UInt8 × UInt16 × UInt16}
      {rest : List (UInt8 × UInt16 × UInt16)}
      (hannouncing : m.setup = .announcing (entry :: rest)) :
      Heard m (.written (.mapping m.sequence m.epoch entry) whole)
        { m.counted with setup := if whole then .announcing rest else .due }

/-- **Inversion of `hear`.** -/
theorem heard_of_hear {entry : BusEntry P} (h : m.hear entry = some m') : Heard m entry m' := by
  match entry with
  | .disputed =>
    obtain rfl := Option.some.inj h
    exact .disputed
  | .written (.trigger sequence epoch event) whole =>
    simp only [hear] at h
    split at h
    · next hguard =>
      obtain rfl := Option.some.inj h
      exact .kept _ _ rfl hguard.2 (Or.inr ⟨congrArg some hguard.1.1, rfl⟩)
    · cases h
  | .written (.setup sequence epoch config) whole =>
    simp only [hear] at h
    split at h
    · next hguard =>
      obtain ⟨rfl, rfl, rfl, hdue⟩ := hguard
      obtain rfl := Option.some.inj h
      exact .setup whole hdue
    · cases h
  | .written (.mapping sequence epoch entry) whole =>
    simp only [hear] at h
    split at h
    · next next' rest hannouncing =>
      split at h
      · next hguard =>
        obtain ⟨⟨rfl, rfl⟩, rfl⟩ := hguard
        obtain rfl := Option.some.inj h
        exact .mapping whole hannouncing
      · cases h
    · cases h
  | .written (.outputState nextBoard sequence epoch config snapshot) whole =>
    simp only [hear] at h
    split at h
    · next hguard =>
      obtain rfl := Option.some.inj h
      exact .kept _ _ rfl (Or.inr hguard.2.2) (Or.inr ⟨congrArg some hguard.1.1, rfl⟩)
    · cases h
  | .written (.switchRefresh nextBoard sequence epoch) whole =>
    simp only [hear] at h
    split at h
    · next hguard =>
      obtain rfl := Option.some.inj h
      exact .kept _ _ rfl (Or.inr hguard.2) (Or.inr ⟨congrArg some hguard.1.1, rfl⟩)
    · cases h
  | .written (.switchReply sendState nextBoard sequence epoch switchCopy bytes) whole =>
    simp only [hear] at h
    split at h
    · split at h
      · next hguard =>
        obtain rfl := Option.some.inj h
        exact .kept _ _ rfl hguard.2.2 (Or.inl ⟨rfl, rfl⟩)
      · cases h
    · cases h

/-- The frames of the host are counted. -/
theorem counts_number {entry : BusEntry P} (h : m.hear entry = some m') :
    Transition.Counts BusListener.sequence (· + 1) m entry.number m' := by
  cases heard_of_hear h with
  | disputed => exact Or.inl ⟨rfl, rfl⟩
  | kept sequence replies hkeeps hsettled hcount => exact hcount
  | setup | mapping => exact Or.inr ⟨rfl, rfl⟩

/-- So are the epochs. -/
theorem counts_announcedEpoch {entry : BusEntry P} (h : m.hear entry = some m') :
    Transition.Counts (fun m => m.epoch + 1) (· + 1) m entry.announcedEpoch m' := by
  cases heard_of_hear h with
  | disputed => exact Or.inl ⟨rfl, rfl⟩
  | kept sequence replies hkeeps hsettled hcount =>
    refine Or.inl ⟨?_, rfl⟩
    unfold BusEntry.keepsSession at hkeeps
    unfold BusEntry.announcedEpoch
    split
    · exact nomatch hkeeps
    · rfl
  | setup => exact Or.inr ⟨rfl, rfl⟩
  | mapping => exact Or.inl ⟨rfl, rfl⟩

/-- The configuration and the mapping are never replaced. -/
theorem exec_kept (h : Transition.exec hear m log = some m') :
    m'.config = m.config ∧ m'.mapping = m.mapping := by
  refine Transition.exec_invariant
    (I := fun m' => m'.config = m.config ∧ m'.mapping = m.mapping) ?_ ⟨rfl, rfl⟩ h
  intro m₁ entry m₂ hI hheard
  cases heard_of_hear hheard <;> exact hI

/-- **A session in force was announced**: since a setup was due, a whole setup
    frame went out, and behind it the mapping in one piece. -/
theorem announced_of_exec (hdue : m.setup = .due) (h : Transition.exec hear m log = some m')
    {rest : List (UInt8 × UInt16 × UInt16)} (hannouncing : m'.setup = .announcing rest) :
    Announced m log m' rest := by
  -- induction on the log from its end
  induction log using List.reverseRecOn generalizing m' rest with
  | nil =>
    obtain rfl : m = m' := by simpa using h
    rw [hdue] at hannouncing
    exact nomatch hannouncing
  | append_singleton log entry ih =>
    obtain ⟨m₁, hm₁, hlast⟩ := Transition.exec_append_some.mp h
    have hheard : m₁.hear entry = some m' := by
      obtain ⟨m₂, hm₂, hnil⟩ := Transition.exec_cons_some.mp hlast
      obtain rfl : m₂ = m' := by simpa using hnil
      exact hm₂
    obtain ⟨hconfig, hmapping⟩ := exec_kept hm₁
    cases heard_of_hear hheard with
    | disputed => exact nomatch hannouncing
    | kept sequence replies hkeeps hsettled hcount =>
      have hsetup : m₁.setup = .announcing rest := hannouncing
      obtain ⟨early, first, done, late, hlog, hdone, hlate, -⟩ := ih hm₁ hsetup
      have hrest : rest = [] := by
        rcases hsettled with hsettled | hsettled
        · rw [hsettled] at hsetup
          exact nomatch hsetup
        · rw [hsettled] at hsetup
          exact (SessionSetup.announcing.inj hsetup).symm
      refine ⟨early, first, done, late ++ [entry], ?_, hdone, ?_, ?_⟩
      · simp [hlog]
      · simp [hlate, hkeeps]
      · intro hne
        exact absurd hrest hne
    | setup whole hsetup =>
      cases whole with
      | false => exact nomatch hannouncing
      | true =>
        -- the announcement starts here
        have hall : m₁.mapping = rest := SessionSetup.announcing.inj hannouncing
        refine ⟨log, m₁.sequence, [], [], ?_, ?_, rfl, fun _ => ⟨rfl, ?_⟩⟩
        · simp [announcement, hconfig]
        · simp [← hmapping, hall]
        · simp [counted]
    | @mapping whole next rest' hsetup =>
      cases whole with
      | false => exact nomatch hannouncing
      | true =>
        -- the announcement goes on
        obtain rfl : rest' = rest := SessionSetup.announcing.inj hannouncing
        obtain ⟨early, first, done, late, hlog, hdone, -, hopen⟩ := ih hm₁ hsetup
        obtain ⟨rfl, hnumber⟩ := hopen (by simp)
        refine ⟨early, first, done ++ [next], [], ?_, ?_, rfl, fun _ => ⟨rfl, ?_⟩⟩
        · simp [announcement_snoc, hlog, hnumber, counted]
        · simp [hdone]
        · simp [counted, hnumber, UInt8.ofNat_add, UInt8.add_assoc]


/-- An output frame is heard while a session is in force, of its epoch. -/
theorem in_force_of_isOutput {frame : BusFrame P} {whole : Bool}
    (houtput : frame.isOutput = true) (h : m.hear (.written frame whole) = some m') :
    m.setup = .announcing [] ∧ frame.epoch = m.epoch := by
  cases frame with
  | outputState nextBoard sequence epoch config snapshot =>
    simp only [hear] at h
    split at h
    · next hguard => exact ⟨hguard.2.2, hguard.1.2⟩
    · cases h
  | switchRefresh nextBoard sequence epoch =>
    simp only [hear] at h
    split at h
    · next hguard => exact ⟨hguard.2, hguard.1.2⟩
    · cases h
  | trigger | setup | mapping | switchReply => cases houtput

end BusListener

namespace Sys

variable {E : Env W} {c : Comm P} {w : W} {s' : Sys P W} {ls : List Label}

/-- The log of a session is accepted by a listener of its start. -/
theorem accepted_busLog (hnumbers : P.NumbersFrames) (hopen : c.portOpen = true)
    (hvalid : P.isValidRuntimeConfig c.runtimeConfig = true) (hfirmware : Label.firmware ∉ ls)
    (hrun : Transition.exec (step E) (start E c w) ls = some s') :
    ∃ m', Transition.exec BusListener.hear (BusListener.joining c)
      (busLog E (start E c w) ls) = some m' := by
  obtain ⟨m', hm', -⟩ := follows_run hnumbers hopen hvalid hfirmware hrun
  exact ⟨m', hm'⟩

/-- **Numbers**: without a firmware transfer or version query the frames of
    the host are numbered one after the other from the number of the start,
    and the setup frames announce one epoch after the other. -/
theorem frames_numbered (hnumbers : P.NumbersFrames) (hopen : c.portOpen = true)
    (hvalid : P.isValidRuntimeConfig c.runtimeConfig = true) (hfirmware : Label.firmware ∉ ls)
    (hrun : Transition.exec (step E) (start E c w) ls = some s') :
    (∃ n, (busLog E (start E c w) ls).filterMap BusEntry.number =
        List.iterate (· + 1) c.sequence n) ∧
      ∃ n, (busLog E (start E c w) ls).filterMap BusEntry.announcedEpoch =
        List.iterate (· + 1) (c.epoch + 1) n := by
  obtain ⟨m', hm'⟩ := accepted_busLog hnumbers hopen hvalid hfirmware hrun
  have hframes := Transition.exec_numbered hm' fun _ _ _ => BusListener.counts_number
  have hepochs := Transition.exec_numbered hm' fun _ _ _ => BusListener.counts_announcedEpoch
  exact ⟨⟨_, hframes⟩, ⟨_, hepochs⟩⟩

end Sys

namespace Reference

open Sys

/-- A host that polls board 1 in its second cycle. -/
def hastyComm : Comm protocol :=
  { polledComm with outputFrameIntervalMs := 250, runtimeEnabled := true }

/-- A reply that has seen epoch 7. -/
def strangeReply : List UInt8 :=
  protocol.buildSwitchReplyFrame false 0xFF 0 1 7 0 0 (Vector.ofFn fun _ => 0) 1

/-- That host, right after it was started, with that reply on its way. -/
def hastySystem : Sys protocol Script := start env hastyComm { rx := strangeReply, rounds := 1 }

/-- Two output frames, the dispute, the announcement and an output frame. -/
def disputeAndAnnounce : List Label := List.replicate 32 .bus

theorem frames_numbered_dispute :
    (busLog env hastySystem disputeAndAnnounce).length = 8 ∧
      ∃ n, (busLog env hastySystem disputeAndAnnounce).filterMap BusEntry.number =
        List.iterate (· + 1) 0 n := by
  have hrun : (Transition.exec (step env) hastySystem disputeAndAnnounce).isSome = true := by
    decide +kernel
  obtain ⟨s', hs'⟩ := Option.isSome_iff_exists.mp hrun
  refine ⟨by decide +kernel, ?_⟩
  exact (frames_numbered protocol_numbersFrames (c := hastyComm) rfl rfl (by decide) hs').1

end Reference

namespace Sys

variable {E : Env W} {c : Comm P} {w : W} {s' : Sys P W} {ls : List Label}

/-- **No output in a disputed session**: after a dispute, and without a
    firmware transfer or version query, an output or refresh frame goes out
    only behind a whole setup frame of its epoch and the whole mapping, which
    follows that frame in one piece. -/
theorem output_after_dispute (hnumbers : P.NumbersFrames) (hopen : c.portOpen = true)
    (hvalid : P.isValidRuntimeConfig c.runtimeConfig = true) (hfirmware : Label.firmware ∉ ls)
    (hrun : Transition.exec (step E) (start E c w) ls = some s')
    {before between after : List (BusEntry P)} {frame : BusFrame P} {whole : Bool}
    (hlog : busLog E (start E c w) ls =
      before ++ .disputed :: between ++ .written frame whole :: after)
    (houtput : frame.isOutput = true) :
    ∃ early sequence late,
      between = early ++ announcement sequence frame.epoch c.runtimeConfig c.mappingFrames ++
          late ∧
        late.all BusEntry.keepsSession = true := by
  obtain ⟨m', hm'⟩ := accepted_busLog hnumbers hopen hvalid hfirmware hrun
  rw [hlog, List.append_assoc] at hm'
  obtain ⟨m₀, hm₀, hrest⟩ := Transition.exec_append_some.mp hm'
  obtain ⟨m₁, hm₁, hrest⟩ := Transition.exec_cons_some.mp hrest
  obtain ⟨m₂, hm₂, hrest⟩ := Transition.exec_append_some.mp hrest
  obtain ⟨m₃, hm₃, -⟩ := Transition.exec_cons_some.mp hrest
  obtain ⟨hconfig, hmapping⟩ := BusListener.exec_kept hm₀
  obtain rfl := Option.some.inj hm₁
  obtain ⟨hforce, hepoch⟩ := BusListener.in_force_of_isOutput houtput hm₃
  obtain ⟨early, sequence, done, late, hbetween, hdone, hlate, -⟩ :=
    BusListener.announced_of_exec rfl hm₂ hforce
  refine ⟨early, sequence, late, ?_, hlate⟩
  have hall : done = c.mappingFrames := by
    rw [List.append_nil] at hdone
    exact hdone.symm.trans hmapping
  rw [hbetween, hall, hepoch]
  show early ++ announcement sequence m₂.epoch m₀.config c.mappingFrames ++ late = _
  rw [hconfig]
  rfl

end Sys

namespace Reference

open Sys

theorem output_after_dispute_strange : ∃ early sequence late,
    ((busLog env hastySystem disputeAndAnnounce).drop 3).take 4 =
        early ++ announcement sequence 2 hastyComm.runtimeConfig hastyComm.mappingFrames ++ late ∧
      late.all BusEntry.keepsSession = true := by
  have hrun : (Transition.exec (step env) hastySystem disputeAndAnnounce).isSome = true := by
    decide +kernel
  obtain ⟨s', hs'⟩ := Option.isSome_iff_exists.mp hrun
  have hlog : busLog env hastySystem disputeAndAnnounce =
      (busLog env hastySystem disputeAndAnnounce).take 2 ++ .disputed ::
        ((busLog env hastySystem disputeAndAnnounce).drop 3).take 4 ++
          .written (.outputState 0xFF 6 2 hastyComm.runtimeConfig hastyComm.outputSnapshot) true ::
            [] := by
    decide +kernel
  exact output_after_dispute protocol_numbersFrames (c := hastyComm) rfl rfl (by decide) hs' hlog
    rfl

end Reference

end LibPpuc
