import LibPpuc.Comm.IntegerApi
import LibPpuc.Comm.Mapping
import LibPpuc.Framework.Smallest

/-! # What the Boards Are Told

  `SendMappingFrames` tells the boards which number each bit of a domain
  stands for.  The host finds the bit of a number with the inverse maps.  So
  there are two accounts of one mapping, and `Domain.Agrees` says that they
  are the same, and which numbers are mapped.

  `MappingAgreement` is what the system relies on: the domains agree, the
  burst of frames tells exactly the pairs that the host works with, and an
  event sets exactly the bit that the boards were told means its number.
-/

namespace LibPpuc

/-- The domains whose bits are numbered. -/
inductive Domain where
  | coil
  | lamp
  | switch
  deriving DecidableEq, Repr

/-- The most bits that a domain can have. -/
def Protocol.kMaxBits (P : Protocol) : Domain → Nat
  | .coil => P.kMaxCoilBits
  | .lamp => P.kMaxLampBits
  | .switch => P.kMaxSwitchBits

/-- The domain byte of a mapping frame. -/
def Protocol.kDomain (P : Protocol) : Domain → UInt8
  | .coil => P.kDomainCoil
  | .lamp => P.kDomainLamp
  | .switch => P.kDomainSwitch

/-- The members that `SetMappings` and `SetRuntimeConfig` set. -/
structure Mappings where
  runtimeConfig : RuntimeConfig
  coilIndexToNumber : List UInt16
  lampIndexToNumber : List UInt16
  switchIndexToNumber : List UInt16
  coilNumberToIndex : Map UInt16 Nat
  lampNumberToIndex : Map UInt16 Nat
  switchNumberToIndex : Map UInt16 Nat

namespace Mappings

/-- The size of a domain in the setup frame. -/
def bits (m : Mappings) : Domain → Nat
  | .coil => m.runtimeConfig.coilBits
  | .lamp => m.runtimeConfig.lampBits
  | .switch => m.runtimeConfig.switchBits

def indexToNumber (m : Mappings) : Domain → List UInt16
  | .coil => m.coilIndexToNumber
  | .lamp => m.lampIndexToNumber
  | .switch => m.switchIndexToNumber

def numberToIndex (m : Mappings) : Domain → Map UInt16 Nat
  | .coil => m.coilNumberToIndex
  | .lamp => m.lampNumberToIndex
  | .switch => m.switchNumberToIndex

/-- The pairs of index and number that the frames of a domain carry. -/
def announced (m : Mappings) (d : Domain) : List (UInt16 × UInt16) :=
  (m.indexToNumber d).zipIdx.map fun p => (UInt16.ofNat p.2, p.1)

/-- The frames for all domains, in order. -/
def frames (P : Protocol) (m : Mappings) : List (UInt8 × UInt16 × UInt16) :=
  [Domain.coil, .lamp, .switch].flatMap fun d =>
    (m.announced d).map fun told => (P.kDomain d, told)

end Mappings

/-- A number that a domain is built from, or 0 if there is none. -/
def Mapped (Number : UInt16 → Prop) (k : UInt16) : Prop :=
  Number k ∨ (k = 0 ∧ ∀ j, ¬ Number j)

/-- Host and boards agree on a domain with the given numbers. -/
structure Domain.Agrees (P : Protocol) (Number : UInt16 → Prop) (m : Mappings) (d : Domain) :
    Prop where
  bits : m.bits d = (m.indexToNumber d).length
  /-- The smallest numbers are mapped, in order. -/
  smallest : Smallest (P.kMaxBits d) (Mapped Number) (m.indexToNumber d)
  /-- All numbers are mapped if a list of `kMaxBits` places holds them. -/
  complete : ∀ ks : List UInt16, (∀ k, Number k → k ∈ ks) → ks.length ≤ P.kMaxBits d →
    ∀ k, Number k → k ∈ m.indexToNumber d
  /-- The two maps are inverse to each other. -/
  inverse : ∀ k i, (m.numberToIndex d).lookup k = some i ↔ (m.indexToNumber d)[i]? = some k
  /-- The frames carry the indices from 0 to `bits - 1`. -/
  indices : (m.announced d).map (fun told => told.1.toNat) = List.range (m.bits d)
  /-- The frames carry exactly the pairs of the maps. -/
  pairs : ∀ index number, (index, number) ∈ m.announced d ↔
    (m.numberToIndex d).lookup number = some index.toNat

/-- The boards were told that the bit of the output means `number`. -/
inductive Means {P : Protocol} (m : Mappings) : EventSource → UInt16 → Output P → Prop where
  | coil {number : UInt16} {index : Fin P.kMaxCoilBits}
    (told : (UInt16.ofNat index, number) ∈ m.announced .coil) :
    Means m .solenoid number (.coil index)
  | lamp {number : UInt16} {index : Fin P.kMaxLampBits}
    (told : (UInt16.ofNat index, number) ∈ m.announced .lamp) :
    Means m .light number (.lamp index)

/-- The domain of an event source. -/
def EventSource.domain : EventSource → Option Domain
  | .solenoid => some .coil
  | .light => some .lamp
  | _ => none

/-- The frames as they are written, each with the next sequence number. -/
def Protocol.mappingBurst (P : Protocol) (epoch : UInt8) :
    UInt8 → List (UInt8 × UInt16 × UInt16) → List (List UInt8)
  | _, [] => []
  | sequence, (domain, index, number) :: rest =>
    P.buildMappingFrame P.kNoBoard sequence epoch domain index number ::
      P.mappingBurst epoch (sequence + 1) rest

namespace Comm

variable {P : Protocol} {W : Type}

def mappings (c : Comm P) : Mappings where
  runtimeConfig := c.runtimeConfig
  coilIndexToNumber := c.coilIndexToNumber
  lampIndexToNumber := c.lampIndexToNumber
  switchIndexToNumber := c.switchIndexToNumber
  coilNumberToIndex := c.coilNumberToIndex
  lampNumberToIndex := c.lampNumberToIndex
  switchNumberToIndex := c.switchNumberToIndex

end Comm

/-- What host and boards rely on after the mapping step: for each domain, for
    the frames and for the events. -/
structure MappingAgreement (P : Protocol) (Number : Domain → UInt16 → Prop) (m : Mappings) :
    Prop where
  domains : ∀ d : Domain, d.Agrees P (Number d) m
  /-- `SendMappingFrames` writes the frames in order up to a failed one, and
      all of them if it returns true; it does so on an open port that takes
      every frame whole. -/
  burst : ∀ {W : Type} (port : SerialPort W) (c : Comm P) (w : W), c.mappings = m →
    (c.sendMappingFrames port.recording (w, [])).2.2.2 <+:
        P.mappingBurst c.epoch c.sequence (m.frames P) ∧
      ((c.sendMappingFrames port.recording (w, [])).1 = true →
        (c.sendMappingFrames port.recording (w, [])).2.2.2 =
          P.mappingBurst c.epoch c.sequence (m.frames P)) ∧
      (c.portOpen = true → (∀ buffer w, (port.write buffer w).1 = (buffer.length : Int)) →
        (c.sendMappingFrames port.recording (w, [])).1 = true)
  /-- `QueueEvent` sets what the boards were told the number means, and no
      other output. -/
  sets : ∀ {W : Type} (port : SerialPort W) (c : Comm P) (w : W), c.mappings = m →
    ∀ event : Event, event.sourceId.domain.isSome = true → ∀ output : Output P,
      (Means m event.sourceId event.eventId output →
        (c.queueEvent port w event).level output = (event.value != 0).toNat) ∧
      (¬ Means m event.sourceId event.eventId output →
        (c.queueEvent port w event).level output = c.level output)
  /-- It does nothing for a number that is outside the domain or not mapped. -/
  ignores : ∀ {W : Type} (port : SerialPort W) (c : Comm P) (w : W), c.mappings = m →
    ∀ (event : Event) (d : Domain), event.sourceId.domain = some d →
      ¬ Mapped (Number d) event.eventId ∨ event.eventId ∉ m.indexToNumber d →
        c.queueEvent port w event = c

/-! ### The Mapping of One Domain -/

/-- A set that lacks a 16-bit number is no larger than 65535. -/
theorem length_numberSet_lt {numbers : List UInt16} {k : UInt16} (hk : k ∉ numbers) :
    (numberSet numbers).length < 65536 := by
  have hout : k ∉ numberSet numbers := fun hmem => hk (mem_numberSet.mp hmem)
  have hnodup : ((k :: numberSet numbers).map UInt16.toNat).Nodup :=
    (List.nodup_cons.mpr ⟨hout, nodup_numberSet numbers⟩).map fun _ _ => UInt16.toNat_inj.mp
  have hsubset : (k :: numberSet numbers).map UInt16.toNat ⊆ List.range 65536 := by
    intro n hn
    obtain ⟨j, -, rfl⟩ := List.mem_map.mp hn
    exact List.mem_range.mpr (UInt16.toNat_lt j)
  have hle := (hnodup.subperm hsubset).length_le
  rw [List.length_map, List.length_cons, List.length_range] at hle
  exact hle

/-- The mapping of a domain that is not empty cuts its sorted numbers. -/
theorem domainMapping_eq_take {kMax : Nat} {numbers : List UInt16}
    (hsome : numbers ≠ []) (hlength : (numberSet numbers).length < 65536) :
    domainMapping kMax numbers = (numberSet numbers).take kMax := by
  obtain ⟨k, hk⟩ := List.exists_mem_of_ne_nil numbers hsome
  have hone := List.length_pos_of_mem (mem_numberSet.mpr hk)
  have hbits : domainBits kMax numbers = min (numberSet numbers).length kMax := by
    unfold domainBits
    rw [Nat.mod_eq_of_lt hlength]
    omega
  have hfull : min (numberSet numbers).length kMax - (numberSet numbers).length = 0 := by omega
  unfold domainMapping
  rw [hbits, hfull, List.replicate_zero, List.append_nil, List.take_eq_take_iff]
  omega

/-- **The smallest numbers are mapped.** -/
theorem smallest_domainMapping {kMax : Nat} (hmax : 0 < kMax ∧ kMax < 65536)
    {numbers : List UInt16} {Number : UInt16 → Prop} (hnumbers : ∀ k, k ∈ numbers ↔ Number k)
    (hunused : ∃ k, ¬ Number k) : Smallest kMax (Mapped Number) (domainMapping kMax numbers) := by
  obtain ⟨unused, hout⟩ := hunused
  by_cases hempty : numbers = []
  · -- only the placeholder
    have hnone : ∀ j, ¬ Number j := by
      intro j hj
      have hmem := (hnumbers j).mpr hj
      rw [hempty] at hmem
      exact List.not_mem_nil hmem
    have hfits : (numberSet numbers).length ≤ kMax := by
      rw [hempty]
      exact Nat.zero_le kMax
    rw [domainMapping_eq hmax.1 hfits hmax.2, if_pos hempty]
    have hcut := smallest_take (List.pairwise_singleton (· < ·) (0 : UInt16)) kMax
    rw [List.take_of_length_le hmax.1] at hcut
    apply hcut.congr
    intro k
    rw [List.mem_singleton]
    constructor
    · rintro (hk | ⟨hzero, -⟩)
      · exact absurd hk (hnone k)
      · exact hzero
    · intro hzero
      exact Or.inr ⟨hzero, hnone⟩
  · have hlength := length_numberSet_lt (mt (hnumbers unused).mp hout)
    rw [domainMapping_eq_take hempty hlength]
    apply (smallest_take (pairwise_numberSet numbers) kMax).congr
    intro k
    rw [mem_numberSet, hnumbers k]
    constructor
    · rintro (hk | ⟨-, hnone⟩)
      · exact hk
      · obtain ⟨j, hj⟩ := List.exists_mem_of_ne_nil numbers hempty
        exact absurd ((hnumbers j).mp hj) (hnone j)
    · exact Or.inl

section agreement

variable {P : Protocol} {pos : Nat → Nat} {m : Mappings} {Number : Domain → UInt16 → Prop}

theorem Protocol.Lawful.maxBits (hP : P.Lawful pos) (d : Domain) :
    0 < P.kMaxBits d ∧ P.kMaxBits d < 65536 := by
  cases d with
  | coil => exact hP.maxCoilBits
  | lamp => exact hP.maxLampBits
  | switch => exact hP.maxSwitchBits

/-- **One domain**: what `SetMappings` makes of the mapping agrees with what
    the boards are told. -/
theorem Domain.agrees_of_mapping (hP : P.Lawful pos) {d : Domain} {numbers : List UInt16}
    {Number : UInt16 → Prop} (hnumbers : ∀ k, k ∈ numbers ↔ Number k)
    (hunused : ∃ k, ¬ Number k)
    (hindex : m.indexToNumber d = domainMapping (P.kMaxBits d) numbers)
    (hmap : m.numberToIndex d = Comm.numberToIndex (m.indexToNumber d))
    (hbits : m.bits d = (m.indexToNumber d).length) : d.Agrees P Number m := by
  have hmax := hP.maxBits d
  have hsmallest := smallest_domainMapping hmax hnumbers hunused
  rw [← hindex] at hsmallest
  have hinverse : ∀ k i, (m.numberToIndex d).lookup k = some i ↔
      (m.indexToNumber d)[i]? = some k := by
    intro k i
    rw [hmap]
    exact Comm.lookup_numberToIndex (hsmallest.nodup UInt16.lt_irrefl) k i
  -- no index is cut to 16 bits
  have hnarrow : ∀ i < (m.indexToNumber d).length, (UInt16.ofNat i).toNat = i := by
    intro i hi
    have hle := hsmallest.length_le
    rw [UInt16.toNat_ofNat']
    omega
  refine ⟨hbits, hsmallest, ?_, hinverse, ?_, ?_⟩
  · intro ks hks hlength k hk
    by_contra hout
    have hall : ∀ j, Mapped Number j → j ∈ ks := by
      rintro j (hj | ⟨-, hnone⟩)
      · exact hks j hj
      · exact absurd hk (hnone k)
    exact hout (hsmallest.complete UInt16.lt_irrefl hall hlength (Or.inl hk))
  · rw [hbits, Mappings.announced, List.map_map]
    apply List.ext_getElem
    · simp
    · intro i hi hi'
      rw [List.length_range] at hi'
      simpa using hnarrow i hi'
  · intro index number
    rw [hinverse, Mappings.announced, List.mem_map]
    constructor
    · rintro ⟨⟨k, i⟩, hmem, heq⟩
      obtain ⟨rfl, rfl⟩ := Prod.mk.inj heq
      have hentry := List.mk_mem_zipIdx_iff_getElem?.mp hmem
      have hi := (List.getElem?_eq_some_iff.mp hentry).1
      rw [hnarrow i hi]
      exact hentry
    · intro hentry
      refine ⟨(number, index.toNat), List.mk_mem_zipIdx_iff_getElem?.mpr hentry, ?_⟩
      show (UInt16.ofNat index.toNat, number) = (index, number)
      rw [UInt16.ofNat_toNat]

end agreement

/-! ### The Burst of Frames -/

namespace Comm

variable {P : Protocol} {W : Type} {pos : Nat → Nat} {Number : Domain → UInt16 → Prop}

/-- The frames of the object are those of its maps. -/
theorem mappingFrames_eq (c : Comm P) : c.mappingFrames = c.mappings.frames P := by
  have hdomain : ∀ (domain : UInt8) (numbers : List UInt16), mappingFramesOf domain numbers =
      (numbers.zipIdx.map fun p => (UInt16.ofNat p.2, p.1)).map fun told => (domain, told) := by
    intro domain numbers
    rw [List.map_map]
    rfl
  unfold mappingFrames Mappings.frames
  rw [hdomain, hdomain, hdomain, List.append_assoc]
  simp only [List.flatMap_cons, List.flatMap_nil, List.append_nil]
  rfl

/-- One mapping frame: nothing is written if the port is closed. -/
theorem sendMappingFrame_recording (port : SerialPort W) (domain : UInt8) (index number : UInt16)
    (c : Comm P) (w : W × List (List UInt8)) :
    let r := c.sendMappingFrame port.recording domain index number w
    r.2.1.epoch = c.epoch ∧
      if c.portOpen = true then
        r.2.1.sequence = c.sequence + 1 ∧ r.2.2.2 = w.2 ++
          [P.buildMappingFrame P.kNoBoard c.sequence c.epoch domain index number]
      else r.1 = false ∧ r.2.2.2 = w.2 := by
  dsimp only
  unfold sendMappingFrame
  by_cases hport : c.portOpen = true
  · obtain ⟨log, heq⟩ := writeBytes_eq port.recording "MappingFrame"
      (P.buildMappingFrame P.kNoBoard c.sequence c.epoch domain index number)
      { c with sequence := c.sequence + 1 } (port.recording.sleepUs 5000 w)
    have hworld := world_writeBytes port.recording "MappingFrame"
      (P.buildMappingFrame P.kNoBoard c.sequence c.epoch domain index number)
      (c := { c with sequence := c.sequence + 1 }) hport (port.recording.sleepUs 5000 w)
    simp only [if_pos hport]
    rw [heq, hworld]
    exact ⟨rfl, rfl, rfl⟩
  · simp [hport]

/-- **The burst**: the frames are written in order, up to a failed one. -/
theorem sendMappingFrameList_recording (port : SerialPort W)
    (frames : List (UInt8 × UInt16 × UInt16)) (c : Comm P) (w : W × List (List UInt8)) :
    ∃ sent, (sendMappingFrameList port.recording frames c w).2.2.2 = w.2 ++ sent ∧
      sent <+: P.mappingBurst c.epoch c.sequence frames ∧
      ((sendMappingFrameList port.recording frames c w).1 = true →
        sent = P.mappingBurst c.epoch c.sequence frames) := by
  induction frames generalizing c w with
  | nil => exact ⟨[], (List.append_nil _).symm, List.prefix_refl _, fun _ => rfl⟩
  | cons frame frames ih =>
    obtain ⟨domain, index, number⟩ := frame
    have hframe := sendMappingFrame_recording port domain index number c w
    unfold sendMappingFrameList Protocol.mappingBurst
    generalize c.sendMappingFrame port.recording domain index number w = r at hframe
    obtain ⟨ok, c', w'⟩ := r
    obtain ⟨hepoch, hframe⟩ := hframe
    dsimp only at hepoch hframe ⊢
    by_cases hport : c.portOpen = true
    · rw [if_pos hport] at hframe
      obtain ⟨hsequence, hwritten⟩ := hframe
      cases ok with
      | true =>
        obtain ⟨sent, hrest, hfirst, hall⟩ := ih c' w'
        rw [hepoch, hsequence] at hfirst hall
        refine ⟨_ :: sent, ?_, (List.prefix_cons_inj _).mpr hfirst, ?_⟩
        · show (sendMappingFrameList port.recording frames c' w').2.2.2 = _
          rw [hrest, hwritten, List.append_assoc]
          rfl
        · exact fun hok => congrArg _ (hall hok)
      | false =>
        refine ⟨_, hwritten, ?_, fun hok => Bool.noConfusion hok⟩
        exact (List.prefix_cons_inj _).mpr List.nil_prefix
    · rw [if_neg hport] at hframe
      obtain ⟨rfl, hwritten⟩ := hframe
      exact ⟨[], by simpa using hwritten, List.nil_prefix, fun hok => Bool.noConfusion hok⟩

/-- On an open port that takes every frame whole no mapping frame fails. -/
theorem sendMappingFrameList_ok {port : SerialPort W}
    (hwhole : ∀ buffer w, (port.write buffer w).1 = (buffer.length : Int))
    (frames : List (UInt8 × UInt16 × UInt16)) {c : Comm P} (hopen : c.portOpen = true) (w : W) :
    (sendMappingFrameList port frames c w).1 = true := by
  induction frames generalizing c w with
  | nil => rfl
  | cons frame frames ih =>
    obtain ⟨domain, index, number⟩ := frame
    have hok : (c.sendMappingFrame port domain index number w).1 = true := by
      unfold sendMappingFrame
      rw [if_pos hopen, writeBytes_ok]
      exact ⟨hopen, hwhole _ _⟩
    have hstill : (c.sendMappingFrame port domain index number w).2.1.portOpen = true := by
      unfold sendMappingFrame
      rw [if_pos hopen]
      obtain ⟨log, heq⟩ := writeBytes_eq port "MappingFrame"
        (P.buildMappingFrame P.kNoBoard c.sequence c.epoch domain index number)
        { c with sequence := c.sequence + 1 } (port.sleepUs 5000 w)
      rw [heq]
      exact hopen
    unfold sendMappingFrameList
    generalize c.sendMappingFrame port domain index number w = r at hok hstill
    obtain ⟨ok, c', w'⟩ := r
    obtain rfl : ok = true := hok
    exact ih hstill w'

/-! ### Events -/

/-- The boards were told that an output means a number exactly if the event
    path looks it up there. -/
theorem means_iff (hP : P.Lawful pos) {c : Comm P}
    (hdomains : ∀ d : Domain, d.Agrees P (Number d) c.mappings) (source : EventSource)
    (number : UInt16) (output : Output P) :
    Means c.mappings source number output ↔
      (∃ index, source = .solenoid ∧ output = .coil index ∧
        c.coilNumberToIndex.lookup number = some index.val) ∨
      (∃ index, source = .light ∧ output = .lamp index ∧
        c.lampNumberToIndex.lookup number = some index.val) := by
  have hnarrow : ∀ i : Nat, i < 65536 → (UInt16.ofNat i).toNat = i := by
    intro i hi
    rw [UInt16.toNat_ofNat']
    omega
  have hcoil : ∀ index : Fin P.kMaxCoilBits,
      (UInt16.ofNat index, number) ∈ c.mappings.announced .coil ↔
        c.coilNumberToIndex.lookup number = some index.val := by
    intro index
    rw [(hdomains .coil).pairs, hnarrow index (index.isLt.trans hP.maxCoilBits.2)]
    rfl
  have hlamp : ∀ index : Fin P.kMaxLampBits,
      (UInt16.ofNat index, number) ∈ c.mappings.announced .lamp ↔
        c.lampNumberToIndex.lookup number = some index.val := by
    intro index
    rw [(hdomains .lamp).pairs, hnarrow index (index.isLt.trans hP.maxLampBits.2)]
    rfl
  constructor
  · intro h
    cases h with
    | coil told => exact Or.inl ⟨_, rfl, rfl, (hcoil _).mp told⟩
    | lamp told => exact Or.inr ⟨_, rfl, rfl, (hlamp _).mp told⟩
  · rintro (⟨index, rfl, rfl, hlookup⟩ | ⟨index, rfl, rfl, hlookup⟩)
    · exact .coil ((hcoil index).mpr hlookup)
    · exact .lamp ((hlamp index).mpr hlookup)

/-- **Events**: an event sets what the boards were told its number means. -/
theorem level_queueEvent_means (hP : P.Lawful pos) {c : Comm P}
    (hdomains : ∀ d : Domain, d.Agrees P (Number d) c.mappings) (port : SerialPort W) (w : W)
    {event : Event} (hsource : event.sourceId.domain.isSome = true) (output : Output P) :
    (Means c.mappings event.sourceId event.eventId output →
      (c.queueEvent port w event).level output = (event.value != 0).toNat) ∧
    (¬ Means c.mappings event.sourceId event.eventId output →
      (c.queueEvent port w event).level output = c.level output) := by
  obtain ⟨source, number, value⟩ := event
  rw [means_iff hP hdomains]
  have hset : ∀ (told : Prop) [Decidable told] (before after : Nat),
      after = (if told then (value != 0).toNat else before) →
        (told → after = (value != 0).toNat) ∧ (¬ told → after = before) := by
    intro told _ before after hafter
    exact ⟨fun htold => hafter.trans (if_pos htold), fun hother => hafter.trans (if_neg hother)⟩
  cases source with
  | solenoid =>
    obtain ⟨hcoil, hlamp, hgi⟩ :=
      OutputCall.level_queueEvent_solenoid (c := c) hP port w number value
    cases output with
    | coil i => simpa using hset _ _ _ (hcoil i)
    | lamp i => simpa using hlamp i
    | gi i => simpa using hgi i
  | light =>
    obtain ⟨hlamp, hcoil, hgi⟩ :=
      OutputCall.level_queueEvent_light (c := c) hP port w number value
    cases output with
    | coil i => simpa using hcoil i
    | lamp i => simpa using hset _ _ _ (hlamp i)
    | gi i => simpa using hgi i
  | gi | run | readSwitches | effect | other => exact Bool.noConfusion hsource

/-- An event with a number that is not mapped does nothing. -/
theorem queueEvent_unmapped (port : SerialPort W) (w : W) {c : Comm P} {event : Event}
    {d : Domain} (hdomain : event.sourceId.domain = some d)
    (hlookup : (c.mappings.numberToIndex d).lookup event.eventId = none) :
    c.queueEvent port w event = c := by
  obtain ⟨source, number, value⟩ := event
  cases source with
  | solenoid =>
    obtain rfl := Option.some.inj hdomain
    have hnone : c.coilNumberToIndex.lookup number = none := hlookup
    simp [queueEvent, hnone]
  | light =>
    obtain rfl := Option.some.inj hdomain
    have hnone : c.lampNumberToIndex.lookup number = none := hlookup
    simp [queueEvent, hnone]
  | gi | run | readSwitches | effect | other => exact absurd hdomain (by simp [EventSource.domain])

/-- **Agreement of the domains is enough**: the burst and the events follow
    from it. -/
theorem mappingAgreement_of_domains (hP : P.Lawful pos) {m : Mappings}
    (hdomains : ∀ d : Domain, d.Agrees P (Number d) m) : MappingAgreement P Number m := by
  refine ⟨hdomains, ?_, ?_, ?_⟩
  · rintro W port c w rfl
    obtain ⟨sent, hsent, hfirst, hall⟩ :=
      sendMappingFrameList_recording port c.mappingFrames c (w, [])
    rw [List.nil_append] at hsent
    rw [← mappingFrames_eq]
    unfold sendMappingFrames
    rw [hsent]
    exact ⟨hfirst, hall, fun hopen hwhole =>
      sendMappingFrameList_ok (fun buffer w => hwhole buffer w.1) c.mappingFrames hopen (w, [])⟩
  · rintro W port c w rfl event hsource output
    exact level_queueEvent_means hP hdomains port w hsource output
  · rintro W port c w rfl event d hdomain hnumber
    apply queueEvent_unmapped port w hdomain
    -- a number that is looked up is mapped, so it is in the domain
    rw [Option.eq_none_iff_forall_ne_some]
    intro index hlookup
    have hentry := ((hdomains d).inverse event.eventId index).mp hlookup
    have hmem := List.mem_of_getElem? hentry
    rcases hnumber with houtside | hunmapped
    · exact houtside ((hdomains d).smallest.sound _ hmem)
    · exact hunmapped hmem

end Comm

end LibPpuc
