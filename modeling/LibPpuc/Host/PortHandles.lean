import LibPpuc.Framework.Handles
import LibPpuc.Framework.Ledger
import LibPpuc.Session.Lifetime
import Mathlib.Data.List.Perm.Basic

/-! # The Handles of the Serial Port

  `Connect` gets a port and a configuration from libserialport and gives them
  back on each of its error paths; `Disconnect` gives back what is held.
  `Connect` does not look at what it held before it takes new handles, so on
  an open port it abandons the old ones.

  `handles_accounted` says this for every sequence of calls: the library
  accepts each of them, and what it still knows in the end is what the object
  holds and what such a `Connect` abandoned.  A call is one step here: that no
  bus thread is left while `Connect` and `Disconnect` work on the port is
  shown in `LibPpuc.Host.BusMaster`.
-/

namespace LibPpuc

open Handles

/-! ### Connect and Disconnect -/

/-- What libserialport answers to the calls of one `Connect`. -/
structure PortAnswers where
  getPortByName : Bool
  openPort : Bool
  /-- There is memory for a configuration. -/
  newConfig : Bool
  setConfigBaudrate : Bool
  setConfigBits : Bool
  setConfigParity : Bool
  setConfigStopbits : Bool
  setConfigXonXoff : Bool
  setConfigFlowcontrol : Bool
  setConfig : Bool
  deriving DecidableEq

/-- The settings, in the order in which they are tried. -/
def PortAnswers.settings (a : PortAnswers) : List Bool :=
  [a.setConfigBaudrate, a.setConfigBits, a.setConfigParity, a.setConfigStopbits,
    a.setConfigXonXoff, a.setConfigFlowcontrol]

/-- The port was opened and set up. -/
def PortAnswers.succeeds (a : PortAnswers) : Bool :=
  a.getPortByName && a.openPort && a.newConfig && a.settings.all id && a.setConfig

/-- `m_pSerialPort` and `m_pSerialPortConfig`. -/
structure PortHandles where
  serialPort : Option Nat
  serialPortConfig : Option Nat
  /-- The next handle that the library gives out. -/
  next : Nat
  deriving DecidableEq

namespace PortHandles

/-- What the object holds. -/
def held (h : PortHandles) : List Nat := h.serialPortConfig.toList ++ h.serialPort.toList

/-- The settings are tried until one fails. -/
def settingCalls (config : Nat) : List Bool → List (Call Nat)
  | [] => []
  | ok :: rest => .touch config :: if ok then settingCalls config rest else []

/-- The handles after `Connect`, and its calls. -/
def connect (a : PortAnswers) (h : PortHandles) : PortHandles × List (Call Nat) :=
  let port := h.next
  let config := h.next + 1
  let setUp := [.alloc port, .opens port, .alloc config, .use port, .touch config] ++
    settingCalls config a.settings
  let giveBack := [.free config, .closes port, .free port]
  if ¬ a.getPortByName then ({ h with serialPort := none }, [])
  else if ¬ a.openPort then
    ({ h with serialPort := none, next := h.next + 1 }, [.alloc port, .touch port, .free port])
  else if ¬ a.newConfig then
    -- a missing configuration takes no setting, and freeing it does nothing
    ({ serialPort := none, serialPortConfig := none, next := h.next + 1 },
      [.alloc port, .opens port, .use port, .closes port, .free port])
  else if ¬ a.settings.all id then
    ({ serialPort := none, serialPortConfig := none, next := h.next + 2 }, setUp ++ giveBack)
  else if ¬ a.setConfig then
    ({ serialPort := none, serialPortConfig := none, next := h.next + 2 },
      setUp ++ [.use port, .touch config] ++ giveBack)
  else
    -- flow control, RTS, DTR and the flush
    ({ serialPort := some port, serialPortConfig := some config, next := h.next + 2 },
      setUp ++ [.use port, .touch config, .use port, .use port, .use port, .use port])

/-- The handles that `Connect` overwrites. -/
def abandoned (a : PortAnswers) (h : PortHandles) : List Nat :=
  h.serialPort.toList ++ if a.getPortByName && a.openPort then h.serialPortConfig.toList else []

/-- The handles after `Disconnect`, and its calls: `frames` frames that switch
    the outputs off, two drains, the flush, flow control, RTS and DTR. -/
def disconnect (frames : Nat) (h : PortHandles) : PortHandles × List (Call Nat) :=
  match h.serialPort with
  | none => (h, [])
  | some port =>
    ({ h with serialPort := none, serialPortConfig := none },
      List.replicate (frames + 6) (.use port) ++
        (match h.serialPortConfig with
          | none => []
          | some config => [.use port, .touch config, .free config]) ++
        [.closes port, .free port])

end PortHandles

/-! ### The Object -/

/-- The object, with its handles. -/
structure PortObject (P : Protocol) where
  comm : Comm P
  handles : PortHandles

/-- A call of the object, in the world that it finds. -/
inductive PortOp (W : Type) where
  | connect (a : PortAnswers)
  | write (context : String) (buffer : List UInt8) (w : W)
  | disconnect (w : W)

namespace PortObject

variable {P : Protocol} {W : Type}

/-- A freshly constructed object. -/
def constructed (c : Comm P) : PortObject P where
  comm := { c with portOpen := false }
  handles := { serialPort := none, serialPortConfig := none, next := 0 }

/-- So many frames does `Disconnect` hand to an open port. -/
def offFrames (s : PortObject P) : Nat :=
  if P.isValidRuntimeConfig s.comm.runtimeConfig ∧ P.isValidBoard P.kNoBoard then 2 else 0

/-- One call. -/
def step (port : SerialPort W) (s : PortObject P) : PortOp W → Option (PortObject P)
  | .connect a => some ⟨s.comm.connect a.succeeds, (s.handles.connect a).1⟩
  | .write context buffer w => some ⟨(s.comm.writeBytes port context buffer w).2.1, s.handles⟩
  | .disconnect w => some ⟨s.comm.disconnect port w, (s.handles.disconnect s.offFrames).1⟩

/-- What a call asks of libserialport. -/
def calls (s : PortObject P) (op : PortOp W) (_ : PortObject P) : List (Call Nat) :=
  match op with
  | .connect a => (s.handles.connect a).2
  | .write .. => s.handles.serialPort.toList.map .use
  | .disconnect _ => (s.handles.disconnect s.offFrames).2

/-- What a call abandons. -/
def abandons (s : PortObject P) (op : PortOp W) (_ : PortObject P) : List Nat :=
  match op with
  | .connect a => s.handles.abandoned a
  | _ => []

/-- All calls of libserialport in a sequence. -/
def portCalls (port : SerialPort W) (s : PortObject P) (ops : List (PortOp W)) :
    List (Call Nat) :=
  Transition.observe (step port) calls s ops

/-- All handles that a sequence abandons. -/
def portsAbandoned (port : SerialPort W) (s : PortObject P) (ops : List (PortOp W)) : List Nat :=
  Transition.observe (step port) abandons s ops

end PortObject

/-! ### What the Library Knows -/

namespace PortHandles

/-- The library knows the handles that are held, and the lost ones. -/
structure Tracks (h : PortHandles) (lost : List Nat) (t : Table Nat) : Prop where
  port : ∀ port, h.serialPort = some port → t port = .opened
  config : ∀ config, h.serialPortConfig = some config → t config = .closed
  known : ∀ n, t.Knows n ↔ n ∈ h.held ++ lost
  fresh : ∀ n, h.next ≤ n → t n = .absent
  nodup : (h.held ++ lost).Nodup

variable {h : PortHandles} {lost : List Nat} {t : Table Nat} {a : PortAnswers}

theorem exec_settingCalls {config : Nat} (hconfig : t config ≠ .absent) (rs : List Bool) :
    Transition.exec Table.step t (settingCalls config rs) = some t := by
  induction rs with
  | nil => rfl
  | cons ok rest ih =>
    unfold settingCalls
    rw [Transition.exec_cons]
    cases ok with
    | true => simpa [Table.step, hconfig] using ih
    | false => simp [Table.step, hconfig]

/-- The table with a new port and a new configuration. -/
def withPort (t : Table Nat) (port config : Nat) : Table Nat :=
  (t.set port .opened).set config .closed

section newPort

variable {port config : Nat}

theorem withPort_config : withPort t port config config = .closed := Table.set_self _ _ _

theorem withPort_port (hne : port ≠ config) : withPort t port config port = .opened :=
  (Table.set_of_ne _ hne _).trans (Table.set_self t port .opened)

/-- A new port is opened. -/
theorem exec_open (hport : t port = .absent) :
    Transition.exec Table.step t [.alloc port, .opens port] = some (t.set port .opened) := by
  apply Transition.exec_cons_some.mpr
  refine ⟨t.set port .closed, Table.step_alloc hport, ?_⟩
  apply Transition.exec_cons_some.mpr
  refine ⟨t.set port .opened, ?_, rfl⟩
  rw [Table.step_opens (Table.set_self t port .closed)]
  exact congrArg some (Function.update_idem _ _ _)

theorem withPort_config_ne : withPort t port config config ≠ .absent := by
  rw [withPort_config]
  simp

theorem exec_setUp (hne : port ≠ config) (hport : t port = .absent) (hconfig : t config = .absent)
    (rs : List Bool) :
    Transition.exec Table.step t
      ([.alloc port, .opens port, .alloc config, .use port, .touch config] ++
        settingCalls config rs) = some (withPort t port config) := by
  apply Transition.exec_append_some.mpr
  refine ⟨withPort t port config, ?_, exec_settingCalls withPort_config_ne rs⟩
  show Transition.exec Table.step t
    ([.alloc port, .opens port] ++ [.alloc config, .use port, .touch config]) = _
  apply Transition.exec_append_some.mpr
  refine ⟨t.set port .opened, exec_open hport, ?_⟩
  have hnew : t.set port .opened config = .absent :=
    (Table.set_of_ne t (Ne.symm hne) _).trans hconfig
  apply Transition.exec_cons_some.mpr
  refine ⟨withPort t port config, Table.step_alloc hnew, ?_⟩
  apply Transition.exec_cons_some.mpr
  refine ⟨withPort t port config, Table.step_use (withPort_port hne), ?_⟩
  exact Transition.exec_cons_some.mpr ⟨_, Table.step_touch withPort_config_ne, rfl⟩

/-- The configuration is applied to the port. -/
theorem exec_setConfig (hne : port ≠ config) :
    Transition.exec Table.step (withPort t port config) [.use port, .touch config] =
      some (withPort t port config) := by
  apply Transition.exec_cons_some.mpr
  refine ⟨withPort t port config, Table.step_use (withPort_port hne), ?_⟩
  exact Transition.exec_cons_some.mpr ⟨_, Table.step_touch withPort_config_ne, rfl⟩

/-- A port that cannot be opened is given back. -/
theorem exec_openFailed (hport : t port = .absent) :
    Transition.exec Table.step t [.alloc port, .touch port, .free port] = some t := by
  have hclosed : t.set port .closed port = .closed := Table.set_self _ _ _
  have hknown : t.set port .closed port ≠ .absent := by
    rw [hclosed]
    simp
  apply Transition.exec_cons_some.mpr
  refine ⟨_, Table.step_alloc hport, ?_⟩
  apply Transition.exec_cons_some.mpr
  refine ⟨_, Table.step_touch hknown, ?_⟩
  apply Transition.exec_cons_some.mpr
  refine ⟨_, Table.step_free hclosed, ?_⟩
  exact congrArg some (Table.set_back hport .closed)

/-- A port without a configuration is closed and given back. -/
theorem exec_noConfig (hport : t port = .absent) :
    Transition.exec Table.step t
      [.alloc port, .opens port, .use port, .closes port, .free port] = some t := by
  have hopened : t.set port .opened port = .opened := Table.set_self _ _ _
  show Transition.exec Table.step t
    ([.alloc port, .opens port] ++ ([.use port] ++ [.closes port, .free port])) = _
  apply Transition.exec_append_some.mpr
  refine ⟨_, exec_open hport, ?_⟩
  apply Transition.exec_append_some.mpr
  refine ⟨_, Table.exec_replicate_use hopened 1, ?_⟩
  rw [Table.exec_release hopened]
  exact congrArg some (Table.set_back hport .opened)

/-- Giving both back leaves the table as it was. -/
theorem exec_giveBack (hne : port ≠ config) (hport : t port = .absent)
    (hconfig : t config = .absent) :
    Transition.exec Table.step (withPort t port config)
      [.free config, .closes port, .free port] = some t := by
  apply Transition.exec_cons_some.mpr
  refine ⟨_, Table.step_free withPort_config, ?_⟩
  have hopened : (withPort t port config).set config .absent port = .opened :=
    (Table.set_of_ne _ hne _).trans (withPort_port hne)
  rw [Table.exec_release hopened]
  apply congrArg some
  funext n
  simp only [withPort, Table.set_apply]
  split
  · next heq => rw [heq, hport]
  · split
    · next heq => rw [heq, hconfig]
    · rfl

end newPort

/-- Nothing new is known, and what is no longer held is lost. -/
theorem Tracks.of_perm {h' : PortHandles} {lost' : List Nat} (htracks : Tracks h lost t)
    (hperm : (h'.held ++ lost').Perm (h.held ++ lost))
    (hport : ∀ port, h'.serialPort = some port → h.serialPort = some port)
    (hconfig : ∀ config, h'.serialPortConfig = some config → h.serialPortConfig = some config)
    (hnext : h.next ≤ h'.next) : Tracks h' lost' t where
  port port hheld := htracks.port port (hport port hheld)
  config config hheld := htracks.config config (hconfig config hheld)
  known n := (htracks.known n).trans hperm.mem_iff.symm
  fresh n hn := htracks.fresh n (hnext.trans hn)
  nodup := hperm.nodup_iff.mpr htracks.nodup

/-- A `Connect` that overwrites the port only. -/
theorem Tracks.losePort (htracks : Tracks h lost t) {next : Nat} (hnext : h.next ≤ next) :
    Tracks { h with serialPort := none, next := next } (lost ++ h.serialPort.toList) t := by
  refine htracks.of_perm ?_ (by simp) ?_ hnext
  · show ((h.serialPortConfig.toList ++ []) ++ (lost ++ h.serialPort.toList)).Perm _
    rw [List.append_nil, held, List.append_assoc]
    exact List.perm_append_comm.append_left _
  · exact fun config hheld => hheld

/-- One that overwrites both. -/
theorem Tracks.loseBoth (htracks : Tracks h lost t) {next : Nat} (hnext : h.next ≤ next) :
    Tracks { h with serialPort := none, serialPortConfig := none, next := next }
      (lost ++ (h.serialPort.toList ++ h.serialPortConfig.toList)) t := by
  refine htracks.of_perm ?_ (by simp) (by simp) hnext
  show (([] ++ []) ++ (lost ++ (h.serialPort.toList ++ h.serialPortConfig.toList))).Perm _
  rw [List.append_nil, List.nil_append, held]
  exact List.perm_append_comm.trans (List.perm_append_comm.append_right _)

/-- A new port and a new configuration are held. -/
theorem Tracks.take (htracks : Tracks h lost t) (hheld : h.held = []) :
    Tracks { serialPort := some h.next, serialPortConfig := some (h.next + 1), next := h.next + 2 }
      lost (withPort t h.next (h.next + 1)) := by
  -- what was lost was given out before
  have hlost : ∀ n ∈ lost, n < h.next := by
    intro n hn
    by_contra hlate
    have hknown : t.Knows n := (htracks.known n).mpr (by simp [hn])
    exact hknown (htracks.fresh n (Nat.not_lt.mp hlate))
  have hknown : ∀ n, t.Knows n ↔ n ∈ lost := by
    intro n
    rw [htracks.known n, hheld, List.nil_append]
  constructor
  · rintro port heq
    obtain rfl := Option.some.inj heq
    exact withPort_port (by simp)
  · rintro config heq
    obtain rfl := Option.some.inj heq
    exact withPort_config
  · intro n
    simp only [withPort, Table.knows_set, hknown]
    simp only [held, Option.toList_some, List.cons_append, List.nil_append, List.mem_cons]
    by_cases hconfig : n = h.next + 1
    · simp [hconfig]
    · by_cases hport : n = h.next
      · simp [hport]
      · simp [hconfig, hport]
  · intro n hn
    have hn : h.next + 2 ≤ n := hn
    simp only [withPort, Table.set_apply]
    rw [if_neg (by omega), if_neg (by omega)]
    exact htracks.fresh n (by omega)
  · show ((h.next + 1) :: h.next :: lost).Nodup
    have hnodup : lost.Nodup := by
      have hall := htracks.nodup
      rwa [hheld] at hall
    simp only [List.nodup_cons, List.mem_cons, not_or]
    refine ⟨⟨by omega, fun hmem => ?_⟩, fun hmem => ?_, hnodup⟩
    · have hlt := hlost _ hmem
      omega
    · have hlt := hlost _ hmem
      omega

/-- **Connect**: the library accepts its calls. -/
theorem tracks_connect (htracks : Tracks h lost t) (a : PortAnswers) :
    ∃ t', Transition.exec Table.step t (h.connect a).2 = some t' ∧
      Tracks (h.connect a).1 (lost ++ h.abandoned a) t' := by
  have hport := htracks.fresh h.next (le_refl _)
  have hconfig := htracks.fresh (h.next + 1) (Nat.le_succ _)
  have hne : h.next ≠ h.next + 1 := by simp
  have hsetUp := exec_setUp hne hport hconfig a.settings
  have hback := exec_giveBack hne hport hconfig
  have hsetConfig := exec_setConfig (t := t) hne
  -- one case for each way in which it can end
  unfold connect abandoned
  dsimp only
  by_cases hname : a.getPortByName = true
  · by_cases hopen : a.openPort = true
    · -- from here on the old configuration is overwritten, too
      have hlost := htracks.loseBoth (Nat.le_succ h.next)
      have hlost' := htracks.loseBoth (Nat.le_add_right h.next 2)
      simp only [hname, hopen, Bool.and_self, not_true_eq_false, if_true, if_false]
      by_cases hnew : a.newConfig = true
      · by_cases hsettings : a.settings.all id = true
        · by_cases hset : a.setConfig = true
          · simp only [hnew, hsettings, hset, not_true_eq_false, if_false]
            refine ⟨withPort t h.next (h.next + 1), ?_, ?_⟩
            · apply Transition.exec_append_some.mpr
              refine ⟨_, hsetUp, ?_⟩
              show Transition.exec Table.step _
                ([.use h.next, .touch (h.next + 1)] ++ List.replicate 4 (.use h.next)) = _
              apply Transition.exec_append_some.mpr
              exact ⟨_, hsetConfig, Table.exec_replicate_use (withPort_port hne) 4⟩
            · -- the old handles are lost before the new ones are held
              exact (htracks.loseBoth (le_refl h.next)).take rfl
          · -- the settings are there, but the port does not take them
            simp only [hnew, hsettings, hset, not_true_eq_false, if_false]
            refine ⟨t, ?_, hlost'⟩
            apply Transition.exec_append_some.mpr
            refine ⟨_, ?_, hback⟩
            apply Transition.exec_append_some.mpr
            exact ⟨_, hsetUp, hsetConfig⟩
        · -- one of the settings fails
          simp only [hnew, hsettings, not_true_eq_false, if_false]
          refine ⟨t, ?_, hlost'⟩
          apply Transition.exec_append_some.mpr
          exact ⟨_, hsetUp, hback⟩
      · -- no memory for the configuration
        simp only [hnew]
        exact ⟨t, exec_noConfig hport, hlost⟩
    · simp only [hname, hopen, not_true_eq_false, not_false_eq_true, if_true, if_false,
        Bool.and_false, Bool.false_eq_true, List.append_nil]
      exact ⟨t, exec_openFailed hport, htracks.losePort (Nat.le_succ h.next)⟩
  · -- there is no such port, and the library is not called again
    simp only [hname, not_false_eq_true, if_true, Bool.false_and, Bool.false_eq_true, if_false,
      List.append_nil]
    exact ⟨t, rfl, htracks.losePort (le_refl h.next)⟩

/-- What is held was given back. -/
theorem Tracks.release (htracks : Tracks h lost t) {t' : Table Nat}
    (hknows : ∀ n, t'.Knows n ↔ t.Knows n ∧ n ∉ h.held) :
    Tracks { h with serialPort := none, serialPortConfig := none } lost t' := by
  obtain ⟨-, hlost, hapart⟩ := List.nodup_append'.mp htracks.nodup
  constructor
  · simp
  · simp
  · intro n
    show t'.Knows n ↔ n ∈ lost
    rw [hknows, htracks.known n, List.mem_append]
    constructor
    · rintro ⟨hheld | hlost, hnot⟩
      · exact absurd hheld hnot
      · exact hlost
    · intro hn
      exact ⟨Or.inr hn, fun hheld => hapart hheld hn⟩
  · intro n hn
    by_contra hknown
    exact ((hknows n).mp hknown).1 (htracks.fresh n hn)
  · exact hlost

/-- **Disconnect**: the library accepts its calls, and nothing is abandoned. -/
theorem tracks_disconnect (htracks : Tracks h lost t) (frames : Nat) :
    ∃ t', Transition.exec Table.step t (h.disconnect frames).2 = some t' ∧
      Tracks (h.disconnect frames).1 lost t' := by
  unfold disconnect
  cases hserial : h.serialPort with
  | none => exact ⟨t, rfl, htracks⟩
  | some port =>
    have hopened := htracks.port port hserial
    have huses := Table.exec_replicate_use hopened (frames + 6)
    cases hconfig : h.serialPortConfig with
    | none =>
      refine ⟨t.set port .absent, ?_, htracks.release ?_⟩
      · apply Transition.exec_append_some.mpr
        refine ⟨t, ?_, Table.exec_release hopened⟩
        simpa using huses
      · intro n
        simp only [Table.knows_set, held, hserial, hconfig, Option.toList_none,
          Option.toList_some, List.nil_append, List.mem_singleton]
        by_cases hn : n = port
        · simp [hn]
        · simp [hn]
    | some config =>
      have hclosed := htracks.config config hconfig
      have hknown : t config ≠ .absent := by simp [hclosed]
      -- one is open and the other is closed
      have hne : port ≠ config := by
        rintro rfl
        exact absurd (hopened.symm.trans hclosed) (by simp)
      have hstill : t.set config .absent port = .opened :=
        (Table.set_of_ne t hne _).trans hopened
      refine ⟨(t.set config .absent).set port .absent, ?_, htracks.release ?_⟩
      · apply Transition.exec_append_some.mpr
        refine ⟨t.set config .absent, ?_, Table.exec_release hstill⟩
        apply Transition.exec_append_some.mpr
        refine ⟨t, huses, ?_⟩
        exact Transition.exec_cons_some.mpr ⟨t, Table.step_use hopened,
          Transition.exec_cons_some.mpr ⟨t, Table.step_touch hknown,
            Transition.exec_cons_some.mpr ⟨_, Table.step_free hclosed, rfl⟩⟩⟩
      · intro n
        simp only [Table.knows_set, held, hserial, hconfig, Option.toList_some,
          List.cons_append, List.nil_append, List.mem_cons, List.not_mem_nil, or_false]
        by_cases hn : n = port
        · simp [hn]
        · by_cases hc : n = config
          · simp [hc]
          · simp [hn, hc]

/-- A configuration is held with its port only. -/
def Paired (h : PortHandles) : Prop := h.serialPort = none → h.serialPortConfig = none

/-- `Connect` holds a port if and only if it succeeds. -/
theorem isSome_connect (a : PortAnswers) (h : PortHandles) :
    (h.connect a).1.serialPort.isSome = a.succeeds := by
  unfold connect PortAnswers.succeeds
  cases hname : a.getPortByName with
  | false => simp
  | true =>
    cases hopen : a.openPort with
    | false => simp
    | true =>
      cases hnew : a.newConfig with
      | false => simp
      | true =>
        cases hsettings : a.settings.all id with
        | false => simp
        | true => cases hset : a.setConfig <;> simp

theorem paired_connect (hpaired : Paired h) (hclosed : h.serialPort = none) (a : PortAnswers) :
    Paired (h.connect a).1 := by
  have hconfig := hpaired hclosed
  intro hnone
  unfold connect at hnone ⊢
  dsimp only at hnone ⊢
  split
  · exact hconfig
  · split
    · exact hconfig
    · split
      · rfl
      · split
        · rfl
        · split
          · rfl
          · simp_all

theorem isSome_disconnect (frames : Nat) (h : PortHandles) :
    (h.disconnect frames).1.serialPort = none := by
  unfold disconnect
  split
  · assumption
  · rfl

theorem paired_disconnect (hpaired : Paired h) (frames : Nat) :
    Paired (h.disconnect frames).1 := by
  unfold disconnect
  split
  · exact hpaired
  · exact fun _ => rfl

end PortHandles

/-! ### Sequences of Calls -/

namespace PortObject

variable {P : Protocol} {W : Type} {port : SerialPort W} {s s' : PortObject P} {op : PortOp W}

/-- The flag of the model says whether `m_pSerialPort` is set. -/
def Agrees (s : PortObject P) : Prop := s.comm.portOpen = s.handles.serialPort.isSome

theorem agrees_step (hagrees : Agrees s) (hstep : s.step port op = some s') : Agrees s' := by
  cases op with
  | connect a =>
    obtain rfl := Option.some.inj hstep
    show (s.comm.connect a.succeeds).portOpen = (s.handles.connect a).1.serialPort.isSome
    rw [PortHandles.isSome_connect]
    unfold Comm.connect
    split
    · next hsucceeds => exact hsucceeds.symm
    · next hfails => exact (Bool.eq_false_iff.mpr hfails).symm
  | write context buffer w =>
    obtain rfl := Option.some.inj hstep
    obtain ⟨log, heq⟩ := Comm.writeBytes_eq port context buffer s.comm w
    show (s.comm.writeBytes port context buffer w).2.1.portOpen = _
    rw [heq]
    exact hagrees
  | disconnect w =>
    obtain rfl := Option.some.inj hstep
    show (s.comm.disconnect port w).portOpen =
      (s.handles.disconnect s.offFrames).1.serialPort.isSome
    rw [PortHandles.isSome_disconnect]
    unfold Comm.disconnect
    dsimp only
    split
    · rfl
    · next hclosed => exact Bool.eq_false_iff.mpr hclosed

/-- **Step lemma**: the library accepts what a call asks of it. -/
theorem tracks_step {lost : List Nat} {t : Table Nat} (htracks : s.handles.Tracks lost t)
    (hstep : s.step port op = some s') :
    ∃ t', Transition.exec Table.step t (s.calls op s') = some t' ∧
      s'.handles.Tracks (lost ++ s.abandons op s') t' := by
  cases op with
  | connect a =>
    obtain rfl := Option.some.inj hstep
    exact PortHandles.tracks_connect htracks a
  | write context buffer w =>
    obtain rfl := Option.some.inj hstep
    refine ⟨t, ?_, ?_⟩
    · show Transition.exec Table.step t (s.handles.serialPort.toList.map .use) = some t
      cases hserial : s.handles.serialPort with
      | none => rfl
      | some serial => exact Table.exec_replicate_use (htracks.port serial hserial) 1
    · show s.handles.Tracks (lost ++ []) t
      rw [List.append_nil]
      exact htracks
  | disconnect w =>
    obtain rfl := Option.some.inj hstep
    show ∃ t', _ ∧ (s.handles.disconnect s.offFrames).1.Tracks (lost ++ []) t'
    rw [List.append_nil]
    exact PortHandles.tracks_disconnect htracks s.offFrames

/-- **Run lemma**: so for every sequence. -/
theorem tracks_run {lost : List Nat} {t : Table Nat} (htracks : s.handles.Tracks lost t)
    {ops : List (PortOp W)} (hrun : Transition.exec (step port) s ops = some s') :
    ∃ t', Transition.exec Table.step t (portCalls port s ops) = some t' ∧
      s'.handles.Tracks (lost ++ portsAbandoned port s ops) t' := by
  unfold portCalls portsAbandoned
  induction ops generalizing s lost t with
  | nil =>
    obtain rfl : s = s' := by simpa using hrun
    exact ⟨t, rfl, by simpa [Transition.observe] using htracks⟩
  | cons op ops ih =>
    obtain ⟨s₁, hs₁, hrest⟩ := Transition.exec_cons_some.mp hrun
    obtain ⟨t₁, ht₁, htracks₁⟩ := tracks_step htracks hs₁
    obtain ⟨t', ht', htracks'⟩ := ih htracks₁ hrest
    rw [Transition.observe_cons ops hs₁, Transition.observe_cons ops hs₁, ← List.append_assoc]
    exact ⟨t', Transition.exec_append_some.mpr ⟨t₁, ht₁, ht'⟩, htracks'⟩

/-- `Connect` is called with the port closed only. -/
def connectsClosed (s : PortObject P) : PortOp W → Bool
  | .connect _ => !s.comm.portOpen
  | _ => true

/-- So nothing is abandoned. -/
theorem nothing_abandoned (hI : Agrees s ∧ s.handles.Paired)
    (hclosed : connectsClosed s op = true) (hstep : s.step port op = some s') :
    (Agrees s' ∧ s'.handles.Paired) ∧ s.abandons op s' = [] := by
  obtain ⟨hagrees, hpaired⟩ := hI
  have hagrees' := agrees_step hagrees hstep
  cases op with
  | connect a =>
    obtain rfl := Option.some.inj hstep
    have hnone : s.handles.serialPort = none := by
      have hopen : s.comm.portOpen = false := by simpa [connectsClosed] using hclosed
      rw [hagrees] at hopen
      simpa using hopen
    refine ⟨⟨hagrees', PortHandles.paired_connect hpaired hnone a⟩, ?_⟩
    simp [abandons, PortHandles.abandoned, hnone, hpaired hnone]
  | write context buffer w =>
    obtain rfl := Option.some.inj hstep
    exact ⟨⟨hagrees', hpaired⟩, rfl⟩
  | disconnect w =>
    obtain rfl := Option.some.inj hstep
    exact ⟨⟨hagrees', PortHandles.paired_disconnect hpaired _⟩, rfl⟩

/-- **Handles are accounted for**: in every sequence of calls on a new object
    libserialport accepts all it is asked; what it gave out and did not get
    back is what the object holds and what a `Connect` on an open port
    abandoned, each once.  If `Connect` is never called so, nothing is
    abandoned, and a closed object holds nothing. -/
theorem handles_accounted (port : SerialPort W) (c : Comm P) {ops : List (PortOp W)}
    (hrun : Transition.exec (step port) (constructed c) ops = some s) :
    (∃ t, Transition.exec Table.step .empty (portCalls port (constructed c) ops) = some t) ∧
      s.comm.portOpen = s.handles.serialPort.isSome ∧
      (s.handles.held ++ portsAbandoned port (constructed c) ops).Nodup ∧
      (∀ n, (portCalls port (constructed c) ops).count (.alloc n) =
        (portCalls port (constructed c) ops).count (.free n) +
          if n ∈ s.handles.held ++ portsAbandoned port (constructed c) ops then 1 else 0) ∧
      (Transition.Along (step port) (fun s op => connectsClosed s op = true) (constructed c) ops →
        portsAbandoned port (constructed c) ops = [] ∧
          (s.comm.portOpen = false → s.handles.held = [])) := by
  have hstart : (constructed c).handles.Tracks [] .empty :=
    ⟨by simp [constructed], by simp [constructed], by simp [constructed, PortHandles.held,
      Table.Knows, Table.empty], fun _ _ => rfl, by simp [constructed, PortHandles.held]⟩
  -- at first nothing is known and nothing is held
  obtain ⟨t, ht, htracks⟩ := tracks_run hstart hrun
  rw [List.nil_append] at htracks
  have hagrees : Agrees s := by
    refine Transition.exec_invariant (I := Agrees) ?_ ?_ hrun
    · exact fun _ _ _ hagrees hstep => agrees_step hagrees hstep
    · rfl
  refine ⟨⟨t, ht⟩, hagrees, htracks.nodup, ?_, ?_⟩
  · intro n
    have hcount := Table.count_alloc ht n
    simp only [htracks.known n] at hcount
    have hempty : ¬ Table.Knows (.empty : Table Nat) n := fun h => h rfl
    rw [if_neg hempty] at hcount
    omega
  · intro hclosed
    have hinit : Agrees (constructed c) ∧ (constructed c).handles.Paired := ⟨rfl, fun _ => rfl⟩
    constructor
    · apply List.eq_nil_iff_forall_not_mem.mpr
      refine Transition.forall_mem_observe (I := fun s => Agrees s ∧ s.handles.Paired)
        (Q := fun _ => False) ?_ hinit hclosed
      intro s op s' hI hguard hstep
      obtain ⟨hI', hnil⟩ := nothing_abandoned hI hguard hstep
      refine ⟨hI', ?_⟩
      rw [hnil]
      simp
    · intro hopen
      have hpaired : s.handles.Paired :=
        (Transition.exec_invariant_along (I := fun s => Agrees s ∧ s.handles.Paired)
          (fun _ _ _ hI hguard hstep => (nothing_abandoned hI hguard hstep).1) hinit hclosed
          hrun).2
      have hnone : s.handles.serialPort = none := by
        rw [hagrees] at hopen
        simpa using hopen
      unfold PortHandles.held
      rw [hnone, hpaired hnone]
      rfl

end PortObject

namespace Reference

open PortObject

/-- Everything succeeds. -/
def portReady : PortAnswers where
  getPortByName := true
  openPort := true
  newConfig := true
  setConfigBaudrate := true
  setConfigBits := true
  setConfigParity := true
  setConfigStopbits := true
  setConfigXonXoff := true
  setConfigFlowcontrol := true
  setConfig := true

/-- A `Connect` that fails on its flow control, one that succeeds, another one
    on the open port, and the end. -/
def connectsTwice : List (PortOp Script) :=
  [.connect { portReady with setConfigFlowcontrol := false }, .connect portReady,
    .connect portReady, .disconnect {}]

theorem handles_accounted_twice :
    portsAbandoned port (constructed mappedComm) connectsTwice = [2, 3] ∧
      ∀ n, (portCalls port (constructed mappedComm) connectsTwice).count (.alloc n) =
        (portCalls port (constructed mappedComm) connectsTwice).count (.free n) +
          if n ∈ [2, 3] then 1 else 0 := by
  have habandoned : portsAbandoned port (constructed mappedComm) connectsTwice = [2, 3] := by
    decide +kernel
  have hrun : (Transition.exec (step port) (constructed mappedComm) connectsTwice).isSome =
      true := by
    decide +kernel
  obtain ⟨s, hs⟩ := Option.isSome_iff_exists.mp hrun
  have hheld : (Transition.exec (step port) (constructed mappedComm) connectsTwice).map
      (fun s => s.handles.held) = some [] := by
    decide +kernel
  rw [hs, Option.map_some] at hheld
  have hheld : s.handles.held = [] := Option.some.inj hheld
  refine ⟨habandoned, ?_⟩
  have haccounts := (handles_accounted port mappedComm hs).2.2.2.1
  rw [habandoned, hheld] at haccounts
  exact haccounts

end Reference

end LibPpuc
