import LibPpuc.Comm.Ownership
import LibPpuc.Startup.Attempt

/-! # The Switch Setup of a Session

  `Comm.switchStore` is what polling and virtual switches work on: boards,
  ownership masks, mappings, virtualized boards, the switch bitmap and its
  events.  Sending config events leaves all of it alone; it only adds the
  boards that acknowledge to the present ones.
-/

namespace LibPpuc

/-- The members that polling and virtual switches work on. -/
structure SwitchStore (P : Protocol) where
  portOpen : Bool
  switchBoards : List UInt8
  configuredBoards : List UInt8
  switchNumbersByBoard : Map UInt8 (List UInt16)
  switchOwnershipMaskByBoard : UInt8 → Vector UInt8 P.kMaxSwitchBytes
  virtualSwitchBoards : Map UInt8 VirtualSwitchBoardState
  virtualSwitchOwnerByNumber : Map UInt16 UInt8
  runtimeConfig : RuntimeConfig
  switchIndexToNumber : List UInt16
  switchNumberToIndex : Map UInt16 Nat
  switchBitmap : Vector UInt8 P.kMaxSwitchBytes
  switches : List PPUCSwitchState
  boardPresenceFinalized : Bool

namespace Comm

variable {P : Protocol} {W : Type}

def switchStore (c : Comm P) : SwitchStore P where
  portOpen := c.portOpen
  switchBoards := c.switchBoards
  configuredBoards := c.configuredBoards
  switchNumbersByBoard := c.switchNumbersByBoard
  switchOwnershipMaskByBoard := c.switchOwnershipMaskByBoard
  virtualSwitchBoards := c.virtualSwitchBoards
  virtualSwitchOwnerByNumber := c.virtualSwitchOwnerByNumber
  runtimeConfig := c.runtimeConfig
  switchIndexToNumber := c.switchIndexToNumber
  switchNumberToIndex := c.switchNumberToIndex
  switchBitmap := c.switchBitmap
  switches := c.switches
  boardPresenceFinalized := c.boardPresenceFinalized

/-- The switch setup is part of it. -/
theorem switchSetup_of_switchStore {c c' : Comm P} (h : c'.switchStore = c.switchStore) :
    c'.switchSetup = c.switchSetup :=
  (congrArg (fun st : SwitchStore P =>
    (⟨st.switchBoards, st.switchNumbersByBoard, st.switchOwnershipMaskByBoard, st.runtimeConfig,
      st.switchIndexToNumber, st.switchNumberToIndex⟩ : SwitchSetup P)) h :)

theorem switchStore_sendConfigEvent (port : SerialPort W) (event : ConfigEvent) (c : Comm P)
    (w : W) : (c.sendConfigEvent port event w).comm.switchStore = c.switchStore := by
  obtain ⟨part, heq⟩ := sendConfigEvent_eq port event c w
  rw [heq]
  rfl

/-- A board is present from its first ack on. -/
theorem presentBoards_sendConfigEvent (hcarries : P.CarriesTuple) (port : SerialPort W)
    (event : ConfigEvent) (c : Comm P) (w : W) :
    (c.sendConfigEvent port event w).comm.presentBoards =
      if (c.sendConfigEvent port event w).outcome = .acknowledged then
        insert event.boardId c.presentBoards
      else c.presentBoards := by
  have htuple : tupleOf (c.configFrame event) = event.tuple := hcarries _ _ _ event
  have heffect := sendConfigEvent_effect port event c w
  generalize c.sendConfigEvent port event w = r at heffect ⊢
  cases heffect with
  | noPort | abortedEarly | skipped | writeFailed => rfl
  | acknowledged =>
    rw [if_pos rfl, htuple]
    rfl
  | unacknowledged =>
    rw [if_neg (by simp)]
    exact (noteConfigMiss_kept port _ _ _).2.2.2

end Comm

end LibPpuc
