/-
# CANopen types and the application around the stack

The codes and structures of `canopen_types.h`, with the variables that a
dictionary points to as the blocks of a memory. Multi-byte variables are stored
low byte first, as the target does. The application provides the transmitter and
the hooks; each is a function of a world of its own, and its calls are recorded.
This record is an observation of the model, not a variable of the program.
-/

import AutomationBoard.Modbus.Types
import AutomationBoard.Program.Memory

namespace AutomationBoard.Canopen

open AutomationBoard.Modbus (word hiByte loByte)
open AutomationBoard.Program

/-- `UNS8`. -/
abbrev Byte := BitVec 8

/-- `UNS16` and, in two's complement, `INTEGER16`. -/
abbrev Word := BitVec 16

/-- `UNS32`. -/
abbrev Long := BitVec 32

/-! ## Values as bytes -/

/-- The byte `i` places up. -/
def longByte (value : Long) (i : ℕ) : Byte := (value >>> (8 * i) &&& 0xFF).setWidth 8

/-- A `UNS16` in memory. -/
def wordBytes (value : Word) : List Byte := [loByte value, hiByte value]

/-- A `UNS32` in memory. -/
def longBytes (value : Long) : List Byte :=
  [longByte value 0, longByte value 1, longByte value 2, longByte value 3]

@[simp]
theorem length_wordBytes (value : Word) : (wordBytes value).length = 2 := rfl

@[simp]
theorem length_longBytes (value : Long) : (longBytes value).length = 4 := rfl

theorem toNat_longByte (value : Long) (i : ℕ) :
    (longByte value i).toNat = value.toNat / 2 ^ (8 * i) % 2 ^ 8 := by
  have hmask : (value >>> (8 * i) &&& 0xFF).toNat = value.toNat / 2 ^ (8 * i) % 2 ^ 8 := by
    rw [BitVec.toNat_and, BitVec.toNat_ushiftRight, Nat.shiftRight_eq_div_pow]
    exact Nat.and_two_pow_sub_one_eq_mod _ 8
  rw [longByte, BitVec.toNat_setWidth, hmask, Nat.mod_mod]

/-! ## Codes -/

/-- `canopen_nmt_state_t`. -/
inductive NmtState
  | initialisation
  | stopped
  | operational
  | preOperational
  deriving DecidableEq

/-- The `NMT_STATE_*` values. -/
def NmtState.code : NmtState → Byte
  | initialisation => 0x00
  | stopped => 0x04
  | operational => 0x05
  | preOperational => 0x7F

/-- The NMT command specifiers. -/
inductive NmtCommand
  | startNode
  | stopNode
  | enterPreOperational
  | resetNode
  | resetCommunication
  deriving DecidableEq

namespace NmtCommand

/-- The `NMT_CMD_*` values. -/
def code : NmtCommand → Byte
  | startNode => 0x01
  | stopNode => 0x02
  | enterPreOperational => 0x80
  | resetNode => 0x81
  | resetCommunication => 0x82

/-- The command a `switch` on a specifier selects; `none` is its `default`. -/
def ofByte (b : Byte) : Option NmtCommand :=
  [startNode, stopNode, enterPreOperational, resetNode, resetCommunication].find? (·.code == b)

@[simp]
theorem ofByte_code (command : NmtCommand) : ofByte command.code = some command := by
  cases command <;> rfl

end NmtCommand

/-- The SDO abort codes that the stack raises. -/
inductive SdoAbort
  | toggleBitNotAlternated
  | cmdSpecifierInvalid
  | unsupportedAccess
  | readNotAllowed
  | writeNotAllowed
  | noSuchObject
  | dataLengthTooHigh
  | dataLengthTooShort
  | noSuchSubindex
  | generalError
  deriving DecidableEq

/-- The `SDO_ABORT_*` values. `OD_SUCCESSFUL` is none of them. -/
def SdoAbort.code : SdoAbort → Long
  | toggleBitNotAlternated => 0x05030000
  | cmdSpecifierInvalid => 0x05040001
  | unsupportedAccess => 0x06010000
  | readNotAllowed => 0x06010001
  | writeNotAllowed => 0x06010002
  | noSuchObject => 0x06020000
  | dataLengthTooHigh => 0x06070012
  | dataLengthTooShort => 0x06070013
  | noSuchSubindex => 0x06090011
  | generalError => 0x08000000

/-! ## Identifiers -/

/-- `CANOPEN_COB_NMT`. -/
def cobNmt : ℕ := 0x000

/-- `CANOPEN_COB_SYNC`. -/
def cobSync : ℕ := 0x080

/-- `CANOPEN_COB_TPDO1_BASE`. -/
def cobTpdo1Base : ℕ := 0x180

/-- `CANOPEN_COB_RPDO1_BASE`. -/
def cobRpdo1Base : ℕ := 0x200

/-- `CANOPEN_COB_TPDO2_BASE`. -/
def cobTpdo2Base : ℕ := 0x280

/-- `CANOPEN_COB_RPDO2_BASE`. -/
def cobRpdo2Base : ℕ := 0x300

/-- `CANOPEN_COB_TSDO_BASE`. -/
def cobTsdoBase : ℕ := 0x580

/-- `CANOPEN_COB_RSDO_BASE`. -/
def cobRsdoBase : ℕ := 0x600

/-- `CANOPEN_COB_HEARTBEAT_BASE`. -/
def cobHeartbeatBase : ℕ := 0x700

/-! ## Frames -/

/-- `canopen_frame_t`. Its `len` is the length of the payload. -/
@[ext]
structure CanopenFrame where
  cobId : ℕ
  data : List Byte
  rtr : Byte
  deriving DecidableEq

/-- A data frame. -/
def dataFrame (cobId : ℕ) (data : List Byte) : CanopenFrame := ⟨cobId, data, 0⟩

/-! ## Variables -/

/-- The variables of `canopen_od.c`, and those of an application that brings a
dictionary of its own. -/
inductive Variable
  | obj1000
  | obj1001
  | obj1008
  | obj1009
  | obj100A
  | obj1017
  | obj1018HighestSubIndex
  | obj1018VendorId
  | obj1018ProductCode
  | obj1018RevisionNumber
  | obj1018SerialNumber
  | obj1400HighestSubIndex
  | obj1400CobId
  | obj1400TransmissionType
  | obj1401HighestSubIndex
  | obj1401CobId
  | obj1401TransmissionType
  | obj1600HighestSubIndex
  | obj1600Map1
  | obj1601HighestSubIndex
  | obj1601Map1
  | obj1601Map2
  | obj1800HighestSubIndex
  | obj1800CobId
  | obj1800TransmissionType
  | obj1800InhibitTime
  | obj1800Reserved
  | obj1800EventTimer
  | obj1801HighestSubIndex
  | obj1801CobId
  | obj1801TransmissionType
  | obj1801InhibitTime
  | obj1801Reserved
  | obj1801EventTimer
  | obj1A00HighestSubIndex
  | obj1A00Map1
  | obj1A01HighestSubIndex
  | obj1A01Map1
  | obj1A01Map2
  | obj1A01Map3
  | obj1A01Map4
  | obj6000HighestSubIndex
  | obj6000DiState
  | obj6200HighestSubIndex
  | obj6200DoState
  | obj6401HighestSubIndex
  | obj6401Ai
  | obj6411HighestSubIndex
  | obj6411Ao
  | custom (n : ℕ)
  deriving DecidableEq

/-- A pointer to a variable or into one. -/
abbrev Ptr := Pointer Variable

/-- The contents of all variables. -/
abbrev Mem := Memory Variable Byte

/-- `&v`. -/
def Variable.addr (v : Variable) : Ptr := ⟨v, 0⟩

/-- `canopen_automation_vars_t`. -/
structure AutomationVars where
  pDigitalInputs : Ptr
  pDigitalOutputs : Ptr
  pAnalogInputs : Ptr
  pAnalogOutputs : Ptr
  pHeartbeatProducerMs : Ptr
  pErrorRegister : Ptr
  deriving DecidableEq

/-- `canopen_default_od_get_vars`. -/
def canopenDefaultOdGetVars : AutomationVars where
  pDigitalInputs := Variable.obj6000DiState.addr
  pDigitalOutputs := Variable.obj6200DoState.addr
  pAnalogInputs := Variable.obj6401Ai.addr
  pAnalogOutputs := Variable.obj6411Ao.addr
  pHeartbeatProducerMs := Variable.obj1017.addr
  pErrorRegister := Variable.obj1001.addr

/-- The element `i` of an `INTEGER16` array. -/
def elementAt (array : Ptr) (i : ℕ) : Ptr := array.add (2 * i)

/-- The `INTEGER16` at `p`. -/
def loadWord (mem : Mem) (p : Ptr) : Word := word (mem.cell (p.add 1)) (mem.cell p)

/-- An `INTEGER16` as two bytes reads as it was stored. -/
theorem read_two (mem : Mem) (p : Ptr) : mem.read p 2 = wordBytes (loadWord mem p) := by
  rw [wordBytes, loadWord, Modbus.loByte_word, Modbus.hiByte_word]
  rfl

/-! ## The application -/

/-- The inputs that `canopen_app_sync_inputs` hands to the accessors: the weak
default hands over none. -/
structure InputRefresh where
  digital : Option Byte
  analog : ℕ → Option Word

/-- What the stack calls: the transmitter, the two synchronisation hooks, and the
post-write callback if one is registered. -/
structure Application (ω : Type) where
  txFunc : CanopenFrame → ω → ℤ × ω
  appSyncInputs : ω → InputRefresh × ω
  appSyncOutputs : Mem → ω → ω
  postWriteCb : Option (Word → Byte → List Byte → ω → ω)

/-- An application that keeps the weak hooks and whose transmitter accepts every frame. -/
def weakApplication : Application Unit where
  txFunc := fun _ _ => (0, ())
  appSyncInputs := fun _ => (⟨none, fun _ => none⟩, ())
  appSyncOutputs := fun _ _ => ()
  postWriteCb := none

/-- A call of the application. That of the transmitter is recorded with what it
returned and with the variables as they were. -/
inductive AppCall
  | transmit (frame : CanopenFrame) (ret : ℤ) (mem : Mem)
  | syncInputs
  | syncOutputs
  | postWrite (index : Word) (bSubindex : Byte) (data : List Byte)

/-- The frame a call transmits. -/
def AppCall.frame? : AppCall → Option CanopenFrame
  | .transmit frame _ _ => some frame
  | _ => none

/-- The frames transmitted, in order. -/
def sentFrames (calls : List AppCall) : List CanopenFrame := calls.filterMap AppCall.frame?

/-- The variables, the application's world, and the calls made so far. -/
structure Device (ω : Type) where
  mem : Mem
  world : ω
  calls : List AppCall

namespace Device

variable {ω : Type} (app : Application ω)

/-- `tx_func(&frame)`. -/
def transmit (frame : CanopenFrame) (dev : Device ω) : ℤ × Device ω :=
  let r := app.txFunc frame dev.world
  (r.1, { dev with world := r.2, calls := dev.calls ++ [.transmit frame r.1 dev.mem] })

/-- `tx_func(&frame)` where the result is not used. -/
def send (frame : CanopenFrame) (dev : Device ω) : Device ω := (dev.transmit app frame).2

/-- `canopen_app_sync_outputs()`. -/
def syncOutputs (dev : Device ω) : Device ω :=
  { dev with
    world := app.appSyncOutputs dev.mem dev.world
    calls := dev.calls ++ [.syncOutputs] }

/-- `if (s_post_write_cb != NULL) { s_post_write_cb(index, bSubindex, pSrc, size); }`. -/
def notifyWrite (index : Word) (bSubindex : Byte) (data : List Byte) (dev : Device ω) :
    Device ω :=
  match app.postWriteCb with
  | none => dev
  | some cb =>
      { dev with
        world := cb index bSubindex data dev.world
        calls := dev.calls ++ [.postWrite index bSubindex data] }

/-- `memcpy(p, bytes, size)`. -/
def store (p : Ptr) (bytes : List Byte) (dev : Device ω) : Device ω :=
  { dev with mem := dev.mem.write p bytes }

end Device

end AutomationBoard.Canopen
