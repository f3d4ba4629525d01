/-
# The RTU slave

`modbus_rtu_process`: the envelope checks of a serial frame, the four
dispatchers behind it, the bookkeeping after them and the response frame. The
state of a slave is everything the firmware keeps between two frames. A run of
the slave is a sequence of frames, each answered by a status and the bytes of
`tx_buf` below `*tx_len`.
-/

import AutomationBoard.Modbus.Crc
import AutomationBoard.Modbus.Diag
import AutomationBoard.Modbus.Pdu

namespace AutomationBoard.Modbus

open AutomationBoard.Program

/-- `MODBUS_RTU_FRAME_MAX`. -/
def rtuFrameMax : ℕ := 256

/-- `modbus_server_id`. -/
def modbusServerId : List Byte := ascii "STM32-Automation-Board"

/-- What the firmware keeps between two frames. -/
structure Slave (cfg : Config) where
  slaveId : Byte
  tcpUnitId : Byte
  hooks : SyncHooks cfg
  env : PduEnv cfg
  line : LineState

/-- What one call leaves to its caller: the status, and the frame to send. -/
structure Outcome where
  status : ModbusStatus
  tx : List Byte
  deriving DecidableEq

variable {cfg : Config}

namespace Slave

/-- Listen-only mode is on. -/
def listenOnly (s : Slave cfg) : Bool := s.line.diag.listenOnly

/-- Change the serial-line state. -/
def updateLine (s : Slave cfg) (f : LineState → LineState) : Slave cfg :=
  { s with line := f s.line }

end Slave

/-- The firmware's static data before any code has run, with the given hooks
registered. -/
def Slave.powerOn (hooks : SyncHooks cfg) : Slave cfg where
  slaveId := 1
  tcpUnitId := 1
  hooks := hooks
  env := ⟨Store.powerOn cfg, []⟩
  line := ⟨⟨0, 0, 0, 0, 0, 0, 0, false⟩, ⟨0, Vector.replicate _ 0, 0, Nat.zero_le _⟩⟩

/-- `modbus_rtu_init`. -/
def modbusRtuInit (slaveId : Byte) (s : Slave cfg) : Slave cfg :=
  { s with
    slaveId := slaveId
    env := { s.env with store := Store.init cfg s.env.store }
    line := ⟨s.line.diag.reset, s.line.event.reset⟩ }

/-- `modbus_report_server_id_process`, with the bytes it writes to `tx_pdu`. -/
def modbusReportServerIdProcess (rxPduLen : ℕ) : List Byte :=
  if rxPduLen ≠ 1 then exceptionPdu FunctionCode.reportServerId.code .illegalDataValue
  else
    let idLen := uint8 modbusServerId.length
    FunctionCode.reportServerId.code :: BitVec.ofNat 8 (idLen + 1) ::
      (modbusServerId.take idLen ++ [0xFF])

/-- A buffer after a response was written at its start. -/
def overwrite (buffer out : List Byte) : List Byte := out ++ buffer.drop out.length

/-- The two fetch commands, 0x0B and 0x0C. -/
def isFetch (fc : Byte) : Bool :=
  fc = FunctionCode.getCommEventCounter.code || fc = FunctionCode.getCommEventLog.code

/-- `resets_events`: the diagnostic commands that reset the event counter. -/
def resetsEvents (pdu : List Byte) : Bool :=
  byteAt pdu 0 = FunctionCode.diagnostics.code && pdu.length ≥ 3 &&
    (wordAt pdu 1 = DiagSub.restartComm.code || wordAt pdu 1 = DiagSub.clearCounters.code)

/-- `modbus_pdu_process` on the state of the slave: the status, `tx_pdu` and
`tx_pdu_len` after it. -/
def callPduProcess (pdu : List Byte) (isBroadcast : Bool) (txPdu : List Byte) :
    Checked Fault (Slave cfg) (ModbusStatus × List Byte × ℕ) := do
  let s ← get
  match (modbusPduProcess s.hooks pdu isBroadcast).run ⟨s.env, txPdu⟩ with
  | .error fault => throw fault
  | .ok ((status, txPduLen), x) => do
      set { s with env := x.env }
      pure (status, x.tx, txPduLen.getD 0)

/-- The choice between the dispatchers: the status, `tx_pdu` and `tx_pdu_len`
after it. -/
def rtuDispatch (pdu : List Byte) (isBroadcast : Bool) (txPdu : List Byte) :
    Checked Fault (Slave cfg) (ModbusStatus × List Byte × ℕ) := do
  let s ← get
  let fc := byteAt pdu 0
  if fc = FunctionCode.diagnostics.code then do
    let r := modbusDiagProcess pdu isBroadcast s.line
    set { s with line := r.2 }
    pure (.ok, overwrite txPdu r.1, r.1.length)
  else if isFetch fc then
    if s.listenOnly then pure (.ok, txPdu, 0)
    else
      let out := modbusEventProcess pdu isBroadcast s.line.event
        (s.line.diag.counterRead .slaveMessageCount)
      pure (.ok, overwrite txPdu out, out.length)
  else if fc = FunctionCode.reportServerId.code then
    if s.listenOnly ∨ isBroadcast then pure (.ok, txPdu, 0)
    else
      let out := modbusReportServerIdProcess pdu.length
      pure (.ok, overwrite txPdu out, out.length)
  else if s.listenOnly then pure (.ok, txPdu, 0)
  else callPduProcess pdu isBroadcast txPdu

/-- The bookkeeping after the dispatcher. -/
def rtuBookkeeping (pdu : List Byte) (isBroadcast : Bool) (txPdu : List Byte) (txPduLen : ℕ)
    (line : LineState) : LineState :=
  let fetch := isFetch (byteAt pdu 0)
  let responded : Bool := txPduLen > 0
  let exceptionRaised : Bool := byteAt txPdu 0 &&& 0x80 ≠ 0
  let broadcastExecuted : Bool := isBroadcast && byteAt txPdu 0 ≠ 0
  let line := line.noteResult responded (responded && exceptionRaised)
  let line :=
    if ¬ fetch ∧ responded then
      { line with event := line.event.noteTx (if exceptionRaised then byteAt txPdu 1 else 0) }
    else line
  if ¬ fetch ∧ ¬ exceptionRaised ∧ ¬ resetsEvents pdu ∧ ¬ line.diag.listenOnly ∧
      (responded ∨ broadcastExecuted) then
    { line with event := line.event.noteSuccess }
  else line

/-- A frame around a PDU: slave id, PDU, CRC with the low byte first. -/
def rtuFrame (slaveId : Byte) (pdu : List Byte) : List Byte :=
  let crc := crc16 (slaveId :: pdu)
  slaveId :: pdu ++ [loByte crc, hiByte crc]

/-- `rx_crc`: the CRC field of a frame, low byte first. -/
def frameCrc (rx : List Byte) : Word :=
  word (byteAt rx (rx.length - 1)) (byteAt rx (rx.length - 2))

/-- `rx_pdu` with its length: the frame without address and CRC. -/
def framePdu (rx : List Byte) : List Byte := (rx.drop 1).take (rx.length - 3)

/-- `modbus_rtu_process` from `modbus_diag_note_slave_message` on: the frame is
for this slave. -/
def rtuAddressed (pdu : List Byte) (isBroadcast : Bool) : Checked Fault (Slave cfg) Outcome := do
  modify fun s => s.updateLine LineState.noteSlaveMessage
  let r ← rtuDispatch pdu isBroadcast (List.replicate rtuFrameMax 0)
  let (status, txPdu, txPduLen) := r
  if status ≠ .ok then pure ⟨status, []⟩
  else do
    modify fun s => s.updateLine (rtuBookkeeping pdu isBroadcast txPdu txPduLen)
    let s ← get
    if txPduLen = 0 then pure ⟨.ok, []⟩
    else if txPduLen > 253 ∨ 1 + txPduLen + 2 > rtuFrameMax then pure ⟨.error, []⟩
    else pure ⟨.ok, rtuFrame s.slaveId (txPdu.take txPduLen)⟩

/-- `modbus_rtu_process`. -/
def modbusRtuProcess (rx : List Byte) : Checked Fault (Slave cfg) Outcome := do
  if rx.length < 4 ∨ rx.length > rtuFrameMax then pure ⟨.error, []⟩
  else if frameCrc rx ≠ crc16 (rx.take (rx.length - 2)) then do
    modify fun s => s.updateLine LineState.noteCommError
    pure ⟨.crcError, []⟩
  else do
    modify fun s => s.updateLine LineState.noteBusMessage
    let s ← get
    let slaveAddr := byteAt rx 0
    if slaveAddr ≠ s.slaveId ∧ slaveAddr ≠ 0 then pure ⟨.ok, []⟩
    else rtuAddressed (framePdu rx) (slaveAddr = 0)

end AutomationBoard.Modbus
