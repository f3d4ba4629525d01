/-
# The master on the RS485 port

`modbus_master_rtu.c`. The port is shared with the slave: while `s_waiting` is
set, the receive callback hands the frames of the line to the master. What the
line and the clock do during a transaction is given with it; the wait for a
response takes one entry of it for each pass through its loop.
-/

import AutomationBoard.Modbus.Transport

namespace AutomationBoard.Modbus

/-- `rs485_status_t`. -/
inductive Rs485Status
  | ok
  | error
  | busy
  | timeout
  deriving DecidableEq

/-- `s_waiting`, `s_frame_ready`, and `s_frame` with `s_frame_len`. -/
structure MasterRtu where
  waiting : Byte
  frameReady : Byte
  frame : List Byte

/-- A pass through the loop of `master_rtu_recv`: `sys_tick` as its condition
reads it, and the frames that `rs485_process` hands to the receive callback. -/
structure LinePass where
  sysTick : BitVec 32
  frames : List (List Byte)

/-- What the port does in a transaction: the status of `rs485_send`, `sys_tick`
when the wait begins, and the passes through its loop until the time is up. -/
structure Rs485Line where
  sendStatus : Rs485Status
  start : BitVec 32
  passes : List LinePass

/-- `modbus_master_rtu_is_waiting`. -/
def modbusMasterRtuIsWaiting (s : MasterRtu) : Byte := s.waiting

/-- `modbus_master_rtu_on_frame`. -/
def modbusMasterRtuOnFrame (s : MasterRtu) (data : List Byte) : MasterRtu :=
  if data.length = 0 ∨ s.waiting = 0 then s
  else { s with frameReady := 1, frame := data.take rtuFrameMax }

/-- `master_rtu_flush`. -/
def masterRtuFlush (_ : MasterRtu) : MasterRtu where
  waiting := 1
  frameReady := 0
  frame := []

/-- `master_rtu_delay_t35`. -/
def masterRtuDelayT35 (s : MasterRtu) : MasterRtu := { s with waiting := 1 }

/-- `master_rtu_send`. -/
def masterRtuSend (line : Rs485Line) (adu : List Byte) (s : MasterRtu) :
    ModbusStatus × MasterRtu :=
  let s := { s with waiting := 1, frameReady := 0 }
  if adu.length = 0 then (.error, s)
  else (if line.sendStatus = .ok then .ok else .error, s)

/-- The loop of `master_rtu_recv`. -/
def masterRtuWait (start : BitVec 32) (maxLen timeoutMs : ℕ) :
    List LinePass → MasterRtu → (ModbusStatus × List Byte) × MasterRtu
  | [], s => ((.timeout, []), s)
  | pass :: passes, s =>
      if (pass.sysTick - start).toNat < timeoutMs then
        let s := pass.frames.foldl modbusMasterRtuOnFrame s
        if s.frameReady ≠ 0 then
          ((.ok, s.frame.take maxLen), { s with frameReady := 0, frame := [] })
        else masterRtuWait start maxLen timeoutMs passes s
      else ((.timeout, []), s)

/-- `master_rtu_recv`. -/
def masterRtuRecv (line : Rs485Line) (maxLen timeoutMs : ℕ) (s : MasterRtu) :
    (ModbusStatus × List Byte) × MasterRtu :=
  if maxLen = 0 then ((.error, []), s)
  else masterRtuWait line.start maxLen timeoutMs line.passes { s with waiting := 1 }

/-- `master_rtu_end`. -/
def masterRtuEnd (_ : MasterRtu) : MasterRtu where
  waiting := 0
  frameReady := 0
  frame := []

/-- The transport that `modbus_master_rtu_init` binds the master to. -/
def masterRtuTransport (line : Rs485Line) : MasterTransport MasterRtu :=
  .full (masterRtuSend line) (masterRtuRecv line) masterRtuDelayT35 masterRtuFlush masterRtuEnd

end AutomationBoard.Modbus
