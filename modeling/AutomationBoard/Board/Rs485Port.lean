/-
# The RS485 port

`rs485.c`, with `rs485_modbus_rx_callback` and `SysTick_Handler` of `main.c` and
the hooks of `modbus_master_rtu.c`. The main thread works off a list of actions,
and a function that calls others is replaced by its calls; the interrupts of the
UART and of the tick come between any two of them. Some functions that do not lock
the interrupts out all the way are one step all the same: a byte that comes within
`rtu_framer_process` or `rtu_framer_tx_begin` is taken to come before or after it,
and so is an overrun within `modbus_rtu_process`, which adds to counters and to the
event log. The engine reads the true time from `rtu_time_us`.
-/

import AutomationBoard.Modbus.LineLedger
import AutomationBoard.Modbus.MasterRtu
import AutomationBoard.Serial.RtuFramer

namespace AutomationBoard.Board

open AutomationBoard.Modbus AutomationBoard.Program AutomationBoard.Serial

/-! ## The main thread -/

/-- The arguments of `modbus_master_transaction`. -/
structure MasterCall where
  slaveId : Byte
  reqPdu : List Byte
  respMax : Option ℕ
  timeoutMs : ℕ
  deriving DecidableEq

/-- What the main thread does at the port. A wait is taken a pass at a time. -/
inductive PortAction
  /-- `rs485_process`, up to the callback. -/
  | process
  /-- `rs485_modbus_rx_callback`. -/
  | callback (data : List Byte)
  /-- `rs485_flush_rx`. -/
  | flushRx
  /-- `rs485_delay_t35`, up to its loop. -/
  | delayT35
  /-- The loop of `rtu_framer_delay_t35`. -/
  | spin (start : Dword)
  /-- `RS485_TX_ENABLE`. -/
  | txEnable
  /-- `RS485_RX_ENABLE`. -/
  | rxEnable
  /-- `rs485_send`. -/
  | send (data : List Byte)
  /-- `rtu_framer_tx_begin`. -/
  | txBegin
  /-- `HAL_UART_Transmit`. -/
  | transmit (data : List Byte)
  /-- `master_rtu_flush`. -/
  | masterFlush
  /-- `master_rtu_delay_t35`. -/
  | masterDelayT35
  /-- `master_rtu_send`. -/
  | masterSend (adu : List Byte)
  /-- What `modbus_master_transaction` makes of the status of `send`. -/
  | masterSent (call : MasterCall)
  /-- `master_rtu_recv`, up to its loop. -/
  | masterRecv (call : MasterCall)
  /-- The condition of the loop of `master_rtu_recv`. -/
  | masterWait (call : MasterCall) (start : Dword)
  /-- The rest of a pass through that loop. -/
  | masterLook (call : MasterCall) (start : Dword)
  /-- `modbus_master_transaction` after a frame. -/
  | masterFrame (call : MasterCall) (frame : List Byte)
  /-- `modbus_master_transaction` without one. -/
  | masterEnd (status : ModbusStatus)
  deriving DecidableEq

/-- What an observer of the port sees. -/
inductive PortOutput
  /-- A call is begun; the frame that it is to send. -/
  | called (adu : Option (List Byte))
  /-- A delay begins. -/
  | rests
  /-- What has been received is discarded. -/
  | cleared
  /-- Bytes leave the UART. -/
  | sent (data : List Byte) (status : Rs485Status)
  /-- A frame is given to the slave, with the response. -/
  | served (rx tx : List Byte)
  /-- A frame is given to the master. -/
  | handed (rx : List Byte)
  /-- `sys_tick` when the wait for a response begins. -/
  | started (sysTick : Dword)
  /-- `sys_tick` in the condition of the wait. -/
  | passed (sysTick : Dword)
  /-- The transaction is over. -/
  | returned (result : Transacted)
  deriving DecidableEq

/-- The port: the framing engine, `s_waiting` and what goes with it, the slave that
the front ends share, `sys_tick`, the direction pin, and the main thread, with
the status of its last `rs485_send`. -/
structure Rs485Port (cfg : Config) where
  framer : RtuFramer
  master : MasterRtu
  slave : Slave cfg
  sysTick : Dword
  driving : Bool
  sendStatus : Rs485Status
  todo : List PortAction

variable {cfg : Config}

/-- After `rs485_init`, `modbus_master_rtu_init` and `rs485_set_rx_callback`. -/
def rs485Init (rxBuffer completedBuffer : ℕ → Byte) (bufferSize : ℕ) (baudrate msTick : Dword)
    (slave : Slave cfg) (sysTick : Dword) : Rs485Port cfg where
  framer :=
    { rtuFramerInit rxBuffer completedBuffer bufferSize baudrate msTick with rxCallback := true }
  master := ⟨0, 0, []⟩
  slave := slave
  sysTick := sysTick
  driving := false
  sendStatus := .ok
  todo := []

/-- The port is left in a state. -/
def leave (outs : List PortOutput) (s : Rs485Port cfg) :
    Checked Fault (Rs485Port cfg) (List PortOutput) := do
  set s
  pure outs

/-- Part of the program that works on the slave. -/
def onSlave {α : Type} (prog : Checked Fault (Slave cfg) α) : Checked Fault (Rs485Port cfg) α :=
  fun s => (prog.run s.slave).map fun r => (r.1, { s with slave := r.2 })

/-- The calls of `rs485_modbus_rx_callback` for a response. -/
def answerActions (response : List Byte) : List PortAction :=
  if response.length > 0 then [.delayT35, .txEnable, .send response, .rxEnable] else []

/-- `rs485_modbus_rx_callback`. -/
def rs485ModbusRxCallback (data : List Byte) (rest : List PortAction) (s : Rs485Port cfg) :
    Checked Fault (Rs485Port cfg) (List PortOutput) :=
  if modbusMasterRtuIsWaiting s.master ≠ 0 then
    leave [.handed data] { s with master := modbusMasterRtuOnFrame s.master data, todo := rest }
  else do
    let out ← onSlave (modbusRtuProcess data)
    modify fun s => { s with todo := answerActions out.tx ++ rest }
    pure [.served data out.tx]

/-- `rs485_send_with_timeout`. -/
def rs485Send (data : List Byte) (rest : List PortAction) (s : Rs485Port cfg) : Rs485Port cfg :=
  if data.length = 0 then { s with sendStatus := .error, todo := rest }
  else { s with todo := [.txBegin, .txEnable, .transmit data, .rxEnable] ++ rest }

/-- `modbus_master_transaction` once `send` has returned. -/
def masterSentActions (call : MasterCall) (sendStatus : Rs485Status) : List PortAction :=
  if sendStatus ≠ .ok then [.masterEnd .error]
  else if call.slaveId = 0 then [.masterEnd .ok]
  else [.masterRecv call]

/-- `modbus_master_transaction` after `recv` has returned a frame. -/
def masterFrameStep (call : MasterCall) (frame : List Byte) (rest : List PortAction)
    (s : Rs485Port cfg) : Checked Fault (Rs485Port cfg) (List PortOutput) := fun _ =>
  ((masterReceived (some masterRtuEnd) call.slaveId call.reqPdu call.respMax frame).run
    ⟨s.master, []⟩).map fun r => ([.returned r.1], { s with master := r.2.world, todo := rest })

/-- The main thread takes an action from its list. -/
def takeAction (now : ℕ) (halOk : Bool) (s : Rs485Port cfg) (rest : List PortAction) :
    PortAction → Checked Fault (Rs485Port cfg) (List PortOutput)
  | .process =>
      leave []
        { s with
          framer := (s.framer.process now).2
          todo := (s.framer.process now).1.toList.map .callback ++ rest }
  | .callback data => rs485ModbusRxCallback data rest s
  | .flushRx => leave [.cleared] { s with framer := s.framer.flush, todo := rest }
  | .delayT35 =>
      leave [.rests]
        { s with framer := s.framer.delayT35, todo := .spin (RtuFramer.timeUs now) :: rest }
  | .spin start =>
      if (RtuFramer.timeUs now - start).toNat < s.framer.t35Us.toNat then leave [] s
      else leave [] { s with todo := rest }
  | .txEnable => leave [] { s with driving := true, todo := rest }
  | .rxEnable => leave [] { s with driving := false, todo := rest }
  | .send data => leave [] (rs485Send data rest s)
  | .txBegin => leave [.cleared] { s with framer := s.framer.txBegin, todo := rest }
  | .transmit data =>
      let status := if halOk then .ok else .timeout
      leave [.sent data status] { s with sendStatus := status, todo := rest }
  | .masterFlush =>
      leave [] { s with master := masterRtuFlush s.master, todo := .flushRx :: rest }
  | .masterDelayT35 =>
      leave [] { s with master := masterRtuDelayT35 s.master, todo := .delayT35 :: rest }
  | .masterSend adu =>
      let s := { s with master := { s.master with waiting := 1, frameReady := 0 } }
      if adu.length = 0 then leave [] { s with sendStatus := .error, todo := rest }
      else leave [] { s with todo := [.txEnable, .send adu, .rxEnable] ++ rest }
  | .masterSent call => leave [] { s with todo := masterSentActions call s.sendStatus ++ rest }
  | .masterRecv call =>
      leave [.started s.sysTick]
        { s with
          master := { s.master with waiting := 1 }
          todo := .masterWait call s.sysTick :: rest }
  | .masterWait call start =>
      leave [.passed s.sysTick]
        { s with
          todo := (if (s.sysTick - start).toNat < call.timeoutMs
            then [.process, .masterLook call start] else [.masterEnd .timeout]) ++ rest }
  | .masterLook call start =>
      if s.master.frameReady ≠ 0 then
        leave []
          { s with
            master := { s.master with frameReady := 0, frame := [] }
            todo := .masterFrame call (s.master.frame.take rtuFrameMax) :: rest }
      else leave [] { s with todo := .masterWait call start :: rest }
  | .masterFrame call frame => masterFrameStep call frame rest s
  | .masterEnd status =>
      leave [.returned (.plain status)] { s with master := masterRtuEnd s.master, todo := rest }

/-! ## Interrupts and calls -/

/-- What happens at the port. -/
inductive PortOp
  /-- `USART2_IRQHandler` with `UART_FLAG_RXNE`. -/
  | byte (b : Byte)
  /-- `USART2_IRQHandler` with `UART_FLAG_ORE`. -/
  | overrun
  /-- `SysTick_Handler`. -/
  | systick
  /-- A frame that `rs232_modbus_rx_callback` gives to the slave. -/
  | rs232 (rx : List Byte)
  /-- The main loop calls `rs485_process`. -/
  | process
  /-- The main loop calls `modbus_master_transaction`. -/
  | transaction (call : MasterCall)
  /-- The main thread goes on; what `HAL_UART_Transmit` says if it is called. -/
  | step (halOk : Bool)
  deriving DecidableEq

/-- What happens, at a true time in microseconds. -/
structure PortEvent where
  now : ℕ
  op : PortOp
  deriving DecidableEq

/-- The actions of `modbus_master_transaction` for a frame. -/
def transactionActions (call : MasterCall) (adu : List Byte) : List PortAction :=
  [.masterFlush, .masterDelayT35, .masterSend adu, .masterSent call]

/-- `modbus_master_transaction`, up to its first call of a hook. -/
def beginTransaction (call : MasterCall) (s : Rs485Port cfg) :
    Checked Fault (Rs485Port cfg) (List PortOutput) :=
  if call.reqPdu.length = 0 then leave [.returned (.plain .error)] s
  else
    let adu := modbusMasterRtuFrame call.slaveId call.reqPdu rtuFrameMax
    if adu.length = 0 then leave [.returned (.plain .error)] s
    else leave [.called (some adu)] { s with todo := transactionActions call adu }

/-- What happens at the port. A call waits for the main thread to be free, and
comes to nothing here while it is not. -/
def portStep (event : PortEvent) : Checked Fault (Rs485Port cfg) (List PortOutput) := do
  let s ← get
  match event.op with
  | .byte b => leave [] { s with framer := s.framer.onByte event.now b }
  | .overrun =>
      let _ ← onSlave (lineInput .charOverrun)
      pure []
  | .systick =>
      leave [] { s with sysTick := s.sysTick + 1, framer := s.framer.onSystick event.now }
  | .rs232 rx =>
      let _ ← onSlave (modbusRtuProcess rx)
      pure []
  | .process =>
      match s.todo with
      | [] => leave [.called none] { s with todo := [.process] }
      | _ :: _ => pure []
  | .transaction call =>
      match s.todo with
      | [] => beginTransaction call s
      | _ :: _ => pure []
  | .step halOk =>
      match s.todo with
      | [] => pure []
      | action :: rest => takeAction event.now halOk s rest action

/-- The events are in the order of their times. -/
def PortInOrder (events : List PortEvent) : Prop := events.Pairwise fun e e' => e.now ≤ e'.now

instance (events : List PortEvent) : Decidable (PortInOrder events) :=
  inferInstanceAs (Decidable (List.Pairwise _ events))

/-! ## What the parts do -/

theorem byte_one_ne_zero : (1 : Byte) ≠ 0 := by decide

@[simp]
theorem yields_leave {outs : List PortOutput} {s t : Rs485Port cfg}
    {post : List PortOutput → Rs485Port cfg → Prop} :
    Yields (leave outs t) s post ↔ post outs t := by
  rw [leave, yields_bind, yields_set, yields_pure]

theorem yields_onSlave {α : Type} {prog : Checked Fault (Slave cfg) α} {s : Rs485Port cfg}
    {post : α → Rs485Port cfg → Prop} :
    Yields (onSlave prog) s post ↔
      Yields prog s.slave fun a slave => post a { s with slave := slave } := by
  constructor
  · rintro ⟨a, s', hrun, hpost⟩
    obtain ⟨r, hprog, hr⟩ := except_map_eq_ok.mp hrun
    obtain ⟨rfl, rfl⟩ := Prod.mk.inj hr
    exact ⟨r.1, r.2, hprog, hpost⟩
  · rintro ⟨a, slave, hprog, hpost⟩
    exact ⟨a, _, except_map_eq_ok.mpr ⟨(a, slave), hprog, rfl⟩, hpost⟩

/-- A frame for the slave is answered as the slave would answer it alone. -/
theorem yields_onSlave_modbusRtuProcess (flat : cfg.Flat) {rx : List Byte} {s : Rs485Port cfg}
    {post : Outcome → Rs485Port cfg → Prop}
    (h : post (slaveStep s.slave rx).1 { s with slave := (slaveStep s.slave rx).2 }) :
    Yields (onSlave (modbusRtuProcess rx)) s post := by
  apply yields_onSlave.mpr
  apply (yields_modbusRtuProcess flat s.slave rx).mono
  intro out slave hstep
  rwa [← hstep] at h

theorem yields_onSlave_charOverrun {s : Rs485Port cfg} {post : Outcome → Rs485Port cfg → Prop} :
    Yields (onSlave (lineInput .charOverrun)) s post ↔
      post ⟨.ok, []⟩ { s with slave := s.slave.updateLine LineState.noteCharOverrun } := by
  rw [yields_onSlave, lineInput, yields_bind, yields_modify, yields_pure]

/-- A request that can be framed begins a transaction. -/
theorem yields_beginTransaction {call : MasterCall} {s t : Rs485Port cfg}
    {post : List PortOutput → Rs485Port cfg → Prop} :
    Yields (beginTransaction call s) t post ↔
      if 1 ≤ call.reqPdu.length ∧ call.reqPdu.length ≤ 253 then
        post [.called (some (rtuFrame call.slaveId call.reqPdu))]
          { s with todo := transactionActions call (rtuFrame call.slaveId call.reqPdu) }
      else post [.returned (.plain .error)] s := by
  rw [beginTransaction]
  by_cases hsize : 1 ≤ call.reqPdu.length ∧ call.reqPdu.length ≤ 253
  · have hframe : ¬ (rtuFrame call.slaveId call.reqPdu).length = 0 := by
      rw [length_rtuFrame]
      exact Nat.succ_ne_zero _
    simp only [modbusMasterRtuFrame_eq_rtuFrame hsize.1 hsize.2, if_neg (Nat.ne_of_gt hsize.1),
      if_neg hframe, yields_leave, if_pos hsize]
  · simp only [modbusMasterRtuFrame_eq_nil hsize, List.length_nil, if_true, ite_self, yields_leave,
      if_neg hsize]

/-- The frame that ends a transaction decides its result, and the master lets go
of the port. -/
theorem yields_masterFrameStep {call : MasterCall} (hreq : call.reqPdu ≠ []) {frame : List Byte}
    {rest : List PortAction} {s t : Rs485Port cfg}
    {post : List PortOutput → Rs485Port cfg → Prop} :
    Yields (masterFrameStep call frame rest s) t post ↔
      post [.returned (heard call.slaveId (byteAt call.reqPdu 0) call.respMax frame)]
        { s with master := masterRtuEnd s.master, todo := rest } := by
  have hreceived : Yields
      (masterReceived (some masterRtuEnd) call.slaveId call.reqPdu call.respMax frame)
      ⟨s.master, []⟩ fun r bus =>
        r = heard call.slaveId (byteAt call.reqPdu 0) call.respMax frame ∧
          bus.world = masterRtuEnd s.master :=
    (yields_masterReceived hreq).mpr ⟨rfl, rfl⟩
  obtain ⟨r, bus, hrun, rfl, hworld⟩ := hreceived
  apply Yields.iff_of_run_eq
  rw [← hworld]
  exact except_map_eq_ok.mpr ⟨_, hrun, rfl⟩

end AutomationBoard.Board
