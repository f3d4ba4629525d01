/-
# The master's operations

The high-level functions of `modbus_master.c`. Each builds a request PDU, runs a
transaction with it and parses the response, so each is one and the same program
on a builder and a parser of its own. What the operations differ in beyond that
are the checks some of them make first, and whether a broadcast is told from a
response that is missing.
-/

import AutomationBoard.Modbus.MasterBuild
import AutomationBoard.Modbus.Transport

namespace AutomationBoard.Modbus

open AutomationBoard.Program

variable {σ : Type} {α β : Type}

/-! ## The master -/

/-- `s_transport` and `s_timeout_ms`; without a transport the pointer is null. -/
structure Master (σ : Type) where
  transport : Option (MasterTransport σ)
  timeoutMs : ℕ

/-- What an operation leaves with its caller: the status, what it stores in
`*exception_code`, if anything, and what it stores through its other pointers
where the status is `MODBUS_OK`. -/
structure Reply (α : Type) where
  status : ModbusStatus
  exceptionCode : Option Byte
  value : Option α

/-- The operation has refused its arguments. -/
def Reply.refused : Reply α := ⟨.error, none, none⟩

/-- The reply of an operation whose transaction brought a response. -/
def Reply.parsed (exceptionCode : Byte) (value : Option α) : Reply α :=
  ⟨if value.isSome then .ok else .error, some exceptionCode, value⟩

/-- Change what is delivered. -/
def Reply.map (f : α → β) (r : Reply α) : Reply β :=
  ⟨r.status, r.exceptionCode, r.value.map f⟩

/-- What the operations have in common: a request whose builder has not returned
zero, a transaction into `resp[MODBUS_RTU_FRAME_MAX]`, and a parser. -/
def masterRequest (m : Master σ) (slave : Byte) (req : List Byte)
    (parse : List Byte → Checked Fault (Bus σ) (Option α)) : Checked Fault (Bus σ) (Reply α) :=
  if req.length = 0 then pure .refused
  else do
    let t ← modbusMasterTransaction m.transport slave req (some rtuFrameMax) m.timeoutMs
    if t.status ≠ .ok then pure ⟨t.status, some t.exceptionCode, none⟩
    else
      let value ← parse t.resp
      pure (.parsed t.exceptionCode value)

/-! ## Checks of the responses to writes -/

/-- `MODBUS_OK` as what a check leaves behind. -/
def accept (ok : Bool) : Option PUnit := if ok then some ⟨⟩ else none

/-- `resp_len != 5U || resp[0] != fc`. -/
def checkHead (fc : FunctionCode) (resp : List Byte) : Checked Fault σ (Option PUnit) := do
  if resp.length ≠ 5 then pure none
  else if (← pduByte resp 0) ≠ fc.code then pure none
  else pure (some ⟨⟩)

/-- The check of `modbus_master_write_file_record`, byte by byte. -/
def checkEcho (req resp : List Byte) : Checked Fault σ (Option PUnit) :=
  if resp.length ≠ req.length then pure none
  else accept <$> echoLoop resp req req.length 0

/-- `if (slave == 0U) return MODBUS_OK`, before the response is looked at. -/
def unlessBroadcast (slave : Byte) (check : List Byte → Checked Fault σ (Option PUnit))
    (resp : List Byte) : Checked Fault σ (Option PUnit) :=
  if slave = 0 then pure (some ⟨⟩) else check resp

/-! ## Operations -/

section Operations

variable (m : Master σ) (slave : Byte)

/-- `modbus_master_read_coils`. -/
def modbusMasterReadCoils (start quantity : Word) (bitsOutMax : ℕ) :
    Checked Fault (Bus σ) (Reply (List Byte)) :=
  masterRequest m slave (modbusMasterBuildRead FunctionCode.readCoils.code start quantity 5)
    fun resp => modbusMasterParseReadBits resp quantity.toNat bitsOutMax

/-- `modbus_master_read_discrete_inputs`. -/
def modbusMasterReadDiscreteInputs (start quantity : Word) (bitsOutMax : ℕ) :
    Checked Fault (Bus σ) (Reply (List Byte)) :=
  masterRequest m slave
    (modbusMasterBuildRead FunctionCode.readDiscreteInputs.code start quantity 5)
    fun resp => modbusMasterParseReadBits resp quantity.toNat bitsOutMax

/-- `modbus_master_read_holding_registers`. -/
def modbusMasterReadHoldingRegisters (start quantity : Word) :
    Checked Fault (Bus σ) (Reply (List Word)) :=
  if quantity.toNat < 1 ∨ quantity.toNat > 125 then pure .refused
  else
    masterRequest m slave
      (modbusMasterBuildRead FunctionCode.readHoldingRegisters.code start quantity 5)
      fun resp => modbusMasterParseReadRegisters resp quantity.toNat

/-- `modbus_master_read_input_registers`. -/
def modbusMasterReadInputRegisters (start quantity : Word) :
    Checked Fault (Bus σ) (Reply (List Word)) :=
  if quantity.toNat < 1 ∨ quantity.toNat > 125 then pure .refused
  else
    masterRequest m slave
      (modbusMasterBuildRead FunctionCode.readInputRegisters.code start quantity 5)
      fun resp => modbusMasterParseReadRegisters resp quantity.toNat

/-- `modbus_master_write_single_coil`. -/
def modbusMasterWriteSingleCoil (addr : Word) (on : Byte) : Checked Fault (Bus σ) (Reply PUnit) :=
  masterRequest m slave (modbusMasterBuildWriteSingleCoil addr on 5) (checkHead .writeSingleCoil)

/-- `modbus_master_write_single_register`. -/
def modbusMasterWriteSingleRegister (addr value : Word) : Checked Fault (Bus σ) (Reply PUnit) :=
  masterRequest m slave (modbusMasterBuildWriteSingleRegister addr value 5)
    (checkHead .writeSingleRegister)

/-- `modbus_master_write_multiple_coils`. -/
def modbusMasterWriteMultipleCoils (start quantity : Word) (bits : ℕ → Byte) :
    Checked Fault (Bus σ) (Reply PUnit) :=
  masterRequest m slave (modbusMasterBuildWriteMultipleCoils start quantity bits rtuFrameMax)
    (checkHead .writeMultipleCoils)

/-- `modbus_master_write_multiple_registers`. -/
def modbusMasterWriteMultipleRegisters (start quantity : Word) (regs : ℕ → Word) :
    Checked Fault (Bus σ) (Reply PUnit) :=
  masterRequest m slave (modbusMasterBuildWriteMultipleRegisters start quantity regs rtuFrameMax)
    (checkHead .writeMultipleRegisters)

/-- `modbus_master_read_exception_status`. -/
def modbusMasterReadExceptionStatus : Checked Fault (Bus σ) (Reply Byte) :=
  masterRequest m slave (modbusMasterBuildReadExceptionStatus 1) modbusMasterParseExceptionStatus

/-- `modbus_master_diag_query_data`. -/
def modbusMasterDiagQueryData (data : Word) : Checked Fault (Bus σ) (Reply Word) :=
  masterRequest m slave (modbusMasterBuildDiagnostics DiagSub.returnQueryData.code data 5)
    fun resp => modbusMasterParseDiagnostics resp DiagSub.returnQueryData.code

/-- `modbus_master_diag_restart_comm`. -/
def modbusMasterDiagRestartComm (clearEventLog : Byte) : Checked Fault (Bus σ) (Reply PUnit) :=
  masterRequest m slave
    (modbusMasterBuildDiagnostics DiagSub.restartComm.code
      (if clearEventLog ≠ 0 then 0xFF00 else 0x0000) 5)
    (unlessBroadcast slave fun resp =>
      Option.map (fun _ => ⟨⟩) <$> modbusMasterParseDiagnostics resp DiagSub.restartComm.code)

/-- `modbus_master_diag_clear_counters`. -/
def modbusMasterDiagClearCounters : Checked Fault (Bus σ) (Reply PUnit) :=
  masterRequest m slave (modbusMasterBuildDiagnostics DiagSub.clearCounters.code 0x0000 5)
    (unlessBroadcast slave fun resp =>
      Option.map (fun _ => ⟨⟩) <$> modbusMasterParseDiagnostics resp DiagSub.clearCounters.code)

/-- `modbus_master_diag_read_counter`. -/
def modbusMasterDiagReadCounter (subFunction : Word) : Checked Fault (Bus σ) (Reply Word) :=
  if subFunction.toNat < DiagSub.busMessageCount.code.toNat ∨
      subFunction.toNat > DiagSub.busCharOverrunCount.code.toNat then pure .refused
  else
    masterRequest m slave (modbusMasterBuildDiagnostics subFunction 0x0000 5)
      fun resp => modbusMasterParseDiagnostics resp subFunction

/-- `modbus_master_get_comm_event_counter`: the status and the event count. -/
def modbusMasterGetCommEventCounter : Checked Fault (Bus σ) (Reply (Word × Word)) :=
  if slave = 0 then pure .refused
  else
    masterRequest m slave (modbusMasterBuildGetCommEventCounter 1)
      modbusMasterParseGetCommEventCounter

/-- `modbus_master_get_comm_event_log`. -/
def modbusMasterGetCommEventLog (eventsOut eventsLenOut : Bool) (eventsMax : ℕ) :
    Checked Fault (Bus σ) (Reply CommEventLog) :=
  if slave = 0 then pure .refused
  else
    masterRequest m slave (modbusMasterBuildGetCommEventLog 1)
      fun resp => modbusMasterParseGetCommEventLog resp eventsOut eventsLenOut eventsMax

/-- `modbus_master_read_file_record`. -/
def modbusMasterReadFileRecord (fileNumber recordNumber recordLength : Word) :
    Checked Fault (Bus σ) (Reply (List Word)) :=
  masterRequest m slave
    (modbusMasterBuildReadFileRecord fileNumber recordNumber recordLength 16)
    fun resp => modbusMasterParseReadFileRecord resp recordLength.toNat

/-- `modbus_master_write_file_record`. -/
def modbusMasterWriteFileRecord (fileNumber recordNumber recordLength : Word) (regs : ℕ → Word) :
    Checked Fault (Bus σ) (Reply PUnit) :=
  let req := modbusMasterBuildWriteFileRecord fileNumber recordNumber recordLength regs rtuFrameMax
  masterRequest m slave req (checkEcho req)

/-- `modbus_master_read_write_multiple_registers`. -/
def modbusMasterReadWriteMultipleRegisters (readStart readQty writeStart writeQty : Word)
    (writeRegs : ℕ → Word) : Checked Fault (Bus σ) (Reply (List Word)) :=
  masterRequest m slave
    (modbusMasterBuildReadWriteMultipleRegisters readStart readQty writeStart writeQty writeRegs
      rtuFrameMax)
    fun resp => modbusMasterParseReadRegisters resp readQty.toNat

/-- `modbus_master_read_device_identification`. -/
def modbusMasterReadDeviceIdentification (readDeviceId objectId : Byte) :
    Checked Fault (Bus σ) (Reply Devid) :=
  masterRequest m slave (modbusMasterBuildReadDeviceId readDeviceId objectId 4)
    modbusMasterParseDeviceId

/-- `modbus_master_report_server_id`. -/
def modbusMasterReportServerId (idOut idLenOut : Bool) (idMax : ℕ) :
    Checked Fault (Bus σ) (Reply ServerId) :=
  if slave = 0 then pure .refused
  else
    masterRequest m slave (modbusMasterBuildReportServerId 1)
      fun resp => modbusMasterParseReportServerId resp idOut idLenOut idMax

/-- `modbus_master_mask_write_register`. -/
def modbusMasterMaskWriteRegister (addr andMask orMask : Word) :
    Checked Fault (Bus σ) (Reply PUnit) :=
  let req := modbusMasterBuildMaskWriteRegister addr andMask orMask 7
  masterRequest m slave req
    (unlessBroadcast slave fun resp => accept <$> modbusMasterParseEcho resp req)

/-- `modbus_master_read_fifo_queue`. -/
def modbusMasterReadFifoQueue (fifoAddr : Word) (regsMax : ℕ) :
    Checked Fault (Bus σ) (Reply (List Word)) :=
  if slave = 0 then pure .refused
  else
    masterRequest m slave (modbusMasterBuildReadFifoQueue fifoAddr 3)
      fun resp => modbusMasterParseReadFifoQueue resp regsMax

end Operations

/-! ## Calls -/

/-- A call of an operation, with its arguments besides the slave id. -/
inductive MasterCall
  | readCoils (start quantity : Word) (bitsOutMax : ℕ)
  | readDiscreteInputs (start quantity : Word) (bitsOutMax : ℕ)
  | readHoldingRegisters (start quantity : Word)
  | readInputRegisters (start quantity : Word)
  | writeSingleCoil (addr : Word) (on : Byte)
  | writeSingleRegister (addr value : Word)
  | writeMultipleCoils (start quantity : Word) (bits : ℕ → Byte)
  | writeMultipleRegisters (start quantity : Word) (regs : ℕ → Word)
  | readExceptionStatus
  | diagQueryData (data : Word)
  | diagRestartComm (clearEventLog : Byte)
  | diagClearCounters
  | diagReadCounter (subFunction : Word)
  | getCommEventCounter
  | getCommEventLog (eventsOut eventsLenOut : Bool) (eventsMax : ℕ)
  | readFileRecord (fileNumber recordNumber recordLength : Word)
  | writeFileRecord (fileNumber recordNumber recordLength : Word) (regs : ℕ → Word)
  | readWriteMultipleRegisters (readStart readQty writeStart writeQty : Word)
      (writeRegs : ℕ → Word)
  | readDeviceIdentification (readDeviceId objectId : Byte)
  | reportServerId (idOut idLenOut : Bool) (idMax : ℕ)
  | maskWriteRegister (addr andMask orMask : Word)
  | readFifoQueue (fifoAddr : Word) (regsMax : ℕ)

/-- What a successful call delivers. -/
inductive Delivered
  | done
  | bits (bytes : List Byte)
  | registers (regs : List Word)
  | status (status : Byte)
  | data (data : Word)
  | eventCounter (status eventCount : Word)
  | eventLog (log : CommEventLog)
  | serverId (id : ServerId)
  | deviceId (id : Devid)
  deriving DecidableEq

namespace MasterCall

/-- The operation of a call. -/
def run (m : Master σ) (slave : Byte) : MasterCall → Checked Fault (Bus σ) (Reply Delivered)
  | readCoils start quantity bitsOutMax =>
      Reply.map .bits <$> modbusMasterReadCoils m slave start quantity bitsOutMax
  | readDiscreteInputs start quantity bitsOutMax =>
      Reply.map .bits <$> modbusMasterReadDiscreteInputs m slave start quantity bitsOutMax
  | readHoldingRegisters start quantity =>
      Reply.map .registers <$> modbusMasterReadHoldingRegisters m slave start quantity
  | readInputRegisters start quantity =>
      Reply.map .registers <$> modbusMasterReadInputRegisters m slave start quantity
  | writeSingleCoil addr on =>
      Reply.map (fun _ => .done) <$> modbusMasterWriteSingleCoil m slave addr on
  | writeSingleRegister addr value =>
      Reply.map (fun _ => .done) <$> modbusMasterWriteSingleRegister m slave addr value
  | writeMultipleCoils start quantity bits =>
      Reply.map (fun _ => .done) <$> modbusMasterWriteMultipleCoils m slave start quantity bits
  | writeMultipleRegisters start quantity regs =>
      Reply.map (fun _ => .done) <$> modbusMasterWriteMultipleRegisters m slave start quantity regs
  | readExceptionStatus => Reply.map .status <$> modbusMasterReadExceptionStatus m slave
  | diagQueryData data => Reply.map .data <$> modbusMasterDiagQueryData m slave data
  | diagRestartComm clearEventLog =>
      Reply.map (fun _ => .done) <$> modbusMasterDiagRestartComm m slave clearEventLog
  | diagClearCounters => Reply.map (fun _ => .done) <$> modbusMasterDiagClearCounters m slave
  | diagReadCounter subFunction =>
      Reply.map .data <$> modbusMasterDiagReadCounter m slave subFunction
  | getCommEventCounter =>
      Reply.map (fun r => .eventCounter r.1 r.2) <$> modbusMasterGetCommEventCounter m slave
  | getCommEventLog eventsOut eventsLenOut eventsMax =>
      Reply.map .eventLog <$> modbusMasterGetCommEventLog m slave eventsOut eventsLenOut eventsMax
  | readFileRecord fileNumber recordNumber recordLength =>
      Reply.map .registers <$>
        modbusMasterReadFileRecord m slave fileNumber recordNumber recordLength
  | writeFileRecord fileNumber recordNumber recordLength regs =>
      Reply.map (fun _ => .done) <$>
        modbusMasterWriteFileRecord m slave fileNumber recordNumber recordLength regs
  | readWriteMultipleRegisters readStart readQty writeStart writeQty writeRegs =>
      Reply.map .registers <$>
        modbusMasterReadWriteMultipleRegisters m slave readStart readQty writeStart writeQty
          writeRegs
  | readDeviceIdentification readDeviceId objectId =>
      Reply.map .deviceId <$> modbusMasterReadDeviceIdentification m slave readDeviceId objectId
  | reportServerId idOut idLenOut idMax =>
      Reply.map .serverId <$> modbusMasterReportServerId m slave idOut idLenOut idMax
  | maskWriteRegister addr andMask orMask =>
      Reply.map (fun _ => .done) <$> modbusMasterMaskWriteRegister m slave addr andMask orMask
  | readFifoQueue fifoAddr regsMax =>
      Reply.map .registers <$> modbusMasterReadFifoQueue m slave fifoAddr regsMax

/-- The call is refused before a request is built. -/
def refused (slave : Byte) : MasterCall → Bool
  | readHoldingRegisters _ quantity | readInputRegisters _ quantity =>
      quantity.toNat < 1 ∨ quantity.toNat > 125
  | diagReadCounter subFunction =>
      subFunction.toNat < DiagSub.busMessageCount.code.toNat ∨
        subFunction.toNat > DiagSub.busCharOverrunCount.code.toNat
  | getCommEventCounter | getCommEventLog _ _ _ | reportServerId _ _ _ | readFifoQueue _ _ =>
      slave = 0
  | _ => false

/-- The request that is built; no bytes where the builder refuses. -/
def requestPdu : MasterCall → List Byte
  | readCoils start quantity _ =>
      modbusMasterBuildRead FunctionCode.readCoils.code start quantity 5
  | readDiscreteInputs start quantity _ =>
      modbusMasterBuildRead FunctionCode.readDiscreteInputs.code start quantity 5
  | readHoldingRegisters start quantity =>
      modbusMasterBuildRead FunctionCode.readHoldingRegisters.code start quantity 5
  | readInputRegisters start quantity =>
      modbusMasterBuildRead FunctionCode.readInputRegisters.code start quantity 5
  | writeSingleCoil addr on => modbusMasterBuildWriteSingleCoil addr on 5
  | writeSingleRegister addr value => modbusMasterBuildWriteSingleRegister addr value 5
  | writeMultipleCoils start quantity bits =>
      modbusMasterBuildWriteMultipleCoils start quantity bits rtuFrameMax
  | writeMultipleRegisters start quantity regs =>
      modbusMasterBuildWriteMultipleRegisters start quantity regs rtuFrameMax
  | readExceptionStatus => modbusMasterBuildReadExceptionStatus 1
  | diagQueryData data => modbusMasterBuildDiagnostics DiagSub.returnQueryData.code data 5
  | diagRestartComm clearEventLog =>
      modbusMasterBuildDiagnostics DiagSub.restartComm.code
        (if clearEventLog ≠ 0 then 0xFF00 else 0x0000) 5
  | diagClearCounters => modbusMasterBuildDiagnostics DiagSub.clearCounters.code 0x0000 5
  | diagReadCounter subFunction => modbusMasterBuildDiagnostics subFunction 0x0000 5
  | getCommEventCounter => modbusMasterBuildGetCommEventCounter 1
  | getCommEventLog _ _ _ => modbusMasterBuildGetCommEventLog 1
  | readFileRecord fileNumber recordNumber recordLength =>
      modbusMasterBuildReadFileRecord fileNumber recordNumber recordLength 16
  | writeFileRecord fileNumber recordNumber recordLength regs =>
      modbusMasterBuildWriteFileRecord fileNumber recordNumber recordLength regs rtuFrameMax
  | readWriteMultipleRegisters readStart readQty writeStart writeQty writeRegs =>
      modbusMasterBuildReadWriteMultipleRegisters readStart readQty writeStart writeQty writeRegs
        rtuFrameMax
  | readDeviceIdentification readDeviceId objectId =>
      modbusMasterBuildReadDeviceId readDeviceId objectId 4
  | reportServerId _ _ _ => modbusMasterBuildReportServerId 1
  | maskWriteRegister addr andMask orMask =>
      modbusMasterBuildMaskWriteRegister addr andMask orMask 7
  | readFifoQueue fifoAddr _ => modbusMasterBuildReadFifoQueue fifoAddr 3

/-- What is made of the response. -/
def parse (slave : Byte) : MasterCall → List Byte → Checked Fault σ (Option Delivered)
  | readCoils _ quantity bitsOutMax, resp | readDiscreteInputs _ quantity bitsOutMax, resp =>
      Option.map .bits <$> modbusMasterParseReadBits resp quantity.toNat bitsOutMax
  | readHoldingRegisters _ quantity, resp | readInputRegisters _ quantity, resp =>
      Option.map .registers <$> modbusMasterParseReadRegisters resp quantity.toNat
  | writeSingleCoil _ _, resp => Option.map (fun _ => .done) <$> checkHead .writeSingleCoil resp
  | writeSingleRegister _ _, resp =>
      Option.map (fun _ => .done) <$> checkHead .writeSingleRegister resp
  | writeMultipleCoils _ _ _, resp =>
      Option.map (fun _ => .done) <$> checkHead .writeMultipleCoils resp
  | writeMultipleRegisters _ _ _, resp =>
      Option.map (fun _ => .done) <$> checkHead .writeMultipleRegisters resp
  | readExceptionStatus, resp => Option.map .status <$> modbusMasterParseExceptionStatus resp
  | diagQueryData _, resp =>
      Option.map .data <$> modbusMasterParseDiagnostics resp DiagSub.returnQueryData.code
  | diagRestartComm _, resp =>
      Option.map (fun _ => .done) <$> unlessBroadcast slave (fun resp =>
        Option.map (fun _ => ⟨⟩) <$>
          modbusMasterParseDiagnostics resp DiagSub.restartComm.code) resp
  | diagClearCounters, resp =>
      Option.map (fun _ => .done) <$> unlessBroadcast slave (fun resp =>
        Option.map (fun _ => ⟨⟩) <$>
          modbusMasterParseDiagnostics resp DiagSub.clearCounters.code) resp
  | diagReadCounter subFunction, resp =>
      Option.map .data <$> modbusMasterParseDiagnostics resp subFunction
  | getCommEventCounter, resp =>
      Option.map (fun r => .eventCounter r.1 r.2) <$> modbusMasterParseGetCommEventCounter resp
  | getCommEventLog eventsOut eventsLenOut eventsMax, resp =>
      Option.map .eventLog <$>
        modbusMasterParseGetCommEventLog resp eventsOut eventsLenOut eventsMax
  | readFileRecord _ _ recordLength, resp =>
      Option.map .registers <$> modbusMasterParseReadFileRecord resp recordLength.toNat
  | writeFileRecord fileNumber recordNumber recordLength regs, resp =>
      Option.map (fun _ => .done) <$>
        checkEcho (modbusMasterBuildWriteFileRecord fileNumber recordNumber recordLength regs
          rtuFrameMax) resp
  | readWriteMultipleRegisters _ readQty _ _ _, resp =>
      Option.map .registers <$> modbusMasterParseReadRegisters resp readQty.toNat
  | readDeviceIdentification _ _, resp => Option.map .deviceId <$> modbusMasterParseDeviceId resp
  | reportServerId idOut idLenOut idMax, resp =>
      Option.map .serverId <$> modbusMasterParseReportServerId resp idOut idLenOut idMax
  | maskWriteRegister addr andMask orMask, resp =>
      Option.map (fun _ => .done) <$> unlessBroadcast slave (fun resp =>
        accept <$> modbusMasterParseEcho resp
          (modbusMasterBuildMaskWriteRegister addr andMask orMask 7)) resp
  | readFifoQueue _ regsMax, resp =>
      Option.map .registers <$> modbusMasterParseReadFifoQueue resp regsMax

end MasterCall

/-! ## A call as a request -/

theorem map_masterRequest (f : α → β) (m : Master σ) (slave : Byte) (req : List Byte)
    (parse : List Byte → Checked Fault (Bus σ) (Option α)) :
    Reply.map f <$> masterRequest m slave req parse =
      masterRequest m slave req fun resp => Option.map f <$> parse resp := by
  have hparsed : ∀ code (value : Option α),
      (Reply.parsed code value).map f = .parsed code (value.map f) := by
    intro code value
    cases value <;> rfl
  unfold masterRequest
  split_ifs with hempty
  · rw [map_pure]
    rfl
  · rw [map_bind]
    congr 1
    funext t
    split_ifs
    · rw [map_pure]
      rfl
    · simp only [map_bind, map_pure, bind_map_left, hparsed]

theorem map_refuse (f : α → β) {c : Prop} [Decidable c] (prog : Checked Fault (Bus σ) (Reply α)) :
    Reply.map f <$> (if c then pure .refused else prog) =
      if decide c then pure .refused else Reply.map f <$> prog := by
  by_cases hc : c
  · rw [if_pos hc, if_pos (decide_eq_true hc), map_pure]
    rfl
  · rw [if_neg hc, if_neg (by simpa using hc)]

/-- Every call is refused, or is a request with the call's own builder and parser. -/
theorem MasterCall.run_eq (call : MasterCall) (m : Master σ) (slave : Byte) :
    call.run m slave =
      if call.refused slave then pure .refused
      else masterRequest m slave call.requestPdu (call.parse slave) := by
  cases call with
  | readHoldingRegisters | readInputRegisters | diagReadCounter | getCommEventCounter
  | getCommEventLog | reportServerId | readFifoQueue =>
      refine (map_refuse _ _).trans ?_
      rw [map_masterRequest]
      rfl
  | _ => exact map_masterRequest _ m slave _ _

/-- A request that was built is put to a transaction. -/
theorem yields_masterRequest {m : Master σ} {slave : Byte} {req : List Byte} (hreq : req ≠ [])
    {parse : List Byte → Checked Fault (Bus σ) (Option α)} {bus : Bus σ}
    {post : Reply α → Bus σ → Prop} :
    Yields (masterRequest m slave req parse) bus post ↔
      Yields (modbusMasterTransaction m.transport slave req (some rtuFrameMax) m.timeoutMs) bus
        fun t bus =>
          if t.status ≠ .ok then post ⟨t.status, some t.exceptionCode, none⟩ bus
          else Yields (parse t.resp) bus fun value bus => post (.parsed t.exceptionCode value) bus := by
  have hlength : ¬ req.length = 0 := fun h => hreq (List.length_eq_zero_iff.mp h)
  simp only [masterRequest, if_neg hlength, yields_bind, yields_ite, yields_pure]

/-- Every request that is built fits a frame. -/
theorem MasterCall.length_requestPdu_le (call : MasterCall) : call.requestPdu.length ≤ 253 := by
  cases call with
  | writeMultipleCoils start quantity bits =>
      refine (congrArg List.length modbusMasterBuildWriteMultipleCoils_eq).trans_le ?_
      split_ifs
      · simp
        omega
      · simp
  | writeMultipleRegisters start quantity regs =>
      refine (congrArg List.length modbusMasterBuildWriteMultipleRegisters_eq).trans_le ?_
      split_ifs
      · simp
        omega
      · simp
  | writeFileRecord fileNumber recordNumber recordLength regs =>
      refine (congrArg List.length modbusMasterBuildWriteFileRecord_eq).trans_le ?_
      split_ifs
      · simp
        omega
      · simp
  | readWriteMultipleRegisters readStart readQty writeStart writeQty writeRegs =>
      refine (congrArg List.length modbusMasterBuildReadWriteMultipleRegisters_eq).trans_le ?_
      split_ifs
      · simp
        omega
      · simp
  | readFileRecord fileNumber recordNumber recordLength =>
      simp only [requestPdu, modbusMasterBuildReadFileRecord]
      split_ifs
      · simp
      · simp
  | _ => exact Nat.le_of_ble_eq_true rfl

end AutomationBoard.Modbus
