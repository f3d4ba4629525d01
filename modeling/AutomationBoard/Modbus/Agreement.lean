/-
# Agreement of master and slave

What it means for a call of the master to agree with the slave it is looped back
to: the arguments that are inside the tables, what the call does to the slave in
terms of direct access, and what it delivers. Whatever the dispatcher carries
out without a refusal, and the parser reads back, agrees.
-/

import AutomationBoard.Modbus.BuiltRequests
import AutomationBoard.Modbus.Loopback

namespace AutomationBoard.Modbus

open AutomationBoard.Math AutomationBoard.Program

variable {cfg : Config}

/-! ## Direct access -/

namespace Store

/-- Coils written one after another with `modbus_write_coil`. -/
def writeCoils (s : Store cfg) (start n : ℕ) (bit : ℕ → Bool) : Store cfg :=
  (List.range n).foldl (fun s i => modbusWriteCoil s (start + i) (if bit i then 1 else 0)) s

/-- Registers written one after another with `modbus_write_holding_register`. -/
def writeHoldingRegisters (s : Store cfg) (start n : ℕ) (value : ℕ → Word) : Store cfg :=
  (List.range n).foldl (fun s i => modbusWriteHoldingRegister s (start + i) (value i)) s

/-- Registers of a file written one after another. -/
def writeFile (s : Store cfg) (file record n : ℕ) (value : ℕ → Word) : Store cfg :=
  let write files i := fileRegWritten files file (record + i) (value i)
  { s with fileStore := (List.range n).foldl write s.fileStore }

end Store

namespace MasterCall

/-- The arguments of a call are inside the limits of its builder and the tables
of the slave, and the buffers of the caller hold what is read. The diagnostics,
which have no table, are not among these calls. -/
def InRange (s : Slave cfg) : MasterCall → Prop
  | readCoils start quantity bitsOutMax | readDiscreteInputs start quantity bitsOutMax =>
      (1 ≤ quantity.toNat ∧ quantity.toNat ≤ 2000) ∧
        start.toNat + quantity.toNat ≤ cfg.maxCoils ∧ (quantity.toNat + 7) / 8 ≤ bitsOutMax
  | readHoldingRegisters start quantity | readInputRegisters start quantity =>
      (1 ≤ quantity.toNat ∧ quantity.toNat ≤ 125) ∧
        start.toNat + quantity.toNat ≤ cfg.maxRegisters
  | writeSingleCoil addr _ => addr.toNat < cfg.maxCoils
  | writeSingleRegister addr _ | maskWriteRegister addr _ _ => addr.toNat < cfg.maxRegisters
  | writeMultipleCoils start quantity _ =>
      (1 ≤ quantity.toNat ∧ quantity.toNat ≤ 1968) ∧ start.toNat + quantity.toNat ≤ cfg.maxCoils
  | writeMultipleRegisters start quantity _ =>
      (1 ≤ quantity.toNat ∧ quantity.toNat ≤ 123) ∧
        start.toNat + quantity.toNat ≤ cfg.maxRegisters
  | readExceptionStatus | getCommEventCounter => True
  | getCommEventLog eventsOut eventsLenOut eventsMax =>
      eventsOut = eventsLenOut ∧ (eventsOut = true → s.line.event.logCount ≤ eventsMax)
  | readFileRecord fileNumber recordNumber recordLength =>
      (1 ≤ fileNumber.toNat ∧ fileNumber.toNat ≤ fileCount) ∧
        (1 ≤ recordLength.toNat ∧ recordLength.toNat ≤ 124) ∧
        recordNumber.toNat + recordLength.toNat ≤ fileSizeRegs
  | writeFileRecord fileNumber recordNumber recordLength _ =>
      (1 ≤ fileNumber.toNat ∧ fileNumber.toNat ≤ fileCount) ∧
        (1 ≤ recordLength.toNat ∧ recordLength.toNat ≤ 122) ∧
        recordNumber.toNat + recordLength.toNat ≤ fileSizeRegs
  | readWriteMultipleRegisters readStart readQty writeStart writeQty _ =>
      ((1 ≤ readQty.toNat ∧ readQty.toNat ≤ 125) ∧
        readStart.toNat + readQty.toNat ≤ cfg.maxRegisters) ∧
      (1 ≤ writeQty.toNat ∧ writeQty.toNat ≤ 121) ∧
        writeStart.toNat + writeQty.toNat ≤ cfg.maxRegisters
  | readDeviceIdentification readDeviceId objectId =>
      (1 ≤ readDeviceId.toNat ∧ readDeviceId.toNat ≤ 4) ∧
        (readDeviceId = 0x04 → objectId.toNat ≤ 2)
  | reportServerId idOut idLenOut idMax =>
      idOut = idLenOut ∧ (idOut = true → modbusServerId.length ≤ idMax)
  | readFifoQueue fifoAddr regsMax =>
      ∃ h : fifoAddr.toNat < fifoCount, s.env.store.fifos[fifoAddr.toNat].len ≤ regsMax
  | diagQueryData _ | diagRestartComm _ | diagClearCounters | diagReadCounter _ => False

/-- What a call does to the slave: the inputs are refreshed before they are read,
tables are written directly and the application is told, files are written. -/
def effect (hooks : SyncHooks cfg) (env : PduEnv cfg) : MasterCall → PduEnv cfg
  | readDiscreteInputs _ _ _ | readExceptionStatus => env.updateStore (mirrorDiscreteInputs cfg)
  | readInputRegisters _ _ => env.updateStore analogInputsMirrored
  | writeSingleCoil addr on =>
      registersSynced hooks (env.updateStore fun s =>
        modbusWriteCoil s addr.toNat (if on ≠ 0 then 1 else 0))
  | writeSingleRegister addr value =>
      registersSynced hooks (env.updateStore fun s => modbusWriteHoldingRegister s addr.toNat value)
  | writeMultipleCoils start quantity bits =>
      registersSynced hooks (env.updateStore fun s =>
        s.writeCoils start.toNat quantity.toNat fun i => (bits (i / 8)).getLsbD (i % 8))
  | writeMultipleRegisters start quantity regs =>
      registersSynced hooks (env.updateStore fun s =>
        s.writeHoldingRegisters start.toNat quantity.toNat regs)
  | maskWriteRegister addr andMask orMask =>
      registersSynced hooks (env.updateStore fun s => modbusWriteHoldingRegister s addr.toNat
        (maskedWord (regAt s.holdingRegs addr.toNat) andMask orMask))
  | readWriteMultipleRegisters _ _ writeStart writeQty writeRegs =>
      registersSynced hooks (env.updateStore fun s =>
        s.writeHoldingRegisters writeStart.toNat writeQty.toNat writeRegs)
  | writeFileRecord fileNumber recordNumber recordLength regs =>
      env.updateStore fun s =>
        s.writeFile (fileNumber.toNat - 1) recordNumber.toNat recordLength.toNat regs
  | _ => env

/-- What a call delivers: the values that the slave has stored after it. -/
def delivered (env : PduEnv cfg) (line : LineState) : MasterCall → Delivered
  | readCoils start quantity _ =>
      .bits (packBits (fun i => bitAt env.store.coilBits (start.toNat + i)) quantity.toNat)
  | readDiscreteInputs start quantity _ =>
      .bits (packBits (fun i => bitAt env.store.discreteBits (start.toNat + i)) quantity.toNat)
  | readHoldingRegisters start quantity =>
      .registers (regsAt env.store.holdingRegs start.toNat quantity.toNat)
  | readInputRegisters start quantity =>
      .registers (regsAt env.store.inputRegs start.toNat quantity.toNat)
  | readExceptionStatus => .status (exceptionStatus env.store)
  | getCommEventCounter => .eventCounter eventStatusReady line.event.counter
  | getCommEventLog eventsOut _ _ =>
      .eventLog ⟨eventStatusReady, line.event.counter, line.diag.slaveMessageCount,
        if eventsOut then line.event.events else []⟩
  | readFileRecord fileNumber recordNumber recordLength =>
      .registers ((List.range recordLength.toNat).map fun i =>
        fileAt env.store.fileStore (fileNumber.toNat - 1) (recordNumber.toNat + i))
  | readWriteMultipleRegisters readStart readQty _ _ _ =>
      .registers (regsAt env.store.holdingRegs readStart.toNat readQty.toNat)
  | readDeviceIdentification readDeviceId objectId =>
      .deviceId ⟨readDeviceId, 0x81, 0x00, 0x00,
        (List.range' (firstObject readDeviceId objectId) (lastObject readDeviceId objectId + 1 -
          firstObject readDeviceId objectId)).map fun oid =>
            ⟨BitVec.ofNat 8 oid, deviceIdObject oid⟩⟩
  | reportServerId idOut _ _ => .serverId ⟨if idOut then modbusServerId else [], 0xFF⟩
  | readFifoQueue fifoAddr _ =>
      .registers ((env.store.fifos[fifoAddr.toNat]?.map FifoQueue.entries).getD [])
  | _ => .done

end MasterCall

/-! ## Direct writes as the dispatcher's -/

section DirectWrites

variable (flat : cfg.Flat)
include flat

theorem modbusWriteCoil_eq (s : Store cfg) {addr : ℕ} (haddr : addr < 65536) (on : Bool) :
    modbusWriteCoil s addr (if on then 1 else 0) =
      { s with coilBits := modbusBitWrite cfg s.coilBits addr ((BitVec.ofBool on).setWidth 8) } := by
  rw [modbusWriteCoil, flat.coilOffset, Nat.zero_add, uint16_of_lt haddr]
  cases on <;> rfl

theorem modbusWriteHoldingRegister_eq (s : Store cfg) {addr : ℕ} (haddr : addr < 65536)
    (value : Word) :
    modbusWriteHoldingRegister s addr value =
      { s with holdingRegs := modbusRegsWrite cfg s.holdingRegs addr value } := by
  rw [modbusWriteHoldingRegister, flat.holdingRegOffset, Nat.zero_add, uint16_of_lt haddr]

theorem writeCoils_eq (s : Store cfg) {start n : ℕ} (hfits : start + n ≤ 65536) (bit : ℕ → Bool) :
    s.writeCoils start n bit = { s with coilBits := coilsWritten s.coilBits start bit n } := by
  induction n with
  | zero => rfl
  | succ n ih =>
      have hstep : s.writeCoils start (n + 1) bit =
          modbusWriteCoil (s.writeCoils start n bit) (start + n) (if bit n then 1 else 0) := by
        simp [Store.writeCoils, List.range_succ]
      rw [hstep, ih (by omega), modbusWriteCoil_eq flat _ (by omega)]
      simp [coilsWritten, List.range_succ]

theorem writeHoldingRegisters_eq (s : Store cfg) {start n : ℕ} (hfits : start + n ≤ 65536)
    (value : ℕ → Word) :
    s.writeHoldingRegisters start n value =
      { s with holdingRegs := registersWritten s.holdingRegs start value n } := by
  induction n with
  | zero => rfl
  | succ n ih =>
      have hstep : s.writeHoldingRegisters start (n + 1) value =
          modbusWriteHoldingRegister (s.writeHoldingRegisters start n value) (start + n)
            (value n) := by
        simp [Store.writeHoldingRegisters, List.range_succ]
      rw [hstep, ih (by omega), modbusWriteHoldingRegister_eq flat _ (by omega)]
      simp [registersWritten, List.range_succ]

end DirectWrites

theorem coilsWritten_congr (table : Vector Byte cfg.coilBytes) (start : ℕ) {f g : ℕ → Bool} {n : ℕ}
    (h : ∀ i < n, f i = g i) : coilsWritten table start f n = coilsWritten table start g n := by
  refine List.foldl_ext _ _ _ fun table i hi => ?_
  rw [h i (List.mem_range.mp hi)]

theorem registersWritten_congr (regs : Vector Word cfg.maxRegisters) (start : ℕ) {f g : ℕ → Word}
    {n : ℕ} (h : ∀ i < n, f i = g i) :
    registersWritten regs start f n = registersWritten regs start g n := by
  refine List.foldl_ext _ _ _ fun regs i hi => ?_
  rw [h i (List.mem_range.mp hi)]

theorem getD_map_range {α : Type} (f : ℕ → α) {n i : ℕ} (hi : i < n) (default : α) :
    ((List.range n).map f).getD i default = f i := by
  simp [hi]

/-- The bits in the bytes of a caller. -/
theorem bitOf_map_range (bits : ℕ → Byte) {n i : ℕ} (hi : i < n) :
    bitOf ((List.range ((n + 7) / 8)).map bits) i = (bits (i / 8)).getLsbD (i % 8) := by
  rw [bitOf, getD_map_range bits (by omega)]

/-! ## A call that is answered -/

section Answered

variable {call : MasterCall} {s : Slave cfg}

/-- A request of a master to the slave it is looped back to is handled by it. -/
theorem slaveStep_request (hid : s.slaveId ≠ 0) (hsome : call.requestPdu ≠ []) :
    slaveStep s (rtuFrame s.slaveId call.requestPdu) = addressedStep s call.requestPdu false :=
  slaveStep_rtuFrame hid (List.length_pos_iff.mpr hsome) call.length_requestPdu_le

/-- A reply without the exception bit is a normal answer. -/
theorem answer_handleRequest {pdu reply : List Byte}
    (hbuilt : (handleRequest s pdu false).built = reply) (hne : reply ≠ [])
    (hnormal : (byteAt reply 0).msb = false) : (handleRequest s pdu false).answer = .normal := by
  have hresponse : (handleRequest s pdu false).response = reply := by
    rw [Handling.response, if_pos (sent_handleRequest_unicast _ _), hbuilt]
  rw [answer_eq_normal, hresponse, isException_iff, hbuilt, hnormal]
  exact ⟨hne, Bool.false_ne_true⟩

/-- A call that is answered normally comes to what it makes of the reply. -/
theorem MasterCall.yields_run_normal (flat : cfg.Flat) (hid : s.slaveId ≠ 0)
    (haccepted : call.refused s.slaveId = false) (hsome : call.requestPdu ≠ [])
    {reply : List Byte} (hbuilt : (handleRequest s.counted call.requestPdu false).built = reply)
    (hne : reply ≠ []) (hnormal : (byteAt reply 0).msb = false) {pending : List Byte}
    {timeoutMs : ℕ} {calls : List BusCall} {post : Reply Delivered → Bus (Loopback cfg) → Prop} :
    Yields (call.run (loopbackMaster timeoutMs) s.slaveId) ⟨⟨s, pending⟩, calls⟩ post ↔
      Yields (call.parse s.slaveId reply)
        ⟨⟨(addressedStep s call.requestPdu false).2, rtuFrame s.slaveId reply⟩,
          calls ++ loopbackCalls s.slaveId call.requestPdu timeoutMs (rtuFrame s.slaveId reply)⟩
        fun value bus => post (.parsed 0 value) bus := by
  have hnot : ¬ (call.refused s.slaveId = true ∨ call.requestPdu = []) := by
    rintro (hrefused | hnone)
    · rw [haccepted] at hrefused
      cases hrefused
    · exact hsome hnone
  have hresponse : (handleRequest s.counted call.requestPdu false).response = reply := by
    rw [Handling.response, if_pos (sent_handleRequest_unicast _ _), hbuilt]
  have hanswer := answer_handleRequest hbuilt hne hnormal
  have htx : (addressedStep s call.requestPdu false).1.tx = rtuFrame s.slaveId reply := by
    rw [tx_addressedStep, hresponse, if_neg hne]
  have hheard : Transacted.ofAnswer (rtuFrame s.slaveId reply) = ⟨.ok, reply, 0⟩ := by
    rw [Transacted.ofAnswer, ← htx, answerOf_addressedStep flat s hsome, hanswer, htx,
      framePdu_rtuFrame]
  rw [yields_run_loopback flat hid, if_neg hnot, slaveStep_request hid hsome]
  simp only [htx, hheard, ne_eq, not_true_eq_false, if_false]

/-- A call whose request the PDU dispatcher carries out without a refusal. -/
structure CarriedOut (s : Slave cfg) (call : MasterCall) (r : Request cfg) : Prop where
  accepted : call.refused s.slaveId = false
  parsed : parseRequest cfg call.requestPdu = .ok r
  completed : r.refusal = none
  effect : (execute s.hooks call.requestPdu s.env r).2 = call.effect s.hooks s.env
  read : ∀ (bus : Bus (Loopback cfg)) (post : Option Delivered → Bus (Loopback cfg) → Prop) line,
    Yields (call.parse s.slaveId (execute s.hooks call.requestPdu s.env r).1) bus post ↔
      post (some (call.delivered (call.effect s.hooks s.env) line)) bus

/-- The call has succeeded, its values are those that the slave has stored, and
the slave is as direct access would have left it. -/
structure Agrees (call : MasterCall) (s : Slave cfg) (reply : Reply Delivered) (s' : Slave cfg) :
    Prop where
  status : reply.status = .ok
  exceptionCode : reply.exceptionCode = some 0
  value : reply.value = some (call.delivered s'.env s'.line)
  env : s'.env = call.effect s.hooks s.env
  identity : s'.slaveId = s.slaveId ∧ s'.tcpUnitId = s.tcpUnitId ∧ s'.hooks = s.hooks

/-- A request that parses goes to the PDU dispatcher, outside listen-only mode. -/
theorem handleRequest_parsed (hactive : s.listenOnly = false) {pdu : List Byte} {r : Request cfg}
    (hparse : parseRequest cfg pdu = .ok r) :
    handleRequest s pdu false =
      ⟨(execute s.hooks pdu s.env r).1, true, { s with env := (execute s.hooks pdu s.env r).2 }⟩ := by
  have hcode := (parseRequest_functionCode hparse).1
  have hdiag : r.functionCode.code ≠ FunctionCode.diagnostics.code := by
    cases r <;> simp [Request.functionCode, FunctionCode.code]
  have hfetch : isFetch r.functionCode.code = false := by cases r <;> rfl
  have hserver : r.functionCode.code ≠ FunctionCode.reportServerId.code := by
    cases r <;> simp [Request.functionCode, FunctionCode.code]
  have hreply : pduReply s.hooks pdu s.env = execute s.hooks pdu s.env r := by
    rw [pduReply, hparse, answer]
  unfold handleRequest
  simp only [hcode, if_neg hdiag, hfetch, if_neg hserver, hactive, broadcastDropped, Bool.false_and,
    Bool.false_eq_true, if_false, hreply, Bool.not_false]

/-- A request leaves the identity of the slave and its hooks alone. -/
theorem identity_addressedStep (s : Slave cfg) (pdu : List Byte) (isBroadcast : Bool) :
    (addressedStep s pdu isBroadcast).2.slaveId = s.slaveId ∧
      (addressedStep s pdu isBroadcast).2.tcpUnitId = s.tcpUnitId ∧
      (addressedStep s pdu isBroadcast).2.hooks = s.hooks := by
  show (handleRequest s.counted pdu isBroadcast).slave.slaveId = s.slaveId ∧
    (handleRequest s.counted pdu isBroadcast).slave.tcpUnitId = s.tcpUnitId ∧
    (handleRequest s.counted pdu isBroadcast).slave.hooks = s.hooks
  unfold handleRequest
  simp only
  split_ifs <;> exact ⟨rfl, rfl, rfl⟩

/-- A call that is answered with what it is to deliver agrees with the slave. -/
theorem yields_agrees_of_handled (flat : cfg.Flat) (hid : s.slaveId ≠ 0)
    (haccepted : call.refused s.slaveId = false) (hsome : call.requestPdu ≠ []) {reply : List Byte}
    (hhandled : handleRequest s.counted call.requestPdu false =
      ⟨reply, true, { s.counted with env := call.effect s.hooks s.env }⟩)
    (hne : reply ≠ []) (hnormal : (byteAt reply 0).msb = false)
    (hread : ∀ (bus : Bus (Loopback cfg)) (post : Option Delivered → Bus (Loopback cfg) → Prop),
      Yields (call.parse s.slaveId reply) bus post ↔
        post (some (call.delivered (call.effect s.hooks s.env)
          (addressedStep s call.requestPdu false).2.line)) bus)
    (pending : List Byte) (timeoutMs : ℕ) (calls : List BusCall) :
    Yields (call.run (loopbackMaster timeoutMs) s.slaveId) ⟨⟨s, pending⟩, calls⟩
      fun reply bus' => Agrees call s reply bus'.world.slave := by
  have henv : (addressedStep s call.requestPdu false).2.env = call.effect s.hooks s.env :=
    congrArg (fun h : Handling cfg => h.slave.env) hhandled
  rw [MasterCall.yields_run_normal flat hid haccepted hsome (by rw [hhandled]) hne hnormal, hread]
  exact ⟨rfl, rfl, by rw [henv]; rfl, henv, identity_addressedStep s call.requestPdu false⟩

/-- What is carried out agrees with the slave. -/
theorem CarriedOut.yields_agrees {r : Request cfg} (h : CarriedOut s call r) (flat : cfg.Flat)
    (hid : s.slaveId ≠ 0) (hactive : s.listenOnly = false) (pending : List Byte) (timeoutMs : ℕ)
    (calls : List BusCall) :
    Yields (call.run (loopbackMaster timeoutMs) s.slaveId) ⟨⟨s, pending⟩, calls⟩
      fun reply bus' => Agrees call s reply bus'.world.slave := by
  obtain ⟨hcode, hlength⟩ := parseRequest_functionCode h.parsed
  obtain ⟨hfirst, htwo⟩ := execute_normal s.hooks s.env hcode hlength h.completed
  have hmode : s.counted.listenOnly = false := hactive
  have hhandled : handleRequest s.counted call.requestPdu false =
      ⟨(execute s.hooks call.requestPdu s.env r).1, true,
        { s.counted with env := call.effect s.hooks s.env }⟩ := by
    rw [handleRequest_parsed hmode h.parsed, ← h.effect]
    rfl
  have hsome : call.requestPdu ≠ [] := by
    intro hnil
    rw [hnil] at hlength
    cases r <;> simp [Request.minLength] at hlength
  have hne : (execute s.hooks call.requestPdu s.env r).1 ≠ [] := by
    intro hnil
    rw [hnil] at htwo
    exact absurd htwo (by decide)
  exact yields_agrees_of_handled flat hid h.accepted hsome hhandled hne
    (by rw [hfirst, FunctionCode.msb_code]) (fun bus post => h.read bus post _) pending timeoutMs calls

/-- A fetch that is answered is counted, and changes nothing else. -/
theorem line_fetched {pdu reply : List Byte} (hfetch : isFetch (byteAt pdu 0) = true)
    (hbuilt : (handleRequest s.counted pdu false).built = reply) (hne : reply ≠ [])
    (hnormal : (byteAt reply 0).msb = false) :
    (addressedStep s pdu false).2.line = s.counted.line := by
  have hdiag : byteAt pdu 0 ≠ FunctionCode.diagnostics.code := by
    intro h
    rw [h] at hfetch
    cases hfetch
  have hincomplete : completes cfg s.line.diag.listenOnly false pdu .normal = false := by
    simp [completes, hfetch]
  rw [line_addressedStep, answer_handleRequest hbuilt hne hnormal, LineState.message,
    executedCommand_of_ne hdiag, hincomplete, hfetch]
  rfl

end Answered

end AutomationBoard.Modbus
