/-
# Master and slave agree

Each operation of the master, looped back to a slave with arguments inside the
tables, ends in success, delivers what the slave has stored, and changes the
slave as direct writes of its tables would. What either side makes of the bytes
of the other has been said in the modules before; here it is put together for
each operation.
-/

import AutomationBoard.Modbus.Agreement
import AutomationBoard.Modbus.RoundTrip

namespace AutomationBoard.Modbus

open AutomationBoard.Math AutomationBoard.Program

variable {cfg : Config}

/-! ## Replies -/

section Replies

variable {σ : Type} {bus : σ} {post : Option Delivered → σ → Prop}

/-- Registers that are read come as they are in the table. -/
theorem yields_readRegisters (fc : FunctionCode) {size : ℕ} (regs : Vector Word size) (start : ℕ)
    {n : ℕ} (hcount : 1 ≤ n ∧ n ≤ 125) :
    Yields (Option.map .registers <$>
        modbusMasterParseReadRegisters (registersPdu fc (regsAt regs start n)) n) bus post ↔
      post (some (.registers (regsAt regs start n))) bus := by
  have hlength : (regsAt regs start n).length = n := by simp [regsAt]
  generalize regsAt regs start n = values at hlength ⊢
  subst hlength
  rw [yields_map]
  exact yields_parseReadRegisters_registersPdu fc hcount.1 hcount.2

/-- The first five bytes of a request come back as its head. -/
theorem yields_checkHead_take {fc : FunctionCode} {req : List Byte}
    (hcode : byteAt req 0 = fc.code) (hlength : 5 ≤ req.length) :
    Yields (Option.map (fun _ => .done) <$> checkHead fc (req.take 5)) bus post ↔
      post (some .done) bus := by
  have hfive : (req.take 5).length = 5 := by
    rw [List.length_take]
    omega
  have hhead : byteAt (req.take 5) 0 = fc.code := (byteAt_take (by decide)).trans hcode
  simp [checkHead, hfive, hhead, yields_map, yields_bind]

/-- A request that comes back is its own echo. -/
theorem yields_checkEcho_self {req : List Byte} :
    Yields (Option.map (fun _ => .done) <$> checkEcho req req) bus post ↔ post (some .done) bus := by
  rw [checkEcho, if_neg (not_not_intro rfl), yields_map, yields_map,
    yields_echoLoop rfl (Nat.zero_add _), decide_eq_true rfl]
  exact Iff.rfl

end Replies

/-! ## The operations -/

variable {s : Slave cfg}

section Tables

variable (flat : cfg.Flat)
include flat

/-- A table request of the master is carried out as the table request it encodes. -/
theorem carriedOut_table {call : MasterCall} {r : TableRequest cfg}
    (hencode : r.encode = call.requestPdu) (haccepted : call.refused s.slaveId = false)
    (heffect : (execute s.hooks call.requestPdu s.env r.toRequest).2 = call.effect s.hooks s.env)
    (hread : ∀ (bus : Bus (Loopback cfg)) (post : Option Delivered → Bus (Loopback cfg) → Prop) line,
      Yields (call.parse s.slaveId (execute s.hooks call.requestPdu s.env r.toRequest).1) bus post ↔
        post (some (call.delivered (call.effect s.hooks s.env) line)) bus) :
    CarriedOut s call r.toRequest where
  accepted := haccepted
  parsed := hencode ▸ parseRequest_encode flat.coils flat.registers r
  completed := by cases r <;> rfl
  effect := heffect
  read := hread

theorem carriedOut_readCoils {start quantity : Word} {bitsOutMax : ℕ}
    (h : (MasterCall.readCoils start quantity bitsOutMax).InRange s) :
    ∃ r, CarriedOut s (.readCoils start quantity bitsOutMax) r := by
  obtain ⟨hcount, hfits, hroom⟩ := h
  refine ⟨_, carriedOut_table flat (r := .readCoils ⟨start.toNat, quantity.toNat, hcount.1, hcount.2,
    hfits⟩) (fields_eq_buildRead rfl rfl _) rfl rfl fun bus post line => ?_⟩
  rw [MasterCall.parse, yields_map]
  exact yields_parseReadBits_bitsPdu .readCoils _ hcount.1 hcount.2 hroom

theorem carriedOut_readDiscreteInputs {start quantity : Word} {bitsOutMax : ℕ}
    (h : (MasterCall.readDiscreteInputs start quantity bitsOutMax).InRange s) :
    ∃ r, CarriedOut s (.readDiscreteInputs start quantity bitsOutMax) r := by
  obtain ⟨hcount, hfits, hroom⟩ := h
  refine ⟨_, carriedOut_table flat (r := .readDiscreteInputs ⟨start.toNat, quantity.toNat, hcount.1,
    hcount.2, hfits⟩) (fields_eq_buildRead rfl rfl _) rfl rfl fun bus post line => ?_⟩
  rw [MasterCall.parse, yields_map]
  exact yields_parseReadBits_bitsPdu .readDiscreteInputs _ hcount.1 hcount.2 hroom

theorem carriedOut_readHoldingRegisters {start quantity : Word}
    (h : (MasterCall.readHoldingRegisters start quantity).InRange s) :
    ∃ r, CarriedOut s (.readHoldingRegisters start quantity) r := by
  obtain ⟨hcount, hfits⟩ := h
  exact ⟨_, carriedOut_table flat (r := .readHoldingRegisters ⟨start.toNat, quantity.toNat,
    hcount.1, hcount.2, hfits⟩) (fields_eq_buildRead rfl rfl _) (decide_eq_false (by omega)) rfl
    fun _ _ _ => yields_readRegisters _ _ _ hcount⟩

theorem carriedOut_readInputRegisters {start quantity : Word}
    (h : (MasterCall.readInputRegisters start quantity).InRange s) :
    ∃ r, CarriedOut s (.readInputRegisters start quantity) r := by
  obtain ⟨hcount, hfits⟩ := h
  exact ⟨_, carriedOut_table flat (r := .readInputRegisters ⟨start.toNat, quantity.toNat,
    hcount.1, hcount.2, hfits⟩) (fields_eq_buildRead rfl rfl _) (decide_eq_false (by omega)) rfl
    fun _ _ _ => yields_readRegisters _ _ _ hcount⟩

theorem carriedOut_writeSingleCoil {addr : Word} {on : Byte}
    (h : (MasterCall.writeSingleCoil addr on).InRange s) :
    ∃ r, CarriedOut s (.writeSingleCoil addr on) r := by
  have heffect : (MasterCall.writeSingleCoil addr on).effect s.hooks s.env =
      s.env.putCoils s.hooks fun t =>
        modbusBitWrite cfg t addr.toNat ((BitVec.ofBool (on ≠ 0)).setWidth 8) := by
    have hdirect := fun s : Store cfg => modbusWriteCoil_eq flat s addr.isLt (on ≠ 0)
    simp only [decide_eq_true_eq] at hdirect
    simp only [MasterCall.effect, hdirect]
    rfl
  exact ⟨_, carriedOut_table flat (r := .writeSingleCoil ⟨addr.toNat, h⟩ (on ≠ 0))
    (TableRequest.encode_writeSingleCoil rfl on) rfl heffect.symm
    fun _ _ _ => yields_checkHead_take rfl (Nat.le_refl 5)⟩

theorem carriedOut_writeSingleRegister {addr value : Word}
    (h : (MasterCall.writeSingleRegister addr value).InRange s) :
    ∃ r, CarriedOut s (.writeSingleRegister addr value) r := by
  have heffect : (MasterCall.writeSingleRegister addr value).effect s.hooks s.env =
      s.env.putHoldingRegs s.hooks fun regs => modbusRegsWrite cfg regs addr.toNat value := by
    simp only [MasterCall.effect, modbusWriteHoldingRegister_eq flat _ addr.isLt]
    rfl
  exact ⟨_, carriedOut_table flat (r := .writeSingleRegister ⟨addr.toNat, h⟩ value)
    (TableRequest.encode_writeSingleRegister rfl value) rfl heffect.symm
    fun _ _ _ => yields_checkHead_take rfl (Nat.le_refl 5)⟩

theorem carriedOut_maskWriteRegister (hid : s.slaveId ≠ 0) {addr andMask orMask : Word}
    (h : (MasterCall.maskWriteRegister addr andMask orMask).InRange s) :
    ∃ r, CarriedOut s (.maskWriteRegister addr andMask orMask) r := by
  have heffect : (MasterCall.maskWriteRegister addr andMask orMask).effect s.hooks s.env =
      s.env.putHoldingRegs s.hooks fun regs => modbusRegsWrite cfg regs addr.toNat
        (maskedWord (regAt s.env.store.holdingRegs addr.toNat) andMask orMask) := by
    simp only [MasterCall.effect, modbusWriteHoldingRegister_eq flat _ addr.isLt]
    rfl
  refine ⟨_, carriedOut_table flat (r := .maskWriteRegister ⟨addr.toNat, h⟩ andMask orMask)
    (TableRequest.encode_maskWriteRegister rfl andMask orMask) rfl heffect.symm
    fun bus post line => ?_⟩
  rw [MasterCall.parse, unlessBroadcast, if_neg hid, yields_map, yields_map,
    yields_modbusMasterParseEcho, decide_eq_true ⟨rfl, List.cons_ne_nil _ _⟩]
  exact Iff.rfl

theorem carriedOut_writeMultipleCoils {start quantity : Word} {bits : ℕ → Byte}
    (h : (MasterCall.writeMultipleCoils start quantity bits).InRange s) :
    ∃ r, CarriedOut s (.writeMultipleCoils start quantity bits) r := by
  obtain ⟨hcount, hfits⟩ := h
  have hsize : start.toNat + quantity.toNat ≤ 65536 := hfits.trans (flat.coils.trans (by decide))
  let write : CoilWrite maxWriteCoils cfg.maxCoils :=
    { start := start.toNat, count := quantity.toNat, positive := hcount.1, le_limit := hcount.2,
      fits := hfits, data := (List.range ((quantity.toNat + 7) / 8)).map bits,
      length_eq := by simp }
  have hencode : (TableRequest.writeMultipleCoils write).encode =
      (MasterCall.writeMultipleCoils start quantity bits).requestPdu :=
    TableRequest.encode_writeMultipleCoils rfl rfl rfl
  have heffect : (MasterCall.writeMultipleCoils start quantity bits).effect s.hooks s.env =
      s.env.putCoils s.hooks fun t => coilsWritten t start.toNat (bitOf write.data) quantity.toNat := by
    have hsame := fun t : Vector Byte cfg.coilBytes => coilsWritten_congr t start.toNat
      fun i (hi : i < quantity.toNat) => bitOf_map_range bits hi
    simp only [MasterCall.effect, writeCoils_eq flat _ hsize]
    exact congrArg (s.env.putCoils s.hooks) (funext fun t => (hsame t).symm)
  refine ⟨_, carriedOut_table flat (r := .writeMultipleCoils write) hencode rfl heffect.symm
    fun bus post line => ?_⟩
  rw [← hencode]
  exact yields_checkHead_take rfl (by simp [TableRequest.encode, fields])

/-- Registers that a caller gives, written as direct writes. -/
theorem writeHoldingRegisters_map_range (store : Store cfg) {start n : ℕ}
    (hfits : start + n ≤ cfg.maxRegisters) (regs : ℕ → Word) :
    store.writeHoldingRegisters start n regs = { store with
      holdingRegs := registersWritten store.holdingRegs start
        (((List.range n).map regs).getD · 0) ((List.range n).map regs).length } := by
  have hsize := flat.registers
  have hsame := registersWritten_congr store.holdingRegs start
    fun i (hi : i < n) => getD_map_range regs hi 0
  rw [writeHoldingRegisters_eq flat _ (by omega), ← hsame, List.length_map, List.length_range]

theorem carriedOut_writeMultipleRegisters {start quantity : Word} {regs : ℕ → Word}
    (h : (MasterCall.writeMultipleRegisters start quantity regs).InRange s) :
    ∃ r, CarriedOut s (.writeMultipleRegisters start quantity regs) r := by
  obtain ⟨hcount, hfits⟩ := h
  let write : RegisterWrite maxWriteRegisters cfg.maxRegisters :=
    { start := start.toNat, values := (List.range quantity.toNat).map regs,
      positive := by simpa using hcount.1
      le_limit := by
        rw [List.length_map, List.length_range]
        exact hcount.2
      fits := by simpa using hfits }
  have hencode : (TableRequest.writeMultipleRegisters write).encode =
      (MasterCall.writeMultipleRegisters start quantity regs).requestPdu :=
    TableRequest.encode_writeMultipleRegisters rfl rfl
  have heffect : (MasterCall.writeMultipleRegisters start quantity regs).effect s.hooks s.env =
      s.env.putHoldingRegs s.hooks fun t =>
        registersWritten t start.toNat (write.values.getD · 0) write.values.length := by
    simp only [MasterCall.effect, writeHoldingRegisters_map_range flat _ hfits]
    rfl
  refine ⟨_, carriedOut_table flat (r := .writeMultipleRegisters write) hencode rfl heffect.symm
    fun bus post line => ?_⟩
  rw [← hencode]
  exact yields_checkHead_take rfl (by simp [TableRequest.encode, fields])

theorem carriedOut_readWriteMultipleRegisters {readStart readQty writeStart writeQty : Word}
    {writeRegs : ℕ → Word}
    (h : (MasterCall.readWriteMultipleRegisters readStart readQty writeStart writeQty
      writeRegs).InRange s) :
    ∃ r, CarriedOut s (.readWriteMultipleRegisters readStart readQty writeStart writeQty
      writeRegs) r := by
  obtain ⟨⟨hreadCount, hreadFits⟩, hwriteCount, hwriteFits⟩ := h
  let write : RegisterWrite 0x0079 cfg.maxRegisters :=
    { start := writeStart.toNat, values := (List.range writeQty.toNat).map writeRegs,
      positive := by simpa using hwriteCount.1, le_limit := by simpa using hwriteCount.2,
      fits := by simpa using hwriteFits }
  have heffect : (MasterCall.readWriteMultipleRegisters readStart readQty writeStart writeQty
      writeRegs).effect s.hooks s.env =
      s.env.putHoldingRegs s.hooks fun t =>
        registersWritten t writeStart.toNat (write.values.getD · 0) write.values.length := by
    simp only [MasterCall.effect, writeHoldingRegisters_map_range flat _ hwriteFits]
    rfl
  refine ⟨_, carriedOut_table flat
    (r := .readWriteMultipleRegs ⟨readStart.toNat, readQty.toNat, hreadCount.1, hreadCount.2,
      hreadFits⟩ write)
    (TableRequest.encode_readWriteMultipleRegs rfl rfl rfl rfl) rfl heffect.symm
    fun bus post line => ?_⟩
  rw [heffect]
  exact yields_readRegisters _ _ _ hreadCount

end Tables

theorem carriedOut_readExceptionStatus :
    ∃ r, CarriedOut s .readExceptionStatus r := by
  refine ⟨.readExceptionStatus, rfl, rfl, rfl, rfl, fun bus post line => ?_⟩
  rw [MasterCall.parse, yields_map, yields_modbusMasterParseExceptionStatus]
  exact Iff.rfl

theorem carriedOut_readFileRecord {fileNumber recordNumber recordLength : Word}
    (h : (MasterCall.readFileRecord fileNumber recordNumber recordLength).InRange s) :
    ∃ r, CarriedOut s (.readFileRecord fileNumber recordNumber recordLength) r := by
  obtain ⟨hfile, hcount, hfits⟩ := h
  obtain ⟨span, hspan, hfileEq, hstart, hlength⟩ := fileSpanOf_eq_ok hfile hcount.1 hfits
  have hparse : parseRequest cfg
      (MasterCall.readFileRecord fileNumber recordNumber recordLength).requestPdu =
        .ok (.readFileRecord [span]) := by
    refine (parseRequest_readFileRecord hcount.1).trans ?_
    rw [hspan]
    exact if_neg (by omega)
  refine ⟨.readFileRecord [span], rfl, hparse, rfl, rfl, fun bus post line => ?_⟩
  have hread : (span.read s.env.store.fileStore).length = span.count := by
    simp [FileSpan.read]
  have hdata : (span.subResponse s.env.store.fileStore).length = 2 + span.count * 2 := by
    simp [FileSpan.subResponse, hread]
    omega
  have hdelivered : span.read s.env.store.fileStore = (List.range recordLength.toNat).map fun i =>
      fileAt s.env.store.fileStore (fileNumber.toNat - 1) (recordNumber.toNat + i) := by
    rw [FileSpan.read, hfileEq, hstart, hlength]
  rw [← hlength] at hcount
  have hparsed := @yields_parseReadFileRecord _ bus (span.read s.env.store.fileStore)
    (hread ▸ hcount.1) (hread ▸ hcount.2)
  rw [hread] at hparsed
  simp only [MasterCall.parse, yields_map, execute, List.flatMap_singleton, hdata, ← hlength]
  refine hparsed.trans ?_
  rw [hdelivered]
  exact Iff.rfl

theorem carriedOut_writeFileRecord {fileNumber recordNumber recordLength : Word} {regs : ℕ → Word}
    (h : (MasterCall.writeFileRecord fileNumber recordNumber recordLength regs).InRange s) :
    ∃ r, CarriedOut s (.writeFileRecord fileNumber recordNumber recordLength regs) r := by
  obtain ⟨hfile, hcount, hfits⟩ := h
  obtain ⟨span, hspan, hfileEq, hstart, hlength⟩ := fileSpanOf_eq_ok hfile hcount.1 hfits
  have hvalues : ((List.range recordLength.toNat).map regs).length = span.count := by simp [hlength]
  refine ⟨_, rfl, parseRequest_writeFileRecord hcount hspan hvalues, rfl, ?_,
    fun bus post line => yields_checkEcho_self⟩
  have hstored : ∀ files, FileWrite.stored ⟨span, (List.range recordLength.toNat).map regs, hvalues⟩
      files span.count = (List.range recordLength.toNat).foldl (fun files i =>
        fileRegWritten files (fileNumber.toNat - 1) (recordNumber.toNat + i) (regs i)) files := by
    intro files
    simp only [FileWrite.stored, hfileEq, hstart, hlength]
    refine List.foldl_ext _ _ _ fun files i hi => ?_
    rw [getD_map_range regs (List.mem_range.mp hi)]
  simp only [execute, MasterCall.effect, filesWritten, List.foldl_cons, List.foldl_nil, hstored]
  rfl

theorem carriedOut_readFifoQueue (hid : s.slaveId ≠ 0) {fifoAddr : Word} {regsMax : ℕ}
    (h : (MasterCall.readFifoQueue fifoAddr regsMax).InRange s) :
    ∃ r, CarriedOut s (.readFifoQueue fifoAddr regsMax) r := by
  obtain ⟨haddr, hroom⟩ := h
  refine ⟨.readFifoQueue ⟨fifoAddr.toNat, haddr⟩, decide_eq_false hid,
    parseRequest_readFifoQueue haddr, rfl, rfl, fun bus post line => ?_⟩
  have hdepth := s.env.store.fifos[fifoAddr.toNat].length_entries_le_fifoDepth
  have hmax : s.env.store.fifos[fifoAddr.toNat].entries.length ≤ regsMax :=
    s.env.store.fifos[fifoAddr.toNat].length_entries.trans_le hroom
  have hdelivered : (s.env.store.fifos[fifoAddr.toNat]?.map FifoQueue.entries).getD [] =
      s.env.store.fifos[fifoAddr.toNat].entries := by
    rw [Vector.getElem?_eq_getElem haddr]
    rfl
  rw [MasterCall.parse, yields_map]
  refine (yields_parseReadFifoQueue hdepth hmax).trans ?_
  rw [← hdelivered]
  exact Iff.rfl

theorem carriedOut_readDeviceIdentification {readDeviceId objectId : Byte}
    (h : (MasterCall.readDeviceIdentification readDeviceId objectId).InRange s) :
    ∃ r, CarriedOut s (.readDeviceIdentification readDeviceId objectId) r := by
  obtain ⟨hcode, hobject⟩ := h
  obtain ⟨read, hparse, rfl, hfirst, hlast⟩ := @parseRequest_readDeviceId cfg _ _ hcode hobject
  refine ⟨.readDeviceId read, rfl, hparse, rfl, rfl, fun bus post line => ?_⟩
  rw [MasterCall.parse, yields_map]
  refine (yields_parseDeviceId read.ordered read.known read.code).trans ?_
  simp only [MasterCall.delivered, ← hfirst, ← hlast, Option.map_some]

/-! ## The serial line -/

section Line

variable (flat : cfg.Flat) (hid : s.slaveId ≠ 0) (hactive : s.listenOnly = false)
  (pending : List Byte) (timeoutMs : ℕ) (calls : List BusCall)
include flat hid hactive

theorem yields_agrees_getCommEventCounter :
    Yields (MasterCall.getCommEventCounter.run (loopbackMaster timeoutMs) s.slaveId)
      ⟨⟨s, pending⟩, calls⟩ fun reply bus' =>
        Agrees .getCommEventCounter s reply bus'.world.slave := by
  have hactive' : s.counted.listenOnly = false := hactive
  have hhandled : handleRequest s.counted MasterCall.getCommEventCounter.requestPdu false =
      ⟨FunctionCode.getCommEventCounter.code ::
        bytesOfWords [eventStatusReady, s.line.event.counter], true, s.counted⟩ := by
    rw [handleRequest]
    simp only [hactive']
    rfl
  have hline := line_fetched rfl (congrArg Handling.built hhandled) (List.cons_ne_nil _ _)
    FunctionCode.getCommEventCounter.msb_code
  have haccepted : MasterCall.getCommEventCounter.refused s.slaveId = false := decide_eq_false hid
  refine yields_agrees_of_handled flat hid haccepted (List.cons_ne_nil _ _) hhandled
    (List.cons_ne_nil _ _) FunctionCode.getCommEventCounter.msb_code (fun bus post => ?_) pending
    timeoutMs calls
  rw [MasterCall.parse, yields_map, hline]
  exact yields_parseGetCommEventCounter _ _

theorem yields_agrees_getCommEventLog {eventsOut eventsLenOut : Bool} {eventsMax : ℕ}
    (h : (MasterCall.getCommEventLog eventsOut eventsLenOut eventsMax).InRange s) :
    Yields ((MasterCall.getCommEventLog eventsOut eventsLenOut eventsMax).run
        (loopbackMaster timeoutMs) s.slaveId) ⟨⟨s, pending⟩, calls⟩ fun reply bus' =>
      Agrees (.getCommEventLog eventsOut eventsLenOut eventsMax) s reply bus'.world.slave := by
  obtain ⟨hflags, hroom⟩ := h
  rw [← s.line.event.length_events] at hroom
  have hsize : s.line.event.events.length ≤ 64 := by
    rw [EventState.length_events]
    exact s.line.event.logCount_le
  have hactive' : s.counted.listenOnly = false := hactive
  have hhandled : handleRequest s.counted
      (MasterCall.getCommEventLog eventsOut eventsLenOut eventsMax).requestPdu false =
      ⟨FunctionCode.getCommEventLog.code :: BitVec.ofNat 8 (6 + s.line.event.events.length) ::
        (bytesOfWords [eventStatusReady, s.line.event.counter,
          s.counted.line.diag.slaveMessageCount] ++ s.line.event.events), true, s.counted⟩ := by
    rw [EventState.length_events]
    exact handleRequest_getCommEventLog hactive'
  have hline := line_fetched rfl (congrArg Handling.built hhandled) (List.cons_ne_nil _ _)
    FunctionCode.getCommEventLog.msb_code
  have haccepted : (MasterCall.getCommEventLog eventsOut eventsLenOut eventsMax).refused s.slaveId =
      false := decide_eq_false hid
  refine yields_agrees_of_handled flat hid haccepted (List.cons_ne_nil _ _) hhandled
    (List.cons_ne_nil _ _) FunctionCode.getCommEventLog.msb_code (fun bus post => ?_) pending
    timeoutMs calls
  rw [MasterCall.parse, yields_map, hline]
  exact yields_parseGetCommEventLog _ _ _ hsize hflags hroom

theorem yields_agrees_reportServerId {idOut idLenOut : Bool} {idMax : ℕ}
    (h : (MasterCall.reportServerId idOut idLenOut idMax).InRange s) :
    Yields ((MasterCall.reportServerId idOut idLenOut idMax).run (loopbackMaster timeoutMs)
        s.slaveId) ⟨⟨s, pending⟩, calls⟩ fun reply bus' =>
      Agrees (.reportServerId idOut idLenOut idMax) s reply bus'.world.slave := by
  obtain ⟨hflags, hroom⟩ := h
  have hactive' : s.counted.listenOnly = false := hactive
  have hhandled : handleRequest s.counted (MasterCall.reportServerId idOut idLenOut idMax).requestPdu
      false = ⟨modbusReportServerIdProcess 1, true, s.counted⟩ := by
    rw [handleRequest]
    simp only [hactive']
    rfl
  have haccepted : (MasterCall.reportServerId idOut idLenOut idMax).refused s.slaveId = false :=
    decide_eq_false hid
  refine yields_agrees_of_handled flat hid haccepted (List.cons_ne_nil _ _) hhandled
    (List.cons_ne_nil _ _) FunctionCode.reportServerId.msb_code (fun bus post => ?_) pending
    timeoutMs calls
  rw [MasterCall.parse, yields_map]
  exact yields_parseReportServerId hflags hroom

end Line

/-! ## All calls -/

/-- Every call inside the tables agrees with the slave. -/
theorem MasterCall.yields_agrees (flat : cfg.Flat) (hid : s.slaveId ≠ 0)
    (hactive : s.listenOnly = false) (pending : List Byte) (timeoutMs : ℕ) (calls : List BusCall)
    {call : MasterCall} (h : call.InRange s) :
    Yields (call.run (loopbackMaster timeoutMs) s.slaveId) ⟨⟨s, pending⟩, calls⟩
      fun reply bus' => Agrees call s reply bus'.world.slave := by
  have hcarried : ∀ {call : MasterCall}, (∃ r, CarriedOut s call r) →
      Yields (call.run (loopbackMaster timeoutMs) s.slaveId) ⟨⟨s, pending⟩, calls⟩
        fun reply bus' => Agrees call s reply bus'.world.slave := by
    rintro call ⟨r, hr⟩
    exact hr.yields_agrees flat hid hactive pending timeoutMs calls
  cases call with
  | readCoils => exact hcarried (carriedOut_readCoils flat h)
  | readDiscreteInputs => exact hcarried (carriedOut_readDiscreteInputs flat h)
  | readHoldingRegisters => exact hcarried (carriedOut_readHoldingRegisters flat h)
  | readInputRegisters => exact hcarried (carriedOut_readInputRegisters flat h)
  | writeSingleCoil => exact hcarried (carriedOut_writeSingleCoil flat h)
  | writeSingleRegister => exact hcarried (carriedOut_writeSingleRegister flat h)
  | writeMultipleCoils => exact hcarried (carriedOut_writeMultipleCoils flat h)
  | writeMultipleRegisters => exact hcarried (carriedOut_writeMultipleRegisters flat h)
  | readExceptionStatus => exact hcarried carriedOut_readExceptionStatus
  | readFileRecord => exact hcarried (carriedOut_readFileRecord h)
  | writeFileRecord => exact hcarried (carriedOut_writeFileRecord h)
  | readWriteMultipleRegisters =>
      exact hcarried (carriedOut_readWriteMultipleRegisters flat h)
  | readDeviceIdentification => exact hcarried (carriedOut_readDeviceIdentification h)
  | maskWriteRegister => exact hcarried (carriedOut_maskWriteRegister flat hid h)
  | readFifoQueue => exact hcarried (carriedOut_readFifoQueue hid h)
  | getCommEventCounter =>
      exact yields_agrees_getCommEventCounter flat hid hactive pending timeoutMs calls
  | getCommEventLog => exact yields_agrees_getCommEventLog flat hid hactive pending timeoutMs calls h
  | reportServerId => exact yields_agrees_reportServerId flat hid hactive pending timeoutMs calls h
  | diagQueryData | diagRestartComm | diagClearCounters | diagReadCounter => exact h.elim

/-- The master and the slave agree: every call inside the tables succeeds, delivers
what the slave has stored and leaves the slave as direct access would; and an
exception, whatever the arguments, reaches the caller with its code. -/
theorem masterCall_agrees (s : Slave boardConfig) (hactive : s.listenOnly = false)
    (hid : s.slaveId ≠ 0) (pending : List Byte) (timeoutMs : ℕ) (call : MasterCall) :
    (call.InRange s →
      Yields (call.run (loopbackMaster timeoutMs) s.slaveId) ⟨⟨s, pending⟩, []⟩
        fun reply bus' => Agrees call s reply bus'.world.slave) ∧
    (call.refused s.slaveId = false → ∀ code,
      Yields (modbusRtuProcess (rtuFrame s.slaveId call.requestPdu)) s
        (fun out _ => answerOf out.tx = .exception code) →
      Yields (call.run (loopbackMaster timeoutMs) s.slaveId) ⟨⟨s, pending⟩, []⟩
        fun reply _ => reply.status = .exception ∧ reply.exceptionCode = some code) := by
  refine ⟨fun hrange => ?_, fun haccepted code hanswered => ?_⟩
  · exact MasterCall.yields_agrees Config.boardConfig_flat hid hactive pending timeoutMs [] hrange
  · exact MasterCall.yields_run_exception Config.boardConfig_flat hid haccepted hanswered pending
      timeoutMs []

/-- Register 5 is written, and a coil outside the table is refused with exception
code 2. -/
theorem masterCall_agrees_write :
    Yields ((MasterCall.writeSingleRegister 5 0x1234).run (loopbackMaster 500) 1)
        (⟨⟨Slave.powerOn (.none boardConfig), []⟩, []⟩ : Bus (Loopback boardConfig))
        (fun reply bus' => Agrees (.writeSingleRegister 5 0x1234)
          (Slave.powerOn (.none boardConfig)) reply bus'.world.slave) ∧
      Yields ((MasterCall.writeSingleCoil 0xFFFF 1).run (loopbackMaster 500) 1)
        (⟨⟨Slave.powerOn (.none boardConfig), []⟩, []⟩ : Bus (Loopback boardConfig))
        fun reply _ => reply.status = .exception ∧ reply.exceptionCode = some 2 := by
  have hid : (Slave.powerOn (.none boardConfig)).slaveId ≠ 0 := by decide
  have hsome : (MasterCall.writeSingleCoil 0xFFFF 1).requestPdu ≠ [] := List.cons_ne_nil _ _
  have hanswered : Yields (modbusRtuProcess (rtuFrame (Slave.powerOn (.none boardConfig)).slaveId
      (MasterCall.writeSingleCoil 0xFFFF 1).requestPdu)) (Slave.powerOn (.none boardConfig))
      fun out _ => answerOf out.tx = .exception 2 := by
    refine (yields_modbusRtuProcess Config.boardConfig_flat _ _).mono fun out s' hstep => ?_
    rw [show out = _ from congrArg Prod.fst hstep, slaveStep_request hid hsome,
      answerOf_addressedStep Config.boardConfig_flat _ hsome]
    decide +kernel
  exact ⟨(masterCall_agrees (Slave.powerOn (.none boardConfig)) rfl hid [] 500
      (.writeSingleRegister 5 0x1234)).1 (show 5 < boardConfig.maxRegisters by decide),
    (masterCall_agrees (Slave.powerOn (.none boardConfig)) rfl hid [] 500
      (.writeSingleCoil 0xFFFF 1)).2 rfl 2 hanswered⟩

end AutomationBoard.Modbus
