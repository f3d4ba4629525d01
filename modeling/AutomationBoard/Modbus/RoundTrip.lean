/-
# Responses are read back

The slave and the master write every byte count and every limit of a response
twice, each in its own code. For each kind of response, the parser of the master
accepts what the slave builds and gets the values that were put into it.
-/

import AutomationBoard.Modbus.MasterParse
import AutomationBoard.Modbus.Refinement.Tables
import AutomationBoard.Modbus.Rtu

namespace AutomationBoard.Modbus

open AutomationBoard.Math AutomationBoard.Program

variable {σ : Type} {s : σ}

/-! ## Fields behind a header -/

theorem bytesAt_append (head bytes : List Byte) :
    bytesAt (head ++ bytes) head.length bytes.length = bytes := by
  rw [bytesAt_eq_take_drop (by rw [List.length_append]), List.drop_left, List.take_length]

theorem bytesAt_append_append (head bytes rest : List Byte) :
    bytesAt (head ++ (bytes ++ rest)) head.length bytes.length = bytes := by
  rw [bytesAt_eq_take_drop (by rw [List.length_append, List.length_append]; omega),
    List.drop_left, List.take_left]

/-! ## Bits and registers -/

/-- The packed bits of a read. -/
theorem yields_parseReadBits_bitsPdu (fc : FunctionCode) (f : ℕ → Bool) {n bitsOutMax : ℕ}
    (hlow : 1 ≤ n) (hhigh : n ≤ 2000) (hroom : (n + 7) / 8 ≤ bitsOutMax)
    {post : Option (List Byte) → σ → Prop} :
    Yields (modbusMasterParseReadBits (bitsPdu fc f n) n bitsOutMax) s post ↔
      post (some (packBits f n)) s := by
  have hcount : (byteAt (bitsPdu fc f n) 1).toNat = (n + 7) / 8 := toNat_ofNat_byte (by omega)
  have hlength : (bitsPdu fc f n).length = 2 + (n + 7) / 8 := by
    rw [bitsPdu, List.length_cons, List.length_cons, length_packBits]
    omega
  have hbits : bytesAt (bitsPdu fc f n) 2 ((n + 7) / 8) = packBits f n := by
    have := bytesAt_append [fc.code, BitVec.ofNat 8 ((n + 7) / 8)] (packBits f n)
    rwa [length_packBits] at this
  have haccepted : ReadBitsResponse (bitsPdu fc f n) n bitsOutMax := by
    rw [ReadBitsResponse, hcount, hlength, uint8_of_lt (by omega)]
    exact ⟨hlow, rfl, rfl, hroom⟩
  rw [yields_modbusMasterParseReadBits, if_pos haccepted, hcount, hbits]

/-- The values of a read of registers. -/
theorem yields_parseReadRegisters_registersPdu (fc : FunctionCode) {values : List Word}
    (hlow : 1 ≤ values.length) (hhigh : values.length ≤ 125)
    {post : Option (List Word) → σ → Prop} :
    Yields (modbusMasterParseReadRegisters (registersPdu fc values) values.length) s post ↔
      post (some values) s := by
  have hcount : (byteAt (registersPdu fc values) 1).toNat = values.length * 2 :=
    toNat_ofNat_byte (by omega)
  have hlength : (registersPdu fc values).length = 2 + values.length * 2 := by
    rw [registersPdu, List.length_cons, List.length_cons, length_bytesOfWords]
    omega
  have haccepted : ReadRegistersResponse (registersPdu fc values) values.length := by
    rw [ReadRegistersResponse, hcount, hlength, uint8_of_lt (by omega)]
    exact ⟨hlow, rfl, rfl⟩
  have hvalues : wordsAt (registersPdu fc values) 2 values.length = values :=
    wordsAt_append_bytesOfWords [fc.code, BitVec.ofNat 8 (values.length * 2)] values
  rw [yields_modbusMasterParseReadRegisters, if_pos haccepted, hvalues, and_iff_right]
  exact fun _ => hlength.ge

/-! ## Files and queues -/

/-- The values of a file record, in a response with one sub-response. -/
theorem yields_parseReadFileRecord {values : List Word} (hlow : 1 ≤ values.length)
    (hhigh : values.length ≤ 124) {post : Option (List Word) → σ → Prop} :
    Yields (modbusMasterParseReadFileRecord (FunctionCode.readFileRecord.code ::
        BitVec.ofNat 8 (2 + values.length * 2) :: BitVec.ofNat 8 (1 + values.length * 2) ::
          fileRefType :: bytesOfWords values) values.length) s post ↔ post (some values) s := by
  have hvalues := wordsAt_append_bytesOfWords [FunctionCode.readFileRecord.code,
    BitVec.ofNat 8 (2 + values.length * 2), BitVec.ofNat 8 (1 + values.length * 2), fileRefType]
    values
  have hdata : (BitVec.ofNat 8 (2 + values.length * 2)).toNat = 2 + values.length * 2 :=
    toNat_ofNat_byte (by omega)
  have hfile : (BitVec.ofNat 8 (1 + values.length * 2)).toNat = 1 + values.length * 2 :=
    toNat_ofNat_byte (by omega)
  have haccepted : ReadFileRecordResponse (FunctionCode.readFileRecord.code ::
      BitVec.ofNat 8 (2 + values.length * 2) :: BitVec.ofNat 8 (1 + values.length * 2) ::
        fileRefType :: bytesOfWords values) values.length := by
    refine ⟨hlow, by simp, rfl, ?_, ?_, rfl, ?_⟩
    · refine Eq.trans ?_ (congrArg (2 + ·) hdata.symm)
      simp
      omega
    · rw [uint16_of_lt (by omega)]
      exact hfile
    · refine hdata.trans ?_
      rw [show byteAt _ 2 = BitVec.ofNat 8 (1 + values.length * 2) from rfl, hfile,
        uint8_of_lt (by omega)]
      omega
  rw [yields_modbusMasterParseReadFileRecord, if_pos haccepted, and_iff_right]
  · exact iff_of_eq (congrArg (fun regs => post (some regs) s) hvalues)
  · intro _
    simp
    omega

/-- The values of a queue, if there is room for them. -/
theorem yields_parseReadFifoQueue {values : List Word} {regsMax : ℕ} (hhigh : values.length ≤ 31)
    (hroom : values.length ≤ regsMax) {post : Option (List Word) → σ → Prop} :
    Yields (modbusMasterParseReadFifoQueue (FunctionCode.readFifoQueue.code :: 0x00 ::
        BitVec.ofNat 8 (2 + 2 * values.length) :: 0x00 :: BitVec.ofNat 8 values.length ::
          bytesOfWords values) regsMax) s post ↔ post (some values) s := by
  have hvalues := wordsAt_append_bytesOfWords [FunctionCode.readFifoQueue.code, 0x00,
    BitVec.ofNat 8 (2 + 2 * values.length), 0x00, BitVec.ofNat 8 values.length] values
  have hbytes : (word 0x00 (BitVec.ofNat 8 (2 + 2 * values.length))).toNat =
      2 + 2 * values.length := by
    rw [toNat_word, toNat_ofNat_byte (by omega)]
    exact Nat.zero_add _
  have hcount : (word 0x00 (BitVec.ofNat 8 values.length)).toNat = values.length := by
    rw [toNat_word, toNat_ofNat_byte (by omega)]
    exact Nat.zero_add _
  rw [yields_modbusMasterParseReadFifoQueue]
  generalize hpdu : FunctionCode.readFifoQueue.code :: 0x00 ::
    BitVec.ofNat 8 (2 + 2 * values.length) :: 0x00 :: BitVec.ofNat 8 values.length ::
      bytesOfWords values = pdu
  have hlength : pdu.length = 5 + 2 * values.length := by
    rw [← hpdu]
    simp
    omega
  have hfirst : (wordAt pdu 1).toNat = 2 + 2 * values.length := by
    rw [← hpdu]
    exact hbytes
  have hsecond : (wordAt pdu 3).toNat = values.length := by
    rw [← hpdu]
    exact hcount
  have haccepted : ReadFifoQueueResponse pdu regsMax := by
    rw [ReadFifoQueueResponse, hfirst, hsecond, hlength]
    exact ⟨by rw [← hpdu]; rfl, hhigh, rfl, rfl, hroom⟩
  rw [if_pos haccepted, hsecond, ← hpdu]
  exact iff_of_eq (congrArg (fun regs => post (some regs) s) hvalues)

/-! ## The serial line -/

/-- The status of the slave and its event count. -/
theorem yields_parseGetCommEventCounter (status eventCount : Word)
    {post : Option (Word × Word) → σ → Prop} :
    Yields (modbusMasterParseGetCommEventCounter (FunctionCode.getCommEventCounter.code ::
        bytesOfWords [status, eventCount])) s post ↔ post (some (status, eventCount)) s := by
  have hstatus : wordAt (FunctionCode.getCommEventCounter.code ::
      bytesOfWords [status, eventCount]) 1 = status := word_hiByte_loByte status
  have hcount : wordAt (FunctionCode.getCommEventCounter.code ::
      bytesOfWords [status, eventCount]) 3 = eventCount := word_hiByte_loByte eventCount
  rw [yields_modbusMasterParseGetCommEventCounter, if_pos ⟨rfl, rfl⟩, hstatus, hcount]

/-- The event log, with the events where they are asked for and fit. -/
theorem yields_parseGetCommEventLog (status eventCount messageCount : Word) {events : List Byte}
    (hsize : events.length ≤ 64) {eventsOut eventsLenOut : Bool} (hflags : eventsOut = eventsLenOut)
    {eventsMax : ℕ} (hroom : eventsOut = true → events.length ≤ eventsMax)
    {post : Option CommEventLog → σ → Prop} :
    Yields (modbusMasterParseGetCommEventLog (FunctionCode.getCommEventLog.code ::
        BitVec.ofNat 8 (6 + events.length) ::
          (bytesOfWords [status, eventCount, messageCount] ++ events)) eventsOut eventsLenOut
        eventsMax) s post ↔
      post (some ⟨status, eventCount, messageCount, if eventsOut then events else []⟩) s := by
  rw [yields_modbusMasterParseGetCommEventLog]
  generalize hpdu : FunctionCode.getCommEventLog.code :: BitVec.ofNat 8 (6 + events.length) ::
    (bytesOfWords [status, eventCount, messageCount] ++ events) = pdu
  have hbyteCount : (byteAt pdu 1).toNat = 6 + events.length := by
    rw [← hpdu]
    exact toNat_ofNat_byte (by omega)
  have hlength : pdu.length = 8 + events.length := by
    rw [← hpdu]
    simp
    omega
  have hstatus : wordAt pdu 2 = status := by
    rw [← hpdu]
    exact word_hiByte_loByte status
  have heventCount : wordAt pdu 4 = eventCount := by
    rw [← hpdu]
    exact word_hiByte_loByte eventCount
  have hmessageCount : wordAt pdu 6 = messageCount := by
    rw [← hpdu]
    exact word_hiByte_loByte messageCount
  have hevents : bytesAt pdu 8 events.length = events := by
    rw [← hpdu]
    exact bytesAt_append (FunctionCode.getCommEventLog.code :: BitVec.ofNat 8 (6 + events.length) ::
      bytesOfWords [status, eventCount, messageCount]) events
  have haccepted : GetCommEventLogResponse pdu eventsOut eventsLenOut eventsMax := by
    rw [GetCommEventLogResponse, hbyteCount, hlength, Nat.add_sub_cancel_left]
    exact ⟨by rw [← hpdu]; rfl, Nat.le_add_right _ _, by omega, hflags, hroom⟩
  rw [if_pos haccepted, hbyteCount, Nat.add_sub_cancel_left, hstatus, heventCount, hmessageCount,
    hevents]

/-- The server id, where it is asked for and fits. -/
theorem yields_parseReportServerId {idOut idLenOut : Bool} (hflags : idOut = idLenOut) {idMax : ℕ}
    (hroom : idOut = true → modbusServerId.length ≤ idMax) {post : Option ServerId → σ → Prop} :
    Yields (modbusMasterParseReportServerId (modbusReportServerIdProcess 1) idOut idLenOut idMax) s
        post ↔
      post (some ⟨if idOut then modbusServerId else [], 0xFF⟩) s := by
  have haccepted : ReportServerIdResponse (modbusReportServerIdProcess 1) idOut idLenOut idMax :=
    ⟨by decide, by decide, by decide, hflags, hroom⟩
  rw [yields_modbusMasterParseReportServerId, if_pos haccepted]
  exact Iff.rfl

/-! ## Device identification -/

/-- The objects of an identification, behind any header and with anything after
them. -/
theorem devidObjectsAt_entries (head rest : List Byte) {oids : List ℕ}
    (hknown : ∀ oid ∈ oids, oid ≤ 2) :
    devidObjectsAt (head ++ (oids.flatMap deviceIdEntry ++ rest)) oids.length head.length =
      some (oids.map fun oid => ⟨BitVec.ofNat 8 oid, deviceIdObject oid⟩) := by
  induction oids generalizing head with
  | nil => rfl
  | cons oid oids ih =>
      have hshort := (modbusDevidObjectStr_known (hknown oid List.mem_cons_self)).2
      have hrest := ih (head ++ deviceIdEntry oid) fun o ho => hknown o (List.mem_cons_of_mem oid ho)
      rw [List.length_append, length_deviceIdEntry, List.append_assoc] at hrest
      rw [List.flatMap_cons, List.append_assoc]
      generalize oids.flatMap deviceIdEntry ++ rest = behind at hrest ⊢
      have hid : byteAt (head ++ (deviceIdEntry oid ++ behind)) head.length = BitVec.ofNat 8 oid :=
        byteAt_append_length head _ 0
      have hlen : (byteAt (head ++ (deviceIdEntry oid ++ behind)) (head.length + 1)).toNat =
          (deviceIdObject oid).length := by
        rw [byteAt_append_length]
        exact toNat_ofNat_byte (by omega)
      have hvalue : bytesAt (head ++ (deviceIdEntry oid ++ behind)) (head.length + 2)
          (deviceIdObject oid).length = deviceIdObject oid := by
        have h := bytesAt_append_append (head ++ [BitVec.ofNat 8 oid,
          BitVec.ofNat 8 (deviceIdObject oid).length]) (deviceIdObject oid) behind
        rwa [List.append_assoc, List.length_append] at h
      have hfits : ¬ head.length + 2 + (deviceIdObject oid).length >
          (head ++ (deviceIdEntry oid ++ behind)).length := by
        rw [List.length_append, List.length_append, length_deviceIdEntry]
        omega
      have hcopy : min (deviceIdObject oid).length devidValueMax = (deviceIdObject oid).length :=
        Nat.min_eq_left (by unfold devidValueMax; omega)
      rw [← Nat.add_assoc] at hrest
      simp only [List.length_cons, devidObjectsAt, hid, hlen, if_neg hfits, hrest, hcopy, hvalue,
        Option.map_some, List.map_cons]

theorem length_entries_le : ∀ last ≤ 2, ∀ first ≤ last,
    ((List.range' first (last + 1 - first)).flatMap deviceIdEntry).length ≤ 36 := by
  decide

/-- The objects of an identification with its header. -/
theorem yields_parseDeviceId {first last : ℕ} (hordered : first ≤ last) (hlast : last ≤ 2)
    (code : Byte) {post : Option Devid → σ → Prop} :
    Yields (modbusMasterParseDeviceId (FunctionCode.encapsulatedInterface.code :: 0x0E :: code ::
        0x81 :: 0x00 :: 0x00 :: BitVec.ofNat 8 (last - first + 1) ::
          (List.range' first (last + 1 - first)).flatMap deviceIdEntry)) s post ↔
      post (some ⟨code, 0x81, 0x00, 0x00, (List.range' first (last + 1 - first)).map fun oid =>
        ⟨BitVec.ofNat 8 oid, deviceIdObject oid⟩⟩) s := by
  have hknown : ∀ oid ∈ List.range' first (last + 1 - first), oid ≤ 2 := by
    intro oid hoid
    have := (List.mem_range'_1.mp hoid).2
    omega
  have hobjects := devidObjectsAt_entries (FunctionCode.encapsulatedInterface.code :: 0x0E ::
    code :: 0x81 :: 0x00 :: 0x00 :: [BitVec.ofNat 8 (last - first + 1)]) [] hknown
  have hentries := length_entries_le last hlast first hordered
  rw [List.append_nil, List.length_range'] at hobjects
  have hcount : (BitVec.ofNat 8 (last - first + 1)).toNat = last + 1 - first :=
    (toNat_ofNat_byte (by omega)).trans (by omega)
  generalize hpdu : FunctionCode.encapsulatedInterface.code :: 0x0E :: code :: 0x81 :: 0x00 ::
    0x00 :: BitVec.ofNat 8 (last - first + 1) ::
      (List.range' first (last + 1 - first)).flatMap deviceIdEntry = pdu
  have hlength : pdu.length = 7 +
      ((List.range' first (last + 1 - first)).flatMap deviceIdEntry).length := by
    rw [← hpdu]
    simp only [List.length_cons]
    omega
  have hfirst : min (byteAt pdu 6).toNat devidObjectsMax = last + 1 - first := by
    rw [← hpdu]
    refine (congrArg (min · devidObjectsMax) hcount).trans (Nat.min_eq_left ?_)
    unfold devidObjectsMax
    omega
  have haccepted : DeviceIdResponse pdu := by
    rw [DeviceIdResponse, hlength, ← hpdu]
    exact ⟨by omega, rfl, rfl⟩
  rw [yields_modbusMasterParseDeviceId (by omega), if_pos haccepted, hfirst]
  subst hpdu
  exact iff_of_eq (congrArg (fun objects => post (Option.map _ objects) s) hobjects)

end AutomationBoard.Modbus
