/-
# The master's response parsers

`modbus_master_parse_*` of `modbus_master.c`. A parser is given a response PDU,
whose length is `pdu_len`, and what it needs to know of the request; it returns
what it stores through its pointers, or nothing where the status is
`MODBUS_ERROR`. Each read of the PDU is checked. Pointers that must not be null
are taken to be valid; those that may be are flags here.
-/

import AutomationBoard.Modbus.Request

namespace AutomationBoard.Modbus

open AutomationBoard.Program

variable {σ : Type} {pdu : List Byte} {s : σ}

/-! ## Reads -/

/-- `pdu[i]`. -/
def pduByte (pdu : List Byte) (i : ℕ) : Checked Fault σ Byte :=
  orFault pdu[i]? (.outOfBounds .rxPdu i)

/-- `((uint16_t)pdu[i] << 8) | pdu[i + 1]`. -/
def pduWord (pdu : List Byte) (i : ℕ) : Checked Fault σ Word := do
  let hi ← pduByte pdu i
  let lo ← pduByte pdu (i + 1)
  pure (word hi lo)

/-- The bytes `pdu[start]` to `pdu[start + n - 1]`. -/
def bytesAt (pdu : List Byte) (start n : ℕ) : List Byte :=
  (List.range n).map fun i => byteAt pdu (start + i)

/-- `for (i = 0; i < n; i++) out[i] = pdu[start + i]`. -/
def pduBytes (pdu : List Byte) (start n : ℕ) : Checked Fault σ (List Byte) :=
  mapRange n fun i => pduByte pdu (start + i)

/-- The loop that stores `n` words. -/
def pduWords (pdu : List Byte) (start n : ℕ) : Checked Fault σ (List Word) :=
  mapRange n fun i => pduWord pdu (start + i * 2)

@[simp]
theorem yields_pduByte {i : ℕ} {post : Byte → σ → Prop} :
    Yields (pduByte pdu i) s post ↔ i < pdu.length ∧ post (byteAt pdu i) s := by
  rw [pduByte, yields_orFault]
  constructor
  · rintro ⟨b, hb, hpost⟩
    obtain ⟨hi, rfl⟩ := List.getElem?_eq_some_iff.mp hb
    refine ⟨hi, ?_⟩
    rwa [byteAt, List.getD_eq_getElem?_getD, List.getElem?_eq_getElem hi]
  · rintro ⟨hi, hpost⟩
    exact ⟨_, getElem?_eq_byteAt hi, hpost⟩

@[simp]
theorem yields_pduWord {i : ℕ} {post : Word → σ → Prop} :
    Yields (pduWord pdu i) s post ↔ i + 1 < pdu.length ∧ post (wordAt pdu i) s := by
  simp only [pduWord, yields_bind, yields_pduByte, yields_pure]
  constructor
  · rintro ⟨-, hlast, hpost⟩
    exact ⟨hlast, hpost⟩
  · rintro ⟨hlast, hpost⟩
    exact ⟨Nat.lt_of_succ_lt hlast, hlast, hpost⟩

@[simp]
theorem yields_pduBytes {start n : ℕ} {post : List Byte → σ → Prop} :
    Yields (pduBytes pdu start n) s post ↔
      (0 < n → start + n ≤ pdu.length) ∧ post (bytesAt pdu start n) s := by
  rw [pduBytes, yields_mapRange fun i s post => yields_pduByte, bytesAt]
  refine and_congr_left fun _ => ⟨fun hall hpos => ?_, fun hbound i hi => ?_⟩
  · have := hall (n - 1) (by omega)
    omega
  · have := hbound (by omega)
    omega

@[simp]
theorem yields_pduWords {start n : ℕ} {post : List Word → σ → Prop} :
    Yields (pduWords pdu start n) s post ↔
      (0 < n → start + n * 2 ≤ pdu.length) ∧ post (wordsAt pdu start n) s := by
  rw [pduWords, yields_mapRange fun i s post => yields_pduWord, wordsAt]
  refine and_congr_left fun _ => ⟨fun hall hpos => ?_, fun hbound i hi => ?_⟩
  · have := hall (n - 1) (by omega)
    omega
  · have := hbound (by omega)
    omega

@[simp]
theorem length_bytesAt (pdu : List Byte) (start n : ℕ) : (bytesAt pdu start n).length = n := by
  simp [bytesAt]

/-- The bytes of a range that is inside the PDU. -/
theorem bytesAt_eq_take_drop {start n : ℕ} (h : start + n ≤ pdu.length) :
    bytesAt pdu start n = (pdu.drop start).take n := by
  apply List.ext_getElem
  · rw [length_bytesAt, List.length_take, List.length_drop]
    omega
  · intro i hi _
    rw [length_bytesAt] at hi
    have hin : start + i < pdu.length := by omega
    simp [bytesAt, byteAt, hin]

/-! ## Parsers -/

/-- `modbus_master_parse_read_bits`. -/
def modbusMasterParseReadBits (pdu : List Byte) (quantity bitsOutMax : ℕ) :
    Checked Fault σ (Option (List Byte)) := do
  if pdu.length < 2 ∨ quantity < 1 then pure none
  else
    let expected := uint8 ((quantity + 7) / 8)
    let byteCount := (← pduByte pdu 1).toNat
    if byteCount ≠ expected ∨ pdu.length ≠ uint16 (2 + byteCount) then pure none
    else if byteCount > bitsOutMax then pure none
    else some <$> pduBytes pdu 2 byteCount

/-- `modbus_master_parse_read_registers`. -/
def modbusMasterParseReadRegisters (pdu : List Byte) (quantity : ℕ) :
    Checked Fault σ (Option (List Word)) := do
  if pdu.length < 2 ∨ quantity < 1 then pure none
  else
    let byteCount := (← pduByte pdu 1).toNat
    if byteCount ≠ uint8 (quantity * 2) ∨ pdu.length ≠ uint16 (2 + byteCount) then pure none
    else some <$> pduWords pdu 2 quantity

/-- `modbus_master_parse_exception_status`. -/
def modbusMasterParseExceptionStatus (pdu : List Byte) : Checked Fault σ (Option Byte) := do
  if pdu.length ≠ 2 then pure none
  else if (← pduByte pdu 0) ≠ FunctionCode.readExceptionStatus.code then pure none
  else some <$> pduByte pdu 1

/-- `modbus_master_parse_diagnostics`. -/
def modbusMasterParseDiagnostics (pdu : List Byte) (subFunction : Word) :
    Checked Fault σ (Option Word) := do
  if pdu.length ≠ 5 then pure none
  else if (← pduByte pdu 0) ≠ FunctionCode.diagnostics.code then pure none
  else
    let respSub ← pduWord pdu 1
    if respSub ≠ subFunction then pure none
    else some <$> pduWord pdu 3

/-- `modbus_master_parse_get_comm_event_counter`: the status and the event count. -/
def modbusMasterParseGetCommEventCounter (pdu : List Byte) :
    Checked Fault σ (Option (Word × Word)) := do
  if pdu.length ≠ 5 then pure none
  else if (← pduByte pdu 0) ≠ FunctionCode.getCommEventCounter.code then pure none
  else
    let status ← pduWord pdu 1
    let eventCount ← pduWord pdu 3
    pure (some (status, eventCount))

/-- What `modbus_master_parse_get_comm_event_log` stores; no events where
`events_out` is null. -/
structure CommEventLog where
  status : Word
  eventCount : Word
  messageCount : Word
  events : List Byte
  deriving DecidableEq

/-- `modbus_master_parse_get_comm_event_log`. The flags say which of `events_out`
and `events_len_out` are given. -/
def modbusMasterParseGetCommEventLog (pdu : List Byte) (eventsOut eventsLenOut : Bool)
    (eventsMax : ℕ) : Checked Fault σ (Option CommEventLog) := do
  if pdu.length < 2 then pure none
  else if (← pduByte pdu 0) ≠ FunctionCode.getCommEventLog.code then pure none
  else
    let byteCount := (← pduByte pdu 1).toNat
    if byteCount < 6 ∨ pdu.length ≠ uint16 (2 + byteCount) then pure none
    else
      let n := uint8 (byteCount - 6)
      if (eventsOut ∨ eventsLenOut) ∧ (¬ eventsOut ∨ ¬ eventsLenOut) then pure none
      else if eventsOut ∧ n > eventsMax then pure none
      else do
        let status ← pduWord pdu 2
        let eventCount ← pduWord pdu 4
        let messageCount ← pduWord pdu 6
        let events ← if eventsOut then pduBytes pdu 8 n else pure []
        pure (some ⟨status, eventCount, messageCount, events⟩)

/-- `modbus_master_parse_read_file_record`. -/
def modbusMasterParseReadFileRecord (pdu : List Byte) (recordLength : ℕ) :
    Checked Fault σ (Option (List Word)) := do
  if pdu.length < 4 then pure none
  else if (← pduByte pdu 0) ≠ FunctionCode.readFileRecord.code ∨ recordLength < 1 then pure none
  else
    let respDataLen := (← pduByte pdu 1).toNat
    if pdu.length ≠ uint16 (2 + respDataLen) then pure none
    else
      let fileRespLen := (← pduByte pdu 2).toNat
      let need := uint16 (1 + recordLength * 2)
      if fileRespLen ≠ need ∨ (← pduByte pdu 3) ≠ fileRefType ∨
          respDataLen ≠ uint8 (1 + fileRespLen) then pure none
      else some <$> pduWords pdu 4 recordLength

/-- `MODBUS_MASTER_DEVID_VALUE_MAX`. -/
def devidValueMax : ℕ := 64

/-- `MODBUS_MASTER_DEVID_OBJECTS_MAX`. -/
def devidObjectsMax : ℕ := 8

/-- `modbus_master_devid_object_t`; its `length` is the length of the value. -/
structure DevidObject where
  objectId : Byte
  value : List Byte
  deriving DecidableEq

/-- `modbus_master_devid_t`; its `object_count` is the length of the list. -/
structure Devid where
  readDeviceIdCode : Byte
  conformityLevel : Byte
  moreFollows : Byte
  nextObjectId : Byte
  objects : List DevidObject
  deriving DecidableEq

/-- The loop over the objects of a device identification, with `n` to go and the
next at `pos`. -/
def parseDevidObjects (pdu : List Byte) : ℕ → ℕ → Checked Fault σ (Option (List DevidObject))
  | 0, _ => pure (some [])
  | n + 1, pos => do
      if pos + 2 > pdu.length then pure none
      else
        let objectId ← pduByte pdu pos
        let slen := (← pduByte pdu (uint16 (pos + 1))).toNat
        let pos := uint16 (pos + 2)
        if pos + slen > pdu.length then pure none
        else
          let copy := if slen > devidValueMax then devidValueMax else slen
          let value ← pduBytes pdu pos copy
          let rest ← parseDevidObjects pdu n (uint16 (pos + slen))
          pure (rest.map (⟨objectId, value⟩ :: ·))

/-- `modbus_master_parse_device_id`. -/
def modbusMasterParseDeviceId (pdu : List Byte) : Checked Fault σ (Option Devid) := do
  if pdu.length < 7 then pure none
  else if (← pduByte pdu 0) ≠ FunctionCode.encapsulatedInterface.code ∨
      (← pduByte pdu 1) ≠ 0x0E then pure none
  else
    let readDeviceIdCode ← pduByte pdu 2
    let conformityLevel ← pduByte pdu 3
    let moreFollows ← pduByte pdu 4
    let nextObjectId ← pduByte pdu 5
    let n := (← pduByte pdu 6).toNat
    let n := if n > devidObjectsMax then devidObjectsMax else n
    let objects ← parseDevidObjects pdu n 7
    pure (objects.map (⟨readDeviceIdCode, conformityLevel, moreFollows, nextObjectId, ·⟩))

/-- The loop of `modbus_master_parse_echo`, with `n` bytes to go from `i` on. -/
def echoLoop (pdu reqPdu : List Byte) : ℕ → ℕ → Checked Fault σ Bool
  | 0, _ => pure true
  | n + 1, i => do
      if (← pduByte pdu i) ≠ (← pduByte reqPdu i) then pure false
      else echoLoop pdu reqPdu n (i + 1)

/-- `modbus_master_parse_echo`: the status is `MODBUS_OK`. -/
def modbusMasterParseEcho (pdu reqPdu : List Byte) : Checked Fault σ Bool :=
  if pdu.length ≠ reqPdu.length ∨ reqPdu.length = 0 then pure false
  else echoLoop pdu reqPdu reqPdu.length 0

/-- What `modbus_master_parse_report_server_id` stores; no id where `id_out` and
`id_len_out` are both null. -/
structure ServerId where
  id : List Byte
  runStatus : Byte
  deriving DecidableEq

/-- `modbus_master_parse_report_server_id`. The flags say which of `id_out` and
`id_len_out` are given. -/
def modbusMasterParseReportServerId (pdu : List Byte) (idOut idLenOut : Bool) (idMax : ℕ) :
    Checked Fault σ (Option ServerId) := do
  if pdu.length < 3 then pure none
  else if (← pduByte pdu 0) ≠ FunctionCode.reportServerId.code then pure none
  else
    let byteCount := (← pduByte pdu 1).toNat
    if byteCount < 1 ∨ pdu.length ≠ uint16 (2 + byteCount) then pure none
    else
      let idLen := uint8 (byteCount - 1)
      if (idOut ∨ idLenOut) ∧ (¬ idOut ∨ ¬ idLenOut ∨ idLen > idMax) then pure none
      else do
        let id ← if idOut then pduBytes pdu 2 idLen else pure []
        let runStatus ← pduByte pdu (2 + idLen)
        pure (some ⟨id, runStatus⟩)

/-- `modbus_master_parse_read_fifo_queue`. -/
def modbusMasterParseReadFifoQueue (pdu : List Byte) (regsMax : ℕ) :
    Checked Fault σ (Option (List Word)) := do
  if pdu.length < 5 then pure none
  else if (← pduByte pdu 0) ≠ FunctionCode.readFifoQueue.code then pure none
  else
    let byteCount := (← pduWord pdu 1).toNat
    let fifoCount := (← pduWord pdu 3).toNat
    if fifoCount > 31 ∨ byteCount ≠ 2 + 2 * fifoCount ∨ pdu.length ≠ 5 + 2 * fifoCount then
      pure none
    else if fifoCount > regsMax then pure none
    else some <$> pduWords pdu 5 fifoCount

/-! ## What the parsers accept -/

theorem uint16_two_add (b : Byte) : uint16 (2 + b.toNat) = 2 + b.toNat := by
  have := b.isLt
  exact uint16_of_lt (by omega)

theorem uint8_sub_toNat (b : Byte) (n : ℕ) : uint8 (b.toNat - n) = b.toNat - n := by
  have := b.isLt
  exact uint8_of_lt (by omega)

/-- A response with packed bits, with the byte count the request leads to. -/
def ReadBitsResponse (pdu : List Byte) (quantity bitsOutMax : ℕ) : Prop :=
  1 ≤ quantity ∧ pdu.length = 2 + (byteAt pdu 1).toNat ∧
    (byteAt pdu 1).toNat = uint8 ((quantity + 7) / 8) ∧ (byteAt pdu 1).toNat ≤ bitsOutMax

instance (pdu : List Byte) (quantity bitsOutMax : ℕ) :
    Decidable (ReadBitsResponse pdu quantity bitsOutMax) := inferInstanceAs (Decidable (_ ∧ _))

theorem yields_modbusMasterParseReadBits {quantity bitsOutMax : ℕ}
    {post : Option (List Byte) → σ → Prop} :
    Yields (modbusMasterParseReadBits pdu quantity bitsOutMax) s post ↔
      post (if ReadBitsResponse pdu quantity bitsOutMax then
        some (bytesAt pdu 2 (byteAt pdu 1).toNat) else none) s := by
  simp only [modbusMasterParseReadBits, yields_ite, yields_pure, yields_bind, yields_pduByte,
    yields_map, yields_pduBytes, uint16_two_add]
  grind [ReadBitsResponse]

/-- A response with registers, with the byte count the request leads to. -/
def ReadRegistersResponse (pdu : List Byte) (quantity : ℕ) : Prop :=
  1 ≤ quantity ∧ pdu.length = 2 + (byteAt pdu 1).toNat ∧
    (byteAt pdu 1).toNat = uint8 (quantity * 2)

instance (pdu : List Byte) (quantity : ℕ) : Decidable (ReadRegistersResponse pdu quantity) :=
  inferInstanceAs (Decidable (_ ∧ _))

/-- The copy loop runs on the quantity, not on the byte count that was checked. -/
theorem yields_modbusMasterParseReadRegisters {quantity : ℕ}
    {post : Option (List Word) → σ → Prop} :
    Yields (modbusMasterParseReadRegisters pdu quantity) s post ↔
      (ReadRegistersResponse pdu quantity → 2 + quantity * 2 ≤ pdu.length) ∧
        post (if ReadRegistersResponse pdu quantity then some (wordsAt pdu 2 quantity) else none)
          s := by
  simp only [modbusMasterParseReadRegisters, yields_ite, yields_pure, yields_bind, yields_pduByte,
    yields_map, yields_pduWords, uint16_two_add]
  grind [ReadRegistersResponse]

theorem yields_modbusMasterParseExceptionStatus {post : Option Byte → σ → Prop} :
    Yields (modbusMasterParseExceptionStatus pdu) s post ↔
      post (if pdu.length = 2 ∧ byteAt pdu 0 = FunctionCode.readExceptionStatus.code then
        some (byteAt pdu 1) else none) s := by
  simp only [modbusMasterParseExceptionStatus, yields_ite, yields_pure, yields_bind,
    yields_pduByte, yields_map]
  grind

theorem yields_modbusMasterParseGetCommEventCounter {post : Option (Word × Word) → σ → Prop} :
    Yields (modbusMasterParseGetCommEventCounter pdu) s post ↔
      post (if pdu.length = 5 ∧ byteAt pdu 0 = FunctionCode.getCommEventCounter.code then
        some (wordAt pdu 1, wordAt pdu 3) else none) s := by
  simp only [modbusMasterParseGetCommEventCounter, yields_ite, yields_pure, yields_bind,
    yields_pduByte, yields_pduWord]
  grind

/-- A response with the event log, with room for the events where they are
asked for. -/
def GetCommEventLogResponse (pdu : List Byte) (eventsOut eventsLenOut : Bool) (eventsMax : ℕ) :
    Prop :=
  byteAt pdu 0 = FunctionCode.getCommEventLog.code ∧ 6 ≤ (byteAt pdu 1).toNat ∧
    pdu.length = 2 + (byteAt pdu 1).toNat ∧ eventsOut = eventsLenOut ∧
    (eventsOut = true → (byteAt pdu 1).toNat - 6 ≤ eventsMax)

instance (pdu : List Byte) (eventsOut eventsLenOut : Bool) (eventsMax : ℕ) :
    Decidable (GetCommEventLogResponse pdu eventsOut eventsLenOut eventsMax) :=
  inferInstanceAs (Decidable (_ ∧ _))

theorem yields_modbusMasterParseGetCommEventLog {eventsOut eventsLenOut : Bool} {eventsMax : ℕ}
    {post : Option CommEventLog → σ → Prop} :
    Yields (modbusMasterParseGetCommEventLog pdu eventsOut eventsLenOut eventsMax) s post ↔
      post (if GetCommEventLogResponse pdu eventsOut eventsLenOut eventsMax then
        some ⟨wordAt pdu 2, wordAt pdu 4, wordAt pdu 6,
          if eventsOut then bytesAt pdu 8 ((byteAt pdu 1).toNat - 6) else []⟩ else none) s := by
  simp only [modbusMasterParseGetCommEventLog, yields_ite, yields_pure, yields_bind,
    yields_pduByte, yields_pduWord, yields_pduBytes, uint16_two_add, uint8_sub_toNat]
  cases eventsOut <;> grind [GetCommEventLogResponse]

/-- A response with one sub-response, with the lengths the request leads to. -/
def ReadFileRecordResponse (pdu : List Byte) (recordLength : ℕ) : Prop :=
  1 ≤ recordLength ∧ 4 ≤ pdu.length ∧ byteAt pdu 0 = FunctionCode.readFileRecord.code ∧
    pdu.length = 2 + (byteAt pdu 1).toNat ∧
    (byteAt pdu 2).toNat = uint16 (1 + recordLength * 2) ∧ byteAt pdu 3 = fileRefType ∧
    (byteAt pdu 1).toNat = uint8 (1 + (byteAt pdu 2).toNat)

instance (pdu : List Byte) (recordLength : ℕ) :
    Decidable (ReadFileRecordResponse pdu recordLength) := inferInstanceAs (Decidable (_ ∧ _))

theorem yields_modbusMasterParseReadFileRecord {recordLength : ℕ}
    {post : Option (List Word) → σ → Prop} :
    Yields (modbusMasterParseReadFileRecord pdu recordLength) s post ↔
      (ReadFileRecordResponse pdu recordLength → 4 + recordLength * 2 ≤ pdu.length) ∧
        post (if ReadFileRecordResponse pdu recordLength then some (wordsAt pdu 4 recordLength)
          else none) s := by
  simp only [modbusMasterParseReadFileRecord, yields_ite, yields_pure, yields_bind,
    yields_pduByte, yields_map, yields_pduWords, uint16_two_add]
  grind [ReadFileRecordResponse]

/-- The objects from `pos` on, where none goes beyond the end. -/
def devidObjectsAt (pdu : List Byte) : ℕ → ℕ → Option (List DevidObject)
  | 0, _ => some []
  | n + 1, pos =>
      let slen := (byteAt pdu (pos + 1)).toNat
      if pos + 2 + slen > pdu.length then none
      else (devidObjectsAt pdu n (pos + 2 + slen)).map
        (⟨byteAt pdu pos, bytesAt pdu (pos + 2) (min slen devidValueMax)⟩ :: ·)

/-- No position leaves a PDU whose length fits in 16 bits. -/
theorem yields_parseDevidObjects (hlength : pdu.length < 65536) {n pos : ℕ}
    {post : Option (List DevidObject) → σ → Prop} :
    Yields (parseDevidObjects pdu n pos) s post ↔ post (devidObjectsAt pdu n pos) s := by
  induction n generalizing pos post with
  | zero => exact yields_pure
  | succ n ih =>
      rw [parseDevidObjects, devidObjectsAt]
      by_cases hroom : pos + 2 > pdu.length
      · have hend : pos + 2 + (byteAt pdu (pos + 1)).toNat > pdu.length := by omega
        simp only [if_pos hroom, if_pos hend, yields_pure]
      · have hnext : uint16 (pos + 1) = pos + 1 := uint16_of_lt (by omega)
        have hvalue : uint16 (pos + 2) = pos + 2 := uint16_of_lt (by omega)
        simp only [if_neg hroom, hnext, hvalue, yields_bind, yields_pduByte, yields_ite, yields_pure]
        by_cases hend : pos + 2 + (byteAt pdu (pos + 1)).toNat > pdu.length
        · simp only [if_pos hend]
          grind
        · have hrest : uint16 (pos + 2 + (byteAt pdu (pos + 1)).toNat) =
              pos + 2 + (byteAt pdu (pos + 1)).toNat := uint16_of_lt (by omega)
          simp only [if_neg hend, hrest, yields_pduBytes, ih]
          grind

/-- A device identification with its seven bytes of header. -/
def DeviceIdResponse (pdu : List Byte) : Prop :=
  7 ≤ pdu.length ∧ byteAt pdu 0 = FunctionCode.encapsulatedInterface.code ∧ byteAt pdu 1 = 0x0E

instance (pdu : List Byte) : Decidable (DeviceIdResponse pdu) := inferInstanceAs (Decidable (_ ∧ _))

theorem yields_modbusMasterParseDeviceId (hlength : pdu.length < 65536)
    {post : Option Devid → σ → Prop} :
    Yields (modbusMasterParseDeviceId pdu) s post ↔
      post (if DeviceIdResponse pdu then
        (devidObjectsAt pdu (min (byteAt pdu 6).toNat devidObjectsMax) 7).map
          (⟨byteAt pdu 2, byteAt pdu 3, byteAt pdu 4, byteAt pdu 5, ·⟩) else none) s := by
  simp only [modbusMasterParseDeviceId, yields_ite, yields_pure, yields_bind, yields_pduByte,
    yields_parseDevidObjects hlength]
  grind [DeviceIdResponse]

/-- The echo loop compares the rest of both PDUs. -/
theorem yields_echoLoop {reqPdu : List Byte} (hlength : pdu.length = reqPdu.length) {n i : ℕ}
    (hbound : i + n = reqPdu.length) {post : Bool → σ → Prop} :
    Yields (echoLoop pdu reqPdu n i) s post ↔ post (pdu.drop i = reqPdu.drop i) s := by
  induction n generalizing i with
  | zero =>
      rw [echoLoop, yields_pure, List.drop_of_length_le (by omega),
        List.drop_of_length_le (by omega), decide_eq_true rfl]
  | succ n ih =>
      have hi : i < pdu.length := by omega
      have hi' : i < reqPdu.length := by omega
      have hcons : (pdu.drop i = reqPdu.drop i) ↔
          byteAt pdu i = byteAt reqPdu i ∧ pdu.drop (i + 1) = reqPdu.drop (i + 1) := by
        rw [List.drop_eq_getElem_cons hi, List.drop_eq_getElem_cons hi', List.cons.injEq, byteAt,
          byteAt]
        simp [hi, hi']
      simp only [echoLoop, yields_bind, yields_pduByte, yields_ite, yields_pure, hcons,
        ih (i := i + 1) (by omega)]
      by_cases hbyte : byteAt pdu i = byteAt reqPdu i
      · simp [hi, hi', hbyte]
      · simp [hi, hi', hbyte]

theorem yields_modbusMasterParseEcho {reqPdu : List Byte} {post : Bool → σ → Prop} :
    Yields (modbusMasterParseEcho pdu reqPdu) s post ↔
      post (pdu = reqPdu ∧ reqPdu ≠ [] : Prop) s := by
  rw [modbusMasterParseEcho]
  split_ifs with hlength
  · have hnot : ¬ (pdu = reqPdu ∧ reqPdu ≠ []) := by
      rintro ⟨rfl, hsome⟩
      exact hlength.elim (fun h => h rfl) fun h => hsome (List.length_eq_zero_iff.mp h)
    rw [yields_pure, decide_eq_false hnot]
  · obtain ⟨hsame, hpos⟩ := not_or.mp hlength
    have hsome : reqPdu ≠ [] := fun h => hpos (by rw [h]; rfl)
    rw [yields_echoLoop (not_not.mp hsame) (Nat.zero_add _)]
    simp [hsome]

/-- A response with a server id, with room for it where it is asked for. -/
def ReportServerIdResponse (pdu : List Byte) (idOut idLenOut : Bool) (idMax : ℕ) : Prop :=
  3 ≤ pdu.length ∧ byteAt pdu 0 = FunctionCode.reportServerId.code ∧
    pdu.length = 2 + (byteAt pdu 1).toNat ∧ idOut = idLenOut ∧
    (idOut = true → (byteAt pdu 1).toNat - 1 ≤ idMax)

instance (pdu : List Byte) (idOut idLenOut : Bool) (idMax : ℕ) :
    Decidable (ReportServerIdResponse pdu idOut idLenOut idMax) :=
  inferInstanceAs (Decidable (_ ∧ _))

theorem yields_modbusMasterParseReportServerId {idOut idLenOut : Bool} {idMax : ℕ}
    {post : Option ServerId → σ → Prop} :
    Yields (modbusMasterParseReportServerId pdu idOut idLenOut idMax) s post ↔
      post (if ReportServerIdResponse pdu idOut idLenOut idMax then
        some ⟨if idOut then bytesAt pdu 2 ((byteAt pdu 1).toNat - 1) else [],
          byteAt pdu (1 + (byteAt pdu 1).toNat)⟩ else none) s := by
  simp only [modbusMasterParseReportServerId, yields_ite, yields_pure, yields_bind,
    yields_pduByte, yields_pduBytes, uint16_two_add, uint8_sub_toNat]
  cases idOut <;> grind [ReportServerIdResponse]

/-- A response with the values of a queue, with room for them. -/
def ReadFifoQueueResponse (pdu : List Byte) (regsMax : ℕ) : Prop :=
  byteAt pdu 0 = FunctionCode.readFifoQueue.code ∧ (wordAt pdu 3).toNat ≤ 31 ∧
    (wordAt pdu 1).toNat = 2 + 2 * (wordAt pdu 3).toNat ∧
    pdu.length = 5 + 2 * (wordAt pdu 3).toNat ∧ (wordAt pdu 3).toNat ≤ regsMax

instance (pdu : List Byte) (regsMax : ℕ) : Decidable (ReadFifoQueueResponse pdu regsMax) :=
  inferInstanceAs (Decidable (_ ∧ _))

theorem yields_modbusMasterParseReadFifoQueue {regsMax : ℕ}
    {post : Option (List Word) → σ → Prop} :
    Yields (modbusMasterParseReadFifoQueue pdu regsMax) s post ↔
      post (if ReadFifoQueueResponse pdu regsMax then some (wordsAt pdu 5 (wordAt pdu 3).toNat)
        else none) s := by
  simp only [modbusMasterParseReadFifoQueue, yields_ite, yields_pure, yields_bind,
    yields_pduByte, yields_pduWord, yields_map, yields_pduWords]
  grind [ReadFifoQueueResponse]

end AutomationBoard.Modbus
