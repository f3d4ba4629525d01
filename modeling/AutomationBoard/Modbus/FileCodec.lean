/-
# The file record codec

The requests of the two file functions hold sub-requests one behind another,
those of a write with their data. The dispatcher walks over them by position. The
grammar here has no positions: a sub-request has an encoding, and a payload is
well formed if it is the encodings of some sub-requests put together. The walk
accepts exactly those payloads, stores or answers what they stand for, and
refuses the others.
-/

import AutomationBoard.Modbus.BuiltRequests
import AutomationBoard.Modbus.Exceptions

namespace AutomationBoard.Modbus

open AutomationBoard.Program

variable {cfg : Config}

/-! ## The grammar -/

/-- A sub-request: the reference type, the file, the first record and how many. -/
def FileSpan.encode (span : FileSpan) : List Byte :=
  fileRefType :: fields [span.file + 1, span.start, span.count]

/-- A sub-request of a write carries the values. -/
def FileWrite.encode (write : FileWrite) : List Byte :=
  write.span.encode ++ bytesOfWords write.values

/-- A request to write these sub-requests. -/
structure IsFileWrite (rx : List Byte) (writes : List FileWrite) : Prop where
  code : byteAt rx 0 = FunctionCode.writeFileRecord.code
  count : 0x09 ≤ (byteAt rx 1).toNat ∧ (byteAt rx 1).toNat ≤ 0xFB
  length : rx.length = 2 + (byteAt rx 1).toNat
  nonempty : writes ≠ []
  payload : rx.drop 2 = writes.flatMap FileWrite.encode

/-- A request to read these sub-requests. -/
structure IsFileRead (rx : List Byte) (spans : List FileSpan) : Prop where
  code : byteAt rx 0 = FunctionCode.readFileRecord.code
  count : 0x07 ≤ (byteAt rx 1).toNat ∧ (byteAt rx 1).toNat ≤ 0xF5
  length : rx.length = 2 + (byteAt rx 1).toNat
  nonempty : spans ≠ []
  payload : rx.drop 2 = spans.flatMap FileSpan.encode

/-- The bytes of the sub-responses to a read. -/
def responseBytes (spans : List FileSpan) : ℕ := (spans.map fun span => 2 + span.count * 2).sum

/-! ## Fields behind a position -/

theorem byteAt_drop (rx : List Byte) (pos i : ℕ) : byteAt (rx.drop pos) i = byteAt rx (pos + i) := by
  simp [byteAt]

theorem wordAt_drop (rx : List Byte) (pos i : ℕ) : wordAt (rx.drop pos) i = wordAt rx (pos + i) := by
  rw [wordAt, wordAt, byteAt_drop, byteAt_drop, Nat.add_assoc]

/-- The words at the front of a buffer, as bytes again. -/
theorem bytesOfWords_wordsAt {rx : List Byte} {pos n : ℕ} (h : pos + n * 2 ≤ rx.length) :
    bytesOfWords (wordsAt rx pos n) = (rx.drop pos).take (n * 2) := by
  induction n with
  | zero => rfl
  | succ n ih =>
      have hlast : wordsAt rx pos (n + 1) = wordsAt rx pos n ++ [wordAt rx (pos + n * 2)] := by
        simp [wordsAt, List.range_succ]
      have htake : (rx.drop pos).take ((n + 1) * 2) =
          (rx.drop pos).take (n * 2) ++ [byteAt rx (pos + n * 2)] ++
            [byteAt rx (pos + n * 2 + 1)] := by
        rw [show (n + 1) * 2 = n * 2 + 1 + 1 by omega, List.take_add_one, List.take_add_one,
          List.getElem?_drop, List.getElem?_drop, getElem?_eq_byteAt (by omega),
          getElem?_eq_byteAt (by omega)]
        rfl
      rw [hlast, bytesOfWords_concat, ih (by omega), htake, wordAt, hiByte_word, loByte_word]

theorem byteAt_append_left {head rest : List Byte} {i : ℕ} (h : i < head.length) :
    byteAt (head ++ rest) i = byteAt head i := by
  simp [byteAt, List.getElem?_append_left h]

/-- The words that stand at a position. -/
theorem wordsAt_of_drop {rx : List Byte} {pos : ℕ} {values : List Word} {rest : List Byte}
    (h : rx.drop pos = bytesOfWords values ++ rest) : wordsAt rx pos values.length = values := by
  apply List.ext_getElem (length_wordsAt _ _ _)
  intro i _ hi
  have hbytes := length_bytesOfWords values
  simp only [wordsAt, List.getElem_map, List.getElem_range]
  rw [← wordAt_drop, h, wordAt, byteAt_append_left (by omega), byteAt_append_left (by omega),
    ← wordAt, Nat.mul_comm]
  exact wordAt_bytesOfWords values hi

theorem bytesOfWords_injective : Function.Injective bytesOfWords := by
  intro v
  induction v with
  | nil =>
      intro w h
      cases w with
      | nil => rfl
      | cons b w => cases h
  | cons a v ih =>
      intro w h
      cases w with
      | nil => cases h
      | cons b w =>
          simp only [bytesOfWords, List.flatMap_cons, List.cons_append, List.nil_append,
            List.cons.injEq] at h
          rw [word_ext h.1 h.2.1, ih h.2.2]

/-! ## One sub-request -/

section SubRequest

variable {rx rest : List Byte} {pos : ℕ}

@[simp]
theorem length_encode_fileSpan (span : FileSpan) : span.encode.length = 7 := by
  rw [FileSpan.encode, List.length_cons, fields, length_bytesOfWords]
  rfl

@[simp]
theorem length_encode_fileWrite (write : FileWrite) :
    write.encode.length = 7 + write.span.count * 2 := by
  rw [FileWrite.encode, List.length_append, length_encode_fileSpan, length_bytesOfWords,
    write.length_eq, Nat.mul_comm]

theorem fileSpanOf_eq_ok_iff {fileNumber recordNumber recordLength : Word} {span : FileSpan} :
    fileSpanOf fileNumber recordNumber recordLength = .ok span ↔
      fileNumber = BitVec.ofNat 16 (span.file + 1) ∧ recordNumber = BitVec.ofNat 16 span.start ∧
        recordLength = BitVec.ofNat 16 span.count := by
  constructor
  · intro h
    unfold fileSpanOf at h
    split_ifs at h with hvalue haddr
    obtain rfl := Except.ok.inj h
    rw [Nat.sub_add_cancel haddr.1.1]
    simp
  · obtain ⟨file, start, count, hfile, hcount, hfits⟩ := span
    have hfiles : fileCount = 4 := rfl
    have hsize : fileSizeRegs = 128 := rfl
    rintro ⟨rfl, rfl, rfl⟩
    unfold fileSpanOf
    simp only [toNat_ofNat_word (show file + 1 ≤ 65535 by omega),
      toNat_ofNat_word (show start ≤ 65535 by omega),
      toNat_ofNat_word (show count ≤ 65535 by omega)]
    rw [dif_pos hcount, dif_pos ⟨by omega, hfits⟩]
    rfl

/-- The checks of a sub-request accept what is encoded at their position. -/
theorem parseFileSpan_eq_ok_iff {span : FileSpan} (h : pos + 7 ≤ rx.length) :
    parseFileSpan rx pos = .ok span ↔ rx.drop pos = span.encode ++ rx.drop (pos + 7) := by
  have hwords : bytesOfWords [wordAt rx (pos + 1), wordAt rx (pos + 3), wordAt rx (pos + 5)] =
      (rx.drop (pos + 1)).take 6 :=
    bytesOfWords_wordsAt (n := 3) (by omega)
  have hdrop : rx.drop pos = byteAt rx pos ::
      bytesOfWords [wordAt rx (pos + 1), wordAt rx (pos + 3), wordAt rx (pos + 5)] ++
        rx.drop (pos + 7) := by
    have hpos : pos < rx.length := by omega
    have hfirst : rx[pos] = byteAt rx pos := by simp [byteAt, hpos]
    have hrest : rx.drop (pos + 7) = (rx.drop (pos + 1)).drop 6 := by rw [List.drop_drop]
    rw [hwords, List.drop_eq_getElem_cons hpos, hfirst, List.cons_append, hrest,
      List.take_append_drop]
  have hparse : parseFileSpan rx pos =
      if byteAt rx pos = fileRefType then
        fileSpanOf (wordAt rx (pos + 1)) (wordAt rx (pos + 3)) (wordAt rx (pos + 5))
      else .error .illegalDataValue := by
    unfold parseFileSpan fileSpanOf
    by_cases href : byteAt rx pos = fileRefType <;> simp [href]
  rw [hdrop, List.append_cancel_right_eq, FileSpan.encode, List.cons.injEq, fields,
    bytesOfWords_injective.eq_iff, hparse]
  by_cases href : byteAt rx pos = fileRefType
  · rw [if_pos href, fileSpanOf_eq_ok_iff, and_iff_right href]
    simp
  · rw [if_neg href]
    exact iff_of_false (fun h => by cases h) fun h => href h.1

theorem parseFileWrite_eq_ok_iff {write : FileWrite} :
    parseFileWrite rx pos = .ok write ↔ ∃ rest, rx.drop pos = write.encode ++ rest := by
  unfold parseFileWrite
  simp only [except_reject_eq_ok, except_bind_eq_ok, Nat.not_lt]
  constructor
  · rintro ⟨hhead, span, hspan, hdata, hwrite⟩
    obtain rfl := Except.ok.inj hwrite
    refine ⟨(rx.drop (pos + 7)).drop (span.count * 2), ?_⟩
    rw [FileWrite.encode, bytesOfWords_wordsAt hdata, List.append_assoc, List.take_append_drop]
    exact (parseFileSpan_eq_ok_iff hhead).mp hspan
  · rintro ⟨rest, hrest⟩
    have hlength := congrArg List.length hrest
    rw [List.length_drop, List.length_append, length_encode_fileWrite] at hlength
    have hhead : pos + 7 ≤ rx.length := by omega
    have hdrop : rx.drop (pos + 7) = bytesOfWords write.values ++ rest := by
      rw [← List.drop_drop, hrest, FileWrite.encode, List.append_assoc]
      exact List.drop_left' (length_encode_fileSpan write.span)
    refine ⟨hhead, write.span, ?_, by omega, ?_⟩
    · rw [parseFileSpan_eq_ok_iff hhead, hrest, hdrop, FileWrite.encode, List.append_assoc]
    · obtain ⟨span, values, hvalues⟩ := write
      have hwords := wordsAt_of_drop hdrop
      refine congrArg Except.ok ?_
      rw [FileWrite.mk.injEq]
      exact ⟨rfl, by rw [← hvalues]; exact hwords⟩

/-- What follows an encoding begins where the encoding ends. -/
theorem drop_of_append {head rest : List Byte} {pos n : ℕ} (h : rx.drop pos = head ++ rest)
    (hlength : head.length = n) : rx.drop (pos + n) = rest := by
  rw [← List.drop_drop, h]
  exact List.drop_left' hlength

/-- At most one sub-request is encoded at a position. -/
theorem fileWrite_unique {write write' : FileWrite} {rest rest' : List Byte}
    (h : write.encode ++ rest = write'.encode ++ rest') : write = write' := by
  have hfirst : parseFileWrite (write.encode ++ rest) 0 = .ok write :=
    parseFileWrite_eq_ok_iff.mpr ⟨rest, rfl⟩
  have hsecond : parseFileWrite (write.encode ++ rest) 0 = .ok write' :=
    parseFileWrite_eq_ok_iff.mpr ⟨rest', h⟩
  exact Except.ok.inj (hfirst.symm.trans hsecond)

/-! ## All sub-requests -/

/-- Nothing is left to be parsed. -/
theorem flatMap_encode_eq_nil {writes : List FileWrite} :
    writes.flatMap FileWrite.encode = [] ↔ writes = [] := by
  cases writes with
  | nil => exact iff_of_true rfl rfl
  | cons write writes =>
      refine iff_of_false (fun h => ?_) (List.cons_ne_nil _ _)
      have hlength := congrArg List.length h
      rw [List.flatMap_cons, List.length_append, length_encode_fileWrite, List.length_nil] at hlength
      omega

/-- The walk over a write accepts the sub-requests whose encodings fill the rest
of the request. -/
theorem parseFileWrites_eq_iff {bound : ℕ} (hbound : rx.length ≤ pos + bound)
    {writes : List FileWrite} :
    parseFileWrites rx bound pos = (writes, none) ↔
      rx.drop pos = writes.flatMap FileWrite.encode := by
  have hend : ∀ {pos : ℕ} {writes : List FileWrite}, rx.length ≤ pos →
      (([], none) = (writes, (none : Option ExceptionCode)) ↔
        rx.drop pos = writes.flatMap FileWrite.encode) := by
    intro pos writes hpos
    rw [List.drop_eq_nil_of_le hpos, eq_comm (a := ([] : List Byte)), flatMap_encode_eq_nil,
      Prod.mk.injEq, and_iff_left rfl, eq_comm]
  induction bound generalizing pos writes with
  | zero => exact hend hbound
  | succ bound ih =>
      rw [parseFileWrites]
      by_cases hpos : pos < rx.length
      · rw [if_pos hpos]
        have hleft : rx.drop pos ≠ [] := by
          rw [Ne, List.drop_eq_nil_iff]
          omega
        cases hparse : parseFileWrite rx pos with
        | error e =>
            refine iff_of_false (fun h => by cases h) fun h => ?_
            cases writes with
            | nil => exact hleft h
            | cons write writes =>
                have hok := parseFileWrite_eq_ok_iff.mpr ⟨_, h⟩
                rw [hparse] at hok
                cases hok
        | ok write =>
            obtain ⟨rest, hrest⟩ := parseFileWrite_eq_ok_iff.mp hparse
            have hnext : rx.drop (pos + 7 + write.span.count * 2) = rest := by
              rw [Nat.add_assoc]
              exact drop_of_append hrest (length_encode_fileWrite write)
            cases writes with
            | nil => exact iff_of_false (fun h => by cases h) hleft
            | cons first writes =>
                have hih : parseFileWrites rx bound (pos + 7 + write.span.count * 2) =
                    (writes, none) ↔ _ := ih (by omega)
                rw [List.flatMap_cons]
                constructor
                · intro h
                  simp only [Prod.mk.injEq, List.cons.injEq] at h
                  rw [hrest, ← hnext, hih.mp (Prod.ext h.1.2 h.2), h.1.1]
                · intro h
                  obtain rfl := fileWrite_unique (hrest.symm.trans h)
                  have htail := List.append_cancel_left (hrest.symm.trans h)
                  simp only [hih.mpr (hnext.trans htail)]
      · rw [if_neg hpos]
        exact hend (by omega)

/-- The walk over a read accepts the sub-requests whose encodings fill the rest of
the request, as long as the response has room for the registers. -/
theorem parseFileReads_eq_ok_iff {n s out : ℕ} (hlength : rx.length = 2 + (s + n) * 7)
    (hout : out ≤ 253) {spans : List FileSpan} :
    parseFileReads rx n s out = .ok spans ↔
      rx.drop (2 + s * 7) = spans.flatMap FileSpan.encode ∧ out + responseBytes spans ≤ 253 := by
  induction n generalizing s out spans with
  | zero =>
      rw [parseFileReads, List.drop_eq_nil_of_le (by omega), Except.ok.injEq]
      cases spans with
      | nil => exact iff_of_true rfl ⟨rfl, hout⟩
      | cons span spans => exact iff_of_false (fun h => by cases h) fun h => by cases h.1
  | succ n ih =>
      have hroom : 2 + s * 7 + 7 ≤ rx.length := by omega
      have hnext : 2 + s * 7 + 7 = 2 + (s + 1) * 7 := by omega
      rw [parseFileReads, except_bind_eq_ok]
      constructor
      · rintro ⟨span, hspan, h⟩
        rw [except_reject_eq_ok, except_bind_eq_ok] at h
        obtain ⟨hfits, rest, hrest, hspans⟩ := h
        obtain rfl := Except.ok.inj hspans
        obtain ⟨hdrop, hsum⟩ := (ih (by omega) (by omega)).mp hrest
        rw [parseFileSpan_eq_ok_iff hroom, hnext, hdrop] at hspan
        refine ⟨hspan, ?_⟩
        rw [responseBytes, List.map_cons, List.sum_cons, ← responseBytes]
        omega
      · rintro ⟨hdrop, hsum⟩
        cases spans with
        | nil =>
            have hlen := congrArg List.length hdrop
            rw [List.length_drop, List.flatMap_nil, List.length_nil] at hlen
            omega
        | cons span spans =>
            rw [List.flatMap_cons] at hdrop
            rw [responseBytes, List.map_cons, List.sum_cons, ← responseBytes] at hsum
            have htail := drop_of_append hdrop (length_encode_fileSpan span)
            have hspan : parseFileSpan rx (2 + s * 7) = .ok span := by
              rw [parseFileSpan_eq_ok_iff hroom, htail]
              exact hdrop
            rw [hnext] at htail
            refine ⟨span, hspan, ?_⟩
            rw [except_reject_eq_ok, except_bind_eq_ok]
            exact ⟨by omega, spans, (ih (by omega) (by omega)).mpr ⟨htail, by omega⟩, rfl⟩

end SubRequest

/-! ## Requests -/

section Requests

variable {rx : List Byte}

theorem parseRequest_eq_writeFileRecord_iff {writes : List FileWrite} :
    parseRequest cfg rx = .ok (.writeFileRecord writes none) ↔ IsFileWrite rx writes := by
  constructor
  · intro h
    have hcode : byteAt rx 0 = FunctionCode.writeFileRecord.code := (parseRequest_functionCode h).1
    rw [parseRequest, hcode, FunctionCode.ofByte_code] at h
    simp only [parseWriteFileRecord] at h
    split_ifs at h with hshort hcount
    simp only [Except.ok.injEq, Request.writeFileRecord.injEq] at h
    have hpayload := (parseFileWrites_eq_iff (by omega)).mp (Prod.ext h.1 h.2)
    refine ⟨hcode, ⟨hcount.1, hcount.2.1⟩, hcount.2.2, ?_, hpayload⟩
    rintro rfl
    have hlength := congrArg List.length hpayload
    rw [List.length_drop, List.flatMap_nil, List.length_nil] at hlength
    omega
  · intro h
    have hwalk : parseFileWrites rx rx.length 2 = (writes, none) :=
      (parseFileWrites_eq_iff (by omega)).mpr h.payload
    have hcount := h.count
    have hlength := h.length
    rw [parseRequest, h.code, FunctionCode.ofByte_code]
    simp only [parseWriteFileRecord]
    rw [if_neg (by omega), if_pos (by omega), hwalk]

theorem parseRequest_eq_readFileRecord_iff {spans : List FileSpan} :
    parseRequest cfg rx = .ok (.readFileRecord spans) ↔
      IsFileRead rx spans ∧ 2 + responseBytes spans ≤ 253 := by
  constructor
  · intro h
    have hcode : byteAt rx 0 = FunctionCode.readFileRecord.code := (parseRequest_functionCode h).1
    rw [parseRequest, hcode, FunctionCode.ofByte_code] at h
    simp only [parseReadFileRecord] at h
    split_ifs at h with hshort hcount
    obtain ⟨spans', hwalk, hspans⟩ := except_map_eq_ok.mp h
    obtain rfl := (Request.readFileRecord.injEq ..).mp hspans
    obtain ⟨hpayload, hfits⟩ := (parseFileReads_eq_ok_iff (by omega) (by omega)).mp hwalk
    refine ⟨⟨hcode, ⟨hcount.1, hcount.2.1⟩, hcount.2.2.2, ?_, hpayload⟩, hfits⟩
    rintro rfl
    have hlength := congrArg List.length hpayload
    rw [List.length_drop, List.flatMap_nil, List.length_nil] at hlength
    omega
  · rintro ⟨h, hfits⟩
    have hcount := h.count
    have hlength := h.length
    have hsubs : (byteAt rx 1).toNat = 7 * spans.length := by
      have hpayload := congrArg List.length h.payload
      have hseven : (spans.flatMap FileSpan.encode).length = 7 * spans.length := by
        simp [List.length_flatMap, Nat.mul_comm]
      rw [List.length_drop, hseven] at hpayload
      omega
    have hwalk : parseFileReads rx spans.length 0 2 = .ok spans :=
      (parseFileReads_eq_ok_iff (by omega) (by omega)).mpr ⟨h.payload, hfits⟩
    rw [parseRequest, h.code, FunctionCode.ofByte_code]
    simp only [parseReadFileRecord]
    rw [if_neg (by omega), if_pos (by omega), hsubs, Nat.mul_div_cancel_left _ (by decide), hwalk]
    rfl

end Requests

/-! ## The two functions -/

/-- How a file write is served: accepted exactly if it is well formed, and then
stored sub-request by sub-request and echoed. -/
structure FileWriteServed (rx : List Byte) (isBroadcast : Bool) (s : Exchange (PduEnv cfg))
    (out : ModbusStatus × Option ℕ) (s' : Exchange (PduEnv cfg)) : Prop where
  accepted : isBroadcast = false →
    (AnsweredNormally rx out s' ↔ ∃ writes, IsFileWrite rx writes)
  stored : ∀ writes, IsFileWrite rx writes →
    s'.env = s.env.updateStore fun t => { t with fileStore := filesWritten t.fileStore writes }
  lastWins : ∀ writes, IsFileWrite rx writes → ∀ file record,
    fileAt s'.env.store.fileStore file record =
      (lastWritten writes file record).getD (fileAt s.env.store.fileStore file record)
  echoed : ∀ writes, IsFileWrite rx writes → isBroadcast = false →
    out = (.ok, some rx.length) ∧ s'.tx.take rx.length = rx

/-- How a file read is served: accepted exactly if it is well formed and the
registers fit in a response, and then answered with the stored registers. -/
structure FileReadServed (rx : List Byte) (isBroadcast : Bool) (s : Exchange (PduEnv cfg))
    (out : ModbusStatus × Option ℕ) (s' : Exchange (PduEnv cfg)) : Prop where
  accepted : isBroadcast = false →
    (AnsweredNormally rx out s' ↔ ∃ spans, IsFileRead rx spans ∧ 2 + responseBytes spans ≤ 253)
  listed : ∀ spans, IsFileRead rx spans → 2 + responseBytes spans ≤ 253 → isBroadcast = false →
    out = (.ok, some (2 + responseBytes spans)) ∧
      s'.tx.take (2 + responseBytes spans) =
        FunctionCode.readFileRecord.code :: BitVec.ofNat 8 (responseBytes spans) ::
          spans.flatMap fun span => span.subResponse s.env.store.fileStore
  unchanged : s'.env = s.env

theorem length_subResponses (spans : List FileSpan)
    (files : Vector (Vector Word fileSizeRegs) fileCount) :
    (spans.flatMap fun span => span.subResponse files).length = responseBytes spans := by
  simp [List.length_flatMap, responseBytes]

section Served

variable {rx : List Byte} {isBroadcast : Bool} {hooks : SyncHooks cfg} {s s' : Exchange (PduEnv cfg)}

theorem fileWriteServed_pduReply (hcode : byteAt rx 0 = FunctionCode.writeFileRecord.code)
    (henv : s'.env = (pduReply hooks rx s.env).2)
    (hwrote : Wrote s.tx s'.tx (pduReply hooks rx s.env).1) :
    FileWriteServed rx isBroadcast s
      (.ok, some (if isBroadcast then 0 else (pduReply hooks rx s.env).1.length)) s' := by
  have hreply : ∀ writes, IsFileWrite rx writes → pduReply hooks rx s.env =
      (rx, s.env.updateStore fun t => { t with fileStore := filesWritten t.fileStore writes }) := by
    intro writes h
    rw [pduReply, parseRequest_eq_writeFileRecord_iff.mpr h]
    rfl
  refine ⟨?_, ?_, ?_, ?_⟩
  · rintro rfl
    rw [if_neg Bool.false_ne_true, answeredNormally_iff (by rw [hcode]; rfl) hwrote]
    constructor
    · intro hnone
      cases hparse : parseRequest cfg rx with
      | error e => rw [hparse] at hnone; cases hnone
      | ok r =>
          rw [hparse] at hnone
          have hfc := functionCode_of_parseRequest hparse hcode
          cases r with
          | writeFileRecord writes refused =>
              obtain rfl : refused = none := hnone
              exact ⟨writes, parseRequest_eq_writeFileRecord_iff.mp hparse⟩
          | _ => cases hfc
    · rintro ⟨writes, h⟩
      rw [parseRequest_eq_writeFileRecord_iff.mpr h]
      rfl
  · intro writes h
    rw [henv, hreply writes h]
  · intro writes h file record
    rw [henv, hreply writes h]
    exact fileAt_filesWritten _ _ _ _
  · rintro writes h rfl
    have htake := hwrote.take
    rw [hreply writes h] at htake ⊢
    exact ⟨rfl, htake⟩

theorem fileReadServed_pduReply (hcode : byteAt rx 0 = FunctionCode.readFileRecord.code)
    (henv : s'.env = (pduReply hooks rx s.env).2)
    (hwrote : Wrote s.tx s'.tx (pduReply hooks rx s.env).1) :
    FileReadServed rx false s (.ok, some (pduReply hooks rx s.env).1.length) s' := by
  have hread : ∀ r : Request cfg, parseRequest cfg rx = .ok r →
      ∃ spans, r = .readFileRecord spans := by
    intro r hparse
    have hfc := functionCode_of_parseRequest hparse hcode
    cases r with
    | readFileRecord spans => exact ⟨spans, rfl⟩
    | _ => cases hfc
  refine ⟨fun _ => ?_, fun spans h hfits _ => ?_, ?_⟩
  · rw [answeredNormally_iff (by rw [hcode]; rfl) hwrote]
    constructor
    · intro hnone
      cases hparse : parseRequest cfg rx with
      | error e => rw [hparse] at hnone; cases hnone
      | ok r =>
          obtain ⟨spans, rfl⟩ := hread r hparse
          exact ⟨spans, parseRequest_eq_readFileRecord_iff.mp hparse⟩
    · rintro ⟨spans, h⟩
      rw [parseRequest_eq_readFileRecord_iff.mpr h]
      rfl
  · have hreply : (pduReply hooks rx s.env).1 =
        FunctionCode.readFileRecord.code :: BitVec.ofNat 8 (responseBytes spans) ::
          spans.flatMap fun span => span.subResponse s.env.store.fileStore := by
      rw [pduReply, parseRequest_eq_readFileRecord_iff.mpr ⟨h, hfits⟩, answer, execute,
        length_subResponses]
    have hlength : (pduReply hooks rx s.env).1.length = 2 + responseBytes spans := by
      rw [hreply, List.length_cons, List.length_cons, length_subResponses]
      omega
    rw [← hlength, ← hreply]
    exact ⟨rfl, hwrote.take⟩
  · rw [henv, pduReply]
    cases hparse : parseRequest cfg rx with
    | error e => rfl
    | ok r =>
        obtain ⟨spans, rfl⟩ := hread r hparse
        rfl

end Served

/-- The file record codec: for every file store and every request, a file write is
accepted exactly if its payload is some sub-requests put together, is stored in
their order and echoed, and a file read is accepted exactly if its payload is some
sub-requests whose registers fit in a response, is answered with the stored
registers and changes nothing. -/
theorem modbusPduProcess_filesServed (hooks : SyncHooks boardConfig) (rx : List Byte)
    (isBroadcast : Bool) (s : Exchange (PduEnv boardConfig)) (room : 253 ≤ s.tx.length) :
    Yields (modbusPduProcess hooks rx isBroadcast) s fun out s' =>
      (byteAt rx 0 = FunctionCode.writeFileRecord.code →
        FileWriteServed rx isBroadcast s out s') ∧
      (byteAt rx 0 = FunctionCode.readFileRecord.code →
        FileReadServed rx isBroadcast s out s') := by
  by_cases hrx : rx = []
  · rw [hrx, modbusPduProcess, if_pos (by decide), yields_pure]
    exact ⟨(fun h => by cases h), (fun h => by cases h)⟩
  apply (yields_modbusPduProcess Config.boardConfig_flat hooks hrx isBroadcast room).mono
  intro out s' h
  constructor
  · intro hcode
    have hkept : ¬ broadcastDropped rx isBroadcast := by
      rw [broadcastDropped, hcode, modbusBroadcastFunctionSupported]
      simp
    rw [if_neg hkept] at h
    obtain ⟨rfl, henv, hwrote⟩ := h
    exact fileWriteServed_pduReply hcode henv hwrote
  · intro hcode
    cases isBroadcast with
    | true =>
        have hdrop : broadcastDropped rx true := by
          rw [broadcastDropped, hcode]
          rfl
        rw [if_pos hdrop] at h
        exact ⟨(fun hunicast => by cases hunicast), (fun _ _ _ hunicast => by cases hunicast),
          congrArg _ h.2⟩
    | false =>
        rw [if_neg (by simp [broadcastDropped])] at h
        obtain ⟨rfl, henv, hwrote⟩ := h
        exact fileReadServed_pduReply hcode henv hwrote

theorem modbusPduProcess_filesServed_writeOne :
    Yields (modbusPduProcess (SyncHooks.none boardConfig)
        [0x15, 0x09, 0x06, 0x00, 0x01, 0x00, 0x00, 0x00, 0x01, 0x12, 0x34] false)
      (⟨⟨Store.powerOn boardConfig, []⟩, List.replicate 253 0⟩ : Exchange (PduEnv boardConfig))
      fun out s' =>
        (byteAt [0x15, 0x09, 0x06, 0x00, 0x01, 0x00, 0x00, 0x00, 0x01, 0x12, 0x34] 0 =
            FunctionCode.writeFileRecord.code →
          FileWriteServed [0x15, 0x09, 0x06, 0x00, 0x01, 0x00, 0x00, 0x00, 0x01, 0x12, 0x34] false
            ⟨⟨Store.powerOn boardConfig, []⟩, List.replicate 253 0⟩ out s') ∧
        (byteAt [0x15, 0x09, 0x06, 0x00, 0x01, 0x00, 0x00, 0x00, 0x01, 0x12, 0x34] 0 =
            FunctionCode.readFileRecord.code →
          FileReadServed [0x15, 0x09, 0x06, 0x00, 0x01, 0x00, 0x00, 0x00, 0x01, 0x12, 0x34] false
            ⟨⟨Store.powerOn boardConfig, []⟩, List.replicate 253 0⟩ out s') :=
  modbusPduProcess_filesServed (SyncHooks.none boardConfig)
    [0x15, 0x09, 0x06, 0x00, 0x01, 0x00, 0x00, 0x00, 0x01, 0x12, 0x34] false
    ⟨⟨Store.powerOn boardConfig, []⟩, List.replicate 253 0⟩ (by rw [List.length_replicate])

end AutomationBoard.Modbus
