/-
# The client's side of an SDO transfer

What a client makes of the server's frames: an abort, the bytes of an expedited
upload, the size announced by a segmented one, and the content, toggle bit and
last-segment flag of a segment. Each is read from the payload by its CiA 301
layout and compared with what the server put there.
-/

import AutomationBoard.Canopen.SdoStep

namespace AutomationBoard.Canopen

open AutomationBoard.Modbus (toNat_word toNat_loByte toNat_hiByte word_hiByte_loByte)
open AutomationBoard.Program

/-! ## Long values -/

/-- Four bytes as an `UNS32`, low byte first. -/
def longOf (b0 b1 b2 b3 : Byte) : Long :=
  BitVec.ofNat 32 (b0.toNat + 2 ^ 8 * b1.toNat + 2 ^ 16 * b2.toNat + 2 ^ 24 * b3.toNat)

/-- The `UNS32` at an index of a payload. -/
def longAt (data : List Byte) (i : ℕ) : Long :=
  longOf (dataAt data i) (dataAt data (i + 1)) (dataAt data (i + 2)) (dataAt data (i + 3))

/-- A long value is put together again from its four bytes. -/
@[simp]
theorem longOf_longByte (value : Long) :
    longOf (longByte value 0) (longByte value 1) (longByte value 2) (longByte value 3) = value := by
  apply BitVec.eq_of_toNat_eq
  have := value.isLt
  simp only [longOf, BitVec.toNat_ofNat, toNat_longByte]
  omega

/-! ## Initiate responses -/

/-- What a client learns from the response to an upload initiate request. -/
inductive UploadReply
  | aborted (index : Word) (bSubindex : Byte) (code : Long)
  | expedited (bytes : List Byte)
  | segmented (size : Long)
  deriving DecidableEq

/-- The response as the client reads it. -/
def readUploadReply (data : List Byte) : UploadReply :=
  if dataAt data 0 = 0x80 then
    .aborted (requestIndex data) (requestSubindex data) (longAt data 4)
  else if expeditedFlag data = 1 then .expedited (expeditedBytes data)
  else .segmented (longAt data 4)

@[simp]
theorem readUploadReply_abortData (index : Word) (bSubindex : Byte) (e : SdoAbort) :
    readUploadReply (abortData index bSubindex e) = .aborted index bSubindex e.code := by
  have hindex : requestIndex (abortData index bSubindex e) = index := word_hiByte_loByte index
  have hcode : longAt (abortData index bSubindex e) 4 = e.code := longOf_longByte e.code
  have hfirst : dataAt (abortData index bSubindex e) 0 = 0x80 := rfl
  rw [readUploadReply, if_pos hfirst, hindex, hcode]
  rfl

@[simp]
theorem readUploadReply_initiateUploadData (data : List Byte) (size : Long) :
    readUploadReply (initiateUploadData data size) = .segmented size := by
  have hfirst : dataAt (initiateUploadData data size) 0 = 0x41 := rfl
  have hflag : expeditedFlag (initiateUploadData data size) = 0 := by
    rw [expeditedFlag, hfirst]
    decide
  have hsize : longAt (initiateUploadData data size) 4 = size := longOf_longByte size
  rw [readUploadReply, hfirst, hflag, hsize, if_neg (by decide), if_neg (by decide)]

/-- The fields of the command byte of an expedited upload response. The count of
unused bytes of an empty object does not fit its two bits. -/
theorem expeditedCommand_fields : ∀ size : Fin 5,
    expeditedCommand (BitVec.ofNat 32 size) ≠ 0x80 ∧
      expeditedCommand (BitVec.ofNat 32 size) >>> 1 &&& 0x01 = 1 ∧
      expeditedCommand (BitVec.ofNat 32 size) &&& 0x01 = 1 ∧
      4 - (expeditedCommand (BitVec.ofNat 32 size) >>> 2 &&& 0x03).toNat =
        if size = 0 then 4 else size.val := by
  decide

/-- The bytes of an object of one to four bytes reach the client; an empty object
arrives as four zero bytes. -/
theorem readUploadReply_expeditedUploadData (data : List Byte) {size : Long} {bytes : List Byte}
    (hsmall : size ≤ 4) (hlen : bytes.length = size.toNat) :
    readUploadReply (expeditedUploadData data size bytes) =
      .expedited (if size = 0 then [0, 0, 0, 0] else bytes) := by
  have hle : size.toNat ≤ 4 := hsmall
  obtain ⟨n, rfl⟩ : ∃ n : Fin 5, size = BitVec.ofNat 32 n :=
    ⟨⟨size.toNat, by omega⟩, by simp⟩
  have hn : (BitVec.ofNat 32 n.val).toNat = n := by
    rw [BitVec.toNat_ofNat]
    omega
  rw [hn] at hlen
  obtain ⟨hfirst, hflag, hs, hcount⟩ := expeditedCommand_fields n
  have hcommand : dataAt (expeditedUploadData data (BitVec.ofNat 32 n) bytes) 0 =
      expeditedCommand (BitVec.ofNat 32 n) := rfl
  have hbytes : expeditedBytes (expeditedUploadData data (BitVec.ofNat 32 n) bytes) =
      (padded 4 bytes).take (if n = 0 then 4 else n.val) := by
    rw [expeditedBytes, expeditedSize, hcommand]
    simp only [if_pos hs, hcount]
    rfl
  rw [readUploadReply, expeditedFlag, hcommand, if_neg hfirst, if_pos hflag, hbytes]
  by_cases hzero : n = 0
  · subst hzero
    rw [List.eq_nil_of_length_eq_zero hlen]
    rfl
  · have hsize : BitVec.ofNat 32 n.val ≠ 0 := by
      intro h
      rw [h] at hn
      exact hzero (Fin.ext hn.symm)
    rw [if_neg hzero, if_neg hsize, padded, ← hlen, List.take_left]

/-! ## Segments -/

/-- The toggle bit of the segment that follows `k` others. -/
def toggleOf (k : ℕ) : Byte := if k % 2 = 0 then 0 else 1

theorem toggleOf_zero_or_one (k : ℕ) : toggleOf k = 0 ∨ toggleOf k = 1 := by
  unfold toggleOf
  split
  · exact .inl rfl
  · exact .inr rfl

/-- The toggle bit alternates. -/
theorem toggleOf_succ (k : ℕ) : toggleOf (k + 1) = toggleOf k ^^^ 1 := by
  unfold toggleOf
  rcases Nat.mod_two_eq_zero_or_one k with h | h
  · have hsucc : ¬ (k + 1) % 2 = 0 := by omega
    rw [if_pos h, if_neg hsucc]
    rfl
  · have hodd : ¬ k % 2 = 0 := by omega
    have hsucc : (k + 1) % 2 = 0 := by omega
    rw [if_neg hodd, if_pos hsucc]
    rfl

/-- The last-segment flag of a segment. -/
def segmentLast (data : List Byte) : Byte := dataAt data 0 &&& 0x01

/-- The bytes of a segment, without those its n-field leaves out. -/
def segmentContent (data : List Byte) : List Byte :=
  (data.drop 1).take (7 - (dataAt data 0 >>> 1 &&& 0x07).toNat)

/-- The fields of the command byte of a segment. -/
theorem segmentCommand_fields : ∀ (toggle c : Fin 2) (chunk : Fin 8), ∀ first : Byte,
    first = segmentCommand (BitVec.ofNat 8 toggle) (BitVec.ofNat 8 chunk) (BitVec.ofNat 8 c) →
      first >>> 4 &&& 0x01 = BitVec.ofNat 8 toggle ∧ first &&& 0x01 = BitVec.ofNat 8 c ∧
        7 - (first >>> 1 &&& 0x07).toNat = chunk ∧ first ≠ 0x80 := by
  rintro toggle c chunk first rfl
  decide +revert

/-- A client reads from a segment what the server put in it. -/
theorem segmentData_fields {toggle chunk c : Byte} {bytes : List Byte}
    (htoggle : toggle = 0 ∨ toggle = 1) (hc : c = 0 ∨ c = 1) (hchunk : chunk.toNat ≤ 7)
    (hlen : bytes.length = chunk.toNat) :
    requestToggle (segmentData toggle chunk c bytes) = toggle ∧
      segmentLast (segmentData toggle chunk c bytes) = c ∧
      segmentContent (segmentData toggle chunk c bytes) = bytes ∧
      dataAt (segmentData toggle chunk c bytes) 0 ≠ 0x80 := by
  obtain ⟨t, rfl⟩ : ∃ t : Fin 2, toggle = BitVec.ofNat 8 t := by
    rcases htoggle with rfl | rfl
    · exact ⟨0, rfl⟩
    · exact ⟨1, rfl⟩
  obtain ⟨d, rfl⟩ : ∃ d : Fin 2, c = BitVec.ofNat 8 d := by
    rcases hc with rfl | rfl
    · exact ⟨0, rfl⟩
    · exact ⟨1, rfl⟩
  obtain ⟨n, rfl⟩ : ∃ n : Fin 8, chunk = BitVec.ofNat 8 n :=
    ⟨⟨chunk.toNat, by omega⟩, by simp⟩
  obtain ⟨ht, hd, hn, hfirst⟩ := segmentCommand_fields t d n _ rfl
  have hn' : bytes.length = n := by
    rw [hlen, BitVec.toNat_ofNat]
    omega
  refine ⟨ht, hd, ?_, hfirst⟩
  have hcontent : segmentContent (segmentData (BitVec.ofNat 8 t) (BitVec.ofNat 8 n)
      (BitVec.ofNat 8 d) bytes) = (padded 7 bytes).take bytes.length := by
    rw [hn', segmentContent]
    exact congrArg₂ List.take hn rfl
  rw [hcontent, padded, List.take_left]

end AutomationBoard.Canopen
