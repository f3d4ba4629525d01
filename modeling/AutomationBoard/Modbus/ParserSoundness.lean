/-
# Soundness of the response parsers

A parser is sound on a PDU if it reads no byte beyond its end and, where it
succeeds, has delivered as much as the request asked for. Three parsers compute
the expected length from the quantity in a narrower integer than the one their
copy loop runs on. They are unsound on the responses that fit the truncated
length of a quantity that is too large for it, and on no others.
-/

import AutomationBoard.Modbus.MasterParse

namespace AutomationBoard.Modbus

open AutomationBoard.Program

/-- A call of one of the parsers that copy data, with its arguments. -/
inductive ParserCall
  | readBits (quantity bitsOutMax : ℕ)
  | readRegisters (quantity : ℕ)
  | readFileRecord (recordLength : ℕ)
  | getCommEventLog (eventsOut eventsLenOut : Bool) (eventsMax : ℕ)
  | reportServerId (idOut idLenOut : Bool) (idMax : ℕ)
  | readFifoQueue (regsMax : ℕ)
  | deviceId

namespace ParserCall

/-- The call reads no byte beyond the end of the PDU, and what it delivers is
what was asked for: the packed bits of the quantity, or as many registers. -/
def Sound (pdu : List Byte) : ParserCall → Prop
  | readBits quantity bitsOutMax =>
      Yields (modbusMasterParseReadBits pdu quantity bitsOutMax) () fun out _ =>
        ∀ bits ∈ out, bits = bytesAt pdu 2 ((quantity + 7) / 8)
  | readRegisters quantity =>
      Yields (modbusMasterParseReadRegisters pdu quantity) () fun out _ =>
        ∀ regs ∈ out, regs = wordsAt pdu 2 quantity
  | readFileRecord recordLength =>
      Yields (modbusMasterParseReadFileRecord pdu recordLength) () fun out _ =>
        ∀ regs ∈ out, regs = wordsAt pdu 4 recordLength
  | getCommEventLog eventsOut eventsLenOut eventsMax =>
      Yields (modbusMasterParseGetCommEventLog pdu eventsOut eventsLenOut eventsMax) ()
        fun _ _ => True
  | reportServerId idOut idLenOut idMax =>
      Yields (modbusMasterParseReportServerId pdu idOut idLenOut idMax) () fun _ _ => True
  | readFifoQueue regsMax =>
      Yields (modbusMasterParseReadFifoQueue pdu regsMax) () fun _ _ => True
  | deviceId => Yields (modbusMasterParseDeviceId pdu) () fun _ _ => True

/-- The quantity is too large for the integer that the expected length is
computed in, and the response fits the truncated length. -/
def Truncated (pdu : List Byte) : ParserCall → Prop
  | readBits quantity bitsOutMax => 2041 ≤ quantity ∧ ReadBitsResponse pdu quantity bitsOutMax
  | readRegisters quantity => 128 ≤ quantity ∧ ReadRegistersResponse pdu quantity
  | readFileRecord recordLength => 32768 ≤ recordLength ∧ ReadFileRecordResponse pdu recordLength
  | _ => False

end ParserCall

/-! ## The parsers with a quantity -/

/-- As many bytes are delivered as the truncated length says. -/
theorem sound_readBits_iff (pdu : List Byte) (quantity bitsOutMax : ℕ) :
    (ParserCall.readBits quantity bitsOutMax).Sound pdu ↔
      ¬ (ParserCall.readBits quantity bitsOutMax).Truncated pdu := by
  rw [ParserCall.Sound, ParserCall.Truncated, yields_modbusMasterParseReadBits]
  by_cases haccepted : ReadBitsResponse pdu quantity bitsOutMax
  · obtain ⟨-, -, hcount, -⟩ := id haccepted
    rw [if_pos haccepted]
    simp only [Option.mem_def, Option.some.injEq, forall_eq', haccepted, and_true]
    constructor
    · intro hexact hlarge
      have hlengths := congrArg List.length hexact
      rw [length_bytesAt, length_bytesAt, hcount, uint8] at hlengths
      omega
    · intro hsmall
      rw [hcount, uint8_of_lt (by omega)]
  · rw [if_neg haccepted]
    exact iff_of_true (fun _ h => absurd h (Option.not_mem_none _)) fun h => haccepted h.2

/-- The copy loop goes on behind the end for a quantity whose length is truncated. -/
theorem sound_readRegisters_iff (pdu : List Byte) (quantity : ℕ) :
    (ParserCall.readRegisters quantity).Sound pdu ↔
      ¬ (ParserCall.readRegisters quantity).Truncated pdu := by
  rw [ParserCall.Sound, ParserCall.Truncated, yields_modbusMasterParseReadRegisters]
  by_cases haccepted : ReadRegistersResponse pdu quantity
  · obtain ⟨-, hlength, hcount⟩ := id haccepted
    rw [hcount, uint8] at hlength
    rw [if_pos haccepted]
    simp only [Option.mem_def, Option.some.injEq, forall_eq', haccepted, and_true, forall_const]
    omega
  · rw [if_neg haccepted]
    exact iff_of_true ⟨fun h => absurd h haccepted, fun _ h => absurd h (Option.not_mem_none _)⟩
      fun h => haccepted h.2

theorem sound_readFileRecord_iff (pdu : List Byte) (recordLength : ℕ) :
    (ParserCall.readFileRecord recordLength).Sound pdu ↔
      ¬ (ParserCall.readFileRecord recordLength).Truncated pdu := by
  rw [ParserCall.Sound, ParserCall.Truncated, yields_modbusMasterParseReadFileRecord]
  by_cases haccepted : ReadFileRecordResponse pdu recordLength
  · obtain ⟨-, hfour, -, hlength, hneed, -, hcount⟩ := id haccepted
    have hbyte := (byteAt pdu 2).isLt
    -- a byte count that wraps leaves no room for the header
    rw [uint16] at hneed
    rw [uint8] at hcount
    rw [if_pos haccepted]
    simp only [Option.mem_def, Option.some.injEq, forall_eq', haccepted, and_true, forall_const]
    omega
  · rw [if_neg haccepted]
    exact iff_of_true ⟨fun h => absurd h haccepted, fun _ h => absurd h (Option.not_mem_none _)⟩
      fun h => haccepted h.2

/-! ## All parsers -/

/-- A parser is sound on a PDU exactly when the PDU does not fit a truncated
length. -/
theorem parserCall_sound_iff (call : ParserCall) (pdu : List Byte) (hlength : pdu.length < 65536) :
    call.Sound pdu ↔ ¬ call.Truncated pdu := by
  cases call with
  | readBits quantity bitsOutMax => exact sound_readBits_iff pdu quantity bitsOutMax
  | readRegisters quantity => exact sound_readRegisters_iff pdu quantity
  | readFileRecord recordLength => exact sound_readFileRecord_iff pdu recordLength
  | getCommEventLog eventsOut eventsLenOut eventsMax =>
      exact iff_of_true (yields_modbusMasterParseGetCommEventLog.mpr trivial) id
  | reportServerId idOut idLenOut idMax =>
      exact iff_of_true (yields_modbusMasterParseReportServerId.mpr trivial) id
  | readFifoQueue regsMax => exact iff_of_true (yields_modbusMasterParseReadFifoQueue.mpr trivial) id
  | deviceId => exact iff_of_true ((yields_modbusMasterParseDeviceId hlength).mpr trivial) id

theorem parserCall_sound_iff_readBits :
    (ParserCall.readBits 10 2).Sound [0x01, 0x02, 0xCD, 0x01] ↔
      ¬ (ParserCall.readBits 10 2).Truncated [0x01, 0x02, 0xCD, 0x01] :=
  parserCall_sound_iff (.readBits 10 2) [0x01, 0x02, 0xCD, 0x01] (by decide)

/-- 128 registers are copied out of a response of two bytes. -/
theorem parserCall_readRegisters_outOfBounds : ¬ (ParserCall.readRegisters 128).Sound [0x03, 0x00] := by
  rw [sound_readRegisters_iff, not_not]
  exact ⟨by decide, by decide⟩

end AutomationBoard.Modbus
