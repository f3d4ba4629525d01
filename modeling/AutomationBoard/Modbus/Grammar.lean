/-
# What is accepted, and what is answered

A PDU that parses begins with the function code of its request, and is long
enough for what the response repeats of it. It follows that every reply has one
of two shapes: an exception response of two bytes, or a response that begins
with the function code of the request.
-/

import AutomationBoard.Modbus.Refinement.Dispatch

namespace AutomationBoard.Modbus

open AutomationBoard.Program

variable {cfg : Config} {rx : List Byte}

/-- The function code of a request. -/
def Request.functionCode : Request cfg → FunctionCode
  | .readCoils _ => .readCoils
  | .readDiscreteInputs _ => .readDiscreteInputs
  | .readHoldingRegisters _ => .readHoldingRegisters
  | .readInputRegisters _ => .readInputRegisters
  | .writeSingleCoil _ _ => .writeSingleCoil
  | .writeSingleRegister _ _ => .writeSingleRegister
  | .readExceptionStatus => .readExceptionStatus
  | .writeMultipleCoils _ => .writeMultipleCoils
  | .writeMultipleRegisters _ => .writeMultipleRegisters
  | .readFileRecord _ => .readFileRecord
  | .writeFileRecord _ _ => .writeFileRecord
  | .maskWriteRegister _ _ _ => .maskWriteRegister
  | .readWriteMultipleRegs _ _ => .readWriteMultipleRegs
  | .readFifoQueue _ => .readFifoQueue
  | .readDeviceId _ => .encapsulatedInterface

/-- The fewest bytes a PDU of the request has. -/
def Request.minLength : Request cfg → ℕ
  | .readExceptionStatus => 1
  | _ => 2

/-! ## Accepted requests -/

/-- A successful read check fixes the length of the PDU. -/
theorem length_of_parseRead {limit size : ℕ} {span : Span limit size}
    (h : parseRead limit size rx = .ok span) : rx.length = 5 := by
  rw [parseRead, except_reject_eq_ok] at h
  exact not_not.mp h.1

/-- A PDU that parses begins with the function code of its request. -/
theorem parseRequest_functionCode {r : Request cfg} (h : parseRequest cfg rx = .ok r) :
    byteAt rx 0 = r.functionCode.code ∧ r.minLength ≤ rx.length := by
  unfold parseRequest at h
  cases hcode : FunctionCode.ofByte (byteAt rx 0) with
  | none =>
      rw [hcode] at h
      cases h
  | some fc =>
      rw [hcode] at h
      rw [← FunctionCode.ofByte_eq_some.mp hcode]
      cases fc with
      | readCoils | readDiscreteInputs | readHoldingRegisters | readInputRegisters =>
          obtain ⟨span, hspan, rfl⟩ := except_map_eq_ok.mp h
          have := length_of_parseRead hspan
          exact ⟨rfl, by simp only [Request.minLength]; omega⟩
      | writeSingleCoil =>
          simp only [parseWriteSingleCoil, except_reject_eq_ok, except_bind_eq_ok] at h
          obtain ⟨hlength, -, addr, -, ⟨⟩⟩ := h
          exact ⟨rfl, by simp only [Request.minLength]; omega⟩
      | writeSingleRegister =>
          simp only [parseWriteSingleRegister, except_reject_eq_ok, except_bind_eq_ok] at h
          obtain ⟨hlength, addr, -, ⟨⟩⟩ := h
          exact ⟨rfl, by simp only [Request.minLength]; omega⟩
      | readExceptionStatus =>
          obtain ⟨hlength, ⟨⟩⟩ := except_reject_eq_ok.mp h
          exact ⟨rfl, by simp only [Request.minLength]; omega⟩
      | writeMultipleCoils =>
          simp only [parseWriteMultipleCoils, except_reject_eq_ok, except_bind_eq_ok,
            except_require_eq_ok] at h
          obtain ⟨hlength, span, -, hdata, ⟨⟩⟩ := h
          exact ⟨rfl, by simp only [Request.minLength]; omega⟩
      | writeMultipleRegisters =>
          simp only [parseWriteMultipleRegisters, except_reject_eq_ok, except_bind_eq_ok] at h
          obtain ⟨hlength, span, -, hrest⟩ := h
          split at hrest
          · cases hrest
            exact ⟨rfl, by simp only [Request.minLength]; omega⟩
          · cases hrest
      | readFileRecord =>
          simp only [parseReadFileRecord, except_reject_eq_ok] at h
          obtain ⟨hlength, hrest⟩ := h
          split at hrest
          · obtain ⟨spans, -, rfl⟩ := except_map_eq_ok.mp hrest
            exact ⟨rfl, by simp only [Request.minLength]; omega⟩
          · cases hrest
      | writeFileRecord =>
          simp only [parseWriteFileRecord, except_reject_eq_ok] at h
          obtain ⟨hlength, hrest⟩ := h
          split at hrest
          · cases hrest
            exact ⟨rfl, by simp only [Request.minLength]; omega⟩
          · cases hrest
      | maskWriteRegister =>
          simp only [parseMaskWriteRegister, except_reject_eq_ok, except_bind_eq_ok] at h
          obtain ⟨hlength, addr, -, ⟨⟩⟩ := h
          exact ⟨rfl, by simp only [Request.minLength]; omega⟩
      | readFifoQueue =>
          simp only [parseReadFifoQueue, except_reject_eq_ok, except_map_eq_ok] at h
          obtain ⟨hlength, queue, -, rfl⟩ := h
          exact ⟨rfl, by simp only [Request.minLength]; omega⟩
      | readWriteMultipleRegs =>
          simp only [parseReadWriteMultipleRegs, except_reject_eq_ok, except_require_eq_ok] at h
          obtain ⟨hlength, hqty, haddr, ⟨⟩⟩ := h
          exact ⟨rfl, by simp only [Request.minLength]; omega⟩
      | encapsulatedInterface =>
          simp only [parseReadDeviceId, except_reject_eq_ok] at h
          obtain ⟨hlength, -, -, hrest⟩ := h
          split_ifs at hrest <;> cases hrest <;>
            exact ⟨rfl, by simp only [Request.minLength]; omega⟩
      | diagnostics | getCommEventCounter | getCommEventLog | reportServerId => cases h

/-! ## The shape of a reply -/

/-- A reply is an exception response, or begins with a function code without the
exception bit and has more than that. -/
inductive ReplyShape (functionCode : Byte) : List Byte → Prop
  | exception (e : ExceptionCode) : ReplyShape functionCode (exceptionPdu functionCode e)
  | normal (pdu : List Byte) (code : byteAt pdu 0 = functionCode) (msb : functionCode.msb = false)
      (length : 2 ≤ pdu.length) : ReplyShape functionCode pdu

theorem ReplyShape.two_le_length {functionCode : Byte} {pdu : List Byte}
    (h : ReplyShape functionCode pdu) : 2 ≤ pdu.length := by
  cases h with
  | exception e => exact Nat.le_refl 2
  | normal _ _ _ hlength => exact hlength

/-- The exception that a request is refused with after a part of it was carried
out. -/
def Request.refusal : Request cfg → Option ExceptionCode
  | .writeFileRecord _ refused => refused
  | _ => none

/-- A request that is carried out is answered under its own function code. -/
theorem execute_normal {r : Request cfg} (hooks : SyncHooks cfg) (env : PduEnv cfg)
    (hcode : byteAt rx 0 = r.functionCode.code) (hlength : r.minLength ≤ rx.length)
    (hrefusal : r.refusal = none) :
    byteAt (execute hooks rx env r).1 0 = r.functionCode.code ∧
      2 ≤ (execute hooks rx env r).1.length := by
  have htake : ∀ n, 2 ≤ n → 2 ≤ rx.length →
      byteAt (rx.take n) 0 = r.functionCode.code ∧ 2 ≤ (rx.take n).length := by
    intro n hn hrx
    refine ⟨?_, by rw [List.length_take]; omega⟩
    rw [byteAt_take (by omega), hcode]
  cases r with
  | writeSingleCoil addr on => exact htake 5 (by decide) hlength
  | writeSingleRegister addr value => exact htake 5 (by decide) hlength
  | writeMultipleCoils write => exact htake 5 (by decide) hlength
  | writeMultipleRegisters write => exact htake 5 (by decide) hlength
  | maskWriteRegister addr andMask orMask => exact htake 7 (by decide) hlength
  | writeFileRecord writes refused =>
      obtain rfl : refused = none := hrefusal
      exact ⟨hcode, hlength⟩
  | readCoils | readDiscreteInputs | readHoldingRegisters | readInputRegisters
  | readExceptionStatus | readFileRecord | readWriteMultipleRegs | readFifoQueue
  | readDeviceId => exact ⟨rfl, by simp [execute, bitsPdu, registersPdu]⟩

/-- A request that is refused in the end is answered with that exception. -/
theorem execute_refused {r : Request cfg} (hooks : SyncHooks cfg) (env : PduEnv cfg)
    {e : ExceptionCode} (hrefusal : r.refusal = some e) :
    (execute hooks rx env r).1 = exceptionPdu r.functionCode.code e := by
  cases r with
  | writeFileRecord writes refused =>
      obtain rfl : refused = some e := hrefusal
      rfl
  | _ => cases hrefusal

/-- Every reply has one of the two shapes. -/
theorem replyShape_pduReply (hooks : SyncHooks cfg) (rx : List Byte) (env : PduEnv cfg) :
    ReplyShape (byteAt rx 0) (pduReply hooks rx env).1 := by
  rw [pduReply]
  cases hparse : parseRequest cfg rx with
  | error e => exact .exception e
  | ok r =>
      obtain ⟨hcode, hlength⟩ := parseRequest_functionCode hparse
      rw [answer, hcode]
      cases hrefusal : r.refusal with
      | none =>
          obtain ⟨hfirst, htwo⟩ := execute_normal hooks env hcode hlength hrefusal
          exact .normal _ hfirst r.functionCode.msb_code htwo
      | some e =>
          rw [execute_refused hooks env hrefusal]
          exact .exception e

/-! ## Writes -/

/-- The function codes that write. -/
def FunctionCode.writes : FunctionCode → Bool
  | writeSingleCoil | writeSingleRegister | writeMultipleCoils | writeMultipleRegisters
  | writeFileRecord | maskWriteRegister | readWriteMultipleRegs => true
  | _ => false

/-- The first byte of a request is a function code that writes. -/
def isWrite (rx : List Byte) : Bool := (FunctionCode.ofByte (byteAt rx 0)).any FunctionCode.writes

/-- A request that parses is a write by the function code it was parsed from. -/
theorem isWrite_of_functionCode {rx : List Byte} {r : Request cfg}
    (hcode : byteAt rx 0 = r.functionCode.code) : isWrite rx = r.functionCode.writes := by
  rw [isWrite, hcode, FunctionCode.ofByte_code]
  rfl

/-- The function codes that write are those a broadcast may use. -/
theorem isWrite_eq (rx : List Byte) :
    isWrite rx = modbusBroadcastFunctionSupported (byteAt rx 0) := by
  unfold isWrite
  cases hcode : FunctionCode.ofByte (byteAt rx 0) with
  | some fc =>
      rw [← FunctionCode.ofByte_eq_some.mp hcode]
      cases fc <;> rfl
  | none =>
      have hother : ∀ fc : FunctionCode, byteAt rx 0 ≠ fc.code := by
        intro fc h
        rw [h, FunctionCode.ofByte_code] at hcode
        cases hcode
      simp [modbusBroadcastFunctionSupported, hother]

end AutomationBoard.Modbus
