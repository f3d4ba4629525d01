/-
# What a transaction reports of the channel

A transport may deliver anything. Success is reported only for a frame that the
addressed slave could have sent in answer to the request, and an exception only
for a frame that carries it, with one exception of the code's own making: a hook
that fails has its status passed on, whatever it is, and `MODBUS_EXCEPTION` is a
status like any other. The caller then finds `MODBUS_EXC_NONE` beside it.
-/

import AutomationBoard.Modbus.Transport

namespace AutomationBoard.Modbus

open AutomationBoard.Program

variable {σ : Type} {slaveId : Byte} {reqPdu : List Byte} {respMax : Option ℕ} {timeoutMs : ℕ}

/-- A frame that passes the checks every response is put to. -/
structure FrameFrom (slaveId : Byte) (frame : List Byte) : Prop where
  length : 4 ≤ frame.length ∧ frame.length ≤ 256
  crc : crcValid frame
  sender : byteAt frame 0 = slaveId

/-- The frame answers a request under its function code, and its PDU is what the
caller gets. -/
structure AnswersWith (slaveId : Byte) (reqPdu : List Byte) (respMax : Option ℕ)
    (frame : List Byte) (r : Transacted) : Prop where
  valid : FrameFrom slaveId frame
  functionCode : byteAt frame 1 = byteAt reqPdu 0
  resp : r.resp = if respMax.isSome then framePdu frame else []
  exceptionCode : r.exceptionCode = 0

/-- The frame is an exception response to a request, and its exception code is
what the caller gets. -/
structure RefusesWith (slaveId : Byte) (reqPdu : List Byte) (frame : List Byte)
    (r : Transacted) : Prop where
  valid : FrameFrom slaveId frame
  functionCode : byteAt frame 1 = byteAt reqPdu 0 ||| 0x80
  unmarked : (byteAt reqPdu 0).msb = false
  resp : r.resp = []
  exceptionCode : 5 ≤ frame.length ∧ r.exceptionCode = byteAt frame 2

/-- Success and exceptions are reported for frames that were received, and
nothing is delivered with any other status. -/
structure ReportsChannel (slaveId : Byte) (reqPdu : List Byte) (respMax : Option ℕ)
    (timeoutMs : ℕ) (calls : List BusCall) (r : Transacted) : Prop where
  ok : r.status = .ok → ∃ frame, .recv rtuFrameMax timeoutMs .ok frame ∈ calls ∧
    AnswersWith slaveId reqPdu respMax frame r
  exception : r.status = .exception → ∃ frame, .recv rtuFrameMax timeoutMs .ok frame ∈ calls ∧
    RefusesWith slaveId reqPdu frame r
  otherwise : r.status ≠ .ok → r.status ≠ .exception → r.resp = [] ∧ r.exceptionCode = 0

/-- A call of `send` or `recv` that returned `MODBUS_EXCEPTION`. -/
def BusCall.reportsException : BusCall → Bool
  | .send _ status => status = .exception
  | .recv _ _ status _ => status = .exception
  | _ => false

/-- Bit 7 is cleared from a byte that has it, and set again. -/
theorem eq_or_exceptionBit {b c : Byte} (hmsb : b.msb = true) (hmask : b &&& 0x7F = c) :
    b = c ||| 0x80 ∧ c.msb = false := by
  subst hmask
  constructor
  · revert hmsb
    revert b
    decide
  · rw [BitVec.msb_and]
    exact Bool.and_false _

/-- A status that is neither success nor an exception comes with nothing. -/
theorem ReportsChannel.of_plain {calls : List BusCall} {status : ModbusStatus}
    (hok : status ≠ .ok) (hexception : status ≠ .exception) :
    ReportsChannel slaveId reqPdu respMax timeoutMs calls (.plain status) where
  ok h := absurd h hok
  exception h := absurd h hexception
  otherwise _ _ := ⟨rfl, rfl⟩

/-- What a received frame is taken for is reported as it should be. -/
theorem reportsChannel_heard {calls : List BusCall} {frame : List Byte}
    (hrecv : .recv rtuFrameMax timeoutMs .ok frame ∈ calls) :
    ReportsChannel slaveId reqPdu respMax timeoutMs calls
      (heard slaveId (byteAt reqPdu 0) respMax frame) := by
  have herror : ReportsChannel slaveId reqPdu respMax timeoutMs calls (.plain .error) :=
    .of_plain (by decide) (by decide)
  unfold heard
  by_cases hlength : lengthValid frame
  · by_cases hcrc : crcValid frame
    · by_cases hid : byteAt frame 0 = slaveId
      · have hvalid : FrameFrom slaveId frame := ⟨hlength, hcrc, hid⟩
        rw [if_neg (not_not_intro hlength), if_neg (not_not_intro hcrc),
          if_neg (not_not_intro hid)]
        by_cases hmsb : (byteAt frame 1).msb = true
        · rw [if_pos hmsb]
          by_cases hcode : 5 ≤ frame.length ∧ byteAt frame 1 &&& 0x7F = byteAt reqPdu 0
          · obtain ⟨hmarked, hunmarked⟩ := eq_or_exceptionBit hmsb hcode.2
            rw [if_pos hcode]
            exact
              { ok := nofun
                exception := fun _ =>
                  ⟨frame, hrecv, hvalid, hmarked, hunmarked, rfl, hcode.1, rfl⟩
                otherwise := fun _ hnot => absurd rfl hnot }
          · rw [if_neg hcode]
            exact herror
        · rw [if_neg hmsb]
          by_cases hcode : byteAt frame 1 = byteAt reqPdu 0
          · rw [if_neg (not_not_intro hcode)]
            have hanswer : ∀ resp, resp = (if respMax.isSome then framePdu frame else []) →
                ReportsChannel slaveId reqPdu respMax timeoutMs calls ⟨.ok, resp, 0⟩ :=
              fun resp hresp =>
                { ok := fun _ => ⟨frame, hrecv, hvalid, hcode, hresp, rfl⟩
                  exception := nofun
                  otherwise := fun hnot => absurd rfl hnot }
            cases respMax with
            | none => exact hanswer [] rfl
            | some respPduMax =>
                simp only
                split_ifs
                · exact hanswer (framePdu frame) rfl
                · exact herror
          · rw [if_pos hcode]
            exact herror
      · rw [if_neg (not_not_intro hlength), if_neg (not_not_intro hcrc), if_pos hid]
        exact herror
    · rw [if_neg (not_not_intro hlength), if_pos hcrc]
      exact .of_plain (by decide) (by decide)
  · rw [if_pos hlength]
    exact herror

/-- A status that a hook returned is passed on. -/
theorem reportsChannel_passed {calls : List BusCall} {status : ModbusStatus} (call : BusCall)
    (hcall : call ∈ calls) (hreports : call.reportsException = decide (status = .exception))
    (hok : status ≠ .ok) :
    ((∃ call ∈ calls, call.reportsException = true) ∧ Transacted.plain status = .plain .exception) ∨
      ReportsChannel slaveId reqPdu respMax timeoutMs calls (.plain status) := by
  by_cases hexception : status = .exception
  · refine .inl ⟨⟨call, hcall, ?_⟩, by rw [hexception]⟩
    rw [hreports, hexception]
    rfl
  · exact .inr (.of_plain hok hexception)

/-- On any transport and for any request to one slave, a transaction reports the
channel as it is, unless a hook has reported an exception itself; then nothing
is delivered with it. -/
theorem modbusMasterTransaction_reportsChannel (transport : Option (MasterTransport σ))
    (hslave : slaveId ≠ 0) (reqPdu : List Byte) (respMax : Option ℕ) (timeoutMs : ℕ)
    (bus : Bus σ) :
    Yields (modbusMasterTransaction transport slaveId reqPdu respMax timeoutMs) bus fun r bus' =>
      ∃ calls, bus'.calls = bus.calls ++ calls ∧
        (((∃ call ∈ calls, call.reportsException = true) ∧ r = .plain .exception) ∨
          ReportsChannel slaveId reqPdu respMax timeoutMs calls r) := by
  by_cases hready : (1 ≤ reqPdu.length ∧ reqPdu.length ≤ 253) ∧
      ∃ send recv delayT35 flushRx onEnd,
        transport = some ⟨some send, some recv, some delayT35, some flushRx, onEnd⟩
  · obtain ⟨⟨hlow, hhigh⟩, send, recv, delayT35, flushRx, onEnd, rfl⟩ := hready
    rw [yields_modbusMasterTransaction hlow hhigh]
    intro adu sent busSent got busGot
    have hsent : (busSent.ended onEnd).calls = bus.calls ++ ([.flushRx, .delayT35,
        .send adu sent.1] ++ (onEnd.map fun _ => BusCall.onEnd).toList) := by
      simp only [busSent, Bus.calls_ended, Bus.calls_after, Bus.calls_taken, List.append_assoc,
        List.cons_append, List.nil_append]
    have hgot : (busGot.ended onEnd).calls = bus.calls ++ ([.flushRx, .delayT35, .send adu sent.1,
        .recv rtuFrameMax timeoutMs got.1.1 got.1.2] ++
          (onEnd.map fun _ => BusCall.onEnd).toList) := by
      simp only [busGot, busSent, Bus.calls_ended, Bus.calls_after, Bus.calls_taken,
        List.append_assoc, List.cons_append, List.nil_append]
    rw [if_neg hslave]
    split_ifs with hunsent hunheard
    · exact ⟨_, hsent, reportsChannel_passed (.send adu sent.1) (by simp) rfl hunsent⟩
    · exact ⟨_, hgot, reportsChannel_passed (.recv rtuFrameMax timeoutMs got.1.1 got.1.2)
        (by simp) rfl hunheard⟩
    · refine ⟨_, hgot, .inr (reportsChannel_heard ?_)⟩
      rw [not_not.mp hunheard]
      simp
  · rw [yields_modbusMasterTransaction_refused fun hsize send recv delayT35 flushRx onEnd h =>
      hready ⟨hsize, send, recv, delayT35, flushRx, onEnd, h⟩]
    exact ⟨[], (List.append_nil _).symm, .inr (.of_plain (by decide) (by decide))⟩

theorem modbusMasterTransaction_reportsChannel_corrupted :
    Yields (modbusMasterTransaction (some (.full (fun _ s => (.ok, s))
        (fun _ _ s => ((.ok, [0x01, 0x83, 0x02, 0x00, 0x00]), s)) id id id))
      0x01 [0x03, 0x00, 0x00, 0x00, 0x01] (some 253) 500) (⟨(), []⟩ : Bus Unit) fun r bus' =>
        ∃ calls, bus'.calls = [] ++ calls ∧
          (((∃ call ∈ calls, call.reportsException = true) ∧ r = .plain .exception) ∨
            ReportsChannel 0x01 [0x03, 0x00, 0x00, 0x00, 0x01] (some 253) 500 calls r) :=
  modbusMasterTransaction_reportsChannel
    (some (.full (fun _ s => (.ok, s)) (fun _ _ s => ((.ok, [0x01, 0x83, 0x02, 0x00, 0x00]), s))
      id id id))
    (by decide) [0x03, 0x00, 0x00, 0x00, 0x01] (some 253) 500 ⟨(), []⟩

/-- A `send` that returns `MODBUS_EXCEPTION` makes the transaction report an
exception that no frame carries. -/
theorem modbusMasterTransaction_sendException :
    ¬ Yields (modbusMasterTransaction (some (.full (fun _ s => (.exception, s))
        (fun _ _ s => ((.timeout, []), s)) id id id))
      0x01 [0x03, 0x00, 0x00, 0x00, 0x01] (some 253) 500) (⟨(), []⟩ : Bus Unit) fun r bus' =>
        ReportsChannel 0x01 [0x03, 0x00, 0x00, 0x00, 0x01] (some 253) 500 bus'.calls r := by
  rw [MasterTransport.full, yields_modbusMasterTransaction (by decide) (by decide)]
  simp only
  rw [if_pos (by decide)]
  intro hreports
  obtain ⟨frame, hrecv, -⟩ := hreports.exception rfl
  simp at hrecv

end AutomationBoard.Modbus
