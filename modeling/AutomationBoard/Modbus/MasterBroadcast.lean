/-
# Writes that are broadcast

A broadcast has no response, and a transaction with id 0 ends well once its frame
is sent. Three of the operations that may be broadcast look at the id before they
look at the response. The other five check the response that did not come, so
they report an error for a broadcast that every slave has carried out.
-/

import AutomationBoard.Modbus.MasterApi

namespace AutomationBoard.Modbus

open AutomationBoard.Program

variable {σ : Type}

/-- The call writes, may be broadcast, and has arguments that a request can be
built from. -/
def MasterCall.BroadcastWrite : MasterCall → Prop
  | writeSingleCoil _ _ | writeSingleRegister _ _ | maskWriteRegister _ _ _ => True
  | diagRestartComm _ | diagClearCounters => True
  | writeMultipleCoils _ quantity _ => 1 ≤ quantity.toNat ∧ quantity.toNat ≤ 1968
  | writeMultipleRegisters _ quantity _ => 1 ≤ quantity.toNat ∧ quantity.toNat ≤ 123
  | writeFileRecord _ _ recordLength _ => 1 ≤ recordLength.toNat ∧ recordLength.toNat ≤ 122
  | _ => False

/-- The operations that look at the id before they look at the response. -/
def MasterCall.tellsBroadcast : MasterCall → Bool
  | maskWriteRegister _ _ _ | diagRestartComm _ | diagClearCounters => true
  | _ => false

/-- A call of `send`. -/
def BusCall.isSend : BusCall → Bool
  | .send _ _ => true
  | _ => false

/-- The request was sent once, in a broadcast frame, no frame was waited for, and
the call has succeeded. -/
structure SentAsBroadcast (call : MasterCall) (calls : List BusCall) (reply : Reply Delivered) :
    Prop where
  sent : calls.filter BusCall.isSend = [.send (rtuFrame 0 call.requestPdu) .ok]
  unheard : ∀ maxLen timeoutMs status frame, .recv maxLen timeoutMs status frame ∉ calls
  status : reply.status = .ok

/-- The request of a broadcast write is built. -/
theorem MasterCall.BroadcastWrite.requestPdu_ne_nil {call : MasterCall}
    (h : call.BroadcastWrite) : call.requestPdu ≠ [] := by
  cases call with
  | writeSingleCoil | writeSingleRegister | maskWriteRegister | diagRestartComm
  | diagClearCounters => exact List.cons_ne_nil _ _
  | writeMultipleCoils start quantity bits =>
      exact ne_of_eq_of_ne (modbusMasterBuildWriteMultipleCoils_eq.trans (if_pos h))
        (List.cons_ne_nil _ _)
  | writeMultipleRegisters start quantity regs =>
      exact ne_of_eq_of_ne (modbusMasterBuildWriteMultipleRegisters_eq.trans (if_pos h))
        (List.cons_ne_nil _ _)
  | writeFileRecord fileNumber recordNumber recordLength regs =>
      exact ne_of_eq_of_ne (modbusMasterBuildWriteFileRecord_eq.trans (if_pos h))
        (List.cons_ne_nil _ _)
  | _ => exact h.elim

/-- What an operation makes of a response that did not come. -/
theorem MasterCall.BroadcastWrite.yields_parse_nil {call : MasterCall} (h : call.BroadcastWrite)
    {s : σ} {post : Option Delivered → σ → Prop} :
    Yields (call.parse 0 []) s post ↔
      post (if call.tellsBroadcast then some .done else none) s := by
  have hsome := h.requestPdu_ne_nil
  cases call with
  | writeSingleCoil | writeSingleRegister | writeMultipleCoils | writeMultipleRegisters =>
      simp [parse, checkHead, tellsBroadcast]
  | writeFileRecord fileNumber recordNumber recordLength regs =>
      have hlength : ([] : List Byte).length ≠ (modbusMasterBuildWriteFileRecord fileNumber
          recordNumber recordLength regs rtuFrameMax).length := fun hnone =>
        hsome (List.length_eq_zero_iff.mp hnone.symm)
      simp only [parse, checkEcho, if_pos hlength, map_pure, yields_pure, tellsBroadcast]
      rfl
  | maskWriteRegister | diagRestartComm | diagClearCounters =>
      simp [parse, unlessBroadcast, tellsBroadcast]
  | _ => exact h.elim

section Broadcast

variable {send : List Byte → σ → ModbusStatus × σ}
  {recv : ℕ → ℕ → σ → (ModbusStatus × List Byte) × σ} {delayT35 flushRx : σ → σ}
  {onEnd : Option (σ → σ)} {timeoutMs : ℕ} {call : MasterCall} {bus : Bus σ}

/-- What a call does with id 0: its frame is sent and nothing else happens. -/
theorem MasterCall.BroadcastWrite.yields_run (h : call.BroadcastWrite)
    {post : Reply Delivered → Bus σ → Prop} :
    Yields (call.run
        ⟨some ⟨some send, some recv, some delayT35, some flushRx, onEnd⟩, timeoutMs⟩ 0) bus post ↔
      let sent := send (rtuFrame 0 call.requestPdu) (bus.taken delayT35 flushRx).world
      let busSent := (bus.taken delayT35 flushRx).after
        (.send (rtuFrame 0 call.requestPdu) sent.1) sent.2
      if sent.1 ≠ .ok then post ⟨sent.1, some 0, none⟩ (busSent.ended onEnd)
      else post (.parsed 0 (if call.tellsBroadcast then some .done else none))
        (busSent.ended onEnd) := by
  have hrefused : call.refused 0 = false := by
    cases call <;> first | rfl | exact h.elim
  have hsome := h.requestPdu_ne_nil
  rw [MasterCall.run_eq, hrefused, if_neg Bool.false_ne_true, yields_masterRequest hsome,
    yields_modbusMasterTransaction (List.length_pos_iff.mpr hsome) call.length_requestPdu_le]
  by_cases hsent : (send (rtuFrame 0 call.requestPdu) (bus.taken delayT35 flushRx).world).1 = .ok
  · simp only [hsent, ne_eq, not_true_eq_false, if_false, if_true, Transacted.status_plain,
      Transacted.resp_plain, Transacted.exceptionCode_plain, h.yields_parse_nil]
  · simp only [hsent, ne_eq, not_false_eq_true, if_true, Transacted.status_plain,
      Transacted.exceptionCode_plain]

end Broadcast

/-- With id 0 and a `send` that succeeds, a write that may be broadcast is sent
and reported as sent exactly when its operation looks at the id first. -/
theorem masterCall_sentAsBroadcast_iff (send : List Byte → σ → ModbusStatus × σ)
    (recv : ℕ → ℕ → σ → (ModbusStatus × List Byte) × σ) (delayT35 flushRx : σ → σ)
    (onEnd : Option (σ → σ)) (timeoutMs : ℕ) (call : MasterCall) (hcall : call.BroadcastWrite)
    (bus : Bus σ) :
    Yields (call.run
        ⟨some ⟨some send, some recv, some delayT35, some flushRx, onEnd⟩, timeoutMs⟩ 0) bus
      fun reply bus' => ∃ calls, bus'.calls = bus.calls ++ calls ∧
        ((∀ adu status, .send adu status ∈ calls → status = .ok) →
          (SentAsBroadcast call calls reply ↔ call.tellsBroadcast = true)) := by
  rw [hcall.yields_run]
  intro sent busSent
  have hcalls : (busSent.ended onEnd).calls = bus.calls ++ ([.flushRx, .delayT35,
      .send (rtuFrame 0 call.requestPdu) sent.1] ++
        (onEnd.map fun _ => BusCall.onEnd).toList) := by
    simp only [busSent, Bus.calls_ended, Bus.calls_after, Bus.calls_taken, List.append_assoc,
      List.cons_append, List.nil_append]
  by_cases hsent : sent.1 = .ok
  · rw [if_neg (not_not_intro hsent)]
    refine ⟨_, hcalls, fun _ => ⟨fun hreply => ?_, fun htells => ?_⟩⟩
    · by_contra hchecks
      have hstatus := hreply.status
      rw [if_neg hchecks] at hstatus
      cases hstatus
    · refine ⟨?_, ?_, ?_⟩
      · rw [hsent]
        cases onEnd <;> rfl
      · intro maxLen timeoutMs status frame
        cases onEnd <;> simp
      · rw [if_pos htells]
        rfl
  · rw [if_pos hsent]
    refine ⟨_, hcalls, fun hall => absurd (hall (rtuFrame 0 call.requestPdu) sent.1 ?_) hsent⟩
    simp

theorem masterCall_sentAsBroadcast_iff_maskWrite :
    Yields (MasterCall.run ⟨some ⟨some fun _ s => (.ok, s), some fun _ _ s => ((.timeout, []), s),
        some id, some id, none⟩, 500⟩ 0 (.maskWriteRegister 4 0x0000 0xABCD)) (⟨(), []⟩ : Bus Unit)
      fun reply bus' => ∃ calls, bus'.calls = [] ++ calls ∧
        ((∀ adu status, .send adu status ∈ calls → status = .ok) →
          (SentAsBroadcast (.maskWriteRegister 4 0x0000 0xABCD) calls reply ↔
            MasterCall.tellsBroadcast (.maskWriteRegister 4 0x0000 0xABCD) = true)) :=
  masterCall_sentAsBroadcast_iff (fun _ s => (.ok, s)) (fun _ _ s => ((.timeout, []), s)) id id none
    500 (.maskWriteRegister 4 0x0000 0xABCD) trivial ⟨(), []⟩

/-- A coil that is written on all slaves is reported as an error. -/
theorem masterCall_writeSingleCoil_broadcast :
    ¬ Yields (MasterCall.run ⟨some ⟨some fun _ s => (.ok, s), some fun _ _ s => ((.timeout, []), s),
        some id, some id, none⟩, 500⟩ 0 (.writeSingleCoil 0 1)) (⟨(), []⟩ : Bus Unit)
      fun reply bus' => SentAsBroadcast (.writeSingleCoil 0 1) bus'.calls reply := by
  have hcall : (MasterCall.writeSingleCoil 0 1).BroadcastWrite := trivial
  rw [hcall.yields_run]
  intro hreply
  have hstatus := hreply.status
  cases hstatus

end AutomationBoard.Modbus
