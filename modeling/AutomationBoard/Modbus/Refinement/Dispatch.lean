/-
# The dispatcher computes the abstract replies

Every handler put together: for every request and every response buffer of at
least 253 bytes, `modbus_pdu_process` finishes without a fault and leaves the
reply of `pduReply`. A broadcast that is not executed leaves everything as it
was.
-/

import AutomationBoard.Modbus.Refinement.Files

namespace AutomationBoard.Modbus

open AutomationBoard.Program

variable {cfg : Config}

/-- The function codes that read the discrete inputs. -/
def readsDiscrete (functionCode : Byte) : Prop :=
  functionCode = FunctionCode.readDiscreteInputs.code ∨
  functionCode = FunctionCode.readExceptionStatus.code

/-- The selected handler computes the reply, if the discrete inputs that it reads
have no base. -/
theorem answers_dispatch_direct (direct : cfg.Direct) (hooks : SyncHooks cfg) (rx : List Byte)
    (env : PduEnv cfg) {start quantity : Word}
    (hdiscrete : readsDiscrete (byteAt rx 0) → cfg.discreteInputOffset = 0)
    (hfields : 5 ≤ rx.length → start = wordAt rx 1 ∧ quantity = wordAt rx 3) :
    Answers (dispatch hooks rx (byteAt rx 0) start quantity) env (byteAt rx 0)
      (pduReply hooks rx env) := by
  have hfive : rx.length = 5 → start = wordAt rx 1 ∧ quantity = wordAt rx 3 :=
    fun h => hfields (by omega)
  unfold dispatch pduReply parseRequest
  cases hcode : FunctionCode.ofByte (byteAt rx 0) with
  | none => exact answers_modbusExceptionResponse env _ _
  | some fc =>
      have hbyte : byteAt rx 0 = fc.code := (FunctionCode.ofByte_eq_some.mp hcode).symm
      rw [hbyte]
      cases fc with
      | readCoils => exact answers_readCoils direct hfive
      | readDiscreteInputs =>
          exact answers_readDiscreteInputs direct (hdiscrete (.inl hbyte)) hfive
      | readHoldingRegisters => exact answers_readHoldingRegisters direct hfive
      | readInputRegisters => exact answers_readInputRegisters direct hfive
      | writeSingleCoil => exact answers_writeSingleCoil direct hbyte hfive
      | writeSingleRegister => exact answers_writeSingleRegister direct hbyte hfive
      | readExceptionStatus => exact answers_readExceptionStatus (hdiscrete (.inr hbyte))
      | writeMultipleCoils => exact answers_writeMultipleCoils direct hbyte hfields
      | writeMultipleRegisters => exact answers_writeMultipleRegisters direct hbyte hfields
      | readFileRecord => exact answers_readFileRecord
      | writeFileRecord => exact answers_writeFileRecord
      | maskWriteRegister =>
          exact answers_maskWriteRegister direct fun h => (hfields (by omega)).1
      | readWriteMultipleRegs => exact answers_readWriteMultipleRegs direct
      | readFifoQueue => exact answers_readFifoQueue
      | encapsulatedInterface => exact answers_encapsulatedInterface
      | diagnostics | getCommEventCounter | getCommEventLog | reportServerId =>
          exact answers_modbusExceptionResponse env _ _

/-- A field that the dispatcher reads ahead, where the request is long enough. -/
theorem yields_fieldAhead {σ : Type} {rx : List Byte} {i : ℕ} (hi : i + 1 < 5) {s : Exchange σ}
    {post : Word → Exchange σ → Prop} :
    Yields (fieldAhead rx i) s post ↔ post (if rx.length ≥ 5 then wordAt rx i else 0) s := by
  rw [fieldAhead]
  by_cases h : rx.length ≥ 5
  · rw [if_pos h, if_pos h, yields_rxWord (by omega)]
  · rw [if_neg h, if_neg h, yields_pure]

/-- A broadcast that the dispatcher drops. -/
def broadcastDropped (rx : List Byte) (isBroadcast : Bool) : Bool :=
  isBroadcast && !modbusBroadcastFunctionSupported (byteAt rx 0)

/-- What the dispatcher is to leave, given what the selected handler answers. -/
theorem yields_modbusPduProcess_of_answers (hooks : SyncHooks cfg) {rx : List Byte}
    (hrx : rx ≠ []) (isBroadcast : Bool) {s : Exchange (PduEnv cfg)} (room : 253 ≤ s.tx.length)
    {reply : List Byte × PduEnv cfg}
    (hanswers : ∀ start quantity,
      (5 ≤ rx.length → start = wordAt rx 1 ∧ quantity = wordAt rx 3) →
        Answers (dispatch hooks rx (byteAt rx 0) start quantity) s.env (byteAt rx 0) reply) :
    Yields (modbusPduProcess hooks rx isBroadcast) s fun r s' =>
      if broadcastDropped rx isBroadcast then r = (.ok, some 0) ∧ s' = s
      else
        r = (.ok, some (if isBroadcast then 0 else reply.1.length)) ∧
          s'.env = reply.2 ∧ Wrote s.tx s'.tx reply.1 := by
  have hlength : 0 < rx.length := List.length_pos_iff.mpr hrx
  rw [modbusPduProcess, if_neg (by omega), yields_bind, yields_rxByte hlength, yields_bind,
    yields_fieldAhead (by omega), yields_bind, yields_fieldAhead (by omega)]
  by_cases hdrop : isBroadcast ∧ ¬ modbusBroadcastFunctionSupported (byteAt rx 0)
  · rw [if_pos hdrop, yields_pure, if_pos (by simpa [broadcastDropped] using hdrop)]
    exact ⟨rfl, rfl⟩
  · have hkept : ¬ broadcastDropped rx isBroadcast := by simpa [broadcastDropped] using hdrop
    rw [if_neg hdrop, yields_bind, yields_txSet, yields_bind]
    refine ⟨by omega, ?_⟩
    have hwrote := (Wrote.refl s.tx).push room (byteAt rx 0) (by simp)
    refine (hanswers _ _ ?_ s.tx _ room hwrote).mono ?_
    · intro h
      exact ⟨if_pos h, if_pos h⟩
    · rintro n s' ⟨rfl, henv, hreply⟩
      rw [yields_pure, if_neg hkept]
      exact ⟨rfl, henv, hreply⟩

/-- The specification of `modbus_pdu_process`. -/
theorem yields_modbusPduProcess (flat : cfg.Flat) (hooks : SyncHooks cfg) {rx : List Byte}
    (hrx : rx ≠ []) (isBroadcast : Bool) {s : Exchange (PduEnv cfg)} (room : 253 ≤ s.tx.length) :
    Yields (modbusPduProcess hooks rx isBroadcast) s fun r s' =>
      if broadcastDropped rx isBroadcast then r = (.ok, some 0) ∧ s' = s
      else
        r = (.ok, some (if isBroadcast then 0 else (pduReply hooks rx s.env).1.length)) ∧
          s'.env = (pduReply hooks rx s.env).2 ∧ Wrote s.tx s'.tx (pduReply hooks rx s.env).1 :=
  yields_modbusPduProcess_of_answers hooks hrx isBroadcast room fun _ _ hfields =>
    answers_dispatch_direct flat.direct hooks rx s.env (fun _ => flat.discreteInputOffset) hfields

end AutomationBoard.Modbus
