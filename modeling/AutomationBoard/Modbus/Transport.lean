/-
# Transactions over a transport

`modbus_master_transaction`. The transport is a table of hooks over a world of
its own, so a channel may do anything with what it is given; each call of a hook
is recorded, with its arguments and what it brought back. What the transaction
makes of a received frame is a function of the frame alone, and the transaction
is the calls up to that frame.
-/

import AutomationBoard.Modbus.Master
import AutomationBoard.Modbus.MasterParse

namespace AutomationBoard.Modbus

open AutomationBoard.Program

/-! ## The transport -/

/-- `modbus_master_transport_t`. A hook works on the world that `ctx` stands
for; one that is not set is a null pointer. What `recv` returns besides its status
are the bytes that `adu` and `*adu_len` delimit. -/
structure MasterTransport (σ : Type) where
  send : Option (List Byte → σ → ModbusStatus × σ)
  recv : Option (ℕ → ℕ → σ → (ModbusStatus × List Byte) × σ)
  delayT35 : Option (σ → σ)
  flushRx : Option (σ → σ)
  onEnd : Option (σ → σ)

/-- A transport with all its hooks. -/
def MasterTransport.full {σ : Type} (send : List Byte → σ → ModbusStatus × σ)
    (recv : ℕ → ℕ → σ → (ModbusStatus × List Byte) × σ) (delayT35 flushRx onEnd : σ → σ) :
    MasterTransport σ := ⟨some send, some recv, some delayT35, some flushRx, some onEnd⟩

/-- A call of a hook. -/
inductive BusCall
  | flushRx
  | delayT35
  | send (adu : List Byte) (status : ModbusStatus)
  | recv (maxLen timeoutMs : ℕ) (status : ModbusStatus) (frame : List Byte)
  | onEnd
  deriving DecidableEq

/-- The world of a transport, and the calls of its hooks so far. -/
structure Bus (σ : Type) where
  world : σ
  calls : List BusCall

/-- What a transaction leaves with its caller: the status, the bytes that
`resp_pdu` and `*resp_pdu_len` delimit, and `*exception_code`. -/
structure Transacted where
  status : ModbusStatus
  resp : List Byte
  exceptionCode : Byte
  deriving DecidableEq

/-- A status with an empty response and `MODBUS_EXC_NONE`. -/
def Transacted.plain (status : ModbusStatus) : Transacted := ⟨status, [], 0⟩

@[simp]
theorem Transacted.status_plain (status : ModbusStatus) : (plain status).status = status := rfl

@[simp]
theorem Transacted.resp_plain (status : ModbusStatus) : (plain status).resp = [] := rfl

@[simp]
theorem Transacted.exceptionCode_plain (status : ModbusStatus) :
    (plain status).exceptionCode = 0 := rfl

variable {σ : Type}

namespace Bus

/-- The bus after a call. -/
def after (bus : Bus σ) (call : BusCall) (world : σ) : Bus σ := ⟨world, bus.calls ++ [call]⟩

/-- The bus once the transaction has ended. -/
def ended (bus : Bus σ) : Option (σ → σ) → Bus σ
  | some onEnd => bus.after .onEnd (onEnd bus.world)
  | none => bus

/-- The bus once it is taken: old input is discarded and the gap before a frame
is kept. -/
def taken (bus : Bus σ) (delayT35 flushRx : σ → σ) : Bus σ :=
  (bus.after .flushRx (flushRx bus.world)).after .delayT35 (delayT35 (flushRx bus.world))

@[simp]
theorem world_after (bus : Bus σ) (call : BusCall) (world : σ) :
    (bus.after call world).world = world := rfl

@[simp]
theorem calls_after (bus : Bus σ) (call : BusCall) (world : σ) :
    (bus.after call world).calls = bus.calls ++ [call] := rfl

@[simp]
theorem calls_ended (bus : Bus σ) (onEnd : Option (σ → σ)) :
    (bus.ended onEnd).calls = bus.calls ++ (onEnd.map fun _ => BusCall.onEnd).toList := by
  cases onEnd with
  | some onEnd => rfl
  | none => exact (List.append_nil _).symm

@[simp]
theorem calls_taken (bus : Bus σ) (delayT35 flushRx : σ → σ) :
    (bus.taken delayT35 flushRx).calls = bus.calls ++ [.flushRx, .delayT35] := by
  rw [taken, calls_after, calls_after, List.append_assoc]
  rfl

end Bus

/-! ## Calls of the hooks -/

/-- `s_transport->flush_rx(s_transport->ctx)`. -/
def callFlushRx (flushRx : σ → σ) : Checked Fault (Bus σ) PUnit :=
  modify fun bus => bus.after .flushRx (flushRx bus.world)

/-- `s_transport->delay_t35(s_transport->ctx)`. -/
def callDelayT35 (delayT35 : σ → σ) : Checked Fault (Bus σ) PUnit :=
  modify fun bus => bus.after .delayT35 (delayT35 bus.world)

/-- `s_transport->send(adu_tx, adu_tx_len, s_transport->ctx)`. -/
def callSend (send : List Byte → σ → ModbusStatus × σ) (adu : List Byte) :
    Checked Fault (Bus σ) ModbusStatus := do
  let bus ← get
  let r := send adu bus.world
  set (bus.after (.send adu r.1) r.2)
  pure r.1

/-- `s_transport->recv(adu_rx, max_len, &adu_rx_len, timeout_ms, s_transport->ctx)`. -/
def callRecv (recv : ℕ → ℕ → σ → (ModbusStatus × List Byte) × σ) (maxLen timeoutMs : ℕ) :
    Checked Fault (Bus σ) (ModbusStatus × List Byte) := do
  let bus ← get
  let r := recv maxLen timeoutMs bus.world
  set (bus.after (.recv maxLen timeoutMs r.1.1 r.1.2) r.2)
  pure r.1

/-- `if (s_transport->end) { s_transport->end(s_transport->ctx); }`. -/
def callEnd (onEnd : Option (σ → σ)) : Checked Fault (Bus σ) PUnit :=
  modify fun bus => bus.ended onEnd

/-! ## The transaction -/

/-- The part of `modbus_master_transaction` after `recv` has returned a frame. -/
def masterReceived (onEnd : Option (σ → σ)) (slaveId : Byte) (reqPdu : List Byte)
    (respMax : Option ℕ) (aduRx : List Byte) : Checked Fault (Bus σ) Transacted := do
  let (st, pduOut) := modbusMasterRtuValidateResponse slaveId aduRx
  if st ≠ .ok then
    callEnd onEnd
    pure (.plain st)
  else
    let pdu := pduOut.getD []
    if pdu.length < 1 then
      callEnd onEnd
      pure (.plain .error)
    else if ((← pduByte pdu 0) &&& 0x80) ≠ 0 then
      -- function code | 0x80 and the exception code
      if pdu.length < 2 ∨ ((← pduByte pdu 0) &&& 0x7F) ≠ (← pduByte reqPdu 0) then
        callEnd onEnd
        pure (.plain .error)
      else
        let exceptionCode ← pduByte pdu 1
        callEnd onEnd
        pure ⟨.exception, [], exceptionCode⟩
    else if (← pduByte pdu 0) ≠ (← pduByte reqPdu 0) then
      callEnd onEnd
      pure (.plain .error)
    else
      match respMax with
      | some respPduMax =>
          if pdu.length > respPduMax then
            callEnd onEnd
            pure (.plain .error)
          else
            let resp ← pduBytes pdu 0 pdu.length
            callEnd onEnd
            pure ⟨.ok, resp, 0⟩
      | none =>
          callEnd onEnd
          pure (.plain .ok)

/-- `modbus_master_transaction`. No `respMax` means that `resp_pdu` or
`resp_pdu_len` is null. -/
def modbusMasterTransaction (transport : Option (MasterTransport σ)) (slaveId : Byte)
    (reqPdu : List Byte) (respMax : Option ℕ) (timeoutMs : ℕ) :
    Checked Fault (Bus σ) Transacted :=
  match transport with
  | some ⟨some send, some recv, some delayT35, some flushRx, onEnd⟩ =>
      if reqPdu.length = 0 then pure (.plain .error)
      else
        let aduTx := modbusMasterRtuFrame slaveId reqPdu rtuFrameMax
        if aduTx.length = 0 then pure (.plain .error)
        else do
          callFlushRx flushRx
          callDelayT35 delayT35
          let st ← callSend send aduTx
          if st ≠ .ok then
            callEnd onEnd
            pure (.plain st)
          else if slaveId = 0 then
            -- a broadcast has no response
            callEnd onEnd
            pure (.plain .ok)
          else
            let (st, aduRx) ← callRecv recv rtuFrameMax timeoutMs
            if st ≠ .ok then
              callEnd onEnd
              pure (.plain st)
            else masterReceived onEnd slaveId reqPdu respMax aduRx
  | _ => pure (.plain .error)

/-! ## What the calls do -/

section Calls

variable {bus : Bus σ}

@[simp]
theorem yields_callFlushRx {flushRx : σ → σ} {post : PUnit → Bus σ → Prop} :
    Yields (callFlushRx flushRx) bus post ↔ post ⟨⟩ (bus.after .flushRx (flushRx bus.world)) :=
  yields_modify

@[simp]
theorem yields_callDelayT35 {delayT35 : σ → σ} {post : PUnit → Bus σ → Prop} :
    Yields (callDelayT35 delayT35) bus post ↔
      post ⟨⟩ (bus.after .delayT35 (delayT35 bus.world)) :=
  yields_modify

@[simp]
theorem yields_callSend {send : List Byte → σ → ModbusStatus × σ} {adu : List Byte}
    {post : ModbusStatus → Bus σ → Prop} :
    Yields (callSend send adu) bus post ↔
      post (send adu bus.world).1
        (bus.after (.send adu (send adu bus.world).1) (send adu bus.world).2) := by
  simp only [callSend, yields_bind, yields_get, yields_set, yields_pure]

@[simp]
theorem yields_callRecv {recv : ℕ → ℕ → σ → (ModbusStatus × List Byte) × σ} {maxLen timeoutMs : ℕ}
    {post : ModbusStatus × List Byte → Bus σ → Prop} :
    Yields (callRecv recv maxLen timeoutMs) bus post ↔
      post (recv maxLen timeoutMs bus.world).1
        (bus.after (.recv maxLen timeoutMs (recv maxLen timeoutMs bus.world).1.1
          (recv maxLen timeoutMs bus.world).1.2) (recv maxLen timeoutMs bus.world).2) := by
  simp only [callRecv, yields_bind, yields_get, yields_set, yields_pure]

@[simp]
theorem yields_callEnd {onEnd : Option (σ → σ)} {post : PUnit → Bus σ → Prop} :
    Yields (callEnd onEnd) bus post ↔ post ⟨⟩ (bus.ended onEnd) :=
  yields_modify

end Calls

/-! ## What a frame is taken for -/

/-- The result of a transaction in which a frame was received. -/
def heard (slaveId functionCode : Byte) (respMax : Option ℕ) (frame : List Byte) : Transacted :=
  if ¬ lengthValid frame then .plain .error
  else if ¬ crcValid frame then .plain .crcError
  else if byteAt frame 0 ≠ slaveId then .plain .error
  else if (byteAt frame 1).msb then
    if 5 ≤ frame.length ∧ byteAt frame 1 &&& 0x7F = functionCode then
      ⟨.exception, [], byteAt frame 2⟩
    else .plain .error
  else if byteAt frame 1 ≠ functionCode then .plain .error
  else
    match respMax with
    | some respPduMax =>
        if (framePdu frame).length ≤ respPduMax then ⟨.ok, framePdu frame, 0⟩ else .plain .error
    | none => .plain .ok

theorem byteAt_framePdu {frame : List Byte} {i : ℕ} (h : i + 3 < frame.length) :
    byteAt (framePdu frame) i = byteAt frame (i + 1) := by
  rw [framePdu, byteAt_take (by omega)]
  simp [byteAt]

/-- Handling a received frame comes to what the frame is taken for, and ends the
transaction. -/
theorem yields_masterReceived {onEnd : Option (σ → σ)} {slaveId : Byte} {reqPdu : List Byte}
    (hreq : reqPdu ≠ []) {respMax : Option ℕ} {frame : List Byte} {bus : Bus σ}
    {post : Transacted → Bus σ → Prop} :
    Yields (masterReceived onEnd slaveId reqPdu respMax frame) bus post ↔
      post (heard slaveId (byteAt reqPdu 0) respMax frame) (bus.ended onEnd) := by
  have hpos : 0 < reqPdu.length := List.length_pos_iff.mpr hreq
  rw [masterReceived, modbusMasterRtuValidateResponse_eq]
  unfold heard
  by_cases hlength : lengthValid frame
  · by_cases hcrc : crcValid frame
    · by_cases hid : byteAt frame 0 = slaveId
      · have hpdu := length_framePdu hlength
        have hlow := hlength.1
        have hone : ¬ (framePdu frame).length < 1 := by omega
        have hfirst : byteAt (framePdu frame) 0 = byteAt frame 1 := byteAt_framePdu (by omega)
        have hwhole : bytesAt (framePdu frame) 0 (framePdu frame).length = framePdu frame := by
          rw [bytesAt_eq_take_drop (by omega), List.drop_zero, List.take_length]
        simp only [if_neg (not_not_intro hlength), if_neg (not_not_intro hcrc),
          if_neg (not_not_intro hid), if_neg (not_not_intro (rfl : ModbusStatus.ok = .ok)),
          Option.getD_some, if_neg hone, yields_bind, yields_pduByte, hfirst, yields_ite,
          and_exceptionBit_ne_zero, yields_callEnd, yields_pure, hpos, true_and]
        have hsome : 0 < (framePdu frame).length := by omega
        simp only [hsome, true_and]
        by_cases hmsb : (byteAt frame 1).msb = true
        · simp only [if_pos hmsb]
          by_cases hexception : 5 ≤ frame.length ∧ byteAt frame 1 &&& 0x7F = byteAt reqPdu 0
          · have hcode : byteAt (framePdu frame) 1 = byteAt frame 2 := byteAt_framePdu (by omega)
            have hbad : ¬ ((framePdu frame).length < 2 ∨
                byteAt frame 1 &&& 0x7F ≠ byteAt reqPdu 0) := by
              rintro (hshort | hother)
              · omega
              · exact hother hexception.2
            rw [if_neg hbad, if_pos hexception, hcode, and_iff_right (by omega)]
          · have hbad : (framePdu frame).length < 2 ∨ byteAt frame 1 &&& 0x7F ≠ byteAt reqPdu 0 := by
              by_contra hgood
              obtain ⟨hlong, hsame⟩ := not_or.mp hgood
              exact hexception ⟨by omega, not_not.mp hsame⟩
            rw [if_pos hbad, if_neg hexception]
        · simp only [if_neg hmsb]
          by_cases hother : byteAt frame 1 ≠ byteAt reqPdu 0
          · rw [if_pos hother, if_pos hother]
          · rw [if_neg hother, if_neg hother]
            cases respMax with
            | none => simp only [yields_bind, yields_callEnd, yields_pure]
            | some respPduMax =>
                simp only [yields_ite, yields_bind, yields_callEnd, yields_pduBytes, yields_pure,
                  hwhole, gt_iff_lt, Nat.zero_add, le_refl, implies_true, true_and]
                by_cases hfits : (framePdu frame).length ≤ respPduMax
                · rw [if_pos hfits, if_neg (Nat.not_lt_of_le hfits)]
                · rw [if_neg hfits, if_pos (Nat.lt_of_not_le hfits)]
      · simp [hlength, hcrc, hid]
    · simp [hlength, hcrc]
  · simp [hlength]

/-! ## The course of a transaction -/

section Transaction

variable {send : List Byte → σ → ModbusStatus × σ}
  {recv : ℕ → ℕ → σ → (ModbusStatus × List Byte) × σ} {delayT35 flushRx : σ → σ}
  {onEnd : Option (σ → σ)} {slaveId : Byte} {reqPdu : List Byte} {respMax : Option ℕ}
  {timeoutMs : ℕ} {bus : Bus σ} {post : Transacted → Bus σ → Prop}

/-- Without a transport, without one of its hooks, or with a request that cannot
be framed, the bus is not taken. -/
theorem yields_modbusMasterTransaction_refused {transport : Option (MasterTransport σ)}
    (hrefused : (1 ≤ reqPdu.length ∧ reqPdu.length ≤ 253) →
      ∀ send recv delayT35 flushRx onEnd,
        transport ≠ some ⟨some send, some recv, some delayT35, some flushRx, onEnd⟩) :
    Yields (modbusMasterTransaction transport slaveId reqPdu respMax timeoutMs) bus post ↔
      post (.plain .error) bus := by
  unfold modbusMasterTransaction
  split
  · next send recv delayT35 flushRx onEnd =>
      have hsize : ¬ (1 ≤ reqPdu.length ∧ reqPdu.length ≤ 253) := fun h =>
        hrefused h send recv delayT35 flushRx onEnd rfl
      rw [modbusMasterRtuFrame_eq_nil hsize]
      simp only [List.length_nil, if_true, ite_self, yields_pure]
  · exact yields_pure

/-- With its hooks and a request that can be framed, a transaction takes the bus,
sends the frame and, unless it is a broadcast, waits for one; then it ends. -/
theorem yields_modbusMasterTransaction (hlow : 1 ≤ reqPdu.length) (hhigh : reqPdu.length ≤ 253) :
    Yields (modbusMasterTransaction
        (some ⟨some send, some recv, some delayT35, some flushRx, onEnd⟩) slaveId reqPdu respMax
        timeoutMs) bus post ↔
      let adu := rtuFrame slaveId reqPdu
      let sent := send adu (bus.taken delayT35 flushRx).world
      let busSent := (bus.taken delayT35 flushRx).after (.send adu sent.1) sent.2
      let got := recv rtuFrameMax timeoutMs busSent.world
      let busGot := busSent.after (.recv rtuFrameMax timeoutMs got.1.1 got.1.2) got.2
      if sent.1 ≠ .ok then post (.plain sent.1) (busSent.ended onEnd)
      else if slaveId = 0 then post (.plain .ok) (busSent.ended onEnd)
      else if got.1.1 ≠ .ok then post (.plain got.1.1) (busGot.ended onEnd)
      else post (heard slaveId (byteAt reqPdu 0) respMax got.1.2) (busGot.ended onEnd) := by
  have hsome : reqPdu ≠ [] := List.length_pos_iff.mp hlow
  have hframe : ¬ (rtuFrame slaveId reqPdu).length = 0 := by
    rw [length_rtuFrame]
    omega
  unfold modbusMasterTransaction
  simp only [if_neg (Nat.ne_of_gt hlow), modbusMasterRtuFrame_eq_rtuFrame hlow hhigh, if_neg hframe,
    yields_bind, yields_callFlushRx, yields_callDelayT35, yields_callSend, yields_callRecv,
    yields_ite, yields_callEnd, yields_pure, yields_masterReceived hsome]
  rfl

end Transaction

end AutomationBoard.Modbus
