/-
# The TCP front end

`modbus_tcp_build_response`: the MBAP header around the PDU dispatcher. The
response buffer is an uninitialised local of the C function, so its contents are
a parameter here. Serial-line modes, counters and events are not consulted.
-/

import AutomationBoard.Modbus.Refinement.Rtu

namespace AutomationBoard.Modbus

open AutomationBoard.Program

variable {cfg : Config}

/-- `MODBUS_TCP_MBAP_SIZE`. -/
def tcpMbapSize : ℕ := 7

/-- `MODBUS_TCP_MAX_PDU`. -/
def tcpMaxPdu : ℕ := 253

/-- `MODBUS_TCP_MAX_ADU`. -/
def tcpMaxAdu : ℕ := tcpMbapSize + tcpMaxPdu

/-- A PDU behind its MBAP header: transaction id, protocol 0, the length of unit
id and PDU, unit id. -/
def tcpAdu (transactionId : Word) (unitId : Byte) (pdu : List Byte) : List Byte :=
  bytesOfWords [transactionId, 0x0000, BitVec.ofNat 16 (1 + pdu.length)] ++ unitId :: pdu

/-- `modbus_tcp_build_response` from the call of the PDU dispatcher on: the ADU is
for this unit. -/
def tcpAddressed (transactionId : Word) (unitId : Byte) (pdu txPdu : List Byte) :
    Checked Fault (Slave cfg) Outcome := do
  let (status, txPdu, txPduLen) ← callPduProcess pdu false txPdu
  if status ≠ .ok then pure ⟨status, []⟩
  else if txPduLen = 0 then pure ⟨.ok, []⟩
  else if txPduLen > tcpMaxPdu ∨ tcpMbapSize + txPduLen > tcpMaxAdu then pure ⟨.error, []⟩
  else pure ⟨.ok, tcpAdu transactionId unitId (txPdu.take txPduLen)⟩

/-- `modbus_tcp_build_response`, with what is in `tx_pdu` when it is entered. -/
def modbusTcpBuildResponse (txPdu : Vector Byte tcpMaxPdu) (rx : List Byte) :
    Checked Fault (Slave cfg) Outcome := do
  if rx.length < tcpMbapSize + 1 ∨ rx.length > tcpMaxAdu then pure ⟨.error, []⟩
  else
    let transactionId := wordAt rx 0
    let protocolId := wordAt rx 2
    let length := (wordAt rx 4).toNat
    let unitId := byteAt rx 6
    if protocolId ≠ 0 ∨ length < 2 ∨ length > 1 + tcpMaxPdu ∨ rx.length ≠ uint16 (6 + length) then
      pure ⟨.error, []⟩
    else do
      let s ← get
      if unitId ≠ s.tcpUnitId ∧ unitId ≠ 0 then pure ⟨.ok, []⟩
      else tcpAddressed transactionId unitId ((rx.drop tcpMbapSize).take (length - 1)) txPdu.toList

/-! ## The header -/

section Header

variable (transactionId : Word) (unitId : Byte) (pdu : List Byte)

@[simp]
theorem length_tcpAdu : (tcpAdu transactionId unitId pdu).length = pdu.length + 7 := by
  rw [tcpAdu, List.length_append, length_bytesOfWords]
  simp only [List.length_cons, List.length_nil]
  omega

theorem drop_tcpAdu : (tcpAdu transactionId unitId pdu).drop tcpMbapSize = pdu := rfl

theorem wordAt_tcpAdu_transactionId : wordAt (tcpAdu transactionId unitId pdu) 0 = transactionId :=
  word_hiByte_loByte transactionId

theorem wordAt_tcpAdu_protocolId : wordAt (tcpAdu transactionId unitId pdu) 2 = 0 :=
  word_hiByte_loByte 0x0000

theorem byteAt_tcpAdu_unitId : byteAt (tcpAdu transactionId unitId pdu) 6 = unitId := rfl

variable {pdu}

theorem wordAt_tcpAdu_length (h : pdu.length ≤ tcpMaxPdu) :
    (wordAt (tcpAdu transactionId unitId pdu) 4).toNat = 1 + pdu.length := by
  have hword : wordAt (tcpAdu transactionId unitId pdu) 4 = BitVec.ofNat 16 (1 + pdu.length) :=
    word_hiByte_loByte _
  unfold tcpMaxPdu at h
  rw [hword, BitVec.toNat_ofNat]
  omega

end Header

/-! ## The specification -/

/-- An ADU for the unit gets the abstract reply, whatever was in the response
buffer. -/
theorem yields_tcpAddressed (flat : cfg.Flat) (s : Slave cfg) (txPdu : Vector Byte tcpMaxPdu)
    (transactionId : Word) (unitId : Byte) {pdu : List Byte} (hpdu : pdu ≠ []) :
    Yields (tcpAddressed transactionId unitId pdu txPdu.toList) s fun out s' =>
      out = ⟨.ok, tcpAdu transactionId unitId (pduReply s.hooks pdu s.env).1⟩ ∧
        s' = { s with env := (pduReply s.hooks pdu s.env).2 } := by
  rw [tcpAddressed, yields_bind]
  apply (yields_callPduProcess flat s hpdu false (by rw [Vector.length_toList]; decide)).mono
  rintro ⟨status, tx, n⟩ s' h
  have htwo := (replyShape_pduReply s.hooks pdu s.env).two_le_length
  rw [if_neg (by simp [broadcastDropped])] at h
  obtain ⟨rfl, rfl, rfl, hwrote⟩ := h
  have hreply := hwrote.le
  simp only [Bool.false_eq_true, if_false]
  rw [if_neg (by simp), if_neg (by omega),
    if_neg (by unfold tcpMaxAdu tcpMbapSize tcpMaxPdu; omega), yields_pure, hwrote.take]
  exact ⟨rfl, rfl⟩

/-- A well-formed ADU for the unit gets the abstract reply. -/
theorem yields_modbusTcpBuildResponse (flat : cfg.Flat) (s : Slave cfg)
    (txPdu : Vector Byte tcpMaxPdu) (transactionId : Word) {unitId : Byte}
    (hunit : unitId = s.tcpUnitId ∨ unitId = 0) {pdu : List Byte} (hpdu : pdu ≠ [])
    (hle : pdu.length ≤ 253) :
    Yields (modbusTcpBuildResponse txPdu (tcpAdu transactionId unitId pdu)) s fun out s' =>
      out = ⟨.ok, tcpAdu transactionId unitId (pduReply s.hooks pdu s.env).1⟩ ∧
        s' = { s with env := (pduReply s.hooks pdu s.env).2 } := by
  have hlow : 0 < pdu.length := List.length_pos_iff.mpr hpdu
  have hlen := wordAt_tcpAdu_length transactionId unitId hle
  have hforUs : ¬ (unitId ≠ s.tcpUnitId ∧ unitId ≠ 0) := by
    rintro ⟨hother, hnonzero⟩
    exact hunit.elim hother hnonzero
  rw [modbusTcpBuildResponse, length_tcpAdu,
    if_neg (by unfold tcpMaxAdu tcpMbapSize tcpMaxPdu; omega)]
  simp only [hlen, wordAt_tcpAdu_protocolId, wordAt_tcpAdu_transactionId, byteAt_tcpAdu_unitId,
    drop_tcpAdu]
  have hheader : ¬ (1 + pdu.length < 2 ∨ 1 + pdu.length > 1 + tcpMaxPdu ∨
      pdu.length + 7 ≠ uint16 (6 + (1 + pdu.length))) := by
    unfold tcpMaxPdu uint16
    omega
  rw [if_neg (not_or.mpr ⟨not_not_intro rfl, hheader⟩), yields_bind, yields_get, if_neg hforUs,
    Nat.add_sub_cancel_left, List.take_length]
  exact yields_tcpAddressed flat s txPdu transactionId unitId hpdu

/-- What a call does with any ADU: nothing, or it answers the PDU behind the header. -/
inductive TcpHandled (s : Slave cfg) (rx : List Byte) (out : Outcome) (s' : Slave cfg) : Prop
  | ignored (silent : out.tx = []) (unchanged : s' = s)
  | answered (transactionId : Word) (unitId : Byte)
      (reply : out = ⟨.ok, tcpAdu transactionId unitId
        (pduReply s.hooks (rx.drop tcpMbapSize) s.env).1⟩)
      (effect : s' = { s with env := (pduReply s.hooks (rx.drop tcpMbapSize) s.env).2 })

/-- Every ADU, well formed or not. -/
theorem yields_modbusTcpBuildResponse_any (flat : cfg.Flat) (s : Slave cfg)
    (txPdu : Vector Byte tcpMaxPdu) (rx : List Byte) :
    Yields (modbusTcpBuildResponse txPdu rx) s fun out s' => TcpHandled s rx out s' := by
  rw [modbusTcpBuildResponse]
  by_cases hsize : rx.length < tcpMbapSize + 1 ∨ rx.length > tcpMaxAdu
  · rw [if_pos hsize, yields_pure]
    exact .ignored rfl rfl
  rw [if_neg hsize]
  simp only
  by_cases hheader : wordAt rx 2 ≠ 0 ∨ (wordAt rx 4).toNat < 2 ∨
      (wordAt rx 4).toNat > 1 + tcpMaxPdu ∨ rx.length ≠ uint16 (6 + (wordAt rx 4).toNat)
  · rw [if_pos hheader, yields_pure]
    exact .ignored rfl rfl
  rw [if_neg hheader, yields_bind, yields_get]
  by_cases hother : byteAt rx 6 ≠ s.tcpUnitId ∧ byteAt rx 6 ≠ 0
  · rw [if_pos hother, yields_pure]
    exact .ignored rfl rfl
  rw [if_neg hother]
  have hlength : rx.length = 6 + (wordAt rx 4).toNat := by
    unfold tcpMaxPdu uint16 at hheader
    omega
  have hdrop : (rx.drop tcpMbapSize).length = (wordAt rx 4).toNat - 1 := by
    rw [List.length_drop, hlength, tcpMbapSize]
    omega
  have hpdu : rx.drop tcpMbapSize ≠ [] := by
    apply List.ne_nil_of_length_pos
    omega
  rw [← hdrop, List.take_length]
  apply (yields_tcpAddressed flat s txPdu (wordAt rx 0) (byteAt rx 6) hpdu).mono
  rintro out s' ⟨hout, hs'⟩
  exact .answered _ _ hout hs'

end AutomationBoard.Modbus
