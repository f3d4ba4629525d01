/-
# Serial line and TCP

Both front ends hand a request to the same dispatcher. A slave that is not in
listen-only mode therefore answers a PDU with the same PDU and the same effect
over either, save for the four function codes that only the serial line has.
-/

import AutomationBoard.Modbus.Master
import AutomationBoard.Modbus.Tcp

namespace AutomationBoard.Modbus

open AutomationBoard.Program

variable {cfg : Config}

/-- The function codes that `modbus_rtu_process` takes to a dispatcher of their
own. -/
def serialOnly (functionCode : Byte) : Prop :=
  functionCode = FunctionCode.diagnostics.code ∨
  functionCode = FunctionCode.getCommEventCounter.code ∨
  functionCode = FunctionCode.getCommEventLog.code ∨
  functionCode = FunctionCode.reportServerId.code

/-- The header of a TCP response: ids as in the request, protocol 0, and the
number of bytes behind the length field. -/
structure EchoesHeader (transactionId : Word) (unitId : Byte) (tx : List Byte) : Prop where
  transactionId_eq : wordAt tx 0 = transactionId
  protocolId_eq : wordAt tx 2 = 0
  length_eq : (wordAt tx 4).toNat = tx.length - 6
  unitId_eq : byteAt tx 6 = unitId

/-- A PDU is sent to the slave as a unicast RTU frame and as a TCP ADU. Unless its
function code is a serial-only one, a slave that is not in listen-only mode makes the
two responses carry one PDU and leaves the same tables, files, queues and hook calls.
If it is one, TCP refuses the request, whatever the mode. -/
structure FrontEndsAgree (s : Slave cfg) (txPdu : Vector Byte tcpMaxPdu) (transactionId : Word)
    (unitId : Byte) (pdu : List Byte) : Prop where
  same : s.listenOnly = false → s.slaveId ≠ 0 → ¬ serialOnly (byteAt pdu 0) →
    Yields (modbusRtuProcess (rtuFrame s.slaveId pdu)) s fun rtu sRtu =>
      Yields (modbusTcpBuildResponse txPdu (tcpAdu transactionId unitId pdu)) s fun tcp sTcp =>
        rtu.status = .ok ∧ tcp.status = .ok ∧
          rtu.tx = rtuFrame s.slaveId (tcp.tx.drop tcpMbapSize) ∧
          EchoesHeader transactionId unitId tcp.tx ∧ sRtu.env = sTcp.env
  refused : serialOnly (byteAt pdu 0) →
    Yields (modbusTcpBuildResponse txPdu (tcpAdu transactionId unitId pdu)) s fun tcp sTcp =>
      tcp.status = .ok ∧
        tcp.tx.drop tcpMbapSize = exceptionPdu (byteAt pdu 0) .illegalFunction ∧
        EchoesHeader transactionId unitId tcp.tx ∧ sTcp.env = s.env

theorem echoesHeader_tcpAdu (transactionId : Word) (unitId : Byte) {pdu : List Byte}
    (h : pdu.length ≤ 253) : EchoesHeader transactionId unitId (tcpAdu transactionId unitId pdu) where
  transactionId_eq := wordAt_tcpAdu_transactionId _ _ _
  protocolId_eq := wordAt_tcpAdu_protocolId _ _ _
  length_eq := by
    rw [wordAt_tcpAdu_length _ _ h, length_tcpAdu]
    omega
  unitId_eq := byteAt_tcpAdu_unitId _ _ _

/-- The dispatcher knows no serial-only function code. -/
theorem pduReply_serialOnly {pdu : List Byte} (h : serialOnly (byteAt pdu 0))
    (hooks : SyncHooks cfg) (env : PduEnv cfg) :
    pduReply hooks pdu env = (exceptionPdu (byteAt pdu 0) .illegalFunction, env) := by
  unfold pduReply parseRequest
  rcases h with h | h | h | h <;> rw [h, FunctionCode.ofByte_code] <;> rfl

/-- A unicast request with another function code goes to the dispatcher. -/
theorem handleRequest_pdu {s : Slave cfg} (hactive : s.listenOnly = false) {pdu : List Byte}
    (h : ¬ serialOnly (byteAt pdu 0)) :
    handleRequest s pdu false =
      ⟨(pduReply s.hooks pdu s.env).1, true, { s with env := (pduReply s.hooks pdu s.env).2 }⟩ := by
  simp only [serialOnly, not_or] at h
  obtain ⟨hdiag, hcounter, hlog, hid⟩ := h
  simp [handleRequest, hdiag, isFetch, hcounter, hlog, hid, hactive, broadcastDropped]

/-- The answer to a unicast request with another function code. -/
theorem slaveStep_pdu {s : Slave cfg} (hactive : s.listenOnly = false) (hid : s.slaveId ≠ 0)
    {pdu : List Byte} (hlow : 1 ≤ pdu.length) (hhigh : pdu.length ≤ 253)
    (h : ¬ serialOnly (byteAt pdu 0)) :
    (slaveStep s (rtuFrame s.slaveId pdu)).1 =
        ⟨.ok, rtuFrame s.slaveId (pduReply s.hooks pdu s.env).1⟩ ∧
      (slaveStep s (rtuFrame s.slaveId pdu)).2.env = (pduReply s.hooks pdu s.env).2 := by
  have hactive' : s.counted.listenOnly = false := hactive
  have hreply : (pduReply s.hooks pdu s.env).1 ≠ [] := by
    intro hnil
    have htwo := (replyShape_pduReply s.hooks pdu s.env).two_le_length
    rw [hnil] at htwo
    exact absurd htwo (by decide)
  rw [slaveStep_rtuFrame hid hlow hhigh, addressedStep_eq]
  simp only [handleRequest_pdu hactive' h]
  exact ⟨congrArg (Outcome.mk .ok) (if_neg hreply), rfl⟩

theorem frontEndsAgree_of_flat (flat : cfg.Flat) (s : Slave cfg) (txPdu : Vector Byte tcpMaxPdu)
    (transactionId : Word) {unitId : Byte} (hunit : unitId = s.tcpUnitId ∨ unitId = 0)
    {pdu : List Byte} (hlow : 1 ≤ pdu.length) (hhigh : pdu.length ≤ 253) :
    FrontEndsAgree s txPdu transactionId unitId pdu := by
  have hpdu : pdu ≠ [] := List.length_pos_iff.mp hlow
  have hreply := length_pduReply_le flat s.hooks hpdu s.env
  have htcp := yields_modbusTcpBuildResponse flat s txPdu transactionId hunit hpdu hhigh
  constructor
  · intro hactive hid hcode
    obtain ⟨hout, henv⟩ := slaveStep_pdu hactive hid hlow hhigh hcode
    apply (yields_modbusRtuProcess flat s _).mono
    intro rtu sRtu hstep
    rw [← hstep] at hout henv
    apply htcp.mono
    rintro tcp sTcp ⟨rfl, rfl⟩
    refine ⟨congrArg Outcome.status hout, rfl, ?_, echoesHeader_tcpAdu _ _ hreply, henv⟩
    rw [drop_tcpAdu]
    exact congrArg Outcome.tx hout
  · intro hcode
    apply htcp.mono
    rintro tcp sTcp ⟨rfl, rfl⟩
    refine ⟨rfl, ?_, echoesHeader_tcpAdu _ _ hreply, ?_⟩
    · rw [drop_tcpAdu, pduReply_serialOnly hcode]
    · rw [pduReply_serialOnly hcode]

/-- Every PDU of 1 to 253 bytes is answered alike over both front ends, whatever
is in the response buffer of the TCP one. -/
theorem frontEndsAgree (s : Slave boardConfig) (txPdu : Vector Byte tcpMaxPdu)
    (transactionId : Word) (unitId : Byte) (pdu : List Byte)
    (hunit : unitId = s.tcpUnitId ∨ unitId = 0) (hlow : 1 ≤ pdu.length)
    (hhigh : pdu.length ≤ 253) : FrontEndsAgree s txPdu transactionId unitId pdu :=
  frontEndsAgree_of_flat Config.boardConfig_flat s txPdu transactionId hunit hlow hhigh

theorem frontEndsAgree_readHolding :
    (Slave.powerOn (SyncHooks.none boardConfig)).listenOnly = false ∧
      (Slave.powerOn (SyncHooks.none boardConfig)).slaveId ≠ 0 ∧
      FrontEndsAgree (Slave.powerOn (SyncHooks.none boardConfig)) (Vector.replicate tcpMaxPdu 0xA5)
        0x1234 0x01 [0x03, 0x00, 0x00, 0x00, 0x0A] :=
  ⟨rfl, by decide, frontEndsAgree (Slave.powerOn (SyncHooks.none boardConfig))
    (Vector.replicate tcpMaxPdu 0xA5) 0x1234 0x01 [0x03, 0x00, 0x00, 0x00, 0x0A] (.inl rfl)
    (by decide) (by decide)⟩

end AutomationBoard.Modbus
