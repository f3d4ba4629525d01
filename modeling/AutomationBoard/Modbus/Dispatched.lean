/-
# The requests that reach the dispatcher

A frame or an ADU changes the tables only as a PDU that its front end hands to the
dispatcher. Which PDU that is, if any, is decided by the frame and by the ids and the
mode of the slave.
-/

import AutomationBoard.Modbus.BoardSync
import AutomationBoard.Modbus.FrontEnds
import AutomationBoard.Modbus.LineLedger

namespace AutomationBoard.Modbus

open AutomationBoard.Program

variable {cfg : Config}

instance (functionCode : Byte) : Decidable (serialOnly functionCode) :=
  inferInstanceAs (Decidable (_ ∨ _ ∨ _ ∨ _))

/-- The frame is valid and addressed to the slave, which is not in listen-only mode,
and its request is one for the dispatcher. -/
def ReachesDispatcher (s : Slave cfg) (rx : List Byte) : Prop :=
  lengthValid rx ∧ crcValid rx ∧ (byteAt rx 0 = s.slaveId ∨ byteAt rx 0 = 0) ∧
    s.listenOnly = false ∧ ¬ serialOnly (byteAt (framePdu rx) 0) ∧
    broadcastDropped (framePdu rx) (byteAt rx 0 = 0) = false

instance (s : Slave cfg) (rx : List Byte) : Decidable (ReachesDispatcher s rx) :=
  inferInstanceAs (Decidable (_ ∧ _ ∧ _ ∧ _ ∧ _ ∧ _))

/-- The PDU of a frame that reaches the dispatcher. -/
def rtuPdu (s : Slave cfg) (rx : List Byte) : Option (List Byte) :=
  if ReachesDispatcher s rx then some (framePdu rx) else none

/-- The ADU has a valid header and is for the unit. -/
def TcpAccepted (s : Slave cfg) (rx : List Byte) : Prop :=
  (tcpMbapSize + 1 ≤ rx.length ∧ rx.length ≤ tcpMaxAdu) ∧
    (wordAt rx 2 = 0 ∧ 2 ≤ (wordAt rx 4).toNat ∧ (wordAt rx 4).toNat ≤ 1 + tcpMaxPdu ∧
      rx.length = uint16 (6 + (wordAt rx 4).toNat)) ∧
    (byteAt rx 6 = s.tcpUnitId ∨ byteAt rx 6 = 0)

instance (s : Slave cfg) (rx : List Byte) : Decidable (TcpAccepted s rx) :=
  inferInstanceAs (Decidable (_ ∧ _ ∧ _))

/-- The PDU of an ADU that reaches the dispatcher. -/
def tcpPdu (s : Slave cfg) (rx : List Byte) : Option (List Byte) :=
  if TcpAccepted s rx then some (rx.drop tcpMbapSize) else none

/-- The tables after a PDU has reached the dispatcher, or none has. -/
def Slave.dispatched (s : Slave cfg) (pdu : Option (List Byte)) : PduEnv cfg :=
  match pdu with
  | some pdu => (pduReply s.hooks pdu s.env).2
  | none => s.env

/-! ## The serial line -/

/-- A request changes the tables only by way of the dispatcher. -/
theorem env_handleRequest (s : Slave cfg) (pdu : List Byte) (isBroadcast : Bool) :
    (handleRequest s pdu isBroadcast).slave.env =
      if s.listenOnly = false ∧ ¬ serialOnly (byteAt pdu 0) ∧
          broadcastDropped pdu isBroadcast = false then (pduReply s.hooks pdu s.env).2
      else s.env := by
  have hserial {env : PduEnv cfg} (h : serialOnly (byteAt pdu 0)) :
      (if s.listenOnly = false ∧ ¬ serialOnly (byteAt pdu 0) ∧
        broadcastDropped pdu isBroadcast = false then env else s.env) = s.env :=
    if_neg fun hreaches => hreaches.2.1 h
  unfold handleRequest
  simp only
  by_cases hdiag : byteAt pdu 0 = FunctionCode.diagnostics.code
  · rw [if_pos hdiag, hserial (.inl hdiag)]
  rw [if_neg hdiag]
  by_cases hfetch : isFetch (byteAt pdu 0) = true
  · have hcode : serialOnly (byteAt pdu 0) := by
      rw [isFetch, Bool.or_eq_true, decide_eq_true_iff, decide_eq_true_iff] at hfetch
      exact hfetch.elim (.inr ∘ .inl) (.inr ∘ .inr ∘ .inl)
    rw [if_pos hfetch, hserial hcode]
    split_ifs
    · rfl
    · rfl
  rw [if_neg hfetch]
  by_cases hid : byteAt pdu 0 = FunctionCode.reportServerId.code
  · rw [if_pos hid, hserial (.inr (.inr (.inr hid)))]
    split_ifs
    · rfl
    · rfl
  have hother : ¬ serialOnly (byteAt pdu 0) := by
    rintro (h | h | h | h)
    · exact hdiag h
    · exact hfetch (by rw [isFetch, h]; rfl)
    · exact hfetch (by rw [isFetch, h]; rfl)
    · exact hid h
  rw [if_neg hid]
  cases s.listenOnly with
  | true => rfl
  | false =>
      cases broadcastDropped pdu isBroadcast with
      | true => exact (if_neg fun h => Bool.noConfusion h.2.2).symm
      | false => exact (if_pos ⟨rfl, hother, rfl⟩).symm

/-- A frame changes the tables as the PDU that reaches the dispatcher does. -/
theorem env_slaveStep (s : Slave cfg) (rx : List Byte) :
    (slaveStep s rx).2.env = s.dispatched (rtuPdu s rx) := by
  have hnot (h : ¬ ReachesDispatcher s rx) : s.dispatched (rtuPdu s rx) = s.env := by
    rw [rtuPdu, if_neg h]
    rfl
  cases frameKind s.slaveId rx with
  | malformed hlength => rw [slaveStep_malformed hlength, hnot fun h => hlength h.1]
  | corrupted hlength hcrc =>
      rw [slaveStep_corrupted hlength hcrc, hnot fun h => hcrc h.2.1]
      rfl
  | foreign hlength hcrc haddr =>
      rw [slaveStep_foreign hlength hcrc haddr, hnot fun h => h.2.2.1.elim haddr.1 haddr.2]
      rfl
  | addressed hlength hcrc haddr =>
      rw [slaveStep_addressed hlength hcrc haddr, addressedStep_eq]
      refine (env_handleRequest s.counted (framePdu rx) _).trans ?_
      by_cases h : ReachesDispatcher s rx
      · rw [rtuPdu, if_pos h]
        exact if_pos h.2.2.2
      · rw [hnot h]
        exact if_neg fun hrest => h ⟨hlength, hcrc, haddr, hrest⟩

/-! ## What counting does not touch -/

/-- Two slaves that differ at most in their counters and their event logs. -/
structure SameTables (s t : Slave cfg) : Prop where
  slaveId : s.slaveId = t.slaveId
  hooks : s.hooks = t.hooks
  env : s.env = t.env
  mode : s.listenOnly = t.listenOnly

/-- The mode after a frame is decided by the frame and by the mode before it. -/
theorem listenOnly_slaveStep {s t : Slave cfg} (hid : s.slaveId = t.slaveId)
    (hmode : s.listenOnly = t.listenOnly) (rx : List Byte) :
    (slaveStep s rx).2.listenOnly = (slaveStep t rx).2.listenOnly := by
  cases frameKind s.slaveId rx with
  | malformed hlength => rwa [slaveStep_malformed hlength, slaveStep_malformed hlength]
  | corrupted hlength hcrc =>
      rw [slaveStep_corrupted hlength hcrc, slaveStep_corrupted hlength hcrc]
      exact hmode
  | foreign hlength hcrc haddr =>
      rw [slaveStep_foreign hlength hcrc haddr, slaveStep_foreign hlength hcrc (hid ▸ haddr)]
      exact hmode
  | addressed hlength hcrc haddr =>
      rw [slaveStep_addressed hlength hcrc haddr, slaveStep_addressed hlength hcrc (hid ▸ haddr)]
      simp only [Slave.listenOnly, line_addressedStep, listenOnly_message]
      rw [← Slave.listenOnly, ← Slave.listenOnly, hmode]

/-- A frame keeps the tables of two slaves the same, and their mode. -/
theorem SameTables.slaveStep {s t : Slave cfg} (h : SameTables s t) (rx : List Byte) :
    SameTables (slaveStep s rx).2 (slaveStep t rx).2 where
  slaveId := by rw [slaveId_slaveStep, slaveId_slaveStep, h.slaveId]
  hooks := by rw [hooks_slaveStep, hooks_slaveStep, h.hooks]
  env := by
    have hreaches : ReachesDispatcher s rx ↔ ReachesDispatcher t rx := by
      rw [ReachesDispatcher, ReachesDispatcher, h.slaveId, h.mode]
    simp only [env_slaveStep, rtuPdu, hreaches]
    split_ifs
    · simp only [Slave.dispatched, h.hooks, h.env]
    · exact h.env
  mode := listenOnly_slaveStep h.slaveId h.mode rx

/-! ## TCP -/

/-- An ADU changes the tables as the PDU that reaches the dispatcher does, and
nothing else. -/
theorem yields_modbusTcpBuildResponse_env (flat : cfg.Flat) (s : Slave cfg)
    (txPdu : Vector Byte tcpMaxPdu) (rx : List Byte) :
    Yields (modbusTcpBuildResponse txPdu rx) s fun _ s' =>
      s' = { s with env := s.dispatched (tcpPdu s rx) } := by
  have hnot (h : ¬ TcpAccepted s rx) : s = { s with env := s.dispatched (tcpPdu s rx) } := by
    rw [tcpPdu, if_neg h]
    rfl
  rw [modbusTcpBuildResponse]
  by_cases hsize : rx.length < tcpMbapSize + 1 ∨ rx.length > tcpMaxAdu
  · rw [if_pos hsize, yields_pure]
    apply hnot
    rintro ⟨⟨hlow, hhigh⟩, -⟩
    omega
  rw [if_neg hsize]
  simp only
  by_cases hheader : wordAt rx 2 ≠ 0 ∨ (wordAt rx 4).toNat < 2 ∨
      (wordAt rx 4).toNat > 1 + tcpMaxPdu ∨ rx.length ≠ uint16 (6 + (wordAt rx 4).toNat)
  · rw [if_pos hheader, yields_pure]
    apply hnot
    rintro ⟨-, ⟨hprotocol, hlow, hhigh, hlength⟩, -⟩
    rcases hheader with h | h | h | h
    · exact h hprotocol
    · omega
    · omega
    · exact h hlength
  rw [if_neg hheader, yields_bind, yields_get]
  by_cases hother : byteAt rx 6 ≠ s.tcpUnitId ∧ byteAt rx 6 ≠ 0
  · rw [if_pos hother, yields_pure]
    exact hnot fun h => h.2.2.elim hother.1 hother.2
  rw [if_neg hother]
  simp only [not_or, not_not, Nat.not_lt] at hheader hsize
  have haccepted : TcpAccepted s rx := by
    refine ⟨hsize, hheader, ?_⟩
    by_contra hforeign
    exact hother (not_or.mp hforeign)
  have hlength : rx.length = 6 + (wordAt rx 4).toNat := by
    have hword := hheader.2.2
    unfold tcpMaxPdu uint16 at hword
    omega
  have hdrop : (rx.drop tcpMbapSize).length = (wordAt rx 4).toNat - 1 := by
    rw [List.length_drop, hlength, tcpMbapSize]
    omega
  have hpdu : rx.drop tcpMbapSize ≠ [] := by
    apply List.ne_nil_of_length_pos
    omega
  rw [← hdrop, List.take_length, tcpPdu, if_pos haccepted]
  exact (yields_tcpAddressed flat s txPdu (wordAt rx 0) (byteAt rx 6) hpdu).mono
    fun _ _ h => h.2

/-! ## Commands -/

/-- The request of a PDU that commands a write, if the PDU is one. -/
def commandOf (cfg : Config) : Option (List Byte) → Option (Request cfg)
  | some rx => (parseRequest cfg rx).toOption.filter Request.commands
  | none => none

section Commands

variable {s : Slave cfg} (hhooks : s.hooks = .none cfg)
include hhooks

/-- A command stores its values, and the board follows. -/
theorem store_dispatched {pdu : Option (List Byte)} {r : Request cfg}
    (h : commandOf cfg pdu = some r) :
    (s.dispatched pdu).store = appRegistersSynced (r.stored s.env.store) := by
  cases pdu with
  | none => cases h
  | some rx =>
      obtain ⟨hparse, hcommands⟩ := Option.filter_eq_some_iff.mp h
      rw [Slave.dispatched, pduReply, hhooks]
      cases hrequest : parseRequest cfg rx with
      | error e =>
          rw [hrequest] at hparse
          cases hparse
      | ok r' =>
          rw [hrequest] at hparse
          obtain rfl := Option.some.inj hparse
          exact store_execute_of_commands rx s.env hcommands

/-- Any other PDU leaves the coils, the holding registers and the drivers alone. -/
theorem kept_dispatched {pdu : Option (List Byte)} (h : commandOf cfg pdu = none) :
    (s.dispatched pdu).store.coilBits = s.env.store.coilBits ∧
      (s.dispatched pdu).store.holdingRegs = s.env.store.holdingRegs ∧
      (s.dispatched pdu).store.io = s.env.store.io := by
  cases pdu with
  | none => exact ⟨rfl, rfl, rfl⟩
  | some rx =>
      rw [Slave.dispatched, pduReply, hhooks]
      cases hrequest : parseRequest cfg rx with
      | error e => exact ⟨rfl, rfl, rfl⟩
      | ok r =>
          rw [commandOf, hrequest] at h
          apply store_execute_of_not_commands
          exact Bool.eq_false_iff.mpr (Option.filter_eq_none_iff.mp h r rfl)

/-- No PDU changes the debounced inputs. -/
theorem digitalInputStates_dispatched (pdu : Option (List Byte)) :
    (s.dispatched pdu).store.io.digitalInputStates = s.env.store.io.digitalInputStates := by
  cases hcommand : commandOf cfg pdu with
  | none => rw [(kept_dispatched hhooks hcommand).2.2]
  | some r =>
      rw [store_dispatched hhooks hcommand, (kept_appRegistersSynced _).2.2]
      cases r <;> rfl

/-- Every PDU leaves nothing but copies in the input tables. -/
theorem copiesInputs_dispatched (flat : cfg.Flat) (h : s.env.store.CopiesInputs)
    (pdu : Option (List Byte)) : (s.dispatched pdu).store.CopiesInputs := by
  cases pdu with
  | none => exact h
  | some rx =>
      rw [Slave.dispatched, pduReply, hhooks]
      cases parseRequest cfg rx with
      | error e => exact h
      | ok r => exact Store.CopiesInputs.execute flat h rx r

end Commands

end AutomationBoard.Modbus
