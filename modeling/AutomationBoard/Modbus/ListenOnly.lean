/-
# Listen-only mode

In listen-only mode a slave neither acts nor answers, and only Restart
Communications ends the mode. The one request that stays active checks its data
before it looks at the mode, so a restart with data it does not know is answered
with an exception.
-/

import AutomationBoard.Modbus.Refinement.Rtu

namespace AutomationBoard.Modbus

open AutomationBoard.Program

variable {cfg : Config}

/-- The data words of Restart Communications. -/
def restartData (data : Word) : Prop := data = 0x0000 ∨ data = 0xFF00

/-- A PDU that asks for Restart Communications, whatever its data. -/
def IsRestart (pdu : List Byte) : Prop :=
  byteAt pdu 0 = FunctionCode.diagnostics.code ∧ 5 ≤ pdu.length ∧
    wordAt pdu 1 = DiagSub.restartComm.code

/-- A frame with a valid CRC that is for this slave. -/
def ForSlave (s : Slave cfg) (rx : List Byte) : Prop :=
  lengthValid rx ∧ crcValid rx ∧ (byteAt rx 0 = s.slaveId ∨ byteAt rx 0 = 0)

/-- A request that ends listen-only mode. -/
def RestartRequest (s : Slave cfg) (rx : List Byte) : Prop :=
  ForSlave s rx ∧ IsRestart (framePdu rx) ∧ restartData (wordAt (framePdu rx) 3)

/-- A restart whose data is refused. -/
def RestartRefused (s : Slave cfg) (rx : List Byte) : Prop :=
  ForSlave s rx ∧ IsRestart (framePdu rx) ∧ ¬ restartData (wordAt (framePdu rx) 3)

/-- What a frame may do in listen-only mode. -/
structure ListensOnly (s : Slave cfg) (rx : List Byte) (out : Outcome) (s' : Slave cfg) :
    Prop where
  silent : out.tx = []
  env_eq : s'.env = s.env
  leaves : s'.listenOnly = false → RestartRequest s rx

/-! ## Requests in listen-only mode -/

section Diagnostics

variable {line : LineState} {pdu : List Byte} (hlisten : line.diag.listenOnly = true)
include hlisten

/-- Diagnostics requests other than restarts are ignored. -/
theorem modbusDiagProcess_ignored (isBroadcast : Bool)
    (h : ¬ (5 ≤ pdu.length ∧ wordAt pdu 1 = DiagSub.restartComm.code)) :
    modbusDiagProcess pdu isBroadcast line = ([], line) := by
  unfold modbusDiagProcess
  by_cases hlength : pdu.length < 5
  · rw [if_pos hlength, if_pos hlisten]
  · rw [if_neg hlength, if_pos ⟨hlisten, fun hsub => h ⟨by omega, hsub⟩⟩]

/-- A restart is dispatched, also as a broadcast. -/
theorem modbusDiagProcess_restart (isBroadcast : Bool) (hlength : 5 ≤ pdu.length)
    (hsub : wordAt pdu 1 = DiagSub.restartComm.code) :
    modbusDiagProcess pdu isBroadcast line =
      if wordAt pdu 3 ≠ 0x0000 ∧ wordAt pdu 3 ≠ 0xFF00 then
        (modbusDiagException .illegalDataValue, line)
      else ([], ⟨{ line.diag.clearCounters with listenOnly := false },
        line.event.noteRestart (wordAt pdu 3 = 0xFF00)⟩) := by
  unfold modbusDiagProcess
  rw [if_neg (by omega), if_neg (fun h => h.2 hsub),
    if_neg (fun h => h.2 (by simp [modbusDiagBroadcastEligible, hsub])), diagDispatch, hsub,
    DiagSub.ofWord_code]
  simp only [hlisten, if_true]

end Diagnostics

/-- Handling a request in listen-only mode leaves the tables alone, answers only
to refuse a restart, and ends the mode only with a restart. -/
structure HandledListening (s : Slave cfg) (pdu : List Byte) (h : Handling cfg) : Prop where
  env_eq : h.slave.env = s.env
  silent : h.response = [] ↔ ¬ (IsRestart pdu ∧ ¬ restartData (wordAt pdu 3))
  leaves : h.slave.listenOnly = false → IsRestart pdu ∧ restartData (wordAt pdu 3)

/-- A request that is no restart and is ignored. -/
theorem HandledListening.of_ignored {s : Slave cfg} (hlisten : s.listenOnly = true)
    {pdu : List Byte} (hother : ¬ IsRestart pdu) : HandledListening s pdu (.ignored s) where
  env_eq := rfl
  silent := iff_of_true rfl fun h => hother h.1
  leaves hleave := absurd (hlisten.symm.trans hleave) (by decide)

theorem handledListening_diag {s : Slave cfg} (hlisten : s.listenOnly = true) {pdu : List Byte}
    (hdiag : byteAt pdu 0 = FunctionCode.diagnostics.code) (isBroadcast : Bool) :
    HandledListening s pdu
      ⟨(modbusDiagProcess pdu isBroadcast s.line).1, true,
        { s with line := (modbusDiagProcess pdu isBroadcast s.line).2 }⟩ := by
  by_cases hrestart : 5 ≤ pdu.length ∧ wordAt pdu 1 = DiagSub.restartComm.code
  · have hkind : IsRestart pdu := ⟨hdiag, hrestart⟩
    rw [modbusDiagProcess_restart hlisten isBroadcast hrestart.1 hrestart.2]
    by_cases hdata : wordAt pdu 3 ≠ 0x0000 ∧ wordAt pdu 3 ≠ 0xFF00
    · have hbad : ¬ restartData (wordAt pdu 3) := not_or.mpr hdata
      rw [if_pos hdata]
      exact {
        env_eq := rfl
        silent := iff_of_false (List.cons_ne_nil _ _) (not_not_intro ⟨hkind, hbad⟩)
        leaves := fun hleave => absurd (hlisten.symm.trans hleave) (by decide) }
    · have hgood : restartData (wordAt pdu 3) := by
        rw [restartData, or_iff_not_imp_left]
        exact fun h0 => not_not.mp fun h1 => hdata ⟨h0, h1⟩
      rw [if_neg hdata]
      exact {
        env_eq := rfl
        silent := iff_of_true rfl fun h => h.2 hgood
        leaves := fun _ => ⟨hkind, hgood⟩ }
  · rw [modbusDiagProcess_ignored hlisten isBroadcast hrestart]
    exact .of_ignored hlisten fun h => hrestart h.2

theorem handledListening_handleRequest {s : Slave cfg} (hlisten : s.listenOnly = true)
    (pdu : List Byte) (isBroadcast : Bool) :
    HandledListening s pdu (handleRequest s pdu isBroadcast) := by
  by_cases hdiag : byteAt pdu 0 = FunctionCode.diagnostics.code
  · rw [handleRequest, if_pos hdiag]
    exact handledListening_diag hlisten hdiag isBroadcast
  · -- every other function code is ignored
    have hignored : handleRequest s pdu isBroadcast = .ignored s := by
      rw [handleRequest]
      simp [hdiag, hlisten]
    rw [hignored]
    exact .of_ignored hlisten fun h => hdiag h.1

/-! ## Frames in listen-only mode -/

/-- A frame that is not for the slave is only listened to. -/
theorem listensOnly_of_not_forSlave {s : Slave cfg} (hlisten : s.listenOnly = true)
    {rx : List Byte} (hnot : ¬ ForSlave s rx) (status : ModbusStatus) (f : LineState → LineState)
    (hf : (f s.line).diag.listenOnly = s.line.diag.listenOnly) :
    ListensOnly s rx ⟨status, []⟩ (s.updateLine f) ↔ ¬ RestartRefused s rx := by
  refine iff_of_true ⟨rfl, rfl, fun hleave => ?_⟩ fun h => hnot h.1
  have hsame : (s.updateLine f).listenOnly = true := hf.trans hlisten
  exact absurd (hsame.symm.trans hleave) (by decide)

/-- A frame for the slave is only listened to exactly when it is not a refused
restart. -/
theorem listensOnly_addressedStep_iff {s : Slave cfg} (hlisten : s.listenOnly = true)
    {rx : List Byte} (hfor : ForSlave s rx) (isBroadcast : Bool) :
    ListensOnly s rx (addressedStep s (framePdu rx) isBroadcast).1
        (addressedStep s (framePdu rx) isBroadcast).2 ↔ ¬ RestartRefused s rx := by
  have hlisten' : s.counted.listenOnly = true := hlisten
  have handled := handledListening_handleRequest hlisten' (framePdu rx) isBroadcast
  have hrefused : RestartRefused s rx ↔
      IsRestart (framePdu rx) ∧ ¬ restartData (wordAt (framePdu rx) 3) :=
    and_iff_right hfor
  rw [addressedStep_eq, hrefused, ← handled.silent]
  constructor
  · intro h
    have hsilent := h.silent
    simp only at hsilent
    by_contra hresponse
    rw [if_neg hresponse] at hsilent
    exact List.cons_ne_nil _ _ hsilent
  · intro hresponse
    refine ⟨if_pos hresponse, handled.env_eq, fun hleave => ⟨hfor, handled.leaves ?_⟩⟩
    exact (listenOnly_bookkeeping _ _ _ _).symm.trans hleave

theorem listensOnly_slaveStep_iff {s : Slave cfg} (hlisten : s.listenOnly = true)
    (rx : List Byte) :
    ListensOnly s rx (slaveStep s rx).1 (slaveStep s rx).2 ↔ ¬ RestartRefused s rx := by
  cases frameKind s.slaveId rx with
  | malformed hlength =>
      rw [slaveStep_malformed hlength]
      exact listensOnly_of_not_forSlave hlisten (fun h => hlength h.1) _ id rfl
  | corrupted hlength hcrc =>
      rw [slaveStep_corrupted hlength hcrc]
      exact listensOnly_of_not_forSlave hlisten (fun h => hcrc h.2.1) _ _ rfl
  | foreign hlength hcrc haddr =>
      rw [slaveStep_foreign hlength hcrc haddr]
      exact listensOnly_of_not_forSlave hlisten (fun h => h.2.2.elim haddr.1 haddr.2) _ _ rfl
  | addressed hlength hcrc haddr =>
      rw [slaveStep_addressed hlength hcrc haddr]
      exact listensOnly_addressedStep_iff hlisten ⟨hlength, hcrc, haddr⟩ _

/-- In every listen-only state of a run the slave only listens, if and only if
no frame it meets in such a state is a refused restart. -/
theorem everyStep_listensOnly_iff (flat : cfg.Flat) (s : Slave cfg) (frames : List (List Byte)) :
    EveryStep modbusRtuProcess (fun s rx out s' => s.listenOnly = true → ListensOnly s rx out s')
        s frames ↔
      EveryStep modbusRtuProcess (fun s rx _ _ => s.listenOnly = true → ¬ RestartRefused s rx)
        s frames := by
  apply everyStep_frames_congr flat
  intro s rx
  exact forall_congr' fun hlisten => listensOnly_slaveStep_iff hlisten rx

/-- In listen-only mode a slave only listens, exactly as long as it meets no
restart with data that is refused. -/
theorem runFrames_listensOnly_iff (s : Slave boardConfig) (frames : List (List Byte)) :
    EveryStep modbusRtuProcess (fun s rx out s' => s.listenOnly = true → ListensOnly s rx out s')
        s frames ↔
      EveryStep modbusRtuProcess (fun s rx _ _ => s.listenOnly = true → ¬ RestartRefused s rx)
        s frames :=
  everyStep_listensOnly_iff Config.boardConfig_flat s frames

/-- Once Force Listen Only Mode is accepted, a restart with data 0x0001 is
answered. -/
theorem runFrames_listenOnly_answered :
    ¬ EveryStep modbusRtuProcess
      (fun s rx out s' => s.listenOnly = true → ListensOnly s rx out s')
      (modbusRtuInit 1 (Slave.powerOn (SyncHooks.none boardConfig)))
      [[0x01, 0x08, 0x00, 0x04, 0x00, 0x00, 0xCD, 0xC0],
        [0x01, 0x08, 0x00, 0x01, 0x00, 0x01, 0xDD, 0xC0]] := by
  have hforce : crcValid [0x01, 0x08, 0x00, 0x04, 0x00, 0x00, 0xCD, 0xC0] := by
    rw [crcValid_iff]
    decide +kernel
  have hrestart : crcValid [0x01, 0x08, 0x00, 0x01, 0x00, 0x01, 0xDD, 0xC0] := by
    rw [crcValid_iff]
    decide +kernel
  intro hclaim
  rw [everyStep_listensOnly_iff Config.boardConfig_flat] at hclaim
  obtain ⟨out, s', hrun, -, hnext⟩ := hclaim
  -- the first frame turns the mode on
  have hstep := (yields_modbusRtuProcess Config.boardConfig_flat _ _).of_run_eq hrun
  rw [slaveStep_addressed (by decide) hforce (.inl rfl)] at hstep
  obtain ⟨-, rfl⟩ := Prod.mk.inj hstep
  obtain ⟨out', s'', -, hnot, -⟩ := hnext
  refine hnot (by decide +kernel) ⟨⟨by decide, hrestart, .inl rfl⟩, ⟨rfl, by decide, rfl⟩, ?_⟩
  rw [restartData]
  decide

end AutomationBoard.Modbus
