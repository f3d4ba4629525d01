/-
# The queues over a whole run

The application pushes values, and requests over the serial line and TCP read the
queues without draining them. A queue holds the first 31 values that were pushed to
it, whatever requests come in between, and a response carries them to the master.
-/

import AutomationBoard.Modbus.BuiltRequests
import AutomationBoard.Modbus.FrontEnds
import AutomationBoard.Modbus.RoundTrip
import AutomationBoard.Program.Runs

namespace AutomationBoard.Modbus

open AutomationBoard.Program

variable {cfg : Config}

/-! ## Runs -/

/-- A hook that is told of a write does not write the queues. -/
def SyncHooks.KeepsQueues (hooks : SyncHooks cfg) : Prop :=
  ∀ hook, hooks.onRegistersWritten = some hook → ∀ ctx s, (hook ctx s).fifos = s.fifos

/-- The application pushes a value, or a frame or an ADU is processed. -/
inductive FifoEvent
  | push (fifoAddr value : Word)
  | rtu (rx : List Byte)
  | tcp (txPdu : Vector Byte tcpMaxPdu) (rx : List Byte)

/-- What a push returns, or what a request is answered with. -/
inductive FifoOutput
  | pushed (accepted : Bool)
  | processed (out : Outcome)
  deriving DecidableEq

/-- The slave, and the values pushed to each queue so far, oldest first. -/
structure WatchedQueues (cfg : Config) where
  slave : Slave cfg
  pushed : ℕ → List Word

/-- One event. -/
def fifoStep : FifoEvent → Checked Fault (WatchedQueues cfg) FifoOutput
  | .push fifoAddr value => fun w =>
      let r := modbusFifoPush cfg w.slave.env.store fifoAddr.toNat value
      .ok (.pushed r.1,
        { slave := { w.slave with env := { w.slave.env with store := r.2 } }
          pushed := Function.update w.pushed fifoAddr.toNat
            (w.pushed fifoAddr.toNat ++ [value]) })
  | .rtu rx => .processed <$> onPart WatchedQueues.slave (fun s w => { w with slave := s })
      (modbusRtuProcess rx)
  | .tcp txPdu rx => .processed <$> onPart WatchedQueues.slave (fun s w => { w with slave := s })
      (modbusTcpBuildResponse txPdu rx)

/-- A run begins with `modbus_rtu_init`. -/
def watchQueues (slaveId : Byte) (s : Slave cfg) : WatchedQueues cfg :=
  ⟨modbusRtuInit slaveId s, fun _ => []⟩

/-! ## What is observed -/

/-- The PDU in a frame or an ADU. -/
def FifoEvent.pduIn : FifoEvent → List Byte → List Byte
  | .push _ _, _ => []
  | .rtu _, frame => framePdu frame
  | .tcp _ _, adu => adu.drop tcpMbapSize

/-- The PDU of a request. -/
def FifoEvent.requestPdu : FifoEvent → List Byte
  | .push _ _ => []
  | .rtu rx => framePdu rx
  | .tcp _ rx => rx.drop tcpMbapSize

/-- The event is a request for a queue that the slave has to answer. -/
def FifoEvent.Asks (s : Slave cfg) (fifoAddr : Word) : FifoEvent → Prop
  | .push _ _ => False
  | .rtu rx => s.listenOnly = false ∧ s.slaveId ≠ 0 ∧
      rx = rtuFrame s.slaveId (modbusMasterBuildReadFifoQueue fifoAddr 3)
  | .tcp _ rx => ∃ transactionId unitId, (unitId = s.tcpUnitId ∨ unitId = 0) ∧
      rx = tcpAdu transactionId unitId (modbusMasterBuildReadFifoQueue fifoAddr 3)

/-- The values that a queue should hold: the first that were pushed. -/
def WatchedQueues.held (w : WatchedQueues cfg) (queue : ℕ) : List Word :=
  (w.pushed queue).take fifoDepth

/-- A response reports some values: it carries them, and the master's parser gets
them back with room for them. -/
structure ReportsValues (values : List Word) (pdu : List Byte) : Prop where
  carries : pdu = FunctionCode.readFifoQueue.code :: 0x00 ::
    BitVec.ofNat 8 (2 + 2 * values.length) :: 0x00 :: BitVec.ofNat 8 values.length ::
      bytesOfWords values
  recovers : ∀ regsMax, values.length ≤ regsMax →
    Yields (modbusMasterParseReadFifoQueue pdu regsMax) () fun parsed _ => parsed = some values

/-- Every queue stores the values it should hold, and a push is accepted exactly if
its value is one of them. A request changes no queue; a normal response to a read of
a queue reports the values of the queue it names, and a request for a queue gets one. -/
structure ReportsQueues (w : WatchedQueues cfg) (event : FifoEvent) (out : FifoOutput)
    (w' : WatchedQueues cfg) : Prop where
  stored : ∀ queue, (h : queue < fifoCount) →
    w'.slave.env.store.fifos[queue].entries = w'.held queue
  push : ∀ fifoAddr value, event = .push fifoAddr value →
    ∃ accepted, out = .pushed accepted ∧
      (accepted = true ↔ fifoAddr.toNat < fifoCount ∧
        (w.pushed fifoAddr.toNat).length < fifoDepth)
  request : ∀ outcome, out = .processed outcome →
    w'.slave.env.store.fifos = w.slave.env.store.fifos
  reports : ∀ outcome, out = .processed outcome → outcome.tx ≠ [] →
    byteAt (event.pduIn outcome.tx) 0 = FunctionCode.readFifoQueue.code →
      (wordAt event.requestPdu 1).toNat < fifoCount ∧
        ReportsValues (w.held (wordAt event.requestPdu 1).toNat) (event.pduIn outcome.tx)
  served : ∀ fifoAddr : Word, fifoAddr.toNat < fifoCount → event.Asks w.slave fifoAddr →
    ∃ outcome, out = .processed outcome ∧ outcome.tx ≠ [] ∧
      ReportsValues (w.held fifoAddr.toNat) (event.pduIn outcome.tx)

/-! ## Pushes -/

/-- An accepted value is the last entry of its queue. -/
theorem FifoQueue.entries_push (queue : FifoQueue) (value : Word) :
    (queue.push value).2.entries =
      if queue.entries.length < fifoDepth then queue.entries ++ [value] else queue.entries := by
  rw [length_entries]
  unfold push
  by_cases hroom : queue.len < fifoDepth
  · rw [dif_pos hroom, if_pos hroom]
    simp only [entries, List.range_succ, List.map_append, List.map_cons, List.map_nil]
    congr 1
    · apply List.map_congr_left
      intro i hi
      have hlt : i < queue.len := List.mem_range.mp hi
      simp [regAt, Nat.ne_of_gt hlt]
    · simp [regAt, hroom]
  · rw [dif_neg hroom, if_neg hroom]

/-- The first values of a history, with one more. -/
theorem take_concat (history : List Word) (value : Word) (depth : ℕ) :
    (history ++ [value]).take depth =
      if (history.take depth).length < depth then history.take depth ++ [value]
      else history.take depth := by
  rw [List.length_take]
  by_cases hroom : history.length < depth
  · rw [if_pos (by omega), List.take_of_length_le (by rw [List.length_append]; exact hroom),
      List.take_of_length_le hroom.le]
  · rw [if_neg (by omega), List.take_append_of_le_length (by omega)]

/-! ## Requests -/

section Requests

variable {hooks : SyncHooks cfg}

theorem fifos_registersSynced (keeps : hooks.KeepsQueues) (env : PduEnv cfg) :
    (registersSynced hooks env).store.fifos = env.store.fifos := by
  unfold registersSynced
  cases hhook : hooks.onRegistersWritten with
  | some hook => exact keeps hook hhook hooks.userCtx env.store
  | none => rfl

theorem fifos_execute (keeps : hooks.KeepsQueues) (rx : List Byte) (env : PduEnv cfg)
    (r : Request cfg) : (execute hooks rx env r).2.store.fifos = env.store.fifos := by
  cases r with
  | writeSingleCoil | writeMultipleCoils | writeSingleRegister | writeMultipleRegisters
  | maskWriteRegister | readWriteMultipleRegs => exact fifos_registersSynced keeps _
  | writeFileRecord writes refused => cases refused <;> rfl
  | _ => rfl

theorem fifos_pduReply (keeps : hooks.KeepsQueues) (rx : List Byte) (env : PduEnv cfg) :
    (pduReply hooks rx env).2.store.fifos = env.store.fifos := by
  unfold pduReply
  cases parseRequest cfg rx with
  | error e => rfl
  | ok r => exact fifos_execute keeps rx env r

theorem fifos_handleRequest {s : Slave cfg} (keeps : s.hooks.KeepsQueues) (pdu : List Byte)
    (isBroadcast : Bool) :
    (handleRequest s pdu isBroadcast).slave.env.store.fifos = s.env.store.fifos := by
  unfold handleRequest
  simp only
  split_ifs
  all_goals first | rfl | exact fifos_pduReply keeps pdu s.env

/-- No frame changes a queue. -/
theorem fifos_slaveStep {s : Slave cfg} (keeps : s.hooks.KeepsQueues) (rx : List Byte) :
    (slaveStep s rx).2.env.store.fifos = s.env.store.fifos :=
  slaveStep_unchanged (fun t => t.env.store.fifos) (fun _ _ => rfl)
    (fifos_handleRequest (s := s.counted) keeps) rx

end Requests

/-! ## Responses -/

/-- A reply that begins with a function code is one to that code. -/
theorem ReplyShape.functionCode_eq {functionCode : Byte} {pdu : List Byte} {fc : FunctionCode}
    (h : ReplyShape functionCode pdu) (hcode : byteAt pdu 0 = fc.code) :
    functionCode = fc.code := by
  cases h with
  | exception e =>
      have hmarked : fc.code = functionCode ||| 0x80 := hcode.symm
      have hmsb := fc.msb_code
      rw [hmarked, msb_or_exceptionBit] at hmsb
      cases hmsb
  | normal _ hfirst => exact hfirst.symm.trans hcode

/-- A normal response of the dispatcher to a read of a queue has the entries of the
queue that the request names. -/
theorem pduReply_readFifoQueue {hooks : SyncHooks cfg} {pdu : List Byte} {env : PduEnv cfg}
    (hcode : byteAt (pduReply hooks pdu env).1 0 = FunctionCode.readFifoQueue.code) :
    ∃ h : (wordAt pdu 1).toNat < fifoCount, (pduReply hooks pdu env).1 =
      (execute hooks pdu env (.readFifoQueue ⟨(wordAt pdu 1).toNat, h⟩)).1 := by
  have hrequest := (replyShape_pduReply hooks pdu env).functionCode_eq hcode
  have hparse : parseRequest cfg pdu = parseReadFifoQueue cfg pdu := by
    rw [parseRequest, hrequest, FunctionCode.ofByte_code]
  rw [pduReply, hparse] at hcode ⊢
  have hrefused (e : ExceptionCode) :
      byteAt (exceptionPdu (byteAt pdu 0) e) 0 ≠ FunctionCode.readFifoQueue.code := by
    have hbit : FunctionCode.readFifoQueue.code ||| 0x80 ≠ FunctionCode.readFifoQueue.code := by
      decide
    rw [hrequest]
    exact hbit
  unfold parseReadFifoQueue parseAddr at hcode ⊢
  split_ifs at hcode ⊢ with hlength haddr
  · exact absurd hcode (hrefused _)
  · exact ⟨haddr, rfl⟩
  · exact absurd hcode (hrefused _)

/-- What is built for a read of a queue is the reply of the dispatcher. -/
theorem built_handleRequest {s : Slave cfg} {pdu : List Byte} {isBroadcast : Bool}
    (hcode : byteAt pdu 0 = FunctionCode.readFifoQueue.code)
    (hbuilt : (handleRequest s pdu isBroadcast).built ≠ []) :
    (handleRequest s pdu isBroadcast).built = (pduReply s.hooks pdu s.env).1 := by
  unfold handleRequest at hbuilt ⊢
  simp only [hcode, isFetch] at hbuilt ⊢
  split_ifs at hbuilt ⊢ <;> first | rfl | exact absurd rfl hbuilt | contradiction

/-- A response frame to a read of a queue has the reply of the dispatcher. -/
theorem framePdu_slaveStep (flat : cfg.Flat) {s : Slave cfg} {rx : List Byte}
    (hsent : (slaveStep s rx).1.tx ≠ [])
    (hcode : byteAt (framePdu (slaveStep s rx).1.tx) 0 = FunctionCode.readFifoQueue.code) :
    framePdu (slaveStep s rx).1.tx = (pduReply s.hooks (framePdu rx) s.env).1 := by
  cases frameKind s.slaveId rx with
  | malformed hlength => exact absurd (by rw [slaveStep_malformed hlength]) hsent
  | corrupted hlength hcrc => exact absurd (by rw [slaveStep_corrupted hlength hcrc]) hsent
  | foreign hlength hcrc haddr =>
      exact absurd (by rw [slaveStep_foreign hlength hcrc haddr]) hsent
  | addressed hlength hcrc haddr =>
      rw [slaveStep_addressed hlength hcrc haddr, tx_addressedStep] at hsent hcode ⊢
      set h := handleRequest s.counted (framePdu rx) (byteAt rx 0 = 0) with hh
      have hresponse : h.response ≠ [] := fun hnil => hsent (if_pos hnil)
      rw [if_neg hresponse, framePdu_rtuFrame, h.response_eq_built hresponse] at hcode ⊢
      have hbuilt : h.built ≠ [] := h.response_eq_built hresponse ▸ hresponse
      obtain hnil | ⟨hshape, -⟩ :=
        builds_handleRequest flat s.counted (framePdu_ne_nil hlength) (byteAt rx 0 = 0)
      · exact absurd hnil hbuilt
      · exact built_handleRequest (hshape.functionCode_eq hcode) hbuilt

/-- The response to a read of a queue reports its entries. -/
theorem reportsValues_readFifoQueue (hooks : SyncHooks cfg) (rx : List Byte) (env : PduEnv cfg)
    {queue : ℕ} (hqueue : queue < fifoCount) :
    ReportsValues env.store.fifos[queue].entries
      (execute hooks rx env (.readFifoQueue ⟨queue, hqueue⟩)).1 := by
  have hdepth := env.store.fifos[queue].length_entries_le_fifoDepth
  exact ⟨rfl, fun regsMax hroom => (yields_parseReadFifoQueue hdepth hroom).mpr rfl⟩

/-! ## The queues in every run -/

/-- The queues store the values they should hold, and requests will not change that. -/
structure Stored (w : WatchedQueues cfg) : Prop where
  keeps : w.slave.hooks.KeepsQueues
  entries : ∀ queue, (h : queue < fifoCount) →
    w.slave.env.store.fifos[queue].entries = w.held queue

/-- A request that changes neither queues nor hooks keeps the queues stored. -/
theorem Stored.request {w : WatchedQueues cfg} (h : Stored w) {s : Slave cfg}
    (hhooks : s.hooks = w.slave.hooks) (hfifos : s.env.store.fifos = w.slave.env.store.fifos) :
    Stored { w with slave := s } where
  keeps := by
    rw [hhooks]
    exact h.keeps
  entries queue hqueue := by
    simp only [hfifos]
    exact h.entries queue hqueue

/-- What a push returns, and what it does to the queues. -/
theorem modbusFifoPush_eq (s : Store cfg) (fifoAddr : ℕ) (value : Word) :
    ((modbusFifoPush cfg s fifoAddr value).1 = true ↔
      ∃ h : fifoAddr < fifoCount, s.fifos[fifoAddr].entries.length < fifoDepth) ∧
    ∀ queue, (h : queue < fifoCount) →
      (modbusFifoPush cfg s fifoAddr value).2.fifos[queue].entries =
        if fifoAddr = queue then
          if s.fifos[queue].entries.length < fifoDepth then s.fifos[queue].entries ++ [value]
          else s.fifos[queue].entries
        else s.fifos[queue].entries := by
  unfold modbusFifoPush
  by_cases haddr : fifoAddr < fifoCount
  · rw [dif_pos haddr]
    constructor
    · by_cases hroom : s.fifos[fifoAddr].len < fifoDepth <;>
        simp [FifoQueue.push, haddr, hroom]
    · intro queue hqueue
      by_cases hsame : fifoAddr = queue
      · subst hsame
        simp [FifoQueue.entries_push]
      · simp [hsame]
  · rw [dif_neg haddr]
    refine ⟨by simp [haddr], fun queue hqueue => ?_⟩
    rw [if_neg (by omega)]

/-- A push keeps the queues stored, and is accepted if the queue has room. -/
theorem Stored.push {w : WatchedQueues cfg} (h : Stored w) (fifoAddr value : Word) :
    Yields (fifoStep (.push fifoAddr value)) w fun out w' =>
      Stored w' ∧ ReportsQueues w (.push fifoAddr value) out w' := by
  obtain ⟨haccepted, hentries⟩ := modbusFifoPush_eq w.slave.env.store fifoAddr.toNat value
  have hroom {queue : ℕ} (hqueue : queue < fifoCount) :
      w.slave.env.store.fifos[queue].entries.length < fifoDepth ↔
        (w.pushed queue).length < fifoDepth := by
    rw [h.entries _ hqueue, WatchedQueues.held, List.length_take]
    omega
  refine (Yields.iff_of_run_eq rfl).mpr ?_
  have hstored : ∀ queue, (hqueue : queue < fifoCount) →
      (modbusFifoPush cfg w.slave.env.store fifoAddr.toNat value).2.fifos[queue].entries =
        (Function.update w.pushed fifoAddr.toNat
          (w.pushed fifoAddr.toNat ++ [value]) queue).take fifoDepth := by
    intro queue hqueue
    rw [hentries queue hqueue, h.entries _ hqueue, WatchedQueues.held]
    by_cases hsame : fifoAddr.toNat = queue
    · subst hsame
      rw [if_pos rfl, Function.update_self, take_concat]
    · rw [Function.update_of_ne (Ne.symm hsame), if_neg hsame]
  refine ⟨⟨h.keeps, hstored⟩, ?_⟩
  constructor
  case stored => exact hstored
  case push =>
    rintro _ _ ⟨rfl, rfl⟩
    refine ⟨_, rfl, haccepted.trans ⟨?_, ?_⟩⟩
    · exact fun ⟨haddr, hlength⟩ => ⟨haddr, (hroom haddr).mp hlength⟩
    · exact fun ⟨haddr, hlength⟩ => ⟨haddr, (hroom haddr).mpr hlength⟩
  case served => exact fun _ _ hasks => hasks.elim
  all_goals exact fun _ hout => by cases hout

/-- The reply to a read of a queue reports the values it should hold. -/
theorem Stored.reportsValues {w : WatchedQueues cfg} (h : Stored w) {pdu : List Byte}
    (hcode : byteAt (pduReply w.slave.hooks pdu w.slave.env).1 0 =
      FunctionCode.readFifoQueue.code) :
    (wordAt pdu 1).toNat < fifoCount ∧ ReportsValues (w.held (wordAt pdu 1).toNat)
      (pduReply w.slave.hooks pdu w.slave.env).1 := by
  obtain ⟨hqueue, hreply⟩ := pduReply_readFifoQueue hcode
  refine ⟨hqueue, ?_⟩
  rw [hreply, ← h.entries _ hqueue]
  exact reportsValues_readFifoQueue _ _ _ hqueue

theorem length_modbusMasterBuildReadFifoQueue (fifoAddr : Word) :
    (modbusMasterBuildReadFifoQueue fifoAddr 3).length = 3 := rfl

theorem byteAt_modbusMasterBuildReadFifoQueue (fifoAddr : Word) :
    byteAt (modbusMasterBuildReadFifoQueue fifoAddr 3) 0 = FunctionCode.readFifoQueue.code := rfl

/-- A request for a queue is answered with its values. -/
theorem Stored.served {w : WatchedQueues cfg} (h : Stored w) {fifoAddr : Word}
    (hqueue : fifoAddr.toNat < fifoCount) :
    ReportsValues (w.held fifoAddr.toNat)
      (pduReply w.slave.hooks (modbusMasterBuildReadFifoQueue fifoAddr 3) w.slave.env).1 := by
  rw [pduReply, parseRequest_readFifoQueue hqueue, answer, ← h.entries _ hqueue]
  exact reportsValues_readFifoQueue _ _ _ hqueue

/-- A frame keeps the queues stored, and what it is answered with is reported from
them. -/
theorem Stored.rtu (flat : cfg.Flat) {w : WatchedQueues cfg} (h : Stored w) (rx : List Byte) :
    Yields (fifoStep (.rtu rx)) w fun out w' =>
      Stored w' ∧ ReportsQueues w (.rtu rx) out w' := by
  rw [fifoStep, yields_map, yields_onPart]
  apply (yields_modbusRtuProcess flat w.slave rx).mono
  intro outcome s' hstep
  obtain ⟨rfl, rfl⟩ : outcome = (slaveStep w.slave rx).1 ∧ s' = (slaveStep w.slave rx).2 := by
    rw [← hstep]
    exact ⟨rfl, rfl⟩
  have hfifos := fifos_slaveStep h.keeps rx
  have hstored := h.request (hooks_slaveStep w.slave rx) hfifos
  refine ⟨hstored, ?_⟩
  constructor
  case stored => exact hstored.entries
  case push => exact fun _ _ hpush => by cases hpush
  case request => exact fun _ _ => hfifos
  case reports =>
    rintro _ ⟨rfl⟩ hsent hcode
    have hreply := framePdu_slaveStep flat hsent hcode
    rw [FifoEvent.pduIn, hreply] at hcode ⊢
    exact h.reportsValues hcode
  case served =>
    rintro fifoAddr hqueue ⟨hactive, hid, rfl⟩
    have hother : ¬ serialOnly (byteAt (modbusMasterBuildReadFifoQueue fifoAddr 3) 0) := by
      rw [byteAt_modbusMasterBuildReadFifoQueue]
      unfold serialOnly
      decide
    have hlength := length_modbusMasterBuildReadFifoQueue fifoAddr
    obtain ⟨hout, -⟩ := slaveStep_pdu hactive hid (by rw [hlength]; decide)
      (by rw [hlength]; decide) hother
    refine ⟨_, rfl, ?_, ?_⟩
    · rw [hout]
      exact List.cons_ne_nil _ _
    · rw [hout, FifoEvent.pduIn, framePdu_rtuFrame]
      exact h.served hqueue

/-- An ADU keeps the queues stored, and what it is answered with is reported from
them. -/
theorem Stored.tcp (flat : cfg.Flat) {w : WatchedQueues cfg} (h : Stored w)
    (txPdu : Vector Byte tcpMaxPdu) (rx : List Byte) :
    Yields (fifoStep (.tcp txPdu rx)) w fun out w' =>
      Stored w' ∧ ReportsQueues w (.tcp txPdu rx) out w' := by
  rw [fifoStep, yields_map, yields_onPart]
  have hany := yields_modbusTcpBuildResponse_any flat w.slave txPdu rx
  obtain ⟨outcome, s', hrun, hhandled⟩ := hany
  refine ⟨outcome, s', hrun, ?_⟩
  have hkept : s'.hooks = w.slave.hooks ∧ s'.env.store.fifos = w.slave.env.store.fifos := by
    cases hhandled with
    | ignored _ hs' => rw [hs']; exact ⟨rfl, rfl⟩
    | answered _ _ _ hs' => rw [hs']; exact ⟨rfl, fifos_pduReply h.keeps _ _⟩
  have hstored := h.request hkept.1 hkept.2
  refine ⟨hstored, ?_⟩
  constructor
  case stored => exact hstored.entries
  case push => exact fun _ _ hpush => by cases hpush
  case request => exact fun _ _ => hkept.2
  case reports =>
    rintro _ ⟨rfl⟩ hsent hcode
    cases hhandled with
    | ignored hsilent _ => exact absurd hsilent hsent
    | answered transactionId unitId hout _ =>
        rw [hout, FifoEvent.pduIn, drop_tcpAdu] at hcode ⊢
        exact h.reportsValues hcode
  case served =>
    rintro fifoAddr hqueue ⟨transactionId, unitId, hunit, rfl⟩
    have hlength := length_modbusMasterBuildReadFifoQueue fifoAddr
    have hpdu : modbusMasterBuildReadFifoQueue fifoAddr 3 ≠ [] := List.cons_ne_nil _ _
    have hout := (yields_modbusTcpBuildResponse flat w.slave txPdu transactionId hunit hpdu
      (by rw [hlength]; decide)).of_run_eq hrun
    refine ⟨_, rfl, ?_, ?_⟩
    · rw [hout.1, tcpAdu]
      exact List.append_ne_nil_of_left_ne_nil (List.cons_ne_nil _ _) _
    · rw [hout.1, FifoEvent.pduIn, drop_tcpAdu]
      exact h.served hqueue

/-- Every event keeps the queues stored. -/
theorem Stored.step (flat : cfg.Flat) {w : WatchedQueues cfg} (h : Stored w)
    (event : FifoEvent) :
    Yields (fifoStep event) w fun out w' => Stored w' ∧ ReportsQueues w event out w' := by
  cases event with
  | push fifoAddr value => exact h.push fifoAddr value
  | rtu rx => exact h.rtu flat rx
  | tcp txPdu rx => exact h.tcp flat txPdu rx

theorem stored_watchQueues (slaveId : Byte) {s : Slave cfg} (keeps : s.hooks.KeepsQueues) :
    Stored (watchQueues slaveId s) where
  keeps := keeps
  entries queue hqueue := by
    simp [watchQueues, modbusRtuInit, Store.init, FifoQueue.entries, WatchedQueues.held]

/-- In every run of pushes and requests after `modbus_rtu_init`, each response to a
read of a queue reports the first 31 values pushed to it, oldest first. -/
theorem fifoRun_reportsQueues (slaveId : Byte) (s : Slave boardConfig)
    (keeps : s.hooks.KeepsQueues) (events : List FifoEvent) :
    EveryStep fifoStep ReportsQueues (watchQueues slaveId s) events :=
  everyStep_of_invariant (fun _ event h => Stored.step Config.boardConfig_flat h event)
    (stored_watchQueues slaveId keeps) events

theorem fifoRun_reportsQueues_tcp :
    EveryStep fifoStep ReportsQueues
      (watchQueues 1 (Slave.powerOn (SyncHooks.none boardConfig)))
      [.push 0 0x01B8, .push 0 0x1284,
        .tcp (Vector.replicate tcpMaxPdu 0) (tcpAdu 7 1 [0x18, 0x00, 0x00])] :=
  fifoRun_reportsQueues 1 (Slave.powerOn (SyncHooks.none boardConfig))
    (fun _ hhook => by cases hhook) _

end AutomationBoard.Modbus
