/-
# A transaction on the port

`modbus_master_transaction` over `masterRtuTransport` takes what the line does
from a record. On the port a transaction is a sequence of steps, with interrupts
between any two of them, and the record is what an observer writes down: the
status of the transmission, the tick at which the wait begins, and for each pass
through the wait the tick and the frames. Whatever comes in between, the
transaction returns what it returns over that record.
-/

import AutomationBoard.Board.Rs485Port

namespace AutomationBoard.Board

open AutomationBoard.Modbus AutomationBoard.Program AutomationBoard.Serial

variable {cfg : Config}

/-! ## The record -/

/-- The transaction in progress, and what the line has done in it. -/
structure CallLog where
  call : Option MasterCall
  line : Rs485Line

namespace CallLog

/-- No transaction has begun. -/
def start : CallLog := ⟨none, .ok, 0, []⟩

/-- A frame in the last of the passes. -/
def addFrame (passes : List LinePass) (rx : List Byte) : List LinePass :=
  passes.dropLast ++ (passes.getLast?.map fun pass => ⟨pass.sysTick, pass.frames ++ [rx]⟩).toList

/-- What the port does, noted. -/
def output (event : PortEvent) (log : CallLog) : PortOutput → CallLog
  | .called _ =>
      match event.op with
      | .transaction call => ⟨some call, .ok, 0, []⟩
      | _ => ⟨none, .ok, 0, []⟩
  | .sent _ status => { log with line := { log.line with sendStatus := status } }
  | .started sysTick => { log with line := { log.line with start := sysTick } }
  | .passed sysTick =>
      { log with line := { log.line with passes := log.line.passes ++ [⟨sysTick, []⟩] } }
  | .handed rx => { log with line := { log.line with passes := addFrame log.line.passes rx } }
  | .returned _ => { log with call := none }
  | _ => log

/-- A step, noted. -/
def note (log : CallLog) (event : PortEvent) (outs : List PortOutput) : CallLog :=
  outs.foldl (output event) log

theorem addFrame_concat (passes : List LinePass) (pass : LinePass) (rx : List Byte) :
    addFrame (passes ++ [pass]) rx = passes ++ [⟨pass.sysTick, pass.frames ++ [rx]⟩] := by
  simp [addFrame]

end CallLog

/-- The port with its record beside it. -/
def recordedPort (cfg : Config) : PortEvent → Checked Fault (Rs485Port cfg × CallLog)
    (List PortOutput) := watched CallLog.note portStep

/-! ## A transaction over a record -/

/-- `modbus_master_transaction` over what the line did. -/
def recordedTransaction (call : MasterCall) (line : Rs485Line) :
    Checked Fault (Bus MasterRtu) Transacted :=
  modbusMasterTransaction (some (masterRtuTransport line)) call.slaveId call.reqPdu call.respMax
    call.timeoutMs

/-- The master while it waits, before anything has come. -/
def masterArmed : MasterRtu := ⟨1, 0, []⟩

/-- The result of a transaction over a record. -/
def recordedResult (call : MasterCall) (line : Rs485Line) : Transacted :=
  let got := (masterRtuWait line.start rtuFrameMax call.timeoutMs line.passes masterArmed).1
  if line.sendStatus ≠ .ok then .plain .error
  else if call.slaveId = 0 then .plain .ok
  else if got.1 ≠ .ok then .plain got.1
  else heard call.slaveId (byteAt call.reqPdu 0) call.respMax got.2

/-- A transaction over a record comes to its result and gives the bus back. -/
theorem yields_recordedTransaction {call : MasterCall}
    (hsize : 1 ≤ call.reqPdu.length ∧ call.reqPdu.length ≤ 253) (line : Rs485Line)
    (bus : Bus MasterRtu) :
    Yields (recordedTransaction call line) bus fun r bus' =>
      r = recordedResult call line ∧ bus'.world = ⟨0, 0, []⟩ := by
  have hframe : ¬ (rtuFrame call.slaveId call.reqPdu).length = 0 := by
    rw [length_rtuFrame]
    exact Nat.succ_ne_zero _
  rw [recordedTransaction, masterRtuTransport, MasterTransport.full,
    yields_modbusMasterTransaction hsize.1 hsize.2, recordedResult]
  intro adu sent busSent got busGot
  have hsent : sent.1 = if line.sendStatus = .ok then .ok else .error := by
    simp only [sent, adu, masterRtuSend, if_neg hframe]
  have hgot : got.1 =
      (masterRtuWait line.start rtuFrameMax call.timeoutMs line.passes masterArmed).1 := by
    simp only [got, busSent, sent, adu, masterRtuRecv, masterRtuSend, if_neg hframe]
    rfl
  rw [hsent, hgot]
  by_cases hok : line.sendStatus = .ok
  · simp only [if_pos hok, if_neg (not_not_intro hok), ne_eq, not_true_eq_false, if_false]
    split_ifs
    · exact ⟨rfl, rfl⟩
    · exact ⟨rfl, rfl⟩
    · exact ⟨rfl, rfl⟩
  · simp only [ne_eq, hok, not_false_eq_true, if_true]
    exact ⟨rfl, rfl⟩

/-! ## The course of a transaction -/

/-- An action of the master that a transaction begins with. -/
def PortAction.Sends : PortAction → Bool
  | .flushRx | .delayT35 | .spin _ | .txEnable | .rxEnable | .send _ | .txBegin | .transmit _
  | .masterDelayT35 | .masterSend _ => true
  | .process | .callback _ | .masterFlush | .masterSent _ | .masterRecv _ | .masterWait ..
  | .masterLook .. | .masterFrame .. | .masterEnd _ => false

/-- An action of `modbus_master_transaction` or of one of the hooks. -/
def PortAction.OfMaster : PortAction → Bool
  | .masterFlush | .masterDelayT35 | .masterSend _ | .masterSent _ | .masterRecv _ | .masterWait ..
  | .masterLook .. | .masterFrame .. | .masterEnd _ => true
  | _ => false

/-- The frame that an action puts on the line. -/
def PortAction.carries : PortAction → Option (List Byte)
  | .send data | .transmit data | .masterSend data => some data
  | _ => none

/-- The wait over the passes so far goes on with the master in that state. -/
def Resumes (call : MasterCall) (line : Rs485Line) (passes : List LinePass) (master : MasterRtu) :
    Prop :=
  ∀ more, masterRtuWait line.start rtuFrameMax call.timeoutMs (passes ++ more) masterArmed =
    masterRtuWait line.start rtuFrameMax call.timeoutMs more master

/-- A transaction that waits for its response, with the passes before this one. -/
structure Waits (call : MasterCall) (line : Rs485Line) (passes : List LinePass)
    (master : MasterRtu) : Prop where
  sent : line.sendStatus = .ok
  unicast : call.slaveId ≠ 0
  waiting : master.waiting ≠ 0
  resumes : Resumes call line passes master

/-- Where a transaction is, by what the main thread still has to do. -/
inductive Course (call : MasterCall) (line : Rs485Line) (master : MasterRtu)
    (sendStatus : Rs485Status) : List PortAction → Prop
  | starting {adu : List Byte} (hpasses : line.passes = []) (hadu : adu ≠ []) :
      Course call line master sendStatus
        [.masterFlush, .masterDelayT35, .masterSend adu, .masterSent call]
  | sending {todo before : List PortAction} (htodo : todo = before ++ [.masterSent call])
      (hsends : ∀ action ∈ before, action.Sends = true ∧ action.carries ≠ some [])
      (hpasses : line.passes = []) (hmaster : master = masterArmed)
      (hstatus : (∀ action ∈ before, action.carries = none) → sendStatus = line.sendStatus) :
      Course call line master sendStatus todo
  | receiving (hsent : line.sendStatus = .ok) (hunicast : call.slaveId ≠ 0)
      (hpasses : line.passes = []) (hmaster : master = masterArmed) :
      Course call line master sendStatus [.masterRecv call]
  | waiting (h : Waits call line line.passes master) :
      Course call line master sendStatus [.masterWait call line.start]
  | polling {passes : List LinePass} {sysTick : Dword} (h : Waits call line passes master)
      (hpasses : line.passes = passes ++ [⟨sysTick, []⟩])
      (htime : (sysTick - line.start).toNat < call.timeoutMs) :
      Course call line master sendStatus [.process, .masterLook call line.start]
  | delivering {passes : List LinePass} {sysTick : Dword} {data : List Byte}
      (h : Waits call line passes master) (hpasses : line.passes = passes ++ [⟨sysTick, []⟩])
      (htime : (sysTick - line.start).toNat < call.timeoutMs) :
      Course call line master sendStatus [.callback data, .masterLook call line.start]
  | looking {passes : List LinePass} {pass : LinePass} {before : MasterRtu}
      (h : Waits call line passes before) (hpasses : line.passes = passes ++ [pass])
      (htime : (pass.sysTick - line.start).toNat < call.timeoutMs)
      (hmaster : master = pass.frames.foldl modbusMasterRtuOnFrame before) :
      Course call line master sendStatus [.masterLook call line.start]
  | framed {frame : List Byte} (hsent : line.sendStatus = .ok) (hunicast : call.slaveId ≠ 0)
      (hgot : (masterRtuWait line.start rtuFrameMax call.timeoutMs line.passes masterArmed).1 =
        (.ok, frame)) :
      Course call line master sendStatus [.masterFrame call frame]
  | ending {status : ModbusStatus} (hresult : recordedResult call line = .plain status) :
      Course call line master sendStatus [.masterEnd status]

/-- Whether a transaction is in progress, and where it is. -/
inductive CallAt (s : Rs485Port cfg) (log : CallLog) : Prop
  | free (hcall : log.call = none) (htodo : ∀ action ∈ s.todo, action.OfMaster = false)
  | busy {call : MasterCall} (hcall : log.call = some call)
      (hsize : 1 ≤ call.reqPdu.length ∧ call.reqPdu.length ≤ 253)
      (hcourse : Course call log.line s.master s.sendStatus s.todo)

/-- A transaction that returns does so with what it returns over the record, and
one that is refused is refused over every record. -/
structure Transacts (s : Rs485Port cfg × CallLog) (event : PortEvent) (outs : List PortOutput)
    (s' : Rs485Port cfg × CallLog) : Prop where
  returned : ∀ call r, s.2.call = some call → .returned r ∈ outs →
    ∀ bus, Yields (recordedTransaction call s.2.line) bus fun r' bus' =>
      r' = r ∧ bus'.world = s'.1.master
  refused : ∀ call r, event.op = .transaction call → .returned r ∈ outs →
    ∀ line bus, Yields (recordedTransaction call line) bus fun r' bus' => r' = r ∧ bus' = bus

/-! ## One step -/

section Step

variable {s : Rs485Port cfg} {log : CallLog} {event : PortEvent}

theorem Transacts.quiet {s' : Rs485Port cfg × CallLog} {outs : List PortOutput}
    (houts : ∀ r, .returned r ∉ outs) : Transacts (s, log) event outs s' where
  returned _ r _ hmem := absurd hmem (houts r)
  refused _ r _ hmem := absurd hmem (houts r)

theorem Transacts.silent {s' : Rs485Port cfg × CallLog} : Transacts (s, log) event [] s' :=
  .quiet fun _ => List.not_mem_nil

/-- What a step of the main thread leads to, and what it returns. -/
def Recorded (s : Rs485Port cfg × CallLog) (event : PortEvent) (outs : List PortOutput)
    (s' : Rs485Port cfg × CallLog) : Prop := CallAt s'.1 s'.2 ∧ Transacts s event outs s'

/-- Outside a transaction nothing is returned. -/
theorem recorded_free (flat : cfg.Flat) (hcall : log.call = none) {halOk : Bool}
    {action : PortAction} {rest : List PortAction} (htodo : s.todo = action :: rest)
    (hnone : ∀ action ∈ s.todo, action.OfMaster = false) :
    Yields (takeAction event.now halOk s rest action) s fun outs s' =>
      Recorded (s, log) event outs (s', log.note event outs) := by
  obtain ⟨hfree, hrest⟩ := List.forall_mem_cons.mp (htodo ▸ hnone)
  have hcons : ∀ {as : List PortAction}, (∀ action ∈ as, action.OfMaster = false) →
      ∀ action ∈ as ++ rest, action.OfMaster = false := by
    intro as has action hmem
    rcases List.mem_append.mp hmem with hmem | hmem
    · exact has action hmem
    · exact hrest action hmem
  cases action with
  | masterFlush | masterDelayT35 | masterSend | masterSent | masterRecv | masterWait | masterLook
  | masterFrame | masterEnd => cases hfree
  | process =>
      rw [takeAction, yields_leave]
      refine ⟨.free hcall (hcons ?_), .silent⟩
      cases (s.framer.process event.now).1 <;> simp [PortAction.OfMaster]
  | callback data =>
      rw [takeAction, rs485ModbusRxCallback, yields_ite]
      split_ifs
      · rw [yields_leave]
        exact ⟨.free hcall hrest, .quiet (by simp)⟩
      · rw [yields_bind]
        apply yields_onSlave_modbusRtuProcess flat
        simp only [yields_bind, yields_modify, yields_pure]
        refine ⟨.free hcall (hcons ?_), .quiet (by simp)⟩
        unfold answerActions
        split_ifs <;> simp [PortAction.OfMaster]
  | spin start =>
      rw [takeAction, yields_ite, yields_leave, yields_leave]
      split_ifs
      · exact ⟨.free hcall hnone, .silent⟩
      · exact ⟨.free hcall hrest, .silent⟩
  | send data =>
      rw [takeAction, yields_leave, rs485Send]
      split_ifs
      · exact ⟨.free hcall hrest, .silent⟩
      · exact ⟨.free hcall (hcons (by simp [PortAction.OfMaster])), .silent⟩
  | flushRx | txEnable | rxEnable | txBegin | transmit =>
      rw [takeAction, yields_leave]
      exact ⟨.free hcall hrest, .quiet (by simp)⟩
  | delayT35 =>
      rw [takeAction, yields_leave]
      exact ⟨.free hcall (by simpa [PortAction.OfMaster] using hrest), .quiet (by simp)⟩

/-- The transaction goes on to send, with some actions in place of the first. -/
theorem Course.sendingOn {call : MasterCall} {line : Rs485Line} {master : MasterRtu}
    {sendStatus : Rs485Status} {before : List PortAction} (first : List PortAction)
    (hfirst : ∀ action ∈ first, action.Sends = true ∧ action.carries ≠ some [])
    (hsends : ∀ action ∈ before, action.Sends = true ∧ action.carries ≠ some [])
    (hpasses : line.passes = []) (hmaster : master = masterArmed)
    (hstatus : (∀ action ∈ first ++ before, action.carries = none) →
      sendStatus = line.sendStatus) :
    Course call line master sendStatus (first ++ (before ++ [.masterSent call])) := by
  refine .sending (List.append_assoc _ _ _).symm ?_ hpasses hmaster hstatus
  intro action hmem
  rcases List.mem_append.mp hmem with hmem | hmem
  · exact hfirst action hmem
  · exact hsends action hmem

/-- Up to the transmission the master waits and nothing comes for it. -/
theorem recorded_sending {call : MasterCall} (hcall : log.call = some call)
    (hsize : 1 ≤ call.reqPdu.length ∧ call.reqPdu.length ≤ 253) {halOk : Bool}
    {action : PortAction} {before : List PortAction}
    (hsends : ∀ a ∈ action :: before, a.Sends = true ∧ a.carries ≠ some [])
    (hpasses : log.line.passes = []) (hmaster : s.master = masterArmed)
    (hstatus : (∀ a ∈ action :: before, a.carries = none) → s.sendStatus = log.line.sendStatus)
    (htodo : s.todo = action :: (before ++ [.masterSent call])) :
    Yields (takeAction event.now halOk s (before ++ [.masterSent call]) action) s fun outs s' =>
      Recorded (s, log) event outs (s', log.note event outs) := by
  obtain ⟨⟨hsend, hcarries⟩, hbefore⟩ := List.forall_mem_cons.mp hsends
  have hpass : ∀ first : List PortAction, action.carries = none →
      (∀ a ∈ first ++ before, a.carries = none) → s.sendStatus = log.line.sendStatus := by
    intro first hnone hall
    apply hstatus
    intro a hmem
    rcases List.mem_cons.mp hmem with rfl | hmem
    · exact hnone
    · exact hall a (List.mem_append_right _ hmem)
  cases action with
  | process | callback | masterFlush | masterSent | masterRecv | masterWait | masterLook
  | masterFrame | masterEnd => cases hsend
  | flushRx | txEnable | rxEnable | txBegin =>
      rw [takeAction, yields_leave]
      exact ⟨.busy hcall hsize (.sendingOn [] (List.forall_mem_nil _) hbefore hpasses hmaster
          (hpass [] rfl)),
        .quiet (by simp)⟩
  | delayT35 =>
      rw [takeAction, yields_leave]
      exact ⟨.busy hcall hsize (.sendingOn [.spin _]
        (by simp [PortAction.Sends, PortAction.carries]) hbefore hpasses hmaster (hpass _ rfl)), .quiet (by simp)⟩
  | spin start =>
      rw [takeAction, yields_ite, yields_leave, yields_leave]
      split_ifs
      · refine ⟨.busy hcall hsize ?_, .silent⟩
        rw [htodo]
        exact .sending rfl hsends hpasses hmaster hstatus
      · exact ⟨.busy hcall hsize (.sendingOn [] (List.forall_mem_nil _) hbefore hpasses hmaster
          (hpass [] rfl)),
          .silent⟩
  | send data =>
      have hsome : ¬ data.length = 0 := by simpa [PortAction.carries] using hcarries
      rw [takeAction, yields_leave, rs485Send, if_neg hsome]
      refine ⟨.busy hcall hsize (.sendingOn [.txBegin, .txEnable, .transmit data, .rxEnable] ?_
        hbefore hpasses hmaster fun hall => ?_), .silent⟩
      · have hne : data ≠ [] := fun hnil => hsome (congrArg List.length hnil)
        simp [PortAction.Sends, PortAction.carries, hne]
      · exact absurd (hall (.transmit data) (by simp)) (Option.some_ne_none data)
  | transmit data =>
      simp only [takeAction, yields_leave]
      exact ⟨.busy hcall hsize (.sendingOn [] (List.forall_mem_nil _) hbefore hpasses hmaster
          fun _ => rfl),
        .quiet (by simp)⟩
  | masterDelayT35 =>
      rw [takeAction, yields_leave]
      have hkept : masterRtuDelayT35 s.master = masterArmed := by
        rw [hmaster]
        rfl
      exact ⟨.busy hcall hsize (.sendingOn [.delayT35]
        (by simp [PortAction.Sends, PortAction.carries]) hbefore hpasses hkept (hpass _ rfl)), .silent⟩
  | masterSend adu =>
      have hsome : ¬ adu.length = 0 := by simpa [PortAction.carries] using hcarries
      simp only [takeAction, if_neg hsome, yields_leave]
      refine ⟨.busy hcall hsize (.sendingOn [.txEnable, .send adu, .rxEnable] ?_ hbefore hpasses ?_
        fun hall => ?_), .silent⟩
      · have hne : adu ≠ [] := fun hnil => hsome (congrArg List.length hnil)
        simp [PortAction.Sends, PortAction.carries, hne]
      · rw [hmaster]
        rfl
      · exact absurd (hall (.send adu) (by simp)) (Option.some_ne_none adu)

/-- A pass in which nothing has come for the master is over. -/
theorem resumes_concat {call : MasterCall} {line : Rs485Line} {passes : List LinePass}
    {pass : LinePass} {master : MasterRtu} (h : Resumes call line passes master)
    (htime : (pass.sysTick - line.start).toNat < call.timeoutMs)
    (hnone : (pass.frames.foldl modbusMasterRtuOnFrame master).frameReady = 0) :
    Resumes call line (passes ++ [pass]) (pass.frames.foldl modbusMasterRtuOnFrame master) := by
  intro more
  rw [List.append_assoc, h, List.singleton_append, masterRtuWait, if_pos htime]
  simp only [hnone, ne_eq, not_true_eq_false, if_false]

/-- A pass in which a frame has come for the master ends the wait. -/
theorem masterRtuWait_of_frame {call : MasterCall} {line : Rs485Line} {passes : List LinePass}
    {pass : LinePass} {master : MasterRtu} (h : Resumes call line passes master)
    (htime : (pass.sysTick - line.start).toNat < call.timeoutMs)
    (hframe : (pass.frames.foldl modbusMasterRtuOnFrame master).frameReady ≠ 0) :
    (masterRtuWait line.start rtuFrameMax call.timeoutMs (passes ++ [pass]) masterArmed).1 =
      (.ok, (pass.frames.foldl modbusMasterRtuOnFrame master).frame.take rtuFrameMax) := by
  rw [h, masterRtuWait, if_pos htime, if_pos hframe]

/-- A pass that comes too late ends the wait. -/
theorem masterRtuWait_of_late {call : MasterCall} {line : Rs485Line} {passes : List LinePass}
    {pass : LinePass} {master : MasterRtu} (h : Resumes call line passes master)
    (hlate : ¬ (pass.sysTick - line.start).toNat < call.timeoutMs) :
    (masterRtuWait line.start rtuFrameMax call.timeoutMs (passes ++ [pass]) masterArmed).1 =
      (.timeout, []) := by
  rw [h, masterRtuWait, if_neg hlate]

/-- Once the wait has ended, the result is decided. -/
theorem recordedResult_of_wait {call : MasterCall} {line : Rs485Line}
    {got : ModbusStatus × List Byte} (hsent : line.sendStatus = .ok) (hunicast : call.slaveId ≠ 0)
    (hgot : (masterRtuWait line.start rtuFrameMax call.timeoutMs line.passes masterArmed).1 = got) :
    recordedResult call line = if got.1 ≠ .ok then .plain got.1
      else heard call.slaveId (byteAt call.reqPdu 0) call.respMax got.2 := by
  rw [recordedResult, if_neg (not_not_intro hsent), if_neg hunicast, hgot]

/-- A frame leaves the master waiting. -/
theorem waiting_modbusMasterRtuOnFrame (s : MasterRtu) (data : List Byte) :
    (modbusMasterRtuOnFrame s data).waiting = s.waiting := by
  unfold modbusMasterRtuOnFrame
  split_ifs <;> rfl

theorem waiting_foldl_onFrame (s : MasterRtu) (frames : List (List Byte)) :
    (frames.foldl modbusMasterRtuOnFrame s).waiting = s.waiting := by
  induction frames generalizing s with
  | nil => rfl
  | cons frame frames ih =>
      rw [List.foldl_cons, ih, waiting_modbusMasterRtuOnFrame]

/-- In a transaction each step follows its course. -/
theorem recorded_busy {call : MasterCall} (hcall : log.call = some call)
    (hsize : 1 ≤ call.reqPdu.length ∧ call.reqPdu.length ≤ 253) {halOk : Bool}
    (hop : event.op = .step halOk) {action : PortAction} {rest : List PortAction}
    (htodo : s.todo = action :: rest)
    (hcourse : Course call log.line s.master s.sendStatus (action :: rest)) :
    Yields (takeAction event.now halOk s rest action) s fun outs s' =>
      Recorded (s, log) event outs (s', log.note event outs) := by
  cases hcourse with
  | @starting adu hpasses hadu =>
      rw [takeAction, yields_leave]
      have hsends : Course call log.line masterArmed s.sendStatus
          ([.flushRx, .masterDelayT35, .masterSend adu] ++ [.masterSent call]) :=
        .sending rfl (by simp [PortAction.Sends, PortAction.carries, hadu]) hpasses rfl
          (by simp [PortAction.carries])
      exact ⟨.busy hcall hsize hsends, .silent⟩
  | @sending _ before hsplit hsends hpasses hmaster hstatus =>
      rcases before with - | ⟨a, before⟩
      · obtain ⟨rfl, rfl⟩ := List.cons.inj hsplit
        rw [takeAction, yields_leave]
        refine ⟨.busy hcall hsize ?_, .silent⟩
        have hsame := hstatus (List.forall_mem_nil _)
        simp only [masterSentActions, List.append_nil]
        split_ifs with hfailed hbroadcast
        · exact .ending (by rw [recordedResult, if_pos (hsame ▸ hfailed)])
        · exact .ending (by rw [recordedResult, if_neg (hsame ▸ hfailed), if_pos hbroadcast])
        · exact .receiving (hsame ▸ not_not.mp hfailed) hbroadcast hpasses hmaster
      · obtain ⟨rfl, rfl⟩ := List.cons.inj hsplit
        exact recorded_sending hcall hsize hsends hpasses hmaster hstatus htodo
  | receiving hsent hunicast hpasses hmaster =>
      rw [takeAction, yields_leave]
      refine ⟨.busy hcall hsize (.waiting ⟨hsent, hunicast, byte_one_ne_zero, ?_⟩),
        .quiet (by simp)⟩
      intro more
      simp only [CallLog.note, CallLog.output, List.foldl_cons, List.foldl_nil, hpasses,
        List.nil_append, hmaster]
      rfl
  | waiting h =>
      rw [takeAction, yields_leave]
      refine ⟨.busy hcall hsize ?_, .quiet (by simp)⟩
      dsimp only
      split_ifs with htime
      · exact .polling ⟨h.sent, h.unicast, h.waiting, h.resumes⟩ rfl htime
      · exact .ending (@recordedResult_of_wait call
          { log.line with passes := log.line.passes ++ [⟨s.sysTick, []⟩] } _ h.sent h.unicast
          (masterRtuWait_of_late h.resumes htime))
  | polling h hpasses htime =>
      rw [takeAction, yields_leave]
      refine ⟨.busy hcall hsize ?_, .silent⟩
      cases (s.framer.process event.now).1 with
      | none => exact .looking h hpasses htime rfl
      | some data => exact .delivering h hpasses htime
  | @delivering passes sysTick data h hpasses htime =>
      rw [takeAction, rs485ModbusRxCallback, modbusMasterRtuIsWaiting, if_pos h.waiting,
        yields_leave]
      have hadded : CallLog.addFrame log.line.passes data = passes ++ [⟨sysTick, [data]⟩] := by
        rw [hpasses, CallLog.addFrame_concat, List.nil_append]
      have hwaits : Waits call { log.line with passes := CallLog.addFrame log.line.passes data }
        passes s.master := ⟨h.sent, h.unicast, h.waiting, h.resumes⟩
      exact ⟨.busy hcall hsize (.looking hwaits hadded htime rfl), .quiet (by simp)⟩
  | @looking passes pass before h hpasses htime hmaster =>
      rw [takeAction, yields_ite, yields_leave, yields_leave]
      split_ifs with hready
      · refine ⟨.busy hcall hsize (.framed h.sent h.unicast ?_), .silent⟩
        rw [hmaster] at hready ⊢
        simp only [CallLog.note, List.foldl_nil, hpasses]
        exact masterRtuWait_of_frame h.resumes htime hready
      · refine ⟨.busy hcall hsize (.waiting ⟨h.sent, h.unicast, ?_, ?_⟩), .silent⟩
        · rw [hmaster, waiting_foldl_onFrame]
          exact h.waiting
        · rw [hmaster] at hready ⊢
          simp only [CallLog.note, List.foldl_nil, hpasses]
          exact resumes_concat h.resumes htime (not_not.mp hready)
  | framed hsent hunicast hgot =>
      have hreq : call.reqPdu ≠ [] := List.ne_nil_of_length_pos hsize.1
      rw [takeAction, yields_masterFrameStep hreq]
      refine ⟨.free rfl (List.forall_mem_nil _), ?_, fun call r hop' => by simp [hop] at hop'⟩
      intro call' r hcall' hmem bus
      obtain rfl : call = call' := Option.some.inj (hcall.symm.trans hcall')
      obtain rfl : r = heard call.slaveId (byteAt call.reqPdu 0) call.respMax _ := by
        simpa using hmem
      apply (yields_recordedTransaction hsize log.line bus).mono
      rintro r' bus' ⟨rfl, hworld⟩
      refine ⟨?_, hworld⟩
      exact recordedResult_of_wait hsent hunicast hgot
  | ending hresult =>
      rw [takeAction, yields_leave]
      refine ⟨.free rfl (List.forall_mem_nil _), ?_, fun call r hop' => by simp [hop] at hop'⟩
      intro call' r hcall' hmem bus
      obtain rfl : call = call' := Option.some.inj (hcall.symm.trans hcall')
      obtain rfl : r = .plain _ := by simpa using hmem
      apply (yields_recordedTransaction hsize log.line bus).mono
      rintro r' bus' ⟨rfl, hworld⟩
      exact ⟨hresult, hworld⟩

/-- An interrupt leaves the transaction alone. -/
theorem CallAt.interrupted (h : CallAt s log) {s' : Rs485Port cfg} (hmaster : s'.master = s.master)
    (hstatus : s'.sendStatus = s.sendStatus) (htodo : s'.todo = s.todo) : CallAt s' log := by
  cases h with
  | free hcall hnone => exact .free hcall (htodo ▸ hnone)
  | busy hcall hsize hcourse =>
      rw [← hmaster, ← hstatus, ← htodo] at hcourse
      exact .busy hcall hsize hcourse

/-- With nothing to do there is no transaction. -/
theorem CallAt.call_eq_none (h : CallAt s log) (htodo : s.todo = []) : log.call = none := by
  cases h with
  | free hcall hnone => exact hcall
  | busy hcall hsize hcourse =>
      rw [htodo] at hcourse
      cases hcourse with
      | sending hsplit => simp at hsplit

/-- What happens at the port leaves the transaction where its record leads it. -/
theorem yields_portStep_recorded (flat : cfg.Flat) (h : CallAt s log) :
    Yields (portStep event) s fun outs s' =>
      Recorded (s, log) event outs (s', log.note event outs) := by
  rw [portStep, yields_bind, yields_get]
  cases hop : event.op with
  | byte b | systick =>
      simp only [yields_leave]
      exact ⟨h.interrupted rfl rfl rfl, .silent⟩
  | overrun =>
      rw [yields_bind, yields_onSlave_charOverrun, yields_pure]
      exact ⟨h.interrupted rfl rfl rfl, .silent⟩
  | rs232 rx =>
      rw [yields_bind]
      apply yields_onSlave_modbusRtuProcess flat
      rw [yields_pure]
      exact ⟨h.interrupted rfl rfl rfl, .silent⟩
  | process =>
      dsimp only
      split
      · rw [yields_leave]
        refine ⟨.free ?_ (by simp [PortAction.OfMaster]), .quiet (by simp)⟩
        simp [CallLog.note, CallLog.output, hop]
      · rw [yields_pure]
        exact ⟨h, .silent⟩
  | transaction call =>
      dsimp only
      split
      · next htodo =>
          have hcall := h.call_eq_none htodo
          rw [yields_beginTransaction]
          split_ifs with hsize
          · have hframe : rtuFrame call.slaveId call.reqPdu ≠ [] := by
              apply List.ne_nil_of_length_pos
              rw [length_rtuFrame]
              exact Nat.succ_pos _
            refine ⟨?_, .quiet (by simp)⟩
            simp only [CallLog.note, CallLog.output, hop, List.foldl_cons, List.foldl_nil]
            exact .busy rfl hsize (.starting rfl hframe)
          · refine ⟨.free rfl (by simp [htodo]), ?_, ?_⟩
            · intro call' r hcall'
              cases hcall.symm.trans hcall'
            · intro call' r hop' hmem line bus
              obtain rfl : call = call' := PortOp.transaction.inj (hop.symm.trans hop')
              obtain rfl : r = .plain .error := by simpa using hmem
              exact (yields_modbusMasterTransaction_refused fun h => absurd h hsize).mpr ⟨rfl, rfl⟩
      · rw [yields_pure]
        exact ⟨h, .silent⟩
  | step halOk =>
      dsimp only
      split
      · rw [yields_pure]
        exact ⟨h, .silent⟩
      · next htodo =>
          cases h with
          | free hcall hnone => exact recorded_free flat hcall htodo hnone
          | busy hcall hsize hcourse =>
              exact recorded_busy hcall hsize hop htodo (htodo ▸ hcourse)

end Step

/-! ## Runs -/

/-- In whatever order bytes, overruns, ticks, frames of the other port, calls and
the steps of the main thread come, a transaction returns what
`modbus_master_transaction` returns over the record of the line. -/
theorem rs485Run_transacts (rxBuffer completedBuffer : ℕ → Byte) (bufferSize : ℕ)
    (baudrate msTick : Dword) (slave : Slave boardConfig) (sysTick : Dword)
    (events : List PortEvent) :
    EveryStep (recordedPort boardConfig) Transacts
      (rs485Init rxBuffer completedBuffer bufferSize baudrate msTick slave sysTick, .start)
      events := by
  apply everyStep_of_invariant (I := fun s => CallAt s.1 s.2) _
    (.free rfl (by simp [rs485Init]))
  intro s event hs
  rw [recordedPort, yields_watched]
  exact yields_portStep_recorded Config.boardConfig_flat hs

end AutomationBoard.Board
