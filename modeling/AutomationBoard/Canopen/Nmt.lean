/-
# The NMT state machine and the heartbeat producer

`canopen_nmt.c`. Every entry point either leaves the context alone or replaces
the state, restarts the timer or lets it run, so what a node does with a command
is read off four small updates.
-/

import AutomationBoard.Canopen.Sdo

namespace AutomationBoard.Canopen

/-- `canopen_nmt_t`. -/
structure Nmt where
  nodeId : Byte
  state : NmtState
  heartbeatPeriodMs : Word
  heartbeatTimerMs : Word
  deriving DecidableEq

namespace Nmt

/-- `CANOPEN_COB_HEARTBEAT_BASE + (uint32_t)nmt->node_id`. -/
def cobId (nmt : Nmt) : ℕ := cobHeartbeatBase + nmt.nodeId.toNat

/-- The context with the timer full. -/
def timerFull (nmt : Nmt) : Nmt := { nmt with heartbeatTimerMs := nmt.heartbeatPeriodMs }

@[simp]
theorem state_timerFull (nmt : Nmt) : nmt.timerFull.state = nmt.state := rfl

@[simp]
theorem nodeId_timerFull (nmt : Nmt) : nmt.timerFull.nodeId = nmt.nodeId := rfl

@[simp]
theorem heartbeatPeriodMs_timerFull (nmt : Nmt) :
    nmt.timerFull.heartbeatPeriodMs = nmt.heartbeatPeriodMs := rfl

end Nmt

section Context

variable {ω : Type} (app : Application ω)

/-- The payload-carrying frame of the heartbeat identifier. -/
def heartbeatFrame (nmt : Nmt) (payload : Byte) : CanopenFrame := dataFrame nmt.cobId [payload]

/-- `canopen_nmt_send_bootup`. -/
def canopenNmtSendBootup (nmt : Nmt) (dev : Device ω) : Device ω :=
  dev.send app (heartbeatFrame nmt 0x00)

/-- `canopen_nmt_init`. -/
def canopenNmtInit (nodeId : Byte) (heartbeatPeriodMs : Word) (dev : Device ω) :
    Nmt × Device ω :=
  let nmt : Nmt := ⟨nodeId, .preOperational, heartbeatPeriodMs, heartbeatPeriodMs⟩
  (nmt, canopenNmtSendBootup app nmt dev)

/-- `canopen_nmt_process`. -/
def canopenNmtProcess (nmt : Nmt) (deltaMs : Long) (dev : Device ω) : Nmt × Device ω :=
  if nmt.heartbeatPeriodMs = 0 then (nmt, dev)
  else if nmt.heartbeatTimerMs.toNat ≤ deltaMs.toNat then
    (nmt.timerFull, dev.send app (heartbeatFrame nmt nmt.state.code))
  else
    ({ nmt with heartbeatTimerMs := nmt.heartbeatTimerMs - deltaMs.setWidth 16 }, dev)

/-- `canopen_nmt_rx_command`. -/
def canopenNmtRxCommand (nmt : Nmt) (data : List Byte) (dev : Device ω) :
    Bool × Nmt × Device ω :=
  if data.length < 2 then (false, nmt, dev)
  else
    let cs := dataAt data 0
    let targetNode := dataAt data 1
    if targetNode ≠ 0 ∧ targetNode ≠ nmt.nodeId then (false, nmt, dev)
    else
      match NmtCommand.ofByte cs with
      | some .startNode => (true, { nmt with state := .operational }, dev)
      | some .stopNode => (true, { nmt with state := .stopped }, dev)
      | some .enterPreOperational => (true, { nmt with state := .preOperational }, dev)
      | some .resetNode | some .resetCommunication =>
          let nmt := { nmt with state := .preOperational }.timerFull
          (true, nmt, canopenNmtSendBootup app nmt dev)
      | none => (false, nmt, dev)

/-- `canopen_nmt_set_state`. -/
def canopenNmtSetState (nmt : Nmt) (newState : NmtState) : Nmt := { nmt with state := newState }

end Context

end AutomationBoard.Canopen
