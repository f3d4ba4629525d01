/-
# A node and the world of its application

What a call of an entry point does to the variables and the world of the
application: any number of transmissions and refreshes of the inputs, or one
output that is stored and handed to `canopen_app_sync_outputs`. What the
application relies on about its own world is a matter of these moves.
-/

import AutomationBoard.Canopen.Objects
import Mathlib.Logic.Relation

namespace AutomationBoard.Canopen

open AutomationBoard.Modbus (word)
open AutomationBoard.Program

variable {ω : Type} {app : Application ω}

/-! ## Moves -/

variable (app) in
/-- A transmission, or a refresh of the inputs. -/
inductive Quiet : Mem × ω → Mem × ω → Prop
  | transmit (frame : CanopenFrame) (mem : Mem) (world : ω) :
      Quiet (mem, world) (mem, (app.txFunc frame world).2)
  | refresh (mem : Mem) (world : ω) :
      Quiet (mem, world)
        ((app.appSyncInputs world).1.apply canopenDefaultOdGetVars mem,
          (app.appSyncInputs world).2)

/-- The variables and the world. -/
def Device.view (dev : Device ω) : Mem × ω := (dev.mem, dev.world)

variable (app) in
/-- The device got there by transmissions and refreshes. -/
def QuietTo (dev dev' : Device ω) : Prop := Relation.ReflTransGen (Quiet app) dev.view dev'.view

theorem QuietTo.refl (dev : Device ω) : QuietTo app dev dev := Relation.ReflTransGen.refl

theorem QuietTo.trans {dev dev' dev'' : Device ω} (h : QuietTo app dev dev')
    (h' : QuietTo app dev' dev'') : QuietTo app dev dev'' := Relation.ReflTransGen.trans h h'

theorem quietTo_send (frame : CanopenFrame) (dev : Device ω) :
    QuietTo app dev (dev.send app frame) :=
  .single (.transmit frame dev.mem dev.world)

theorem quietTo_syncInputs (dev : Device ω) : QuietTo app dev (dev.syncInputs app) :=
  .single (.refresh dev.mem dev.world)

/-- What every such move keeps is kept. -/
theorem QuietTo.keeps {J : Mem → ω → Prop}
    (htransmit : ∀ frame mem world, J mem world → J mem (app.txFunc frame world).2)
    (hrefresh : ∀ mem world, J mem world →
      J ((app.appSyncInputs world).1.apply canopenDefaultOdGetVars mem)
        (app.appSyncInputs world).2)
    {dev dev' : Device ω} (h : QuietTo app dev dev') (hdev : J dev.mem dev.world) :
    J dev'.mem dev'.world := by
  have hkeeps : ∀ m, Relation.ReflTransGen (Quiet app) dev.view m → J m.1 m.2 := by
    intro m hm
    induction hm with
    | refl => exact hdev
    | tail _ hmove ih =>
        cases hmove with
        | transmit frame mem world => exact htransmit frame mem world ih
        | refresh mem world => exact hrefresh mem world ih
  exact hkeeps dev'.view h

/-! ## The engines -/

section Engines

variable (app)

theorem quietTo_sendTpdo (tpdo : TpdoState) (payload : Mem → List Byte) (dev : Device ω) :
    QuietTo app dev (sendTpdo app tpdo payload dev).2.2 := by
  unfold sendTpdo
  split_ifs
  · exact .refl dev
  · simp only
    have hsent : QuietTo app dev _ := (quietTo_syncInputs dev).trans
      (quietTo_send (dataFrame tpdo.cobId (payload (dev.syncInputs app).mem)) _)
    split_ifs
    · exact hsent
    · exact hsent

theorem quietTo_runEventTimer (tpdo : TpdoState) (payload : Mem → List Byte) (deltaMs : Long)
    (dev : Device ω) : QuietTo app dev (runEventTimer app tpdo payload deltaMs dev).2 := by
  unfold runEventTimer
  split_ifs
  · exact quietTo_sendTpdo app tpdo payload dev
  · exact .refl dev
  · exact .refl dev

theorem quietTo_canopenPdoProcess (pdo : Pdo) (deltaMs : Long) (isOperational : Bool)
    (dev : Device ω) :
    QuietTo app dev (canopenPdoProcess app pdo deltaMs isOperational dev).2 := by
  cases isOperational with
  | false => exact .refl dev
  | true =>
      have hfirst := quietTo_runEventTimer app (pdo.tpdo1.cooledDown deltaMs)
        (tpdo1Data pdo.vars) deltaMs dev
      exact hfirst.trans (quietTo_runEventTimer app (pdo.tpdo2.cooledDown deltaMs)
        (tpdo2Data pdo.vars) deltaMs _)

theorem quietTo_canopenPdoRxSync (pdo : Pdo) (isOperational : Bool) (dev : Device ω) :
    QuietTo app dev (canopenPdoRxSync app pdo isOperational dev).2 := by
  cases isOperational with
  | false => exact .refl dev
  | true =>
      have hfirst := quietTo_sendTpdo app pdo.tpdo1.released (tpdo1Data pdo.vars) dev
      exact hfirst.trans (quietTo_sendTpdo app pdo.tpdo2.released (tpdo2Data pdo.vars) _)

theorem quietTo_canopenNmtProcess (nmt : Nmt) (deltaMs : Long) (dev : Device ω) :
    QuietTo app dev (canopenNmtProcess app nmt deltaMs dev).2 := by
  unfold canopenNmtProcess
  split_ifs
  · exact .refl dev
  · exact quietTo_send _ dev
  · exact .refl dev

theorem quietTo_canopenNmtRxCommand (nmt : Nmt) (data : List Byte) (dev : Device ω) :
    QuietTo app dev (canopenNmtRxCommand app nmt data dev).2.2 := by
  simp only [canopenNmtRxCommand]
  split_ifs
  · exact .refl dev
  · exact .refl dev
  · cases NmtCommand.ofByte (dataAt data 0) with
    | none => exact .refl dev
    | some command =>
        cases command with
        | startNode | stopNode | enterPreOperational => exact .refl dev
        | resetNode | resetCommunication => exact quietTo_send _ dev

theorem quietTo_canopenProcess (deltaMs : Long) (s : System ω) :
    QuietTo app s.dev (canopenProcess app deltaMs s).dev :=
  (quietTo_canopenNmtProcess app s.node.nmt deltaMs s.dev).trans
    (quietTo_canopenPdoProcess app _ deltaMs _ _)

end Engines

/-! ## Outputs -/

variable (app) in
/-- What a frame, or the passing of time, does to the variables and the world. -/
inductive WorldStep (od : CanopenOd) (dev : Device ω) : Device ω → Prop
  | quiet {dev' : Device ω} (h : QuietTo app dev dev') : WorldStep od dev dev'
  | rpdo1 (b : Byte) : WorldStep od dev
      ((dev.store Variable.obj6200DoState.addr [b]).syncOutputs app)
  | rpdo2 (ao0 ao1 : Word) : WorldStep od dev
      (((dev.store (elementAt Variable.obj6411Ao.addr 0) (wordBytes ao0)).store
        (elementAt Variable.obj6411Ao.addr 1) (wordBytes ao1)).syncOutputs app)
  | download (index : Word) (bSubindex : Byte) (src : List Byte) (sub : Subindex) (object : Ptr)
      (found : odObject od index bSubindex = .ok (sub, object))
      (writable : sub.bAccessType &&& accessWriteMask ≠ 0)
      (fits : 0 < sub.size.toNat → sub.size.toNat = src.length) (response : CanopenFrame) :
      WorldStep od dev ((dev.written app index bSubindex src object).send app response)

/-- The way a frame for the SDO server takes. -/
theorem SdoStep.worldStep {sdo server : SdoServer} {data : List Byte} {dev dev' : Device ω}
    (h : SdoStep app sdo data dev server dev') : WorldStep app sdo.od dev dev' := by
  cases h with
  | cancel => exact .quiet (.refl dev)
  | store download expedited sub object found writable fits =>
      exact .download _ _ _ sub object found writable fits _
  | refuse | expedite | start | mismatch | segment => exact .quiet (quietTo_send _ dev)

section Node

variable {s : System ω} {nodeId : Byte} {od : CanopenOd}

/-- The way a received frame takes. -/
theorem worldStep_rxPayload (app : Application ω) (h : s.node.Configured nodeId od) (cobId : ℕ)
    (data : List Byte) : WorldStep app od s.dev (rxPayload app cobId data s).2.dev := by
  have hvars : s.node.pdo.vars = canopenDefaultOdGetVars :=
    congrArg PdoConfig.vars h.pdo_config
  unfold rxPayload
  split_ifs with hnmt hsync hsdo hstopped hrpdo
  · exact .quiet (quietTo_canopenNmtRxCommand app s.node.nmt data s.dev)
  · exact .quiet (quietTo_canopenPdoRxSync app s.node.pdo s.node.isOperational s.dev)
  · exact .quiet (.refl s.dev)
  · simp only
    by_cases hlen : data.length = 8
    · rw [← h.sdoOd_eq]
      exact (sdoStep_of_length app s.node.sdo s.dev hlen).2.worldStep
    · rw [canopenSdoRxFrame_of_length_ne hlen]
      exact .quiet (.refl s.dev)
  · simp only [canopenPdoRxRpdo, hvars]
    split_ifs
    · exact .rpdo1 _
    · exact .rpdo2 _ _
    · exact .quiet (.refl s.dev)
    · exact .quiet (.refl s.dev)
  · exact .quiet (.refl s.dev)

/-- The way a frame takes that is handed to the node. -/
theorem worldStep_rxFrame (app : Application ω) (h : s.node.Configured nodeId od) (cobId : ℕ)
    (data : Option (List Byte)) :
    WorldStep app od s.unrecorded.dev (nodeStep app (.rxFrame cobId data) s).2.dev := by
  cases data with
  | none => exact .quiet (.refl _)
  | some data => exact worldStep_rxPayload (s := s.unrecorded) app h cobId data

end Node

end AutomationBoard.Canopen
