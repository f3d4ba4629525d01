/-
# The objects of a node

An object of a dictionary is its bytes in memory. A call of an entry point
changes input variables of the default dictionary, or it is a download into one
object, or an RPDO into the output variables: nothing else in memory changes.
-/

import AutomationBoard.Canopen.NodeRun

namespace AutomationBoard.Canopen

open AutomationBoard.Modbus (word)
open AutomationBoard.Program

variable {ω : Type} {app : Application ω}

/-! ## Objects -/

/-- The bytes of an object, by its index and subindex; empty where there is none. -/
def objectBytes (od : CanopenOd) (mem : Mem) (name : Word × Byte) : List Byte :=
  match odObject od name.1 name.2 with
  | .ok (sub, object) => mem.read object sub.size.toNat
  | .error _ => []

theorem objectBytes_of_found {od : CanopenOd} {name : Word × Byte} {sub : Subindex} {object : Ptr}
    (found : odObject od name.1 name.2 = .ok (sub, object)) (mem : Mem) :
    objectBytes od mem name = mem.read object sub.size.toNat := by
  simp only [objectBytes, found]

/-- The object that a request names. -/
def requestName (data : List Byte) : Word × Byte := (requestIndex data, requestSubindex data)

theorem requestName_found {od : CanopenOd} {data : List Byte} {sub : Subindex} {object : Ptr}
    (found : odObject od (requestIndex data) (requestSubindex data) = .ok (sub, object)) :
    odObject od (requestName data).1 (requestName data).2 = .ok (sub, object) := found

/-- An object that is not an input keeps its bytes where only inputs change. -/
theorem SameOutsideInputs.objectBytes_eq {mem mem' : Mem} (h : SameOutsideInputs mem mem')
    {od : CanopenOd} {name : Word × Byte} {sub : Subindex} {object : Ptr}
    (found : odObject od name.1 name.2 = .ok (sub, object))
    (hdi : object.block ≠ .obj6000DiState) (hai : object.block ≠ .obj6401Ai) :
    objectBytes od mem' name = objectBytes od mem name := by
  rw [objectBytes_of_found found, objectBytes_of_found found, h.read_eq hdi hai]

/-- All objects of a dictionary, with their names. -/
def CanopenOd.objects (od : CanopenOd) : List ((Word × Byte) × Subindex × Ptr) :=
  od.entries.flatMap fun entry => entry.pSubindex.zipIdx.filterMap fun sub =>
    sub.1.pObject.map fun object => ((entry.index, BitVec.ofNat 8 sub.2), sub.1, object)

/-- What the lookup finds is among the objects. -/
theorem mem_objects_of_found {od : CanopenOd} {index : Word} {bSubindex : Byte} {sub : Subindex}
    {object : Ptr} (found : odObject od index bSubindex = .ok (sub, object)) :
    ((index, bSubindex), sub, object) ∈ od.objects := by
  unfold odObject at found
  cases hentry : canopenOdFindIndex od index with
  | none => simp [hentry] at found
  | some entry =>
      simp only [hentry] at found
      cases hsub : entry.pSubindex[bSubindex.toNat]? with
      | none => simp [hsub] at found
      | some sub' =>
          simp only [hsub] at found
          cases hobject : sub'.pObject with
          | none => simp [hobject] at found
          | some object' =>
              simp only [hobject, Except.ok.injEq, Prod.mk.injEq] at found
              obtain ⟨rfl, rfl⟩ := found
              have hmatch := List.find?_some hentry
              have hindex : entry.index = index := beq_iff_eq.mp hmatch
              apply List.mem_flatMap.mpr
              refine ⟨entry, List.mem_of_find?_eq_some hentry, List.mem_filterMap.mpr ?_⟩
              refine ⟨(sub', bSubindex.toNat), List.mk_mem_zipIdx_iff_getElem?.mpr hsub, ?_⟩
              simp [hobject, hindex]

/-- Objects of the default dictionary have bytes, and different ones have none in
common. -/
theorem boardObjects_apart :
    ∀ entry ∈ canopenDefaultOdGet.objects, 0 < entry.2.1.size.toNat ∧
      ∀ entry' ∈ canopenDefaultOdGet.objects, entry'.1 ≠ entry.1 →
        entry'.2.2.Apart entry'.2.1.size.toNat entry.2.2 entry.2.1.size.toNat := by
  decide +kernel

/-! ## Changes of memory -/

/-- What a call may leave in the memory of a node with the given settings. -/
inductive NodeWrite (nodeId : Byte) (od : CanopenOd) (state : NmtState) (mem : Mem) :
    NodeInput → Mem → Prop
  | inputs (input : NodeInput) (mem' : Mem) (same : SameOutsideInputs mem mem') :
      NodeWrite nodeId od state mem input mem'
  | download (data : List Byte) (sub : Subindex) (object : Ptr) (running : state ≠ .stopped)
      (length : data.length = 8) (download : commandSpecifier data = 1)
      (expedited : expeditedFlag data = 1)
      (found : odObject od (requestIndex data) (requestSubindex data) = .ok (sub, object))
      (writable : sub.bAccessType &&& accessWriteMask ≠ 0)
      (fits : 0 < sub.size.toNat → sub.size.toNat = (expeditedBytes data).length) :
      NodeWrite nodeId od state mem (.rxFrame (cobRsdoBase + nodeId.toNat) (some data))
        (mem.write object (expeditedBytes data))
  | rpdo1 (data : List Byte) (operational : state = .operational) (length : 1 ≤ data.length) :
      NodeWrite nodeId od state mem (.rxFrame (cobRpdo1Base + nodeId.toNat) (some data))
        (mem.write Variable.obj6200DoState.addr [dataAt data 0])
  | rpdo2 (data : List Byte) (operational : state = .operational) (length : 4 ≤ data.length) :
      NodeWrite nodeId od state mem (.rxFrame (cobRpdo2Base + nodeId.toNat) (some data))
        ((mem.write (elementAt Variable.obj6411Ao.addr 0)
          (wordBytes (word (dataAt data 1) (dataAt data 0)))).write
          (elementAt Variable.obj6411Ao.addr 1)
          (wordBytes (word (dataAt data 3) (dataAt data 2))))

/-- A frame of eight bytes changes memory as an acknowledged download only. -/
theorem SdoStep.mem_cases {sdo server : SdoServer} {data : List Byte} {dev dev' : Device ω}
    (h : SdoStep app sdo data dev server dev') :
    dev'.mem = dev.mem ∨ ∃ sub object,
      commandSpecifier data = 1 ∧ expeditedFlag data = 1 ∧
      odObject sdo.od (requestIndex data) (requestSubindex data) = .ok (sub, object) ∧
      sub.bAccessType &&& accessWriteMask ≠ 0 ∧
      (0 < sub.size.toNat → sub.size.toNat = (expeditedBytes data).length) ∧
      dev'.mem = dev.mem.write object (expeditedBytes data) := by
  cases h with
  | store hdown hexp sub object found writable fits =>
      exact .inr ⟨sub, object, hdown, hexp, found, writable, fits, by simp⟩
  | _ => exact .inl rfl

section Settings

variable {node : CanopenNode} {nodeId : Byte} {od : CanopenOd}

theorem CanopenNode.Configured.vars_eq (h : node.Configured nodeId od) :
    node.vars = canopenDefaultOdGetVars := by
  obtain ⟨period, hconfig⟩ := h.config
  exact congrArg NodeConfig.vars hconfig

theorem CanopenNode.Configured.pdo_config (h : node.Configured nodeId od) :
    node.pdo.config = ⟨nodeId, od, tpdoConfig cobTpdo1Base nodeId, tpdoConfig cobTpdo2Base nodeId,
      canopenDefaultOdGetVars⟩ := by
  obtain ⟨period, hconfig⟩ := h.config
  exact congrArg NodeConfig.pdo hconfig

end Settings

theorem NodeStep.write {s s' : System ω} {input : NodeInput} {nodeId : Byte} {od : CanopenOd}
    (h : NodeStep app s input s') (hconf : s.node.Configured nodeId od) :
    NodeWrite nodeId od s.node.nmt.state s.dev.mem input s'.dev.mem := by
  have hpdoNode : s.node.pdo.nodeId = nodeId := congrArg PdoConfig.nodeId hconf.pdo_config
  have hpdoVars : s.node.pdo.vars = canopenDefaultOdGetVars :=
    congrArg PdoConfig.vars hconf.pdo_config
  cases h with
  | engines _ nmt pdo dev dev' inner beat config activity operational =>
      have hbeat : dev.mem = s.dev.mem := by
        rcases beat.device with rfl | rfl
        · rfl
        · rfl
      exact .inputs _ _ (hbeat ▸ activity.mem)
  | sdo data server dev running length step =>
      rcases step.mem_cases with hmem | ⟨sub, object, hdown, hexp, found, writable, fits, hmem⟩
      · exact .inputs _ _ (by rw [hmem]; exact .refl s.dev.mem)
      · rw [hconf.sdoOd_eq] at found
        simp only [hmem]
        rw [hconf.rsdoCobId_eq]
        exact .download data sub object running length hdown hexp found writable fits
  | rpdo1 cobId data operational accepted cob length =>
      rw [cob, hpdoNode]
      simp only [Device.syncOutputs, storeRpdo1, Device.store, hpdoVars]
      exact .rpdo1 data operational length
  | rpdo2 cobId data operational accepted cob length =>
      rw [cob, hpdoNode]
      simp only [Device.syncOutputs, storeRpdo2, Device.store, hpdoVars]
      exact .rpdo2 data operational length
  | digitalInputs inputs =>
      simp only [hconf.vars_eq]
      exact .inputs _ _ (sameOutsideInputs_setDigitalInputs inputs s.dev.mem)
  | analogInput channel value =>
      simp only [hconf.vars_eq]
      exact .inputs _ _ (sameOutsideInputs_setAnalogInput channel.toNat value s.dev.mem)
  | _ => exact .inputs _ _ (.refl s.dev.mem)

/-- What a call leaves in memory. -/
theorem nodeStep_write (app : Application ω) (input : NodeInput) {s : System ω} {nodeId : Byte}
    {od : CanopenOd} (h : s.node.Configured nodeId od) :
    NodeWrite nodeId od s.node.nmt.state s.dev.mem input (nodeStep app input s).2.dev.mem :=
  (nodeStep_enter app s.unrecorded input).write h

/-- An accepted download leaves its bytes in the object it names. -/
theorem mem_nodeStep_download (app : Application ω) {s : System ω} {nodeId : Byte}
    {od : CanopenOd} (h : s.node.Configured nodeId od) {data : List Byte}
    (hrunning : s.node.nmt.state ≠ .stopped) (hlen : data.length = 8)
    (hcs : commandSpecifier data = 1) (hexp : expeditedFlag data = 1) {sub : Subindex}
    {object : Ptr} (found : odObject od (requestIndex data) (requestSubindex data) =
      .ok (sub, object))
    (writable : sub.bAccessType &&& accessWriteMask ≠ 0)
    (fits : 0 < sub.size.toNat → sub.size.toNat = (expeditedBytes data).length) :
    (nodeStep app (.rxFrame (cobRsdoBase + nodeId.toNat) (some data)) s).2.dev.mem =
      s.dev.mem.write object (expeditedBytes data) := by
  obtain ⟨-, -, hdev⟩ := nodeStep_rsdo app h hrunning data
  rw [← h.sdoOd_eq] at found
  rw [hdev, sdoLineStep, canopenSdoRxFrame_store hlen hcs hexp found writable fits]
  simp [SdoLine.unrecorded]

end AutomationBoard.Canopen
