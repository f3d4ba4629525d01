/-
# The post-write callback

`canopen_od_write` calls the registered callback for each object it writes. The
RPDOs write the variables of the outputs through pointers of their own, past
`canopen_od_write`, whatever objects of the dictionary are stored there. So a frame
is reported as it should be exactly if it is not an accepted RPDO that writes the
storage of an object.
-/

import AutomationBoard.Canopen.ImageWrites

namespace AutomationBoard.Canopen

open AutomationBoard.Program

variable {ω : Type} {app : Application ω}

/-! ## What a frame writes, and what is reported -/

/-- What a call reports to the post-write callback: the object and the bytes. -/
def AppCall.report? : AppCall → Option ((Word × Byte) × List Byte)
  | .postWrite index bSubindex data => some ((index, bSubindex), data)
  | _ => none

/-- The reports among calls of the application, in order. -/
def reports (calls : List AppCall) : List ((Word × Byte) × List Byte) :=
  calls.filterMap AppCall.report?

/-- The object is stored in the variable of an output, or partly so; one without a
size is stored where it points to. -/
def CanopenOd.StoredIn (od : CanopenOd) (name : Word × Byte) (image : ImageObject) : Prop :=
  ∃ sub object, odObject od name.1 name.2 = .ok (sub, object) ∧
    ¬ object.Apart (max 1 sub.size.toNat) image.pVariable image.size.toNat

theorem CanopenOd.storedIn_of_found {od : CanopenOd} {name : Word × Byte} {image : ImageObject}
    {sub : Subindex} {object : Ptr} (found : odObject od name.1 name.2 = .ok (sub, object)) :
    od.StoredIn name image ↔
      ¬ object.Apart (max 1 sub.size.toNat) image.pVariable image.size.toNat := by
  constructor
  · rintro ⟨sub', object', found', hmeet⟩
    obtain ⟨rfl, rfl⟩ := Prod.mk.inj (Except.ok.inj (found.symm.trans found'))
    exact hmeet
  · exact fun hmeet => ⟨sub, object, found, hmeet⟩

instance (od : CanopenOd) (name : Word × Byte) (image : ImageObject) :
    Decidable (od.StoredIn name image) :=
  match found : odObject od name.1 name.2 with
  | .ok (_, _) => decidable_of_iff _ (CanopenOd.storedIn_of_found found).symm
  | .error _ => isFalse fun ⟨_, _, found', _⟩ => by simp [found] at found'

/-- The objects of the dictionary, by name and each once. -/
def CanopenOd.names (od : CanopenOd) : List (Word × Byte) := (od.objects.map (·.1)).dedup

/-- The variables that an RPDO writes if it is accepted. -/
def rpdoVariables (nodeId : Byte) (input : NodeInput) (handled : Bool) : List ImageObject :=
  match input with
  | .rxFrame cobId (some _) =>
      if cobId = cobRpdo1Base + nodeId.toNat ∧ handled then [digitalOutputObject]
      else if cobId = cobRpdo2Base + nodeId.toNat ∧ handled then
        [analogOutputObject 0, analogOutputObject 1]
      else []
  | _ => []

/-- The objects of the dictionary that a frame writes, with the bytes. A download
names its object; an RPDO writes every object that is stored in its variables, which
then has the bytes that memory holds there. -/
def writtenObjects (od : CanopenOd) (nodeId : Byte) (input : NodeInput) (handled : Bool)
    (calls : List AppCall) (mem : Mem) : List ((Word × Byte) × List Byte) :=
  if input.ForSdo nodeId then acceptedWrites nodeId input handled calls
  else
    (od.names.filter fun name =>
      (rpdoVariables nodeId input handled).any fun image => od.StoredIn name image).map
      fun name => (name, objectBytes od mem name)

/-- The frame is an RPDO that the node accepts, and writes an object of the dictionary. -/
def WritesByRpdo (od : CanopenOd) (node : CanopenNode) (cobId : ℕ) (data : List Byte) : Prop :=
  node.nmt.state = .operational ∧
    ((cobId = cobRpdo1Base + node.nodeId.toNat ∧ 1 ≤ data.length ∧
        ∃ name, od.StoredIn name digitalOutputObject) ∨
      (cobId = cobRpdo2Base + node.nodeId.toNat ∧ 4 ≤ data.length ∧
        ∃ name, od.StoredIn name (analogOutputObject 0) ∨
          od.StoredIn name (analogOutputObject 1)))

/-- The callback is told of every object that a frame writes, once and with its bytes,
and of nothing else. -/
def ToldOfWrites (app : Application ω) (od : CanopenOd) (cobId : ℕ) (data : Option (List Byte))
    (s : System ω) : Prop :=
  let input := NodeInput.rxFrame cobId data
  let r := nodeStep app input s
  (reports r.1).Perm
    (writtenObjects od s.node.nodeId input (handled app input s) r.1 r.2.dev.mem)

/-! ## Reports -/

@[simp]
theorem reports_append (calls calls' : List AppCall) :
    reports (calls ++ calls') = reports calls ++ reports calls' := List.filterMap_append

@[simp]
theorem reports_nil : reports [] = [] := rfl

@[simp]
theorem reports_transmit (frame : CanopenFrame) (ret : ℤ) (mem : Mem) :
    reports [.transmit frame ret mem] = [] := rfl

@[simp]
theorem reports_syncOutputs : reports [.syncOutputs] = [] := rfl

/-- A write of an object is reported once. -/
theorem reports_writeCalls (hcallback : app.postWriteCb.isSome) (index : Word) (bSubindex : Byte)
    (src : List Byte) :
    reports (Device.writeCalls app index bSubindex src) = [((index, bSubindex), src)] := by
  obtain ⟨cb, hcb⟩ := Option.isSome_iff_exists.mp hcallback
  simp only [Device.writeCalls, Device.notifyCalls, hcb]
  split_ifs <;> rfl

/-- The engine reports nothing. -/
theorem PdoActivity.reports_eq {config : PdoConfig} {dev dev' : Device ω}
    (h : PdoActivity config dev dev') : reports dev'.calls = reports dev.calls := by
  obtain ⟨new, hnew, hcalls⟩ := h.calls
  have hsilent : reports new = [] := by
    apply List.filterMap_eq_nil_iff.mpr
    intro call hcall
    cases hcalls call hcall with
    | syncInputs | tpdo1 | tpdo2 => rfl
  rw [hnew, reports_append, hsilent, List.append_nil]

/-- A call that hands no frame to the server reports nothing. -/
theorem NodeStep.reports_eq {s s' : System ω} {input : NodeInput} (h : NodeStep app s input s')
    (hcalls : s.dev.calls = []) (hother : ¬ input.ForSdo s.node.nodeId) :
    reports s'.dev.calls = [] := by
  cases h with
  | reset data => simp [hcalls]
  | engines _ nmt pdo dev dev' _ beat _ activity =>
      rw [activity.reports_eq]
      rcases beat.device with rfl | rfl
      · simp [hcalls]
      · simp [hcalls]
  | sdo data => exact absurd rfl hother
  | rpdo1 => simp [Device.syncOutputs, storeRpdo1, Device.store, hcalls]
  | rpdo2 => simp [Device.syncOutputs, storeRpdo2, Device.store, hcalls]
  | _ => simp [hcalls]

/-- The server reports an acknowledged download, and nothing else. -/
theorem SdoStep.reports_eq (hcallback : app.postWriteCb.isSome) {sdo server : SdoServer}
    {data : List Byte} {dev dev' : Device ω} (h : SdoStep app sdo data dev server dev')
    (hcalls : dev.calls = []) :
    reports dev'.calls =
      if commandSpecifier data = 1 ∧
          (sentFrames dev'.calls).any (dataAt ·.data 0 == 0x60) = true then
        [(requestName data, expeditedBytes data)]
      else [] := by
  have hnot : ∀ {cs : Byte}, cs ≠ 1 → commandSpecifier data = cs →
      ¬ (commandSpecifier data = 1 ∧
        (sentFrames dev'.calls).any (dataAt ·.data 0 == 0x60) = true) := by
    rintro cs hne hcs ⟨hdown, -⟩
    exact hne (hcs.symm.trans hdown)
  cases h with
  | cancel => simp [hcalls]
  | refuse index bSubindex e =>
      simp only [canopenSdoSendAbort, Device.calls_send, hcalls, List.nil_append, reports_transmit,
        sentFrames_transmit]
      exact (if_neg fun hack => by cases hack.2).symm
  | store hdown hexp sub object =>
      simp only [Device.calls_send, Device.calls_written, hcalls, List.nil_append, reports_append,
        reports_writeCalls hcallback, reports_transmit, List.append_nil, sentFrames_append,
        Device.sentFrames_writeCalls, sentFrames_transmit]
      exact (if_pos ⟨hdown, rfl⟩).symm
  | expedite hcs | start hcs | mismatch hcs | segment hcs =>
      rw [if_neg (hnot (by decide) hcs)]
      simp [canopenSdoSendAbort, hcalls]

/-! ## What a frame reports -/

section Frame

variable {s : System ω} {nodeId : Byte} {od : CanopenOd}

/-- An object that is stored somewhere has a name. -/
theorem CanopenOd.StoredIn.mem_names {name : Word × Byte} {image : ImageObject}
    (h : od.StoredIn name image) : name ∈ od.names := by
  obtain ⟨sub, object, found, -⟩ := h
  exact List.mem_dedup.mpr (List.mem_map_of_mem (mem_objects_of_found found))

/-- A frame that no download names writes no object if none is stored in the variables
that it writes. -/
theorem writtenObjects_eq_nil_iff {input : NodeInput} (hother : ¬ input.ForSdo nodeId)
    (handled : Bool) (calls : List AppCall) (mem : Mem) :
    writtenObjects od nodeId input handled calls mem = [] ↔
      ∀ image ∈ rpdoVariables nodeId input handled, ∀ name, ¬ od.StoredIn name image := by
  rw [writtenObjects, if_neg hother, List.map_eq_nil_iff, List.filter_eq_nil_iff]
  simp only [List.any_eq_true, decide_eq_true_iff, not_exists, not_and]
  constructor
  · exact fun h image himage name hstored => h name hstored.mem_names image himage hstored
  · exact fun h name _ image himage => h image himage name

theorem rpdoVariables_rpdo1 (nodeId : Byte) (data : List Byte) (handled : Bool) :
    rpdoVariables nodeId (.rxFrame (cobRpdo1Base + nodeId.toNat) (some data)) handled =
      if handled then [digitalOutputObject] else [] := by
  simp [rpdoVariables, cobRpdo1Base, cobRpdo2Base]

theorem rpdoVariables_rpdo2 (nodeId : Byte) (data : List Byte) (handled : Bool) :
    rpdoVariables nodeId (.rxFrame (cobRpdo2Base + nodeId.toNat) (some data)) handled =
      if handled then [analogOutputObject 0, analogOutputObject 1] else [] := by
  simp [rpdoVariables, cobRpdo1Base, cobRpdo2Base]

/-- Which RPDO1 frames the node accepts. -/
theorem handled_rpdo1 (app : Application ω) (h : s.node.Configured nodeId od) (data : List Byte) :
    handled app (.rxFrame (cobRpdo1Base + nodeId.toNat) (some data)) s = true ↔
      s.node.nmt.state = .operational ∧ 1 ≤ data.length := by
  have hunrecorded : s.unrecorded.node.Configured nodeId od := h
  simp only [handled, canopenRxFrame, rxPayload_rpdo1 app hunrecorded]
  split_ifs with haccepted
  · exact iff_of_true rfl haccepted
  · exact iff_of_false id haccepted

/-- Which RPDO2 frames the node accepts. -/
theorem handled_rpdo2 (app : Application ω) (h : s.node.Configured nodeId od) (data : List Byte) :
    handled app (.rxFrame (cobRpdo2Base + nodeId.toNat) (some data)) s = true ↔
      s.node.nmt.state = .operational ∧ 4 ≤ data.length := by
  have hunrecorded : s.unrecorded.node.Configured nodeId od := h
  simp only [handled, canopenRxFrame, rxPayload_rpdo2 app hunrecorded]
  split_ifs with haccepted
  · exact iff_of_true rfl haccepted
  · exact iff_of_false id haccepted

/-- A frame that is not for the server is not reported. -/
theorem reports_nodeStep_others (app : Application ω) (h : s.node.Configured nodeId od)
    {input : NodeInput} (hother : ¬ input.ForSdo nodeId) :
    reports (nodeStep app input s).1 = [] :=
  (nodeStep_enter app s.unrecorded input).reports_eq rfl (h.nodeId_eq ▸ hother)

/-- A frame that is not for the server is reported as it should be exactly if no object
is stored in the variables that it writes. -/
theorem toldOfWrites_iff_of_other (app : Application ω) (h : s.node.Configured nodeId od)
    {cobId : ℕ} {data : Option (List Byte)}
    (hother : ¬ (NodeInput.rxFrame cobId data).ForSdo nodeId) :
    ToldOfWrites app od cobId data s ↔
      ∀ image ∈ rpdoVariables nodeId (.rxFrame cobId data) (handled app (.rxFrame cobId data) s),
        ∀ name, ¬ od.StoredIn name image := by
  simp only [ToldOfWrites, h.nodeId_eq, reports_nodeStep_others app h hother, List.nil_perm]
  exact writtenObjects_eq_nil_iff hother _ _ _

/-- A frame for the server is reported exactly if it is an acknowledged download. -/
theorem reports_nodeStep_sdo (hcallback : app.postWriteCb.isSome)
    (h : s.node.Configured nodeId od) (data : List Byte) :
    reports (nodeStep app (.rxFrame (cobRsdoBase + nodeId.toNat) (some data)) s).1 =
      acceptedWrites nodeId (.rxFrame (cobRsdoBase + nodeId.toNat) (some data))
        (handled app (.rxFrame (cobRsdoBase + nodeId.toNat) (some data)) s)
        (nodeStep app (.rxFrame (cobRsdoBase + nodeId.toNat) (some data)) s).1 := by
  rw [acceptedWrites_sdo]
  by_cases hstopped : s.node.nmt.state = .stopped
  · rw [nodeStep_rsdo_stopped app h hstopped]
    exact (if_neg fun hack => by cases hack.2).symm
  obtain ⟨hcalls, -, -⟩ := nodeStep_rsdo app h hstopped data
  by_cases hlen : data.length = 8
  · have hframes := clientFrames_rsdo app h hstopped hlen
    obtain ⟨-, hstep⟩ := sdoStep_of_length app s.node.sdo
      (⟨s.node.sdo, s.dev⟩ : SdoLine ω).unrecorded.dev hlen
    rw [acknowledged, hframes, hcalls]
    exact hstep.reports_eq hcallback rfl
  · rw [hcalls, sdoLineStep, canopenSdoRxFrame_of_length_ne hlen]
    exact (if_neg fun hack => by cases hack.2).symm

/-- RPDO1 is reported as it should be unless it writes an object of the dictionary. -/
theorem toldOfWrites_rpdo1 (app : Application ω) (h : s.node.Configured nodeId od)
    (data : List Byte) :
    ToldOfWrites app od (cobRpdo1Base + nodeId.toNat) (some data) s ↔
      ¬ (s.node.nmt.state = .operational ∧ 1 ≤ data.length ∧
        ∃ name, od.StoredIn name digitalOutputObject) := by
  have hother : ¬ (NodeInput.rxFrame (cobRpdo1Base + nodeId.toNat) (some data)).ForSdo nodeId := by
    simp only [NodeInput.ForSdo, cobRpdo1Base, cobRsdoBase]
    omega
  rw [toldOfWrites_iff_of_other app h hother, rpdoVariables_rpdo1, ← and_assoc]
  simp only [handled_rpdo1 app h]
  by_cases haccepted : s.node.nmt.state = .operational ∧ 1 ≤ data.length
  · simp [haccepted]
  · simp [haccepted]

/-- RPDO2 is reported as it should be unless it writes an object of the dictionary. -/
theorem toldOfWrites_rpdo2 (app : Application ω) (h : s.node.Configured nodeId od)
    (data : List Byte) :
    ToldOfWrites app od (cobRpdo2Base + nodeId.toNat) (some data) s ↔
      ¬ (s.node.nmt.state = .operational ∧ 4 ≤ data.length ∧
        ∃ name, od.StoredIn name (analogOutputObject 0) ∨
          od.StoredIn name (analogOutputObject 1)) := by
  have hother : ¬ (NodeInput.rxFrame (cobRpdo2Base + nodeId.toNat) (some data)).ForSdo nodeId := by
    simp only [NodeInput.ForSdo, cobRpdo2Base, cobRsdoBase]
    omega
  rw [toldOfWrites_iff_of_other app h hother, rpdoVariables_rpdo2, ← and_assoc]
  simp only [handled_rpdo2 app h]
  by_cases haccepted : s.node.nmt.state = .operational ∧ 4 ≤ data.length
  · simp [haccepted, not_or, forall_and]
  · simp [haccepted]

/-- Frames of the server are reported as they should be. -/
theorem toldOfWrites_sdo (hcallback : app.postWriteCb.isSome) (h : s.node.Configured nodeId od)
    (data : List Byte) : ToldOfWrites app od (cobRsdoBase + nodeId.toNat) (some data) s := by
  have hsdo : (NodeInput.rxFrame (cobRsdoBase + nodeId.toNat) (some data)).ForSdo nodeId := rfl
  simp only [ToldOfWrites, writtenObjects, h.nodeId_eq, if_pos hsdo]
  rw [reports_nodeStep_sdo hcallback h data]

/-- Frames with another identifier write nothing and are not reported. -/
theorem toldOfWrites_other (app : Application ω) (h : s.node.Configured nodeId od) {cobId : ℕ}
    (hrpdo1 : cobId ≠ cobRpdo1Base + nodeId.toNat) (hrpdo2 : cobId ≠ cobRpdo2Base + nodeId.toNat)
    (hsdo : cobId ≠ cobRsdoBase + nodeId.toNat) (data : List Byte) :
    ToldOfWrites app od cobId (some data) s := by
  have hother : ¬ (NodeInput.rxFrame cobId (some data)).ForSdo nodeId := hsdo
  rw [toldOfWrites_iff_of_other app h hother]
  simp [rpdoVariables, hrpdo1, hrpdo2]

end Frame

/-- The callback is told of what a frame writes exactly if the frame is not an
accepted RPDO that writes an object of the dictionary. -/
theorem rxFrame_toldOfWrites_iff (app : Application ω) (hcallback : app.postWriteCb.isSome)
    {s : System ω} {nodeId : Byte} {od : CanopenOd} (h : s.node.Configured nodeId od) (cobId : ℕ)
    (data : Option (List Byte)) :
    ToldOfWrites app od cobId data s ↔
      ∀ bytes, data = some bytes → ¬ WritesByRpdo od s.node cobId bytes := by
  have hid := h.nodeId_eq
  cases data with
  | none =>
      have htold : ToldOfWrites app od cobId none s := by
        simp [ToldOfWrites, writtenObjects, acceptedWrites, rpdoVariables, nodeStep, enter,
          canopenRxFrame, System.unrecorded]
      exact iff_of_true htold fun bytes hnone => by cases hnone
  | some data =>
      have hwrites : (∀ bytes, some data = some bytes → ¬ WritesByRpdo od s.node cobId bytes) ↔
          ¬ WritesByRpdo od s.node cobId data := by
        simp
      rw [hwrites, WritesByRpdo, hid]
      by_cases hrpdo1 : cobId = cobRpdo1Base + nodeId.toNat
      · have hne : cobId ≠ cobRpdo2Base + nodeId.toNat := by
          simp only [cobRpdo1Base, cobRpdo2Base] at hrpdo1 ⊢
          omega
        subst hrpdo1
        rw [toldOfWrites_rpdo1 app h]
        simp only [hne, false_and, or_false, true_and]
      by_cases hrpdo2 : cobId = cobRpdo2Base + nodeId.toNat
      · subst hrpdo2
        rw [toldOfWrites_rpdo2 app h]
        simp only [hrpdo1, false_and, false_or, true_and]
      refine iff_of_true ?_ (by simp [hrpdo1, hrpdo2])
      by_cases hsdo : cobId = cobRsdoBase + nodeId.toNat
      · rw [hsdo]
        exact toldOfWrites_sdo hcallback h data
      · exact toldOfWrites_other app h hrpdo1 hrpdo2 hsdo data

/-- An application with a callback that counts its calls. -/
def countingApplication : Application ℕ where
  txFunc := fun _ n => (0, n)
  appSyncInputs := fun n => (⟨none, fun _ => none⟩, n)
  appSyncOutputs := fun _ n => n
  postWriteCb := some fun _ _ _ n => n + 1

theorem rxFrame_toldOfWrites_iff_download :
    ToldOfWrites countingApplication canopenDefaultOdGet 0x601
        (some [0x2F, 0x00, 0x62, 0x01, 0x33, 0, 0, 0])
        (initialised countingApplication 1 none ⟨bootMem, 0, []⟩) ↔
      ∀ bytes, some [0x2F, 0x00, 0x62, 0x01, 0x33, 0, 0, 0] = some bytes →
        ¬ WritesByRpdo canopenDefaultOdGet
          (initialised countingApplication 1 none ⟨bootMem, 0, []⟩).node 0x601 bytes :=
  rxFrame_toldOfWrites_iff countingApplication rfl
    (configured_initialised
      (show canopenInit countingApplication 1 none ⟨bootMem, 0, []⟩ = some _ from rfl)) 0x601 _

/-- RPDO1 switches the outputs without a word to the callback. -/
theorem not_rxFrame_toldOfWrites :
    ¬ ToldOfWrites countingApplication canopenDefaultOdGet 0x201 (some [0x33])
      (canopenSetNmtState .operational
        (initialised countingApplication 1 none ⟨bootMem, 0, []⟩)) := by
  intro htold
  have hwritten : writtenObjects canopenDefaultOdGet 1 (.rxFrame 0x201 (some [0x33])) true
      (nodeStep countingApplication (.rxFrame 0x201 (some [0x33]))
        (canopenSetNmtState .operational
          (initialised countingApplication 1 none ⟨bootMem, 0, []⟩))).1
      (nodeStep countingApplication (.rxFrame 0x201 (some [0x33]))
        (canopenSetNmtState .operational
          (initialised countingApplication 1 none ⟨bootMem, 0, []⟩))).2.dev.mem =
      [((0x6200, 1), [0x33])] := by
    decide +kernel
  have hcallback := htold.length_eq.trans (congrArg List.length hwritten)
  revert hcallback
  decide

end AutomationBoard.Canopen
