/-
# What reaches the image

An accepted RPDO, an accepted download and a refresh of the inputs are all that
changes the variables of the image. With a dictionary that shares these
variables, each leaves in the objects what the observer has written down, so an
upload returns it in every state of a run.
-/

import AutomationBoard.Canopen.ProcessImage

namespace AutomationBoard.Canopen

open AutomationBoard.Modbus (hiByte_word loByte_word)
open AutomationBoard.Program

variable {ω : Type} {app : Application ω}

/-! ## One call -/

section Call

variable {s : System ω} {nodeId : Byte} {od : CanopenOd}

theorem rxPayload_rpdo (app : Application ω) (h : s.node.Configured nodeId od) {cobId : ℕ}
    (hcob : cobId = cobRpdo1Base + nodeId.toNat ∨ cobId = cobRpdo2Base + nodeId.toNat)
    (data : List Byte) :
    rxPayload app cobId data s =
      ((canopenPdoRxRpdo app s.node.pdo cobId data s.node.isOperational s.dev).1,
        { s with dev :=
          (canopenPdoRxRpdo app s.node.pdo cobId data s.node.isOperational s.dev).2 }) := by
  have hlow := h.low
  have hhigh := h.high
  have hnmt : cobId ≠ cobNmt := by
    simp only [cobRpdo1Base, cobRpdo2Base, cobNmt] at hcob ⊢
    omega
  have hsync : cobId ≠ cobSync := by
    simp only [cobRpdo1Base, cobRpdo2Base, cobSync] at hcob ⊢
    omega
  have hsdo : cobId ≠ s.node.rsdoCobId := by
    rw [h.rsdoCobId_eq]
    simp only [cobRpdo1Base, cobRpdo2Base, cobRsdoBase] at hcob ⊢
    omega
  have hrpdo : cobId = s.node.rpdo1CobId ∨ cobId = s.node.rpdo2CobId := by
    rwa [CanopenNode.rpdo1CobId, CanopenNode.rpdo2CobId, h.nodeId_eq]
  rw [rxPayload, if_neg hnmt, if_neg hsync, if_neg hsdo, if_pos hrpdo]

theorem pdo_nodeId_eq (h : s.node.Configured nodeId od) : s.node.pdo.nodeId = nodeId :=
  congrArg PdoConfig.nodeId h.pdo_config

theorem pdo_vars_eq (h : s.node.Configured nodeId od) :
    s.node.pdo.vars = canopenDefaultOdGetVars := congrArg PdoConfig.vars h.pdo_config

/-- RPDO1 is accepted in the operational state with at least a byte, which is stored. -/
theorem rxPayload_rpdo1 (app : Application ω) (h : s.node.Configured nodeId od)
    (data : List Byte) :
    rxPayload app (cobRpdo1Base + nodeId.toNat) data s =
      if s.node.nmt.state = .operational ∧ 1 ≤ data.length then
        (true, { s with dev := (storeRpdo1 s.node.pdo data s.dev).syncOutputs app })
      else (false, s) := by
  have hnot : ¬ cobRpdo1Base + nodeId.toNat = cobRpdo2Base + nodeId.toNat := by
    simp only [cobRpdo1Base, cobRpdo2Base]
    omega
  rw [rxPayload_rpdo app h (.inl rfl)]
  simp only [← CanopenNode.isOperational_eq_true, canopenPdoRxRpdo, pdo_nodeId_eq h, hnot, false_and,
    if_false, true_and]
  cases s.node.isOperational with
  | false => simp
  | true => by_cases hlen : 1 ≤ data.length <;> simp [hlen, storeRpdo1]

/-- RPDO2 is accepted in the operational state with at least four bytes, which are stored. -/
theorem rxPayload_rpdo2 (app : Application ω) (h : s.node.Configured nodeId od)
    (data : List Byte) :
    rxPayload app (cobRpdo2Base + nodeId.toNat) data s =
      if s.node.nmt.state = .operational ∧ 4 ≤ data.length then
        (true, { s with dev := (storeRpdo2 s.node.pdo data s.dev).syncOutputs app })
      else (false, s) := by
  have hnot : ¬ cobRpdo2Base + nodeId.toNat = cobRpdo1Base + nodeId.toNat := by
    simp only [cobRpdo1Base, cobRpdo2Base]
    omega
  rw [rxPayload_rpdo app h (.inr rfl)]
  simp only [← CanopenNode.isOperational_eq_true, canopenPdoRxRpdo, pdo_nodeId_eq h, hnot, false_and,
    if_false, true_and]
  cases s.node.isOperational with
  | false => simp
  | true => by_cases hlen : 4 ≤ data.length <;> simp [hlen, storeRpdo2]

/-- RPDO1 is accepted with at least a byte, which is stored, or nothing changes. -/
theorem nodeStep_rpdo1 (app : Application ω) (h : s.node.Configured nodeId od) (data : List Byte) :
    (handled app (.rxFrame (cobRpdo1Base + nodeId.toNat) (some data)) s = true ∧
      1 ≤ data.length ∧
      (nodeStep app (.rxFrame (cobRpdo1Base + nodeId.toNat) (some data)) s).2.dev.mem =
        s.dev.mem.write Variable.obj6200DoState.addr [dataAt data 0]) ∨
    (handled app (.rxFrame (cobRpdo1Base + nodeId.toNat) (some data)) s = false ∧
      (nodeStep app (.rxFrame (cobRpdo1Base + nodeId.toNat) (some data)) s).2.dev.mem =
        s.dev.mem) := by
  have hunrecorded : s.unrecorded.node.Configured nodeId od := h
  simp only [handled, nodeStep, enter, canopenRxFrame, rxPayload_rpdo1 app hunrecorded]
  split_ifs with haccepted
  · refine .inl ⟨rfl, haccepted.2, ?_⟩
    simp only [storeRpdo1, System.unrecorded, pdo_vars_eq h]
    rfl
  · exact .inr ⟨rfl, rfl⟩

/-- RPDO2 is accepted with at least four bytes, which are stored, or nothing changes. -/
theorem nodeStep_rpdo2 (app : Application ω) (h : s.node.Configured nodeId od) (data : List Byte) :
    (handled app (.rxFrame (cobRpdo2Base + nodeId.toNat) (some data)) s = true ∧
      4 ≤ data.length ∧
      (nodeStep app (.rxFrame (cobRpdo2Base + nodeId.toNat) (some data)) s).2.dev.mem =
        (s.dev.mem.write (analogOutputObject 0).pVariable [dataAt data 0, dataAt data 1]).write
          (analogOutputObject 1).pVariable [dataAt data 2, dataAt data 3]) ∨
    (handled app (.rxFrame (cobRpdo2Base + nodeId.toNat) (some data)) s = false ∧
      (nodeStep app (.rxFrame (cobRpdo2Base + nodeId.toNat) (some data)) s).2.dev.mem =
        s.dev.mem) := by
  have hunrecorded : s.unrecorded.node.Configured nodeId od := h
  simp only [handled, nodeStep, enter, canopenRxFrame, rxPayload_rpdo2 app hunrecorded]
  split_ifs with haccepted
  · refine .inl ⟨rfl, haccepted.2, ?_⟩
    simp only [storeRpdo2, System.unrecorded, pdo_vars_eq h, wordBytes, loByte_word, hiByte_word]
    rfl
  · exact .inr ⟨rfl, rfl⟩

/-- The length of an acknowledged download. -/
theorem fits_expeditedBytes {data : List Byte} (hlen : data.length = 8) {size : Long}
    (fits : 0 < size.toNat → size.toNat = (expeditedBytes data).length) :
    Fits size (expeditedBytes data).length := by
  obtain ⟨hbytes, hsize⟩ := length_expeditedBytes hlen
  have hcount : (dataAt data 0 >>> 2 &&& 0x03).toNat ≤ 3 := by
    rw [BitVec.toNat_and]
    exact Nat.and_le_right
  have hpos : 1 ≤ expeditedSize data := by
    simp only [expeditedSize]
    split_ifs
    · omega
    · decide
  exact ⟨hbytes ▸ hpos, hbytes ▸ hsize, fits⟩

/-- An SDO frame is an acknowledged download that is stored, or nothing changes. -/
theorem nodeStep_sdoFrame (app : Application ω) (h : s.node.Configured nodeId od)
    (data : List Byte) :
    (commandSpecifier data = 1 ∧ acknowledged nodeId
          (nodeStep app (.rxFrame (cobRsdoBase + nodeId.toNat) (some data)) s).1 = true ∧
        ∃ sub object, odObject od (requestIndex data) (requestSubindex data) = .ok (sub, object) ∧
          sub.bAccessType &&& accessWriteMask ≠ 0 ∧ Fits sub.size (expeditedBytes data).length ∧
          (nodeStep app (.rxFrame (cobRsdoBase + nodeId.toNat) (some data)) s).2.dev.mem =
            s.dev.mem.write object (expeditedBytes data)) ∨
    (¬ (commandSpecifier data = 1 ∧ acknowledged nodeId
          (nodeStep app (.rxFrame (cobRsdoBase + nodeId.toNat) (some data)) s).1 = true) ∧
      (nodeStep app (.rxFrame (cobRsdoBase + nodeId.toNat) (some data)) s).2.dev.mem =
        s.dev.mem) := by
  by_cases hstopped : s.node.nmt.state = .stopped
  · rw [nodeStep_rsdo_stopped app h hstopped]
    exact .inr ⟨(fun hack => by cases hack.2), rfl⟩
  obtain ⟨hcalls, -, hdev⟩ := nodeStep_rsdo app h hstopped data
  by_cases hlen : data.length = 8
  swap
  · rw [hcalls, hdev, sdoLineStep, canopenSdoRxFrame_of_length_ne hlen]
    exact .inr ⟨(fun hack => by cases hack.2), rfl⟩
  have hframes := clientFrames_rsdo app h hstopped hlen
  obtain ⟨-, hstep⟩ := sdoStep_of_length app s.node.sdo
    (⟨s.node.sdo, s.dev⟩ : SdoLine ω).unrecorded.dev hlen
  have hod := h.sdoOd_eq
  rw [acknowledged, hframes, hdev]
  simp only [sdoLineStep]
  generalize (canopenSdoRxFrame app s.node.sdo data
    (⟨s.node.sdo, s.dev⟩ : SdoLine ω).unrecorded.dev).2.1 = server at hstep ⊢
  generalize (canopenSdoRxFrame app s.node.sdo data
    (⟨s.node.sdo, s.dev⟩ : SdoLine ω).unrecorded.dev).2.2 = dev at hstep ⊢
  cases hstep with
  | cancel | refuse => exact .inr ⟨(fun hack => by cases hack.2), rfl⟩
  | store hdown hexp sub object found writable fits =>
      rw [hod] at found
      refine .inl ⟨hdown, ?_, sub, object, found, writable, fits_expeditedBytes hlen fits, ?_⟩
      · simp only [Device.calls_send, Device.calls_written, sentFrames_append,
          Device.sentFrames_writeCalls, sentFrames_transmit, SdoLine.unrecorded,
          List.nil_append]
        rfl
      · simp [SdoLine.unrecorded]
  | expedite hcs | start hcs | mismatch hcs | segment hcs =>
      refine .inr ⟨fun hack => ?_, rfl⟩
      rw [hcs] at hack
      cases hack.1

end Call

/-! ## What a call leaves in the outputs -/

/-- The bytes of an object of the image are those of its variable. -/
theorem objectBytes_image {od : CanopenOd} (hholds : od.HoldsImage) (hshares : od.SharesImage)
    {image : ImageObject} (himage : image ∈ imageObjects) (mem : Mem) :
    objectBytes od mem image.name = mem.read image.pVariable image.size.toNat := by
  obtain ⟨sub, object, found, -, hsize, -⟩ := hholds image himage
  rw [objectBytes_of_found found, hsize, hshares.storage image himage sub object found]

/-- The outputs hold what was written, the others what they held. -/
def Explains (od : CanopenOd) (writes : List ((Word × Byte) × List Byte)) (mem mem' : Mem) :
    Prop :=
  ∀ image ∈ outputImage, objectBytes od mem' image.name =
    (writes.lookup image.name).getD (objectBytes od mem image.name)

theorem lookup_singleton_of_ne {name name' : Word × Byte} (h : name' ≠ name) (bytes : List Byte) :
    [(name, bytes)].lookup name' = none := by
  rw [List.lookup_cons, beq_false_of_ne h, List.lookup_nil]

theorem Explains.refl (od : CanopenOd) (mem : Mem) : Explains od [] mem mem := fun _ _ => rfl

theorem mem_imageObjects_of_output {image : ImageObject} (h : image ∈ outputImage) :
    image ∈ imageObjects := List.mem_append_right _ h

/-- Objects of the outputs with different names are different variables. -/
theorem outputImage_apart : ∀ image ∈ outputImage, ∀ image' ∈ outputImage,
    image'.name ≠ image.name →
    image'.pVariable.Apart image'.size.toNat image.pVariable image.size.toNat := by
  decide

theorem outputImage_names : outputImage.map ImageObject.name = outputObjects := rfl

section Outputs

variable {od : CanopenOd} (hholds : od.HoldsImage) (hshares : od.SharesImage)
include hholds hshares

theorem explains_rpdo1 (mem : Mem) {data : List Byte} (hlen : 1 ≤ data.length) :
    Explains od [((0x6200, 1), data.take 1)] mem
      (mem.write Variable.obj6200DoState.addr [dataAt data 0]) := by
  have htake : data.take 1 = [dataAt data 0] := by
    match data, hlen with
    | b :: data, _ => rfl
  rw [htake]
  simp only [Explains, outputImage, List.forall_mem_cons]
  refine ⟨?_, ?_, ?_, fun _ h => absurd h List.not_mem_nil⟩
  · rw [objectBytes_image hholds hshares (by decide)]
    exact Memory.read_write_self mem Variable.obj6200DoState.addr [dataAt data 0]
  · rw [objectBytes_image hholds hshares (by decide), objectBytes_image hholds hshares (by decide)]
    exact Memory.read_write_of_block_ne (by decide)
  · rw [objectBytes_image hholds hshares (by decide), objectBytes_image hholds hshares (by decide)]
    exact Memory.read_write_of_block_ne (by decide)

theorem explains_rpdo2 (mem : Mem) {data : List Byte} (hlen : 4 ≤ data.length) :
    Explains od [((0x6411, 1), data.take 2), ((0x6411, 2), (data.drop 2).take 2)] mem
      ((mem.write (analogOutputObject 0).pVariable [dataAt data 0, dataAt data 1]).write
        (analogOutputObject 1).pVariable [dataAt data 2, dataAt data 3]) := by
  have htake : data.take 2 = [dataAt data 0, dataAt data 1] ∧
      (data.drop 2).take 2 = [dataAt data 2, dataAt data 3] := by
    match data, hlen with
    | b0 :: b1 :: b2 :: b3 :: data, _ => exact ⟨rfl, rfl⟩
  rw [htake.1, htake.2]
  simp only [Explains, outputImage, List.forall_mem_cons]
  refine ⟨?_, ?_, ?_, fun _ h => absurd h List.not_mem_nil⟩
  · rw [objectBytes_image hholds hshares (by decide), objectBytes_image hholds hshares (by decide)]
    exact (Memory.read_write_of_block_ne (by decide)).trans
      (Memory.read_write_of_block_ne (by decide))
  · have hapart : (analogOutputObject 1).pVariable.Apart 2 (analogOutputObject 0).pVariable 2 := by
      decide
    rw [objectBytes_image hholds hshares (by decide)]
    exact (Memory.read_write_of_apart hapart).trans
      (Memory.read_write_self mem (analogOutputObject 0).pVariable _)
  · rw [objectBytes_image hholds hshares (by decide)]
    exact Memory.read_write_self _ (analogOutputObject 1).pVariable [dataAt data 2, dataAt data 3]

/-- An accepted download changes the output it names, or none. -/
theorem explains_download (mem : Mem) {name : Word × Byte} {bytes : List Byte} {sub : Subindex}
    {object : Ptr} (found : odObject od name.1 name.2 = .ok (sub, object))
    (writable : sub.bAccessType &&& accessWriteMask ≠ 0) (fits : Fits sub.size bytes.length) :
    Explains od [(name, bytes)] mem (mem.write object bytes) := by
  intro image himage
  have hmem := mem_imageObjects_of_output himage
  rw [objectBytes_image hholds hshares hmem, objectBytes_image hholds hshares hmem]
  by_cases hname : image.name = name
  · obtain ⟨sub', object', found', -, hsize, -⟩ := hholds image hmem
    have hobject := hshares.storage image hmem sub' object' found'
    rw [hname, found] at found'
    obtain ⟨rfl, rfl⟩ := Prod.mk.inj (Except.ok.inj found')
    have hpos : ∀ image ∈ imageObjects, 0 < image.size.toNat := by decide
    have hlength : sub.size.toNat = bytes.length := fits.2.2 (hsize ▸ hpos image hmem)
    rw [← hname, List.lookup_cons_self, Option.getD_some, hobject, ← hsize]
    exact Memory.read_write_of_length _ _ hlength.symm
  · rw [lookup_singleton_of_ne hname, Option.getD_none]
    apply Memory.read_write_of_apart
    by_cases hout : name ∈ outputObjects
    · rw [← outputImage_names] at hout
      obtain ⟨image', himage', rfl⟩ := List.mem_map.mp hout
      have hmem' := mem_imageObjects_of_output himage'
      obtain ⟨sub', object', found', -, hsize, -⟩ := hholds image' hmem'
      have hobject := hshares.storage image' hmem' sub' object' found'
      rw [found] at found'
      obtain ⟨rfl, rfl⟩ := Prod.mk.inj (Except.ok.inj found')
      have hpos : ∀ image ∈ imageObjects, 0 < image.size.toNat := by decide
      have hlength : sub.size.toNat = bytes.length := fits.2.2 (hsize ▸ hpos image' hmem')
      rw [hobject, ← hlength, hsize]
      exact outputImage_apart image himage image' himage' (Ne.symm hname)
    · exact hshares.unaliased name.1 name.2 sub object found writable hout _ fits image himage

theorem explains_inputs {mem mem' : Mem} (same : SameOutsideInputs mem mem') :
    Explains od [] mem mem' := by
  intro image himage
  have hmem := mem_imageObjects_of_output himage
  have hblock : ∀ image ∈ outputImage, image.pVariable.block ≠ .obj6000DiState ∧
      image.pVariable.block ≠ .obj6401Ai := by decide
  obtain ⟨hdi, hai⟩ := hblock image himage
  rw [objectBytes_image hholds hshares hmem, same.read_eq hdi hai,
    ← objectBytes_image hholds hshares hmem]
  rfl

/-- What a call leaves in the outputs is what was accepted. -/
theorem explains_nodeStep (app : Application ω) {s : System ω} {nodeId : Byte}
    (h : s.node.Configured nodeId od) (input : NodeInput) :
    Explains od (acceptedWrites nodeId input (handled app input s) (nodeStep app input s).1)
      s.dev.mem (nodeStep app input s).2.dev.mem := by
  by_cases hrpdo1 : ∃ data, input = .rxFrame (cobRpdo1Base + nodeId.toNat) (some data)
  · obtain ⟨data, rfl⟩ := hrpdo1
    rw [acceptedWrites_rpdo1]
    rcases nodeStep_rpdo1 app h data with ⟨hhandled, hlen, hmem⟩ | ⟨hhandled, hmem⟩
    · rw [hhandled, hmem]
      exact explains_rpdo1 hholds hshares s.dev.mem hlen
    · rw [hhandled, hmem]
      exact .refl od s.dev.mem
  by_cases hrpdo2 : ∃ data, input = .rxFrame (cobRpdo2Base + nodeId.toNat) (some data)
  · obtain ⟨data, rfl⟩ := hrpdo2
    rw [acceptedWrites_rpdo2]
    rcases nodeStep_rpdo2 app h data with ⟨hhandled, hlen, hmem⟩ | ⟨hhandled, hmem⟩
    · rw [hhandled, hmem]
      exact explains_rpdo2 hholds hshares s.dev.mem hlen
    · rw [hhandled, hmem]
      exact .refl od s.dev.mem
  by_cases hsdo : ∃ data, input = .rxFrame (cobRsdoBase + nodeId.toNat) (some data)
  · obtain ⟨data, rfl⟩ := hsdo
    rw [acceptedWrites_sdo]
    rcases nodeStep_sdoFrame app h data with
      ⟨hdown, hack, sub, object, found, writable, fits, hmem⟩ | ⟨hnot, hmem⟩
    · rw [if_pos ⟨hdown, hack⟩, hmem]
      exact explains_download hholds hshares s.dev.mem (requestName_found found) writable fits
    · rw [if_neg hnot, hmem]
      exact .refl od s.dev.mem
  rw [acceptedWrites_other hrpdo1 hrpdo2 hsdo]
  have hwrite := nodeStep_write app input h
  generalize (nodeStep app input s).2.dev.mem = mem at hwrite
  cases hwrite with
  | inputs _ _ same => exact explains_inputs hholds hshares same
  | download data => exact absurd ⟨data, rfl⟩ hsdo
  | rpdo1 data => exact absurd ⟨data, rfl⟩ hrpdo1
  | rpdo2 data => exact absurd ⟨data, rfl⟩ hrpdo2

end Outputs

/-! ## What a call transmits -/

section Frames

variable {s : System ω} {nodeId : Byte} {od : CanopenOd}

/-- A frame on the identifier of a TPDO has the payload of that moment. -/
theorem tpdo_payload (app : Application ω) (h : s.node.Configured nodeId od) (input : NodeInput)
    {frame : CanopenFrame} {ret : ℤ} {mem : Mem}
    (hcall : .transmit frame ret mem ∈ (nodeStep app input s).1) :
    (frame.cobId = cobTpdo1Base + nodeId.toNat →
        frame.data = tpdo1Data canopenDefaultOdGetVars mem) ∧
      (frame.cobId = cobTpdo2Base + nodeId.toNat →
        frame.data = tpdo2Data canopenDefaultOdGetVars mem) := by
  have hhigh := h.high
  have hheartbeat : s.node.nmt.nodeId = nodeId := h.nmtNodeId_eq.trans h.nodeId_eq
  have hsdo : s.node.sdo.cobId = cobTsdoBase + nodeId.toNat := by
    rw [SdoServer.cobId, h.sdoNodeId_eq]
  have hpdo : frame.cobId = cobTpdo1Base + nodeId.toNat ∨
      frame.cobId = cobTpdo2Base + nodeId.toNat →
      IsPdoCall s.node.pdo.config (.transmit frame ret mem) := by
    intro hcob
    simp only [cobTpdo1Base, cobTpdo2Base] at hcob
    apply (nodeStep_enter app s.unrecorded input).isPdoCall rfl hcall
    · rw [System.unrecorded, hheartbeat, cobHeartbeatBase]
      omega
    · rw [System.unrecorded, hsdo, cobTsdoBase]
      omega
  rw [h.pdo_config] at hpdo
  simp only [cobTpdo1Base, cobTpdo2Base] at hpdo ⊢
  constructor
  · intro hcob
    cases hpdo (.inl hcob) with
    | tpdo1 => rfl
    | tpdo2 =>
        simp only [dataFrame, tpdoConfig] at hcob
        omega
  · intro hcob
    cases hpdo (.inr hcob) with
    | tpdo1 =>
        simp only [dataFrame, tpdoConfig] at hcob
        omega
    | tpdo2 => rfl

end Frames

/-! ## Runs -/

/-- The node is set up, and its outputs hold what was written last. -/
structure Imaging (nodeId : Byte) (od : CanopenOd) (s : Imaged ω) : Prop where
  configured : s.system.node.Configured nodeId od
  outputs : ∀ image ∈ outputImage, ∀ bytes, s.written image.name = some bytes →
    objectBytes od s.system.dev.mem image.name = bytes

section Step

variable {od : CanopenOd} (hholds : od.HoldsImage) (hshares : od.SharesImage)
include hholds hshares

/-- An upload returns the variable of the object. -/
theorem uploadedValue_image {image : ImageObject} (himage : image ∈ imageObjects) (mem : Mem) :
    uploadedValue od mem image.name = some (.ok (mem.read image.pVariable image.size.toNat)) := by
  rw [uploadedValue_eq himage (hholds image himage), objectBytes_image hholds hshares himage]

theorem imaging_imagedStep (app : Application ω) {s : Imaged ω} {nodeId : Byte}
    (h : Imaging nodeId od s) (input : NodeInput) :
    Imaging nodeId od (imagedStep app input s).2 := by
  have hexplains := explains_nodeStep hholds hshares app h.configured input
  refine ⟨h.configured.of_config_eq (config_nodeStep app input s.system), ?_⟩
  intro image himage bytes hwritten
  simp only [imagedStep, h.configured.nodeId_eq] at hwritten ⊢
  rw [hexplains image himage]
  generalize hlookup : (acceptedWrites nodeId input (handled app input s.system)
    (nodeStep app input s.system).1).lookup image.name = written at hwritten ⊢
  cases written with
  | none => exact h.outputs image himage bytes hwritten
  | some bytes' => exact Option.some.inj hwritten

theorem imageKept_imagedStep (app : Application ω) {s : Imaged ω} {nodeId : Byte}
    (h : Imaging nodeId od s) (input : NodeInput) :
    ImageKept s input (imagedStep app input s).1 (imagedStep app input s).2 := by
  have hafter := imaging_imagedStep hholds hshares app h input
  refine ⟨?_, ?_, ?_⟩
  · intro frame ret mem hcall hcob
    rw [h.configured.nodeId_eq] at hcob
    rw [h.configured.od_eq, (tpdo_payload app h.configured input hcall).1 hcob]
    exact uploadedValue_image hholds hshares (show digitalInputObject ∈ imageObjects by decide) mem
  · intro frame ret mem hcall hcob i hi
    rw [h.configured.nodeId_eq] at hcob
    rw [h.configured.od_eq, (tpdo_payload app h.configured input hcall).2 hcob,
      tpdo2Data_channel mem hi]
    have himage : analogInputObject i ∈ imageObjects :=
      List.mem_cons_of_mem _ (List.mem_append_left _ (List.mem_map_of_mem (List.mem_range.mpr hi)))
    exact uploadedValue_image hholds hshares himage mem
  · intro name hname bytes hwritten
    rw [← outputImage_names] at hname
    obtain ⟨image, himage, rfl⟩ := List.mem_map.mp hname
    have hmem := mem_imageObjects_of_output himage
    rw [hafter.configured.od_eq, uploadedValue_eq hmem (hholds image hmem),
      hafter.outputs image himage bytes hwritten]

end Step

/-- A dictionary that shares the variables has one image with the PDO engine. -/
theorem hasOneImage_of_sharesImage {od : Option CanopenOd}
    (hholds : (od.getD canopenDefaultOdGet).HoldsImage)
    (hshares : (od.getD canopenDefaultOdGet).SharesImage) : HasOneImage od := by
  intro ω app nodeId dev s hinit inputs
  apply everyStep_of_invariant (I := Imaging nodeId (od.getD canopenDefaultOdGet))
  · intro s input h
    exact yields_total.mpr ⟨imaging_imagedStep hholds hshares app h input,
      imageKept_imagedStep hholds hshares app h input⟩
  · exact ⟨configured_initialised hinit, fun _ _ _ h => by cases h⟩

end AutomationBoard.Canopen
