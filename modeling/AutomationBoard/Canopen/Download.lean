/-
# Requests and responses of the SDO server

Every request but a client abort is answered by one frame of eight bytes. A
download that is acknowledged has stored the object's declared number of bytes in
that object and nothing elsewhere, and an upload returns them; one that is
refused has stored nothing and told nobody.
-/

import AutomationBoard.Canopen.SdoClient

namespace AutomationBoard.Canopen

open AutomationBoard.Program

variable {ω : Type} {app : Application ω}

/-- Every object of the dictionary has at least one byte. -/
def CanopenOd.Sized (od : CanopenOd) : Prop :=
  ∀ entry ∈ od.entries, ∀ sub ∈ entry.pSubindex, 1 ≤ sub.size.toNat

instance (od : CanopenOd) : Decidable od.Sized :=
  inferInstanceAs (Decidable (∀ entry ∈ od.entries, ∀ sub ∈ entry.pSubindex, 1 ≤ sub.size.toNat))

/-- What the lookup finds belongs to the dictionary and has a variable. -/
theorem odObject_eq_ok {od : CanopenOd} {index : Word} {bSubindex : Byte} {sub : Subindex}
    {object : Ptr} (h : odObject od index bSubindex = .ok (sub, object)) :
    ∃ entry ∈ od.entries, sub ∈ entry.pSubindex ∧ sub.pObject = some object := by
  unfold odObject at h
  cases hentry : canopenOdFindIndex od index with
  | none => simp [hentry] at h
  | some entry =>
      simp only [hentry] at h
      cases hsub : entry.pSubindex[bSubindex.toNat]? with
      | none => simp [hsub] at h
      | some sub' =>
          simp only [hsub] at h
          cases hobject : sub'.pObject with
          | none => simp [hobject] at h
          | some object' =>
              simp only [hobject, Except.ok.injEq, Prod.mk.injEq] at h
              obtain ⟨rfl, rfl⟩ := h
              exact ⟨entry, List.mem_of_find?_eq_some hentry, List.mem_of_getElem? hsub, hobject⟩

/-- The size of an object that is found. -/
theorem CanopenOd.Sized.one_le {od : CanopenOd} (sized : od.Sized) {index : Word}
    {bSubindex : Byte} {sub : Subindex} {object : Ptr}
    (h : odObject od index bSubindex = .ok (sub, object)) : 1 ≤ sub.size.toNat := by
  obtain ⟨entry, hentry, hsub, -⟩ := odObject_eq_ok h
  exact sized entry hentry sub hsub

/-- The download put the object's bytes in place and left everything else. -/
structure Stored (app : Application ω) (data : List Byte) (line line' : SdoLine ω)
    (sub : Subindex) (object : Ptr) : Prop where
  found : odObject line.server.od (requestIndex data) (requestSubindex data) = .ok (sub, object)
  writable : sub.bAccessType &&& accessWriteMask ≠ 0
  size : (expeditedBytes data).length = sub.size.toNat
  stored : line'.dev.mem.read object sub.size.toNat = expeditedBytes data
  others : ∀ (q : Ptr) (n : ℕ), object.Apart sub.size.toNat q n →
    line'.dev.mem.read q n = line.dev.mem.read q n
  uploaded : ReadAllowed sub.bAccessType → ∀ request : List Byte, request.length = 8 →
    commandSpecifier request = 2 → requestIndex request = requestIndex data →
    requestSubindex request = requestSubindex data →
    ∃ frame, sentFrames (sdoLineStep app request line').1 = [frame] ∧
      readUploadReply frame.data = .expedited (expeditedBytes data)

/-- An upload of a small object returns its bytes. -/
theorem uploaded_small {line : SdoLine ω} {request : List Byte} {sub : Subindex} {object : Ptr}
    (hlen : request.length = 8) (hcs : commandSpecifier request = 2)
    (found : odObject line.server.od (requestIndex request) (requestSubindex request) =
      .ok (sub, object))
    (readable : ReadAllowed sub.bAccessType) (small : sub.size ≤ 4) (hpos : sub.size ≠ 0) :
    ∃ frame, sentFrames (sdoLineStep app request line).1 = [frame] ∧
      readUploadReply frame.data =
        .expedited (line.dev.mem.read object sub.size.toNat) := by
  refine ⟨dataFrame line.server.cobId (expeditedUploadData request sub.size
    (line.dev.mem.read object sub.size.toNat)), ?_, ?_⟩
  · rw [sdoLineStep, canopenSdoRxFrame_upload hlen hcs,
      initiateUpload_expedited found (uploadAllowed_of_readAllowed readable) small]
    rfl
  · rw [dataFrame, readUploadReply_expeditedUploadData request small (by simp), if_neg hpos]

/-- What an acknowledged download has done. -/
theorem stored_of_written {line line' : SdoLine ω} {data : List Byte} {sub : Subindex}
    {object : Ptr} (sized : line.server.od.Sized) (hlen : data.length = 8)
    (found : odObject line.server.od (requestIndex data) (requestSubindex data) =
      .ok (sub, object))
    (writable : sub.bAccessType &&& accessWriteMask ≠ 0)
    (fits : 0 < sub.size.toNat → sub.size.toNat = (expeditedBytes data).length)
    (hserver : line'.server = line.server)
    (hmem : line'.dev.mem = line.dev.mem.write object (expeditedBytes data)) :
    Stored app data line line' sub object := by
  have hsize : sub.size.toNat = (expeditedBytes data).length := fits (sized.one_le found)
  have hread : line'.dev.mem.read object sub.size.toNat = expeditedBytes data := by
    rw [hmem, hsize, Memory.read_write_self]
  refine ⟨found, writable, hsize.symm, hread, ?_, ?_⟩
  · intro q n hapart
    rw [hmem]
    exact Memory.read_write_of_apart (hsize ▸ hapart)
  · intro readable request hlen' hcs hindex hsub
    have hfound : odObject line'.server.od (requestIndex request) (requestSubindex request) =
        .ok (sub, object) := by
      rw [hserver, hindex, hsub, found]
    have hsmall : sub.size ≤ 4 := by
      have := length_expeditedBytes hlen
      show sub.size.toNat ≤ 4
      omega
    have hpos : sub.size ≠ 0 := by
      intro h
      have := sized.one_le found
      rw [h] at this
      cases this
    rw [← hread]
    exact uploaded_small hlen' hcs hfound readable hsmall hpos

/-- One frame answers each request that is not a client abort. An expedited
download is acknowledged when its bytes are stored, and a download that is
refused leaves the variables alone and calls nothing but the transmitter. -/
theorem canopenSdoRxFrame_disciplined (app : Application ω) (line : SdoLine ω)
    (sized : line.server.od.Sized) (data : List Byte) (hlen : data.length = 8)
    (hrequest : dataAt data 0 ≠ 0x80) :
    ∃ frame, sentFrames (sdoLineStep app data line).1 = [frame] ∧
      frame.cobId = 0x580 + line.server.nodeId.toNat ∧ frame.data.length = 8 ∧
      (commandSpecifier data = 1 → expeditedFlag data = 1 → dataAt frame.data 0 = 0x60 →
        ∃ sub object, Stored app data line (sdoLineStep app data line).2 sub object) ∧
      (commandSpecifier data = 1 → dataAt frame.data 0 = 0x80 →
        (sdoLineStep app data line).2.dev.mem = line.dev.mem ∧
          ∀ call ∈ (sdoLineStep app data line).1, ∃ sent ret mem, call = .transmit sent ret mem) := by
  obtain ⟨-, hstep⟩ := sdoStep_of_length app line.server line.unrecorded.dev hlen
  simp only [sdoLineStep]
  generalize (canopenSdoRxFrame app line.server data line.unrecorded.dev).2.1 = server at hstep ⊢
  generalize (canopenSdoRxFrame app line.server data line.unrecorded.dev).2.2 = dev at hstep ⊢
  cases hstep with
  | cancel hfirst => exact absurd hfirst hrequest
  | refuse index bSubindex e =>
      refine ⟨_, rfl, rfl, rfl, fun _ _ h => ?_, fun _ _ => ⟨rfl, fun call hcall => ?_⟩⟩
      · cases h
      · exact ⟨_, _, _, List.mem_singleton.mp hcall⟩
  | store hdown hexp sub object found writable fits =>
      refine ⟨dataFrame line.server.cobId (downloadData data), ?_, rfl, rfl, ?_, ?_⟩
      · simp [SdoLine.unrecorded]
      · intro _ _ _
        exact ⟨sub, object, stored_of_written sized hlen found writable fits rfl (by
          simp [SdoLine.unrecorded])⟩
      · intro _ h
        cases h
  | expedite hup sub object found readable small =>
      refine ⟨_, rfl, rfl, ?_, fun h => ?_, fun h => ?_⟩
      · simp only [dataFrame, expeditedUploadData, List.length_append, List.length_cons, objectName,
          List.length_nil]
        rw [length_padded (by rw [Memory.length_read]; exact small)]
      · rw [hup] at h
        cases h
      · rw [hup] at h
        cases h
  | start hcs | mismatch hcs =>
      refine ⟨_, rfl, rfl, rfl, fun h => ?_, fun h => ?_⟩
      · rw [hcs] at h
        cases h
      · rw [hcs] at h
        cases h
  | segment hseg =>
      refine ⟨_, rfl, rfl, ?_, fun h => ?_, fun h => ?_⟩
      · rw [dataFrame, segmentData, List.length_cons,
          length_padded (line.server.length_segmentBytes_le _)]
      · rw [hseg] at h
        cases h
      · rw [hseg] at h
        cases h

theorem canopenSdoRxFrame_disciplined_writeOutputs :
    ∃ frame, sentFrames (sdoLineStep weakApplication [0x2F, 0x00, 0x62, 0x01, 0x5A, 0, 0, 0]
        ⟨canopenSdoInit 1 canopenDefaultOdGet, ⟨bootMem, (), []⟩⟩).1 = [frame] ∧
      frame.cobId = 0x581 := by
  obtain ⟨frame, hsent, hid, -⟩ := canopenSdoRxFrame_disciplined weakApplication
    ⟨canopenSdoInit 1 canopenDefaultOdGet, ⟨bootMem, (), []⟩⟩ (by decide)
    [0x2F, 0x00, 0x62, 0x01, 0x5A, 0, 0, 0] rfl (by decide)
  exact ⟨frame, hsent, hid⟩

end AutomationBoard.Canopen
