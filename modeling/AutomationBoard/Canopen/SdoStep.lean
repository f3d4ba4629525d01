/-
# What a frame does to the SDO server

Every frame of eight bytes takes one of seven ways through the server. `SdoStep`
lists them with the state and the device each leaves and the facts the server
has checked on it, so the properties of the server are proved by these cases and
never by unfolding the server.
-/

import AutomationBoard.Canopen.Sdo

namespace AutomationBoard.Canopen

open AutomationBoard.Program

variable {ω : Type} {app : Application ω}

/-! ## Calls of the application -/

@[simp]
theorem sentFrames_nil : sentFrames [] = [] := rfl

@[simp]
theorem sentFrames_append (calls calls' : List AppCall) :
    sentFrames (calls ++ calls') = sentFrames calls ++ sentFrames calls' :=
  List.filterMap_append

@[simp]
theorem sentFrames_transmit (frame : CanopenFrame) (ret : ℤ) (mem : Mem) :
    sentFrames [.transmit frame ret mem] = [frame] := rfl

@[simp]
theorem sentFrames_syncInputs : sentFrames [.syncInputs] = [] := rfl

@[simp]
theorem sentFrames_syncOutputs : sentFrames [.syncOutputs] = [] := rfl

namespace Device

@[simp]
theorem mem_send (frame : CanopenFrame) (dev : Device ω) :
    (dev.send app frame).mem = dev.mem := rfl

@[simp]
theorem calls_send (frame : CanopenFrame) (dev : Device ω) :
    (dev.send app frame).calls =
      dev.calls ++ [.transmit frame (app.txFunc frame dev.world).1 dev.mem] := rfl

/-- The call of the post-write callback, if one is registered. -/
def notifyCalls (app : Application ω) (index : Word) (bSubindex : Byte) (src : List Byte) :
    List AppCall :=
  match app.postWriteCb with
  | none => []
  | some _ => [.postWrite index bSubindex src]

@[simp]
theorem mem_notifyWrite (index : Word) (bSubindex : Byte) (src : List Byte) (dev : Device ω) :
    (dev.notifyWrite app index bSubindex src).mem = dev.mem := by
  unfold notifyWrite
  cases app.postWriteCb <;> rfl

@[simp]
theorem calls_notifyWrite (index : Word) (bSubindex : Byte) (src : List Byte) (dev : Device ω) :
    (dev.notifyWrite app index bSubindex src).calls =
      dev.calls ++ notifyCalls app index bSubindex src := by
  unfold notifyWrite notifyCalls
  cases app.postWriteCb with
  | none => exact (List.append_nil _).symm
  | some cb => rfl

/-- The calls that a write of an object ends with. -/
def writeCalls (app : Application ω) (index : Word) (bSubindex : Byte) (src : List Byte) :
    List AppCall :=
  notifyCalls app index bSubindex src ++
    if index = 0x6200 ∨ index = 0x6411 then [.syncOutputs] else []

@[simp]
theorem mem_written (index : Word) (bSubindex : Byte) (src : List Byte) (object : Ptr)
    (dev : Device ω) :
    (dev.written app index bSubindex src object).mem = dev.mem.write object src := by
  unfold written
  split_ifs
  · exact mem_notifyWrite index bSubindex src (dev.store object src)
  · exact mem_notifyWrite index bSubindex src (dev.store object src)

@[simp]
theorem calls_written (index : Word) (bSubindex : Byte) (src : List Byte) (object : Ptr)
    (dev : Device ω) :
    (dev.written app index bSubindex src object).calls =
      dev.calls ++ writeCalls app index bSubindex src := by
  have hnotify : ((dev.store object src).notifyWrite app index bSubindex src).calls =
      dev.calls ++ notifyCalls app index bSubindex src := calls_notifyWrite _ _ _ _
  unfold written writeCalls
  split_ifs
  · rw [← List.append_assoc, ← hnotify]
    rfl
  · rw [List.append_nil, ← hnotify]

@[simp]
theorem sentFrames_writeCalls (index : Word) (bSubindex : Byte) (src : List Byte) :
    sentFrames (writeCalls app index bSubindex src) = [] := by
  unfold writeCalls notifyCalls
  cases app.postWriteCb with
  | none => split_ifs <;> rfl
  | some cb => split_ifs <;> rfl

end Device

/-! ## The ways through the server -/

/-- The request starts a segmented upload. -/
def StartsSegmented (od : CanopenOd) (data : List Byte) : Prop :=
  commandSpecifier data = 2 ∧
    match odObject od (requestIndex data) (requestSubindex data) with
    | .error _ => False
    | .ok (sub, _) => UploadAllowed sub.bAccessType ∧ ¬ sub.size ≤ 4

instance (od : CanopenOd) (data : List Byte) : Decidable (StartsSegmented od data) :=
  haveI : Decidable (match odObject od (requestIndex data) (requestSubindex data) with
    | .error _ => False
    | .ok (sub, _) => UploadAllowed sub.bAccessType ∧ ¬ sub.size ≤ 4) := by
      split <;> infer_instance
  inferInstanceAs (Decidable (_ ∧ _))

variable (app) in
/-- What a frame of eight bytes leaves: the server and the device. -/
inductive SdoStep (sdo : SdoServer) (data : List Byte) (dev : Device ω) :
    SdoServer → Device ω → Prop
  | cancel (first : dataAt data 0 = 0x80) : SdoStep sdo data dev sdo.cancelled dev
  | refuse (index : Word) (bSubindex : Byte) (e : SdoAbort) (first : dataAt data 0 ≠ 0x80)
      (idle : commandSpecifier data = 3 → sdo.segActive = false)
      (starts : ¬ StartsSegmented sdo.od data) :
      SdoStep sdo data dev sdo (canopenSdoSendAbort app sdo index bSubindex e dev)
  | store (download : commandSpecifier data = 1) (expedited : expeditedFlag data = 1)
      (sub : Subindex) (object : Ptr)
      (found : odObject sdo.od (requestIndex data) (requestSubindex data) = .ok (sub, object))
      (writable : sub.bAccessType &&& accessWriteMask ≠ 0)
      (fits : 0 < sub.size.toNat → sub.size.toNat = (expeditedBytes data).length) :
      SdoStep sdo data dev sdo
        ((dev.written app (requestIndex data) (requestSubindex data) (expeditedBytes data)
          object).send app (dataFrame sdo.cobId (downloadData data)))
  | expedite (upload : commandSpecifier data = 2) (sub : Subindex) (object : Ptr)
      (found : odObject sdo.od (requestIndex data) (requestSubindex data) = .ok (sub, object))
      (readable : UploadAllowed sub.bAccessType) (small : sub.size ≤ 4) :
      SdoStep sdo data dev sdo (dev.send app (dataFrame sdo.cobId
        (expeditedUploadData data sub.size (dev.mem.read object sub.size.toNat))))
  | start (upload : commandSpecifier data = 2) (sub : Subindex) (object : Ptr)
      (found : odObject sdo.od (requestIndex data) (requestSubindex data) = .ok (sub, object))
      (readable : UploadAllowed sub.bAccessType) (large : ¬ sub.size ≤ 4) :
      SdoStep sdo data dev
        (sdo.started (requestIndex data) (requestSubindex data) object sub.size)
        (dev.send app (dataFrame sdo.cobId (initiateUploadData data sub.size)))
  | mismatch (segment : commandSpecifier data = 3) (active : sdo.segActive = true)
      (toggle : requestToggle data ≠ sdo.segToggle) :
      SdoStep sdo data dev sdo.cancelled
        (canopenSdoSendAbort app sdo sdo.segIndex sdo.segSubindex .toggleBitNotAlternated dev)
  | segment (segment : commandSpecifier data = 3) (active : sdo.segActive = true)
      (toggle : requestToggle data = sdo.segToggle) :
      SdoStep sdo data dev sdo.advanced (dev.send app (dataFrame sdo.cobId
        (segmentData sdo.segToggle sdo.chunk sdo.last (sdo.segmentBytes dev.mem))))

/-- A download carries one to four bytes. -/
theorem length_expeditedBytes {data : List Byte} (hlen : data.length = 8) :
    (expeditedBytes data).length = expeditedSize data ∧ expeditedSize data ≤ 4 := by
  have hsize : expeditedSize data ≤ 4 := Nat.sub_le 4 _
  refine ⟨?_, hsize⟩
  rw [expeditedBytes, List.length_take, List.length_drop, hlen]
  omega

/-- A segment has at most seven bytes. -/
theorem SdoServer.chunk_le (sdo : SdoServer) : sdo.chunk.toNat ≤ 7 := by
  unfold chunk
  split_ifs with hrem
  · have hle : sdo.rem.toNat ≤ 7 := hrem
    rw [BitVec.toNat_setWidth]
    omega
  · exact Nat.le_refl 7

theorem SdoServer.length_segmentBytes_le (sdo : SdoServer) (mem : Mem) :
    (sdo.segmentBytes mem).length ≤ 7 := by
  unfold segmentBytes
  split
  · exact Nat.zero_le 7
  · rw [Memory.length_read]
    exact sdo.chunk_le

/-- A client abort has a command specifier of its own. -/
theorem commandSpecifier_of_abort {data : List Byte} (h : dataAt data 0 = 0x80) :
    commandSpecifier data = 4 := by
  rw [commandSpecifier, h]
  decide

/-- No other request starts with the byte of a client abort. -/
theorem dataAt_ne_of_commandSpecifier {data : List Byte} {cs : Byte}
    (h : commandSpecifier data = cs) (hcs : cs ≠ 4) : dataAt data 0 ≠ 0x80 :=
  fun hfirst => hcs (h.symm.trans (commandSpecifier_of_abort hfirst))

theorem not_startsSegmented_of_ne {od : CanopenOd} {data : List Byte}
    (h : commandSpecifier data ≠ 2) : ¬ StartsSegmented od data := fun hstarts => h hstarts.1

section Request

variable {sdo : SdoServer} {data : List Byte} {dev : Device ω}

/-- A download is stored or refused. -/
theorem sdoStep_initiateDownload (app : Application ω) (sdo : SdoServer) (dev : Device ω)
    (hdown : commandSpecifier data = 1) :
    SdoStep app sdo data dev sdo (initiateDownload app sdo data dev) := by
  have hfirst := dataAt_ne_of_commandSpecifier hdown (by decide)
  have hnot : ¬ StartsSegmented sdo.od data := not_startsSegmented_of_ne (by rw [hdown]; decide)
  have hidle : commandSpecifier data = 3 → sdo.segActive = false := by
    rw [hdown]
    intro h
    cases h
  simp only [initiateDownload, canopenOdWrite]
  by_cases hexp : expeditedFlag data = 1
  swap
  · rw [if_neg hexp]
    exact .refuse _ _ _ hfirst hidle hnot
  rw [if_pos hexp]
  cases hobject : odObject sdo.od (requestIndex data) (requestSubindex data) with
  | error e => exact .refuse _ _ _ hfirst hidle hnot
  | ok found =>
      obtain ⟨sub, object⟩ := found
      simp only
      by_cases hwrite : sub.bAccessType &&& accessWriteMask = 0
      · rw [if_pos hwrite]
        exact .refuse _ _ _ hfirst hidle hnot
      · by_cases hhigh : 0 < sub.size.toNat ∧ sub.size.toNat < (expeditedBytes data).length
        · rw [if_neg hwrite, if_pos hhigh]
          exact .refuse _ _ _ hfirst hidle hnot
        · by_cases hshort : 0 < sub.size.toNat ∧ (expeditedBytes data).length < sub.size.toNat
          · rw [if_neg hwrite, if_neg hhigh, if_pos hshort]
            exact .refuse _ _ _ hfirst hidle hnot
          · rw [if_neg hwrite, if_neg hhigh, if_neg hshort]
            exact .store hdown hexp sub object hobject hwrite (by omega)

/-- An upload is answered with the object, started in segments, or refused. -/
theorem sdoStep_initiateUpload (app : Application ω) (sdo : SdoServer) (dev : Device ω)
    (hup : commandSpecifier data = 2) :
    SdoStep app sdo data dev (initiateUpload app sdo data dev).1
      (initiateUpload app sdo data dev).2 := by
  have hfirst := dataAt_ne_of_commandSpecifier hup (by decide)
  have hidle : commandSpecifier data = 3 → sdo.segActive = false := by
    rw [hup]
    intro h
    cases h
  simp only [initiateUpload]
  cases hobject : odObject sdo.od (requestIndex data) (requestSubindex data) with
  | error e =>
      refine .refuse _ _ _ hfirst hidle ?_
      rintro ⟨-, hstarts⟩
      rwa [hobject] at hstarts
  | ok found =>
      obtain ⟨sub, object⟩ := found
      simp only
      by_cases hread : UploadAllowed sub.bAccessType
      · rw [if_neg (not_not_intro hread)]
        by_cases hsmall : sub.size ≤ 4
        · rw [if_pos hsmall]
          exact .expedite hup sub object hobject hread hsmall
        · rw [if_neg hsmall]
          exact .start hup sub object hobject hread hsmall
      · rw [if_pos hread]
        refine .refuse _ _ _ hfirst hidle ?_
        rintro ⟨-, hstarts⟩
        rw [hobject] at hstarts
        exact hread hstarts.1

/-- A segment request is answered with the next segment, or ends the transfer. -/
theorem sdoStep_uploadSegment (app : Application ω) (sdo : SdoServer) (dev : Device ω)
    (hseg : commandSpecifier data = 3) :
    SdoStep app sdo data dev (uploadSegment app sdo data dev).1
      (uploadSegment app sdo data dev).2 := by
  have hfirst := dataAt_ne_of_commandSpecifier hseg (by decide)
  have hnot : ¬ StartsSegmented sdo.od data := not_startsSegmented_of_ne (by rw [hseg]; decide)
  simp only [uploadSegment]
  by_cases hactive : sdo.segActive = true
  · rw [if_neg (not_not_intro hactive)]
    by_cases htoggle : requestToggle data = sdo.segToggle
    · rw [if_neg (not_not_intro htoggle)]
      exact .segment hseg hactive htoggle
    · rw [if_pos htoggle]
      exact .mismatch hseg hactive htoggle
  · rw [if_pos hactive]
    exact .refuse _ _ _ hfirst (fun _ => Bool.eq_false_iff.mpr hactive) hnot

/-- Every frame of eight bytes is handled, in one of these ways. -/
theorem sdoStep_of_length (app : Application ω) (sdo : SdoServer) (dev : Device ω)
    (hlen : data.length = 8) :
    (canopenSdoRxFrame app sdo data dev).1 = true ∧
      SdoStep app sdo data dev (canopenSdoRxFrame app sdo data dev).2.1
        (canopenSdoRxFrame app sdo data dev).2.2 := by
  unfold canopenSdoRxFrame
  rw [if_neg (not_not_intro hlen)]
  by_cases hfirst : dataAt data 0 = 0x80
  · rw [if_pos hfirst]
    exact ⟨rfl, .cancel hfirst⟩
  rw [if_neg hfirst]
  by_cases hdown : commandSpecifier data = 1
  · rw [if_pos hdown]
    exact ⟨rfl, sdoStep_initiateDownload app sdo dev hdown⟩
  rw [if_neg hdown]
  by_cases hup : commandSpecifier data = 2
  · rw [if_pos hup]
    exact ⟨rfl, sdoStep_initiateUpload app sdo dev hup⟩
  rw [if_neg hup]
  by_cases hseg : commandSpecifier data = 3
  · rw [if_pos hseg]
    exact ⟨rfl, sdoStep_uploadSegment app sdo dev hseg⟩
  · rw [if_neg hseg]
    exact ⟨rfl, .refuse _ _ _ hfirst (fun h => absurd h hseg) (not_startsSegmented_of_ne hup)⟩

/-- A frame of another length is not handled. -/
theorem canopenSdoRxFrame_of_length_ne (hlen : data.length ≠ 8) :
    canopenSdoRxFrame app sdo data dev = (false, sdo, dev) := if_pos hlen

/-- A request is handled by the branch of its command specifier. -/
theorem canopenSdoRxFrame_upload (hlen : data.length = 8) (hcs : commandSpecifier data = 2) :
    canopenSdoRxFrame app sdo data dev = (true, initiateUpload app sdo data dev) := by
  have hfirst := dataAt_ne_of_commandSpecifier hcs (by decide)
  rw [canopenSdoRxFrame, if_neg (not_not_intro hlen), if_neg hfirst, if_neg (by rw [hcs]; decide),
    if_pos hcs]

theorem canopenSdoRxFrame_segment (hlen : data.length = 8) (hcs : commandSpecifier data = 3) :
    canopenSdoRxFrame app sdo data dev = (true, uploadSegment app sdo data dev) := by
  have hfirst := dataAt_ne_of_commandSpecifier hcs (by decide)
  rw [canopenSdoRxFrame, if_neg (not_not_intro hlen), if_neg hfirst, if_neg (by rw [hcs]; decide),
    if_neg (by rw [hcs]; decide), if_pos hcs]

/-- A download that the dictionary accepts is stored. -/
theorem canopenSdoRxFrame_store (hlen : data.length = 8) (hcs : commandSpecifier data = 1)
    (hexp : expeditedFlag data = 1) {sub : Subindex} {object : Ptr}
    (found : odObject sdo.od (requestIndex data) (requestSubindex data) = .ok (sub, object))
    (writable : sub.bAccessType &&& accessWriteMask ≠ 0)
    (fits : 0 < sub.size.toNat → sub.size.toNat = (expeditedBytes data).length) :
    canopenSdoRxFrame app sdo data dev =
      (true, sdo, (dev.written app (requestIndex data) (requestSubindex data) (expeditedBytes data)
        object).send app (dataFrame sdo.cobId (downloadData data))) := by
  have hfirst := dataAt_ne_of_commandSpecifier hcs (by decide)
  have hwrite : canopenOdWrite app sdo.od (requestIndex data) (requestSubindex data)
      (expeditedBytes data) dev = (.ok (), dev.written app (requestIndex data)
        (requestSubindex data) (expeditedBytes data) object) := by
    simp only [canopenOdWrite, found]
    rw [if_neg writable, if_neg (by omega), if_neg (by omega)]
  rw [canopenSdoRxFrame, if_neg (not_not_intro hlen), if_neg hfirst, if_pos hcs]
  simp only [initiateDownload, if_pos hexp, hwrite]

section Upload

variable {sub : Subindex} {object : Ptr}
  (found : odObject sdo.od (requestIndex data) (requestSubindex data) = .ok (sub, object))

include found

theorem initiateUpload_expedited (readable : UploadAllowed sub.bAccessType)
    (small : sub.size ≤ 4) :
    initiateUpload app sdo data dev = (sdo, dev.send app (dataFrame sdo.cobId
      (expeditedUploadData data sub.size (dev.mem.read object sub.size.toNat)))) := by
  simp only [initiateUpload, found, if_neg (not_not_intro readable), if_pos small]

theorem initiateUpload_segmented (readable : UploadAllowed sub.bAccessType)
    (large : ¬ sub.size ≤ 4) :
    initiateUpload app sdo data dev =
      (sdo.started (requestIndex data) (requestSubindex data) object sub.size,
        dev.send app (dataFrame sdo.cobId (initiateUploadData data sub.size))) := by
  simp only [initiateUpload, found, if_neg (not_not_intro readable), if_neg large]

end Upload

end Request

/-! ## One frame after another -/

/-- A server and the device it works on. -/
structure SdoLine (ω : Type) where
  server : SdoServer
  dev : Device ω

/-- The line before any call is recorded. -/
def SdoLine.unrecorded (line : SdoLine ω) : SdoLine ω :=
  { line with dev := { line.dev with calls := [] } }

/-- One frame: the calls of the application that it causes, and what it leaves. -/
def sdoLineStep (app : Application ω) (data : List Byte) (line : SdoLine ω) :
    List AppCall × SdoLine ω :=
  let r := canopenSdoRxFrame app line.server data line.unrecorded.dev
  (r.2.2.calls, ⟨r.2.1, r.2.2⟩)

/-- What is read with `canopen_od_read` is uploaded too. -/
theorem uploadAllowed_of_readAllowed {access : Byte} (h : ReadAllowed access) :
    UploadAllowed access := by
  rintro ⟨hro, hconst⟩
  have hmask : access &&& accessReadMask = access &&& accessRo &&& accessReadMask := by
    rw [BitVec.and_assoc]
    rfl
  exact h ⟨by rw [hmask, hro]; rfl, hconst⟩

end AutomationBoard.Canopen
