/-
# An upload against a read of the dictionary

The SDO server looks an object up and checks its access type on its own, where
`canopen_od_read` does the same for the rest of the program. A client that
uploads an object and fetches its segments is compared with a reader that has a
large enough buffer: the two agree except on access types that allow one of them
only, and on objects without bytes.
-/

import AutomationBoard.Canopen.SegmentedTransfer

namespace AutomationBoard.Canopen

open AutomationBoard.Program

variable {ω : Type} {app : Application ω}

/-! ## A client that uploads an object -/

/-- The bytes of the next `n` segments after `k` others, asked for one by one. -/
def fetchSegments (app : Application ω) : ℕ → ℕ → SdoLine ω → List Byte
  | 0, _, _ => []
  | n + 1, k, line =>
      let r := sdoLineStep app (segmentRequest k) line
      (sentFrames r.1).flatMap (segmentContent ·.data) ++ fetchSegments app n (k + 1) r.2

/-- What a client gets from an upload: the bytes, or the index, subindex and code
of an abort. Without exactly one response it gets nothing. -/
def sdoUpload (app : Application ω) (data : List Byte) (line : SdoLine ω) :
    Option (Except (Word × Byte × Long) (List Byte)) :=
  let r := sdoLineStep app data line
  match sentFrames r.1 with
  | [frame] =>
      match readUploadReply frame.data with
      | .aborted index bSubindex code => some (.error (index, bSubindex, code))
      | .expedited bytes => some (.ok bytes)
      | .segmented size => some (.ok (fetchSegments app (segmentCount size) 0 r.2))
  | _ => none

/-- The segments that are left bring the bytes that are left. -/
theorem fetchSegments_eq {object : Ptr} {size : Long} {n k : ℕ} {line : SdoLine ω}
    (h : AfterSegments line.server object size k) (hcount : n + k = segmentCount size) :
    fetchSegments app n k line = (line.dev.mem.read object size.toNat).drop (7 * k) := by
  induction n generalizing k line with
  | zero =>
      rw [fetchSegments, List.drop_of_length_le]
      rw [Memory.length_read]
      unfold segmentCount at hcount
      omega
  | succ n ih =>
      have hk : k < segmentCount size := by omega
      rw [AfterSegments, if_pos hk] at h
      obtain ⟨hsent, hserver, hmem⟩ := sdoLineStep_segment_next app line.dev
        (isSegmentRequest_segmentRequest k) h.active h.toggle.symm
      have hnext : AfterSegments (sdoLineStep app (segmentRequest k) line).2.server object size
          (k + 1) := hserver ▸ h.afterSegments
      rw [fetchSegments, ih hnext (by omega), hsent, hmem, List.flatMap_singleton,
        (h.isSegment line.dev.mem).content, Nat.mul_succ, ← List.drop_drop, List.take_append_drop]

section Initiate

variable {line : SdoLine ω} {data : List Byte}

/-- An upload that is refused. -/
theorem sdoUpload_refused {e : SdoAbort}
    (h : (canopenSdoRxFrame app line.server data line.unrecorded.dev).2.2 =
      canopenSdoSendAbort app line.server (requestIndex data) (requestSubindex data) e
        line.unrecorded.dev) :
    sdoUpload app data line = some (.error (requestIndex data, requestSubindex data, e.code)) := by
  have hsent : sentFrames (sdoLineStep app data line).1 = [dataFrame line.server.cobId
      (abortData (requestIndex data) (requestSubindex data) e)] := by
    rw [sdoLineStep, h]
    rfl
  simp only [sdoUpload, hsent, dataFrame, readUploadReply_abortData]

/-- An upload that is accepted brings the object's bytes, or four zero bytes for
an object without any. -/
theorem sdoUpload_accepted (hlen : data.length = 8) (hcs : commandSpecifier data = 2)
    {sub : Subindex} {object : Ptr}
    (found : odObject line.server.od (requestIndex data) (requestSubindex data) =
      .ok (sub, object))
    (readable : UploadAllowed sub.bAccessType) :
    sdoUpload app data line = some (.ok
      (if sub.size = 0 then [0, 0, 0, 0] else line.dev.mem.read object sub.size.toNat)) := by
  by_cases hsmall : sub.size ≤ 4
  · have hsent : sentFrames (sdoLineStep app data line).1 = [dataFrame line.server.cobId
        (expeditedUploadData data sub.size (line.dev.mem.read object sub.size.toNat))] := by
      rw [sdoLineStep, canopenSdoRxFrame_upload hlen hcs,
        initiateUpload_expedited found readable hsmall]
      rfl
    simp only [sdoUpload, hsent, dataFrame,
      readUploadReply_expeditedUploadData data hsmall (Memory.length_read _ _ _)]
  · have hstep : sdoLineStep app data line =
        ([.transmit (dataFrame line.server.cobId (initiateUploadData data sub.size))
            (app.txFunc (dataFrame line.server.cobId (initiateUploadData data sub.size))
              line.dev.world).1 line.dev.mem],
          ⟨line.server.started (requestIndex data) (requestSubindex data) object sub.size,
            line.unrecorded.dev.send app
              (dataFrame line.server.cobId (initiateUploadData data sub.size))⟩) := by
      rw [sdoLineStep, canopenSdoRxFrame_upload hlen hcs,
        initiateUpload_segmented found readable hsmall]
      rfl
    have hstarted := transferring_started line.server (requestIndex data) (requestSubindex data)
      object hsmall
    have hzero : sub.size ≠ 0 := by
      intro h
      rw [h] at hsmall
      exact hsmall (by decide)
    simp only [sdoUpload, hstep, sentFrames_transmit, dataFrame, readUploadReply_initiateUploadData,
      if_neg hzero]
    rw [fetchSegments_eq hstarted.afterSegments_self (Nat.add_zero _), Nat.mul_zero, List.drop_zero]
    rfl

end Initiate

/-! ## Agreement -/

/-- The client gets what `canopen_od_read` gives into a buffer that the object
fits in: its abort code for the requested object, or the bytes it copied. -/
def AgreesWithRead (app : Application ω) (data : List Byte) (line : SdoLine ω) : Prop :=
  ∀ (pDest dest : List Byte) (pSize size : Long) (result : Except SdoAbort Unit),
    canopenOdRead line.server.od line.dev.mem (requestIndex data) (requestSubindex data)
      pDest pSize = (result, dest, size) →
    size ≤ pSize →
      sdoUpload app data line =
        match result with
        | .error e => some (.error (requestIndex data, requestSubindex data, e.code))
        | .ok _ => some (.ok (dest.take size.toNat))

/-- The server lets an access type through that `canopen_od_read` does not: the
lowest bit is set, the read bit is not, and it is not `const_access`. -/
def UploadOnly (access : Byte) : Prop :=
  access &&& 0x01 ≠ 0 ∧ access &&& accessReadMask = 0 ∧ access ≠ accessConst

instance (access : Byte) : Decidable (UploadOnly access) := inferInstanceAs (Decidable (_ ∧ _ ∧ _))

/-- The object is one that an upload and a read treat alike: only the read may
let it through, and if it does there are bytes. -/
def UploadedAsRead (od : CanopenOd) (index : Word) (bSubindex : Byte) : Prop :=
  ∀ sub object, odObject od index bSubindex = .ok (sub, object) →
    ¬ UploadOnly sub.bAccessType ∧ (ReadAllowed sub.bAccessType → sub.size ≠ 0)

/-- The two checks differ on these access types only. -/
theorem uploadAllowed_iff : ∀ access : Byte,
    UploadAllowed access ↔ ReadAllowed access ∨ UploadOnly access := by
  decide +kernel

theorem UploadOnly.not_readAllowed {access : Byte} (h : UploadOnly access) :
    ¬ ReadAllowed access := fun hread => hread h.2

section Agreement

variable {line : SdoLine ω} {data : List Byte}

/-- Both refuse an object that the lookup does not find. -/
theorem agreesWithRead_of_error (hlen : data.length = 8) (hcs : commandSpecifier data = 2)
    {e : SdoAbort}
    (missing : odObject line.server.od (requestIndex data) (requestSubindex data) = .error e) :
    AgreesWithRead app data line := by
  intro pDest dest pSize size result hread _
  simp only [canopenOdRead, missing, Prod.mk.injEq] at hread
  obtain ⟨rfl, -, -⟩ := hread
  apply sdoUpload_refused
  rw [canopenSdoRxFrame_upload hlen hcs]
  simp only [initiateUpload, missing]

variable {sub : Subindex} {object : Ptr}
  (found : odObject line.server.od (requestIndex data) (requestSubindex data) = .ok (sub, object))

include found

/-- A readable object is uploaded as it is read, if it has bytes. -/
theorem agreesWithRead_of_readAllowed (hlen : data.length = 8) (hcs : commandSpecifier data = 2)
    (readable : ReadAllowed sub.bAccessType) : AgreesWithRead app data line ↔ sub.size ≠ 0 := by
  have hupload : sdoUpload app data line = _ :=
    sdoUpload_accepted hlen hcs found (uploadAllowed_of_readAllowed readable)
  constructor
  · intro h hzero
    have hread : canopenOdRead line.server.od line.dev.mem (requestIndex data)
        (requestSubindex data) [] 0 = (.ok (), [], 0) := by
      simp only [canopenOdRead, found, if_neg (not_not_intro readable), hzero]
      rfl
    have hbytes := h [] [] 0 0 (.ok ()) hread (BitVec.le_refl 0)
    rw [hupload, if_pos hzero] at hbytes
    cases hbytes
  · intro hpos pDest dest pSize size result hread hfits
    simp only [canopenOdRead, found, if_neg (not_not_intro readable), Prod.mk.injEq] at hread
    obtain ⟨rfl, rfl, rfl⟩ := hread
    rw [hupload, if_neg hpos, if_neg (BitVec.not_lt.mpr hfits)]
    simp only [List.take_left' (Memory.length_read _ _ _)]

/-- An object that is not readable is refused by both, unless the server lets it through. -/
theorem agreesWithRead_of_not_readAllowed (hlen : data.length = 8)
    (hcs : commandSpecifier data = 2) (unreadable : ¬ ReadAllowed sub.bAccessType) :
    AgreesWithRead app data line ↔ ¬ UploadOnly sub.bAccessType := by
  have hread : ∀ (pDest : List Byte) (pSize : Long),
      canopenOdRead line.server.od line.dev.mem (requestIndex data) (requestSubindex data)
        pDest pSize = (.error .readNotAllowed, pDest, pSize) := by
    intro pDest pSize
    simp only [canopenOdRead, found, if_pos unreadable]
  constructor
  · intro h honly
    have hrefused := h [] [] 0 0 _ (hread [] 0) (BitVec.le_refl 0)
    rw [sdoUpload_accepted hlen hcs found ((uploadAllowed_iff _).mpr (.inr honly))] at hrefused
    cases hrefused
  · intro hnot pDest dest pSize size result hresult _
    have hrefuses : ¬ UploadAllowed sub.bAccessType := by
      rw [uploadAllowed_iff]
      exact not_or.mpr ⟨unreadable, hnot⟩
    rw [hread] at hresult
    cases hresult
    apply sdoUpload_refused
    rw [canopenSdoRxFrame_upload hlen hcs]
    simp only [initiateUpload, found, if_pos hrefuses]

end Agreement

/-- An upload agrees with a read exactly if the object is one that both treat alike. -/
theorem sdoUpload_agreesWithRead_iff (app : Application ω) (data : List Byte) (line : SdoLine ω)
    (hlen : data.length = 8) (hcs : commandSpecifier data = 2) :
    AgreesWithRead app data line ↔
      UploadedAsRead line.server.od (requestIndex data) (requestSubindex data) := by
  cases hobject : odObject line.server.od (requestIndex data) (requestSubindex data) with
  | error e =>
      have halike : UploadedAsRead line.server.od (requestIndex data) (requestSubindex data) := by
        intro sub object found
        rw [hobject] at found
        cases found
      exact iff_of_true (agreesWithRead_of_error hlen hcs hobject) halike
  | ok found =>
      obtain ⟨sub, object⟩ := found
      have halike : UploadedAsRead line.server.od (requestIndex data) (requestSubindex data) ↔
          ¬ UploadOnly sub.bAccessType ∧ (ReadAllowed sub.bAccessType → sub.size ≠ 0) := by
        constructor
        · exact fun h => h sub object hobject
        · intro h sub' object' found
          rw [hobject] at found
          cases found
          exact h
      rw [halike]
      by_cases hread : ReadAllowed sub.bAccessType
      · rw [agreesWithRead_of_readAllowed hobject hlen hcs hread]
        exact ⟨fun hpos => ⟨fun honly => honly.not_readAllowed hread, fun _ => hpos⟩,
          fun h => h.2 hread⟩
      · rw [agreesWithRead_of_not_readAllowed hobject hlen hcs hread]
        exact ⟨fun hnot => ⟨hnot, fun h => absurd h hread⟩, fun h => h.1⟩

/-- A dictionary with a write-only object of one byte at 0x2000:0. -/
def writeOnlyDictionary : CanopenOd := ⟨[⟨[entryOf accessWo typeUint8 1 (.custom 0)], 0x2000⟩]⟩

theorem sdoUpload_agreesWithRead_iff_deviceName :
    AgreesWithRead weakApplication [0x40, 0x08, 0x10, 0, 0, 0, 0, 0]
      ⟨canopenSdoInit 1 canopenDefaultOdGet, bootDevice⟩ := by
  rw [sdoUpload_agreesWithRead_iff weakApplication [0x40, 0x08, 0x10, 0, 0, 0, 0, 0]
    ⟨canopenSdoInit 1 canopenDefaultOdGet, bootDevice⟩ rfl rfl]
  intro sub object found
  cases found
  decide

/-- A write-only object is uploaded. -/
theorem not_agreesWithRead_writeOnly :
    ¬ AgreesWithRead weakApplication [0x40, 0x00, 0x20, 0, 0, 0, 0, 0]
      ⟨canopenSdoInit 1 writeOnlyDictionary, bootDevice⟩ := by
  intro h
  have hrefused := h [0] [0] 1 1 (.error .readNotAllowed) (by decide) (by decide)
  revert hrefused
  decide

end AutomationBoard.Canopen
