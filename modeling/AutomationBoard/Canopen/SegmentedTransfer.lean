/-
# A segmented upload, segment by segment

The server keeps an offset and a toggle bit; after `k` segments they are `7 * k`
and the parity of `k`. From this the answer to the next segment request follows,
whatever the device is when it arrives, and by induction the answers to all of
them. The devices at the arrivals are a parameter here, so that any activity may
lie between two requests.
-/

import AutomationBoard.Canopen.SdoClient

namespace AutomationBoard.Canopen

open AutomationBoard.Program

variable {ω : Type} {app : Application ω}

/-- The number of segments of an object. -/
def segmentCount (size : Long) : ℕ := (size.toNat + 6) / 7

/-- A segment request with a toggle bit. -/
structure IsSegmentRequest (data : List Byte) (toggle : Byte) : Prop where
  length : data.length = 8
  command : commandSpecifier data = 3
  toggle : requestToggle data = toggle

instance (data : List Byte) (toggle : Byte) : Decidable (IsSegmentRequest data toggle) :=
  decidable_of_iff (data.length = 8 ∧ commandSpecifier data = 3 ∧ requestToggle data = toggle)
    ⟨fun ⟨h1, h2, h3⟩ => ⟨h1, h2, h3⟩, fun ⟨h1, h2, h3⟩ => ⟨h1, h2, h3⟩⟩

/-- The request for the segment after `k` others. -/
def segmentRequest (k : ℕ) : List Byte := [0x60 ||| toggleOf k <<< 4, 0, 0, 0, 0, 0, 0, 0]

theorem isSegmentRequest_segmentRequest (k : ℕ) :
    IsSegmentRequest (segmentRequest k) (toggleOf k) := by
  rcases toggleOf_zero_or_one k with h | h
  · rw [segmentRequest, h]
    decide
  · rw [segmentRequest, h]
    decide

/-- The server has sent `k` segments of an object and has more. -/
structure Transferring (sdo : SdoServer) (object : Ptr) (size : Long) (k : ℕ) : Prop where
  active : sdo.segActive = true
  source : sdo.pSegData = some object
  total : sdo.segTotalSize = size
  offset : sdo.segOffset.toNat = 7 * k
  toggle : sdo.segToggle = toggleOf k
  pending : 7 * k < size.toNat

/-- A segmented upload begins with no segment sent. -/
theorem transferring_started (sdo : SdoServer) (index : Word) (bSubindex : Byte) (object : Ptr)
    {size : Long} (h : ¬ size ≤ 4) :
    Transferring (sdo.started index bSubindex object size) object size 0 := by
  refine ⟨rfl, rfl, rfl, rfl, rfl, ?_⟩
  have hlarge : ¬ size.toNat ≤ 4 := h
  show 7 * 0 < size.toNat
  omega

namespace Transferring

variable {sdo : SdoServer} {object : Ptr} {size : Long} {k : ℕ}

theorem toNat_rem (h : Transferring sdo object size k) : sdo.rem.toNat = size.toNat - 7 * k := by
  have hpending := h.pending
  have hsize := size.isLt
  rw [SdoServer.rem, h.total, BitVec.toNat_sub, h.offset]
  omega

theorem toNat_chunk (h : Transferring sdo object size k) :
    sdo.chunk.toNat = min 7 (size.toNat - 7 * k) := by
  have hrem := h.toNat_rem
  unfold SdoServer.chunk
  split_ifs with hle
  · have hle' : sdo.rem.toNat ≤ 7 := hle
    rw [BitVec.toNat_setWidth]
    omega
  · have hlt : ¬ sdo.rem.toNat ≤ 7 := hle
    show 7 = min 7 (size.toNat - 7 * k)
    omega

/-- The segment is the last one when no byte is left after it. -/
theorem last_eq (h : Transferring sdo object size k) :
    sdo.last = if size.toNat ≤ 7 * (k + 1) then 1 else 0 := by
  have hrem := h.toNat_rem
  have hpending := h.pending
  have hiff : sdo.rem ≤ 7 ↔ size.toNat ≤ 7 * (k + 1) := by
    show sdo.rem.toNat ≤ 7 ↔ size.toNat ≤ 7 * (k + 1)
    omega
  simp only [SdoServer.last, hiff]

/-- The segment holds the next seven bytes of the object, or what is left. -/
theorem segmentBytes_eq (h : Transferring sdo object size k) (mem : Mem) :
    sdo.segmentBytes mem = ((mem.read object size.toNat).drop (7 * k)).take 7 := by
  have hpending := h.pending
  have hchunk := h.toNat_chunk
  rw [SdoServer.segmentBytes, h.source]
  simp only
  rw [Memory.drop_read mem object (by omega), h.offset, hchunk]
  by_cases hle : 7 ≤ size.toNat - 7 * k
  · rw [Memory.take_read _ _ hle, Nat.min_eq_left hle]
  · rw [List.take_of_length_le (by rw [Memory.length_read]; omega), Nat.min_eq_right (by omega)]

/-- The transfer goes on while bytes are left. -/
theorem advanced (h : Transferring sdo object size k) (hmore : 7 * (k + 1) < size.toNat) :
    Transferring sdo.advanced object size (k + 1) := by
  have hchunk := h.toNat_chunk
  have hsize := size.isLt
  refine ⟨?_, h.source, h.total, ?_, ?_, hmore⟩
  · have hlast : sdo.last = 0 := by rw [h.last_eq, if_neg (by omega)]
    simp only [SdoServer.advanced, hlast, h.active]
    decide
  · simp only [SdoServer.advanced, BitVec.toNat_add, BitVec.toNat_setWidth, h.offset, hchunk]
    omega
  · rw [SdoServer.advanced, h.toggle, toggleOf_succ]

/-- The transfer ends with its last byte. -/
theorem finished (h : Transferring sdo object size k) (hdone : size.toNat ≤ 7 * (k + 1)) :
    sdo.advanced.segActive = false := by
  have hlast : sdo.last = 1 := by rw [h.last_eq, if_pos hdone]
  simp only [SdoServer.advanced, hlast]
  rfl

end Transferring

/-! ## One segment request -/

section Request

variable {sdo : SdoServer} {data : List Byte} {dev : Device ω}

/-- Without a transfer a segment request is answered with an abort. -/
theorem canopenSdoRxFrame_segment_idle (hlen : data.length = 8) (hcs : commandSpecifier data = 3)
    (hidle : sdo.segActive = false) :
    canopenSdoRxFrame app sdo data dev =
      (true, sdo, canopenSdoSendAbort app sdo 0 0 .generalError dev) := by
  rw [canopenSdoRxFrame_segment hlen hcs, uploadSegment, if_pos (by simp [hidle])]

/-- The wrong toggle bit is answered with an abort and ends the transfer. -/
theorem canopenSdoRxFrame_segment_mismatch {toggle : Byte} (hdata : IsSegmentRequest data toggle)
    (hactive : sdo.segActive = true) (htoggle : toggle ≠ sdo.segToggle) :
    canopenSdoRxFrame app sdo data dev =
      (true, sdo.cancelled, canopenSdoSendAbort app sdo sdo.segIndex sdo.segSubindex
        .toggleBitNotAlternated dev) := by
  rw [canopenSdoRxFrame_segment hdata.length hdata.command, uploadSegment,
    if_neg (not_not_intro hactive), if_pos (by rwa [hdata.toggle])]

/-- The right toggle bit is answered with the next segment. -/
theorem canopenSdoRxFrame_segment_next {toggle : Byte} (hdata : IsSegmentRequest data toggle)
    (hactive : sdo.segActive = true) (htoggle : toggle = sdo.segToggle) :
    canopenSdoRxFrame app sdo data dev =
      (true, sdo.advanced, dev.send app (dataFrame sdo.cobId
        (segmentData sdo.segToggle sdo.chunk sdo.last (sdo.segmentBytes dev.mem)))) := by
  rw [canopenSdoRxFrame_segment hdata.length hdata.command, uploadSegment,
    if_neg (not_not_intro hactive), if_neg (not_not_intro (by rw [hdata.toggle, htoggle]))]

/-- What the right toggle bit brings, as a step of the line. -/
theorem sdoLineStep_segment_next (app : Application ω) (dev : Device ω) {toggle : Byte}
    (hdata : IsSegmentRequest data toggle) (hactive : sdo.segActive = true)
    (htoggle : toggle = sdo.segToggle) :
    sentFrames (sdoLineStep app data ⟨sdo, dev⟩).1 = [dataFrame sdo.cobId
        (segmentData sdo.segToggle sdo.chunk sdo.last (sdo.segmentBytes dev.mem))] ∧
      (sdoLineStep app data ⟨sdo, dev⟩).2.server = sdo.advanced ∧
      (sdoLineStep app data ⟨sdo, dev⟩).2.dev.mem = dev.mem := by
  rw [sdoLineStep, canopenSdoRxFrame_segment_next hdata hactive htoggle]
  exact ⟨rfl, rfl, rfl⟩

end Request

/-- The frame a client should get as the segment after `k` others. -/
structure IsSegment (content : List Byte) (size : Long) (k : ℕ) (frame : CanopenFrame) : Prop where
  data : dataAt frame.data 0 ≠ 0x80
  toggle : requestToggle frame.data = toggleOf k
  last : segmentLast frame.data = if k + 1 = segmentCount size then 1 else 0
  content : segmentContent frame.data = (content.drop (7 * k)).take 7

/-- The segment that the server makes is the one the client should get. -/
theorem Transferring.isSegment {sdo : SdoServer} {object : Ptr} {size : Long} {k : ℕ}
    (h : Transferring sdo object size k) (mem : Mem) :
    IsSegment (mem.read object size.toNat) size k (dataFrame sdo.cobId
      (segmentData sdo.segToggle sdo.chunk sdo.last (sdo.segmentBytes mem))) := by
  have hpending := h.pending
  have hchunk := h.toNat_chunk
  have hlen : (sdo.segmentBytes mem).length = sdo.chunk.toNat := by
    rw [h.segmentBytes_eq, List.length_take, List.length_drop, Memory.length_read, hchunk]
  have hlast : sdo.last = 0 ∨ sdo.last = 1 := by
    rw [h.last_eq]
    split
    · exact .inr rfl
    · exact .inl rfl
  have htoggle : sdo.segToggle = 0 ∨ sdo.segToggle = 1 := by
    rw [h.toggle]
    exact toggleOf_zero_or_one k
  obtain ⟨ht, hl, hc, hfirst⟩ := segmentData_fields htoggle hlast sdo.chunk_le hlen
  refine ⟨hfirst, ht.trans h.toggle, ?_, hc.trans (h.segmentBytes_eq mem)⟩
  have hiff : size.toNat ≤ 7 * (k + 1) ↔ k + 1 = segmentCount size := by
    unfold segmentCount
    omega
  rw [dataFrame, hl, h.last_eq]
  simp only [hiff]

/-! ## All segment requests -/

/-- The frames that answer segment requests which arrive at given devices, and
the server after them. -/
def answerSegments (app : Application ω) :
    List (List Byte × Device ω) → SdoServer → List (List CanopenFrame) × SdoServer
  | [], sdo => ([], sdo)
  | (data, dev) :: arrivals, sdo =>
      let r := sdoLineStep app data ⟨sdo, dev⟩
      let rest := answerSegments app arrivals r.2.server
      (sentFrames r.1 :: rest.1, rest.2)

/-- The requests alternate their toggle bits from that of segment `k` on, and find
the content of the object unchanged. -/
def Alternating (object : Ptr) (content : List Byte) : ℕ → List (List Byte × Device ω) → Prop
  | _, [] => True
  | k, (data, dev) :: arrivals =>
      IsSegmentRequest data (toggleOf k) ∧ dev.mem.read object content.length = content ∧
        Alternating object content (k + 1) arrivals

/-- The frames answer the requests one by one, as the segments from `k` on. -/
inductive Segments (content : List Byte) (size : Long) : ℕ → List (List CanopenFrame) → Prop
  | nil (k : ℕ) : Segments content size k []
  | cons {k : ℕ} {rest : List (List CanopenFrame)} (frame : CanopenFrame)
      (isSegment : IsSegment content size k frame)
      (tail : Segments content size (k + 1) rest) : Segments content size k ([frame] :: rest)

/-- The server after `k` segments: on its way, or done. -/
def AfterSegments (sdo : SdoServer) (object : Ptr) (size : Long) (k : ℕ) : Prop :=
  if k < segmentCount size then Transferring sdo object size k else sdo.segActive = false

theorem Transferring.afterSegments_self {sdo : SdoServer} {object : Ptr} {size : Long} {k : ℕ}
    (h : Transferring sdo object size k) : AfterSegments sdo object size k := by
  have hpending := h.pending
  rw [AfterSegments, if_pos (by unfold segmentCount; omega)]
  exact h

/-- One more segment is sent. -/
theorem Transferring.afterSegments {sdo : SdoServer} {object : Ptr} {size : Long} {k : ℕ}
    (h : Transferring sdo object size k) : AfterSegments sdo.advanced object size (k + 1) := by
  unfold AfterSegments segmentCount
  split_ifs with hmore
  · exact h.advanced (by omega)
  · exact h.finished (by omega)

/-- As many requests as there are segments left are answered with these. -/
theorem answerSegments_spec (app : Application ω) {object : Ptr} {size : Long} {content : List Byte}
    (hcontent : content.length = size.toNat) {arrivals : List (List Byte × Device ω)} {k : ℕ}
    {sdo : SdoServer} (h : AfterSegments sdo object size k)
    (hroom : k + arrivals.length ≤ segmentCount size)
    (hsteady : Alternating object content k arrivals) :
    Segments content size k (answerSegments app arrivals sdo).1 ∧
      AfterSegments (answerSegments app arrivals sdo).2 object size (k + arrivals.length) := by
  induction arrivals generalizing k sdo with
  | nil => exact ⟨.nil k, h⟩
  | cons arrival arrivals ih =>
      obtain ⟨data, dev⟩ := arrival
      obtain ⟨hdata, hmem, hrest⟩ := hsteady
      rw [List.length_cons] at hroom
      have hk : k < segmentCount size := by omega
      rw [AfterSegments, if_pos hk] at h
      obtain ⟨hsent, hserver, -⟩ := sdoLineStep_segment_next app dev hdata h.active
        h.toggle.symm
      obtain ⟨hsegments, hafter⟩ := ih h.afterSegments (by omega) hrest
      simp only [answerSegments, hserver, hsent]
      refine ⟨.cons _ ?_ hsegments, ?_⟩
      · have hseg := h.isSegment dev.mem
        rwa [← hcontent, hmem] at hseg
      · rw [List.length_cons, show k + (arrivals.length + 1) = k + 1 + arrivals.length by omega]
        exact hafter

/-- The segments of an object, put together. -/
theorem Segments.flatMap_content {content : List Byte} {size : Long} {k : ℕ}
    {answers : List (List CanopenFrame)} (h : Segments content size k answers) :
    answers.flatten.flatMap (segmentContent ·.data) =
      (content.drop (7 * k)).take (7 * answers.length) := by
  induction h with
  | nil k => simp
  | cons frame isSegment tail ih =>
      rename_i k rest
      have hnext : content.drop (7 * (k + 1)) = (content.drop (7 * k)).drop 7 := by
        rw [List.drop_drop, Nat.mul_succ]
      rw [List.flatten_cons, List.flatMap_append, ih, List.flatMap_singleton,
        isSegment.content, hnext, List.length_cons, Nat.mul_succ, Nat.add_comm (7 * rest.length),
        List.take_add]

/-- All segments together are the object. -/
theorem Segments.flatMap_content_all {content : List Byte} {size : Long}
    {answers : List (List CanopenFrame)} (h : Segments content size 0 answers)
    (hcontent : content.length = size.toNat) (hcount : answers.length = segmentCount size) :
    answers.flatten.flatMap (segmentContent ·.data) = content := by
  rw [h.flatMap_content, List.drop_zero, hcount]
  apply List.take_of_length_le
  unfold segmentCount
  omega

/-- The answer is one abort frame. -/
def IsAbort (frames : List CanopenFrame) : Prop :=
  ∃ frame, frames = [frame] ∧ dataAt frame.data 0 = 0x80

/-- A segment request that comes after the last segment, or has the wrong toggle
bit, is answered with an abort, and no transfer is left. -/
theorem AfterSegments.aborted {sdo : SdoServer} {object : Ptr} {size : Long} {k : ℕ}
    {data : List Byte} {toggle : Byte} (h : AfterSegments sdo object size k)
    (app : Application ω) (hdata : IsSegmentRequest data toggle)
    (hwrong : k < segmentCount size → toggle ≠ toggleOf k) (dev : Device ω) :
    IsAbort (sentFrames (sdoLineStep app data ⟨sdo, dev⟩).1) ∧
      (sdoLineStep app data ⟨sdo, dev⟩).2.server.segActive = false := by
  unfold AfterSegments at h
  split_ifs at h with hk
  · rw [sdoLineStep, canopenSdoRxFrame_segment_mismatch hdata h.active
      (by rw [h.toggle]; exact hwrong hk)]
    exact ⟨⟨_, rfl, rfl⟩, rfl⟩
  · rw [sdoLineStep, canopenSdoRxFrame_segment_idle hdata.length hdata.command h]
    exact ⟨⟨_, rfl, rfl⟩, h⟩

/-- Without a transfer every segment request is answered with an abort. -/
theorem answerSegments_idle {arrivals : List (List Byte × Device ω)} {sdo : SdoServer}
    (hidle : sdo.segActive = false)
    (hrequests : ∀ arrival ∈ arrivals, ∃ toggle, IsSegmentRequest arrival.1 toggle) :
    ∀ frames ∈ (answerSegments app arrivals sdo).1, IsAbort frames := by
  induction arrivals with
  | nil => exact fun _ h => absurd h List.not_mem_nil
  | cons arrival arrivals ih =>
      obtain ⟨data, dev⟩ := arrival
      obtain ⟨toggle, hdata⟩ := hrequests _ List.mem_cons_self
      have hstep : (sdoLineStep app data ⟨sdo, dev⟩).2.server = sdo ∧
          IsAbort (sentFrames (sdoLineStep app data ⟨sdo, dev⟩).1) := by
        rw [sdoLineStep, canopenSdoRxFrame_segment_idle hdata.length hdata.command hidle]
        exact ⟨rfl, _, rfl, rfl⟩
      simp only [answerSegments, hstep.1, List.forall_mem_cons]
      exact ⟨hstep.2, ih fun arrival h => hrequests arrival (List.mem_cons_of_mem _ h)⟩

end AutomationBoard.Canopen
