/-
# How long a segmented upload lives

A transfer should end with the first request that is not for its next segment,
and with the first abort. The server ends it on a client abort and on a wrong
toggle bit, and replaces it when another one starts; every other request leaves
it running. So a run keeps the rule exactly if no such request comes while a
transfer runs.
-/

import AutomationBoard.Canopen.SegmentedTransfer
import AutomationBoard.Program.Runs

namespace AutomationBoard.Canopen

open AutomationBoard.Program

variable {ω : Type} {app : Application ω}

/-! ## Runs of frames -/

/-- A server with its device, and the object that the latest initiate request named. -/
structure WatchedLine (ω : Type) where
  line : SdoLine ω
  named : Option (Word × Byte)

/-- The frame is an initiate request. -/
def IsInitiate (data : List Byte) : Prop :=
  data.length = 8 ∧ (commandSpecifier data = 1 ∨ commandSpecifier data = 2)

instance (data : List Byte) : Decidable (IsInitiate data) := inferInstanceAs (Decidable (_ ∧ _))

/-- One frame. -/
def watchedStep (app : Application ω) (data : List Byte) (s : WatchedLine ω) :
    List AppCall × WatchedLine ω :=
  let r := sdoLineStep app data s.line
  (r.1, ⟨r.2, if IsInitiate data then some (requestIndex data, requestSubindex data) else s.named⟩)

/-- The server after `canopen_sdo_init`. -/
def watchedInit (nodeId : Byte) (od : CanopenOd) (dev : Device ω) : WatchedLine ω :=
  ⟨⟨canopenSdoInit nodeId od, dev⟩, none⟩

/-! ## The rule -/

/-- No transfer is active: a segment request is answered with an abort. -/
structure NoTransfer (app : Application ω) (line : SdoLine ω) : Prop where
  inactive : line.server.segActive = false
  aborts : ∀ request toggle, IsSegmentRequest request toggle →
    IsAbort (sentFrames (sdoLineStep app request line).1)

/-- The frame carries a part of the object, of at most seven bytes. -/
def BelongsTo (od : CanopenOd) (mem : Mem) (name : Word × Byte) (frame : CanopenFrame) : Prop :=
  ∃ sub object k, odObject od name.1 name.2 = .ok (sub, object) ∧
    segmentContent frame.data = ((mem.read object sub.size.toNat).drop (7 * k)).take 7

/-- What one frame leaves of a transfer. One that the frame starts is not meant. -/
structure EndsTransfer (app : Application ω) (s : WatchedLine ω) (data : List Byte)
    (calls : List AppCall) (s' : WatchedLine ω) : Prop where
  ended : (data.length = 8 ∧ commandSpecifier data ≠ 3) ∨
      (∃ frame ∈ sentFrames calls, dataAt frame.data 0 = 0x80) →
    ¬ StartsSegmented s.line.server.od data → NoTransfer app s'.line
  own : data.length = 8 → commandSpecifier data = 3 →
    ∀ frame ∈ sentFrames calls, dataAt frame.data 0 ≠ 0x80 →
      ∃ name, s.named = some name ∧ BelongsTo s.line.server.od s.line.dev.mem name frame

/-- A request that leaves a running transfer behind: it is neither for a segment nor
a client abort, and it does not start another transfer. -/
def Outlived (s : WatchedLine ω) (data : List Byte) : Prop :=
  s.line.server.segActive = true ∧ data.length = 8 ∧ commandSpecifier data ≠ 3 ∧
    dataAt data 0 ≠ 0x80 ∧ ¬ StartsSegmented s.line.server.od data

/-- A running transfer is for the object named by the latest initiate request. -/
def Tracked (s : WatchedLine ω) : Prop :=
  s.line.server.segActive = true → ∃ name sub object k, s.named = some name ∧
    odObject s.line.server.od name.1 name.2 = .ok (sub, object) ∧
      Transferring s.line.server object sub.size k

/-! ## One frame -/

theorem noTransfer_of_inactive {line : SdoLine ω} (h : line.server.segActive = false) :
    NoTransfer app line := by
  refine ⟨h, fun request toggle hrequest => ?_⟩
  rw [sdoLineStep, canopenSdoRxFrame_segment_idle hrequest.length hrequest.command h]
  exact ⟨_, rfl, rfl⟩

section Frame

variable {s s' : WatchedLine ω} {data : List Byte} {calls : List AppCall}

/-- A frame that leaves the server as it was keeps the rule if no transfer ran. -/
theorem endsTransfer_iff_of_unchanged (hlen : data.length = 8)
    (hserver : s'.line.server = s.line.server) (hfirst : dataAt data 0 ≠ 0x80)
    (hidle : commandSpecifier data = 3 → s.line.server.segActive = false)
    (hstarts : ¬ StartsSegmented s.line.server.od data)
    (haborts : commandSpecifier data = 3 → ∀ frame ∈ sentFrames calls, dataAt frame.data 0 = 0x80) :
    (EndsTransfer app s data calls s' ↔ ¬ Outlived s data) ∧ (¬ Outlived s data → Tracked s') := by
  have hiff : ¬ Outlived s data ↔ s.line.server.segActive = false := by
    constructor
    · intro hnot
      by_contra hactive
      have hactive' := Bool.eq_true_of_not_eq_false hactive
      have hcs : commandSpecifier data ≠ 3 := fun h => hactive (hidle h)
      exact hnot ⟨hactive', hlen, hcs, hfirst, hstarts⟩
    · rintro hinactive ⟨hactive, -⟩
      rw [hinactive] at hactive
      cases hactive
  rw [hiff]
  refine ⟨⟨fun h => ?_, fun h => ⟨fun _ _ => ?_, fun _ hcs frame hframe hdata => ?_⟩⟩, fun h => ?_⟩
  · by_cases hcs : commandSpecifier data = 3
    · exact hidle hcs
    · rw [← hserver]
      exact (h.ended (.inl ⟨hlen, hcs⟩) hstarts).inactive
  · exact noTransfer_of_inactive (hserver ▸ h)
  · exact absurd (haborts hcs frame hframe) hdata
  · intro hactive
    rw [hserver, h] at hactive
    cases hactive

/-- A frame that ends the transfer keeps the rule. -/
theorem endsTransfer_iff_of_inactive (hnot : ¬ Outlived s data)
    (hinactive : s'.line.server.segActive = false)
    (haborts : ∀ frame ∈ sentFrames calls, dataAt frame.data 0 = 0x80) :
    (EndsTransfer app s data calls s' ↔ ¬ Outlived s data) ∧
      (¬ Outlived s data → Tracked s') := by
  refine ⟨iff_of_true ⟨fun _ _ => ?_, fun _ _ frame hframe hdata => ?_⟩ hnot, fun _ => ?_⟩
  · exact noTransfer_of_inactive hinactive
  · exact absurd (haborts frame hframe) hdata
  · intro hactive
    rw [hinactive] at hactive
    cases hactive

end Frame

/-- A frame of another length changes nothing. -/
theorem watchedStep_of_length_ne (app : Application ω) {s : WatchedLine ω} {data : List Byte}
    (hlen : data.length ≠ 8) :
    watchedStep app data s = ([], ⟨s.line.unrecorded, s.named⟩) := by
  rw [watchedStep, if_neg (fun h => hlen h.1), sdoLineStep, canopenSdoRxFrame_of_length_ne hlen]
  rfl

/-- An initiate request that starts a transfer starts it for the object it names. -/
theorem endsTransfer_iff_of_start {s s' : WatchedLine ω} {data : List Byte}
    {calls : List AppCall} (hstarts : StartsSegmented s.line.server.od data)
    (htracked : Tracked s') :
    (EndsTransfer app s data calls s' ↔ ¬ Outlived s data) ∧ (¬ Outlived s data → Tracked s') := by
  have hnot : ¬ Outlived s data := fun h => h.2.2.2.2 hstarts
  refine ⟨iff_of_true ⟨fun _ h => absurd hstarts h, fun _ h => ?_⟩ hnot, fun _ => htracked⟩
  rw [hstarts.1] at h
  cases h

/-- A segment is a part of the object that the latest initiate request named. -/
theorem endsTransfer_iff_of_segment {s : WatchedLine ω} (hs : Tracked s) {data : List Byte}
    (hseg : commandSpecifier data = 3) (hactive : s.line.server.segActive = true)
    {dev : Device ω} {frame : CanopenFrame} {calls : List AppCall}
    (hsent : sentFrames calls = [frame])
    (hframe : frame = dataFrame s.line.server.cobId (segmentData s.line.server.segToggle
      s.line.server.chunk s.line.server.last (s.line.server.segmentBytes s.line.dev.mem))) :
    (EndsTransfer app s data calls ⟨⟨s.line.server.advanced, dev⟩, s.named⟩ ↔ ¬ Outlived s data) ∧
      (¬ Outlived s data → Tracked ⟨⟨s.line.server.advanced, dev⟩, s.named⟩) := by
  have hnot : ¬ Outlived s data := fun h => h.2.2.1 hseg
  obtain ⟨name, sub, object, k, hnamed, hfound, htransfer⟩ := hs hactive
  have hsegment := htransfer.isSegment s.line.dev.mem
  rw [← hframe] at hsegment
  refine ⟨iff_of_true ⟨?_, fun _ _ sent hmem _ => ?_⟩ hnot, fun _ hnext => ?_⟩
  · rintro (⟨-, h⟩ | ⟨sent, hmem, h⟩)
    · exact absurd hseg h
    · rw [hsent, List.mem_singleton] at hmem
      exact absurd (hmem ▸ h) hsegment.data
  · rw [hsent, List.mem_singleton] at hmem
    exact ⟨name, hnamed, sub, object, k, hfound, hmem ▸ hsegment.content⟩
  · have hafter := htransfer.afterSegments
    unfold AfterSegments at hafter
    split_ifs at hafter with hmore
    · exact ⟨name, sub, object, k + 1, hnamed, hfound, hafter⟩
    · rw [hafter] at hnext
      cases hnext

/-- One frame keeps the rule exactly if it leaves no transfer behind. -/
theorem endsTransfer_iff (app : Application ω) {s : WatchedLine ω} (hs : Tracked s)
    (data : List Byte) :
    (EndsTransfer app s data (watchedStep app data s).1 (watchedStep app data s).2 ↔
        ¬ Outlived s data) ∧
      (¬ Outlived s data → Tracked (watchedStep app data s).2) := by
  by_cases hlen : data.length = 8
  swap
  · have hnot : ¬ Outlived s data := fun h => hlen h.2.1
    rw [watchedStep_of_length_ne app hlen]
    refine ⟨iff_of_true ⟨?_, fun h => absurd h hlen⟩ hnot, fun _ => hs⟩
    rintro (⟨h, -⟩ | ⟨frame, h, -⟩)
    · exact absurd h hlen
    · cases h
  obtain ⟨-, hstep⟩ := sdoStep_of_length app s.line.server s.line.unrecorded.dev hlen
  simp only [watchedStep, sdoLineStep]
  generalize (canopenSdoRxFrame app s.line.server data s.line.unrecorded.dev).2.1 = server
    at hstep ⊢
  generalize (canopenSdoRxFrame app s.line.server data s.line.unrecorded.dev).2.2 = dev at hstep ⊢
  cases hstep with
  | cancel hfirst =>
      exact endsTransfer_iff_of_inactive (fun h => h.2.2.2.1 hfirst) rfl
        (fun _ h => absurd h List.not_mem_nil)
  | refuse index bSubindex e hfirst hidle hstarts =>
      apply endsTransfer_iff_of_unchanged hlen (by rfl) hfirst hidle hstarts
      intro _ frame hframe
      rw [List.mem_singleton.mp hframe]
      rfl
  | store hdown =>
      have hcs : commandSpecifier data ≠ 3 := by rw [hdown]; decide
      exact endsTransfer_iff_of_unchanged hlen rfl
        (dataAt_ne_of_commandSpecifier hdown (by decide)) (fun h => absurd h hcs)
        (not_startsSegmented_of_ne (by rw [hdown]; decide)) (fun h => absurd h hcs)
  | expedite hup sub object found readable small =>
      have hcs : commandSpecifier data ≠ 3 := by rw [hup]; decide
      have hnot : ¬ StartsSegmented s.line.server.od data := by
        rintro ⟨-, hstarts⟩
        rw [found] at hstarts
        exact hstarts.2 small
      exact endsTransfer_iff_of_unchanged hlen rfl (dataAt_ne_of_commandSpecifier hup (by decide))
        (fun h => absurd h hcs) hnot (fun h => absurd h hcs)
  | start hup sub object found readable large =>
      have hstarts : StartsSegmented s.line.server.od data := by
        refine ⟨hup, ?_⟩
        rw [found]
        exact ⟨readable, large⟩
      apply endsTransfer_iff_of_start hstarts
      intro _
      rw [if_pos ⟨hlen, .inr hup⟩]
      exact ⟨_, sub, object, 0, rfl, found, transferring_started _ _ _ _ large⟩
  | mismatch hseg =>
      apply endsTransfer_iff_of_inactive (fun h => h.2.2.1 hseg) (by rfl)
      intro frame hframe
      rw [List.mem_singleton.mp hframe]
      rfl
  | segment hseg hactive htoggle =>
      have hinit : ¬ IsInitiate data := by
        rintro ⟨-, h | h⟩
        · rw [hseg] at h
          cases h
        · rw [hseg] at h
          cases h
      rw [if_neg hinit]
      exact endsTransfer_iff_of_segment hs hseg hactive rfl rfl

/-- A run from `canopen_sdo_init` keeps the rule exactly if no request leaves a
running transfer behind. -/
theorem watchedRun_endsTransfer_iff (app : Application ω) (nodeId : Byte) (od : CanopenOd)
    (dev : Device ω) (frames : List (List Byte)) :
    EveryStep (total (watchedStep app)) (EndsTransfer app) (watchedInit nodeId od dev) frames ↔
      EveryStep (total (watchedStep app)) (fun s data _ _ => ¬ Outlived s data)
        (watchedInit nodeId od dev) frames := by
  apply everyStep_congr_while (I := Tracked)
  · intro s data hs
    exact yields_total.mpr (endsTransfer_iff app hs data)
  · intro hactive
    cases hactive

/-- An expedited upload of the device type does not end the upload of the device
name, whose first segment then answers the next segment request. -/
theorem not_watchedRun_endsTransfer :
    ¬ EveryStep (total (watchedStep weakApplication)) (EndsTransfer weakApplication)
      (watchedInit 1 canopenDefaultOdGet bootDevice)
      [[0x40, 0x08, 0x10, 0, 0, 0, 0, 0], [0x40, 0x00, 0x10, 0, 0, 0, 0, 0], segmentRequest 0] := by
  rintro ⟨_, _, hfirst, -, _, _, hsecond, hends, -⟩
  cases hfirst
  cases hsecond
  have hinactive := (hends.ended (.inl (by decide)) (by decide)).inactive
  revert hinactive
  decide

end AutomationBoard.Canopen
