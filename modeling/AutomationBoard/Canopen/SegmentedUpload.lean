/-
# A segmented upload from a running node

A client alternates the toggle bit of its segment requests and sends no other SDO
frame. Whatever the other services of the node do between two requests, the
client sees the transfer as if the server were alone: the answers are those of
the server to the same requests, and so they are the segments of the object.
-/

import AutomationBoard.Canopen.SegmentedTransfer
import AutomationBoard.Canopen.NodeRun

namespace AutomationBoard.Canopen

open AutomationBoard.Program

variable {ω : Type} {app : Application ω}

/-! ## Turns -/

/-- Other calls of the node, then a request of the client. -/
structure Turn where
  between : List NodeInput
  request : List Byte

/-- The node when the request arrives. -/
def Turn.arrival (app : Application ω) (turn : Turn) (s : System ω) : System ω :=
  (nodeRun app turn.between s).2

/-- The frames that the client receives in a turn, and the system after it. -/
def takeTurn (app : Application ω) (turn : Turn) (s : System ω) :
    List CanopenFrame × System ω :=
  let r := nodeRun app
    (turn.between ++ [.rxFrame (cobRsdoBase + s.node.nodeId.toNat) (some turn.request)]) s
  (clientFrames s.node.nodeId r.1, r.2)

/-- The frames that the client receives in each turn, and the system after all. -/
def takeTurns (app : Application ω) : List Turn → System ω → List (List CanopenFrame) × System ω
  | [], s => ([], s)
  | turn :: turns, s =>
      let r := takeTurn app turn s
      let rest := takeTurns app turns r.2
      (r.1 :: rest.1, rest.2)

/-- No other SDO frame comes in between, the node is not stopped when the request
arrives, and this is a segment request with a toggle bit. -/
structure Turn.Fetches (turn : Turn) (app : Application ω) (s : System ω) (toggle : Byte) :
    Prop where
  others : ∀ input ∈ turn.between, ¬ input.ForSdo s.node.nodeId
  running : (turn.arrival app s).node.nmt.state ≠ .stopped
  request : IsSegmentRequest turn.request toggle

instance (turn : Turn) (app : Application ω) (s : System ω) (toggle : Byte) :
    Decidable (turn.Fetches app s toggle) :=
  decidable_of_iff ((∀ input ∈ turn.between, ¬ input.ForSdo s.node.nodeId) ∧
      (turn.arrival app s).node.nmt.state ≠ .stopped ∧ IsSegmentRequest turn.request toggle)
    ⟨fun ⟨h1, h2, h3⟩ => ⟨h1, h2, h3⟩, fun ⟨h1, h2, h3⟩ => ⟨h1, h2, h3⟩⟩

/-- The turns fetch segments with alternating toggle bits from that of segment `k`
on, and the requests find the content of the object unchanged. -/
def SteadyFrom (app : Application ω) (object : Ptr) (content : List Byte) :
    ℕ → List Turn → System ω → Prop
  | _, [], _ => True
  | k, turn :: turns, s =>
      turn.Fetches app s (toggleOf k) ∧
        (turn.arrival app s).dev.mem.read object content.length = content ∧
        SteadyFrom app object content (k + 1) turns (takeTurn app turn s).2

instance instDecidableSteadyFrom (app : Application ω) (object : Ptr) (content : List Byte) :
    (k : ℕ) → (turns : List Turn) → (s : System ω) →
      Decidable (SteadyFrom app object content k turns s)
  | _, [], _ => isTrue trivial
  | k, turn :: turns, s =>
      haveI := instDecidableSteadyFrom app object content (k + 1) turns (takeTurn app turn s).2
      inferInstanceAs (Decidable (_ ∧ _ ∧ _))

/-- The turns fetch segments, with any toggle bits. -/
def FetchesAny (app : Application ω) : List Turn → System ω → Prop
  | [], _ => True
  | turn :: turns, s =>
      (∃ toggle, turn.Fetches app s toggle) ∧ FetchesAny app turns (takeTurn app turn s).2

/-! ## The turns as the server sees them -/

section Turns

variable {s : System ω} {nodeId : Byte} {od : CanopenOd}

/-- A turn is a step of the server at the device that the request finds. -/
theorem takeTurn_eq (h : s.node.Configured nodeId od) {turn : Turn} {toggle : Byte}
    (hfetches : turn.Fetches app s toggle) :
    (takeTurn app turn s).1 =
        sentFrames (sdoLineStep app turn.request ⟨s.node.sdo, (turn.arrival app s).dev⟩).1 ∧
      (takeTurn app turn s).2.node.sdo =
        (sdoLineStep app turn.request ⟨s.node.sdo, (turn.arrival app s).dev⟩).2.server ∧
      (takeTurn app turn s).2.node.Configured nodeId od := by
  obtain ⟨hothers, hrunning, hrequest⟩ := hfetches
  rw [h.nodeId_eq] at hothers
  obtain ⟨hsdo, hsilent⟩ := nodeRun_others app h hothers
  have harrival : (turn.arrival app s).node.Configured nodeId od :=
    h.of_config_eq (config_nodeRun app turn.between s)
  obtain ⟨-, hserver, -⟩ := nodeStep_rsdo app harrival hrunning turn.request
  have hframes := clientFrames_rsdo app harrival hrunning hrequest.length
  rw [← hsdo]
  simp only [takeTurn, nodeRun_append, nodeRun, List.append_nil, clientFrames_append, h.nodeId_eq,
    hsilent, List.nil_append]
  exact ⟨hframes, hserver, harrival.of_config_eq (config_nodeStep app _ _)⟩

/-- The requests with the devices that they find. -/
def arrivalsOf (app : Application ω) : List Turn → System ω → List (List Byte × Device ω)
  | [], _ => []
  | turn :: turns, s =>
      (turn.request, (turn.arrival app s).dev) :: arrivalsOf app turns (takeTurn app turn s).2

/-- What the client receives is what the server answers to the requests alone. -/
theorem takeTurns_eq (h : s.node.Configured nodeId od) {turns : List Turn}
    (hfetches : FetchesAny app turns s) :
    (takeTurns app turns s).1 = (answerSegments app (arrivalsOf app turns s) s.node.sdo).1 ∧
      (takeTurns app turns s).2.node.sdo =
        (answerSegments app (arrivalsOf app turns s) s.node.sdo).2 ∧
      (takeTurns app turns s).2.node.Configured nodeId od := by
  induction turns generalizing s with
  | nil => exact ⟨rfl, rfl, h⟩
  | cons turn turns ih =>
      obtain ⟨⟨toggle, hturn⟩, hrest⟩ := hfetches
      obtain ⟨hframes, hserver, hconf⟩ := takeTurn_eq h hturn
      obtain ⟨hframes', hserver', hconf'⟩ := ih hconf hrest
      simp only [takeTurns, arrivalsOf, answerSegments, hframes, hframes', hserver, hserver',
        true_and]
      exact hconf'

end Turns

theorem SteadyFrom.fetchesAny {object : Ptr} {content : List Byte} {k : ℕ} {turns : List Turn}
    {s : System ω} (h : SteadyFrom app object content k turns s) : FetchesAny app turns s := by
  induction turns generalizing k s with
  | nil => trivial
  | cons turn turns ih => exact ⟨⟨_, h.1⟩, ih h.2.2⟩

theorem SteadyFrom.alternating {object : Ptr} {content : List Byte} {k : ℕ} {turns : List Turn}
    {s : System ω} (h : SteadyFrom app object content k turns s) :
    Alternating object content k (arrivalsOf app turns s) := by
  induction turns generalizing k s with
  | nil => trivial
  | cons turn turns ih => exact ⟨h.1.request, h.2.1, ih h.2.2⟩

theorem FetchesAny.requests {turns : List Turn} {s : System ω} (h : FetchesAny app turns s) :
    ∀ arrival ∈ arrivalsOf app turns s, ∃ toggle, IsSegmentRequest arrival.1 toggle := by
  induction turns generalizing s with
  | nil => exact fun _ h => absurd h List.not_mem_nil
  | cons turn turns ih =>
      obtain ⟨⟨toggle, hturn⟩, hrest⟩ := h
      simp only [arrivalsOf, List.forall_mem_cons]
      exact ⟨⟨toggle, hturn.request⟩, ih hrest⟩

@[simp]
theorem length_arrivalsOf (turns : List Turn) (s : System ω) :
    (arrivalsOf app turns s).length = turns.length := by
  induction turns generalizing s with
  | nil => rfl
  | cons turn turns ih => rw [arrivalsOf, List.length_cons, ih, List.length_cons]

@[simp]
theorem length_takeTurns (turns : List Turn) (s : System ω) :
    (takeTurns app turns s).1.length = turns.length := by
  induction turns generalizing s with
  | nil => rfl
  | cons turn turns ih => rw [takeTurns, List.length_cons, ih, List.length_cons]

/-! ## The transfer -/

/-- What a client gets after an upload initiate request left the node in `r`. As
many turns as there are segments bring one segment each, and together the object.
A turn after the last segment or with the wrong toggle bit, and every turn after
that, brings an abort. -/
structure Reassembles (app : Application ω) (nodeId : Byte) (object : Ptr) (size : Long)
    (r : List AppCall × System ω) : Prop where
  announced : ∃ frame, clientFrames nodeId r.1 = [frame] ∧
    readUploadReply frame.data = .segmented size
  segments : ∀ turns, SteadyFrom app object (r.2.dev.mem.read object size.toNat) 0 turns r.2 →
    turns.length ≤ segmentCount size →
      Segments (r.2.dev.mem.read object size.toNat) size 0 (takeTurns app turns r.2).1
  whole : ∀ turns, SteadyFrom app object (r.2.dev.mem.read object size.toNat) 0 turns r.2 →
    turns.length = segmentCount size →
      (takeTurns app turns r.2).1.flatten.flatMap (segmentContent ·.data) =
        r.2.dev.mem.read object size.toNat
  aborted : ∀ turns late toggle, ∀ turn : Turn,
    SteadyFrom app object (r.2.dev.mem.read object size.toNat) 0 turns r.2 →
    turns.length ≤ segmentCount size →
    turn.Fetches app (takeTurns app turns r.2).2 toggle →
    (turns.length < segmentCount size → toggle ≠ toggleOf turns.length) →
    FetchesAny app late (takeTurn app turn (takeTurns app turns r.2).2).2 →
      ∀ frames ∈ (takeTurns app (turn :: late) (takeTurns app turns r.2).2).1, IsAbort frames

/-- A server that has started a transfer serves it to the end. -/
theorem reassembles_of_transferring {nodeId : Byte} {od : CanopenOd} {object : Ptr} {size : Long}
    {r : List AppCall × System ω} (h : r.2.node.Configured nodeId od)
    (hannounced : ∃ frame, clientFrames nodeId r.1 = [frame] ∧
      readUploadReply frame.data = .segmented size)
    (hstarted : Transferring r.2.node.sdo object size 0) :
    Reassembles app nodeId object size r := by
  have hlength := Memory.length_read r.2.dev.mem object size.toNat
  have hserved : ∀ turns,
      SteadyFrom app object (r.2.dev.mem.read object size.toNat) 0 turns r.2 →
      turns.length ≤ segmentCount size →
        Segments (r.2.dev.mem.read object size.toNat) size 0 (takeTurns app turns r.2).1 ∧
          AfterSegments (takeTurns app turns r.2).2.node.sdo object size turns.length ∧
          (takeTurns app turns r.2).2.node.Configured nodeId od := by
    intro turns hsteady hcount
    obtain ⟨hframes, hserver, hconf⟩ := takeTurns_eq h hsteady.fetchesAny
    have hspec := answerSegments_spec app hlength hstarted.afterSegments_self
      (by rwa [Nat.zero_add, length_arrivalsOf]) hsteady.alternating
    rw [Nat.zero_add, length_arrivalsOf] at hspec
    rw [hframes, hserver]
    exact ⟨hspec.1, hspec.2, hconf⟩
  refine ⟨hannounced, ?_, ?_, ?_⟩
  · intro turns hsteady hcount
    exact (hserved turns hsteady hcount).1
  · intro turns hsteady hcount
    exact (hserved turns hsteady hcount.le).1.flatMap_content_all hlength
      ((length_takeTurns turns r.2).trans hcount)
  · intro turns late toggle turn hsteady hcount hturn hwrong hlate
    obtain ⟨-, hafter, hconf⟩ := hserved turns hsteady hcount
    obtain ⟨hframes, hserver, hconf'⟩ := takeTurn_eq hconf hturn
    obtain ⟨habort, hidle⟩ := hafter.aborted app hturn.request hwrong
      (turn.arrival app (takeTurns app turns r.2).2).dev
    obtain ⟨hframes', -, -⟩ := takeTurns_eq hconf' hlate
    simp only [takeTurns, List.forall_mem_cons, hframes, hframes']
    exact ⟨habort, answerSegments_idle (hserver ▸ hidle) hlate.requests⟩

/-- Whatever an initialised node has been through, the upload of a readable object
of more than four bytes is announced with its size and brings its bytes in
alternating segments. -/
theorem canopenRxFrame_reassembles (app : Application ω) {nodeId : Byte} {od : Option CanopenOd}
    {dev : Device ω} {s : System ω} (hinit : canopenInit app nodeId od dev = some s)
    (history : List NodeInput) {data : List Byte} (hlen : data.length = 8)
    (hcs : commandSpecifier data = 2) {sub : Subindex} {object : Ptr}
    (hfound : odObject (od.getD canopenDefaultOdGet) (requestIndex data) (requestSubindex data) =
      .ok (sub, object))
    (hreadable : ReadAllowed sub.bAccessType) (hlarge : 4 < sub.size.toNat)
    (hrunning : (nodeRun app history s).2.node.nmt.state ≠ .stopped) :
    Reassembles app nodeId object sub.size (nodeStep app
      (.rxFrame (cobRsdoBase + nodeId.toNat) (some data)) (nodeRun app history s).2) := by
  have hconf : (nodeRun app history s).2.node.Configured nodeId (od.getD canopenDefaultOdGet) :=
    (configured_initialised hinit).of_config_eq (config_nodeRun app history s)
  have hlarge' : ¬ sub.size ≤ 4 := Nat.not_le.mpr hlarge
  have hfound' : odObject (nodeRun app history s).2.node.sdo.od (requestIndex data)
      (requestSubindex data) = .ok (sub, object) := by
    rw [hconf.sdoOd_eq, hfound]
  obtain ⟨-, hserver, -⟩ := nodeStep_rsdo app hconf hrunning data
  have hframes := clientFrames_rsdo app hconf hrunning hlen
  have hstep : ∀ line : SdoLine ω, line.server = (nodeRun app history s).2.node.sdo →
      sentFrames (sdoLineStep app data line).1 =
          [dataFrame line.server.cobId (initiateUploadData data sub.size)] ∧
        (sdoLineStep app data line).2.server =
          line.server.started (requestIndex data) (requestSubindex data) object sub.size := by
    intro line hline
    rw [sdoLineStep, canopenSdoRxFrame_upload hlen hcs, initiateUpload_segmented
      (by rw [hline]; exact hfound') (uploadAllowed_of_readAllowed hreadable) hlarge']
    exact ⟨rfl, rfl⟩
  obtain ⟨hsent, hstarted⟩ := hstep ⟨_, (nodeRun app history s).2.dev⟩ rfl
  apply reassembles_of_transferring (hconf.of_config_eq (config_nodeStep app _ _))
  · exact ⟨_, hframes.trans hsent, readUploadReply_initiateUploadData data sub.size⟩
  · rw [hserver, hstarted]
    exact transferring_started _ _ _ _ hlarge'

/-- The device name, with the timers running between the requests. -/
theorem canopenRxFrame_reassembles_deviceName :
    (takeTurns weakApplication ((List.range 4).map fun k => ⟨[.process 10], segmentRequest k⟩)
      (nodeStep weakApplication (.rxFrame 0x601 (some [0x40, 0x08, 0x10, 0, 0, 0, 0, 0]))
        (initialised weakApplication 1 none bootDevice)).2).1.flatten.flatMap
          (segmentContent ·.data) = Variable.obj1008.initial := by
  have hinit : canopenInit weakApplication 1 none bootDevice =
      some (initialised weakApplication 1 none bootDevice) := rfl
  have hlen : [0x40, 0x08, 0x10, 0, 0, 0, 0, (0 : Byte)].length = 8 := rfl
  have h := canopenRxFrame_reassembles weakApplication hinit [] hlen rfl rfl (by decide)
    (by decide) (by decide)
  exact (h.whole _ (by decide) rfl).trans (by decide)

end AutomationBoard.Canopen
