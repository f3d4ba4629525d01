/-
# A network of nodes

Nodes with ids of their own on one CAN bus, whatever else is on it. Each node
transmits on identifiers that no other node uses, as the arbitration of the bus
requires, and that no node of this kind listens to. So a node in a network does
exactly what it would do without the other nodes. The controller of a node is taken
to send its frames in the order in which they were queued.
-/

import AutomationBoard.Canopen.NodeFrames
import AutomationBoard.Program.SharedLine

namespace AutomationBoard.Canopen

open AutomationBoard.Program

variable {ω : Type} {app : Application ω}

/-! ## Nodes on a bus -/

/-- The frame that `can_driver_transmit` puts on the bus: the identifier has 11
bits. -/
def wireFrame (frame : CanopenFrame) : CanopenFrame := { frame with cobId := frame.cobId % 0x800 }

/-- The frame of a call that the transmitter has accepted. -/
def AppCall.accepted? : AppCall → Option CanopenFrame
  | .transmit frame ret _ => if ret = 0 then some (wireFrame frame) else none
  | _ => none

/-- The frames that go on the bus, in order. -/
def acceptedFrames (calls : List AppCall) : List CanopenFrame := calls.filterMap AppCall.accepted?

/-- A node on the bus. What `can_driver_receive` takes off the bus is handed to
`canopen_rx_frame`, and no filter holds a frame back. -/
def canStation (app : Application ω) : StationKind (System ω) NodeInput CanopenFrame where
  step input s := (acceptedFrames (nodeStep app input s).1, (nodeStep app input s).2)
  hear frame := .rxFrame frame.cobId (some frame.data)

/-- What the transmitter has accepted was handed to it. -/
theorem exists_of_mem_acceptedFrames {calls : List AppCall} {frame : CanopenFrame}
    (h : frame ∈ acceptedFrames calls) : ∃ sent ∈ sentFrames calls, frame = wireFrame sent := by
  obtain ⟨call, hcall, haccepted⟩ := List.mem_filterMap.mp h
  cases call with
  | transmit sent ret mem =>
      simp only [AppCall.accepted?] at haccepted
      split at haccepted
      · cases haccepted
        exact ⟨sent, List.mem_filterMap.mpr ⟨_, hcall, rfl⟩, rfl⟩
      · cases haccepted
  | syncInputs | syncOutputs | postWrite => cases haccepted

/-! ## Identifiers -/

/-- The bases of the identifiers that a node transmits on. -/
def producerBases : List ℕ := [cobTpdo1Base, cobTpdo2Base, cobTsdoBase, cobHeartbeatBase]

/-- The bases of the identifiers that a node listens to, apart from NMT and SYNC. -/
def consumerBases : List ℕ := [cobRpdo1Base, cobRpdo2Base, cobRsdoBase]

/-- An identifier that a node transmits on. -/
def Produces (nodeId : Byte) (cobId : ℕ) : Prop := ∃ base ∈ producerBases, cobId = base + nodeId.toNat

/-- An identifier that a node listens to. -/
def Consumes (nodeId : Byte) (cobId : ℕ) : Prop :=
  cobId = cobNmt ∨ cobId = cobSync ∨ ∃ base ∈ consumerBases, cobId = base + nodeId.toNat

/-- A node id that `canopen_init` accepts. -/
def ValidNodeId (nodeId : Byte) : Prop := 1 ≤ nodeId.toNat ∧ nodeId.toNat ≤ 127

section Identifiers

variable {nodeId otherId : Byte} {cobId : ℕ}

/-- The bases are further apart than the ids reach. -/
theorem Produces.nodeId_eq (h : Produces nodeId cobId) (h' : Produces otherId cobId)
    (hvalid : ValidNodeId nodeId) (hvalid' : ValidNodeId otherId) : nodeId = otherId := by
  obtain ⟨base, hbase, rfl⟩ := h
  obtain ⟨base', hbase', heq⟩ := h'
  obtain ⟨hlow, hhigh⟩ := hvalid
  obtain ⟨hlow', hhigh'⟩ := hvalid'
  apply BitVec.eq_of_toNat_eq
  simp only [producerBases, cobTpdo1Base, cobTpdo2Base, cobTsdoBase, cobHeartbeatBase,
    List.mem_cons, List.not_mem_nil, or_false] at hbase hbase'
  omega

/-- No node listens to what a node transmits on. -/
theorem Produces.not_consumes (h : Produces nodeId cobId) (hvalid : ValidNodeId nodeId)
    (hvalid' : ValidNodeId otherId) : ¬ Consumes otherId cobId := by
  obtain ⟨base, hbase, rfl⟩ := h
  obtain ⟨hlow, hhigh⟩ := hvalid
  obtain ⟨hlow', hhigh'⟩ := hvalid'
  simp only [producerBases, cobTpdo1Base, cobTpdo2Base, cobTsdoBase, cobHeartbeatBase,
    List.mem_cons, List.not_mem_nil, or_false] at hbase
  rintro (hnmt | hsync | ⟨base', hbase', heq⟩)
  · rw [cobNmt] at hnmt
    omega
  · rw [cobSync] at hsync
    omega
  · simp only [consumerBases, cobRpdo1Base, cobRpdo2Base, cobRsdoBase, List.mem_cons,
      List.not_mem_nil, or_false] at hbase'
    omega

/-- The identifiers of a node have 11 bits. -/
theorem Produces.lt (h : Produces nodeId cobId) (hvalid : ValidNodeId nodeId) : cobId < 0x800 := by
  obtain ⟨base, hbase, rfl⟩ := h
  obtain ⟨hlow, hhigh⟩ := hvalid
  simp only [producerBases, cobTpdo1Base, cobTpdo2Base, cobTsdoBase, cobHeartbeatBase,
    List.mem_cons, List.not_mem_nil, or_false] at hbase
  omega

end Identifiers

/-! ## One node -/

section Node

variable {s t : System ω} {nodeId : Byte} {od : CanopenOd}

/-- A node hands over frames on identifiers of its own only. -/
theorem produces_of_mem_sentFrames (h : s.node.Configured nodeId od) {input : NodeInput}
    {frame : CanopenFrame} (hframe : frame ∈ sentFrames (nodeStep app input s).1) :
    Produces nodeId frame.cobId := by
  obtain ⟨period, hconfig⟩ := h.config
  have hmay := nodeStep_maySend app input s hframe
  rw [hconfig] at hmay
  cases hmay with
  | bootup | heartbeat => exact ⟨cobHeartbeatBase, by decide, rfl⟩
  | tpdo1 => exact ⟨cobTpdo1Base, by decide, rfl⟩
  | tpdo2 => exact ⟨cobTpdo2Base, by decide, rfl⟩
  | sdo => exact ⟨cobTsdoBase, by decide, rfl⟩

theorem produces_of_mem_acceptedFrames {calls : List AppCall} (hvalid : ValidNodeId nodeId)
    (hsent : ∀ frame ∈ sentFrames calls, Produces nodeId frame.cobId) {frame : CanopenFrame}
    (hframe : frame ∈ acceptedFrames calls) : Produces nodeId frame.cobId := by
  obtain ⟨sent, hmem, rfl⟩ := exists_of_mem_acceptedFrames hframe
  have hproduces := hsent sent hmem
  rw [wireFrame, Nat.mod_eq_of_lt (hproduces.lt hvalid)]
  exact hproduces

/-- A frame that a node does not listen to does nothing. -/
theorem nodeStep_of_not_consumes (app : Application ω) (h : s.node.Configured nodeId od)
    {frame : CanopenFrame} (hdeaf : ¬ Consumes nodeId frame.cobId) :
    nodeStep app (.rxFrame frame.cobId (some frame.data)) s = ([], s.unrecorded) := by
  have hid : s.unrecorded.node.nodeId = nodeId := h.nodeId_eq
  have hnmt : frame.cobId ≠ cobNmt := fun heq => hdeaf (.inl heq)
  have hsync : frame.cobId ≠ cobSync := fun heq => hdeaf (.inr (.inl heq))
  have hsdo : frame.cobId ≠ s.unrecorded.node.rsdoCobId := by
    rw [CanopenNode.rsdoCobId, hid]
    exact fun heq => hdeaf (.inr (.inr ⟨cobRsdoBase, by decide, heq⟩))
  have hrpdo : ¬ (frame.cobId = s.unrecorded.node.rpdo1CobId ∨
      frame.cobId = s.unrecorded.node.rpdo2CobId) := by
    rw [CanopenNode.rpdo1CobId, CanopenNode.rpdo2CobId, hid]
    rintro (heq | heq)
    · exact hdeaf (.inr (.inr ⟨cobRpdo1Base, by decide, heq⟩))
    · exact hdeaf (.inr (.inr ⟨cobRpdo2Base, by decide, heq⟩))
  simp only [nodeStep, enter, canopenRxFrame, rxPayload, if_neg hnmt, if_neg hsync, if_neg hsdo,
    if_neg hrpdo]
  rfl

/-- What was recorded before does not matter to a call. -/
theorem nodeStep_congr (app : Application ω) (h : s.unrecorded = t.unrecorded)
    (input : NodeInput) : nodeStep app input s = nodeStep app input t := by
  rw [nodeStep, nodeStep, h]

end Node

/-! ## The network -/

section Network

variable {κ : Type} {id : κ → Byte} {line : Line κ (System ω) CanopenFrame}

/-- Each node has a valid id of its own. -/
structure NodeIds (id : κ → Byte) : Prop where
  distinct : Function.Injective id
  valid : ∀ k, ValidNodeId (id k)

/-- Nodes with ids of their own take no notice of each other. -/
theorem NodeIds.separate (app : Application ω) (h : NodeIds id) :
    Separate (canStation app) (fun k s => ∃ od, s.node.Configured (id k) od)
      (fun k frame => Produces (id k) frame.cobId) (fun _ s t => s.unrecorded = t.unrecorded)
      (fun _ => Eq) where
  keeps := by
    rintro k s ⟨od, hs⟩ input
    exact ⟨od, hs.of_config_eq (config_nodeStep app input s)⟩
  sends := by
    rintro k s ⟨od, hs⟩ input frame hframe
    exact produces_of_mem_acceptedFrames (h.valid k)
      (fun _ hsent => produces_of_mem_sentFrames hs hsent) hframe
  silent := by
    rintro j k s frame - hframe ⟨od, hs⟩
    have hdeaf := hframe.not_consumes (h.valid j) (h.valid k)
    simp only [canStation, nodeStep_of_not_consumes app hs hdeaf]
    rfl
  unmoved := by
    rintro j k s t frame - hframe ⟨od, hs⟩ hst
    have hdeaf := hframe.not_consumes (h.valid j) (h.valid k)
    simp only [canStation, nodeStep_of_not_consumes app hs hdeaf]
    exact hst
  alike := by
    rintro k s t - hst input
    simp only [canStation, nodeStep_congr app hst input, and_self]

/-- The nodes have just been initialised, with the default dictionary or another
one, and their boot-up frames wait. -/
def Booted (app : Application ω) (id : κ → Byte) (line : Line κ (System ω) CanopenFrame) : Prop :=
  ∀ k, ∃ od dev, dev.calls = [] ∧ canopenInit app (id k) od dev = some (line.state k) ∧
    line.queue k = acceptedFrames (line.state k).dev.calls

theorem Booted.valid (h : Booted app id line) (k : κ) : ValidNodeId (id k) := by
  obtain ⟨od, dev, -, hinit, -⟩ := h k
  exact (canopenInit_eq_some hinit).1

theorem Booted.nodeIds (h : Booted app id line) (hid : Function.Injective id) : NodeIds id :=
  ⟨hid, h.valid⟩

theorem Booted.sound (h : Booted app id line) :
    line.Sound (fun k s => ∃ od, s.node.Configured (id k) od)
      (fun k frame => Produces (id k) frame.cobId) := by
  constructor
  · intro k
    obtain ⟨od, dev, -, hinit, -⟩ := h k
    exact ⟨_, configured_initialised hinit⟩
  · intro k frame hframe
    obtain ⟨od, dev, hcalls, hinit, hqueue⟩ := h k
    rw [hqueue] at hframe
    refine produces_of_mem_acceptedFrames (h.valid k) ?_ hframe
    intro sent hsent
    rw [(canopenInit_eq_some hinit).2] at hsent
    simp only [initialised, canopenNmtInit, canopenNmtSendBootup, Device.calls_send, hcalls,
      List.nil_append, sentFrames_transmit, List.mem_singleton] at hsent
    subst hsent
    exact ⟨cobHeartbeatBase, by decide, rfl⟩

variable [DecidableEq κ] {events : List (LineEvent κ NodeInput CanopenFrame)}

/-- A frame that a node sends in a run, or has yet to send after it. -/
def Emits (app : Application ω) (line : Line κ (System ω) CanopenFrame)
    (events : List (LineEvent κ NodeInput CanopenFrame)) (k : κ) (frame : CanopenFrame) : Prop :=
  .sent k frame ∈ events ∨ frame ∈ (line.run (canStation app) events).queue k

theorem Emits.produces (hid : Function.Injective id) (hboot : Booted app id line)
    (hlegal : line.Legal (canStation app) events) {k : κ} {frame : CanopenFrame}
    (h : Emits app line events k frame) : Produces (id k) frame.cobId := by
  have sep := (hboot.nodeIds hid).separate app
  rcases h with hsent | hqueue
  · exact sep.own_of_sent hboot.sound hlegal hsent
  · exact (sep.sound_run hboot.sound events).queue k frame hqueue

/-- In a network of nodes with ids of their own, whatever frames come from outside
and in whatever order things happen, an identifier is used by one node only, and
no node listens to it. -/
theorem network_cobIds (hid : Function.Injective id) (hboot : Booted app id line)
    (hlegal : line.Legal (canStation app) events) {j : κ} {frame : CanopenFrame}
    (hframe : Emits app line events j frame) :
    (∀ k frame', Emits app line events k frame' → frame'.cobId = frame.cobId → k = j) ∧
      ∀ k, ¬ Consumes (id k) frame.cobId := by
  have hproduces := hframe.produces hid hboot hlegal
  constructor
  · intro k frame' hframe' heq
    have hproduces' := hframe'.produces hid hboot hlegal
    rw [heq] at hproduces'
    exact hid (hproduces'.nodeId_eq hproduces (hboot.valid k) (hboot.valid j))
  · intro k
    exact hproduces.not_consumes (hboot.valid j) (hboot.valid k)

/-- In a network of nodes with ids of their own, each node sends what it would send
without the other nodes, and ends up in the same state. -/
theorem network_alone (hid : Function.Injective id) (hboot : Booted app id line)
    (hlegal : line.Legal (canStation app) events) (k : κ) :
    Yields (runAll (total (nodeStep app)) (ownInputs (slotsOf (canStation app).hear k events)))
      (line.state k) fun calls s' =>
        ((line.run (canStation app) events).state k).unrecorded = s'.unrecorded ∧
          sentBy k events ++ (line.run (canStation app) events).queue k =
            line.queue k ++ (calls.map acceptedFrames).flatten := by
  have hprog : ∀ s input, Yields (total (nodeStep app) input) s fun calls s' =>
      (acceptedFrames calls, s') = (canStation app).step input s :=
    fun s input => yields_total.mpr rfl
  have hstation := ((hboot.nodeIds hid).separate app).yields_station hboot.sound hlegal k rfl
  rw [yields_runAll_total (f := acceptedFrames) hprog] at hstation
  apply hstation.mono
  rintro calls s' ⟨hstate, answers, hundisturbed, hqueue⟩
  exact ⟨hstate, by rw [← hundisturbed.flatten_eq, hqueue]⟩

end Network

/-! ## Two nodes -/

/-- Two nodes that have been started up with weak hooks. -/
def twoNodes : Line Bool (System Unit) CanopenFrame where
  state second := initialised weakApplication (if second then 2 else 1) none bootDevice
  queue second := [dataFrame (if second then 0x702 else 0x701) [0x00]]

theorem booted_twoNodes :
    Booted weakApplication (fun second : Bool => if second then (2 : Byte) else 1) twoNodes := by
  intro second
  refine ⟨none, bootDevice, rfl, ?_, ?_⟩
  · cases second <;> rfl
  · cases second <;> rfl

/-- One node boots, both are started, and their heartbeats are due. -/
def twoNodesEvents : List (LineEvent Bool NodeInput CanopenFrame) :=
  [.sent true (dataFrame 0x702 [0x00]), .outside (dataFrame cobNmt [0x01, 0x00]),
    .input true (.process 1000), .sent false (dataFrame 0x701 [0x00])]

theorem legal_twoNodesEvents : twoNodes.Legal (canStation weakApplication) twoNodesEvents :=
  ⟨rfl, trivial, trivial, rfl, trivial⟩

theorem network_cobIds_twoNodes :
    (∀ k frame', Emits weakApplication twoNodes twoNodesEvents k frame' →
        frame'.cobId = (dataFrame 0x702 [0x00]).cobId → k = true) ∧
      ∀ k : Bool, ¬ Consumes (if k then 2 else 1) (dataFrame 0x702 [0x00]).cobId :=
  network_cobIds (by decide) booted_twoNodes legal_twoNodesEvents
    (.inl List.mem_cons_self)

theorem network_alone_twoNodes :
    Yields (runAll (total (nodeStep weakApplication))
        (ownInputs (slotsOf (canStation weakApplication).hear true twoNodesEvents)))
      (twoNodes.state true) fun calls s' =>
        ((twoNodes.run (canStation weakApplication) twoNodesEvents).state true).unrecorded =
            s'.unrecorded ∧
          sentBy true twoNodesEvents ++
              (twoNodes.run (canStation weakApplication) twoNodesEvents).queue true =
            twoNodes.queue true ++ (calls.map acceptedFrames).flatten :=
  network_alone (by decide) booted_twoNodes legal_twoNodesEvents true

end AutomationBoard.Canopen
