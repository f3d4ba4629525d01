/-
# The engines' parameters and the dictionary

The heartbeat producer, the TPDOs and the RPDOs run with parameters of their own,
which the dictionary shows under writable objects. `canopen_init` sets the two
equal except for the event timers, and no call changes the engines' side. So the
two agree in every state of a run exactly if they agree at the start and no
accepted download changes one of these objects.
-/

import AutomationBoard.Canopen.Objects
import Mathlib.Data.Nat.Digits.Defs

namespace AutomationBoard.Canopen

open AutomationBoard.Modbus (toNat_word toNat_loByte toNat_hiByte)
open AutomationBoard.Program

variable {ω : Type} {app : Application ω}

/-! ## Values -/

/-- The number that bytes in memory stand for. -/
def littleEndian (bytes : List Byte) : ℕ := Nat.ofDigits 256 (bytes.map BitVec.toNat)

theorem littleEndian_wordBytes (value : Word) : littleEndian (wordBytes value) = value.toNat := by
  simp only [littleEndian, wordBytes, List.map_cons, List.map_nil, Nat.ofDigits_cons,
    Nat.ofDigits_nil, toNat_loByte, toNat_hiByte]
  omega

theorem littleEndian_longBytes (value : Long) : littleEndian (longBytes value) = value.toNat := by
  have := value.isLt
  simp only [littleEndian, longBytes, List.map_cons, List.map_nil, Nat.ofDigits_cons,
    Nat.ofDigits_nil, toNat_longByte]
  omega

/-- Different bytes stand for different numbers. -/
theorem littleEndian_inj {bytes bytes' : List Byte} (hlen : bytes.length = bytes'.length)
    (h : littleEndian bytes = littleEndian bytes') : bytes = bytes' := by
  have hbyte : ∀ (l : List Byte), ∀ d ∈ l.map BitVec.toNat, d < 256 := by
    intro l d hd
    obtain ⟨b, -, rfl⟩ := List.mem_map.mp hd
    exact b.isLt
  have hdigits := Nat.ofDigits_inj_of_len_eq (by decide) (by simpa using hlen) (hbyte bytes)
    (hbyte bytes') h
  exact List.map_injective_iff.mpr (fun _ _ => BitVec.eq_of_toNat_eq) hdigits

/-- The value of an object. -/
def objectValue (od : CanopenOd) (mem : Mem) (name : Word × Byte) : ℕ :=
  littleEndian (objectBytes od mem name)

/-! ## Parameters -/

/-- The objects that show the parameters of the engines, with the parameters. -/
def engineParameters : List ((Word × Byte) × (NodeConfig → ℕ)) :=
  [((0x1017, 0), fun config => config.heartbeatPeriodMs.toNat),
    ((0x1800, 5), fun config => config.pdo.tpdo1.eventTimerMs.toNat),
    ((0x1801, 5), fun config => config.pdo.tpdo2.eventTimerMs.toNat),
    ((0x1800, 1), fun config => config.pdo.tpdo1.cobId),
    ((0x1801, 1), fun config => config.pdo.tpdo2.cobId),
    ((0x1400, 1), fun config => cobRpdo1Base + config.nodeId.toNat),
    ((0x1401, 1), fun config => cobRpdo2Base + config.nodeId.toNat)]

/-- The engines run with the values of the dictionary. -/
def Coherent (s : System ω) : Prop :=
  ∀ parameter ∈ engineParameters,
    parameter.2 s.node.config = objectValue s.node.od s.dev.mem parameter.1

/-- The dictionary accepts the download. -/
def Accepts (od : CanopenOd) (data : List Byte) : Prop :=
  ∃ sub object, odObject od (requestIndex data) (requestSubindex data) = .ok (sub, object) ∧
    sub.bAccessType &&& accessWriteMask ≠ 0 ∧
    (0 < sub.size.toNat → sub.size.toNat = (expeditedBytes data).length)

/-- The call is an accepted download that changes one of these objects. -/
def ChangesParameter (s : System ω) (input : NodeInput) : Prop :=
  ∃ data, input = .rxFrame (cobRsdoBase + s.node.nodeId.toNat) (some data) ∧
    s.node.nmt.state ≠ .stopped ∧ data.length = 8 ∧ commandSpecifier data = 1 ∧
    expeditedFlag data = 1 ∧ Accepts s.node.od data ∧
    requestName data ∈ engineParameters.map Prod.fst ∧
    expeditedBytes data ≠ objectBytes s.node.od s.dev.mem (requestName data)

/-! ## The default dictionary -/

/-- The parameters are objects, and no inputs or outputs. -/
theorem found_of_engineParameters : ∀ name ∈ engineParameters.map Prod.fst,
    ∃ sub object, odObject canopenDefaultOdGet name.1 name.2 = .ok (sub, object) ∧
      object.block ≠ .obj6000DiState ∧ object.block ≠ .obj6401Ai ∧
      object.block ≠ .obj6200DoState ∧ object.block ≠ .obj6411Ao := by
  simp only [engineParameters, List.map_cons, List.map_nil, List.forall_mem_cons]
  refine ⟨?_, ?_, ?_, ?_, ?_, ?_, ?_, fun _ h => absurd h List.not_mem_nil⟩
  all_goals exact ⟨_, _, rfl, by decide, by decide, by decide, by decide⟩

/-- A call leaves the bytes of a parameter, or it is an accepted download of them. -/
theorem parameter_nodeWrite {nodeId : Byte} {state : NmtState} {mem mem' : Mem}
    {input : NodeInput} (h : NodeWrite nodeId canopenDefaultOdGet state mem input mem')
    {name : Word × Byte} (hname : name ∈ engineParameters.map Prod.fst) :
    objectBytes canopenDefaultOdGet mem' name = objectBytes canopenDefaultOdGet mem name ∨
      ∃ data, input = .rxFrame (cobRsdoBase + nodeId.toNat) (some data) ∧ state ≠ .stopped ∧
        data.length = 8 ∧ commandSpecifier data = 1 ∧ expeditedFlag data = 1 ∧
        Accepts canopenDefaultOdGet data ∧ requestName data = name ∧
        objectBytes canopenDefaultOdGet mem' name = expeditedBytes data := by
  obtain ⟨sub, object, found, hdi, hai, hdo, hao⟩ := found_of_engineParameters name hname
  cases h with
  | inputs _ _ same => exact .inl (same.objectBytes_eq found hdi hai)
  | rpdo1 data operational length =>
      left
      rw [objectBytes_of_found found, objectBytes_of_found found]
      exact Memory.read_write_of_apart (.inl (Ne.symm hdo))
  | rpdo2 data operational length =>
      left
      rw [objectBytes_of_found found, objectBytes_of_found found]
      exact (Memory.read_write_of_apart (.inl (Ne.symm hao))).trans
        (Memory.read_write_of_apart (.inl (Ne.symm hao)))
  | download data sub' object' running length download expedited found' writable fits =>
      obtain ⟨hpos, hapart⟩ := boardObjects_apart _ (mem_objects_of_found found')
      have hsize : sub'.size.toNat = (expeditedBytes data).length := fits hpos
      by_cases hsame : requestName data = name
      · right
        refine ⟨data, rfl, running, length, download, expedited, ⟨sub', object', found', writable,
          fits⟩, hsame, ?_⟩
        rw [← hsame, objectBytes_of_found (requestName_found found'), hsize,
          Memory.read_write_self]
      · left
        rw [objectBytes_of_found found, objectBytes_of_found found]
        apply Memory.read_write_of_apart
        rw [← hsize]
        exact (hapart _ (mem_objects_of_found found) (Ne.symm hsame)).symm

/-- An accepted download carries as many bytes as its object has. -/
theorem length_objectBytes_of_accepts {data : List Byte}
    (h : Accepts canopenDefaultOdGet data) (mem : Mem) :
    (objectBytes canopenDefaultOdGet mem (requestName data)).length =
      (expeditedBytes data).length := by
  obtain ⟨sub, object, found, -, fits⟩ := h
  rw [objectBytes_of_found (requestName_found found), Memory.length_read]
  exact fits (boardObjects_apart _ (mem_objects_of_found found)).1

section Call

variable {s : System ω} {nodeId : Byte}

/-- An accepted download leaves its bytes in the object it names. -/
theorem objectBytes_of_accepts (app : Application ω)
    (h : s.node.Configured nodeId canopenDefaultOdGet) {data : List Byte}
    (hrunning : s.node.nmt.state ≠ .stopped) (hlen : data.length = 8)
    (hcs : commandSpecifier data = 1) (hexp : expeditedFlag data = 1)
    (haccepts : Accepts canopenDefaultOdGet data) :
    objectBytes canopenDefaultOdGet (nodeStep app (.rxFrame (cobRsdoBase + nodeId.toNat)
      (some data)) s).2.dev.mem (requestName data) = expeditedBytes data := by
  obtain ⟨sub, object, found, writable, fits⟩ := haccepts
  have hsize := fits (boardObjects_apart _ (mem_objects_of_found found)).1
  have hmem := mem_nodeStep_download app h hrunning hlen hcs hexp found writable fits
  rw [hmem, objectBytes_of_found (requestName_found found), hsize, Memory.read_write_self]

/-- A coherent node stays so exactly if the call changes no parameter. -/
theorem coherent_nodeStep_iff (app : Application ω)
    (h : s.node.Configured nodeId canopenDefaultOdGet) (hcoherent : Coherent s)
    (input : NodeInput) :
    Coherent (nodeStep app input s).2 ↔ ¬ ChangesParameter s input := by
  have hod : (nodeStep app input s).2.node.od = canopenDefaultOdGet :=
    (h.of_config_eq (config_nodeStep app input s)).od_eq
  constructor
  · rintro hafter ⟨data, rfl, hrunning, hlen, hcs, hexp, haccepts, hname, hchange⟩
    obtain ⟨parameter, hparameter, hrequest⟩ := List.mem_map.mp hname
    rw [h.od_eq] at haccepts hchange
    rw [h.nodeId_eq] at hafter
    have hbefore := hcoherent parameter hparameter
    have hvalue := hafter parameter hparameter
    have hbytes := objectBytes_of_accepts app h hrunning hlen hcs hexp haccepts
    rw [h.nodeId_eq] at hod
    rw [config_nodeStep, hbefore, h.od_eq, hod, hrequest, objectValue, objectValue, hbytes]
      at hvalue
    exact hchange (littleEndian_inj (length_objectBytes_of_accepts haccepts s.dev.mem).symm
      hvalue.symm)
  · intro hnot parameter hparameter
    have hname : parameter.1 ∈ engineParameters.map Prod.fst :=
      List.mem_map_of_mem hparameter
    rw [config_nodeStep, hcoherent parameter hparameter, h.od_eq, hod, objectValue, objectValue]
    rcases parameter_nodeWrite (nodeStep_write app input h) hname with hbytes | ⟨data, rfl,
      hrunning, hlen, hcs, hexp, haccepts, hrequest, hbytes⟩
    · rw [hbytes]
    · by_contra hne
      apply hnot
      refine ⟨data, by rw [h.nodeId_eq], hrunning, hlen, hcs, hexp, h.od_eq ▸ haccepts,
        hrequest ▸ hname, ?_⟩
      intro heq
      rw [h.od_eq, hrequest, ← hbytes] at heq
      exact hne (by rw [heq])

end Call

/-! ## Initialisation -/

section Boot

variable (nodeId : Byte) (mem : Mem)

/-- The identifiers of the default dictionary after an update of the node id. -/
theorem read_updateNodeId_cobIds :
    (canopenDefaultOdUpdateNodeId nodeId mem).read Variable.obj1400CobId.addr 4 =
        longBytes (BitVec.ofNat 32 (cobRpdo1Base + nodeId.toNat)) ∧
      (canopenDefaultOdUpdateNodeId nodeId mem).read Variable.obj1401CobId.addr 4 =
        longBytes (BitVec.ofNat 32 (cobRpdo2Base + nodeId.toNat)) ∧
      (canopenDefaultOdUpdateNodeId nodeId mem).read Variable.obj1800CobId.addr 4 =
        longBytes (BitVec.ofNat 32 (cobTpdo1Base + nodeId.toNat)) ∧
      (canopenDefaultOdUpdateNodeId nodeId mem).read Variable.obj1801CobId.addr 4 =
        longBytes (BitVec.ofNat 32 (cobTpdo2Base + nodeId.toNat)) := by
  simp only [canopenDefaultOdUpdateNodeId, canopenDefaultOdReset, setCobId]
  refine ⟨?_, ?_, ?_, ?_⟩
  all_goals
    simp (disch := decide) only [Memory.read_write_of_block_ne]
    exact Memory.read_write_of_length _ _ rfl

/-- An update of the node id leaves the event timers. -/
theorem read_updateNodeId_eventTimers :
    (canopenDefaultOdUpdateNodeId nodeId mem).read Variable.obj1800EventTimer.addr 2 =
        mem.read Variable.obj1800EventTimer.addr 2 ∧
      (canopenDefaultOdUpdateNodeId nodeId mem).read Variable.obj1801EventTimer.addr 2 =
        mem.read Variable.obj1801EventTimer.addr 2 := by
  simp only [canopenDefaultOdUpdateNodeId, canopenDefaultOdReset, setCobId]
  constructor
  all_goals simp (disch := decide) only [Memory.read_write_of_block_ne]

end Boot

/-- The heartbeat producer starts with the period of the dictionary. -/
theorem toNat_configuredHeartbeat (mem : Mem) :
    (configuredHeartbeat canopenDefaultOdGet mem).toNat =
      objectValue canopenDefaultOdGet mem (0x1017, 0) := by
  have hbytes : objectBytes canopenDefaultOdGet mem (0x1017, 0) =
      wordBytes (loadWord mem Variable.obj1017.addr) := read_two mem Variable.obj1017.addr
  rw [objectValue, hbytes, littleEndian_wordBytes]
  rfl

/-- An identifier of the dictionary is the sum that was stored. -/
theorem objectValue_cobId {od : CanopenOd} {mem : Mem} {name : Word × Byte} {base : ℕ}
    {nodeId : Byte} (hbase : base ≤ cobRpdo2Base)
    (h : objectBytes od mem name = longBytes (BitVec.ofNat 32 (base + nodeId.toNat))) :
    objectValue od mem name = base + nodeId.toNat := by
  have hbase' : base ≤ 0x300 := hbase
  have := nodeId.isLt
  rw [objectValue, h, littleEndian_longBytes, BitVec.toNat_ofNat]
  omega

/-- `canopen_init` leaves a coherent node exactly if the event timers of the
dictionary are at the value that the engine takes. -/
theorem coherent_initialised_iff (app : Application ω) (nodeId : Byte) (dev : Device ω) :
    Coherent (initialised app nodeId none dev) ↔
      objectValue canopenDefaultOdGet dev.mem (0x1800, 5) = 1000 ∧
        objectValue canopenDefaultOdGet dev.mem (0x1801, 5) = 1000 := by
  have hheartbeat := toNat_configuredHeartbeat (canopenDefaultOdUpdateNodeId nodeId dev.mem)
  obtain ⟨hrpdo1, hrpdo2, htpdo1, htpdo2⟩ := read_updateNodeId_cobIds nodeId dev.mem
  obtain ⟨hevent1, hevent2⟩ := read_updateNodeId_eventTimers nodeId dev.mem
  have hvalue1 : objectValue canopenDefaultOdGet (canopenDefaultOdUpdateNodeId nodeId dev.mem)
      (0x1800, 5) = objectValue canopenDefaultOdGet dev.mem (0x1800, 5) :=
    congrArg littleEndian hevent1
  have hvalue2 : objectValue canopenDefaultOdGet (canopenDefaultOdUpdateNodeId nodeId dev.mem)
      (0x1801, 5) = objectValue canopenDefaultOdGet dev.mem (0x1801, 5) :=
    congrArg littleEndian hevent2
  have hcob : ∀ name base, base ≤ cobRpdo2Base →
      objectBytes canopenDefaultOdGet (canopenDefaultOdUpdateNodeId nodeId dev.mem) name =
        longBytes (BitVec.ofNat 32 (base + nodeId.toNat)) →
      base + nodeId.toNat = objectValue canopenDefaultOdGet
        (canopenDefaultOdUpdateNodeId nodeId dev.mem) name :=
    fun _ _ hbase hbytes => (objectValue_cobId hbase hbytes).symm
  simp only [Coherent, engineParameters, List.forall_mem_cons]
  constructor
  · rintro ⟨-, h1, h2, -⟩
    exact ⟨hvalue1 ▸ h1.symm, hvalue2 ▸ h2.symm⟩
  · rintro ⟨h1, h2⟩
    refine ⟨hheartbeat, (hvalue1.trans h1).symm, (hvalue2.trans h2).symm,
      hcob (0x1800, 1) _ (by decide) htpdo1, hcob (0x1801, 1) _ (by decide) htpdo2,
      hcob (0x1400, 1) _ (by decide) hrpdo1, hcob (0x1401, 1) _ (by decide) hrpdo2, ?_⟩
    exact fun _ h => absurd h List.not_mem_nil

/-- A node with the default dictionary is coherent in all states of a run exactly
if the event timers of the dictionary are at 1000 when it is initialised and no
accepted download changes a parameter. -/
theorem nodeRun_coherent_iff (app : Application ω) {nodeId : Byte} {dev : Device ω} {s : System ω}
    (hinit : canopenInit app nodeId none dev = some s) (inputs : List NodeInput) :
    (Coherent s ∧ EveryStep (total (nodeStep app)) (fun _ _ _ s' => Coherent s') s inputs) ↔
      (objectValue canopenDefaultOdGet dev.mem (0x1800, 5) = 1000 ∧
        objectValue canopenDefaultOdGet dev.mem (0x1801, 5) = 1000) ∧
      EveryStep (total (nodeStep app)) (fun s input _ _ => ¬ ChangesParameter s input) s
        inputs := by
  have hstart := coherent_initialised_iff app nodeId dev
  rw [← (canopenInit_eq_some hinit).2] at hstart
  rw [← hstart]
  apply and_congr_right
  intro hcoherent
  apply everyStep_congr_while
    (I := fun s => s.node.Configured nodeId canopenDefaultOdGet ∧ Coherent s)
  · rintro s input ⟨h, hs⟩
    rw [yields_total]
    have hiff := coherent_nodeStep_iff app h hs input
    exact ⟨hiff, fun hnot => ⟨h.of_config_eq (config_nodeStep app input s), hiff.mpr hnot⟩⟩
  · exact ⟨configured_initialised hinit, hcoherent⟩

theorem nodeRun_coherent_iff_boot :
    (Coherent (initialised weakApplication 1 none bootDevice) ∧
      EveryStep (total (nodeStep weakApplication)) (fun _ _ _ s' => Coherent s')
        (initialised weakApplication 1 none bootDevice) [.process 10]) ↔
      (objectValue canopenDefaultOdGet bootMem (0x1800, 5) = 1000 ∧
        objectValue canopenDefaultOdGet bootMem (0x1801, 5) = 1000) ∧
      EveryStep (total (nodeStep weakApplication)) (fun s input _ _ => ¬ ChangesParameter s input)
        (initialised weakApplication 1 none bootDevice) [.process 10] :=
  nodeRun_coherent_iff weakApplication
    (show canopenInit weakApplication 1 none bootDevice = some _ from rfl) [.process 10]

/-- An acknowledged download of 500 ms to the heartbeat time leaves the producer at 1000 ms. -/
theorem not_nodeRun_coherent :
    ¬ (Coherent (initialised weakApplication 1 none bootDevice) ∧
      EveryStep (total (nodeStep weakApplication)) (fun _ _ _ s' => Coherent s')
        (initialised weakApplication 1 none bootDevice)
        [.rxFrame 0x601 (some [0x2B, 0x17, 0x10, 0x00, 0xF4, 0x01, 0, 0])]) := by
  rintro ⟨-, _, _, hstep, hcoherent, -⟩
  cases hstep
  have hheartbeat := hcoherent _ List.mem_cons_self
  revert hheartbeat
  decide

end AutomationBoard.Canopen
