/-
# One process image

The PDO engine and the accessors use the variables of the default dictionary, the
SDO server those of the node's dictionary. An observer of a run remembers what
accepted RPDOs and downloads wrote last into each output object; what an upload
returns is compared with that, and with what the TPDOs transmit.
-/

import AutomationBoard.Canopen.Upload
import AutomationBoard.Canopen.Gating

namespace AutomationBoard.Canopen

open AutomationBoard.Modbus (word loByte hiByte hiByte_word loByte_word loByte_eq_setWidth)
open AutomationBoard.Program

variable {ω : Type} {app : Application ω}

/-! ## The objects of the image -/

/-- An object of the process image, with its CiA 401 type and the variable of the
default dictionary behind it. -/
structure ImageObject where
  name : Word × Byte
  bDataType : Byte
  size : Long
  pVariable : Ptr
  deriving DecidableEq

/-- The object of an analogue channel, counted from zero. -/
def channelObject (index : Word) (array : Variable) (i : ℕ) : ImageObject :=
  ⟨(index, BitVec.ofNat 8 (i + 1)), typeInt16, 2, elementAt array.addr i⟩

/-- 0x6000:1. -/
def digitalInputObject : ImageObject := ⟨(0x6000, 1), typeUint8, 1, Variable.obj6000DiState.addr⟩

/-- 0x6200:1. -/
def digitalOutputObject : ImageObject := ⟨(0x6200, 1), typeUint8, 1, Variable.obj6200DoState.addr⟩

/-- 0x6401:1 to 0x6401:4. -/
def analogInputObject (i : ℕ) : ImageObject := channelObject 0x6401 .obj6401Ai i

/-- 0x6411:1 and 0x6411:2. -/
def analogOutputObject (i : ℕ) : ImageObject := channelObject 0x6411 .obj6411Ao i

/-- The objects that hold outputs. -/
def outputImage : List ImageObject :=
  [digitalOutputObject, analogOutputObject 0, analogOutputObject 1]

/-- All objects of the process image. -/
def imageObjects : List ImageObject :=
  digitalInputObject :: (List.range 4).map analogInputObject ++ outputImage

/-- The dictionary has the object, readable and with its CiA 401 type. -/
def CanopenOd.Holds (od : CanopenOd) (image : ImageObject) : Prop :=
  ∃ sub object, odObject od image.name.1 image.name.2 = .ok (sub, object) ∧
    sub.bDataType = image.bDataType ∧ sub.size = image.size ∧ ReadAllowed sub.bAccessType

theorem CanopenOd.holds_of_found {od : CanopenOd} {image : ImageObject} {sub : Subindex}
    {object : Ptr} (found : odObject od image.name.1 image.name.2 = .ok (sub, object)) :
    od.Holds image ↔ sub.bDataType = image.bDataType ∧ sub.size = image.size ∧
      ReadAllowed sub.bAccessType := by
  constructor
  · rintro ⟨sub', object', found', hsub⟩
    obtain ⟨rfl, rfl⟩ := Prod.mk.inj (Except.ok.inj (found.symm.trans found'))
    exact hsub
  · exact fun hsub => ⟨sub, object, found, hsub⟩

instance (od : CanopenOd) (image : ImageObject) : Decidable (od.Holds image) :=
  match found : odObject od image.name.1 image.name.2 with
  | .ok (_, _) => decidable_of_iff _ (CanopenOd.holds_of_found found).symm
  | .error _ => isFalse fun ⟨_, _, found', _⟩ => by simp [found] at found'

/-- The dictionary has the process image. -/
def CanopenOd.HoldsImage (od : CanopenOd) : Prop := ∀ image ∈ imageObjects, od.Holds image

instance (od : CanopenOd) : Decidable od.HoldsImage :=
  inferInstanceAs (Decidable (∀ image ∈ imageObjects, od.Holds image))

/-! ## What an upload returns -/

/-- The upload initiate request for an object. -/
def uploadRequest (name : Word × Byte) : List Byte :=
  [0x40, loByte name.1, hiByte name.1, name.2, 0, 0, 0, 0]

theorem length_uploadRequest (name : Word × Byte) : (uploadRequest name).length = 8 := rfl

theorem commandSpecifier_uploadRequest (name : Word × Byte) :
    commandSpecifier (uploadRequest name) = 2 := by
  have hfirst : dataAt (uploadRequest name) 0 = 0x40 := rfl
  rw [commandSpecifier, hfirst]
  decide

/-- What an SDO upload from a dictionary returns. -/
def uploadedValue (od : CanopenOd) (mem : Mem) (name : Word × Byte) :
    Option (Except (Word × Byte × Long) (List Byte)) :=
  sdoUpload weakApplication (uploadRequest name) ⟨canopenSdoInit 1 od, ⟨mem, (), []⟩⟩

/-- An upload from the image returns the bytes of the object. -/
theorem uploadedValue_eq {od : CanopenOd} {image : ImageObject} (himage : image ∈ imageObjects)
    (h : od.Holds image) (mem : Mem) :
    uploadedValue od mem image.name = some (.ok (objectBytes od mem image.name)) := by
  obtain ⟨sub, object, found, -, hsize, hread⟩ := h
  have hpos : ∀ image ∈ imageObjects, image.size ≠ 0 := by decide
  have hindex : requestIndex (uploadRequest image.name) = image.name.1 :=
    Modbus.word_hiByte_loByte image.name.1
  have hupload : uploadedValue od mem image.name = some (.ok
      (if sub.size = 0 then [0, 0, 0, 0] else mem.read object sub.size.toNat)) :=
    sdoUpload_accepted (length_uploadRequest image.name)
      (commandSpecifier_uploadRequest image.name) (by rw [hindex]; exact found)
      (uploadAllowed_of_readAllowed hread)
  rw [hupload, hsize, if_neg (hpos image himage), objectBytes_of_found found, hsize]

/-! ## What the TPDOs transmit -/

/-- The shifts keep the two's complement of a signed value, low byte first. -/
theorem inputBytes_eq (val : Word) : inputBytes val = wordBytes val := by
  have hhigh : loByte (val.sshiftRight 8) = hiByte val := by
    apply BitVec.eq_of_getLsbD_eq
    intro i hi
    have hlt : 8 + i < 16 := by omega
    have hnot : ¬ 16 ≤ i := by omega
    simp only [loByte_eq_setWidth, hiByte, BitVec.getLsbD_setWidth, BitVec.getLsbD_sshiftRight,
      BitVec.getLsbD_ushiftRight, hi, hlt, hnot, if_true, decide_false, Bool.not_false,
      Bool.true_and]
  rw [wordBytes, ← hhigh]
  rfl

/-- The payload of TPDO2 is the array of the analogue inputs. -/
theorem tpdo2Data_eq (mem : Mem) :
    tpdo2Data canopenDefaultOdGetVars mem = mem.read Variable.obj6401Ai.addr 8 := by
  simp only [tpdo2Data, inputBytes_eq, ← read_two]
  rfl

/-- A channel of TPDO2 is the variable of its object. -/
theorem tpdo2Data_channel (mem : Mem) {i : ℕ} (hi : i < 4) :
    ((tpdo2Data canopenDefaultOdGetVars mem).drop (2 * i)).take 2 =
      mem.read (analogInputObject i).pVariable 2 := by
  rw [tpdo2Data_eq, Memory.drop_read _ _ (show 2 * i ≤ 8 by omega),
    Memory.take_read _ _ (show 2 ≤ 8 - 2 * i by omega)]
  rfl

/-! ## The observer -/

/-- What the node answers to a received frame: whether it was handled. -/
def handled (app : Application ω) (input : NodeInput) (s : System ω) : Bool :=
  match input with
  | .rxFrame cobId data => (canopenRxFrame app cobId data s.unrecorded).1
  | _ => false

/-- A download response is among the calls. -/
def acknowledged (nodeId : Byte) (calls : List AppCall) : Bool :=
  (clientFrames nodeId calls).any (dataAt ·.data 0 == 0x60)

/-- What an accepted RPDO or download writes, by object. -/
def acceptedWrites (nodeId : Byte) (input : NodeInput) (handled : Bool) (calls : List AppCall) :
    List ((Word × Byte) × List Byte) :=
  match input with
  | .rxFrame cobId (some data) =>
      if cobId = cobRpdo1Base + nodeId.toNat ∧ handled then [((0x6200, 1), data.take 1)]
      else if cobId = cobRpdo2Base + nodeId.toNat ∧ handled then
        [((0x6411, 1), data.take 2), ((0x6411, 2), (data.drop 2).take 2)]
      else if cobId = cobRsdoBase + nodeId.toNat ∧ commandSpecifier data = 1 ∧
          acknowledged nodeId calls then
        [(requestName data, expeditedBytes data)]
      else []
  | _ => []

section Identifiers

variable (nodeId : Byte) (data : List Byte) (accepted : Bool) (calls : List AppCall)

theorem acceptedWrites_rpdo1 :
    acceptedWrites nodeId (.rxFrame (cobRpdo1Base + nodeId.toNat) (some data)) accepted calls =
      if accepted then [((0x6200, 1), data.take 1)] else [] := by
  simp [acceptedWrites, cobRpdo1Base, cobRpdo2Base, cobRsdoBase]

theorem acceptedWrites_rpdo2 :
    acceptedWrites nodeId (.rxFrame (cobRpdo2Base + nodeId.toNat) (some data)) accepted calls =
      if accepted then [((0x6411, 1), data.take 2), ((0x6411, 2), (data.drop 2).take 2)]
      else [] := by
  simp [acceptedWrites, cobRpdo1Base, cobRpdo2Base, cobRsdoBase]

theorem acceptedWrites_sdo :
    acceptedWrites nodeId (.rxFrame (cobRsdoBase + nodeId.toNat) (some data)) accepted calls =
      if commandSpecifier data = 1 ∧ acknowledged nodeId calls then
        [(requestName data, expeditedBytes data)] else [] := by
  simp [acceptedWrites, cobRpdo1Base, cobRpdo2Base, cobRsdoBase]

variable {nodeId accepted calls}

theorem acceptedWrites_other {input : NodeInput}
    (hrpdo1 : ¬ ∃ data, input = .rxFrame (cobRpdo1Base + nodeId.toNat) (some data))
    (hrpdo2 : ¬ ∃ data, input = .rxFrame (cobRpdo2Base + nodeId.toNat) (some data))
    (hsdo : ¬ ∃ data, input = .rxFrame (cobRsdoBase + nodeId.toNat) (some data)) :
    acceptedWrites nodeId input accepted calls = [] := by
  unfold acceptedWrites
  split
  · rename_i cobId data
    have h1 : cobId ≠ cobRpdo1Base + nodeId.toNat := fun heq => hrpdo1 ⟨data, heq ▸ rfl⟩
    have h2 : cobId ≠ cobRpdo2Base + nodeId.toNat := fun heq => hrpdo2 ⟨data, heq ▸ rfl⟩
    have h3 : cobId ≠ cobRsdoBase + nodeId.toNat := fun heq => hsdo ⟨data, heq ▸ rfl⟩
    rw [if_neg (h1 ·.1), if_neg (h2 ·.1), if_neg (h3 ·.1)]
  · rfl

end Identifiers

/-- A system with what was last written into each object. -/
structure Imaged (ω : Type) where
  system : System ω
  written : Word × Byte → Option (List Byte)

/-- One call of an entry point, observed. -/
def imagedStep (app : Application ω) (input : NodeInput) (s : Imaged ω) :
    List AppCall × Imaged ω :=
  let r := nodeStep app input s.system
  let writes := acceptedWrites s.system.node.nodeId input (handled app input s.system) r.1
  (r.1, ⟨r.2, fun name => (writes.lookup name).or (s.written name)⟩)

/-- An upload returns what TPDO1 transmits at that moment, each channel of what
TPDO2 transmits, and what was last written into an output object. -/
structure ImageKept (s : Imaged ω) (_input : NodeInput) (calls : List AppCall) (s' : Imaged ω) :
    Prop where
  tpdo1 : ∀ frame ret mem, .transmit frame ret mem ∈ calls →
    frame.cobId = cobTpdo1Base + s.system.node.nodeId.toNat →
    uploadedValue s.system.node.od mem (0x6000, 1) = some (.ok frame.data)
  tpdo2 : ∀ frame ret mem, .transmit frame ret mem ∈ calls →
    frame.cobId = cobTpdo2Base + s.system.node.nodeId.toNat →
    ∀ i < 4, uploadedValue s.system.node.od mem (0x6401, BitVec.ofNat 8 (i + 1)) =
      some (.ok ((frame.data.drop (2 * i)).take 2))
  outputs : ∀ name ∈ outputObjects, ∀ bytes, s'.written name = some bytes →
    uploadedValue s'.system.node.od s'.system.dev.mem name = some (.ok bytes)

/-- In all runs of all nodes with the dictionary, an upload returns these values. -/
def HasOneImage (od : Option CanopenOd) : Prop :=
  ∀ (ω : Type) (app : Application ω) (nodeId : Byte) (dev : Device ω) (s : System ω),
    canopenInit app nodeId od dev = some s → ∀ inputs : List NodeInput,
      EveryStep (total (imagedStep app)) ImageKept ⟨s, fun _ => none⟩ inputs

/-! ## Dictionaries that share the variables -/

/-- A length with which a download into an object of the given size is accepted. -/
def Fits (size : Long) (length : ℕ) : Prop :=
  1 ≤ length ∧ length ≤ 4 ∧ (0 < size.toNat → size.toNat = length)

/-- The objects of the image are the variables of the default dictionary, and no
other writable object that a download reaches overlaps the output variables. -/
structure CanopenOd.SharesImage (od : CanopenOd) : Prop where
  storage : ∀ image ∈ imageObjects, ∀ sub object,
    odObject od image.name.1 image.name.2 = .ok (sub, object) → object = image.pVariable
  unaliased : ∀ index bSubindex sub object,
    odObject od index bSubindex = .ok (sub, object) →
    sub.bAccessType &&& accessWriteMask ≠ 0 → (index, bSubindex) ∉ outputObjects →
    ∀ length, Fits sub.size length →
      ∀ image ∈ outputImage, object.Apart length image.pVariable image.size.toNat

end AutomationBoard.Canopen
