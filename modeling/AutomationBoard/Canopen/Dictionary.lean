/-
# The object dictionary

`canopen_od.c`: lookup, reading, writing, and the dictionary the board ships.
Reading, writing and the SDO server begin with the same three checks, which are
one definition here; what they check after that is each function's own.
-/

import AutomationBoard.Canopen.Types

namespace AutomationBoard.Canopen

open AutomationBoard.Program

/-! ## Tables -/

/-- `ro`. -/
def accessRo : Byte := 0x05

/-- `wo`. -/
def accessWo : Byte := 0x03

/-- `rw`. -/
def accessRw : Byte := 0x07

/-- `const_access`. -/
def accessConst : Byte := 0x01

/-- `CANOPEN_ACCESS_READ_MASK`. -/
def accessReadMask : Byte := 0x04

/-- `CANOPEN_ACCESS_WRITE_MASK`. -/
def accessWriteMask : Byte := 0x02

/-- `int16`. -/
def typeInt16 : Byte := 0x03

/-- `uint8`. -/
def typeUint8 : Byte := 0x05

/-- `uint16`. -/
def typeUint16 : Byte := 0x06

/-- `uint32`. -/
def typeUint32 : Byte := 0x07

/-- `visible_string`. -/
def typeVisibleString : Byte := 0x09

/-- `subindex`. A null `pObject` is `none`. -/
structure Subindex where
  bAccessType : Byte
  bDataType : Byte
  size : Long
  pObject : Option Ptr
  deriving DecidableEq

/-- `indextable`. Its `bEndpoints` is the length of `pSubindex`. -/
structure Indextable where
  pSubindex : List Subindex
  index : Word
  deriving DecidableEq

/-- `canopen_od_t`. Its `count` is the length of `entries`. -/
structure CanopenOd where
  entries : List Indextable
  deriving DecidableEq

/-! ## Access -/

/-- `canopen_od_find_index`. -/
def canopenOdFindIndex (od : CanopenOd) (index : Word) : Option Indextable :=
  od.entries.find? (·.index == index)

/-- The checks that reading, writing and uploading begin with: there is an entry,
it has the subindex, and this has a variable. -/
def odObject (od : CanopenOd) (index : Word) (bSubindex : Byte) :
    Except SdoAbort (Subindex × Ptr) :=
  match canopenOdFindIndex od index with
  | none => .error .noSuchObject
  | some entry =>
      match entry.pSubindex[bSubindex.toNat]? with
      | none => .error .noSuchSubindex
      | some sub =>
          match sub.pObject with
          | none => .error .noSuchObject
          | some object => .ok (sub, object)

/-- The access type allows `canopen_od_read`. -/
def ReadAllowed (access : Byte) : Prop :=
  ¬ (access &&& accessReadMask = 0 ∧ access ≠ accessConst)

instance (access : Byte) : Decidable (ReadAllowed access) := inferInstanceAs (Decidable (¬ _))

/-- `canopen_od_read`: the return value, the destination buffer and `*pSize`
after the call. -/
def canopenOdRead (od : CanopenOd) (mem : Mem) (index : Word) (bSubindex : Byte)
    (pDest : List Byte) (pSize : Long) : Except SdoAbort Unit × List Byte × Long :=
  match odObject od index bSubindex with
  | .error e => (.error e, pDest, pSize)
  | .ok (sub, object) =>
      if ¬ ReadAllowed sub.bAccessType then (.error .readNotAllowed, pDest, pSize)
      else
        let bytesToCopy := if pSize < sub.size then pSize else sub.size
        (.ok (), mem.read object bytesToCopy.toNat ++ pDest.drop bytesToCopy.toNat, sub.size)

section Write

variable {ω : Type} (app : Application ω)

/-- The end of a write: the bytes are stored and those concerned are told. -/
def Device.written (index : Word) (bSubindex : Byte) (src : List Byte) (object : Ptr)
    (dev : Device ω) : Device ω :=
  let dev := (dev.store object src).notifyWrite app index bSubindex src
  if index = 0x6200 ∨ index = 0x6411 then dev.syncOutputs app else dev

/-- `canopen_od_write`. The bytes are those that `pSrc` and `size` delimit. -/
def canopenOdWrite (od : CanopenOd) (index : Word) (bSubindex : Byte) (src : List Byte)
    (dev : Device ω) : Except SdoAbort Unit × Device ω :=
  match odObject od index bSubindex with
  | .error e => (.error e, dev)
  | .ok (sub, object) =>
      if sub.bAccessType &&& accessWriteMask = 0 then (.error .writeNotAllowed, dev)
      else if 0 < sub.size.toNat ∧ sub.size.toNat < src.length then
        (.error .dataLengthTooHigh, dev)
      else if 0 < sub.size.toNat ∧ src.length < sub.size.toNat then
        (.error .dataLengthTooShort, dev)
      else (.ok (), dev.written app index bSubindex src object)

end Write

/-! ## The default dictionary -/

/-- `{ access, type, sizeof(v), (void*)&v }`. -/
def entryOf (bAccessType bDataType : Byte) (size : Long) (v : Variable) : Subindex :=
  ⟨bAccessType, bDataType, size, some v.addr⟩

/-- The communication parameters `Board_Index1400` and `Board_Index1401`. -/
def rpdoParameters (highest cobId transmissionType : Variable) : List Subindex :=
  [entryOf accessRo typeUint8 1 highest, entryOf accessRw typeUint32 4 cobId,
    entryOf accessRw typeUint8 1 transmissionType]

/-- The communication parameters `Board_Index1800` and `Board_Index1801`. -/
def tpdoParameters (highest cobId transmissionType inhibitTime reserved eventTimer : Variable) :
    List Subindex :=
  [entryOf accessRo typeUint8 1 highest, entryOf accessRw typeUint32 4 cobId,
    entryOf accessRw typeUint8 1 transmissionType, entryOf accessRw typeUint16 2 inhibitTime,
    entryOf accessRo typeUint8 1 reserved, entryOf accessRw typeUint16 2 eventTimer]

/-- A read-only record of `UNS32` values, such as a mapping parameter. -/
def readOnlyLongs (highest : Variable) (values : List Variable) : List Subindex :=
  entryOf accessRo typeUint8 1 highest :: values.map (entryOf accessRo typeUint32 4)

/-- An element of an `INTEGER16` array. -/
def elementEntry (access : Byte) (array : Variable) (i : ℕ) : Subindex :=
  ⟨access, typeInt16, 2, some (elementAt array.addr i)⟩

/-- `Board_objdict`. -/
def boardObjdict : List Indextable :=
  [⟨[entryOf accessRo typeUint32 4 .obj1000], 0x1000⟩,
    ⟨[entryOf accessRo typeUint8 1 .obj1001], 0x1001⟩,
    ⟨[entryOf accessRo typeVisibleString 22 .obj1008], 0x1008⟩,
    ⟨[entryOf accessRo typeVisibleString 4 .obj1009], 0x1009⟩,
    ⟨[entryOf accessRo typeVisibleString 4 .obj100A], 0x100A⟩,
    ⟨[entryOf accessRw typeUint16 2 .obj1017], 0x1017⟩,
    ⟨readOnlyLongs .obj1018HighestSubIndex
      [.obj1018VendorId, .obj1018ProductCode, .obj1018RevisionNumber, .obj1018SerialNumber],
      0x1018⟩,
    ⟨rpdoParameters .obj1400HighestSubIndex .obj1400CobId .obj1400TransmissionType, 0x1400⟩,
    ⟨rpdoParameters .obj1401HighestSubIndex .obj1401CobId .obj1401TransmissionType, 0x1401⟩,
    ⟨readOnlyLongs .obj1600HighestSubIndex [.obj1600Map1], 0x1600⟩,
    ⟨readOnlyLongs .obj1601HighestSubIndex [.obj1601Map1, .obj1601Map2], 0x1601⟩,
    ⟨tpdoParameters .obj1800HighestSubIndex .obj1800CobId .obj1800TransmissionType
      .obj1800InhibitTime .obj1800Reserved .obj1800EventTimer, 0x1800⟩,
    ⟨tpdoParameters .obj1801HighestSubIndex .obj1801CobId .obj1801TransmissionType
      .obj1801InhibitTime .obj1801Reserved .obj1801EventTimer, 0x1801⟩,
    ⟨readOnlyLongs .obj1A00HighestSubIndex [.obj1A00Map1], 0x1A00⟩,
    ⟨readOnlyLongs .obj1A01HighestSubIndex
      [.obj1A01Map1, .obj1A01Map2, .obj1A01Map3, .obj1A01Map4], 0x1A01⟩,
    ⟨[entryOf accessRo typeUint8 1 .obj6000HighestSubIndex,
      entryOf accessRo typeUint8 1 .obj6000DiState], 0x6000⟩,
    ⟨[entryOf accessRo typeUint8 1 .obj6200HighestSubIndex,
      entryOf accessRw typeUint8 1 .obj6200DoState], 0x6200⟩,
    ⟨[entryOf accessRo typeUint8 1 .obj6401HighestSubIndex,
      elementEntry accessRo .obj6401Ai 0, elementEntry accessRo .obj6401Ai 1,
      elementEntry accessRo .obj6401Ai 2, elementEntry accessRo .obj6401Ai 3], 0x6401⟩,
    ⟨[entryOf accessRo typeUint8 1 .obj6411HighestSubIndex,
      elementEntry accessRw .obj6411Ao 0, elementEntry accessRw .obj6411Ao 1], 0x6411⟩]

/-- `canopen_default_od_get`. -/
def canopenDefaultOdGet : CanopenOd := ⟨boardObjdict⟩

/-- What the initialisers of `canopen_od.c` leave in a variable. -/
def Variable.initial : Variable → List Byte
  | .obj1000 => longBytes 0x00020191
  | .obj1008 => [0x53, 0x54, 0x4D, 0x33, 0x32, 0x20, 0x41, 0x75, 0x74, 0x6F, 0x6D, 0x61, 0x74,
      0x69, 0x6F, 0x6E, 0x20, 0x42, 0x6F, 0x61, 0x72, 0x64]
  | .obj1009 | .obj100A => [0x76, 0x31, 0x2E, 0x30]
  | .obj1017 => wordBytes 1000
  | .obj1018HighestSubIndex => [4]
  | .obj1018ProductCode => longBytes 0x00004070
  | .obj1018RevisionNumber => longBytes 0x00010000
  | .obj1018SerialNumber => longBytes 0x12345678
  | .obj1400HighestSubIndex | .obj1401HighestSubIndex => [2]
  | .obj1400CobId => longBytes 0x201
  | .obj1401CobId => longBytes 0x301
  | .obj1400TransmissionType | .obj1401TransmissionType => [254]
  | .obj1600HighestSubIndex => [1]
  | .obj1600Map1 => longBytes 0x62000108
  | .obj1601HighestSubIndex => [2]
  | .obj1601Map1 => longBytes 0x64110110
  | .obj1601Map2 => longBytes 0x64110210
  | .obj1800HighestSubIndex | .obj1801HighestSubIndex => [5]
  | .obj1800CobId => longBytes 0x181
  | .obj1801CobId => longBytes 0x281
  | .obj1800TransmissionType | .obj1801TransmissionType => [254]
  | .obj1800InhibitTime | .obj1801InhibitTime => wordBytes 100
  | .obj1800EventTimer | .obj1801EventTimer => wordBytes 1000
  | .obj1A00HighestSubIndex => [1]
  | .obj1A00Map1 => longBytes 0x60000108
  | .obj1A01HighestSubIndex => [4]
  | .obj1A01Map1 => longBytes 0x64010110
  | .obj1A01Map2 => longBytes 0x64010210
  | .obj1A01Map3 => longBytes 0x64010310
  | .obj1A01Map4 => longBytes 0x64010410
  | .obj6000HighestSubIndex | .obj6200HighestSubIndex => [1]
  | .obj6401HighestSubIndex => [4]
  | .obj6411HighestSubIndex => [2]
  | _ => []

/-- The variables at boot; what has no initialiser is zero. -/
def bootMem : Mem := ⟨fun p => p.block.initial.getD p.offset 0⟩

/-- The device at boot, without an application. -/
def bootDevice : Device Unit := ⟨bootMem, (), []⟩

/-- `canopen_default_od_reset`. -/
def canopenDefaultOdReset (mem : Mem) : Mem :=
  let mem := mem.write Variable.obj6000DiState.addr [0]
  let mem := mem.write Variable.obj6200DoState.addr [0]
  let mem := mem.write Variable.obj6401Ai.addr (List.replicate 8 0)
  let mem := mem.write Variable.obj6411Ao.addr (List.replicate 4 0)
  mem.write Variable.obj1001.addr [0]

/-- `base + node_id` in a `COB_ID` variable. -/
def setCobId (v : Variable) (base : ℕ) (nodeId : Byte) (mem : Mem) : Mem :=
  mem.write v.addr (longBytes (BitVec.ofNat 32 (base + nodeId.toNat)))

/-- `canopen_default_od_update_node_id`. -/
def canopenDefaultOdUpdateNodeId (nodeId : Byte) (mem : Mem) : Mem :=
  let mem := setCobId .obj1400CobId cobRpdo1Base nodeId mem
  let mem := setCobId .obj1401CobId cobRpdo2Base nodeId mem
  let mem := setCobId .obj1800CobId cobTpdo1Base nodeId mem
  let mem := setCobId .obj1801CobId cobTpdo2Base nodeId mem
  canopenDefaultOdReset mem

end AutomationBoard.Canopen
