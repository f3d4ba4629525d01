/-
# The SDO server

`canopen_sdo.c`: expedited download, expedited and segmented upload, and the
abort frames. The server answers at most one frame to each frame that it is
given; the bytes it transmits are built here field by field, as the source does.
-/

import AutomationBoard.Canopen.Dictionary

namespace AutomationBoard.Canopen

open AutomationBoard.Modbus (word hiByte loByte)
open AutomationBoard.Program

/-! ## The server -/

/-- `canopen_sdo_server_t`. -/
structure SdoServer where
  nodeId : Byte
  od : CanopenOd
  segActive : Bool
  segIndex : Word
  segSubindex : Byte
  pSegData : Option Ptr
  segTotalSize : Long
  segOffset : Long
  segToggle : Byte
  deriving DecidableEq

/-- `canopen_sdo_init`. -/
def canopenSdoInit (nodeId : Byte) (od : CanopenOd) : SdoServer where
  nodeId := nodeId
  od := od
  segActive := false
  segIndex := 0
  segSubindex := 0
  pSegData := none
  segTotalSize := 0
  segOffset := 0
  segToggle := 0

/-- `CANOPEN_COB_TSDO_BASE + (uint32_t)sdo->node_id`. -/
def SdoServer.cobId (sdo : SdoServer) : ℕ := cobTsdoBase + sdo.nodeId.toNat

/-! ## Fields of a frame -/

/-- `data[i]`. -/
def dataAt (data : List Byte) (i : ℕ) : Byte := data.getD i 0

/-- `(data[0] >> 5U) & 0x07U`. -/
def commandSpecifier (data : List Byte) : Byte := dataAt data 0 >>> 5 &&& 0x07

/-- `(UNS16)data[1] | ((UNS16)data[2] << 8U)`. -/
def requestIndex (data : List Byte) : Word := word (dataAt data 2) (dataAt data 1)

/-- `data[3]`. -/
def requestSubindex (data : List Byte) : Byte := dataAt data 3

/-- `(data[0] >> 4U) & 0x01U`. -/
def requestToggle (data : List Byte) : Byte := dataAt data 0 >>> 4 &&& 0x01

/-- `(data[0] >> 1U) & 0x01U`, the expedited transfer flag. -/
def expeditedFlag (data : List Byte) : Byte := dataAt data 0 >>> 1 &&& 0x01

/-- The size of an expedited download, `4U - n`. -/
def expeditedSize (data : List Byte) : ℕ :=
  let s := dataAt data 0 &&& 0x01
  let n := if s = 1 then dataAt data 0 >>> 2 &&& 0x03 else 0
  4 - n.toNat

/-- The `size` bytes from `&data[4]` on. -/
def expeditedBytes (data : List Byte) : List Byte := (data.drop 4).take (expeditedSize data)

/-- `memset` of `n` bytes to zero, then `memcpy` of the given ones. -/
def padded (n : ℕ) (bytes : List Byte) : List Byte := bytes ++ List.replicate (n - bytes.length) 0

@[simp]
theorem length_padded {n : ℕ} {bytes : List Byte} (h : bytes.length ≤ n) :
    (padded n bytes).length = n := by
  rw [padded, List.length_append, List.length_replicate]
  omega

/-- `data[1]`, `data[2]`, `data[3]`. -/
def objectName (data : List Byte) : List Byte := [dataAt data 1, dataAt data 2, dataAt data 3]

/-! ## Frames sent -/

section Server

variable {ω : Type} (app : Application ω)

/-- The payload of an abort frame. -/
def abortData (index : Word) (bSubindex : Byte) (e : SdoAbort) : List Byte :=
  [0x80, loByte index, hiByte index, bSubindex] ++ longBytes e.code

/-- `canopen_sdo_send_abort`. -/
def canopenSdoSendAbort (sdo : SdoServer) (index : Word) (bSubindex : Byte) (e : SdoAbort)
    (dev : Device ω) : Device ω :=
  dev.send app (dataFrame sdo.cobId (abortData index bSubindex e))

/-- `0x40U | (uint8_t)(n << 2U) | 0x02U | 0x01U`, with the count `n` of unused bytes. -/
def expeditedCommand (size : Long) : Byte :=
  let n : Byte := (4 - size).setWidth 8
  0x40 ||| n <<< 2 ||| 0x02 ||| 0x01

/-- The payload of an expedited upload response. -/
def expeditedUploadData (data : List Byte) (size : Long) (bytes : List Byte) : List Byte :=
  expeditedCommand size :: objectName data ++ padded 4 bytes

/-- The payload of a segmented upload initiate response. -/
def initiateUploadData (data : List Byte) (size : Long) : List Byte :=
  0x41 :: objectName data ++ longBytes size

/-- `(seg_toggle << 4U) | (n << 1U) | c`, with the count `n` of unused bytes. -/
def segmentCommand (toggle chunk c : Byte) : Byte :=
  let n : Byte := 7 - chunk
  toggle <<< 4 ||| n <<< 1 ||| c

/-- The payload of an upload segment response. -/
def segmentData (toggle chunk c : Byte) (bytes : List Byte) : List Byte :=
  segmentCommand toggle chunk c :: padded 7 bytes

/-- The payload of a download response. -/
def downloadData (data : List Byte) : List Byte := 0x60 :: objectName data ++ [0, 0, 0, 0]

/-! ## Requests -/

/-- `cs == 1U`, initiate download. -/
def initiateDownload (sdo : SdoServer) (data : List Byte) (dev : Device ω) : Device ω :=
  let index := requestIndex data
  let bSubindex := requestSubindex data
  if expeditedFlag data = 1 then
    match canopenOdWrite app sdo.od index bSubindex (expeditedBytes data) dev with
    | (.error e, dev) => canopenSdoSendAbort app sdo index bSubindex e dev
    | (.ok _, dev) => dev.send app (dataFrame sdo.cobId (downloadData data))
  else canopenSdoSendAbort app sdo index bSubindex .unsupportedAccess dev

/-- The access type allows an upload. -/
def UploadAllowed (access : Byte) : Prop := ¬ (access &&& accessRo = 0 ∧ access ≠ accessConst)

instance (access : Byte) : Decidable (UploadAllowed access) := inferInstanceAs (Decidable (¬ _))

/-- The server at the start of a segmented upload. -/
def SdoServer.started (sdo : SdoServer) (index : Word) (bSubindex : Byte) (object : Ptr)
    (size : Long) : SdoServer :=
  { sdo with
    segActive := true
    segIndex := index
    segSubindex := bSubindex
    pSegData := some object
    segTotalSize := size
    segOffset := 0
    segToggle := 0 }

/-- `cs == 2U`, initiate upload. -/
def initiateUpload (sdo : SdoServer) (data : List Byte) (dev : Device ω) :
    SdoServer × Device ω :=
  let index := requestIndex data
  let bSubindex := requestSubindex data
  match odObject sdo.od index bSubindex with
  | .error e => (sdo, canopenSdoSendAbort app sdo index bSubindex e dev)
  | .ok (sub, object) =>
      if ¬ UploadAllowed sub.bAccessType then
        (sdo, canopenSdoSendAbort app sdo index bSubindex .readNotAllowed dev)
      else if sub.size ≤ 4 then
        (sdo, dev.send app (dataFrame sdo.cobId
          (expeditedUploadData data sub.size (dev.mem.read object sub.size.toNat))))
      else
        (sdo.started index bSubindex object sub.size,
          dev.send app (dataFrame sdo.cobId (initiateUploadData data sub.size)))

/-- `seg_total_size - seg_offset`. -/
def SdoServer.rem (sdo : SdoServer) : Long := sdo.segTotalSize - sdo.segOffset

/-- The bytes of the next segment, at most 7. -/
def SdoServer.chunk (sdo : SdoServer) : Byte := if sdo.rem ≤ 7 then sdo.rem.setWidth 8 else 7

/-- The last-segment flag of the next segment. -/
def SdoServer.last (sdo : SdoServer) : Byte := if sdo.rem ≤ 7 then 1 else 0

/-- The `chunk` bytes from `p_seg_data + seg_offset` on. -/
def SdoServer.segmentBytes (sdo : SdoServer) (mem : Mem) : List Byte :=
  match sdo.pSegData with
  | none => []
  | some p => mem.read (p.add sdo.segOffset.toNat) sdo.chunk.toNat

/-- The server after it has made a segment. -/
def SdoServer.advanced (sdo : SdoServer) : SdoServer :=
  { sdo with
    segOffset := sdo.segOffset + sdo.chunk.setWidth 32
    segToggle := sdo.segToggle ^^^ 1
    segActive := if sdo.last = 1 then false else sdo.segActive }

/-- The server without a transfer. -/
def SdoServer.cancelled (sdo : SdoServer) : SdoServer := { sdo with segActive := false }

/-- `cs == 3U`, upload segment. -/
def uploadSegment (sdo : SdoServer) (data : List Byte) (dev : Device ω) :
    SdoServer × Device ω :=
  if ¬ sdo.segActive then (sdo, canopenSdoSendAbort app sdo 0 0 .generalError dev)
  else if requestToggle data ≠ sdo.segToggle then
    (sdo.cancelled, canopenSdoSendAbort app sdo sdo.segIndex sdo.segSubindex
      .toggleBitNotAlternated dev)
  else
    (sdo.advanced, dev.send app (dataFrame sdo.cobId
      (segmentData sdo.segToggle sdo.chunk sdo.last (sdo.segmentBytes dev.mem))))

/-- `canopen_sdo_rx_frame`. -/
def canopenSdoRxFrame (sdo : SdoServer) (data : List Byte) (dev : Device ω) :
    Bool × SdoServer × Device ω :=
  if data.length ≠ 8 then (false, sdo, dev)
  else if dataAt data 0 = 0x80 then (true, sdo.cancelled, dev)
  else if commandSpecifier data = 1 then (true, sdo, initiateDownload app sdo data dev)
  else if commandSpecifier data = 2 then (true, initiateUpload app sdo data dev)
  else if commandSpecifier data = 3 then (true, uploadSegment app sdo data dev)
  else (true, sdo, canopenSdoSendAbort app sdo 0 0 .cmdSpecifierInvalid dev)

end Server

end AutomationBoard.Canopen
