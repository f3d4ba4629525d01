/-
# Exactly the dictionaries that share the variables

A dictionary with storage of its own for an object of the image is told apart by
a run: an input by a memory that marks the object, an output by an RPDO with a
value of its own, an alias by a download of other bytes after the RPDOs.
-/

import AutomationBoard.Canopen.ImageWrites

namespace AutomationBoard.Canopen

open AutomationBoard.Modbus (word loByte hiByte hiByte_word loByte_word)
open AutomationBoard.Program

/-! ## Memories that tell places apart -/

/-- Zero but for a one at the place. -/
def markAt (p : Ptr) : Mem := ⟨fun q => if q = p then 1 else 0⟩

/-- A place that reads the mark is the place marked. -/
theorem eq_of_read_markAt {p q : Ptr} {n : ℕ}
    (h : (markAt p).read p (n + 1) = (markAt p).read q (n + 1)) : p = q := by
  rw [Nat.add_comm, Memory.read_add, Memory.read_add, Memory.read_one, Memory.read_one] at h
  have hcell := (List.cons.inj h).1
  simp only [markAt, if_true] at hcell
  by_contra hne
  rw [if_neg (Ne.symm hne)] at hcell
  exact absurd hcell (by decide)

/-! ## Runs of a node with its own dictionary -/

section Custom

variable (od : CanopenOd) (mem : Mem)

/-- Node 1 after initialisation and a start command. -/
def startedNode : Imaged Unit :=
  (imagedStep weakApplication (.rxFrame cobNmt (some [0x01, 0x01]))
    ⟨initialised weakApplication 1 (some od) ⟨mem, (), []⟩, fun _ => none⟩).2

variable {od}

theorem everyStep_startedNode (h : HasOneImage (some od)) (inputs : List NodeInput) :
    EveryStep (total (imagedStep weakApplication)) ImageKept (startedNode od mem) inputs := by
  have hrun := h Unit weakApplication 1 ⟨mem, (), []⟩ _ rfl
    (.rxFrame cobNmt (some [0x01, 0x01]) :: inputs)
  exact (yields_total.mp hrun).2

/-- A refused or accepted call of the started node keeps the image. -/
theorem imageKept_startedNode (h : HasOneImage (some od)) (input : NodeInput) :
    ImageKept (startedNode od mem) input (imagedStep weakApplication input (startedNode od mem)).1
      (imagedStep weakApplication input (startedNode od mem)).2 :=
  yields_total.mp (everyStep_singleton.mp (everyStep_startedNode mem h [input]))

/-- An upload of the digital inputs gives what TPDO1 transmits. -/
theorem uploadedValue_tpdo1 (h : HasOneImage (some od)) :
    uploadedValue od mem digitalInputObject.name =
      some (.ok (mem.read digitalInputObject.pVariable 1)) := by
  have hkept := (imageKept_startedNode mem h .triggerTpdo1).tpdo1
    (dataFrame 0x181 (tpdo1Data canopenDefaultOdGetVars mem)) 0 mem
  exact hkept (List.mem_cons_of_mem _ List.mem_cons_self) rfl

/-- An upload of an analogue input gives what TPDO2 transmits. -/
theorem uploadedValue_tpdo2 (h : HasOneImage (some od)) {i : ℕ} (hi : i < 4) :
    uploadedValue od mem (analogInputObject i).name =
      some (.ok (mem.read (analogInputObject i).pVariable 2)) := by
  have hkept := (imageKept_startedNode mem h .triggerTpdo2).tpdo2
    (dataFrame 0x281 (tpdo2Data canopenDefaultOdGetVars mem)) 0 mem
  rw [← tpdo2Data_channel mem hi]
  exact hkept (List.mem_cons_of_mem _ List.mem_cons_self) rfl i hi

/-- An upload of the digital outputs gives what RPDO1 brought. -/
theorem uploadedValue_rpdo1 (h : HasOneImage (some od)) (b : Byte) :
    uploadedValue od (mem.write digitalOutputObject.pVariable [b]) digitalOutputObject.name =
      some (.ok [b]) :=
  (imageKept_startedNode mem h (.rxFrame 0x201 (some [b]))).outputs _ (by decide) [b] rfl

/-- An upload of an analogue output gives what RPDO2 brought. -/
theorem uploadedValue_rpdo2 (h : HasOneImage (some od)) (b0 b1 b2 b3 : Byte) :
    uploadedValue od ((mem.write (analogOutputObject 0).pVariable [b0, b1]).write
        (analogOutputObject 1).pVariable [b2, b3]) (analogOutputObject 0).name =
      some (.ok [b0, b1]) ∧
    uploadedValue od ((mem.write (analogOutputObject 0).pVariable [b0, b1]).write
        (analogOutputObject 1).pVariable [b2, b3]) (analogOutputObject 1).name =
      some (.ok [b2, b3]) := by
  have hkept := (imageKept_startedNode mem h (.rxFrame 0x301 (some [b0, b1, b2, b3]))).outputs
  have hmem : (imagedStep weakApplication (.rxFrame 0x301 (some [b0, b1, b2, b3]))
      (startedNode od mem)).2.system.dev.mem =
        (mem.write (analogOutputObject 0).pVariable [b0, b1]).write
          (analogOutputObject 1).pVariable [b2, b3] := by
    have hwords : (imagedStep weakApplication (.rxFrame 0x301 (some [b0, b1, b2, b3]))
        (startedNode od mem)).2.system.dev.mem =
          (mem.write (analogOutputObject 0).pVariable (wordBytes (word b1 b0))).write
            (analogOutputObject 1).pVariable (wordBytes (word b3 b2)) := rfl
    rw [hwords, wordBytes, wordBytes, loByte_word, hiByte_word, loByte_word, hiByte_word]
  rw [← hmem]
  exact ⟨hkept (0x6411, 1) (by decide) [b0, b1] rfl, hkept (0x6411, 2) (by decide) [b2, b3] rfl⟩

end Custom

/-! ## Storage -/

section Storage

variable {od : CanopenOd}

/-- Zero everywhere. -/
def blankMem : Mem := ⟨fun _ => 0⟩

theorem cell_blankMem_ne (p : Ptr) {b : Byte} (hb : 0 ≠ b) : blankMem.cell p ≠ b := hb

/-- The image is in the variables of the default dictionary. -/
theorem storage_of_hasOneImage (hholds : od.HoldsImage) (h : HasOneImage (some od)) :
    ∀ image ∈ imageObjects, ∀ sub object,
      odObject od image.name.1 image.name.2 = .ok (sub, object) → object = image.pVariable := by
  intro image himage sub object found
  obtain ⟨sub', object', found', -, hsize, -⟩ := hholds image himage
  obtain ⟨rfl, rfl⟩ := Prod.mk.inj (Except.ok.inj (found.symm.trans found'))
  have hupload : ∀ mem bytes, uploadedValue od mem image.name = some (.ok bytes) →
      mem.read object image.size.toNat = bytes := by
    intro mem bytes hvalue
    rw [uploadedValue_eq himage (hholds image himage), objectBytes_of_found found, hsize] at hvalue
    exact Except.ok.inj (Option.some.inj hvalue)
  simp only [imageObjects, List.cons_append, List.mem_cons, List.mem_append, List.mem_map,
    List.mem_range, outputImage, List.not_mem_nil, or_false] at himage
  rcases himage with rfl | ⟨i, hi, rfl⟩ | rfl | rfl | rfl
  · exact eq_of_read_markAt (hupload (markAt object) _ (uploadedValue_tpdo1 _ h))
  · exact eq_of_read_markAt (hupload (markAt object) _ (uploadedValue_tpdo2 _ h hi))
  · have hread := hupload _ _ (uploadedValue_rpdo1 blankMem h 1)
    have hcell := (List.cons.inj hread).1
    exact Memory.eq_of_cell_write List.not_mem_nil (cell_blankMem_ne object (by decide)) hcell
  · have hread := hupload _ _ (uploadedValue_rpdo2 blankMem h 1 2 3 4).1
    have hcell := Memory.cell_eq_of_not_mem (by decide) (List.cons.inj hread).1
    exact Memory.eq_of_cell_write (by decide) (cell_blankMem_ne object (by decide)) hcell
  · have hread := hupload _ _ (uploadedValue_rpdo2 blankMem h 1 2 3 4).2
    have hcell := (List.cons.inj hread).1
    have hother : (blankMem.write (analogOutputObject 0).pVariable [1, 2]).cell object ≠ 3 :=
      fun hthree =>
        cell_blankMem_ne object (by decide) (Memory.cell_eq_of_not_mem (by decide) hthree)
    exact Memory.eq_of_cell_write (by decide) hother hcell

end Storage

/-! ## Aliases -/

/-- A download of `n` bytes, all ones, into an object. -/
def onesRequest (name : Word × Byte) (n : ℕ) : List Byte :=
  [BitVec.ofNat 8 (0x33 - 4 * n), loByte name.1, hiByte name.1, name.2, 0xFF, 0xFF, 0xFF, 0xFF]

/-- The frame that asks node 1 for a download of `n` ones. -/
def onesFrame (name : Word × Byte) (n : ℕ) : NodeInput :=
  .rxFrame (cobRsdoBase + (1 : Byte).toNat) (some (onesRequest name n))

theorem requestName_onesRequest (name : Word × Byte) (n : ℕ) :
    requestName (onesRequest name n) = name :=
  Prod.ext (Modbus.word_hiByte_loByte name.1) rfl

/-- The first byte is that of a download with its size. -/
theorem command_onesRequest : ∀ n ∈ [1, 2, 3, 4],
    (BitVec.ofNat 8 (0x33 - 4 * n) >>> 5 &&& 0x07 : Byte) = 1 ∧
      (BitVec.ofNat 8 (0x33 - 4 * n) >>> 1 &&& 0x01 : Byte) = 1 ∧
      (BitVec.ofNat 8 (0x33 - 4 * n) &&& 0x01 : Byte) = 1 ∧
      4 - (BitVec.ofNat 8 (0x33 - 4 * n) >>> 2 &&& 0x03 : Byte).toNat = n := by
  decide

theorem onesRequest_download (name : Word × Byte) {n : ℕ} (hlow : 1 ≤ n) (hhigh : n ≤ 4) :
    commandSpecifier (onesRequest name n) = 1 ∧ expeditedFlag (onesRequest name n) = 1 ∧
      expeditedBytes (onesRequest name n) = List.replicate n 0xFF := by
  have hn : n ∈ [1, 2, 3, 4] := by
    simp only [List.mem_cons, List.not_mem_nil, or_false]
    omega
  obtain ⟨hcs, hexp, hsized, hcount⟩ := command_onesRequest n hn
  have hfirst : dataAt (onesRequest name n) 0 = BitVec.ofNat 8 (0x33 - 4 * n) := rfl
  have hsize : expeditedSize (onesRequest name n) = n := by
    simp only [expeditedSize, hfirst, hsized, if_true, hcount]
  refine ⟨?_, ?_, ?_⟩
  · rw [commandSpecifier, hfirst, hcs]
  · rw [expeditedFlag, hfirst, hexp]
  · have hdrop : (onesRequest name n).drop 4 = List.replicate 4 0xFF := rfl
    rw [expeditedBytes, hsize, hdrop, List.take_replicate, Nat.min_eq_left hhigh]

section Aliases

variable {od : CanopenOd}

/-- The started node after RPDOs that clear the outputs. -/
def clearedNode (od : CanopenOd) : Imaged Unit :=
  (imagedStep weakApplication (.rxFrame 0x301 (some [0, 0, 0, 0]))
    (imagedStep weakApplication (.rxFrame 0x201 (some [0])) (startedNode od blankMem)).2).2

theorem written_clearedNode : ∀ image ∈ outputImage,
    (clearedNode od).written image.name = some (List.replicate image.size.toNat 0) := by
  simp only [outputImage, List.forall_mem_cons]
  exact ⟨rfl, rfl, rfl, fun _ h => absurd h List.not_mem_nil⟩

theorem configured_clearedNode (od : CanopenOd) :
    (clearedNode od).system.node.Configured 1 od :=
  ⟨⟨_, rfl⟩, by decide, by decide⟩

theorem state_clearedNode (od : CanopenOd) :
    (clearedNode od).system.node.nmt.state ≠ .stopped := by
  have hstate : (clearedNode od).system.node.nmt.state = .operational := rfl
  rw [hstate]
  decide

/-- A download into the cleared node keeps the image. -/
theorem imageKept_clearedNode (h : HasOneImage (some od)) (input : NodeInput) :
    ImageKept (clearedNode od) input (imagedStep weakApplication input (clearedNode od)).1
      (imagedStep weakApplication input (clearedNode od)).2 := by
  have hrun := everyStep_startedNode blankMem h
    [.rxFrame 0x201 (some [0]), .rxFrame 0x301 (some [0, 0, 0, 0]), input]
  have hsecond := (yields_total.mp hrun).2
  have hthird := (yields_total.mp hsecond).2
  exact yields_total.mp (everyStep_singleton.mp hthird)

/-- A download that names another object leaves the zeros of the RPDOs expected. -/
theorem written_onesFrame {name : Word × Byte} (hout : name ∉ outputObjects) (n : ℕ)
    {image : ImageObject} (himage : image ∈ outputImage) :
    (imagedStep weakApplication (onesFrame name n) (clearedNode od)).2.written image.name =
      some (List.replicate image.size.toNat 0) := by
  have hne : image.name ≠ name := by
    rintro rfl
    exact hout (outputImage_names ▸ List.mem_map_of_mem himage)
  simp only [imagedStep, onesFrame, (configured_clearedNode od).nodeId_eq, acceptedWrites_sdo,
    requestName_onesRequest]
  split_ifs
  · rw [lookup_singleton_of_ne hne, Option.none_or]
    exact written_clearedNode image himage
  · exact written_clearedNode image himage

/-- The download leaves its ones in the object. -/
theorem mem_onesFrame {name : Word × Byte} {sub : Subindex} {object : Ptr}
    (found : odObject od name.1 name.2 = .ok (sub, object))
    (writable : sub.bAccessType &&& accessWriteMask ≠ 0) {n : ℕ} (fits : Fits sub.size n) :
    (imagedStep weakApplication (onesFrame name n) (clearedNode od)).2.system.dev.mem =
      (clearedNode od).system.dev.mem.write object (List.replicate n 0xFF) := by
  obtain ⟨hcs, hexp, hbytes⟩ := onesRequest_download name fits.1 fits.2.1
  have hindex : requestIndex (onesRequest name n) = name.1 :=
    congrArg Prod.fst (requestName_onesRequest name n)
  have hfound : odObject od (requestIndex (onesRequest name n))
      (requestSubindex (onesRequest name n)) = .ok (sub, object) := by
    rw [hindex]
    exact found
  rw [← hbytes]
  apply mem_nodeStep_download weakApplication (configured_clearedNode od) (state_clearedNode od)
    rfl hcs hexp hfound writable
  rw [hbytes, List.length_replicate]
  exact fits.2.2

/-- A download changes no output but the one it names. -/
theorem unaliased_of_hasOneImage (hholds : od.HoldsImage) (h : HasOneImage (some od))
    (index : Word) (bSubindex : Byte) (sub : Subindex) (object : Ptr)
    (found : odObject od index bSubindex = .ok (sub, object))
    (writable : sub.bAccessType &&& accessWriteMask ≠ 0)
    (hout : (index, bSubindex) ∉ outputObjects) (length : ℕ) (fits : Fits sub.size length) :
    ∀ image ∈ outputImage, object.Apart length image.pVariable image.size.toNat := by
  intro image himage
  by_contra hmeet
  have hmem := mem_imageObjects_of_output himage
  have hname : image.name ∈ outputObjects := outputImage_names ▸ List.mem_map_of_mem himage
  -- An upload still has to return the zeros that the RPDOs brought.
  have hupload := (imageKept_clearedNode h (onesFrame (index, bSubindex) length)).outputs
    image.name hname _ (written_onesFrame hout length himage)
  have hod : (imagedStep weakApplication (onesFrame (index, bSubindex) length)
      (clearedNode od)).2.system.node.od = od :=
    ((configured_clearedNode od).of_config_eq (config_nodeStep weakApplication _ _)).od_eq
  obtain ⟨sub', object', found', -, hsize, -⟩ := hholds image hmem
  have hobject := storage_of_hasOneImage hholds h image hmem sub' object' found'
  rw [hod, mem_onesFrame found writable fits, uploadedValue_eq hmem (hholds image hmem),
    objectBytes_of_found found', hobject, hsize] at hupload
  have hread := Except.ok.inj (Option.some.inj hupload)
  -- But the two ranges have a place in common, and it holds a one.
  have hpos : ∀ image ∈ imageObjects, 0 < image.size.toNat := by decide
  obtain ⟨i, hi, j, hj, hplace⟩ := Pointer.exists_of_not_apart fits.1 (hpos image hmem) hmeet
  have hlen : i < (List.replicate length (0xFF : Byte)).length := by rwa [List.length_replicate]
  have hones := Memory.cell_write_add (clearedNode od).system.dev.mem object hlen
  have hzero := congrArg (·[j]?) hread
  simp only [Memory.getElem?_read _ _ hj, List.getElem?_replicate, if_pos hj, ← hplace, hones,
    List.getElem_replicate, Option.some.injEq] at hzero
  exact absurd hzero (by decide)

end Aliases

/-! ## The default dictionary -/

/-- The objects of the image in the default dictionary. -/
theorem odObject_default : ∀ image ∈ imageObjects, ∃ bAccessType ∈ [accessRo, accessRw],
    odObject canopenDefaultOdGet image.name.1 image.name.2 =
      .ok (⟨bAccessType, image.bDataType, image.size, some image.pVariable⟩, image.pVariable) := by
  decide

theorem holdsImage_default : canopenDefaultOdGet.HoldsImage := by decide

theorem sharesImage_default : canopenDefaultOdGet.SharesImage := by
  constructor
  · intro image himage sub object found
    obtain ⟨bAccessType, -, hboard⟩ := odObject_default image himage
    exact congrArg Prod.snd (Except.ok.inj (found.symm.trans hboard))
  · intro index bSubindex sub object found writable hout length fits image himage
    obtain ⟨bAccessType, -, hboard⟩ := odObject_default image (mem_imageObjects_of_output himage)
    obtain ⟨hpos, hapart⟩ := boardObjects_apart _ (mem_objects_of_found found)
    have hne : image.name ≠ (index, bSubindex) := by
      rintro heq
      rw [← heq] at hout
      exact hout (outputImage_names ▸ List.mem_map_of_mem himage)
    rw [← fits.2.2 hpos]
    exact (hapart _ (mem_objects_of_found hboard) hne).symm

/-! ## Exactly these dictionaries -/

/-- A dictionary with the image has one image with the PDO engine, in all runs of
all nodes, exactly if it shares the variables. -/
theorem hasOneImage_iff (od : Option CanopenOd)
    (hholds : (od.getD canopenDefaultOdGet).HoldsImage) :
    HasOneImage od ↔ (od.getD canopenDefaultOdGet).SharesImage := by
  refine ⟨fun h => ?_, hasOneImage_of_sharesImage hholds⟩
  cases od with
  | none => exact sharesImage_default
  | some od => exact ⟨storage_of_hasOneImage hholds h, unaliased_of_hasOneImage hholds h⟩

theorem hasOneImage_iff_default : HasOneImage none ↔ canopenDefaultOdGet.SharesImage :=
  hasOneImage_iff none holdsImage_default

/-! ## A dictionary with variables of its own -/

/-- The process image as `objdictgen` lays it out, in variables of the application. -/
def ownDictionary : CanopenOd :=
  ⟨[⟨[entryOf accessRo typeUint8 1 (.custom 0), entryOf accessRo typeUint8 1 (.custom 1)], 0x6000⟩,
    ⟨[entryOf accessRo typeUint8 1 (.custom 2), entryOf accessRw typeUint8 1 (.custom 3)], 0x6200⟩,
    ⟨[entryOf accessRo typeUint8 1 (.custom 4),
      elementEntry accessRo (.custom 5) 0, elementEntry accessRo (.custom 5) 1,
      elementEntry accessRo (.custom 5) 2, elementEntry accessRo (.custom 5) 3],
      0x6401⟩,
    ⟨[entryOf accessRo typeUint8 1 (.custom 6),
      elementEntry accessRw (.custom 7) 0, elementEntry accessRw (.custom 7) 1],
      0x6411⟩]⟩

theorem holdsImage_ownDictionary : ownDictionary.HoldsImage := by decide

/-- After RPDO1 has brought 5, an upload returns another value. -/
theorem not_hasOneImage_ownDictionary :
    ownDictionary.HoldsImage ∧ ¬ HasOneImage (some ownDictionary) := by
  refine ⟨holdsImage_ownDictionary, fun h => ?_⟩
  have hrun := h Unit weakApplication 1 bootDevice _ rfl
    [.rxFrame cobNmt (some [0x01, 0x01]), .rxFrame 0x201 (some [0x05])]
  have hkept := (yields_total.mp (yields_total.mp hrun).2).1
  have hupload := hkept.outputs (0x6200, 1) (by decide) [0x05] rfl
  revert hupload
  decide

end AutomationBoard.Canopen
