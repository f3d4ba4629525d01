/-
# The input variables of the default dictionary

What the accessors of the application leave in the digital and analogue inputs, and
that an output or any other object that can be written is stored elsewhere.
-/

import AutomationBoard.Canopen.ApplicationWorld
import AutomationBoard.Canopen.ImageSharing
import AutomationBoard.Math.FlatArray

namespace AutomationBoard.Canopen

open AutomationBoard.Math AutomationBoard.Program

/-! ## Words in memory -/

theorem wordBytes_inj {v w : Word} (h : wordBytes v = wordBytes w) : v = w := by
  rw [wordBytes, wordBytes, List.cons.injEq, List.cons.injEq] at h
  rw [← Modbus.word_hiByte_loByte v, ← Modbus.word_hiByte_loByte w, h.1, h.2.1]

theorem loadWord_write_self (mem : Mem) (p : Ptr) (value : Word) :
    loadWord (mem.write p (wordBytes value)) p = value := by
  apply wordBytes_inj
  rw [← read_two, Memory.read_write_of_length _ _ (length_wordBytes value)]

theorem loadWord_write_of_apart {mem : Mem} {p q : Ptr} {values : List Byte}
    (h : p.Apart values.length q 2) : loadWord (mem.write p values) q = loadWord mem q := by
  apply wordBytes_inj
  rw [← read_two, ← read_two, Memory.read_write_of_apart h]

theorem cell_write_of_apart {mem : Mem} {p q : Ptr} {values : List Byte}
    (h : p.Apart values.length q 1) : (mem.write p values).cell q = mem.cell q :=
  Memory.cell_write_of_not_covers (h.not_covers Nat.one_pos)

/-! ## The inputs -/

/-- The digital inputs in the image. -/
def imageDigital (mem : Mem) : Byte := mem.cell canopenDefaultOdGetVars.pDigitalInputs

/-- The analogue inputs in the image. -/
def imageAnalog (mem : Mem) (i : Fin 4) : Word :=
  loadWord mem (elementAt canopenDefaultOdGetVars.pAnalogInputs i)

@[simp]
theorem imageDigital_setDigitalInputs (inputs : Byte) (mem : Mem) :
    imageDigital (setDigitalInputs canopenDefaultOdGetVars inputs mem) = inputs :=
  Memory.cell_write_add mem canopenDefaultOdGetVars.pDigitalInputs
    (show 0 < [inputs].length from Nat.one_pos)

@[simp]
theorem imageDigital_setAnalogInput (channel : ℕ) (value : Word) (mem : Mem) :
    imageDigital (setAnalogInput canopenDefaultOdGetVars channel value mem) =
      imageDigital mem := by
  unfold setAnalogInput
  split_ifs
  · exact cell_write_of_apart (.inl fun h => by cases h)
  · rfl

/-- An accessor call sets its own channel. -/
theorem imageAnalog_setAnalogInput (mem : Mem) (channel : ℕ) (value : Word) :
    imageAnalog (setAnalogInput canopenDefaultOdGetVars channel value mem) =
      writeAt (imageAnalog mem) channel value := by
  funext i
  simp only [setAnalogInput, writeAt, imageAnalog]
  by_cases hchannel : channel < 4
  · rw [if_pos hchannel]
    by_cases hi : i.val = channel
    · rw [if_pos hi, hi, loadWord_write_self]
    · rw [if_neg hi]
      apply loadWord_write_of_apart
      simp only [Pointer.Apart, elementAt, Pointer.add, length_wordBytes]
      omega
  · have hne : i.val ≠ channel := fun h => hchannel (h ▸ i.isLt)
    rw [if_neg hchannel, if_neg hne]

/-- A refresh of all inputs. -/
def fullRefresh (digital : Byte) (analog : ℕ → Word) : InputRefresh :=
  ⟨some digital, fun i => some (analog i)⟩

section Refresh

variable (digital : Byte) (analog : ℕ → Word) (mem : Mem)

/-- A refresh of all inputs leaves its values in the image. -/
theorem imageAnalog_fullRefresh (i : Fin 4) :
    imageAnalog ((fullRefresh digital analog).apply canopenDefaultOdGetVars mem) i = analog i := by
  have hfold := view_foldl_range imageAnalog_setAnalogInput
    (setDigitalInputs canopenDefaultOdGetVars digital mem) 0 4 analog
  simp only [Nat.zero_add] at hfold
  refine (congrFun hfold i).trans ?_
  exact if_pos ⟨Nat.zero_le _, by omega⟩

theorem imageDigital_fullRefresh :
    imageDigital ((fullRefresh digital analog).apply canopenDefaultOdGetVars mem) = digital := by
  have hfold (channels : List ℕ) (mem : Mem) : imageDigital (channels.foldl (fun mem i =>
      setIfSome (setAnalogInput canopenDefaultOdGetVars i) (some (analog i)) mem) mem) =
        imageDigital mem := by
    induction channels generalizing mem with
    | nil => rfl
    | cons i channels ih =>
        rw [List.foldl_cons, ih]
        exact imageDigital_setAnalogInput i (analog i) mem
  exact (hfold _ _).trans (imageDigital_setDigitalInputs digital mem)

end Refresh

/-! ## What clients of the node are shown -/

/-- An upload of the digital inputs shows the image. -/
theorem uploadedValue_imageDigital (mem : Mem) :
    uploadedValue canopenDefaultOdGet mem (0x6000, 1) = some (.ok [imageDigital mem]) :=
  uploadedValue_image holdsImage_default sharesImage_default
    (show digitalInputObject ∈ imageObjects by decide) mem

/-- An upload of an analogue input shows the image. -/
theorem uploadedValue_imageAnalog (mem : Mem) (i : Fin 4) :
    uploadedValue canopenDefaultOdGet mem (0x6401, BitVec.ofNat 8 (i + 1)) =
      some (.ok (wordBytes (imageAnalog mem i))) := by
  have himage : ∀ i : Fin 4, analogInputObject i ∈ imageObjects := by decide
  have hupload := uploadedValue_image holdsImage_default sharesImage_default (himage i) mem
  have hread : mem.read (analogInputObject i).pVariable (analogInputObject i).size.toNat =
      wordBytes (imageAnalog mem i) := read_two mem _
  rw [hread] at hupload
  exact hupload

/-- TPDO1 shows the image. -/
theorem tpdo1Data_imageDigital (mem : Mem) :
    tpdo1Data canopenDefaultOdGetVars mem = [imageDigital mem] := rfl

/-- TPDO2 shows the image, low byte first. -/
theorem tpdo2Data_imageAnalog (mem : Mem) :
    tpdo2Data canopenDefaultOdGetVars mem =
      (List.finRange 4).flatMap fun i => wordBytes (imageAnalog mem i) := by
  simp only [tpdo2Data, inputBytes_eq]
  rfl

/-! ## What is stored elsewhere -/

/-- The inputs in the image are the same. -/
def SameInputs (mem mem' : Mem) : Prop :=
  imageDigital mem' = imageDigital mem ∧ imageAnalog mem' = imageAnalog mem

/-- A write outside the two variables leaves the inputs alone. -/
theorem sameInputs_write {mem : Mem} {p : Ptr} {values : List Byte}
    (hdigital : p.Apart values.length Variable.obj6000DiState.addr 1)
    (hanalog : ∀ i : Fin 4, p.Apart values.length (elementAt Variable.obj6401Ai.addr i) 2) :
    SameInputs mem (mem.write p values) := by
  refine ⟨cell_write_of_apart hdigital, funext fun i => ?_⟩
  exact loadWord_write_of_apart (hanalog i)

/-- The objects that hold inputs. -/
def inputImage : List ImageObject :=
  digitalInputObject :: (List.range 4).map analogInputObject

/-- The inputs can be read only. -/
theorem odObject_inputImage : ∀ image ∈ inputImage,
    odObject canopenDefaultOdGet image.name.1 image.name.2 =
      .ok (⟨accessRo, image.bDataType, image.size, some image.pVariable⟩, image.pVariable) := by
  decide

/-- An object that can be written is not an input. -/
theorem sameInputs_download {mem : Mem} {index : Word} {bSubindex : Byte} {sub : Subindex}
    {object : Ptr} (found : odObject canopenDefaultOdGet index bSubindex = .ok (sub, object))
    (writable : sub.bAccessType &&& accessWriteMask ≠ 0) {src : List Byte}
    (fits : 0 < sub.size.toNat → sub.size.toNat = src.length) :
    SameInputs mem (mem.write object src) := by
  have hpos := (boardObjects_apart _ (mem_objects_of_found found)).1
  have hapart : ∀ image ∈ inputImage,
      object.Apart src.length image.pVariable image.size.toNat := by
    intro image himage
    have hinput := odObject_inputImage image himage
    have hne : (index, bSubindex) ≠ image.name := by
      intro hname
      rw [← hname] at hinput
      obtain ⟨rfl, -⟩ := Prod.mk.inj (Except.ok.inj (found.symm.trans hinput))
      exact writable (show accessRo &&& accessWriteMask = 0 by decide)
    rw [← fits hpos]
    exact (boardObjects_apart _ (mem_objects_of_found hinput)).2 _ (mem_objects_of_found found) hne
  refine sameInputs_write (hapart digitalInputObject (by decide)) fun i => ?_
  have himage : ∀ i : Fin 4, analogInputObject i ∈ inputImage := by decide
  exact hapart (analogInputObject i) (himage i)

end AutomationBoard.Canopen
