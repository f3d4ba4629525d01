/-
# The output variables of the default dictionary

The digital and analogue outputs in the image, and that nothing but an object with
index 0x6200 or 0x6411 is stored there.
-/

import AutomationBoard.Canopen.InputImage

namespace AutomationBoard.Canopen

open AutomationBoard.Program

/-- The digital outputs in the image. -/
def imageOutputs (mem : Mem) : Byte := mem.cell canopenDefaultOdGetVars.pDigitalOutputs

/-- An analogue output in the image. -/
def imageAnalogOutput (mem : Mem) (i : ℕ) : Word :=
  loadWord mem (elementAt canopenDefaultOdGetVars.pAnalogOutputs i)

/-- The outputs in the image are the same. -/
structure SameOutputs (mem mem' : Mem) : Prop where
  digital : imageOutputs mem' = imageOutputs mem
  analog : ∀ i < 2, imageAnalogOutput mem' i = imageAnalogOutput mem i

theorem SameOutputs.trans {mem mem' mem'' : Mem} (h : SameOutputs mem mem')
    (h' : SameOutputs mem' mem'') : SameOutputs mem mem'' where
  digital := h'.digital.trans h.digital
  analog i hi := (h'.analog i hi).trans (h.analog i hi)

/-- Only the inputs have changed. -/
theorem SameOutsideInputs.sameOutputs {mem mem' : Mem} (h : SameOutsideInputs mem mem') :
    SameOutputs mem mem' where
  digital := h _ (by decide) (by decide)
  analog i _ := by
    have hread := h.read_eq (p := elementAt canopenDefaultOdGetVars.pAnalogOutputs i)
      (fun heq => by cases heq) (fun heq => by cases heq) 2
    rw [read_two, read_two] at hread
    exact wordBytes_inj hread

/-- The outputs can be written. -/
theorem odObject_outputImage : ∀ image ∈ outputImage,
    odObject canopenDefaultOdGet image.name.1 image.name.2 =
      .ok (⟨accessRw, image.bDataType, image.size, some image.pVariable⟩, image.pVariable) := by
  decide

/-- An object under another index is stored elsewhere. -/
theorem sameOutputs_download {mem : Mem} {index : Word} {bSubindex : Byte} {sub : Subindex}
    {object : Ptr} (found : odObject canopenDefaultOdGet index bSubindex = .ok (sub, object))
    (hindex : ¬ (index = 0x6200 ∨ index = 0x6411)) {src : List Byte}
    (fits : 0 < sub.size.toNat → sub.size.toNat = src.length) :
    SameOutputs mem (mem.write object src) := by
  have hpos := (boardObjects_apart _ (mem_objects_of_found found)).1
  have hnames : ∀ image ∈ outputImage, image.name.1 = 0x6200 ∨ image.name.1 = 0x6411 := by decide
  have hapart : ∀ image ∈ outputImage,
      object.Apart src.length image.pVariable image.size.toNat := by
    intro image himage
    have hne : (index, bSubindex) ≠ image.name := by
      intro hname
      have hsame : index = image.name.1 := congrArg Prod.fst hname
      exact hindex (hsame ▸ hnames image himage)
    rw [← fits hpos]
    exact (boardObjects_apart _ (mem_objects_of_found (odObject_outputImage image himage))).2 _
      (mem_objects_of_found found) hne
  constructor
  · exact cell_write_of_apart (hapart digitalOutputObject (by decide))
  · intro i hi
    have himage : ∀ i < 2, analogOutputObject i ∈ outputImage := by decide
    exact loadWord_write_of_apart (hapart (analogOutputObject i) (himage i hi))

end AutomationBoard.Canopen
