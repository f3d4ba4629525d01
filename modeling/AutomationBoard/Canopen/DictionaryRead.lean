/-
# Reading an object into a buffer

`canopen_od_read` copies at most as many bytes as the caller has room for, but
reports the size of the object. The two numbers are the same exactly for objects
that fit, so a caller with a short buffer is told of bytes it does not have.
-/

import AutomationBoard.Canopen.Dictionary

namespace AutomationBoard.Canopen

open AutomationBoard.Program

variable {od : CanopenOd} {mem : Mem} {index : Word} {bSubindex : Byte}

/-- What a call of `canopen_od_read` leaves is what its documentation promises: the
leading bytes of the object, as many as there is room for, and their number; or an
abort code and nothing else. -/
structure ReportsCopied (od : CanopenOd) (mem : Mem) (index : Word) (bSubindex : Byte)
    (pDest : List Byte) (pSize : Long) (result : Except SdoAbort Unit × List Byte × Long) :
    Prop where
  copied : result.1 = .ok () → ∃ sub object, odObject od index bSubindex = .ok (sub, object) ∧
    result.2.1.take (min pSize.toNat sub.size.toNat) =
      mem.read object (min pSize.toNat sub.size.toNat) ∧
    result.2.1.drop (min pSize.toNat sub.size.toNat) =
      pDest.drop (min pSize.toNat sub.size.toNat) ∧
    result.2.2.toNat = min pSize.toNat sub.size.toNat
  refused : ∀ e, result.1 = .error e → result.2 = (pDest, pSize)

/-- The object that is named, where there is one and it may be read, is no larger
than the buffer. -/
def FitsBuffer (od : CanopenOd) (index : Word) (bSubindex : Byte) (pSize : Long) : Prop :=
  ∀ sub object, odObject od index bSubindex = .ok (sub, object) → ReadAllowed sub.bAccessType →
    sub.size.toNat ≤ pSize.toNat

/-! ## What a read does -/

/-- A read that is refused changes nothing. -/
theorem canopenOdRead_refused (mem : Mem) (pDest : List Byte) (pSize : Long)
    (h : ∀ sub object, odObject od index bSubindex = .ok (sub, object) →
      ¬ ReadAllowed sub.bAccessType) :
    ∃ e, canopenOdRead od mem index bSubindex pDest pSize = (.error e, pDest, pSize) := by
  unfold canopenOdRead
  cases hfound : odObject od index bSubindex with
  | error e => exact ⟨e, rfl⟩
  | ok entry => exact ⟨.readNotAllowed, if_pos (h entry.1 entry.2 hfound)⟩

/-- A read that is carried out copies what there is room for and reports the size of
the object. -/
theorem canopenOdRead_accepted (mem : Mem) {sub : Subindex} {object : Ptr}
    (found : odObject od index bSubindex = .ok (sub, object))
    (readable : ReadAllowed sub.bAccessType) (pDest : List Byte) (pSize : Long) :
    canopenOdRead od mem index bSubindex pDest pSize =
      (.ok (), mem.read object (min pSize.toNat sub.size.toNat) ++
        pDest.drop (min pSize.toNat sub.size.toNat), sub.size) := by
  have hcopy : (if pSize < sub.size then pSize else sub.size).toNat =
      min pSize.toNat sub.size.toNat := by
    split_ifs with hshort
    · exact (Nat.min_eq_left (Nat.le_of_lt (BitVec.lt_def.mp hshort))).symm
    · exact (Nat.min_eq_right (Nat.not_lt.mp (mt BitVec.lt_def.mpr hshort))).symm
  simp only [canopenOdRead, found, if_neg (not_not_intro readable), hcopy]

/-- The buffer and the size are as documented exactly if the object, where it is
read at all, fits the buffer. -/
theorem canopenOdRead_reportsCopied_iff (od : CanopenOd) (mem : Mem) (index : Word)
    (bSubindex : Byte) (pDest : List Byte) (pSize : Long) :
    ReportsCopied od mem index bSubindex pDest pSize
        (canopenOdRead od mem index bSubindex pDest pSize) ↔
      FitsBuffer od index bSubindex pSize := by
  by_cases hread : ∃ sub object, odObject od index bSubindex = .ok (sub, object) ∧
      ReadAllowed sub.bAccessType
  · obtain ⟨sub, object, found, readable⟩ := hread
    rw [canopenOdRead_accepted mem found readable]
    have hlength := mem.length_read object (min pSize.toNat sub.size.toNat)
    constructor
    · intro h sub' object' found' _
      obtain ⟨sub'', object'', found'', -, -, hsize⟩ := h.copied rfl
      rw [found] at found' found''
      cases found'
      cases found''
      calc
        sub.size.toNat = min pSize.toNat sub.size.toNat := hsize
        _ ≤ pSize.toNat := Nat.min_le_left _ _
    · intro hfits
      refine ⟨fun _ => ⟨sub, object, found, List.take_left' hlength, List.drop_left' hlength, ?_⟩,
        nofun⟩
      exact (Nat.min_eq_right (hfits sub object found readable)).symm
  · have hrefused : ∀ sub object, odObject od index bSubindex = .ok (sub, object) →
        ¬ ReadAllowed sub.bAccessType :=
      fun sub object found readable => hread ⟨sub, object, found, readable⟩
    obtain ⟨e, hresult⟩ := canopenOdRead_refused mem pDest pSize hrefused
    rw [hresult]
    refine iff_of_true ⟨nofun, fun _ _ => rfl⟩ ?_
    exact fun sub object found readable => absurd readable (hrefused sub object found)

/-- Two bytes of the device type are read, and four reported. -/
theorem not_canopenOdRead_reportsCopied :
    ¬ ReportsCopied canopenDefaultOdGet bootMem 0x1000 0 [0xAA, 0xAA] 2
      (canopenOdRead canopenDefaultOdGet bootMem 0x1000 0 [0xAA, 0xAA] 2) := by
  intro h
  obtain ⟨sub, object, found, -, -, hsize⟩ := h.copied (by decide +kernel)
  have hreported : (canopenOdRead canopenDefaultOdGet bootMem 0x1000 0 [0xAA, 0xAA] 2).2.2 = 4 := by
    decide +kernel
  have hcopied : min (2 : Long).toNat sub.size.toNat ≤ 2 := Nat.min_le_left _ _
  rw [hreported] at hsize
  have hfour : (4 : Long).toNat = 4 := rfl
  omega

end AutomationBoard.Canopen
