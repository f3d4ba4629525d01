/-
# The file store as a function

Which value a register of a file has after sub-requests were stored: the last
sub-request that names the register decides, and registers that none names keep
their value.
-/

import AutomationBoard.Modbus.Response

namespace AutomationBoard.Modbus

/-- The value a sub-request has for a register of a file, if it names it. -/
def FileWrite.valueAt (write : FileWrite) (file record : ℕ) : Option Word :=
  if write.span.file = file ∧ write.span.start ≤ record ∧
      record < write.span.start + write.span.count then
    some (write.values.getD (record - write.span.start) 0)
  else none

/-- The value that the last sub-request to name a register has for it. -/
def lastWritten (writes : List FileWrite) (file record : ℕ) : Option Word :=
  writes.foldl (fun value write => (write.valueAt file record).or value) none

/-- A write to a register changes that register alone. -/
theorem fileAt_fileRegWritten (files : Vector (Vector Word fileSizeRegs) fileCount)
    {file record : ℕ} (hfile : file < fileCount) (hrecord : record < fileSizeRegs) (value : Word)
    (f r : ℕ) :
    fileAt (fileRegWritten files file record value) f r =
      if file = f ∧ record = r then value else fileAt files f r := by
  unfold fileRegWritten
  rw [dif_pos hfile, dif_pos hrecord]
  by_cases hf : f = file
  · subst hf
    by_cases hr : r = record
    · subst hr
      simp [fileAt, regAt, hfile, hrecord]
    · simp [fileAt, regAt, hfile, Ne.symm hr]
  · simp [fileAt, Ne.symm hf]

/-- The values of a sub-request are stored one after another. -/
theorem fileAt_stored (write : FileWrite) (files : Vector (Vector Word fileSizeRegs) fileCount)
    {n : ℕ} (hn : n ≤ write.span.count) (f r : ℕ) :
    fileAt (write.stored files n) f r =
      if write.span.file = f ∧ write.span.start ≤ r ∧ r < write.span.start + n then
        write.values.getD (r - write.span.start) 0
      else fileAt files f r := by
  induction n with
  | zero =>
      rw [if_neg (by omega)]
      rfl
  | succ n ih =>
      have hfits := write.span.fits
      have hstep : write.stored files (n + 1) =
          fileRegWritten (write.stored files n) write.span.file (write.span.start + n)
            (write.values.getD n 0) := by
        simp [FileWrite.stored, List.range_succ]
      rw [hstep, fileAt_fileRegWritten _ write.span.file_lt (by omega), ih (by omega)]
      by_cases hlast : write.span.file = f ∧ write.span.start + n = r
      · rw [if_pos hlast, if_pos (by omega), show r - write.span.start = n by omega]
      · rw [if_neg hlast]
        by_cases hbefore : write.span.file = f ∧ write.span.start ≤ r ∧ r < write.span.start + n
        · rw [if_pos hbefore, if_pos (by omega)]
        · rw [if_neg hbefore, if_neg (by omega)]

/-- After the sub-requests of a write, each register has the last value given to
it. -/
theorem fileAt_filesWritten (files : Vector (Vector Word fileSizeRegs) fileCount)
    (writes : List FileWrite) (f r : ℕ) :
    fileAt (filesWritten files writes) f r =
      (lastWritten writes f r).getD (fileAt files f r) := by
  induction writes using List.reverseRecOn with
  | nil => rfl
  | append_singleton writes write ih =>
      have hfiles : filesWritten files (writes ++ [write]) =
          write.stored (filesWritten files writes) write.span.count := by
        simp [filesWritten]
      have hlast : lastWritten (writes ++ [write]) f r =
          (write.valueAt f r).or (lastWritten writes f r) := by
        simp [lastWritten]
      rw [hfiles, hlast, fileAt_stored _ _ (Nat.le_refl _), ih, FileWrite.valueAt]
      split <;> simp

/-- Two file stores that agree on every register are equal. -/
theorem fileStore_ext {files files' : Vector (Vector Word fileSizeRegs) fileCount}
    (h : ∀ f r, fileAt files f r = fileAt files' f r) : files = files' := by
  apply Vector.ext
  intro f hf
  apply Vector.ext
  intro r hr
  simpa [fileAt, regAt, hf, hr] using h f r

/-- Sub-requests that give every register the value it has change nothing. -/
theorem filesWritten_eq_self_iff (files : Vector (Vector Word fileSizeRegs) fileCount)
    (writes : List FileWrite) :
    filesWritten files writes = files ↔
      ∀ f r v, lastWritten writes f r = some v → fileAt files f r = v := by
  constructor
  · intro h f r v hv
    have := fileAt_filesWritten files writes f r
    rwa [h, hv, Option.getD_some] at this
  · intro h
    apply fileStore_ext
    intro f r
    rw [fileAt_filesWritten]
    cases hv : lastWritten writes f r with
    | none => rfl
    | some v => exact (h f r v hv).symm

end AutomationBoard.Modbus
