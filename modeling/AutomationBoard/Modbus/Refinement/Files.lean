/-
# Files, queues and identification

The handlers that walk over the sub-requests of a file access compute the
abstract replies. Their loop invariants say how much of the request is parsed:
what remains to be parsed, put after what is done, is the parse of the whole.
-/

import AutomationBoard.Modbus.Refinement.Writes

namespace AutomationBoard.Modbus

open AutomationBoard.Math AutomationBoard.Program

variable {cfg : Config} {hooks : SyncHooks cfg} {rx : List Byte} {env : PduEnv cfg}

/-! ## Checked file accesses -/

@[simp]
theorem yields_fileReg {file record : ℕ} {post : Word → PduEnv cfg → Prop} :
    Yields (fileReg file record) env post ↔
      file < fileCount ∧ record < fileSizeRegs ∧
        post (fileAt env.store.fileStore file record) env := by
  rw [fileReg, yields_onStore]
  by_cases hfile : file < fileCount
  · by_cases hrecord : record < fileSizeRegs <;> simp [hfile, hrecord, fileAt, regAt]
  · simp [hfile]

@[simp]
theorem yields_setFileReg {file record : ℕ} {value : Word} {post : PUnit → PduEnv cfg → Prop} :
    Yields (setFileReg file record value) env post ↔
      file < fileCount ∧ record < fileSizeRegs ∧
        post ⟨⟩ (env.updateStore fun s =>
          { s with fileStore := fileRegWritten s.fileStore file record value }) := by
  rw [setFileReg, yields_onStore]
  by_cases hfile : file < fileCount
  · by_cases hrecord : record < fileSizeRegs <;>
      simp [hfile, hrecord, fileRegWritten, PduEnv.updateStore]
  · simp [hfile]

theorem modbusFileIndexValid_iff (fileNumber : ℕ) :
    modbusFileIndexValid fileNumber ↔ 1 ≤ fileNumber ∧ fileNumber ≤ fileCount := by
  simp [modbusFileIndexValid]

theorem modbusFileRangeValid_iff (recordNumber : ℕ) {recordLength : ℕ} (h : 1 ≤ recordLength) :
    modbusFileRangeValid recordNumber recordLength ↔
      recordNumber + recordLength ≤ fileSizeRegs := by
  unfold modbusFileRangeValid
  split_ifs <;> simp <;> omega

/-- The checks of a sub-request, which the two file loops share. -/
theorem yields_fileChecks {σ : Type} {s : Exchange σ} {fc : FunctionCode} {l : FileLocals}
    {off : ℕ} {good : PduM σ (ForInStep FileLocals)}
    {post : ForInStep FileLocals → Exchange σ → Prop}
    (hbad : ∀ e, parseFileSpan rx off = .error e → Yields (failFile fc e l) s post)
    (hgood : ∀ span, parseFileSpan rx off = .ok span →
      span.file = (wordAt rx (off + 1)).toNat - 1 → span.start = (wordAt rx (off + 3)).toNat →
      span.count = (wordAt rx (off + 5)).toNat → Yields good s post) :
    Yields
      (if byteAt rx off ≠ fileRefType ∨ (wordAt rx (off + 5)).toNat < 1 then
        failFile fc .illegalDataValue l
      else if (wordAt rx (off + 3)).toNat > 0x270F ∨
          ¬ modbusFileIndexValid (wordAt rx (off + 1)).toNat ∨
          ¬ modbusFileRangeValid (wordAt rx (off + 3)).toNat (wordAt rx (off + 5)).toNat then
        failFile fc .illegalDataAddress l
      else good) s post := by
  by_cases hvalue : byteAt rx off = fileRefType ∧ 1 ≤ (wordAt rx (off + 5)).toNat
  · rw [if_neg (by rw [not_or, not_not, Nat.not_lt]; exact hvalue)]
    have hindex := modbusFileIndexValid_iff (wordAt rx (off + 1)).toNat
    have hrange := modbusFileRangeValid_iff (wordAt rx (off + 3)).toNat hvalue.2
    by_cases haddr : (1 ≤ (wordAt rx (off + 1)).toNat ∧ (wordAt rx (off + 1)).toNat ≤ fileCount) ∧
        (wordAt rx (off + 3)).toNat + (wordAt rx (off + 5)).toNat ≤ fileSizeRegs
    · have hsize : fileSizeRegs = 128 := rfl
      rw [if_neg (by rw [hindex, hrange]; omega)]
      refine hgood ⟨_, _, _, by omega, hvalue.2, haddr.2⟩ ?_ rfl rfl rfl
      rw [parseFileSpan, dif_pos hvalue, dif_pos haddr]
    · rw [if_pos (by rw [hindex, hrange]; omega)]
      exact hbad _ (by rw [parseFileSpan, dif_pos hvalue, dif_neg haddr])
  · rw [if_pos (by rw [← Nat.not_le, ← not_and_or]; exact hvalue)]
    exact hbad _ (by rw [parseFileSpan, dif_neg hvalue])

/-- Leaving a file loop with an exception. -/
theorem yields_failFile {σ : Type} {given out : List Byte} {b : Byte} {s : Exchange σ}
    (room : 253 ≤ given.length) (h : Wrote given s.tx (b :: out)) (fc : FunctionCode)
    (e : ExceptionCode) (l : FileLocals) :
    Yields (failFile fc e l) s fun r s' =>
      r = .done { l with pduLen := 2, ok := false } ∧ s'.env = s.env ∧
        Wrote given s'.tx (exceptionPdu fc.code e) := by
  rw [failFile, yields_bind]
  apply (yields_modbusExceptionResponse room h fc.code e).mono
  rintro _ s' ⟨rfl, henv, hwrote⟩
  exact yields_pure.mpr ⟨rfl, henv, hwrote⟩

/-! ## Reading file records -/

/-- The data of a response to a file read. -/
def subResponses (env : PduEnv cfg) (spans : List FileSpan) : List Byte :=
  spans.flatMap fun span => span.subResponse env.store.fileStore

@[simp]
theorem length_subResponse (span : FileSpan)
    (files : Vector (Vector Word fileSizeRegs) fileCount) :
    (span.subResponse files).length = 2 + span.count * 2 := by
  simp [FileSpan.subResponse, FileSpan.read]
  omega

theorem subResponses_concat (env : PduEnv cfg) (spans : List FileSpan) (span : FileSpan) :
    subResponses env (spans ++ [span]) =
      subResponses env spans ++ span.subResponse env.store.fileStore := by
  simp [subResponses]

/-- Where the loop of a file read stands: the sub-responses of the part that is
done are in the buffer, after a byte that is filled in at the end. -/
structure FileReadInv (rx given : List Byte) (env : PduEnv cfg) (fc : FunctionCode) (total i : ℕ)
    (l : FileLocals) (t : Exchange (PduEnv cfg)) (done : List FileSpan) : Prop where
  parse : parseFileReads rx total 0 2 =
    (done ++ ·) <$> parseFileReads rx (total - i) i l.pos
  ok : l.ok = true
  env_eq : t.env = env
  pos : l.pos = 2 + (subResponses env done).length
  wrote : ∃ hole, Wrote given t.tx (fc.code :: hole :: subResponses env done)

/-- How the loop of a file read ends. -/
def FileReadDone (rx given : List Byte) (env : PduEnv cfg) (fc : FunctionCode) (total : ℕ)
    (l : FileLocals) (t : Exchange (PduEnv cfg)) : Prop :=
  t.env = env ∧
    match parseFileReads rx total 0 2 with
    | .error e => l.ok = false ∧ l.pduLen = 2 ∧ Wrote given t.tx (exceptionPdu fc.code e)
    | .ok spans => l.ok = true ∧ l.pos = 2 + (subResponses env spans).length ∧
        ∃ hole, Wrote given t.tx (fc.code :: hole :: subResponses env spans)

/-- Storing a sub-response after what is in the buffer. -/
theorem yields_subResponse {given out : List Byte} {s : Exchange (PduEnv cfg)} {α : Type} {a : α}
    (room : 253 ≤ given.length) (h : Wrote given s.tx out) (span : FileSpan) {base : ℕ}
    (hbase : base = out.length) (fits : base + (2 + span.count * 2) ≤ 253) :
    Yields (do
        txSet base (BitVec.ofNat 8 (1 + span.count * 2))
        txSet (base + 1) fileRefType
        forRange span.count fun r => do
          let val ← onEnv (fileReg span.file (span.start + r))
          txSet (base + 2 + r * 2) (hiByte val)
          txSet (base + 2 + r * 2 + 1) (loByte val)
        pure a) s
      fun a' s' => a' = a ∧ s'.env = s.env ∧
        Wrote given s'.tx (out ++ span.subResponse s.env.store.fileStore) := by
  subst hbase
  have hin := h.length
  have hlen := h.push room (BitVec.ofNat 8 (1 + span.count * 2)) (by omega)
  have htype := hlen.push room fileRefType (by
    rw [List.length_append, List.length_singleton]
    omega)
  rw [List.length_append, List.length_singleton] at htype
  rw [yields_bind, yields_txSet, yields_bind, yields_txSet, List.length_set, yields_bind]
  refine ⟨by omega, by omega, ?_⟩
  refine (yields_pushWords (f := fun r => fileAt s.env.store.fileStore span.file (span.start + r))
    room htype (by simp) (by omega) ?_).mono ?_
  · intro i hi t henv
    have hfits := span.fits
    rw [yields_onEnv, yields_fileReg, henv]
    exact ⟨span.file_lt, by omega, rfl, by rw [← henv]⟩
  · rintro _ s' ⟨henv, hwrote⟩
    refine yields_pure.mpr ⟨rfl, henv, ?_⟩
    simpa [FileSpan.subResponse, FileSpan.read] using hwrote

/-- One pass through the loop of a file read. -/
theorem yields_readFileSubRequest {given : List Byte} {fc : FunctionCode} {total i : ℕ}
    {l : FileLocals} {t : Exchange (PduEnv cfg)} {done : List FileSpan}
    (room : 253 ≤ given.length) (hi : i < total) (hlength : rx.length = 2 + total * 7)
    (htotal : total < 256) (inv : FileReadInv rx given env fc total i l t done) :
    Yields (readFileSubRequest cfg rx fc i l) t (AfterPass
      (FileReadDone rx given env fc total)
      fun next t' => ∃ done, FileReadInv rx given env fc total (i + 1) next t' done) := by
  have hoff : uint16 (2 + i * 7) = 2 + i * 7 := uint16_of_lt (by omega)
  have hparse := inv.parse
  obtain ⟨hole, hwrote⟩ := inv.wrote
  obtain ⟨rest, hrest⟩ : ∃ rest, total - i = rest + 1 := ⟨total - i - 1, by omega⟩
  rw [hrest, parseFileReads] at hparse
  -- a refused sub-request refuses the whole request
  have hfail : ∀ e, parseFileReads rx total 0 2 = .error e →
      Yields (failFile fc e l) t (AfterPass (FileReadDone rx given env fc total)
        fun next t' => ∃ done, FileReadInv rx given env fc total (i + 1) next t' done) := by
    intro e he
    apply (yields_failFile room hwrote fc e l).mono
    rintro _ t' ⟨rfl, henv, hwrote'⟩
    refine ⟨henv.trans inv.env_eq, ?_⟩
    rw [he]
    exact ⟨rfl, rfl, hwrote'⟩
  simp (disch := omega) only [readFileSubRequest, yields_bind, hoff, yields_rxByte, yields_rxWord]
  refine yields_fileChecks (fun e he => ?_)
    (fun span hspan hfile hstart hcount => ?_)
  · rw [he] at hparse
    exact hfail e hparse
  · rw [hspan] at hparse
    have hfits := span.fits
    have hsize : fileSizeRegs = 128 := rfl
    have hfile_lt : span.file < 4 := span.file_lt
    rw [← hcount, ← hstart, ← hfile, uint16_of_lt (by omega), uint8_of_lt (by omega)]
    by_cases hout : l.pos + (2 + span.count * 2) > 253
    · rw [if_pos (by omega)]
      refine hfail .illegalDataValue ?_
      rw [hparse]
      simp only [bind, Except.bind, if_pos hout]
      rfl
    · rw [if_neg (by omega)]
      have hpos := inv.pos
      apply (yields_subResponse room hwrote span (by simp [hpos]; omega) (by omega)).mono
      rintro _ t' ⟨rfl, henv, hwrote'⟩
      refine ⟨done ++ [span], ?_, inv.ok, henv.trans inv.env_eq, ?_, hole, ?_⟩
      · rw [hparse, show total - (i + 1) = rest by omega]
        simp only [bind, Except.bind, if_neg hout]
        cases parseFileReads rx rest (i + 1) (l.pos + 2 + span.count * 2) with
        | error e => rfl
        | ok spans => simp [pure, Except.pure, Functor.map, Except.map]
      · show l.pos + 2 + span.count * 2 = 2 + (subResponses env (done ++ [span])).length
        rw [subResponses_concat, List.length_append, length_subResponse, hpos]
        omega
      · rw [inv.env_eq] at hwrote'
        rw [subResponses_concat]
        exact hwrote'

/-- The loop of a file read parses all the sub-requests. -/
theorem yields_readFileLoop {given tx : List Byte} {fc : FunctionCode} {total : ℕ}
    (room : 253 ≤ given.length) (h : Wrote given tx [fc.code]) (hlength : rx.length = 2 + total * 7)
    (htotal : total < 256) :
    Yields (forBreak total 0 (⟨2, 1, true⟩ : FileLocals) (readFileSubRequest cfg rx fc)) ⟨env, tx⟩
      (FileReadDone rx given env fc total) := by
  obtain ⟨hole, hhole⟩ := h.skip room (by simp)
  refine Yields.forBreak (fun i l t => ∃ done, FileReadInv rx given env fc total i l t done)
    ⟨[], ?_, rfl, rfl, rfl, hole, hhole⟩ ?_ ?_
  · cases parseFileReads rx total 0 2 <;> rfl
  · rintro i _ hi l t ⟨done, inv⟩
    exact yields_readFileSubRequest room (by omega) hlength htotal inv
  · rintro l t ⟨done, inv⟩
    have hparse := inv.parse
    rw [Nat.zero_add, Nat.sub_self, parseFileReads] at hparse
    have hall : parseFileReads rx total 0 2 = .ok done := by simpa using hparse
    refine ⟨inv.env_eq, ?_⟩
    rw [hall]
    exact ⟨inv.ok, inv.pos, inv.wrote⟩

theorem answers_readFileRecord :
    Answers (readFileRecord cfg rx .readFileRecord) env FunctionCode.readFileRecord.code
      (answer hooks FunctionCode.readFileRecord.code rx env (parseReadFileRecord cfg rx)) := by
  rw [readFileRecord, parseReadFileRecord]
  refine answers_reject Iff.rfl fun hlength => answers_rxByte (by omega) ?_
  have hbyte := (byteAt rx 1).isLt
  rw [uint16_of_lt (by omega), uint8_of_lt (by omega)]
  refine answers_require (by omega) fun hcount => ?_
  intro given tx room hwrote
  rw [yields_bind]
  apply (yields_readFileLoop room hwrote (by omega) (by omega)).mono
  rintro l t ⟨henv, hend⟩
  cases hparse : parseFileReads rx ((byteAt rx 1).toNat / 7) 0 2 with
  | error e =>
      rw [hparse] at hend
      obtain ⟨hok, hlen, hwrote'⟩ := hend
      rw [hok, if_neg (by decide), yields_pure]
      exact ⟨hlen, henv, hwrote'⟩
  | ok spans =>
      rw [hparse] at hend
      obtain ⟨hok, hpos, hole, hwrote'⟩ := hend
      have hin := hwrote'.length
      have hcode := hwrote'.set FunctionCode.readFileRecord.code (i := 0) (by simp)
      have hlen := hcode.set (BitVec.ofNat 8 (l.pos - 2)) (i := 1) (by simp)
      rw [hpos] at hlen ⊢
      rw [hok, if_pos rfl, yields_bind, yields_txSet, yields_bind, yields_txSet, yields_pure,
        List.length_set]
      refine ⟨by omega, by omega, ?_, henv, ?_⟩
      · simp [answer, execute, subResponses, Functor.map, Except.map]
        omega
      · simpa [answer, execute, subResponses, Functor.map, Except.map] using hlen

/-! ## Writing file records -/

/-- The files changed by the sub-requests that are done. -/
def fileWritesDone (env : PduEnv cfg) (writes : List FileWrite) : PduEnv cfg :=
  env.updateStore fun s => { s with fileStore := filesWritten s.fileStore writes }

/-- Where the loop of a file write stands: `done` is stored, and the rest of the
request is still to be parsed. -/
structure FileWriteInv (rx given : List Byte) (env : PduEnv cfg) (fc : FunctionCode)
    (l : FileLocals) (t : Exchange (PduEnv cfg)) (done : List FileWrite) (bound : ℕ) : Prop where
  parse : parseFileWrites rx rx.length 2 =
    (done ++ (parseFileWrites rx bound l.pos).1, (parseFileWrites rx bound l.pos).2)
  enough : rx.length - l.pos ≤ bound
  ok : l.ok = true
  env_eq : t.env = fileWritesDone env done
  wrote : Wrote given t.tx [fc.code]

/-- How the loop of a file write ends: what was accepted is stored, refused or
not. -/
def FileWriteDone (rx given : List Byte) (env : PduEnv cfg) (fc : FunctionCode)
    (l : FileLocals) (t : Exchange (PduEnv cfg)) : Prop :=
  t.env = fileWritesDone env (parseFileWrites rx rx.length 2).1 ∧
    match (parseFileWrites rx rx.length 2).2 with
    | some e => l.ok = false ∧ l.pduLen = 2 ∧ Wrote given t.tx (exceptionPdu fc.code e)
    | none => l.ok = true ∧ Wrote given t.tx [fc.code]

/-- The loop that stores the values of a sub-request. -/
theorem yields_storeFileRegs {s : Exchange (PduEnv cfg)} (span : FileSpan) {base : ℕ}
    (hread : base + span.count * 2 ≤ rx.length) {α : Type} {a : α} :
    Yields (do
        forRange span.count fun r => do
          let val ← rxWord rx (base + r * 2)
          onEnv (setFileReg span.file (span.start + r) val)
        pure a) s
      fun a' s' => a' = a ∧ s' = { s with env := s.env.updateStore fun t => { t with
        fileStore := FileWrite.stored ⟨span, wordsAt rx base span.count, length_wordsAt _ _ _⟩
          t.fileStore span.count } } := by
  have hfits := span.fits
  rw [yields_bind]
  refine (Yields.forRange (fun r s' => s' = { s with env := s.env.updateStore fun t => { t with
    fileStore := FileWrite.stored ⟨span, wordsAt rx base span.count, length_wordsAt _ _ _⟩
      t.fileStore r } }) rfl ?_).mono ?_
  · rintro r hr _ rfl
    have hval : (wordsAt rx base span.count).getD r 0 = wordAt rx (base + r * 2) := by
      simp [wordsAt, hr]
    rw [yields_bind, yields_rxWord (by omega), yields_onEnv, yields_setFileReg]
    refine ⟨span.file_lt, by omega, ?_⟩
    simp only [PduEnv.updateStore, FileWrite.stored, List.range_succ, List.foldl_append,
      List.foldl_cons, List.foldl_nil, hval]
  · rintro _ _ rfl
    exact yields_pure.mpr ⟨rfl, rfl⟩

/-- One pass through the loop of a file write. -/
theorem yields_writeFileSubRequest {given : List Byte} {fc : FunctionCode} {byteCount bound : ℕ}
    {l : FileLocals} {t : Exchange (PduEnv cfg)} {done : List FileWrite}
    (room : 253 ≤ given.length) (hbyte : byteCount < 256) (hlength : rx.length = 2 + byteCount)
    (hpos : l.pos < rx.length) (inv : FileWriteInv rx given env fc l t done bound) :
    Yields (writeFileSubRequest cfg rx fc byteCount l) t (AfterPass
      (FileWriteDone rx given env fc)
      fun next t' => (∃ done bound, FileWriteInv rx given env fc next t' done bound) ∧
        rx.length - next.pos < rx.length - l.pos) := by
  have hparse := inv.parse
  have henough := inv.enough
  obtain ⟨rest, rfl⟩ : ∃ rest, bound = rest + 1 := ⟨bound - 1, by omega⟩
  rw [parseFileWrites, if_pos hpos] at hparse
  -- a refused sub-request leaves what is done
  have hfail : ∀ e, parseFileWrite rx l.pos = .error e →
      Yields (failFile fc e l) t (AfterPass (FileWriteDone rx given env fc)
        fun next t' => (∃ done bound, FileWriteInv rx given env fc next t' done bound) ∧
          rx.length - next.pos < rx.length - l.pos) := by
    intro e he
    rw [he, List.append_nil] at hparse
    apply (yields_failFile room inv.wrote fc e l).mono
    rintro _ t' ⟨rfl, henv, hwrote⟩
    rw [AfterPass, FileWriteDone, hparse]
    exact ⟨henv.trans inv.env_eq, rfl, rfl, hwrote⟩
  rw [writeFileSubRequest, uint16_of_lt (by omega), uint16_of_lt (by omega), ← hlength]
  by_cases hshort : rx.length < l.pos + 7
  · rw [if_pos (by omega)]
    exact hfail _ (by rw [parseFileWrite, if_pos hshort])
  · rw [if_neg (by omega)]
    simp (disch := omega) only [yields_bind, yields_rxByte, yields_rxWord]
    refine yields_fileChecks (fun e he => hfail e ?_) (fun span hspan hfile hstart hcount => ?_)
    · rw [parseFileWrite, if_neg hshort, he]
      rfl
    · have hfits := span.fits
      have hsize : fileSizeRegs = 128 := rfl
      have hfile_lt : span.file < 4 := span.file_lt
      rw [← hcount, ← hstart, ← hfile, uint16_of_lt (n := span.count * 2) (by omega),
        uint16_of_lt (by omega), uint8_of_lt (by omega)]
      by_cases hdata : rx.length < l.pos + 7 + span.count * 2
      · rw [if_pos hdata]
        refine hfail .illegalDataValue ?_
        rw [parseFileWrite, if_neg hshort, hspan]
        simp only [bind, Except.bind, if_pos hdata]
      · rw [if_neg hdata]
        have hwrite : parseFileWrite rx l.pos =
            .ok ⟨span, wordsAt rx (l.pos + 7) span.count, length_wordsAt _ _ _⟩ := by
          rw [parseFileWrite, if_neg hshort, hspan]
          simp only [bind, Except.bind, if_neg hdata, pure, Except.pure]
        apply (yields_storeFileRegs span (by omega)).mono
        rintro _ _ ⟨rfl, rfl⟩
        refine ⟨⟨done ++ [⟨span, wordsAt rx (l.pos + 7) span.count, length_wordsAt _ _ _⟩], rest,
          ?_, ?_, inv.ok, ?_, inv.wrote⟩, ?_⟩
        · rw [hparse, hwrite]
          simp
        · show rx.length - (l.pos + 7 + span.count * 2) ≤ rest
          omega
        · rw [inv.env_eq]
          simp [fileWritesDone, PduEnv.updateStore, filesWritten]
        · show rx.length - (l.pos + 7 + span.count * 2) < rx.length - l.pos
          omega

theorem answers_writeFileRecord :
    Answers (writeFileRecord cfg rx .writeFileRecord) env FunctionCode.writeFileRecord.code
      (answer hooks FunctionCode.writeFileRecord.code rx env (parseWriteFileRecord cfg rx)) := by
  rw [writeFileRecord, parseWriteFileRecord]
  refine answers_reject Iff.rfl fun hlength => answers_rxByte (by omega) ?_
  have hbyte := (byteAt rx 1).isLt
  rw [uint16_of_lt (by omega)]
  refine answers_require (by omega) fun hcount => ?_
  intro given tx room hwrote
  rw [yields_bind, ← hcount.2.2]
  have hloop : Yields (whileLoop .diverged rx.length (⟨2, 1, true⟩ : FileLocals)
      (fun l => l.pos < rx.length && l.ok)
      (writeFileSubRequest cfg rx .writeFileRecord (byteAt rx 1).toNat)) ⟨env, tx⟩
      (FileWriteDone rx given env .writeFileRecord) := by
    refine Yields.whileLoop
      (fun l t => ∃ done bound, FileWriteInv rx given env .writeFileRecord l t done bound)
      (fun l => rx.length - l.pos) ⟨[], rx.length, rfl, by omega, rfl, rfl, hwrote⟩ (by omega)
      ?_ ?_ ?_
    · intro l t _ hcond
      simp at hcond
      omega
    · rintro l t ⟨done, bound, inv⟩ hcond
      simp at hcond
      exact yields_writeFileSubRequest room (by omega) (by omega) hcond.1 inv
    · rintro l t ⟨done, bound, inv⟩ hcond
      have hend : ¬ l.pos < rx.length := by simpa [inv.ok] using hcond
      have hrest : parseFileWrites rx bound l.pos = ([], none) := by
        cases bound with
        | zero => rfl
        | succ bound => rw [parseFileWrites, if_neg hend]
      have hparse := inv.parse
      rw [hrest, List.append_nil] at hparse
      rw [FileWriteDone, hparse]
      exact ⟨inv.env_eq, inv.ok, inv.wrote⟩
  apply hloop.mono
  rintro l t ⟨henv, hend⟩
  cases hrefused : (parseFileWrites rx rx.length 2).2 with
  | some e =>
      rw [hrefused] at hend
      obtain ⟨hok, hlen, hwrote'⟩ := hend
      rw [hok, if_neg (by decide), yields_pure]
      simp only [answer, execute]
      exact ⟨hlen, henv, hwrote'⟩
  | none =>
      rw [hrefused] at hend
      obtain ⟨hok, hwrote'⟩ := hend
      rw [hok, if_pos rfl, yields_bind]
      apply (yields_echoRequest room hwrote' (Nat.le_refl _) (by omega)).mono
      rintro _ t' ⟨henv', hwrote''⟩
      rw [yields_pure]
      simp only [answer, execute]
      rw [List.take_length] at hwrote''
      exact ⟨trivial, henv'.trans henv, hwrote''⟩

/-! ## Queues -/

@[simp]
theorem yields_fifoLen {addr : ℕ} {post : ℕ → PduEnv cfg → Prop} :
    Yields (fifoLen cfg addr) env post ↔ ∃ h : addr < fifoCount,
      post env.store.fifos[addr].len env := by
  rw [fifoLen, yields_onStore]
  by_cases h : addr < fifoCount <;> simp [h]

@[simp]
theorem yields_fifoReg {addr i : ℕ} {post : Word → PduEnv cfg → Prop} :
    Yields (fifoReg cfg addr i) env post ↔ ∃ h : addr < fifoCount,
      i < fifoDepth ∧ post (regAt env.store.fifos[addr].store i) env := by
  rw [fifoReg, yields_onStore]
  by_cases h : addr < fifoCount
  · by_cases hi : i < fifoDepth <;> simp [h, hi, regAt]
  · simp [h]

theorem answers_readFifoQueue :
    Answers (readFifoQueue cfg rx .readFifoQueue) env FunctionCode.readFifoQueue.code
      (answer hooks FunctionCode.readFifoQueue.code rx env (parseReadFifoQueue cfg rx)) := by
  rw [readFifoQueue, parseReadFifoQueue]
  refine answers_reject Iff.rfl fun hlength => answers_rxWord (by omega) ?_
  rw [parseAddr]
  by_cases haddr : (wordAt rx 1).toNat < fifoCount
  · rw [if_neg (by omega), dif_pos haddr]
    intro given tx room hwrote
    rw [yields_bind, yields_onEnv, yields_fifoLen]
    refine ⟨haddr, ?_⟩
    set queue := env.store.fifos[(wordAt rx 1).toNat] with hqueue
    have hlen : queue.len ≤ 31 := queue.len_le
    have hin := hwrote.length
    have hhead := ((((hwrote.set FunctionCode.readFifoQueue.code (i := 0) (by simp)).push room 0x00
      (by simp)).push room (BitVec.ofNat 8 (2 + 2 * queue.len)) (by simp)).push room 0x00
      (by simp)).push room (BitVec.ofNat 8 queue.len) (by simp)
    simp only [yields_bind, yields_txSet, List.length_set]
    refine ⟨by omega, by omega, by omega, by omega, by omega, ?_⟩
    refine (yields_pushWords (f := fun i => regAt queue.store i) room hhead (by simp) (by omega)
      ?_).mono ?_
    · intro i hi t henv
      have hdepth : queue.len ≤ fifoDepth := queue.len_le
      rw [yields_onEnv, yields_fifoReg, henv]
      exact ⟨haddr, by omega, rfl, by rw [← henv]⟩
    · rintro _ t ⟨henv, hwrote'⟩
      rw [yields_pure]
      simp only [answer, execute, Functor.map, Except.map]
      rw [Fin.getElem_fin, ← hqueue, FifoQueue.length_entries]
      refine ⟨?_, henv, ?_⟩
      · simp
        omega
      · simpa [FifoQueue.entries] using hwrote'
  · rw [if_pos (by omega), dif_neg haddr]
    exact answers_modbusExceptionResponse _ _ _

/-! ## Identification -/

/-- The three objects are there, and short. -/
theorem modbusDevidObjectStr_known {oid : ℕ} (h : oid ≤ 2) :
    modbusDevidObjectStr oid = some (deviceIdObject oid) ∧ (deviceIdObject oid).length ≤ 22 := by
  match oid, h with
  | 0, _ | 1, _ | 2, _ => exact ⟨rfl, by decide⟩

@[simp]
theorem length_deviceIdEntry (oid : ℕ) :
    (deviceIdEntry oid).length = 2 + (deviceIdObject oid).length := by
  simp [deviceIdEntry]
  omega

/-- Storing an object after what is in the buffer. -/
theorem yields_putDeviceIdObject {σ : Type} {given out : List Byte} {s : Exchange σ}
    {fc : FunctionCode} {oid : ℕ} {l : FileLocals} (room : 253 ≤ given.length)
    (h : Wrote given s.tx out) (hpos : l.pos = out.length) (hoid : oid ≤ 2)
    (fits : l.pos + 24 ≤ 253) :
    Yields (putDeviceIdObject fc oid l) s fun r s' => s'.env = s.env ∧
      Wrote given s'.tx (out ++ deviceIdEntry oid) ∧
        r = .yield { l with pos := l.pos + (deviceIdEntry oid).length } := by
  obtain ⟨hknown, hshort⟩ := modbusDevidObjectStr_known hoid
  have hin := h.length
  have hid := h.push room (BitVec.ofNat 8 oid) (by omega)
  have hlen := hid.push room (BitVec.ofNat 8 (deviceIdObject oid).length) (by
    rw [List.length_append, List.length_singleton]
    omega)
  rw [List.length_append, List.length_singleton, ← hpos] at hlen
  rw [putDeviceIdObject, hknown]
  simp only [yields_bind, yields_ite, yields_txSet, List.length_set]
  rw [if_neg (by omega)]
  refine ⟨by omega, by omega, ?_⟩
  apply (yields_pushList room hlen (deviceIdObject oid) (by simp [hpos]) (by omega)).mono
  rintro _ t ⟨henv, hwrote⟩
  rw [yields_pure, length_deviceIdEntry, ← Nat.add_assoc]
  refine ⟨henv, ?_, rfl⟩
  simpa [deviceIdEntry] using hwrote

/-- The loop over the objects of an identification. -/
theorem yields_deviceIdLoop {σ : Type} {given out : List Byte} {s : Exchange σ}
    {fc : FunctionCode} (room : 253 ≤ given.length) (h : Wrote given s.tx out)
    (hout : out.length = 7) (read : DeviceIdRead) :
    Yields (forBreak (read.lastObj + 1 - read.firstObj) read.firstObj (⟨7, 1, true⟩ : FileLocals)
        (putDeviceIdObject fc)) s
      fun l s' => l.ok = true ∧ s'.env = s.env ∧
        ∃ objects, objects = (List.range' read.firstObj
          (read.lastObj + 1 - read.firstObj)).flatMap deviceIdEntry ∧
        l.pos = 7 + objects.length ∧ Wrote given s'.tx (out ++ objects) := by
  have hknown := read.known
  have hordered := read.ordered
  refine Yields.forBreak (fun oid l (t : Exchange σ) => l.ok = true ∧ t.env = s.env ∧
    ∃ objects, objects = (List.range' read.firstObj (oid - read.firstObj)).flatMap deviceIdEntry ∧
      l.pos = 7 + objects.length ∧ objects.length ≤ 24 * (oid - read.firstObj) ∧
      Wrote given t.tx (out ++ objects))
    ⟨rfl, rfl, [], by simp, rfl, by simp, by simpa using h⟩ ?_ ?_
  · rintro oid hfirst hlast l t ⟨hok, henv, objects, hobjects, hpos, hsize, hwrote⟩
    have hoid : oid ≤ 2 := by omega
    apply (yields_putDeviceIdObject room hwrote (by simp [hpos, hout]) hoid (by omega)).mono
    rintro _ t' ⟨henv', hwrote', rfl⟩
    have hshort := (modbusDevidObjectStr_known hoid).2
    refine ⟨hok, henv'.trans henv, objects ++ deviceIdEntry oid, ?_, ?_, ?_, ?_⟩
    · rw [show oid + 1 - read.firstObj = oid - read.firstObj + 1 by omega, List.range'_concat,
        List.flatMap_append, ← hobjects]
      simp [show read.firstObj + (oid - read.firstObj) = oid by omega]
    · rw [List.length_append]
      show l.pos + (deviceIdEntry oid).length = _
      omega
    · rw [List.length_append, length_deviceIdEntry]
      omega
    · rw [← List.append_assoc]
      exact hwrote'
  · rintro l t ⟨hok, henv, objects, hobjects, hpos, -, hwrote⟩
    refine ⟨hok, henv, objects, ?_, hpos, hwrote⟩
    rw [hobjects]
    congr 2
    omega

theorem answers_encapsulatedInterface :
    Answers (encapsulatedInterface rx .encapsulatedInterface) env
      FunctionCode.encapsulatedInterface.code
      (answer hooks FunctionCode.encapsulatedInterface.code rx env (parseReadDeviceId cfg rx)) := by
  rw [encapsulatedInterface, parseReadDeviceId]
  refine answers_reject Iff.rfl fun hlength => answers_rxByte (by omega) (answers_rxByte (by omega)
    (answers_rxByte (by omega) (answers_reject Iff.rfl fun _ => answers_reject Iff.rfl fun _ => ?_)))
  -- past the checks, both ends of the object range are at hand
  have hbody : ∀ read : DeviceIdRead, read.code = byteAt rx 2 →
      Answers (do
          txSet 0 FunctionCode.encapsulatedInterface.code
          txSet 1 0x0E
          txSet 2 (byteAt rx 2)
          txSet 3 0x81
          txSet 4 0x00
          txSet 5 0x00
          txSet 6 (BitVec.ofNat 8 (read.lastObj - read.firstObj + 1))
          let l ← forBreak (read.lastObj + 1 - read.firstObj) read.firstObj
            (⟨7, 1, true⟩ : FileLocals) (putDeviceIdObject .encapsulatedInterface)
          if l.ok then pure l.pos else pure l.pduLen) env FunctionCode.encapsulatedInterface.code
        (execute hooks rx env (.readDeviceId read)) := by
    rintro read hread given tx room hwrote
    have hin := hwrote.length
    have hhead := ((((((hwrote.set FunctionCode.encapsulatedInterface.code (i := 0) (by simp)).push
      room 0x0E (by simp)).push room (byteAt rx 2) (by simp)).push room 0x81 (by simp)).push
      room 0x00 (by simp)).push room 0x00 (by simp)).push room
      (BitVec.ofNat 8 (read.lastObj - read.firstObj + 1)) (by simp)
    simp only [yields_bind, yields_txSet, List.length_set]
    refine ⟨by omega, by omega, by omega, by omega, by omega, by omega, by omega, ?_⟩
    apply (yields_deviceIdLoop room hhead (by simp) read).mono
    rintro l t ⟨hok, henv, objects, hobjects, hpos, hwrote'⟩
    rw [hok, if_pos rfl, yields_pure, hpos, execute, ← hobjects, hread]
    refine ⟨?_, henv, by simpa using hwrote'⟩
    simp
    omega
  by_cases hobject : (byteAt rx 3).toNat ≤ 2
  · rw [if_neg (by omega), dif_pos hobject]
    by_cases hcode : byteAt rx 2 = 0x04
    · simp only [if_pos hcode]
      exact hbody ⟨_, _, _, Nat.le_refl _, hobject⟩ rfl
    · simp only [if_neg hcode, if_pos hobject]
      exact hbody ⟨_, _, _, hobject, Nat.le_refl _⟩ rfl
  · rw [dif_neg hobject]
    by_cases hcode : byteAt rx 2 = 0x04
    · rw [if_pos ⟨hcode, by omega⟩, if_pos hcode]
      exact answers_modbusExceptionResponse _ _ _
    · rw [if_neg (fun h => hcode h.1)]
      simp only [if_neg hcode, if_neg hobject]
      exact hbody ⟨_, _, _, by decide, Nat.le_refl _⟩ rfl

end AutomationBoard.Modbus
