/-
# The registers-written hook

A registered application is told of every write that succeeds, once and after
the new values are stored. Six of the seven write branches of the dispatcher do
so on their one successful path. The file write does not: it echoes the request
and leaves the application out of step with the files.
-/

import AutomationBoard.Modbus.Exceptions

namespace AutomationBoard.Modbus

open AutomationBoard.Math AutomationBoard.Program

variable {cfg : Config}

/-- The store with the values of a request, before anybody is told of them. -/
def Request.stored (s : Store cfg) : Request cfg → Store cfg
  | .writeSingleCoil addr on =>
      { s with coilBits := modbusBitWrite cfg s.coilBits addr ((BitVec.ofBool on).setWidth 8) }
  | .writeSingleRegister addr value =>
      { s with holdingRegs := modbusRegsWrite cfg s.holdingRegs addr value }
  | .writeMultipleCoils write =>
      { s with coilBits := coilsWritten s.coilBits write.start (bitOf write.data) write.count }
  | .writeMultipleRegisters write | .readWriteMultipleRegs _ write =>
      { s with
        holdingRegs := registersWritten s.holdingRegs write.start (write.values.getD · 0)
          write.values.length }
  | .maskWriteRegister addr andMask orMask =>
      { s with
        holdingRegs := modbusRegsWrite cfg s.holdingRegs addr
          (maskedWord (regAt s.holdingRegs addr) andMask orMask) }
  | .writeFileRecord writes _ => { s with fileStore := filesWritten s.fileStore writes }
  | _ => s

/-- The store with the values that a request PDU asks to write. -/
def valuesStored (rx : List Byte) (s : Store cfg) : Store cfg :=
  match parseRequest cfg rx with
  | .ok r => r.stored s
  | .error _ => s

/-- The calls a request should make on a store: one, with the registered context
and on the new values, if it is a write that is not answered with an exception. -/
def owedCalls (ctx : ℕ) (rx : List Byte) (s : Store cfg) (tx : List Byte) : List (HookCall cfg) :=
  if isWrite rx ∧ ¬ exceptionBuilt tx then [⟨.registersWritten, ctx, valuesStored rx s⟩] else []

/-- A file write that succeeds. -/
def FilesWritten (cfg : Config) (rx : List Byte) : Prop :=
  ∃ writes, parseRequest cfg rx = .ok (.writeFileRecord writes none)

/-! ## One request -/

section Hook

variable (hook : ℕ → Store cfg → Store cfg) (inputsHook : Option (ℕ → Store cfg → Store cfg))
  (ctx : ℕ)

/-- A request that is carried out tells the application if it writes, unless it
writes files. -/
theorem calls_execute (rx : List Byte) (env : PduEnv cfg) (r : Request cfg) :
    (execute ⟨some hook, inputsHook, ctx⟩ rx env r).2.calls =
      if r.functionCode.writes ∧ r.functionCode ≠ .writeFileRecord then
        env.calls ++ [⟨.registersWritten, ctx, r.stored env.store⟩]
      else env.calls := by
  cases r with
  | writeFileRecord writes refused => cases refused <;> rfl
  | _ => rfl

/-- The application is told of a request as it should be, if and only if the
request is not a file write that succeeds. -/
theorem calls_pduReply_iff (rx : List Byte) (env : PduEnv cfg) :
    (pduReply ⟨some hook, inputsHook, ctx⟩ rx env).2.calls =
        env.calls ++ owedCalls ctx rx env.store
          (pduReply ⟨some hook, inputsHook, ctx⟩ rx env).1 ↔
      ¬ FilesWritten cfg rx := by
  rw [pduReply]
  cases hparse : parseRequest cfg rx with
  | error e =>
      have hbuilt : exceptionBuilt (exceptionPdu (byteAt rx 0) e) := msb_or_exceptionBit _
      refine iff_of_true ?_ ?_
      · rw [owedCalls, answer, if_neg fun h => h.2 hbuilt, List.append_nil]
      · rintro ⟨writes, hok⟩
        rw [hparse] at hok
        cases hok
  | ok r =>
      obtain ⟨hcode, hlength⟩ := parseRequest_functionCode hparse
      have hwrite := isWrite_of_functionCode hcode
      have hstored : valuesStored rx env.store = r.stored env.store := by
        rw [valuesStored, hparse]
      rw [answer, calls_execute]
      cases hrefusal : r.refusal with
      | none =>
          have hfirst := (execute_normal ⟨some hook, inputsHook, ctx⟩ env hcode hlength hrefusal).1
          have hbuilt : ¬ exceptionBuilt (execute ⟨some hook, inputsHook, ctx⟩ rx env r).1 := by
            rw [exceptionBuilt, hfirst, FunctionCode.msb_code]
            exact Bool.false_ne_true
          by_cases hfile : r.functionCode = .writeFileRecord
          · obtain ⟨writes, rfl⟩ : ∃ writes, r = .writeFileRecord writes none := by
              cases r with
              | writeFileRecord writes refused => exact ⟨writes, by rw [← hrefusal]; rfl⟩
              | _ => cases hfile
            rw [if_neg fun h => h.2 hfile, owedCalls, if_pos ⟨hwrite, hbuilt⟩]
            refine iff_of_false ?_ (not_not_intro ⟨writes, hparse⟩)
            exact fun h => List.cons_ne_nil _ _ (List.self_eq_append_right.mp h)
          · have hother : ¬ FilesWritten cfg rx := by
              rintro ⟨writes, hok⟩
              rw [hparse] at hok
              cases hok
              exact hfile rfl
            refine iff_of_true ?_ hother
            rw [owedCalls, hwrite, hstored]
            by_cases hwrites : r.functionCode.writes
            · rw [if_pos ⟨hwrites, hfile⟩, if_pos ⟨hwrites, hbuilt⟩]
            · rw [if_neg fun h => hwrites h.1, if_neg fun h => hwrites h.1, List.append_nil]
      | some e =>
          obtain ⟨writes, rfl⟩ : ∃ writes, r = .writeFileRecord writes (some e) := by
            cases r with
            | writeFileRecord writes refused => exact ⟨writes, by rw [← hrefusal]; rfl⟩
            | _ => cases hrefusal
          have hbuilt : exceptionBuilt (exceptionPdu FunctionCode.writeFileRecord.code e) :=
            msb_or_exceptionBit _
          have hrefused : ¬ FilesWritten cfg rx := by
            rintro ⟨writes', hok⟩
            rw [hparse] at hok
            cases hok
          refine iff_of_true ?_ hrefused
          rw [if_neg fun h => h.2 rfl, owedCalls, if_neg fun h => h.2 hbuilt, List.append_nil]

end Hook

/-! ## Runs -/

/-- The hook was called as a request demands. -/
def ToldOnce (ctx : ℕ) (s : Exchange (PduEnv cfg)) (r : List Byte × Bool)
    (_ : ModbusStatus × Option ℕ) (s' : Exchange (PduEnv cfg)) : Prop :=
  s'.env.calls = s.env.calls ++ owedCalls ctx r.1 s.env.store s'.tx

theorem yields_toldOnce_iff (flat : cfg.Flat) (hook : ℕ → Store cfg → Store cfg)
    (inputsHook : Option (ℕ → Store cfg → Store cfg)) (ctx : ℕ) (rx : List Byte)
    (isBroadcast : Bool) {s : Exchange (PduEnv cfg)} (room : 253 ≤ s.tx.length) :
    Yields (modbusPduProcess ⟨some hook, inputsHook, ctx⟩ rx isBroadcast) s fun out s' =>
      253 ≤ s'.tx.length ∧
        (ToldOnce ctx s (rx, isBroadcast) out s' ↔ ¬ FilesWritten cfg rx) := by
  have hignored : ∀ s' : Exchange (PduEnv cfg), s' = s → isWrite rx = false →
      (ToldOnce ctx s (rx, isBroadcast) (.ok, none) s' ↔ ¬ FilesWritten cfg rx) := by
    rintro _ rfl hread
    refine iff_of_true ?_ ?_
    · rw [ToldOnce, owedCalls, hread, if_neg fun h => Bool.false_ne_true h.1, List.append_nil]
    · rintro ⟨writes, hparse⟩
      rw [isWrite_of_functionCode (parseRequest_functionCode hparse).1] at hread
      cases hread
  by_cases hrx : rx = []
  · rw [hrx, modbusPduProcess, if_pos (by decide), yields_pure, ← hrx]
    exact ⟨room, hignored s rfl (by rw [hrx]; rfl)⟩
  · apply (yields_modbusPduProcess flat _ hrx isBroadcast room).mono
    intro out s' h
    by_cases hdrop : broadcastDropped rx isBroadcast
    · rw [if_pos hdrop] at h
      obtain ⟨-, rfl⟩ := h
      refine ⟨room, hignored s' rfl ?_⟩
      rw [broadcastDropped, ← isWrite_eq, Bool.and_eq_true, Bool.not_eq_true'] at hdrop
      exact hdrop.2
    · rw [if_neg hdrop] at h
      obtain ⟨-, henv, hwrote⟩ := h
      have htwo := (replyShape_pduReply ⟨some hook, inputsHook, ctx⟩ rx s.env).two_le_length
      have hfirst : byteAt s'.tx 0 = byteAt (pduReply ⟨some hook, inputsHook, ctx⟩ rx s.env).1 0 :=
        hwrote.byteAt_eq (Nat.lt_of_lt_of_le (by decide) htwo)
      refine ⟨hwrote.length.symm ▸ room, ?_⟩
      have hbuilt : exceptionBuilt s'.tx ↔
          exceptionBuilt (pduReply ⟨some hook, inputsHook, ctx⟩ rx s.env).1 := by
        rw [exceptionBuilt, hfirst, exceptionBuilt]
      rw [← calls_pduReply_iff hook inputsHook ctx rx s.env, ToldOnce, henv, owedCalls, owedCalls]
      simp only [hbuilt]

/-- In a run of requests, unicast and broadcast, the registered hook is called
once for each write that succeeds and for nothing else, exactly when no request
is a file write that succeeds. -/
theorem runRequests_toldOnce_iff (hook : ℕ → Store boardConfig → Store boardConfig)
    (inputsHook : Option (ℕ → Store boardConfig → Store boardConfig)) (ctx : ℕ)
    (s : Exchange (PduEnv boardConfig)) (requests : List (List Byte × Bool))
    (room : 253 ≤ s.tx.length) :
    EveryStep (pduRequest ⟨some hook, inputsHook, ctx⟩) (ToldOnce ctx) s requests ↔
      EveryStep (pduRequest ⟨some hook, inputsHook, ctx⟩)
        (fun _ r _ _ => ¬ FilesWritten boardConfig r.1) s requests :=
  everyStep_congr (I := fun s : Exchange (PduEnv boardConfig) => 253 ≤ s.tx.length)
    (fun _ r room => yields_toldOnce_iff Config.boardConfig_flat hook inputsHook ctx r.1 r.2 room)
    room requests

theorem runRequests_toldOnce_iff_writeCoil :
    EveryStep (pduRequest ⟨some fun _ s => s, none, 7⟩) (ToldOnce 7)
        ⟨⟨Store.powerOn boardConfig, []⟩, List.replicate 253 0⟩
        [([0x05, 0x00, 0x03, 0xFF, 0x00], false)] ↔
      EveryStep (pduRequest ⟨some fun _ s => s, none, 7⟩)
        (fun _ r _ _ => ¬ FilesWritten boardConfig r.1)
        ⟨⟨Store.powerOn boardConfig, []⟩, List.replicate 253 0⟩
        [([0x05, 0x00, 0x03, 0xFF, 0x00], false)] :=
  runRequests_toldOnce_iff (fun _ s => s) none 7
    ⟨⟨Store.powerOn boardConfig, []⟩, List.replicate 253 0⟩
    [([0x05, 0x00, 0x03, 0xFF, 0x00], false)] (by rw [List.length_replicate])

/-- A register of file 1 is written, and the hook is not called. -/
theorem runRequests_fileWrite_untold :
    ¬ EveryStep (pduRequest ⟨some fun _ s => s, none, 7⟩) (ToldOnce 7)
      ⟨⟨Store.powerOn boardConfig, []⟩, List.replicate 253 0⟩
      [([0x15, 0x09, 0x06, 0x00, 0x01, 0x00, 0x00, 0x00, 0x01, 0x12, 0x34], false)] := by
  rw [everyStep_singleton]
  intro hclaim
  have hbad : Yields (pduRequest (⟨some fun _ s => s, none, 7⟩ : SyncHooks boardConfig)
      ([0x15, 0x09, 0x06, 0x00, 0x01, 0x00, 0x00, 0x00, 0x01, 0x12, 0x34], false))
      ⟨⟨Store.powerOn boardConfig, []⟩, List.replicate 253 0⟩ fun _ s' =>
        (byteAt s'.tx 0).msb = false ∧ s'.env.calls.length = 0 := by
    decide +kernel
  obtain ⟨r, s', hok, hmsb, hcalls⟩ := hbad
  have htold := hclaim.of_run_eq hok
  rw [ToldOnce, owedCalls, if_pos ⟨by decide, by rw [exceptionBuilt, hmsb]; decide⟩] at htold
  rw [htold] at hcalls
  cases hcalls

end AutomationBoard.Modbus
