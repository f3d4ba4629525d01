/-
# Exceptions and stored data

A request that is answered with an exception should have changed nothing. All
branches of the dispatcher check a request completely before they store, save
one: a file write stores each sub-request before it checks the next. The data
survive an exception exactly when that branch was not left late, or had stored
only values that were there already.
-/

import AutomationBoard.Modbus.FileStore
import AutomationBoard.Modbus.Grammar
import AutomationBoard.Program.Runs

namespace AutomationBoard.Modbus

open AutomationBoard.Program

variable {cfg : Config}

/-- The coils, holding registers, files and queues are the same, and no hook was
called in between. -/
structure SameData (env env' : PduEnv cfg) : Prop where
  coilBits : env'.store.coilBits = env.store.coilBits
  holdingRegs : env'.store.holdingRegs = env.store.holdingRegs
  fileStore : env'.store.fileStore = env.store.fileStore
  fifos : env'.store.fifos = env.store.fifos
  calls : env'.calls = env.calls

theorem SameData.refl (env : PduEnv cfg) : SameData env env := ⟨rfl, rfl, rfl, rfl, rfl⟩

/-- The first byte of a buffer has the exception bit. -/
def exceptionBuilt (tx : List Byte) : Prop := (byteAt tx 0).msb = true

instance (tx : List Byte) : Decidable (exceptionBuilt tx) := inferInstanceAs (Decidable (_ = _))

/-- The request got an answer, and the answer is not an exception. -/
def AnsweredNormally (rx : List Byte) (out : ModbusStatus × Option ℕ)
    (s' : Exchange (PduEnv cfg)) : Prop :=
  ∃ n, out = (.ok, some n) ∧ 0 < n ∧ byteAt s'.tx 0 = byteAt rx 0

/-- The request is answered with an exception. -/
def AnsweredWith (rx : List Byte) (e : ExceptionCode) (out : ModbusStatus × Option ℕ)
    (s' : Exchange (PduEnv cfg)) : Prop :=
  out = (.ok, some 2) ∧ s'.tx.take 2 = exceptionPdu (byteAt rx 0) e

/-- The exception that a parsed request is answered with, if there is one. -/
def refusalOf : Except ExceptionCode (Request cfg) → Option ExceptionCode
  | .error e => some e
  | .ok r => r.refusal

/-- Distinct exceptions are answered with distinct responses. -/
theorem exceptionPdu_injective (functionCode : Byte) :
    Function.Injective (exceptionPdu functionCode) := by
  intro e e' h
  have hcode : e.code = e'.code := by simpa [exceptionPdu] using h
  cases e <;> cases e' <;> first | rfl | exact absurd hcode (by decide)

/-- A request is parsed to what its function code stands for. -/
theorem functionCode_of_parseRequest {rx : List Byte} {r : Request cfg} {fc : FunctionCode}
    (h : parseRequest cfg rx = .ok r) (hcode : byteAt rx 0 = fc.code) : r.functionCode = fc := by
  have hsame := congrArg FunctionCode.ofByte ((parseRequest_functionCode h).1.symm.trans hcode)
  rwa [FunctionCode.ofByte_code, FunctionCode.ofByte_code, Option.some.injEq] at hsame

/-- A reply is an exception if there is one for the request, and begins with the
function code if there is none. -/
theorem pduReply_of_refusalOf (hooks : SyncHooks cfg) (rx : List Byte) (env : PduEnv cfg) :
    match refusalOf (parseRequest cfg rx) with
    | some e => (pduReply hooks rx env).1 = exceptionPdu (byteAt rx 0) e
    | none => byteAt (pduReply hooks rx env).1 0 = byteAt rx 0 := by
  unfold pduReply
  cases hparse : parseRequest cfg rx with
  | error e => rfl
  | ok r =>
      obtain ⟨hcode, hlength⟩ := parseRequest_functionCode hparse
      rw [refusalOf]
      cases hrefusal : r.refusal with
      | some e => rw [hcode]; exact execute_refused hooks env hrefusal
      | none => rw [hcode]; exact (execute_normal hooks env hcode hlength hrefusal).1

section Answers

variable {hooks : SyncHooks cfg} {rx given : List Byte} {env : PduEnv cfg}
  {s' : Exchange (PduEnv cfg)}

theorem answeredWith_iff (hmsb : (byteAt rx 0).msb = false)
    (hwrote : Wrote given s'.tx (pduReply hooks rx env).1) (e : ExceptionCode) :
    AnsweredWith rx e (.ok, some (pduReply hooks rx env).1.length) s' ↔
      refusalOf (parseRequest cfg rx) = some e := by
  have hreply := pduReply_of_refusalOf hooks rx env
  cases hrefusal : refusalOf (parseRequest cfg rx) with
  | some e' =>
      rw [hrefusal] at hreply
      have htake : s'.tx.take 2 = exceptionPdu (byteAt rx 0) e' := by
        rw [← hreply, ← hwrote.take, hreply]
        rfl
      rw [AnsweredWith, htake, hreply, Option.some.injEq]
      exact ⟨fun h => exceptionPdu_injective _ h.2, fun h => ⟨rfl, congrArg _ h⟩⟩
  | none =>
      rw [hrefusal] at hreply
      refine iff_of_false ?_ fun h => by cases h
      rintro ⟨-, htake⟩
      have htwo := (replyShape_pduReply hooks rx env).two_le_length
      have hfirst : byteAt s'.tx 0 = byteAt rx 0 :=
        (hwrote.byteAt_eq (Nat.lt_of_lt_of_le (by decide) htwo)).trans hreply
      rw [← byteAt_take (show 0 < 2 by decide), htake] at hfirst
      have hbit : (byteAt rx 0).msb = true := by
        rw [← hfirst]
        exact msb_or_exceptionBit _
      rw [hmsb] at hbit
      cases hbit

theorem answeredNormally_iff (hmsb : (byteAt rx 0).msb = false)
    (hwrote : Wrote given s'.tx (pduReply hooks rx env).1) :
    AnsweredNormally rx (.ok, some (pduReply hooks rx env).1.length) s' ↔
      refusalOf (parseRequest cfg rx) = none := by
  have hreply := pduReply_of_refusalOf hooks rx env
  have htwo := (replyShape_pduReply hooks rx env).two_le_length
  have hfirst : byteAt s'.tx 0 = byteAt (pduReply hooks rx env).1 0 :=
    hwrote.byteAt_eq (Nat.lt_of_lt_of_le (by decide) htwo)
  cases hrefusal : refusalOf (parseRequest cfg rx) with
  | some e =>
      rw [hrefusal] at hreply
      refine iff_of_false ?_ fun h => by cases h
      rintro ⟨n, -, -, hsame⟩
      rw [hfirst, hreply] at hsame
      have hbit : (byteAt rx 0).msb = true := by
        rw [← hsame]
        exact msb_or_exceptionBit _
      rw [hmsb] at hbit
      cases hbit
  | none =>
      rw [hrefusal] at hreply
      exact iff_of_true ⟨_, rfl, Nat.lt_of_lt_of_le (by decide) htwo, hfirst.trans hreply⟩ rfl

end Answers

/-- A file write that is refused after sub-requests which name a register with a
value it does not have. -/
def RefusedAfterChange (cfg : Config) (rx : List Byte) (s : Store cfg) : Prop :=
  ∃ writes e, parseRequest cfg rx = .ok (.writeFileRecord writes (some e)) ∧
    ∃ f r v, lastWritten writes f r = some v ∧ fileAt s.fileStore f r ≠ v

/-- The reply to a request leaves the data if and only if it is not an exception
that comes too late. -/
theorem sameData_pduReply_iff (hooks : SyncHooks cfg) (rx : List Byte) (env : PduEnv cfg) :
    (exceptionBuilt (pduReply hooks rx env).1 → SameData env (pduReply hooks rx env).2) ↔
      ¬ RefusedAfterChange cfg rx env.store := by
  rw [pduReply]
  cases hparse : parseRequest cfg rx with
  | error e =>
      have hnever : ¬ RefusedAfterChange cfg rx env.store := by
        rintro ⟨writes, e', hok, -⟩
        rw [hparse] at hok
        cases hok
      exact iff_of_true (fun _ => .refl env) hnever
  | ok r =>
      obtain ⟨hcode, hlength⟩ := parseRequest_functionCode hparse
      cases hrefusal : r.refusal with
      | none =>
          have hnever : ¬ RefusedAfterChange cfg rx env.store := by
            rintro ⟨writes, e, hok, -⟩
            rw [hparse] at hok
            cases hok
            cases hrefusal
          refine iff_of_true (fun hbuilt => ?_) hnever
          have hfirst := (execute_normal hooks env hcode hlength hrefusal).1
          rw [answer, exceptionBuilt, hfirst, FunctionCode.msb_code] at hbuilt
          cases hbuilt
      | some e =>
          obtain ⟨writes, rfl⟩ : ∃ writes, r = .writeFileRecord writes (some e) := by
            cases r with
            | writeFileRecord writes refused => exact ⟨writes, by rw [← hrefusal]; rfl⟩
            | _ => cases hrefusal
          have hbuilt : exceptionBuilt (exceptionPdu FunctionCode.writeFileRecord.code e) :=
            msb_or_exceptionBit _
          have hchange : RefusedAfterChange cfg rx env.store ↔
              filesWritten env.store.fileStore writes ≠ env.store.fileStore := by
            rw [Ne, filesWritten_eq_self_iff]
            push Not
            constructor
            · rintro ⟨writes', e', hok, hdiff⟩
              rw [hparse] at hok
              cases hok
              exact hdiff
            · intro hdiff
              exact ⟨writes, e, hparse, hdiff⟩
          rw [hchange, not_not]
          constructor
          · intro h
            exact (h hbuilt).fileStore
          · intro hsame _
            exact ⟨rfl, rfl, hsame, rfl, rfl⟩

/-- One request: the data survive an exception if and only if it does not come
too late. The response buffer keeps its size. -/
theorem yields_exception_sameData_iff (flat : cfg.Flat) (hooks : SyncHooks cfg) (rx : List Byte)
    (isBroadcast : Bool) {s : Exchange (PduEnv cfg)} (room : 253 ≤ s.tx.length) :
    Yields (modbusPduProcess hooks rx isBroadcast) s fun _ s' =>
      253 ≤ s'.tx.length ∧
        ((exceptionBuilt s'.tx → SameData s.env s'.env) ↔
          ¬ RefusedAfterChange cfg rx s.env.store) := by
  by_cases hrx : rx = []
  · have hnever : ¬ RefusedAfterChange cfg [] s.env.store := by
      rintro ⟨writes, e, hparse, -⟩
      exact absurd (parseRequest_functionCode hparse).2 (Nat.not_succ_le_zero 1)
    rw [hrx, modbusPduProcess, if_pos (by decide), yields_pure]
    exact ⟨room, iff_of_true (fun _ => .refl s.env) hnever⟩
  · apply (yields_modbusPduProcess flat hooks hrx isBroadcast room).mono
    intro r s' h
    by_cases hdrop : broadcastDropped rx isBroadcast
    · rw [if_pos hdrop] at h
      have hnever : ¬ RefusedAfterChange cfg rx s.env.store := by
        rintro ⟨writes, e, hparse, -⟩
        have hcode : byteAt rx 0 = FunctionCode.writeFileRecord.code :=
          (parseRequest_functionCode hparse).1
        simp [broadcastDropped, modbusBroadcastFunctionSupported, hcode] at hdrop
      rw [h.2]
      exact ⟨room, iff_of_true (fun _ => .refl s.env) hnever⟩
    · rw [if_neg hdrop] at h
      obtain ⟨-, henv, hwrote⟩ := h
      have htwo := (replyShape_pduReply hooks rx s.env).two_le_length
      have hfirst : byteAt s'.tx 0 = byteAt (pduReply hooks rx s.env).1 0 :=
        hwrote.byteAt_eq (Nat.lt_of_lt_of_le (by decide) htwo)
      refine ⟨hwrote.length.symm ▸ room, ?_⟩
      rw [henv, exceptionBuilt, hfirst]
      exact sameData_pduReply_iff hooks rx s.env

/-- The dispatcher on a request and its broadcast flag. -/
def pduRequest (hooks : SyncHooks cfg) (r : List Byte × Bool) :
    PduM (PduEnv cfg) (ModbusStatus × Option ℕ) :=
  modbusPduProcess hooks r.1 r.2

/-- A request answered with an exception leaves the data as they were. -/
def KeepsDataOnException (s : Exchange (PduEnv cfg)) (_ : List Byte × Bool)
    (_ : ModbusStatus × Option ℕ) (s' : Exchange (PduEnv cfg)) : Prop :=
  exceptionBuilt s'.tx → SameData s.env s'.env

/-- In a run of requests, unicast and broadcast, every exception leaves the data
as they were exactly when none is the refusal of a file write that has changed a
register before. -/
theorem runRequests_keepsDataOnException_iff (hooks : SyncHooks boardConfig)
    (s : Exchange (PduEnv boardConfig)) (requests : List (List Byte × Bool))
    (room : 253 ≤ s.tx.length) :
    EveryStep (pduRequest hooks) KeepsDataOnException s requests ↔
      EveryStep (pduRequest hooks)
        (fun s r _ _ => ¬ RefusedAfterChange boardConfig r.1 s.env.store) s requests :=
  everyStep_congr (I := fun s : Exchange (PduEnv boardConfig) => 253 ≤ s.tx.length)
    (fun _ r room =>
      yields_exception_sameData_iff Config.boardConfig_flat hooks r.1 r.2 room)
    room requests

theorem runRequests_keepsDataOnException_iff_badAddress :
    EveryStep (pduRequest (SyncHooks.none boardConfig)) KeepsDataOnException
        ⟨⟨Store.powerOn boardConfig, []⟩, List.replicate 253 0⟩
        [([0x03, 0x01, 0x00, 0x00, 0x01], false)] ↔
      EveryStep (pduRequest (SyncHooks.none boardConfig))
        (fun s r _ _ => ¬ RefusedAfterChange boardConfig r.1 s.env.store)
        ⟨⟨Store.powerOn boardConfig, []⟩, List.replicate 253 0⟩
        [([0x03, 0x01, 0x00, 0x00, 0x01], false)] :=
  runRequests_keepsDataOnException_iff (SyncHooks.none boardConfig)
    ⟨⟨Store.powerOn boardConfig, []⟩, List.replicate 253 0⟩
    [([0x03, 0x01, 0x00, 0x00, 0x01], false)] (by rw [List.length_replicate])

/-- The sub-request before the refused one is stored: file 1 gets a register,
then file 9 is asked for. -/
theorem runRequests_refusedAfterStore :
    ¬ EveryStep (pduRequest (SyncHooks.none boardConfig)) KeepsDataOnException
      ⟨⟨Store.powerOn boardConfig, []⟩, List.replicate 253 0⟩
      [([0x15, 18, 0x06, 0, 1, 0, 0, 0, 1, 0x12, 0x34, 0x06, 0, 9, 0, 0, 0, 1, 0, 0], false)] := by
  rw [everyStep_singleton]
  intro hclaim
  have hbad : Yields (pduRequest (SyncHooks.none boardConfig)
      ([0x15, 18, 0x06, 0, 1, 0, 0, 0, 1, 0x12, 0x34, 0x06, 0, 9, 0, 0, 0, 1, 0, 0], false))
      ⟨⟨Store.powerOn boardConfig, []⟩, List.replicate 253 0⟩ fun _ s' =>
        (byteAt s'.tx 0).msb = true ∧ fileAt s'.env.store.fileStore 0 0 = 0x1234 := by
    decide +kernel
  obtain ⟨r, s', hok, hmsb, hfile⟩ := hbad
  have hsame := hclaim.of_run_eq hok hmsb
  rw [hsame.fileStore] at hfile
  revert hfile
  decide +kernel

end AutomationBoard.Modbus
