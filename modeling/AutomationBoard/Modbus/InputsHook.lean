/-
# The inputs-refresh hook

An application that registers `on_inputs_refresh` is promised that the hook runs
before its inputs are read, in place of the refresh of the board. The hook
dispatcher keeps the promise. The two read branches have the refresh of the
board written out instead: they never look at the hook, so no read of inputs
runs it, whatever the hook does and whatever the tables hold.
-/

import AutomationBoard.Modbus.Exceptions

namespace AutomationBoard.Modbus

open AutomationBoard.Math AutomationBoard.Program

variable {cfg : Config}

/-- A read of discrete inputs or of input registers. -/
def readsInputs (rx : List Byte) : Bool :=
  byteAt rx 0 = FunctionCode.readDiscreteInputs.code ||
  byteAt rx 0 = FunctionCode.readInputRegisters.code

/-- The inputs that a request names, from the tables as they are. -/
def inputsPdu (s : Store cfg) : Request cfg → List Byte
  | .readDiscreteInputs span =>
      bitsPdu .readDiscreteInputs (fun i => bitAt s.discreteBits (span.start + i)) span.count
  | .readInputRegisters span =>
      registersPdu .readInputRegisters (regsAt s.inputRegs span.start span.count)
  | _ => []

/-- The hook ran once, before the read and instead of the refresh of the board,
and the answer holds what it left. -/
structure RefreshedByHook (hook : ℕ → Store cfg → Store cfg) (ctx : ℕ) (rx : List Byte)
    (s s' : Exchange (PduEnv cfg)) : Prop where
  invoked : s'.env.calls = s.env.calls ++ [⟨.inputsRefresh, ctx, s.env.store⟩]
  replaces : s'.env.store = hook ctx s.env.store
  returned : ∀ r : Request cfg, parseRequest cfg rx = .ok r →
    inputsPdu (hook ctx s.env.store) r <+: s'.tx

/-! ## The hook is not looked at -/

/-- A read of inputs calls no hook. -/
theorem calls_pduReply_of_readsInputs (hooks : SyncHooks cfg) {rx : List Byte}
    (hreads : readsInputs rx = true) (env : PduEnv cfg) :
    (pduReply hooks rx env).2.calls = env.calls := by
  unfold pduReply
  cases hparse : parseRequest cfg rx with
  | error e => rfl
  | ok r =>
      simp only [readsInputs, Bool.or_eq_true, decide_eq_true_eq] at hreads
      rcases hreads with hcode | hcode
      · have hfc := functionCode_of_parseRequest hparse hcode
        cases r with
        | readDiscreteInputs span => rfl
        | _ => cases hfc
      · have hfc := functionCode_of_parseRequest hparse hcode
        cases r with
        | readInputRegisters span => rfl
        | _ => cases hfc

/-- No read of inputs is served as the hook's contract asks: for every hook, with
every context and beside every other hook, in every state, an answer that is no
exception was given without it. -/
theorem modbusPduProcess_not_refreshedByHook
    (onWritten : Option (ℕ → Store boardConfig → Store boardConfig))
    (hook : ℕ → Store boardConfig → Store boardConfig) (ctx : ℕ) (rx : List Byte)
    (isBroadcast : Bool) (s : Exchange (PduEnv boardConfig)) (room : 253 ≤ s.tx.length) :
    Yields (modbusPduProcess ⟨onWritten, some hook, ctx⟩ rx isBroadcast) s fun out s' =>
      readsInputs rx = true → AnsweredNormally rx out s' →
        ¬ RefreshedByHook hook ctx rx s s' := by
  have hsilent : ∀ s' : Exchange (PduEnv boardConfig), s'.env.calls = s.env.calls →
      ¬ RefreshedByHook hook ctx rx s s' := by
    intro s' hcalls hrefreshed
    have hone := hrefreshed.invoked
    rw [hcalls] at hone
    exact List.cons_ne_nil _ _ (List.self_eq_append_right.mp hone)
  by_cases hrx : rx = []
  · rw [hrx, modbusPduProcess, if_pos (by decide), yields_pure]
    intro hreads
    cases hreads
  · apply (yields_modbusPduProcess Config.boardConfig_flat _ hrx isBroadcast room).mono
    intro out s' h hreads _
    apply hsilent
    by_cases hdrop : broadcastDropped rx isBroadcast
    · rw [if_pos hdrop] at h
      rw [h.2]
    · rw [if_neg hdrop] at h
      rw [h.2.1]
      exact calls_pduReply_of_readsInputs _ hreads s.env

theorem modbusPduProcess_not_refreshedByHook_readInputRegister :
    Yields (modbusPduProcess ⟨none, some fun _ s => s, 0⟩ [0x04, 0x00, 0x00, 0x00, 0x01] false)
      (⟨⟨Store.powerOn boardConfig, []⟩, List.replicate 253 0⟩ : Exchange (PduEnv boardConfig))
      fun out s' =>
        readsInputs [0x04, 0x00, 0x00, 0x00, 0x01] = true →
        AnsweredNormally [0x04, 0x00, 0x00, 0x00, 0x01] out s' →
          ¬ RefreshedByHook (fun _ s => s) 0 [0x04, 0x00, 0x00, 0x00, 0x01]
            ⟨⟨Store.powerOn boardConfig, []⟩, List.replicate 253 0⟩ s' :=
  modbusPduProcess_not_refreshedByHook none (fun _ s => s) 0 [0x04, 0x00, 0x00, 0x00, 0x01] false
    ⟨⟨Store.powerOn boardConfig, []⟩, List.replicate 253 0⟩ (by rw [List.length_replicate])

/-- A hook that fetches the first analog input into holding register 100. -/
def fetchAnalogInput (_ : ℕ) (s : Store boardConfig) : Store boardConfig :=
  modbusWriteHoldingRegister s 100 0x1234

/-- The first input register is answered with zero, and the hook has not run. -/
theorem modbusPduProcess_hook_ignored :
    ¬ Yields (modbusPduProcess ⟨none, some fetchAnalogInput, 0⟩ [0x04, 0x00, 0x00, 0x00, 0x01] false)
      (⟨⟨Store.powerOn boardConfig, []⟩, List.replicate 253 0⟩ : Exchange (PduEnv boardConfig))
      fun out s' =>
        readsInputs [0x04, 0x00, 0x00, 0x00, 0x01] = true →
        AnsweredNormally [0x04, 0x00, 0x00, 0x00, 0x01] out s' →
          RefreshedByHook fetchAnalogInput 0 [0x04, 0x00, 0x00, 0x00, 0x01]
            ⟨⟨Store.powerOn boardConfig, []⟩, List.replicate 253 0⟩ s' := by
  have hrun : Yields
      (modbusPduProcess ⟨none, some fetchAnalogInput, 0⟩ [0x04, 0x00, 0x00, 0x00, 0x01] false)
      (⟨⟨Store.powerOn boardConfig, []⟩, List.replicate 253 0⟩ : Exchange (PduEnv boardConfig))
      fun out s' => out = (.ok, some 4) ∧ s'.tx.take 4 = [0x04, 0x02, 0x00, 0x00] ∧
        s'.env.calls.length = 0 := by
    decide +kernel
  obtain ⟨out, s', hok, hout, htx, hcalls⟩ := hrun
  intro hclaim
  have hfirst : byteAt s'.tx 0 = 0x04 := by
    rw [← byteAt_take (show 0 < 4 by decide), htx]
    rfl
  have hrefreshed := hclaim.of_run_eq hok (by decide) ⟨4, hout, by decide, hfirst⟩
  have hone := congrArg List.length hrefreshed.invoked
  rw [hcalls] at hone
  cases hone

end AutomationBoard.Modbus
