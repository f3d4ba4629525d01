/-
# Memory safety of the PDU dispatcher

The dispatcher's model stops with a fault at the first index outside the
request, the response buffer, a table, a file or a queue. It never does: the
specification of the dispatcher is total correctness.
-/

import AutomationBoard.Modbus.Refinement.Dispatch

namespace AutomationBoard.Modbus

open AutomationBoard.Program

/-- The dispatcher finishes with a length of at most 253, and has changed no
byte of the response buffer from 253 on. -/
theorem yields_lengthAndFrame {cfg : Config} (flat : cfg.Flat) (hooks : SyncHooks cfg)
    {rx : List Byte} (hrx : rx ≠ []) (isBroadcast : Bool) {s : Exchange (PduEnv cfg)}
    (room : 253 ≤ s.tx.length) :
    Yields (modbusPduProcess hooks rx isBroadcast) s fun r s' =>
      (∃ n ≤ 253, r = (.ok, some n)) ∧ s'.tx.length = s.tx.length ∧
        s'.tx.drop 253 = s.tx.drop 253 := by
  apply (yields_modbusPduProcess flat hooks hrx isBroadcast room).mono
  intro r s' h
  split at h
  · obtain ⟨rfl, rfl⟩ := h
    exact ⟨⟨0, by omega, rfl⟩, rfl, rfl⟩
  · obtain ⟨rfl, -, hwrote⟩ := h
    refine ⟨⟨_, ?_, rfl⟩, hwrote.length, hwrote.drop⟩
    split
    · omega
    · exact hwrote.le

/-- Every access of the dispatcher is in bounds, for a request of any length and
content in any state: no run faults, also with a response buffer of 253 bytes,
and bytes from 253 on are not written. -/
theorem modbusPduProcess_inBounds (hooks : SyncHooks boardConfig) (env : PduEnv boardConfig)
    (rx tx : List Byte) (isBroadcast : Bool) (hrx : 1 ≤ rx.length) (htx : 253 ≤ tx.length) :
    Yields (modbusPduProcess hooks rx isBroadcast) ⟨env, tx⟩ fun r s' =>
      (∃ n ≤ 253, r = (.ok, some n)) ∧ s'.tx.length = tx.length ∧
        s'.tx.drop 253 = tx.drop 253 :=
  yields_lengthAndFrame Config.boardConfig_flat hooks (List.length_pos_iff.mp hrx) isBroadcast htx

theorem modbusPduProcess_inBounds_readHolding :
    Yields (modbusPduProcess (SyncHooks.none boardConfig) [0x03, 0x00, 0x00, 0x00, 0x7D] false)
      ⟨⟨Store.powerOn boardConfig, []⟩, List.replicate 253 0⟩ fun r s' =>
        (∃ n ≤ 253, r = (.ok, some n)) ∧ s'.tx.length = 253 ∧ s'.tx.drop 253 = [] := by
  have h := modbusPduProcess_inBounds (SyncHooks.none boardConfig) ⟨Store.powerOn boardConfig, []⟩
    [0x03, 0x00, 0x00, 0x00, 0x7D] (List.replicate 253 0) false (by decide) (by rw [List.length_replicate])
  rwa [List.length_replicate, List.drop_replicate, Nat.sub_self] at h

end AutomationBoard.Modbus
