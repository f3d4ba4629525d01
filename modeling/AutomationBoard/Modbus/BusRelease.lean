/-
# A transaction gives the bus back

Every path through a transaction that has flushed the input ends with one call
of `end`, and a path that has not leaves the transport alone. On the RS485 port
the flush takes the bus away from the slave and `end` gives it back, so no
transaction leaves the slave deaf.
-/

import AutomationBoard.Modbus.MasterRtu

namespace AutomationBoard.Modbus

open AutomationBoard.Program

variable {σ : Type}

/-- The bus was taken and given back, in this order and with nothing after it,
or not taken at all. -/
structure EndsOnce (calls : List BusCall) : Prop where
  last : .flushRx ∈ calls → ∃ before, calls = before ++ [.onEnd] ∧ .onEnd ∉ before
  never : .flushRx ∉ calls → .onEnd ∉ calls

/-- A transaction refuses before it touches the transport, or `end` is the last
hook it calls and is called once. -/
theorem yields_modbusMasterTransaction_ended (send : List Byte → σ → ModbusStatus × σ)
    (recv : ℕ → ℕ → σ → (ModbusStatus × List Byte) × σ) (delayT35 flushRx onEnd : σ → σ)
    (slaveId : Byte) (reqPdu : List Byte) (respMax : Option ℕ) (timeoutMs : ℕ) (bus : Bus σ) :
    Yields (modbusMasterTransaction (some (.full send recv delayT35 flushRx onEnd)) slaveId reqPdu
        respMax timeoutMs) bus fun _ bus' =>
      bus' = bus ∨ ∃ world calls, .onEnd ∉ calls ∧
        bus' = ⟨onEnd world, bus.calls ++ (.flushRx :: calls ++ [.onEnd])⟩ := by
  by_cases hsize : 1 ≤ reqPdu.length ∧ reqPdu.length ≤ 253
  · rw [MasterTransport.full, yields_modbusMasterTransaction hsize.1 hsize.2]
    intro adu sent busSent got busGot
    have hsent : busSent.ended (some onEnd) = ⟨onEnd busSent.world,
        bus.calls ++ (.flushRx :: [.delayT35, .send adu sent.1] ++ [.onEnd])⟩ := by
      simp [busSent, Bus.ended, Bus.after, Bus.taken]
    have hgot : busGot.ended (some onEnd) = ⟨onEnd busGot.world,
        bus.calls ++ (.flushRx :: [.delayT35, .send adu sent.1,
          .recv rtuFrameMax timeoutMs got.1.1 got.1.2] ++ [.onEnd])⟩ := by
      simp [busGot, busSent, Bus.ended, Bus.after, Bus.taken]
    split_ifs
    · exact .inr ⟨_, _, by simp, hsent⟩
    · exact .inr ⟨_, _, by simp, hsent⟩
    · exact .inr ⟨_, _, by simp, hgot⟩
    · exact .inr ⟨_, _, by simp, hgot⟩
  · rw [yields_modbusMasterTransaction_refused fun h => absurd h hsize]
    exact .inl rfl

/-- `end` is called exactly once, after all other hooks, when the bus was taken,
and never otherwise; so the RS485 master is not waiting after a transaction if it
was not before. -/
theorem modbusMasterTransaction_endsOnce :
    (∀ (σ : Type) (send : List Byte → σ → ModbusStatus × σ)
      (recv : ℕ → ℕ → σ → (ModbusStatus × List Byte) × σ) (delayT35 flushRx onEnd : σ → σ)
      (slaveId : Byte) (reqPdu : List Byte) (respMax : Option ℕ) (timeoutMs : ℕ) (bus : Bus σ),
      Yields (modbusMasterTransaction (some (.full send recv delayT35 flushRx onEnd)) slaveId reqPdu
          respMax timeoutMs) bus fun _ bus' =>
        ∃ calls, bus'.calls = bus.calls ++ calls ∧ EndsOnce calls) ∧
    ∀ (line : Rs485Line) (slaveId : Byte) (reqPdu : List Byte) (respMax : Option ℕ)
      (timeoutMs : ℕ) (bus : Bus MasterRtu), modbusMasterRtuIsWaiting bus.world = 0 →
      Yields (modbusMasterTransaction (some (masterRtuTransport line)) slaveId reqPdu respMax
          timeoutMs) bus fun _ bus' => modbusMasterRtuIsWaiting bus'.world = 0 := by
  constructor
  · intro σ send recv delayT35 flushRx onEnd slaveId reqPdu respMax timeoutMs bus
    apply (yields_modbusMasterTransaction_ended send recv delayT35 flushRx onEnd slaveId reqPdu
      respMax timeoutMs bus).mono
    rintro r bus' (rfl | ⟨world, calls, hbefore, rfl⟩)
    · exact ⟨[], (List.append_nil _).symm, ⟨nofun, fun _ => List.not_mem_nil⟩⟩
    · refine ⟨_, rfl, fun _ => ⟨_, rfl, ?_⟩, fun hnever => absurd ?_ hnever⟩
      · rintro (_ | ⟨_, hin⟩)
        exact hbefore hin
      · exact List.mem_append_left _ List.mem_cons_self
  · intro line slaveId reqPdu respMax timeoutMs bus hidle
    apply (yields_modbusMasterTransaction_ended (masterRtuSend line) (masterRtuRecv line)
      masterRtuDelayT35 masterRtuFlush masterRtuEnd slaveId reqPdu respMax timeoutMs bus).mono
    rintro r bus' (rfl | ⟨world, calls, -, rfl⟩)
    · exact hidle
    · rfl

theorem modbusMasterTransaction_endsOnce_noAnswer :
    modbusMasterRtuIsWaiting ⟨0, 0, []⟩ = 0 ∧
      Yields (modbusMasterTransaction
        (some (masterRtuTransport ⟨.ok, 0, [⟨0, []⟩, ⟨1, [[0x01, 0x03]]⟩]⟩)) 0x01
        [0x03, 0x00, 0x00, 0x00, 0x01] (some 253) 500) ⟨⟨0, 0, []⟩, []⟩ fun _ bus' =>
          modbusMasterRtuIsWaiting bus'.world = 0 :=
  ⟨rfl, modbusMasterTransaction_endsOnce.2 ⟨.ok, 0, [⟨0, []⟩, ⟨1, [[0x01, 0x03]]⟩]⟩ 0x01
    [0x03, 0x00, 0x00, 0x00, 0x01] (some 253) 500 ⟨⟨0, 0, []⟩, []⟩ rfl⟩

end AutomationBoard.Modbus
