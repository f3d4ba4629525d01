/-
# `modbus_rtu_process` computes the abstract slave

The response buffer starts as zeros, so what the code reads back from it after
the dispatcher is what was built, also where nothing was. With that, the
bookkeeping and the response frame of the code are those of the abstract slave.
-/

import AutomationBoard.Modbus.SlaveStep
import AutomationBoard.Program.Runs

namespace AutomationBoard.Modbus

open AutomationBoard.Program

variable {cfg : Config}

/-- The buffer holds what was built: it starts with it, and its first two bytes
are zero where nothing was built. -/
structure Holds (txPdu built : List Byte) : Prop where
  take : txPdu.take built.length = built
  head : ∀ i < 2, byteAt txPdu i = byteAt built i

theorem holds_zeros : Holds (List.replicate rtuFrameMax 0) [] where
  take := rfl
  head := by decide

/-- Beyond its first byte, a buffer that starts with a reply holds it. -/
theorem Holds.of_take {functionCode : Byte} {txPdu built : List Byte}
    (hbuilds : Builds functionCode built) (htake : txPdu.take built.length = built)
    (hnil : built = [] → txPdu = List.replicate rtuFrameMax 0) : Holds txPdu built := by
  rcases hbuilds with rfl | ⟨hshape, -⟩
  · rw [hnil rfl]
    exact holds_zeros
  · refine ⟨htake, fun i hi => ?_⟩
    have htwo := hshape.two_le_length
    have hbyte : byteAt (txPdu.take built.length) i = byteAt txPdu i := byteAt_take (by omega)
    rw [← hbyte, htake]

theorem take_overwrite (buffer out : List Byte) :
    (overwrite buffer out).take out.length = out := by
  simp [overwrite]

/-- A call of the PDU dispatcher leaves the reply at the start of the buffer. -/
theorem yields_callPduProcess (flat : cfg.Flat) (s : Slave cfg) {pdu : List Byte} (hpdu : pdu ≠ [])
    (isBroadcast : Bool) {txPdu : List Byte} (room : 253 ≤ txPdu.length) :
    Yields (callPduProcess pdu isBroadcast txPdu) s fun r s' =>
      if broadcastDropped pdu isBroadcast then r = (.ok, txPdu, 0) ∧ s' = s
      else
        r.1 = .ok ∧ r.2.2 = (if isBroadcast then 0 else (pduReply s.hooks pdu s.env).1.length) ∧
          s' = { s with env := (pduReply s.hooks pdu s.env).2 } ∧
          Wrote txPdu r.2.1 (pduReply s.hooks pdu s.env).1 := by
  obtain ⟨r, x, hrun, h⟩ := yields_modbusPduProcess flat s.hooks hpdu isBroadcast
    (s := ⟨s.env, txPdu⟩) room
  rw [callPduProcess, yields_bind, yields_get, hrun, yields_bind, yields_set, yields_pure]
  by_cases hdrop : broadcastDropped pdu isBroadcast
  · rw [if_pos hdrop] at h ⊢
    obtain ⟨rfl, rfl⟩ := h
    exact ⟨rfl, rfl⟩
  · rw [if_neg hdrop] at h ⊢
    obtain ⟨rfl, henv, hwrote⟩ := h
    exact ⟨rfl, rfl, by rw [henv], hwrote⟩

/-- The dispatcher leaves what handling the request builds. -/
theorem yields_rtuDispatch (flat : cfg.Flat) (s : Slave cfg) {pdu : List Byte} (hpdu : pdu ≠ [])
    (isBroadcast : Bool) :
    Yields (rtuDispatch pdu isBroadcast (List.replicate rtuFrameMax 0)) s fun r s' =>
      r.1 = .ok ∧ r.2.2 = (handleRequest s pdu isBroadcast).response.length ∧
        s' = (handleRequest s pdu isBroadcast).slave ∧
        Holds r.2.1 (handleRequest s pdu isBroadcast).built := by
  have hbuilds := builds_handleRequest flat s hpdu isBroadcast
  have hoverwrite : ∀ out, Builds (byteAt pdu 0) out →
      Holds (overwrite (List.replicate rtuFrameMax 0) out) out := fun out h =>
    .of_take h (take_overwrite _ _) (by rintro rfl; rfl)
  have hroom : 253 ≤ (List.replicate rtuFrameMax (0 : Byte)).length := by
    rw [List.length_replicate]
    decide
  rw [rtuDispatch, yields_bind, yields_get]
  revert hbuilds
  unfold handleRequest
  simp only
  split_ifs with hdiag hfetch hlisten hid hquiet hlisten' hdrop
  · intro hbuilds
    rw [yields_bind, yields_set, yields_pure]
    exact ⟨rfl, rfl, rfl, hoverwrite _ hbuilds⟩
  · intro _
    exact yields_pure.mpr ⟨rfl, rfl, rfl, holds_zeros⟩
  · intro hbuilds
    exact yields_pure.mpr ⟨rfl, rfl, rfl, hoverwrite _ hbuilds⟩
  · intro _
    exact yields_pure.mpr ⟨rfl, rfl, rfl, holds_zeros⟩
  · intro hbuilds
    exact yields_pure.mpr ⟨rfl, rfl, rfl, hoverwrite _ hbuilds⟩
  · intro _
    exact yields_pure.mpr ⟨rfl, rfl, rfl, holds_zeros⟩
  · intro _
    apply (yields_callPduProcess flat s hpdu isBroadcast hroom).mono
    intro r s' h
    rw [if_pos hdrop] at h
    obtain ⟨rfl, rfl⟩ := h
    exact ⟨rfl, rfl, rfl, holds_zeros⟩
  · intro hbuilds
    apply (yields_callPduProcess flat s hpdu isBroadcast hroom).mono
    rintro ⟨status, tx, n⟩ s' h
    rw [if_neg hdrop] at h
    obtain ⟨rfl, rfl, rfl, hwrote⟩ := h
    refine ⟨rfl, ?_, rfl, .of_take hbuilds hwrote.take ?_⟩
    · cases isBroadcast <;> rfl
    · intro hnil
      have htwo := (replyShape_pduReply s.hooks pdu s.env).two_le_length
      rw [show (pduReply s.hooks pdu s.env).1 = [] from hnil] at htwo
      exact absurd htwo (by decide)

/-- The bookkeeping reads back what was built. -/
theorem rtuBookkeeping_eq {pdu txPdu : List Byte} {isBroadcast : Bool} {h : Handling cfg}
    (holds : Holds txPdu h.built) (line : LineState) :
    rtuBookkeeping pdu isBroadcast txPdu h.response.length line =
      bookkeeping pdu isBroadcast h line := by
  have hresponded : decide (h.response.length > 0) = decide (h.response ≠ []) := by
    simp [List.length_pos_iff]
  simp only [rtuBookkeeping, bookkeeping, noteSent, holds.head 0 (by decide), holds.head 1 (by decide),
    Handling.isException, hresponded]
  simp

/-- A response is at most 253 bytes long. -/
theorem length_response_le (flat : cfg.Flat) (s : Slave cfg) {pdu : List Byte} (hpdu : pdu ≠ [])
    (isBroadcast : Bool) : (handleRequest s pdu isBroadcast).response.length ≤ 253 := by
  rw [Handling.response]
  split
  · rcases builds_handleRequest flat s hpdu isBroadcast with hnil | ⟨-, hle⟩
    · rw [hnil]
      decide
    · exact hle
  · decide

/-- A request leaves the identity of the slave alone. -/
theorem slaveId_handleRequest (s : Slave cfg) (pdu : List Byte) (isBroadcast : Bool) :
    (handleRequest s pdu isBroadcast).slave.slaveId = s.slaveId := by
  unfold handleRequest
  simp only
  split_ifs <;> rfl

theorem hooks_handleRequest (s : Slave cfg) (pdu : List Byte) (isBroadcast : Bool) :
    (handleRequest s pdu isBroadcast).slave.hooks = s.hooks := by
  unfold handleRequest
  simp only
  split_ifs <;> rfl

/-- A frame does not change the identity of the slave. -/
theorem slaveId_slaveStep (s : Slave cfg) (rx : List Byte) :
    (slaveStep s rx).2.slaveId = s.slaveId :=
  slaveStep_unchanged Slave.slaveId (fun _ _ => rfl) (slaveId_handleRequest s.counted) rx

/-- A frame leaves the registered hooks alone. -/
theorem hooks_slaveStep (s : Slave cfg) (rx : List Byte) :
    (slaveStep s rx).2.hooks = s.hooks :=
  slaveStep_unchanged Slave.hooks (fun _ _ => rfl) (hooks_handleRequest s.counted) rx

/-- A frame for this slave is handled, accounted for and answered. -/
theorem yields_rtuAddressed (flat : cfg.Flat) (s : Slave cfg) {pdu : List Byte} (hpdu : pdu ≠ [])
    (isBroadcast : Bool) :
    Yields (rtuAddressed pdu isBroadcast) (s.updateLine LineState.noteBusMessage) fun out s' =>
      (out, s') = addressedStep s pdu isBroadcast := by
  rw [rtuAddressed, yields_bind, yields_modify, yields_bind]
  apply (yields_rtuDispatch flat s.counted hpdu isBroadcast).mono
  rintro ⟨status, txPdu, txPduLen⟩ _ ⟨rfl, rfl, rfl, holds⟩
  have hle := length_response_le flat s.counted hpdu isBroadcast
  have hid := slaveId_handleRequest s.counted pdu isBroadcast
  rw [addressedStep_eq]
  generalize handleRequest s.counted pdu isBroadcast = h at holds hle hid ⊢
  have hframe : 1 + h.response.length + 2 ≤ rtuFrameMax := by
    unfold rtuFrameMax
    omega
  simp only [ne_eq, not_true_eq_false, if_false, yields_bind, yields_modify, yields_get]
  rw [show h.slave.updateLine (rtuBookkeeping pdu isBroadcast txPdu h.response.length) =
    h.slave.updateLine (bookkeeping pdu isBroadcast h) by
      rw [Slave.updateLine, rtuBookkeeping_eq holds]; rfl]
  by_cases hnone : h.response = []
  · rw [if_pos (by rw [hnone]; rfl), yields_pure, if_pos hnone]
  · have hsent := h.response_eq_built hnone
    rw [if_neg (by simpa using hnone), if_neg (by omega), yields_pure, if_neg hnone, hsent,
      holds.take]
    congr 2
    rw [show (h.slave.updateLine (bookkeeping pdu isBroadcast h)).slaveId = s.slaveId from hid]

/-- The refinement theorem of the RTU slave. -/
theorem yields_modbusRtuProcess (flat : cfg.Flat) (s : Slave cfg) (rx : List Byte) :
    Yields (modbusRtuProcess rx) s fun out s' => (out, s') = slaveStep s rx := by
  rw [modbusRtuProcess, slaveStep]
  by_cases hlength : lengthValid rx
  · rw [if_neg (by unfold lengthValid at hlength; omega), if_neg (not_not_intro hlength)]
    by_cases hcrc : crcValid rx
    · have hsum : frameCrc rx = crc16 (rx.take (rx.length - 2)) := hcrc
      rw [if_neg (not_not_intro hsum), if_neg (not_not_intro hcrc), yields_bind, yields_modify,
        yields_bind, yields_get]
      by_cases hforeign : byteAt rx 0 ≠ s.slaveId ∧ byteAt rx 0 ≠ 0
      · have hforeign' : byteAt rx 0 ≠ (s.updateLine LineState.noteBusMessage).slaveId ∧
            byteAt rx 0 ≠ 0 := hforeign
        rw [if_pos hforeign', if_pos hforeign, yields_pure]
      · have hforeign' : ¬ (byteAt rx 0 ≠ (s.updateLine LineState.noteBusMessage).slaveId ∧
            byteAt rx 0 ≠ 0) := hforeign
        rw [if_neg hforeign', if_neg hforeign]
        exact yields_rtuAddressed flat s (framePdu_ne_nil hlength) _
    · have hsum : frameCrc rx ≠ crc16 (rx.take (rx.length - 2)) := hcrc
      rw [if_pos hsum, if_pos hcrc, yields_bind, yields_modify, yields_pure]
  · rw [if_pos (by unfold lengthValid at hlength; omega), if_pos hlength, yields_pure]

/-- What is said of every frame of a run is compared at the steps of the abstract
slave. -/
theorem everyStep_frames_congr (flat : cfg.Flat)
    {P Q : Slave cfg → List Byte → Outcome → Slave cfg → Prop}
    (hstep : ∀ s rx, P s rx (slaveStep s rx).1 (slaveStep s rx).2 ↔
      Q s rx (slaveStep s rx).1 (slaveStep s rx).2)
    (s : Slave cfg) (frames : List (List Byte)) :
    EveryStep modbusRtuProcess P s frames ↔ EveryStep modbusRtuProcess Q s frames := by
  refine everyStep_congr (I := fun _ => True) ?_ trivial frames
  intro s rx _
  apply (yields_modbusRtuProcess flat s rx).mono
  intro out s' h
  have hiff := hstep s rx
  rw [← h] at hiff
  exact ⟨trivial, hiff⟩

end AutomationBoard.Modbus
