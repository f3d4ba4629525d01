/-
# Writes and their echoes

A slave answers a write with an echo: of the whole request, or of its first five
bytes where the request goes on with data. A master that reports success should
have seen that echo, since a late or crossed response can have the right function
code. Two of the six operations compare the response with the request. The other
four look at its length and its function code and accept it for any address and
any value.
-/

import AutomationBoard.Modbus.Loopback

namespace AutomationBoard.Modbus

open AutomationBoard.Program

variable {σ : Type}

/-- The writes that a slave answers with an echo. -/
def MasterCall.echoWrite : MasterCall → Bool
  | writeSingleCoil _ _ | writeSingleRegister _ _ | writeMultipleCoils _ _ _
  | writeMultipleRegisters _ _ _ | writeFileRecord _ _ _ _ | maskWriteRegister _ _ _ => true
  | _ => false

/-- What the response to a write repeats of the request. -/
def MasterCall.echo (call : MasterCall) : List Byte :=
  match call with
  | writeMultipleCoils _ _ _ | writeMultipleRegisters _ _ _ => call.requestPdu.take 5
  | _ => call.requestPdu

/-- The operations that compare the response with the request. -/
def MasterCall.comparesEcho : MasterCall → Bool
  | writeFileRecord _ _ _ _ | maskWriteRegister _ _ _ => true
  | _ => false

/-- What the operation of a write checks of a response with its function code. -/
def MasterCall.acceptsResponse (call : MasterCall) (resp : List Byte) : Bool :=
  if call.comparesEcho then resp = call.echo else resp.length = 5

/-- Success is reported only if the frame that was received is the echo. `calls`
are the calls of the transport during the operation. -/
def SuccessMeansEcho (call : MasterCall) (calls : List BusCall) (reply : Reply Delivered) : Prop :=
  reply.status = .ok →
    ∃ maxLen timeoutMs frame, .recv maxLen timeoutMs .ok frame ∈ calls ∧
      framePdu frame = call.echo

/-- The frame that the transport delivers in a transaction with a request. -/
def Master.delivered (m : Master σ) (slave : Byte) (req : List Byte) (world : σ) :
    Option (List Byte) :=
  match m.transport with
  | some ⟨some send, some recv, some delayT35, some flushRx, _⟩ =>
      let sent := send (rtuFrame slave req) (delayT35 (flushRx world))
      let got := recv rtuFrameMax m.timeoutMs sent.2
      if sent.1 = .ok ∧ got.1.1 = .ok then some got.1.2 else none
  | _ => none

/-- A frame that a transaction hands on as a response with this function code. -/
structure IsHeard (slave : Byte) (fc : FunctionCode) (frame : List Byte) : Prop where
  length : lengthValid frame
  crc : crcValid frame
  slave_eq : byteAt frame 0 = slave
  code : byteAt frame 1 = fc.code

/-- A response as long as an echo, with the right function code and other bytes
behind it, reaches an operation that does not compare them. -/
def CrossedResponse (m : Master σ) (slave : Byte) (call : MasterCall) (world : σ) : Prop :=
  call.comparesEcho = false ∧ call.requestPdu ≠ [] ∧
    ∃ frame, m.delivered slave call.requestPdu world = some frame ∧
      IsHeard slave call.functionCode frame ∧ frame.length = 8 ∧ framePdu frame ≠ call.echo

/-! ## What is made of a response -/

theorem heard_of_isHeard {slave : Byte} {fc : FunctionCode} {frame : List Byte}
    (h : IsHeard slave fc frame) :
    heard slave fc.code (some rtuFrameMax) frame = ⟨.ok, framePdu frame, 0⟩ := by
  have hpdu := length_framePdu h.length
  have hhigh := h.length.2
  unfold heard
  rw [if_neg (not_not_intro h.length), if_neg (not_not_intro h.crc),
    if_neg (not_not_intro h.slave_eq), h.code, fc.msb_code, if_neg Bool.false_ne_true,
    if_neg (not_not_intro rfl)]
  simp only
  rw [if_pos (by omega)]

theorem status_heard_ne_ok {slave : Byte} {fc : FunctionCode} {frame : List Byte}
    (h : ¬ IsHeard slave fc frame) :
    (heard slave fc.code (some rtuFrameMax) frame).status ≠ .ok := by
  intro hok
  unfold heard at hok
  split_ifs at hok with hlength hcrc hslave hmsb hexception hcode
  all_goals first
    | cases hok
    | exact h ⟨hlength, hcrc, not_not.mp hslave, not_not.mp hcode⟩

section Checks

variable {s : σ}

theorem yields_checkHead {fc : FunctionCode} {resp : List Byte} (hcode : byteAt resp 0 = fc.code)
    {post : Option PUnit → σ → Prop} :
    Yields (checkHead fc resp) s post ↔
      post (if resp.length = 5 then some ⟨⟩ else none) s := by
  unfold checkHead
  by_cases hlength : resp.length = 5
  · simp [hlength, hcode]
  · simp [hlength]

theorem yields_checkEcho {req resp : List Byte} {post : Option PUnit → σ → Prop} :
    Yields (checkEcho req resp) s post ↔ post (if resp = req then some ⟨⟩ else none) s := by
  unfold checkEcho
  by_cases hlength : resp.length = req.length
  · rw [if_neg (not_not_intro hlength), yields_map, yields_echoLoop hlength (Nat.zero_add _),
      List.drop_zero, List.drop_zero]
    by_cases hsame : resp = req <;> simp [accept, hsame]
  · have hother : resp ≠ req := fun h => hlength (congrArg _ h)
    rw [if_pos hlength, yields_pure, if_neg hother]

end Checks

/-- What a write makes of a response with its function code. -/
theorem MasterCall.yields_parse_echoWrite {call : MasterCall} (hwrite : call.echoWrite = true)
    {slave : Byte} (hslave : slave ≠ 0) {resp : List Byte} (hsome : call.requestPdu ≠ [])
    (hcode : byteAt resp 0 = call.functionCode.code) {s : σ} {post : Option Delivered → σ → Prop} :
    Yields (call.parse slave resp) s post ↔
      post (if call.acceptsResponse resp then some .done else none) s := by
  cases call with
  | writeSingleCoil | writeSingleRegister | writeMultipleCoils | writeMultipleRegisters =>
      refine yields_map.trans ((yields_checkHead hcode).trans ?_)
      by_cases hlength : resp.length = 5 <;> simp [acceptsResponse, comparesEcho, hlength]
  | writeFileRecord fileNumber recordNumber recordLength regs =>
      refine yields_map.trans (yields_checkEcho.trans ?_)
      by_cases hsame : resp = modbusMasterBuildWriteFileRecord fileNumber recordNumber recordLength
          regs rtuFrameMax <;>
        simp [acceptsResponse, comparesEcho, echo, requestPdu, hsame]
  | maskWriteRegister addr andMask orMask =>
      rw [requestPdu] at hsome
      simp only [parse, unlessBroadcast, if_neg hslave, yields_map, yields_modbusMasterParseEcho,
        acceptsResponse, comparesEcho, if_true, echo, requestPdu]
      by_cases hsame : resp = modbusMasterBuildMaskWriteRegister addr andMask orMask 7 <;>
        simp [accept, hsame, hsome]
  | _ => cases hwrite

/-! ## The operations -/

theorem MasterCall.refused_of_echoWrite {call : MasterCall} (hwrite : call.echoWrite = true)
    (slave : Byte) : call.refused slave = false := by
  cases call <;> first | rfl | cases hwrite

/-- A frame that is heard is accepted for its echo only, unless it is a crossed
response to an operation that does not compare. -/
theorem MasterCall.acceptsResponse_iff {call : MasterCall} {slave : Byte} {frame : List Byte}
    (h : IsHeard slave call.functionCode frame) :
    (call.acceptsResponse (framePdu frame) = true → framePdu frame = call.echo) ↔
      ¬ (call.comparesEcho = false ∧ frame.length = 8 ∧ framePdu frame ≠ call.echo) := by
  have hpdu := length_framePdu h.length
  have hlow := h.length.1
  have hfive : (framePdu frame).length = 5 ↔ frame.length = 8 := by omega
  unfold acceptsResponse
  by_cases hcompares : call.comparesEcho = true
  · simp [hcompares]
  · simp only [hcompares, if_false, decide_eq_true_eq, hfive, Bool.false_eq_true]
    simp only [not_and, not_not, forall_const]

section Operations

variable {m : Master σ} {slave : Byte} {call : MasterCall} {bus : Bus σ}

/-- How the operation of a write ends: without success, or with a frame that was
heard and checked. -/
inductive WriteOutcome (m : Master σ) (slave : Byte) (call : MasterCall) (world : σ)
    (calls : List BusCall) (reply : Reply Delivered) : Prop
  | unheard (status : reply.status ≠ .ok)
      (unheard : ∀ frame, m.delivered slave call.requestPdu world = some frame →
        ¬ IsHeard slave call.functionCode frame)
  | heard (frame : List Byte)
      (delivered : m.delivered slave call.requestPdu world = some frame)
      (isHeard : IsHeard slave call.functionCode frame)
      (status : reply.status = .ok ↔ call.acceptsResponse (framePdu frame) = true)
      (received : ∀ maxLen timeoutMs status frame',
        .recv maxLen timeoutMs status frame' ∈ calls ↔
          maxLen = rtuFrameMax ∧ timeoutMs = m.timeoutMs ∧ status = .ok ∧ frame' = frame)

theorem MasterCall.yields_run_echoWrite (hwrite : call.echoWrite = true) (hslave : slave ≠ 0)
    (hsome : call.requestPdu ≠ []) :
    Yields (call.run m slave) bus fun reply bus' =>
      ∃ calls, bus'.calls = bus.calls ++ calls ∧
        WriteOutcome m slave call bus.world calls reply := by
  rw [MasterCall.run_eq, refused_of_echoWrite hwrite, if_neg Bool.false_ne_true,
    yields_masterRequest hsome]
  by_cases hhooks : ∃ send recv delayT35 flushRx onEnd,
      m.transport = some ⟨some send, some recv, some delayT35, some flushRx, onEnd⟩
  · obtain ⟨send, recv, delayT35, flushRx, onEnd, htransport⟩ := hhooks
    rw [htransport, yields_modbusMasterTransaction (List.length_pos_iff.mpr hsome)
      call.length_requestPdu_le]
    intro adu sent busSent got busGot
    have hdelivered : m.delivered slave call.requestPdu bus.world =
        if sent.1 = .ok ∧ got.1.1 = .ok then some got.1.2 else none := by
      rw [Master.delivered, htransport]
      rfl
    have hsentCalls : (busSent.ended onEnd).calls = bus.calls ++ ([.flushRx, .delayT35,
        .send adu sent.1] ++ (onEnd.map fun _ => BusCall.onEnd).toList) := by
      simp only [busSent, Bus.calls_ended, Bus.calls_after, Bus.calls_taken, List.append_assoc,
        List.cons_append, List.nil_append]
    have hgotCalls : (busGot.ended onEnd).calls = bus.calls ++ ([.flushRx, .delayT35,
        .send adu sent.1, .recv rtuFrameMax m.timeoutMs got.1.1 got.1.2] ++
          (onEnd.map fun _ => BusCall.onEnd).toList) := by
      simp only [busGot, busSent, Bus.calls_ended, Bus.calls_after, Bus.calls_taken,
        List.append_assoc, List.cons_append, List.nil_append]
    by_cases hsent : sent.1 = .ok
    · rw [if_neg (not_not_intro hsent), if_neg hslave]
      by_cases hgot : got.1.1 = .ok
      · rw [if_neg (not_not_intro hgot), byteAt_requestPdu hsome]
        rw [if_pos ⟨hsent, hgot⟩] at hdelivered
        by_cases hheard : IsHeard slave call.functionCode got.1.2
        · have hlow := hheard.length.1
          have hcode : byteAt (framePdu got.1.2) 0 = call.functionCode.code :=
            (byteAt_framePdu (by omega)).trans hheard.code
          rw [heard_of_isHeard hheard, if_neg (not_not_intro rfl),
            yields_parse_echoWrite hwrite hslave hsome hcode]
          refine ⟨_, hgotCalls, .heard got.1.2 hdelivered hheard ?_ ?_⟩
          · by_cases haccepts : call.acceptsResponse (framePdu got.1.2) = true <;>
              simp [Reply.parsed, haccepts]
          · intro maxLen timeoutMs status frame'
            cases onEnd <;> simp [hgot]
        · have hstatus := status_heard_ne_ok hheard
          rw [if_pos hstatus]
          refine ⟨_, hgotCalls, .unheard hstatus fun frame hframe => ?_⟩
          rw [hdelivered] at hframe
          exact Option.some.inj hframe ▸ hheard
      · rw [if_pos hgot, if_pos (by simpa using hgot)]
        refine ⟨_, hgotCalls, .unheard (by simpa using hgot) fun frame hframe => ?_⟩
        rw [hdelivered, if_neg fun h => hgot h.2] at hframe
        cases hframe
    · rw [if_pos hsent, if_pos (by simpa using hsent)]
      refine ⟨_, hsentCalls, .unheard (by simpa using hsent) fun frame hframe => ?_⟩
      rw [hdelivered, if_neg fun h => hsent h.1] at hframe
      cases hframe
  · have hnone : m.delivered slave call.requestPdu bus.world = none := by
      unfold Master.delivered
      split
      · next send recv delayT35 flushRx onEnd htransport =>
          exact absurd ⟨send, recv, delayT35, flushRx, onEnd, htransport⟩ hhooks
      · rfl
    rw [yields_modbusMasterTransaction_refused fun _ send recv delayT35 flushRx onEnd h =>
      hhooks ⟨send, recv, delayT35, flushRx, onEnd, h⟩]
    rw [if_pos (by simp)]
    refine ⟨[], (List.append_nil _).symm, .unheard (by simp) fun frame hframe => ?_⟩
    rw [hnone] at hframe
    cases hframe

/-- However a write ends, its success means the echo unless a crossed response
reached it. -/
theorem WriteOutcome.successMeansEcho_iff {calls : List BusCall} {reply : Reply Delivered}
    {world : σ} (hsome : call.requestPdu ≠ []) (h : WriteOutcome m slave call world calls reply) :
    SuccessMeansEcho call calls reply ↔ ¬ CrossedResponse m slave call world := by
  cases h with
  | unheard hstatus hunheard =>
      refine iff_of_true (fun hok => absurd hok hstatus) ?_
      rintro ⟨-, -, frame, hdelivered, hheard, -⟩
      exact hunheard frame hdelivered hheard
  | heard frame hdelivered hheard hstatus hreceived =>
      have hcrossed : CrossedResponse m slave call world ↔
          call.comparesEcho = false ∧ frame.length = 8 ∧ framePdu frame ≠ call.echo := by
        constructor
        · rintro ⟨hcompares, -, frame', hdelivered', -, hlength, hother⟩
          obtain rfl := Option.some.inj (hdelivered.symm.trans hdelivered')
          exact ⟨hcompares, hlength, hother⟩
        · rintro ⟨hcompares, hlength, hother⟩
          exact ⟨hcompares, hsome, frame, hdelivered, hheard, hlength, hother⟩
      rw [hcrossed, ← call.acceptsResponse_iff hheard, SuccessMeansEcho, hstatus]
      constructor
      · intro h haccepts
        obtain ⟨maxLen, timeoutMs, frame', hmem, hecho⟩ := h haccepts
        obtain ⟨-, -, -, rfl⟩ := (hreceived _ _ _ _).mp hmem
        exact hecho
      · intro h haccepts
        exact ⟨_, _, frame, (hreceived _ _ _ _).mpr ⟨rfl, rfl, rfl, rfl⟩, h haccepts⟩

end Operations

/-- With every transport and for every unicast id, the operation of a write
reports success only for the echo of its request, exactly when no crossed
response is delivered to an operation that does not compare it. -/
theorem masterCall_successMeansEcho_iff (m : Master σ) (slave : Byte) (hslave : slave ≠ 0)
    (call : MasterCall) (hwrite : call.echoWrite = true) (bus : Bus σ) :
    Yields (call.run m slave) bus fun reply bus' => ∃ calls, bus'.calls = bus.calls ++ calls ∧
      (SuccessMeansEcho call calls reply ↔ ¬ CrossedResponse m slave call bus.world) := by
  by_cases hsome : call.requestPdu = []
  · rw [MasterCall.run_eq, MasterCall.refused_of_echoWrite hwrite, if_neg Bool.false_ne_true,
      masterRequest, if_pos (List.length_eq_zero_iff.mpr hsome), yields_pure]
    refine ⟨[], (List.append_nil _).symm, iff_of_true ?_ fun h => h.2.1 hsome⟩
    intro hok
    cases hok
  · apply (MasterCall.yields_run_echoWrite hwrite hslave hsome).mono
    rintro reply bus' ⟨calls, hcalls, houtcome⟩
    exact ⟨calls, hcalls, houtcome.successMeansEcho_iff hsome⟩

theorem masterCall_successMeansEcho_iff_timeout :
    Yields (MasterCall.run ⟨some ⟨some fun _ s => (.ok, s), some fun _ _ s => ((.timeout, []), s),
        some id, some id, none⟩, 500⟩ 1 (.writeSingleCoil 3 1)) (⟨(), []⟩ : Bus Unit)
      fun reply bus' => ∃ calls, bus'.calls = [] ++ calls ∧
        (SuccessMeansEcho (.writeSingleCoil 3 1) calls reply ↔
          ¬ CrossedResponse ⟨some ⟨some fun _ s => (.ok, s), some fun _ _ s => ((.timeout, []), s),
            some id, some id, none⟩, 500⟩ 1 (.writeSingleCoil 3 1) ()) :=
  masterCall_successMeansEcho_iff ⟨some ⟨some fun _ s => (.ok, s),
    some fun _ _ s => ((.timeout, []), s), some id, some id, none⟩, 500⟩ 1 (by decide)
    (.writeSingleCoil 3 1) rfl ⟨(), []⟩

/-- A master whose transport delivers the echo of another write: of coil 9. -/
def crossedMaster : Master Unit :=
  ⟨some ⟨some fun _ s => (.ok, s),
    some fun _ _ s => ((.ok, rtuFrame 1 [0x05, 0x00, 0x09, 0xFF, 0x00]), s),
    some id, some id, none⟩, 500⟩

/-- Coil 3 is reported as written on the word of a response for coil 9. -/
theorem masterCall_writeSingleCoil_crossed :
    ¬ Yields (MasterCall.run crossedMaster 1 (.writeSingleCoil 3 1)) (⟨(), []⟩ : Bus Unit)
      fun reply bus' => SuccessMeansEcho (.writeSingleCoil 3 1) bus'.calls reply := by
  intro hclaim
  have hsome : (MasterCall.writeSingleCoil 3 1).requestPdu ≠ [] := List.cons_ne_nil _ _
  have hheard : IsHeard 1 .writeSingleCoil (rtuFrame 1 [0x05, 0x00, 0x09, 0xFF, 0x00]) :=
    ⟨lengthValid_rtuFrame (by decide) (by decide), crcValid_rtuFrame _ _, rfl, rfl⟩
  have hother : framePdu (rtuFrame 1 [0x05, 0x00, 0x09, 0xFF, 0x00]) ≠
      (MasterCall.writeSingleCoil 3 1).echo := by
    rw [framePdu_rtuFrame]
    decide
  have hrun : Yields (MasterCall.run crossedMaster 1 (.writeSingleCoil 3 1))
      (⟨(), []⟩ : Bus Unit) fun reply bus' => ∃ calls, bus'.calls = [] ++ calls ∧
        WriteOutcome crossedMaster 1 (.writeSingleCoil 3 1) () calls reply :=
    MasterCall.yields_run_echoWrite rfl (by decide) hsome
  obtain ⟨reply, bus', hok, calls, hcalls, houtcome⟩ := hrun
  have hecho := hclaim.of_run_eq hok
  rw [hcalls] at hecho
  exact (houtcome.successMeansEcho_iff hsome).mp hecho
    ⟨rfl, hsome, _, rfl, hheard, rfl, hother⟩

end AutomationBoard.Modbus
