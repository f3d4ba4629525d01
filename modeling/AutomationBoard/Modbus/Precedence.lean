/-
# The precedence of exceptions

A request can have two faults at once: values that its function code does not
allow, and an address range that leaves its table. The values come first: wrong
ones are refused with exception 03, and only a request whose values are all in
order is refused with exception 02 for its addresses. The branches of the
dispatcher order their checks one by one. Eight of ten keep the precedence; the
two writes of several elements look at the address range before the byte count.
-/

import AutomationBoard.Modbus.Exceptions
import AutomationBoard.Modbus.RequestLength

namespace AutomationBoard.Modbus

open AutomationBoard.Program

variable {cfg : Config}

/-! ## The precedence -/

/-- The quantity of a request is within the limit of its function code. -/
def QuantityAllowed (limit : ℕ) (quantity : Word) : Prop :=
  1 ≤ quantity.toNat ∧ quantity.toNat ≤ limit

instance (limit : ℕ) (quantity : Word) : Decidable (QuantityAllowed limit quantity) :=
  inferInstanceAs (Decidable (_ ∧ _))

/-- Values come before addresses. -/
def precedence (badValue badAddress : Prop) [Decidable badValue] [Decidable badAddress] :
    Option ExceptionCode :=
  if badValue then some .illegalDataValue
  else if badAddress then some .illegalDataAddress
  else none

/-- The function codes that access coils, inputs and registers. -/
def accessesTables (pdu : List Byte) : Bool :=
  match FunctionCode.ofByte (byteAt pdu 0) with
  | some .readCoils | some .readDiscreteInputs | some .readHoldingRegisters
  | some .readInputRegisters | some .writeSingleCoil | some .writeSingleRegister
  | some .writeMultipleCoils | some .writeMultipleRegisters | some .maskWriteRegister
  | some .readWriteMultipleRegs => true
  | _ => false

/-- The exception due to a request of the tables. -/
def dueException (cfg : Config) (pdu : List Byte) : Option ExceptionCode :=
  let start := (wordAt pdu 1).toNat
  let quantity := wordAt pdu 3
  match FunctionCode.ofByte (byteAt pdu 0) with
  | some .readCoils | some .readDiscreteInputs =>
      precedence (pdu.length ≠ 5 ∨ ¬ QuantityAllowed maxReadCoils quantity)
        (¬ start + quantity.toNat ≤ cfg.maxCoils)
  | some .readHoldingRegisters | some .readInputRegisters =>
      precedence (pdu.length ≠ 5 ∨ ¬ QuantityAllowed maxReadRegisters quantity)
        (¬ start + quantity.toNat ≤ cfg.maxRegisters)
  | some .writeSingleCoil =>
      precedence (pdu.length ≠ 5 ∨ quantity ≠ 0xFF00 ∧ quantity ≠ 0x0000)
        (¬ start < cfg.maxCoils)
  | some .writeSingleRegister => precedence (pdu.length ≠ 5) (¬ start < cfg.maxRegisters)
  | some .writeMultipleCoils =>
      precedence (pdu.length < 6 ∨ ¬ QuantityAllowed maxWriteCoils quantity ∨
          ¬ ((byteAt pdu 5).toNat = (quantity.toNat + 7) / 8 ∧
            pdu.length = 6 + (byteAt pdu 5).toNat))
        (¬ start + quantity.toNat ≤ cfg.maxCoils)
  | some .writeMultipleRegisters =>
      precedence (pdu.length < 6 ∨ ¬ QuantityAllowed maxWriteRegisters quantity ∨
          ¬ ((byteAt pdu 5).toNat = quantity.toNat * 2 ∧ pdu.length = 6 + (byteAt pdu 5).toNat))
        (¬ start + quantity.toNat ≤ cfg.maxRegisters)
  | some .maskWriteRegister => precedence (pdu.length ≠ 7) (¬ start < cfg.maxRegisters)
  | some .readWriteMultipleRegs =>
      precedence (pdu.length < 10 ∨ ¬ QuantityAllowed 0x007D quantity ∨
          ¬ QuantityAllowed 0x0079 (wordAt pdu 7) ∨
          ¬ ((byteAt pdu 9).toNat = (wordAt pdu 7).toNat * 2 ∧
            pdu.length = 10 + (byteAt pdu 9).toNat))
        (¬ start + quantity.toNat ≤ cfg.maxRegisters ∨
          ¬ (wordAt pdu 5).toNat + (wordAt pdu 7).toNat ≤ cfg.maxRegisters)
  | _ => none

/-- A write of several elements with a range outside its table and a byte count
that disagrees with the quantity or with the length. -/
def AddressJudgedFirst (cfg : Config) (pdu : List Byte) : Prop :=
  match FunctionCode.ofByte (byteAt pdu 0) with
  | some .writeMultipleCoils =>
      6 ≤ pdu.length ∧ RangeOutside maxWriteCoils cfg.maxCoils pdu ∧
        ¬ ((byteAt pdu 5).toNat = ((wordAt pdu 3).toNat + 7) / 8 ∧
          pdu.length = 6 + (byteAt pdu 5).toNat)
  | some .writeMultipleRegisters =>
      6 ≤ pdu.length ∧ RangeOutside maxWriteRegisters cfg.maxRegisters pdu ∧
        ¬ ((byteAt pdu 5).toNat = (wordAt pdu 3).toNat * 2 ∧
          pdu.length = 6 + (byteAt pdu 5).toNat)
  | _ => False

/-! ## The checks of the branches -/

/-- The exception that a parse ends with. -/
def refusedWith {α : Type} : Except ExceptionCode α → Option ExceptionCode
  | .error e => some e
  | .ok _ => none

section Refusals

variable {α β : Type}

@[simp]
theorem refusedWith_map (f : α → β) (x : Except ExceptionCode α) :
    refusedWith (f <$> x) = refusedWith x := by
  cases x <;> rfl

/-- What is put together from a parsed part is refused as the part is. -/
theorem refusedWith_bind_pure (f : α → β) (x : Except ExceptionCode α) :
    refusedWith (x >>= fun a => pure (f a)) = refusedWith x := by
  cases x <;> rfl

/-- A check of a value in front of the others. -/
theorem refusedWith_reject {c badValue badAddress : Prop} [Decidable c] [Decidable badValue]
    [Decidable badAddress] {x : Except ExceptionCode α}
    (h : refusedWith x = precedence badValue badAddress) :
    refusedWith (if c then .error .illegalDataValue else x) =
      precedence (c ∨ badValue) badAddress := by
  by_cases hc : c
  · simp [hc, refusedWith, precedence]
  · simp [hc, h]

/-- The only check of a value. -/
theorem refusedWith_reject_only {c badAddress : Prop} [Decidable c] [Decidable badAddress]
    {x : Except ExceptionCode α} (h : refusedWith x = precedence False badAddress) :
    refusedWith (if c then .error .illegalDataValue else x) = precedence c badAddress := by
  rw [refusedWith_reject h]
  simp only [or_false]

theorem refusedWith_parseSpan (limit size : ℕ) (start quantity : Word) :
    refusedWith (parseSpan limit size start quantity) =
      precedence (¬ QuantityAllowed limit quantity)
        (¬ start.toNat + quantity.toNat ≤ size) := by
  unfold parseSpan precedence QuantityAllowed
  split_ifs <;> rfl

theorem refusedWith_parseAddr (size : ℕ) (start : Word) :
    refusedWith (parseAddr size start) = precedence False (¬ start.toNat < size) := by
  unfold parseAddr
  split_ifs with h
  · simp [refusedWith, precedence, h]
  · simp [refusedWith, precedence, h]

end Refusals

/-- A write of several elements whose byte count is checked after the range: as
the precedence asks unless both are wrong. -/
theorem refusedWith_lateCheck {limit size : ℕ} {start quantity : Word} {short agrees : Prop}
    [Decidable short] [Decidable agrees] {x : Except ExceptionCode (Request cfg)}
    {next : Span limit size → Except ExceptionCode (Request cfg)}
    (hx : x = if short then .error .illegalDataValue
      else parseSpan limit size start quantity >>= next)
    (hnext : ∀ span, parseSpan limit size start quantity = .ok span →
      refusedWith (next span) = if agrees then none else some .illegalDataValue) :
    refusedWith x =
        precedence (short ∨ ¬ QuantityAllowed limit quantity ∨ ¬ agrees)
          (¬ start.toNat + quantity.toNat ≤ size) ↔
      ¬ (¬ short ∧ ((1 ≤ quantity.toNat ∧ quantity.toNat ≤ limit) ∧
        ¬ start.toNat + quantity.toNat ≤ size) ∧ ¬ agrees) := by
  rw [hx]
  by_cases hshort : short
  · simp [hshort, refusedWith, precedence]
  rw [if_neg hshort]
  by_cases hquantity : 1 ≤ quantity.toNat ∧ quantity.toNat ≤ limit
  · by_cases hfits : start.toNat + quantity.toNat ≤ size
    · obtain ⟨span, hspan⟩ : ∃ span, parseSpan limit size start quantity = .ok span :=
        ⟨_, by rw [parseSpan, dif_pos hquantity, dif_pos hfits]⟩
      have hbind : (parseSpan limit size start quantity >>= next) = next span := by
        rw [hspan]
        rfl
      rw [hbind, hnext span hspan]
      by_cases hagrees : agrees <;>
        simp [precedence, QuantityAllowed, hshort, hquantity, hfits, hagrees]
    · have hbind : (parseSpan limit size start quantity >>= next) = .error .illegalDataAddress := by
        rw [parseSpan, dif_pos hquantity, dif_neg hfits]
        rfl
      rw [hbind]
      by_cases hagrees : agrees <;>
        simp [refusedWith, precedence, QuantityAllowed, hshort, hquantity, hfits, hagrees]
  · have hbind : (parseSpan limit size start quantity >>= next) = .error .illegalDataValue := by
      rw [parseSpan, dif_neg hquantity]
      rfl
    rw [hbind]
    simp [refusedWith, precedence, QuantityAllowed, hquantity]

/-- A request of the tables is refused as the precedence asks, unless its address
is judged before its byte count. -/
theorem refusedWith_parseRequest_iff {pdu : List Byte} (htables : accessesTables pdu = true) :
    refusedWith (parseRequest cfg pdu) = dueException cfg pdu ↔ ¬ AddressJudgedFirst cfg pdu := by
  unfold accessesTables at htables
  unfold parseRequest dueException AddressJudgedFirst
  cases hcode : FunctionCode.ofByte (byteAt pdu 0) with
  | none => rw [hcode] at htables; cases htables
  | some fc =>
      rw [hcode] at htables
      cases fc with
      | readCoils | readDiscreteInputs | readHoldingRegisters | readInputRegisters =>
          refine iff_of_true ?_ not_false
          rw [refusedWith_map]
          exact refusedWith_reject (refusedWith_parseSpan _ _ _ _)
      | writeSingleCoil =>
          refine iff_of_true ?_ not_false
          refine refusedWith_reject (refusedWith_reject_only ?_)
          rw [refusedWith_bind_pure]
          exact refusedWith_parseAddr _ _
      | writeSingleRegister | maskWriteRegister =>
          refine iff_of_true ?_ not_false
          refine refusedWith_reject_only ?_
          rw [refusedWith_bind_pure]
          exact refusedWith_parseAddr _ _
      | writeMultipleCoils =>
          refine (refusedWith_lateCheck rfl fun span hspan => ?_).trans ?_
          · rw [← (parseSpan_eq_ok hspan).2]
            dsimp only
            split_ifs <;> rfl
          · rw [Nat.not_lt]
            rfl
      | writeMultipleRegisters =>
          refine (refusedWith_lateCheck rfl fun span hspan => ?_).trans ?_
          · rw [← (parseSpan_eq_ok hspan).2]
            dsimp only
            split_ifs <;> rfl
          · rw [Nat.not_lt]
            rfl
      | readWriteMultipleRegs =>
          refine iff_of_true (refusedWith_reject ?_) not_false
          simp only [precedence, QuantityAllowed, ← not_and_or, ite_not]
          split_ifs <;> rfl
      | _ => cases htables

/-! ## Runs -/

/-- A request of the tables is answered as the precedence asks. A broadcast is
not answered. -/
def PrecedenceKept (_ : Exchange (PduEnv cfg)) (r : List Byte × Bool)
    (out : ModbusStatus × Option ℕ) (s' : Exchange (PduEnv cfg)) : Prop :=
  accessesTables r.1 = true → r.2 = false →
    match dueException cfg r.1 with
    | some e => AnsweredWith r.1 e out s'
    | none => AnsweredNormally r.1 out s'

/-- A request of the tables has a function code without the exception bit. -/
theorem msb_of_accessesTables {rx : List Byte} (htables : accessesTables rx = true) :
    (byteAt rx 0).msb = false := by
  unfold accessesTables at htables
  cases hcode : FunctionCode.ofByte (byteAt rx 0) with
  | none => rw [hcode] at htables; cases htables
  | some fc => rw [← FunctionCode.ofByte_eq_some.mp hcode, FunctionCode.msb_code]

/-- A request of the tables is carried out completely or not at all. -/
theorem refusalOf_of_accessesTables {rx : List Byte} (htables : accessesTables rx = true) :
    refusalOf (parseRequest cfg rx) = refusedWith (parseRequest cfg rx) := by
  cases hparse : parseRequest cfg rx with
  | error e => rfl
  | ok r =>
      have hcode := (parseRequest_functionCode hparse).1
      cases r with
      | writeFileRecord writes refused =>
          rw [accessesTables, hcode, FunctionCode.ofByte_code] at htables
          cases htables
      | _ => rfl

/-- The reply to a request of the tables is the one due, unless its address is
judged before its byte count. -/
theorem answered_pduReply_iff (hooks : SyncHooks cfg) {rx given : List Byte}
    {env : PduEnv cfg} {s' : Exchange (PduEnv cfg)} (htables : accessesTables rx = true)
    (hwrote : Wrote given s'.tx (pduReply hooks rx env).1) :
    (match dueException cfg rx with
      | some e => AnsweredWith rx e (.ok, some (pduReply hooks rx env).1.length) s'
      | none => AnsweredNormally rx (.ok, some (pduReply hooks rx env).1.length) s') ↔
      ¬ AddressJudgedFirst cfg rx := by
  have hmsb := msb_of_accessesTables htables
  rw [← refusedWith_parseRequest_iff htables, ← refusalOf_of_accessesTables htables]
  cases dueException cfg rx with
  | some e => exact answeredWith_iff hmsb hwrote e
  | none => exact answeredNormally_iff hmsb hwrote

/-- One request: the precedence is kept unless the address is judged first. The
response buffer keeps its size. -/
theorem yields_precedenceKept_iff (flat : cfg.Flat) (hooks : SyncHooks cfg) (rx : List Byte)
    (isBroadcast : Bool) {s : Exchange (PduEnv cfg)} (room : 253 ≤ s.tx.length) :
    Yields (modbusPduProcess hooks rx isBroadcast) s fun out s' =>
      253 ≤ s'.tx.length ∧
        (PrecedenceKept s (rx, isBroadcast) out s' ↔
          (isBroadcast = false → ¬ AddressJudgedFirst cfg rx)) := by
  by_cases hrx : rx = []
  · rw [hrx, modbusPduProcess, if_pos (by decide), yields_pure]
    exact ⟨room, iff_of_true (fun htables => by cases htables) fun _ hfirst => by cases hfirst⟩
  apply (yields_modbusPduProcess flat hooks hrx isBroadcast room).mono
  intro out s' h
  cases isBroadcast with
  | true =>
      have hlength : 253 ≤ s'.tx.length := by
        by_cases hdrop : broadcastDropped rx true
        · rw [if_pos hdrop] at h
          exact h.2 ▸ room
        · rw [if_neg hdrop] at h
          exact h.2.2.length.symm ▸ room
      exact ⟨hlength, iff_of_true (fun _ hunicast => by cases hunicast) fun h => by cases h⟩
  | false =>
      rw [if_neg (by simp [broadcastDropped])] at h
      obtain ⟨rfl, -, hwrote⟩ := h
      refine ⟨hwrote.length.symm ▸ room, ?_⟩
      by_cases htables : accessesTables rx = true
      · simp only [PrecedenceKept, htables, forall_true_left]
        exact answered_pduReply_iff hooks htables hwrote
      · refine iff_of_true (fun h => absurd h htables) fun _ hfirst => htables ?_
        unfold AddressJudgedFirst at hfirst
        unfold accessesTables
        split at hfirst <;> simp_all

/-- In a run of requests, every request of the tables is answered with exception
03 if a value of it is wrong, else with exception 02 if a range of it is, else
normally, exactly as long as no write of several elements has both a range
outside its table and a wrong byte count. -/
theorem runRequests_precedenceKept_iff (hooks : SyncHooks boardConfig)
    (s : Exchange (PduEnv boardConfig)) (requests : List (List Byte × Bool))
    (room : 253 ≤ s.tx.length) :
    EveryStep (pduRequest hooks) PrecedenceKept s requests ↔
      EveryStep (pduRequest hooks)
        (fun _ r _ _ => r.2 = false → ¬ AddressJudgedFirst boardConfig r.1) s requests :=
  everyStep_congr (I := fun s : Exchange (PduEnv boardConfig) => 253 ≤ s.tx.length)
    (fun _ r room => yields_precedenceKept_iff Config.boardConfig_flat hooks r.1 r.2 room)
    room requests

theorem runRequests_precedenceKept_iff_writeOne :
    EveryStep (pduRequest (SyncHooks.none boardConfig)) PrecedenceKept
        ⟨⟨Store.powerOn boardConfig, []⟩, List.replicate 253 0⟩
        [([0x10, 0x00, 0x00, 0x00, 0x01, 0x02, 0x12, 0x34], false)] ↔
      EveryStep (pduRequest (SyncHooks.none boardConfig))
        (fun _ r _ _ => r.2 = false → ¬ AddressJudgedFirst boardConfig r.1)
        ⟨⟨Store.powerOn boardConfig, []⟩, List.replicate 253 0⟩
        [([0x10, 0x00, 0x00, 0x00, 0x01, 0x02, 0x12, 0x34], false)] :=
  runRequests_precedenceKept_iff (SyncHooks.none boardConfig)
    ⟨⟨Store.powerOn boardConfig, []⟩, List.replicate 253 0⟩
    [([0x10, 0x00, 0x00, 0x00, 0x01, 0x02, 0x12, 0x34], false)] (by rw [List.length_replicate])

/-- One coil at address 128, which is outside the table, with a byte count of
two: answered with exception 02. -/
theorem runRequests_addressJudgedFirst :
    ¬ EveryStep (pduRequest (SyncHooks.none boardConfig)) PrecedenceKept
      ⟨⟨Store.powerOn boardConfig, []⟩, List.replicate 253 0⟩
      [([0x0F, 0x00, 0x80, 0x00, 0x01, 0x02, 0x00, 0x00], false)] := by
  rw [everyStep_singleton]
  intro hclaim
  have hrun : Yields (pduRequest (SyncHooks.none boardConfig)
      ([0x0F, 0x00, 0x80, 0x00, 0x01, 0x02, 0x00, 0x00], false))
      ⟨⟨Store.powerOn boardConfig, []⟩, List.replicate 253 0⟩ fun _ s' =>
        s'.tx.take 2 = [0x8F, 0x02] := by
    decide +kernel
  obtain ⟨out, s', hok, htx⟩ := hrun
  obtain ⟨-, hdue⟩ := hclaim.of_run_eq hok (by decide) rfl
  rw [htx] at hdue
  revert hdue
  decide

end AutomationBoard.Modbus
