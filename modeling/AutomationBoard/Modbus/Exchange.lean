/-
# Request and response buffers

A PDU handler reads `rx_pdu` below `rx_pdu_len` and writes `tx_pdu`; both are
checked here. `Wrote` says what a handler may have left in the response buffer:
the response in its first bytes, at most 253 of them, and nothing changed from
byte 253 on. `Answers` is the specification a handler meets when its response
and its effect are those of a pure function.
-/

import AutomationBoard.Modbus.Store
import AutomationBoard.Program.Checked

namespace AutomationBoard.Modbus

open AutomationBoard.Program

/-- The static data of a handler with the response buffer it was given. -/
structure Exchange (σ : Type) where
  env : σ
  tx : List Byte

/-- A handler of one request. -/
abbrev PduM (σ α : Type) : Type := Checked Fault (Exchange σ) α

variable {σ α : Type}

/-! ## Fields of a PDU -/

/-- The byte at an index, zero past the end. -/
def byteAt (rx : List Byte) (i : ℕ) : Byte := rx.getD i 0#8

/-- The big-endian word at an index. -/
def wordAt (rx : List Byte) (i : ℕ) : Word := word (byteAt rx i) (byteAt rx (i + 1))

theorem getElem?_eq_byteAt {rx : List Byte} {i : ℕ} (h : i < rx.length) :
    rx[i]? = some (byteAt rx i) := by
  simp [byteAt, h]

theorem byteAt_take {rx : List Byte} {i n : ℕ} (h : i < n) :
    byteAt (rx.take n) i = byteAt rx i := by
  rw [byteAt, byteAt, List.getD_eq_getElem?_getD, List.getD_eq_getElem?_getD,
    List.getElem?_take_of_lt h]

/-! ## Accesses -/

/-- `rx_pdu[i]`. -/
def rxByte (rx : List Byte) (i : ℕ) : PduM σ Byte := orFault rx[i]? (.outOfBounds .rxPdu i)

/-- `((uint16_t)rx_pdu[i] << 8) | rx_pdu[i + 1]`. -/
def rxWord (rx : List Byte) (i : ℕ) : PduM σ Word := do
  let hi ← rxByte rx i
  let lo ← rxByte rx (i + 1)
  pure (word hi lo)

/-- `tx_pdu[i] = b`. -/
def txSet (i : ℕ) (b : Byte) : PduM σ PUnit := do
  let s ← get
  if i < s.tx.length then set { s with tx := s.tx.set i b }
  else throw (.outOfBounds .txPdu i)

/-- Run a program on the static data of the handler. -/
def onEnv (prog : Checked Fault σ α) : PduM σ α :=
  onPart Exchange.env (fun env s => { s with env := env }) prog

/-- `modbus_exception_response`: the two bytes, and their number. -/
def modbusExceptionResponse (functionCode : Byte) (exceptionCode : ExceptionCode) : PduM σ ℕ := do
  txSet 0 (functionCode ||| 0x80)
  txSet 1 exceptionCode.code
  pure 2

/-- A read inside the request gives its byte. -/
theorem yields_rxByte {rx : List Byte} {i : ℕ} {s : Exchange σ}
    {post : Byte → Exchange σ → Prop} (h : i < rx.length) :
    Yields (rxByte rx i) s post ↔ post (byteAt rx i) s := by
  rw [rxByte, yields_orFault, getElem?_eq_byteAt h]
  simp

/-- A read inside the request gives its word. -/
theorem yields_rxWord {rx : List Byte} {i : ℕ} {s : Exchange σ}
    {post : Word → Exchange σ → Prop} (h : i + 1 < rx.length) :
    Yields (rxWord rx i) s post ↔ post (wordAt rx i) s := by
  rw [rxWord, yields_bind, yields_rxByte (by omega), yields_bind, yields_rxByte h, yields_pure]
  rfl

@[simp]
theorem yields_txSet {i : ℕ} {b : Byte} {s : Exchange σ} {post : PUnit → Exchange σ → Prop} :
    Yields (txSet i b) s post ↔ i < s.tx.length ∧ post ⟨⟩ { s with tx := s.tx.set i b } := by
  rw [txSet, yields_bind, yields_get, yields_ite, yields_set, yields_throw]
  split <;> simp_all

@[simp]
theorem yields_onEnv {prog : Checked Fault σ α} {s : Exchange σ}
    {post : α → Exchange σ → Prop} :
    Yields (onEnv prog) s post ↔
      Yields prog s.env fun a env => post a { s with env := env } :=
  yields_onPart

/-! ## What a handler leaves in the response buffer -/

/-- The buffer starts with the bytes `out`, and is the one given from byte 253
on. -/
structure Wrote (given tx out : List Byte) : Prop where
  le : out.length ≤ 253
  length : tx.length = given.length
  take : tx.take out.length = out
  drop : tx.drop 253 = given.drop 253

namespace Wrote

variable {given tx out : List Byte}

theorem refl (tx : List Byte) : Wrote tx tx [] where
  le := by simp
  length := rfl
  take := rfl
  drop := rfl

/-- The response is read back from the buffer. -/
theorem byteAt_eq (h : Wrote given tx out) {i : ℕ} (hi : i < out.length) :
    byteAt tx i = byteAt out i := by
  rw [← byteAt_take hi, h.take]

/-- Writing the next byte extends the response. -/
theorem push (h : Wrote given tx out) (room : 253 ≤ given.length) (b : Byte)
    (hlt : out.length < 253) : Wrote given (tx.set out.length b) (out ++ [b]) where
  le := by
    rw [List.length_append, List.length_singleton]
    omega
  length := by rw [List.length_set, h.length]
  take := by
    have hin : out.length < tx.length := by
      rw [h.length]
      omega
    rw [List.length_append, List.length_singleton, List.take_add_one, List.take_set_of_le (le_refl _),
      h.take, List.getElem?_set_self hin]
    rfl
  drop := by rw [List.drop_set_of_lt hlt, h.drop]

/-- Writing below the end of the response replaces a byte of it. -/
theorem set (h : Wrote given tx out) {i : ℕ} (b : Byte) (hi : i < out.length) :
    Wrote given (tx.set i b) (out.set i b) where
  le := by rw [List.length_set]; exact h.le
  length := by rw [List.length_set, h.length]
  take := by
    rw [List.length_set, List.take_set, h.take]
  drop := by
    have := h.le
    rw [List.drop_set_of_lt (by omega), h.drop]

/-- A response may be read as a shorter one. -/
theorem shorten {rest : List Byte} (h : Wrote given tx (out ++ rest)) : Wrote given tx out where
  le := by
    have := h.le
    rw [List.length_append] at this
    omega
  length := h.length
  take := by
    have := congrArg (List.take out.length) h.take
    rw [List.take_take, List.length_append, Nat.min_eq_left (by omega),
      List.take_left] at this
    exact this
  drop := h.drop

/-- A byte that is not written yet has some value. -/
theorem skip (h : Wrote given tx out) (room : 253 ≤ given.length) (hlt : out.length < 253) :
    ∃ b, Wrote given tx (out ++ [b]) := by
  have hin : out.length < tx.length := by
    rw [h.length]
    omega
  refine ⟨tx[out.length], ?_⟩
  have := h.push room tx[out.length] hlt
  rwa [List.set_getElem_self] at this

end Wrote

/-! ## Loops that fill the response -/

/-- A loop that writes one byte after another extends the response by them. -/
theorem yields_pushBytes {given out : List Byte} {s : Exchange σ} (room : 253 ≤ given.length)
    (h : Wrote given s.tx out) {n base : ℕ} (hbase : base = out.length) (fits : base + n ≤ 253)
    {value : ℕ → PduM σ Byte} {f : ℕ → Byte}
    (hvalue : ∀ i < n, ∀ t : Exchange σ, t.env = s.env →
      Yields (value i) t fun b t' => b = f i ∧ t' = t) :
    Yields (forRange n fun i => do
        let b ← value i
        txSet (base + i) b) s
      fun _ s' => s'.env = s.env ∧ Wrote given s'.tx (out ++ (List.range n).map f) := by
  refine Yields.forRange
    (fun i (t : Exchange σ) => t.env = s.env ∧ Wrote given t.tx (out ++ (List.range i).map f))
    ⟨rfl, by simpa using h⟩ ?_
  rintro i hi t ⟨henv, hwrote⟩
  rw [yields_bind]
  apply (hvalue i hi t henv).mono
  rintro _ _ ⟨rfl, rfl⟩
  have hlength : (out ++ (List.range i).map f).length = base + i := by simp [hbase]
  have hroom := hwrote.length
  have hpushed := hwrote.push room (f i) (by omega)
  rw [hlength, List.append_assoc] at hpushed
  rw [yields_txSet, List.range_succ, List.map_append]
  exact ⟨by omega, henv, hpushed⟩

/-- A loop that writes one word after another, high byte first, extends the
response by them. -/
theorem yields_pushWords {given out : List Byte} {s : Exchange σ} (room : 253 ≤ given.length)
    (h : Wrote given s.tx out) {n base : ℕ} (hbase : base = out.length)
    (fits : base + n * 2 ≤ 253) {value : ℕ → PduM σ Word} {f : ℕ → Word}
    (hvalue : ∀ i < n, ∀ t : Exchange σ, t.env = s.env →
      Yields (value i) t fun w t' => w = f i ∧ t' = t) :
    Yields (forRange n fun i => do
        let w ← value i
        txSet (base + i * 2) (hiByte w)
        txSet (base + i * 2 + 1) (loByte w)) s
      fun _ s' => s'.env = s.env ∧
        Wrote given s'.tx (out ++ bytesOfWords ((List.range n).map f)) := by
  refine Yields.forRange
    (fun i (t : Exchange σ) =>
      t.env = s.env ∧ Wrote given t.tx (out ++ bytesOfWords ((List.range i).map f)))
    ⟨rfl, by simpa using h⟩ ?_
  rintro i hi t ⟨henv, hwrote⟩
  rw [yields_bind]
  apply (hvalue i hi t henv).mono
  rintro _ _ ⟨rfl, rfl⟩
  have hlength : (out ++ bytesOfWords ((List.range i).map f)).length = base + i * 2 := by
    simp [hbase]
    omega
  have hroom := hwrote.length
  have hhi := hwrote.push room (hiByte (f i)) (by omega)
  have hlength' : (out ++ bytesOfWords ((List.range i).map f) ++ [hiByte (f i)]).length =
      base + i * 2 + 1 := by rw [List.length_append, hlength, List.length_singleton]
  have hlo := hhi.push room (loByte (f i)) (by omega)
  rw [hlength', hlength] at hlo
  rw [yields_bind, yields_txSet, yields_txSet, List.length_set, List.range_succ,
    List.map_append, List.map_singleton, bytesOfWords_concat]
  refine ⟨by omega, by omega, henv, ?_⟩
  simpa using hlo

theorem map_getD_range (bytes : List Byte) :
    (List.range bytes.length).map (fun k => bytes.getD k 0) = bytes := by
  apply List.ext_getElem
  · simp
  · intro i _ hright
    simp [hright]

/-- A loop that copies a list of bytes extends the response by it. -/
theorem yields_pushList {given out : List Byte} {s : Exchange σ} (room : 253 ≤ given.length)
    (h : Wrote given s.tx out) (bytes : List Byte) {base : ℕ} (hbase : base = out.length)
    (fits : base + bytes.length ≤ 253) :
    Yields (forRange bytes.length fun k => txSet (base + k) (bytes.getD k 0)) s
      fun _ s' => s'.env = s.env ∧ Wrote given s'.tx (out ++ bytes) := by
  have hloop := yields_pushBytes room h hbase fits (f := fun k => bytes.getD k 0)
    fun k _ t _ => yields_pure.mpr ⟨rfl, rfl⟩
  simpa only [pure_bind, map_getD_range] using hloop

/-! ## Handlers that compute a pure function -/

/-- An exception response. -/
def exceptionPdu (functionCode : Byte) (e : ExceptionCode) : List Byte :=
  [functionCode ||| 0x80, e.code]

theorem msb_or_exceptionBit (b : Byte) : (b ||| 0x80).msb = true := by
  rw [BitVec.msb_or, show (0x80 : Byte).msb = true from rfl, Bool.or_true]

/-- The exception bit as the code tests it. -/
theorem and_exceptionBit_ne_zero (b : Byte) : b &&& 0x80 ≠ 0 ↔ b.msb = true := by
  revert b
  decide +kernel

/-- Started with its function code in the buffer, the handler finishes without a
fault, returns the length of the response, leaves it in the buffer and changes
its static data as the reply says. -/
def Answers (prog : PduM σ ℕ) (env : σ) (functionCode : Byte) (reply : List Byte × σ) : Prop :=
  ∀ given tx, 253 ≤ given.length → Wrote given tx [functionCode] →
    Yields prog ⟨env, tx⟩ fun n s =>
      n = reply.1.length ∧ s.env = reply.2 ∧ Wrote given s.tx reply.1

/-- An exception response replaces whatever a handler has written so far. -/
theorem yields_modbusExceptionResponse {given : List Byte} {s : Exchange σ} {b : Byte}
    {out : List Byte} (room : 253 ≤ given.length) (h : Wrote given s.tx (b :: out))
    (functionCode : Byte) (e : ExceptionCode) :
    Yields (modbusExceptionResponse functionCode e) s fun n s' =>
      n = 2 ∧ s'.env = s.env ∧ Wrote given s'.tx (exceptionPdu functionCode e) := by
  have hset : Wrote given (s.tx.set 0 (functionCode ||| 0x80)) ([functionCode ||| 0x80] ++ out) :=
    h.set (functionCode ||| 0x80) (by simp)
  have hlength : s.tx.length = given.length := h.length
  simp only [modbusExceptionResponse, yields_bind, yields_txSet, yields_pure, List.length_set]
  refine ⟨by omega, by omega, ?_⟩
  simpa [exceptionPdu] using hset.shorten.push room e.code (by simp)

theorem answers_modbusExceptionResponse (env : σ) (functionCode : Byte) (e : ExceptionCode) :
    Answers (modbusExceptionResponse functionCode e) env functionCode
      (exceptionPdu functionCode e, env) := by
  intro given tx room hwrote
  exact yields_modbusExceptionResponse room hwrote functionCode e

end AutomationBoard.Modbus
