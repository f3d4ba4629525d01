/-
# The callers of `canopen_process`

`main.c`: an iteration of the main loop and `master_yield_pump`, as far as they
call the CANopen node. Each hands the node the time since its own last call, so
what the node is told in all is counted twice as soon as both have called it.
-/

import AutomationBoard.Canopen.NodeRun

namespace AutomationBoard.Board

open AutomationBoard.Canopen
open AutomationBoard.Modbus (word)
open AutomationBoard.Program

/-- The node with the two ticks that its callers keep. -/
structure MainLoop (ω : Type) where
  node : System ω
  lastScanTick : Long
  sLastYieldTick : Long

/-- What a scan of the inputs reads. -/
structure ScannedInputs where
  di : Byte
  aiBuf : ℕ → Word

/-- An iteration of the main loop or a call of the pump, with the value of
`sys_tick` that it reads and the frames that `can_driver_receive` returns. -/
inductive LoopEvent
  | iteration (now : Long) (inputs : ScannedInputs) (received : List CanopenFrame)
  | yieldPump (now : Long) (received : List CanopenFrame)

/-- The value of `sys_tick` that is read. -/
def LoopEvent.now : LoopEvent → Long
  | iteration now _ _ => now
  | yieldPump now _ => now

/-! ## The callers -/

section Callers

variable {ω : Type} (app : Application ω)

/-- The frames are handed to `canopen_rx_frame`. -/
def receiveCalls (received : List CanopenFrame) : List NodeInput :=
  received.map fun frame => .rxFrame frame.cobId (some frame.data)

/-- The calls of a scan. -/
def scanCalls (inputs : ScannedInputs) (deltaMs : Long) : List NodeInput :=
  .setDigitalInputs inputs.di ::
    (List.range 4).map (fun i => .setAnalogInput (BitVec.ofNat 8 i) (inputs.aiBuf i)) ++
    [.process deltaMs]

/-- An iteration of the main loop: a scan every 10 ms, then the received frames. -/
def iteration (now : Long) (inputs : ScannedInputs) (received : List CanopenFrame)
    (s : MainLoop ω) : List NodeInput × MainLoop ω :=
  if 10 ≤ (now - s.lastScanTick).toNat then
    let calls := scanCalls inputs (now - s.lastScanTick) ++ receiveCalls received
    (calls, { s with node := (nodeRun app calls s.node).2, lastScanTick := now })
  else
    let calls := receiveCalls received
    (calls, { s with node := (nodeRun app calls s.node).2 })

/-- `master_yield_pump`: the received frames, then the time since the last call. -/
def masterYieldPump (now : Long) (received : List CanopenFrame) (s : MainLoop ω) :
    List NodeInput × MainLoop ω :=
  let delta := now - s.sLastYieldTick
  let calls := receiveCalls received ++ if 0 < delta.toNat then [.process delta] else []
  (calls, { s with node := (nodeRun app calls s.node).2, sLastYieldTick := now })

/-- One event: the calls of the node that it makes, and the state after it. -/
def loopStep : LoopEvent → MainLoop ω → List NodeInput × MainLoop ω
  | .iteration now inputs received => iteration app now inputs received
  | .yieldPump now received => masterYieldPump app now received

/-- The state of the callers at boot. -/
def booted (node : System ω) : MainLoop ω := ⟨node, 0, 0⟩

end Callers

/-! ## The time that is handed over -/

/-- The time that a call hands to the node. -/
def deltaMs : NodeInput → ℕ
  | .process deltaMs => deltaMs.toNat
  | _ => 0

/-- The time that calls hand to the node. -/
def processedMs (calls : List NodeInput) : ℕ := (calls.map deltaMs).sum

@[simp]
theorem processedMs_append (calls calls' : List NodeInput) :
    processedMs (calls ++ calls') = processedMs calls + processedMs calls' := by
  simp [processedMs]

@[simp]
theorem processedMs_receiveCalls (received : List CanopenFrame) :
    processedMs (receiveCalls received) = 0 := by
  induction received with
  | nil => rfl
  | cons frame received ih => exact (Nat.zero_add _).trans ih

@[simp]
theorem processedMs_scanCalls (inputs : ScannedInputs) (delta : Long) :
    processedMs (scanCalls inputs delta) = delta.toNat := by
  simp [processedMs, scanCalls, deltaMs, Function.comp_def]

/-- A state with the time that has been handed over since boot. -/
structure Timed (ω : Type) where
  loop : MainLoop ω
  totalMs : ℕ

/-- One event, observed. -/
def timedStep {ω : Type} (app : Application ω) (event : LoopEvent) (s : Timed ω) :
    List NodeInput × Timed ω :=
  let r := loopStep app event s.loop
  (r.1, ⟨r.2, s.totalMs + processedMs r.1⟩)

/-- No more time has been handed over than has passed since boot. -/
def CountedOnce {ω : Type} (_s : Timed ω) (event : LoopEvent) (_calls : List NodeInput)
    (s' : Timed ω) : Prop := s'.totalMs ≤ event.now.toNat

instance {ω : Type} (s : Timed ω) (event : LoopEvent) (calls : List NodeInput) (s' : Timed ω) :
    Decidable (CountedOnce s event calls s') := inferInstanceAs (Decidable (_ ≤ _))

/-! ## Two callers -/

/-- A scan is due from boot on. -/
def LoopEvent.Scans : LoopEvent → Prop
  | iteration now _ _ => 10 ≤ now.toNat
  | yieldPump _ _ => False

/-- The pump is called once time has passed. -/
def LoopEvent.Pumps : LoopEvent → Prop
  | iteration _ _ _ => False
  | yieldPump now _ => 0 < now.toNat

/-- The ticks are read in order. -/
def Ordered (events : List LoopEvent) : Prop :=
  events.Pairwise fun event event' => event.now.toNat ≤ event'.now.toNat

section Runs

variable {ω : Type} {app : Application ω}

/-- The two ticks account for the time handed over, and are not ahead of a time. -/
structure Ledger (bound : ℕ) (s : Timed ω) : Prop where
  total : s.totalMs = s.loop.lastScanTick.toNat + s.loop.sLastYieldTick.toNat
  scan : s.loop.lastScanTick.toNat ≤ bound
  pump : s.loop.sLastYieldTick.toNat ≤ bound

theorem ledger_booted (node : System ω) : Ledger 0 ⟨booted node, 0⟩ :=
  ⟨rfl, Nat.le_refl 0, Nat.le_refl 0⟩

/-- A difference of ticks that are read in order. -/
theorem toNat_elapsed {last now : Long} (h : last.toNat ≤ now.toNat) :
    (now - last).toNat = now.toNat - last.toNat := BitVec.toNat_sub_of_le h

/-- What an event does to the ticks. -/
theorem timedStep_ticks (app : Application ω) {bound : ℕ} {s : Timed ω} (h : Ledger bound s)
    {event : LoopEvent} (hnow : bound ≤ event.now.toNat) :
    Ledger event.now.toNat (timedStep app event s).2 ∧
      (0 < (timedStep app event s).2.loop.lastScanTick.toNat ↔
        0 < s.loop.lastScanTick.toNat ∨ event.Scans) ∧
      (0 < (timedStep app event s).2.loop.sLastYieldTick.toNat ↔
        0 < s.loop.sLastYieldTick.toNat ∨ event.Pumps) := by
  obtain ⟨htotal, hscan, hpump⟩ := h
  cases event with
  | iteration now inputs received =>
      simp only [LoopEvent.now] at hnow
      have helapsed := toNat_elapsed (hscan.trans hnow)
      simp only [timedStep, loopStep, iteration, LoopEvent.now, LoopEvent.Scans, LoopEvent.Pumps]
      split_ifs with hdue
      · refine ⟨⟨?_, Nat.le_refl _, hpump.trans hnow⟩, ?_, by simp⟩
        · simp only [processedMs_append, processedMs_scanCalls, processedMs_receiveCalls]
          omega
        · simp only
          omega
      · refine ⟨⟨?_, hscan.trans hnow, hpump.trans hnow⟩, ?_, by simp⟩
        · simpa using htotal
        · simp only
          omega
  | yieldPump now received =>
      simp only [LoopEvent.now] at hnow
      have helapsed := toNat_elapsed (hpump.trans hnow)
      simp only [timedStep, loopStep, masterYieldPump, LoopEvent.now, LoopEvent.Scans,
        LoopEvent.Pumps, processedMs_append, processedMs_receiveCalls]
      refine ⟨⟨?_, hscan.trans hnow, Nat.le_refl _⟩, by simp, ?_⟩
      · split_ifs with hpos
        · simp only [processedMs, List.map_cons, List.map_nil, List.sum_cons, List.sum_nil, deltaMs]
          omega
        · simp only [processedMs, List.map_nil, List.sum_nil]
          omega
      · omega

/-- As long as one caller has handed over all the time, an event hands over too
much exactly if both have afterwards. -/
theorem countedOnce_iff (app : Application ω) {bound : ℕ} {s : Timed ω} (h : Ledger bound s)
    (hone : s.loop.lastScanTick.toNat = 0 ∨ s.loop.sLastYieldTick.toNat = 0) {event : LoopEvent}
    (hnow : bound ≤ event.now.toNat) :
    CountedOnce s event (timedStep app event s).1 (timedStep app event s).2 ↔
      (timedStep app event s).2.loop.lastScanTick.toNat = 0 ∨
        (timedStep app event s).2.loop.sLastYieldTick.toNat = 0 := by
  have htotal := (timedStep_ticks app h hnow).1.total
  have hscan := h.scan
  have hpump := h.pump
  rw [CountedOnce, htotal]
  cases event with
  | iteration now inputs received =>
      simp only [LoopEvent.now] at hnow ⊢
      simp only [timedStep, loopStep, iteration]
      split_ifs with hdue
      · simp only
        omega
      · simp only
        omega
  | yieldPump now received =>
      simp only [LoopEvent.now] at hnow ⊢
      simp only [timedStep, loopStep, masterYieldPump]
      omega

/-- A run in order counts the time once exactly if at most one of the callers
hands over time. -/
theorem countedOnce_run_iff (app : Application ω) {events : List LoopEvent}
    (hordered : Ordered events) {bound : ℕ} {s : Timed ω} (h : Ledger bound s)
    (hone : s.loop.lastScanTick.toNat = 0 ∨ s.loop.sLastYieldTick.toNat = 0)
    (hnow : ∀ event ∈ events, bound ≤ event.now.toNat) :
    EveryStep (total (timedStep app)) CountedOnce s events ↔
      ¬ ((0 < s.loop.lastScanTick.toNat ∨ ∃ event ∈ events, event.Scans) ∧
        (0 < s.loop.sLastYieldTick.toNat ∨ ∃ event ∈ events, event.Pumps)) := by
  induction events generalizing s bound with
  | nil =>
      simp only [EveryStep, List.not_mem_nil, false_and, exists_false, or_false, true_iff]
      omega
  | cons event events ih =>
      obtain ⟨hlater, hordered⟩ := List.pairwise_cons.mp hordered
      have hfirst := hnow event List.mem_cons_self
      obtain ⟨hledger, hscans, hpumps⟩ := timedStep_ticks app h hfirst
      have hcounted := countedOnce_iff app h hone hfirst
      simp only [EveryStep, yields_total, List.exists_mem_cons_iff, ← or_assoc, ← hscans, ← hpumps,
        hcounted]
      by_cases hafter : (timedStep app event s).2.loop.lastScanTick.toNat = 0 ∨
          (timedStep app event s).2.loop.sLastYieldTick.toNat = 0
      · rw [ih hordered hledger hafter hlater]
        exact and_iff_right hafter
      · constructor
        · exact fun hrun => absurd hrun.1 hafter
        · rw [not_or] at hafter
          exact fun hnot => absurd ⟨.inl (Nat.pos_of_ne_zero hafter.1),
            .inl (Nat.pos_of_ne_zero hafter.2)⟩ hnot

/-- From boot, the node is told no more time than has passed exactly if no scan is
due or the pump is never called once time has passed. -/
theorem loopRun_countedOnce_iff (app : Application ω) (node : System ω) {events : List LoopEvent}
    (hordered : Ordered events) :
    EveryStep (total (timedStep app)) CountedOnce ⟨booted node, 0⟩ events ↔
      ¬ ((∃ event ∈ events, event.Scans) ∧ ∃ event ∈ events, event.Pumps) := by
  have hrun := countedOnce_run_iff app hordered (ledger_booted node) (.inl rfl)
    fun _ _ => Nat.zero_le _
  have hzero : ¬ 0 < (booted node).lastScanTick.toNat ∧
      ¬ 0 < (booted node).sLastYieldTick.toNat := ⟨Nat.lt_irrefl 0, Nat.lt_irrefl 0⟩
  rwa [or_iff_right hzero.1, or_iff_right hzero.2] at hrun

end Runs

/-- The inputs when nothing is connected. -/
def unconnected : ScannedInputs := ⟨0, fun _ => 0⟩

theorem loopRun_countedOnce_iff_scans :
    EveryStep (total (timedStep weakApplication)) CountedOnce
        ⟨booted (initialised weakApplication 1 none bootDevice), 0⟩
        [.iteration 10 unconnected [], .iteration 25 unconnected []] ↔
      ¬ ((∃ event ∈ [LoopEvent.iteration 10 unconnected [], .iteration 25 unconnected []],
          event.Scans) ∧
        ∃ event ∈ [LoopEvent.iteration 10 unconnected [], .iteration 25 unconnected []],
          event.Pumps) :=
  loopRun_countedOnce_iff weakApplication _ (by simp [Ordered, LoopEvent.now])

/-- A scan at 10 ms and a call of the pump at 12 ms hand over 22 ms. -/
theorem not_loopRun_countedOnce :
    Ordered [.iteration 10 unconnected [], .yieldPump 12 []] ∧
      ¬ EveryStep (total (timedStep weakApplication)) CountedOnce
        ⟨booted (initialised weakApplication 1 none bootDevice), 0⟩
        [.iteration 10 unconnected [], .yieldPump 12 []] := by
  refine ⟨by simp [Ordered, LoopEvent.now], fun hrun => ?_⟩
  have hsecond := (yields_total.mp (yields_total.mp hrun).2).1
  revert hsecond
  decide

end AutomationBoard.Board
