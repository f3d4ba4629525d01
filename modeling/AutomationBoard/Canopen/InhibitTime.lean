/-
# The inhibit time

Between two transmissions of a TPDO the node waits the inhibit time, apart from
those that a SYNC frame causes. The inhibit counter holds what is left of it.
`canopen_pdo_rx_sync` clears the counter before it knows whether the transmitter
accepts the frame; if it does not, the TPDO is free although no SYNC transmission
of it took place. Where that does not happen the inhibit time is kept.
-/

import AutomationBoard.Canopen.TpdoEngine

namespace AutomationBoard.Canopen

open AutomationBoard.Program

variable {ω : Type} {app : Application ω}

/-! ## What is seen of a TPDO -/

/-- The time that passes in a call. -/
def NodeInput.elapse : NodeInput → List TimelineEvent
  | .process deltaMs => [.elapse deltaMs.toNat]
  | _ => []

/-- The successful transmissions of an identifier in a call, as marks. Those that a
SYNC frame causes are exempt. -/
def transmissions (cobId : ℕ) (input : NodeInput) (calls : List AppCall) : List TimelineEvent :=
  ((results cobId calls).filter (· = 0)).map fun _ => .mark input.isSync

/-- What is seen of a TPDO in a call: time passes, then it may be transmitted. -/
def tpdoEvents (cobId : ℕ) (_s : System ω) (input : NodeInput) (calls : List AppCall) :
    List TimelineEvent :=
  input.elapse ++ transmissions cobId input calls

/-- A SYNC frame that finds the TPDO inhibited is not answered with a refusal of its frame. -/
def SyncAccepted (k : TpdoNumber) (s : System ω) (input : NodeInput) (calls : List AppCall)
    (_s' : System ω) : Prop :=
  input.isSync = true → s.node.nmt.state = .operational →
    0 < (s.node.pdo.tpdo k).inhibitCounterMs.toNat →
    ∀ ret ∈ results (s.node.pdo.tpdo k).cobId calls, ret = 0

instance (k : TpdoNumber) (s : System ω) (input : NodeInput) (calls : List AppCall)
    (s' : System ω) : Decidable (SyncAccepted k s input calls s') :=
  inferInstanceAs (Decidable (_ → _ → _ → _))

/-! ## One call -/

/-- Cooling down takes the time off the inhibit counter. -/
theorem inhibit_cooledDown (tpdo : TpdoState) (deltaMs : Long) :
    (tpdo.cooledDown deltaMs).inhibitCounterMs.toNat =
      tpdo.inhibitCounterMs.toNat - deltaMs.toNat := by
  unfold TpdoState.cooledDown
  split_ifs with hinhibited hover
  · exact (Nat.sub_eq_zero_of_le hover).symm
  · exact toNat_sub_setWidth (Nat.not_le.mp hover)
  · omega

/-- What is left of the inhibit time and the time since the last transmission make it up. -/
def Spacing (k : TpdoNumber) (s : System ω) (since : Option ℕ) : Prop :=
  ∀ ms, since = some ms →
    (s.node.pdo.tpdo k).inhibitTimerMs.toNat ≤ ms + (s.node.pdo.tpdo k).inhibitCounterMs.toNat

/-- The observer permits what a call transmits, and the call keeps the spacing. -/
structure SpacingKept (app : Application ω) (k : TpdoNumber) (input : NodeInput) (s : System ω)
    (since : Option ℕ) : Prop where
  permitted : AllPermitted (s.node.pdo.tpdo k).inhibitTimerMs.toNat since
    (tpdoEvents (s.node.pdo.tpdo k).cobId s input (nodeStep app input s).1)
  next : Spacing k (nodeStep app input s).2
    ((tpdoEvents (s.node.pdo.tpdo k).cobId s input (nodeStep app input s).1).foldl sinceMark since)

section Call

variable {k : TpdoNumber} {input : NodeInput} {s : System ω} {nodeId : Byte} {od : CanopenOd}

/-- A TPDO that is offered is not inhibited. -/
theorem answer_eq_some {ret : ℤ} (h : answer app k input s = some ret) :
    (preparedTpdo k input s.node).inhibitCounterMs.toNat = 0 := by
  by_contra hinhibited
  have hnone : answer app k input s = none := if_pos (Nat.pos_of_ne_zero hinhibited)
  rw [hnone] at h
  cases h

/-- A TPDO that is offered in vain is inhibited. -/
theorem answer_eq_none (h : answer app k input s = none) :
    0 < (preparedTpdo k input s.node).inhibitCounterMs.toNat := by
  by_contra hfree
  rw [answer, offer, if_neg hfree] at h
  cases h

theorem inhibitTimerMs_preparedTpdo (k : TpdoNumber) (input : NodeInput) (node : CanopenNode) :
    (preparedTpdo k input node).inhibitTimerMs = (node.pdo.tpdo k).inhibitTimerMs := by
  cases input with
  | process deltaMs =>
      exact congrArg TpdoConfig.inhibitTimerMs ((node.pdo.tpdo k).config_cooledDown deltaMs)
  | _ =>
      rw [preparedTpdo_eq node fun _ heq => by cases heq]
      split_ifs <;> rfl

/-- A SYNC frame leaves no TPDO inhibited. -/
theorem preparedTpdo_sync (hsync : input.isSync = true)
    (hop : s.node.nmt.state = .operational) :
    preparedTpdo k input s.node = (s.node.pdo.tpdo k).released := by
  have hprocess : ∀ deltaMs, input ≠ .process deltaMs := by
    rintro deltaMs rfl
    cases hsync
  rw [preparedTpdo_eq s.node hprocess,
    if_pos ⟨hsync, CanopenNode.isOperational_eq_true.mpr hop⟩]

/-- A call that does not release the TPDO prepares it in agreement with the time. -/
theorem Spacing.prepared {since : Option ℕ} (h : Spacing k s since)
    (hrelease : ¬ (input.isSync = true ∧ s.node.nmt.state = .operational)) {ms : ℕ}
    (hms : input.elapse.foldl sinceMark since = some ms) :
    (s.node.pdo.tpdo k).inhibitTimerMs.toNat ≤
      ms + (preparedTpdo k input s.node).inhibitCounterMs.toNat := by
  by_cases hprocess : ∃ deltaMs, input = .process deltaMs
  · obtain ⟨deltaMs, rfl⟩ := hprocess
    obtain ⟨ms', hms', hsum⟩ := Option.map_eq_some_iff.mp hms
    have hle := h ms' hms'
    have hcooled := inhibit_cooledDown (s.node.pdo.tpdo k) deltaMs
    rw [preparedTpdo, hcooled]
    omega
  · rw [not_exists] at hprocess
    have hnot : ¬ (input.isSync = true ∧ s.node.isOperational = true) := fun hboth =>
      hrelease ⟨hboth.1, CanopenNode.isOperational_eq_true.mp hboth.2⟩
    have helapse : input.elapse = [] := by
      cases input with
      | process deltaMs => exact absurd rfl (hprocess deltaMs)
      | _ => rfl
    rw [helapse] at hms
    rw [preparedTpdo_eq s.node hprocess, if_neg hnot]
    exact h ms hms

/-- Time may always pass. -/
theorem allPermitted_elapse {gap : ℕ} {since : Option ℕ} (input : NodeInput) :
    AllPermitted gap since input.elapse := by
  cases input with
  | process deltaMs => exact ⟨trivial, trivial⟩
  | _ => trivial

/-- A SYNC frame takes no time. -/
theorem elapse_sync (hsync : input.isSync = true) : input.elapse = [] := by
  cases input with
  | process deltaMs => cases hsync
  | _ => rfl

/-- A SYNC frame comes to offer the TPDO in the operational state. -/
theorem offers_sync (hsync : input.isSync = true) (hop : s.node.nmt.state = .operational) :
    Offers k input s.node := by
  cases input with
  | process deltaMs => cases hsync
  | _ => exact ⟨hop, .inl hsync⟩

/-- The settings of a node include those of its TPDOs. -/
theorem tpdo_config_eq (k : TpdoNumber) {node node' : CanopenNode}
    (h : node'.config = node.config) :
    (node'.pdo.tpdo k).cobId = (node.pdo.tpdo k).cobId ∧
      (node'.pdo.tpdo k).inhibitTimerMs = (node.pdo.tpdo k).inhibitTimerMs := by
  cases k with
  | one => exact ⟨congrArg (·.pdo.tpdo1.cobId) h, congrArg (·.pdo.tpdo1.inhibitTimerMs) h⟩
  | two => exact ⟨congrArg (·.pdo.tpdo2.cobId) h, congrArg (·.pdo.tpdo2.inhibitTimerMs) h⟩

theorem inhibitTimerMs_nodeStep (app : Application ω) (k : TpdoNumber) (input : NodeInput)
    (s : System ω) :
    ((nodeStep app input s).2.node.pdo.tpdo k).inhibitTimerMs =
      (s.node.pdo.tpdo k).inhibitTimerMs :=
  (tpdo_config_eq k (config_nodeStep app input s)).2

/-- A call keeps the spacing when it transmits nothing and leaves of the inhibit
time what makes up the time since. -/
theorem spacingKept_of_unsent {since : Option ℕ}
    (hresults : ∀ ret ∈ results (s.node.pdo.tpdo k).cobId (nodeStep app input s).1, ret ≠ 0)
    (hleft : ∀ ms, input.elapse.foldl sinceMark since = some ms →
      (s.node.pdo.tpdo k).inhibitTimerMs.toNat ≤
        ms + ((nodeStep app input s).2.node.pdo.tpdo k).inhibitCounterMs.toNat) :
    SpacingKept app k input s since := by
  have hnone : transmissions (s.node.pdo.tpdo k).cobId input (nodeStep app input s).1 = [] := by
    rw [transmissions, List.map_eq_nil_iff, List.filter_eq_nil_iff]
    exact fun ret hret hzero => hresults ret hret (of_decide_eq_true hzero)
  constructor
  · rw [tpdoEvents, hnone, List.append_nil]
    exact allPermitted_elapse input
  · rw [tpdoEvents, hnone, List.append_nil]
    intro ms hms
    rw [inhibitTimerMs_nodeStep]
    exact hleft ms hms

/-- A call that does not release the TPDO and does not offer its frame. -/
theorem Spacing.unoffered {since : Option ℕ} (h : Spacing k s since)
    (hrelease : ¬ (input.isSync = true ∧ s.node.nmt.state = .operational))
    (hresults : results (s.node.pdo.tpdo k).cobId (nodeStep app input s).1 = [])
    (hcounter : ((nodeStep app input s).2.node.pdo.tpdo k).inhibitCounterMs =
      (preparedTpdo k input s.node).inhibitCounterMs) :
    SpacingKept app k input s since := by
  apply spacingKept_of_unsent
  · rw [hresults]
    exact fun ret hret => absurd hret List.not_mem_nil
  · intro ms hms
    rw [hcounter]
    exact h.prepared hrelease hms

/-- A transmission that the observer permits starts the time again, or makes it forget. -/
theorem spacingKept_of_sent {since : Option ℕ}
    (hresults : results (s.node.pdo.tpdo k).cobId (nodeStep app input s).1 = [0])
    (hcounter : ((nodeStep app input s).2.node.pdo.tpdo k).inhibitCounterMs =
      (s.node.pdo.tpdo k).inhibitTimerMs)
    (hpassed : input.isSync = false → ∀ ms, input.elapse.foldl sinceMark since = some ms →
      (s.node.pdo.tpdo k).inhibitTimerMs.toNat ≤ ms) :
    SpacingKept app k input s since := by
  have hmark : transmissions (s.node.pdo.tpdo k).cobId input (nodeStep app input s).1 =
      [.mark input.isSync] := by
    rw [transmissions, hresults]
    rfl
  constructor
  · rw [tpdoEvents, hmark, allPermitted_append]
    refine ⟨allPermitted_elapse input, ?_, trivial⟩
    cases hsync : input.isSync with
    | true => trivial
    | false => exact hpassed hsync
  · rw [tpdoEvents, hmark, List.foldl_append]
    intro ms hms
    rw [inhibitTimerMs_nodeStep, hcounter]
    exact Nat.le_add_left _ _

/-- What a call of a node does to the spacing of a TPDO. -/
theorem spacing_nodeStep (app : Application ω) (h : s.node.Configured nodeId od) {since : Option ℕ}
    (hspacing : Spacing k s since)
    (hsync : SyncAccepted k s input (nodeStep app input s).1 (nodeStep app input s).2) :
    SpacingKept app k input s since := by
  have hspec := tpdoSpec_nodeStep app h k input
  by_cases hoffers : Offers k input s.node
  · obtain ⟨hresults, hcounter⟩ := hspec.sent hoffers
    cases hanswer : answer app k input s.unrecorded with
    | none =>
        rw [hanswer] at hresults hcounter
        have hinhibited : 0 < (preparedTpdo k input s.node).inhibitCounterMs.toNat :=
          answer_eq_none (s := s.unrecorded) hanswer
        have hrelease : ¬ (input.isSync = true ∧ s.node.nmt.state = .operational) := by
          rintro ⟨hsync, hop⟩
          rw [preparedTpdo_sync hsync hop] at hinhibited
          exact absurd hinhibited (Nat.lt_irrefl 0)
        exact hspacing.unoffered hrelease hresults hcounter
    | some ret =>
        rw [hanswer] at hresults hcounter
        have hone : results (s.node.pdo.tpdo k).cobId (nodeStep app input s).1 = [ret] := hresults
        have hfree : (preparedTpdo k input s.node).inhibitCounterMs.toNat = 0 :=
          answer_eq_some (s := s.unrecorded) hanswer
        by_cases hret : ret = 0
        · subst hret
          apply spacingKept_of_sent hone
          · rw [hcounter]
            exact inhibitTimerMs_preparedTpdo k input s.node
          · intro hnot ms hms
            have hleft := hspacing.prepared (fun hboth => by simp [hnot] at hboth) hms
            rwa [hfree] at hleft
        · have hrefused : ¬ some ret = some 0 := fun heq => hret (Option.some.inj heq)
          rw [TpdoState.offered, if_neg hrefused] at hcounter
          apply spacingKept_of_unsent
          · rw [hone]
            intro ret' hmem
            rwa [List.mem_singleton.mp hmem]
          · intro ms hms
            rw [hcounter]
            by_cases hboth : input.isSync = true ∧ s.node.nmt.state = .operational
            · -- The counter that the frame cleared was at zero already.
              have hcleared : ¬ 0 < (s.node.pdo.tpdo k).inhibitCounterMs.toNat := fun hleft =>
                hret (hsync hboth.1 hboth.2 hleft ret (by rw [hone]; exact List.mem_singleton_self _))
              rw [elapse_sync hboth.1] at hms
              have hleft := hspacing ms hms
              omega
            · exact hspacing.prepared hboth hms
  · obtain ⟨hresults, hcounter⟩ := hspec.quiet hoffers
    have hrelease : ¬ (input.isSync = true ∧ s.node.nmt.state = .operational) :=
      fun hboth => hoffers (offers_sync hboth.1 hboth.2)
    exact hspacing.unoffered hrelease hresults hcounter

end Call

/-! ## Runs -/

/-- In every run of a node the inhibit time is kept, if no SYNC frame that finds the
TPDO inhibited is answered with a refusal of its frame. -/
theorem nodeRun_spaced (app : Application ω) {nodeId : Byte} {od : Option CanopenOd}
    {dev : Device ω} {s : System ω} (hinit : canopenInit app nodeId od dev = some s)
    (k : TpdoNumber) {inputs : List NodeInput}
    (hsync : EveryStep (total (nodeStep app)) (SyncAccepted k) s inputs) :
    Spaced (s.node.pdo.tpdo k).inhibitTimerMs.toNat
      (seen (nodeStep app) (tpdoEvents (s.node.pdo.tpdo k).cobId) s inputs) := by
  have hconfigured := configured_initialised hinit
  have hpermitted : AllPermitted (s.node.pdo.tpdo k).inhibitTimerMs.toNat none
      (seen (nodeStep app) (tpdoEvents (s.node.pdo.tpdo k).cobId) s inputs) := by
    apply allPermitted_seen (Q := SyncAccepted k)
      (R := fun s' since => s'.node.config = s.node.config ∧ Spacing k s' since)
    · rintro s' since input ⟨hconfig, hspacing⟩ hsync
      obtain ⟨hcob, hgap⟩ := tpdo_config_eq k hconfig
      obtain ⟨hpermitted, hnext⟩ := spacing_nodeStep app (hconfigured.of_config_eq hconfig)
        hspacing hsync
      rw [hcob] at hpermitted hnext
      rw [hgap] at hpermitted
      exact ⟨hpermitted, (config_nodeStep app input s').trans hconfig, hnext⟩
    · exact ⟨rfl, fun ms hms => by cases hms⟩
    · exact hsync
  exact spaced_of_allPermitted hpermitted

theorem nodeRun_spaced_trigger :
    Spaced 100 (seen (nodeStep weakApplication) (tpdoEvents 0x181)
      (initialised weakApplication 1 none bootDevice)
      [.setNmtState .operational, .triggerTpdo1, .rxFrame cobSync (some []), .process 100,
        .triggerTpdo1]) :=
  nodeRun_spaced weakApplication
    (show canopenInit weakApplication 1 none bootDevice = some _ from rfl) .one (by decide)

/-- A transmitter that refuses the third frame. -/
def refusingApplication : Application ℕ where
  txFunc := fun _ n => (if n = 2 then -1 else 0, n + 1)
  appSyncInputs := fun n => (⟨none, fun _ => none⟩, n)
  appSyncOutputs := fun _ n => n
  postWriteCb := none

/-- A SYNC frame whose TPDO1 is refused lifts the inhibit time. -/
theorem not_nodeRun_spaced :
    ¬ Spaced 100 (seen (nodeStep refusingApplication) (tpdoEvents 0x181)
      (initialised refusingApplication 1 none ⟨bootMem, 0, []⟩)
      [.setNmtState .operational, .triggerTpdo1, .rxFrame cobSync (some []), .triggerTpdo1]) := by
  intro hspaced
  have hgap := hspaced [] [] [] rfl List.not_mem_nil
  revert hgap
  decide

end AutomationBoard.Canopen
