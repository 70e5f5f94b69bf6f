import PocketStream.Network.Fence

/-! # A stale fence stays stale

The three gates under every sequence of pauses, sessions and adapter changes,
with the guarded writes between them. Each operation is a list of steps on one
gate, so what holds of a gate holds of the fences taken from it.
-/

namespace PocketStream

open Foundation

/-- The gates with the pause guards that are alive, and the data that writes change. -/
structure NetworkState where
  discovery : Gate
  address : Gate
  guards : List ℕ
  nextGuard : ℕ
  presence : Control
  data : NetworkData

inductive NetworkOp where
  | pauseAddresses
  /-- The drop of a pause guard. -/
  | endPause (guard : ℕ)
  | startDiscovery
  | stopDiscovery
  | update (selection : AdapterSelection) (mode : NetworkMode) (now : ℕ)
  | updateNative (selection : AdapterSelection) (mode : NetworkMode) (read : Control.NativeRead)
      (now : ℕ)
  | observeLink (seen : AdapterSelection) (revision : UInt64) (read : Control.NativeRead)
      (now : ℕ)
  | bootstrap
  | stopPresence
  | write (w : FencedWrite)
  /-- Work that no fence guards. -/
  | other (change : NetworkData → NetworkData)

namespace NetworkState

/-- The state of a new manager. -/
def start (mode : NetworkMode) (data : NetworkData) : NetworkState where
  discovery := ⟨0, false⟩
  address := ⟨1, true⟩
  guards := []
  nextGuard := 0
  presence := .start mode
  data := data

def gate (σ : NetworkState) : FenceSource → Gate
  | .discovery => σ.discovery
  | .address => σ.address
  | .presence => σ.presence.gate

/-- `sweep_fence`, `address_fence` and the fence of a presence snapshot. -/
def fence (σ : NetworkState) (source : FenceSource) : SweepFence :=
  ⟨source, (σ.gate source).generation⟩

def isStale (σ : NetworkState) (fence : SweepFence) : Bool :=
  !(σ.gate fence.source).valid fence.generation

section Steps

variable {N : Type} (net : IpNetwork N) (parseRfc3339 : String → Option ℤ)

def step (σ : NetworkState) : NetworkOp → NetworkState
  | .pauseAddresses =>
    { σ with
      address := σ.address.step (.enter false)
      guards := σ.nextGuard :: σ.guards
      nextGuard := σ.nextGuard + 1 }
  | .endPause guard =>
    if guard ∈ σ.guards then
      { σ with address := σ.address.step (.enter true), guards := σ.guards.erase guard }
    else σ
  | .startDiscovery => { σ with discovery := σ.discovery.step (.enter true) }
  | .stopDiscovery => { σ with discovery := σ.discovery.step .close }
  | .update selection mode now => { σ with presence := σ.presence.update selection mode now }
  | .updateNative selection mode read now =>
    { σ with presence := σ.presence.updateNative selection mode read now }
  | .observeLink seen revision read now =>
    { σ with presence := σ.presence.observeLink seen revision read now }
  | .bootstrap => { σ with presence := σ.presence.bootstrap }
  | .stopPresence => { σ with presence := σ.presence.stop }
  | .write w => { σ with data := w.apply net parseRfc3339 σ.isStale σ.data }
  | .other change => { σ with data := change σ.data }

def run (σ : NetworkState) (ops : List NetworkOp) : NetworkState :=
  ops.foldl (step net parseRfc3339) σ

end Steps

end NetworkState

namespace Control

/-- What an update does to the epoch. -/
def updateSteps (c : Control) (selection : AdapterSelection) (mode : NetworkMode) :
    List GateStep :=
  if c.state.retires selection mode then [.bump] else []

theorem gate_update {c : Control} {selection : AdapterSelection} {mode : NetworkMode} {now : ℕ} :
    (c.update selection mode now).gate = c.gate.run (c.updateSteps selection mode) := by
  unfold update updateLocked updateSteps
  cases hretires : c.state.retires selection mode with
  | true => simp [PresenceState.changed, hretires, Gate.run]
  | false => cases hchanged : c.state.changed selection mode <;> simp [Gate.run]

def updateNativeSteps (c : Control) (selection : AdapterSelection) (mode : NetworkMode)
    (read : NativeRead) : List GateStep :=
  match selection.selectedMac with
  | none => c.updateSteps selection mode
  | some mac =>
    let (index, isUp) := (read mac).getD (0, false)
    c.updateSteps (selection.observed index isUp) mode

theorem gate_updateNative {c : Control} {selection : AdapterSelection} {mode : NetworkMode}
    {read : NativeRead} {now : ℕ} :
    (c.updateNative selection mode read now).gate =
      c.gate.run (c.updateNativeSteps selection mode read) := by
  unfold updateNative updateNativeSteps
  cases selection.selectedMac <;> exact gate_update

def observeLinkSteps (c : Control) (seen : AdapterSelection) (revision : UInt64)
    (read : NativeRead) : List GateStep :=
  match seen.selectedMac with
  | none => []
  | some mac =>
    let (index, isUp) := (read mac).getD (0, false)
    if c.state.revision ≠ revision then []
    else c.updateSteps (seen.observed index isUp) c.state.mode

theorem gate_observeLink {c : Control} {seen : AdapterSelection} {revision : UInt64}
    {read : NativeRead} {now : ℕ} :
    (c.observeLink seen revision read now).gate =
      c.gate.run (c.observeLinkSteps seen revision read) := by
  unfold observeLink observeLinkSteps
  cases seen.selectedMac with
  | none => rfl
  | some mac =>
    by_cases hrevision : c.state.revision = revision
    · simp only [hrevision, ne_eq, not_true, if_false]
      exact gate_update
    · simp [hrevision, Gate.run]

end Control

namespace NetworkState

/-- The steps of an operation on the gate of a source. -/
def gateSteps (σ : NetworkState) (source : FenceSource) : NetworkOp → List GateStep
  | .pauseAddresses => if source = .address then [.enter false] else []
  | .endPause guard => if source = .address ∧ guard ∈ σ.guards then [.enter true] else []
  | .startDiscovery => if source = .discovery then [.enter true] else []
  | .stopDiscovery => if source = .discovery then [.close] else []
  | .update selection mode _ =>
    if source = .presence then σ.presence.updateSteps selection mode else []
  | .updateNative selection mode read _ =>
    if source = .presence then σ.presence.updateNativeSteps selection mode read else []
  | .observeLink seen revision read _ =>
    if source = .presence then σ.presence.observeLinkSteps seen revision read else []
  | .stopPresence => if source = .presence then [.close] else []
  | .bootstrap | .write _ | .other _ => []

section Runs

variable {N : Type} {net : IpNetwork N} {parseRfc3339 : String → Option ℤ}
  {σ : NetworkState} {source : FenceSource} {before after ops : List NetworkOp}

theorem gate_step {op : NetworkOp} :
    (σ.step net parseRfc3339 op).gate source = (σ.gate source).run (σ.gateSteps source op) := by
  cases op with
  | pauseAddresses => cases source <;> rfl
  | startDiscovery => cases source <;> rfl
  | stopDiscovery => cases source <;> rfl
  | bootstrap => cases source <;> rfl
  | stopPresence => cases source <;> rfl
  | write w => cases source <;> rfl
  | other change => cases source <;> rfl
  | endPause guard =>
    by_cases hguard : guard ∈ σ.guards <;> cases source <;>
      simp [step, gateSteps, gate, hguard, Gate.run]
  | update selection mode now =>
    cases source with
    | presence => exact Control.gate_update
    | discovery => rfl
    | address => rfl
  | updateNative selection mode read now =>
    cases source with
    | presence => exact Control.gate_updateNative
    | discovery => rfl
    | address => rfl
  | observeLink seen revision read now =>
    cases source with
    | presence => exact Control.gate_observeLink
    | discovery => rfl
    | address => rfl

variable (net parseRfc3339) in
/-- The steps of a run on the gate of a source. -/
def trace (σ : NetworkState) (source : FenceSource) : List NetworkOp → List GateStep
  | [] => []
  | op :: ops => σ.gateSteps source op ++ trace (σ.step net parseRfc3339 op) source ops

theorem gate_run :
    (σ.run net parseRfc3339 ops).gate source =
      (σ.gate source).run (σ.trace net parseRfc3339 source ops) := by
  induction ops generalizing σ with
  | nil => rfl
  | cons op ops ih =>
    have hop : (σ.step net parseRfc3339 op).gate source =
        (σ.gate source).run (σ.gateSteps source op) := gate_step
    rw [trace, Gate.run_append, ← hop]
    exact ih

theorem trace_append :
    σ.trace net parseRfc3339 source (before ++ after) =
      σ.trace net parseRfc3339 source before ++
        (σ.run net parseRfc3339 before).trace net parseRfc3339 source after := by
  induction before generalizing σ with
  | nil => rfl
  | cons op before ih =>
    rw [List.cons_append, trace, ih, trace, List.append_assoc]
    rfl

/-- How often a run advances the generation of a source. -/
def advances (net : IpNetwork N) (parseRfc3339 : String → Option ℤ) (σ : NetworkState)
    (source : FenceSource) (ops : List NetworkOp) : ℕ :=
  Gate.advances (σ.trace net parseRfc3339 source ops)

theorem isStale_fence {σ' : NetworkState} :
    σ'.isStale (σ.fence source) = !(σ'.gate source).valid (σ.gate source).generation := rfl

theorem stale_forever (hn : σ.advances net parseRfc3339 source (before ++ after) < 2 ^ 64)
    (h : (σ.run net parseRfc3339 before).isStale (σ.fence source) = true) :
    (σ.run net parseRfc3339 (before ++ after)).isStale (σ.fence source) = true := by
  rw [isStale_fence, gate_run, Bool.not_eq_true'] at h ⊢
  rw [advances, trace_append] at hn
  rw [trace_append]
  exact Gate.void_forever hn h

theorem stale_after_pause
    (hn : σ.advances net parseRfc3339 .address (before ++ .pauseAddresses :: after) < 2 ^ 64) :
    (σ.run net parseRfc3339 (before ++ .pauseAddresses :: after)).isStale
      (σ.fence .address) = true := by
  rw [isStale_fence, gate_run, Bool.not_eq_true']
  refine Gate.void_of_advance ?_ hn
  rw [trace_append, Gate.advances_append]
  exact Nat.lt_of_lt_of_le (Nat.succ_pos _) (Nat.le_add_left _ _)

theorem data_write_stale {w : FencedWrite} {fence : SweepFence} (hmem : fence ∈ w.guards)
    (h : σ.isStale fence = true) : (σ.step net parseRfc3339 (.write w)).data = σ.data :=
  FencedWrite.apply_stale net parseRfc3339 hmem h

/-- A stale fence stays stale, an address fence goes stale with the next pause, and a write
with a stale fence changes nothing, while no generation has come round again. -/
theorem stale_fence_permanent (net : IpNetwork N) (parseRfc3339 : String → Option ℤ)
    (σ : NetworkState) :
    (∀ source before after, σ.advances net parseRfc3339 source (before ++ after) < 2 ^ 64 →
      (σ.run net parseRfc3339 before).isStale (σ.fence source) = true →
      (σ.run net parseRfc3339 (before ++ after)).isStale (σ.fence source) = true) ∧
    (∀ before after,
      σ.advances net parseRfc3339 .address (before ++ .pauseAddresses :: after) < 2 ^ 64 →
      (σ.run net parseRfc3339 (before ++ .pauseAddresses :: after)).isStale
        (σ.fence .address) = true) ∧
    ∀ w : FencedWrite, ∀ fence ∈ w.guards, σ.isStale fence = true →
      (σ.step net parseRfc3339 (.write w)).data = σ.data := by
  refine ⟨?_, ?_, ?_⟩
  · intro source before after hn h
    exact stale_forever hn h
  · intro before after hn
    exact stale_after_pause hn
  · intro w fence hmem h
    exact data_write_stale hmem h

end Runs

section Example

/-- A manager in its first session. -/
def firstSession : NetworkState :=
  { start .staticAuto ⟨{}, {}, ⟨.fresh "", .fresh ""⟩, []⟩ with discovery := ⟨1, true⟩ }

/-- A capture fence over a stop and a restart, an address fence over a pause, and a scan result
that comes in after the stop. -/
theorem stale_fence_permanent_restart :
    (firstSession.run .cidr (fun _ => none) ([.stopDiscovery] ++ [.startDiscovery])).isStale
      (firstSession.fence .discovery) = true ∧
    (firstSession.run .cidr (fun _ => none)
      ([.bootstrap] ++ .pauseAddresses :: [.endPause 0])).isStale
        (firstSession.fence .address) = true ∧
    ((firstSession.run .cidr (fun _ => none) [.stopDiscovery]).step .cidr (fun _ => none)
      (.write (.mergeScanResult "" [80] ⟨.discovery, 1⟩))).data =
        (firstSession.run .cidr (fun _ => none) [.stopDiscovery]).data := by
  have hfence := stale_fence_permanent .cidr (fun _ => none) firstSession
  have hwrite := stale_fence_permanent .cidr (fun _ => none)
    (firstSession.run .cidr (fun _ => none) [.stopDiscovery])
  refine ⟨hfence.1 .discovery _ _ (by decide +kernel) (by decide +kernel), ?_, ?_⟩
  · exact hfence.2.1 _ _ (by decide +kernel)
  · exact hwrite.2.2 _ _ (List.mem_singleton_self _) (by decide +kernel)

/-- Sessions that start and stop. -/
def restarts : ℕ → List NetworkOp
  | 0 => []
  | n + 1 => .startDiscovery :: .stopDiscovery :: restarts n

theorem discovery_restarts {N : Type} {net : IpNetwork N} {parseRfc3339 : String → Option ℤ}
    {n : ℕ} {σ : NetworkState} (h : σ.discovery.active = false) :
    (σ.run net parseRfc3339 (restarts n)).discovery =
      ⟨σ.discovery.generation + UInt64.ofNat n, false⟩ := by
  induction n generalizing σ with
  | zero =>
    cases hd : σ.discovery
    rw [hd] at h
    simp_all [restarts, run]
  | succ n ih =>
    rw [← Gate.add_succ_ofNat]
    exact ih rfl

theorem discovery_round {N : Type} {net : IpNetwork N} {parseRfc3339 : String → Option ℤ} {n : ℕ}
    {σ : NetworkState} (hn : n + 1 = 2 ^ 64) :
    (σ.run net parseRfc3339 ([.stopDiscovery] ++ (restarts n ++ [.startDiscovery]))).discovery =
      ⟨σ.discovery.generation, true⟩ := by
  rw [run, List.foldl_append, List.foldl_append]
  let τ := σ.run net parseRfc3339 [.stopDiscovery]
  have hstopped : (τ.run net parseRfc3339 (restarts n)).discovery =
      ⟨τ.discovery.generation + UInt64.ofNat n, false⟩ := discovery_restarts rfl
  have hstart : ∀ τ : NetworkState, (τ.run net parseRfc3339 [.startDiscovery]).discovery =
      ⟨τ.discovery.generation + 1, true⟩ := fun τ => rfl
  refine (hstart _).trans ?_
  have hgeneration := congrArg Gate.generation hstopped
  have hwrap : UInt64.ofNat n + 1 = 0 := by
    rw [show (1 : UInt64) = UInt64.ofNat 1 from rfl, ← UInt64.ofNat_add, hn]
    rfl
  refine congrArg (Gate.mk · true) ((congrArg (· + 1) hgeneration).trans ?_)
  rw [UInt64.add_assoc, hwrap, UInt64.add_zero]
  rfl

/-- After 2^64 sessions the generation of the first one is the current one. -/
theorem wrapped_generation_revives_fence :
    ¬ ∀ before after : List NetworkOp,
      (firstSession.run .cidr (fun _ => none) before).isStale
        (firstSession.fence .discovery) = true →
      (firstSession.run .cidr (fun _ => none) (before ++ after)).isStale
        (firstSession.fence .discovery) = true := by
  intro h
  obtain ⟨n, hn⟩ : ∃ n, n + 1 = 2 ^ 64 := ⟨2 ^ 64 - 1, Nat.sub_add_cancel Nat.one_le_two_pow⟩
  have hstale := h [.stopDiscovery] (restarts n ++ [.startDiscovery]) rfl
  rw [isStale_fence, gate, discovery_round hn] at hstale
  cases hstale

end Example

end NetworkState

end PocketStream
