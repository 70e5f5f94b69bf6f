import PocketStream.Streaming.RelayTrack

/-! # Who owns the relay

The part of the relay state that says which generation is wanted, which
listeners are alive and who may change them, what holds of it between any two
steps, and what an operation may rely on while the others move. A listener
outside the slot belongs to whoever holds the lifecycle gate, and a recovery to
the supervisor.
-/

namespace PocketStream

/-- What the ownership of the relay depends on. -/
structure RelayView where
  epoch : UInt64
  generation : UInt64
  desired : Bool
  health : Option ℕ
  stored : Option Listener
  hands : List Listener
  lifecycle : Option ℕ
  healths : ℕ → RelayHealth
  nextHealth : ℕ
  eventsTaken : Bool
  lease : Option UInt64
  track : RelayTrack

def TrackedRelay.view (s : TrackedRelay) : RelayView where
  epoch := s.shared.epoch
  generation := s.shared.generation
  desired := s.shared.data.restreamDesired
  health := s.shared.data.restreamHealth
  stored := s.shared.data.restreamServer
  hands := s.shared.hands
  lifecycle := s.shared.lifecycle
  healths := s.shared.healths
  nextHealth := s.shared.nextHealth
  eventsTaken := s.shared.eventsTaken
  lease := s.shared.data.slot.firewallGeneration.map (·.1)
  track := s.track

namespace RelayView

variable (v : RelayView) (t : ℕ)

def alive : List Listener := v.stored.toList ++ v.hands

def generationOf (health : ℕ) : UInt64 := (v.healths health).serverGeneration

def healthGeneration : Option UInt64 := v.health.map v.generationOf

/-- While the generation is the current one, a stored listener is its own. -/
def Cleared (generation : UInt64) : Prop :=
  ∀ l, v.stored = some l → v.healthGeneration = some generation → l.generation = generation

/-- What holds between any two steps of any run. -/
structure Owned : Prop where
  epoch : v.epoch.toNat = v.track.claims
  generation : v.generation.toNat = v.nextHealth
  generations : ∀ h < v.nextHealth, (v.generationOf h).toNat = h + 1
  idle : v.desired = false → v.health = none
  health : ∀ h, v.health = some h → h < v.nextHealth
  lease : ∀ g, v.lease = some g → g.toNat ≤ v.nextHealth
  listeners : ∀ l ∈ v.alive, l.health < v.nextHealth ∧ l.generation = v.generationOf l.health
  single : v.hands = [] ∨ v.stored = none ∧ ∃ l, v.hands = [l]
  held : v.hands ≠ [] → v.lifecycle ≠ none
  storedBy : v.track.storedBy ≤ v.track.claims
  uncleared : ∀ l h, v.stored = some l → v.health = some h → l.health ≠ h →
    (v.healths h).Pristine
  recovering : ∀ e g, v.track.recovering = some (e, g) → g.toNat ≤ v.nextHealth ∧ v.Cleared g
  supervised : v.eventsTaken = false → v.track.supervisor = none
  claimed : ∀ t k, v.track.claimOf t = some k → k ≤ v.track.claims
  claimant : ∀ t u k, v.track.claimOf t = some k → v.track.claimOf u = some k →
    v.track.supervisor ≠ some t → v.track.supervisor ≠ some u → t = u

/-- The newest intent of the operation is the one with the epoch. -/
def Intends (epoch : UInt64) : Prop := v.track.claimOf t = some epoch.toNat

/-- The operation has published its start, which stands until a newer intent is claimed. -/
def Starts (epoch : UInt64) : Prop :=
  v.track.supervisor ≠ some t ∧ v.Intends t epoch ∧
    (v.track.claims = epoch.toNat → v.desired = true)

/-- The health record is the one of the generation. -/
def Installed (generation : UInt64) (health : ℕ) : Prop :=
  health < v.nextHealth ∧ v.generationOf health = generation

/-- The operation has the lifecycle gate and no listener in its hands. -/
def Holding : Prop := v.lifecycle = some t ∧ v.hands = []

/-- The operation has the lifecycle gate and the only listener in its hands. -/
def Carrying (l : Listener) : Prop := v.lifecycle = some t ∧ v.hands = [l] ∧ v.stored = none

/-- The supervisor recovers the generation under the epoch. -/
def Recovers (epoch generation : UInt64) : Prop :=
  v.track.supervisor = some t ∧ v.track.recovering = some (epoch, generation) ∧ v.Intends t epoch

/-- A generation that is not current and never will be again; its listener, if it is still
stored, was stored under one of the first `k` intents. -/
def Dead (generation : UInt64) (k : ℕ) : Prop :=
  generation.toNat ≤ v.nextHealth ∧ v.healthGeneration ≠ some generation ∧
    ∀ l, v.stored = some l → l.generation = generation → v.track.storedBy ≤ k

/-- While the health record is the current one, a stored listener reports to it. -/
def Attends (health : ℕ) : Prop := ∀ l, v.stored = some l → v.health = some health → l.health = health

/-- What operation `u` may rely on while another moves. -/
structure Rely (u : ℕ) (v v' : RelayView) : Prop where
  claims : v.track.claims ≤ v'.track.claims
  claimOf : v'.track.claimOf u = v.track.claimOf u
  newest : v.track.supervisor ≠ some u → v.track.claimOf u = some v.track.claims →
    v'.track.claims = v.track.claims → v.desired = true → v'.desired = true
  installed : v.nextHealth ≤ v'.nextHealth
  generations : ∀ h < v.nextHealth, v'.generationOf h = v.generationOf h
  dead : ∀ g k, v.Dead g k → v'.Dead g k
  gate : v'.lifecycle = some u ↔ v.lifecycle = some u
  held : v.lifecycle = some u → v'.stored = v.stored ∧ v'.hands = v.hands ∧
    v'.track.storedBy = v.track.storedBy ∧ v'.track.builtFor = v.track.builtFor
  supervisor : v'.track.supervisor = some u ↔ v.track.supervisor = some u
  recovering : v.track.supervisor = some u → v'.track.recovering = v.track.recovering

theorem Rely.refl (u : ℕ) : Rely u v v where
  claims := Nat.le_refl _
  claimOf := rfl
  newest _ _ _ h := h
  installed := Nat.le_refl _
  generations _ _ := rfl
  dead _ _ h := h
  gate := Iff.rfl
  held _ := ⟨rfl, rfl, rfl, rfl⟩
  supervisor := Iff.rfl
  recovering _ := rfl

variable {v t} {v' : RelayView} {e g : UInt64} {h : ℕ} {l : Listener}

/-! ### What the invariant implies -/

namespace Owned

theorem mem_of_stored (_ : v.Owned) (hl : v.stored = some l) : l ∈ v.alive :=
  List.mem_append_left _ (by simp [hl])

theorem eq_of_generation (hv : v.Owned) {h h' : ℕ} (hh : h < v.nextHealth) (hh' : h' < v.nextHealth)
    (hg : v.generationOf h = v.generationOf h') : h = h' := by
  have h1 := hv.generations h hh
  have h2 := hv.generations h' hh'
  rw [hg] at h1
  omega

/-- A stored listener of the current generation reports to the current health record. -/
theorem reports (hv : v.Owned) (hl : l ∈ v.alive) (hh : v.health = some h)
    (hg : v.healthGeneration = some l.generation) : l.health = h := by
  obtain ⟨hlt, hlg⟩ := hv.listeners l hl
  simp only [healthGeneration, hh, Option.map_some, Option.some.injEq] at hg
  exact hv.eq_of_generation hlt (hv.health h hh) (hlg.symm.trans hg.symm)

theorem attends (hv : v.Owned) (hc : v.Cleared g) (hi : v.Installed g h) : v.Attends h := by
  intro l hl hh
  have hg : v.healthGeneration = some g := by
    rw [healthGeneration, hh, Option.map_some, hi.2]
  exact hv.reports (hv.mem_of_stored hl) hh (by rw [hg, hc l hl hg])

theorem healthGeneration_le (hv : v.Owned) (hg : v.healthGeneration = some g) :
    g.toNat ≤ v.nextHealth := by
  obtain ⟨h, hh, rfl⟩ := Option.map_eq_some_iff.mp hg
  have := hv.generations h (hv.health h hh)
  have := hv.health h hh
  omega

theorem stored_generation_le (hv : v.Owned) (hl : v.stored = some l) :
    l.generation.toNat ≤ v.nextHealth := by
  obtain ⟨hlt, hlg⟩ := hv.listeners l (hv.mem_of_stored hl)
  have := hv.generations l.health hlt
  rw [hlg]
  omega

/-- A stored listener is the only one that is alive. -/
theorem only_stored {l' : Listener} (hv : v.Owned) (hs : v.stored = some l) (hl : l' ∈ v.alive) :
    l' = l := by
  rcases hv.single with hh | ⟨hn, -⟩
  · simpa [alive, hs, hh] using hl
  · rw [hs] at hn
    cases hn

theorem hands_of_free (hv : v.Owned) (hf : v.lifecycle = none) : v.hands = [] :=
  by_contra fun hne => hv.held hne hf

/-- A health record that was touched since its installation is the stored listener's. -/
theorem cleared_of_touched (hv : v.Owned) (hh : v.health = some h) (hg : v.generationOf h = g)
    (ht : ¬ (v.healths h).Pristine) : v.Cleared g := by
  intro l hl _
  have heq : l.health = h := by_contra fun hne => ht (hv.uncleared l h hl hh hne)
  rw [(hv.listeners l (hv.mem_of_stored hl)).2, heq, hg]

end Owned

/-! ### What an operation keeps while others move -/

section Kept

variable (t) in
/-- The moves of others keep the assertion. -/
def Kept (A : RelayView → Prop) : Prop := ∀ v v', v.Owned → Rely t v v' → A v → A v'

variable {A B : RelayView → Prop}

theorem Kept.and (hA : Kept t A) (hB : Kept t B) : Kept t fun v => A v ∧ B v :=
  fun v v' hv hr h => ⟨hA v v' hv hr h.1, hB v v' hv hr h.2⟩

theorem Kept.or (hA : Kept t A) (hB : Kept t B) : Kept t fun v => A v ∨ B v :=
  fun v v' hv hr h => h.imp (hA v v' hv hr) (hB v v' hv hr)

theorem Kept.const (φ : Prop) : Kept t fun _ => φ := fun _ _ _ _ h => h

theorem Kept.imp {φ : Prop} (hA : φ → Kept t A) : Kept t fun v => φ → A v :=
  fun v v' hv hr h hφ => hA hφ v v' hv hr (h hφ)

theorem Kept.all {α : Type} {A : α → RelayView → Prop} (hA : ∀ a, Kept t (A a)) :
    Kept t fun v => ∀ a, A a v :=
  fun v v' hv hr h a => hA a v v' hv hr (h a)

theorem kept_intends : Kept t fun v => v.Intends t e := fun _ _ _ hr h => hr.claimOf.trans h

theorem kept_command : Kept t fun v => v.track.supervisor ≠ some t :=
  fun _ _ _ hr h hs => h (hr.supervisor.mp hs)

theorem kept_starts : Kept t fun v => v.Starts t e := fun v v' hv hr ⟨hs, hi, hd⟩ => by
  refine ⟨fun h => hs (hr.supervisor.mp h), hr.claimOf.trans hi, fun hc => ?_⟩
  have hle := hv.claimed t _ hi
  have hle' := hr.claims
  have heq : v.track.claims = e.toNat := by omega
  exact hr.newest hs (hi.trans (congrArg some heq.symm)) (hc.trans heq.symm) (hd heq)

theorem kept_installed : Kept t fun v => v.Installed g h := fun _ _ _ hr hi =>
  ⟨Nat.lt_of_lt_of_le hi.1 hr.installed, (hr.generations _ hi.1).trans hi.2⟩

theorem kept_gate : Kept t fun v => v.lifecycle = some t := fun _ _ _ hr hl => hr.gate.mpr hl

theorem kept_holding : Kept t fun v => v.Holding t := fun _ _ _ hr hh =>
  ⟨hr.gate.mpr hh.1, (hr.held hh.1).2.1.trans hh.2⟩

theorem kept_carrying : Kept t fun v => v.Carrying t l := fun _ _ _ hr hh =>
  ⟨hr.gate.mpr hh.1, (hr.held hh.1).2.1.trans hh.2.1, (hr.held hh.1).1.trans hh.2.2⟩

theorem kept_stored {P : Option Listener → ℕ → Prop} :
    Kept t fun v => v.lifecycle = some t ∧ P v.stored v.track.storedBy := fun _ _ _ hr hh => by
  obtain ⟨hs, -, hb, -⟩ := hr.held hh.1
  exact ⟨hr.gate.mpr hh.1, by rw [hs, hb]; exact hh.2⟩

theorem kept_built {b : Option (UInt64 × UInt64)} :
    Kept t fun v => v.lifecycle = some t ∧ v.track.builtFor = b := fun _ _ _ hr hh =>
  ⟨hr.gate.mpr hh.1, (hr.held hh.1).2.2.2.trans hh.2⟩

theorem kept_supervisor : Kept t fun v => v.track.supervisor = some t :=
  fun _ _ _ hr h => hr.supervisor.mpr h

theorem kept_recovers : Kept t fun v => v.Recovers t e g := fun _ _ _ hr h =>
  ⟨hr.supervisor.mpr h.1, (hr.recovering h.1).trans h.2.1, hr.claimOf.trans h.2.2⟩

theorem kept_dead {k : ℕ} : Kept t fun v => v.Dead g k := fun _ _ _ hr h => hr.dead _ _ h

end Kept

end RelayView

end PocketStream
