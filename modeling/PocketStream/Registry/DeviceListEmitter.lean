import PocketStream.Foundation.Machine
import PocketStream.Registry.DeviceRegistry

/-! # The emission of the device list

A poke sets a flag, and starts a task when the flag was clear. The task sleeps,
clears the flag, takes a snapshot of the registry and emits it. Mutations, pokes and
tasks run on several threads, so a task can be overtaken anywhere in between.
-/

namespace PocketStream

open Foundation

/-- What the registry holds, and how many mutations led there. -/
structure ListSnapshot where
  version : ℕ
  devices : Devices
  deriving DecidableEq

/-- The emitter with its registry; the pokes that are about to start a task; how many tasks
sleep and how many have cleared the flag; the snapshots that wait for their emission and those
emitted; and the number of mutations before the last poke. -/
structure DeviceListEmitter where
  registry : Devices
  history : List Devices
  dirty : Bool
  spawning : ℕ
  armed : ℕ
  cleared : ℕ
  snapshots : List ListSnapshot
  emitted : List ListSnapshot
  poked : Option ℕ

inductive EmitterCall where
  /-- Any mutation of the registry. -/
  | mutate (devices : Devices)
  | poke
  | spawn
  /-- The sleep of a task is over: it clears the flag. -/
  | fire
  | snapshot
  | emit (snapshot : ListSnapshot)

namespace DeviceListEmitter

def new (registry : Devices) : DeviceListEmitter where
  registry := registry
  history := []
  dirty := false
  spawning := 0
  armed := 0
  cleared := 0
  snapshots := []
  emitted := []
  poked := none

def snapshot (s : DeviceListEmitter) : ListSnapshot := ⟨s.history.length, s.registry⟩

def step (s : DeviceListEmitter) : EmitterCall → Option DeviceListEmitter
  | .mutate devices =>
    some { s with registry := devices, history := s.history ++ [s.registry] }
  | .poke =>
    let s := { s with poked := some s.history.length }
    if s.dirty then some s else some { s with dirty := true, spawning := s.spawning + 1 }
  | .spawn =>
    if 0 < s.spawning then some { s with spawning := s.spawning - 1, armed := s.armed + 1 }
    else none
  | .fire =>
    if 0 < s.armed then
      some { s with dirty := false, armed := s.armed - 1, cleared := s.cleared + 1 }
    else none
  | .snapshot =>
    if 0 < s.cleared then
      some { s with cleared := s.cleared - 1, snapshots := s.snapshot :: s.snapshots }
    else none
  | .emit x =>
    if x ∈ s.snapshots then
      some { s with snapshots := s.snapshots.erase x, emitted := s.emitted ++ [x] }
    else none

def machine (registry : Devices) : Machine DeviceListEmitter EmitterCall := ⟨new registry, step⟩

/-- A task emits while another holds an older snapshot that it has yet to emit. -/
def overtakes (s : DeviceListEmitter) : EmitterCall → Bool
  | .emit x => s.snapshots.any (·.version < x.version)
  | _ => false

/-- No poke or task is under way. -/
def Quiet (s : DeviceListEmitter) : Prop :=
  s.spawning = 0 ∧ s.armed = 0 ∧ s.cleared = 0 ∧ s.snapshots = []

/-- The snapshot shows what the registry held. -/
def Shows (s : DeviceListEmitter) (x : ListSnapshot) : Prop :=
  (s.history ++ [s.registry])[x.version]? = some x.devices

variable {registry : Devices} {s s' : DeviceListEmitter} {call : EmitterCall} {x : ListSnapshot}

theorem Shows.le (h : s.Shows x) : x.version ≤ s.history.length := by
  obtain ⟨hlt, -⟩ := List.getElem?_eq_some_iff.mp h
  simp at hlt
  omega

theorem shows_snapshot : s.Shows s.snapshot := by
  simp [Shows, snapshot]

/-- The flag stands for the one task that sleeps, and whatever was poked is due or on its way. -/
structure Coalesced (s : DeviceListEmitter) : Prop where
  one : s.spawning + s.armed = if s.dirty then 1 else 0
  held : ∀ x ∈ s.snapshots ++ s.emitted, s.Shows x
  poked : ∀ v, s.poked = some v → v ≤ s.history.length
  covered : ∀ v, s.poked = some v →
    s.dirty = true ∨ 0 < s.cleared ∨ ∃ x ∈ s.snapshots ++ s.emitted, v ≤ x.version

theorem Coalesced.initial : Coalesced (new registry) where
  one := rfl
  held := nofun
  poked := nofun
  covered := nofun

theorem Coalesced.mutate (h : Coalesced s) (devices : Devices) :
    Coalesced { s with registry := devices, history := s.history ++ [s.registry] } where
  one := h.one
  held x hx := by
    have hshows := h.held x hx
    have hle := hshows.le
    simp only [Shows] at hshows ⊢
    rw [List.getElem?_append_left (by simp; omega)]
    exact hshows
  poked v hv := by
    have := h.poked v hv
    simp
    omega
  covered := h.covered

theorem Coalesced.step (h : Coalesced s) (hs : s.step call = some s') : Coalesced s' := by
  have hone := h.one
  cases call with
  | mutate devices =>
    obtain rfl := Option.some.inj hs
    exact h.mutate devices
  | poke =>
    simp only [DeviceListEmitter.step] at hs
    split at hs
    · next hdirty =>
      obtain rfl := Option.some.inj hs
      refine ⟨hone, h.held, ?_, fun _ _ => .inl hdirty⟩
      rintro v ⟨⟩
      exact le_rfl
    · next hdirty =>
      obtain rfl := Option.some.inj hs
      refine ⟨?_, h.held, ?_, fun _ _ => .inl rfl⟩
      · simp only [hdirty, Bool.false_eq_true, if_false] at hone
        simp
        omega
      · rintro v ⟨⟩
        exact le_rfl
  | spawn =>
    obtain ⟨hspawning, hs⟩ := Option.ite_none_right_eq_some.mp hs
    obtain rfl := Option.some.inj hs
    refine ⟨?_, h.held, h.poked, h.covered⟩
    simp only
    omega
  | fire =>
    obtain ⟨harmed, hs⟩ := Option.ite_none_right_eq_some.mp hs
    obtain rfl := Option.some.inj hs
    refine ⟨?_, h.held, h.poked, fun _ _ => .inr (.inl (Nat.succ_pos _))⟩
    split at hone
    · simp
      omega
    · omega
  | snapshot =>
    obtain ⟨hcleared, hs⟩ := Option.ite_none_right_eq_some.mp hs
    obtain rfl := Option.some.inj hs
    refine ⟨hone, ?_, h.poked, ?_⟩
    · intro x hx
      obtain rfl | hx := List.mem_cons.mp hx
      · exact shows_snapshot
      · exact h.held x hx
    · intro v hv
      exact .inr (.inr ⟨s.snapshot, by simp, h.poked v hv⟩)
  | emit x =>
    obtain ⟨hx, hs⟩ := Option.ite_none_right_eq_some.mp hs
    obtain rfl := Option.some.inj hs
    have hperm : (s.snapshots.erase x ++ (s.emitted ++ [x])).Perm (s.snapshots ++ s.emitted) := by
      rw [← List.append_assoc]
      exact (List.perm_append_singleton x _).trans
        ((List.perm_cons_erase hx).symm.append_right s.emitted)
    refine ⟨hone, fun y hy => h.held y (hperm.mem_iff.mp hy), h.poked, fun v hv => ?_⟩
    obtain hdirty | hcleared | ⟨y, hy, hle⟩ := h.covered v hv
    · exact .inl hdirty
    · exact .inr (.inl hcleared)
    · exact .inr (.inr ⟨y, hperm.mem_iff.mpr hy, hle⟩)

theorem coalesced_of_reachable (h : (machine registry).Reachable s) : Coalesced s :=
  h.invariant Coalesced.initial fun _ _ _ h hs => h.step hs

/-- Snapshots are emitted in the order of the mutations they show. -/
structure InOrder (s : DeviceListEmitter) : Prop where
  emitted : s.emitted.Pairwise (·.version ≤ ·.version)
  waiting : ∀ x ∈ s.emitted, ∀ y ∈ s.snapshots, x.version ≤ y.version

theorem InOrder.step (h : InOrder s) (hc : Coalesced s) (hin : s.overtakes call = false)
    (hs : s.step call = some s') : InOrder s' := by
  cases call with
  | mutate devices =>
    obtain rfl := Option.some.inj hs
    exact ⟨h.emitted, h.waiting⟩
  | poke =>
    simp only [DeviceListEmitter.step] at hs
    split at hs <;>
    · obtain rfl := Option.some.inj hs
      exact ⟨h.emitted, h.waiting⟩
  | spawn | fire =>
    obtain ⟨-, hs⟩ := Option.ite_none_right_eq_some.mp hs
    obtain rfl := Option.some.inj hs
    exact ⟨h.emitted, h.waiting⟩
  | snapshot =>
    obtain ⟨-, hs⟩ := Option.ite_none_right_eq_some.mp hs
    obtain rfl := Option.some.inj hs
    refine ⟨h.emitted, fun x hx y hy => ?_⟩
    obtain rfl | hy := List.mem_cons.mp hy
    · exact (hc.held x (List.mem_append_right _ hx)).le
    · exact h.waiting x hx y hy
  | emit x =>
    obtain ⟨hx, hs⟩ := Option.ite_none_right_eq_some.mp hs
    obtain rfl := Option.some.inj hs
    constructor
    · rw [List.pairwise_append]
      refine ⟨h.emitted, List.pairwise_singleton _ _, fun y hy z hz => ?_⟩
      rw [List.mem_singleton.mp hz]
      exact h.waiting y hy x hx
    · intro y hy z hz
      have hz := List.mem_of_mem_erase hz
      obtain hy | hy := List.mem_append.mp hy
      · exact h.waiting y hy z hz
      · rw [List.mem_singleton.mp hy]
        simp only [overtakes, List.any_eq_false, decide_eq_true_eq, not_lt] at hin
        exact hin z hz

theorem inOrder_of_reaches
    (h : (machine registry).Reaches (fun s call => s.overtakes call = false) s) : InOrder s :=
  h.invariant (fun _ => coalesced_of_reachable) ⟨.nil, nofun⟩
    fun _ _ _ hc h hin hs => h.step hc hin hs

theorem InOrder.le_last (h : InOrder s) (hx : x ∈ s.emitted) :
    ∃ last, s.emitted.getLast? = some last ∧ last ∈ s.emitted ∧ x.version ≤ last.version := by
  have hne : s.emitted ≠ [] := List.ne_nil_of_mem hx
  have horder := h.emitted
  rw [← List.dropLast_append_getLast hne, List.pairwise_append] at horder
  refine ⟨s.emitted.getLast hne, List.getLast?_eq_some_getLast hne, List.getLast_mem hne, ?_⟩
  rw [← List.dropLast_append_getLast hne, List.mem_append, List.mem_singleton] at hx
  obtain hx | hx := hx
  · exact horder.2.2 x hx _ (List.mem_singleton.mpr rfl)
  · rw [← hx]

/-- At most one timer is armed; and while no task overtakes another, the last emission shows
every mutation before a poke. -/
theorem device_list_emission_loses_nothing (h : (machine registry).Reachable s) :
    s.armed ≤ 1 ∧
    ((machine registry).Reaches (fun s call => s.overtakes call = false) s → s.Quiet →
      ∀ poked, s.poked = some poked →
        ∃ last, s.emitted.getLast? = some last ∧ poked ≤ last.version ∧ s.Shows last) := by
  have hc := coalesced_of_reachable h
  have hone := hc.one
  constructor
  · split at hone <;> omega
  · rintro hin ⟨hspawning, harmed, hcleared, hsnapshots⟩ poked hpoked
    have hclean : s.dirty = false := by
      rw [Bool.eq_false_iff]
      intro hdirty
      simp [hdirty, hspawning, harmed] at hone
    obtain hdirty | hpos | ⟨x, hx, hle⟩ := hc.covered poked hpoked
    · simp [hclean] at hdirty
    · omega
    · rw [hsnapshots, List.nil_append] at hx
      obtain ⟨last, hlast, hmem, hxl⟩ := (inOrder_of_reaches hin).le_last hx
      exact ⟨last, hlast, hle.trans hxl, hc.held last (List.mem_append_right _ hmem)⟩

def camera : Devices :=
  Finmap.singleton "02:00:00:00:00:01"
    { verifiedByMac := none, lastVerifiedAt := none, mac := "02:00:00:00:00:01"
      ip := "192.168.1.10", subnet := "192.168.1.0/24", openPorts := [], aliasName := "CAM"
      status := .cachedOnly, firstSeen := "", lastSeen := "" }

/-- Two bursts, each with a poke that another one absorbs. -/
def burstsRun : List EmitterCall :=
  [.mutate camera, .poke, .spawn, .poke, .fire, .snapshot, .mutate ∅, .poke, .spawn,
    .emit ⟨1, camera⟩, .fire, .poke, .snapshot, .spawn, .emit ⟨2, ∅⟩, .fire, .snapshot,
    .emit ⟨2, ∅⟩]

theorem device_list_emission_bursts :
    ∃ s, (machine ∅).run (new ∅) burstsRun = some s ∧ s.poked = some 2 ∧
      ∃ last, s.emitted.getLast? = some last ∧ 2 ≤ last.version ∧ s.Shows last := by
  have hadmits : (machine ∅).Admits (fun s call => s.overtakes call = false) (new ∅) burstsRun := by
    decide
  have hin := Machine.Reaches.run .initial hadmits rfl
  obtain ⟨-, hlast⟩ := device_list_emission_loses_nothing hin.reachable
  exact ⟨_, rfl, rfl, hlast hin ⟨rfl, rfl, rfl, rfl⟩ 2 rfl⟩

/-- A task that stalls before it emits publishes its old snapshot last. -/
theorem stalled_task_emits_last :
    ∃ s, (machine ∅).run (new ∅)
        [.mutate camera, .poke, .spawn, .fire, .snapshot, .mutate ∅, .poke, .spawn, .fire,
          .snapshot, .emit ⟨2, ∅⟩, .emit ⟨1, camera⟩] = some s ∧
      s.Quiet ∧ s.poked = some 2 ∧ s.registry = ∅ ∧
      s.emitted.getLast? = some ⟨1, camera⟩ ∧ camera ≠ ∅ :=
  ⟨_, rfl, ⟨rfl, rfl, rfl, rfl⟩, rfl, rfl, rfl, by decide⟩

end DeviceListEmitter

end PocketStream
