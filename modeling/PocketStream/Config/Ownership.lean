import PocketStream.Config.Bindings
import PocketStream.Config.Store

/-! # Ownership of persistent bindings

The exported address of a subnet and its ownership row live in two maps. Every
operation of the binding owner keeps the first map inside the second, and none
turns a removed row back into a present one.
-/

namespace PocketStream

open Foundation

namespace AppSettings

/-- No exported subnet has a removed row. -/
def Undetached (s : AppSettings) : Prop :=
  ∀ subnet ∈ s.adoptedSubnets, ∀ row, s.adoptedMeta.lookup subnet = some row → row.desired = .present

/-- Exported subnets are those whose present row owns an address, or more. -/
structure Owned (s : AppSettings) : Prop where
  covered : ∀ subnet ∈ s.adoptedSubnets, ∃ row,
    s.adoptedMeta.lookup subnet = some row ∧ row.desired = .present
  routed : ∀ subnet row, s.adoptedMeta.lookup subnet = some row → row.desired = .present →
    row.address.isSome → subnet ∈ s.adoptedSubnets

theorem Owned.undetached {s : AppSettings} (h : s.Owned) : s.Undetached := by
  intro subnet hs row hrow
  obtain ⟨row', hrow', hd⟩ := h.covered subnet hs
  obtain rfl := Option.some.inj (hrow.symm.trans hrow')
  exact hd

theorem present_of_ne {d : BindingDesired} (h : d ≠ .removed) : d = .present := by
  cases d
  · rfl
  · exact absurd rfl h

theorem mem_adopted_iff {s : AppSettings} {subnet : String} :
    subnet ∈ s.adoptedSubnets ↔ (s.adoptedSubnets.lookup subnet).isSome = true := by
  rw [Finmap.lookup_isSome]

theorem lookup_align (s : AppSettings) (now subnet : String) :
    (s.align now).adoptedMeta.lookup subnet = match s.adoptedSubnets.lookup subnet with
      | none => (s.adoptedMeta.lookup subnet).filter fun row => row.desired == .removed
      | some address => some (alignRow subnet address now (s.adoptedMeta.lookup subnet)) :=
  lookup_alignAdoptedMeta s.adoptedSubnets s.adoptedMeta now subnet

/-- Loading aligns the two maps, unless the file exports a removed row. -/
theorem Undetached.align {s : AppSettings} (h : s.Undetached) (now : String) :
    (s.align now).Owned where
  covered subnet hs := by
    obtain ⟨address, ha⟩ := Finmap.mem_iff.mp hs
    change s.adoptedSubnets.lookup subnet = some address at ha
    refine ⟨alignRow subnet address now (s.adoptedMeta.lookup subnet),
      by rw [lookup_align, ha], ?_⟩
    cases hrow : s.adoptedMeta.lookup subnet with
    | none => rfl
    | some row => exact h subnet hs row hrow
  routed subnet row hrow hd _ := by
    rw [lookup_align] at hrow
    cases ha : s.adoptedSubnets.lookup subnet with
    | none =>
      rw [ha] at hrow
      have := (Option.filter_eq_some_iff.mp hrow).2
      rw [hd] at this
      cases this
    | some address => exact Finmap.mem_iff.mpr ⟨address, ha⟩

/-- An operation on one key of the two maps. -/
theorem Owned.update {s : AppSettings} (h : s.Owned) {next : AppSettings} {subnet : String}
    (hsubnets : ∀ k, k ≠ subnet → next.adoptedSubnets.lookup k = s.adoptedSubnets.lookup k)
    (hmeta : ∀ k, k ≠ subnet → next.adoptedMeta.lookup k = s.adoptedMeta.lookup k)
    (hcovered : subnet ∈ next.adoptedSubnets → ∃ row,
      next.adoptedMeta.lookup subnet = some row ∧ row.desired = .present)
    (hrouted : ∀ row, next.adoptedMeta.lookup subnet = some row → row.desired = .present →
      row.address.isSome → subnet ∈ next.adoptedSubnets) : next.Owned where
  covered k hk := by
    by_cases he : k = subnet
    · exact he ▸ hcovered (he ▸ hk)
    · rw [hmeta k he]
      exact h.covered k (by rwa [mem_adopted_iff, ← hsubnets k he, ← mem_adopted_iff])
  routed k row hrow hd ha := by
    by_cases he : k = subnet
    · subst he
      exact hrouted row hrow hd ha
    · rw [mem_adopted_iff, hsubnets k he, ← mem_adopted_iff]
      exact h.routed k row (hmeta k he ▸ hrow) hd ha

/-- The exported address of a subnet once `row` is saved for it. -/
def exportedAfter (row : AdoptedMeta) (before : Option String) : Option String :=
  match row.desired with
  | .removed => none
  | .present => before.or row.address

theorem lookup_removeAdoptionEntry (s : AppSettings) (subnet k : String) :
    (removeAdoptionEntry s subnet).adoptedSubnets.lookup k =
        (if k = subnet then none else s.adoptedSubnets.lookup k) ∧
      (k ≠ subnet → (removeAdoptionEntry s subnet).adoptedMeta.lookup k =
        s.adoptedMeta.lookup k) := by
  unfold removeAdoptionEntry
  split
  · next ha hm =>
    refine ⟨?_, fun _ => rfl⟩
    split
    · next hk => rw [hk, ha]
    · rfl
  · refine ⟨FiniteMap.lookup_erase _ _ _, fun hk => ?_⟩
    exact (FiniteMap.lookup_insert _ _ _ _).trans (if_neg hk)

theorem lookup_exportBinding (subnet : String) (row : AdoptedMeta) (s : AppSettings) (k : String) :
    (s.exportBinding subnet row).adoptedSubnets.lookup k =
        (if k = subnet then exportedAfter row (s.adoptedSubnets.lookup subnet)
          else s.adoptedSubnets.lookup k) ∧
      (k ≠ subnet → (s.exportBinding subnet row).adoptedMeta.lookup k =
        s.adoptedMeta.lookup k) := by
  unfold exportBinding exportedAfter
  cases row.desired with
  | removed => exact lookup_removeAdoptionEntry s subnet k
  | present =>
    cases row.address with
    | none =>
      refine ⟨?_, fun _ => rfl⟩
      change s.adoptedSubnets.lookup k = if k = subnet then Option.or _ none else _
      rw [Option.or_none]
      split
      · next hk => rw [hk]
      · rfl
    | some address =>
      refine ⟨(FiniteMap.lookup_insert _ _ _ _).trans ?_, fun _ => rfl⟩
      cases s.adoptedSubnets.lookup subnet <;> rfl

/-- What saving a binding does to its subnet; every other subnet stays. -/
theorem setBinding_spec {subnet : String} {row : AdoptedMeta} {forceIntent changed : Bool}
    {s next : AppSettings}
    (h : setBindingForOperation subnet row forceIntent s = .ok ((), changed, next)) :
    (changed = false ∧ s.adoptedMeta.lookup subnet = some row) ∨
    changed = true ∧
    (row.desired = .present → ∀ r, s.adoptedMeta.lookup subnet = some r → r.desired = .present) ∧
    (∀ k, next.adoptedSubnets.lookup k = if k = subnet then
      exportedAfter row (s.adoptedSubnets.lookup subnet) else s.adoptedSubnets.lookup k) ∧
    ∀ k, next.adoptedMeta.lookup k = if k = subnet then some row else s.adoptedMeta.lookup k := by
  unfold setBindingForOperation at h
  dsimp only at h
  split at h
  · next hsame =>
    cases h
    exact .inl ⟨rfl, by simp_all⟩
  · split at h
    · cases h
    · next hkept =>
      cases h
      refine .inr ⟨rfl, fun hd r hr => ?_, fun k => (lookup_exportBinding subnet row s k).1,
        fun k => ?_⟩
      · rw [not_and, hr] at hkept
        exact present_of_ne (by simpa using hkept hd)
      · refine (FiniteMap.lookup_insert _ _ _ _).trans ?_
        split
        · rfl
        · next hk => exact (lookup_exportBinding subnet row s k).2 hk

theorem exportedAfter_isSome {row : AdoptedMeta} {before : Option String}
    (h : (exportedAfter row before).isSome = true) : row.desired = .present := by
  unfold exportedAfter at h
  split at h
  · cases h
  · assumption

theorem Owned.setBinding {s next : AppSettings} (h : s.Owned) {subnet : String}
    {row : AdoptedMeta} {forceIntent : Bool}
    (hs : setBindingForOperation subnet row forceIntent s = .ok ((), true, next)) :
    next.Owned := by
  obtain ⟨hf, -⟩ | ⟨-, -, hsubnets, hmeta⟩ := setBinding_spec hs
  · cases hf
  · have hmem : subnet ∈ next.adoptedSubnets ↔
        (exportedAfter row (s.adoptedSubnets.lookup subnet)).isSome = true := by
      rw [mem_adopted_iff, hsubnets, if_pos rfl]
    refine h.update (fun k hk => by rw [hsubnets, if_neg hk])
      (fun k hk => by rw [hmeta, if_neg hk]) (fun hin => ?_) fun r hr hd ha => ?_
    · exact ⟨row, by rw [hmeta, if_pos rfl], exportedAfter_isSome (hmem.mp hin)⟩
    · obtain rfl : row = r := Option.some.inj (by rw [← hr, hmeta, if_pos rfl])
      rw [hmem, exportedAfter, hd]
      cases s.adoptedSubnets.lookup subnet <;> simp [ha]

theorem Owned.forgetUnowned {s next : AppSettings} (h : s.Owned) {subnet : String}
    {expected : AdoptedMeta} (hs : forgetUnownedBinding subnet expected s = .ok ((), next)) :
    next.Owned := by
  unfold forgetUnownedBinding at hs
  split at hs
  · cases hs
  · cases hs
    exact h.update (fun _ hk => Finmap.lookup_erase_ne hk) (fun _ hk => Finmap.lookup_erase_ne hk)
      (fun hin => absurd hin Finmap.notMem_erase_self) fun r hr => by simp at hr

theorem Owned.forgetCompleted {s next : AppSettings} (h : s.Owned) {subnet : String}
    {expected : AdoptedMeta} (hs : forgetCompletedRemoval subnet expected s = .ok ((), next)) :
    next.Owned := by
  unfold forgetCompletedRemoval at hs
  dsimp only at hs
  split at hs
  · cases hs
  · next hguard =>
    cases hs
    simp only [not_or] at hguard
    refine h.update (fun _ _ => rfl) (fun _ hk => Finmap.lookup_erase_ne hk) (fun hin => ?_)
      fun r hr => by simp at hr
    exact absurd (mem_adopted_iff.mp hin) hguard.2.2.1

theorem Owned.claim {s next : AppSettings} (h : s.Owned) {address : String}
    (hs : claimBinding address s = .ok ((), next)) : next.Owned := by
  cases hs
  constructor
  · intro k hk
    rw [mem_adopted_iff, FiniteMap.lookup_retain, Option.isSome_filter, Option.any_eq_true] at hk
    obtain ⟨a, ha, hkeep⟩ := hk
    obtain ⟨row, hrow, hd⟩ := h.covered k (Finmap.mem_iff.mpr ⟨a, ha⟩)
    exact ⟨row, by simp only [FiniteMap.lookup_retain, hrow] at hkeep ⊢; simpa using hkeep, hd⟩
  · intro k row hrow hd ha
    rw [FiniteMap.lookup_retain, Option.filter_eq_some_iff] at hrow
    rw [mem_adopted_iff, FiniteMap.lookup_retain, Option.isSome_filter, Option.any_eq_true]
    obtain ⟨a, hk⟩ := Finmap.mem_iff.mp (h.routed k row hrow.1 hd ha)
    exact ⟨a, hk, hrow.2⟩

theorem liveness_row {s next : AppSettings} {incoming : FiniteMap String AdoptedMeta}
    (hs : updateAdoptionLiveness incoming s = .ok ((), next)) (subnet : String) (row' : AdoptedMeta)
    (hrow' : next.adoptedMeta.lookup subnet = some row') :
    ∃ row, s.adoptedMeta.lookup subnet = some row ∧ row'.desired = row.desired ∧
      row'.address = row.address := by
  cases hs
  rw [FiniteMap.lookup_mapValues, Option.map_eq_some_iff] at hrow'
  obtain ⟨row, hrow, rfl⟩ := hrow'
  refine ⟨row, hrow, ?_⟩
  split
  · exact ⟨rfl, rfl⟩
  · split <;> exact ⟨rfl, rfl⟩

end AppSettings

/-- The operations of the binding owner, and a restart. -/
inductive BindingOp where
  | reserveTemporary (row : PendingAddress)
  | forgetTemporary (row : PendingAddress)
  | setBinding (subnet : String) (row : AdoptedMeta)
  | setBindingIntent (subnet : String) (row : AdoptedMeta)
  | forgetUnowned (subnet : String) (expected : AdoptedMeta)
  | forgetCompletedRemoval (subnet : String) (expected : AdoptedMeta)
  | claim (address : String)
  | liveness (incoming : FiniteMap String AdoptedMeta)
  | reload (now : String)

/-- The operations that delete the row of a subnet. -/
def BindingOp.retires (subnet : String) : BindingOp → Prop
  | forgetUnowned subnet' _ => subnet' = subnet
  | forgetCompletedRemoval subnet' _ => subnet' = subnet
  | claim _ => True
  | _ => False

namespace Store

open AppSettings

/-- A program start on a settings file. -/
def load (file : AppSettings) (now : String) : Store := ⟨file.align now, file⟩

def apply (w : Store) (op : BindingOp) (saved : Fallible Unit) : Fallible Unit × Store :=
  match op with
  | .reserveTemporary row => w.change (reserveTemporary row) saved
  | .forgetTemporary row => w.change (forgetTemporary row) saved
  | .setBinding subnet row => w.changeIf (setBindingForOperation subnet row false) saved
  | .setBindingIntent subnet row => w.changeIf (setBindingForOperation subnet row true) saved
  | .forgetUnowned subnet expected => w.change (forgetUnownedBinding subnet expected) saved
  | .forgetCompletedRemoval subnet expected =>
    w.change (AppSettings.forgetCompletedRemoval subnet expected) saved
  | .claim address => w.change (claimBinding address) saved
  | .liveness incoming => w.change (updateAdoptionLiveness incoming) saved
  | .reload now => (.ok (), load w.disk now)

def run (w : Store) (ops : List (BindingOp × Fallible Unit)) : Store :=
  ops.foldl (fun w op => (w.apply op.1 op.2).2) w

def RemovedIn (s : AppSettings) (subnet : String) : Prop :=
  ∃ row, s.adoptedMeta.lookup subnet = some row ∧ row.desired = .removed

/-- Memory is owned, the file exports no removed row, and no removal is in memory only. -/
structure Owned (w : Store) : Prop where
  memory : w.memory.Owned
  disk : w.disk.Undetached
  kept : ∀ subnet, RemovedIn w.memory subnet → RemovedIn w.disk subnet

theorem removedIn_align {s : AppSettings} {now subnet : String} :
    RemovedIn (s.align now) subnet ↔ RemovedIn s subnet := by
  unfold RemovedIn
  rw [lookup_align]
  cases ha : s.adoptedSubnets.lookup subnet with
  | none =>
    constructor
    · rintro ⟨row, hrow, hd⟩
      exact ⟨row, (Option.filter_eq_some_iff.mp hrow).1, hd⟩
    · rintro ⟨row, hrow, hd⟩
      exact ⟨row, Option.filter_eq_some_iff.mpr ⟨hrow, by simp [hd]⟩, hd⟩
  | some address =>
    cases hrow : s.adoptedMeta.lookup subnet <;> simp [alignRow]

theorem owned_load {file : AppSettings} (h : file.Undetached) (now : String) :
    (load file now).Owned :=
  ⟨h.align now, h, fun _ => removedIn_align.mp⟩

theorem owned_saved {next : AppSettings} (h : next.Owned) : Owned ⟨next, next⟩ :=
  ⟨h, h.undetached, fun _ => id⟩

theorem Owned.changeIf {w : Store} (h : w.Owned)
    {f : AppSettings → Fallible (Unit × Bool × AppSettings)} (saved : Fallible Unit)
    (hf : ∀ next, f w.memory = .ok ((), true, next) → next.Owned) :
    (w.changeIf f saved).2.Owned := by
  rcases w.changeIf_cases f saved with ⟨_, he⟩ | ⟨_, _, _, he⟩ | ⟨_, next, hc, _, he⟩ <;> rw [he]
  · exact h
  · exact h
  · exact owned_saved (hf next hc)

theorem Owned.change {w : Store} (h : w.Owned) {f : AppSettings → Fallible (Unit × AppSettings)}
    (saved : Fallible Unit) (hf : ∀ next, f w.memory = .ok ((), next) → next.Owned) :
    (w.change f saved).2.Owned := by
  rcases w.change_cases f saved with ⟨_, he⟩ | ⟨_, next, hc, _, he⟩ <;> rw [he]
  · exact h
  · exact owned_saved (hf next hc)

theorem reserveTemporary_maps {row : PendingAddress} {s next : AppSettings}
    (h : AppSettings.reserveTemporary row s = .ok ((), next)) :
    next.adoptedSubnets = s.adoptedSubnets ∧ next.adoptedMeta = s.adoptedMeta := by
  unfold AppSettings.reserveTemporary at h
  dsimp only at h
  split at h <;> cases h
  exact ⟨rfl, rfl⟩

theorem owned_of_maps {s next : AppSettings} (h : s.Owned)
    (he : next.adoptedSubnets = s.adoptedSubnets ∧ next.adoptedMeta = s.adoptedMeta) :
    next.Owned where
  covered := by
    rw [he.1, he.2]
    exact h.covered
  routed := by
    rw [he.1, he.2]
    exact h.routed

theorem owned_liveness {s next : AppSettings} (h : s.Owned)
    {incoming : FiniteMap String AdoptedMeta}
    (hs : updateAdoptionLiveness incoming s = .ok ((), next)) : next.Owned := by
  have hsubnets : next.adoptedSubnets = s.adoptedSubnets := by cases hs; rfl
  constructor
  · intro k hk
    rw [hsubnets] at hk
    obtain ⟨row, hrow, hd⟩ := h.covered k hk
    obtain ⟨row', hrow'⟩ : ∃ row', next.adoptedMeta.lookup k = some row' := by
      cases hs
      exact ⟨_, by rw [FiniteMap.lookup_mapValues, hrow, Option.map_some]⟩
    obtain ⟨r, hr, hd', -⟩ := liveness_row hs k row' hrow'
    obtain rfl := Option.some.inj (hrow.symm.trans hr)
    exact ⟨row', hrow', hd'.trans hd⟩
  · intro k row' hrow' hd ha
    obtain ⟨row, hrow, hd', ha'⟩ := liveness_row hs k row' hrow'
    rw [hsubnets]
    exact h.routed k row hrow (hd' ▸ hd) (ha' ▸ ha)

theorem Owned.apply {w : Store} (h : w.Owned) (op : BindingOp) (saved : Fallible Unit) :
    (w.apply op saved).2.Owned := by
  cases op with
  | reserveTemporary row =>
    exact h.change saved fun _ hc => owned_of_maps h.memory (reserveTemporary_maps hc)
  | forgetTemporary row =>
    refine h.change saved fun next hc => ?_
    cases hc
    exact owned_of_maps h.memory ⟨rfl, rfl⟩
  | setBinding subnet row => exact h.changeIf saved fun _ hc => h.memory.setBinding hc
  | setBindingIntent subnet row => exact h.changeIf saved fun _ hc => h.memory.setBinding hc
  | forgetUnowned subnet expected => exact h.change saved fun _ hc => h.memory.forgetUnowned hc
  | forgetCompletedRemoval subnet expected =>
    exact h.change saved fun _ hc => h.memory.forgetCompleted hc
  | claim address => exact h.change saved fun _ hc => h.memory.claim hc
  | liveness incoming => exact h.change saved fun _ hc => owned_liveness h.memory hc
  | reload now => exact owned_load h.disk now

theorem Owned.run {w : Store} (h : w.Owned) (ops : List (BindingOp × Fallible Unit)) :
    (w.run ops).Owned := by
  induction ops generalizing w with
  | nil => exact h
  | cons op ops ih => exact ih (h.apply op.1 op.2)

/-- A removed row stays removed, or is deleted by an operation that retires it. -/
def Retired (op : BindingOp) (subnet : String) (s : AppSettings) : Prop :=
  RemovedIn s subnet ∨ s.adoptedMeta.lookup subnet = none ∧ op.retires subnet

theorem retired_changeIf {w : Store} {op : BindingOp} {subnet : String}
    (h : RemovedIn w.memory subnet) {f : AppSettings → Fallible (Unit × Bool × AppSettings)}
    (saved : Fallible Unit)
    (hf : ∀ next, f w.memory = .ok ((), true, next) → Retired op subnet next) :
    Retired op subnet (w.changeIf f saved).2.memory := by
  rcases w.changeIf_cases f saved with ⟨_, he⟩ | ⟨_, _, _, he⟩ | ⟨_, next, hc, _, he⟩ <;> rw [he]
  · exact .inl h
  · exact .inl h
  · exact hf next hc

theorem retired_change {w : Store} {op : BindingOp} {subnet : String}
    (h : RemovedIn w.memory subnet) {f : AppSettings → Fallible (Unit × AppSettings)}
    (saved : Fallible Unit) (hf : ∀ next, f w.memory = .ok ((), next) → Retired op subnet next) :
    Retired op subnet (w.change f saved).2.memory := by
  rcases w.change_cases f saved with ⟨_, he⟩ | ⟨_, next, hc, _, he⟩ <;> rw [he]
  · exact .inl h
  · exact hf next hc

theorem retired_erase {op : BindingOp} {subnet k : String} {s next : AppSettings}
    (h : RemovedIn s subnet) (hmeta : next.adoptedMeta = s.adoptedMeta.erase k)
    (hk : k = subnet → op.retires subnet) : Retired op subnet next := by
  obtain ⟨row, hrow, hd⟩ := h
  by_cases he : subnet = k
  · exact .inr ⟨by rw [hmeta, he, Finmap.lookup_erase], hk he.symm⟩
  · exact .inl ⟨row, by rw [hmeta, Finmap.lookup_erase_ne he, hrow], hd⟩

theorem retired_setBinding {op : BindingOp} {subnet subnet' : String} {row : AdoptedMeta}
    {forceIntent : Bool} {s next : AppSettings} (h : RemovedIn s subnet)
    (hs : setBindingForOperation subnet' row forceIntent s = .ok ((), true, next)) :
    Retired op subnet next := by
  obtain ⟨old, hold, hd⟩ := h
  obtain ⟨hf, -⟩ | ⟨-, hkept, -, hmeta⟩ := setBinding_spec hs
  · cases hf
  · refine .inl ?_
    by_cases he : subnet = subnet'
    · subst he
      refine ⟨row, by rw [hmeta, if_pos rfl], ?_⟩
      cases hrow : row.desired with
      | removed => rfl
      | present =>
        have := hkept hrow old hold
        rw [hd] at this
        cases this
    · exact ⟨old, by rw [hmeta, if_neg he, hold], hd⟩

theorem retired_apply {w : Store} (h : w.Owned) {subnet : String}
    (hr : RemovedIn w.memory subnet) (op : BindingOp) (saved : Fallible Unit) :
    Retired op subnet (w.apply op saved).2.memory := by
  cases op with
  | reserveTemporary row =>
    refine retired_change hr saved fun next hc => .inl ?_
    rwa [RemovedIn, (reserveTemporary_maps hc).2]
  | forgetTemporary row =>
    refine retired_change hr saved fun next hc => .inl ?_
    cases hc
    exact hr
  | setBinding subnet' row => exact retired_changeIf hr saved fun _ hc => retired_setBinding hr hc
  | setBindingIntent subnet' row =>
    exact retired_changeIf hr saved fun _ hc => retired_setBinding hr hc
  | forgetUnowned subnet' expected =>
    refine retired_change hr saved fun next hc => ?_
    unfold forgetUnownedBinding at hc
    split at hc <;> cases hc
    exact retired_erase hr rfl id
  | forgetCompletedRemoval subnet' expected =>
    refine retired_change hr saved fun next hc => ?_
    unfold AppSettings.forgetCompletedRemoval at hc
    dsimp only at hc
    split at hc <;> cases hc
    exact retired_erase hr rfl id
  | claim address =>
    refine retired_change hr saved fun next hc => ?_
    cases hc
    obtain ⟨row, hrow, hd⟩ := hr
    cases hl : (FiniteMap.retain (fun k _ => !((w.memory.adoptedMeta.lookup k).any
        (w.memory.claims address))) w.memory.adoptedMeta).lookup subnet with
    | none => exact .inr ⟨hl, trivial⟩
    | some row' =>
      have hkept := hl
      rw [FiniteMap.lookup_retain, Option.filter_eq_some_iff] at hkept
      obtain rfl := Option.some.inj (hrow.symm.trans hkept.1)
      exact .inl ⟨row, hl, hd⟩
  | liveness incoming =>
    refine retired_change hr saved fun next hc => .inl ?_
    obtain ⟨row, hrow, hd⟩ := hr
    obtain ⟨row', hrow'⟩ : ∃ row', next.adoptedMeta.lookup subnet = some row' := by
      cases hc
      exact ⟨_, by rw [FiniteMap.lookup_mapValues, hrow, Option.map_some]⟩
    obtain ⟨r, hlook, hd', -⟩ := liveness_row hc subnet row' hrow'
    obtain rfl := Option.some.inj (hrow.symm.trans hlook)
    exact ⟨row', hrow', hd'.trans hd⟩
  | reload now => exact .inl (removedIn_align.mpr (h.kept subnet hr))

/-- A saved present binding keeps the address its subnet exported, or exports its own. -/
theorem exported_setBinding {w : Store} (h : w.Owned) {subnet address : String}
    {row : AdoptedMeta} {forceIntent : Bool} {saved : Fallible Unit}
    (hd : row.desired = .present) (ha : row.address = some address)
    (hok : (w.changeIf (setBindingForOperation subnet row forceIntent) saved).1 = .ok ()) :
    (w.changeIf (setBindingForOperation subnet row forceIntent) saved).2.memory.adoptedSubnets.lookup
      subnet = some ((w.memory.adoptedSubnets.lookup subnet).getD address) := by
  rcases w.changeIf_cases (setBindingForOperation subnet row forceIntent) saved with
    ⟨e, he⟩ | ⟨_, next, hc, he⟩ | ⟨_, next, hc, -, he⟩
  · rw [he] at hok
    cases hok
  · obtain ⟨-, hrow⟩ | ⟨hf, -⟩ := setBinding_spec hc
    · obtain ⟨exported, hx⟩ := Finmap.mem_iff.mp
        (h.memory.routed subnet row hrow hd (ha ▸ rfl))
      rw [he, hx]
      rfl
    · cases hf
  · obtain ⟨hf, -⟩ | ⟨-, -, hsubnets, -⟩ := setBinding_spec hc
    · cases hf
    · rw [he, hsubnets, if_pos rfl, exportedAfter, hd, ha]
      cases w.memory.adoptedSubnets.lookup subnet <;> rfl

/-- From a file that exports no removed row, and after any operations, failed saves and
restarts: every exported subnet has a present row, in memory and in the file; a removed row
stays removed unless an operation deletes it; and saving a present binding keeps the
exported address or sets it to the binding's. -/
theorem binding_ownership (file : AppSettings) (hfile : file.Undetached) (now : String)
    (ops : List (BindingOp × Fallible Unit)) :
    let w := (load file now).run ops
    (∀ subnet ∈ w.memory.adoptedSubnets, ∃ row,
      w.memory.adoptedMeta.lookup subnet = some row ∧ row.desired = .present) ∧
    w.disk.Undetached ∧
    (∀ op saved subnet, RemovedIn w.memory subnet →
      Retired op subnet (w.apply op saved).2.memory) ∧
    ∀ op subnet row address saved,
      op = .setBinding subnet row ∨ op = .setBindingIntent subnet row →
      row.desired = .present → row.address = some address → (w.apply op saved).1 = .ok () →
      (w.apply op saved).2.memory.adoptedSubnets.lookup subnet =
        some ((w.memory.adoptedSubnets.lookup subnet).getD address) := by
  intro w
  have h : w.Owned := (owned_load hfile now).run ops
  refine ⟨h.memory.covered, h.disk, fun op saved subnet hr => retired_apply h hr op saved, ?_⟩
  rintro op subnet row address saved (rfl | rfl) hd ha hok
  · exact exported_setBinding h hd ha hok
  · exact exported_setBinding h hd ha hok

/-- A file with one exported subnet. -/
def exporting (subnet address : String) : AppSettings :=
  { AppSettings.fresh "0123456789abcdef" with
    adoptedSubnets := Finmap.singleton subnet address }

/-- Adopting, removing and restarting from a file with an exported subnet. -/
theorem binding_ownership_exporting :
    let file := exporting "192.168.5.0/24" "192.168.5.100"
    let w := (load file "2026-10-01T10:00:00Z").run
      [(.setBinding "192.168.5.0/24" { desired := .removed, address := some "192.168.5.100" }, .ok ()),
       (.reload "2026-10-01T11:00:00Z", .ok ())]
    RemovedIn w.memory "192.168.5.0/24" ∧
      Retired (.claim "192.168.5.100") "192.168.5.0/24"
        (w.apply (.claim "192.168.5.100") (.ok ())).2.memory := by
  intro file w
  have hfile : file.Undetached := by
    intro subnet _ row hrow
    cases hrow
  have h := binding_ownership file hfile "2026-10-01T10:00:00Z"
    [(.setBinding "192.168.5.0/24" { desired := .removed, address := some "192.168.5.100" }, .ok ()),
     (.reload "2026-10-01T11:00:00Z", .ok ())]
  have hr : RemovedIn w.memory "192.168.5.0/24" := by
    refine ⟨{ desired := .removed, address := some "192.168.5.100" }, ?_, rfl⟩
    decide +kernel
  exact ⟨hr, h.2.2.1 (.claim "192.168.5.100") (.ok ()) "192.168.5.0/24" hr⟩

/-- A loaded file may export a removed row, and saving a present binding over another
exported address keeps that address. -/
theorem exported_addresses_disagree :
    let removed := { exporting "192.168.5.0/24" "192.168.5.100" with
      adoptedMeta := Finmap.singleton "192.168.5.0/24" { desired := .removed } }
    let w := load (exporting "192.168.5.0/24" "192.168.5.100") "2026-10-01T10:00:00Z"
    let bound := w.apply (.setBinding "192.168.5.0/24" { address := some "192.168.5.101" }) (.ok ())
    ("192.168.5.0/24" ∈ (load removed "2026-10-01T10:00:00Z").memory.adoptedSubnets ∧
      RemovedIn (load removed "2026-10-01T10:00:00Z").memory "192.168.5.0/24") ∧
    bound.1 = .ok () ∧
    bound.2.memory.adoptedSubnets.lookup "192.168.5.0/24" = some "192.168.5.100" := by
  intro removed w bound
  have hrow : (load removed "2026-10-01T10:00:00Z").memory.adoptedMeta.lookup "192.168.5.0/24" =
      some { desired := .removed, address := some "192.168.5.100", prefixLen := some 24 } := by
    decide +kernel
  exact ⟨⟨by decide +kernel, _, hrow, rfl⟩, by decide +kernel, by decide +kernel⟩

end Store

end PocketStream
