import PocketStream.Registry.RegistryInvariant

/-! # What a restart brings back

A restart builds the registry from the cached rows and then from the manual nodes. Of each
device it keeps the newest row, and the last pin of the device names it whatever the rows say.
-/

namespace PocketStream

open Foundation

/-- What a key stands for, however it is spelled. -/
abbrev DeviceId := String ⊕ String

namespace Devices

def recordOf (m : Devices) (id : DeviceId) : Option DeviceRecord :=
  (m.findKey fun key => denotedMac key = id).bind m.lookup

def aliasOf (m : Devices) (id : DeviceId) : Option String := (m.recordOf id).map (·.aliasName)

variable {m : Devices} {key : String} {id : DeviceId} {r : DeviceRecord}

theorem recordOf_denoted (h : Sole m key) : m.recordOf (denotedMac key) = m.lookup key := by
  unfold recordOf
  cases hk : m.findKey fun k => denotedMac k = denotedMac key with
  | none =>
    cases hl : m.lookup key with
    | none => rfl
    | some r =>
      have := FiniteMap.findKey_eq_none hk key (Finmap.mem_iff.mpr ⟨r, hl⟩)
      simp at this
  | some k =>
    obtain ⟨hmem, hsame⟩ := FiniteMap.findKey_eq_some hk
    rw [h k hmem (sameMac_iff.mpr (by simpa using hsame))]
    rfl

theorem Inv.sole (h : m.Inv) (hk : m.lookup key = some r) : Sole m key := fun k hm hs =>
  h.distinct k hm key (Finmap.mem_iff.mpr ⟨r, hk⟩) hs

theorem recordOf_eq_some (h : m.Inv) :
    m.recordOf id = some r ↔ ∃ k, m.lookup k = some r ∧ denotedMac k = id := by
  constructor
  · intro hr
    obtain ⟨k, hk, hl⟩ := Option.bind_eq_some_iff.mp hr
    exact ⟨k, hl, by simpa using (FiniteMap.findKey_eq_some hk).2⟩
  · rintro ⟨k, hk, rfl⟩
    rw [recordOf_denoted (h.sole hk), hk]

theorem aliasOf_eq_some (h : m.Inv) {a : String} :
    m.aliasOf id = some a ↔ ∃ k r, m.lookup k = some r ∧ denotedMac k = id ∧ r.aliasName = a := by
  unfold aliasOf
  rw [Option.map_eq_some_iff]
  constructor
  · rintro ⟨r, hr, rfl⟩
    obtain ⟨k, hk, hid⟩ := (recordOf_eq_some h).mp hr
    exact ⟨k, r, hk, hid, rfl⟩
  · rintro ⟨k, r, hk, hid, rfl⟩
    exact ⟨r, (recordOf_eq_some h).mpr ⟨k, hk, hid⟩, rfl⟩

theorem aliasOf_denoted (h : m.Inv) (hk : m.lookup key = some r) :
    m.aliasOf (denotedMac key) = some r.aliasName :=
  (aliasOf_eq_some h).mpr ⟨key, r, hk, rfl, rfl⟩

theorem aliasOf_eq_none (h : m.aliasOf id = none) : ∀ k ∈ m, denotedMac k ≠ id := by
  intro k hk hid
  simp only [aliasOf, recordOf, Option.map_eq_none_iff, Option.bind_eq_none_iff] at h
  cases hf : m.findKey fun key => denotedMac key = id with
  | none =>
    have := FiniteMap.findKey_eq_none hf k hk
    simp [hid] at this
  | some k' =>
    obtain ⟨r, hr⟩ := Finmap.mem_iff.mp (FiniteMap.findKey_eq_some hf).1
    rw [h k' hf] at hr
    cases hr

theorem recordOf_insert (h : Sole m key) (id : DeviceId) (r : DeviceRecord) :
    recordOf (m.insert key r) id = if denotedMac key = id then some r else m.recordOf id := by
  split
  · next hid =>
    have hs : Sole (m.insert key r) key := fun k hk hs =>
      (Finmap.mem_insert.mp hk).elim (fun he => he) fun hm => h k hm hs
    rw [← hid, recordOf_denoted hs, Finmap.lookup_insert]
  · next hid =>
    unfold recordOf
    rw [FiniteMap.findKey_insert (by simpa using hid)]
    cases hk : m.findKey fun k => denotedMac k = id with
    | none => rfl
    | some k =>
      have hne : k ≠ key := by
        rintro rfl
        exact hid (by simpa using (FiniteMap.findKey_eq_some hk).2)
      exact Finmap.lookup_insert_of_ne _ hne

end Devices

/-! ### The cached rows -/

namespace CachedDevice

/-- Whether hydration takes the row as one of the device. -/
def hydrates (id : DeviceId) (entry : CachedDevice) : Bool :=
  entry.mac != "" && (Ipv4Addr.parse entry.ip).isSome && denotedMac entry.mac = id

/-- The alias and the time of the newest row so far. -/
def newest (held : Option (String × String)) (entry : CachedDevice) : Option (String × String) :=
  if held.any fun h => decide (entry.lastSeen ≤ h.2) then held
  else some (entry.aliasName, entry.lastSeen)

end CachedDevice

/-- The alias that the cached rows give a device. -/
def rowAlias (cache : List CachedDevice) (id : DeviceId) : Option String :=
  ((cache.filter (·.hydrates id)).foldl CachedDevice.newest none).map (·.1)

/-- The alias that the manual nodes give a device: that of the last one. -/
def pinAlias (nodes : List ManualNode) (id : DeviceId) : Option String :=
  (nodes.filter fun n => denotedMac (manualNodeKey n) = id).getLast?.map (·.aliasName)

namespace Devices

variable {m : Devices}

theorem recordOf_hydrateEntry (m : Devices) (h : m.Inv) (entry : CachedDevice) (id : DeviceId) :
    ((m.hydrateEntry entry).recordOf id).map (fun r => (r.aliasName, r.lastSeen)) =
      if entry.hydrates id then
        CachedDevice.newest ((m.recordOf id).map fun r => (r.aliasName, r.lastSeen)) entry
      else (m.recordOf id).map fun r => (r.aliasName, r.lastSeen) := by
  obtain ⟨hsole, hsame⟩ := h.sole_recordKey entry.mac
  have hid := sameMac_iff.mp hsame
  unfold hydrateEntry
  generalize (recordKeyForMac m entry.mac).getD entry.mac = key at hsole hid
  by_cases hvalid : entry.mac = "" ∨ (Ipv4Addr.parse entry.ip).isNone
  · have : entry.hydrates id = false := by
      unfold CachedDevice.hydrates
      rcases hvalid with hmac | hip
      · simp [hmac]
      · simp [Option.isNone_iff_eq_none.mp hip]
    rw [if_pos hvalid, this]
    rfl
  have hhyd : entry.hydrates id = decide (denotedMac entry.mac = id) := by
    obtain ⟨hmac, hip⟩ := not_or.mp hvalid
    rw [← Option.not_isSome, Bool.not_eq_true', Bool.not_eq_false] at hip
    simp [CachedDevice.hydrates, hmac, hip]
  rw [if_neg hvalid, hhyd, ← hid]
  dsimp only
  by_cases hd : denotedMac key = id
  · subst hd
    rw [if_pos (decide_eq_true rfl), recordOf_denoted hsole]
    unfold CachedDevice.newest
    rw [Option.any_map]
    split
    · rw [recordOf_denoted hsole]
    · rw [recordOf_insert hsole, if_pos rfl]
      rfl
  · rw [decide_eq_false hd]
    split
    · rfl
    · rw [recordOf_insert hsole, if_neg hd]
      rfl

theorem sole_nodeKey (h : m.Inv) (node : ManualNode) :
    Sole m ((node.expectedMac.bind (recordKeyForMac m)).getD (manualNodeKey node)) ∧
      denotedMac ((node.expectedMac.bind (recordKeyForMac m)).getD (manualNodeKey node)) =
        denotedMac (manualNodeKey node) := by
  cases he : node.expectedMac with
  | none => exact ⟨by simpa [manualNodeKey, he] using sole_manual m node.ip, rfl⟩
  | some mac =>
    obtain ⟨hsole, hsame⟩ := h.sole_recordKey mac
    simpa [manualNodeKey, he] using And.intro hsole (sameMac_iff.mp hsame)

theorem aliasOf_hydrateNode (h : m.Inv) (now : String) (changed : Bool) (node : ManualNode)
    (id : DeviceId) : (hydrateNode now (changed, m) node).2.aliasOf id =
      if denotedMac (manualNodeKey node) = id then some node.aliasName else m.aliasOf id := by
  obtain ⟨hsole, hid⟩ := sole_nodeKey h node
  unfold hydrateNode aliasOf
  dsimp only
  rw [← hid]
  generalize (node.expectedMac.bind (recordKeyForMac m)).getD (manualNodeKey node) = key
    at hsole hid
  split
  · next existing hex =>
    split
    · rw [recordOf_insert hsole]
      split <;> rfl
    · next hsame =>
      split
      · next he => rw [← he, recordOf_denoted hsole, hex, Option.map_some, not_not.mp hsame]
      · rfl
  · rw [recordOf_insert hsole]
    split <;> rfl

end Devices

theorem pinAlias_cons (node : ManualNode) (nodes : List ManualNode) (id : DeviceId) :
    pinAlias (node :: nodes) id = (pinAlias nodes id).or
      (if denotedMac (manualNodeKey node) = id then some node.aliasName else none) := by
  unfold pinAlias
  by_cases hd : denotedMac (manualNodeKey node) = id
  · rw [List.filter_cons_of_pos (by simpa using hd), List.getLast?_cons, if_pos hd]
    cases (nodes.filter fun n => denotedMac (manualNodeKey n) = id).getLast? <;> rfl
  · rw [List.filter_cons_of_neg (by simpa using hd), if_neg hd, Option.or_none]

namespace DeviceRegistry

open Devices

/-- The registry at the start of the program. -/
def hydrate (cache : List CachedDevice) (nodes : List ManualNode) (now : String) :
    DeviceRegistry :=
  ((({} : DeviceRegistry).hydrateFromCache cache).2.hydrateManualNodes nodes now).2

theorem inv_hydrateManualNodes {r : DeviceRegistry} (h : r.devices.Inv) (nodes : List ManualNode)
    (now : String) : (r.hydrateManualNodes nodes now).2.devices.Inv :=
  (steps_hydrateManualNodes h nodes now fun _ => False).inv

/-- The last pin of a device names it, and devices without pins keep their names. -/
theorem aliasOf_hydrateManualNodes {r : DeviceRegistry} (h : r.devices.Inv)
    (nodes : List ManualNode) (now : String) (id : DeviceId) :
    (r.hydrateManualNodes nodes now).2.devices.aliasOf id =
      (pinAlias nodes id).or (r.devices.aliasOf id) := by
  suffices hfold : ∀ c, ∀ m : Devices, m.Inv →
      aliasOf (nodes.foldl (hydrateNode now) (c, m)).2 id =
        (pinAlias nodes id).or (m.aliasOf id) from
    hfold false r.devices h
  induction nodes with
  | nil => exact fun _ _ _ => rfl
  | cons node nodes ih =>
    intro c m hm
    rw [List.foldl_cons, ih _ _ (steps_hydrateNode hm now c node).1, aliasOf_hydrateNode hm,
      pinAlias_cons, Option.or_assoc]
    congr 1
    split <;> rfl

theorem inv_hydrateFromCache (cache : List CachedDevice) :
    (({} : DeviceRegistry).hydrateFromCache cache).2.devices.Inv :=
  (steps_hydrateFromCache inv_empty cache fun _ => False).inv

theorem aliasOf_hydrateFromCache (cache : List CachedDevice) (id : DeviceId) :
    (({} : DeviceRegistry).hydrateFromCache cache).2.devices.aliasOf id = rowAlias cache id := by
  suffices hfold : ∀ m : Devices, m.Inv →
      (recordOf (cache.foldl hydrateEntry m) id).map (fun r => (r.aliasName, r.lastSeen)) =
        (cache.filter (·.hydrates id)).foldl CachedDevice.newest
          ((m.recordOf id).map fun r => (r.aliasName, r.lastSeen)) by
    have := congrArg (Option.map Prod.fst) (hfold ∅ inv_empty)
    rw [Option.map_map] at this
    exact this
  induction cache with
  | nil => exact fun _ _ => rfl
  | cons entry cache ih =>
    intro m hm
    rw [List.foldl_cons, ih _ (steps_hydrateEntry hm entry).1, recordOf_hydrateEntry m hm]
    cases hd : entry.hydrates id with
    | true => rw [List.filter_cons_of_pos hd, List.foldl_cons, if_pos rfl]
    | false => rw [List.filter_cons_of_neg (by simp [hd]), if_neg (by simp)]

theorem inv_hydrate (cache : List CachedDevice) (nodes : List ManualNode) (now : String) :
    (hydrate cache nodes now).devices.Inv :=
  inv_hydrateManualNodes (inv_hydrateFromCache cache) nodes now

/-- A device comes back under the name of its last pin, or else of its newest row. -/
theorem aliasOf_hydrate (cache : List CachedDevice) (nodes : List ManualNode) (now : String)
    (id : DeviceId) :
    (hydrate cache nodes now).devices.aliasOf id = (pinAlias nodes id).or (rowAlias cache id) := by
  rw [hydrate, aliasOf_hydrateManualNodes (inv_hydrateFromCache cache), aliasOf_hydrateFromCache]

end DeviceRegistry

end PocketStream
