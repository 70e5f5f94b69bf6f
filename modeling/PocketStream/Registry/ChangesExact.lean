import PocketStream.Foundation.Flagged
import PocketStream.Registry.ChangeFlags

/-! # Exact change flags

A mutator whose writes do not undo each other flags exactly the calls that change the
records, and with them the snapshot.
-/

namespace PocketStream

open Foundation

namespace DeviceRecord

variable {r : DeviceRecord}

theorem withStatus_ne {status : DeviceStatus} :
    ({ r with status := status } : DeviceRecord) ≠ r ↔ r.status ≠ status := by
  constructor
  · rintro hne rfl
    exact hne rfl
  · intro hne he
    exact hne (congrArg DeviceRecord.status he).symm

theorem withAlias_ne {aliasName : String} :
    ({ r with aliasName := aliasName } : DeviceRecord) ≠ r ↔ r.aliasName ≠ aliasName := by
  constructor
  · rintro hne rfl
    exact hne rfl
  · intro hne he
    exact hne (congrArg DeviceRecord.aliasName he).symm

theorem withPorts_ne {openPorts : List UInt16} :
    ({ r with openPorts := openPorts } : DeviceRecord) ≠ r ↔ r.openPorts ≠ openPorts := by
  constructor
  · rintro hne rfl
    exact hne rfl
  · intro hne he
    exact hne (congrArg DeviceRecord.openPorts he).symm

theorem exact_retire (key : String) (device : ArpDevice) (r : DeviceRecord) :
    Exact (r.retires key device) r (Devices.retire key device r) :=
  exact_ite (by simp [retires, withStatus_ne])

theorem exact_resolve (ambiguous : List String) (r : DeviceRecord) :
    Exact (r.resolves ambiguous) r (DeviceRegistry.resolveRole ambiguous r) := by
  refine exact_ite ?_
  rw [withStatus_ne]
  simp only [resolves, Bool.and_eq_true, beq_iff_eq, Bool.not_eq_true', List.contains_eq_mem,
    decide_eq_false_iff_not]
  refine (and_iff_left_of_imp ?_).symm
  rintro ⟨hmark, -⟩ hoffline
  cases hmark.symm.trans hoffline

theorem exact_mark (role : String) (r : DeviceRecord) :
    Exact (r.marks role) r (DeviceRegistry.markRole role r) :=
  exact_ite (by simp [marks, withStatus_ne])

theorem exact_expire (evidence : FiniteMap String ℕ) (now : ℕ) (r : DeviceRecord) :
    Exact (r.expires evidence now) r (DeviceRegistry.expireRecord evidence now r) := by
  refine exact_ite ?_
  rw [withStatus_ne]
  simp only [expires, Bool.and_eq_true, beq_iff_eq]
  refine (and_iff_left_of_imp ?_).symm
  rintro ⟨hlive, -⟩ hoffline
  cases hlive.symm.trans hoffline

theorem exact_demote (r : DeviceRecord) :
    Exact (r.status == .live) r (DeviceRegistry.demote r) := by
  refine exact_ite ?_
  rw [withStatus_ne, beq_iff_eq]
  refine (and_iff_left_of_imp ?_).symm
  intro hlive hoffline
  cases hlive.symm.trans hoffline

theorem exact_assign (key aliasName : String) (r : DeviceRecord) :
    Exact (r.reassigns key aliasName) r (DeviceRegistry.assignAlias key aliasName r) := by
  unfold reassigns DeviceRegistry.assignAlias
  split
  · rw [Exact, withAlias_ne, bne_iff_ne]
  · refine exact_ite ?_
    rw [withAlias_ne]
    simp only [Bool.and_eq_true, beq_iff_eq]
    refine (and_iff_left_of_imp ?_).symm
    rintro ⟨hrole, rfl⟩ hempty
    rw [hempty] at hrole
    cases hrole

theorem exact_observe (r : DeviceRecord) (device : ArpDevice) (promoteLegacy : Bool) :
    Exact (r.observe device promoteLegacy).1 r (r.observe device promoteLegacy).2 := by
  constructor
  · intro hflag he
    have hip : device.ip = r.ip := congrArg DeviceRecord.ip he
    have hsubnet : device.subnet = r.subnet := congrArg DeviceRecord.subnet he
    have hseen : device.lastSeen = r.lastSeen := congrArg DeviceRecord.lastSeen he
    have hstatus := congrArg DeviceRecord.status he
    simp only [observe, hip, hsubnet, hseen, bne_self_eq_false, Bool.false_or] at hflag hstatus
    rw [if_pos hflag] at hstatus
    simp [← hstatus] at hflag
  · intro hne
    by_contra hflag
    simp only [observe, Bool.not_eq_true, Bool.or_eq_false_iff, bne_eq_false_iff_eq] at hflag
    obtain ⟨⟨⟨hip, hsubnet⟩, hseen⟩, hpromoted⟩ := hflag
    refine hne ?_
    simp only [observe, hpromoted, hip, bne_self_eq_false, Bool.false_eq_true, if_false,
      ← hsubnet, ← hseen]
    rw [← hip]

/-- The record that a proof leaves. -/
def proved (adapter verifiedAt : String) (r : DeviceRecord) : DeviceRecord :=
  { r with
    verifiedByMac := canonicalMac adapter
    lastVerifiedAt := some verifiedAt
    status := .live }

theorem proved_eq_self {adapter verifiedAt : String} : r.proved adapter verifiedAt = r ↔
    r.verifiedByMac = canonicalMac adapter ∧ r.lastVerifiedAt = some verifiedAt ∧
      r.status = .live := by
  constructor
  · intro he
    exact ⟨(congrArg DeviceRecord.verifiedByMac he).symm,
      (congrArg DeviceRecord.lastVerifiedAt he).symm, (congrArg DeviceRecord.status he).symm⟩
  · rintro ⟨hadapter, hat, hlive⟩
    rw [proved, ← hadapter, ← hat, ← hlive]

theorem exact_prove (adapter verifiedAt : String) (r : DeviceRecord) :
    Exact (r.proves adapter verifiedAt) r (r.proved adapter verifiedAt) := by
  rw [Exact, ne_eq, proved_eq_self]
  simp only [proves, Bool.or_eq_true, bne_iff_ne]
  tauto

/-- The record holds the proof already, and was seen when the device was. -/
def Holds (r : DeviceRecord) (device : ArpDevice) (adapter verifiedAt : String) : Prop :=
  r.ip = device.ip ∧ r.subnet = device.subnet ∧ r.lastSeen = device.lastSeen ∧
    r.verifiedByMac = canonicalMac adapter ∧ r.lastVerifiedAt = some verifiedAt ∧ r.status = .live

theorem Holds.observe {device : ArpDevice} {adapter verifiedAt : String}
    (h : r.Holds device adapter verifiedAt) : (r.observe device false).2 = r := by
  obtain ⟨hip, hsubnet, hseen, -⟩ := h
  refine (exact_observe r device false).eq ?_
  simp [DeviceRecord.observe, hip, hsubnet, hseen]

theorem proved_observe_eq_self {device : ArpDevice} {adapter verifiedAt : String} :
    (r.observe device false).2.proved adapter verifiedAt = r ↔
      r.Holds device adapter verifiedAt := by
  constructor
  · intro he
    exact ⟨(congrArg DeviceRecord.ip he).symm, (congrArg DeviceRecord.subnet he).symm,
      (congrArg DeviceRecord.lastSeen he).symm, (congrArg DeviceRecord.verifiedByMac he).symm,
      (congrArg DeviceRecord.lastVerifiedAt he).symm, (congrArg DeviceRecord.status he).symm⟩
  · intro h
    rw [h.observe, proved_eq_self]
    exact h.2.2.2

end DeviceRecord

/-! ### The snapshot -/

namespace DeviceRegistry

variable {r r' : DeviceRegistry} {s : DeviceRecord}

theorem lookup_of_snapshot (h : r.devices.Inv) (h' : r'.devices.Inv)
    (hsame : r'.snapshot = r.snapshot) {key : String} (hs : r'.devices.lookup key = some s) :
    r.devices.lookup key = some s := by
  obtain ⟨key', hs'⟩ := mem_snapshot.mp (hsame ▸ mem_snapshot.mpr ⟨key, hs⟩)
  rwa [← h'.keyed key s hs, h.keyed key' s hs']

theorem snapshot_congr (h : r'.devices = r.devices) : r'.snapshot = r.snapshot := by
  rw [snapshot, snapshot, h]

theorem snapshot_inj (h : r.devices.Inv) (h' : r'.devices.Inv) :
    r'.snapshot = r.snapshot ↔ r'.devices = r.devices := by
  constructor
  · intro hsame
    refine Finmap.ext_lookup fun key => Option.ext fun s => ?_
    exact ⟨lookup_of_snapshot h h' hsame, lookup_of_snapshot h' h hsame.symm⟩
  · exact snapshot_congr

end DeviceRegistry

namespace Devices

variable {m m' : Devices} {device : ArpDevice} {adapter verifiedAt : String}

/-! ### The keys that are collected -/

theorem macsOf_ne_empty {writes : DeviceRecord → Bool} :
    m.macsOf writes ≠ ∅ ↔ m.anyEntry (fun _ => writes) = true := by
  rw [← Finset.nonempty_iff_ne_empty, FiniteMap.anyEntry_iff]
  constructor
  · rintro ⟨mac, hmac⟩
    obtain ⟨key, -, hmac⟩ := Finset.mem_biUnion.mp hmac
    rw [Option.mem_toFinset, Option.mem_def, Option.map_eq_some_iff] at hmac
    obtain ⟨r, hr, -⟩ := hmac
    obtain ⟨hr, hwrites⟩ := Option.filter_eq_some_iff.mp hr
    exact ⟨key, r, hr, hwrites⟩
  · rintro ⟨key, r, hr, hwrites⟩
    refine ⟨r.mac, Finset.mem_biUnion.mpr ⟨key, FiniteMap.mem_keys_of_lookup hr, ?_⟩⟩
    rw [Option.mem_toFinset, hr, Option.filter_some_pos hwrites]
    rfl

/-! ### Merges -/

/-- The record that a merge of an observation writes. -/
def upserted (m : Devices) (device : ArpDevice) (promoteLegacy : Bool) : DeviceRecord :=
  match m.lookup (m.mergeKey device) with
  | some existing => (existing.observe device promoteLegacy).2
  | none => .observed (m.mergeKey device) device

theorem lookup_retire_self (h : Inv m) (device : ArpDevice) (key : String) :
    (m.mapValues fun _ => retire key device).lookup key = m.lookup key := by
  rw [FiniteMap.lookup_mapValues]
  cases hr : m.lookup key with
  | none => rfl
  | some r => exact congrArg some (if_neg fun hat => hat.2 (h.keyed key r hr))

theorem mergeArpLocked_devices (h : Inv m) (device : ArpDevice) (promoteLegacy : Bool) :
    (m.mergeArpLocked device promoteLegacy).2 =
      (m.mapValues fun _ => retire (m.mergeKey device) device).insert (m.mergeKey device)
        (m.upserted device promoteLegacy) := by
  unfold mergeArpLocked upserted
  dsimp only
  rw [show (recordKeyForMac m device.mac).getD device.mac = m.mergeKey device from rfl,
    lookup_retire_self h]
  cases m.lookup (m.mergeKey device) <;> rfl

theorem exact_mergeArp (h : Inv m) (device : ArpDevice) (promoteLegacy : Bool) :
    Exact (m.mergeArpChanged device promoteLegacy) m
      (m.mergeArpLocked device promoteLegacy).2 := by
  have hown := lookup_retire_self h device (m.mergeKey device)
  rw [mergeArpLocked_devices h, mergeArpChanged, Bool.or_comm, hown]
  refine (exact_or_iff (FiniteMap.exact_mapValues (DeviceRecord.exact_retire _ device)) ?_).mpr
    fun hback => ?_
  · unfold upserted
    cases hr : m.lookup (m.mergeKey device) with
    | none => exact FiniteMap.exact_insert_new (hown.trans hr)
    | some existing =>
      exact FiniteMap.exact_insert (hown.trans hr) (existing.exact_observe device promoteLegacy)
  -- the upsert leaves what is retired as it is
  · refine Finmap.ext_lookup fun k => ?_
    by_cases hk : k = m.mergeKey device
    · rw [hk, hown]
    · have := congrArg (Finmap.lookup k) hback
      rwa [Finmap.lookup_insert_of_ne _ hk] at this

/-- A proof merged into the devices. -/
def verified (m : Devices) (device : ArpDevice) (adapter verifiedAt : String) : Devices :=
  (m.mergeArpLocked device false).2.insert (m.mergeKey device)
    ((m.upserted device false).proved adapter verifiedAt)

theorem lookup_merged (h : Inv m) :
    (m.mergeArpLocked device false).2.lookup (m.mergeKey device) =
      some (m.upserted device false) := by
  rw [mergeArpLocked_devices h, Finmap.lookup_insert]

theorem recordKey_merged (h : Inv m) :
    recordKeyForMac (m.mergeArpLocked device false).2 device.mac = some (m.mergeKey device) := by
  have hm := merged_mergeArpLocked h device false
  exact hm.inv.recordKeyForMac_eq (Finmap.mem_of_lookup_eq_some (lookup_merged h)) hm.same

theorem lookup_verified_self :
    (m.verified device adapter verifiedAt).lookup (m.mergeKey device) =
      some ((m.upserted device false).proved adapter verifiedAt) := Finmap.lookup_insert _

theorem lookup_verified (h : Inv m) {k : String} (hk : k ≠ m.mergeKey device) :
    (m.verified device adapter verifiedAt).lookup k =
      (m.lookup k).map (retire (m.mergeKey device) device) := by
  rw [verified, Finmap.lookup_insert_of_ne _ hk, lookup_mergeArpLocked h device false hk]

/-- The verified record holds the proof already. -/
def HoldsProof (m : Devices) (device : ArpDevice) (adapter verifiedAt : String) : Prop :=
  ∃ r, m.lookup (m.mergeKey device) = some r ∧ r.Holds device adapter verifiedAt

theorem lookup_verified_eq_iff :
    (m.verified device adapter verifiedAt).lookup (m.mergeKey device) =
      m.lookup (m.mergeKey device) ↔ m.HoldsProof device adapter verifiedAt := by
  rw [lookup_verified_self, HoldsProof, upserted]
  cases hr : m.lookup (m.mergeKey device) with
  | none => simp
  | some r => simp [DeviceRecord.proved_observe_eq_self]

theorem exact_verified (h : Inv m) :
    Exact (m.mergeVerifiedChanged device adapter verifiedAt) m
      (m.verified device adapter verifiedAt) := by
  unfold mergeVerifiedChanged
  dsimp only
  rw [recordKey_merged h, Option.bind_some, lookup_merged h, Option.any_some]
  refine (exact_or_iff (exact_mergeArp h device false) (FiniteMap.exact_insert (lookup_merged h)
    (DeviceRecord.exact_prove adapter verifiedAt _))).mpr fun hback => ?_
  have hkept := fun k => congrArg (Finmap.lookup k) hback
  obtain ⟨r, hr, hholds⟩ := lookup_verified_eq_iff.mp (hkept (m.mergeKey device))
  refine Finmap.ext_lookup fun k => ?_
  by_cases hk : k = m.mergeKey device
  · rw [hk, lookup_merged h, upserted, hr]
    exact congrArg some hholds.observe
  · rw [lookup_mergeArpLocked h device false hk, ← lookup_verified h hk]
    exact hkept k

/-! ### Roles -/

theorem union_ne_empty {a b : Finset String} :
    decide (a ∪ b ≠ ∅) = (decide (a ≠ ∅) || decide (b ≠ ∅)) := by
  rw [Bool.eq_iff_iff, Bool.or_eq_true, decide_eq_true_iff, decide_eq_true_iff,
    decide_eq_true_iff, ne_eq, Finset.union_eq_empty, not_and_or]

theorem exact_macsOf {writes : DeviceRecord → Bool} {f : DeviceRecord → DeviceRecord}
    (h : ∀ s, Exact (writes s) s (f s)) :
    Exact (decide (m.macsOf writes ≠ ∅)) m (m.mapValues fun _ => f) := by
  rw [Exact, decide_eq_true_iff, macsOf_ne_empty]
  exact FiniteMap.exact_mapValues h

theorem assignAlias_eq_self {key aliasName : String} {s : DeviceRecord}
    (h : (DeviceRegistry.assignAlias key aliasName s).aliasName = s.aliasName) :
    DeviceRegistry.assignAlias key aliasName s = s := by
  revert h
  unfold DeviceRegistry.assignAlias
  split
  · exact fun h => not_not.mp fun hne => DeviceRecord.withAlias_ne.mp hne h.symm
  · split
    · exact fun h => not_not.mp fun hne => DeviceRecord.withAlias_ne.mp hne h.symm
    · exact fun _ => rfl

/-- The second loop writes statuses, so it undoes no alias. -/
theorem exact_setAlias (r : DeviceRegistry) (key aliasName : String) :
    Exact (decide (r.devices.setAliasChanged key aliasName ≠ ∅)) r.devices
      (r.setAlias key aliasName).2.devices := by
  unfold setAliasChanged DeviceRegistry.setAlias
  split
  · exact exact_same r.devices
  · dsimp only
    rw [union_ne_empty]
    refine (exact_or_iff (exact_macsOf (DeviceRecord.exact_assign key aliasName))
      (exact_macsOf (DeviceRecord.exact_resolve _))).mpr fun hback => ?_
    refine Finmap.ext_lookup fun k => ?_
    have hk := congrArg (Finmap.lookup k) hback
    rw [FiniteMap.lookup_mapValues] at hk ⊢
    cases hs : r.devices.lookup k with
    | none => rfl
    | some s =>
      rw [FiniteMap.lookup_mapValues, hs] at hk
      have hresolved := congrArg DeviceRecord.aliasName (Option.some.inj hk)
      rw [DeviceRegistry.alias_resolveRole] at hresolved
      exact congrArg some (assignAlias_eq_self hresolved)

/-- Records keep what they have, but for the mark of an ambiguous role. -/
def Marks (m m' : Devices) : Prop :=
  ∀ k, m'.lookup k = m.lookup k ∨
    m'.lookup k = (m.lookup k).map fun s => { s with status := .offlineAmbiguousRole }

theorem marks_markRole (m : Devices) (role : String) :
    Marks m (m.mapValues fun _ => DeviceRegistry.markRole role) := by
  intro k
  rw [FiniteMap.lookup_mapValues]
  cases m.lookup k with
  | none => exact .inl rfl
  | some s =>
    by_cases hrole : s.aliasName = role
    · exact .inr (congrArg some (if_pos hrole))
    · exact .inl (congrArg some (if_neg hrole))

theorem Marks.trans {m'' : Devices} (h : Marks m m') (h' : Marks m' m'') : Marks m m'' := by
  intro k
  rcases h k with hk | hk <;> rcases h' k with hk' | hk'
  · exact .inl (hk'.trans hk)
  · exact .inr (by rw [hk', hk])
  · exact .inr (hk'.trans hk)
  · exact .inr (by rw [hk', hk, Option.map_map]; rfl)

theorem Marks.eq_of_back {m'' : Devices} (h : Marks m m') (h' : Marks m' m'') (hback : m'' = m) :
    m' = m := by
  refine Finmap.ext_lookup fun k => ?_
  rcases h k with hk | hk
  · exact hk
  · rcases h' k with hk' | hk'
    · rw [← hk', hback]
    · have hmarked : m''.lookup k = m'.lookup k := by
        rw [hk', hk, Option.map_map]
        rfl
      rw [← hmarked, hback]

theorem exact_normalizeRole {changed : Finset String} (roles : List String)
    (hexact : Exact (decide (changed ≠ ∅)) m m') (hmarks : Marks m m') :
    Exact (decide ((roles.foldl normalizeRole (changed, m')).1 ≠ ∅)) m
      (roles.foldl (fun (devices : Devices) role =>
        if role ∈ DeviceRegistry.ambiguousRoles devices then
          devices.mapValues fun _ => DeviceRegistry.markRole role
        else devices) m') := by
  induction roles generalizing changed m' with
  | nil => exact hexact
  | cons role roles ih =>
    rw [List.foldl_cons, List.foldl_cons, normalizeRole]
    split
    · have hmark := marks_markRole m' role
      refine ih ?_ (hmarks.trans hmark)
      rw [union_ne_empty]
      exact (exact_or_iff hexact (exact_macsOf (DeviceRecord.exact_mark role))).mpr
        (hmarks.eq_of_back hmark)
    · exact ih hexact hmarks

end Devices

end PocketStream
