import PocketStream.Registry.DeviceRegistry

/-! # Identity and presence in the device registry

Every mutator either restricts the records it finds or writes one record whose
key no other record denotes and whose address no other record holds live. From
the empty registry on, keys are identities, an address has one live holder, and
presence comes only from accepted proofs.
-/

namespace PocketStream

open Foundation

namespace Devices

def LiveAt (m : Devices) (key ip : String) : Prop :=
  ∃ r, m.lookup key = some r ∧ r.status = .live ∧ r.ip = ip

/-- Keys are the records' addresses, no two keys denote one hardware address, and no two
records are live at one IP address. -/
structure Inv (m : Devices) : Prop where
  keyed : ∀ key r, m.lookup key = some r → r.mac = key
  distinct : ∀ key ∈ m, ∀ key' ∈ m, sameMac key key' = true → key = key'
  single : ∀ key key' ip, m.LiveAt key ip → m.LiveAt key' ip → key = key'

theorem inv_empty : Inv ∅ where
  keyed _ _ h := by simp at h
  distinct _ h := absurd h Finmap.notMem_empty
  single _ _ _ h := by
    obtain ⟨r, h, -⟩ := h
    simp at h

/-- Every record of the second map restricts the first one's record of its key. -/
def Restricts (m m' : Devices) : Prop :=
  ∀ key r', m'.lookup key = some r' → ∃ r, m.lookup key = some r ∧ r'.mac = r.mac ∧
    (r'.status = .live → r.status = .live ∧ r'.ip = r.ip)

theorem restricts_refl (m : Devices) : Restricts m m := fun _ r h => ⟨r, h, rfl, fun h => ⟨h, rfl⟩⟩

theorem Restricts.trans {m m' m'' : Devices} (h : Restricts m m') (h' : Restricts m' m'') :
    Restricts m m'' := by
  intro key r'' hr''
  obtain ⟨r', hr', hmac', hlive'⟩ := h' key r'' hr''
  obtain ⟨r, hr, hmac, hlive⟩ := h key r' hr'
  refine ⟨r, hr, hmac'.trans hmac, fun hl => ?_⟩
  obtain ⟨hl', hip'⟩ := hlive' hl
  obtain ⟨hl, hip⟩ := hlive hl'
  exact ⟨hl, hip'.trans hip⟩

theorem restricts_mapValues (m : Devices) {f : DeviceRecord → DeviceRecord}
    (hf : ∀ r, (f r).mac = r.mac ∧ ((f r).status = .live → r.status = .live ∧ (f r).ip = r.ip)) :
    Restricts m (m.mapValues fun _ => f) := by
  intro key r' h
  rw [FiniteMap.lookup_mapValues, Option.map_eq_some_iff] at h
  obtain ⟨r, hr, rfl⟩ := h
  exact ⟨r, hr, hf r⟩

theorem restricts_insert {m : Devices} {key : String} {r r' : DeviceRecord}
    (hr : m.lookup key = some r) (hmac : r'.mac = r.mac)
    (hlive : r'.status = .live → r.status = .live ∧ r'.ip = r.ip) :
    Restricts m (m.insert key r') := by
  intro k s h
  rw [FiniteMap.lookup_insert] at h
  split at h
  · next hk =>
    obtain rfl := Option.some.inj h
    exact ⟨r, hk ▸ hr, hmac, hlive⟩
  · exact restricts_refl m k s h

theorem restricts_erase (m : Devices) (key : String) : Restricts m (m.erase key) := by
  intro k r h
  rw [FiniteMap.lookup_erase] at h
  split at h
  · cases h
  · exact restricts_refl m k r h

theorem restricts_retain (m : Devices) (p : String → DeviceRecord → Bool) :
    Restricts m (m.retain p) := by
  intro k r h
  rw [FiniteMap.lookup_retain, Option.filter_eq_some_iff] at h
  exact restricts_refl m k r h.1

theorem Restricts.liveAt {m m' : Devices} (h : Restricts m m') {key ip : String}
    (hl : m'.LiveAt key ip) : m.LiveAt key ip := by
  obtain ⟨r', hr', hs, rfl⟩ := hl
  obtain ⟨r, hr, -, hlive⟩ := h key r' hr'
  exact ⟨r, hr, (hlive hs).1, (hlive hs).2.symm⟩

theorem Restricts.inv {m m' : Devices} (h : Restricts m m') (hm : Inv m) : Inv m' where
  keyed key r' hr' := by
    obtain ⟨r, hr, hmac, -⟩ := h key r' hr'
    exact hmac.trans (hm.keyed key r hr)
  distinct key hk key' hk' := by
    have hmem : ∀ k ∈ m', k ∈ m := fun k hk => by
      obtain ⟨r', hr'⟩ := Finmap.mem_iff.mp hk
      obtain ⟨r, hr, -⟩ := h k r' hr'
      exact Finmap.mem_iff.mpr ⟨r, hr⟩
    exact hm.distinct key (hmem key hk) key' (hmem key' hk')
  single key key' ip hl hl' := hm.single key key' ip (h.liveAt hl) (h.liveAt hl')

/-- A key that no other key denotes. -/
def Sole (m : Devices) (key : String) : Prop := ∀ k ∈ m, sameMac k key = true → k = key

theorem Inv.insert {m : Devices} (h : Inv m) {key : String} (hkey : Sole m key) {r : DeviceRecord}
    (hmac : r.mac = key)
    (hlive : r.status = .live → ∀ k, k ≠ key → ¬ m.LiveAt k r.ip) : Inv (m.insert key r) := by
  have hcases : ∀ k s, (m.insert key r).lookup k = some s →
      k = key ∧ s = r ∨ k ≠ key ∧ m.lookup k = some s := by
    intro k s hs
    rw [FiniteMap.lookup_insert] at hs
    split at hs
    · next hk => exact .inl ⟨hk, (Option.some.inj hs).symm⟩
    · next hk => exact .inr ⟨hk, hs⟩
  refine ⟨fun k s hs => ?_, fun k hk k' hk' hsame => ?_, ?_⟩
  · rcases hcases k s hs with ⟨rfl, rfl⟩ | ⟨-, hs⟩
    · exact hmac
    · exact h.keyed k s hs
  · rcases Finmap.mem_insert.mp hk with rfl | hm <;> rcases Finmap.mem_insert.mp hk' with rfl | hm'
    · rfl
    · exact (hkey k' hm' (sameMac_symm hsame)).symm
    · exact hkey k hm hsame
    · exact h.distinct k hm k' hm' hsame
  · rintro k k' ip ⟨s, hs, hl, rfl⟩ ⟨s', hs', hl', hip⟩
    rcases hcases k s hs with ⟨rfl, rfl⟩ | ⟨hne, hm⟩ <;>
      rcases hcases k' s' hs' with ⟨rfl, rfl⟩ | ⟨hne', hm'⟩
    · rfl
    · exact absurd ⟨s', hm', hl', hip⟩ (hlive hl k' hne')
    · exact absurd ⟨s, hm, hl, hip.symm⟩ (hlive hl' k hne)
    · exact h.single k k' s.ip ⟨s, hm, hl, rfl⟩ ⟨s', hm', hl', hip⟩

theorem mem_of_recordKeyForMac {m : Devices} {mac key : String}
    (h : recordKeyForMac m mac = some key) : key ∈ m ∧ sameMac key mac = true := by
  unfold recordKeyForMac at h
  split at h
  · next hm =>
    obtain rfl := Option.some.inj h
    exact ⟨hm, sameMac_refl _⟩
  · exact FiniteMap.findKey_eq_some h

theorem recordKeyForMac_eq_none {m : Devices} {mac : String} (h : recordKeyForMac m mac = none) :
    ∀ k ∈ m, sameMac k mac = false := by
  unfold recordKeyForMac at h
  split at h
  · cases h
  · exact FiniteMap.findKey_eq_none h

/-- The key found is the only one of its hardware address, in whatever order it is sought. -/
theorem Inv.recordKeyForMac_eq {m : Devices} (h : Inv m) {mac key : String} (hk : key ∈ m)
    (hsame : sameMac key mac = true) : recordKeyForMac m mac = some key := by
  cases hr : recordKeyForMac m mac with
  | none =>
    have := recordKeyForMac_eq_none hr key hk
    rw [hsame] at this
    cases this
  | some k =>
    obtain ⟨hk', hsame'⟩ := mem_of_recordKeyForMac hr
    rw [h.distinct k hk' key hk (sameMac_trans hsame' (sameMac_symm hsame))]

theorem Inv.sole_recordKey {m : Devices} (h : Inv m) (mac : String) :
    Sole m ((recordKeyForMac m mac).getD mac) ∧
      sameMac ((recordKeyForMac m mac).getD mac) mac = true := by
  cases hr : recordKeyForMac m mac with
  | none =>
    refine ⟨fun k hk hsame => ?_, sameMac_refl _⟩
    rw [Option.getD_none, recordKeyForMac_eq_none hr k hk] at hsame
    cases hsame
  | some key =>
    obtain ⟨hk, hsame⟩ := mem_of_recordKeyForMac hr
    exact ⟨fun k hk' hs => h.distinct k hk' key hk hs, hsame⟩

theorem sole_manual (m : Devices) (ip : String) : Sole m ("manual:" ++ ip) := by
  intro k _ hsame
  rw [sameMac_iff, denotedMac, denotedMac, canonicalMac_manual] at hsame
  split at hsame
  · cases hsame
  · exact Sum.inr.inj hsame

/-- Writing a record that is not live makes no key live. -/
theorem Inv.insert_offline {m : Devices} (h : Inv m) {key : String} (hkey : Sole m key)
    {r : DeviceRecord} (hmac : r.mac = key) (hs : r.status ≠ .live) :
    Inv (m.insert key r) ∧ ∀ k ip, LiveAt (m.insert key r) k ip → m.LiveAt k ip := by
  refine ⟨h.insert hkey hmac fun hl => absurd hl hs, ?_⟩
  rintro k ip ⟨r', hr', hl, hip⟩
  rw [FiniteMap.lookup_insert] at hr'
  split at hr'
  · obtain rfl := Option.some.inj hr'
    exact absurd hl hs
  · exact ⟨r', hr', hl, hip⟩

theorem retire_restricts (key : String) (device : ArpDevice) (r : DeviceRecord) :
    (retire key device r).mac = r.mac ∧
      ((retire key device r).status = .live → r.status = .live ∧ (retire key device r).ip = r.ip) := by
  unfold retire
  split
  · exact ⟨rfl, nofun⟩
  · exact ⟨rfl, fun h => ⟨h, rfl⟩⟩

/-- What a merge of an observation leaves: its record, and no other live holder of its
address. -/
structure Merged (m m' : Devices) (device : ArpDevice) (key : String) : Prop where
  inv : Inv m'
  same : sameMac key device.mac = true
  record : ∃ r, m'.lookup key = some r ∧ r.ip = device.ip
  others : ∀ k ip, k ≠ key → m'.LiveAt k ip → m.LiveAt k ip ∧ ip ≠ device.ip

/-- Writing a record at the observed address, once everyone else has left it. -/
theorem Merged.of_insert {m m' : Devices} {device : ArpDevice} {key : String} (hinv : Inv m')
    (hsole : Sole m' key) (hsame : sameMac key device.mac = true)
    (hothers : ∀ k ip, k ≠ key → m'.LiveAt k ip → m.LiveAt k ip ∧ ip ≠ device.ip)
    {r : DeviceRecord} (hmac : r.mac = key) (hip : r.ip = device.ip) :
    Merged m (m'.insert key r) device key where
  inv := hinv.insert hsole hmac fun _ k hk hl => (hothers k r.ip hk hl).2 hip
  same := hsame
  record := ⟨r, Finmap.lookup_insert m', hip⟩
  others k ip hk hl := by
    obtain ⟨s, hs, hlive⟩ := hl
    rw [FiniteMap.lookup_insert, if_neg hk] at hs
    exact hothers k ip hk ⟨s, hs, hlive⟩

theorem Restricts.sole {m m' : Devices} (h : Restricts m m') {key : String} (hs : Sole m key) :
    Sole m' key := fun k hk => by
  obtain ⟨r', hr'⟩ := Finmap.mem_iff.mp hk
  obtain ⟨r, hr, -⟩ := h k r' hr'
  exact hs k (Finmap.mem_iff.mpr ⟨r, hr⟩)

theorem merged_mergeArpLocked {m : Devices} (h : Inv m) (device : ArpDevice)
    (promoteLegacy : Bool) :
    Merged m (m.mergeArpLocked device promoteLegacy).2 device
      ((recordKeyForMac m device.mac).getD device.mac) := by
  obtain ⟨hsole, hsame⟩ := h.sole_recordKey device.mac
  unfold mergeArpLocked
  generalize (recordKeyForMac m device.mac).getD device.mac = key at hsole hsame
  have hretired := restricts_mapValues m (retire_restricts key device)
  have hothers : ∀ k ip, k ≠ key →
      LiveAt (m.mapValues fun _ => retire key device) k ip → m.LiveAt k ip ∧ ip ≠ device.ip := by
    rintro k ip hk hl
    refine ⟨hretired.liveAt hl, ?_⟩
    rintro rfl
    obtain ⟨s, hs, hlive, hip⟩ := hl
    rw [FiniteMap.lookup_mapValues, Option.map_eq_some_iff] at hs
    obtain ⟨r, hr, rfl⟩ := hs
    unfold retire at hlive hip
    split at hlive
    · cases hlive
    · next hkept =>
      rw [if_neg hkept] at hip
      exact hkept ⟨hip, h.keyed k r hr ▸ hk⟩
  have hinv := hretired.inv h
  have hinsert : ∀ r : DeviceRecord, r.mac = key → r.ip = device.ip → Merged m
      (Finmap.insert key r (m.mapValues fun _ => retire key device)) device key :=
    fun r hmac hip => .of_insert hinv (hretired.sole hsole) hsame hothers hmac hip
  dsimp only
  split
  · next existing hr => exact hinsert _ (hinv.keyed key existing hr) rfl
  · exact hinsert _ rfl rfl

end Devices

namespace DeviceRegistry

open Devices

theorem mem_snapshot {r : DeviceRegistry} {record : DeviceRecord} :
    record ∈ r.snapshot ↔ ∃ key, r.devices.lookup key = some record := by
  simp only [snapshot, List.mem_mergeSort, List.mem_filterMap, Finset.mem_sort, Finmap.mem_keys]
  constructor
  · rintro ⟨key, -, h⟩
    exact ⟨key, h⟩
  · rintro ⟨key, h⟩
    exact ⟨key, Finmap.mem_of_lookup_eq_some h, h⟩

/-- The registry's public mutators, with the fences they carry. -/
inductive Op where
  | hydrateFromCache (cached : List CachedDevice)
  | hydrateManualNodes (nodes : List ManualNode) (now : String)
  | mergeVerified (device : ArpDevice) (adapter verifiedAt : String) (stale : Bool) (now : ℕ)
  | mergeManualVerified (node : ManualNode) (device : ArpDevice) (adapter verifiedAt : String)
    (stale : Bool) (now : ℕ)
  | mergeArp (device : ArpDevice)
  | mergeArpFenced (device : ArpDevice) (stale : Bool)
  | mergeScanResult (key : String) (openPorts : List UInt16) (stale : Option Bool)
  | setAlias (key aliasName : String)
  | normalizeRoleDuplicates
  | setStatus (mac : String) (status : DeviceStatus)
  | setVerificationScope (adapter : Option String)
  | rememberVerifiedAt (mac wall : String) (proved : ℕ) (stale : Bool)
  | expireEvidence (now : ℕ)
  | expireAll
  | removeByMac (mac : String)
  | removeManualEntries
  | forget (mac : String)

variable (parseRfc3339 : String → Option ℤ)

def apply (r : DeviceRegistry) : Op → DeviceRegistry
  | .hydrateFromCache cached => (r.hydrateFromCache cached).2
  | .hydrateManualNodes nodes now => (r.hydrateManualNodes nodes now).2
  | .mergeVerified device adapter verifiedAt stale now =>
    (r.mergeVerified parseRfc3339 device adapter verifiedAt stale now).2
  | .mergeManualVerified node device adapter verifiedAt stale now =>
    (r.mergeManualVerified parseRfc3339 node device adapter verifiedAt stale now).2
  | .mergeArp device => (r.mergeArp device).2
  | .mergeArpFenced device stale => (r.mergeArpFenced device stale).2
  | .mergeScanResult key openPorts stale => (r.mergeScanResultFenced key openPorts stale).2
  | .setAlias key aliasName => (r.setAlias key aliasName).2
  | .normalizeRoleDuplicates => r.normalizeRoleDuplicates.2
  | .setStatus mac status => (r.setStatus mac status).2
  | .setVerificationScope adapter => r.setVerificationScope adapter
  | .rememberVerifiedAt mac wall proved stale => r.rememberVerifiedAt mac wall proved stale
  | .expireEvidence now => (r.expireEvidence now).2
  | .expireAll => r.expireAll.2
  | .removeByMac mac => (r.removeByMac mac).2
  | .removeManualEntries => r.removeManualEntries.2
  | .forget mac => (r.forget mac).2

/-- The registry after a sequence of mutators, from the empty one. -/
def run (ops : List Op) : DeviceRegistry := ops.foldl (apply parseRfc3339) {}

def IsLive (r : DeviceRegistry) (key : String) : Prop := ∃ ip, r.devices.LiveAt key ip

/-- What may make a key live: an accepted proof of its identity, or an observation of it
while no verification scope is set. -/
def Grants (r : DeviceRegistry) (key : String) : Op → Prop
  | .mergeVerified device adapter verifiedAt stale _ =>
    r.accepts parseRfc3339 device adapter verifiedAt stale = true ∧ sameMac key device.mac = true
  | .mergeManualVerified node device adapter verifiedAt stale _ =>
    node.ip = device.ip ∧ r.accepts parseRfc3339 device adapter verifiedAt stale = true ∧
      sameMac key device.mac = true
  | .mergeArp device => r.verificationScope = none ∧ sameMac key device.mac = true
  | .mergeArpFenced device stale =>
    stale = false ∧ r.verificationScope = none ∧ sameMac key device.mac = true
  | _ => False

/-- The stale fence an operation carries, if it carries one. -/
def Op.stale : Op → Bool
  | mergeVerified _ _ _ stale _ => stale
  | mergeManualVerified _ _ _ _ stale _ => stale
  | mergeArpFenced _ stale => stale
  | mergeScanResult _ _ stale => stale == some true
  | rememberVerifiedAt _ _ _ stale => stale
  | _ => false

/-- The device and the time of the proof an operation carries, if it carries one. -/
def Op.proof : Op → Option (ArpDevice × String)
  | mergeVerified device _ verifiedAt _ _ => some (device, verifiedAt)
  | mergeManualVerified _ device _ verifiedAt _ _ => some (device, verifiedAt)
  | _ => none

variable {parseRfc3339} {r : DeviceRegistry}

/-- A verified merge leaves the identity live and nobody else at its address. -/
theorem merged_mergeVerifiedLocked (h : r.devices.Inv) (device : ArpDevice)
    (adapter verifiedAt : String) (now : ℕ) :
    ∃ key, Merged r.devices (r.mergeVerifiedLocked device adapter verifiedAt now).2.devices device
      key := by
  have hm := merged_mergeArpLocked h device false
  unfold mergeVerifiedLocked
  split
  next result devices hd =>
    rw [hd] at hm
    split
    · exact ⟨_, hm⟩
    · next key hkey =>
      split
      · exact ⟨_, hm⟩
      · next record hrecord =>
        obtain ⟨s, hs, hip⟩ := hm.record
        have hfound := hm.inv.recordKeyForMac_eq (Finmap.mem_iff.mpr ⟨s, hs⟩) hm.same
        obtain rfl := Option.some.inj (hkey.symm.trans hfound)
        obtain rfl := Option.some.inj (hrecord.symm.trans hs)
        have hmem := Finmap.mem_iff.mpr ⟨_, hs⟩
        have hmac := hm.inv.keyed _ record hs
        exact ⟨_, .of_insert hm.inv (fun k hk hsame => hm.inv.distinct k hk _ hmem hsame) hm.same
          hm.others hmac hip⟩

theorem restricts_bindPin (node : ManualNode) (device : ArpDevice) :
    Restricts r.devices (r.bindPin node device).2.devices := by
  have herase := restricts_erase r.devices ("manual:" ++ node.ip)
  unfold bindPin
  dsimp only
  split
  · exact herase
  · split
    · exact herase
    · next record hrecord =>
      split
      · exact herase.trans (restricts_insert hrecord rfl fun h => ⟨h, rfl⟩)
      · exact herase

theorem restricts_rejectExpected (key : String) :
    Restricts r.devices (r.rejectExpected key).2.devices := by
  unfold rejectExpected
  split
  · exact restricts_refl _
  · next old hold => exact restricts_insert hold rfl nofun

/-- What an operation may do to the records: restrict them, write records that are not
live, or merge one observation it was entitled to. -/
structure Steps (r r' : DeviceRegistry) (grants : String → Prop) : Prop where
  inv : r'.devices.Inv
  live : ∀ key, r'.IsLive key → r.IsLive key ∨ grants key

theorem Steps.of_restricts {r' : DeviceRegistry} {grants : String → Prop} (h : r.devices.Inv)
    (hr : Restricts r.devices r'.devices) : Steps r r' grants :=
  ⟨hr.inv h, fun _ ⟨ip, hl⟩ => .inl ⟨ip, hr.liveAt hl⟩⟩

theorem Steps.of_merged {r' : DeviceRegistry} {grants : String → Prop} {device : ArpDevice}
    {key : String} (hm : Merged r.devices r'.devices device key)
    (hgrants : ∀ k, sameMac k device.mac = true → grants k) : Steps r r' grants := by
  refine ⟨hm.inv, fun k ⟨ip, hl⟩ => ?_⟩
  by_cases hk : k = key
  · exact .inr (hgrants k (hk ▸ hm.same))
  · exact .inl ⟨ip, (hm.others k ip hk hl).1⟩

theorem Steps.restrict {r' r'' : DeviceRegistry} {grants : String → Prop} (h : Steps r r' grants)
    (hr : Restricts r'.devices r''.devices) : Steps r r'' grants :=
  ⟨hr.inv h.inv, fun key ⟨ip, hl⟩ => h.live key ⟨ip, hr.liveAt hl⟩⟩

theorem steps_hydrateEntry {m : Devices} (h : m.Inv) (entry : CachedDevice) :
    Devices.Inv (m.hydrateEntry entry) ∧ ∀ k ip, LiveAt (m.hydrateEntry entry) k ip → m.LiveAt k ip := by
  unfold hydrateEntry
  split
  · exact ⟨h, fun _ _ hl => hl⟩
  · dsimp only
    split
    · exact ⟨h, fun _ _ hl => hl⟩
    · exact h.insert_offline (h.sole_recordKey entry.mac).1 rfl nofun

theorem steps_hydrateNode {m : Devices} (h : m.Inv) (now : String) (changed : Bool)
    (node : ManualNode) :
    Devices.Inv (hydrateNode now (changed, m) node).2 ∧
      ∀ k ip, LiveAt (hydrateNode now (changed, m) node).2 k ip → m.LiveAt k ip := by
  have hsole : Sole m ((node.expectedMac.bind (recordKeyForMac m)).getD (manualNodeKey node)) := by
    cases he : node.expectedMac with
    | none => simpa [manualNodeKey, he] using sole_manual m node.ip
    | some mac => simpa [manualNodeKey, he] using (h.sole_recordKey mac).1
  unfold hydrateNode
  dsimp only
  split
  · next existing hex =>
    split
    · have hr : Restricts m (m.insert _ { existing with aliasName := node.aliasName }) :=
        restricts_insert hex rfl fun hl => ⟨hl, rfl⟩
      exact ⟨hr.inv h, fun _ _ hl => hr.liveAt hl⟩
    · exact ⟨h, fun _ _ hl => hl⟩
  · exact h.insert_offline hsole rfl nofun

theorem steps_hydrateFromCache (h : r.devices.Inv) (cached : List CachedDevice)
    (grants : String → Prop) : Steps r (r.hydrateFromCache cached).2 grants := by
  unfold hydrateFromCache
  split
  · exact .of_restricts h (restricts_refl _)
  · suffices hfold : ∀ m : Devices, m.Inv → (∀ k ip, LiveAt m k ip → r.devices.LiveAt k ip) →
        Devices.Inv (cached.foldl hydrateEntry m) ∧
          ∀ k ip, LiveAt (cached.foldl hydrateEntry m) k ip → r.devices.LiveAt k ip by
      obtain ⟨hinv, hlive⟩ := hfold r.devices h fun _ _ hl => hl
      exact ⟨hinv, fun k ⟨ip, hl⟩ => .inl ⟨ip, hlive k ip hl⟩⟩
    induction cached with
    | nil => exact fun m hm hl => ⟨hm, hl⟩
    | cons entry cached ih =>
      intro m hm hl
      obtain ⟨hm', hl'⟩ := steps_hydrateEntry hm entry
      exact ih _ hm' fun k ip h => hl k ip (hl' k ip h)

theorem steps_hydrateManualNodes (h : r.devices.Inv) (nodes : List ManualNode) (now : String)
    (grants : String → Prop) : Steps r (r.hydrateManualNodes nodes now).2 grants := by
  suffices hfold : ∀ c, ∀ m : Devices, m.Inv → (∀ k ip, LiveAt m k ip → r.devices.LiveAt k ip) →
      Devices.Inv (nodes.foldl (hydrateNode now) (c, m)).2 ∧
        ∀ k ip, LiveAt (nodes.foldl (hydrateNode now) (c, m)).2 k ip → r.devices.LiveAt k ip by
    obtain ⟨hinv, hlive⟩ := hfold false r.devices h fun _ _ hl => hl
    exact ⟨hinv, fun k ⟨ip, hl⟩ => .inl ⟨ip, hlive k ip hl⟩⟩
  induction nodes with
  | nil => exact fun _ m hm hl => ⟨hm, hl⟩
  | cons node nodes ih =>
    intro c m hm hl
    obtain ⟨hm', hl'⟩ := steps_hydrateNode hm now c node
    exact ih _ _ hm' fun k ip h => hl k ip (hl' k ip h)

theorem steps_mergeArp (h : r.devices.Inv) (device : ArpDevice) :
    Steps r (r.mergeArp device).2
      fun key => r.verificationScope = none ∧ sameMac key device.mac = true := by
  unfold mergeArp
  split
  · exact .of_restricts h (restricts_refl _)
  · next hscope =>
    exact .of_merged (merged_mergeArpLocked h device true) fun k hk =>
      ⟨by simpa using hscope, hk⟩

theorem steps_mergeManualVerified (h : r.devices.Inv) (node : ManualNode) (device : ArpDevice)
    (adapter verifiedAt : String) (stale : Bool) (now : ℕ) :
    Steps r (r.mergeManualVerified parseRfc3339 node device adapter verifiedAt stale now).2
      fun key => node.ip = device.ip ∧
        r.accepts parseRfc3339 device adapter verifiedAt stale = true ∧
        sameMac key device.mac = true := by
  unfold mergeManualVerified
  split
  · exact .of_restricts h (restricts_refl _)
  · next hok =>
    rw [not_or, not_not, Bool.not_eq_true', Bool.not_eq_false] at hok
    obtain ⟨key, hm⟩ := merged_mergeVerifiedLocked h device adapter verifiedAt now
    have hsteps := Steps.of_merged hm fun k hk => And.intro hok.1 (And.intro hok.2 hk)
    dsimp only
    split
    · exact hsteps.restrict (restricts_bindPin node device)
    · exact hsteps.restrict (restricts_rejectExpected _)

theorem restricts_setAlias (key aliasName : String) :
    Restricts r.devices (r.setAlias key aliasName).2.devices := by
  unfold setAlias
  split
  · exact restricts_refl _
  · refine (restricts_mapValues r.devices fun r => ?_).trans (restricts_mapValues _ fun r => ?_)
    · unfold assignAlias
      split
      · exact ⟨rfl, fun h => ⟨h, rfl⟩⟩
      · split <;> exact ⟨rfl, fun h => ⟨h, rfl⟩⟩
    · unfold resolveRole
      split
      · exact ⟨rfl, nofun⟩
      · exact ⟨rfl, fun h => ⟨h, rfl⟩⟩

theorem restricts_normalizeRoleDuplicates :
    Restricts r.devices r.normalizeRoleDuplicates.2.devices := by
  unfold normalizeRoleDuplicates
  suffices hfold : ∀ (roles : List String) (m : Devices), Restricts m (roles.foldl (fun m role =>
      if role ∈ ambiguousRoles m then m.mapValues fun _ => markRole role else m) m) from
    hfold roleAliases r.devices
  intro roles
  induction roles with
  | nil => exact restricts_refl
  | cons role roles ih =>
    intro m
    refine Restricts.trans ?_ (ih _)
    beta_reduce
    split
    · refine restricts_mapValues m fun r => ?_
      unfold markRole
      split
      · exact ⟨rfl, nofun⟩
      · exact ⟨rfl, fun h => ⟨h, rfl⟩⟩
    · exact restricts_refl m

theorem restricts_mergeScanResultFenced (key : String) (openPorts : List UInt16)
    (stale : Option Bool) :
    Restricts r.devices (r.mergeScanResultFenced key openPorts stale).2.devices := by
  unfold mergeScanResultFenced
  split
  · exact restricts_refl _
  · split
    · exact restricts_refl _
    · next record hrecord =>
      split
      · exact restricts_insert hrecord rfl fun h => ⟨h, rfl⟩
      · exact restricts_refl _

theorem restricts_setStatus (mac : String) (status : DeviceStatus) :
    Restricts r.devices (r.setStatus mac status).2.devices := by
  unfold setStatus
  split
  · exact restricts_refl _
  · next hstatus =>
    split
    · exact restricts_refl _
    · next record hrecord =>
      split
      · exact restricts_insert hrecord rfl fun h => absurd h hstatus
      · exact restricts_refl _

theorem restricts_rememberVerifiedAt (mac wall : String) (proved : ℕ) (stale : Bool) :
    Restricts r.devices (r.rememberVerifiedAt mac wall proved stale).devices := by
  unfold rememberVerifiedAt
  split
  · exact restricts_refl _
  · dsimp only
    split <;> exact restricts_refl _

theorem restricts_expireEvidence (now : ℕ) :
    Restricts r.devices (r.expireEvidence now).2.devices :=
  restricts_mapValues r.devices fun s => by
    unfold expireRecord
    split
    · exact ⟨rfl, nofun⟩
    · exact ⟨rfl, fun h => ⟨h, rfl⟩⟩

theorem restricts_expireAll : Restricts r.devices r.expireAll.2.devices :=
  restricts_mapValues r.devices fun s => by
    unfold demote
    split
    · exact ⟨rfl, nofun⟩
    · exact ⟨rfl, fun h => ⟨h, rfl⟩⟩

theorem steps_apply (h : r.devices.Inv) (op : Op) :
    Steps r (apply parseRfc3339 r op) fun key => Grants parseRfc3339 r key op := by
  cases op with
  | hydrateFromCache cached => exact steps_hydrateFromCache h cached _
  | hydrateManualNodes nodes now => exact steps_hydrateManualNodes h nodes now _
  | mergeVerified device adapter verifiedAt stale now =>
    change Steps r (mergeVerified parseRfc3339 r device adapter verifiedAt stale now).2 _
    unfold mergeVerified
    split
    · next hok =>
      obtain ⟨key, hm⟩ := merged_mergeVerifiedLocked h device adapter verifiedAt now
      exact .of_merged hm fun k hk => ⟨hok, hk⟩
    · exact .of_restricts h (restricts_refl _)
  | mergeManualVerified node device adapter verifiedAt stale now =>
    exact steps_mergeManualVerified h node device adapter verifiedAt stale now
  | mergeArp device => exact steps_mergeArp h device
  | mergeArpFenced device stale =>
    cases stale with
    | true => exact .of_restricts h (restricts_refl _)
    | false =>
      obtain ⟨hinv, hlive⟩ := steps_mergeArp h device
      exact ⟨hinv, fun key hl => (hlive key hl).imp_right fun hg => ⟨rfl, hg⟩⟩
  | mergeScanResult key openPorts stale =>
    exact .of_restricts h (restricts_mergeScanResultFenced key openPorts stale)
  | setAlias key aliasName => exact .of_restricts h (restricts_setAlias key aliasName)
  | normalizeRoleDuplicates => exact .of_restricts h restricts_normalizeRoleDuplicates
  | setStatus mac status => exact .of_restricts h (restricts_setStatus mac status)
  | setVerificationScope adapter => exact .of_restricts h (restricts_refl _)
  | rememberVerifiedAt mac wall proved stale =>
    exact .of_restricts h (restricts_rememberVerifiedAt mac wall proved stale)
  | expireEvidence now => exact .of_restricts h (restricts_expireEvidence now)
  | expireAll => exact .of_restricts h restricts_expireAll
  | removeByMac mac => exact .of_restricts h (restricts_erase r.devices mac)
  | removeManualEntries => exact .of_restricts h (restricts_retain r.devices _)
  | forget mac => exact .of_restricts h (restricts_erase r.devices mac)

theorem inv_run (parseRfc3339 : String → Option ℤ) (ops : List Op) :
    (run parseRfc3339 ops).devices.Inv := by
  suffices hfold : ∀ r : DeviceRegistry, r.devices.Inv →
      (ops.foldl (apply parseRfc3339) r).devices.Inv from hfold {} inv_empty
  induction ops with
  | nil => exact fun _ h => h
  | cons op ops ih => exact fun r h => ih _ (steps_apply h op).inv

theorem apply_stale {op : Op} (h : op.stale = true) : apply parseRfc3339 r op = r := by
  cases op with
  | mergeVerified device adapter verifiedAt stale now =>
    obtain rfl : stale = true := h
    simp [apply, mergeVerified, accepts]
  | mergeManualVerified node device adapter verifiedAt stale now =>
    obtain rfl : stale = true := h
    simp [apply, mergeManualVerified, accepts]
  | mergeArpFenced device stale =>
    obtain rfl : stale = true := h
    rfl
  | mergeScanResult key openPorts stale =>
    obtain rfl : stale = some true := by simpa [Op.stale] using h
    rfl
  | rememberVerifiedAt mac wall proved stale =>
    obtain rfl : stale = true := h
    rfl
  | _ => cases h

/-- A record whose proof is later than the one an operation carries. -/
def HoldsLater (parseRfc3339 : String → Option ℤ) (s : DeviceRecord) (device : ArpDevice)
    (verifiedAt : String) : Prop :=
  (sameMac s.mac device.mac = true ∨ s.ip = device.ip) ∧
    ∃ incoming recorded existing, parseRfc3339 verifiedAt = some incoming ∧
      s.lastVerifiedAt = some recorded ∧ parseRfc3339 recorded = some existing ∧
      incoming < existing

theorem hasNewerProof_of_holdsLater {device : ArpDevice} {verifiedAt key : String}
    {s : DeviceRecord} (hs : r.devices.lookup key = some s) (hlive : s.status = .live)
    (h : HoldsLater parseRfc3339 s device verifiedAt) :
    hasNewerProof parseRfc3339 r.devices device verifiedAt = true := by
  obtain ⟨hsame, incoming, recorded, existing, hi, hr, he, hlt⟩ := h
  rw [hasNewerProof, hi]
  refine FiniteMap.anyEntry_iff.mpr ⟨key, s, hs, ?_⟩
  simp [hlive, hsame, hr, he, hlt]

theorem apply_older {op : Op} {device : ArpDevice} {verifiedAt key : String} {s : DeviceRecord}
    (hop : op.proof = some (device, verifiedAt)) (hs : r.devices.lookup key = some s)
    (hlive : s.status = .live) (h : HoldsLater parseRfc3339 s device verifiedAt) :
    apply parseRfc3339 r op = r := by
  have hnewer := hasNewerProof_of_holdsLater hs hlive h
  cases op with
  | mergeVerified _ _ _ _ _ =>
    obtain ⟨rfl, rfl⟩ := Prod.mk.inj (Option.some.inj hop)
    simp [apply, mergeVerified, accepts, hnewer]
  | mergeManualVerified _ _ _ _ _ _ =>
    obtain ⟨rfl, rfl⟩ := Prod.mk.inj (Option.some.inj hop)
    simp [apply, mergeManualVerified, accepts, hnewer]
  | _ => cases hop

/-- What expiry leaves live has evidence that outlasts it. -/
theorem evidence_expireEvidence (h : r.devices.Inv) {now : ℕ} {key : String} {s : DeviceRecord}
    (hs : (r.expireEvidence now).2.devices.lookup key = some s) (hlive : s.status = .live) :
    ∃ deadline, (r.expireEvidence now).2.evidence.lookup key = some deadline ∧ now < deadline := by
  have hmem : key ∈ (r.expireEvidence now).2.devices := Finmap.mem_iff.mpr ⟨s, hs⟩
  simp only [expireEvidence, FiniteMap.lookup_mapValues, Option.map_eq_some_iff] at hs
  obtain ⟨t, ht, rfl⟩ := hs
  unfold expireRecord at hlive
  split at hlive
  · cases hlive
  · next hkept =>
    obtain ⟨deadline, hd, hlt⟩ : ∃ deadline, r.evidence.lookup key = some deadline ∧
        now < deadline := by
      rw [h.keyed key t ht] at hkept
      cases hd : r.evidence.lookup key with
      | none => simp [hlive, hd] at hkept
      | some deadline => exact ⟨deadline, rfl, by simpa [hlive, hd] using hkept⟩
    refine ⟨deadline, ?_, hlt⟩
    have hmem : key ∈ (r.devices.mapValues fun _ => expireRecord r.evidence now) := hmem
    simp [expireEvidence, hd, hlt, hmem]

/-- Whatever mutators have run: keys are identities and addresses have one live holder; a
key becomes live only through a proof the registry accepts or an observation made without
a scope; stale operations and proofs older than a live record's change nothing; and expiry
leaves no live record without later evidence. -/
theorem registry_invariant (parseRfc3339 : String → Option ℤ) (ops : List Op) :
    let r := run parseRfc3339 ops
    r.devices.Inv ∧
    (∀ op key, (apply parseRfc3339 r op).IsLive key → ¬ r.IsLive key →
      Grants parseRfc3339 r key op) ∧
    (∀ op : Op, op.stale = true → apply parseRfc3339 r op = r) ∧
    (∀ (op : Op) device verifiedAt key s, op.proof = some (device, verifiedAt) →
      r.devices.lookup key = some s → s.status = .live →
      HoldsLater parseRfc3339 s device verifiedAt → apply parseRfc3339 r op = r) ∧
    ∀ now key s, (r.expireEvidence now).2.devices.lookup key = some s → s.status = .live →
      ∃ deadline, (r.expireEvidence now).2.evidence.lookup key = some deadline ∧
        now < deadline := by
  intro r
  have h := inv_run parseRfc3339 ops
  refine ⟨h, fun op key hl hn => ?_, fun _ => apply_stale,
    fun _ _ _ _ _ => apply_older, fun _ _ _ => evidence_expireEvidence h⟩
  exact ((steps_apply h op).live key hl).resolve_left hn

/-- An offline record does not protect its proof: after expiry an older one replaces it. -/
theorem older_proof_of_expired_record :
    let parse : String → Option ℤ := fun at_ =>
      if at_ = "2026-10-01T10:00:00+00:00" then some 1790848800
      else if at_ = "2026-10-01T10:00:20+00:00" then some 1790848820 else none
    let device : ArpDevice := ⟨"02:00:00:00:00:01", "192.168.1.20", "192.168.1.0/24", "", ""⟩
    let prove := fun at_ now => Op.mergeVerified device "02:00:00:00:00:09" at_ false now
    let r := run parse [prove "2026-10-01T10:00:20+00:00" 0, .expireEvidence 15000]
    (∃ s, r.devices.lookup device.mac = some s ∧
      HoldsLater parse s device "2026-10-01T10:00:00+00:00") ∧
    apply parse r (prove "2026-10-01T10:00:00+00:00" 20000) ≠ r := by
  intro parse device prove r
  have hr : r.devices.lookup device.mac = some { DeviceRecord.observed device.mac device with
      verifiedByMac := some "02:00:00:00:00:09"
      lastVerifiedAt := some "2026-10-01T10:00:20+00:00"
      status := .offline } := by decide +kernel
  refine ⟨⟨_, hr, .inr rfl, 1790848800, _, 1790848820, by decide, rfl, by decide, by decide⟩, ?_⟩
  decide +kernel

end DeviceRegistry

end PocketStream
