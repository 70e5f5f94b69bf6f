import PocketStream.Foundation.Machine
import PocketStream.Registry.RegistryInvariant

/-! # Ambiguous roles

A reserved role that several records hold marks all of them as ambiguous. The
mark is a status like any other, so it lasts as long as no other status is
written over it and no alias is carried to another holder.
-/

namespace PocketStream

open Foundation

namespace Devices

/-- No other record holds the alias, where it is a reserved role. -/
def SoleHolder (m : Devices) (key aliasName : String) : Prop :=
  isRoleAlias aliasName = true → ∀ k r, m.lookup k = some r → r.aliasName = aliasName → k = key

/-- Whoever holds a reserved role that another record holds is marked. -/
def Settled (m : Devices) : Prop :=
  ∀ key r, m.lookup key = some r → SoleHolder m key r.aliasName ∨ r.status = .offlineAmbiguousRole

variable {m m' : Devices}

/-- A holder keeps its alias and its mark. -/
def KeptFrom (m : Devices) (key : String) (r' : DeviceRecord) : Prop :=
  ∃ r, m.lookup key = some r ∧ r'.aliasName = r.aliasName ∧
    (r.status = .offlineAmbiguousRole → r'.status = .offlineAmbiguousRole)

theorem Settled.of_kept (h : Settled m)
    (halias : ∀ key r', m'.lookup key = some r' → SoleHolder m' key r'.aliasName ∨ KeptFrom m key r') :
    Settled m' := by
  intro key r' hr'
  by_cases hsole : SoleHolder m' key r'.aliasName
  · exact .inl hsole
  right
  -- another holder in `m'` is a holder in `m`, for it is not alone either
  obtain ⟨r, hr, hsame, hmark⟩ := (halias key r' hr').resolve_left hsole
  refine hmark ((h key r hr).resolve_left fun hbefore => hsole fun hrole k s' hs' hk => ?_)
  by_contra hne
  have hothers : ¬ SoleHolder m' k s'.aliasName := fun halone =>
    hne (halone (hk ▸ hrole) key r' hr' hk.symm).symm
  obtain ⟨s, hs, hs'', -⟩ := (halias k s' hs').resolve_left hothers
  exact hne (hbefore (hsame ▸ hrole) k s hs (hs''.symm.trans (hk.trans hsame)))

theorem Settled.mapValues (h : Settled m) {f : DeviceRecord → DeviceRecord}
    (hf : ∀ r, (f r).aliasName = r.aliasName ∧
      (r.status = .offlineAmbiguousRole → (f r).status = .offlineAmbiguousRole)) :
    Settled (m.mapValues fun _ => f) := by
  refine h.of_kept fun key r' hr' => .inr ?_
  rw [FiniteMap.lookup_mapValues, Option.map_eq_some_iff] at hr'
  obtain ⟨r, hr, rfl⟩ := hr'
  exact ⟨r, hr, (hf r).1, (hf r).2⟩

theorem Settled.subset (h : Settled m)
    (hsub : ∀ key r, m'.lookup key = some r → m.lookup key = some r) : Settled m' :=
  h.of_kept fun key r' hr' => .inr ⟨r', hsub key r' hr', rfl, id⟩

/-- Another record than `key` and `out`, which goes, holds the role that `key` is to have. -/
def TakesRole (m : Devices) (key aliasName : String) (out : Option String) : Prop :=
  isRoleAlias aliasName = true ∧
    ∃ k r, m.lookup k = some r ∧ k ≠ key ∧ some k ≠ out ∧ r.aliasName = aliasName

/-- A record that shares a role with another one has its status overwritten; records that
go, or get their alias anew, do not count. -/
def LosesMark (m : Devices) (gone : String → Prop) (touched : String → DeviceRecord → Prop) :
    Prop :=
  ∃ k r, m.lookup k = some r ∧ ¬ gone k ∧ touched k r ∧ isRoleAlias r.aliasName = true ∧
    ∃ k' r', m.lookup k' = some r' ∧ k' ≠ k ∧ ¬ gone k' ∧ r'.aliasName = r.aliasName

/-- What a write of one record leaves: its alias, and the aliases of the others with their
statuses, but for those it touches. -/
structure Rewrites (m m' : Devices) (key aliasName : String) (out : Option String)
    (touched : String → DeviceRecord → Prop) : Prop where
  own : ∀ r', m'.lookup key = some r' → r'.aliasName = aliasName
  others : ∀ k r', k ≠ key → m'.lookup k = some r' → some k ≠ out ∧
    ∃ r, m.lookup k = some r ∧ r'.aliasName = r.aliasName ∧ (r'.status = r.status ∨ touched k r)

theorem Settled.rewrite (h : Settled m) {key aliasName : String} {out : Option String}
    {touched : String → DeviceRecord → Prop} (hw : Rewrites m m' key aliasName out touched)
    (htakes : ¬ TakesRole m key aliasName out)
    (hloses : ¬ LosesMark m (fun k => k = key ∨ some k = out) touched) : Settled m' := by
  have hown : SoleHolder m' key aliasName := fun hrole k r' hr' hk => by
    by_contra hne
    obtain ⟨hout, r, hr, hsame, -⟩ := hw.others k r' hne hr'
    exact htakes ⟨hrole, k, r, hr, hne, hout, hsame.symm.trans hk⟩
  refine h.of_kept fun k r' hr' => ?_
  by_cases hk : k = key
  · subst hk
    exact .inl (hw.own r' hr' ▸ hown)
  obtain ⟨hout, r, hr, hsame, hstatus⟩ := hw.others k r' hk hr'
  rcases hstatus with hstatus | htouched
  · exact .inr ⟨r, hr, hsame, fun hmark => hstatus.trans hmark⟩
  left
  intro hrole k' s' hs' hk'
  by_contra hne
  by_cases hkey : k' = key
  · subst hkey
    have he := (hw.own s' hs').symm.trans hk'
    exact hk (hown (he ▸ hrole) k r' hr' he.symm)
  · obtain ⟨hout', s, hs, hsame', -⟩ := hw.others k' s' hkey hs'
    exact hloses ⟨k, r, hr, not_or.mpr ⟨hk, hout⟩, htouched, hsame ▸ hrole, k', s, hs, hne,
      not_or.mpr ⟨hkey, hout'⟩, hsame'.symm.trans (hk'.trans hsame)⟩

def aliasAt (m : Devices) (key : String) : String := ((m.lookup key).map (·.aliasName)).getD ""

/-- The key a merge of an observation writes. -/
def mergeKey (m : Devices) (device : ArpDevice) : String :=
  (recordKeyForMac m device.mac).getD device.mac

/-- The records a merge takes an address from. -/
def AtAddress (ip : String) (_ : String) (r : DeviceRecord) : Prop := r.ip = ip

variable {key aliasName : String} {out : Option String} {touched : String → DeviceRecord → Prop}

theorem Rewrites.insert (h : Rewrites m m' key aliasName out touched) {r : DeviceRecord}
    {aliasName' : String} (hr : r.aliasName = aliasName') :
    Rewrites m (m'.insert key r) key aliasName' out touched where
  own r' hr' := by
    rw [Finmap.lookup_insert] at hr'
    rw [← Option.some.inj hr', hr]
  others k r' hk hr' := by
    rw [Finmap.lookup_insert_of_ne _ hk] at hr'
    exact h.others k r' hk hr'

theorem Rewrites.erase (h : Rewrites m m' key aliasName none touched) (gone : String) :
    Rewrites m (m'.erase gone) key aliasName (some gone) touched where
  own r' hr' := by
    rw [FiniteMap.lookup_erase] at hr'
    split at hr'
    · cases hr'
    · exact h.own r' hr'
  others k r' hk hr' := by
    rw [FiniteMap.lookup_erase] at hr'
    split at hr'
    · cases hr'
    · next hne => exact ⟨fun he => hne (Option.some.inj he), (h.others k r' hk hr').2⟩

theorem alias_retire (key : String) (device : ArpDevice) (r : DeviceRecord) :
    (retire key device r).aliasName = r.aliasName := by
  unfold retire
  split <;> rfl

theorem aliasAt_eq {r : DeviceRecord} (h : m.lookup key = some r) :
    m.aliasAt key = r.aliasName := by
  simp [aliasAt, h]

/-- The observed record is written over what the others keep. -/
theorem mergeArpLocked_eq (h : Inv m) (device : ArpDevice) (promoteLegacy : Bool) :
    ∃ record : DeviceRecord, record.aliasName = m.aliasAt (m.mergeKey device) ∧
      (∀ r, m.lookup (m.mergeKey device) = some r → r.status = .offlineAmbiguousRole →
        record.status = .offlineAmbiguousRole) ∧
      (m.mergeArpLocked device promoteLegacy).2 =
        (m.mapValues fun _ => retire (m.mergeKey device) device).insert (m.mergeKey device)
          record := by
  unfold mergeArpLocked
  dsimp only
  rw [show (recordKeyForMac m device.mac).getD device.mac = m.mergeKey device from rfl,
    FiniteMap.lookup_mapValues]
  cases hold : m.lookup (m.mergeKey device) with
  | none => exact ⟨_, by simp [aliasAt, hold, DeviceRecord.observed], nofun, rfl⟩
  | some existing =>
    have hown : retire (m.mergeKey device) device existing = existing :=
      if_neg fun hat => hat.2 (h.keyed _ existing hold)
    refine ⟨(existing.observe device promoteLegacy).2, by rw [aliasAt_eq hold]; rfl, ?_, ?_⟩
    · intro r hr hmark
      obtain rfl := Option.some.inj hr
      simp [DeviceRecord.observe, hmark]
    · rw [Option.map_some, hown]

theorem lookup_mergeArpLocked (h : Inv m) (device : ArpDevice) (promoteLegacy : Bool) {k : String}
    (hk : k ≠ m.mergeKey device) :
    (m.mergeArpLocked device promoteLegacy).2.lookup k =
      (m.lookup k).map (retire (m.mergeKey device) device) := by
  obtain ⟨record, -, -, he⟩ := mergeArpLocked_eq h device promoteLegacy
  rw [he, Finmap.lookup_insert_of_ne _ hk, FiniteMap.lookup_mapValues]

theorem rewrites_mergeArpLocked (h : Inv m) (device : ArpDevice) (promoteLegacy : Bool) :
    Rewrites m (m.mergeArpLocked device promoteLegacy).2 (m.mergeKey device)
      (m.aliasAt (m.mergeKey device)) none (AtAddress device.ip) where
  own r' hr' := by
    obtain ⟨record, halias, -, he⟩ := mergeArpLocked_eq h device promoteLegacy
    rw [he, Finmap.lookup_insert] at hr'
    rw [← Option.some.inj hr', halias]
  others k r' hk hr' := by
    rw [lookup_mergeArpLocked h device promoteLegacy hk, Option.map_eq_some_iff] at hr'
    obtain ⟨r, hr, rfl⟩ := hr'
    refine ⟨nofun, r, hr, alias_retire _ device r, ?_⟩
    unfold retire
    split
    · next hat => exact .inr hat.1
    · exact .inl rfl

end Devices

namespace DeviceRegistry

open Devices

variable {parseRfc3339 : String → Option ℤ} {r : DeviceRegistry}

/-- The verified record is the one the merge wrote. -/
theorem mergeVerifiedLocked_cases (h : r.devices.Inv) (device : ArpDevice) (adapter wall : String)
    (now : ℕ) :
    ∃ record verified : DeviceRecord,
      (r.devices.mergeArpLocked device false).2.lookup (r.devices.mergeKey device) = some record ∧
      verified.aliasName = record.aliasName ∧ verified.mac = record.mac ∧
      (r.mergeVerifiedLocked device adapter wall now).2.devices =
        (r.devices.mergeArpLocked device false).2.insert (r.devices.mergeKey device) verified := by
  have hm := merged_mergeArpLocked h device false
  obtain ⟨record, hrecord, -⟩ := hm.record
  have hfound := hm.inv.recordKeyForMac_eq (Finmap.mem_iff.mpr ⟨record, hrecord⟩) hm.same
  refine ⟨record, { record with
    verifiedByMac := canonicalMac adapter
    lastVerifiedAt := some wall
    status := .live }, hrecord, rfl, rfl, ?_⟩
  unfold mergeVerifiedLocked
  dsimp only
  rw [hfound]
  dsimp only
  rw [hrecord]
  rfl

theorem rewrites_mergeVerifiedLocked (h : r.devices.Inv) (device : ArpDevice)
    (adapter wall : String) (now : ℕ) :
    Rewrites r.devices (r.mergeVerifiedLocked device adapter wall now).2.devices
      (r.devices.mergeKey device) (r.devices.aliasAt (r.devices.mergeKey device)) none
      (AtAddress device.ip) := by
  obtain ⟨record, verified, hrecord, halias, -, hdevices⟩ :=
    mergeVerifiedLocked_cases h device adapter wall now
  have hw := rewrites_mergeArpLocked h device false
  rw [hdevices]
  exact hw.insert (halias.trans (hw.own record hrecord))

theorem alias_mergeVerifiedLocked (h : r.devices.Inv) (device : ArpDevice) (adapter wall : String)
    (now : ℕ) {k : String} (hk : k ≠ r.devices.mergeKey device) :
    ((r.mergeVerifiedLocked device adapter wall now).2.devices.lookup k).map (·.aliasName) =
      (r.devices.lookup k).map (·.aliasName) := by
  obtain ⟨-, verified, -, -, -, hdevices⟩ := mergeVerifiedLocked_cases h device adapter wall now
  rw [hdevices, Finmap.lookup_insert_of_ne _ hk, lookup_mergeArpLocked h device false hk,
    Option.map_map]
  exact congrArg (Option.map · _) (funext (alias_retire _ device))

/-- The alias a bound pin leaves on the verified record. -/
def boundAlias (m : Devices) (node : ManualNode) (device : ArpDevice) : String :=
  let pin := (m.lookup ("manual:" ++ node.ip)).map (·.aliasName)
  let chosen := (pin.filter (· != "")).getD node.aliasName
  if chosen ≠ "" then chosen else m.aliasAt (m.mergeKey device)

theorem rewrites_bindPin {m : Devices} {merged : DeviceRegistry} {node : ManualNode}
    {device : ArpDevice} (hinv : merged.devices.Inv) (hmem : m.mergeKey device ∈ merged.devices)
    (hsame : sameMac (m.mergeKey device) device.mac = true)
    (hne : m.mergeKey device ≠ "manual:" ++ node.ip)
    (hpin : (merged.devices.lookup ("manual:" ++ node.ip)).map (·.aliasName) =
      (m.lookup ("manual:" ++ node.ip)).map (·.aliasName))
    (hw : Rewrites m merged.devices (m.mergeKey device) (m.aliasAt (m.mergeKey device)) none
      (AtAddress device.ip)) :
    Rewrites m (merged.bindPin node device).2.devices (m.mergeKey device) (boundAlias m node device)
      (some ("manual:" ++ node.ip)) (AtAddress device.ip) := by
  have herase := hw.erase ("manual:" ++ node.ip)
  have hkept : m.mergeKey device ∈ merged.devices.erase ("manual:" ++ node.ip) :=
    Finmap.mem_erase.mpr ⟨hne, hmem⟩
  have hfound : recordKeyForMac (merged.devices.erase ("manual:" ++ node.ip)) device.mac =
      some (m.mergeKey device) :=
    ((restricts_erase merged.devices _).inv hinv).recordKeyForMac_eq hkept hsame
  obtain ⟨record, hrecord⟩ := Finmap.mem_iff.mp hkept
  have halias := herase.own record hrecord
  unfold bindPin boundAlias
  simp only [hpin, hfound, hrecord, halias]
  generalize ((Option.map (·.aliasName) (m.lookup ("manual:" ++ node.ip))).filter
    (· != "")).getD node.aliasName = chosen
  by_cases hchosen : chosen = ""
  · simpa [hchosen] using herase
  · by_cases hsameAlias : m.aliasAt (m.mergeKey device) = chosen
    · simpa [hchosen, hsameAlias] using hsameAlias ▸ herase
    · simp only [ne_eq, hchosen, not_false_eq_true, hsameAlias, and_self, ↓reduceIte]
      exact herase.insert rfl

/-- The operations that take a mark away, or make a second holder of a role. -/
def Unsettles (parseRfc3339 : String → Option ℤ) (r : DeviceRegistry) : Op → Prop
  | .mergeVerified device adapter wall stale _ =>
    r.accepts parseRfc3339 device adapter wall stale = true ∧
      let key := r.devices.mergeKey device
      (TakesRole r.devices key (r.devices.aliasAt key) none ∨
        LosesMark r.devices (· = key) (AtAddress device.ip))
  | .mergeManualVerified node device adapter wall stale _ =>
    node.ip = device.ip ∧ r.accepts parseRfc3339 device adapter wall stale = true ∧
      let key := r.devices.mergeKey device
      let pin := "manual:" ++ node.ip
      let expected := node.expectedMac.getD device.mac
      if sameMac expected device.mac = true then
        TakesRole r.devices key (boundAlias r.devices node device) (some pin) ∨
          LosesMark r.devices (fun k => k = key ∨ k = pin) (AtAddress device.ip)
      else
        TakesRole r.devices key (r.devices.aliasAt key) none ∨
          LosesMark r.devices (· = key) fun k s =>
            s.ip = device.ip ∨ k = (recordKeyForMac r.devices expected).getD expected
  | .mergeArp device => r.verificationScope = none ∧
      LosesMark r.devices (fun _ => False) fun k s =>
        k ≠ r.devices.mergeKey device ∧ s.ip = device.ip
  | .mergeArpFenced device stale => stale = false ∧ r.verificationScope = none ∧
      LosesMark r.devices (fun _ => False) fun k s =>
        k ≠ r.devices.mergeKey device ∧ s.ip = device.ip
  | .setStatus mac status => status ≠ .live ∧ status ≠ .offlineAmbiguousRole ∧
      ∃ s, r.devices.lookup mac = some s ∧ TakesRole r.devices mac s.aliasName none
  | _ => False

theorem settled_mergeVerifiedLocked (h : r.devices.Inv) (hs : Devices.Settled r.devices)
    {device : ArpDevice} {adapter wall : String} {now : ℕ}
    (htakes : ¬ TakesRole r.devices (r.devices.mergeKey device)
      (r.devices.aliasAt (r.devices.mergeKey device)) none)
    (hloses : ¬ LosesMark r.devices (· = r.devices.mergeKey device) (AtAddress device.ip)) :
    Devices.Settled (r.mergeVerifiedLocked device adapter wall now).2.devices := by
  refine hs.rewrite (rewrites_mergeVerifiedLocked h device adapter wall now) htakes ?_
  simpa using hloses

theorem settled_mergeArp (h : r.devices.Inv) (hs : Devices.Settled r.devices) {device : ArpDevice}
    (hcalm : ¬ (r.verificationScope = none ∧ LosesMark r.devices (fun _ => False) fun k s =>
      k ≠ r.devices.mergeKey device ∧ s.ip = device.ip)) :
    Devices.Settled (r.mergeArp device).2.devices := by
  unfold mergeArp
  split
  · exact hs
  next hscope =>
  have hcalm := fun hl => hcalm ⟨by simpa using hscope, hl⟩
  obtain ⟨record, halias, hmark, he⟩ := mergeArpLocked_eq h device true
  have hothers := fun k (hk : k ≠ r.devices.mergeKey device) =>
    lookup_mergeArpLocked h device true hk
  change Devices.Settled (r.devices.mergeArpLocked device true).2
  -- every holder held the same role before
  have hbefore : ∀ k s', (r.devices.mergeArpLocked device true).2.lookup k = some s' →
      isRoleAlias s'.aliasName = true →
      ∃ s, r.devices.lookup k = some s ∧ s'.aliasName = s.aliasName := by
    intro k s' hs' hrole
    by_cases hk : k = r.devices.mergeKey device
    · subst hk
      rw [he, Finmap.lookup_insert] at hs'
      obtain rfl := Option.some.inj hs'
      cases hold : r.devices.lookup (r.devices.mergeKey device) with
      | none => rw [halias, aliasAt, hold] at hrole; cases hrole
      | some s => exact ⟨s, rfl, halias.trans (aliasAt_eq hold)⟩
    · rw [hothers k hk, Option.map_eq_some_iff] at hs'
      obtain ⟨s, hs, rfl⟩ := hs'
      exact ⟨s, hs, alias_retire _ device s⟩
  refine hs.of_kept fun k s' hs' => ?_
  by_cases hrole : isRoleAlias s'.aliasName = true
  · obtain ⟨s, hs₀, hsame⟩ := hbefore k s' hs' hrole
    by_cases hk : k = r.devices.mergeKey device
    · subst hk
      rw [he, Finmap.lookup_insert] at hs'
      obtain rfl := Option.some.inj hs'
      exact .inr ⟨s, hs₀, hsame, hmark s hs₀⟩
    · rw [hothers k hk, hs₀] at hs'
      obtain rfl := Option.some.inj hs'
      unfold retire
      split
      · next hat =>
        left
        intro _ k' t' ht' hk'
        by_contra hne
        have hrole' : isRoleAlias t'.aliasName = true := hk' ▸ hsame ▸ (hsame ▸ hrole)
        obtain ⟨t, ht, hsame'⟩ := hbefore k' t' ht' hrole'
        exact hcalm ⟨k, s, hs₀, id, ⟨hk, hat.1⟩, hsame ▸ hrole, k', t, ht, hne, id,
          hsame'.symm.trans hk'⟩
      · exact .inr ⟨s, hs₀, rfl, id⟩
  · exact .inl fun h => absurd h hrole

theorem merged_key (h : r.devices.Inv) (device : ArpDevice) (adapter wall : String) (now : ℕ) :
    r.devices.mergeKey device ∈ (r.mergeVerifiedLocked device adapter wall now).2.devices ∧
      sameMac (r.devices.mergeKey device) device.mac = true := by
  obtain ⟨-, verified, -, -, -, hdevices⟩ := mergeVerifiedLocked_cases h device adapter wall now
  rw [hdevices]
  exact ⟨Finmap.mem_insert.mpr (.inl rfl), (h.sole_recordKey device.mac).2⟩

theorem rewrites_rejectExpected {m : Devices} {merged : DeviceRegistry} {key aliasName : String}
    {touched : String → DeviceRecord → Prop} {expectedKey : String} (hne : key ≠ expectedKey)
    (hw : Rewrites m merged.devices key aliasName none touched) :
    Rewrites m (merged.rejectExpected expectedKey).2.devices key aliasName none
      fun k s => touched k s ∨ k = expectedKey := by
  unfold rejectExpected
  cases hold : merged.devices.lookup expectedKey with
  | none =>
    refine ⟨hw.own, fun k r' hk hr' => ?_⟩
    obtain ⟨hout, s, hs, hsame, hstatus⟩ := hw.others k r' hk hr'
    exact ⟨hout, s, hs, hsame, hstatus.imp_right .inl⟩
  | some old =>
    refine ⟨fun r' hr' => ?_, fun k r' hk hr' => ?_⟩
    · rw [Finmap.lookup_insert_of_ne _ hne] at hr'
      exact hw.own r' hr'
    · rw [FiniteMap.lookup_insert] at hr'
      split at hr'
      · next hk' =>
        subst hk'
        obtain ⟨hout, s, hs, hsame, -⟩ := hw.others k old hk hold
        obtain rfl := Option.some.inj hr'
        exact ⟨hout, s, hs, hsame, .inr (.inr rfl)⟩
      · obtain ⟨hout, s, hs, hsame, hstatus⟩ := hw.others k r' hk hr'
        exact ⟨hout, s, hs, hsame, hstatus.imp_right .inl⟩

theorem canonical_of_accepts {device : ArpDevice} {adapter wall : String} {stale : Bool}
    (h : r.accepts parseRfc3339 device adapter wall stale = true) :
    (canonicalMac device.mac).isSome = true := by
  simp only [accepts, verificationValid, Bool.and_eq_true] at h
  exact h.1.1.1.1.1.1.2

theorem mergeKey_ne_manual (h : r.devices.Inv) {device : ArpDevice}
    (hcanonical : (canonicalMac device.mac).isSome = true) (ip : String) :
    r.devices.mergeKey device ≠ "manual:" ++ ip := by
  intro he
  have hsame : sameMac (r.devices.mergeKey device) device.mac = true :=
    (h.sole_recordKey device.mac).2
  rw [sameMac_iff, denotedMac, denotedMac, he, canonicalMac_manual] at hsame
  cases hc : canonicalMac device.mac with
  | none => simp [hc] at hcanonical
  | some c => simp [hc] at hsame

theorem mergeKey_ne_expected (h : r.devices.Inv) {device : ArpDevice} {expected : String}
    (hexpected : ¬ sameMac expected device.mac = true) :
    r.devices.mergeKey device ≠ (recordKeyForMac r.devices expected).getD expected := by
  intro he
  have hexp := (h.sole_recordKey expected).2
  rw [← he] at hexp
  exact hexpected (sameMac_trans (sameMac_symm hexp) (h.sole_recordKey device.mac).2)

theorem settled_mergeManualVerified (h : r.devices.Inv) (hs : Devices.Settled r.devices)
    {node : ManualNode} {device : ArpDevice} {adapter wall : String} {stale : Bool} {now : ℕ}
    (hcalm : ¬ Unsettles parseRfc3339 r (.mergeManualVerified node device adapter wall stale now)) :
    Devices.Settled (r.mergeManualVerified parseRfc3339 node device adapter wall stale now).2.devices := by
  unfold mergeManualVerified
  split
  · exact hs
  next hok =>
  rw [not_or, not_not, Bool.not_eq_true', Bool.not_eq_false] at hok
  have hcalm := fun hl => hcalm ⟨hok.1, hok.2, hl⟩
  have hw := rewrites_mergeVerifiedLocked h device adapter wall now
  obtain ⟨hmem, hsame⟩ := merged_key h device adapter wall now
  have hcanonical := canonical_of_accepts hok.2
  dsimp only at hcalm ⊢
  split
  · next hexpected =>
    rw [if_pos hexpected] at hcalm
    obtain ⟨htakes, hloses⟩ := not_or.mp hcalm
    obtain ⟨key, hm⟩ := merged_mergeVerifiedLocked h device adapter wall now
    have hne := mergeKey_ne_manual h hcanonical node.ip
    refine hs.rewrite (rewrites_bindPin hm.inv hmem hsame hne ?_ hw) htakes ?_
    · exact alias_mergeVerifiedLocked h device adapter wall now hne.symm
    · simpa using hloses
  · next hexpected =>
    rw [if_neg hexpected] at hcalm
    obtain ⟨htakes, hloses⟩ := not_or.mp hcalm
    refine hs.rewrite (rewrites_rejectExpected (mergeKey_ne_expected h hexpected) hw) htakes ?_
    simpa [AtAddress] using hloses

/-- A role that several records hold is among the ambiguous ones. -/
theorem mem_ambiguousRoles {m : Devices} {role : String} :
    role ∈ ambiguousRoles m ↔ role ∈ roleAliases ∧ ∃ k k', k ≠ k' ∧
      (m.lookup k).map (·.aliasName) = some role ∧ (m.lookup k').map (·.aliasName) = some role := by
  have hheld : ∀ k, (k ∈ m ∧ ∃ s, m.lookup k = some s ∧ s.aliasName = role) ↔
      (m.lookup k).map (·.aliasName) = some role := fun k => by
    rw [Option.map_eq_some_iff]
    exact ⟨And.right, fun ⟨s, hs, hk⟩ => ⟨Finmap.mem_of_lookup_eq_some hs, s, hs, hk⟩⟩
  simp only [ambiguousRoles, List.mem_filter, decide_eq_true_eq, Finset.one_lt_card,
    Finset.mem_filter, Finmap.mem_keys, Option.any_eq_true, beq_iff_eq, hheld]
  refine and_congr_right fun _ => ?_
  constructor
  · rintro ⟨k, hk, k', hk', hne⟩
    exact ⟨k, k', hne, hk, hk'⟩
  · rintro ⟨k, k', hne, hk, hk'⟩
    exact ⟨k, hk, k', hk', hne⟩

theorem isRoleAlias_iff {aliasName : String} :
    isRoleAlias aliasName = true ↔ aliasName ∈ roleAliases := by
  simp [isRoleAlias]

/-- The alias an assignment leaves, at the selected key and elsewhere. -/
theorem alias_assignAlias {key role : String} {s : DeviceRecord} (hrole : isRoleAlias role = true) :
    (assignAlias key role s).aliasName =
      if s.mac = key then role else if s.aliasName = role then "" else s.aliasName := by
  unfold assignAlias
  split
  · rfl
  · split
    · next h => simp [h.2]
    · next h =>
      rw [if_neg]
      exact fun he => h ⟨hrole, he⟩

theorem alias_resolveRole (roles : List String) (s : DeviceRecord) :
    (resolveRole roles s).aliasName = s.aliasName := by
  unfold resolveRole
  split <;> rfl

/-- Assigning an alias leaves the other aliases, or empties those of the role. -/
theorem lookup_setAlias {key : String} (hkey : key ∈ r.devices) (aliasName k : String) :
    (r.setAlias key aliasName).2.devices.lookup k =
      ((r.devices.lookup k).map (assignAlias key aliasName)).map
        (resolveRole (ambiguousRoles (r.devices.mapValues fun _ => assignAlias key aliasName))) := by
  unfold setAlias
  rw [if_neg (not_not.mpr hkey)]
  dsimp only
  rw [FiniteMap.lookup_mapValues, FiniteMap.lookup_mapValues]

/-- A mark outlives an assignment only where the role is still ambiguous. -/
theorem marked_setAlias {key aliasName k : String} {s : DeviceRecord} (hkey : key ∈ r.devices)
    (hs : (r.setAlias key aliasName).2.devices.lookup k = some s)
    (hmark : s.status = .offlineAmbiguousRole) :
    s.aliasName ∈ roleAliases ∧ ¬ SoleHolder (r.setAlias key aliasName).2.devices k s.aliasName := by
  have hlookup := lookup_setAlias hkey aliasName
  rw [hlookup, Option.map_eq_some_iff] at hs
  obtain ⟨t, ht, rfl⟩ := hs
  have hamb : t.aliasName ∈ ambiguousRoles (r.devices.mapValues fun _ => assignAlias key aliasName) := by
    by_contra hnot
    unfold resolveRole at hmark
    split at hmark
    · cases hmark
    · next h => exact h ⟨hmark, hnot⟩
  rw [alias_resolveRole]
  obtain ⟨hrole, k₁, k₂, hne, h₁, h₂⟩ := mem_ambiguousRoles.mp hamb
  refine ⟨hrole, fun hsole => ?_⟩
  rw [FiniteMap.lookup_mapValues] at h₁ h₂
  have hall : ∀ k', ((r.devices.lookup k').map (assignAlias key aliasName)).map (·.aliasName) =
      some t.aliasName → k' = k := fun k' h' => by
    obtain ⟨s', hs', he⟩ := Option.map_eq_some_iff.mp h'
    exact hsole (isRoleAlias_iff.mpr hrole) k' _ (by rw [hlookup, hs', Option.map_some])
      ((alias_resolveRole _ _).trans he)
  exact hne ((hall k₁ h₁).trans (hall k₂ h₂).symm)

/-- A selected key is the only holder of its role. -/
theorem sole_setAlias (h : r.devices.Inv) {key aliasName : String} (hkey : key ∈ r.devices) :
    SoleHolder (r.setAlias key aliasName).2.devices key aliasName := by
  intro hrole k s hs hk
  rw [lookup_setAlias hkey, Option.map_map, Option.map_eq_some_iff] at hs
  obtain ⟨t, ht, rfl⟩ := hs
  rw [Function.comp_apply, alias_resolveRole, alias_assignAlias hrole] at hk
  split at hk
  · next hmac => exact (h.keyed k t ht).symm.trans hmac
  · split at hk
    · rw [← hk] at hrole
      cases hrole
    · next hne => exact absurd hk hne

theorem settled_setAlias (h : r.devices.Inv) (hs : Devices.Settled r.devices)
    (key aliasName : String) :
    Devices.Settled (r.setAlias key aliasName).2.devices := by
  by_cases hkey : key ∈ r.devices
  · refine hs.of_kept fun k s hk => ?_
    have hlookup := hk
    rw [lookup_setAlias hkey, Option.map_map, Option.map_eq_some_iff] at hlookup
    obtain ⟨t, ht, rfl⟩ := hlookup
    rw [Function.comp_apply] at hk ⊢
    by_cases hmac : t.mac = key
    · left
      have hself : k = key := (h.keyed k t ht).symm.trans hmac
      subst hself
      rw [alias_resolveRole, show (assignAlias k aliasName t).aliasName = aliasName by
        simp [assignAlias, hmac]]
      exact sole_setAlias h hkey
    by_cases htaken : isRoleAlias aliasName = true ∧ t.aliasName = aliasName
    · left
      rw [alias_resolveRole, show (assignAlias key aliasName t).aliasName = "" by
        simp [assignAlias, hmac, htaken]]
      exact nofun
    have hsame : assignAlias key aliasName t = t := by simp [assignAlias, hmac, htaken]
    rw [hsame] at hk ⊢
    unfold resolveRole at hk ⊢
    split at hk
    · next hcleared =>
      rw [if_pos hcleared]
      left
      intro hrole k' s' hs' hk'
      by_contra hne
      rw [lookup_setAlias hkey, Option.map_map, Option.map_eq_some_iff] at hs'
      obtain ⟨t', ht', rfl⟩ := hs'
      rw [Function.comp_apply, alias_resolveRole] at hk'
      refine hcleared.2 (mem_ambiguousRoles.mpr ⟨isRoleAlias_iff.mp hrole, k, k', Ne.symm hne,
        ?_, ?_⟩)
      · rw [FiniteMap.lookup_mapValues, ht, Option.map_some, Option.map_some, hsame]
      · rw [FiniteMap.lookup_mapValues, ht', Option.map_some, Option.map_some, hk']
    · next hkept =>
      rw [if_neg hkept]
      exact .inr ⟨t, ht, rfl, id⟩
  · unfold setAlias
    rw [if_pos hkey]
    exact hs

theorem alias_markRole (role : String) (s : DeviceRecord) :
    (markRole role s).aliasName = s.aliasName := by
  unfold markRole
  split <;> rfl

theorem ambiguousRoles_congr {m m' : Devices}
    (h : ∀ k, (m'.lookup k).map (·.aliasName) = (m.lookup k).map (·.aliasName)) (role : String) :
    role ∈ ambiguousRoles m' ↔ role ∈ ambiguousRoles m := by
  simp only [mem_ambiguousRoles, h]

/-- The step of the normalisation for one role. -/
def normalizeRole (m : Devices) (role : String) : Devices :=
  if role ∈ ambiguousRoles m then m.mapValues fun _ => markRole role else m

theorem lookup_normalizeRole (m : Devices) (role k : String) :
    ∃ f : DeviceRecord → DeviceRecord, (normalizeRole m role).lookup k = (m.lookup k).map f ∧
      ∀ s, (f s).aliasName = s.aliasName ∧
        (s.status = .offlineAmbiguousRole ∨ s.aliasName = role ∧ role ∈ ambiguousRoles m →
          (f s).status = .offlineAmbiguousRole) := by
  unfold normalizeRole
  split
  · refine ⟨markRole role, FiniteMap.lookup_mapValues _ m k, fun s => ⟨alias_markRole role s, ?_⟩⟩
    unfold markRole
    split
    · exact fun _ => rfl
    · next hne => exact fun h => h.resolve_right fun he => hne he.1
  · next hnot =>
    exact ⟨id, Option.map_id'.symm, fun s => ⟨rfl, fun h => h.resolve_right fun he => hnot he.2⟩⟩

/-- The normalisation keeps every alias and marks the holders of every ambiguous role. -/
theorem normalize_fold (roles : List String) (m : Devices) :
    (∀ k, ((roles.foldl normalizeRole m).lookup k).map (·.aliasName) =
      (m.lookup k).map (·.aliasName)) ∧
    ∀ k s', (roles.foldl normalizeRole m).lookup k = some s' →
      ∃ s, m.lookup k = some s ∧ s'.aliasName = s.aliasName ∧
        (s.status = .offlineAmbiguousRole ∨ s.aliasName ∈ roles ∧ s.aliasName ∈ ambiguousRoles m →
          s'.status = .offlineAmbiguousRole) := by
  induction roles generalizing m with
  | nil => exact ⟨fun _ => rfl, fun k s' h => ⟨s', h, rfl, fun h => h.resolve_right (by simp)⟩⟩
  | cons role roles ih =>
    obtain ⟨halias, hmark⟩ := ih (normalizeRole m role)
    have hstep : ∀ k, ((normalizeRole m role).lookup k).map (·.aliasName) =
        (m.lookup k).map (·.aliasName) := fun k => by
      obtain ⟨f, hf, hkept⟩ := lookup_normalizeRole m role k
      rw [hf, Option.map_map]
      exact congrArg (Option.map · _) (funext fun s => (hkept s).1)
    refine ⟨fun k => (halias k).trans (hstep k), fun k s' hs' => ?_⟩
    obtain ⟨s₁, hs₁, hsame, hmarked⟩ := hmark k s' hs'
    obtain ⟨f, hf, hkept⟩ := lookup_normalizeRole m role k
    rw [hf, Option.map_eq_some_iff] at hs₁
    obtain ⟨s, hs, rfl⟩ := hs₁
    refine ⟨s, hs, hsame.trans (hkept s).1, fun h => hmarked ?_⟩
    rw [(hkept s).1, ambiguousRoles_congr hstep]
    rcases h with h | ⟨hmem, hamb⟩
    · exact .inl ((hkept s).2 (.inl h))
    · rcases List.mem_cons.mp hmem with he | hmem
      · exact .inl ((hkept s).2 (.inr ⟨he, he ▸ hamb⟩))
      · exact .inr ⟨hmem, hamb⟩

theorem settled_normalize (r : DeviceRegistry) :
    Devices.Settled r.normalizeRoleDuplicates.2.devices := by
  obtain ⟨halias, hmark⟩ := normalize_fold roleAliases r.devices
  intro k s' hs'
  by_cases hsole : SoleHolder r.normalizeRoleDuplicates.2.devices k s'.aliasName
  · exact .inl hsole
  right
  obtain ⟨s, hs, hsame, hmarked⟩ := hmark k s' hs'
  simp only [SoleHolder, not_forall] at hsole
  obtain ⟨hrole, k', t', ht', hk', hne⟩ := hsole
  have hmem : s.aliasName ∈ roleAliases := hsame ▸ isRoleAlias_iff.mp hrole
  refine hmarked (.inr ⟨hmem, mem_ambiguousRoles.mpr ⟨hmem, k, k', Ne.symm hne, ?_, ?_⟩⟩)
  · rw [hs, Option.map_some]
  · rw [← halias k']
    change (r.normalizeRoleDuplicates.2.devices.lookup k').map _ = _
    rw [ht', Option.map_some, hk', hsame]

theorem settled_setStatus (hs : Devices.Settled r.devices) {mac : String} {status : DeviceStatus}
    (hcalm : ¬ Unsettles parseRfc3339 r (.setStatus mac status)) :
    Devices.Settled (r.setStatus mac status).2.devices := by
  unfold setStatus
  split
  · exact hs
  next hlive =>
  split
  · exact hs
  next record hrecord =>
  split
  · refine hs.of_kept fun k s' hs' => ?_
    rw [FiniteMap.lookup_insert] at hs'
    split at hs'
    · next hk =>
      subst hk
      obtain rfl := Option.some.inj hs'
      by_cases hmark : status = .offlineAmbiguousRole
      · exact .inr ⟨record, hrecord, rfl, fun _ => hmark⟩
      left
      intro hrole k' t ht hk'
      rw [FiniteMap.lookup_insert] at ht
      split at ht
      · next he => exact he
      · next hne =>
        exact absurd ⟨hlive, hmark, record, hrecord, hrole, k', t, ht, hne, nofun, hk'⟩ hcalm
    · exact .inr ⟨s', hs', rfl, id⟩
  · exact hs

theorem settled_mergeScanResult (hs : Devices.Settled r.devices) (key : String)
    (openPorts : List UInt16) (stale : Option Bool) : Devices.Settled (r.mergeScanResultFenced key openPorts stale).2.devices := by
  unfold mergeScanResultFenced
  split
  · exact hs
  split
  · exact hs
  next record hrecord =>
  split
  · refine hs.of_kept fun k s' hs' => .inr ?_
    rw [FiniteMap.lookup_insert] at hs'
    split at hs'
    · next hk =>
      subst hk
      obtain rfl := Option.some.inj hs'
      exact ⟨record, hrecord, rfl, id⟩
    · exact ⟨s', hs', rfl, id⟩
  · exact hs

def Op.hydrates : Op → Bool
  | hydrateFromCache _ | hydrateManualNodes _ _ => true
  | _ => false

theorem settled_apply (h : r.devices.Inv) (hs : Devices.Settled r.devices) {op : Op}
    (hop : op.hydrates = false) (hcalm : ¬ Unsettles parseRfc3339 r op) :
    Devices.Settled (r.apply parseRfc3339 op).devices := by
  cases op with
  | hydrateFromCache | hydrateManualNodes => cases hop
  | mergeVerified device adapter wall stale now =>
    change Devices.Settled (r.mergeVerified parseRfc3339 device adapter wall stale now).2.devices
    unfold mergeVerified
    split
    · next hok =>
      obtain ⟨htakes, hloses⟩ := not_or.mp fun hl => hcalm ⟨hok, hl⟩
      exact settled_mergeVerifiedLocked h hs htakes hloses
    · exact hs
  | mergeManualVerified node device adapter wall stale now =>
    exact settled_mergeManualVerified h hs hcalm
  | mergeArp device => exact settled_mergeArp h hs hcalm
  | mergeArpFenced device stale =>
    cases stale with
    | true => exact hs
    | false => exact settled_mergeArp h hs fun hl => hcalm ⟨rfl, hl⟩
  | mergeScanResult key openPorts stale => exact settled_mergeScanResult hs key openPorts stale
  | setAlias key aliasName => exact settled_setAlias h hs key aliasName
  | normalizeRoleDuplicates => exact settled_normalize r
  | setStatus mac status => exact settled_setStatus hs hcalm
  | setVerificationScope adapter => exact hs
  | rememberVerifiedAt mac wall proved stale =>
    refine hs.subset fun k s hk => ?_
    simp only [apply, rememberVerifiedAt] at hk
    split at hk
    · exact hk
    · split at hk <;> exact hk
  | expireEvidence now =>
    refine hs.mapValues fun s => ?_
    unfold expireRecord
    split
    · next hlive => exact ⟨rfl, fun hmark => by rw [hmark] at hlive; cases hlive.1⟩
    · exact ⟨rfl, id⟩
  | expireAll =>
    refine hs.mapValues fun s => ?_
    unfold demote
    split
    · next hlive => exact ⟨rfl, fun hmark => by rw [hmark] at hlive; cases hlive⟩
    · exact ⟨rfl, id⟩
  | removeByMac mac | forget mac =>
    refine hs.subset fun k s hk => ?_
    rw [show (r.apply parseRfc3339 _).devices = r.devices.erase mac from rfl,
      FiniteMap.lookup_erase] at hk
    split at hk
    · cases hk
    · exact hk
  | removeManualEntries =>
    refine hs.subset fun k s hk => ?_
    rw [show (r.apply parseRfc3339 .removeManualEntries).devices = r.devices.retain _ from rfl,
      FiniteMap.lookup_retain, Option.filter_eq_some_iff] at hk
    exact hk.1

/-- The registry, and whether the roles were normalised after the last hydration. -/
structure RoleState where
  registry : DeviceRegistry
  normalized : Bool

def roleMachine (parseRfc3339 : String → Option ℤ) : Machine RoleState Op where
  initial := ⟨{}, false⟩
  step s op := some
    { registry := s.registry.apply parseRfc3339 op
      normalized := match op with
        | .hydrateFromCache _ | .hydrateManualNodes _ _ => false
        | .normalizeRoleDuplicates => true
        | _ => s.normalized }

/-- Once the roles are normalised, the operation leaves marks and holders alone. -/
def KeepsRoles (parseRfc3339 : String → Option ℤ) (s : RoleState) (op : Op) : Prop :=
  s.normalized = true → ¬ Unsettles parseRfc3339 s.registry op

structure RoleState.Inv (s : RoleState) : Prop where
  registry : s.registry.devices.Inv
  settled : s.normalized = true → Devices.Settled s.registry.devices

theorem RoleState.Inv.step {s s' : RoleState} {op : Op} (h : s.Inv)
    (hcalm : KeepsRoles parseRfc3339 s op)
    (hs : (roleMachine parseRfc3339).step s op = some s') : s'.Inv := by
  obtain rfl := Option.some.inj hs
  refine ⟨(steps_apply h.registry op).inv, fun hn => ?_⟩
  cases hop : op.hydrates with
  | true =>
    cases op with
    | hydrateFromCache | hydrateManualNodes => cases hn
    | _ => cases hop
  | false =>
    by_cases hbefore : s.normalized = true
    · exact settled_apply h.registry (h.settled hbefore) hop (hcalm hbefore)
    · cases op with
      | normalizeRoleDuplicates => exact settled_normalize s.registry
      | hydrateFromCache | hydrateManualNodes => cases hop
      | _ => exact absurd hn hbefore

theorem inv_of_keepsRoles {s : RoleState}
    (h : (roleMachine parseRfc3339).Reaches (KeepsRoles parseRfc3339) s) : s.Inv := by
  apply h.invariant (Q := fun _ => True) fun _ _ => trivial
  · exact ⟨inv_empty, fun hn => by cases hn⟩
  · intro s s' op _ hinv hcalm hs
    exact hinv.step hcalm hs

/-- In a run that leaves marks and holders alone, a normalised registry has at most one
unmarked holder of each role and a live holder is the only one. An assignment leaves its key
the only holder, and a mark only where the role is still ambiguous. -/
theorem roles_settled {s : RoleState}
    (h : (roleMachine parseRfc3339).Reaches (KeepsRoles parseRfc3339) s) :
    (s.normalized = true → ∀ role ∈ roleAliases,
      (∀ k k' r r', s.registry.devices.lookup k = some r → s.registry.devices.lookup k' = some r' →
        r.aliasName = role → r'.aliasName = role → r.status ≠ .offlineAmbiguousRole →
        r'.status ≠ .offlineAmbiguousRole → k = k') ∧
      ∀ k r, s.registry.devices.lookup k = some r → r.aliasName = role → r.status = .live →
        ∀ k' r', s.registry.devices.lookup k' = some r' → r'.aliasName = role → k' = k) ∧
    ∀ key ∈ s.registry.devices, ∀ role ∈ roleAliases,
      (∀ k, ((s.registry.setAlias key role).2.devices.lookup k).map (·.aliasName) = some role ↔
        k = key) ∧
      ∀ k r, (s.registry.setAlias key role).2.devices.lookup k = some r →
        r.status = .offlineAmbiguousRole → r.aliasName ∈ roleAliases ∧
        ∃ k', k' ≠ k ∧ ((s.registry.setAlias key role).2.devices.lookup k').map (·.aliasName) =
          some r.aliasName := by
  obtain ⟨hinv, hsettled⟩ := inv_of_keepsRoles h
  refine ⟨fun hn role hrole => ⟨?_, ?_⟩, fun key hkey role hrole => ⟨fun k => ?_, ?_⟩⟩
  · intro k k' r r' hr hr' hk hk' hmark _
    have hsole := (hsettled hn k r hr).resolve_right hmark
    exact (hsole (hk ▸ isRoleAlias_iff.mpr hrole) k' r' hr' (hk'.trans hk.symm)).symm
  · intro k r hr hk hlive k' r' hr' hk'
    have hsole := (hsettled hn k r hr).resolve_right fun hmark => by
      rw [hlive] at hmark
      cases hmark
    exact hsole (hk ▸ isRoleAlias_iff.mpr hrole) k' r' hr' (hk'.trans hk.symm)
  · constructor
    · intro hk
      obtain ⟨t, ht, he⟩ := Option.map_eq_some_iff.mp hk
      exact sole_setAlias hinv hkey (isRoleAlias_iff.mpr hrole) k t ht he
    · rintro rfl
      obtain ⟨t, ht⟩ := Finmap.mem_iff.mp hkey
      rw [lookup_setAlias hkey, ht, Option.map_some, Option.map_some, Option.map_some,
        alias_resolveRole, alias_assignAlias (isRoleAlias_iff.mpr hrole),
        if_pos (hinv.keyed k t ht)]
  · intro k r hr hmark
    obtain ⟨hmem, hshared⟩ := marked_setAlias hkey hr hmark
    refine ⟨hmem, ?_⟩
    simp only [SoleHolder, not_forall] at hshared
    obtain ⟨-, k', t, ht, he, hne⟩ := hshared
    exact ⟨k', hne, by rw [ht, Option.map_some, he]⟩

section Example

def cachedCamera (mac ip : String) : CachedDevice where
  verifiedByMac := none
  lastVerifiedAt := none
  mac := mac
  ip := ip
  subnet := "192.168.1.0/24"
  openPorts := [554]
  aliasName := "CAM"
  lastSeen := "2026-07-01T00:00:00Z"

/-- Two cached cameras, marked as ambiguous. -/
def twoCameras : List Op :=
  [.hydrateFromCache [cachedCamera "aa:bb:cc:dd:ee:01" "192.168.1.10",
    cachedCamera "aa:bb:cc:dd:ee:02" "192.168.1.20"], .normalizeRoleDuplicates]

theorem roles_settled_two_cameras :
    ∃ s, (roleMachine fun _ => some 0).run ⟨{}, false⟩ twoCameras = some s ∧
      s.normalized = true ∧ ∀ k r, s.registry.devices.lookup k = some r → r.aliasName = "CAM" →
        r.status = .live → ∀ k' r', s.registry.devices.lookup k' = some r' →
          r'.aliasName = "CAM" → k' = k := by
  refine ⟨_, rfl, rfl, ?_⟩
  have hadmits : (roleMachine fun _ => some 0).Admits (KeepsRoles fun _ => some 0) ⟨{}, false⟩
      twoCameras := by
    constructor
    · exact fun _ => id
    · rintro _ ⟨⟩
      exact ⟨fun _ => id, fun _ _ => trivial⟩
  exact (((roles_settled (.run .initial hadmits rfl)).1 rfl) "CAM" (by decide)).2

/-- A proof makes an ambiguous camera live, and a second one the other camera. -/
theorem proof_settles_ambiguity :
    let prove := fun mac ip => Op.mergeVerified ⟨mac, ip, "192.168.1.0/24", "", ""⟩
      "40:cd:3a:00:00:01" "2026-10-19T12:00:00Z" false 0
    ∃ s, (roleMachine fun _ => some 0).run ⟨{}, false⟩ (twoCameras ++
        [prove "aa:bb:cc:dd:ee:01" "192.168.1.10", prove "aa:bb:cc:dd:ee:02" "192.168.1.20"]) =
          some s ∧ s.normalized = true ∧
      ∀ key ∈ ["aa:bb:cc:dd:ee:01", "aa:bb:cc:dd:ee:02"],
        (s.registry.devices.lookup key).map (fun r => (r.aliasName, r.status)) =
          some ("CAM", .live) := by
  refine ⟨_, rfl, rfl, ?_⟩
  decide +kernel

end Example

end DeviceRegistry

end PocketStream
