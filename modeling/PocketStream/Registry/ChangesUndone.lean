import PocketStream.Registry.NodeNames

/-! # Changes that are undone

The nodes of one record may name it back and forth, and a record whose place another
device took is retired and marked again. Every other flag is exact.
-/

namespace PocketStream

open Foundation

namespace Devices

variable {m : Devices} {device : ArpDevice} {adapter verifiedAt : String}

theorem alias_upserted (device : ArpDevice) (promoteLegacy : Bool) :
    (m.upserted device promoteLegacy).aliasName = m.aliasAt (m.mergeKey device) := by
  unfold upserted aliasAt
  cases m.lookup (m.mergeKey device) <;> rfl

theorem retire_eq_self {key : String} {s : DeviceRecord} :
    retire key device s = s ↔ (s.ip = device.ip → s.mac ≠ key → s.status = .offline) := by
  have hexact : s.retires key device = true ↔ retire key device s ≠ s :=
    DeviceRecord.exact_retire key device s
  rw [← not_iff_not, ← ne_eq, ← hexact]
  simp [DeviceRecord.retires, and_assoc]

/-- The call repeats a proof that is held, of a device in the place of the expected one: whoever
else has the address is offline, and the expected record has its mark. -/
def Repeats (m : Devices) (device : ArpDevice) (adapter verifiedAt expectedKey : String) : Prop :=
  (∃ old, m.lookup expectedKey = some old ∧ old.ip = device.ip ∧
    old.status = .offlineDifferentDevice) ∧
  m.HoldsProof device adapter verifiedAt ∧
  ∀ k r, m.lookup k = some r → k ≠ expectedKey → k ≠ m.mergeKey device → r.ip = device.ip →
    r.status = .offline

end Devices

namespace DeviceRegistry

open Devices

variable {r : DeviceRegistry} {device : ArpDevice} {adapter verifiedAt : String}

theorem mergeVerifiedLocked_devices (h : r.devices.Inv) (now : ℕ) :
    (r.mergeVerifiedLocked device adapter verifiedAt now).2.devices =
      r.devices.verified device adapter verifiedAt := by
  unfold mergeVerifiedLocked
  dsimp only
  rw [recordKey_merged h]
  dsimp only
  rw [lookup_merged h]
  rfl

theorem exact_bindPin (r : DeviceRegistry) (node : ManualNode) (device : ArpDevice) :
    Exact (r.bindPin node device).1 r.devices (r.bindPin node device).2.devices := by
  unfold bindPin
  dsimp only
  split
  · exact FiniteMap.exact_erase
  next key _ =>
  split
  · exact FiniteMap.exact_erase
  next record hrecord =>
  split
  · next halias =>
    refine ⟨fun _ he => ?_, fun _ => rfl⟩
    rw [FiniteMap.lookup_erase] at hrecord
    split at hrecord
    · cases hrecord
    · rw [← he, Finmap.lookup_insert] at hrecord
      exact halias.2 (congrArg DeviceRecord.aliasName (Option.some.inj hrecord)).symm
  · exact FiniteMap.exact_erase

theorem exact_rejectExpected (r : DeviceRegistry) (key : String) :
    Exact (r.rejectExpected key).1 r.devices (r.rejectExpected key).2.devices := by
  unfold rejectExpected
  split
  · exact exact_same _
  · next old hold =>
    refine FiniteMap.exact_insert hold ?_
    rw [Exact, DeviceRecord.withStatus_ne, bne_iff_ne]

/-- A bound pin takes nothing back of the proof: it erases another key, or writes the alias. -/
theorem bindPin_keeps {merged : DeviceRegistry} (h : r.devices.Inv)
    (hcanonical : (canonicalMac device.mac).isSome = true)
    (hmerged : merged.devices = r.devices.verified device adapter verifiedAt)
    (hinv : merged.devices.Inv) (node : ManualNode)
    (hback : (merged.bindPin node device).2.devices = r.devices) : merged.devices = r.devices := by
  have hne := mergeKey_ne_manual h hcanonical node.ip
  have hself : merged.devices.lookup (r.devices.mergeKey device) =
      some ((r.devices.upserted device false).proved adapter verifiedAt) := by
    rw [hmerged, lookup_verified_self]
  have hkept : r.devices.mergeKey device ∈ merged.devices.erase ("manual:" ++ node.ip) :=
    Finmap.mem_erase.mpr ⟨hne, Finmap.mem_of_lookup_eq_some hself⟩
  have hfound : recordKeyForMac (merged.devices.erase ("manual:" ++ node.ip)) device.mac =
      some (r.devices.mergeKey device) :=
    ((restricts_erase merged.devices _).inv hinv).recordKeyForMac_eq hkept
      (h.sole_recordKey device.mac).2
  have hrecord : Finmap.lookup (r.devices.mergeKey device)
      (merged.devices.erase ("manual:" ++ node.ip)) =
        some ((r.devices.upserted device false).proved adapter verifiedAt) := by
    rw [FiniteMap.lookup_erase, if_neg hne, hself]
  unfold bindPin at hback
  simp only [hfound, hrecord] at hback
  split at hback
  · next halias =>
    -- the record had the alias before, so there was none to write
    have hrecord := congrArg (Finmap.lookup (r.devices.mergeKey device)) hback
    rw [Finmap.lookup_insert] at hrecord
    refine absurd ?_ halias.2
    rw [DeviceRecord.proved, alias_upserted, aliasAt_eq hrecord.symm]
  · have hpin : merged.devices.lookup ("manual:" ++ node.ip) = none := by
      have hgone := congrArg (Finmap.lookup ("manual:" ++ node.ip)) hback
      rw [Finmap.lookup_erase] at hgone
      rw [hmerged, lookup_verified h hne.symm, ← hgone]
      rfl
    refine (FiniteMap.exact_erase.eq ?_).symm.trans hback
    rw [hpin]
    rfl

/-- What the expected record gets is undone where the call repeats. -/
theorem rejectExpected_keeps_iff {merged : DeviceRegistry} {expectedKey : String}
    (h : r.devices.Inv) (hne : r.devices.mergeKey device ≠ expectedKey)
    (hmerged : merged.devices = r.devices.verified device adapter verifiedAt) :
    ((merged.rejectExpected expectedKey).2.devices = r.devices → merged.devices = r.devices) ↔
      ¬ r.devices.Repeats device adapter verifiedAt expectedKey := by
  have hat : merged.devices.lookup expectedKey =
      (r.devices.lookup expectedKey).map (retire (r.devices.mergeKey device) device) := by
    rw [hmerged, lookup_verified h hne.symm]
  constructor
  · rintro hkeeps ⟨⟨old, hold, hip, hmark⟩, hholds, hothers⟩
    have hretired : merged.devices.lookup expectedKey = some { old with status := .offline } := by
      rw [hat, hold]
      exact congrArg some (if_pos ⟨hip, h.keyed _ old hold ▸ hne.symm⟩)
    have hback : (merged.rejectExpected expectedKey).2.devices = r.devices := by
      unfold rejectExpected
      rw [hretired]
      refine Finmap.ext_lookup fun k => ?_
      rw [FiniteMap.lookup_insert, hmerged]
      split
      · next hk => rw [hk, hold, ← hmark]
      next hk =>
      by_cases hkey : k = r.devices.mergeKey device
      · rw [hkey]
        exact lookup_verified_eq_iff.mpr hholds
      rw [lookup_verified h hkey]
      cases hs : r.devices.lookup k with
      | none => rfl
      | some s => exact congrArg some (retire_eq_self.mpr fun hip _ => hothers k s hs hk hkey hip)
    rw [hkeeps hback, hold] at hretired
    have hstatus := congrArg DeviceRecord.status (Option.some.inj hretired)
    cases hmark.symm.trans hstatus
  · intro hrepeats hback
    by_contra hchanged
    unfold rejectExpected at hback
    cases hold : r.devices.lookup expectedKey with
    | none =>
      rw [hat, hold] at hback
      exact hchanged hback
    | some old =>
      rw [hat, hold, Option.map_some] at hback
      dsimp only at hback
      have hkept := fun k => congrArg (Finmap.lookup k) hback
      have hmarked := hkept expectedKey
      rw [Finmap.lookup_insert, hold, Option.some.injEq] at hmarked
      have hmark := (congrArg DeviceRecord.status hmarked).symm
      refine hrepeats ⟨⟨old, hold, ?_, hmark⟩, ?_, fun k s hs hk hkey hip => ?_⟩
      · -- elsewhere it is not retired, and nothing is written
        by_contra hip
        have hself : retire (r.devices.mergeKey device) device old = old :=
          if_neg fun hat => hip hat.1
        refine hchanged ((FiniteMap.insert_eq_self.mpr ?_).symm.trans hback)
        rw [hat, hold, Option.map_some, hmarked, hself]
      · refine lookup_verified_eq_iff.mp ?_
        rw [← hmerged, ← hkept, Finmap.lookup_insert_of_ne _ hne]
      · have hsame := hkept k
        rw [Finmap.lookup_insert_of_ne _ hk, hmerged, lookup_verified h hkey, hs] at hsame
        exact retire_eq_self.mp (Option.some.inj hsame) hip (h.keyed k s hs ▸ hkey)

variable {parseRfc3339 : String → Option ℤ}

/-- The call undoes what it changes. -/
def Op.Reverts (parseRfc3339 : String → Option ℤ) (r : DeviceRegistry) : Op → Prop
  | .hydrateManualNodes nodes _ => r.devices.Restores nodes
  | .mergeManualVerified node device adapter verifiedAt stale _ =>
    node.ip = device.ip ∧ r.accepts parseRfc3339 device adapter verifiedAt stale = true ∧
      let expected := node.expectedMac.getD device.mac
      sameMac expected device.mac = false ∧ r.devices.Repeats device adapter verifiedAt
        ((recordKeyForMac r.devices expected).getD expected)
  | _ => False

theorem exact_hydrateFromCache (r : DeviceRegistry) (cached : List CachedDevice) :
    Exact (r.hydrateFromCache cached).1.changed r.devices
      (r.hydrateFromCache cached).2.devices := by
  unfold hydrateFromCache
  split
  · exact exact_same _
  · next hempty =>
    rw [not_not] at hempty
    dsimp only
    rw [Exact, decide_eq_true_iff, hempty]

theorem exact_mergeArp (h : r.devices.Inv) (device : ArpDevice) :
    Exact (r.verificationScope.isNone && r.devices.mergeArpChanged device true) r.devices
      (r.mergeArp device).2.devices := by
  unfold mergeArp
  split
  · next hscope =>
    obtain ⟨scope, hscope⟩ := Option.isSome_iff_exists.mp hscope
    rw [hscope]
    exact exact_same _
  · next hscope =>
    rw [Option.not_isSome_iff_eq_none] at hscope
    rw [hscope]
    exact Devices.exact_mergeArp h device true

theorem exact_mergeScanResultFenced (r : DeviceRegistry) (key : String) (openPorts : List UInt16)
    (stale : Option Bool) :
    Exact (r.mergeScanResultFenced key openPorts stale).1 r.devices
      (r.mergeScanResultFenced key openPorts stale).2.devices := by
  unfold mergeScanResultFenced
  split
  · exact exact_same _
  split
  · exact exact_same _
  next record hrecord =>
  split
  · next hne =>
    exact FiniteMap.exact_insert hrecord (iff_of_true rfl (DeviceRecord.withPorts_ne.mpr hne))
  · exact exact_same _

theorem exact_setStatus (r : DeviceRegistry) (mac : String) (status : DeviceStatus) :
    Exact (r.setStatus mac status).1 r.devices (r.setStatus mac status).2.devices := by
  unfold setStatus
  split
  · exact exact_same _
  split
  · exact exact_same _
  next record hrecord =>
  split
  · next hne =>
    exact FiniteMap.exact_insert hrecord (iff_of_true rfl (DeviceRecord.withStatus_ne.mpr hne))
  · exact exact_same _

theorem devices_rememberVerifiedAt (r : DeviceRegistry) (mac wall : String) (proved : ℕ)
    (stale : Bool) : (r.rememberVerifiedAt mac wall proved stale).devices = r.devices := by
  unfold rememberVerifiedAt
  split
  · rfl
  · dsimp only
    split <;> rfl

theorem exact_removeByMac (r : DeviceRegistry) (mac : String) :
    Exact (r.removeByMac mac).1 r.devices (r.removeByMac mac).2.devices := by
  have hexact : (r.devices.lookup mac).isSome = true ↔ r.devices.erase mac ≠ r.devices :=
    FiniteMap.exact_erase
  rw [Finmap.lookup_isSome] at hexact
  exact decide_eq_true_iff.trans hexact

theorem exact_mergeManualVerified_iff (h : r.devices.Inv) (node : ManualNode) (stale : Bool)
    (now : ℕ) :
    Exact (Op.changed parseRfc3339 r
        (.mergeManualVerified node device adapter verifiedAt stale now)) r.devices
      (r.mergeManualVerified parseRfc3339 node device adapter verifiedAt stale now).2.devices ↔
      ¬ Op.Reverts parseRfc3339 r
        (.mergeManualVerified node device adapter verifiedAt stale now) := by
  unfold Op.changed Op.Reverts mergeManualVerified
  dsimp only
  by_cases hok : node.ip = device.ip ∧ r.accepts parseRfc3339 device adapter verifiedAt stale = true
  · obtain ⟨hip, haccepts⟩ := hok
    have hdevices : (r.mergeVerifiedLocked device adapter verifiedAt now).2.devices =
        r.devices.verified device adapter verifiedAt := mergeVerifiedLocked_devices h now
    obtain ⟨_, hmerged⟩ := merged_mergeVerifiedLocked h device adapter verifiedAt now
    have hexact : Exact (r.devices.mergeVerifiedChanged device adapter verifiedAt) r.devices
        (r.devices.verified device adapter verifiedAt) := exact_verified h
    rw [← hdevices] at hexact
    have hok : ¬ (node.ip ≠ device.ip ∨
        (!r.accepts parseRfc3339 device adapter verifiedAt stale) = true) := by
      simp [hip, haccepts]
    rw [if_neg hok, beq_iff_eq.mpr hip, haccepts, Bool.true_and, Bool.true_and]
    by_cases hsame : sameMac (node.expectedMac.getD device.mac) device.mac = true
    · rw [if_pos hsame, if_pos hsame, hsame]
      refine iff_of_true ?_ fun hreverts => by cases hreverts.2.2.1
      exact (exact_or_iff hexact (exact_bindPin _ node device)).mpr
        (bindPin_keeps h (canonical_of_accepts haccepts) hdevices hmerged.inv node)
    · have hne := mergeKey_ne_expected h hsame
      rw [if_neg hsame, if_neg hsame, exact_or_iff hexact (exact_rejectExpected _ _),
        rejectExpected_keeps_iff h hne hdevices, not_iff_not]
      exact ⟨fun hrepeats => ⟨hip, rfl, Bool.eq_false_iff.mpr hsame, hrepeats⟩,
        fun hreverts => hreverts.2.2.2⟩
  · have hflag : (node.ip == device.ip &&
        r.accepts parseRfc3339 device adapter verifiedAt stale) = false := by
      rwa [← Bool.not_eq_true, Bool.and_eq_true, beq_iff_eq]
    have hrefused : node.ip ≠ device.ip ∨
        (!r.accepts parseRfc3339 device adapter verifiedAt stale) = true := by
      rwa [Bool.not_eq_true', ← Bool.not_eq_true, ne_eq, ← not_and_or]
    rw [hflag, if_pos hrefused]
    exact iff_of_true (exact_same _) fun hreverts => hok ⟨hreverts.1, hreverts.2.1⟩

theorem exact_changed_iff (h : r.devices.Inv) (op : Op) :
    Exact (op.changed parseRfc3339 r) r.devices (apply parseRfc3339 r op).devices ↔
      ¬ op.Reverts parseRfc3339 r := by
  cases op with
  | hydrateManualNodes nodes now => exact exact_hydrate_iff r.devices nodes now
  | mergeManualVerified node device adapter verifiedAt stale now =>
    exact exact_mergeManualVerified_iff h node stale now
  | hydrateFromCache cached => exact iff_of_true (exact_hydrateFromCache r cached) id
  | mergeVerified device adapter verifiedAt stale now =>
    refine iff_of_true ?_ id
    unfold Op.changed apply mergeVerified
    dsimp only
    split
    · next haccepts =>
      rw [haccepts, Bool.true_and, mergeVerifiedLocked_devices h]
      exact exact_verified h
    · next haccepts =>
      rw [Bool.eq_false_iff.mpr haccepts]
      exact exact_same _
  | mergeArp device => exact iff_of_true (exact_mergeArp h device) id
  | mergeArpFenced device stale =>
    refine iff_of_true ?_ id
    cases stale with
    | true => exact exact_same _
    | false => exact exact_mergeArp h device
  | mergeScanResult key openPorts stale =>
    exact iff_of_true (exact_mergeScanResultFenced r key openPorts stale) id
  | setAlias key aliasName => exact iff_of_true (exact_setAlias r key aliasName) id
  | normalizeRoleDuplicates =>
    exact iff_of_true (exact_normalizeRole roleAliases (exact_same _) fun _ => .inl rfl) id
  | setStatus mac status => exact iff_of_true (exact_setStatus r mac status) id
  | setVerificationScope adapter => exact iff_of_true (exact_same _) id
  | rememberVerifiedAt mac wall proved stale =>
    refine iff_of_true ?_ id
    rw [apply, devices_rememberVerifiedAt]
    exact exact_same _
  | expireEvidence now =>
    exact iff_of_true (FiniteMap.exact_mapValues (DeviceRecord.exact_expire r.evidence now)) id
  | expireAll => exact iff_of_true (FiniteMap.exact_mapValues DeviceRecord.exact_demote) id
  | removeByMac mac | forget mac => exact iff_of_true (exact_removeByMac r mac) id
  | removeManualEntries => exact iff_of_true (FiniteMap.exact_retain _ r.devices) id

/-- Where a call undoes what it changes it leaves the records as they were. -/
theorem devices_of_reverts (h : r.devices.Inv) {op : Op} (hreverts : op.Reverts parseRfc3339 r) :
    (apply parseRfc3339 r op).devices = r.devices := by
  cases op with
  | hydrateManualNodes nodes now =>
    exact (hydrate_back_iff now fun node hnode => (hreverts.1 node hnode).1).mpr
      fun node hnode => (hreverts.1 node hnode).2
  | mergeManualVerified node device adapter verifiedAt stale now =>
    obtain ⟨hip, haccepts, hother, hrepeats⟩ := hreverts
    have hne := mergeKey_ne_expected h (Bool.eq_false_iff.mp hother)
    have hdevices : (r.mergeVerifiedLocked device adapter verifiedAt now).2.devices =
        r.devices.verified device adapter verifiedAt := mergeVerifiedLocked_devices h now
    have hkeeps := rejectExpected_keeps_iff h hne hdevices
    have hback := (Classical.not_imp.mp fun hkept => hkeeps.mp hkept hrepeats).1
    unfold apply mergeManualVerified
    simpa [hip, haccepts, hother] using hback
  | _ => exact hreverts.elim

/-- The list that the interface shows is another one after the call. -/
def Op.Differs (parseRfc3339 : String → Option ℤ) (r : DeviceRegistry) (op : Op) : Prop :=
  (apply parseRfc3339 r op).snapshot ≠ r.snapshot

/-- In every state that calls reach, a call that changes the list says so, and says so of no other
list unless it undoes what it changes. -/
theorem changed_exact (parseRfc3339 : String → Option ℤ) (ops : List Op) (op : Op) :
    (op.Differs parseRfc3339 (run parseRfc3339 ops) →
        op.changed parseRfc3339 (run parseRfc3339 ops) = true) ∧
      ((op.changed parseRfc3339 (run parseRfc3339 ops) = true ↔
          op.Differs parseRfc3339 (run parseRfc3339 ops)) ↔
        ¬ op.Reverts parseRfc3339 (run parseRfc3339 ops)) := by
  have hinv := inv_run parseRfc3339 ops
  have hiff : Exact (op.changed parseRfc3339 (run parseRfc3339 ops)) (run parseRfc3339 ops).devices
      (apply parseRfc3339 (run parseRfc3339 ops) op).devices ↔
        ¬ op.Reverts parseRfc3339 (run parseRfc3339 ops) := exact_changed_iff hinv op
  rw [Op.Differs, ne_eq, snapshot_inj hinv (steps_apply hinv op).inv]
  refine ⟨fun hne => ?_, hiff⟩
  by_cases hreverts : op.Reverts parseRfc3339 (run parseRfc3339 ops)
  · exact absurd (devices_of_reverts hinv hreverts) hne
  · exact (hiff.mpr hreverts).mpr hne

section Example

/-- Nodes of one pin. -/
def namePin (aliases : List String) : Op :=
  .hydrateManualNodes (aliases.map fun aliasName => ⟨none, "192.168.1.10", aliasName⟩) ""

def camera (mac : String) : ArpDevice := ⟨mac, "192.168.1.20", "192.168.1.0/24", "", ""⟩

/-- A proof of another camera at the address of a pinned one. -/
def proveOther : Op :=
  .mergeManualVerified ⟨some "aa:bb:cc:dd:ee:02", "192.168.1.20", ""⟩ (camera "aa:bb:cc:dd:ee:04")
    "40:cd:3a:00:00:02" "2026-10-19T12:00:00Z" false 0

/-- A pin is named back and forth. A camera that is proved again in the place of another one
retires it and has it marked again. -/
theorem undone_changes_flagged :
    let parse := fun _ => some 0
    let named := run parse [namePin ["CAM"]]
    let taken := run parse [.mergeArp (camera "aa:bb:cc:dd:ee:02"), proveOther]
    ((namePin ["PTU", "CAM"]).changed parse named = true ∧
      ¬ (namePin ["PTU", "CAM"]).Differs parse named) ∧
    (proveOther.changed parse taken = true ∧ ¬ proveOther.Differs parse taken) := by
  intro parse named taken
  have hnamed : (apply parse named (namePin ["PTU", "CAM"])).devices = named.devices := by
    decide +kernel
  have htaken : (apply parse taken proveOther).devices = taken.devices := by decide +kernel
  exact ⟨⟨by decide +kernel, fun hdiffers => hdiffers (snapshot_congr hnamed)⟩,
    by decide +kernel, fun hdiffers => hdiffers (snapshot_congr htaken)⟩

end Example

end DeviceRegistry

end PocketStream
