import PocketStream.Address.Spelling
import PocketStream.Network.EvidenceLifetime
import PocketStream.Network.Readiness

/-! # What stands behind a camera path

A path is returned only for a live record of the expected identity at the
target's address, proved through the adapter that holds the source. Keys meet
the canonical form as text, so the converse is about records whose keys differ
from it by letter case alone.
-/

namespace PocketStream

open Foundation

/-- The address and the source a path to an address takes. -/
def SourceChosen (ips : List IpInfo) (text : String) (source : Ipv4Addr) : Prop :=
  ∃ ip, parseCameraIp text = .ok ip ∧ selectWiredSource ip [] ips = some source ∧ source ≠ ip ∧
    prohibitedCameraIp source = false

theorem checkBoundReady_eq_ok {target : CameraTarget} {adapter : WiredInterface} {index : UInt32}
    {records : List DeviceRecord} {source : Ipv4Addr} :
    checkBoundReady target (some adapter) index records = .ok source ↔
      adapter.ready = true ∧ index ≠ 0 ∧ SourceChosen adapter.ips target.ip source ∧
      ∃ expected adapterMac row, target.expectedMac.bind canonicalMac = some expected ∧
        canonicalMac adapter.mac = some adapterMac ∧ adapterMac ≠ expected ∧
        records.find? (fun r => eqIgnoreAsciiCase r.mac target.key) = some row ∧
        row.evidences target expected adapterMac = true := by
  unfold checkBoundReady SourceChosen
  constructor
  · intro h
    obtain ⟨ip, hip, h⟩ := Fallible.bind_eq_ok.mp h
    split at h
    · cases h
    · next a ha =>
      obtain ⟨ha, hready⟩ := Option.filter_eq_some_iff.mp ha
      obtain rfl := Option.some.inj ha
      split at h
      · cases h
      · next hindex =>
        split at h
        · cases h
        · next s hs =>
          obtain ⟨hs, hok⟩ := Option.filter_eq_some_iff.mp hs
          simp only [Bool.and_eq_true, bne_iff_ne, ne_eq, Bool.not_eq_true'] at hok
          split at h
          · cases h
          · next expected hexpected =>
            split at h
            · cases h
            · next adapterMac hmac =>
              obtain ⟨hmac, hself⟩ := Option.filter_eq_some_iff.mp hmac
              split at h
              · cases h
              · next row hrow =>
                split at h
                · next hev =>
                  obtain rfl : s = source := Except.ok.inj h
                  exact ⟨hready, hindex, ⟨ip, hip, hs, hok⟩, expected, adapterMac, row, hexpected,
                    hmac, by simpa using hself, hrow, hev⟩
                · cases h
  · rintro ⟨hready, hindex, ⟨ip, hip, hs, hne, hallowed⟩, expected, adapterMac, row, hexpected,
      hmac, hself, hrow, hev⟩
    refine Fallible.bind_eq_ok.mpr ⟨ip, hip, ?_⟩
    simp [Option.filter, hready, hindex, hs, hne, hallowed, hexpected, hmac, hself, hrow, hev]

theorem checkReady_eq_ok {target : CameraTarget} {adapter : WiredInterface} {index : UInt32}
    {records : List DeviceRecord} {egress : Option UInt32} {source : Ipv4Addr} :
    checkReady target (some adapter) index records egress = .ok source ↔
      egress = some index ∧ checkBoundReady target (some adapter) index records = .ok source := by
  unfold checkReady
  split
  · next h => simp [h]
  · next h => simp [not_not.mp h]

theorem isManualKey_iff {key : String} : isManualKey key = true ↔ ∃ ip, key = "manual:" ++ ip := by
  simp only [isManualKey, List.isPrefixOf_iff_prefix]
  constructor
  · rintro ⟨rest, h⟩
    refine ⟨String.ofList rest, ?_⟩
    rw [← String.toList_inj, String.toList_append, ← h]
    exact congrArg ("manual:".toList ++ ·) String.toList_ofList.symm
  · rintro ⟨ip, rfl⟩
    rw [String.toList_append]
    exact List.prefix_append _ _

namespace CameraTarget

variable {nodes : List ManualNode} {target resolved : CameraTarget}

/-- The identity a target stands for: the expected address, or for a manual key the one
saved for its node. -/
def identity (nodes : List ManualNode) (target : CameraTarget) : Option String :=
  if isManualKey target.key then savedMac nodes target.key else target.expectedMac

theorem ip_resolve (h : target.resolve nodes = .ok resolved) : resolved.ip = target.ip := by
  unfold resolve at h
  split at h
  · split at h
    · obtain rfl := Except.ok.inj h
      rfl
    · split at h
      · cases h
      · obtain rfl := Except.ok.inj h
        rfl
  · obtain rfl := Except.ok.inj h
    rfl

/-- A manual key without a saved address stays what it is, and is no address. -/
theorem resolve_cases (h : target.resolve nodes = .ok resolved) :
    resolved.expectedMac = target.identity nodes ∨
      target.identity nodes = none ∧ canonicalMac resolved.key = none := by
  unfold resolve at h
  unfold identity
  split at h
  · next hmanual =>
    split at h
    · next hsaved =>
      obtain rfl := Except.ok.inj h
      obtain ⟨ip, hip⟩ := isManualKey_iff.mp hmanual
      exact .inr ⟨by rw [if_pos hmanual, hsaved], by rw [hip, canonicalMac_manual]⟩
    · next expected hsaved =>
      split at h
      · cases h
      · obtain rfl := Except.ok.inj h
        exact .inl (by rw [if_pos hmanual, hsaved])
  · next hmanual =>
    obtain rfl := Except.ok.inj h
    exact .inl (by rw [if_neg hmanual])

end CameraTarget

namespace CameraReadiness

variable {nodes : List ManualNode} {records : List DeviceRecord} {scope : Option AdapterScope}
  {routes : NativeRoutes} {gate : Gate} {target : CameraTarget} {bound : Bool} {found : ReadyPath}

theorem path_eq_ok :
    path nodes records scope routes gate target bound = .ok found ↔
      ∃ resolved sc, target.resolve nodes = .ok resolved ∧ scope = some sc ∧
        (bound = false → ∀ ip, parseCameraIp target.ip = .ok ip →
          routes.egressIndex ip = some sc.index) ∧
        checkBoundReady resolved (some sc.adapter) sc.index records = .ok found.source ∧
        routes.sourceMatchesInterface sc.index found.source = true ∧
        gate.valid sc.fence = true ∧ found = ⟨resolved, found.source, sc.index, sc.fence⟩ := by
  unfold path
  constructor
  · intro h
    obtain ⟨resolved, hresolved, h⟩ := Fallible.bind_eq_ok.mp h
    cases scope with
    | none => cases h
    | some sc =>
      obtain ⟨ip, hip, h⟩ := Fallible.bind_eq_ok.mp h
      obtain ⟨source, hsource, h⟩ := Fallible.bind_eq_ok.mp h
      rw [CameraTarget.ip_resolve hresolved] at hip
      split at h
      · cases h
      · next hmatches =>
        split at h
        · cases h
        · next hvalid =>
          obtain rfl := Except.ok.inj h
          refine ⟨resolved, sc, hresolved, rfl, ?_, ?_, by simpa using hmatches,
            by simpa using hvalid, rfl⟩
          · rintro rfl ip' hip'
            obtain rfl := Except.ok.inj (hip.symm.trans hip')
            exact (checkReady_eq_ok.mp hsource).1
          · cases bound with
            | true => exact hsource
            | false => exact (checkReady_eq_ok.mp hsource).2
  · rintro ⟨resolved, sc, hresolved, rfl, hegress, hsource, hmatches, hvalid, hfound⟩
    obtain ⟨-, -, ⟨ip, hip, -⟩, -⟩ := checkBoundReady_eq_ok.mp hsource
    refine Fallible.bind_eq_ok.mpr ⟨resolved, hresolved, ?_⟩
    refine Fallible.bind_eq_ok.mpr ⟨ip, hip, ?_⟩
    rw [CameraTarget.ip_resolve hresolved] at hip
    have hchecked : check records sc routes resolved ip bound = .ok found.source := by
      cases bound with
      | true => exact hsource
      | false => exact checkReady_eq_ok.mpr ⟨hegress rfl ip hip, hsource⟩
    refine Fallible.bind_eq_ok.mpr ⟨found.source, hchecked, ?_⟩
    rw [hfound]
    simp [hmatches, hvalid]

end CameraReadiness

/-- A record of the identity, live at the target's address on a proof obtained through the
adapter. -/
structure Evidenced (r : DeviceRegistry) (adapter : WiredInterface) (identity ip : String)
    (record : DeviceRecord) : Prop where
  held : r.devices.lookup record.mac = some record
  address : ∃ c, canonicalMac identity = some c ∧ canonicalMac record.mac = some c
  live : record.status = .live
  proved : record.lastVerifiedAt.isSome = true ∧
    ∃ c, record.verifiedByMac.bind canonicalMac = some c ∧ canonicalMac adapter.mac = some c
  here : record.ip = ip

/-- The adapter holds this address in a network with the target, and it is not the target. -/
def HoldsSource (adapter : WiredInterface) (ip : String) (source : Ipv4Addr) : Prop :=
  ∃ info ∈ adapter.ips, ∃ target, Ipv4Addr.parse info.address = some source ∧
    Ipv4Addr.parse ip = some target ∧ networkContains source info.prefixLen target = true ∧
    source ≠ target

/-- The key differs from the canonical form of its address by letter case alone. -/
def PlainKey (key : String) : Prop :=
  ∃ c, canonicalMac key = some c ∧ eqIgnoreAsciiCase key c = true

theorem parse_of_parseCameraIp {text : String} {ip : Ipv4Addr} (h : parseCameraIp text = .ok ip) :
    Ipv4Addr.parse text = some ip := by
  unfold parseCameraIp at h
  split at h
  · cases h
  · next addr haddr =>
    split at h
    · cases h
    · split at h
      · cases h
      · rw [haddr, Except.ok.inj h]

theorem SourceChosen.holds {adapter : WiredInterface} {text : String} {source : Ipv4Addr}
    (h : SourceChosen adapter.ips text source) : HoldsSource adapter text source := by
  obtain ⟨ip, hip, hsource, hne, -⟩ := h
  simp only [selectWiredSource, List.find?_nil, Option.map_none, Option.none_or] at hsource
  obtain ⟨info, hmem, hinfo⟩ := List.exists_of_findSome?_eq_some hsource
  obtain ⟨haddr, hcontains⟩ := Option.filter_eq_some_iff.mp hinfo
  exact ⟨info, hmem, ip, haddr, parse_of_parseCameraIp hip, hcontains, hne⟩

namespace CameraReadiness

/-- What a path takes besides the evidence: the target asks consistently, its address and the
source are admissible, the identity is not the adapter's own, an unbound transport has its
route, and the fence is valid at the end. -/
structure Granted (nodes : List ManualNode) (sc : AdapterScope) (routes : NativeRoutes) (gate : Gate)
    (target : CameraTarget) (bound : Bool) (record : DeviceRecord) (source : Ipv4Addr) : Prop where
  asks : ∃ resolved, target.resolve nodes = .ok resolved ∧
    eqIgnoreAsciiCase record.mac resolved.key = true
  chosen : SourceChosen sc.adapter.ips target.ip source
  foreign : canonicalMac sc.adapter.mac ≠ canonicalMac record.mac
  routed : bound = false → ∀ ip, parseCameraIp target.ip = .ok ip →
    routes.egressIndex ip = some sc.index
  fresh : gate.valid sc.fence = true

variable {r : DeviceRegistry} {nodes : List ManualNode} {scope : Option AdapterScope}
  {routes : NativeRoutes} {gate : Gate} {target : CameraTarget} {bound : Bool} {found : ReadyPath}

theorem evidenced_of_path (h : r.devices.Inv)
    (hp : path nodes r.snapshot scope routes gate target bound = .ok found) :
    ∃ sc identity record, scope = some sc ∧ target.identity nodes = some identity ∧
      Evidenced r sc.adapter identity target.ip record ∧ sc.adapter.ready = true ∧ sc.index ≠ 0 ∧
      Granted nodes sc routes gate target bound record found.source ∧
      eqIgnoreAsciiCase record.mac found.target.key = true ∧
      found.target.expectedMac = some identity ∧ found.index = sc.index ∧
      found.fence = sc.fence := by
  obtain ⟨resolved, sc, hresolved, hscope, hroute, hchecked, -, hvalid, hfound⟩ := path_eq_ok.mp hp
  obtain ⟨hready, hindex, hsource, expected, adapterMac, row, hexpected, hmac, hself, hrow, hev⟩ :=
    checkBoundReady_eq_ok.mp hchecked
  simp only [DeviceRecord.evidences, Bool.and_eq_true, beq_iff_eq] at hev
  obtain ⟨⟨⟨⟨hnamed, hip⟩, hlive⟩, hproved⟩, hby⟩ := hev
  rw [CameraTarget.ip_resolve hresolved] at hip hsource
  have hkey : eqIgnoreAsciiCase row.mac resolved.key = true := by
    simpa using List.find?_some hrow
  obtain ⟨mac, hmac', hcanonical⟩ := Option.bind_eq_some_iff.mp hexpected
  have hrowMac : canonicalMac row.mac = some expected := by
    rw [canonicalMac_of_eqIgnoreAsciiCase hnamed, canonicalMac_canonical hcanonical]
  have hidentity : target.identity nodes = some mac := by
    rcases CameraTarget.resolve_cases hresolved with he | ⟨-, hnone⟩
    · rw [← he, hmac']
    · rw [← canonicalMac_of_eqIgnoreAsciiCase hkey, hrowMac] at hnone
      cases hnone
  obtain ⟨key, hheld⟩ := DeviceRegistry.mem_snapshot.mp (List.mem_of_find?_eq_some hrow)
  have hheld : r.devices.lookup row.mac = some row := by rwa [h.keyed key row hheld]
  rw [hfound]
  refine ⟨sc, mac, row, hscope, hidentity, ?_, hready, hindex, ?_, hkey, hmac', rfl, rfl⟩
  · exact ⟨hheld, ⟨expected, hcanonical, hrowMac⟩, hlive, ⟨hproved, adapterMac, hby, hmac⟩, hip⟩
  · refine ⟨⟨resolved, hresolved, hkey⟩, hsource, ?_, hroute, hvalid⟩
    rw [hmac, hrowMac]
    exact fun he => hself (Option.some.inj he)

theorem path_of_evidenced (h : r.devices.Inv) {sc : AdapterScope} {identity : String}
    {record : DeviceRecord} {source : Ipv4Addr} (hscope : scope = some sc)
    (hidentity : target.identity nodes = some identity)
    (hev : Evidenced r sc.adapter identity target.ip record) (hready : sc.adapter.ready = true)
    (hindex : sc.index ≠ 0)
    (hgranted : Granted nodes sc routes gate target bound record source)
    (hplain : PlainKey record.mac)
    (hnative : routes.sourceMatchesInterface sc.index source = true) :
    ∃ found, path nodes r.snapshot scope routes gate target bound = .ok found := by
  obtain ⟨resolved, hresolved, hkey⟩ := hgranted.asks
  obtain ⟨c, hc, hrecord⟩ := hev.address
  obtain ⟨hproved, adapterMac, hby, hmac⟩ := hev.proved
  have hexpected : resolved.expectedMac.bind canonicalMac = some c := by
    rcases CameraTarget.resolve_cases hresolved with he | ⟨hnone, -⟩
    · rw [he, hidentity, Option.bind_some, hc]
    · rw [hidentity] at hnone
      cases hnone
  have hrow : r.snapshot.find? (fun s => eqIgnoreAsciiCase s.mac resolved.key) = some record := by
    cases hfind : r.snapshot.find? (fun s => eqIgnoreAsciiCase s.mac resolved.key) with
    | none =>
      have := List.find?_eq_none.mp hfind record (DeviceRegistry.mem_snapshot.mpr ⟨_, hev.held⟩)
      exact absurd hkey this
    | some row =>
      have hsame : eqIgnoreAsciiCase row.mac record.mac = true :=
        eqIgnoreAsciiCase_trans (by simpa using List.find?_some hfind) (eqIgnoreAsciiCase_symm hkey)
      obtain ⟨key, hheld⟩ := DeviceRegistry.mem_snapshot.mp (List.mem_of_find?_eq_some hfind)
      have hrowKey := h.keyed key row hheld
      subst hrowKey
      have : row.mac = record.mac := h.distinct _ (Finmap.mem_of_lookup_eq_some hheld) _
        (Finmap.mem_of_lookup_eq_some hev.held)
        (by simp [sameMac, canonicalMac_of_eqIgnoreAsciiCase hsame, hrecord])
      rw [this, hev.held] at hheld
      rw [Option.some.inj hheld]
  obtain ⟨c', hc', hspelled⟩ := hplain
  obtain rfl := Option.some.inj (hc'.symm.trans hrecord)
  have hchecked : checkBoundReady resolved (some sc.adapter) sc.index r.snapshot = .ok source := by
    refine checkBoundReady_eq_ok.mpr ⟨hready, hindex, ?_, c', adapterMac, record, hexpected, hmac,
      ?_, hrow, ?_⟩
    · rw [CameraTarget.ip_resolve hresolved]
      exact hgranted.chosen
    · rintro rfl
      exact hgranted.foreign (hmac.trans hc'.symm)
    · simp [DeviceRecord.evidences, hspelled, CameraTarget.ip_resolve hresolved, hev.here, hev.live,
        hproved, hby]
  exact ⟨⟨resolved, source, sc.index, sc.fence⟩, path_eq_ok.mpr ⟨resolved, sc, hresolved, hscope,
    hgranted.routed, hchecked, hnative, hgranted.fresh, rfl⟩⟩

theorem inv_tick {presence : Control} (h : r.devices.Inv) (now : ℕ) :
    (presence.tick r now).2.2.devices.Inv :=
  (Watch.tick_restricts (s := { Watch.start .dhcp with control := presence, registry := r })).inv h

section Example

def cameraDevice : ArpDevice where
  mac := "aa:bb:cc:dd:ee:02"
  ip := "192.168.1.204"
  subnet := "192.168.1.0/24"
  firstSeen := ""
  lastSeen := ""

def usbAdapter : WiredInterface where
  name := "USB"
  mac := "40:cd:3a:00:00:01"
  ips := [⟨"192.168.1.101", 24⟩]
  isUp := true
  isEthernet := true
  isWifi := false
  isVpn := false
  isVirtual := false

def usbPresence : Control :=
  (Control.start .dhcp).update ⟨some usbAdapter.mac, some usbAdapter.toInterfaceInfo, some 7⟩ .dhcp 0

def usbScope : AdapterScope where
  adapter := usbAdapter
  index := 7
  fence := 1

def localRoutes : NativeRoutes where
  egressIndex _ := some 7
  sourceMatchesInterface index _ := index == 7

/-- The registry once the camera has answered through the adapter. -/
def provedOps : List DeviceRegistry.Op :=
  [.mergeVerified cameraDevice usbAdapter.mac "2026-10-19T12:00:00Z" false 0]

def provedRecord : DeviceRecord :=
  { DeviceRecord.observed cameraDevice.mac cameraDevice with
    verifiedByMac := some "40:cd:3a:00:00:01"
    lastVerifiedAt := some "2026-10-19T12:00:00Z" }

def savedNode : ManualNode where
  expectedMac := some "aa:bb:cc:dd:ee:02"
  ip := "192.168.1.204"
  aliasName := "CAM"

def manualTarget (expectedMac : Option String) : CameraTarget where
  key := "manual:192.168.1.204"
  expectedMac := expectedMac
  ip := "192.168.1.204"

def savedReply (target : CameraTarget) : Fallible ReadyPath × CameraReadiness :=
  cameraPathNow ⟨usbPresence, .run (fun _ => some 0) provedOps, [savedNode]⟩ 1000 (some usbScope)
    localRoutes usbPresence.gate target true

end Example

end CameraReadiness

end PocketStream
