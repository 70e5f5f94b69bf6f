import PocketStream.Network.Scanner

/-! # A scan covers its network

The host iterator is lazy, but it gives what filtering the whole network gives. The
set of tasks is a window over that list, so every eligible host is probed once, and
what is returned is what the joined probes found.
-/

namespace PocketStream

open Foundation

namespace Scanner

variable {job : Job} {s s' : ScanHosts} {call : Call} {calls : List Call} {ip : Ipv4Addr}
  {probe : HostProbe} {stale : Bool}

/-! ### The hosts of a network -/

/-- What a host must be for the scan to probe it. -/
structure Job.Eligible (job : Job) (ip : Ipv4Addr) : Prop where
  inside : IpNetwork.cidr.contains job.network ip = true
  scannable : job.network.2 ≤ 30 →
    ip ≠ IpNetwork.cidr.network job.network ∧ ip ≠ IpNetwork.cidr.broadcast job.network
  allowed : prohibitedCameraIp ip = false
  remote : ip ∉ job.localIps
  source : ∃ info ∈ job.scope.ips, ∃ addr, Ipv4Addr.parse info.address = some addr ∧
    info.prefixLen ≤ 32 ∧ IpNetwork.cidr.contains (addr, info.prefixLen) ip = true

theorem network_toNat_add_lt (network : Network) {i : ℕ} (hi : i < 2 ^ (32 - network.2.toNat)) :
    (IpNetwork.cidr.network network).toNat + i ≤ (IpNetwork.cidr.broadcast network).toNat := by
  rw [IpNetwork.cidr_lawful.network, IpNetwork.cidr_lawful.broadcast, IpNetwork.cidr_block,
    Block.first, Block.last, Nat.succ_mul]
  simp only [Block.of]
  omega

theorem addresses_toNat (network : Network) :
    (addresses network).map Ipv4Addr.toNat =
      List.range' (IpNetwork.cidr.network network).toNat (2 ^ (32 - network.2.toNat)) := by
  rw [List.range'_eq_map_range, addresses, List.map_map]
  refine List.map_congr_left fun i hi => ?_
  have hlast := network_toNat_add_lt network (List.mem_range.mp hi)
  exact Ipv4Addr.toNat_ofNat (hlast.trans_lt (IpNetwork.cidr.broadcast network).toNat_lt)

/-- The iterator gives the addresses of the network in increasing order. -/
theorem addresses_sorted (network : Network) :
    (addresses network).Pairwise fun a b => a.toNat < b.toNat := by
  refine List.pairwise_map.mp ?_
  rw [addresses_toNat]
  exact List.pairwise_lt_range'

theorem mem_addresses (network : Network) :
    ip ∈ addresses network ↔ IpNetwork.cidr.contains network ip = true := by
  have hmem : ip ∈ addresses network ↔ ip.toNat ∈ (addresses network).map Ipv4Addr.toNat :=
    (List.mem_map_of_injective Ipv4Addr.toNat_injective).symm
  rw [hmem, addresses_toNat, List.mem_range'_1, IpNetwork.cidr_lawful.contains,
    IpNetwork.cidr_lawful.network, Block.mem_iff, IpNetwork.cidr_block, Block.last, Block.first,
    Nat.succ_mul]
  have hpos := Nat.two_pow_pos (32 - network.2.toNat)
  simp only [Block.of]
  omega

/-- The platform's check of source and index agrees with the adapter of the scope. -/
def Job.Agrees (job : Job) : Prop :=
  ∀ host, ∀ source ∈ selectWiredSource host [] job.scope.ips,
    job.agrees job.scope.index host source = true

theorem isScannable_iff (host : Ipv4Addr) (network : Network) :
    isScannable host network = true ↔ (network.2 ≤ 30 →
      host ≠ IpNetwork.cidr.network network ∧ host ≠ IpNetwork.cidr.broadcast network) := by
  unfold isScannable
  split
  next hlong => exact ⟨fun _ hshort => absurd hlong (UInt8.not_lt.mpr hshort), fun _ => rfl⟩
  next hshort =>
    rw [Bool.and_eq_true, bne_iff_ne, bne_iff_ne]
    exact ⟨fun h _ => h, fun h => h (UInt8.not_lt.mp hshort)⟩

theorem sourceFor_isSome_iff (target : Ipv4Addr) (info : IpInfo) :
    (info.sourceFor target).isSome ↔ ∃ addr, Ipv4Addr.parse info.address = some addr ∧
      info.prefixLen ≤ 32 ∧ IpNetwork.cidr.contains (addr, info.prefixLen) target = true := by
  unfold IpInfo.sourceFor networkContains
  simp only [Option.isSome_iff_exists, Option.filter_eq_some_iff, Bool.and_eq_true,
    decide_eq_true_eq]

theorem selectWiredSource_isSome_iff (target : Ipv4Addr) (ips : List IpInfo) :
    (selectWiredSource target [] ips).isSome ↔ ∃ info ∈ ips, ∃ addr,
      Ipv4Addr.parse info.address = some addr ∧ info.prefixLen ≤ 32 ∧
      IpNetwork.cidr.contains (addr, info.prefixLen) target = true := by
  have hfind : selectWiredSource target [] ips = ips.findSome? (IpInfo.sourceFor target) := rfl
  rw [hfind, List.findSome?_isSome_iff]
  simp only [sourceFor_isSome_iff]

theorem probe?_eq_some (h : job.probe? ip = some probe) :
    probe.host = ip ∧ selectWiredSource ip [] job.scope.ips = some probe.source ∧
      probe.key = job.scope.identities.lookup ip := by
  unfold Job.probe? at h
  split at h
  · cases h
  split at h
  · cases h
  split at h
  · cases h
  next source hsource =>
  split at h
  · cases h
  · cases h
    exact ⟨rfl, hsource, rfl⟩

theorem probe?_isSome_iff (hagrees : job.Agrees) (hinside : ip ∈ addresses job.network) :
    (job.probe? ip).isSome ↔ job.Eligible ip := by
  have hiff : job.Eligible ip ↔ isScannable ip job.network = true ∧
      prohibitedCameraIp ip = false ∧ ip ∉ job.localIps ∧
      (selectWiredSource ip [] job.scope.ips).isSome := by
    rw [isScannable_iff, selectWiredSource_isSome_iff]
    exact ⟨fun h => ⟨h.scannable, h.allowed, h.remote, h.source⟩,
      fun ⟨hs, ha, hr, hi⟩ => ⟨(mem_addresses _).mp hinside, hs, ha, hr, hi⟩⟩
  rw [hiff]
  unfold Job.probe?
  split
  next hreserved => exact iff_of_false nofun fun h => by simp [h.1] at hreserved
  next hscannable =>
  split
  next hexcluded => exact iff_of_false nofun fun h => by simp [h.2.1, h.2.2.1] at hexcluded
  next hallowed =>
  split
  next hnone => exact iff_of_false nofun fun h => by simp [hnone] at h
  next source hsource =>
  have hplatform := hagrees ip source hsource
  simp_all

/-! ### The iterator -/

theorem nextHost_eq_none {hosts : List Ipv4Addr} (h : job.nextHost hosts = none) :
    hosts.filterMap job.probe? = [] := by
  induction hosts with
  | nil => rfl
  | cons host rest ih =>
    unfold Job.nextHost at h
    split at h
    · cases h
    next hskipped =>
      rw [List.filterMap_cons_none hskipped]
      exact ih h

theorem nextHost_eq_some {hosts rest : List Ipv4Addr} (h : job.nextHost hosts = some (probe, rest)) :
    hosts.filterMap job.probe? = probe :: rest.filterMap job.probe? := by
  induction hosts with
  | nil => cases h
  | cons host hosts ih =>
    unfold Job.nextHost at h
    split at h
    next hprobed =>
      cases h
      rw [List.filterMap_cons_some hprobed]
    next hskipped =>
      rw [List.filterMap_cons_none hskipped]
      exact ih h

/-- The scan as a window over the eligible hosts. -/
def window (job : Job) (s : ScanHosts) : Window HostProbe Outcome where
  waiting := s.hosts.filterMap job.probe?
  pending := s.joinSet
  started := s.spawned
  ended := s.joined

theorem window_spawnNext (job : Job) (s : ScanHosts) :
    window job (s.spawnNext job) = (window job s).next := by
  unfold ScanHosts.spawnNext Window.next
  split
  next hnone => simp [window, nextHost_eq_none hnone]
  next probe rest hsome => simp [window, nextHost_eq_some hsome]

theorem window_spawnSome (job : Job) (n : ℕ) (s : ScanHosts) :
    window job (ScanHosts.spawnSome job n s) = Window.fill n (window job s) := by
  induction n generalizing s with
  | zero => rfl
  | succ n ih => rw [ScanHosts.spawnSome, ih, window_spawnNext, Window.fill]

/-- Spawning leaves what was joined. -/
theorem spawnNext_rest (job : Job) (s : ScanHosts) :
    (s.spawnNext job).joined = s.joined ∧ (s.spawnNext job).results = s.results ∧
      (s.spawnNext job).returned = s.returned ∧ (s.spawnNext job).dropped = s.dropped := by
  unfold ScanHosts.spawnNext
  split <;> exact ⟨rfl, rfl, rfl, rfl⟩

theorem spawnSome_rest (job : Job) (n : ℕ) (s : ScanHosts) :
    (ScanHosts.spawnSome job n s).joined = s.joined ∧
      (ScanHosts.spawnSome job n s).results = s.results ∧
      (ScanHosts.spawnSome job n s).returned = s.returned ∧
      (ScanHosts.spawnSome job n s).dropped = s.dropped := by
  induction n generalizing s with
  | zero => exact ⟨rfl, rfl, rfl, rfl⟩
  | succ n ih =>
    obtain ⟨hj, hr, ht, hd⟩ := ih (s.spawnNext job)
    obtain ⟨hj', hr', ht', hd'⟩ := spawnNext_rest job s
    exact ⟨hj.trans hj', hr.trans hr', ht.trans ht', hd.trans hd'⟩

/-- A joined task leaves its place in the window, and what it found. -/
theorem joinNext_eq {i : ℕ} {outcome : Outcome} (h : s.joinNext job i outcome = some s') :
    (window job s).finish i outcome = some (window job s') ∧
      ∃ probe, s'.joined = s.joined ++ [(probe, outcome)] ∧
        s'.results = s.results ++ ScanHosts.pushed job probe outcome ∧
        s'.returned = s.returned ∧ s'.dropped = s.dropped := by
  obtain ⟨probe, hprobe, rfl⟩ := Option.map_eq_some_iff.mp h
  refine ⟨?_, probe, spawnNext_rest job _⟩
  rw [window_spawnNext]
  exact Option.map_eq_some_iff.mpr ⟨probe, hprobe, rfl⟩

/-! ### One step -/

/-- What a scan keeps: its window, and what the joined tasks found. -/
structure Kept (job : Job) (s : ScanHosts) : Prop where
  accounted : (window job s).Accounted ((addresses job.network).filterMap job.probe?)
  bounded : s.joinSet.length ≤ MAX_INFLIGHT_HOSTS
  full : s.dropped = false → (window job s).Full MAX_INFLIGHT_HOSTS
  results : s.results = s.joined.flatMap fun x => ScanHosts.pushed job x.1 x.2
  possible : ∀ x ∈ s.joined, x.2.possible
  returned : ∀ results, s.returned = some results → s.dropped = false →
    s.joinSet = [] ∧ results = s.results.mergeSort sortsBefore
  dropped : s.dropped → s.returned = some []

theorem kept_opened (hwindow : window job s = Window.opened MAX_INFLIGHT_HOSTS
      ((addresses job.network).filterMap job.probe?))
    (hjoined : s.joined = []) (hresults : s.results = []) (hreturned : s.returned = none)
    (hdropped : s.dropped = false) : Kept job s where
  accounted := hwindow ▸ Window.accounted_opened MAX_INFLIGHT_HOSTS _
  bounded := (hwindow ▸ Window.full_opened MAX_INFLIGHT_HOSTS _ :
    (window job s).Full MAX_INFLIGHT_HOSTS).pending
  full _ := hwindow ▸ Window.full_opened MAX_INFLIGHT_HOSTS _
  results := by rw [hresults, hjoined, List.flatMap_nil]
  possible x hx := absurd (hjoined ▸ hx) List.not_mem_nil
  returned results hr := nomatch hreturned.symm.trans hr
  dropped hd := nomatch hdropped.symm.trans hd

theorem kept_start (job : Job) (stale : Bool) : Kept job (start job stale) := by
  unfold start
  dsimp only
  split
  · exact ⟨⟨rfl, .refl _⟩, Nat.zero_le _, nofun, rfl, nofun, nofun, fun _ => rfl⟩
  · obtain ⟨hjoined, hresults, hreturned, hdropped⟩ := spawnSome_rest job MAX_INFLIGHT_HOSTS
      ⟨addresses job.network, [], [], [], [], none, false⟩
    exact kept_opened (window_spawnSome job MAX_INFLIGHT_HOSTS _) hjoined hresults hreturned hdropped

theorem Kept.step (h : Kept job s) (hs : step job s call = some s') : Kept job s' := by
  unfold Scanner.step at hs
  obtain ⟨hopen, hs⟩ := Option.ite_none_left_eq_some.mp hs
  have hreturned : s.returned = none := by simpa using hopen
  have hdropped : s.dropped = false := by
    cases hd : s.dropped
    · rfl
    · cases hreturned.symm.trans (h.dropped hd)
  cases call with
  | join i outcome =>
    obtain ⟨hpossible, hs⟩ := Option.ite_none_right_eq_some.mp hs
    obtain ⟨hfinish, probe, hj, hr, ht, hd⟩ := joinNext_eq hs
    have hfull := (h.full hdropped).finish hfinish
    refine ⟨h.accounted.finish hfinish, hfull.pending, fun _ => hfull, ?_, fun x hx => ?_, ?_, ?_⟩
    · rw [hj, hr, List.flatMap_append, ← h.results]
      simp
    · rw [hj] at hx
      rcases List.mem_append.mp hx with hx | hx
      · exact h.possible x hx
      · cases List.mem_singleton.mp hx
        exact hpossible
    · rw [ht, hreturned]
      exact nofun
    · rw [hd, hdropped]
      exact nofun
  | finish =>
    obtain ⟨hidle, hs⟩ := Option.ite_none_right_eq_some.mp hs
    obtain rfl := Option.some.inj hs
    have hidle : s.joinSet = [] := List.isEmpty_iff.mp hidle
    refine ⟨h.accounted, h.bounded, h.full, h.results, h.possible, fun results hr _ => ?_, ?_⟩
    · exact ⟨hidle, (Option.some.inj hr).symm⟩
    · exact fun hd => absurd hd (ne_true_of_eq_false hdropped)
  | cancelled =>
    obtain rfl := Option.some.inj hs
    exact ⟨h.accounted, h.bounded, nofun, h.results, h.possible, nofun, fun _ => rfl⟩

theorem kept_of_reachable (h : (machine job stale).Reachable s) : Kept job s :=
  h.invariant (kept_start job stale) fun _ _ _ hk hs => hk.step hs

/-! ### Runs -/

/-- A scan that has returned takes no further step, and one that has not ends after as many steps as
there are eligible hosts to join, and one more. -/
theorem run_length (hk : Kept job s) (hr : (machine job stale).run s calls = some s') :
    (s.returned.isSome → calls = []) ∧ calls.length + s.joined.length ≤
      ((addresses job.network).filterMap job.probe?).length + 1 := by
  have hlength := hk.accounted.length
  simp only [window] at hlength
  induction calls generalizing s with
  | nil =>
    refine ⟨fun _ => rfl, ?_⟩
    rw [List.length_nil]
    omega
  | cons call calls ih =>
    obtain ⟨s₁, hs, hr⟩ := Option.bind_eq_some_iff.mp hr
    have hk₁ := hk.step hs
    have hlength₁ := hk₁.accounted.length
    simp only [window] at hlength₁
    obtain ⟨hstop, hrest⟩ := ih hk₁ hr hlength₁
    have hopen : ¬s.returned.isSome = true := (Option.ite_none_left_eq_some.mp hs).1
    refine ⟨fun hreturned => absurd hreturned hopen, ?_⟩
    have hcall := (Option.ite_none_left_eq_some.mp hs).2
    cases call with
    | join i outcome =>
      obtain ⟨-, hjoin⟩ := Option.ite_none_right_eq_some.mp hcall
      obtain ⟨-, probe, hj, -⟩ := joinNext_eq hjoin
      rw [hj, List.length_append, List.length_singleton] at hrest
      rw [List.length_cons]
      omega
    | finish =>
      obtain ⟨-, hcall⟩ := Option.ite_none_right_eq_some.mp hcall
      obtain rfl := Option.some.inj hcall
      rw [hstop rfl, List.length_singleton]
      omega
    | cancelled =>
      obtain rfl := Option.some.inj hcall
      rw [hstop rfl, List.length_singleton]
      omega

/-- Until it returns, a scan waits for some probe, or for none and then returns. -/
theorem exists_step (hs : s.returned = none) :
    (∃ s', step job s .finish = some s') ∨
      s.joinSet ≠ [] ∧ ∀ i < s.joinSet.length, ∀ outcome : Outcome, outcome.possible →
        ∃ s', step job s (.join i outcome) = some s' := by
  by_cases hidle : s.joinSet = []
  · refine .inl (Option.isSome_iff_exists.mp ?_)
    simp [step, hs, hidle]
  · refine .inr ⟨hidle, fun i hi outcome hpossible => Option.isSome_iff_exists.mp ?_⟩
    simp [step, hs, hpossible, ScanHosts.joinNext, List.getElem?_eq_getElem hi]

/-! ### What a scan returns -/

theorem map_host_filterMap (hosts : List Ipv4Addr) :
    (hosts.filterMap job.probe?).map (·.host) = hosts.filter fun host => (job.probe? host).isSome := by
  induction hosts with
  | nil => rfl
  | cons host rest ih =>
    cases hprobe : job.probe? host with
    | none => rw [List.filterMap_cons_none hprobe, ih, List.filter_cons_of_neg (by simp [hprobe])]
    | some probe =>
      rw [List.filterMap_cons_some hprobe, List.map_cons, ih, (probe?_eq_some hprobe).1,
        List.filter_cons_of_pos (by simp [hprobe])]

theorem hosts_sorted (job : Job) :
    (((addresses job.network).filterMap job.probe?).map (·.host)).Pairwise
      fun a b => a.toNat < b.toNat := by
  rw [map_host_filterMap]
  exact (addresses_sorted job.network).filter _

theorem hosts_nodup (job : Job) :
    (((addresses job.network).filterMap job.probe?).map (·.host)).Nodup :=
  (hosts_sorted job).imp fun h he => absurd (he ▸ h) (Nat.lt_irrefl _)

theorem spawned_first (hk : Kept job s) :
    s.spawned <+: (addresses job.network).filterMap job.probe? :=
  ⟨_, hk.accounted.order⟩

theorem joined_subset (hk : Kept job s) {outcome : Outcome} (h : (probe, outcome) ∈ s.joined) :
    probe ∈ (addresses job.network).filterMap job.probe? :=
  (spawned_first hk).subset <| hk.accounted.started.mem_iff.mpr <|
    List.mem_append_left _ (List.mem_map_of_mem h)

/-- The ports of a result are in order, whichever way they were joined. -/
theorem openPorts_eq {order : List UInt16} (horder : order.Perm PROBE_PORTS)
    (isOpen : UInt16 → Bool) :
    (order.filter isOpen).mergeSort (· ≤ ·) = PROBE_PORTS.filter isOpen := by
  have hsorted : PROBE_PORTS.Pairwise (· ≤ ·) := by decide
  have hperm : ((order.filter isOpen).mergeSort (· ≤ ·)).Perm (PROBE_PORTS.filter isOpen) :=
    (List.mergeSort_perm _ _).trans (horder.filter isOpen)
  refine hperm.eq_of_pairwise (fun _ _ _ _ => UInt16.le_antisymm) ?_ (hsorted.filter isOpen)
  have hmerged := @List.pairwise_mergeSort _ (fun a b : UInt16 => decide (a ≤ b))
    (fun a b c hab hbc => by simp_all [UInt16.le_trans (a := a) (b := b) (c := c)])
    (fun a b => by simpa using UInt16.le_total a b) (order.filter isOpen)
  exact hmerged.imp of_decide_eq_true

theorem mem_pushed {outcome : Outcome} {r : ScanResult} :
    r ∈ ScanHosts.pushed job probe outcome ↔ ∃ order isOpen, outcome = .joined order isOpen ∧
      r = probeHostAt job.scope.index probe order isOpen ∧ r.reachable := by
  cases outcome with
  | panicked => simp [ScanHosts.pushed]
  | joined order isOpen =>
    simp only [ScanHosts.pushed, Outcome.joined.injEq]
    constructor
    · intro h
      split at h
      next hreachable =>
        obtain rfl := List.mem_singleton.mp h
        exact ⟨order, isOpen, ⟨rfl, rfl⟩, rfl, hreachable⟩
      next => cases h
    · rintro ⟨order', isOpen', ⟨rfl, rfl⟩, rfl, hreachable⟩
      rw [if_pos hreachable]
      exact List.mem_singleton_self _

/-- A probe of the scan was joined with an open port, and this is what is known of its host. -/
def Job.Found (job : Job) (s : ScanHosts) (r : ScanResult) : Prop :=
  ∃ probe order isOpen, (probe, Outcome.joined order isOpen) ∈ s.joined ∧
    (∃ port ∈ PROBE_PORTS, isOpen port = true) ∧
    r = { key := job.scope.identities.lookup probe.host
          source := (selectWiredSource probe.host [] job.scope.ips).map Ipv4Addr.toText
          interfaceIndex := job.scope.index
          ip := probe.host.toText
          reachable := true
          openPorts := PROBE_PORTS.filter isOpen }

theorem probeHostAt_eq {order : List UInt16}
    (hprobe : probe ∈ (addresses job.network).filterMap job.probe?)
    (horder : order.Perm PROBE_PORTS) (isOpen : UInt16 → Bool) :
    probeHostAt job.scope.index probe order isOpen =
      { key := job.scope.identities.lookup probe.host
        source := (selectWiredSource probe.host [] job.scope.ips).map Ipv4Addr.toText
        interfaceIndex := job.scope.index
        ip := probe.host.toText
        reachable := !(PROBE_PORTS.filter isOpen).isEmpty
        openPorts := PROBE_PORTS.filter isOpen } := by
  obtain ⟨host, -, hprobed⟩ := List.mem_filterMap.mp hprobe
  obtain ⟨rfl, hsource, hkey⟩ := probe?_eq_some hprobed
  unfold probeHostAt
  rw [openPorts_eq horder, hsource, hkey]
  rfl

theorem some_open {isOpen : UInt16 → Bool} :
    (!(PROBE_PORTS.filter isOpen).isEmpty) = true ↔ ∃ port ∈ PROBE_PORTS, isOpen port = true := by
  rw [Bool.not_eq_true', List.isEmpty_eq_false_iff]
  constructor
  · intro hne
    obtain ⟨port, hport⟩ := List.exists_mem_of_ne_nil _ hne
    exact ⟨port, List.mem_filter.mp hport⟩
  · rintro ⟨port, hport⟩
    exact List.ne_nil_of_mem (List.mem_filter.mpr hport)

theorem mem_results_iff (hk : Kept job s) {r : ScanResult} : r ∈ s.results ↔ job.Found s r := by
  rw [hk.results, List.mem_flatMap]
  constructor
  · rintro ⟨⟨probe, outcome⟩, hjoined, hr⟩
    obtain ⟨order, isOpen, rfl, rfl, hreachable⟩ := mem_pushed.mp hr
    have horder := of_decide_eq_true (hk.possible _ hjoined)
    rw [probeHostAt_eq (joined_subset hk hjoined) horder isOpen] at hreachable ⊢
    have hreachable : (!(PROBE_PORTS.filter isOpen).isEmpty) = true := hreachable
    exact ⟨probe, order, isOpen, hjoined, some_open.mp hreachable, by rw [hreachable]⟩
  · rintro ⟨probe, order, isOpen, hjoined, hopen, rfl⟩
    have horder := of_decide_eq_true (hk.possible _ hjoined)
    have heq := probeHostAt_eq (joined_subset hk hjoined) horder isOpen
    rw [some_open.mpr hopen] at heq
    exact ⟨(probe, .joined order isOpen), hjoined, mem_pushed.mpr ⟨order, isOpen, rfl, heq.symm, rfl⟩⟩

/-- No host has been joined twice. -/
theorem joined_nodup (hk : Kept job s) : s.joined.Pairwise fun x y => x.1.host ≠ y.1.host := by
  have hspawned : (s.spawned.map (·.host)).Nodup :=
    (hosts_nodup job).sublist ((spawned_first hk).sublist.map _)
  have hperm := hk.accounted.started.map (·.host)
  rw [List.map_append] at hperm
  have hjoined := (hperm.nodup_iff.mp hspawned).of_append_left
  rw [List.map_map] at hjoined
  exact List.pairwise_map.mp hjoined

theorem results_nodup (hk : Kept job s) : s.results.Pairwise fun a b => a.ip ≠ b.ip := by
  have hip {x : HostProbe × Outcome} {r : ScanResult}
      (hr : r ∈ ScanHosts.pushed job x.1 x.2) : r.ip = x.1.host.toText := by
    obtain ⟨order, isOpen, -, rfl, -⟩ := mem_pushed.mp hr
    rfl
  rw [hk.results]
  refine List.pairwise_flatMap.mpr ⟨fun x _ => ?_, (joined_nodup hk).imp fun hne a ha b hb he => ?_⟩
  · cases x.2 with
    | panicked => exact .nil
    | joined order isOpen =>
      simp only [ScanHosts.pushed]
      split
      · exact List.pairwise_singleton _ _
      · exact .nil
  · exact hne (Ipv4Addr.toText_injective (by rw [← hip ha, ← hip hb, he]))

theorem sortsBefore_trans {a b c : ScanResult} (hab : sortsBefore a b) (hbc : sortsBefore b c) :
    sortsBefore a c := by
  unfold sortsBefore at *
  generalize Ipv4Addr.parse a.ip = x at *
  generalize Ipv4Addr.parse b.ip = y at *
  generalize Ipv4Addr.parse c.ip = z at *
  cases x with
  | none => rfl
  | some x =>
    cases y with
    | none => cases hab
    | some y =>
      cases z with
      | none => cases hbc
      | some z =>
        exact decide_eq_true (Nat.le_trans (of_decide_eq_true hab) (of_decide_eq_true hbc))

theorem sortsBefore_total (a b : ScanResult) : sortsBefore a b || sortsBefore b a := by
  unfold sortsBefore
  cases Ipv4Addr.parse a.ip <;> cases Ipv4Addr.parse b.ip <;> simp
  exact Nat.le_total _ _

/-- The results in the order in which they are returned. -/
theorem sorted_results (hk : Kept job s) :
    (s.results.mergeSort sortsBefore).Pairwise fun a b =>
      ∃ x y : Ipv4Addr, a.ip = x.toText ∧ b.ip = y.toText ∧ x.toNat < y.toNat := by
  have hsorted : (s.results.mergeSort sortsBefore).Pairwise fun a b => sortsBefore a b = true :=
    @List.pairwise_mergeSort _ sortsBefore (fun _ _ _ => sortsBefore_trans) sortsBefore_total _
  have hperm := List.mergeSort_perm s.results sortsBefore
  have hdistinct : (s.results.mergeSort sortsBefore).Pairwise fun a b => a.ip ≠ b.ip :=
    hperm.symm.pairwise (results_nodup hk) Ne.symm
  refine (hsorted.and hdistinct).imp_of_mem ?_
  rintro a b ha hb ⟨hle, hne⟩
  obtain ⟨p, _, _, _, _, rfl⟩ := (mem_results_iff hk).mp (hperm.mem_iff.mp ha)
  obtain ⟨q, _, _, _, _, rfl⟩ := (mem_results_iff hk).mp (hperm.mem_iff.mp hb)
  refine ⟨p.host, q.host, rfl, rfl, ?_⟩
  simp only [sortsBefore, Ipv4Addr.parse_toText, decide_eq_true_eq] at hle
  exact Nat.lt_of_le_of_ne hle fun he =>
    hne (congrArg Ipv4Addr.toText (Ipv4Addr.toNat_injective he))

/-! ### The whole scan -/

theorem start_stale (job : Job) : (start job true).spawned = [] ∧ (start job true).returned = some [] :=
  ⟨rfl, rfl⟩

theorem stale_of_reachable (h : (machine job true).Reachable s) :
    s.spawned = [] ∧ s.returned = some [] := by
  refine h.invariant (P := fun s => s.spawned = [] ∧ s.returned = some []) (start_stale job) ?_
  rintro s call s' ⟨-, hreturned⟩ hs
  exact absurd (by rw [hreturned]; rfl) (Option.ite_none_left_eq_some.mp hs).1

/-- A scan that was not dropped has probed its eligible hosts, and joined what it probed. -/
theorem covered (hk : Kept job s) (hagrees : job.Agrees) (hdropped : s.dropped = false)
    (hidle : s.joinSet = []) :
    (∀ ip, ip ∈ s.spawned.map (·.host) ↔ job.Eligible ip) ∧
      (s.joined.map Prod.fst).Perm s.spawned := by
  have hended := Window.ended_of_idle hk.accounted (hk.full hdropped) (by decide) hidle
  have hstarted : s.spawned.Perm (s.joined.map Prod.fst) := by
    have hstarted := hk.accounted.started
    rwa [show (window job s).pending = [] from hidle, List.append_nil] at hstarted
  refine ⟨fun ip => ?_, hstarted.symm⟩
  rw [((hstarted.trans hended).map (·.host)).mem_iff, map_host_filterMap, List.mem_filter]
  constructor
  · rintro ⟨hmem, hprobe⟩
    exact (probe?_isSome_iff hagrees hmem).mp hprobe
  · intro he
    have hmem := (mem_addresses job.network).mpr he.inside
    exact ⟨hmem, (probe?_isSome_iff hagrees hmem).mpr he⟩

theorem eligible_of_spawned (hk : Kept job s) (hagrees : job.Agrees) (h : probe ∈ s.spawned) :
    job.Eligible probe.host := by
  obtain ⟨host, hmem, hprobe⟩ := List.mem_filterMap.mp ((spawned_first hk).subset h)
  obtain ⟨rfl, -⟩ := probe?_eq_some hprobe
  exact (probe?_isSome_iff hagrees hmem).mp (Option.isSome_of_mem hprobe)

/-- One address is this host's own, and one is a camera's. -/
def fourAddresses : Job where
  network := (⟨10, 0, 0, 0⟩, 30)
  scope := ⟨7, [⟨"10.0.0.2", 30⟩], Finmap.singleton ⟨10, 0, 0, 1⟩ "02:00:00:00:00:09"⟩
  localIps := [⟨10, 0, 0, 2⟩]
  agrees index _ source := index == 7 && source == ⟨10, 0, 0, 2⟩

/-- The camera answers on two ports, which are joined late first. -/
def cameraAnswers : List Call :=
  [.join 0 (.joined PROBE_PORTS.reverse fun port => port == 554 || port == 80), .finish]

theorem agrees_fourAddresses : fourAddresses.Agrees := by
  intro host source hsource
  have hfound : selectWiredSource host [] fourAddresses.scope.ips =
      (Ipv4Addr.parse "10.0.0.2").filter fun addr => networkContains addr 30 host := by
    simp [selectWiredSource, fourAddresses, IpInfo.sourceFor]
  rw [hfound] at hsource
  obtain ⟨hparse, -⟩ := Option.filter_eq_some_iff.mp hsource
  have hport : Ipv4Addr.parse "10.0.0.2" = some ⟨10, 0, 0, 2⟩ := by decide
  obtain rfl := Option.some.inj (hport.symm.trans hparse)
  rfl

def cameraScan : Machine ScanHosts Call := machine fourAddresses false

end Scanner

end PocketStream
