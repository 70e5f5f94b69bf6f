import Mathlib.Data.List.Find
import PocketStream.Adoption.CacheProbe
import PocketStream.Adoption.SubnetAccounting
import PocketStream.Binding.MacIdentity
import PocketStream.Foundation.Requests
import PocketStream.Registry.DeviceRegistry

/-! # Where scratch addresses land

The choice of a scratch avoids the last octets of the device and of the listed peers, and knows
nothing of the host. It is clear of all of them exactly when some choice is left over that the
host leaves too.
-/

namespace PocketStream

open Foundation Program Probe

/-- On the device's /24 and neither the device, a peer, reserved, nor held by the host. -/
structure ClearScratch (device : Ipv4Addr) (peers host : List Ipv4Addr) (scratch : Ipv4Addr) :
    Prop where
  onSubnet : alreadyOnSubnet device [scratch] = true
  ne_device : scratch ≠ device
  notMem_peers : scratch ∉ peers
  ne_zero : scratch.d ≠ 0
  ne_broadcast : scratch.d ≠ 255
  notMem_host : scratch ∉ host

/-- Some octet of the choices is not in use, and the host does not hold the address with the
first such octet. -/
def HostLeaves (device : Ipv4Addr) (peers host : List Ipv4Addr) : Prop :=
  ∃ used last rest, scratchStarts = used ++ last :: rest ∧
    (∀ o ∈ used, o = device.d ∨ ∃ peer ∈ peers, peer.d = o) ∧
    last ≠ device.d ∧ (∀ peer ∈ peers, peer.d ≠ last) ∧
    (⟨device.a, device.b, device.c, last⟩ : Ipv4Addr) ∉ host

theorem alreadyOnSubnet_singleton {device ip : Ipv4Addr} :
    alreadyOnSubnet device [ip] = true ↔ ip.a = device.a ∧ ip.b = device.b ∧ ip.c = device.c := by
  simp [alreadyOnSubnet, and_assoc]

/-- The first of the choices that neither the device nor a peer ends in. -/
def firstUnused (device : Ipv4Addr) (peers : List Ipv4Addr) : Option (Fin 256) :=
  scratchStarts.find? fun o => o != device.d && !(peers.map (·.d)).contains o

theorem pickScratch_eq (device : Ipv4Addr) (peers : List Ipv4Addr) :
    pickScratch device peers =
      ⟨device.a, device.b, device.c, (firstUnused device peers).getD 254⟩ := rfl

theorem unused_iff {device : Ipv4Addr} {peers : List Ipv4Addr} {o : Fin 256} :
    (o != device.d && !(peers.map (·.d)).contains o) = true ↔
      o ≠ device.d ∧ ∀ peer ∈ peers, peer.d ≠ o := by
  simp

theorem firstUnused_eq_some {device : Ipv4Addr} {peers : List Ipv4Addr} {last : Fin 256}
    (h : firstUnused device peers = some last) :
    last ∈ scratchStarts ∧ last ≠ device.d ∧ ∀ peer ∈ peers, peer.d ≠ last := by
  unfold firstUnused at h
  have hlast := List.find?_some h
  rw [unused_iff] at hlast
  exact ⟨List.mem_of_find?_eq_some h, hlast⟩

theorem hostLeaves_iff {device : Ipv4Addr} {peers host : List Ipv4Addr} :
    HostLeaves device peers host ↔ ∃ last, firstUnused device peers = some last ∧
      (⟨device.a, device.b, device.c, last⟩ : Ipv4Addr) ∉ host := by
  have hnot : ∀ o : Fin 256, (!(o != device.d && !(peers.map (·.d)).contains o)) = true ↔
      o = device.d ∨ ∃ peer ∈ peers, peer.d = o := by
    intro o
    rw [Bool.not_eq_true', ← Bool.not_eq_true, unused_iff, not_and_or, not_not]
    simp
  simp only [HostLeaves, firstUnused, List.find?_eq_some_iff_append, unused_iff, hnot]
  constructor
  · rintro ⟨used, last, rest, hsplit, hused, hdevice, hpeers, hhost⟩
    exact ⟨last, ⟨⟨hdevice, hpeers⟩, used, rest, hsplit, hused⟩, hhost⟩
  · rintro ⟨last, ⟨⟨hdevice, hpeers⟩, used, rest, hsplit, hused⟩, hhost⟩
    exact ⟨used, last, rest, hsplit, hused, hdevice, hpeers, hhost⟩

theorem reserved_notMem_scratchStarts : ∀ o ∈ scratchStarts, o ≠ 0 ∧ o ≠ 255 := by
  decide +kernel

/-- The choice is clear exactly when an octet is left that the host leaves too. -/
theorem clearScratch_iff {device : Ipv4Addr} {peers host : List Ipv4Addr}
    (hpeers : ∀ peer ∈ peers, alreadyOnSubnet device [peer] = true) :
    ClearScratch device peers host (pickScratch device peers) ↔ HostLeaves device peers host := by
  rw [hostLeaves_iff, pickScratch_eq]
  cases hfind : firstUnused device peers with
  | some last =>
    obtain ⟨hmem, hdevice, hlast⟩ := firstUnused_eq_some hfind
    constructor
    · intro h
      exact ⟨last, rfl, h.notMem_host⟩
    · rintro ⟨_, ⟨⟩, hhost⟩
      refine ⟨by simp [alreadyOnSubnet], fun he => ?_, fun h => hlast _ h rfl, ?_, ?_, hhost⟩
      · exact hdevice (congrArg Ipv4Addr.d he)
      · exact reserved_notMem_scratchStarts last hmem |>.1
      · exact reserved_notMem_scratchStarts last hmem |>.2
  | none =>
    -- the device or a peer ends in the fallback
    have h254 := List.find?_eq_none.mp hfind 254 (by decide)
    rw [unused_iff, not_and_or, not_not] at h254
    refine iff_of_false (fun h => ?_) (by rintro ⟨_, ⟨⟩, -⟩)
    rcases h254 with hd | hused
    · exact h.ne_device (by rw [Option.getD_none, hd])
    · push Not at hused
      obtain ⟨peer, hpeer, hpd⟩ := hused
      obtain ⟨ha, hb, hc⟩ := alreadyOnSubnet_singleton.mp (hpeers peer hpeer)
      refine h.notMem_peers ?_
      rw [Option.getD_none, ← ha, ← hb, ← hc, ← hpd]
      exact hpeer

/-- Peers that end in none of the choices do not matter. -/
theorem firstUnused_eq_nil {device : Ipv4Addr} {peers : List Ipv4Addr}
    (h : ∀ peer ∈ peers, peer.d = device.d ∨ peer.d ∉ scratchStarts) :
    firstUnused device peers = firstUnused device [] := by
  refine List.find?_congr fun o ho => ?_
  rw [Bool.eq_iff_iff, unused_iff, unused_iff]
  refine and_congr_right fun hdevice => iff_of_true (fun peer hpeer he => ?_) (by simp)
  rcases h peer hpeer with hd | hd
  · exact hdevice (he.symm.trans hd)
  · exact hd (he ▸ ho)

/-! ### What is probed together -/

theorem subnetKeyFor_eq (ip : Ipv4Addr) :
    subnetKeyFor ip = (⟨ip.a, ip.b, ip.c, 0⟩ : Ipv4Addr).toText ++ "/24" := by
  have hoctet : ∀ n : Fin 256, (toString n).toList = Ipv4Addr.octetChars n := fun _ => rfl
  have htext : ∀ s : String, toString s = s := fun _ => rfl
  apply String.toList_inj.mp
  have hzero : Ipv4Addr.octetChars 0 = ['0'] := by decide
  simp [subnetKeyFor, Ipv4Addr.toText, hoctet, htext, hzero]

theorem subnetKeyFor_inj {ip ip' : Ipv4Addr} (h : subnetKeyFor ip = subnetKeyFor ip') :
    ip.a = ip'.a ∧ ip.b = ip'.b ∧ ip.c = ip'.c := by
  rw [subnetKeyFor_eq, subnetKeyFor_eq] at h
  have htext := (String.append_left_inj _).mp h
  obtain ⟨ha, hb, hc, -⟩ := Ipv4Addr.mk.inj (Ipv4Addr.toText_injective htext)
  exact ⟨ha, hb, hc⟩

/-- The candidates of one pass, as the derivation and the solicited probe make them. -/
structure PassPlan where
  candidates : List ProbeCandidate
  distinct : (candidates.map (·.subnet)).Nodup
  grouped : ∀ c ∈ candidates, ∀ pair ∈ c.pairs, subnetKeyFor pair.1 = c.subnet

/-- The rows of the cache that are probed; `skipped` is what the sets of native, adopted, held,
attempted and ghost subnets leave out. -/
def probePairs (L : UnicodeLowercase) (skipped : String → Ipv4Addr → Bool)
    (cached : List CachedDevice) : List (Ipv4Addr × String) :=
  cached.filterMap fun record => do
    let mac ← normalizeMac L record.mac
    let ip ← Ipv4Addr.parse record.ip
    if prohibitedCameraIp ip || skipped (subnetKeyFor ip) ip then none else some (ip, mac)

def probePairLe (p q : Ipv4Addr × String) : Bool :=
  decide (p.1.toNat < q.1.toNat ∨ p.1 = q.1 ∧ p.2 ≤ q.2)

/-- The candidate of a subnet with its sorted pairs, if it has any. -/
def probeCandidateOf (pairs : List (Ipv4Addr × String)) (subnet : String) : Option ProbeCandidate :=
  let own := ((pairs.filter fun pair => subnetKeyFor pair.1 == subnet).dedup).mergeSort probePairLe
  if h : own ≠ [] then some ⟨subnet, own, h⟩ else none

theorem probeCandidateOf_eq_some {pairs : List (Ipv4Addr × String)} {subnet : String}
    {c : ProbeCandidate} (h : probeCandidateOf pairs subnet = some c) :
    c.subnet = subnet ∧ ∀ pair ∈ c.pairs, subnetKeyFor pair.1 = c.subnet := by
  unfold probeCandidateOf at h
  dsimp only at h
  split at h
  · obtain rfl := Option.some.inj h
    refine ⟨rfl, fun pair hpair => ?_⟩
    rw [List.mem_mergeSort, List.mem_dedup, List.mem_filter] at hpair
    exact beq_iff_eq.mp hpair.2
  · cases h

/-- `derive_candidates`, whose map goes through the subnets in their order. -/
def deriveCandidates (L : UnicodeLowercase) (skipped : String → Ipv4Addr → Bool)
    (cached : List CachedDevice) : PassPlan where
  candidates :=
    let pairs := probePairs L skipped cached
    (((pairs.map fun pair => subnetKeyFor pair.1).dedup).mergeSort (· ≤ ·)).filterMap
      (probeCandidateOf pairs)
  distinct := by
    dsimp only
    generalize probePairs L skipped cached = pairs
    rw [List.map_filterMap]
    refine List.Nodup.filterMap ?_ ((List.mergeSort_perm _ _).nodup_iff.mpr (List.nodup_dedup _))
    intro x y subnet hx hy
    obtain ⟨c, hc, rfl⟩ := Option.map_eq_some_iff.mp hx
    obtain ⟨d, hd, he⟩ := Option.map_eq_some_iff.mp hy
    rw [← (probeCandidateOf_eq_some hc).1, ← (probeCandidateOf_eq_some hd).1, he]
  grouped := by
    intro c hc
    obtain ⟨subnet, -, hsome⟩ := List.mem_filterMap.mp hc
    exact (probeCandidateOf_eq_some hsome).2

/-- The plan of the solicited probe: one device. -/
def PassPlan.solicit (ip : Ipv4Addr) (mac : String) : PassPlan where
  candidates := [⟨subnetKeyFor ip, [(ip, mac)], by simp⟩]
  distinct := by simp
  grouped := by simp
/-! ### The scratch of a cache pass -/

section Pass

variable {barrier : ProbeCall → Prop} {subnet : String} {s : Ipv4Addr} {index : UInt32}

theorem not_issues_orElse {a b : Probe Bool} {e : ProbeCall} (ha : ¬ a.Issues barrier e)
    (hb : ¬ b.Issues barrier e) : ¬ (orElse a b).Issues barrier e := by
  refine not_issues_bind ha fun stop => ?_
  split
  · exact id
  · exact hb

theorem not_issues_ask {call e : ProbeCall} (h : call ≠ e) : ¬ (ask call).Issues barrier e :=
  fun hissues => h (issues_perform.mp hissues)

theorem returns_ask (call : ProbeCall) (r : call.Reply) : (ask call).Returns (fun _ => False) r :=
  returns_perform.mpr id

theorem not_issues_matchPair {scratch : Ipv4Addr} (pairs : List (Ipv4Addr × String)) :
    ¬ (matchPair scratch index pairs).Issues barrier (.bindScratch subnet s) := by
  induction pairs with
  | nil => exact id
  | cons pair rest ih =>
    refine not_issues_bind (not_issues_orElse (not_issues_ask nofun) (not_issues_ask nofun))
      fun stop => ?_
    split
    · exact id
    refine not_issues_bind (not_issues_ask nofun) fun resolved => ?_
    refine not_issues_bind (not_issues_ask nofun) fun stop => ?_
    split
    · exact id
    split
    · split
      · exact id
      · exact ih
    · exact ih

theorem not_issues_settleScratch {c : ProbeCandidate} {report : PassReport}
    (found : Option (Ipv4Addr × String)) :
    ¬ (settleScratch c report found).Issues barrier (.bindScratch subnet s) := by
  cases found with
  | none =>
    refine not_issues_bind (not_issues_ask nofun) fun _ => ?_
    exact not_issues_bind (not_issues_ask nofun) fun _ => id
  | some pair =>
    refine not_issues_bind (not_issues_ask nofun) fun keepRunning => ?_
    refine not_issues_bind (not_issues_ask nofun) fun stopped => ?_
    dsimp only
    split
    · exact id
    · exact not_issues_bind (not_issues_ask nofun) fun _ => id

/-- A candidate binds its scratch and no other. -/
theorem issues_probeCandidate {c : ProbeCandidate} {report : PassReport} :
    (probeCandidate index c report).Issues barrier (.bindScratch subnet s) ↔
      c.subnet = subnet ∧ c.scratch = s := by
  unfold probeCandidate
  rw [issues_bind]
  constructor
  · rintro (h | ⟨bound, -, h⟩)
    · simpa [bindScratch, ask] using h
    · exfalso
      revert h
      split
      · exact not_issues_bind (not_issues_matchPair c.pairs) fun found =>
          not_issues_settleScratch found
      · exact id
  · rintro ⟨rfl, rfl⟩
    exact .inl (by simp [bindScratch, ask])

/-- A refused scratch lets the pass go on. -/
theorem returns_probeCandidate {c : ProbeCandidate} {report : PassReport} :
    (probeCandidate index c report).Returns (fun _ => False)
      ({ report with attempted := report.attempted ++ [c.subnet] }, true) := by
  unfold probeCandidate
  rw [returns_bind]
  exact ⟨false, returns_ask (.bindScratch _ _) false, rfl⟩

theorem issues_probeCandidates {report : PassReport} (cs : List ProbeCandidate) :
    (probeCandidates index report cs).Issues (fun _ => False) (.bindScratch subnet s) ↔
      ∃ c ∈ cs, c.subnet = subnet ∧ c.scratch = s := by
  induction cs generalizing report with
  | nil => simp [probeCandidates]
  | cons c cs ih =>
    simp only [probeCandidates, issues_bind, List.exists_mem_cons_iff]
    constructor
    · rintro (h | ⟨stop, -, h⟩)
      · exact absurd h (not_issues_ask nofun)
      split at h
      · exact h.elim
      rcases issues_bind.mp h with h | ⟨late, -, h⟩
      · exact absurd h (not_issues_ask nofun)
      split at h
      · exact h.elim
      rcases issues_bind.mp h with h | ⟨⟨report', more⟩, -, h⟩
      · exact .inl (issues_probeCandidate.mp h)
      · split at h
        · exact .inr (ih.mp h)
        · exact h.elim
    · intro h
      refine .inr ⟨false, returns_ask .shutdown false, ?_⟩
      rw [if_neg Bool.false_ne_true, issues_bind]
      refine .inr ⟨false, returns_ask .deadlinePassed false, ?_⟩
      rw [if_neg Bool.false_ne_true, issues_bind]
      rcases h with h | h
      · exact .inl (issues_probeCandidate.mpr h)
      · exact .inr ⟨_, returns_probeCandidate, ih.mpr h⟩

/-- The binds of a pass are those of its candidates, and each of them may come. -/
theorem issues_runPass {cs : List ProbeCandidate} :
    (runPass cs).Issues (fun _ => False) (.bindScratch subnet s) ↔
      ∃ c ∈ cs, c.subnet = subnet ∧ c.scratch = s := by
  unfold runPass
  rw [issues_bind]
  constructor
  · rintro (h | ⟨index, -, h⟩)
    · exact absurd h (not_issues_ask nofun)
    split at h
    · exact h.elim
    · exact (issues_probeCandidates cs).mp h
  · intro h
    refine .inr ⟨(1 : UInt32), returns_ask .interfaceIndex _, ?_⟩
    rw [if_neg (by decide)]
    exact (issues_probeCandidates cs).mpr h

end Pass

/-! ### The scratch of a verification -/

theorem not_issues_retired {barrier : ProbeCall → Prop} {subnet : String} {s : Ipv4Addr} :
    ¬ retired.Issues barrier (.bindScratch subnet s) :=
  not_issues_orElse (not_issues_ask nofun) (not_issues_ask nofun)

theorem returns_retired : retired.Returns (fun _ => False) false :=
  returns_bind.mpr ⟨false, returns_ask .shutdown false, returns_ask .fenceStale false⟩

theorem not_issues_proveJob {job : Job} {mac subnet : String} {s : Ipv4Addr} :
    ¬ (proveJob job mac).Issues (fun _ => False) (.bindScratch subnet s) := by
  refine not_issues_bind (not_issues_orElse not_issues_retired (not_issues_ask nofun)) fun late => ?_
  split <;> exact id

theorem not_issues_resolveAndConclude {job : Job} {snapshot : PresenceSnapshot} {subnet : String}
    {s : Ipv4Addr} :
    ¬ (resolveAndConclude job snapshot).Issues (fun _ => False) (.bindScratch subnet s) := by
  refine not_issues_bind (not_issues_bind not_issues_retired fun stopped => ?_) fun mac => ?_
  · split
    · exact id
    · exact not_issues_bind (not_issues_ask nofun) fun _ => id
  refine not_issues_bind not_issues_retired fun stopped => ?_
  split
  · split
    · refine not_issues_bind (not_issues_ask nofun) fun adopted => ?_
      split
      · exact not_issues_proveJob
      · exact id
    · exact not_issues_proveJob
  · split
    · exact not_issues_bind (not_issues_ask nofun) fun _ => id
    · exact id

/-- A verification binds a scratch for a foreign address that may be adopted, and no other. -/
theorem issues_verify {job : Job} {snapshot : PresenceSnapshot} {subnet : String} {s : Ipv4Addr} :
    (verify job snapshot).Issues (fun _ => False) (.bindScratch subnet s) ↔
      job.foreign = true ∧ snapshot.mode = .staticAuto ∧ subnetKeyFor job.ip = subnet ∧
        job.scratch = s := by
  unfold verify
  constructor
  · intro h
    rcases issues_bind.mp h with h | ⟨stopped, -, h⟩
    · exact absurd h not_issues_retired
    split at h
    · exact h.elim
    rcases issues_bind.mp h with h | ⟨index, -, h⟩
    · exact absurd h (not_issues_ask nofun)
    split at h
    · exact h.elim
    split at h
    · exact h.elim
    split at h
    · next hmode hforeign =>
      rcases issues_bind.mp h with h | ⟨bound, -, h⟩
      · obtain ⟨hsubnet, hscratch⟩ := ProbeCall.bindScratch.inj (issues_perform.mp h)
        exact ⟨hforeign, not_not.mp fun hm => hmode ⟨hforeign, hm⟩, hsubnet, hscratch⟩
      · split at h
        · exact absurd h not_issues_resolveAndConclude
        · exact h.elim
    · exact absurd h not_issues_resolveAndConclude
  · rintro ⟨hforeign, hmode, rfl, rfl⟩
    rw [issues_bind]
    refine .inr ⟨false, returns_retired, ?_⟩
    rw [if_neg Bool.false_ne_true, issues_bind]
    refine .inr ⟨snapshot.index, returns_ask .interfaceIndex _, ?_⟩
    rw [if_neg (not_not_intro rfl), if_neg (fun h => h.2 hmode), if_pos hforeign, issues_bind]
    exact .inl (issues_perform.mpr rfl)

/-! ### The scratch of an adoption -/

def Subnet.Effect.isAdd : Subnet.Effect → Prop
  | .call (.add _ _ _) => True
  | _ => False

theorem issues_adoptAmong {iface iface' mask : String} {device ip : Ipv4Addr}
    {candidates : List Ipv4Addr} (id : UInt64) (polls : ℕ) :
    (Subnet.adoptAmong iface device candidates id none polls).Issues Subnet.Effect.isAdd
      (.call (.add iface' ip mask)) ↔
      iface = iface' ∧ pickScratch device candidates = ip ∧ "255.255.255.0" = mask := by
  simp [Subnet.adoptAmong, Subnet.bindScratch, Subnet.issue, issues_bind, Subnet.Effect.isAdd]

theorem issues_adoptSubnet {iface iface' mask : String} {device ip : Ipv4Addr}
    {currentIps localIps : List Ipv4Addr} {id : UInt64} {polls : ℕ} :
    (Subnet.adoptSubnetWithScratch iface device currentIps localIps id none polls).Issues
      Subnet.Effect.isAdd (.call (.add iface' ip mask)) ↔
      (alreadyOnSubnet device currentIps = false ∧
        pickCandidateIp device (localIps ++ currentIps) ≠ []) ∧
      iface = iface' ∧ pickScratch device (pickCandidateIp device (localIps ++ currentIps)) = ip ∧
        "255.255.255.0" = mask := by
  rw [← issues_adoptAmong id polls]
  simp [Subnet.adoptSubnetWithScratch, Subnet.confirmPrepared]
  split_ifs <;> simp_all

/-! ### Clear scratch addresses -/

def ProbeCandidate.device (c : ProbeCandidate) : Ipv4Addr := (c.pairs.head c.nonempty).1

theorem PassPlan.onSubnet (plan : PassPlan) {c : ProbeCandidate} (hc : c ∈ plan.candidates)
    {peer : Ipv4Addr} (hpeer : peer ∈ c.pairs.map Prod.fst) :
    alreadyOnSubnet c.device [peer] = true := by
  obtain ⟨pair, hpair, rfl⟩ := List.mem_map.mp hpeer
  have hhead := plan.grouped c hc _ (List.head_mem c.nonempty)
  exact alreadyOnSubnet_singleton.mpr
    (subnetKeyFor_inj ((plan.grouped c hc pair hpair).trans hhead.symm))

/-- The adoption's own candidates end in none of the choices. -/
theorem clearScratch_adoption_iff {device : Ipv4Addr} {host : List Ipv4Addr}
    (usedIps : List Ipv4Addr) :
    ClearScratch device (pickCandidateIp device usedIps) host
        (pickScratch device (pickCandidateIp device usedIps)) ↔ HostLeaves device [] host := by
  rw [clearScratch_iff fun peer hpeer => (Subnet.mem_pickCandidateIp hpeer).1, hostLeaves_iff,
    hostLeaves_iff, firstUnused_eq_nil fun peer hpeer => ?_]
  exact .inr (Subnet.scratch_notMem_candidates _ (Subnet.mem_pickCandidateIp hpeer).2.2.2)

theorem clearScratch_job_iff {job : Job} {host : List Ipv4Addr} (hforeign : job.foreign = true) :
    ClearScratch job.ip [] host job.scratch ↔ HostLeaves job.ip [] host := by
  have hscratch : job.scratch = pickScratch job.ip [] := by
    rw [Job.scratch, Option.isNone_iff_eq_none.mp hforeign, Option.getD_none, pickScratch_eq,
      pickScratch_eq, firstUnused_eq_nil (by simp)]
  rw [hscratch]
  exact clearScratch_iff (by simp)

/-- **Scratch addresses**: an adoption, a pass and a verification bind clear addresses exactly
when they bind nothing or a choice is left that the host leaves too. -/
theorem scratch_clear_iff (host : List Ipv4Addr) :
    (∀ iface device currentIps localIps id polls,
      (∀ ip mask, (Subnet.adoptSubnetWithScratch iface device currentIps localIps id none
          polls).Issues Subnet.Effect.isAdd (.call (.add iface ip mask)) →
        ClearScratch device (pickCandidateIp device (localIps ++ currentIps)) host ip) ↔
      alreadyOnSubnet device currentIps = true ∨
        pickCandidateIp device (localIps ++ currentIps) = [] ∨ HostLeaves device [] host) ∧
    (∀ plan : PassPlan,
      (∀ c ∈ plan.candidates, ∀ s,
        (runPass plan.candidates).Issues (fun _ => False) (.bindScratch c.subnet s) →
          ClearScratch c.device (c.pairs.map Prod.fst) host s) ↔
      ∀ c ∈ plan.candidates, HostLeaves c.device (c.pairs.map Prod.fst) host) ∧
    ∀ (job : Job) (snapshot : PresenceSnapshot),
      (∀ subnet s, (verify job snapshot).Issues (fun _ => False) (.bindScratch subnet s) →
        ClearScratch job.ip [] host s) ↔
      job.foreign = false ∨ snapshot.mode ≠ .staticAuto ∨ HostLeaves job.ip [] host := by
  refine ⟨fun iface device currentIps localIps id polls => ?_, fun plan => ?_,
    fun job snapshot => ?_⟩
  · simp only [issues_adoptSubnet]
    rw [← clearScratch_adoption_iff (localIps ++ currentIps)]
    constructor
    · intro h
      by_cases hon : alreadyOnSubnet device currentIps = true
      · exact .inl hon
      by_cases hnone : pickCandidateIp device (localIps ++ currentIps) = []
      · exact .inr (.inl hnone)
      exact .inr (.inr (h _ _ ⟨⟨Bool.eq_false_of_not_eq_true hon, hnone⟩, trivial, rfl, rfl⟩))
    · rintro h ip mask ⟨⟨hoff, hsome⟩, -, rfl, -⟩
      exact (h.resolve_left (by simp [hoff])).resolve_left hsome
  · simp only [issues_runPass]
    constructor
    · intro h c hc
      rw [← clearScratch_iff fun peer => plan.onSubnet hc]
      exact h c hc _ ⟨c, hc, rfl, rfl⟩
    · rintro h c hc s ⟨d, hd, hsubnet, rfl⟩
      obtain rfl : d = c := List.inj_on_of_nodup_map plan.distinct hd hc hsubnet
      exact (clearScratch_iff fun peer => plan.onSubnet hc).mpr (h d hc)
  · simp only [issues_verify]
    constructor
    · intro h
      by_cases hforeign : job.foreign = true
      · by_cases hmode : snapshot.mode = .staticAuto
        · exact .inr (.inr ((clearScratch_job_iff hforeign).mp
            (h _ _ ⟨hforeign, hmode, rfl, rfl⟩)))
        · exact .inr (.inl hmode)
      · exact .inl (Bool.eq_false_of_not_eq_true hforeign)
    · rintro h subnet s ⟨hforeign, hmode, -, rfl⟩
      refine (clearScratch_job_iff hforeign).mpr ?_
      exact (h.resolve_left (by simp [hforeign])).resolve_left (not_not_intro hmode)

/-- Cached cameras on every octet that the scratch is chosen from. -/
def crowdedCandidate : ProbeCandidate where
  subnet := "192.168.5.0/24"
  pairs := scratchStarts.map fun last => (⟨192, 168, 5, last⟩, "02:00:00:00:00:01")
  nonempty := by decide

/-- The scratch of an adoption is the host's own address on another adapter, and the scratch of
a crowded pass is the address of a camera. -/
theorem scratch_collides :
    (Subnet.adoptSubnetWithScratch "eth" ⟨192, 168, 5, 20⟩ [⟨192, 168, 1, 10⟩]
        [⟨192, 168, 1, 10⟩, ⟨192, 168, 5, 254⟩] 7 none 3).Issues Subnet.Effect.isAdd
      (.call (.add "eth" ⟨192, 168, 5, 254⟩ "255.255.255.0")) ∧
    (verify ⟨⟨192, 168, 5, 20⟩, none⟩ ⟨7, .staticAuto⟩).Issues (fun _ => False)
      (.bindScratch "192.168.5.0/24" ⟨192, 168, 5, 254⟩) ∧
    (runPass [crowdedCandidate]).Issues (fun _ => False)
      (.bindScratch crowdedCandidate.subnet ⟨192, 168, 5, 254⟩) ∧
    (⟨192, 168, 5, 254⟩ : Ipv4Addr) ∈ crowdedCandidate.pairs.map Prod.fst := by
  refine ⟨issues_adoptSubnet.mpr ⟨⟨by decide, by decide +kernel⟩, rfl, by decide +kernel, rfl⟩,
    issues_verify.mpr ⟨rfl, rfl, by decide +kernel, by decide +kernel⟩,
    issues_runPass.mpr ⟨crowdedCandidate, by simp, rfl, by decide +kernel⟩, by decide +kernel⟩

end PocketStream
