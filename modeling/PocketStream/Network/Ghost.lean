import PocketStream.Binding.NetworkLaws
import PocketStream.Network.Readiness

/-! # Structural ghosts

The networks of adapters that are up and not the wired camera port. A network that
a wired adapter has too is left out, and only that very network is, so that a wider
or a narrower one still covers addresses of the wired network.
-/

namespace PocketStream

open Foundation

def WiredInterface.wiredPhysical (i : WiredInterface) : Bool :=
  i.isEthernet && !i.isVpn && !i.isVirtual

def WiredInterface.wiredEthernet (i : WiredInterface) : Bool := i.isUp && i.wiredPhysical

section Networks

variable {N : Type} (net : IpNetwork N)

/-- The network of an interface address, by its network address. -/
def ipToNetwork (ip : IpInfo) : Option N := do
  let addr ← Ipv4Addr.parse ip.address
  let network ← ipv4Network net addr.toText ip.prefixLen
  ipv4Network net (net.network network).toText ip.prefixLen

def networksOf (ifaces : List WiredInterface) : List N :=
  ifaces.flatMap fun i => i.ips.filterMap (ipToNetwork net)

def nonWiredNetworksOf [DecidableEq N] (ifaces : List WiredInterface) : List N :=
  let wired := networksOf net (ifaces.filter WiredInterface.wiredEthernet)
  (ifaces.filter fun i => i.isUp && !i.wiredEthernet).foldl (fun excluded i =>
    (i.ips.filterMap (ipToNetwork net)).foldl (fun excluded n =>
      if n ∉ wired ∧ n ∉ excluded then excluded ++ [n] else excluded) excluded) []

def isStructuralGhostIp (ip : Ipv4Addr) (networks : List N) : Bool :=
  networks.any (net.contains · ip)

/-- A key that cannot be read is no ghost. -/
def isStructuralGhostAdoption (subnetKey : String) (networks : List N) : Bool :=
  match net.parse subnetKey with
  | none => false
  | some key => networks.any fun n =>
      net.contains n (net.network key) || net.contains key (net.network n)

inductive CacheReject | nonWiredSubnet | hostOwnedMac
  deriving DecidableEq, Repr

/-- Why a cached row is rejected, if it is. -/
def cacheReject (ghosts : List N) (localMacs : List (List UInt8)) (d : CachedDevice) :
    Option CacheReject := do
  let ip ← Ipv4Addr.parse d.ip
  if isStructuralGhostIp net ip ghosts then return .nonWiredSubnet
  else if (parseMacBytes d.mac).any (· ∈ localMacs) then return .hostOwnedMac
  else none

def partitionCached (cached : List CachedDevice) (ghosts : List N)
    (localMacs : List (List UInt8)) : List CachedDevice × List (CachedDevice × CacheReject) :=
  cached.foldl (fun (allowed, rejected) d =>
    match cacheReject net ghosts localMacs d with
    | some reason => (allowed, rejected ++ [(d, reason)])
    | none => (allowed ++ [d], rejected)) ([], [])

end Networks

/-! ### The addresses of an adapter's networks -/

/-- The addresses of the network of an interface address. -/
def IpInfo.block (ip : IpInfo) : Option Block :=
  ((Ipv4Addr.parse ip.address).filter fun _ => ip.prefixLen ≤ 32).map fun addr =>
    .of (32 - ip.prefixLen.toNat) addr.toNat

def blocksOf (ifaces : List WiredInterface) : List Block :=
  ifaces.flatMap fun i => i.ips.filterMap IpInfo.block

/-- The networks of the adapters that are up and wired. -/
def wiredBlocks (ifaces : List WiredInterface) : List Block :=
  blocksOf (ifaces.filter WiredInterface.wiredEthernet)

/-- The networks of the adapters that are up and not wired. -/
def nonWiredBlocks (ifaces : List WiredInterface) : List Block :=
  blocksOf (ifaces.filter fun i => i.isUp && !i.wiredEthernet)

def Covers (blocks : List Block) (ip : Ipv4Addr) : Prop := ∃ b ∈ blocks, ip.toNat ∈ b

section Lawful

variable {N : Type} {net : IpNetwork N} (h : net.Lawful) {info info' : IpInfo} {n n' : N}

include h

/-- The network of an interface address is made from its block. -/
theorem ipToNetwork_eq (info : IpInfo) : ipToNetwork net info = info.block.bind fun b =>
    ipv4Network net (Ipv4Addr.ofNat b.first).toText (.ofNat (32 - b.bits)) := by
  unfold ipToNetwork IpInfo.block
  cases Ipv4Addr.parse info.address with
  | none => rfl
  | some addr =>
    rcases h.new_cases addr info.prefixLen with ⟨hp, n, hn, hb⟩ | ⟨hp, hn⟩
    · have hle : info.prefixLen.toNat ≤ 32 := hp
      have hlen : UInt8.ofNat (32 - (32 - info.prefixLen.toNat)) = info.prefixLen := by
        rw [Nat.sub_sub_self hle, UInt8.ofNat_toNat]
      simp [hn, hp, Option.filter, h.network_eq_ofNat, hb, Block.of, hlen]
    · simp [hn, hp, Option.filter]

theorem ipToNetwork_block (info : IpInfo) :
    (ipToNetwork net info).map net.block = info.block := by
  unfold ipToNetwork IpInfo.block
  cases Ipv4Addr.parse info.address with
  | none => rfl
  | some addr =>
    rcases h.new_cases addr info.prefixLen with ⟨hp, n, hn, hb⟩ | ⟨hp, hn⟩
    · rcases h.new_cases (net.network n) info.prefixLen with ⟨-, m, hm, hbm⟩ | ⟨hp', -⟩
      · have hsame : net.block m = net.block n := by
          refine Block.eq_of_mem (by rw [hbm, hb, Block.of, Block.of]) ?_ (net.network_mem_block n)
          rw [hbm]
          exact Block.mem_of _ _
        simp [hn, hm, hp, Option.filter, hsame, hb]
      · exact absurd hp hp'
    · simp [hn, hp, Option.filter]

/-- Two interface addresses have one network exactly when they have one block. -/
theorem ipToNetwork_inj (hn : ipToNetwork net info = some n) (hn' : ipToNetwork net info' = some n')
    (hb : net.block n = net.block n') : n = n' := by
  have hblock := ipToNetwork_block h info
  have hblock' := ipToNetwork_block h info'
  rw [hn] at hblock
  rw [hn'] at hblock'
  have hinfo : info.block = info'.block := by
    rw [← hblock, ← hblock', Option.map_some, Option.map_some, hb]
  rw [ipToNetwork_eq h, hinfo, ← ipToNetwork_eq h, hn'] at hn
  exact (Option.some.inj hn).symm

theorem networksOf_block (ifaces : List WiredInterface) :
    (networksOf net ifaces).map net.block = blocksOf ifaces := by
  simp only [networksOf, blocksOf, List.map_flatMap, List.map_filterMap, ipToNetwork_block h]

theorem networksOf_inj {ifaces ifaces' : List WiredInterface} (hn : n ∈ networksOf net ifaces)
    (hn' : n' ∈ networksOf net ifaces') (hb : net.block n = net.block n') : n = n' := by
  simp only [networksOf, List.mem_flatMap, List.mem_filterMap] at hn hn'
  obtain ⟨_, -, info, -, hinfo⟩ := hn
  obtain ⟨_, -, info', -, hinfo'⟩ := hn'
  exact ipToNetwork_inj h hinfo hinfo' hb

end Lawful

/-- What the loops exclude: the networks that are not among the wired ones, each once. -/
theorem mem_nonWiredNetworksOf {N : Type} [DecidableEq N] (net : IpNetwork N)
    (ifaces : List WiredInterface) (n : N) : n ∈ nonWiredNetworksOf net ifaces ↔
      n ∈ networksOf net (ifaces.filter fun i => i.isUp && !i.wiredEthernet) ∧
        n ∉ networksOf net (ifaces.filter WiredInterface.wiredEthernet) := by
  have hfold (wired : List N) : ∀ l excluded : List N,
      n ∈ l.foldl (fun excluded n => if n ∉ wired ∧ n ∉ excluded then excluded ++ [n]
        else excluded) excluded ↔ n ∈ excluded ∨ n ∈ l ∧ n ∉ wired := by
    intro l
    induction l with
    | nil => simp
    | cons m l ih =>
      intro excluded
      rw [List.foldl_cons, ih]
      split
      · next hm =>
        rw [List.mem_append, List.mem_singleton, List.mem_cons]
        grind
      · next hm =>
        rw [List.mem_cons]
        grind
  rw [nonWiredNetworksOf, ← List.foldl_flatMap]
  exact (hfold _ _ []).trans (by simp [networksOf])

section Ghosts

variable {N : Type} [DecidableEq N] {net : IpNetwork N} (h : net.Lawful)

include h

theorem ghost_iff (ifaces : List WiredInterface) (ip : Ipv4Addr) :
    isStructuralGhostIp net ip (nonWiredNetworksOf net ifaces) = true ↔
      ∃ b ∈ nonWiredBlocks ifaces, b ∉ wiredBlocks ifaces ∧ ip.toNat ∈ b := by
  simp only [isStructuralGhostIp, List.any_eq_true, mem_nonWiredNetworksOf, h.contains,
    nonWiredBlocks, wiredBlocks, ← networksOf_block h, List.mem_map]
  constructor
  · rintro ⟨n, ⟨hn, hw⟩, hin⟩
    refine ⟨_, ⟨n, hn, rfl⟩, ?_, hin⟩
    rintro ⟨m, hm, hb⟩
    exact hw (networksOf_inj h hm hn hb ▸ hm)
  · rintro ⟨_, ⟨n, hn, rfl⟩, hw, hin⟩
    exact ⟨n, ⟨hn, fun hc => hw ⟨n, hc, rfl⟩⟩, hin⟩

omit [DecidableEq N] in
theorem ghostAdoption_iff (key : String) (networks : List N) :
    isStructuralGhostAdoption net key networks = true ↔
      ∃ k, net.parse key = some k ∧ ∃ n ∈ networks, ∃ ip,
        net.contains k ip = true ∧ net.contains n ip = true := by
  unfold isStructuralGhostAdoption
  cases net.parse key with
  | none => simp
  | some k =>
    have hmeet (n : N) : (net.contains n (net.network k) || net.contains k (net.network n)) = true ↔
        ∃ ip, net.contains k ip = true ∧ net.contains n ip = true := by
      rw [Bool.or_eq_true, h.contains, h.contains, h.network, h.network, or_comm,
        ← Block.meet_iff]
      constructor
      · intro hc
        rcases Block.meet_iff.mp hc with hf | hf
        · exact ⟨net.network n, (h.contains ..).mpr (h.network n ▸ hf), h.contains_network n⟩
        · exact ⟨net.network k, h.contains_network k, (h.contains ..).mpr (h.network k ▸ hf)⟩
      · rintro ⟨ip, hk, hn⟩
        exact ⟨ip.toNat, (h.contains ..).mp hk, (h.contains ..).mp hn⟩
    simp only [List.any_eq_true, hmeet, Option.some.injEq, exists_eq_left']

end Ghosts

/-- Each network of the other adapters is a wired one, or apart from all of them. -/
def WholeOrApart (ifaces : List WiredInterface) : Prop :=
  ∀ b ∈ nonWiredBlocks ifaces, b ∈ wiredBlocks ifaces ∨
    ∀ w ∈ wiredBlocks ifaces, b.last < w.first ∨ w.last < b.first

theorem first_lt_of_mem {ifaces : List WiredInterface} {b : Block} (hb : b ∈ blocksOf ifaces) :
    b.first < 2 ^ 32 := by
  simp only [blocksOf, List.mem_flatMap, List.mem_filterMap] at hb
  obtain ⟨_, -, info, -, hinfo⟩ := hb
  obtain ⟨addr, -, rfl⟩ := Option.map_eq_some_iff.mp hinfo
  exact (Block.mem_iff.mp (Block.mem_of _ _)).1.trans_lt addr.toNat_lt

/-- A block that is not among the wired ones and not apart from them holds a wired address. -/
theorem exists_shared {ifaces : List WiredInterface} {b w : Block} (hb : b ∈ nonWiredBlocks ifaces)
    (hw : w ∈ wiredBlocks ifaces) (hmeet : ¬(b.last < w.first ∨ w.last < b.first)) :
    ∃ ip : Ipv4Addr, ip.toNat ∈ b ∧ ip.toNat ∈ w := by
  have hex : ∃ x, x ∈ b ∧ x ∈ w := by
    by_contra hc
    exact hmeet (Block.apart_iff.mp fun x hx hx' => hc ⟨x, hx, hx'⟩)
  rcases Block.meet_iff.mp hex with hf | hf
  · exact ⟨.ofNat w.first, by rwa [Ipv4Addr.toNat_ofNat (first_lt_of_mem hw)],
      by rw [Ipv4Addr.toNat_ofNat (first_lt_of_mem hw)]; exact w.first_mem⟩
  · exact ⟨.ofNat b.first, by rw [Ipv4Addr.toNat_ofNat (first_lt_of_mem hb)]; exact b.first_mem,
      by rwa [Ipv4Addr.toNat_ofNat (first_lt_of_mem hb)]⟩

theorem spared_of_apart {N : Type} [DecidableEq N] {net : IpNetwork N} (h : net.Lawful)
    {ifaces : List WiredInterface} (hapart : WholeOrApart ifaces) {ip : Ipv4Addr}
    (hcovers : Covers (wiredBlocks ifaces) ip) :
    isStructuralGhostIp net ip (nonWiredNetworksOf net ifaces) = false := by
  obtain ⟨w, hw, hinw⟩ := hcovers
  rw [← Bool.not_eq_true, ghost_iff h]
  rintro ⟨b, hb, hmem, hin⟩
  have hdisjoint := Block.apart_iff.mpr ((hapart b hb).resolve_left hmem w hw)
  exact hdisjoint _ hin hinw

/-- No wired address is a ghost, every other address of another adapter's network is one, and an
adoption is a ghost exactly when its network meets one: all of this holds exactly when no network
of another adapter covers a part of a wired one. -/
theorem wired_subnets_never_ghosts {N : Type} [DecidableEq N] {net : IpNetwork N} (h : net.Lawful)
    (ifaces : List WiredInterface) :
    ((∀ ip, Covers (wiredBlocks ifaces) ip →
        isStructuralGhostIp net ip (nonWiredNetworksOf net ifaces) = false) ∧
      (∀ ip, Covers (nonWiredBlocks ifaces) ip → ¬Covers (wiredBlocks ifaces) ip →
        isStructuralGhostIp net ip (nonWiredNetworksOf net ifaces) = true) ∧
      ∀ key networks, isStructuralGhostAdoption net key networks = true ↔
        ∃ k, net.parse key = some k ∧ ∃ n ∈ networks, ∃ ip,
          net.contains k ip = true ∧ net.contains n ip = true) ↔
    WholeOrApart ifaces := by
  constructor
  · rintro ⟨hspared, -, -⟩ b hb
    by_cases hmem : b ∈ wiredBlocks ifaces
    · exact .inl hmem
    · refine .inr fun w hw => ?_
      by_contra hmeet
      obtain ⟨ip, hin, hinw⟩ := exists_shared hb hw hmeet
      have hghost := (ghost_iff h ifaces ip).mpr ⟨b, hb, hmem, hin⟩
      exact absurd hghost (by rw [hspared ip ⟨w, hw, hinw⟩]; decide)
  · intro hapart
    refine ⟨fun ip => spared_of_apart h hapart, fun ip hcovers hfree => ?_, ghostAdoption_iff h⟩
    obtain ⟨b, hb, hin⟩ := hcovers
    exact (ghost_iff h ifaces ip).mpr ⟨b, hb, fun hw => hfree ⟨b, hw, hin⟩, hin⟩

def wiredPort (address : String) (prefixLen : UInt8) : WiredInterface :=
  { name := "Ethernet", mac := "02:00:00:00:00:01", ips := [⟨address, prefixLen⟩], isUp := true
    isEthernet := true, isWifi := false, isVpn := false, isVirtual := false }

/-- A VPN that reports Ethernet media. -/
def vpnPort (address : String) (prefixLen : UInt8) : WiredInterface :=
  { wiredPort address prefixLen with name := "VPN", isVpn := true }

theorem wired_subnets_never_ghosts_vpn :
    isStructuralGhostIp .cidr ⟨10, 0, 0, 84⟩ (nonWiredNetworksOf .cidr
        [wiredPort "10.0.0.5" 24, vpnPort "10.39.129.50" 24]) = false ∧
      isStructuralGhostIp .cidr ⟨10, 39, 129, 7⟩ (nonWiredNetworksOf .cidr
        [wiredPort "10.0.0.5" 24, vpnPort "10.39.129.50" 24]) = true := by
  have hapart : WholeOrApart [wiredPort "10.0.0.5" 24, vpnPort "10.39.129.50" 24] := by
    unfold WholeOrApart
    decide +kernel
  obtain ⟨hspared, hghost, -⟩ :=
    (wired_subnets_never_ghosts IpNetwork.cidr_lawful _).mpr hapart
  unfold Covers at hspared hghost
  exact ⟨hspared _ (by decide +kernel), hghost _ (by decide +kernel) (by decide +kernel)⟩

/-- A VPN's /16 around the wired /24 makes every wired camera a ghost. -/
theorem wide_vpn_hides_wired_camera :
    Covers (wiredBlocks [wiredPort "10.0.0.5" 24, vpnPort "10.0.7.9" 16]) ⟨10, 0, 0, 84⟩ ∧
      isStructuralGhostIp .cidr ⟨10, 0, 0, 84⟩ (nonWiredNetworksOf .cidr
        [wiredPort "10.0.0.5" 24, vpnPort "10.0.7.9" 16]) = true := by
  refine ⟨?_, by decide +kernel⟩
  unfold Covers
  decide +kernel

/-! ### The cached rows -/

theorem partitionCached_eq {N : Type} (net : IpNetwork N) (cached : List CachedDevice)
    (ghosts : List N) (localMacs : List (List UInt8)) :
    partitionCached net cached ghosts localMacs =
      (cached.filter fun d => (cacheReject net ghosts localMacs d).isNone,
        cached.filterMap fun d => (cacheReject net ghosts localMacs d).map (d, ·)) := by
  have hfold : ∀ (l allowed : List CachedDevice) (rejected : List (CachedDevice × CacheReject)),
      l.foldl (fun (allowed, rejected) d =>
          match cacheReject net ghosts localMacs d with
          | some reason => (allowed, rejected ++ [(d, reason)])
          | none => (allowed ++ [d], rejected)) (allowed, rejected) =
        (allowed ++ l.filter fun d => (cacheReject net ghosts localMacs d).isNone,
          rejected ++ l.filterMap fun d => (cacheReject net ghosts localMacs d).map (d, ·)) := by
    intro l
    induction l with
    | nil => simp
    | cons d l ih =>
      intro allowed rejected
      rw [List.foldl_cons]
      cases hd : cacheReject net ghosts localMacs d <;> simp [hd, ih]
  exact (hfold cached [] []).trans (by simp only [List.nil_append])

/-- Where the networks are whole or apart, a cached row on a wired network is not evicted for its
subnet. -/
theorem wired_row_not_evicted {N : Type} [DecidableEq N] {net : IpNetwork N} (h : net.Lawful)
    {ifaces : List WiredInterface} (hapart : WholeOrApart ifaces) {cached : List CachedDevice}
    {localMacs : List (List UInt8)} {d : CachedDevice} {ip : Ipv4Addr}
    (hip : Ipv4Addr.parse d.ip = some ip) (hcovers : Covers (wiredBlocks ifaces) ip) :
    (d, .nonWiredSubnet) ∉
      (partitionCached net cached (nonWiredNetworksOf net ifaces) localMacs).2 := by
  rw [partitionCached_eq]
  intro hd
  obtain ⟨d', -, hd'⟩ := List.mem_filterMap.mp hd
  obtain ⟨reason, hreason, heq⟩ := Option.map_eq_some_iff.mp hd'
  cases heq
  have hspared := spared_of_apart h hapart hcovers
  simp only [cacheReject, hip, hspared, Option.bind_eq_bind, Option.bind_some] at hreason
  split at hreason
  · next hc => cases hc
  split at hreason <;> cases hreason

end PocketStream
