import PocketStream.Binding.ManualAddress
import PocketStream.Binding.NetworkLaws

/-! # Adding an address and removing it again

A host address is validated twice, where an addition is asked for and where a
saved row is reconciled. The first takes point-to-point addresses, which are all
network or broadcast addresses to the second, so that what was added under /31 or
/32 is held and never removed.
-/

namespace PocketStream

open Foundation

variable {N : Type} {net : IpNetwork N} {ip : Ipv4Addr} {p : UInt8} {key : String}
  {row : AdoptedMeta} {iface : InterfaceInfo}

theorem validateHost_ok (h : validateHost net ip p = .ok ()) :
    p ≤ 32 ∧ ip.a ≠ 0 ∧ ip.isLoopback = false ∧ ip.isMulticast = false ∧
      ∃ n, ipv4Network net ip.toText p = some n ∧
        (p ≤ 30 → net.network n ≠ ip ∧ net.broadcast n ≠ ip) := by
  unfold validateHost at h
  split at h
  · cases h
  next hpolicy =>
  simp only [not_or, Bool.not_eq_true] at hpolicy
  obtain ⟨-, hp, ha, hloop, hmulti, -⟩ := hpolicy
  split at h
  · cases h
  next n hn =>
  split at h
  · cases h
  next hedge =>
  exact ⟨UInt8.not_lt.mp hp, ha, hloop, hmulti, n, hn, fun hle =>
    not_or.mp fun hc => hedge ⟨hle, hc⟩⟩

/-- The addresses of a block of at most two are its first and its last. -/
theorem edge_of_pointToPoint (hnet : net.Lawful) {n : N} (hp : 30 < net.prefixLen n)
    (hin : net.contains n ip = true) : ip = net.network n ∨ ip = net.broadcast n := by
  have hmem := Block.mem_iff.mp ((hnet.contains n ip).mp hin)
  have hbits : (net.block n).bits ≤ 1 := by
    have : 30 < (net.prefixLen n).toNat := hp
    simp only [IpNetwork.block, Block.of]
    omega
  have hlast : (net.block n).last ≤ (net.block n).first + 1 := by
    have := Nat.pow_le_pow_right Nat.two_pos hbits
    rw [Block.last, Block.first, Nat.succ_mul]
    omega
  rcases Nat.lt_or_ge (net.block n).first ip.toNat with hlt | hge
  · exact .inr (hnet.broadcast_eq_iff.mpr (by omega)).symm
  · exact .inl (hnet.network_eq_iff.mpr (by omega)).symm

/-- Under the key of its own subnet a validated address is taken up to /30. -/
theorem savedAddress_validated (hnet : net.Lawful) (hv : validateHost net ip p = .ok ())
    (hkey : subnetKey net ip.toText p = some key) (haddr : row.address = some ip.toText)
    (hlen : row.prefixLen = some p) :
    savedAddress net key row = if p ≤ 30 then some (ip, p) else none := by
  obtain ⟨hp, ha, hloop, hmulti, n, hn, hedge⟩ := validateHost_ok hv
  obtain ⟨n', hn', hlen', hin⟩ := hnet.parse ip p hp
  obtain rfl : n = n' := Option.some.inj (hn.symm.trans hn')
  obtain ⟨m, hm, hlenm, hinm⟩ := hnet.parse (net.network n) p hp
  have hparse : net.parse key = some m := by
    rw [subnetKey, hn] at hkey
    exact Option.some.inj hkey ▸ hm
  have hblock : net.block m = net.block n :=
    hnet.block_eq (hlenm.trans hlen'.symm) hinm (hnet.contains_network n)
  have hinip : net.contains m ip = true :=
    (hnet.contains m ip).mpr (hblock ▸ (hnet.contains n ip).mp hin)
  have hzero : ip.isUnspecified = false := beq_eq_false_iff_ne.mpr fun h => ha (h ▸ rfl)
  simp only [savedAddress, hparse, haddr, hlen, Ipv4Addr.parse_toText, hlenm, hinip, hloop,
    hmulti, hzero, Option.bind_eq_bind, Option.bind_some]
  by_cases hle : p ≤ 30
  · obtain ⟨hfirst, hlast⟩ := hedge hle
    have hnetm : ip ≠ net.network m := fun h => hfirst <|
      hnet.network_eq_iff.mpr (hblock ▸ hnet.network_eq_iff.mp h.symm)
    have hbrom : ip ≠ net.broadcast m := fun h => hlast <|
      hnet.broadcast_eq_iff.mpr (hblock ▸ hnet.broadcast_eq_iff.mp h.symm)
    rw [if_pos hle]
    exact if_pos ⟨trivial, trivial, hnetm, hbrom, rfl, rfl, rfl⟩
  · have hgt : 30 < net.prefixLen m := hlenm ▸ UInt8.not_le.mp hle
    rw [if_neg hle]
    refine if_neg fun hc => ?_
    obtain ⟨-, -, hnetm, hbrom, -⟩ := hc
    exact (edge_of_pointToPoint hnet hgt hinip).elim hnetm hbrom

/-- The adapter shows the address under that prefix only, if at all. -/
def InterfaceInfo.ShowsOnly (iface : InterfaceInfo) (ip : Ipv4Addr) (p : UInt8) : Prop :=
  ∀ i ∈ iface.ips, i.address = ip.toText → i.prefixLen = p

theorem InterfaceInfo.ShowsOnly.observed (h : iface.ShowsOnly ip p) :
    (iface.ips.find? (·.address == ip.toText)).any (·.prefixLen != p) = false := by
  cases hf : iface.ips.find? (·.address == ip.toText) with
  | none => rfl
  | some i =>
    have hip := List.find?_some hf
    have hlen := h i (List.mem_of_find?_eq_some hf) (beq_iff_eq.mp hip)
    exact bne_eq_false_iff_eq.mpr hlen

section Decision

variable {mode : NetworkMode} {dhcp : Except String Bool} {conflicts : List N}
  (hup : iface.isUp = true) (howner : ownerMatches row iface = true)

include hup howner

theorem bindingAction_invalid (hsaved : savedAddress net key row = none) :
    bindingAction net key row (some iface) mode dhcp conflicts =
      .hold "invalid saved address/prefix or subnet" false := by
  simp only [bindingAction, Option.filter_some, hup, Bool.true_or, if_true, howner, hsaved]
  rfl

theorem bindingAction_removed (hsaved : savedAddress net key row = some (ip, p))
    (hshows : iface.ShowsOnly ip p) (hd : row.desired = .removed)
    (hin : ∃ i ∈ iface.ips, i.address = ip.toText) :
    bindingAction net key row (some iface) mode dhcp conflicts = .remove ip ↔
      dhcp.toBool = true := by
  have hsome : (iface.ips.find? (·.address == ip.toText)).isSome = true := by
    simpa using hin
  cases dhcp with
  | error e =>
    simp [bindingAction, Option.filter, hup, howner, hsaved, hshows.observed, Except.toBool]
  | ok d =>
    simp [bindingAction, Option.filter, hup, howner, hsaved, hshows.observed, hd, hsome,
      Except.toBool]

theorem bindingAction_present (hsaved : savedAddress net key row = some (ip, p))
    (hshows : iface.ShowsOnly ip p) (hd : row.desired = .present) (hdhcp : dhcp = .ok false)
    (hconflict : conflicts.any (net.contains · ip) = false) :
    (bindingAction net key row (some iface) mode dhcp conflicts = .observed true ∨
      bindingAction net key row (some iface) mode dhcp conflicts = .add ip p) ↔ mode ≠ .dhcp := by
  subst hdhcp
  simp only [bindingAction, Option.filter_some, hup, Bool.true_or, if_true, howner, hsaved,
    hshows.observed, hd, hconflict]
  by_cases hm : mode = .dhcp
  · simp [hm]
  · cases (iface.ips.find? (·.address == ip.toText)).isSome <;> simp [hm]

end Decision

/-- An adapter that is up shows the address under the prefix it was validated with. Its removal is
carried out, where the DHCP state can be read, and its row is in place or added on a static
adapter, up to /30 and no further. -/
theorem added_address_reconciled (hnet : net.Lawful) (hv : validateHost net ip p = .ok ())
    (hkey : subnetKey net ip.toText p = some key) (haddr : row.address = some ip.toText)
    (hlen : row.prefixLen = some p) (hup : iface.isUp = true)
    (howner : ownerMatches row iface = true) (hshows : iface.ShowsOnly ip p) (mode : NetworkMode)
    (dhcp : Except String Bool) (conflicts : List N) :
    ((∃ i ∈ iface.ips, i.address = ip.toText) →
      (bindingAction net key (pendingBindingRemoval row) (some iface) mode dhcp conflicts =
        .remove ip ↔ p ≤ 30 ∧ dhcp.toBool = true)) ∧
    (row.desired = .present → dhcp = .ok false → conflicts.any (net.contains · ip) = false →
      ((bindingAction net key row (some iface) mode dhcp conflicts = .observed true ∨
        bindingAction net key row (some iface) mode dhcp conflicts = .add ip p) ↔
          p ≤ 30 ∧ mode ≠ .dhcp)) := by
  have hsaved := savedAddress_validated hnet hv hkey haddr hlen
  have hremoved : savedAddress net key (pendingBindingRemoval row) =
      if p ≤ 30 then some (ip, p) else none :=
    savedAddress_validated hnet hv hkey haddr hlen
  have hmine : ownerMatches (pendingBindingRemoval row) iface = true := howner
  by_cases hle : p ≤ 30
  · rw [if_pos hle] at hsaved hremoved
    simp only [hle, true_and]
    exact ⟨bindingAction_removed hup hmine hremoved hshows rfl,
      bindingAction_present hup howner hsaved hshows⟩
  · rw [if_neg hle] at hsaved hremoved
    rw [bindingAction_invalid hup hmine hremoved, bindingAction_invalid hup howner hsaved]
    simp [hle]

/-- The row and the adapter of a host address that was added with a prefix length. -/
def hostRow (p : UInt8) : AdoptedMeta :=
  { adapterMac := some "02:00:00:00:00:01", prefixLen := some p, address := some "10.0.0.5"
    applied := true }

def hostAdapter (p : UInt8) : InterfaceInfo :=
  ⟨"Ethernet", "02:00:00:00:00:01", [⟨"10.0.0.5", p⟩], true⟩

theorem added_address_reconciled_host :
    (bindingAction .cidr "10.0.0.0/24" (pendingBindingRemoval (hostRow 24)) (some (hostAdapter 24))
      .staticManual (.ok false) [] = .remove ⟨10, 0, 0, 5⟩) ∧
    (bindingAction .cidr "10.0.0.0/24" (hostRow 24) (some (hostAdapter 24))
        .staticManual (.ok false) [] = .observed true ∨
      bindingAction .cidr "10.0.0.0/24" (hostRow 24) (some (hostAdapter 24))
        .staticManual (.ok false) [] = .add ⟨10, 0, 0, 5⟩ 24) := by
  have hv : validateHost IpNetwork.cidr ⟨10, 0, 0, 5⟩ 24 = .ok () := by decide +kernel
  have hkey : subnetKey .cidr (Ipv4Addr.toText ⟨10, 0, 0, 5⟩) 24 = some "10.0.0.0/24" := by
    decide +kernel
  have haddr : (hostRow 24).address = some (Ipv4Addr.toText ⟨10, 0, 0, 5⟩) := by decide +kernel
  have howner : ownerMatches (hostRow 24) (hostAdapter 24) = true := by decide +kernel
  obtain ⟨hremoved, hpresent⟩ := added_address_reconciled IpNetwork.cidr_lawful hv hkey haddr rfl
    rfl howner (fun i hi _ => by rw [List.mem_singleton.mp hi]) .staticManual (.ok false) []
  exact ⟨(hremoved ⟨_, List.mem_singleton_self _, by decide +kernel⟩).mpr ⟨by decide, rfl⟩,
    (hpresent rfl rfl rfl).mpr ⟨by decide, by decide⟩⟩

/-- A point-to-point address is valid for a host, and its removal is held for good. -/
theorem pointToPoint_removal_held :
    validateHost .cidr ⟨10, 0, 0, 5⟩ 31 = .ok () ∧
      (subnetKey .cidr "10.0.0.5" 31).map (bindingAction .cidr ·
        (pendingBindingRemoval (hostRow 31)) (some (hostAdapter 31)) .staticManual (.ok false) [])
          = some (.hold "invalid saved address/prefix or subnet" false) := by
  decide +kernel

end PocketStream
