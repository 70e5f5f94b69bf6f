import PocketStream.Binding.Snapshot
import PocketStream.Foundation.Block

/-! # Networks as blocks of addresses

What the decisions rely on of `ipnetwork::Ipv4Network`: a network holds the
addresses that share its leading bits, from its network address to its broadcast
address, and is read from an address and a prefix length.
-/

namespace PocketStream

open Foundation

namespace Ipv4Addr

theorem toNat_lt (ip : Ipv4Addr) : ip.toNat < 2 ^ 32 := by
  have := ip.a.isLt
  have := ip.b.isLt
  have := ip.c.isLt
  have := ip.d.isLt
  unfold toNat
  omega

theorem toNat_ofNat {n : ℕ} (h : n < 2 ^ 32) : (ofNat n).toNat = n := by
  simp only [toNat, ofNat, Fin.ofNat]
  omega

theorem toNat_injective : Function.Injective toNat := by
  rintro ⟨a, b, c, d⟩ ⟨a', b', c', d'⟩ h
  simp only [toNat] at h
  simp only [mk.injEq, Fin.ext_iff]
  omega

theorem ofNat_toNat (ip : Ipv4Addr) : ofNat ip.toNat = ip :=
  toNat_injective (toNat_ofNat ip.toNat_lt)

end Ipv4Addr

namespace IpNetwork

variable {N : Type} (net : IpNetwork N)

/-- The addresses that share the leading bits of the network. -/
def block (n : N) : Block := .of (32 - (net.prefixLen n).toNat) (net.network n).toNat

theorem network_mem_block (n : N) : (net.network n).toNat ∈ net.block n := Block.mem_of _ _

structure Lawful : Prop where
  contains : ∀ n ip, net.contains n ip = true ↔ ip.toNat ∈ net.block n
  network : ∀ n, (net.network n).toNat = (net.block n).first
  broadcast : ∀ n, (net.broadcast n).toNat = (net.block n).last
  parse : ∀ ip p, p ≤ 32 → ∃ n, ipv4Network net ip.toText p = some n ∧ net.prefixLen n = p ∧
    net.contains n ip = true
  tooLong : ∀ (ip : Ipv4Addr) p, 32 < p → ipv4Network net ip.toText p = none

namespace Lawful

variable {net} (h : net.Lawful) {n m : N} {ip : Ipv4Addr}

include h

theorem network_eq_iff : net.network n = ip ↔ (net.block n).first = ip.toNat := by
  rw [← Ipv4Addr.toNat_injective.eq_iff, h.network]

theorem broadcast_eq_iff : net.broadcast n = ip ↔ (net.block n).last = ip.toNat := by
  rw [← Ipv4Addr.toNat_injective.eq_iff, h.broadcast]

theorem network_eq_ofNat (n : N) : net.network n = .ofNat (net.block n).first := by
  rw [← h.network, Ipv4Addr.ofNat_toNat]

theorem contains_network (n : N) : net.contains n (net.network n) = true :=
  (h.contains n _).mpr (h.network n ▸ (net.block n).first_mem)

/-- Networks of one length that hold one address are one block. -/
theorem block_eq (hp : net.prefixLen n = net.prefixLen m) (hn : net.contains n ip = true)
    (hm : net.contains m ip = true) : net.block n = net.block m :=
  Block.eq_of_mem (by simp only [block, Block.of, hp]) ((h.contains n ip).mp hn)
    ((h.contains m ip).mp hm)

theorem new_cases (ip : Ipv4Addr) (p : UInt8) :
    (p ≤ 32 ∧ ∃ n, ipv4Network net ip.toText p = some n ∧
      net.block n = .of (32 - p.toNat) ip.toNat) ∨
    (¬p ≤ 32 ∧ ipv4Network net ip.toText p = none) := by
  by_cases hp : p ≤ 32
  · obtain ⟨n, hn, hlen, hin⟩ := h.parse ip p hp
    have hbits : (net.block n).bits = (Block.of (32 - p.toNat) ip.toNat).bits := by
      rw [block, hlen, Block.of, Block.of]
    exact .inl ⟨hp, n, hn, Block.eq_of_mem hbits ((h.contains n ip).mp hin) (Block.mem_of _ _)⟩
  · exact .inr ⟨hp, h.tooLong ip p (UInt8.not_le.mp hp)⟩

end Lawful

theorem rsplitOnce_append {sep : Char} {after : List Char} (h : sep ∉ after)
    (before : List Char) : rsplitOnce sep (before ++ sep :: after) = some (before, after) := by
  have hspan : (before ++ sep :: after).reverse.span (· != sep) =
      (after.reverse, sep :: before.reverse) := by
    rw [List.reverse_append, List.reverse_cons, List.append_assoc, List.span_eq_takeWhile_dropWhile]
    have hall : ∀ ch ∈ after.reverse, (ch != sep) = true := fun ch hch =>
      bne_iff_ne.mpr fun he => h (he ▸ List.mem_reverse.mp hch)
    rw [List.takeWhile_append_of_pos hall, List.dropWhile_append_of_pos hall]
    simp
  rw [rsplitOnce, hspan]
  simp

theorem fromStrRadix_prefix : ∀ n < 256, '/' ∉ (toString (UInt8.ofNat n)).toList ∧
    fromStrRadix 10 (toString (UInt8.ofNat n)).toList = some (UInt8.ofNat n) := by
  have htext : ∀ n : UInt8, (toString n).toList = Nat.toDigits 10 n.toNat := fun n => by
    show (Nat.repr n.toNat).toList = _
    rw [Nat.repr, String.toList_ofList]
  simp only [htext]
  refine fun n hn => ⟨fun h => ?_, ?_⟩
  · cases Nat.isDigit_of_mem_toDigits (by omega) (by omega) h
  · revert n hn
    decide +kernel

theorem cidr_new (ip : Ipv4Addr) (p : UInt8) :
    ipv4Network cidr ip.toText p = if p ≤ 32 then some (ip, p) else none := by
  obtain ⟨hslash, hread⟩ := fromStrRadix_prefix p.toNat p.toNat_lt
  rw [UInt8.ofNat_toNat] at hslash hread
  have hlist : (s!"{ip.toText}/{p}").toList = ip.toText.toList ++ '/' :: (toString p).toList := by
    simp
    rfl
  have hsplit := rsplitOnce_append hslash ip.toText.toList
  have hip : Ipv4Addr.parseChars ip.toText.toList = some ip := Ipv4Addr.parse_toText ip
  simp only [ipv4Network, cidr, hlist, hsplit, hip, hread, Option.bind_eq_bind, Option.bind_some]
  rfl

/-- The addresses of the crate's network are those of a block. -/
theorem cidr_first (n : Ipv4Addr × UInt8) : (cidr.network n).toNat =
    (Block.of (32 - n.2.toNat) n.1.toNat).first := by
  refine Ipv4Addr.toNat_ofNat ?_
  exact (Nat.div_mul_le_self _ _).trans_lt n.1.toNat_lt

theorem cidr_block (n : Ipv4Addr × UInt8) :
    cidr.block n = .of (32 - n.2.toNat) n.1.toNat := by
  have hfirst : (cidr.network n).toNat ∈ Block.of (32 - n.2.toNat) n.1.toNat := by
    rw [cidr_first]
    exact Block.first_mem _
  have hbits : (cidr.block n).bits = (Block.of (32 - n.2.toNat) n.1.toNat).bits := by
    simp only [block, Block.of]
    rfl
  exact Block.eq_of_mem hbits (cidr.network_mem_block n) hfirst

theorem cidr_lawful : cidr.Lawful where
  contains n ip := by
    rw [cidr_block]
    exact beq_iff_eq
  network n := by rw [cidr_block, cidr_first]
  broadcast n := by
    rw [cidr_block]
    refine Ipv4Addr.toNat_ofNat ?_
    have hpow : 2 ^ 32 = 2 ^ (32 - (32 - n.2.toNat)) * 2 ^ (32 - n.2.toNat) := by
      rw [← Nat.pow_add, Nat.sub_add_cancel (Nat.sub_le _ _)]
    have hq : n.1.toNat / 2 ^ (32 - n.2.toNat) < 2 ^ (32 - (32 - n.2.toNat)) :=
      Nat.div_lt_of_lt_mul (Nat.mul_comm _ _ ▸ hpow ▸ n.1.toNat_lt)
    have hle := Nat.mul_le_mul_right (2 ^ (32 - n.2.toNat)) (Nat.succ_le_of_lt hq)
    have hpos := Nat.two_pow_pos (32 - n.2.toNat)
    rw [← hpow] at hle
    exact (Nat.sub_lt (Nat.mul_pos (Nat.succ_pos _) hpos) Nat.one_pos).trans_le hle
  parse ip p hp := by
    refine ⟨(ip, p), (cidr_new ip p).trans (if_pos hp), rfl, ?_⟩
    exact beq_iff_eq.mpr rfl
  tooLong ip p hp := (cidr_new ip p).trans (if_neg (UInt8.not_le.mpr hp))

end IpNetwork

end PocketStream
