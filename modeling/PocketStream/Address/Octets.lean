import PocketStream.Address.Ipv4
import PocketStream.Foundation.ByteAccess

/-! # Addresses as bytes

Hardware and IPv4 addresses as they stand in a packet, one octet after the other.
-/

namespace PocketStream

open Foundation

/-- `[u8; 6]`, the bytes of a hardware address. -/
structure MacBytes where
  b0 : UInt8
  b1 : UInt8
  b2 : UInt8
  b3 : UInt8
  b4 : UInt8
  b5 : UInt8
  deriving DecidableEq, Repr

namespace MacBytes

def toList (mac : MacBytes) : List UInt8 := [mac.b0, mac.b1, mac.b2, mac.b3, mac.b4, mac.b5]

def broadcast : MacBytes := ⟨0xff, 0xff, 0xff, 0xff, 0xff, 0xff⟩

/-- `copy_from_slice`, which panics unless there are six bytes. -/
def copyFromSlice : List UInt8 → Bounded MacBytes
  | [b0, b1, b2, b3, b4, b5] => .ok ⟨b0, b1, b2, b3, b4, b5⟩
  | xs => .error ⟨0, 6, xs.length⟩

theorem exists_toList {xs : List UInt8} {n : ℕ} (h : n + 6 ≤ xs.length) :
    ∃ (mac : MacBytes) (ys : List UInt8), xs = mac.toList ++ ys ∧ n ≤ ys.length := by
  obtain ⟨b0, _, rfl, h₁⟩ := exists_cons h
  obtain ⟨b1, _, rfl, h₂⟩ := exists_cons h₁
  obtain ⟨b2, _, rfl, h₃⟩ := exists_cons h₂
  obtain ⟨b3, _, rfl, h₄⟩ := exists_cons h₃
  obtain ⟨b4, _, rfl, h₅⟩ := exists_cons h₄
  obtain ⟨b5, ys, rfl, h₆⟩ := exists_cons h₅
  exact ⟨⟨b0, b1, b2, b3, b4, b5⟩, ys, rfl, h₆⟩

end MacBytes

namespace Ipv4Addr

/-- `Ipv4Addr::new` -/
def new (a b c d : UInt8) : Ipv4Addr := ⟨a.toFin, b.toFin, c.toFin, d.toFin⟩

/-- `Ipv4Addr::octets` -/
def octets (ip : Ipv4Addr) : List UInt8 :=
  [UInt8.ofFin ip.a, UInt8.ofFin ip.b, UInt8.ofFin ip.c, UInt8.ofFin ip.d]

theorem exists_octets {xs : List UInt8} {n : ℕ} (h : n + 4 ≤ xs.length) :
    ∃ (ip : Ipv4Addr) (ys : List UInt8), xs = ip.octets ++ ys ∧ n ≤ ys.length := by
  obtain ⟨a, _, rfl, h₁⟩ := exists_cons h
  obtain ⟨b, _, rfl, h₂⟩ := exists_cons h₁
  obtain ⟨c, _, rfl, h₃⟩ := exists_cons h₂
  obtain ⟨d, ys, rfl, h₄⟩ := exists_cons h₃
  exact ⟨new a b c d, ys, rfl, h₄⟩

end Ipv4Addr

end PocketStream
