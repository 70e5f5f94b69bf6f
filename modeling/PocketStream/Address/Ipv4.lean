import Mathlib.Algebra.Ring.Nat
import Mathlib.Data.List.Basic
import Mathlib.Data.Fintype.Basic

/-! # IPv4 addresses and networks as text

The standard library's dotted-quad reader and printer. The reader takes exactly
four decimal octets without leading zeros, so it accepts precisely what the
printer writes.
-/

namespace PocketStream

instance octetRange : NeZero (256 : ℕ) := ⟨by decide⟩

/-- `std::net::Ipv4Addr`, by octets. -/
structure Ipv4Addr where
  a : Fin 256
  b : Fin 256
  c : Fin 256
  d : Fin 256
  deriving DecidableEq, Repr

namespace Ipv4Addr

/-- A decimal digit. -/
def digit (ch : Char) : Option ℕ :=
  if '0' ≤ ch ∧ ch ≤ '9' then some (ch.toNat - 48) else none

/-- One octet: one to three digits, no leading zero, at most 255. -/
def parseOctet : List Char → Option (Fin 256)
  | [x] => do return Fin.ofNat 256 (← digit x)
  | [x, y] => do
    let i ← digit x
    let j ← digit y
    if i = 0 then none else return Fin.ofNat 256 (10 * i + j)
  | [x, y, z] => do
    let i ← digit x
    let j ← digit y
    let k ← digit z
    let n := 100 * i + 10 * j + k
    if i = 0 ∨ 256 ≤ n then none else return Fin.ofNat 256 n
  | _ => none

def parseChars (s : List Char) : Option Ipv4Addr :=
  match s.splitOn '.' with
  | [w, x, y, z] => do return ⟨← parseOctet w, ← parseOctet x, ← parseOctet y, ← parseOctet z⟩
  | _ => none

/-- `str::parse::<Ipv4Addr>`. -/
def parse (s : String) : Option Ipv4Addr := parseChars s.toList

def octetChars (n : Fin 256) : List Char := (toString n.val).toList

/-- `Ipv4Addr::to_string`. -/
def toText (ip : Ipv4Addr) : String :=
  String.ofList (octetChars ip.a ++ '.' :: (octetChars ip.b ++ '.' ::
    (octetChars ip.c ++ '.' :: octetChars ip.d)))

theorem octetChars_eq (n : Fin 256) : octetChars n = Nat.toDigits 10 n := by
  simp [octetChars, Nat.repr, toString]

theorem digit_digitChar : ∀ i < 10, digit (Nat.digitChar i) = some i := by decide

theorem octetChars_one : ∀ i < 10, octetChars (Fin.ofNat 256 i) = [Nat.digitChar i] := by
  intro i hi
  rw [octetChars_eq, Fin.val_ofNat, Nat.mod_eq_of_lt (by omega), Nat.toDigits_of_lt_base hi]

theorem octetChars_two : ∀ i < 10, ∀ j < 10, i ≠ 0 →
    octetChars (Fin.ofNat 256 (10 * i + j)) = [Nat.digitChar i, Nat.digitChar j] := by
  intro i hi j hj h0
  rw [octetChars_eq, Fin.val_ofNat, Nat.mod_eq_of_lt (by omega),
    ← Nat.toDigits_append_toDigits (by omega) (by omega) hj, Nat.toDigits_of_lt_base hi,
    Nat.toDigits_of_lt_base hj]
  rfl

theorem octetChars_three : ∀ i j k : Fin 10, i ≠ 0 → 100 * i.val + 10 * j + k < 256 →
    octetChars (Fin.ofNat 256 (100 * i.val + 10 * j + k)) =
      [Nat.digitChar i, Nat.digitChar j, Nat.digitChar k] := by
  intro i j k h0 hn
  have hi : 0 < i.val := Fin.pos_iff_ne_zero.mpr h0
  have hsum : 100 * i.val + 10 * j + k = 10 * (10 * i.val + j) + k := by omega
  rw [octetChars_eq, Fin.val_ofNat, Nat.mod_eq_of_lt hn, hsum,
    ← Nat.toDigits_append_toDigits (by omega) (by omega) k.isLt,
    ← Nat.toDigits_append_toDigits (by omega) hi j.isLt, Nat.toDigits_of_lt_base i.isLt,
    Nat.toDigits_of_lt_base j.isLt, Nat.toDigits_of_lt_base k.isLt]
  rfl

/-- Every octet has one, two or three digits, the first of several never a zero. -/
theorem octet_cases (n : Fin 256) :
    (∃ i < 10, n = Fin.ofNat 256 i) ∨
    (∃ i < 10, ∃ j < 10, i ≠ 0 ∧ n = Fin.ofNat 256 (10 * i + j)) ∨
    ∃ i j k : Fin 10, i ≠ 0 ∧ 100 * i.val + 10 * j + k < 256 ∧
      n = Fin.ofNat 256 (100 * i.val + 10 * j + k) := by
  obtain ⟨n, hn⟩ := n
  by_cases h1 : n < 10
  · exact Or.inl ⟨n, h1, Fin.ext (Nat.mod_eq_of_lt hn).symm⟩
  by_cases h2 : n < 100
  · refine Or.inr (Or.inl ⟨n / 10, by omega, n % 10, by omega, by omega, Fin.ext ?_⟩)
    rw [Nat.div_add_mod]
    exact (Nat.mod_eq_of_lt hn).symm
  · have hsum : 100 * (n / 100) + 10 * (n / 10 % 10) + n % 10 = n := by omega
    refine Or.inr (Or.inr ⟨⟨n / 100, by omega⟩, ⟨n / 10 % 10, by omega⟩, ⟨n % 10, by omega⟩,
      fun h => ?_, hsum ▸ hn, Fin.ext ?_⟩)
    · have : n / 100 = 0 := congrArg Fin.val h
      omega
    · simp only [hsum]
      exact (Nat.mod_eq_of_lt hn).symm

theorem parseOctet_octetChars (n : Fin 256) : parseOctet (octetChars n) = some n := by
  rcases octet_cases n with ⟨i, hi, rfl⟩ | ⟨i, hi, j, hj, h0, rfl⟩ | ⟨i, j, k, h0, hn, rfl⟩
  · rw [octetChars_one i hi]
    simp [parseOctet, digit_digitChar i hi]
  · rw [octetChars_two i hi j hj h0]
    simp [parseOctet, digit_digitChar i hi, digit_digitChar j hj, h0]
  · rw [octetChars_three i j k h0 hn]
    simp [parseOctet, digit_digitChar _ i.isLt, digit_digitChar _ j.isLt,
      digit_digitChar _ k.isLt, h0, hn]

theorem dot_notMem_octetChars (n : Fin 256) : '.' ∉ octetChars n := by
  intro h
  rw [octetChars_eq] at h
  have := Nat.isDigit_of_mem_toDigits (by omega) (by omega) h
  cases this

theorem parse_toText (ip : Ipv4Addr) : parse ip.toText = some ip := by
  have h : ∀ (n : Fin 256) (cs : List Char),
      (octetChars n ++ '.' :: cs).splitOn '.' = octetChars n :: cs.splitOn '.' :=
    fun n cs => List.splitOn_append_cons_self_of_not_mem (dot_notMem_octetChars n) cs
  simp only [parse, toText, parseChars, String.toList_ofList, h,
    List.splitOn_eq_singleton (dot_notMem_octetChars _), parseOctet_octetChars]
  rfl

theorem toText_injective : Function.Injective toText := fun x y h =>
  Option.some.inj (by rw [← parse_toText x, ← parse_toText y, h])

theorem digit_eq_some {ch : Char} {i : ℕ} (h : digit ch = some i) :
    i < 10 ∧ ch = Nat.digitChar i := by
  unfold digit at h
  split at h
  · next hr =>
    have hlo : 48 ≤ ch.toNat := hr.1
    have hhi : ch.toNat ≤ 57 := hr.2
    obtain rfl := Option.some.inj h
    refine ⟨by omega, ?_⟩
    have hc : ch = Char.ofNat (ch.toNat - 48 + 48) := by
      rw [Nat.sub_add_cancel hlo, Char.ofNat_toNat]
    have : ∀ n < 10, Char.ofNat (n + 48) = Nat.digitChar n := by decide
    rw [← this _ (by omega), ← hc]
  · cases h

theorem parseOctet_eq_some {cs : List Char} {n : Fin 256} (h : parseOctet cs = some n) :
    cs = octetChars n := by
  unfold parseOctet at h
  split at h
  · simp only [Option.bind_eq_bind, Option.bind_eq_some_iff, Option.pure_def,
      Option.some.injEq] at h
    obtain ⟨i, hx, rfl⟩ := h
    obtain ⟨hi, rfl⟩ := digit_eq_some hx
    exact (octetChars_one i hi).symm
  · simp only [Option.bind_eq_bind, Option.bind_eq_some_iff, Option.pure_def,
      Option.ite_none_left_eq_some, Option.some.injEq] at h
    obtain ⟨i, hx, j, hy, h0, rfl⟩ := h
    obtain ⟨hi, rfl⟩ := digit_eq_some hx
    obtain ⟨hj, rfl⟩ := digit_eq_some hy
    exact (octetChars_two i hi j hj h0).symm
  · simp only [Option.bind_eq_bind, Option.bind_eq_some_iff, Option.pure_def,
      Option.ite_none_left_eq_some, Option.some.injEq, not_or, not_le] at h
    obtain ⟨i, hx, j, hy, k, hz, ⟨h0, hn⟩, rfl⟩ := h
    obtain ⟨hi, rfl⟩ := digit_eq_some hx
    obtain ⟨hj, rfl⟩ := digit_eq_some hy
    obtain ⟨hk, rfl⟩ := digit_eq_some hz
    exact (octetChars_three ⟨i, hi⟩ ⟨j, hj⟩ ⟨k, hk⟩ (by simpa [Fin.ext_iff] using h0) hn).symm
  · cases h

/-- The reader accepts only what the printer writes. -/
theorem toText_of_parse {s : String} {ip : Ipv4Addr} (h : parse s = some ip) : s = ip.toText := by
  have hjoin : s = String.ofList (List.intercalate ['.'] (s.toList.splitOn '.')) := by
    rw [List.intercalate_splitOn, String.ofList_toList]
  rw [hjoin]
  unfold parse parseChars at h
  split at h
  · next w x y z hs =>
    simp only [Option.bind_eq_bind, Option.bind_eq_some_iff, Option.pure_def,
      Option.some.injEq] at h
    obtain ⟨a, ha, b, hb, c, hc, d, hd, rfl⟩ := h
    rw [hs, parseOctet_eq_some ha, parseOctet_eq_some hb, parseOctet_eq_some hc,
      parseOctet_eq_some hd]
    simp [toText, List.intercalate]
  · cases h

/-- `Ipv4Addr::octets().first`-style policy tests of the standard library. -/
def isLoopback (ip : Ipv4Addr) : Bool := ip.a == 127

def isLinkLocal (ip : Ipv4Addr) : Bool := ip.a == 169 && ip.b == 254

def isBroadcast (ip : Ipv4Addr) : Bool := ip == ⟨255, 255, 255, 255⟩

def isUnspecified (ip : Ipv4Addr) : Bool := ip == ⟨0, 0, 0, 0⟩

def isMulticast (ip : Ipv4Addr) : Bool := decide (224 ≤ ip.a ∧ ip.a ≤ 239)

def toNat (ip : Ipv4Addr) : ℕ :=
  ((ip.a.val * 256 + ip.b.val) * 256 + ip.c.val) * 256 + ip.d.val

def ofNat (n : ℕ) : Ipv4Addr :=
  ⟨Fin.ofNat 256 (n / 2 ^ 24), Fin.ofNat 256 (n / 2 ^ 16), Fin.ofNat 256 (n / 2 ^ 8),
    Fin.ofNat 256 n⟩

end Ipv4Addr

/-- `prohibited_camera_ip` -/
def prohibitedCameraIp (addr : Ipv4Addr) : Bool :=
  addr.isLoopback || addr.isLinkLocal || addr.isBroadcast || addr.isUnspecified

end PocketStream
