import Mathlib.Data.List.Basic
import Mathlib.Data.UInt

/-! # Byte buffers and the reads made of them

Indexing and slicing answer an error outside the buffer, so that a reader which never errs
reads only bytes inside it. A region is a buffer at its address in memory. Words are read
byte by byte, in either order.
-/

namespace Foundation

/-- A read of `stop - start` bytes that `length` bytes do not hold. -/
structure OutOfBounds where
  start : ℕ
  stop : ℕ
  length : ℕ
  deriving DecidableEq, Repr

/-- A computation that stops at the first read outside. -/
abbrev Bounded (α : Type) := Except OutOfBounds α

section reads

variable {α β : Type}

def index (xs : List α) (i : ℕ) : Bounded α :=
  match xs[i]? with
  | some x => .ok x
  | none => .error ⟨i, i + 1, xs.length⟩

def slice (xs : List α) (start stop : ℕ) : Bounded (List α) :=
  if start ≤ stop ∧ stop ≤ xs.length then .ok ((xs.drop start).take (stop - start))
  else .error ⟨start, stop, xs.length⟩

theorem index_append_right {xs ys : List α} {n i : ℕ} (hn : xs.length = n) (h : i < ys.length) :
    index (xs ++ ys) (n + i) = index ys i := by
  subst hn
  simp [index, h]

theorem exists_cons {xs : List α} {n : ℕ} (h : n + 1 ≤ xs.length) :
    ∃ x ys, xs = x :: ys ∧ n ≤ ys.length := by
  cases xs with
  | nil => cases h
  | cons x ys => exact ⟨x, ys, rfl, Nat.le_of_succ_le_succ h⟩

theorem slice_ok {xs : List α} {start stop : ℕ} (h : start ≤ stop) (h' : stop ≤ xs.length) :
    slice xs start stop = .ok ((xs.drop start).take (stop - start)) :=
  if_pos ⟨h, h'⟩

end reads

/-! ## Words -/

/-- `u16::from_be_bytes` -/
def be16 (hi lo : UInt8) : UInt16 := UInt16.ofNat (hi.toNat * 256 + lo.toNat)

/-- `u16::to_be_bytes` -/
def be16Bytes (n : UInt16) : List UInt8 := [UInt8.ofNat (n.toNat / 256), UInt8.ofNat n.toNat]

theorem toNat_be16 (hi lo : UInt8) : (be16 hi lo).toNat = hi.toNat * 256 + lo.toNat := by
  have hhi := hi.toNat_lt
  have hlo := lo.toNat_lt
  rw [be16, UInt16.toNat_ofNat']
  omega

theorem be16_inj {a b c d : UInt8} : be16 a b = be16 c d ↔ a = c ∧ b = d := by
  have hb := b.toNat_lt
  have hd := d.toNat_lt
  rw [← UInt16.toNat_inj, toNat_be16, toNat_be16, ← UInt8.toNat_inj, ← UInt8.toNat_inj]
  omega

theorem be16Bytes_be16 (a b : UInt8) : be16Bytes (be16 a b) = [a, b] := by
  have hb := b.toNat_lt
  simp only [be16Bytes, toNat_be16, List.cons.injEq, and_true, ← UInt8.toNat_inj,
    UInt8.toNat_ofNat']
  have ha := a.toNat_lt
  omega

theorem be16_be16Bytes (n : UInt16) :
    be16 (UInt8.ofNat (n.toNat / 256)) (UInt8.ofNat n.toNat) = n := by
  have hn := n.toNat_lt
  rw [← UInt16.toNat_inj, toNat_be16, UInt8.toNat_ofNat', UInt8.toNat_ofNat']
  omega

theorem exists_be16Bytes {xs : List UInt8} {n : ℕ} (h : n + 2 ≤ xs.length) :
    ∃ (m : UInt16) (ys : List UInt8), xs = be16Bytes m ++ ys ∧ n ≤ ys.length := by
  obtain ⟨a, _, rfl, h₁⟩ := exists_cons h
  obtain ⟨b, ys, rfl, h₂⟩ := exists_cons h₁
  exact ⟨be16 a b, ys, by rw [be16Bytes_be16]; rfl, h₂⟩

/-- The number with the given little-endian bytes. -/
def leNat : List UInt8 → ℕ
  | [] => 0
  | b :: bs => b.toNat + 256 * leNat bs

theorem leNat_lt (bs : List UInt8) : leNat bs < 256 ^ bs.length := by
  induction bs with
  | nil => simp [leNat]
  | cons b bs ih =>
    have hb := b.toNat_lt
    rw [leNat, List.length_cons, Nat.pow_succ]
    omega

/-! ## Memory -/

/-- The bytes from an address on, none of them past the last address. -/
structure Region where
  base : ℕ
  bytes : List UInt8
  fits : base + bytes.length < 2 ^ 64

/-- `usize::checked_add` -/
def checkedAdd (a b : ℕ) : Option ℕ := if a + b < 2 ^ 64 then some (a + b) else none

/-- `usize::checked_mul` -/
def checkedMul (a b : ℕ) : Option ℕ := if a * b < 2 ^ 64 then some (a * b) else none

namespace Region

/-- The `n` bytes at `address` lie in the region. -/
def Holds (r : Region) (address n : ℕ) : Prop :=
  r.base ≤ address ∧ address + n ≤ r.base + r.bytes.length

theorem Holds.checkedAdd {r : Region} {address n : ℕ} (h : r.Holds address n) :
    checkedAdd address n = some (address + n) :=
  if_pos (h.2.trans_lt r.fits)

end Region

end Foundation
