import Mathlib.Data.List.Basic

/-! # Reading bytes in a radix

The standard library's `u8::from_str_radix`, shared by the hexadecimal pairs of
hardware addresses and the decimal prefix lengths of networks.
-/

namespace PocketStream

/-- `char::to_digit`, for the radices up to sixteen. -/
def toDigit (radix : ℕ) (ch : Char) : Option ℕ :=
  let value :=
    if '0' ≤ ch ∧ ch ≤ '9' then ch.toNat - 48
    else if 'a' ≤ ch ∧ ch ≤ 'f' then ch.toNat - 87
    else if 'A' ≤ ch ∧ ch ≤ 'F' then ch.toNat - 55
    else radix
  if value < radix then some value else none

def radixDigits (radix : ℕ) : ℕ → List Char → Option UInt8
  | n, [] => some (UInt8.ofNat n)
  | n, ch :: rest => do
    let k ← toDigit radix ch
    if 256 ≤ radix * n + k then none else radixDigits radix (radix * n + k) rest

/-- `u8::from_str_radix`: an optional plus sign, at least one digit, no overflow. -/
def fromStrRadix (radix : ℕ) : List Char → Option UInt8
  | [] => none
  | ['+'] => none
  | '+' :: rest => radixDigits radix 0 rest
  | cs => radixDigits radix 0 cs

/-- `str::rsplit_once` -/
def rsplitOnce (sep : Char) (s : List Char) : Option (List Char × List Char) :=
  match s.reverse.span (· != sep) with
  | (_, []) => none
  | (after, _ :: before) => some (before.reverse, after.reverse)

end PocketStream
