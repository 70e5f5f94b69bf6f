import PocketStream.Address.Radix

/-! # Hardware addresses as text

Devices and adapters are named by hardware address strings in any accepted
spelling. Two strings denote one address when their canonical forms agree, and
a string with no canonical form denotes only itself.
-/

namespace PocketStream

def macSeparator (ch : Char) : Bool := ch == ':' || ch == '-'

def parseMacBytes (mac : String) : Option (List UInt8) :=
  let parts := mac.toList.splitOnP macSeparator
  if parts.length ≠ 6 then none else parts.mapM (fromStrRadix 16)

/-- Two lowercase hexadecimal digits. -/
def hexPair (n : UInt8) : String :=
  String.ofList [Nat.digitChar (n.toNat / 16), Nat.digitChar (n.toNat % 16)]

def canonicalMac (mac : String) : Option String := do
  let bytes ← parseMacBytes mac
  if bytes = List.replicate 6 0 ∨ (bytes.headD 0).toNat % 2 ≠ 0 then none
  else return ":".intercalate (bytes.map hexPair)

/-- Whether two strings denote one hardware address. -/
def sameMac (a b : String) : Bool :=
  match canonicalMac a, canonicalMac b with
  | some a, some b => a == b
  | _, _ => a == b

/-- What a string denotes: its canonical form, or itself. -/
def denotedMac (mac : String) : String ⊕ String :=
  match canonicalMac mac with
  | some c => .inl c
  | none => .inr mac

theorem sameMac_iff {a b : String} : sameMac a b = true ↔ denotedMac a = denotedMac b := by
  unfold sameMac denotedMac
  cases ha : canonicalMac a <;> cases hb : canonicalMac b <;> simp
  · rintro rfl
    rw [ha] at hb
    cases hb
  · rintro rfl
    rw [ha] at hb
    cases hb

theorem sameMac_refl (a : String) : sameMac a a = true := sameMac_iff.mpr rfl

theorem sameMac_symm {a b : String} (h : sameMac a b = true) : sameMac b a = true :=
  sameMac_iff.mpr (sameMac_iff.mp h).symm

theorem sameMac_trans {a b c : String} (h : sameMac a b = true) (h' : sameMac b c = true) :
    sameMac a c = true :=
  sameMac_iff.mpr ((sameMac_iff.mp h).trans (sameMac_iff.mp h'))

/-- A synthetic key is no hardware address, so it denotes only itself. -/
theorem canonicalMac_manual (ip : String) : canonicalMac ("manual:" ++ ip) = none := by
  have hs : ("manual:" ++ ip).toList.splitOnP macSeparator =
      "manual".toList :: ip.toList.splitOnP macSeparator := by
    have hall : "manual".toList.all (fun ch => !macSeparator ch) = true := by decide +kernel
    have hm : ∀ ch ∈ "manual".toList, macSeparator ch = false := by
      simpa only [List.all_eq_true, Bool.not_eq_true'] using hall
    have := List.splitOnP_append_cons_of_forall_mem hm ':' (by decide) ip.toList
    rwa [String.toList_append]
  have hp : parseMacBytes ("manual:" ++ ip) = none := by
    unfold parseMacBytes
    simp only [hs]
    split
    · rfl
    · rw [List.mapM_cons, show fromStrRadix 16 "manual".toList = none by decide]
      rfl
  simp [canonicalMac, hp]

end PocketStream
