import PocketStream.Address.Mac
import PocketStream.Config.Writers

/-! # The spellings of one hardware address

Letter case never matters to the reader of hardware addresses, and the
canonical form is a spelling of the address it stands for.
-/

namespace PocketStream

theorem toLower_eq_or (ch : Char) : ch.toLower = ch ∨ ch.toNat < 128 := by
  by_cases h : ch.toNat < 128
  · exact .inr h
  · left
    unfold Char.toLower
    rw [dif_neg]
    rintro ⟨-, hle⟩
    have : ch.toNat ≤ 90 := hle
    omega

/-- A test that is blind to the case of the ASCII characters is blind to case. -/
theorem toLower_blind {α : Type} {f : Char → α}
    (h : ∀ n < 128, f (Char.ofNat n).toLower = f (Char.ofNat n)) (ch : Char) :
    f ch.toLower = f ch := by
  rcases toLower_eq_or ch with he | hlt
  · rw [he]
  · simpa [Char.ofNat_toNat] using h ch.toNat hlt

theorem macSeparator_toLower (ch : Char) : macSeparator ch.toLower = macSeparator ch :=
  toLower_blind (by decide) ch

theorem toDigit_toLower (ch : Char) : toDigit 16 ch.toLower = toDigit 16 ch :=
  toLower_blind (by decide) ch

theorem radixDigits_toLower (n : ℕ) (cs : List Char) :
    radixDigits 16 n (cs.map Char.toLower) = radixDigits 16 n cs := by
  induction cs generalizing n with
  | nil => rfl
  | cons ch cs ih => simp only [List.map_cons, radixDigits, toDigit_toLower, ih]

theorem toLower_eq_plus {ch : Char} : ch.toLower = '+' ↔ ch = '+' := by
  have := toLower_blind (f := fun ch => ch == '+') (by decide) ch
  simpa [beq_eq_beq] using this

theorem fromStrRadix_toLower (cs : List Char) :
    fromStrRadix 16 (cs.map Char.toLower) = fromStrRadix 16 cs := by
  match cs with
  | [] => rfl
  | ch :: rest =>
    by_cases hplus : ch = '+'
    · subst hplus
      cases rest with
      | nil => rfl
      | cons c rest => exact radixDigits_toLower 0 (c :: rest)
    · have hlower : ch.toLower ≠ '+' := mt toLower_eq_plus.mp hplus
      have hplain : ∀ {c : Char} {cs : List Char}, c ≠ '+' →
          fromStrRadix 16 (c :: cs) = radixDigits 16 0 (c :: cs) := fun hc => by
        unfold fromStrRadix
        split <;> simp_all
      rw [List.map_cons, hplain hlower, hplain hplus]
      exact radixDigits_toLower 0 (ch :: rest)

theorem splitOnP_toLower (cs : List Char) :
    (cs.map Char.toLower).splitOnP macSeparator =
      (cs.splitOnP macSeparator).map (List.map Char.toLower) := by
  induction cs with
  | nil => rfl
  | cons ch cs ih =>
    simp only [List.map_cons, List.splitOnP_cons_eq_if_modifyHead, macSeparator_toLower, ih]
    split
    · rfl
    · cases cs.splitOnP macSeparator <;> rfl

theorem parseMacBytes_toLower (mac : String) :
    parseMacBytes (String.ofList (mac.toList.map Char.toLower)) = parseMacBytes mac := by
  have hpart : fromStrRadix 16 ∘ List.map Char.toLower = fromStrRadix 16 := funext fromStrRadix_toLower
  unfold parseMacBytes
  simp only [String.toList_ofList, splitOnP_toLower, List.length_map]
  split
  · rfl
  · rw [List.mapM_map, hpart]

theorem canonicalMac_of_eqIgnoreAsciiCase {a b : String} (h : eqIgnoreAsciiCase a b = true) :
    canonicalMac a = canonicalMac b := by
  have hlower : a.toList.map Char.toLower = b.toList.map Char.toLower := by
    simpa [eqIgnoreAsciiCase] using h
  unfold canonicalMac
  rw [← parseMacBytes_toLower a, ← parseMacBytes_toLower b, hlower]

theorem eqIgnoreAsciiCase_symm {a b : String} (h : eqIgnoreAsciiCase a b = true) :
    eqIgnoreAsciiCase b a = true := by
  simp only [eqIgnoreAsciiCase, beq_iff_eq] at h ⊢
  exact h.symm

theorem eqIgnoreAsciiCase_trans {a b c : String} (h : eqIgnoreAsciiCase a b = true)
    (h' : eqIgnoreAsciiCase b c = true) : eqIgnoreAsciiCase a c = true := by
  simp only [eqIgnoreAsciiCase, beq_iff_eq] at h h' ⊢
  exact h.trans h'

theorem splitOnP_intercalate {p : Char → Bool} {sep : Char} (hsep : p sep = true)
    {parts : List (List Char)} (hne : parts ≠ []) (h : ∀ cs ∈ parts, ∀ ch ∈ cs, p ch = false) :
    ([sep].intercalate parts).splitOnP p = parts := by
  induction parts with
  | nil => exact absurd rfl hne
  | cons cs parts ih =>
    cases parts with
    | nil =>
      rw [List.intercalate_singleton]
      exact List.splitOnP_eq_singleton (h cs List.mem_cons_self)
    | cons cs' parts =>
      rw [List.intercalate_cons_cons, List.append_assoc, List.singleton_append,
        List.splitOnP_append_cons_of_forall_mem (h cs List.mem_cons_self) sep hsep]
      exact congrArg (cs :: ·) (ih nofun fun cs hcs => h cs (List.mem_cons_of_mem _ hcs))

theorem toList_hexPair (n : UInt8) :
    (hexPair n).toList = [Nat.digitChar (n.toNat / 16), Nat.digitChar (n.toNat % 16)] := by
  rw [hexPair, String.toList_ofList]

theorem fromStrRadix_hexPair (n : UInt8) : fromStrRadix 16 (hexPair n).toList = some n := by
  have h : ∀ a < 16, ∀ b < 16, fromStrRadix 16 [Nat.digitChar a, Nat.digitChar b] =
      some (UInt8.ofNat (16 * a + b)) := by decide +kernel
  have hlt := n.toNat_lt
  rw [toList_hexPair, h _ (by omega) _ (by omega), Nat.div_add_mod, UInt8.ofNat_toNat]

theorem macSeparator_hexPair (n : UInt8) : ∀ ch ∈ (hexPair n).toList, macSeparator ch = false := by
  have h : ∀ d < 16, macSeparator (Nat.digitChar d) = false := by decide
  have hlt := n.toNat_lt
  rw [toList_hexPair]
  simp [h (n.toNat / 16) (by omega), h (n.toNat % 16) (by omega)]

theorem parseMacBytes_intercalate {bytes : List UInt8} (h : bytes.length = 6) :
    parseMacBytes (":".intercalate (bytes.map hexPair)) = some bytes := by
  have hparts : (":".intercalate (bytes.map hexPair)).toList.splitOnP macSeparator =
      (bytes.map hexPair).map String.toList := by
    rw [String.toList_intercalate]
    refine splitOnP_intercalate (show macSeparator ':' = true from rfl) ?_ ?_
    · simp only [ne_eq, List.map_eq_nil_iff]
      rintro rfl
      cases h
    · simp only [List.map_map, List.mem_map, Function.comp_apply]
      rintro _ ⟨n, -, rfl⟩
      exact macSeparator_hexPair n
  unfold parseMacBytes
  simp only [hparts, List.length_map, h, ne_eq, not_true_eq_false, ↓reduceIte, List.mapM_map]
  rw [show (fromStrRadix 16 ∘ String.toList) ∘ hexPair = some from funext fromStrRadix_hexPair]
  exact List.mapM_pure.trans (congrArg some (List.map_id bytes))

theorem length_of_mapM {α β : Type} {f : α → Option β} {xs : List α} {ys : List β}
    (h : xs.mapM f = some ys) : ys.length = xs.length := by
  induction xs generalizing ys with
  | nil =>
    obtain rfl := Option.some.inj h
    rfl
  | cons x xs ih =>
    simp only [List.mapM_cons, Option.bind_eq_bind, Option.bind_eq_some_iff] at h
    obtain ⟨y, -, zs, hzs, h⟩ := h
    obtain rfl := Option.some.inj h
    simp [ih hzs]

theorem length_parseMacBytes {mac : String} {bytes : List UInt8}
    (h : parseMacBytes mac = some bytes) : bytes.length = 6 := by
  unfold parseMacBytes at h
  dsimp only at h
  split at h
  · cases h
  · next hlen =>
    have := length_of_mapM h
    omega

/-- The canonical form is a spelling of the address. -/
theorem canonicalMac_canonical {mac c : String} (h : canonicalMac mac = some c) :
    canonicalMac c = some c := by
  simp only [canonicalMac, Option.bind_eq_bind, Option.bind_eq_some_iff] at h
  obtain ⟨bytes, hbytes, h⟩ := h
  split at h
  · cases h
  · next hplain =>
    obtain rfl := Option.some.inj h
    simp only [canonicalMac, parseMacBytes_intercalate (length_parseMacBytes hbytes),
      Option.bind_eq_bind, Option.bind_some, if_neg hplain]
    rfl

end PocketStream
