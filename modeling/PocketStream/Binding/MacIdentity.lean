import PocketStream.Address.Spelling
import PocketStream.Binding.Reconcile
import PocketStream.Native.Adapter

/-! # One address, one key

Four readers turn the text of a hardware address into a key: bytes, their canonical text, and
twice the text itself in lower case with colons. They agree as long as each octet is spelled
in one way, and the reader of an octet takes more than two digits.
-/

namespace PocketStream

/-- `str::to_lowercase`. Outside ASCII it follows tables that no hardware address meets. -/
structure UnicodeLowercase where
  toLowercase : String → String
  ascii : ∀ s : String, (∀ ch ∈ s.toList, ch.toNat < 128) → toLowercase s = toAsciiLowercase s

/-- `normalize_mac`, for the addresses of neighbors. -/
def normalizeMac (L : UnicodeLowercase) (raw : String) : Option String :=
  let mac := L.toLowercase (String.ofList (raw.toList.map fun ch => if ch = '-' then ':' else ch))
  if mac.isEmpty || mac == "ff:ff:ff:ff:ff:ff" || mac == "00:00:00:00:00:00" then none
  else some mac

/-- The texts of the octets. -/
def octetTexts (mac : String) : List (List Char) := mac.toList.splitOnP macSeparator

/-- How an octet is spelled, apart from the case of its digits. -/
def octetSpelling (cs : List Char) : ℕ × Bool := (cs.length, cs.head? = some '+')

/-! ## The digits of an octet -/

theorem toDigit_digitChar {ch : Char} {k : ℕ} (h : toDigit 16 ch = some k) :
    k < 16 ∧ ch.toLower = Nat.digitChar k ∧ ch.toNat < 128 := by
  have hascii : ∀ n < 128, (toDigit 16 (Char.ofNat n)).all fun k =>
      decide (k < 16 ∧ (Char.ofNat n).toLower = Nat.digitChar k) := by decide
  have hlt : ch.toNat < 128 := by
    by_contra hge
    have hnone : toDigit 16 ch = none := by
      unfold toDigit
      have h9 : ¬ ch ≤ '9' := fun hle => by have : ch.toNat ≤ 57 := hle; omega
      have hf : ¬ ch ≤ 'f' := fun hle => by have : ch.toNat ≤ 102 := hle; omega
      have hF : ¬ ch ≤ 'F' := fun hle => by have : ch.toNat ≤ 70 := hle; omega
      simp [h9, hf, hF]
    rw [hnone] at h
    cases h
  have hk := hascii ch.toNat hlt
  rw [Char.ofNat_toNat, h, Option.all_some, decide_eq_true_iff] at hk
  exact ⟨hk.1, hk.2, hlt⟩

/-- The value of digits that follow a number. -/
def digitsFrom (n : ℕ) (ds : List ℕ) : ℕ := ds.foldl (fun n d => 16 * n + d) n

theorem digitsFrom_inj {m n : ℕ} {ds es : List ℕ} (hd : ∀ d ∈ ds, d < 16) (he : ∀ d ∈ es, d < 16)
    (hlen : ds.length = es.length) (h : digitsFrom m ds = digitsFrom n es) : m = n ∧ ds = es := by
  induction ds generalizing m n es with
  | nil =>
    cases es with
    | nil => exact ⟨h, rfl⟩
    | cons => cases hlen
  | cons d ds ih =>
    cases es with
    | nil => cases hlen
    | cons e es =>
      rw [List.forall_mem_cons] at hd he
      obtain ⟨hhead, rfl⟩ := ih hd.2 he.2 (Nat.succ.inj hlen) h
      have hdigits : 16 * m + d = 16 * n + e := hhead
      have hd₁ := hd.1
      have he₁ := he.1
      obtain ⟨rfl, rfl⟩ : m = n ∧ d = e := by omega
      exact ⟨rfl, rfl⟩

theorem radixDigits_digits {n : ℕ} {cs : List Char} {v : UInt8} (hn : n < 256)
    (h : radixDigits 16 n cs = some v) :
    ∃ ds : List ℕ, (∀ d ∈ ds, d < 16) ∧ cs.map Char.toLower = ds.map Nat.digitChar ∧
      v.toNat = digitsFrom n ds := by
  induction cs generalizing n with
  | nil =>
    obtain rfl := Option.some.inj h
    exact ⟨[], by simp, rfl, Nat.mod_eq_of_lt hn⟩
  | cons ch cs ih =>
    simp only [radixDigits, Option.bind_eq_bind, Option.bind_eq_some_iff] at h
    obtain ⟨k, hk, h⟩ := h
    obtain ⟨hk, hch, -⟩ := toDigit_digitChar hk
    split at h
    · cases h
    · next hlt =>
      obtain ⟨ds, hds, hcs, hv⟩ := ih (Nat.not_le.mp hlt) h
      refine ⟨k :: ds, ?_, by rw [List.map_cons, List.map_cons, hch, hcs], hv⟩
      exact List.forall_mem_cons.mpr ⟨hk, hds⟩

theorem radixDigits_inj {cs cs' : List Char} {v : UInt8} (h : radixDigits 16 0 cs = some v)
    (h' : radixDigits 16 0 cs' = some v) (hlen : cs.length = cs'.length) :
    cs.map Char.toLower = cs'.map Char.toLower := by
  obtain ⟨ds, hds, hcs, hv⟩ := radixDigits_digits (by decide) h
  obtain ⟨ds', hds', hcs', hv'⟩ := radixDigits_digits (by decide) h'
  have hl := congrArg List.length hcs
  have hl' := congrArg List.length hcs'
  simp only [List.length_map] at hl hl'
  obtain ⟨-, rfl⟩ := digitsFrom_inj hds hds' (by omega) (hv.symm.trans hv')
  rw [hcs, hcs']

theorem fromStrRadix_some {cs : List Char} {v : UInt8} (h : fromStrRadix 16 cs = some v) :
    (∃ rest, cs = '+' :: rest ∧ radixDigits 16 0 rest = some v) ∨
      cs.head? ≠ some '+' ∧ radixDigits 16 0 cs = some v := by
  unfold fromStrRadix at h
  split at h
  · cases h
  · cases h
  · next rest _ => exact .inl ⟨rest, rfl, h⟩
  · next _ _ hplus =>
    refine .inr ⟨?_, h⟩
    cases cs with
    | nil => simp
    | cons ch rest =>
      rintro hhead
      obtain rfl := Option.some.inj hhead
      exact hplus rest rfl

/-- An octet is read from one spelling only, once its length and its sign are known. -/
theorem fromStrRadix_inj {cs cs' : List Char} {v : UInt8} (h : fromStrRadix 16 cs = some v)
    (h' : fromStrRadix 16 cs' = some v) (hspell : octetSpelling cs = octetSpelling cs') :
    cs.map Char.toLower = cs'.map Char.toLower := by
  obtain ⟨hlen, hsign⟩ := Prod.mk.inj hspell
  rw [decide_eq_decide] at hsign
  rcases fromStrRadix_some h with ⟨rest, rfl, hrest⟩ | ⟨hplain, hcs⟩
  · rcases fromStrRadix_some h' with ⟨rest', rfl, hrest'⟩ | ⟨hplain', -⟩
    · rw [List.map_cons, List.map_cons, radixDigits_inj hrest hrest' (Nat.succ.inj hlen)]
    · exact absurd (hsign.mp rfl) hplain'
  · rcases fromStrRadix_some h' with ⟨rest', rfl, -⟩ | ⟨-, hcs'⟩
    · exact absurd (hsign.mpr rfl) hplain
    · exact radixDigits_inj hcs hcs' hlen

theorem octetSpelling_toLower (cs : List Char) :
    octetSpelling (cs.map Char.toLower) = octetSpelling cs := by
  cases cs with
  | nil => rfl
  | cons ch cs => simp [octetSpelling, toLower_eq_plus]

/-! ## The octets of a key -/

/-- What a key has in the place of a character. -/
def keyChar (ch : Char) : Char := if ch = '-' then ':' else ch.toLower

theorem keyChar_of_separator {ch : Char} (h : macSeparator ch = true) : keyChar ch = ':' := by
  simp only [macSeparator, Bool.or_eq_true, beq_iff_eq] at h
  rcases h with rfl | rfl <;> decide

theorem keyChar_of_not_separator {ch : Char} (h : macSeparator ch = false) :
    keyChar ch = ch.toLower := by
  simp only [macSeparator, Bool.or_eq_false_iff, beq_eq_false_iff_ne] at h
  exact if_neg h.2

theorem macKey_eq (mac : String) : macKey mac = String.ofList (mac.toList.map keyChar) := by
  unfold macKey toAsciiLowercase
  rw [String.toList_ofList, List.map_map]
  congr 2
  funext ch
  by_cases h : ch = '-' <;> simp [keyChar, h]

theorem map_keyChar (cs : List Char) :
    cs.map keyChar = [':'].intercalate ((cs.splitOnP macSeparator).map (List.map Char.toLower)) := by
  induction cs with
  | nil => rfl
  | cons ch cs ih =>
    obtain ⟨part, parts, hparts⟩ := List.exists_cons_of_ne_nil (List.splitOnP_ne_nil macSeparator cs)
    rw [List.map_cons, ih, List.splitOnP_cons_eq_if_modifyHead, hparts]
    cases hsep : macSeparator ch
    · rw [keyChar_of_not_separator hsep]
      cases parts <;> rfl
    · rw [keyChar_of_separator hsep]
      rfl

theorem macSeparator_keyChar (ch : Char) : macSeparator (keyChar ch) = macSeparator ch := by
  cases h : macSeparator ch
  · rw [keyChar_of_not_separator h, macSeparator_toLower, h]
  · rw [keyChar_of_separator h]
    rfl

/-- The octets of a key are those of the text, in lower case. -/
theorem octetTexts_macKey (mac : String) :
    octetTexts (macKey mac) = (octetTexts mac).map (List.map Char.toLower) := by
  unfold octetTexts
  rw [macKey_eq, String.toList_ofList]
  induction mac.toList with
  | nil => rfl
  | cons ch cs ih =>
    rw [List.map_cons, List.splitOnP_cons_eq_if_modifyHead, List.splitOnP_cons_eq_if_modifyHead,
      macSeparator_keyChar, ih]
    cases h : macSeparator ch
    · rw [keyChar_of_not_separator h]
      cases cs.splitOnP macSeparator <;> rfl
    · rfl

theorem macKey_inj {a b : String} :
    macKey a = macKey b ↔ (octetTexts a).map (List.map Char.toLower) =
      (octetTexts b).map (List.map Char.toLower) := by
  constructor
  · intro h
    rw [← octetTexts_macKey, h, octetTexts_macKey]
  · intro h
    rw [macKey_eq, macKey_eq, map_keyChar, map_keyChar]
    exact congrArg (fun parts => String.ofList ([':'].intercalate parts)) h

theorem parseMacBytes_macKey (mac : String) : parseMacBytes (macKey mac) = parseMacBytes mac := by
  have hpart : fromStrRadix 16 ∘ List.map Char.toLower = fromStrRadix 16 :=
    funext fromStrRadix_toLower
  unfold parseMacBytes
  rw [show (macKey mac).toList.splitOnP macSeparator = _ from octetTexts_macKey mac]
  simp only [List.length_map, List.mapM_map, hpart]
  rfl

theorem macKey_macKey (mac : String) : macKey (macKey mac) = macKey mac := by
  have hlower : Char.toLower ∘ Char.toLower = Char.toLower :=
    funext fun ch => toLower_blind (f := Char.toLower) (by decide) ch
  rw [macKey_inj, octetTexts_macKey, List.map_map, List.map_comp_map, hlower]

/-! ## The four readers -/

theorem canonicalMac_of_parse {a b : String} (h : parseMacBytes a = parseMacBytes b) :
    canonicalMac a = canonicalMac b := by
  unfold canonicalMac
  rw [h]

theorem parse_canonicalMac {mac c : String} (h : canonicalMac mac = some c) :
    parseMacBytes c = parseMacBytes mac := by
  simp only [canonicalMac, Option.bind_eq_bind, Option.bind_eq_some_iff] at h
  obtain ⟨bytes, hbytes, h⟩ := h
  split at h
  · cases h
  · obtain rfl := Option.some.inj h
    rw [parseMacBytes_intercalate (length_parseMacBytes hbytes), hbytes]

theorem canonicalMac_inj {a b : String} (ha : (canonicalMac a).isSome)
    (h : canonicalMac a = canonicalMac b) : parseMacBytes a = parseMacBytes b := by
  obtain ⟨c, hc⟩ := Option.isSome_iff_exists.mp ha
  rw [← parse_canonicalMac hc, ← parse_canonicalMac (h.symm.trans hc)]

theorem adapterMac_eq (mac : String) :
    adapterMac mac = (canonicalMac mac).map fun _ => macKey mac := by
  unfold adapterMac canonicalMac
  rw [macKey_eq]
  cases parseMacBytes mac with
  | none => rfl
  | some bytes =>
    simp only [Option.bind_eq_bind, Option.bind_some]
    by_cases h : bytes = List.replicate 6 0 ∨ (bytes.headD 0).toNat % 2 ≠ 0
    · rw [if_pos h, if_neg (by tauto)]
      rfl
    · rw [if_neg h, if_pos (by tauto)]
      rfl

theorem isSome_of_mapM {α β : Type} {f : α → Option β} {xs : List α} {ys : List β}
    (h : xs.mapM f = some ys) : ∀ x ∈ xs, (f x).isSome := by
  induction xs generalizing ys with
  | nil => simp
  | cons x xs ih =>
    simp only [List.mapM_cons, Option.bind_eq_bind, Option.bind_eq_some_iff] at h
    obtain ⟨y, hy, zs, hzs, -⟩ := h
    rw [List.forall_mem_cons, hy]
    exact ⟨rfl, ih hzs⟩

theorem mem_octetTexts {ch : Char} {cs : List Char} (h : ch ∈ cs) :
    macSeparator ch = true ∨ ∃ part ∈ cs.splitOnP macSeparator, ch ∈ part := by
  induction cs with
  | nil => cases h
  | cons c cs ih =>
    obtain ⟨part, parts, hparts⟩ :=
      List.exists_cons_of_ne_nil (List.splitOnP_ne_nil macSeparator cs)
    rw [List.splitOnP_cons_eq_if_modifyHead]
    rw [hparts] at ih ⊢
    cases hsep : macSeparator c
    · rcases List.mem_cons.mp h with rfl | hrest
      · exact .inr ⟨ch :: part, List.mem_cons_self, List.mem_cons_self⟩
      · rcases ih hrest with hch | ⟨p, hp, hmem⟩
        · exact .inl hch
        · rcases List.mem_cons.mp hp with rfl | hp
          · exact .inr ⟨c :: p, List.mem_cons_self, List.mem_cons_of_mem c hmem⟩
          · exact .inr ⟨p, List.mem_cons_of_mem _ hp, hmem⟩
    · rcases List.mem_cons.mp h with rfl | hrest
      · exact .inl hsep
      · rcases ih hrest with hch | ⟨p, hp, hmem⟩
        · exact .inl hch
        · exact .inr ⟨p, List.mem_cons_of_mem _ hp, hmem⟩

theorem ascii_of_fromStrRadix {cs : List Char} (h : (fromStrRadix 16 cs).isSome) :
    ∀ ch ∈ cs, ch.toNat < 128 := by
  have hdigits : ∀ {cs : List Char} {v : UInt8}, radixDigits 16 0 cs = some v →
      ∀ ch ∈ cs, ch.toNat < 128 := by
    intro cs v h ch hch
    obtain ⟨ds, hds, hcs, -⟩ := radixDigits_digits (by decide) h
    have hmem : ch.toLower ∈ ds.map Nat.digitChar := hcs ▸ List.mem_map_of_mem hch
    obtain ⟨d, hd, hch⟩ := List.mem_map.mp hmem
    have hascii : ∀ d < 16, (Nat.digitChar d).toNat < 128 := by decide
    rcases toLower_eq_or ch with hlower | hlt
    · rw [← hlower, ← hch]
      exact hascii d (hds d hd)
    · exact hlt
  obtain ⟨v, hv⟩ := Option.isSome_iff_exists.mp h
  rcases fromStrRadix_some hv with ⟨rest, rfl, hrest⟩ | ⟨-, hcs⟩
  · rw [List.forall_mem_cons]
    exact ⟨by decide, hdigits hrest⟩
  · exact hdigits hcs

theorem ascii_of_parse {mac : String} {bytes : List UInt8} (h : parseMacBytes mac = some bytes) :
    ∀ ch ∈ mac.toList, ch.toNat < 128 := by
  intro ch hch
  unfold parseMacBytes at h
  dsimp only at h
  split at h
  · cases h
  · rcases mem_octetTexts hch with hsep | ⟨part, hpart, hmem⟩
    · simp only [macSeparator, Bool.or_eq_true, beq_iff_eq] at hsep
      rcases hsep with rfl | rfl <;> decide
    · exact ascii_of_fromStrRadix (isSome_of_mapM h part hpart) ch hmem

theorem isSome_parse {mac : String} (h : (canonicalMac mac).isSome) :
    ∃ bytes, parseMacBytes mac = some bytes := by
  cases hp : parseMacBytes mac with
  | none => simp [canonicalMac, hp] at h
  | some bytes => exact ⟨bytes, rfl⟩

theorem canonicalMac_macKey (mac : String) : canonicalMac (macKey mac) = canonicalMac mac :=
  canonicalMac_of_parse (parseMacBytes_macKey mac)

theorem normalizeMac_of_canonical (L : UnicodeLowercase) {mac : String} (h : (canonicalMac mac).isSome) :
    normalizeMac L mac = some (macKey mac) := by
  obtain ⟨bytes, hbytes⟩ := isSome_parse h
  have hascii := ascii_of_parse hbytes
  have hlower : L.toLowercase
      (String.ofList (mac.toList.map fun ch => if ch = '-' then ':' else ch)) = macKey mac := by
    refine L.ascii _ fun ch hch => ?_
    rw [String.toList_ofList, List.mem_map] at hch
    obtain ⟨c, hc, rfl⟩ := hch
    split
    · decide
    · exact hascii c hc
  have hplain : ∀ text, canonicalMac text = none → macKey mac ≠ text := by
    rintro _ htext rfl
    rw [canonicalMac_macKey] at htext
    rw [htext] at h
    cases h
  have hempty := hplain "" (by decide +kernel)
  have hbroadcast := hplain "ff:ff:ff:ff:ff:ff" (by decide +kernel)
  have hzero := hplain "00:00:00:00:00:00" (by decide +kernel)
  unfold normalizeMac
  rw [hlower]
  simp [hempty, hbroadcast, hzero]

/-- A text that all four readers accept. -/
structure AcceptedMac (L : UnicodeLowercase) (mac : String) : Prop where
  parse : (parseMacBytes mac).isSome
  canonical : (canonicalMac mac).isSome
  adapter : (adapterMac mac).isSome
  normalize : (normalizeMac L mac).isSome

/-- The readers agree on whether two texts are one address. -/
def AgreeOnMacs (L : UnicodeLowercase) (a b : String) : Prop :=
  (parseMacBytes a = parseMacBytes b ∧ canonicalMac a = canonicalMac b ∧
      adapterMac a = adapterMac b ∧ normalizeMac L a = normalizeMac L b) ∨
    (parseMacBytes a ≠ parseMacBytes b ∧ canonicalMac a ≠ canonicalMac b ∧
      adapterMac a ≠ adapterMac b ∧ normalizeMac L a ≠ normalizeMac L b)

/-- The readers leave their own keys alone, and each accepts the keys of the others. -/
structure StableMac (L : UnicodeLowercase) (mac : String) : Prop where
  parse : (canonicalMac mac).bind parseMacBytes = parseMacBytes mac
  canonical : (canonicalMac mac).bind canonicalMac = canonicalMac mac
  adapter : (adapterMac mac).bind adapterMac = adapterMac mac
  normalize : (normalizeMac L mac).bind (normalizeMac L) = normalizeMac L mac
  keys : ∀ key, canonicalMac mac = some key ∨ adapterMac mac = some key ∨
    normalizeMac L mac = some key → AcceptedMac L key

theorem acceptedMac_iff {L : UnicodeLowercase} {mac : String} :
    AcceptedMac L mac ↔ (canonicalMac mac).isSome := by
  constructor
  · exact AcceptedMac.canonical
  · intro h
    obtain ⟨bytes, hbytes⟩ := isSome_parse h
    constructor
    · rw [hbytes]
      rfl
    · exact h
    · rw [adapterMac_eq, Option.isSome_map]
      exact h
    · rw [normalizeMac_of_canonical L h]
      rfl

theorem stableMac_of_accepted {L : UnicodeLowercase} {mac : String} (h : AcceptedMac L mac) :
    StableMac L mac := by
  rw [acceptedMac_iff] at h
  obtain ⟨c, hc⟩ := Option.isSome_iff_exists.mp h
  have hadapter : adapterMac mac = some (macKey mac) := by rw [adapterMac_eq, hc, Option.map_some]
  have hkey : canonicalMac (macKey mac) = some c := by rw [canonicalMac_macKey, hc]
  have hnormalize := normalizeMac_of_canonical L h
  constructor
  · rw [hc, Option.bind_some, parse_canonicalMac hc]
  · rw [hc, Option.bind_some, canonicalMac_canonical hc]
  · rw [hadapter, Option.bind_some, adapterMac_eq, hkey, Option.map_some, macKey_macKey]
  · rw [hnormalize, Option.bind_some, normalizeMac_of_canonical L (by rw [hkey]; rfl),
      macKey_macKey]
  · rintro key (hk | hk | hk)
    · rw [acceptedMac_iff, canonicalMac_canonical hk]
      rfl
    · obtain rfl := Option.some.inj (hadapter.symm.trans hk)
      rw [acceptedMac_iff, hkey]
      rfl
    · obtain rfl := Option.some.inj (hnormalize.symm.trans hk)
      rw [acceptedMac_iff, hkey]
      rfl

/-! ## When the readers agree -/

theorem map_toLower_of_spellings {xs ys : List (List Char)} {bytes : List UInt8}
    (hx : xs.mapM (fromStrRadix 16) = some bytes) (hy : ys.mapM (fromStrRadix 16) = some bytes)
    (h : xs.map octetSpelling = ys.map octetSpelling) :
    xs.map (List.map Char.toLower) = ys.map (List.map Char.toLower) := by
  induction xs generalizing ys bytes with
  | nil =>
    cases ys with
    | nil => rfl
    | cons => cases h
  | cons x xs ih =>
    cases ys with
    | nil => cases h
    | cons y ys =>
      simp only [List.mapM_cons, Option.bind_eq_bind, Option.bind_eq_some_iff] at hx hy
      obtain ⟨n, hn, ns, hns, hx⟩ := hx
      obtain ⟨m, hm, ms, hms, hy⟩ := hy
      obtain ⟨rfl, rfl⟩ := List.cons.inj (Option.some.inj (hx.trans hy.symm))
      obtain ⟨hxy, hrest⟩ := List.cons.inj h
      rw [List.map_cons, List.map_cons, fromStrRadix_inj hn hm hxy, ih hns hms hrest]

theorem mapM_octetTexts {mac : String} {bytes : List UInt8} (h : parseMacBytes mac = some bytes) :
    (octetTexts mac).mapM (fromStrRadix 16) = some bytes := by
  unfold parseMacBytes at h
  dsimp only at h
  split at h
  · cases h
  · exact h

/-- Texts of one address have one key if their octets are spelled alike. -/
theorem macKey_eq_iff {a b : String} {bytes : List UInt8} (ha : parseMacBytes a = some bytes)
    (hb : parseMacBytes b = some bytes) :
    macKey a = macKey b ↔ (octetTexts a).map octetSpelling = (octetTexts b).map octetSpelling := by
  have hspell : octetSpelling ∘ List.map Char.toLower = octetSpelling :=
    funext octetSpelling_toLower
  rw [macKey_inj]
  constructor
  · intro h
    have := congrArg (List.map octetSpelling) h
    rwa [List.map_map, List.map_map, hspell] at this
  · exact map_toLower_of_spellings (mapM_octetTexts ha) (mapM_octetTexts hb)

/-- The readers agree on two texts just if they spell different addresses, or every octet
in the same number of digits and with the same sign. -/
theorem agreeOnMacs_iff (L : UnicodeLowercase) {a b : String} (ha : AcceptedMac L a)
    (hb : AcceptedMac L b) :
    (AgreeOnMacs L a b ∧ StableMac L a ∧ StableMac L b) ↔
      (parseMacBytes a = parseMacBytes b →
        (octetTexts a).map octetSpelling = (octetTexts b).map octetSpelling) := by
  have hstable : StableMac L a ∧ StableMac L b :=
    ⟨stableMac_of_accepted ha, stableMac_of_accepted hb⟩
  rw [acceptedMac_iff] at ha hb
  have hcanonical : canonicalMac a = canonicalMac b ↔ parseMacBytes a = parseMacBytes b :=
    ⟨canonicalMac_inj ha, canonicalMac_of_parse⟩
  have hnormalize : normalizeMac L a = normalizeMac L b ↔ macKey a = macKey b := by
    rw [normalizeMac_of_canonical L ha, normalizeMac_of_canonical L hb, Option.some.injEq]
  have hadapter : adapterMac a = adapterMac b ↔ macKey a = macKey b := by
    obtain ⟨c, hc⟩ := Option.isSome_iff_exists.mp ha
    obtain ⟨c', hc'⟩ := Option.isSome_iff_exists.mp hb
    rw [adapterMac_eq, adapterMac_eq, hc, hc', Option.map_some, Option.map_some, Option.some.injEq]
  have hkey : macKey a = macKey b → parseMacBytes a = parseMacBytes b := by
    intro h
    rw [← parseMacBytes_macKey a, h, parseMacBytes_macKey b]
  obtain ⟨bytes, hbytes⟩ := isSome_parse ha
  have hspell (h : parseMacBytes a = parseMacBytes b) := macKey_eq_iff hbytes (h ▸ hbytes)
  simp only [AgreeOnMacs, hcanonical, hadapter, hnormalize, ne_eq, hstable, and_true]
  constructor
  · rintro (⟨hparse, -, hk, -⟩ | ⟨hparse, -⟩) h
    · exact (hspell h).mp hk
    · exact absurd h hparse
  · intro h
    by_cases hparse : parseMacBytes a = parseMacBytes b
    · have hk := (hspell hparse).mpr (h hparse)
      exact .inl ⟨hparse, hparse, hk, hk⟩
    · have hk := mt hkey hparse
      exact .inr ⟨hparse, hparse, hk, hk⟩

/-- ASCII texts in lower case, and all others as they are. -/
def asciiOnly : UnicodeLowercase where
  toLowercase := toAsciiLowercase
  ascii _ _ := rfl

theorem agreeOnMacs_hyphens :
    AgreeOnMacs asciiOnly "02-00-5E-10-00-0A" "02:00:5e:10:00:0a" ∧
      StableMac asciiOnly "02-00-5E-10-00-0A" ∧ StableMac asciiOnly "02:00:5e:10:00:0a" :=
  (agreeOnMacs_iff asciiOnly (acceptedMac_iff.mpr (by decide +kernel))
    (acceptedMac_iff.mpr (by decide +kernel))).mpr fun _ => by decide +kernel

/-- An octet of one digit makes another key of the same address. -/
theorem agreeOnMacs_short :
    AcceptedMac asciiOnly "2:0:0:0:0:1" ∧ AcceptedMac asciiOnly "02:00:00:00:00:01" ∧
      canonicalMac "2:0:0:0:0:1" = canonicalMac "02:00:00:00:00:01" ∧
      adapterMac "2:0:0:0:0:1" ≠ adapterMac "02:00:00:00:00:01" ∧
      ¬ AgreeOnMacs asciiOnly "2:0:0:0:0:1" "02:00:00:00:00:01" := by
  have hsame : canonicalMac "2:0:0:0:0:1" = canonicalMac "02:00:00:00:00:01" := by decide +kernel
  have hdiffer : adapterMac "2:0:0:0:0:1" ≠ adapterMac "02:00:00:00:00:01" := by decide +kernel
  refine ⟨acceptedMac_iff.mpr (by decide +kernel), acceptedMac_iff.mpr (by decide +kernel), hsame,
    hdiffer, ?_⟩
  rintro (⟨-, -, h, -⟩ | ⟨-, h, -⟩)
  · exact hdiffer h
  · exact h hsame

end PocketStream
