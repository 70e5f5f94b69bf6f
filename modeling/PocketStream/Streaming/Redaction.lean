import Mathlib.Data.Bool.AllAny
import PocketStream.Config.RestreamWriters
import PocketStream.Foundation.Search

/-! # Redaction of credentials

What stands between the first colon and the first at sign after the first scheme mark
of a text is replaced, and in the relay's texts its mount path too.
-/

namespace PocketStream

open Foundation

def schemeMark : List Char := "://".toList

/-- `redact_url`, on the letters of the text. -/
def redactUrl (url : List Char) : List Char :=
  match breakAt schemeMark url with
  | none => url
  | some (scheme, authority) =>
    match breakAt ['@'] authority with
    | none => url
    | some (userinfo, host) =>
      match breakAt [':'] userinfo with
      | none => url
      | some (user, _) => scheme ++ schemeMark ++ (user ++ ":***@".toList ++ host)

def redactRelayText (text mountPath : List Char) : List Char :=
  let redacted := redactUrl text
  if mountPath = [] then redacted
  else replaceAll mountPath "/stream-***".toList redacted

/-- The parts of a text around the credentials that are found in it. -/
structure UrlCredentials where
  scheme : List Char
  user : List Char
  password : List Char
  host : List Char
  deriving DecidableEq

namespace UrlCredentials

/-- The text with the given password. -/
def spell (c : UrlCredentials) (password : List Char) : List Char :=
  c.scheme ++ schemeMark ++ (c.user ++ ':' :: (password ++ '@' :: c.host))

def mask : List Char := "***".toList

/-- What the searches of `redact_url` find. -/
def find (url : List Char) : Option UrlCredentials := do
  let (scheme, authority) ← breakAt schemeMark url
  let (userinfo, host) ← breakAt ['@'] authority
  let (user, password) ← breakAt [':'] userinfo
  return ⟨scheme, user, password, host⟩

variable {url : List Char} {c : UrlCredentials}

theorem find_eq_some : find url = some c ↔
    breakAt schemeMark url = some (c.scheme, c.user ++ ':' :: (c.password ++ '@' :: c.host)) ∧
      ':' ∉ c.user ∧ '@' ∉ c.user ∧ '@' ∉ c.password := by
  simp only [find, Option.bind_eq_bind, Option.bind_eq_some_iff, Option.pure_def,
    Option.some.injEq, Prod.exists, breakAt_singleton]
  constructor
  · rintro ⟨scheme, authority, hscheme, userinfo, host, ⟨rfl, hat⟩, user, password, ⟨rfl, hcolon⟩,
      rfl⟩
    simp only [List.mem_append, List.mem_cons, not_or] at hat
    refine ⟨by simpa using hscheme, hcolon, hat.1, hat.2.2⟩
  · rintro ⟨hscheme, hcolon, huser, hpassword⟩
    refine ⟨_, _, hscheme, c.user ++ ':' :: c.password, c.host, ⟨by simp, ?_⟩, c.user, c.password,
      ⟨rfl, hcolon⟩, rfl⟩
    simp [huser, hpassword]

theorem spell_of_find (h : find url = some c) : url = c.spell c.password :=
  (breakAt_eq_some (find_eq_some.mp h).1).1

theorem redactUrl_eq (url : List Char) :
    redactUrl url = (find url).elim url fun c => c.spell mask := by
  unfold redactUrl find
  cases breakAt schemeMark url with
  | none => rfl
  | some p =>
    cases hat : breakAt ['@'] p.2 with
    | none => simp [hat]
    | some q => cases hcolon : breakAt [':'] q.1 <;> simp [hat, hcolon, spell, mask]

theorem redactUrl_of_find (h : find url = some c) : redactUrl url = c.spell mask := by
  rw [redactUrl_eq, h]
  rfl

/-- A text stays as it is when it has no credentials, or redacted ones. -/
theorem redactUrl_eq_self :
    redactUrl url = url ↔ ∀ c, find url = some c → c.password = mask := by
  rw [redactUrl_eq]
  cases h : find url with
  | none => simp
  | some c =>
    have hurl := spell_of_find h
    simp only [Option.elim_some, Option.some.injEq, forall_eq']
    constructor
    · intro hfixed
      rw [hurl] at hfixed
      simpa [spell] using hfixed.symm
    · intro hpassword
      rw [← hpassword, ← hurl]

/-- The redacted text has the same parts around the mask. -/
theorem find_redacted (h : find url = some c) :
    find (c.spell mask) = some { c with password := mask } := by
  obtain ⟨hscheme, hcolon, huser, -⟩ := find_eq_some.mp h
  refine find_eq_some.mpr ⟨?_, hcolon, huser, (by decide : '@' ∉ mask)⟩
  rw [spell_of_find h] at hscheme
  exact breakAt_congr hscheme

theorem redactUrl_idem (url : List Char) : redactUrl (redactUrl url) = redactUrl url := by
  cases h : find url with
  | none => rw [redactUrl_eq url, h]; rw [Option.elim_none, redactUrl_eq, h]; rfl
  | some c =>
    rw [redactUrl_of_find h, redactUrl_of_find (find_redacted h)]
    rfl

/-! ### Exchanging a stretch -/

/-- The stretch has no letter that is searched for, and one that is not of the mask. -/
structure Inert (stretch : List Char) : Prop where
  colon : ':' ∉ stretch
  slash : '/' ∉ stretch
  at_ : '@' ∉ stretch
  unmasked : ∃ ch ∈ stretch, ch ∉ mask

theorem Inert.ne_nil {stretch : List Char} (h : Inert stretch) : stretch ≠ [] := by
  rintro rfl
  obtain ⟨_, hch, -⟩ := h.unmasked
  cases hch

theorem Inert.ne_mask {stretch : List Char} (h : Inert stretch) (x y : List Char) :
    x ++ (stretch ++ y) ≠ mask := by
  obtain ⟨ch, hch, hmask⟩ := h.unmasked
  intro heq
  exact hmask (heq ▸ List.mem_append_right _ (List.mem_append_left _ hch))

theorem find_insert {stretch : List Char} (h : Inert stretch) (x y : List Char) :
    find (x ++ (stretch ++ y)) =
      match breakAt schemeMark x with
      | none => (find y).map fun c => { c with scheme := x ++ (stretch ++ c.scheme) }
      | some (scheme, a) =>
        match breakAt ['@'] a with
        | some (info, host) => (breakAt [':'] info).map fun p =>
            ⟨scheme, p.1, p.2, host ++ (stretch ++ y)⟩
        | none => (breakAt ['@'] y).bind fun q =>
          match breakAt [':'] a with
          | some (user, password) => some ⟨scheme, user, password ++ (stretch ++ q.1), q.2⟩
          | none => (breakAt [':'] q.1).map fun p => ⟨scheme, a ++ (stretch ++ p.1), p.2, q.2⟩ := by
  have hscheme : ∀ ch ∈ schemeMark, ch ∉ stretch := by
    intro ch hch
    have hletters : ∀ ch ∈ schemeMark, ch = ':' ∨ ch = '/' := by simp [schemeMark]
    rcases hletters ch hch with rfl | rfl
    · exact h.colon
    · exact h.slash
  have hat : ∀ ch ∈ ['@'], ch ∉ stretch := by simpa using h.at_
  have hcolon : ∀ ch ∈ [':'], ch ∉ stretch := by simpa using h.colon
  rw [find, breakAt_insert (by decide) h.ne_nil hscheme]
  cases breakAt schemeMark x with
  | none =>
    cases hy : breakAt schemeMark y <;>
      simp [find, hy, Option.map_bind]
  | some p =>
    simp only [Option.map_some, Option.some_or, Option.bind_eq_bind, Option.bind_some]
    rw [breakAt_insert (by decide) h.ne_nil hat]
    cases breakAt ['@'] p.2 with
    | some q => cases hc : breakAt [':'] q.1 <;> simp [hc]
    | none =>
      cases breakAt ['@'] y with
      | none => rfl
      | some q =>
        simp only [Option.map_none, Option.none_or, Option.map_some, Option.bind_some]
        rw [breakAt_insert (by decide) h.ne_nil hcolon]
        cases breakAt [':'] p.2 <;> cases breakAt [':'] q.1 <;> simp

/-- One stretch for another leaves a redacted text redacted. -/
theorem redactUrl_exchange {s t : List Char} (hs : Inert s) (ht : Inert t) {x y : List Char}
    (h : redactUrl (x ++ (s ++ y)) = x ++ (s ++ y)) :
    redactUrl (x ++ (t ++ y)) = x ++ (t ++ y) := by
  rw [redactUrl_eq_self, find_insert hs] at h
  rw [redactUrl_eq_self, find_insert ht]
  cases hscheme : breakAt schemeMark x with
  | none =>
    simp only [hscheme, Option.map_eq_some_iff, forall_exists_index, and_imp] at h ⊢
    rintro _ c hc rfl
    have hmask := h _ c hc rfl
    exact hmask
  | some p =>
    simp only [hscheme] at h ⊢
    cases hat : breakAt ['@'] p.2 with
    | some q =>
      simp only [hat, Option.map_eq_some_iff, forall_exists_index, and_imp] at h ⊢
      rintro _ r hr rfl
      have hmask := h _ r hr rfl
      exact hmask
    | none =>
      cases hy : breakAt ['@'] y with
      | none => simp
      | some q =>
        simp only [hat, hy, Option.bind_some] at h ⊢
        cases hcolon : breakAt [':'] p.2 with
        | some r =>
          simp only [hcolon, Option.some.injEq, forall_eq'] at h
          exact absurd h (hs.ne_mask _ _)
        | none =>
          simp only [hcolon, Option.map_eq_some_iff, forall_exists_index, and_imp] at h ⊢
          rintro _ r hr rfl
          have hmask := h _ r hr rfl
          exact hmask

/-! ### The mount path -/

/-- The path the relay serves a token under. -/
def mountPath (token : String) : List Char := ("/stream-" ++ token).toList

theorem notMem_of_validToken {token : String} (h : validateRtspToken token = .ok ()) {ch : Char}
    (hch : ch ∈ ['/', ':', '@', '*']) : ch ∉ token.toList := by
  intro hmem
  obtain ⟨u, v, huv⟩ := List.append_of_mem hmem
  have htoken : token = String.ofList u ++ String.ofList [ch] ++ String.ofList v := by
    rw [← String.ofList_append, ← String.ofList_append, List.append_assoc, List.singleton_append,
      ← huv, String.ofList_toList]
  have hletters : ∀ ch ∈ ['/', ':', '@', '*'], ∃ b ∈ bytes (String.ofList [ch]),
      (isAsciiDigit b || (0x61 ≤ b && b ≤ 0x66)) = false := by
    rw [← List.all_iff_forall_prop]
    decide +kernel
  obtain ⟨b, hb, hbad⟩ := hletters ch hch
  unfold validateRtspToken at h
  split at h
  · next hvalid =>
    have hin : b ∈ bytes token := by
      rw [htoken, bytes_append, bytes_append]
      exact List.mem_append_left _ (List.mem_append_right _ hb)
    have hgood := List.all_eq_true.mp hvalid.2 b hin
    rw [hbad] at hgood
    cases hgood
  · cases h

theorem token_ne_nil {token : String} (h : validateRtspToken token = .ok ()) :
    token.toList ≠ [] := by
  intro hnil
  obtain rfl : token = "" := by rw [← String.ofList_toList (s := token), hnil]
  cases h

/-- What follows the slash of a mount path, and of the text that replaces it. -/
theorem mountPath_eq (token : String) :
    mountPath token = '/' :: ("stream-".toList ++ token.toList) := by
  simp [mountPath]

def mountMask : List Char := "stream-***".toList

theorem inert_mountMask : Inert mountMask :=
  ⟨by decide, by decide, by decide, 's', by decide, by decide⟩

theorem inert_token {token : String} (h : validateRtspToken token = .ok ()) :
    Inert ("stream-".toList ++ token.toList) := by
  have hfree (ch : Char) (hch : ch ∈ ['/', ':', '@', '*']) (hs : ch ∉ "stream-".toList) :
      ch ∉ "stream-".toList ++ token.toList := fun hmem =>
    (List.mem_append.mp hmem).elim hs (notMem_of_validToken h hch)
  exact ⟨hfree _ (by decide) (by decide), hfree _ (by decide) (by decide),
    hfree _ (by decide) (by decide), 's', List.mem_append_left _ (by decide), by decide⟩

theorem clear_mountPath {token : String} (h : validateRtspToken token = .ok ()) :
    Clear (mountPath token) "/stream-***".toList := by
  have hstar := notMem_of_validToken h (by decide : '*' ∈ ['/', ':', '@', '*'])
  have hmask : "/stream-***".toList = '/' :: ("stream-".toList ++ mask) := by decide
  rw [mountPath_eq, hmask]
  refine clear_of_mark (inert_token h).slash (by decide) ?_ ?_
  · rw [List.prefix_append_right_inj]
    intro hpre
    obtain ⟨ch, hch⟩ := List.exists_mem_of_ne_nil _ (token_ne_nil h)
    have hletters : ∀ ch ∈ mask, ch = '*' := by simp [mask]
    exact hstar (hletters ch (hpre.subset hch) ▸ hch)
  · rw [List.prefix_append_right_inj]
    exact fun hpre => hstar (hpre.subset (by decide))

theorem redactRelayText_redacted {token : String} (h : validateRtspToken token = .ok ())
    (text : List Char) : redactUrl (redactRelayText text (mountPath token)) =
      redactRelayText text (mountPath token) := by
  have hne : mountPath token ≠ [] := by rw [mountPath_eq]; exact List.cons_ne_nil _ _
  rw [redactRelayText, if_neg hne]
  refine replaceUpTo_keeps (P := fun t => redactUrl t = t) (fun x y hxy => ?_) _ _ []
    (redactUrl_idem text)
  have hsplit (s : List Char) : x ++ '/' :: s ++ y = (x ++ ['/']) ++ (s ++ y) := by simp
  have hmask : "/stream-***".toList = '/' :: mountMask := by decide
  rw [mountPath_eq, hsplit] at hxy
  rw [hmask, hsplit]
  exact redactUrl_exchange (inert_token h) inert_mountMask hxy

theorem not_infix_redactRelayText {token : String} (h : validateRtspToken token = .ok ())
    (text : List Char) : ¬mountPath token <:+: redactRelayText text (mountPath token) := by
  have hne : mountPath token ≠ [] := by rw [mountPath_eq]; exact List.cons_ne_nil _ _
  rw [redactRelayText, if_neg hne]
  exact not_infix_replaceUpTo hne (clear_mountPath h) _ _ le_rfl

theorem redactRelayText_idem {token : String} (h : validateRtspToken token = .ok ())
    (text : List Char) : redactRelayText (redactRelayText text (mountPath token)) (mountPath token) =
      redactRelayText text (mountPath token) := by
  have hne : mountPath token ≠ [] := by rw [mountPath_eq]; exact List.cons_ne_nil _ _
  rw [redactRelayText, if_neg hne, redactRelayText_redacted h]
  exact replaceUpTo_of_not_infix (not_infix_redactRelayText h text) _

/-- The credentials before the first at sign are masked from their first colon on. -/
theorem masks_first {pre user password host head info : List Char}
    (hfirst : breakAt schemeMark (pre ++ schemeMark ++ (user ++ ':' :: (password ++ '@' :: host))) =
      some (head, info ++ '@' :: host)) (hat : '@' ∉ info) :
    ∃ kept, kept <+: pre ++ schemeMark ++ (user ++ [':']) ∧
      redactUrl (pre ++ schemeMark ++ (user ++ ':' :: (password ++ '@' :: host))) =
        kept ++ mask ++ '@' :: host := by
  obtain ⟨htext, hle⟩ := breakAt_eq_some hfirst
  have hle := hle pre _ rfl
  obtain ⟨w, hw⟩ : head ++ schemeMark <+: pre ++ schemeMark :=
    List.prefix_of_prefix_length_le ⟨_, htext.symm⟩ ⟨_, rfl⟩ (by simpa using hle)
  have hinfo : info = w ++ user ++ ':' :: password := by
    rw [← hw, List.append_assoc (head ++ schemeMark), List.append_cancel_left_eq] at htext
    have htail : info ++ '@' :: host = (w ++ user ++ ':' :: password) ++ '@' :: host := by
      rw [← htext]
      simp
    exact List.append_cancel_right htail
  cases hcolon : breakAt [':'] info with
  | none =>
    refine absurd ?_ (breakAt_eq_none.mp hcolon)
    exact ⟨w ++ user, password, by rw [hinfo]; simp⟩
  | some p =>
    obtain ⟨us, pw⟩ := p
    obtain ⟨hus, hfree⟩ := breakAt_singleton.mp hcolon
    have hshort := (breakAt_eq_some hcolon).2 (w ++ user) password (by rw [hinfo]; simp)
    have hkept : us ++ [':'] <+: w ++ user ++ [':'] := by
      refine List.prefix_of_prefix_length_le (⟨pw, by rw [hus]; simp⟩ : _ <+: info)
        ⟨password, by rw [hinfo]; simp⟩ (by simp at hshort ⊢; omega)
    refine ⟨head ++ schemeMark ++ (us ++ [':']), ?_, ?_⟩
    · rw [← hw, List.append_assoc (head ++ schemeMark), List.prefix_append_right_inj]
      simpa using hkept
    · have hfind : find (pre ++ schemeMark ++ (user ++ ':' :: (password ++ '@' :: host))) =
          some ⟨head, us, pw, host⟩ := by
        refine find_eq_some.mpr ⟨?_, hfree, ?_, ?_⟩
        · rw [hfirst, hus]
          simp
        · exact fun hc => hat (hus ▸ List.mem_append_left _ hc)
        · exact fun hc => hat (hus ▸ List.mem_append_right _ (List.mem_cons_of_mem _ hc))
      rw [redactUrl_of_find hfind]
      simp [spell]

end UrlCredentials

open UrlCredentials

/-- A URL with an empty password has no other reading. -/
theorem no_password {pre user password : List Char}
    (h : "rtsp://admin:@h".toList = pre ++ schemeMark ++ (user ++ ':' :: (password ++ ['@', 'h']))) :
    password = [] := by
  have hcut : "rtsp://admin:".toList ++ ['@', 'h'] =
      pre ++ schemeMark ++ (user ++ ':' :: password) ++ ['@', 'h'] := by
    rw [show "rtsp://admin:".toList ++ ['@', 'h'] = "rtsp://admin:@h".toList by decide, h]
    simp
  have hcut := List.append_cancel_right hcut
  rcases List.eq_nil_or_concat password with rfl | ⟨start, last, rfl⟩
  · rfl
  · have hassoc : pre ++ schemeMark ++ (user ++ ':' :: start.concat last) =
        pre ++ schemeMark ++ (user ++ ':' :: start) ++ [last] := by simp
    rw [hassoc] at hcut
    have hlast := congrArg List.getLast? hcut
    rw [show "rtsp://admin:".toList.getLast? = some ':' by decide, List.getLast?_concat] at hlast
    obtain rfl := Option.some.inj hlast
    have hcount := congrArg (List.count ':') hcut
    rw [show "rtsp://admin:".toList.count ':' = 2 by decide] at hcount
    simp only [List.count_append, List.count_cons_self, List.count_nil,
      show schemeMark.count ':' = 1 by decide] at hcount
    omega

end PocketStream
