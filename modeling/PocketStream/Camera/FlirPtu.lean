import Mathlib.Data.List.Infix

/-! # Speed commands of the pan-tilt unit

A command is a row of fields between ampersands. The gateway puts the velocity mode
before a speed command that selects no mode, and looks for both in the whole text,
so that a name that ends like one of them, or a mode that comes too late, is taken
for it.
-/

namespace PocketStream

def containsText (text pattern : String) : Bool := decide (pattern.toList <:+: text.toList)

/-- `normalize_ptu_cmd` -/
def normalizePtuCmd (cmd : String) : String :=
  let hasSpeed := containsText cmd "PS=" || containsText cmd "TS="
  let selectsMode := containsText cmd "C="
  if hasSpeed && !selectsMode then "C=V&" ++ cmd else cmd

namespace Ptu

/-! ### Fields -/

def fields (cmd : String) : List (List Char) := cmd.toList.splitOn '&'

def assigns (name : String) (field : List Char) : Prop := name.toList ++ ['='] <+: field

instance (name : String) (field : List Char) : Decidable (assigns name field) :=
  inferInstanceAs (Decidable (_ <+: _))

/-- The field assigns a pan or a tilt speed. -/
def IsSpeed (field : List Char) : Prop := assigns "PS" field ∨ assigns "TS" field

def IsMode (field : List Char) : Prop := assigns "C" field

instance (field : List Char) : Decidable (IsSpeed field) := inferInstanceAs (Decidable (_ ∨ _))

instance (field : List Char) : Decidable (IsMode field) := inferInstanceAs (Decidable (assigns ..))

/-- A mode comes before every speed. -/
def ModeLeads (fields : List (List Char)) : Prop :=
  ∃ before mode after, fields = before ++ mode :: after ∧ IsMode mode ∧ ∀ f ∈ before, ¬IsSpeed f

theorem not_modeLeads_nil : ¬ModeLeads [] := by
  rintro ⟨before, mode, after, h, -⟩
  cases before <;> cases h

theorem modeLeads_cons {f : List Char} {fs : List (List Char)} :
    ModeLeads (f :: fs) ↔ IsMode f ∨ ¬IsSpeed f ∧ ModeLeads fs := by
  constructor
  · rintro ⟨before, mode, after, h, hmode, hfree⟩
    cases before with
    | nil =>
      cases h
      exact .inl hmode
    | cons b before =>
      cases h
      exact .inr ⟨hfree _ List.mem_cons_self, before, mode, after, rfl, hmode, fun g hg =>
        hfree g (List.mem_cons_of_mem _ hg)⟩
  · rintro (hmode | ⟨hspeed, before, mode, after, rfl, hmode, hfree⟩)
    · exact ⟨[], f, fs, rfl, hmode, by simp⟩
    · refine ⟨f :: before, mode, after, rfl, hmode, fun g hg => ?_⟩
      rcases List.mem_cons.mp hg with rfl | hg
      · exact hspeed
      · exact hfree g hg

instance decideModeLeads : (fs : List (List Char)) → Decidable (ModeLeads fs)
  | [] => .isFalse not_modeLeads_nil
  | _ :: fs =>
    have := decideModeLeads fs
    decidable_of_iff _ modeLeads_cons.symm

/-! ### What is searched for -/

theorem infix_of_mem_fields {cmd : String} {f : List Char} (h : f ∈ fields cmd) :
    f <:+: cmd.toList := by
  obtain ⟨i, hi⟩ := List.mem_iff_getElem?.mp h
  have hmem : f ∈ (fields cmd).intersperse ['&'] :=
    List.mem_of_getElem? (List.getElem?_intersperse_two_mul.trans hi)
  have hcmd : ['&'].intercalate (fields cmd) = cmd.toList := List.intercalate_splitOn '&'
  exact hcmd ▸ List.infix_of_mem_flatten hmem

theorem contains_of_assigns {cmd name : String} {f : List Char} (h : f ∈ fields cmd)
    (hf : assigns name f) : name.toList ++ ['='] <:+: cmd.toList :=
  hf.isInfix.trans (infix_of_mem_fields h)

/-- The text of an assignment of a speed. -/
def speaksOfSpeed (cmd : String) : Bool := containsText cmd "PS=" || containsText cmd "TS="

def speaksOfMode (cmd : String) : Bool := containsText cmd "C="

theorem speaksOfSpeed_of_mem {cmd : String} {f : List Char} (h : f ∈ fields cmd)
    (hf : IsSpeed f) : speaksOfSpeed cmd = true := by
  rw [speaksOfSpeed, Bool.or_eq_true]
  rcases hf with hf | hf
  · exact .inl (decide_eq_true (contains_of_assigns h hf))
  · exact .inr (decide_eq_true (contains_of_assigns h hf))

theorem speaksOfMode_of_leads {cmd : String} (h : ModeLeads (fields cmd)) :
    speaksOfMode cmd = true := by
  obtain ⟨before, mode, after, hfields, hmode, -⟩ := h
  have hmem : mode ∈ fields cmd := hfields ▸ List.mem_append_right _ List.mem_cons_self
  exact decide_eq_true (contains_of_assigns hmem hmode)

theorem normalizePtuCmd_eq (cmd : String) : normalizePtuCmd cmd =
    if speaksOfSpeed cmd ∧ speaksOfMode cmd = false then "C=V&" ++ cmd else cmd := by
  unfold normalizePtuCmd speaksOfSpeed speaksOfMode
  cases containsText cmd "C=" <;> simp

theorem fields_prefixed (cmd : String) : fields ("C=V&" ++ cmd) = "C=V".toList :: fields cmd := by
  have hlist : ("C=V&" ++ cmd).toList = "C=V".toList ++ '&' :: cmd.toList := by simp
  rw [fields, hlist]
  exact List.splitOn_append_cons_self_of_not_mem (by decide) _

theorem modeLeads_prefixed (cmd : String) : ModeLeads (fields ("C=V&" ++ cmd)) := by
  rw [fields_prefixed]
  exact modeLeads_cons.mpr (.inl (by decide))

theorem normalizePtuCmd_idem (cmd : String) :
    normalizePtuCmd (normalizePtuCmd cmd) = normalizePtuCmd cmd := by
  rw [normalizePtuCmd_eq cmd]
  split
  · have hmode := speaksOfMode_of_leads (modeLeads_prefixed cmd)
    rw [normalizePtuCmd_eq, if_neg (by rw [hmode]; simp)]
  · next h => rw [normalizePtuCmd_eq, if_neg h]

/-- Every speed of the sent command comes after a mode, a command that needs none or has one is
sent as it is, and what was normalised once stays. -/
structure CarriesMode (cmd : String) : Prop where
  led : (∃ f ∈ fields cmd, IsSpeed f) → ModeLeads (fields (normalizePtuCmd cmd))
  kept : (∀ f ∈ fields cmd, ¬IsSpeed f) ∨ ModeLeads (fields cmd) → normalizePtuCmd cmd = cmd
  idem : normalizePtuCmd (normalizePtuCmd cmd) = normalizePtuCmd cmd

/-- A command with a speed has its mode before it or no text of a mode at all, and a command
without one has no text of a speed, or one of a mode too. -/
def PlainlySpelled (cmd : String) : Prop :=
  if ∃ f ∈ fields cmd, IsSpeed f then speaksOfMode cmd = true → ModeLeads (fields cmd)
  else speaksOfSpeed cmd = true → speaksOfMode cmd = true

end Ptu

open Ptu

theorem speed_commands_carry_mode (cmd : String) : CarriesMode cmd ↔ PlainlySpelled cmd := by
  unfold PlainlySpelled
  constructor
  · rintro ⟨hled, hkept, -⟩
    split
    · next hspeed =>
      intro hmode
      have hled := hled hspeed
      rwa [normalizePtuCmd_eq, if_neg (by rw [hmode]; simp)] at hled
    · next hspeed =>
      intro htext
      have hkept := hkept (.inl fun f hf hs => hspeed ⟨f, hf, hs⟩)
      by_contra hmode
      rw [normalizePtuCmd_eq, if_pos ⟨htext, Bool.eq_false_iff.mpr hmode⟩] at hkept
      have hlen := congrArg String.length hkept
      simp at hlen
  · intro h
    refine ⟨fun hspeed => ?_, fun hfree => ?_, normalizePtuCmd_idem cmd⟩
    · rw [if_pos hspeed] at h
      obtain ⟨f, hf, hs⟩ := hspeed
      have htext := speaksOfSpeed_of_mem hf hs
      cases hmode : speaksOfMode cmd with
      | true =>
        rw [normalizePtuCmd_eq, if_neg (by rw [hmode]; simp)]
        exact h hmode
      | false =>
        rw [normalizePtuCmd_eq, if_pos ⟨htext, hmode⟩]
        exact modeLeads_prefixed cmd
    · rw [normalizePtuCmd_eq, if_neg]
      rintro ⟨htext, hmode⟩
      rcases hfree with hfree | hlead
      · rw [if_neg fun hc => hc.elim fun f hf => hfree f hf.1 hf.2] at h
        exact absurd (h htext) (by rw [hmode]; decide)
      · exact absurd (speaksOfMode_of_leads hlead) (by rw [hmode]; decide)

/-- A mode after the speed, a name that ends in the letter of the mode, and a name that ends in
those of a speed. -/
theorem misspelled_commands :
    ¬CarriesMode "PS=100&C=V" ∧ ¬CarriesMode "AC=1&PS=100" ∧ ¬CarriesMode "XPS=100" := by
  refine ⟨fun h => ?_, fun h => ?_, fun h => ?_⟩
  · exact absurd (h.led (by decide +kernel)) (by decide +kernel)
  · exact absurd (h.led (by decide +kernel)) (by decide +kernel)
  · exact absurd (h.kept (.inl (by decide +kernel))) (by decide +kernel)

end PocketStream
