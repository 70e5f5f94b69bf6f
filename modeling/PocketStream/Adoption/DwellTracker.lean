import Mathlib.Data.List.Chain
import PocketStream.Foundation.Expiry
import PocketStream.Foundation.History

/-! # The dwell gate

A device is adopted on a second sighting, some time after the first one. The tracker keeps a
candidate for each subnet and address, and forgets it by age, when the device is seen on
another subnet, and when the subnet is done with.
-/

namespace PocketStream

open Foundation

/-- `DWELL_MIN`; times are nanoseconds. -/
def dwellMin : ℕ := 2 * 10 ^ 9

/-- `DWELL_CANDIDATE_TTL` -/
def dwellCandidateTtl : ℕ := 600 * 10 ^ 9

inductive DwellVerdict | started | waiting | mature
  deriving DecidableEq, Repr

/-- The first sighting of a device and the time of the last one. -/
structure Candidacy where
  token : String
  firstQualifying : ℕ
  lastChecked : ℕ
  deriving DecidableEq

structure DwellCandidate extends Candidacy where
  probeStarted : Bool
  deriving DecidableEq

abbrev DwellTracker := FiniteMap (String × String) DwellCandidate

namespace Candidacy

def fresh (now : ℕ) (c : Candidacy) : Bool := young dwellCandidateTtl now c.lastChecked

def verdict (token : String) (now : ℕ) : Option Candidacy → DwellVerdict
  | none => .started
  | some c => if c.token ≠ token ∧ dwellMin ≤ now - c.firstQualifying then .mature else .waiting

/-- Another sighting, which opens a candidacy or keeps one alive. -/
def sighted (token : String) (now : ℕ) : Option Candidacy → Candidacy
  | none => ⟨token, now, now⟩
  | some c => { c with lastChecked := now }

end Candidacy

namespace DwellTracker

def check (d : DwellTracker) (subnet mac token : String) (now : ℕ) :
    DwellVerdict × DwellTracker :=
  let d := FiniteMap.retain (fun _ c => now - c.lastChecked < dwellCandidateTtl) d
  let d := FiniteMap.retain (fun key _ => !(key.2 == mac && key.1 != subnet)) d
  match d.lookup (subnet, mac) with
  | none => (.started, d.insert (subnet, mac) ⟨⟨token, now, now⟩, false⟩)
  | some c =>
    (if c.token ≠ token ∧ dwellMin ≤ now - c.firstQualifying then .mature else .waiting,
      d.insert (subnet, mac) { c with lastChecked := now })

def takeProbeDue (d : DwellTracker) (subnet mac : String) (now : ℕ) : Bool × DwellTracker :=
  match d.lookup (subnet, mac) with
  | none => (false, d)
  | some c =>
    if c.probeStarted ∨ now - c.firstQualifying < dwellMin then (false, d)
    else (true, d.insert (subnet, mac) { c with probeStarted := true })

def pruneSubnet (d : DwellTracker) (subnet : String) : DwellTracker :=
  FiniteMap.retain (fun key _ => key.1 != subnet) d

end DwellTracker

/-! ## Histories -/

inductive DwellCall where
  | check (subnet mac token : String) (now : ℕ)
  | takeProbeDue (subnet mac : String) (now : ℕ)
  | pruneSubnet (subnet : String)
  deriving DecidableEq

inductive DwellReply where
  | verdict (verdict : DwellVerdict)
  | due (due : Bool)
  | pruned
  deriving DecidableEq

namespace DwellCall

def time : DwellCall → Option ℕ
  | check _ _ _ now => some now
  | takeProbeDue _ _ now => some now
  | pruneSubnet _ => none

/-- The call ends a candidacy of the device on the subnet. -/
def Abandons (subnet mac : String) : DwellCall → Prop
  | check subnet' mac' _ _ => mac' = mac ∧ subnet' ≠ subnet
  | takeProbeDue _ _ _ => False
  | pruneSubnet subnet' => subnet' = subnet

/-- The time at which the call sees the device on the subnet. -/
def sighting (subnet mac : String) : DwellCall → Option ℕ
  | check subnet' mac' _ now => if subnet' = subnet ∧ mac' = mac then some now else none
  | _ => none

/-- Every call but the checks of other devices. -/
def concerns (mac : String) : DwellCall → Bool
  | check _ mac' _ _ => mac' == mac
  | _ => true

end DwellCall

/-- A tracker, new at first. -/
def dwellTracker : Component DwellTracker DwellCall DwellReply where
  initial := ∅
  answer d
    | .check subnet mac token now =>
      let r := d.check subnet mac token now
      (.verdict r.1, r.2)
    | .takeProbeDue subnet mac now =>
      let r := d.takeProbeDue subnet mac now
      (.due r.1, r.2)
    | .pruneSubnet subnet => (.pruned, d.pruneSubnet subnet)

abbrev DwellHistory := List (DwellCall × DwellReply)

/-- No call ended a candidacy of the device on the subnet. -/
def Undisturbed (subnet mac : String) (h : DwellHistory) : Prop :=
  ∀ e ∈ h, ¬ e.1.Abandons subnet mac

/-- The times at which the device was seen on the subnet. -/
def sightings (subnet mac : String) (h : DwellHistory) : List ℕ :=
  h.filterMap fun e => e.1.sighting subnet mac

/-- Each time is less than the time to live after the one before. -/
def Close : List ℕ → Prop := List.IsChain fun a b => b < a + dwellCandidateTtl

/-! ## One call -/

namespace DwellTracker

variable (d : DwellTracker) (subnet mac token : String) (now : ℕ)

/-- The candidate that a check finds, if its last sighting is recent. -/
def live (s m : String) (now : ℕ) : Option DwellCandidate :=
  (d.lookup (s, m)).filter fun c => c.fresh now

/-- What a check keeps before it looks its own candidate up. -/
def kept : DwellTracker :=
  FiniteMap.retain (fun key _ => !(key.2 == mac && key.1 != subnet))
    (FiniteMap.retain (fun _ c => now - c.lastChecked < dwellCandidateTtl) d)

theorem lookup_kept (s m : String) : (d.kept subnet mac now).lookup (s, m) =
    if m = mac ∧ s ≠ subnet then none else d.live s m now := by
  rw [kept, FiniteMap.lookup_retain, FiniteMap.lookup_retain]
  split
  · next h => simp [h.1, h.2]
  · next h =>
    have hkeep : ¬ m = mac ∨ s = subnet := by
      rwa [not_and_or, not_ne_iff] at h
    have hkept : (!((s, m).2 == mac && (s, m).1 != subnet)) = true := by
      rcases hkeep with hm | hs <;> simp [*]
    simp only [hkept, Option.filter_filter, Bool.and_true]
    rfl

theorem check_verdict : (d.check subnet mac token now).1 =
    Candidacy.verdict token now ((d.live subnet mac now).map (·.toCandidacy)) := by
  have hown : (d.kept subnet mac now).lookup (subnet, mac) = d.live subnet mac now := by
    rw [lookup_kept, if_neg (by simp)]
  unfold check
  change (match (d.kept subnet mac now).lookup (subnet, mac) with
    | none => _
    | some c => _ : DwellVerdict × DwellTracker).1 = _
  rw [hown]
  cases d.live subnet mac now <;> rfl

theorem lookup_check (s m : String) : (d.check subnet mac token now).2.lookup (s, m) =
    if m = mac then
      if s = subnet then
        some ⟨Candidacy.sighted token now ((d.live s m now).map (·.toCandidacy)),
          (d.live s m now).any (·.probeStarted)⟩
      else none
    else d.live s m now := by
  have hown : (d.kept subnet mac now).lookup (subnet, mac) = d.live subnet mac now := by
    rw [lookup_kept, if_neg (by simp)]
  have hinsert : ∃ c, (d.check subnet mac token now).2 =
      (d.kept subnet mac now).insert (subnet, mac) c ∧
        c = ⟨Candidacy.sighted token now ((d.live subnet mac now).map (·.toCandidacy)),
          (d.live subnet mac now).any (·.probeStarted)⟩ := by
    unfold check
    change ∃ c, (match (d.kept subnet mac now).lookup (subnet, mac) with
      | none => _
      | some c => _ : DwellVerdict × DwellTracker).2 = _ ∧ _
    rw [hown]
    cases d.live subnet mac now with
    | none => exact ⟨_, rfl, rfl⟩
    | some c => exact ⟨_, rfl, rfl⟩
  obtain ⟨c, hc, rfl⟩ := hinsert
  rw [hc, FiniteMap.lookup_insert, lookup_kept]
  by_cases hm : m = mac <;> by_cases hs : s = subnet <;> simp [hm, hs]

theorem lookup_takeProbeDue (s m : String) : ((d.takeProbeDue subnet mac now).2.lookup (s, m)) =
    if (d.takeProbeDue subnet mac now).1 = true ∧ s = subnet ∧ m = mac then
      (d.lookup (s, m)).map fun c => { c with probeStarted := true }
    else d.lookup (s, m) := by
  unfold takeProbeDue
  split
  · simp
  · next c hc =>
    split
    · simp
    · rw [FiniteMap.lookup_insert]
      by_cases hkey : s = subnet ∧ m = mac
      · obtain ⟨rfl, rfl⟩ := hkey
        simp [hc]
      · rw [if_neg (by simpa [Prod.ext_iff] using hkey), if_neg fun h => hkey h.2]

theorem takeProbeDue_true (h : (d.takeProbeDue subnet mac now).1 = true) :
    ∃ c, d.lookup (subnet, mac) = some c ∧ c.probeStarted = false ∧
      c.firstQualifying + dwellMin ≤ now := by
  unfold takeProbeDue at h
  split at h
  · cases h
  · next c hc =>
    split at h
    · cases h
    · next hdue =>
      rw [not_or, Bool.not_eq_true, not_lt] at hdue
      have : 0 < dwellMin := by decide
      exact ⟨c, hc, hdue.1, by omega⟩

theorem lookup_pruneSubnet (s m : String) : (d.pruneSubnet subnet).lookup (s, m) =
    if s = subnet then none else d.lookup (s, m) := by
  rw [pruneSubnet, FiniteMap.lookup_retain]
  split
  · next h => simp [h]
  · next h =>
    cases d.lookup (s, m) <;> simp [h]

end DwellTracker
section answers

variable (d : DwellTracker) (subnet mac token : String) (now : ℕ)

@[simp] theorem answer_check : dwellTracker.answer d (.check subnet mac token now) =
    (.verdict (d.check subnet mac token now).1, (d.check subnet mac token now).2) := rfl

@[simp] theorem answer_takeProbeDue : dwellTracker.answer d (.takeProbeDue subnet mac now) =
    (.due (d.takeProbeDue subnet mac now).1, (d.takeProbeDue subnet mac now).2) := rfl

@[simp] theorem answer_pruneSubnet : dwellTracker.answer d (.pruneSubnet subnet) =
    (.pruned, d.pruneSubnet subnet) := rfl

end answers

/-! ## What a tracker knows -/

namespace Candidacy

/-- The candidacy of the device on the subnet after a call. -/
def next (s m : String) (k : Option Candidacy) : DwellCall → Option Candidacy
  | .check subnet mac token now =>
    if mac = m then
      if subnet = s then some (sighted token now (k.filter (·.fresh now))) else none
    else k
  | .takeProbeDue _ _ _ => k
  | .pruneSubnet subnet => if subnet = s then none else k

/-- The candidacy of the device on the subnet, from the calls alone. -/
def of (s m : String) (calls : List DwellCall) : Option Candidacy :=
  calls.foldl (next s m) none

@[simp] theorem of_nil (s m : String) : of s m [] = none := rfl

@[simp] theorem of_concat (s m : String) (calls : List DwellCall) (call : DwellCall) :
    of s m (calls ++ [call]) = next s m (of s m calls) call := by
  simp [of]

theorem next_of_not_concerns {s m : String} {call : DwellCall} (h : call.concerns m = false)
    (k : Option Candidacy) : next s m k call = k := by
  cases call with
  | check => exact if_neg (by simpa [DwellCall.concerns] using h)
  | takeProbeDue => cases h
  | pruneSubnet => cases h

/-- Checks of other devices leave the candidacy alone. -/
theorem of_filter (s m : String) (calls : List DwellCall) :
    of s m (calls.filter (DwellCall.concerns m)) = of s m calls := by
  induction calls using List.reverseRecOn with
  | nil => rfl
  | append_singleton calls call ih =>
    rw [List.filter_append, of_concat]
    cases h : call.concerns m
    · rw [List.filter_singleton, h, next_of_not_concerns h, ← ih]
      simp
    · rw [List.filter_singleton, h]
      simp [ih]

end Candidacy

theorem live_eq {x : Option DwellCandidate} {d : DwellTracker} {s m : String} {now : ℕ}
    (h : d.lookup (s, m) = x) : d.live s m now = x.filter fun c => c.fresh now := by
  rw [DwellTracker.live, h]

/-- At any time from the last call on, the tracker has every live candidacy and no other. -/
theorem live_after {calls : List DwellCall} (hsorted : Nondecreasing DwellCall.time calls) (s m : String)
    {now : ℕ} (hnow : ∀ t ∈ calls.filterMap DwellCall.time, t ≤ now) :
    ((dwellTracker.after calls).live s m now).map (·.toCandidacy) =
      (Candidacy.of s m calls).filter (·.fresh now) := by
  induction calls using List.reverseRecOn generalizing now with
  | nil => rfl
  | append_singleton calls call ih =>
    have hbefore := hsorted.of_concat
    have hnow' : ∀ t ∈ calls.filterMap DwellCall.time, t ≤ now := by
      intro t ht
      exact hnow t (by rw [List.filterMap_append]; exact List.mem_append_left _ ht)
    rw [Component.after_concat, Candidacy.of_concat]
    generalize hd : dwellTracker.after calls = d at ih
    cases call with
    | check subnet mac token t =>
      have ht : t ≤ now := hnow t (by simp [DwellCall.time])
      have hlive := ih hbefore (hsorted.le rfl)
      rw [answer_check, live_eq (d.lookup_check subnet mac token t s m)]
      by_cases hm : m = mac
      · by_cases hs : s = subnet
        · rw [if_pos hm, if_pos hs, hlive, Candidacy.next, if_pos hm.symm, if_pos hs.symm,
            Option.filter_some, Option.filter_some]
          split <;> rfl
        · rw [if_pos hm, if_neg hs, Candidacy.next, if_pos hm.symm, if_neg (Ne.symm hs)]
          rfl
      · rw [if_neg hm, Candidacy.next, if_neg (Ne.symm hm), ← ih hbefore hnow', DwellTracker.live,
          DwellTracker.live]
        exact congrArg (Option.map _) (filter_young_of_le ht)
    | takeProbeDue subnet mac t =>
      rw [answer_takeProbeDue, live_eq (d.lookup_takeProbeDue subnet mac t s m), Candidacy.next,
        ← ih hbefore hnow', DwellTracker.live]
      split
      · cases d.lookup (s, m) with
        | none => rfl
        | some c =>
          rw [Option.map_some, Option.filter_some, Option.filter_some]
          split <;> rfl
      · rfl
    | pruneSubnet subnet =>
      rw [answer_pruneSubnet, live_eq (d.lookup_pruneSubnet subnet s m), Candidacy.next]
      by_cases hs : s = subnet
      · rw [if_pos hs, if_pos hs.symm]
        rfl
      · rw [if_neg hs, if_neg (Ne.symm hs), ← ih hbefore hnow']
        rfl

/-- The verdict, from the calls alone. -/
theorem reply_check {calls : List DwellCall} {s m token : String} {now : ℕ}
    (hsorted : Nondecreasing DwellCall.time (calls ++ [.check s m token now])) :
    dwellTracker.reply calls (.check s m token now) =
      .verdict (Candidacy.verdict token now ((Candidacy.of s m calls).filter (·.fresh now))) := by
  rw [← live_after hsorted.of_concat s m (hsorted.le rfl)]
  exact congrArg DwellReply.verdict (DwellTracker.check_verdict _ s m token now)

/-! ## Histories of a candidacy -/

/-- A check opened the candidacy and since then nothing ended it. -/
def OpenSince (s m : String) (h : DwellHistory) (k : Candidacy) : Prop :=
  ∃ before after, h = before ++ (.check s m k.token k.firstQualifying, .verdict .started) :: after ∧
    Undisturbed s m after ∧ Close (k.firstQualifying :: sightings s m after) ∧
      (sightings s m after).getLastD k.firstQualifying = k.lastChecked

theorem close_concat {a t : ℕ} {l : List ℕ} :
    Close (a :: (l ++ [t])) ↔ Close (a :: l) ∧ t < l.getLastD a + dwellCandidateTtl := by
  unfold Close
  rw [← List.cons_append, List.isChain_append, List.getLast?_cons]
  simp

theorem undisturbed_concat {s m : String} {h : DwellHistory} {e : DwellCall × DwellReply} :
    Undisturbed s m (h ++ [e]) ↔ Undisturbed s m h ∧ ¬ e.1.Abandons s m := by
  unfold Undisturbed
  rw [List.forall_mem_append, List.forall_mem_singleton]

theorem sightings_concat {s m : String} {h : DwellHistory} {e : DwellCall × DwellReply} :
    sightings s m (h ++ [e]) = sightings s m h ++ (e.1.sighting s m).toList := by
  unfold sightings
  rw [List.filterMap_append]
  cases he : e.1.sighting s m <;> simp [he]

theorem openSince_concat {s m : String} {h : DwellHistory} {e : DwellCall × DwellReply}
    {k : Candidacy} : OpenSince s m (h ++ [e]) k ↔
      (e = (.check s m k.token k.firstQualifying, .verdict .started) ∧
        k.firstQualifying = k.lastChecked) ∨
      (¬ e.1.Abandons s m ∧ ∃ last, OpenSince s m h { k with lastChecked := last } ∧
        match e.1.sighting s m with
        | none => last = k.lastChecked
        | some t => t < last + dwellCandidateTtl ∧ t = k.lastChecked) := by
  constructor
  · rintro ⟨before, after, heq, hundisturbed, hclose, hlast⟩
    rcases append_cons_eq_concat.mp heq with ⟨rfl, he, rfl⟩ | ⟨rest, rfl, rfl⟩
    · exact .inl ⟨he.symm, hlast⟩
    · obtain ⟨hrest, he⟩ := undisturbed_concat.mp hundisturbed
      rw [sightings_concat] at hclose hlast
      refine .inr ⟨he, (sightings s m rest).getLastD k.firstQualifying, ?_⟩
      cases hs : e.1.sighting s m with
      | none =>
        rw [hs, Option.toList_none, List.append_nil] at hclose hlast
        exact ⟨⟨before, rest, rfl, hrest, hclose, rfl⟩, hlast⟩
      | some t =>
        rw [hs, Option.toList_some] at hclose hlast
        rw [List.getLastD_concat] at hlast
        obtain ⟨hclose, ht⟩ := close_concat.mp hclose
        exact ⟨⟨before, rest, rfl, hrest, hclose, rfl⟩, ht, hlast⟩
  · rintro (⟨rfl, hlast⟩ | ⟨he, last, ⟨before, rest, rfl, hrest, hclose, hlast⟩, hs⟩)
    · refine ⟨h, [], rfl, ?_, .singleton _, hlast⟩
      exact fun e he => absurd he List.not_mem_nil
    · refine ⟨before, rest ++ [e], by simp, undisturbed_concat.mpr ⟨hrest, he⟩, ?_⟩
      rw [sightings_concat]
      cases hsight : e.1.sighting s m with
      | none =>
        rw [hsight] at hs
        rw [Option.toList_none, List.append_nil]
        exact ⟨hclose, hlast.trans hs⟩
      | some t =>
        rw [hsight] at hs
        rw [Option.toList_some, List.getLastD_concat]
        refine ⟨close_concat.mpr ⟨hclose, ?_⟩, hs.2⟩
        rw [hlast]
        exact hs.1

theorem fresh_iff {k : Candidacy} {now : ℕ} :
    k.fresh now = true ↔ now < k.lastChecked + dwellCandidateTtl :=
  young_iff (by decide)

/-- What a call makes of a candidacy, by its reply. -/
def Extends (s m : String) (x : Option Candidacy) (e : DwellCall × DwellReply) (k : Candidacy) :
    Prop :=
  (e = (.check s m k.token k.firstQualifying, .verdict .started) ∧
      k.firstQualifying = k.lastChecked) ∨
    (¬ e.1.Abandons s m ∧ ∃ last, x = some { k with lastChecked := last } ∧
      match e.1.sighting s m with
      | none => last = k.lastChecked
      | some t => t < last + dwellCandidateTtl ∧ t = k.lastChecked)

/-- A call that neither sees the device on the subnet nor ends its candidacy. -/
theorem extends_quiet {s m : String} {x : Option Candidacy} {call : DwellCall} {r : DwellReply}
    {k : Candidacy} (hsight : call.sighting s m = none) (habandons : ¬ call.Abandons s m) :
    Extends s m x (call, r) k ↔ x = some k := by
  constructor
  · rintro (⟨he, -⟩ | ⟨-, last, hx, hlast⟩)
    · obtain rfl := (Prod.mk.inj he).1
      simp [DwellCall.sighting] at hsight
    · simp only [hsight] at hlast
      rw [hx, hlast]
  · intro hx
    refine .inr ⟨habandons, k.lastChecked, hx, ?_⟩
    simp only [hsight]

theorem not_extends {s m : String} {x : Option Candidacy} {call : DwellCall} {r : DwellReply}
    {k : Candidacy} (hsight : call.sighting s m = none) (habandons : call.Abandons s m) :
    ¬ Extends s m x (call, r) k := by
  rintro (⟨he, -⟩ | ⟨h, -⟩)
  · obtain rfl := (Prod.mk.inj he).1
    simp [DwellCall.sighting] at hsight
  · exact h habandons

/-- A sighting opens a candidacy if it is the start of one, and else keeps a live one. -/
theorem extends_sighting {s m token : String} {t : ℕ} {x : Option Candidacy} {k : Candidacy} :
    Extends s m x (.check s m token t,
        .verdict (Candidacy.verdict token t (x.filter (·.fresh t)))) k ↔
      Candidacy.sighted token t (x.filter (·.fresh t)) = k := by
  have hsight : (DwellCall.check s m token t).sighting s m = some t := by
    simp [DwellCall.sighting]
  have habandons : ¬ (DwellCall.check s m token t).Abandons s m := fun h => h.2 rfl
  cases hf : x.filter (·.fresh t) with
  | none =>
    constructor
    · rintro (⟨he, hlast⟩ | ⟨-, last, hx, hlive⟩)
      · obtain ⟨rfl, rfl⟩ := DwellCall.check.inj (Prod.mk.inj he).1 |>.2.2
        cases k with
        | mk token first last =>
          obtain rfl : first = last := hlast
          rfl
      · simp only [hsight] at hlive
        rw [hx, Option.filter_some, if_pos (fresh_iff.mpr hlive.1)] at hf
        cases hf
    · rintro rfl
      exact .inl ⟨rfl, rfl⟩
  | some k₀ =>
    obtain ⟨hx, hfresh⟩ := Option.filter_eq_some_iff.mp hf
    constructor
    · rintro (⟨he, -⟩ | ⟨-, last, hx', hlive⟩)
      · have hverdict := DwellReply.verdict.inj (Prod.mk.inj he).2
        rw [Candidacy.verdict] at hverdict
        split at hverdict <;> cases hverdict
      · simp only [hsight] at hlive
        obtain rfl := Option.some.inj (hx.symm.trans hx')
        rw [Candidacy.sighted, hlive.2]
    · rintro rfl
      refine .inr ⟨habandons, k₀.lastChecked, hx, ?_⟩
      simp only [hsight]
      exact ⟨fresh_iff.mp hfresh, rfl⟩

/-- The candidacy that the calls make is the one that the history shows. -/
theorem of_eq_some_iff {calls : List DwellCall} (hsorted : Nondecreasing DwellCall.time calls) {s m : String}
    {k : Candidacy} :
    Candidacy.of s m calls = some k ↔ OpenSince s m (dwellTracker.history calls) k := by
  induction calls using List.reverseRecOn generalizing k with
  | nil => simp [OpenSince]
  | append_singleton calls call ih =>
    have hextends : OpenSince s m (dwellTracker.history (calls ++ [call])) k ↔
        Extends s m (Candidacy.of s m calls) (call, dwellTracker.reply calls call) k := by
      rw [Component.history_concat, openSince_concat]
      simp only [← ih hsorted.of_concat]
      rfl
    rw [hextends, Candidacy.of_concat]
    cases call with
    | check subnet mac token t =>
      rw [Candidacy.next]
      by_cases hm : mac = m
      · by_cases hs : subnet = s
        · subst hm hs
          rw [if_pos rfl, if_pos rfl, reply_check hsorted, extends_sighting, Option.some.injEq]
        · have hsight : (DwellCall.check subnet mac token t).sighting s m = none :=
            if_neg fun h => hs h.1
          have habandons : (DwellCall.check subnet mac token t).Abandons s m := ⟨hm, hs⟩
          rw [if_pos hm, if_neg hs]
          exact iff_of_false nofun (not_extends hsight habandons)
      · have hsight : (DwellCall.check subnet mac token t).sighting s m = none :=
          if_neg fun h => hm h.2
        have habandons : ¬ (DwellCall.check subnet mac token t).Abandons s m := fun h => hm h.1
        rw [if_neg hm, extends_quiet hsight habandons]
    | takeProbeDue subnet mac t =>
      have hsight : (DwellCall.takeProbeDue subnet mac t).sighting s m = none := rfl
      rw [Candidacy.next, extends_quiet hsight id]
    | pruneSubnet subnet =>
      have hsight : (DwellCall.pruneSubnet subnet).sighting s m = none := rfl
      rw [Candidacy.next]
      by_cases hs : subnet = s
      · have habandons : (DwellCall.pruneSubnet subnet).Abandons s m := hs
        rw [if_pos hs]
        exact iff_of_false nofun (not_extends hsight habandons)
      · have habandons : ¬ (DwellCall.pruneSubnet subnet).Abandons s m := hs
        rw [if_neg hs, extends_quiet hsight habandons]

theorem verdict_mature {token : String} {now : ℕ} {x : Option Candidacy} :
    Candidacy.verdict token now x = .mature ↔
      ∃ k, x = some k ∧ k.token ≠ token ∧ k.firstQualifying + dwellMin ≤ now := by
  have hpos : 0 < dwellMin := by decide
  cases x with
  | none => simp [Candidacy.verdict]
  | some k =>
    have hle : dwellMin ≤ now - k.firstQualifying ↔ k.firstQualifying + dwellMin ≤ now := by omega
    simp only [Candidacy.verdict, Option.some.injEq, exists_eq_left', ← hle]
    split <;> simp_all

/-- A device matures on a check just if one candidacy spans the time from its first sighting. -/
theorem reply_mature {calls : List DwellCall} {s m token : String} {now : ℕ}
    (hsorted : Nondecreasing DwellCall.time (calls ++ [.check s m token now])) :
    dwellTracker.reply calls (.check s m token now) = .verdict .mature ↔
      ∃ before after first firstToken, dwellTracker.history calls =
          before ++ (.check s m firstToken first, .verdict .started) :: after ∧
        Undisturbed s m after ∧ Close (first :: (sightings s m after ++ [now])) ∧
        firstToken ≠ token ∧ first + dwellMin ≤ now := by
  rw [reply_check hsorted, DwellReply.verdict.injEq, verdict_mature]
  constructor
  · rintro ⟨k, hk, htoken, hdwell⟩
    obtain ⟨hof, hfresh⟩ := Option.filter_eq_some_iff.mp hk
    obtain ⟨before, after, heq, hundisturbed, hclose, hlast⟩ :=
      (of_eq_some_iff hsorted.of_concat).mp hof
    refine ⟨before, after, k.firstQualifying, k.token, heq, hundisturbed, ?_, htoken, hdwell⟩
    rw [close_concat, hlast]
    exact ⟨hclose, fresh_iff.mp hfresh⟩
  · rintro ⟨before, after, first, firstToken, heq, hundisturbed, hclose, htoken, hdwell⟩
    rw [close_concat] at hclose
    have hopen : OpenSince s m (dwellTracker.history calls)
        ⟨firstToken, first, (sightings s m after).getLastD first⟩ :=
      ⟨before, after, heq, hundisturbed, hclose.1, rfl⟩
    have hof := (of_eq_some_iff hsorted.of_concat).mpr hopen
    exact ⟨_, Option.filter_eq_some_iff.mpr ⟨hof, fresh_iff.mpr hclose.2⟩, htoken, hdwell⟩

/-- Checks of other devices never change a verdict. -/
theorem reply_filter {calls : List DwellCall} {s m token : String} {now : ℕ}
    (hsorted : Nondecreasing DwellCall.time (calls ++ [.check s m token now])) :
    dwellTracker.reply (calls.filter (DwellCall.concerns m)) (.check s m token now) =
      dwellTracker.reply calls (.check s m token now) := by
  have hfilter : Nondecreasing DwellCall.time (calls.filter (DwellCall.concerns m) ++ [.check s m token now]) :=
    List.Pairwise.sublist ((List.filter_sublist.append (.refl _)).filterMap _) hsorted
  rw [reply_check hfilter, reply_check hsorted, Candidacy.of_filter]

/-! ## Probes -/

/-- One candidacy, in which no probe was taken unless it is allowed. -/
structure OneCandidacy (s m : String) (probed : Bool) (h : DwellHistory) : Prop where
  undisturbed : Undisturbed s m h
  unopened : ∀ token t, (.check s m token t, .verdict .started) ∉ h
  unprobed : probed = false → ∀ t, (.takeProbeDue s m t, .due true) ∉ h

/-- A candidate was opened by a check, and its probe is as its flag says. -/
def Opened (s m : String) (c : DwellCandidate) (h : DwellHistory) : Prop :=
  ∃ before after, h =
    before ++ (.check s m c.token c.firstQualifying, .verdict .started) :: after ∧
      OneCandidacy s m c.probeStarted after

theorem Opened.concat {s m : String} {c c' : DwellCandidate} {h : DwellHistory}
    {e : DwellCall × DwellReply} (hopened : Opened s m c h) (hsame : c'.token = c.token)
    (hfirst : c'.firstQualifying = c.firstQualifying) (habandons : ¬ e.1.Abandons s m)
    (hstarted : ∀ token t, e ≠ (.check s m token t, .verdict .started))
    (hprobe : c'.probeStarted = false →
      c.probeStarted = false ∧ ∀ t, e ≠ (.takeProbeDue s m t, .due true)) :
    Opened s m c' (h ++ [e]) := by
  obtain ⟨before, after, rfl, hone⟩ := hopened
  refine ⟨before, after ++ [e], by simp [hsame, hfirst], ?_, ?_, ?_⟩
  · exact undisturbed_concat.mpr ⟨hone.undisturbed, habandons⟩
  · intro token t hmem
    rcases List.mem_append.mp hmem with hmem | hmem
    · exact hone.unopened token t hmem
    · exact hstarted token t (List.mem_singleton.mp hmem).symm
  · intro hflag t hmem
    rcases List.mem_append.mp hmem with hmem | hmem
    · exact hone.unprobed (hprobe hflag).1 t hmem
    · exact (hprobe hflag).2 t (List.mem_singleton.mp hmem).symm

theorem lookup_of_live {d : DwellTracker} {s m : String} {now : ℕ} {c : DwellCandidate}
    (h : d.live s m now = some c) : d.lookup (s, m) = some c :=
  (Option.filter_eq_some_iff.mp h).1

/-- A check opens a candidate or sees it again, and moves or drops others. -/
theorem opened_check {h : DwellHistory} {d : DwellTracker} {subnet mac token : String} {t : ℕ}
    (hd : ∀ s m c, d.lookup (s, m) = some c → Opened s m c h) {s m : String} {c : DwellCandidate}
    (hc : (d.check subnet mac token t).2.lookup (s, m) = some c) :
    Opened s m c (h ++ [(.check subnet mac token t, .verdict (d.check subnet mac token t).1)]) := by
  rw [DwellTracker.check_verdict]
  rw [DwellTracker.lookup_check] at hc
  split at hc
  · next hm =>
    split at hc
    · next hs =>
      subst hm hs
      obtain rfl := Option.some.inj hc
      cases hlive : d.live s m t with
      | none =>
        exact ⟨h, [], rfl, fun e he => absurd he List.not_mem_nil, fun _ _ => List.not_mem_nil,
          fun _ _ => List.not_mem_nil⟩
      | some c =>
        refine (hd s m c (lookup_of_live hlive)).concat rfl rfl (fun habandons => habandons.2 rfl)
          ?_ fun hflag => ⟨hflag, fun t => nofun⟩
        intro token' t' he
        have hverdict := DwellReply.verdict.inj (Prod.mk.inj he).2
        rw [Option.map_some, Candidacy.verdict] at hverdict
        split at hverdict <;> cases hverdict
    · cases hc
  · next hm =>
    refine (hd s m c (lookup_of_live hc)).concat rfl rfl (fun habandons => hm habandons.1.symm)
      ?_ fun hflag => ⟨hflag, fun t => nofun⟩
    intro token' t' he
    exact hm (DwellCall.check.inj (Prod.mk.inj he).1).2.1.symm

theorem opened_takeProbeDue {h : DwellHistory} {d : DwellTracker} {subnet mac : String} {t : ℕ}
    (hd : ∀ s m c, d.lookup (s, m) = some c → Opened s m c h) {s m : String} {c : DwellCandidate}
    (hc : (d.takeProbeDue subnet mac t).2.lookup (s, m) = some c) :
    Opened s m c (h ++ [(.takeProbeDue subnet mac t, .due (d.takeProbeDue subnet mac t).1)]) := by
  rw [DwellTracker.lookup_takeProbeDue] at hc
  split at hc
  · obtain ⟨c₀, hc₀, rfl⟩ := Option.map_eq_some_iff.mp hc
    exact (hd s m c₀ hc₀).concat rfl rfl id (fun _ _ => nofun) nofun
  · next hnot =>
    refine (hd s m c hc).concat rfl rfl id (fun _ _ => nofun) fun hflag => ⟨hflag, ?_⟩
    intro t' he
    obtain ⟨hcall, hdue⟩ := Prod.mk.inj he
    obtain ⟨hs, hm, -⟩ := DwellCall.takeProbeDue.inj hcall
    exact hnot ⟨DwellReply.due.inj hdue, hs.symm, hm.symm⟩

theorem opened_of_lookup (calls : List DwellCall) : ∀ s m c,
    (dwellTracker.after calls).lookup (s, m) = some c →
      Opened s m c (dwellTracker.history calls) := by
  induction calls using List.reverseRecOn with
  | nil => exact fun s m c hc => by cases hc
  | append_singleton calls call ih =>
    rw [Component.history_concat, Component.after_concat, Component.reply]
    intro s m c hc
    cases call with
    | check subnet mac token t => exact opened_check ih hc
    | takeProbeDue subnet mac t => exact opened_takeProbeDue ih hc
    | pruneSubnet subnet =>
      rw [answer_pruneSubnet, DwellTracker.lookup_pruneSubnet] at hc
      split at hc
      · cases hc
      · next hs =>
        exact (ih s m c hc).concat rfl rfl (fun habandons => hs habandons.symm) (by simp)
          fun hflag => ⟨hflag, by simp⟩

/-- A probe is taken once in a candidacy, and some time after its first sighting. -/
theorem probe_once {calls : List DwellCall} {pre post : DwellHistory} {s m : String} {t : ℕ}
    (h : dwellTracker.history calls = pre ++ (.takeProbeDue s m t, .due true) :: post) :
    ∃ before after first firstToken,
      pre = before ++ (.check s m firstToken first, .verdict .started) :: after ∧
        OneCandidacy s m false after ∧ first + dwellMin ≤ t := by
  induction calls using List.reverseRecOn generalizing post with
  | nil => simp at h
  | append_singleton calls call ih =>
    rw [Component.history_concat] at h
    rcases append_cons_eq_concat.mp h with ⟨-, he, rfl⟩ | ⟨rest, -, hrest⟩
    · obtain ⟨rfl, hreply⟩ := Prod.mk.inj he
      have hdue : ((dwellTracker.after calls).takeProbeDue s m t).1 = true :=
        DwellReply.due.inj hreply.symm
      obtain ⟨c, hc, hflag, hdwell⟩ := DwellTracker.takeProbeDue_true _ s m t hdue
      obtain ⟨before, after, heq, hone⟩ := opened_of_lookup calls s m c hc
      exact ⟨before, after, _, _, heq, hflag ▸ hone, hdwell⟩
    · exact ih hrest

/-- The dwell gate, over every history. -/
theorem dwell_gate (calls : List DwellCall) (s m token : String) (now : ℕ)
    (hsorted : Nondecreasing DwellCall.time (calls ++ [.check s m token now])) :
    (dwellTracker.reply calls (.check s m token now) = .verdict .mature ↔
      ∃ before after first firstToken, dwellTracker.history calls =
          before ++ (.check s m firstToken first, .verdict .started) :: after ∧
        Undisturbed s m after ∧ Close (first :: (sightings s m after ++ [now])) ∧
        firstToken ≠ token ∧ first + dwellMin ≤ now) ∧
    dwellTracker.reply (calls.filter (DwellCall.concerns m)) (.check s m token now) =
      dwellTracker.reply calls (.check s m token now) ∧
    ∀ pre post s m t,
      dwellTracker.history calls = pre ++ (.takeProbeDue s m t, .due true) :: post →
        ∃ before after first firstToken,
          pre = before ++ (.check s m firstToken first, .verdict .started) :: after ∧
            OneCandidacy s m false after ∧ first + dwellMin ≤ t :=
  ⟨reply_mature hsorted, reply_filter hsorted, fun _ _ _ _ _ => probe_once⟩

theorem dwell_gate_repeat :
    dwellTracker.reply [.check "192.168.1.0/24" "02:00:5e:10:00:0a" "first" 0]
      (.check "192.168.1.0/24" "02:00:5e:10:00:0a" "second" dwellMin) = .verdict .mature := by
  refine (dwell_gate _ _ _ _ _ (by simp [Nondecreasing, DwellCall.time])).1.mpr
    ⟨[], [], 0, "first", by decide +kernel, fun e he => absurd he List.not_mem_nil, ?_, by decide,
      by decide⟩
  exact .cons_cons (by decide) (.singleton _)

end PocketStream
