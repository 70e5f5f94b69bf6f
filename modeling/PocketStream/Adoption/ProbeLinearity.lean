import PocketStream.Adoption.CacheProbe
import PocketStream.Foundation.Routine

/-! # Every scratch is returned once

A bound scratch is in custody until it is released or handed to the adoption.
Whatever the calls of a probe answer, custody never holds two scratches, a
returned scratch is the one in custody, and none is left when the probe ends.
-/

namespace PocketStream

open Foundation World Probe

abbrev ProbeLog := Log ProbeCall ProbeCall.Reply

abbrev ProbeEvent := (call : ProbeCall) × call.Reply

abbrev Scratch := String × Ipv4Addr

/-! ### Custody -/

/-- A bound scratch enters an empty custody, a returned one leaves it. -/
def custodyStep (held : Option Scratch) : ProbeEvent → Option (Option Scratch)
  | ⟨.bindScratch subnet scratch, bound⟩ =>
    if held = none then some (if bound then some (subnet, scratch) else none) else none
  | ⟨.releaseScratch subnet scratch, _⟩ => if held = some (subnet, scratch) then some none else none
  | ⟨.adoptPrepared subnet _ _ scratch, _⟩ =>
    if held = some (subnet, scratch) then some none else none
  | _ => some held

def custodyFrom (held : Option Scratch) (log : ProbeLog) : Option (Option Scratch) :=
  log.foldlM custodyStep held

/-- What is in custody after a log; nothing where the log breaks its rules. -/
def custody (log : ProbeLog) : Option (Option Scratch) := custodyFrom none log

def ProbeEvent.isBind : ProbeEvent → Bool
  | ⟨.bindScratch _ _, _⟩ => true
  | _ => false

/-- The scratch an event releases or hands over. -/
def ProbeEvent.returned : ProbeEvent → Option Scratch
  | ⟨.releaseScratch subnet scratch, _⟩ => some (subnet, scratch)
  | ⟨.adoptPrepared subnet _ _ scratch, _⟩ => some (subnet, scratch)
  | _ => none

/-- From each successful bind to the next bind, exactly its own scratch is returned. -/
def Linear (log : ProbeLog) : Prop :=
  ∀ l₁ subnet scratch l₂, log = l₁ ++ ⟨.bindScratch subnet scratch, true⟩ :: l₂ →
    (l₂.takeWhile fun e => !ProbeEvent.isBind e).filterMap ProbeEvent.returned = [(subnet, scratch)]

theorem custodyFrom_append (held : Option Scratch) (log log' : ProbeLog) :
    custodyFrom held (log ++ log') = (custodyFrom held log).bind (custodyFrom · log') := by
  unfold custodyFrom
  rw [List.foldlM_append]
  rfl

theorem custodyFrom_cons (held : Option Scratch) (e : ProbeEvent) (log : ProbeLog) :
    custodyFrom held (e :: log) = (custodyStep held e).bind (custodyFrom · log) := rfl

theorem custody_append (log : ProbeLog) (e : ProbeEvent) :
    custody (log ++ [e]) = (custody log).bind (custodyStep · e) := by
  unfold custody
  rw [custodyFrom_append]
  congr 1
  funext held
  rw [custodyFrom_cons]
  cases custodyStep held e <;> rfl

/-- What an event does to custody. -/
theorem custodyStep_cases {held held' : Option Scratch} {e : ProbeEvent}
    (h : custodyStep held e = some held') :
    (e.isBind = true ∧ held = none) ∨
    (∃ scratch, e.isBind = false ∧ e.returned = some scratch ∧ held = some scratch ∧ held' = none) ∨
    (e.isBind = false ∧ e.returned = none ∧ held' = held) := by
  obtain ⟨call, r⟩ := e
  cases call with
  | bindScratch subnet scratch =>
    simp only [custodyStep] at h
    split at h
    · exact .inl ⟨rfl, by assumption⟩
    · cases h
  | releaseScratch subnet scratch =>
    simp only [custodyStep] at h
    split at h
    · cases h
      exact .inr (.inl ⟨_, rfl, rfl, by assumption, rfl⟩)
    · cases h
  | adoptPrepared subnet ip mac scratch =>
    simp only [custodyStep] at h
    split at h
    · cases h
      exact .inr (.inl ⟨_, rfl, rfl, by assumption, rfl⟩)
    · cases h
  | _ =>
    cases h
    exact .inr (.inr ⟨rfl, rfl, rfl⟩)

/-- Up to the next bind, a log that ends in empty custody returns what it starts with. -/
theorem returned_of_custody {held : Option Scratch} {log : ProbeLog}
    (h : custodyFrom held log = some none) :
    (log.takeWhile fun e => !ProbeEvent.isBind e).filterMap ProbeEvent.returned =
      held.toList := by
  induction log generalizing held with
  | nil =>
    cases h
    rfl
  | cons e log ih =>
    rw [custodyFrom_cons] at h
    obtain ⟨held', hstep, hrest⟩ := Option.bind_eq_some_iff.mp h
    rcases custodyStep_cases hstep with ⟨hb, rfl⟩ | ⟨scratch, hb, hr, rfl, rfl⟩ | ⟨hb, hr, rfl⟩
    · rw [List.takeWhile_cons, hb]
      rfl
    · rw [List.takeWhile_cons, hb, Bool.not_false, if_pos rfl, List.filterMap_cons, hr, ih hrest]
      rfl
    · rw [List.takeWhile_cons, hb, Bool.not_false, if_pos rfl, List.filterMap_cons, hr, ih hrest]

/-- A log that ends in empty custody is linear. -/
theorem linear_of_custody {log : ProbeLog} (h : custody log = some none) : Linear log := by
  rintro l₁ subnet scratch l₂ rfl
  rw [custody, custodyFrom_append] at h
  obtain ⟨held, -, hrest⟩ := Option.bind_eq_some_iff.mp h
  rw [custodyFrom_cons] at hrest
  obtain ⟨held', hstep, hrest⟩ := Option.bind_eq_some_iff.mp hrest
  rw [returned_of_custody hrest]
  simp only [custodyStep, if_true] at hstep
  split at hstep
  · cases hstep
    rfl
  · cases hstep

/-! ### Probes under every answer -/

/-- Every call is answered as the outcome says; nothing else of the world matters. -/
def probeWorld : World ProbeCall ProbeCall.Reply Unit ((call : ProbeCall) → call.Reply) Unit where
  handle _ call o := (o call, ())
  interfere s _ := s

/-- The probe issues its calls in logs the guard allows, and returns in such of `Q`. -/
abbrev Does {α : Type} (guard : ProbeCall → ProbeLog → Prop) (P : ProbeLog → Prop) (x : Probe α)
    (Q : α → ProbeLog → Prop) : Prop :=
  probeWorld.logged.Triple (fun call s => guard call s.2) (fun s => P s.2) x fun a s => Q a s.2

section Rules

variable {α β : Type} {guard : ProbeCall → ProbeLog → Prop} {P P' : ProbeLog → Prop} {x : Probe α}
  {f : α → Probe β} {Q Q' : α → ProbeLog → Prop} {R : β → ProbeLog → Prop}

theorem Does.ask {call : ProbeCall} {Q : call.Reply → ProbeLog → Prop}
    (hg : ∀ log, P log → guard call log) (hr : ∀ log r, P log → Q r (log ++ [⟨call, r⟩])) :
    Does guard P (ask call) Q :=
  .perform (fun _ _ h => h) (fun s h => hg s.2 h) (fun s o h => hr s.2 (o call) h)
    fun _ _ _ h => h

theorem Does.pure {a : α} (h : ∀ log, P log → Q a log) : Does guard P (Pure.pure a : Probe α) Q :=
  .done (fun _ _ h => h) fun s hs => h s.2 hs

theorem Does.conseq (h : Does guard P x Q) (hP : ∀ log, P' log → P log)
    (hQ : ∀ a log, Q a log → Q' a log) : Does guard P' x Q' :=
  Triple.conseq h (fun s => hP s.2) fun a s => hQ a s.2

theorem Does.bind (hx : Does guard P x Q) (hf : ∀ a, Does guard (Q a) (f a) R) :
    Does guard P (x >>= f) R :=
  Triple.bind _ hx hf

/-- A fact that the assertion implies may be used to prove the rest. -/
theorem Does.given {φ : Prop} (hφ : ∀ log, P log → φ) (h : φ → Does guard P x Q) :
    Does guard P x Q := fun s hs => h (hφ s.2 hs) s hs

end Rules

/-- The calls that leave custody as it is. -/
def ProbeCall.plain : ProbeCall → Bool
  | bindScratch _ _ | releaseScratch _ _ | adoptPrepared _ _ _ _ => false
  | _ => true

theorem custody_plain {call : ProbeCall} (hc : call.plain = true) (log : ProbeLog) (r : call.Reply) :
    custody (log ++ [⟨call, r⟩]) = custody log := by
  rw [custody_append]
  cases call with
  | bindScratch | releaseScratch | adoptPrepared => cases hc
  | _ => cases custody log <;> rfl

/-- Every call but a handover is allowed while custody is in order. -/
class Permits (guard : ProbeCall → ProbeLog → Prop) : Prop where
  other : ∀ call log held, custody log = some held →
    (∀ subnet ip mac scratch, call ≠ .adoptPrepared subnet ip mac scratch) → guard call log

section Plain

variable {guard : ProbeCall → ProbeLog → Prop} [Permits guard] {P : ProbeLog → Prop}

/-- A plain call keeps custody. -/
theorem does_plain {call : ProbeCall} (hc : call.plain = true) (held : Option Scratch)
    (hP : ∀ log, P log → custody log = some held) :
    Does guard P (ask call)
      fun r log => custody log = some held ∧ ∃ l, P l ∧ log = l ++ [⟨call, r⟩] :=
  .ask (fun log h => Permits.other call log held (hP log h) fun _ _ _ _ he => by
    rw [he] at hc
    cases hc) fun log r h => ⟨(custody_plain hc log r).trans (hP log h), log, h, rfl⟩

omit [Permits guard] in
theorem does_orElse {a b : Probe Bool} (ha : Does guard P a fun _ => P)
    (hb : Does guard P b fun _ => P) : Does guard P (orElse a b) fun _ => P := by
  refine .bind ha fun stop => ?_
  split
  · exact .pure fun _ h => h
  · exact hb

theorem does_keep {call : ProbeCall} (hc : call.plain = true) (held : Option Scratch) :
    Does guard (fun log => custody log = some held) (ask call)
      fun _ log => custody log = some held :=
  (does_plain hc held fun _ h => h).conseq (fun _ h => h) fun _ _ h => h.1

theorem does_bindScratch (subnet : String) (scratch : Ipv4Addr) :
    Does guard (fun log => custody log = some none) (bindScratch subnet scratch)
      fun bound log => custody log = some (if bound then some (subnet, scratch) else none) := by
  refine .ask (fun log h => Permits.other _ log none h fun _ _ _ _ he => by cases he) ?_
  intro log r h
  rw [custody_append, h]
  simp [custodyStep]

theorem does_releaseScratch (subnet : String) (scratch : Ipv4Addr) :
    Does guard (fun log => custody log = some (some (subnet, scratch)))
      (releaseScratch subnet scratch) fun _ log => custody log = some none := by
  refine .ask (fun log h => Permits.other _ log _ h fun _ _ _ _ he => by cases he) ?_
  intro log r h
  rw [custody_append, h]
  simp [custodyStep]

end Plain

/-! ### The pass -/

/-- What makes a pass end before its candidates. -/
def Interrupted (log : ProbeLog) : Prop :=
  ⟨.interfaceIndex, (0 : UInt32)⟩ ∈ log ∨ ⟨.shutdown, true⟩ ∈ log ∨
    ∃ subnet ip mac scratch, ⟨.adoptPrepared subnet ip mac scratch, false⟩ ∈ log

/-- The pair was resolved to its cached MAC, and the fence was current right after. -/
def ResolvedCached (candidates : List ProbeCandidate) (subnet : String) (ip : Ipv4Addr)
    (mac : String) (scratch : Ipv4Addr) (log : ProbeLog) : Prop :=
  ∃ c ∈ candidates, c.subnet = subnet ∧ c.scratch = scratch ∧ (ip, mac) ∈ c.pairs ∧
    ∃ l index, log = l ++ [⟨.resolve ip scratch index, .ok (some mac)⟩, ⟨.shutdown, false⟩]

/-- Custody is in order, and a scratch is handed over only with its pair resolved. -/
structure PassGuard (candidates : List ProbeCandidate) (call : ProbeCall) (log : ProbeLog) :
    Prop where
  orderly : (custody log).isSome = true
  resolved : ∀ subnet ip mac scratch, call = .adoptPrepared subnet ip mac scratch →
    ResolvedCached candidates subnet ip mac scratch log

instance permits_passGuard (candidates : List ProbeCandidate) :
    Permits (PassGuard candidates) where
  other _ _ _ h hc := ⟨by rw [h, Option.isSome_some], fun _ _ _ _ he => absurd he (hc _ _ _ _)⟩

section Pass

variable {candidates : List ProbeCandidate} {c : ProbeCandidate}

/-- A matched pair was resolved last, to its cached MAC. -/
theorem does_matchPair (held : Option Scratch) (scratch : Ipv4Addr) (index : UInt32)
    (pairs : List (Ipv4Addr × String)) :
    Does (PassGuard candidates) (fun log => custody log = some held)
      (matchPair scratch index pairs)
      fun found log => custody log = some held ∧ ∀ ip mac, found = some (ip, mac) →
        (ip, mac) ∈ pairs ∧ ∃ l,
          log = l ++ [⟨.resolve ip scratch index, .ok (some mac)⟩, ⟨.shutdown, false⟩] := by
  induction pairs with
  | nil => exact .pure fun _ h => ⟨h, fun _ _ hf => by cases hf⟩
  | cons pair rest ih =>
    obtain ⟨ip, cachedMac⟩ := pair
    have hrest : Does (PassGuard candidates) (fun log => custody log = some held)
        (matchPair scratch index rest) fun found log => custody log = some held ∧
          ∀ ip' mac, found = some (ip', mac) → (ip', mac) ∈ (ip, cachedMac) :: rest ∧ ∃ l,
            log = l ++ [⟨.resolve ip' scratch index, .ok (some mac)⟩, ⟨.shutdown, false⟩] :=
      ih.conseq (fun _ h => h) fun _ _ h => ⟨h.1, fun ip' mac hf =>
        ⟨List.mem_cons_of_mem _ (h.2 ip' mac hf).1, (h.2 ip' mac hf).2⟩⟩
    refine .bind (does_orElse (does_keep rfl held) (does_keep rfl held)) fun stop => ?_
    split
    · exact .pure fun _ h => ⟨h, fun _ _ hf => by cases hf⟩
    · refine .bind (does_plain rfl held fun _ h => h) fun resolved => ?_
      refine .bind (does_plain rfl held fun _ h => h.1) fun stopped => ?_
      split
      · exact .pure fun _ h => ⟨h.1, fun _ _ hf => by cases hf⟩
      · next hstopped =>
        obtain rfl := Bool.eq_false_of_not_eq_true hstopped
        split
        · next freshMac =>
          split
          · next hmac =>
            refine .pure fun log h => ⟨h.1, fun ip' mac hf => ?_⟩
            cases hf
            obtain ⟨-, l, ⟨-, l', -, rfl⟩, rfl⟩ := h
            exact ⟨hmac ▸ List.mem_cons_self, l', by rw [List.append_assoc]; rfl⟩
          · exact hrest.conseq (fun _ h => h.1) fun _ _ h => h
        · exact hrest.conseq (fun _ h => h.1) fun _ _ h => h

theorem Interrupted.append {log : ProbeLog} (h : Interrupted log) (e : ProbeEvent) :
    Interrupted (log ++ [e]) := by
  rcases h with h | h | ⟨subnet, ip, mac, scratch, h⟩
  · exact .inl (List.mem_append_left _ h)
  · exact .inr (.inl (List.mem_append_left _ h))
  · exact .inr (.inr ⟨subnet, ip, mac, scratch, List.mem_append_left _ h⟩)

theorem interrupted_shutdown (log : ProbeLog) : Interrupted (log ++ [⟨.shutdown, true⟩]) :=
  .inr (.inl (List.mem_append_right _ (List.mem_singleton.mpr rfl)))

/-- The report of a settled scratch lists what was attempted and skipped before. -/
def SameAccount (report report' : PassReport) : Prop :=
  report'.attempted = report.attempted ∧ report'.skippedAtBudget = report.skippedAtBudget

theorem does_settleScratch (report : PassReport)
    (found : Option (Ipv4Addr × String)) :
    Does (PassGuard candidates)
      (fun log => custody log = some (some (c.subnet, c.scratch)) ∧
        ∀ ip mac, found = some (ip, mac) → ResolvedCached candidates c.subnet ip mac c.scratch log)
      (settleScratch c report found)
      fun r log => custody log = some none ∧ SameAccount report r.1 ∧
        (r.2 = false → Interrupted log) := by
  have hlast : ∀ report', SameAccount report report' → Does (PassGuard candidates)
      (fun log => custody log = some none) (do return (report', !(← shutdown)))
      fun r log => custody log = some none ∧ SameAccount report r.1 ∧
        (r.2 = false → Interrupted log) := fun report' hsame => by
    refine .bind (does_plain rfl none fun _ h => h) fun stopped => ?_
    refine .pure fun log h => ⟨h.1, hsame, fun hr => ?_⟩
    obtain ⟨-, l, -, rfl⟩ := h
    cases stopped with
    | true => exact interrupted_shutdown l
    | false => cases hr
  cases found with
  | none =>
    exact .bind ((does_releaseScratch _ _).conseq (fun _ h => h.1) fun _ _ h => h) fun _ =>
      hlast report ⟨rfl, rfl⟩
  | some pair =>
    obtain ⟨ip, mac⟩ := pair
    refine .bind (Q := fun keep log => custody log = some none ∧
      (keep = false → Interrupted log)) (.ask ?_ ?_) fun keep => ?_
    · refine fun log h => ⟨by rw [h.1]; rfl, fun _ _ _ _ he => ?_⟩
      cases he
      exact h.2 ip mac rfl
    · intro log r h
      refine ⟨?_, fun hr => .inr (.inr ⟨_, _, _, _, List.mem_append_right _
        (List.mem_singleton.mpr (by rw [hr]))⟩)⟩
      rw [custody_append, h.1]
      simp [custodyStep]
    · refine .bind (does_plain rfl none fun _ h => h.1) fun stopped => ?_
      have hsame : SameAccount report (if stopped = true then report
          else { report with handedOff := report.handedOff ++ [c.subnet] }) := by
        split <;> exact ⟨rfl, rfl⟩
      dsimp only
      split
      · next hkeep =>
        refine .pure fun log h => ⟨h.1, hsame, fun _ => ?_⟩
        obtain ⟨-, l, ⟨-, hi⟩, rfl⟩ := h
        exact (hi (by simpa using hkeep)).append _
      · exact (hlast _ hsame).conseq (fun _ h => h.1) fun _ _ h => h

theorem does_probeCandidate (hmem : c ∈ candidates) (index : UInt32) (report : PassReport) :
    Does (PassGuard candidates) (fun log => custody log = some none)
      (probeCandidate index c report)
      fun r log => custody log = some none ∧
        SameAccount { report with attempted := report.attempted ++ [c.subnet] } r.1 ∧
        (r.2 = false → Interrupted log) := by
  refine .bind (does_bindScratch c.subnet c.scratch) fun bound => ?_
  cases bound with
  | false => exact .pure fun _ h => ⟨h, ⟨rfl, rfl⟩, fun hr => by cases hr⟩
  | true =>
    refine .bind (does_matchPair _ c.scratch index c.pairs) fun found => ?_
    refine (does_settleScratch _ found).conseq (fun log h => ⟨h.1, fun ip mac hf => ?_⟩)
      fun _ _ h => h
    obtain ⟨hpair, l, hl⟩ := h.2 ip mac hf
    exact ⟨c, hmem, rfl, rfl, hpair, l, index, hl⟩

/-- The report accounts for a first part of the candidates, in order: for all of them unless
the pass was interrupted. -/
def Accounts (before : List String) (subnets : List String) (report : PassReport)
    (log : ProbeLog) : Prop :=
  ∃ part, part <+: subnets ∧ report.attempted ++ report.skippedAtBudget = before ++ part ∧
    (part = subnets ∨ Interrupted log)

theorem does_probeCandidates (index : UInt32) (rest : List ProbeCandidate) :
    ∀ report : PassReport, (∀ c ∈ rest, c ∈ candidates) → report.skippedAtBudget = [] →
      Does (PassGuard candidates) (fun log => custody log = some none)
        (probeCandidates index report rest)
        fun report' log => custody log = some none ∧
          Accounts report.attempted (rest.map (·.subnet)) report' log := by
  induction rest with
  | nil =>
    exact fun report _ hskip => .pure fun _ h =>
      ⟨h, [], List.prefix_refl _, by rw [hskip], .inl rfl⟩
  | cons c rest ih =>
    intro report hmem hskip
    refine .bind (does_plain rfl none fun _ h => h) fun stopped => ?_
    split
    · next hstopped =>
      refine .pure fun log h => ⟨h.1, [], List.nil_prefix, by rw [hskip], .inr ?_⟩
      obtain ⟨-, l, -, rfl⟩ := h
      rw [hstopped]
      exact interrupted_shutdown l
    · refine .bind (does_plain rfl none fun _ h => h.1) fun passed => ?_
      split
      · exact .pure fun _ h => ⟨h.1, _, List.prefix_refl _, by rw [hskip]; rfl, .inl rfl⟩
      · refine .bind ((does_probeCandidate (hmem c List.mem_cons_self) index report).conseq
          (fun _ h => h.1) fun _ _ h => h) fun r => ?_
        obtain ⟨report', more⟩ := r
        dsimp only
        refine .given (φ := SameAccount { report with
          attempted := report.attempted ++ [c.subnet] } report') (fun _ h => h.2.1) fun hsame => ?_
        obtain ⟨hatt, hskip'⟩ := hsame
        split
        · refine (ih report' (fun c' hc' => hmem c' (List.mem_cons_of_mem _ hc'))
            (hskip'.trans hskip)).conseq (fun _ h => h.1) fun final log h => ⟨h.1, ?_⟩
          obtain ⟨part, hpart, hsum, hall⟩ := h.2
          refine ⟨c.subnet :: part, List.cons_prefix_cons.mpr ⟨rfl, hpart⟩, ?_, ?_⟩
          · rw [hsum, hatt, List.append_assoc]
            rfl
          · exact hall.imp (fun h => by rw [h]; rfl) id
        · next hmore =>
          refine .pure fun log h => ⟨h.1, [c.subnet], ?_, ?_, .inr (h.2.2 (by simpa using hmore))⟩
          · exact List.cons_prefix_cons.mpr ⟨rfl, List.nil_prefix⟩
          · rw [hatt, hskip', hskip, List.append_nil]

theorem does_runPass (candidates : List ProbeCandidate) :
    Does (PassGuard candidates) (fun log => log = []) (runPass candidates)
      fun report log => custody log = some none ∧
        Accounts [] (candidates.map (·.subnet)) report log := by
  refine .bind (does_plain rfl none fun log h => h ▸ rfl) fun index => ?_
  split
  · next hindex =>
    refine .pure fun log h => ⟨h.1, [], List.nil_prefix, rfl, .inr (.inl ?_)⟩
    obtain ⟨-, l, -, rfl⟩ := h
    exact List.mem_append_right _ (List.mem_singleton.mpr (by rw [hindex]))
  · exact (does_probeCandidates index candidates {} (fun _ hc => hc) rfl).conseq (fun _ h => h.1)
      fun _ _ h => h

end Pass

/-- Whatever the calls of a pass answer, custody stays in order; a scratch is handed over only
with its pair just resolved to the cached MAC and the fence current after that; and a pass that
returns has returned every scratch once and reports the candidates in order, all of them unless
it was interrupted. -/
theorem runPass_linear (candidates : List ProbeCandidate)
    (moves : List (Move ((call : ProbeCall) → call.Reply) Unit)) :
    let c := probeWorld.logged.run (((), []), runPass candidates) moves
    (custody c.1.2).isSome = true ∧
    (∀ subnet ip mac scratch next, c.2 = .request (.adoptPrepared subnet ip mac scratch) next →
      ResolvedCached candidates subnet ip mac scratch c.1.2) ∧
    ∀ report, c.2 = .done report → Linear c.1.2 ∧
      report.attempted ++ report.skippedAtBudget <+: candidates.map (·.subnet) ∧
      (¬ Interrupted c.1.2 →
        report.attempted ++ report.skippedAtBudget = candidates.map (·.subnet)) := by
  intro c
  have hrun : probeWorld.logged.Safe (fun call s => PassGuard candidates call s.2)
      (fun report s => custody s.2 = some none ∧
        Accounts [] (candidates.map (·.subnet)) report s.2) c.2 c.1 :=
    Safe.run (c := (((), []), runPass candidates)) (does_runPass candidates ((), []) rfl) moves
  clear_value c
  obtain ⟨⟨u, log⟩, p⟩ := c
  cases p with
  | request call next =>
    have hguard := hrun.issued
    refine ⟨hguard.orderly, fun subnet ip mac scratch next' he => ?_, fun report he => by cases he⟩
    cases he
    exact hguard.resolved subnet ip mac scratch rfl
  | done report =>
    obtain ⟨hcustody, part, hpart, hsum, hall⟩ := hrun.returned
    refine ⟨by rw [hcustody, Option.isSome_some], fun _ _ _ _ _ he => (by cases he),
      fun report' he => ?_⟩
    cases he
    refine ⟨linear_of_custody hcustody, hsum ▸ hpart, fun hint => ?_⟩
    exact hsum.trans (hall.resolve_right hint)

/-! ### The verification -/

/-- Custody is in order, and a scratch is handed over only with the job just resolved. -/
structure VerifyGuard (job : Job) (snapshot : PresenceSnapshot) (call : ProbeCall)
    (log : ProbeLog) : Prop where
  orderly : (custody log).isSome = true
  resolved : ∀ subnet ip mac scratch, call = .adoptPrepared subnet ip mac scratch →
    ip = job.ip ∧ ∃ l text, canonicalMac text = some mac ∧
      log = l ++ [⟨.resolve ip scratch snapshot.index, .ok (some text)⟩, ⟨.shutdown, false⟩,
        ⟨.fenceStale, false⟩]

instance permits_verifyGuard (job : Job) (snapshot : PresenceSnapshot) :
    Permits (VerifyGuard job snapshot) where
  other _ _ _ h hc := ⟨by rw [h, Option.isSome_some], fun _ _ _ _ he => absurd he (hc _ _ _ _)⟩

section Verify

variable {job : Job} {snapshot : PresenceSnapshot}

/-- What a verification holds in custody. -/
def Job.held (job : Job) : Option Scratch :=
  if job.foreign then some (subnetKeyFor job.ip, job.scratch) else none

theorem does_retired {guard : ProbeCall → ProbeLog → Prop} [Permits guard]
    (held : Option Scratch) :
    Does guard (fun log => custody log = some held) retired fun _ log => custody log = some held :=
  does_orElse (does_keep rfl held) (does_keep rfl held)

/-- A current fence was read right before. -/
theorem does_current {guard : ProbeCall → ProbeLog → Prop} [Permits guard] {P : ProbeLog → Prop}
    (held : Option Scratch) (hP : ∀ log, P log → custody log = some held) :
    Does guard P retired fun stopped log => custody log = some held ∧ (stopped = false →
      ∃ l, P l ∧ log = l ++ [⟨.shutdown, false⟩, ⟨.fenceStale, false⟩]) := by
  refine .bind (does_plain rfl held hP) fun stopped => ?_
  split
  · exact .pure fun _ h => ⟨h.1, fun hf => by cases hf⟩
  · next hstopped =>
    obtain rfl := Bool.eq_false_of_not_eq_true hstopped
    refine (does_plain rfl held fun _ h => h.1).conseq (fun _ h => h) fun stale log h =>
      ⟨h.1, fun hstale => ?_⟩
    obtain ⟨-, l, ⟨-, l', hl', rfl⟩, rfl⟩ := h
    exact ⟨l', hl', by rw [hstale, List.append_assoc]; rfl⟩

theorem does_resolveJob : Does (VerifyGuard job snapshot) (fun log => custody log = some job.held)
    (resolveJob job snapshot)
    fun found log => custody log = some job.held ∧ ∀ mac, found = some mac → ∃ l text,
      canonicalMac text = some mac ∧
        log = l ++ [⟨.resolve job.ip job.scratch snapshot.index, .ok (some text)⟩] := by
  refine .bind (does_retired _) fun stopped => ?_
  split
  · exact .pure fun _ h => ⟨h, fun _ hf => by cases hf⟩
  · refine .bind (does_plain rfl job.held fun _ h => h) fun resolved => .pure fun log h => ?_
    obtain ⟨hcustody, l, -, rfl⟩ := h
    refine ⟨hcustody, fun mac hf => ?_⟩
    obtain ⟨text, htext, hmac⟩ := Option.bind_eq_some_iff.mp hf
    cases resolved with
    | error e => cases htext
    | ok answer =>
      obtain rfl : answer = some text := htext
      exact ⟨l, text, hmac, rfl⟩

theorem does_proveJob (mac : String) :
    Does (VerifyGuard job snapshot) (fun log => custody log = some none) (proveJob job mac)
      fun _ log => custody log = some none := by
  refine .bind (does_orElse (does_retired none) (does_keep rfl none)) fun late => ?_
  split <;> exact .pure fun _ h => h

theorem does_concludeJob (found : Option String) :
    Does (VerifyGuard job snapshot)
      (fun log => custody log = some job.held ∧ ∀ mac, found = some mac → ∃ l text,
        canonicalMac text = some mac ∧
          log = l ++ [⟨.resolve job.ip job.scratch snapshot.index, .ok (some text)⟩])
      (concludeJob job found) fun _ log => custody log = some none := by
  refine .bind (does_current job.held fun _ h => h.1) fun stopped => ?_
  split
  · next mac =>
    split
    · next hforeign =>
      have hheld : job.held = some (subnetKeyFor job.ip, job.scratch) := if_pos hforeign
      refine .bind (Q := fun _ log => custody log = some none) (.ask ?_ ?_) fun keep => ?_
      · refine fun log h => ⟨by rw [h.1, Option.isSome_some], fun _ _ _ _ he => ?_⟩
        cases he
        obtain ⟨-, hcurrent⟩ := h
        obtain ⟨l, ⟨-, hresolved⟩, rfl⟩ := hcurrent rfl
        obtain ⟨l', text, hmac, rfl⟩ := hresolved mac rfl
        exact ⟨rfl, l', text, hmac, by rw [List.append_assoc]; rfl⟩
      · intro log r h
        rw [custody_append, h.1, hheld]
        simp [custodyStep]
      · split
        · exact does_proveJob mac
        · exact .pure fun _ h => h
    · next hforeign =>
      have hheld : job.held = none := if_neg hforeign
      exact (does_proveJob mac).conseq (fun _ h => hheld ▸ h.1) fun _ _ h => h
  · split
    · next hforeign =>
      have hheld : job.held = some (subnetKeyFor job.ip, job.scratch) := if_pos hforeign
      exact .bind ((does_releaseScratch _ _).conseq (fun _ h => hheld ▸ h.1) fun _ _ h => h)
        fun _ => .pure fun _ h => h
    · next hforeign =>
      have hheld : job.held = none := if_neg hforeign
      exact .pure fun _ h => hheld ▸ h.1

theorem does_verify (job : Job) (snapshot : PresenceSnapshot) :
    Does (VerifyGuard job snapshot) (fun log => log = []) (verify job snapshot)
      fun _ log => custody log = some none := by
  have hconclude : Does (VerifyGuard job snapshot) (fun log => custody log = some job.held)
      (resolveAndConclude job snapshot) fun _ log => custody log = some none :=
    .bind does_resolveJob does_concludeJob
  have hkeep : ∀ found : Option Proof, Does (VerifyGuard job snapshot)
      (fun log => custody log = some none) (Pure.pure found) fun _ log => custody log = some none :=
    fun _ => .pure fun _ h => h
  refine .bind ((does_retired none).conseq (fun _ h => h ▸ rfl) fun _ _ h => h) fun stopped => ?_
  split
  · exact hkeep none
  refine .bind (does_keep rfl none) fun index => ?_
  split
  · exact hkeep none
  split
  · exact hkeep none
  split
  · next hforeign =>
    refine .bind (does_bindScratch _ _) fun bound => ?_
    split
    · refine hconclude.conseq (fun log h => ?_) fun _ _ h => h
      rw [h, Job.held, if_pos hforeign]
    · exact hkeep none
  · next hforeign =>
    refine hconclude.conseq (fun log h => ?_) fun _ _ h => h
    rw [h, Job.held, if_neg hforeign]

end Verify

/-- A verification returns its scratch once, and hands it over only with the device just
resolved to the MAC and the fence current after that. -/
theorem verify_linear (job : Job) (snapshot : PresenceSnapshot)
    (moves : List (Move ((call : ProbeCall) → call.Reply) Unit)) :
    let c := probeWorld.logged.run (((), []), verify job snapshot) moves
    (∀ call next, c.2 = .request call next → VerifyGuard job snapshot call c.1.2) ∧
    ∀ proof, c.2 = .done proof → Linear c.1.2 := by
  intro c
  have hrun : probeWorld.logged.Safe (fun call s => VerifyGuard job snapshot call s.2)
      (fun _ s => custody s.2 = some none) c.2 c.1 :=
    Safe.run (c := (((), []), verify job snapshot)) (does_verify job snapshot ((), []) rfl) moves
  refine ⟨fun call next hc => ?_, fun proof hc => ?_⟩
  · rw [hc] at hrun
    exact hrun.issued
  · rw [hc] at hrun
    exact linear_of_custody hrun.returned

/-- The fence goes stale right away. -/
def staleAnswers : (call : ProbeCall) → call.Reply
  | .interfaceIndex => (7 : UInt32)
  | .bindScratch _ _ => true
  | .releaseScratch _ _ => ()
  | .resolve _ _ _ => .ok none
  | .adoptPrepared _ _ _ _ => true
  | .shutdown => true
  | .fenceStale => true
  | .deadlinePassed => false

def cachedCamera : ProbeCandidate where
  subnet := "192.168.5.0/24"
  pairs := [(⟨192, 168, 5, 20⟩, "02:00:00:00:00:01")]
  nonempty := by decide

/-- A stop before the first candidate leaves it neither attempted nor skipped. -/
theorem stopped_pass_drops_candidates :
    ¬ ∀ report, (probeWorld.logged.run (((), []), runPass [cachedCamera])
        [.reply staleAnswers, .reply staleAnswers]).2 = .done report →
      report.attempted ++ report.skippedAtBudget = [cachedCamera.subnet] := by
  intro h
  cases h {} rfl

end PocketStream
