import PocketStream.Address.Octets
import PocketStream.Foundation.Expiry
import PocketStream.Foundation.History

/-! # Transient candidates

Captures note the peers they see in one shared set, which forgets them by age and holds a
bounded number. A snapshot is what was accepted since the set was cleared and is neither old
nor evicted, by its newest time.
-/

namespace PocketStream

open Foundation

/-- `CANDIDATE_TTL`; times are nanoseconds. -/
def candidateTtl : ℕ := 30 * 10 ^ 9

/-- `MAX_CANDIDATES` -/
def maxCandidates : ℕ := 1024

structure CandidateKey where
  interfaceIndex : UInt32
  adapterMac : MacBytes
  ip : Ipv4Addr
  mac : MacBytes
  deriving DecidableEq

abbrev CandidateSet := FiniteMap CandidateKey ℕ

/-- The adapter that a capture is bound to. -/
structure CandidateIngress where
  interfaceIndex : UInt32
  adapterMac : MacBytes
  deriving DecidableEq

namespace MacBytes

def zero : MacBytes := ⟨0, 0, 0, 0, 0, 0⟩

/-- All zero, or with the group bit. -/
def notUnicast (mac : MacBytes) : Bool := mac == zero || mac.b0.toNat % 2 != 0

end MacBytes

namespace CandidateIngress

def key (ingress : CandidateIngress) (ip : Ipv4Addr) (mac : MacBytes) : CandidateKey :=
  ⟨ingress.interfaceIndex, ingress.adapterMac, ip, mac⟩

/-- Why an observation is refused; `stale` is what its fence says. -/
def refusal (ingress : CandidateIngress) (ip : Ipv4Addr) (mac : MacBytes) (stale : Bool) :
    Option String :=
  if stale then some "stale_fence"
  else if ingress.interfaceIndex = 0 then some "missing_index"
  else if prohibitedCameraIp ip then some "prohibited_ip"
  else if mac.notUnicast then some "invalid_peer_mac"
  else if mac = ingress.adapterMac then some "own_mac"
  else if ingress.adapterMac.notUnicast then some "invalid_adapter_mac"
  else none

theorem refusal_eq_none {ingress : CandidateIngress} {ip : Ipv4Addr} {mac : MacBytes}
    {stale : Bool} : ingress.refusal ip mac stale = none ↔
      stale = false ∧ ingress.interfaceIndex ≠ 0 ∧ prohibitedCameraIp ip = false ∧
        mac.notUnicast = false ∧ mac ≠ ingress.adapterMac ∧
        ingress.adapterMac.notUnicast = false := by
  unfold refusal
  split_ifs <;> simp_all

end CandidateIngress

/-! ## The shared set -/

/-- The calls of all captures and of the reader; `order` is how the map is visited. -/
inductive CandidateCall where
  | observe (ingress : CandidateIngress) (ip : Ipv4Addr) (mac : MacBytes) (stale : Bool) (now : ℕ)
      (order : OldestFirst CandidateKey)
  | snapshot (now : ℕ)
  | count (now : ℕ)
  | clear

/-- What a call answers, and what an accepted observation displaced. -/
inductive CandidateReply where
  | refused (reason : String)
  | accepted (evicted : Option CandidateKey)
  | candidates (entries : CandidateSet)
  | count (n : ℕ)
  | cleared

namespace CandidateSet

/-- The entries that are not expired. -/
def unexpired (entries : CandidateSet) (now : ℕ) : CandidateSet :=
  FiniteMap.retain (fun _ seen => young candidateTtl now seen) entries

def observe (entries : CandidateSet) (ingress : CandidateIngress) (ip : Ipv4Addr) (mac : MacBytes)
    (stale : Bool) (now : ℕ) (order : OldestFirst CandidateKey) :
    CandidateReply × CandidateSet :=
  match ingress.refusal ip mac stale with
  | some reason => (.refused reason, entries)
  | none =>
    let r := FiniteMap.touch maxCandidates candidateTtl order entries (ingress.key ip mac) now
    (.accepted r.1, r.2)

def snapshot (entries : CandidateSet) (now : ℕ) : CandidateReply × CandidateSet :=
  (.candidates (entries.unexpired now), entries.unexpired now)

def count (entries : CandidateSet) (now : ℕ) : CandidateReply × CandidateSet :=
  (.count (entries.unexpired now).keys.card, entries.unexpired now)

end CandidateSet

def candidateSet : Component CandidateSet CandidateCall CandidateReply where
  initial := ∅
  answer entries
    | .observe ingress ip mac stale now order => entries.observe ingress ip mac stale now order
    | .snapshot now => entries.snapshot now
    | .count now => entries.count now
    | .clear => (.cleared, ∅)

abbrev CandidateHistory := List (CandidateCall × CandidateReply)

namespace CandidateCall

def time : CandidateCall → Option ℕ
  | observe _ _ _ _ now _ => some now
  | snapshot now => some now
  | count now => some now
  | clear => none

end CandidateCall

/-- A capture whose fence was not stale had an observation of the peer accepted at the time. -/
def AcceptedAt (key : CandidateKey) (t : ℕ) (e : CandidateCall × CandidateReply) : Prop :=
  ∃ ingress ip mac order evicted, e = (.observe ingress ip mac false t order,
    .accepted evicted) ∧ ingress.key ip mac = key

/-- The entry displaced the peer, or all of them. -/
def Drops (key : CandidateKey) (e : CandidateCall × CandidateReply) : Prop :=
  e.2 = .accepted (some key) ∨ e.1 = .clear

/-- The last accepted observation of the peer was at the time and nothing dropped it since. -/
def LastSeen (key : CandidateKey) (h : CandidateHistory) (t : ℕ) : Prop :=
  ∃ before e after, h = before ++ e :: after ∧ AcceptedAt key t e ∧
    ∀ e ∈ after, (∀ t, ¬ AcceptedAt key t e) ∧ ¬ Drops key e

theorem lastSeen_concat {key : CandidateKey} {h : CandidateHistory}
    {e : CandidateCall × CandidateReply} {t : ℕ} :
    LastSeen key (h ++ [e]) t ↔ AcceptedAt key t e ∨
      (∀ t, ¬ AcceptedAt key t e) ∧ ¬ Drops key e ∧ LastSeen key h t := by
  constructor
  · rintro ⟨before, e', after, heq, haccepted, hafter⟩
    rcases append_cons_eq_concat.mp heq with ⟨rfl, rfl, rfl⟩ | ⟨rest, rfl, rfl⟩
    · exact .inl haccepted
    · rw [List.forall_mem_append, List.forall_mem_singleton] at hafter
      obtain ⟨hrest, hnot, hdrops⟩ := hafter
      exact .inr ⟨hnot, hdrops, before, e', rest, rfl, haccepted, hrest⟩
  · rintro (haccepted | ⟨hnot, hdrops, before, e', rest, rfl, haccepted, hrest⟩)
    · exact ⟨h, e, [], rfl, haccepted, fun e he => absurd he List.not_mem_nil⟩
    · refine ⟨before, e', rest ++ [e], by simp, haccepted, ?_⟩
      rw [List.forall_mem_append, List.forall_mem_singleton]
      exact ⟨hrest, hnot, hdrops⟩

/-! ## One call -/

section answers

variable (entries : CandidateSet)

theorem observe_refused {ingress : CandidateIngress} {ip : Ipv4Addr} {mac : MacBytes} {stale : Bool}
    {now : ℕ} {order : OldestFirst CandidateKey} {reason : String}
    (h : ingress.refusal ip mac stale = some reason) :
    candidateSet.answer entries (.observe ingress ip mac stale now order) =
      (.refused reason, entries) := by
  change entries.observe ingress ip mac stale now order = _
  rw [CandidateSet.observe, h]

theorem observe_accepted {ingress : CandidateIngress} {ip : Ipv4Addr} {mac : MacBytes} {stale : Bool}
    {now : ℕ} {order : OldestFirst CandidateKey} (h : ingress.refusal ip mac stale = none) :
    candidateSet.answer entries (.observe ingress ip mac stale now order) =
      (.accepted (FiniteMap.touch maxCandidates candidateTtl order entries
          (ingress.key ip mac) now).1,
        (FiniteMap.touch maxCandidates candidateTtl order entries (ingress.key ip mac) now).2) := by
  change entries.observe ingress ip mac stale now order = _
  rw [CandidateSet.observe, h]

theorem answer_snapshot (now : ℕ) : candidateSet.answer entries (.snapshot now) =
    (.candidates (entries.unexpired now), entries.unexpired now) := rfl

theorem answer_count (now : ℕ) : candidateSet.answer entries (.count now) =
    (.count (entries.unexpired now).keys.card, entries.unexpired now) := rfl

theorem answer_clear : candidateSet.answer entries .clear = (.cleared, ∅) := rfl

theorem card_unexpired_le (now : ℕ) : (entries.unexpired now).keys.card ≤ entries.keys.card :=
  Finset.card_le_card (FiniteMap.keys_retain_subset _ entries)

theorem lookup_unexpired (now : ℕ) (key : CandidateKey) :
    (entries.unexpired now).lookup key = (entries.lookup key).filter (young candidateTtl now) := by
  rw [CandidateSet.unexpired, FiniteMap.lookup_retain]

end answers

/-- The set never outgrows its bound. -/
theorem card_candidates_le (calls : List CandidateCall) :
    (candidateSet.after calls).keys.card ≤ maxCandidates := by
  induction calls using List.reverseRecOn with
  | nil => exact Nat.zero_le _
  | append_singleton calls call ih =>
    rw [Component.after_concat]
    generalize candidateSet.after calls = entries at ih
    cases call with
    | observe ingress ip mac stale now order =>
      cases h : ingress.refusal ip mac stale with
      | some reason =>
        rw [observe_refused entries h]
        exact ih
      | none =>
        rw [observe_accepted entries h]
        exact FiniteMap.card_touch_le (by decide) ih
    | snapshot now => exact (card_unexpired_le entries now).trans ih
    | count now => exact (card_unexpired_le entries now).trans ih
    | clear => exact Nat.zero_le _

/-- Every key of the set could have been accepted. -/
theorem admissible_of_lookup (calls : List CandidateCall) {key : CandidateKey} {t : ℕ}
    (h : (candidateSet.after calls).lookup key = some t) :
    key.interfaceIndex ≠ 0 ∧ prohibitedCameraIp key.ip = false ∧ key.mac.notUnicast = false ∧
      key.mac ≠ key.adapterMac := by
  induction calls using List.reverseRecOn generalizing t with
  | nil => cases h
  | append_singleton calls call ih =>
    rw [Component.after_concat] at h
    generalize candidateSet.after calls = entries at ih h
    cases call with
    | observe ingress ip mac stale now order =>
      cases hr : ingress.refusal ip mac stale with
      | some reason =>
        rw [observe_refused entries hr] at h
        exact ih h
      | none =>
        rw [observe_accepted entries hr] at h
        dsimp only at h
        rw [FiniteMap.lookup_touch] at h
        split at h
        · next hkey =>
          obtain ⟨-, hindex, hip, hmac, hown, -⟩ := CandidateIngress.refusal_eq_none.mp hr
          rw [hkey]
          exact ⟨hindex, hip, hmac, hown⟩
        · split at h
          · cases h
          · exact ih (Option.filter_eq_some_iff.mp h).1
    | snapshot now =>
      rw [answer_snapshot, lookup_unexpired] at h
      exact ih (Option.filter_eq_some_iff.mp h).1
    | count now =>
      rw [answer_count, lookup_unexpired] at h
      exact ih (Option.filter_eq_some_iff.mp h).1
    | clear => cases h

/-! ## What a snapshot returns -/

theorem lastSeen_quiet {key : CandidateKey} {h : CandidateHistory}
    {e : CandidateCall × CandidateReply} {t : ℕ} (hnot : ∀ t, ¬ AcceptedAt key t e)
    (hdrops : ¬ Drops key e) : LastSeen key (h ++ [e]) t ↔ LastSeen key h t := by
  rw [lastSeen_concat]
  constructor
  · rintro (haccepted | ⟨-, -, hlast⟩)
    · exact absurd haccepted (hnot t)
    · exact hlast
  · exact fun hlast => .inr ⟨hnot, hdrops, hlast⟩

theorem not_lastSeen_drops {key : CandidateKey} {h : CandidateHistory}
    {e : CandidateCall × CandidateReply} {t : ℕ} (hnot : ∀ t, ¬ AcceptedAt key t e)
    (hdrops : Drops key e) : ¬ LastSeen key (h ++ [e]) t := by
  rw [lastSeen_concat]
  rintro (haccepted | ⟨-, hkept, -⟩)
  · exact hnot t haccepted
  · exact hkept hdrops

theorem not_acceptedAt {key : CandidateKey} {e : CandidateCall × CandidateReply}
    (h : ∀ evicted, e.2 ≠ .accepted evicted) (t : ℕ) : ¬ AcceptedAt key t e := by
  rintro ⟨ingress, ip, mac, order, evicted, rfl, -⟩
  exact h evicted rfl

theorem acceptedAt_observe {key : CandidateKey} {t t₀ : ℕ} {ingress : CandidateIngress}
    {ip : Ipv4Addr} {mac : MacBytes} {order : OldestFirst CandidateKey}
    {evicted : Option CandidateKey} :
    AcceptedAt key t (.observe ingress ip mac false t₀ order, .accepted evicted) ↔
      t = t₀ ∧ key = ingress.key ip mac := by
  constructor
  · rintro ⟨_, _, _, _, _, he, rfl⟩
    obtain ⟨hcall, -⟩ := Prod.mk.inj he
    obtain ⟨rfl, rfl, rfl, -, rfl, -⟩ := CandidateCall.observe.inj hcall
    exact ⟨rfl, rfl⟩
  · rintro ⟨rfl, rfl⟩
    exact ⟨ingress, ip, mac, order, evicted, rfl, rfl⟩

/-- At any time from the last call on, the set holds just what was last seen and is young. -/
theorem unexpired_after {calls : List CandidateCall} (key : CandidateKey) {t now : ℕ}
    (hnow : ∀ t ∈ calls.filterMap CandidateCall.time, t ≤ now) :
    ((candidateSet.after calls).lookup key).filter (young candidateTtl now) = some t ↔
      LastSeen key (candidateSet.history calls) t ∧ young candidateTtl now t = true := by
  induction calls using List.reverseRecOn with
  | nil => simp [LastSeen, candidateSet]
  | append_singleton calls call ih =>
    rw [List.filterMap_append, List.forall_mem_append] at hnow
    have ih := ih hnow.1
    have htime : ∀ t₀, call.time = some t₀ → t₀ ≤ now := fun t₀ ht₀ =>
      hnow.2 t₀ (by simp [ht₀])
    rw [Component.after_concat, Component.history_concat, Component.reply]
    generalize candidateSet.after calls = entries at ih
    cases call with
    | observe ingress ip mac stale t₀ order =>
      cases hr : ingress.refusal ip mac stale with
      | some reason =>
        rw [observe_refused entries hr, lastSeen_quiet (not_acceptedAt (by simp)) (by simp [Drops])]
        exact ih
      | none =>
        obtain ⟨rfl, -⟩ := CandidateIngress.refusal_eq_none.mp hr
        rw [observe_accepted entries hr]
        dsimp only
        rw [FiniteMap.lookup_touch]
        by_cases hkey : key = ingress.key ip mac
        · have haccepted : ∀ t, AcceptedAt key t (.observe ingress ip mac false t₀ order,
              .accepted (FiniteMap.touch maxCandidates candidateTtl order entries
                (ingress.key ip mac) t₀).1) ↔ t = t₀ := fun t =>
            acceptedAt_observe.trans (and_iff_left hkey)
          rw [if_pos hkey, lastSeen_concat, haccepted, Option.filter_eq_some_iff]
          constructor
          · rintro ⟨ht, hyoung⟩
            exact ⟨.inl (Option.some.inj ht).symm, hyoung⟩
          · rintro ⟨ht | ⟨hnot, -⟩, hyoung⟩
            · exact ⟨congrArg some ht.symm, hyoung⟩
            · exact absurd ((haccepted t₀).mpr rfl) (hnot t₀)
        · have hnot : ∀ t, ¬ AcceptedAt key t (.observe ingress ip mac false t₀ order,
              .accepted (FiniteMap.touch maxCandidates candidateTtl order entries
                (ingress.key ip mac) t₀).1) := fun t h => hkey (acceptedAt_observe.mp h).2
          rw [if_neg hkey]
          split
          · next hevicted =>
            have hlost := not_lastSeen_drops (h := candidateSet.history calls) (t := t) hnot
              (.inl (congrArg CandidateReply.accepted hevicted))
            exact iff_of_false (by simp) fun h => hlost h.1
          · next hkept =>
            have hdrops : ¬ Drops key (.observe ingress ip mac false t₀ order,
                .accepted (FiniteMap.touch maxCandidates candidateTtl order entries
                  (ingress.key ip mac) t₀).1) := by
              rintro (hevicted | hclear)
              · exact hkept (CandidateReply.accepted.inj hevicted)
              · cases hclear
            rw [lastSeen_quiet hnot hdrops, ← ih]
            exact iff_of_eq (congrArg (· = some t) (filter_young_of_le (f := id) (htime t₀ rfl)))
    | snapshot t₀ =>
      rw [answer_snapshot, lastSeen_quiet (not_acceptedAt (by simp)) (by simp [Drops])]
      dsimp only
      rw [lookup_unexpired, ← ih]
      exact iff_of_eq (congrArg (· = some t) (filter_young_of_le (f := id) (htime t₀ rfl)))
    | count t₀ =>
      rw [answer_count, lastSeen_quiet (not_acceptedAt (by simp)) (by simp [Drops])]
      dsimp only
      rw [lookup_unexpired, ← ih]
      exact iff_of_eq (congrArg (· = some t) (filter_young_of_le (f := id) (htime t₀ rfl)))
    | clear =>
      rw [answer_clear]
      have hnot : ¬ LastSeen key (candidateSet.history calls ++ [(.clear, .cleared)]) t :=
        not_lastSeen_drops (not_acceptedAt (by simp)) (.inr rfl)
      simp [hnot]

/-- An accepted observation displaces an oldest peer of a full set, and no other. -/
theorem evicted_oldest {calls : List CandidateCall} {ingress : CandidateIngress} {ip : Ipv4Addr}
    {mac : MacBytes} {stale : Bool} {now : ℕ} {order : OldestFirst CandidateKey}
    {key : CandidateKey}
    (h : candidateSet.reply calls (.observe ingress ip mac stale now order) =
      .accepted (some key)) :
    ((candidateSet.after calls).unexpired now).keys.card = maxCandidates ∧
      ((candidateSet.after calls).unexpired now).IsOldest key := by
  rw [Component.reply] at h
  cases hr : ingress.refusal ip mac stale with
  | some reason =>
    rw [observe_refused _ hr] at h
    cases h
  | none =>
    rw [observe_accepted _ hr] at h
    obtain ⟨hfull, -, holdest⟩ := FiniteMap.victim_eq_some (CandidateReply.accepted.inj h)
    have hle := (card_unexpired_le (candidateSet.after calls) now).trans (card_candidates_le calls)
    exact ⟨le_antisymm hle hfull, holdest⟩

theorem accepted_iff {calls : List CandidateCall} {ingress : CandidateIngress} {ip : Ipv4Addr}
    {mac : MacBytes} {stale : Bool} {now : ℕ} {order : OldestFirst CandidateKey} :
    (∃ evicted, candidateSet.reply calls (.observe ingress ip mac stale now order) =
        .accepted evicted) ↔ ingress.refusal ip mac stale = none := by
  rw [Component.reply]
  cases hr : ingress.refusal ip mac stale with
  | some reason => simp [observe_refused _ hr]
  | none => simp [observe_accepted _ hr]

/-- The set is bounded, a snapshot is what was last seen, young, neither evicted nor cleared,
and room is made only in a full set. -/
theorem candidateSet_law (calls : List CandidateCall) :
    (candidateSet.after calls).keys.card ≤ maxCandidates ∧
    (∀ now, Nondecreasing CandidateCall.time (calls ++ [.snapshot now]) →
      ∃ entries, candidateSet.reply calls (.snapshot now) = .candidates entries ∧
        ∀ key t, entries.lookup key = some t ↔
          LastSeen key (candidateSet.history calls) t ∧ now < t + candidateTtl) ∧
    (∀ ingress ip mac stale now order key,
      candidateSet.reply calls (.observe ingress ip mac stale now order) = .accepted (some key) →
        ((candidateSet.after calls).unexpired now).keys.card = maxCandidates ∧
          ((candidateSet.after calls).unexpired now).IsOldest key) ∧
    (∀ ingress ip mac stale now order,
      (∃ evicted, candidateSet.reply calls (.observe ingress ip mac stale now order) =
          .accepted evicted) ↔
        stale = false ∧ ingress.interfaceIndex ≠ 0 ∧ prohibitedCameraIp ip = false ∧
          mac.notUnicast = false ∧ mac ≠ ingress.adapterMac ∧
          ingress.adapterMac.notUnicast = false) ∧
    ∀ now entries key t, candidateSet.reply calls (.snapshot now) = .candidates entries →
      entries.lookup key = some t → key.interfaceIndex ≠ 0 ∧ prohibitedCameraIp key.ip = false ∧
        key.mac.notUnicast = false ∧ key.mac ≠ key.adapterMac := by
  refine ⟨card_candidates_le calls, fun now hsorted => ⟨_, rfl, fun key t => ?_⟩,
    fun _ _ _ _ _ _ _ h => evicted_oldest h,
    fun _ _ _ _ _ _ => accepted_iff.trans CandidateIngress.refusal_eq_none, ?_⟩
  · rw [lookup_unexpired, unexpired_after key (hsorted.le rfl), young_iff (by decide)]
  · rintro now _ key t hreply hkey
    obtain rfl := CandidateReply.candidates.inj hreply
    rw [lookup_unexpired] at hkey
    exact admissible_of_lookup calls (Option.filter_eq_some_iff.mp hkey).1

def wiredIngress : CandidateIngress := ⟨7, ⟨2, 0, 0x5e, 0x10, 0, 0x0a⟩⟩

def peerMac : MacBytes := ⟨2, 0, 0x5e, 0x10, 0, 0x0b⟩

/-- An observation that was accepted just before the set was cleared. -/
noncomputable def clearedCalls : List CandidateCall :=
  [.observe wiredIngress ⟨192, 168, 1, 204⟩ peerMac false 0 (OldestFirst.some CandidateKey), .clear]

theorem history_clearedCalls : candidateSet.history clearedCalls =
    [(.observe wiredIngress ⟨192, 168, 1, 204⟩ peerMac false 0 (OldestFirst.some CandidateKey),
      .accepted none), (.clear, .cleared)] := by
  have hr : wiredIngress.refusal ⟨192, 168, 1, 204⟩ peerMac false = none := by decide
  have hroom : (FiniteMap.touch maxCandidates candidateTtl (OldestFirst.some CandidateKey) ∅
      (wiredIngress.key ⟨192, 168, 1, 204⟩ peerMac) 0).1 = none := by
    unfold FiniteMap.touch FiniteMap.victim
    dsimp only
    refine if_neg fun h => ?_
    have hcard := card_unexpired_le ∅ 0
    exact absurd (h.1.trans hcard) (by decide)
  simp only [clearedCalls, Component.history, Component.historyFrom]
  rw [show candidateSet.initial = ∅ from rfl, observe_accepted ∅ hr, hroom]
  rfl

/-- What was accepted is gone after a clear, although it is young and was not evicted. -/
theorem candidateSet_cleared :
    (∃ e ∈ candidateSet.history clearedCalls,
      AcceptedAt (wiredIngress.key ⟨192, 168, 1, 204⟩ peerMac) 0 e) ∧
    (∀ e ∈ candidateSet.history clearedCalls, ∀ key, e.2 ≠ .accepted (some key)) ∧
    ∃ entries, candidateSet.reply clearedCalls (.snapshot 1) = .candidates entries ∧
      ∀ key, entries.lookup key = none := by
  rw [history_clearedCalls]
  refine ⟨⟨_, List.mem_cons_self, acceptedAt_observe.mpr ⟨rfl, rfl⟩⟩, by simp, _, rfl, fun key => ?_⟩
  rw [lookup_unexpired]
  rfl

end PocketStream
