import PocketStream.Foundation.Program
import PocketStream.Native.Operations
import PocketStream.Streaming.RelaySpec

/-! # The firewall lease

The rule a listener needs is leased to its generation in the relay state before
the rule is dispatched, and the lease is cleared when the rule was disabled. The
caller says how the steps on the relay state and the native operations run.
-/

namespace PocketStream

open Foundation

inductive FirewallRule | rtsp | srt
  deriving DecidableEq, Repr

/-- The firewall part of `RelayData`. -/
structure FirewallSlot where
  firewall : FirewallOutcome
  firewallGeneration : Option (UInt64 × FirewallRule)

def firewallRole : RestreamProtocol → FirewallRule
  | .rtsp => .rtsp
  | .srt => .srt

/-- The role leased to a generation. -/
def leasedRole (lease : Option (UInt64 × FirewallRule)) (generation : UInt64) :
    Option FirewallRule :=
  match lease with
  | some (current, role) => if current = generation then some role else none
  | none => none

/-- The steps on the lease, each under the mutex of the relay state. -/
inductive LeaseEffect where
  | readLease
  | readOutcome
  | install (generation : UInt64) (role : FirewallRule)
  | recordEnsured (generation : UInt64) (role : FirewallRule) (outcome : FirewallOutcome)
  | recordDisabled (generation : UInt64) (role : FirewallRule) (outcome : FirewallOutcome)

@[reducible] def LeaseEffect.Reply : LeaseEffect → Type
  | readLease => Option (UInt64 × FirewallRule)
  | readOutcome => FirewallOutcome
  | install _ _ => Bool
  | recordEnsured _ _ _ => Unit
  | recordDisabled _ _ _ => Unit

/-- A step on the lease, where `current` says which generation is desired. -/
def FirewallSlot.answer (slot : FirewallSlot) (current : UInt64 → Bool) :
    (e : LeaseEffect) → e.Reply × FirewallSlot
  | .readLease => (slot.firewallGeneration, slot)
  | .readOutcome => (slot.firewall, slot)
  | .install generation role =>
    (current generation,
      if current generation then { slot with firewallGeneration := some (generation, role) }
      else slot)
  | .recordEnsured generation role outcome =>
    ((), if slot.firewallGeneration = some (generation, role) then { slot with firewall := outcome }
      else slot)
  | .recordDisabled generation role outcome =>
    ((), if slot.firewallGeneration = some (generation, role) then
        { firewall := outcome
          firewallGeneration :=
            if outcome = .inactive then none else some (generation, role) }
      else slot)

section Programs

variable {ε : Type} {ρ : ε → Type} (slot : (e : LeaseEffect) → Program ε ρ e.Reply)
  (ensure : FirewallRule → UInt16 → Option NativeIdentity → Program ε ρ FirewallOutcome)
  (disable : FirewallRule → Program ε ρ FirewallOutcome)

def retireFirewallWith (generation : UInt64) : Program ε ρ Bool := do
  match leasedRole (← slot .readLease) generation with
  | some role =>
    let outcome ← disable role
    slot (.recordDisabled generation role outcome)
    return outcome == .inactive
  | none => return true

/-- The retirement of the lease found before a new one. -/
def retirePrior : Option (UInt64 × FirewallRule) → Program ε ρ Bool
  | some (generation, _) => retireFirewallWith slot disable generation
  | none => return true

def installAndEnsure (spec : ResolvedStartSpec) (generation : UInt64) :
    Program ε ρ FirewallOutcome := do
  let role := firewallRole spec.protocol
  if !(← slot (.install generation role)) then return .inactive
  else
    let outcome ← ensure role spec.serverPort spec.bindIdentity
    slot (.recordEnsured generation role outcome)
    return outcome

def applyFirewallWith (spec : ResolvedStartSpec) (generation : UInt64) :
    Program ε ρ FirewallOutcome := do
  let prior ← slot .readLease
  if !(← retirePrior slot disable prior) then slot .readOutcome
  else installAndEnsure slot ensure spec generation

end Programs

theorem leasedRole_eq_some {lease : Option (UInt64 × FirewallRule)} {generation : UInt64}
    {role : FirewallRule} :
    leasedRole lease generation = some role ↔ lease = some (generation, role) := by
  rcases lease with _ | ⟨current, r⟩
  · simp [leasedRole]
  · simp only [leasedRole]
    split
    · next h => simp [h]
    · next h => simp [h]

/-- A step leaves the lease, clears it, or installs one of the desired generation. -/
theorem FirewallSlot.answer_lease (slot : FirewallSlot) (current : UInt64 → Bool)
    (e : LeaseEffect) :
    (slot.answer current e).2.firewallGeneration = slot.firewallGeneration ∨
      (slot.answer current e).2.firewallGeneration = none ∨
      ∃ generation role, current generation = true ∧
        (slot.answer current e).2.firewallGeneration = some (generation, role) := by
  cases e with
  | readLease => exact .inl rfl
  | readOutcome => exact .inl rfl
  | install generation role =>
    simp only [answer]
    split
    · next hc => exact .inr (.inr ⟨generation, role, hc, rfl⟩)
    · exact .inl rfl
  | recordEnsured generation role outcome =>
    simp only [answer]
    split <;> exact .inl rfl
  | recordDisabled generation role outcome =>
    simp only [answer]
    split
    · next hl =>
      simp only
      split
      · exact .inr (.inl rfl)
      · exact .inl hl.symm
    · exact .inl rfl

end PocketStream
