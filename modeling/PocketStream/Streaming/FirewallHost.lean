import PocketStream.Foundation.Threads
import PocketStream.Streaming.FirewallLease

/-! # Firewall calls

The calls that lease and retire a rule, one at a time under the lifecycle gate.
Native operations run in the order of their dispatch, whether or not their
caller is still there, and the relay state moves freely around the calls.
-/

namespace PocketStream

open Foundation

inductive FirewallOperation where
  | ensure (role : FirewallRule) (port : UInt16) (interface : Option NativeIdentity)
  | disable (role : FirewallRule)
  deriving DecidableEq

def FirewallOperation.role : FirewallOperation → FirewallRule
  | ensure role _ _ => role
  | disable role => role

/-- An operation with the lease it was dispatched under, as the count of the leases installed. -/
structure Dispatched where
  ticket : ℕ
  operation : FirewallOperation
  installs : ℕ
  deriving DecidableEq

structure PolicyReport where
  dispatched : Dispatched
  outcome : FirewallOutcome

/-- The lease and what decides whether a generation is desired, the lifecycle gate, the rules,
the operations dispatched and not complete, and what was reported. -/
structure FirewallHost where
  slot : FirewallSlot
  desired : Bool
  health : Option UInt64
  gate : Option ℕ
  enabled : FirewallRule → Bool
  pending : List Dispatched
  reports : List PolicyReport
  installs : ℕ
  tickets : ℕ

inductive FirewallHostEffect where
  | lease (e : LeaseEffect)
  | lockLifecycle
  | unlockLifecycle
  | dispatch (operation : FirewallOperation)
  | await (ticket : ℕ)

@[reducible] def FirewallHostEffect.Reply : FirewallHostEffect → Type
  | lease e => e.Reply
  | lockLifecycle => Unit
  | unlockLifecycle => Unit
  | dispatch _ => Except String ℕ
  | await _ => FirewallOutcome

/-- What happens around the calls: the oldest operation completes and leaves its rule on or
off, an intent changes the relay state, and the startup policy reports. -/
inductive FirewallEvent where
  | native (outcome : FirewallOutcome) (on : Bool)
  | relay (desired : Bool) (health : Option UInt64)
  | startupStatus (outcome : FirewallOutcome)

namespace FirewallHost

def new : FirewallHost where
  slot := ⟨.inactive, none⟩
  desired := false
  health := none
  gate := none
  enabled _ := false
  pending := []
  reports := []
  installs := 0
  tickets := 0

/-- `relay_state_is_generation` -/
def isGeneration (s : FirewallHost) (generation : UInt64) : Bool :=
  s.desired && s.health == some generation

/-- What a completed operation leaves of its rule: a disable that reports inactive has read the
rule back disabled, and no other disable enables it. -/
def ruleAfter (operation : FirewallOperation) (outcome : FirewallOutcome) (was on : Bool) : Bool :=
  match operation with
  | .ensure _ _ _ => on
  | .disable _ => if outcome = .inactive then false else was && on

def complete (s : FirewallHost) (outcome : FirewallOutcome) (on : Bool) : FirewallHost :=
  match s.pending with
  | [] => s
  | d :: rest =>
    { s with
      pending := rest
      reports := ⟨d, outcome⟩ :: s.reports
      enabled := fun role =>
        if role = d.operation.role then ruleAfter d.operation outcome (s.enabled role) on
        else s.enabled role }

def disturb (s : FirewallHost) : FirewallEvent → FirewallHost
  | .native outcome on => s.complete outcome on
  | .relay desired health => { s with desired, health }
  | .startupStatus outcome =>
    if s.slot.firewallGeneration.isNone then { s with slot := { s.slot with firewall := outcome } }
    else s

def reportOf (s : FirewallHost) (ticket : ℕ) : Option PolicyReport :=
  s.reports.find? fun r => r.dispatched.ticket == ticket

/-- The operation under the lease of now. -/
def dispatched (s : FirewallHost) (operation : FirewallOperation) : Dispatched :=
  ⟨s.tickets, operation, s.installs⟩

/-- One for a lease that the step installs. -/
def installed (s : FirewallHost) : LeaseEffect → ℕ
  | .install generation _ => if s.isGeneration generation then 1 else 0
  | _ => 0

def answer (t : ℕ) (s : FirewallHost) :
    (e : FirewallHostEffect) → Option String → Option (e.Reply × FirewallHost)
  | .lease e, _ =>
    some ((s.slot.answer s.isGeneration e).1,
      { s with
        slot := (s.slot.answer s.isGeneration e).2
        installs := s.installs + s.installed e })
  | .lockLifecycle, _ => if s.gate.isNone then some ((), { s with gate := some t }) else none
  | .unlockLifecycle, _ => some ((), { s with gate := none })
  | .dispatch operation, none =>
    some (.ok s.tickets,
      { s with pending := s.pending ++ [s.dispatched operation], tickets := s.tickets + 1 })
  | .dispatch operation, some refusal =>
    some (.error refusal,
      { s with
        reports := ⟨s.dispatched operation, .unavailable refusal⟩ :: s.reports
        tickets := s.tickets + 1 })
  | .await ticket, _ => (s.reportOf ticket).map fun r => (r.outcome, s)

/-- A dropped caller lets go of the gate. -/
def abandon (t : ℕ) (s : FirewallHost) : Option FirewallHost :=
  some (if s.gate = some t then { s with gate := none } else s)

end FirewallHost

abbrev FirewallProgram := Program FirewallHostEffect FirewallHostEffect.Reply

inductive FirewallCall where
  | apply (spec : ResolvedStartSpec) (generation : UInt64)
  | retire (generation : UInt64)

def firewallStep (e : FirewallHostEffect) : FirewallProgram e.Reply := Program.perform e

def leaseStep (e : LeaseEffect) : FirewallProgram e.Reply := firewallStep (.lease e)

/-- An operation the executor does not admit is reported unavailable. -/
def firewallRequest (operation : FirewallOperation) : FirewallProgram FirewallOutcome := do
  match ← firewallStep (.dispatch operation) with
  | .ok ticket => firewallStep (.await ticket)
  | .error refusal => return .unavailable refusal

def firewallEnsure (role : FirewallRule) (port : UInt16) (interface : Option NativeIdentity) :
    FirewallProgram FirewallOutcome :=
  firewallRequest (.ensure role port interface)

def firewallDisable (role : FirewallRule) : FirewallProgram FirewallOutcome :=
  firewallRequest (.disable role)

def underLifecycle {α : Type} (body : FirewallProgram α) : FirewallProgram (Option FirewallCall) := do
  firewallStep .lockLifecycle
  let _ ← body
  firewallStep .unlockLifecycle
  return none

def FirewallCall.program : FirewallCall → FirewallProgram (Option FirewallCall)
  | apply spec generation =>
    underLifecycle (applyFirewallWith leaseStep firewallEnsure firewallDisable spec generation)
  | retire generation => underLifecycle (retireFirewallWith leaseStep firewallDisable generation)

def firewallCalls :
    Shared FirewallHostEffect FirewallHostEffect.Reply FirewallHost (Option String) FirewallEvent
      FirewallCall where
  answer := FirewallHost.answer
  disturb := FirewallHost.disturb
  abandon := FirewallHost.abandon
  start := FirewallCall.program

end PocketStream
