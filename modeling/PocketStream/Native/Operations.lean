import PocketStream.Native.Adapter
import PocketStream.Native.LocalExecutor

/-! # Native operations and the evaluation of their processes

A native operation runs a helper process between two observations of its
adapter. What the process printed, how it ended and what was observed decide
the completion its transaction records.
-/

namespace PocketStream

open LocalExecutor

inductive Termination | exited | canceled | timedOut
  deriving DecidableEq, Repr

structure Captured where
  bytes : List UInt8
  truncated : Bool
  readFailed : Bool
  deriving DecidableEq

structure ProcessResult where
  exitCode : UInt32
  termination : Termination
  stdout : Captured
  stderr : Captured
  observedTreeExited : Bool
  containmentVerifiedBeforeResume : Bool
  deriving DecidableEq

inductive Kind
  | inventory | observe | addAddress | removeAddress | staticAddress | dhcp | restart | renew
  deriving DecidableEq, Repr

structure Operation where
  kind : Kind
  identity : Option NativeIdentity
  address : Option Ipv4Addr
  prefixLen : Option UInt8
  automatic : Bool
  deriving DecidableEq

structure ObservedAddress where
  address : String
  prefixLen : UInt8
  deriving DecidableEq

structure ObservedState where
  dhcp : Bool
  addresses : List ObservedAddress
  gateways : List String
  dns : List String
  dnsManual : String

structure ReportStep where
  name : String
  ok : Bool
  nativeExit : Option Int32
  deriving DecidableEq

/-- What the operation script prints; `J` stands for JSON values. -/
structure Report (J : Type) where
  version : UInt8
  ok : Bool
  stage : String
  mutated : Bool
  steps : List ReportStep
  data : Option J
  deriving DecidableEq

inductive RuleAction | created | updated | unchanged
  deriving DecidableEq, Repr

inductive FirewallOutcome where
  | inactive
  | applied (ruleName : String) (action : RuleAction) (verifiedShape : Bool)
      (observedBlockRules : List String)
  | unavailable (reason : String)
  | failed (stage reason : String) (uncertain : Bool)
  deriving DecidableEq, Repr

/-- What the firewall script prints. -/
structure FirewallReport (J : Type) where
  version : UInt8
  ok : Bool
  stage : String
  mutated : Bool
  outcome : FirewallOutcome
  records : List J
  deriving DecidableEq

/-- The JSON readers of the two scripts' results. -/
structure ReportCodec (J : Type) where
  report : List UInt8 → Option (Report J)
  observedState : J → Option ObservedState
  firewallReport : List UInt8 → Option (FirewallReport J)

/-- The structured facts a completion keeps. -/
inductive Facts (J : Type) where
  | operation (operation : Operation) (before after : Option NativeAdapter)
      (process : Option ProcessResult) (report : Option (Report J))
  | firewall (native : ProcessResult) (report : Option (FirewallReport J))
  deriving DecidableEq

variable {J : Type}

/-- `facts["report"]["mutated"] == true` -/
def Facts.mutated : Facts J → Bool
  | operation _ _ _ _ report => report.any (·.mutated)
  | firewall _ report => report.any (·.mutated)

/-- `facts["operation"]["kind"] == "observe"` -/
def Facts.observes : Facts J → Bool
  | operation op _ _ _ _ => op.kind == .observe
  | firewall _ _ => false

namespace Operation

def requiredSteps : Kind → List String
  | .inventory => ["inventory"]
  | .observe => ["postcondition"]
  | .addAddress => ["add_address", "postcondition"]
  | .removeAddress => ["remove_address", "postcondition"]
  | .staticAddress => ["static_primary", "restore_secondaries", "postcondition"]
  | .dhcp => ["remove_manual_addresses", "remove_default_routes", "enable_dhcp", "reset_dns",
      "renew_lease", "verify_dns_reset", "postcondition"]
  | .restart => ["restart_adapter", "postcondition"]
  | .renew => ["/release", "/renew", "postcondition"]

def stepsMatch (op : Operation) (report : Report J) : Bool :=
  report.steps.map (·.name) == requiredSteps op.kind

def nativeEffectMatches (op : Operation) (adapter : NativeAdapter) : Bool :=
  let addressPresent := op.address.any fun ip =>
    adapter.ips.any fun a => a.address == ip.toText && some a.prefixLen == op.prefixLen
  match op.kind with
  | .inventory | .observe | .restart => true
  | .addAddress | .staticAddress => addressPresent && !adapter.dhcp
  | .removeAddress => op.address.any fun ip => !adapter.ips.any fun a => a.address == ip.toText
  | .dhcp | .renew => adapter.dhcp

/-- Sorted lists agree when one permutes the other, and deduplicated ones when they have
the same members. -/
def postcondition (codec : ReportCodec J) (op : Operation) (adapter : NativeAdapter)
    (data : Option J) : Bool :=
  match data.bind codec.observedState with
  | none => false
  | some reported =>
    reported.dhcp == adapter.dhcp &&
      (adapter.ips.map fun a => (a.address, a.prefixLen)).isPerm
        (reported.addresses.map fun a => (a.address, a.prefixLen)) &&
      (adapter.gateways.all (reported.gateways.contains ·) &&
        reported.gateways.all (adapter.gateways.contains ·)) &&
      reported.dns.all (fun ip => (Ipv4Addr.parse ip).isSome) &&
      reported.dnsManual.utf8ByteSize ≤ 4096 &&
      op.nativeEffectMatches adapter

end Operation

def parseReport (codec : ReportCodec J) (result : ProcessResult) : Fallible (Report J) :=
  if result.termination ≠ .exited ∨ result.stdout.truncated ∨ result.stderr.truncated ∨
      result.stdout.readFailed ∨ result.stderr.readFailed ∨ !result.observedTreeExited then
    .error (.network "Native operation interrupted or output unavailable; reconciliation required")
  else
    match codec.report result.stdout.bytes with
    | none => .error (.network "Invalid native result; reconciliation required")
    | some report =>
      if report.version ≠ 1 ∨ report.ok ≠ (result.exitCode == 0) ∨ 64 < report.steps.length ∨
          64 < report.stage.utf8ByteSize ∨
          report.steps.any (fun s => (report.ok && (!s.ok || s.nativeExit.any (· != 0))) ||
            64 < s.name.utf8ByteSize) then
        .error (.network "Inconsistent native result; reconciliation required")
      else .ok report

/-- Whether the observed adapter is still the one the operation was made for. -/
def identityMatches (op : Operation) (after : Option NativeAdapter) : Bool :=
  op.identity.all fun id => after.any fun a => a.identity == id

/-- The addresses of the adapter other than the operation's own. -/
def otherAddresses (op : Operation) (adapter : NativeAdapter) : List (String × UInt8) :=
  (adapter.ips.filter fun ip => some ip.address != op.address.map (·.toText)).map fun ip =>
    (ip.address, ip.prefixLen)

/-- Whether the observations alone account for a single address added or removed. -/
def addressEffectObserved (op : Operation) (before after : Option NativeAdapter) : Bool :=
  identityMatches op after && (op.kind == .addAddress || op.kind == .removeAddress) &&
    match before, after with
    | some before, some after =>
      op.nativeEffectMatches after &&
        (otherAddresses op before).isPerm (otherAddresses op after) &&
        before.dhcp == after.dhcp && before.gateways == after.gateways
    | _, _ => false

def evaluateResult (codec : ReportCodec J) (op : Operation) (before after : Option NativeAdapter)
    (process : ProcessResult) : Completion (Facts J) × Fallible (Option J) :=
  let facts := Facts.operation op before after (some process)
  match parseReport codec process with
  | .error error =>
    if addressEffectObserved op before after then
      (⟨.completed, "interrupted_address_effect_observed", some (facts none)⟩, .error error)
    else (⟨.uncertain, "native_result_unavailable", some (facts none)⟩, .error error)
  | .ok report =>
    let observation := some (facts (some report))
    if !identityMatches op after ∨ (report.ok ∧ op.identity.isSome ∧
        after.all fun adapter => !op.postcondition codec adapter report.data) then
      (⟨.uncertain, "native_observation_failed", observation⟩,
        .error (.network "Native postcondition observation failed; reconciliation required"))
    else if !report.ok then
      (⟨if report.mutated then .uncertain else .failed, "native_step_failed", observation⟩,
        .error (.network (if report.stage = "access" then
          "Administrator access is required; launch the installed administrator build"
        else "Native operation failed; inspect network state before retrying")))
    else if !op.stepsMatch report then
      (⟨.uncertain, "native_result_unavailable", observation⟩,
        .error (.network "Native operation omitted a required step; reconciliation required"))
    else (⟨.completed, "native_postconditions_verified", observation⟩, .ok report.data)

/-- What happens around one operation: the adapter selected before it, whether it was
cancelled before its dispatch, how the process ended and the adapter observed after it. -/
structure OperationRun where
  snapshot : Fallible NativeAdapter
  cancelRequested : Bool
  process : Option ProcessResult
  after : Option NativeAdapter

/-- The adapter seen before the dispatch, unless it is not the one asked for. -/
def preflight (op : Operation) (run : OperationRun) : Option (Option NativeAdapter) :=
  match op.identity, run.snapshot with
  | none, _ => some none
  | some id, .ok selected => if selected.identity == id then some (some selected) else none
  | some _, .error _ => none

def observedResult (codec : ReportCodec J) (op : Operation) (run : OperationRun) :
    Completion (Facts J) × Fallible (Option J) :=
  match preflight op run with
  | none => (.new .failed "identity_preflight", .error (.network
      "Selected adapter changed or could not be observed before native dispatch"))
  | some before =>
    if run.cancelRequested then
      (.new .canceled "canceled_before_dispatch",
        .error (.network "Native operation canceled before dispatch"))
    else
      let after := if op.identity.isSome then run.after else none
      match run.process with
      | some process => evaluateResult codec op before after process
      | none => (⟨.uncertain, "runner_unavailable", some (.operation op before after none none)⟩,
          .error (.network "Native process result unavailable; reconciliation required"))

/-- A process of the firewall script whose output cannot be trusted. -/
def firewallFailure (p : ProcessResult) : Option (String × String) :=
  match p.termination with
  | .timedOut =>
    some ("native_timeout", "Firewall policy timed out; native recovery is required")
  | .canceled =>
    some ("native_canceled", "Firewall policy was canceled; native recovery is required")
  | .exited =>
    if !p.observedTreeExited ∨ !p.containmentVerifiedBeforeResume then
      some ("native_containment",
        "Firewall process containment is unverified; native recovery is required")
    else if p.stdout.truncated ∨ p.stderr.truncated ∨ p.stdout.readFailed ∨
        p.stderr.readFailed then
      some ("native_output", "Firewall output was incomplete; native recovery is required")
    else none

namespace FirewallOutcome

/-- `Applied { verified_shape: true, .. } | Inactive` -/
def settled : FirewallOutcome → Bool
  | applied _ _ verifiedShape _ => verifiedShape
  | inactive => true
  | _ => false

def isUncertain : FirewallOutcome → Bool
  | failed _ _ uncertain => uncertain
  | _ => false

end FirewallOutcome

def firewallUnavailable (stage reason : String) (observation : Option (Facts J)) :
    Completion (Facts J) × FirewallOutcome :=
  (⟨.uncertain, "firewall_result_unavailable", observation⟩, .failed stage reason true)

/-- The report of a process that ended by itself, when it is consistent. -/
def parseFirewallReport (codec : ReportCodec J) (p : ProcessResult) : Option (FirewallReport J) :=
  (codec.firewallReport p.stdout.bytes).filter fun report =>
    report.version == 2 && report.ok == (p.exitCode == 0) && report.stage.utf8ByteSize ≤ 64 &&
      report.records.length ≤ 64 && report.ok == report.outcome.settled

/-- `evaluate_process` -/
def evaluateFirewall (codec : ReportCodec J) (p : ProcessResult) :
    Completion (Facts J) × FirewallOutcome :=
  match firewallFailure p with
  | some (stage, reason) => firewallUnavailable stage reason (some (.firewall p none))
  | none =>
    match parseFirewallReport codec p with
    | some report =>
      (⟨if report.outcome.isUncertain then .uncertain
        else if report.ok then .completed else .failed,
        "firewall_policy", some (.firewall p (some report))⟩, report.outcome)
    | none => firewallUnavailable "native_report"
        "Firewall report was invalid; native recovery is required" (some (.firewall p none))

/-- How the firewall process is obtained. -/
inductive FirewallRun where
  | exited (process : ProcessResult)
  | setupFailed
  | taskFailed

/-- `firewall::execute` -/
def executeFirewall (codec : ReportCodec J) : FirewallRun → Completion (Facts J) × FirewallOutcome
  | .exited process => evaluateFirewall codec process
  | .setupFailed => firewallUnavailable "native_setup"
      "Firewall process setup failed; native recovery is required" none
  | .taskFailed => firewallUnavailable "native_task"
      "Firewall worker failed; native recovery is required" none

end PocketStream
