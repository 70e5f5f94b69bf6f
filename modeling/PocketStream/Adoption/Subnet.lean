import PocketStream.Adoption.Operations

/-! # Adopting a subnet

Adoption binds a scratch address, probes candidates from it, releases it and
binds the first free candidate. Every bind is preceded by a breadcrumb in the
shared pending list, and every way out releases or leaves the breadcrumb.
-/

namespace PocketStream

open Foundation Program

/-- Whether an address of the list is on the device's /24. -/
def alreadyOnSubnet (device : Ipv4Addr) (currentIps : List Ipv4Addr) : Bool :=
  currentIps.any fun ip => ip.a == device.a && ip.b == device.b && ip.c == device.c

def candidateStarts : List (Fin 256) := [100, 101, 99, 102, 98, 103, 97, 104, 96, 105, 95]

def pickCandidateIp (device : Ipv4Addr) (usedIps : List Ipv4Addr) : List Ipv4Addr :=
  candidateStarts.filterMap fun last =>
    if last ≠ device.d ∧ last ≠ 0 ∧ last ≠ 255 ∧ last ≠ 1 then
      let candidate : Ipv4Addr := ⟨device.a, device.b, device.c, last⟩
      if usedIps.contains candidate then none else some candidate
    else none

def scratchStarts : List (Fin 256) := [254, 253, 252, 251, 250, 2, 3, 4, 5, 6]

def pickScratch (device : Ipv4Addr) (candidates : List Ipv4Addr) : Ipv4Addr :=
  let taken := candidates.map (·.d)
  let last := scratchStarts.find? fun last => last != device.d && !taken.contains last
  ⟨device.a, device.b, device.c, last.getD 254⟩

/-- An address bound or about to be bound that is not handed over yet. -/
structure PendingIp where
  iface : String
  ip : Ipv4Addr
  adoptionId : UInt64
  deriving DecidableEq

/-- A probe's own temporary address, reused for the conflict checks. -/
structure PreparedScratch where
  address : Ipv4Addr
  adoptionId : UInt64

/-- How the wait between two polls ends. -/
inductive PollWake where
  | elapsed
  | changed (closed : Bool)
  | deadline

namespace Subnet

/-- Injected calls, calls under the readiness deadline, and the shared pending list. -/
inductive Effect where
  | call (call : AdoptCall)
  | timed (call : AdoptCall)
  | pollDelay
  | shutdown
  | pendingList
  | pendingInsert (entry : PendingIp)
  | pendingRemove (entry : PendingIp)

abbrev Effect.Reply : Effect → Type
  | call c => c.Reply
  | timed c => Option c.Reply
  | pollDelay => PollWake
  | shutdown => Bool
  | pendingList => List PendingIp
  | pendingInsert _ => Unit
  | pendingRemove _ => Unit

abbrev Run (α : Type) := Program Effect Effect.Reply α

def issue (e : Effect) : Run e.Reply := perform e

def releaseScratch (iface : String) (scratch : Ipv4Addr) (adoptionId : UInt64) : Run Unit := do
  match ← issue (.call (.remove iface scratch)) with
  | .ok () => issue (.pendingRemove ⟨iface, scratch, adoptionId⟩)
  | .error _ => return () -- the breadcrumb stays for reconciliation

/-- Breadcrumb, bind, and release on an ambiguous failure. -/
def bindScratch (iface : String) (scratch : Ipv4Addr) (adoptionId : UInt64) :
    Run (Fallible Unit) := do
  issue (.pendingInsert ⟨iface, scratch, adoptionId⟩)
  match ← issue (.call (.add iface scratch "255.255.255.0")) with
  | .ok () => return .ok ()
  | .error e =>
    releaseScratch iface scratch adoptionId
    return .error e

def debugState : Option ProbeSourceState → String
  | none => "None"
  | some .ready => "Some(Ready)"
  | some .pending => "Some(Pending)"
  | some .tentative => "Some(Tentative)"
  | some (.routePending expected observed) =>
    "Some(RoutePending \x7b expected: " ++ toString expected ++ ", observed: " ++
      toString observed ++ " \x7d)"

def sourceNotReady (iface : String) (source : Ipv4Addr) (last : Option ProbeSourceState) :
    AppError :=
  .addressNotReady
    s!"Adoption address {source.toText} did not become usable on {iface} within 12s (last state: {debugState last})"

/-- The pause before the next round of a wait. -/
def pauseThen (expired : AppError) (next : Run (Fallible Bool)) : Run (Fallible Bool) := do
  match ← issue .pollDelay with
  | .deadline => return .error expired
  | .elapsed => next
  | .changed true => return .ok false
  | .changed false => if ← issue .shutdown then return .ok false else next

/-- `wait_for_probe_source`, for at most `polls` rounds before the deadline. -/
def waitForProbeSource (iface : String) (source target : Ipv4Addr) :
    ℕ → Option ProbeSourceState → Run (Fallible Bool)
  | 0, last => return .error (sourceNotReady iface source last)
  | polls + 1, last => do
    if ← issue .shutdown then
      return .ok false
    match ← issue (.timed (.probeState iface source target)) with
    | none => return .error (sourceNotReady iface source last)
    | some (.error e) => return .error e
    | some (.ok .ready) => return .ok true
    | some (.ok state) =>
      pauseThen (sourceNotReady iface source (some state))
        (waitForProbeSource iface source target polls (some state))

/-- The first candidate that a probe from the scratch reports free. -/
def firstFree (source : Ipv4Addr) : List Ipv4Addr → Run (Option Ipv4Addr)
  | [] => return none
  | candidate :: rest => do
    if ← issue .shutdown then
      return none
    if ← issue (.call (.probe candidate (some source))) then
      firstFree source rest
    else
      return some candidate

/-- Candidates are probed only from a ready source. -/
def chooseCandidate (readiness : Fallible Bool) (source : Ipv4Addr) (candidates : List Ipv4Addr) :
    Run (Option Ipv4Addr) :=
  match readiness with
  | .ok true => firstFree source candidates
  | _ => return none

/-- Breadcrumb and bind the chosen candidate, and wait until it is usable. -/
def bindFinal (iface : String) (device candidate : Ipv4Addr) (adoptionId : UInt64) (polls : ℕ) :
    Run (Fallible (Option Ipv4Addr)) := do
  match ← bindScratch iface candidate adoptionId with
  | .error e => return .error e
  | .ok () =>
    match ← waitForProbeSource iface candidate device polls none with
    | .error e =>
      releaseScratch iface candidate adoptionId
      return .error e
    | .ok false =>
      releaseScratch iface candidate adoptionId
      return .ok none
    | .ok true =>
      if ← issue .shutdown then
        releaseScratch iface candidate adoptionId
        return .ok none
      return .ok (some candidate)

/-- Probe the candidates once the scratch is usable, and release the scratch on every
way out. -/
def probeAndRelease (iface : String) (device scratch : Ipv4Addr) (candidates : List Ipv4Addr)
    (adoptionId : UInt64) (polls : ℕ) : Run (Fallible Bool × Option Ipv4Addr) := do
  let readiness ← waitForProbeSource iface scratch device polls none
  let chosen ← chooseCandidate readiness scratch candidates
  releaseScratch iface scratch adoptionId
  return (readiness, chosen)

/-- Adoption from a bound scratch on. -/
def adoptFrom (iface : String) (device scratch : Ipv4Addr) (candidates : List Ipv4Addr)
    (adoptionId : UInt64) (polls : ℕ) : Run (Fallible (Option Ipv4Addr)) := do
  let (readiness, chosen) ← probeAndRelease iface device scratch candidates adoptionId polls
  match readiness with
  | .error e => return .error e
  | .ok false => return .ok none
  | .ok true =>
    if ← issue .shutdown then
      return .ok none
    match chosen with
    | none =>
      return .error (.network s!"Could not find available IP on subnet for {device.toText}")
    | some candidate =>
      if ← issue .shutdown then
        return .ok none
      bindFinal iface device candidate adoptionId polls

/-- Adoption among the candidates, from a prepared scratch or from one bound here. -/
def adoptAmong (iface : String) (device : Ipv4Addr) (candidates : List Ipv4Addr)
    (adoptionId : UInt64) (prepared : Option PreparedScratch) (polls : ℕ) :
    Run (Fallible (Option Ipv4Addr)) :=
  match prepared with
  | some scratch => adoptFrom iface device scratch.address candidates adoptionId polls
  | none => do
    let scratch := pickScratch device candidates
    match ← bindScratch iface scratch adoptionId with
    | .error e => return .error e
    | .ok () => adoptFrom iface device scratch candidates adoptionId polls

/-- Whether a prepared scratch is owned by this adoption. -/
def confirmPrepared (iface : String) (device : Ipv4Addr) (adoptionId : UInt64)
    (prepared : Option PreparedScratch) : Run Bool :=
  match prepared with
  | none => return true
  | some scratch =>
    if scratch.adoptionId ≠ adoptionId ∨ scratch.address = device ∨
        alreadyOnSubnet device [scratch.address] = false then
      return false
    else do
      return (← issue .pendingList).contains ⟨iface, scratch.address, adoptionId⟩

/-- `adopt_subnet_with_scratch` -/
def adoptSubnetWithScratch (iface : String) (device : Ipv4Addr) (currentIps localIps : List Ipv4Addr)
    (adoptionId : UInt64) (prepared : Option PreparedScratch) (polls : ℕ) :
    Run (Fallible (Option Ipv4Addr)) := do
  if !(← confirmPrepared iface device adoptionId prepared) then
    return .error (.network "Prepared probe address ownership is unconfirmed")
  -- only the exact owned scratch is exempt from the existing-address gate
  let currentIps := currentIps.filter fun ip => prepared.all (·.address != ip)
  if alreadyOnSubnet device currentIps then
    return .ok none
  let candidates := pickCandidateIp device (localIps ++ currentIps)
  if candidates.isEmpty then
    return .error (.network s!"No candidate IPs available on subnet for {device.toText}")
  adoptAmong iface device candidates adoptionId prepared polls

end Subnet

end PocketStream
