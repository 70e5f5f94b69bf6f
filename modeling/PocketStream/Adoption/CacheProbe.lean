import PocketStream.Adoption.Subnet
import PocketStream.Address.Mac

/-! # Probes of cached devices

A probe binds a scratch address in a foreign subnet, resolves a device from it
and either hands the scratch to the adoption or releases it. The cache pass
does this for every candidate subnet in turn, and a verification for one
device.
-/

namespace PocketStream

open Foundation

/-- The methods of `ProbeIo` with the reads of the fence and the clock. -/
inductive ProbeCall where
  | interfaceIndex
  | bindScratch (subnet : String) (scratch : Ipv4Addr)
  | releaseScratch (subnet : String) (scratch : Ipv4Addr)
  | resolve (target scratch : Ipv4Addr) (interfaceIndex : UInt32)
  | adoptPrepared (subnet : String) (ip : Ipv4Addr) (mac : String) (scratch : Ipv4Addr)
  | shutdown
  | fenceStale
  | deadlinePassed

abbrev ProbeCall.Reply : ProbeCall → Type
  | interfaceIndex => UInt32
  | bindScratch _ _ => Bool
  | releaseScratch _ _ => Unit
  | resolve _ _ _ => Except Unit (Option String)
  | adoptPrepared _ _ _ _ => Bool
  | shutdown => Bool
  | fenceStale => Bool
  | deadlinePassed => Bool

abbrev Probe (α : Type) := Program ProbeCall ProbeCall.Reply α

namespace Probe

def ask (call : ProbeCall) : Probe call.Reply := .perform call

def interfaceIndex : Probe UInt32 := ask .interfaceIndex

def bindScratch (subnet : String) (scratch : Ipv4Addr) : Probe Bool :=
  ask (.bindScratch subnet scratch)

def releaseScratch (subnet : String) (scratch : Ipv4Addr) : Probe Unit :=
  ask (.releaseScratch subnet scratch)

def resolve (target scratch : Ipv4Addr) (index : UInt32) : Probe (Except Unit (Option String)) :=
  ask (.resolve target scratch index)

def adoptPrepared (subnet : String) (ip : Ipv4Addr) (mac : String) (scratch : Ipv4Addr) :
    Probe Bool :=
  ask (.adoptPrepared subnet ip mac scratch)

def shutdown : Probe Bool := ask .shutdown

def fenceStale : Probe Bool := ask .fenceStale

def deadlinePassed : Probe Bool := ask .deadlinePassed

/-- `a || b`, which reads `b` only after a false `a`. -/
def orElse (a b : Probe Bool) : Probe Bool := do
  if ← a then return true else b

end Probe

open Probe

/-- A subnet with its cached addresses and MACs; the derivation groups at least one. -/
structure ProbeCandidate where
  subnet : String
  pairs : List (Ipv4Addr × String)
  nonempty : pairs ≠ []

def ProbeCandidate.scratch (c : ProbeCandidate) : Ipv4Addr :=
  pickScratch (c.pairs.head c.nonempty).1 (c.pairs.map Prod.fst)

structure PassReport where
  attempted : List String := []
  handedOff : List String := []
  skippedAtBudget : List String := []

/-- The first pair whose fresh resolution is the cached MAC. -/
def matchPair (scratch : Ipv4Addr) (index : UInt32) :
    List (Ipv4Addr × String) → Probe (Option (Ipv4Addr × String))
  | [] => return none
  | (ip, cachedMac) :: rest => do
    if ← orElse shutdown deadlinePassed then return none
    else
      let resolved ← resolve ip scratch index
      if ← shutdown then return none
      else
        match resolved with
        | .ok (some freshMac) =>
          if freshMac = cachedMac then return some (ip, freshMac)
          else matchPair scratch index rest
        | _ => matchPair scratch index rest

/-- What becomes of a bound scratch: the report, and whether the pass goes on. -/
def settleScratch (c : ProbeCandidate) (report : PassReport) :
    Option (Ipv4Addr × String) → Probe (PassReport × Bool)
  | some (ip, mac) => do
    let keepRunning ← adoptPrepared c.subnet ip mac c.scratch
    let stopped ← shutdown
    let report := if stopped then report
      else { report with handedOff := report.handedOff ++ [c.subnet] }
    if !keepRunning then return (report, false)
    else return (report, !(← shutdown))
  | none => do
    releaseScratch c.subnet c.scratch
    return (report, !(← shutdown))

/-- One candidate of the pass. -/
def probeCandidate (index : UInt32) (c : ProbeCandidate) (report : PassReport) :
    Probe (PassReport × Bool) := do
  let report := { report with attempted := report.attempted ++ [c.subnet] }
  if ← bindScratch c.subnet c.scratch then
    let found ← matchPair c.scratch index c.pairs
    settleScratch c report found
  else return (report, true)

def probeCandidates (index : UInt32) (report : PassReport) : List ProbeCandidate → Probe PassReport
  | [] => return report
  | c :: remaining => do
    if ← shutdown then return report
    else if ← deadlinePassed then
      return { report with skippedAtBudget :=
        report.skippedAtBudget ++ (c :: remaining).map (·.subnet) }
    else
      let (report, more) ← probeCandidate index c report
      if more then probeCandidates index report remaining else return report

def runPass (candidates : List ProbeCandidate) : Probe PassReport := do
  let index ← interfaceIndex
  -- no selected interface: never bind or probe unbound
  if index = 0 then return {} else probeCandidates index {} candidates

/-! ### Verification of one device -/

structure Job where
  ip : Ipv4Addr
  source : Option Ipv4Addr
  deriving DecidableEq

structure PresenceSnapshot where
  index : UInt32
  mode : NetworkMode

structure Proof where
  ip : Ipv4Addr
  mac : String
  deriving DecidableEq

/-- `subnet_key_for` -/
def subnetKeyFor (ip : Ipv4Addr) : String := s!"{ip.a}.{ip.b}.{ip.c}.0/24"

def Job.scratch (job : Job) : Ipv4Addr := job.source.getD (pickScratch job.ip [job.ip])

def Job.foreign (job : Job) : Bool := job.source.isNone

def retired : Probe Bool := orElse shutdown fenceStale

/-- The MAC a resolution of the job answers with. -/
def resolveJob (job : Job) (snapshot : PresenceSnapshot) : Probe (Option String) := do
  if ← retired then return none
  else
    let resolved ← resolve job.ip job.scratch snapshot.index
    return (resolved.toOption.bind id).bind canonicalMac

/-- The proof of a fresh resolution. -/
def proveJob (job : Job) (mac : String) : Probe (Option Proof) := do
  if ← orElse retired deadlinePassed then return none else return some ⟨job.ip, mac⟩

def concludeJob (job : Job) (mac : Option String) : Probe (Option Proof) := do
  let stopped ← retired
  match stopped, mac with
  | false, some mac =>
    if job.foreign then
      if ← adoptPrepared (subnetKeyFor job.ip) job.ip mac job.scratch then proveJob job mac
      else return none
    else proveJob job mac
  | _, _ =>
    if job.foreign then
      releaseScratch (subnetKeyFor job.ip) job.scratch
      return none
    else return none

def resolveAndConclude (job : Job) (snapshot : PresenceSnapshot) : Probe (Option Proof) := do
  let mac ← resolveJob job snapshot
  concludeJob job mac

def verify (job : Job) (snapshot : PresenceSnapshot) : Probe (Option Proof) := do
  if ← retired then return none
  else if (← interfaceIndex) ≠ snapshot.index then return none
  else if job.foreign ∧ snapshot.mode ≠ .staticAuto then return none
  else if job.foreign then
    if ← bindScratch (subnetKeyFor job.ip) job.scratch then resolveAndConclude job snapshot
    else return none
  else resolveAndConclude job snapshot

end PocketStream
