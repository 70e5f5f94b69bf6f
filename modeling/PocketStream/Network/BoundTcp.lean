import PocketStream.Foundation.FiniteMap
import PocketStream.Foundation.Machine
import PocketStream.Network.Readiness

/-! # A transport bound to a verified path

A loopback listener forwards each local connection to one camera over one adapter. The gate
compares a path that is read again with the path of the start. The serving loop and the
forwards run beside one another: a forward reads the gate and connects in one segment of its
own, which neither a shutdown nor the end of the loop interrupts.
-/

namespace PocketStream

open Foundation

namespace BoundTcp

/-- What is read of a parsed URL. -/
structure Url where
  scheme : String
  hostStr : Option String
  port : Option UInt16

structure UrlParser where
  parse : String → Option Url

structure SocketAddrV4 where
  ip : Ipv4Addr
  port : UInt16
  deriving DecidableEq

/-- `MAX_CONNECTIONS` -/
def maxConnections : ℕ := 8

/-- What one check reads: the fence of the path, and a path read again with its fence. -/
structure Look where
  pathStale : Bool
  ready : Fallible ReadyPath
  readyStale : Bool

structure Gate where
  path : ReadyPath
  active : Bool

def retiredError : AppError := .network "Device Ethernet session retired"

def changedError : AppError := .network "Device Ethernet path changed"

def Gate.check (gate : Gate) (look : Look) : Fallible Unit :=
  if !gate.active || look.pathStale then .error retiredError
  else
    match look.ready with
    | .error e => .error e
    | .ok current =>
      if look.readyStale || current.index != gate.path.index ||
          current.source != gate.path.source || current.target != gate.path.target then
        .error changedError
      else .ok ()

/-- A connect of the transport. -/
structure Connect where
  destination : SocketAddrV4
  source : Ipv4Addr
  index : UInt32
  deriving DecidableEq

/-- Where a forward stands. It does not yield between `polled` and the end of its connect. -/
inductive Stage where
  | spawned
  | polled
  | checked
  | connecting
  | copying
  | done
  deriving DecidableEq

/-- Whether a forward is in the middle of the segment that connects. -/
def Stage.inSegment : Stage → Bool
  | polled => true
  | checked => true
  | _ => false

/-- An aborted forward ends when it yields. -/
structure Forward where
  stage : Stage
  aborted : Bool
  deriving DecidableEq

/-- The tasks of the set of connections, and aborted ones that did not end yet. -/
abbrev Forwards := FiniteMap ℕ Forward

namespace Forwards

/-- The forward with the number, if it stands there. -/
def find (fs : Forwards) (id : ℕ) (stage : Stage) : Option Forward :=
  (fs.lookup id).filter (·.stage == stage)

/-- A forward moves on; an aborted one ends as soon as it is out of its segment. -/
def move (fs : Forwards) (id : ℕ) (f : Forward) (stage : Stage) : Forwards :=
  if f.aborted && !stage.inSegment then fs.erase id else fs.insert id { f with stage := stage }

/-- The set of connections is dropped, which aborts them. -/
def dropped (fs : Forwards) : Forwards :=
  let running := FiniteMap.retain (fun _ f => f.stage.inSegment) fs
  running.mapValues fun _ f => { f with aborted := true }

end Forwards

/-- The serving task: in its loop, behind it, and ended. -/
inductive Serving where
  | serving
  | returned
  | finished
  deriving DecidableEq

inductive Entry where
  | checked (id : ℕ) (look : Look)
  | connect (id : ℕ) (c : Connect)
  | readiness (reply : Bool)

/-- The transport with its tasks, numbered in the order they were spawned, and a log. -/
structure Transport where
  gate : Gate
  destination : SocketAddrV4
  serving : Serving := .serving
  aborting : Bool := false
  forwards : Forwards := ∅
  spawned : ℕ := 0
  log : List Entry := []

def mismatchError : AppError := .stream "Device URL does not match the verified Ethernet path"

/-- `BoundTcpTransport::start`: the path, the look of the check and how the listener was made. -/
def start (U : UrlParser) (url : String) (ready : Fallible ReadyPath) (look : Look)
    (listener : Fallible Unit) : Fallible Transport :=
  match ready with
  | .error e => .error e
  | .ok path =>
    match U.parse url with
    | none => .error (.stream "Invalid device TCP URL")
    | some endpoint =>
      match Ipv4Addr.parse path.target.ip with
      | none => .error (.stream "Camera requires an IPv4 address")
      | some ip =>
        if endpoint.scheme ≠ "rtsp" ∨ endpoint.hostStr.bind Ipv4Addr.parse ≠ some ip ∨
            path.index = 0 ∨ endpoint.port = some 0 then .error mismatchError
        else
          let gate : Gate := ⟨path, true⟩
          match gate.check look, listener with
          | .error e, _ => .error e
          | .ok (), .error e => .error e
          | .ok (), .ok () => .ok { gate := gate, destination := ⟨ip, endpoint.port.getD 554⟩ }

namespace Transport

def passes (s : Transport) (look : Look) : Bool := (s.gate.check look).toBool

def route (s : Transport) : Connect := ⟨s.destination, s.gate.path.source, s.gate.path.index⟩

def note (s : Transport) (e : Entry) : Transport := { s with log := s.log ++ [e] }

def move (s : Transport) (id : ℕ) (f : Forward) (stage : Stage) : Transport :=
  { s with forwards := s.forwards.move id f stage }

/-- The loop is left. -/
def leave (s : Transport) : Transport :=
  { s with forwards := s.forwards.dropped, serving := .returned }

/-- The loop goes on after a check that passes. -/
def continueIf (s : Transport) (ok : Bool) (next : Transport) : Transport :=
  if ok then next else s.leave

def spawn (s : Transport) : Transport :=
  if s.forwards.keys.card < maxConnections then
    { s with
      forwards := s.forwards.insert s.spawned ⟨.spawned, false⟩
      spawned := s.spawned + 1 }
  else s

end Transport

/-- What happens to the transport next. -/
inductive Event where
  | cancelled
  | tick (look : Look)
  | joined (id : ℕ)
  | accepted (ok : Bool) (look : Look)
  | poll (id : ℕ)
  | check (id : ℕ) (look : Look)
  | connect (id : ℕ) (bound : Bool)
  | settle (id : ℕ) (opened : Bool) (look : Look)
  | closed (id : ℕ)
  | retire
  | shutdown
  | dropped
  | readiness (look : Look)

open Transport in
/-- One event, if it can happen. -/
def step (s : Transport) : Event → Option Transport
  | .cancelled => if s.serving = .serving then some s.leave else none
  | .tick look => if s.serving = .serving then some (s.continueIf (s.passes look) s) else none
  | .joined id =>
    if s.serving = .serving then
      (s.forwards.find id .done).map fun _ => { s with forwards := s.forwards.erase id }
    else none
  | .accepted ok look =>
    if s.serving = .serving then some (s.continueIf (ok && s.passes look) s.spawn) else none
  | .poll id => (s.forwards.find id .spawned).map fun f => s.move id f .polled
  | .check id look =>
    (s.forwards.find id .polled).map fun f =>
      if s.passes look then (s.move id f .checked).note (.checked id look) else s.move id f .done
  | .connect id bound =>
    (s.forwards.find id .checked).map fun f =>
      if bound then (s.move id f .connecting).note (.connect id s.route) else s.move id f .done
  | .settle id opened look =>
    (s.forwards.find id .connecting).map fun f =>
      s.move id f (if opened && s.passes look then .copying else .done)
  | .closed id => (s.forwards.find id .copying).map fun f => s.move id f .done
  | .retire =>
    if s.serving = .returned then
      some { s with serving := .finished, gate := { s.gate with active := false } }
    else none
  | .shutdown => some { s with aborting := true, gate := { s.gate with active := false } }
  | .dropped =>
    if s.aborting ∧ s.serving = .serving then
      some { s with forwards := s.forwards.dropped, serving := .finished }
    else none
  | .readiness look => some (s.note (.readiness (s.passes look)))

/-- A started transport and its events. -/
def machine (t : Transport) : Machine Transport Event := ⟨t, step⟩

end BoundTcp

end PocketStream
