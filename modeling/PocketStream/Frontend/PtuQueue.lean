import Mathlib.Data.Finset.Basic
import PocketStream.Foundation.Machine
import PocketStream.Registry.DeviceRegistry

/-! # The pan and tilt unit

Every command to the unit goes through one queue, so that one request at most is
under way. A press of the D-pad enqueues a motion and its release a stop, both on
behalf of the operation captured at the press. A change of the unit retires the
operations captured before it, and a unit that loses its role is halted.
-/

namespace PocketStream

open Foundation

/-- The case folding of the host's strings. -/
class Lowercase where
  toLowerCase : String → String

@[ext] structure DeviceTarget where
  key : String
  expectedMac : Option String
  deriving DecidableEq

def startsWith (text start : String) : Bool := start.toList.isPrefixOf text.toList

def targetFor (record : DeviceRecord) : DeviceTarget where
  key := record.mac
  expectedMac := if startsWith record.mac "manual:" then none else some record.mac

/-- What a press acts on, and under which generation. -/
structure PtuOperation where
  target : DeviceTarget
  targetIp : String
  generation : ℕ
  deriving DecidableEq

/-- The text of a target and its endpoint. -/
structure TargetStamp where
  key : Option String
  expectedMac : Option String
  ip : Option String
  deriving DecidableEq

def targetStamp (target : Option DeviceTarget) (ip : Option String) : TargetStamp where
  key := target.map (·.key)
  expectedMac := target.bind (·.expectedMac)
  ip := ip

inductive SpeedAction where
  | up
  | down
  | left
  | right
  deriving DecidableEq

inductive PtuMotionEffect where
  | motion
  | stop
  deriving DecidableEq

/-- The commands of the queue. Speed limits and velocity mode belong to a query. -/
inductive QueuedPtuCmd where
  | move (action : SpeedAction) (seq : ℕ) (operation : PtuOperation)
  | stop (operation : PtuOperation)
  | halt (ip : String) (target : DeviceTarget) (attempt : ℕ)
  | speedLimits (query : ℕ) (operation : PtuOperation)
  | velocityMode (query : ℕ) (operation : PtuOperation)
  deriving DecidableEq

namespace QueuedPtuCmd

def targetIp : QueuedPtuCmd → String
  | move _ _ operation | stop operation | speedLimits _ operation | velocityMode _ operation =>
    operation.targetIp
  | halt ip _ _ => ip

def target : QueuedPtuCmd → DeviceTarget
  | move _ _ operation | stop operation | speedLimits _ operation | velocityMode _ operation =>
    operation.target
  | halt _ target _ => target

def motionEffect : QueuedPtuCmd → Option PtuMotionEffect
  | move .. => some .motion
  | stop _ | halt .. => some .stop
  | speedLimits .. | velocityMode .. => none

def stamp (item : QueuedPtuCmd) : TargetStamp := targetStamp (some item.target) (some item.targetIp)

end QueuedPtuCmd

/-- A request that went out. -/
structure PtuSend where
  item : QueuedPtuCmd
  cmd : String
  deriving DecidableEq

namespace PtuSend

def ip (x : PtuSend) : String := x.item.targetIp

def fullStop (x : PtuSend) : Bool := x.cmd == "C=V&PS=0&TS=0" || x.cmd == "PS=0&TS=0"

end PtuSend

structure SpeedQuery where
  id : ℕ
  generation : ℕ
  stamp : TargetStamp
  deriving DecidableEq

/-- How a request ends: with the numbers it returned, or not at all. -/
inductive PtuReply where
  | ok (panUpper tiltUpper : Option ℤ)
  | failed

/-- The module `ptz.ts` over the device list and the saved manual nodes. The requests sent,
newest first, and the presses not yet released are on record. -/
structure Ptz where
  devices : List DeviceRecord
  manualNodes : List ManualNode
  ptuSpeedBig : ℤ
  ptuSpeedQueried : Bool
  ptuPressSeq : ℕ
  ptuReleasedThrough : ℕ
  ptuOperationGeneration : ℕ
  ptuUnconfirmedMotion : Finset TargetStamp
  ptuQueue : List QueuedPtuCmd
  inFlight : Option QueuedPtuCmd
  ptuSpeedQuery : Option SpeedQuery
  queries : ℕ
  lastPtu : Option TargetStamp
  pressOperation : SpeedAction → Option PtuOperation
  toasts : List String
  sent : List PtuSend
  held : List (SpeedAction × ℕ)

namespace Ptz

variable [Lowercase] (s : Ptz)

def initial : Ptz where
  devices := []
  manualNodes := []
  ptuSpeedBig := 100
  ptuSpeedQueried := false
  ptuPressSeq := 0
  ptuReleasedThrough := 0
  ptuOperationGeneration := 0
  ptuUnconfirmedMotion := ∅
  ptuQueue := []
  inFlight := none
  ptuSpeedQuery := none
  queries := 0
  lastPtu := none
  pressOperation := fun _ => none
  toasts := []
  sent := []
  held := []

section Target

open Lowercase

def deviceByKey (key : String) : Option DeviceRecord :=
  if key = "" then none else s.devices.find? fun r => toLowerCase r.mac == toLowerCase key

def resolveTarget (target : DeviceTarget) : Option DeviceRecord :=
  let bound := if startsWith target.key "manual:" then
    (s.manualNodes.find? fun n => "manual:" ++ n.ip == target.key).bind (·.expectedMac) else none
  let expected := target.expectedMac.or bound
  match s.deviceByKey (expected.getD target.key) with
  | none => none
  | some record =>
    if expected.any fun mac => mac ≠ "" && toLowerCase record.mac ≠ toLowerCase mac then none
    else some record

def endpointFor (target : DeviceTarget) : Option String := (s.resolveTarget target).map (·.ip)

/-- Two records of one role are no target. -/
def targetByAlias (aliasName : String) : Option DeviceTarget :=
  match s.devices.filter (·.aliasName == aliasName) with
  | [record] => some (targetFor record)
  | _ => none

def activePtuTarget : Option DeviceTarget := s.targetByAlias "PTU"

def activePtuIp : Option String :=
  (s.activePtuTarget.bind s.endpointFor).filter fun ip => ip ≠ "" && !startsWith ip "169.254."

def activePtuStamp : TargetStamp :=
  targetStamp s.activePtuTarget (s.activePtuTarget.bind s.endpointFor)

end Target

def capturePtuOperation : Option PtuOperation :=
  match s.activePtuTarget with
  | none => none
  | some target =>
    match s.endpointFor target with
    | none => none
    | some ip => if ip = "" then none else some ⟨target, ip, s.ptuOperationGeneration⟩

def ptuOperationCurrent (operation : PtuOperation) : Bool :=
  operation.generation == s.ptuOperationGeneration &&
    match s.activePtuTarget with
    | none => false
    | some current => current.key == operation.target.key &&
      current.expectedMac == operation.target.expectedMac &&
      s.endpointFor current == some operation.targetIp

def speedCmd : SpeedAction → String
  | .up => "TS=" ++ toString s.ptuSpeedBig
  | .down => "TS=" ++ toString (-s.ptuSpeedBig)
  | .left => "PS=" ++ toString s.ptuSpeedBig
  | .right => "PS=" ++ toString (-s.ptuSpeedBig)

def cmd : QueuedPtuCmd → String
  | .move action _ _ => "C=V&" ++ s.speedCmd action
  | .stop _ => "C=V&PS=0&TS=0"
  | .halt .. => "PS=0&TS=0"
  | .speedLimits .. => "PU&TU&PL&TL"
  | .velocityMode .. => "C=V"

def stillWanted : QueuedPtuCmd → Bool
  | .move _ seq operation => s.ptuReleasedThrough < seq && s.ptuOperationCurrent operation
  | .stop operation | .speedLimits _ operation | .velocityMode _ operation =>
    s.ptuOperationCurrent operation
  | .halt .. => true

/-- The end of a query. -/
def queryDone (id : ℕ) : Ptz :=
  if s.ptuSpeedQuery.any (·.id == id) then { s with ptuSpeedQuery := none } else s

/-- A command that is dropped; a query ends with it. -/
def resolveNull : QueuedPtuCmd → Ptz
  | .speedLimits query _ | .velocityMode query _ => s.queryDone query
  | _ => s

def send (item : QueuedPtuCmd) : Ptz :=
  { s with
    ptuUnconfirmedMotion := if item.motionEffect = some .motion then
      insert item.stamp s.ptuUnconfirmedMotion else s.ptuUnconfirmedMotion
    inFlight := some item
    sent := ⟨item, s.cmd item⟩ :: s.sent }

/-- Send the first command still wanted. -/
def drainPtuQueue (s : Ptz) : List QueuedPtuCmd → Ptz
  | [] => { s with ptuQueue := [], inFlight := none }
  | item :: queue =>
    if s.stillWanted item && item.targetIp ≠ "" then { s with ptuQueue := queue }.send item
    else (s.resolveNull item).drainPtuQueue queue

def enqueuePtuCmd (item : QueuedPtuCmd) : Ptz :=
  let queue := s.ptuQueue ++ [item]
  if s.inFlight.isSome then { s with ptuQueue := queue } else s.drainPtuQueue queue

def purgePtuQueue : Ptz := s.ptuQueue.foldl resolveNull { s with ptuQueue := [] }

def haltPtuUnit (ip : String) (target : DeviceTarget) : Ptz :=
  let s := { s with ptuOperationGeneration := s.ptuOperationGeneration + 1 }
  s.purgePtuQueue.enqueuePtuCmd (.halt ip target 0)

def ptuCmd (item : QueuedPtuCmd) (operation : PtuOperation) : Ptz :=
  if s.ptuOperationCurrent operation then s.enqueuePtuCmd item else s.resolveNull item

/-- One query at a time for an endpoint and a generation. -/
def queryPtuSpeed : Ptz :=
  match s.capturePtuOperation with
  | none => s
  | some operation =>
    let stamp := targetStamp (some operation.target) (some operation.targetIp)
    if s.ptuSpeedQuery.any fun q => q.generation == operation.generation && q.stamp == stamp then s
    else
      let query := ⟨s.queries, operation.generation, stamp⟩
      { s with ptuSpeedQuery := some query, queries := s.queries + 1 }.ptuCmd
        (.speedLimits s.queries operation) operation

/-- A request waited for has ended: the rest of a query, or the second attempt of a halt. -/
def resume (item : QueuedPtuCmd) (reply : PtuReply) : Ptz :=
  match item, reply with
  | .speedLimits query operation, .ok panUpper tiltUpper =>
    if s.ptuOperationCurrent operation then
      let limit := fun upper : Option ℤ => (upper.filter (· ≠ 0)).getD 100
      { s with
        ptuSpeedBig := min (limit panUpper) (limit tiltUpper)
        ptuSpeedQueried := true }.ptuCmd (.velocityMode query operation) operation
    else s.queryDone query
  | .speedLimits query _, .failed => s.queryDone query
  | .velocityMode query _, _ => s.queryDone query
  | .halt ip target attempt, .failed =>
    if attempt = 0 then s.enqueuePtuCmd (.halt ip target 1)
    else
      let original : DeviceTarget := ⟨"manual:" ++ ip, none⟩
      if targetStamp (some target) (some ip) ∈ s.ptuUnconfirmedMotion ∨
          targetStamp (some original) (some ip) ∈ s.ptuUnconfirmedMotion then
        { s with toasts := s.toasts ++ ["PTU halt failed — " ++ ip ++
          " may still be moving; stop it via its web interface or power"] }
      else s
  | _, _ => s

/-- The request under way ends. The next one goes out before whoever waited goes on. -/
def settle (item : QueuedPtuCmd) (reply : PtuReply) : Ptz :=
  let acknowledged : Bool := match reply with
    | .ok .. => item.motionEffect = some .stop
    | .failed => false
  let s := { s with
    ptuUnconfirmedMotion := if acknowledged then s.ptuUnconfirmedMotion.erase item.stamp
      else s.ptuUnconfirmedMotion }
  (s.drainPtuQueue s.ptuQueue).resume item reply

def startMove (action : SpeedAction) : Ptz :=
  if s.activePtuIp = none then s else
  match s.capturePtuOperation with
  | none => s
  | some operation =>
    let s := { s with pressOperation := Function.update s.pressOperation action (some operation) }
    let s := if s.ptuSpeedQueried then s else s.queryPtuSpeed
    let seq := s.ptuPressSeq + 1
    { s with ptuPressSeq := seq, held := (action, seq) :: s.held }.enqueuePtuCmd
      (.move action seq operation)

def stopMove (action : SpeedAction) : Ptz :=
  let operation := s.pressOperation action
  let s := { s with
    ptuReleasedThrough := s.ptuPressSeq
    pressOperation := Function.update s.pressOperation action none
    held := s.held.filter (·.1 ≠ action) }
  match operation with
  | none => s
  | some operation => s.ptuCmd (.stop operation) operation

/-- The subscriber of the device list. -/
def onDevices : Ptz :=
  let current := s.activePtuStamp
  let changed := s.lastPtu ≠ some current
  let s := if changed then { s with
      lastPtu := some current
      ptuOperationGeneration := s.ptuOperationGeneration + 1
      ptuSpeedQueried := false } else s
  if changed || (!s.ptuSpeedQueried &&
      (s.activePtuTarget.bind s.resolveTarget).any (·.status == .live)) then s.queryPtuSpeed
  else s

inductive RoleAction where
  | cam
  | ptu
  | clear
  deriving DecidableEq

def RoleAction.aliasName : RoleAction → String
  | cam => "CAM"
  | ptu => "PTU"
  | clear => ""

/-- The units that a choice in the role menu takes the role from. -/
def lostPtus (key : String) (action : RoleAction) : List DeviceRecord :=
  match s.deviceByKey key with
  | none => []
  | some record =>
    let holders := s.devices.filter (·.aliasName == "PTU")
    let noOp := (action = .ptu ∧ record.aliasName = "PTU" ∧ holders.length = 1) ∨
      (action = .clear ∧ record.aliasName = "")
    if noOp then []
    else holders.filter fun r =>
      if r.mac = key then action.aliasName ≠ "PTU" else action.aliasName == "PTU"

/-- The part of a role change that comes before the alias is written. -/
def handleRoleSelection (key : String) (action : RoleAction) : Ptz :=
  (s.lostPtus key action).foldl (fun s outgoing => s.haltPtuUnit outgoing.ip (targetFor outgoing)) s

end Ptz

inductive PtzStep where
  | press (action : SpeedAction)
  | release (action : SpeedAction)
  | devices (records : List DeviceRecord)
  /-- The saved manual nodes are fetched anew. -/
  | config (nodes : List ManualNode)
  | selectRole (key : String) (action : Ptz.RoleAction)
  | reply (reply : PtuReply)

def Ptz.step [Lowercase] (s : Ptz) : PtzStep → Option Ptz
  | .press action => some (s.startMove action)
  | .release action => some (s.stopMove action)
  | .devices records => some { s with devices := records }.onDevices
  | .config nodes => some { s with manualNodes := nodes }
  | .selectRole key action => some (s.handleRoleSelection key action)
  | .reply reply => s.inFlight.map fun item => s.settle item reply

def ptzMachine [Lowercase] : Machine Ptz PtzStep where
  initial := .initial
  step := Ptz.step

end PocketStream
