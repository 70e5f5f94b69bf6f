import PocketStream.Foundation.Tickets
import PocketStream.Frontend.PtuQueue

/-! # The command queue of the unit

Any caller enqueues any command, with any condition on its turn. One loop takes the
commands from the queue and waits for each request it sends. It is started by the
first command that finds it stopped, and the queue may be purged from under it.
-/

namespace PocketStream

open Foundation

/-- What a command reads when its turn comes; `rest` is whatever else the program knows. -/
structure PtuScene (ω : Type) where
  ptuSpeedBig : ℤ
  ptuPressSeq : ℕ
  ptuReleasedThrough : ℕ
  ptuOperationGeneration : ℕ
  activePtuTarget : Option DeviceTarget
  endpointFor : DeviceTarget → Option String
  rest : ω

namespace PtuScene

variable {ω : Type} (c : PtuScene ω)

def activePtuIp : Option String :=
  (c.activePtuTarget.bind c.endpointFor).filter fun ip => ip ≠ "" && !startsWith ip "169.254."

def capturePtuOperation : Option PtuOperation :=
  match c.activePtuTarget with
  | none => none
  | some target =>
    match c.endpointFor target with
    | none => none
    | some ip => if ip = "" then none else some ⟨target, ip, c.ptuOperationGeneration⟩

def ptuOperationCurrent (operation : PtuOperation) : Bool :=
  operation.generation == c.ptuOperationGeneration &&
    match c.activePtuTarget with
    | none => false
    | some current => current.key == operation.target.key &&
      current.expectedMac == operation.target.expectedMac &&
      c.endpointFor current == some operation.targetIp

def speedCmd : SpeedAction → String
  | .up => "TS=" ++ toString c.ptuSpeedBig
  | .down => "TS=" ++ toString (-c.ptuSpeedBig)
  | .left => "PS=" ++ toString c.ptuSpeedBig
  | .right => "PS=" ++ toString (-c.ptuSpeedBig)

end PtuScene

namespace PtuFifo

variable (ω : Type)

/-- The options of `enqueuePtuCmd`. -/
structure Opts where
  stillWanted : Option (PtuScene ω → Bool)
  targetIp : Option String
  target : Option DeviceTarget
  motionEffect : Option PtuMotionEffect

/-- A command in the queue; its ticket stands for the promise given to the caller. -/
structure Item where
  ticket : ℕ
  cmd : PtuScene ω → String
  stillWanted : Option (PtuScene ω → Bool)
  targetIp : Option String
  target : Option DeviceTarget
  motionEffect : Option PtuMotionEffect

/-- How a promise settles: with null, with the reply, or with the error. -/
inductive Outcome where
  | null
  | result
  | rejected
  deriving DecidableEq

/-- A request that went out. -/
structure Sent where
  ticket : ℕ
  ip : String
  cmd : String
  stamp : TargetStamp
  effect : Option PtuMotionEffect
  deriving DecidableEq

inductive Event where
  /-- A press of the D-pad and the ticket of its move. -/
  | press (ticket seq : ℕ)
  | release
  | sent (x : Sent)
  | reply (ticket : ℕ) (ok : Bool)
  /-- Purged, unwanted or without a target. -/
  | passedOver (ticket : ℕ)
  | settled (ticket : ℕ) (outcome : Outcome)
  deriving DecidableEq

/-- An attempt of `haltPtuUnit` that waits for its promise. -/
structure Halt where
  ticket : ℕ
  ip : String
  target : DeviceTarget
  attempt : ℕ
  deriving DecidableEq

end PtuFifo

/-- The queue of `ptz.ts` and what its commands read. Every loop that waits for a request keeps it
in `inFlight`; the log has the newest event first. -/
structure PtuFifo (ω : Type) where
  scene : PtuScene ω
  pressOperation : SpeedAction → Option PtuOperation
  ptuQueue : List (PtuFifo.Item ω)
  ptuDraining : Bool
  ptuUnconfirmedMotion : Finset TargetStamp
  inFlight : List (PtuFifo.Item ω)
  halts : List PtuFifo.Halt
  next : ℕ
  toasts : List String
  log : List PtuFifo.Event

namespace PtuFifo

variable {ω : Type} (s : PtuFifo ω)

def initial (rest : ω) : PtuFifo ω where
  scene := ⟨100, 0, 0, 0, none, fun _ => none, rest⟩
  pressOperation := fun _ => none
  ptuQueue := []
  ptuDraining := false
  ptuUnconfirmedMotion := ∅
  inFlight := []
  halts := []
  next := 0
  toasts := []
  log := []

/-- The promise of a command that is not sent settles with null. -/
def passOver (item : Item ω) : PtuFifo ω :=
  { s with log := .settled item.ticket .null :: .passedOver item.ticket :: s.log }

def send (item : Item ω) (ip : String) (target : DeviceTarget) : PtuFifo ω :=
  let stamp := targetStamp (some target) (some ip)
  { s with
    ptuUnconfirmedMotion :=
      if item.motionEffect = some .motion then insert stamp s.ptuUnconfirmedMotion
      else s.ptuUnconfirmedMotion
    inFlight := item :: s.inFlight
    log := .sent ⟨item.ticket, ip, item.cmd s.scene, stamp, item.motionEffect⟩ :: s.log }

/-- The loop, up to the next request that it waits for. -/
def drainPtuQueue (s : PtuFifo ω) : List (Item ω) → PtuFifo ω
  | [] => { s with ptuQueue := [], ptuDraining := false }
  | item :: queue =>
    if item.stillWanted.any fun wanted => !wanted s.scene then
      (s.passOver item).drainPtuQueue queue
    else
      match item.targetIp.filter (· ≠ ""), item.target with
      | some ip, some target => { s with ptuQueue := queue }.send item ip target
      | _, _ => (s.passOver item).drainPtuQueue queue

/-- The entry of the queue, with the target and the endpoint of this moment. -/
def item (cmd : PtuScene ω → String) (opts : Opts ω) : Item ω :=
  let target := opts.target.or s.scene.activePtuTarget
  { ticket := s.next
    cmd := cmd
    stillWanted := opts.stillWanted
    targetIp := opts.targetIp.or (target.bind s.scene.endpointFor)
    target := target
    motionEffect := opts.motionEffect }

def enqueuePtuCmd (cmd : PtuScene ω → String) (opts : Opts ω) : PtuFifo ω :=
  let queue := s.ptuQueue ++ [s.item cmd opts]
  let s := { s with next := s.next + 1, ptuQueue := queue }
  if s.ptuDraining then s else { s with ptuDraining := true }.drainPtuQueue queue

def purgePtuQueue : PtuFifo ω := s.ptuQueue.foldl passOver { s with ptuQueue := [] }

/-- One attempt of a halt: its command, and who waits for it. -/
def tryHalt (ip : String) (target : DeviceTarget) (attempt : ℕ) : PtuFifo ω :=
  { s with halts := ⟨s.next, ip, target, attempt⟩ :: s.halts }.enqueuePtuCmd
    (fun _ => "PS=0&TS=0") ⟨none, some ip, some target, some .stop⟩

def haltPtuUnit (ip : String) (target : DeviceTarget) : PtuFifo ω :=
  { s with scene := { s.scene with
    ptuOperationGeneration := s.scene.ptuOperationGeneration + 1 } }.purgePtuQueue.tryHalt ip target 0

/-- The promise of an attempt has settled: the halt is over, is tried again or raises the alarm. -/
def haltSettled (halt : Halt) (outcome : Outcome) : PtuFifo ω :=
  let s := { s with halts := s.halts.erase halt }
  if outcome ≠ .rejected then s
  else if halt.attempt = 0 then s.tryHalt halt.ip halt.target 1
  else
    let manual : DeviceTarget := ⟨"manual:" ++ halt.ip, none⟩
    if targetStamp (some halt.target) (some halt.ip) ∈ s.ptuUnconfirmedMotion ∨
        targetStamp (some manual) (some halt.ip) ∈ s.ptuUnconfirmedMotion then
      { s with toasts := s.toasts ++ ["PTU halt failed — " ++ halt.ip ++
        " may still be moving; stop it via its web interface or power"] }
    else s

def ptuCmd (cmd : String) (operation : PtuOperation) (motionEffect : Option PtuMotionEffect) :
    PtuFifo ω :=
  if s.scene.ptuOperationCurrent operation then
    s.enqueuePtuCmd (fun _ => cmd) ⟨some (·.ptuOperationCurrent operation),
      some operation.targetIp, some operation.target, motionEffect⟩
  else s

/-- A query of the limits that the press starts is a command enqueued just before. -/
def startMove (action : SpeedAction) : PtuFifo ω :=
  if s.scene.activePtuIp = none then s else
  match s.scene.capturePtuOperation with
  | none => s
  | some operation =>
    let seq := s.scene.ptuPressSeq + 1
    { s with
      pressOperation := Function.update s.pressOperation action (some operation)
      scene := { s.scene with ptuPressSeq := seq }
      log := .press s.next seq :: s.log }.enqueuePtuCmd
        (fun c => "C=V&" ++ c.speedCmd action)
        ⟨some fun c => c.ptuReleasedThrough < seq && c.ptuOperationCurrent operation,
          some operation.targetIp, some operation.target, some .motion⟩

def stopMove (action : SpeedAction) : PtuFifo ω :=
  let operation := s.pressOperation action
  let s := { s with
    scene := { s.scene with ptuReleasedThrough := s.scene.ptuPressSeq }
    pressOperation := Function.update s.pressOperation action none
    log := .release :: s.log }
  match operation with
  | none => s
  | some operation => s.ptuCmd "C=V&PS=0&TS=0" operation (some .stop)

/-- A request ends: the risk is updated before the promise settles. -/
def answer (item : Item ω) (ok : Bool) : PtuFifo ω :=
  { s with
    inFlight := s.inFlight.filter (·.ticket ≠ item.ticket)
    ptuUnconfirmedMotion :=
      if ok ∧ item.motionEffect = some PtuMotionEffect.stop then
        s.ptuUnconfirmedMotion.erase (targetStamp item.target item.targetIp)
      else s.ptuUnconfirmedMotion
    log := .settled item.ticket (if ok then .result else .rejected) ::
      .reply item.ticket ok :: s.log }

/-- The loop that waited for the request goes on. -/
def reply (item : Item ω) (ok : Bool) : PtuFifo ω :=
  (s.answer item ok).drainPtuQueue s.ptuQueue

inductive Call (ω : Type) where
  | enqueuePtuCmd (cmd : PtuScene ω → String) (opts : Opts ω)
  | purgePtuQueue
  | haltPtuUnit (ip : String) (target : DeviceTarget)
  | haltSettled (halt : Halt) (outcome : Outcome)
  | startMove (action : SpeedAction)
  | stopMove (action : SpeedAction)
  /-- The device list, the speed limits or anything else has changed. -/
  | scene (ptuSpeedBig : ℤ) (activePtuTarget : Option DeviceTarget)
      (endpointFor : DeviceTarget → Option String) (rest : ω)
  /-- Another unit has the role: older operations are retired. -/
  | retire
  | reply (ticket : ℕ) (ok : Bool)

def step (s : PtuFifo ω) : Call ω → Option (PtuFifo ω)
  | .enqueuePtuCmd cmd opts => some (s.enqueuePtuCmd cmd opts)
  | .purgePtuQueue => some s.purgePtuQueue
  | .haltPtuUnit ip target => some (s.haltPtuUnit ip target)
  | .haltSettled halt outcome =>
    if halt ∈ s.halts ∧ .settled halt.ticket outcome ∈ s.log then
      some (s.haltSettled halt outcome)
    else none
  | .startMove action => some (s.startMove action)
  | .stopMove action => some (s.stopMove action)
  | .scene ptuSpeedBig activePtuTarget endpointFor rest =>
    some { s with scene := { s.scene with
      ptuSpeedBig := ptuSpeedBig
      activePtuTarget := activePtuTarget
      endpointFor := endpointFor
      rest := rest } }
  | .retire => some { s with scene := { s.scene with
      ptuOperationGeneration := s.scene.ptuOperationGeneration + 1 } }
  | .reply ticket ok =>
    (s.inFlight.find? (·.ticket = ticket)).map fun item => s.reply item ok

def machine (rest : ω) : Machine (PtuFifo ω) (Call ω) where
  initial := initial rest
  step := step

end PtuFifo

end PocketStream
