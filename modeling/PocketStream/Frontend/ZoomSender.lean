import PocketStream.Frontend.PtuQueue

/-! # The zoom sender

A request for a zoom waits in a slot of its own, where the next one replaces it. One
loop takes it out and sends it, unless its text is that of the last attempt. That
text is kept before the outcome is known and leaves out the expected MAC, so that a
repeat is lost after a failure or a change of the camera.
-/

namespace PocketStream

open Foundation

/-- A request, with the camera and the endpoint of its time. -/
structure ZoomRequest where
  ticket : ℕ
  percent : ℤ
  quiet : Bool
  target : Option DeviceTarget
  ip : Option String
  deriving DecidableEq

namespace ZoomRequest

/-- The text that marks repeats. -/
def stamp (r : ZoomRequest) : String :=
  (r.target.elim "undefined" (·.key)) ++ ":" ++ r.ip.getD "null" ++ ":" ++ toString r.percent

/-- Where the request goes, if it has a target and an endpoint. -/
def address (r : ZoomRequest) : Option (DeviceTarget × String) :=
  match r.ip.filter (· ≠ ""), r.target with
  | some ip, some target => some (target, ip)
  | _, _ => none

/-- The same identity, endpoint and value. -/
def SameAs (r r' : ZoomRequest) : Prop :=
  r.target = r'.target ∧ r.ip = r'.ip ∧ r.percent = r'.percent

instance (r r' : ZoomRequest) : Decidable (r.SameAs r') := inferInstanceAs (Decidable (_ ∧ _))

end ZoomRequest

def ZOOM_MAX : ℤ := 31424

/-- `Math.round((percent / 100) * ZOOM_MAX)`, which is never near a tie. -/
def zoomPosition (percent : ℤ) : ℤ := (percent * ZOOM_MAX + 50) / 100

structure ZoomSend where
  request : ZoomRequest
  target : DeviceTarget
  ip : String
  position : ℤ
  deriving DecidableEq

/-- What the sender reads of the device list and the saved positions. -/
structure ZoomScene where
  activeCamTarget : Option DeviceTarget
  resolveTarget : DeviceTarget → Option DeviceRecord
  deviceByKey : String → Option DeviceRecord
  zoomPositions : String → Option ℤ

namespace ZoomScene

variable (c : ZoomScene)

def endpointFor (target : DeviceTarget) : Option String := (c.resolveTarget target).map (·.ip)

def cameraIp : Option String :=
  (c.activeCamTarget.bind c.endpointFor).filter fun ip => ip ≠ "" && !startsWith ip "169.254."

def camLive : Bool := (c.activeCamTarget.bind c.resolveTarget).any (·.status == .live)

/-- The position that a restore sends. -/
def restored : Option ℤ := if c.camLive then c.cameraIp.bind c.zoomPositions else none

end ZoomScene

namespace ZoomSender

/-- What a suspended loop waits for. -/
inductive Wait where
  | sending (r : ZoomRequest)
  /-- There was nothing to send to, and the loop goes on at once. -/
  | unsent
  | gap
  deriving DecidableEq

inductive Event where
  | requested (r : ZoomRequest)
  | sent (x : ZoomSend)
  | unsent (r : ZoomRequest)
  /-- Taken for a repeat of the last attempt. -/
  | suppressed (r : ZoomRequest)
  | reply (r : ZoomRequest) (ok : Bool)
  deriving DecidableEq

end ZoomSender

/-- The variables of `setupZoomSlider`, the suspended loops and what happened, newest first. -/
structure ZoomSender where
  scene : ZoomScene
  slider : ℤ
  inFlight : Bool
  queued : Option ZoomRequest
  lastSent : Option String
  pendingRestoreKey : Option String
  zoomErrorToasted : Bool
  toasts : List String
  waits : List ZoomSender.Wait
  next : ℕ
  log : List ZoomSender.Event

namespace ZoomSender

variable (s : ZoomSender)

def initial : ZoomSender where
  scene := ⟨none, fun _ => none, fun _ => none, fun _ => none⟩
  slider := 0
  inFlight := false
  queued := none
  lastSent := none
  pendingRestoreKey := none
  zoomErrorToasted := false
  toasts := []
  waits := []
  next := 0
  log := []

/-- One toast for a row of failures, and none for a restore. -/
def toastError (quiet : Bool) (text : String) : ZoomSender :=
  if !quiet && !s.zoomErrorToasted then
    { s with toasts := s.toasts ++ [text], zoomErrorToasted := true }
  else s

def sendZoomPosition (r : ZoomRequest) : ZoomSender :=
  match r.address with
  | none =>
    let s := s.toastError r.quiet "Select a CAM IP to use zoom"
    { s with waits := .unsent :: s.waits, log := .unsent r :: s.log }
  | some (target, ip) =>
    { s with
      waits := .sending r :: s.waits
      log := .sent ⟨r, target, ip, zoomPosition r.percent⟩ :: s.log }

/-- The loop, up to the next thing that it waits for. -/
def drain : ZoomSender :=
  match s.queued with
  | none => { s with inFlight := false }
  | some r =>
    if s.lastSent = some r.stamp then
      { s with queued := none, inFlight := false, log := .suppressed r :: s.log }
    else { s with queued := none, lastSent := some r.stamp }.sendZoomPosition r

def newRequest (percent : ℤ) (quiet : Bool) : ZoomRequest where
  ticket := s.next
  percent := percent
  quiet := quiet
  target := s.scene.activeCamTarget
  ip := s.scene.activeCamTarget.bind s.scene.endpointFor

def request (percent : ℤ) (quiet : Bool) : ZoomSender :=
  let r := s.newRequest percent quiet
  let s := { s with next := s.next + 1, queued := some r, log := .requested r :: s.log }
  if s.inFlight then s else { s with inFlight := true }.drain

/-- A suspended loop goes on. After a send it leaves the camera a pause if there is more. -/
def resume (wait : Wait) : ZoomSender :=
  let s := { s with waits := s.waits.erase wait }
  if wait ≠ .gap ∧ s.queued.isSome then { s with waits := .gap :: s.waits } else s.drain

/-- The reply to a send, with the text of its error. -/
def reply (r : ZoomRequest) : Option String → ZoomSender
  | none => { s with zoomErrorToasted := false, log := .reply r true :: s.log }
  | some error =>
    { s with log := .reply r false :: s.log }.toastError r.quiet ("Zoom failed: " ++ error)

def settle (wait : Wait) (error : Option String) : ZoomSender :=
  match wait with
  | .sending r => (s.reply r error).resume wait
  | .unsent | .gap => s.resume wait

def applySavedZoom : ZoomSender :=
  match s.scene.cameraIp.bind s.scene.zoomPositions with
  | none => s
  | some saved =>
    if s.scene.camLive then { s with slider := saved, pendingRestoreKey := none }.request saved true
    else { s with slider := saved, pendingRestoreKey := s.scene.activeCamTarget.map (·.key) }

/-- The camera that a restore waits for has come up. -/
def awaited : Bool :=
  (s.pendingRestoreKey.filter (· ≠ "")).any fun key =>
    (s.scene.deviceByKey key).any (·.status == .live)

/-- The camera that a restore waits for is still the one selected. -/
def stillSelected : Bool := s.scene.activeCamTarget.map (·.key) == s.pendingRestoreKey

/-- The subscriber of the device list. -/
def onDevices : ZoomSender :=
  if !s.awaited then s
  else if !s.stillSelected then { s with pendingRestoreKey := none }
  else s.applySavedZoom

inductive Call where
  /-- The slider is dragged, a preset recalled or the zoom parked. -/
  | request (percent : ℤ)
  | applySavedZoom
  | scene (scene : ZoomScene)
  | onDevices
  | settle (wait : Wait) (error : Option String)

def step (s : ZoomSender) : Call → Option ZoomSender
  | .request percent => some ({ s with slider := percent }.request percent false)
  | .applySavedZoom => some s.applySavedZoom
  | .scene scene => some { s with scene := scene }
  | .onDevices => some s.onDevices
  | .settle wait error => if wait ∈ s.waits then some (s.settle wait error) else none

def machine : Machine ZoomSender Call where
  initial := initial
  step := step

/-- The request whose turn a call brings. -/
def turn : Call → Option ZoomRequest
  | .request percent => if s.inFlight then none else some (s.newRequest percent false)
  | .applySavedZoom => if s.inFlight then none else s.scene.restored.map (s.newRequest · true)
  | .onDevices =>
    if s.inFlight ∨ !s.awaited ∨ !s.stillSelected then none
    else s.scene.restored.map (s.newRequest · true)
  | .settle .gap _ => s.queued
  | _ => none

/-- The last attempt and whether it succeeded. -/
def lastAttempt : List Event → Option (ZoomRequest × Bool)
  | [] => none
  | .reply r ok :: _ => some (r, ok)
  | .unsent r :: _ => some (r, false)
  | _ :: log => lastAttempt log

def lastSucceeded : List Event → Option ZoomRequest
  | [] => none
  | .reply r true :: _ => some r
  | _ :: log => lastSucceeded log

/-- A request that reads like the last attempt repeats it, and it had succeeded. -/
def Repeats (r : ZoomRequest) : Prop :=
  s.lastSent = some r.stamp → r.address ≠ none →
    ∃ a ∈ lastAttempt s.log, a.2 = true ∧ a.1.SameAs r

/-- No request whose turn comes is lost to a failed attempt or to another camera. -/
def Faithful (s : ZoomSender) (call : Call) : Prop := ∀ r ∈ s.turn call, s.Repeats r

instance (r : ZoomRequest) : Decidable (s.Repeats r) := inferInstanceAs (Decidable (_ → _ → _))

instance (call : Call) : Decidable (s.Faithful call) :=
  inferInstanceAs (Decidable (∀ r ∈ s.turn call, s.Repeats r))

end ZoomSender

end PocketStream
