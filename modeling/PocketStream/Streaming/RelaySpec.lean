import PocketStream.Binding.Reconcile
import PocketStream.Config.Bindings
import PocketStream.Native.Adapter
import PocketStream.Network.Readiness
import PocketStream.Streaming.Output
import PocketStream.Streaming.RelayHealth

/-! # The resolved start

Everything a listener is built from. The scope of the bind carries the revision
of the topology it was resolved under, and takes no part in the comparison of
two starts.
-/

namespace PocketStream

structure BoundAddress where
  id : String
  aliasName : String
  address : String
  deriving DecidableEq

inductive BindScope where
  | allAddresses (addresses : List BoundAddress) (topologyRevision : UInt64)
  | interface (id aliasName address : String) (topologyRevision : UInt64)
  | unknown (reason : String)
  deriving DecidableEq

/-- `scope_revision`: an unknown scope is of any revision. -/
def BindScope.revision (current : UInt64) : BindScope → UInt64
  | allAddresses _ revision | interface _ _ _ revision => revision
  | unknown _ => current

inductive ResolvedSource where
  | rtsp (url : String)
  | udp (port : UInt16)
  deriving DecidableEq

structure ResolvedStartSpec where
  source : ResolvedSource
  output : ResolvedOutput
  bindInterface : Option String
  bindIdentity : Option NativeIdentity
  bindScope : BindScope
  bindAddress : Option String
  advertisedIp : String
  username : String
  password : String

def percentHex (b : UInt8) : String :=
  "%" ++ ((hexPair b).toUpper)

def encodeQueryValue (value : String) : String :=
  (bytes value).foldl (fun encoded b =>
    if isAsciiDigit b || (0x41 ≤ b && b ≤ 0x5a) || (0x61 ≤ b && b ≤ 0x7a) || b == 0x2d ||
        b == 0x2e || b == 0x5f || b == 0x7e then encoded.push (Char.ofNat b.toNat)
    else encoded ++ percentHex b) ""

namespace ResolvedOutput

def protocol : ResolvedOutput → RestreamProtocol
  | rtsp _ _ => .rtsp
  | srt _ _ _ _ => .srt

def serverPort : ResolvedOutput → UInt16
  | rtsp port _ => port
  | srt port _ _ _ => port

def mountPath : ResolvedOutput → String
  | rtsp _ mountPath => mountPath
  | srt _ _ _ _ => ""

end ResolvedOutput

namespace ResolvedStartSpec

def protocol (spec : ResolvedStartSpec) : RestreamProtocol := spec.output.protocol

def serverPort (spec : ResolvedStartSpec) : UInt16 := spec.output.serverPort

def ingestKind (spec : ResolvedStartSpec) : RelayIngestKind :=
  match spec.source with
  | .rtsp _ => .rtsp
  | .udp _ => .udp

def udpIngestPort (spec : ResolvedStartSpec) : Option UInt16 :=
  match spec.source with
  | .rtsp _ => none
  | .udp port => some port

def clientUrl (spec : ResolvedStartSpec) : String :=
  match spec.output with
  | .rtsp port mountPath => s!"rtsp://{spec.advertisedIp}:{port}{mountPath}"
  | .srt port _ _ streamId =>
    if streamId = "" then s!"srt://{spec.advertisedIp}:{port}"
    else s!"srt://{spec.advertisedIp}:{port}?streamid={encodeQueryValue streamId}"

def displayUrl (spec : ResolvedStartSpec) : String :=
  match spec.output with
  | .rtsp port _ => s!"rtsp://{spec.advertisedIp}:{port}"
  | .srt port _ _ _ => s!"srt://{spec.advertisedIp}:{port}"

/-- `current == &candidate` once the scopes agree; identities compare without their alias. -/
def sameRuntime (a b : ResolvedStartSpec) : Bool :=
  a.source == b.source && a.output == b.output && a.bindInterface == b.bindInterface &&
    (match a.bindIdentity, b.bindIdentity with
      | some i, some j => nativeIdentityBEq.beq i j
      | none, none => true
      | _, _ => false) &&
    a.bindAddress == b.bindAddress && a.advertisedIp == b.advertisedIp &&
    a.username == b.username && a.password == b.password

end ResolvedStartSpec

def buildInputUrl (settings : AppSettings) : Fallible String :=
  match settings.stream.protocol with
  | .udp => .ok s!"udp://@:{settings.stream.udpPort}"
  | .rtsp =>
    let url :=
      s!"rtsp://{settings.stream.cameraIp}:{settings.stream.rtspPort}{settings.stream.rtspPath}"
    if settings.stream.cameraIp = "" then .ok url
    else
      match parseCameraIp settings.stream.cameraIp with
      | .error e => .error (.stream e.toText)
      | .ok _ => .ok url

def streamTarget (settings : AppSettings) : Option CameraTarget :=
  if settings.stream.protocol = .rtsp then
    some
      { key := settings.stream.cameraMac.getD ("manual:" ++ settings.stream.cameraIp)
        expectedMac := settings.stream.cameraMac
        ip := settings.stream.cameraIp }
  else none

def selectedRestreamRuntimeChanged (old prospective : AppSettings) : Bool :=
  match old.restreamProtocol with
  | .rtsp => old.rtspServer != prospective.rtspServer
  | .srt => old.srtServer != prospective.srtServer

def validateRestreamSwitchTarget (settings : AppSettings) (wasDesired : Bool) : Fallible Unit :=
  if !wasDesired then .ok ()
  else if !settings.rtspServer.enabled then
    .error (.validation "Re-stream Server Enable must be on before switching")
  else validateSelectedRestreamStartable settings

def resolvedStartIsHealthyNoop (desired : Bool) (currentSpec : Option ResolvedStartSpec)
    (candidate : ResolvedStartSpec) (health : Option RelayHealth)
    (listenerGeneration : Option UInt64) (listenerLoopAlive : Bool) : Bool :=
  desired && currentSpec.any (·.sameRuntime candidate) &&
    health.any (fun h => h.state == .listening || h.state == .streaming) &&
    health.map (·.serverGeneration) == listenerGeneration && listenerLoopAlive

def restreamStopTarget (stopsDesired : Bool) (desiredGeneration liveGeneration : Option UInt64) :
    Option UInt64 :=
  if stopsDesired then liveGeneration
  else if liveGeneration ≠ desiredGeneration then liveGeneration
  else none

end PocketStream
