import PocketStream.Config.Writers
import PocketStream.Foundation.Routine
import PocketStream.Network.CaptureSession
import PocketStream.Network.DataSources
import Mathlib.Data.List.FinRange

/-! # The packet monitor

A capture is built by a sequence of calls to the driver, each of which may fail.
The results of the teardown calls are garbage on real systems, and nothing looks
at them. The thread of the listener builds a capture, reports how it is scoped,
waits for the shutdown and takes it down.
-/

namespace PocketStream

open Foundation Routine

namespace PktMon

open Capture (ScopeOutcome CaptureMode)

/-- `PmHandle` -/
abbrev Handle := ℕ

def apiVersion10 : UInt32 := 0x00010000

/-! ### The constraint -/

def constraintSize : ℕ := 216

def constraintIsPresentOffset : ℕ := 128

def isPresentEthertypeBit : ℕ := 1 <<< 3

def constraintEthertypeOffset : ℕ := 146

def ethertypeArp : ℕ := 0x0806

/-- `n` in `width` bytes, the least significant first. -/
def toLeBytes (width n : ℕ) : List UInt8 :=
  (List.range width).map fun i => UInt8.ofNat (n / 256 ^ i)

/-- `bytes[offset..][..value.len()].copy_from_slice(value)` -/
def writeAt (bytes : List UInt8) (offset : ℕ) (value : List UInt8) : List UInt8 :=
  bytes.take offset ++ value ++ bytes.drop (offset + value.length)

def buildArpConstraint : List UInt8 :=
  let c := List.replicate constraintSize 0
  let c := writeAt c constraintIsPresentOffset (toLeBytes 4 isPresentEthertypeBit)
  writeAt c constraintEthertypeOffset (toLeBytes 2 ethertypeArp)

/-! ### The join -/

structure CaptureScope where
  mac : Option MacBytes
  displayName : String
  description : String
  deriving DecidableEq

inductive JoinFailure where
  | noIdentity
  | noMatch
  | ambiguous (n : ℕ)
  deriving DecidableEq

/-- `impl Display for JoinFailure` -/
def JoinFailure.display : JoinFailure → String
  | noIdentity => "selected adapter has no usable MAC to match a capture source"
  | noMatch => "no present capture source matched the selected adapter's MAC"
  | ambiguous n => s!"{n} capture sources matched the selected adapter's MAC (ambiguous)"

section join

variable (entries : List DataSourceEntry)

def selectScopedSource (scope : CaptureScope) : Except JoinFailure (Fin entries.length) :=
  match scope.mac with
  | none => .error .noIdentity
  | some mac =>
    let found := (List.finRange entries.length).filter fun (i : Fin entries.length) =>
      (entries.get i).isPresent != 0 && (entries.get i).mac == some mac
    match found with
    | [i] => .ok i
    | [] => .error .noMatch
    | _ => .error (.ambiguous found.length)

/-- `char::is_whitespace` -/
def isWhitespace (c : Char) : Bool :=
  let n := c.toNat
  (0x9 ≤ n && n ≤ 0xD) || n == 0x20 || n == 0x85 || n == 0xA0 || n == 0x1680 ||
    (0x2000 ≤ n && n ≤ 0x200A) || n == 0x2028 || n == 0x2029 || n == 0x202F || n == 0x205F ||
    n == 0x3000

/-- `str::trim` -/
def trimmed (text : String) : String :=
  String.ofList ((text.toList.dropWhile isWhitespace).reverse.dropWhile isWhitespace).reverse

/-- One of the names that are wanted is a name of the entry. -/
def CaptureScope.names (scope : CaptureScope) (entry : DataSourceEntry) : Bool :=
  [scope.displayName, scope.description].any fun wanted =>
    trimmed wanted != "" && [entry.name, entry.description].any fun actual =>
      eqIgnoreAsciiCase (trimmed wanted) (trimmed actual)

def selectNamedSource (scope : CaptureScope) : Option (Fin entries.length) :=
  let found := (List.finRange entries.length).filter fun (i : Fin entries.length) =>
    (entries.get i).isPresent != 0 && scope.names (entries.get i)
  match found with
  | [i] => some i
  | _ => none

/-- The entry that a capture is scoped to, and whether by name only. -/
def joinSource (scope : CaptureScope) : Except String (Fin entries.length × Bool) :=
  match selectScopedSource entries scope with
  | .ok i => .ok (i, false)
  | .error reason =>
    match selectNamedSource entries scope with
    | some i => .ok (i, true)
    | none =>
      let reason := reason.display
      .error s!"{reason}; no unique present name/description match"

end join

/-- The list in a buffer. The parse reads nothing outside it. -/
def sourceList (buf : Region) : Except String (List DataSourceEntry) :=
  match parseDataSourceList buf with
  | .ok result => result
  | .error _ => .error ""

theorem parseDataSourceList_sourceList (buf : Region) :
    parseDataSourceList buf = .ok (sourceList buf) := by
  obtain ⟨result, h, -⟩ := parseDataSourceList_spec buf
  rw [sourceList, h]

/-! ### The calls -/

structure RealtimeStreamConfiguration where
  userContext : ℕ
  bufferSizeMultiplier : UInt16
  truncationSize : UInt16
  deriving DecidableEq

/-- The exports of the driver, and what else the thread of the listener does. -/
inductive CaptureCall where
  | load
  | initializeApi (version : UInt32)
  | uninitializeApi (handle : Handle)
  | createLiveSession (handle : Handle) (name : List UInt16)
  | closeSessionHandle (session : Handle)
  | enumDataSources (handle : Handle) (kind : UInt32) (showHidden : Bool) (capacity : ℕ)
  | addSingleDataSource (session : Handle) (list : Region) (offset : ℕ)
  | addCaptureConstraint (session : Handle) (constraint : List UInt8)
  | createRealtimeStream (handle : Handle) (config : RealtimeStreamConfiguration)
  | attachOutputToSession (session stream : Handle)
  | closeRealtimeStream (stream : Handle)
  | setSessionActive (session : Handle) (active : Bool)
  | storeScopeProven (proven : Bool)
  | sendActivation (result : Except String ScopeOutcome)
  | awaitShutdown
  | dropContext

/-- What an enumeration writes: the size that it needs, and a buffer of the capacity. -/
structure Enumeration (capacity : ℕ) where
  hr : Int32
  needed : ℕ
  list : Region
  length_list : capacity < 2 ^ 64 → list.bytes.length = capacity

/-- An `HRESULT`, with the handle that a call writes. -/
@[reducible] def CaptureCall.Reply : CaptureCall → Type
  | load => Except String Unit
  | initializeApi _ | createLiveSession _ _ | createRealtimeStream _ _ => Int32 × Handle
  | enumDataSources _ _ _ capacity => Enumeration capacity
  | storeScopeProven _ | sendActivation _ | awaitShutdown | dropContext => Unit
  | _ => Int32

abbrev CaptureRoutine := Routine CaptureCall CaptureCall.Reply Unit String

/-- `{hr:08X}` -/
def hresult (hr : Int32) : String :=
  let digits := upperHex hr.toUInt32.toNat
  String.ofList (List.replicate (8 - digits.length) '0') ++ digits

def issue (call : CaptureCall) : CaptureRoutine call.Reply := attempt call .ok

/-- `let _ = …`, for each call of a teardown. -/
def release (calls : List CaptureCall) : CaptureRoutine Unit :=
  each (fun call => attempt call fun _ => .ok ()) calls

/-- A call with an `HRESULT`, and the teardown that its failure asks for. -/
def checked (call : CaptureCall) (hr : call.Reply → Int32) (name : String)
    (teardown : List CaptureCall) : CaptureRoutine call.Reply := do
  let reply ← issue call
  if hr reply ≠ 0 then
    release teardown
    let code := hresult (hr reply)
    throw s!"{name}: HRESULT 0x{code}"
  else return reply

/-- `s.encode_utf16().chain(once(0))` -/
def wide (text : String) : List UInt16 :=
  (text.toList.flatMap fun c =>
    if c.toNat < 0x10000 then [UInt16.ofNat c.toNat]
    else [UInt16.ofNat (0xD800 + (c.toNat - 0x10000) / 0x400),
      UInt16.ofNat (0xDC00 + (c.toNat - 0x10000) % 0x400)]) ++ [0]

def load : CaptureRoutine Unit := attempt .load id

/-! ### A capture -/

def dataSourceKindNetworkInterface : UInt32 := 1

def dataSourceEnumMaxBytes : ℕ := 4 * 1024 * 1024

/-- The list that was enumerated, with the offset of the entry joined in it. -/
structure ScopedSource where
  list : Region
  offset : ℕ
  outcome : ScopeOutcome

def enumerateAndJoin (handle : Handle) (scope : CaptureScope) : CaptureRoutine ScopedSource := do
  let size : Enumeration 0 ← issue (.enumDataSources handle dataSourceKindNetworkInterface false 0)
  let code := hresult size.hr
  let needed := size.needed
  refuseIf (needed = 0 ∨ dataSourceEnumMaxBytes < needed)
    s!"PacketMonitorEnumDataSources size query returned {needed} bytes (HRESULT 0x{code})"
  let filled : Enumeration needed ← checked
    (.enumDataSources handle dataSourceKindNetworkInterface false needed)
    Enumeration.hr "PacketMonitorEnumDataSources" []
  let entries ← require (sourceList filled.list)
  let joined ← require (joinSource entries scope)
  let entry := entries.get joined.1
  return ⟨filled.list, entry.offset,
    if joined.2 then .scopedByName entry.id else .selectedInterface (some entry.id)⟩

structure CaptureSession where
  handle : Handle
  session : Handle
  stream : Handle
  deriving DecidableEq

/-- The source to scope to, without which the library handle is released. -/
def scopedSource (handle : Handle) : Option CaptureScope → CaptureRoutine (Option ScopedSource)
  | none => return none
  | some scope => do
    match ← caught (enumerateAndJoin handle scope) with
    | .ok found => return some found
    | .error e =>
      release [.uninitializeApi handle]
      throw e

/-- `if let Some((buf, offset, _)) = &scoped_source` -/
def attachSource (handle session : Handle) : Option ScopedSource → CaptureRoutine Unit
  | none => return ()
  | some source => do
    let _ ← checked (.addSingleDataSource session source.list source.offset) id
      "PacketMonitorAddSingleDataSourceToSession"
      [.closeSessionHandle session, .uninitializeApi handle]
    return ()

def tryStart (name : String) (config : RealtimeStreamConfiguration) (scope : Option CaptureScope) :
    CaptureRoutine (CaptureSession × ScopeOutcome) := do
  let opened ← checked (.initializeApi apiVersion10) Prod.fst "PacketMonitorInitialize" []
  let handle := opened.2
  let source ← scopedSource handle scope
  let created ← checked (.createLiveSession handle (wide name)) Prod.fst
    "PacketMonitorCreateLiveSession" [.uninitializeApi handle]
  let session := created.2
  let _ ← checked (.addCaptureConstraint session buildArpConstraint) id
    "PacketMonitorAddCaptureConstraint" [.closeSessionHandle session, .uninitializeApi handle]
  attachSource handle session source
  let streamed ← checked (.createRealtimeStream handle config) Prod.fst
    "PacketMonitorCreateRealtimeStream" [.closeSessionHandle session, .uninitializeApi handle]
  let stream := streamed.2
  let teardown :=
    [.closeRealtimeStream stream, .closeSessionHandle session, .uninitializeApi handle]
  let _ ← checked (.attachOutputToSession session stream) id
    "PacketMonitorAttachOutputToSession" teardown
  let _ ← checked (.setSessionActive session true) id "PacketMonitorSetSessionActive" teardown
  return (⟨handle, session, stream⟩, match source with
    | none => .unscopedFallback "capture started without a scoped source"
    | some source => source.outcome)

namespace CaptureSession

/-- `CaptureSession::start` -/
def start (name : String) (config : RealtimeStreamConfiguration) (scope : CaptureScope)
    (mode : CaptureMode) : CaptureRoutine (CaptureSession × ScopeOutcome) := do
  load
  match mode with
  | .forcedUnscoped =>
    let started ← tryStart name config none
    return (started.1, .unscopedFallback "unscoped demanded by the capture-restart ladder")
  | .preferScoped =>
    match ← caught (tryStart name config (some scope)) with
    | .ok started => return started
    | .error scopedReason =>
      match ← caught (tryStart name config none) with
      | .ok started => return (started.1, .unscopedFallback scopedReason)
      | .error e =>
        throw s!"scoped start failed ({scopedReason}); unscoped fallback also failed: {e}"

/-- `CaptureSession::stop` -/
def stop (capture : CaptureSession) : CaptureRoutine Unit :=
  release [.setSessionActive capture.session false, .closeRealtimeStream capture.stream,
    .closeSessionHandle capture.session, .uninitializeApi capture.handle]

end CaptureSession

def probe : CaptureRoutine Unit := do
  load
  let opened ← checked (.initializeApi apiVersion10) Prod.fst "PacketMonitorInitialize failed" []
  let created ← checked (.createLiveSession opened.2 (wide "PocketStreamProbe")) Prod.fst
    "PacketMonitorCreateLiveSession failed" [.uninitializeApi opened.2]
  release [.closeSessionHandle created.2, .uninitializeApi opened.2]

def liveSourceIdFor (scope : CaptureScope) : CaptureRoutine UInt32 := do
  load
  let opened ← checked (.initializeApi apiVersion10) Prod.fst "PacketMonitorInitialize" []
  let result ← caught (enumerateAndJoin opened.2 scope)
  release [.uninitializeApi opened.2]
  require (result.bind fun source =>
    match source.outcome.sourceId with
    | some id => .ok id
    | none => .error "no scoped source id")

/-! ### The thread of the listener -/

def identityScoped : ScopeOutcome → Bool
  | .selectedInterface (some _) => true
  | _ => false

/-- The thread while its capture is up. -/
def listen (capture : CaptureSession) (outcome : ScopeOutcome) : CaptureRoutine Unit := do
  issue (.storeScopeProven (identityScoped outcome))
  issue (.sendActivation (.ok outcome))
  issue .awaitShutdown
  capture.stop
  issue .dropContext

/-- The blocking task of `start_listener`, whose context is at the given address. -/
def listenerThread (context : ℕ) (scope : CaptureScope) (mode : CaptureMode) :
    CaptureRoutine Unit := do
  match ← caught (CaptureSession.start "PocketStreamArpCapture" ⟨context, 4, 128⟩ scope mode) with
  | .ok (capture, outcome) => listen capture outcome
  | .error e =>
    issue (.sendActivation (.error e))
    issue .dropContext

end PktMon

end PocketStream
