import PocketStream.Foundation.Machine
import PocketStream.Registry.DeviceRegistry

/-! # The device list of the frontend

The frontend mirrors the device registry. Three sources write the mirror: the
change events the backend emits, the fetch at startup, and the snapshot that
each alias write returns. Events arrive in the order they were emitted; replies
to requests arrive when they arrive.
-/

namespace PocketStream

open Foundation

/-- A snapshot of the registry, and how many changes went before it. -/
structure DeviceSnapshot where
  version : ℕ
  records : List DeviceRecord
  deriving DecidableEq

/-- How far `start` has come. -/
inductive StartStage where
  | idle
  /-- The registration of the event listener is awaited. -/
  | listening
  /-- The fetch has been sent. -/
  | fetching
  | fetched (initial : DeviceSnapshot)
  | done
  deriving DecidableEq

structure AliasWrite where
  key : String
  aliasName : String
  deriving DecidableEq

/-- The alias write under way: one at a time. -/
inductive AliasFlight where
  | sent (write : AliasWrite)
  | answered (write : AliasWrite) (snapshot : DeviceSnapshot)
  deriving DecidableEq

/-- The module `device-list.ts`: the mirror, what `start` and `setAlias` are waiting for, and how
each alias write ended. -/
structure DeviceList where
  value : DeviceSnapshot
  eventLanded : Bool
  stage : StartStage
  aliasWriteTail : List AliasWrite
  flight : Option AliasFlight
  settled : List (Except String Unit)

namespace DeviceList

def initial : DeviceList where
  value := ⟨0, []⟩
  eventLanded := false
  stage := .idle
  aliasWriteTail := []
  flight := none
  settled := []

def setSnapshot (d : DeviceList) (next : DeviceSnapshot) : DeviceList := { d with value := next }

/-- The callback of `device-list-changed`. -/
def onEvent (d : DeviceList) (snapshot : DeviceSnapshot) : DeviceList :=
  { d.setSnapshot snapshot with eventLanded := true }

/-- The reply to the fetch of `start`. -/
def hydrate (d : DeviceList) (initial : DeviceSnapshot) : DeviceList :=
  { if d.eventLanded then d else d.setSnapshot initial with stage := .done }

/-- The reply to an alias write; an unknown key is an error of the write. -/
def aliasReply (d : DeviceList) (write : AliasWrite) (snapshot : DeviceSnapshot) : DeviceList :=
  let applied := snapshot.records.any fun record =>
    record.mac == write.key && record.aliasName == write.aliasName
  let outcome := if applied then .ok () else
    .error s!"Device {write.key} is no longer available; refresh Nodes and try again"
  { d.setSnapshot snapshot with flight := none, settled := d.settled ++ [outcome] }

end DeviceList

/-- The registry's newest snapshot, whether its emission is due, the events under way, the
frontend, and the version of the last event or fetch that the frontend has shown. -/
structure DeviceFeed where
  newest : DeviceSnapshot
  dirty : Bool
  events : List DeviceSnapshot
  list : DeviceList
  shown : ℕ

inductive FeedStep where
  /-- The registry changes, for whatever reason. -/
  | change (records : List DeviceRecord)
  | emit
  | deliverEvent
  | start
  | registered
  | handleFetch
  | deliverFetch
  | setAlias (write : AliasWrite)
  | sendAlias
  /-- The backend handles the alias write and leaves these records. -/
  | handleAlias (records : List DeviceRecord)
  | deliverAlias

namespace DeviceFeed

def initial (records : List DeviceRecord) : DeviceFeed where
  newest := ⟨1, records⟩
  dirty := false
  events := []
  list := .initial
  shown := 0

/-- A change of the registry makes an emission due. -/
def changed (s : DeviceFeed) (records : List DeviceRecord) : DeviceFeed :=
  if records = s.newest.records then s
  else { s with newest := ⟨s.newest.version + 1, records⟩, dirty := true }

/-- Whether the event listener is registered: events emitted before are lost. -/
def StartStage.listens : StartStage → Bool
  | .idle | .listening => false
  | _ => true

def step (s : DeviceFeed) : FeedStep → Option DeviceFeed
  | .change records => some (s.changed records)
  | .emit =>
    if s.dirty then some { s with
      dirty := false
      events := if StartStage.listens s.list.stage then s.events ++ [s.newest] else s.events }
    else none
  | .deliverEvent =>
    match s.events with
    | [] => none
    | event :: events => some { s with
        events := events, list := s.list.onEvent event, shown := event.version }
  | .start =>
    if s.list.stage = .idle then some { s with list := { s.list with stage := .listening } }
    else none
  | .registered =>
    if s.list.stage = .listening then some { s with list := { s.list with stage := .fetching } }
    else none
  | .handleFetch =>
    if s.list.stage = .fetching then
      some { s with list := { s.list with stage := .fetched s.newest } }
    else none
  | .deliverFetch =>
    match s.list.stage with
    | .fetched reply => some { s with
        list := s.list.hydrate reply
        shown := if s.list.eventLanded then s.shown else reply.version }
    | _ => none
  | .setAlias write =>
    some { s with list := { s.list with aliasWriteTail := s.list.aliasWriteTail ++ [write] } }
  | .sendAlias =>
    match s.list.flight, s.list.aliasWriteTail with
    | none, write :: rest => some { s with list :=
        { s.list with flight := some (.sent write), aliasWriteTail := rest } }
    | _, _ => none
  | .handleAlias records =>
    match s.list.flight with
    | some (.sent write) =>
      let next := s.changed records
      some { next with list := { s.list with flight := some (.answered write next.newest) } }
    | _ => none
  | .deliverAlias =>
    match s.list.flight with
    | some (.answered write snapshot) => some { s with list := s.list.aliasReply write snapshot }
    | _ => none

def machine (records : List DeviceRecord) : Machine DeviceFeed FeedStep where
  initial := initial records
  step := step

end DeviceFeed

end PocketStream
