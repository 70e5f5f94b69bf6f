import PocketStream.Foundation.Coalescer
import PocketStream.Frontend.InterfaceWatcher

/-! # The fetches of the window are accounted for

Beside the watcher a ledger counts the fetches and notes what was asked for and what
was published. The flags of the watcher are a coalescer, so no request is lost. Its
counters date what was published, so no reply is shown that is older than that.
-/

namespace PocketStream

open Foundation

namespace InterfaceWatcher

variable (w : InterfaceWatcher)

/-- The watcher as far as it collects requests. -/
def coalescer : Coalescer :=
  ⟨w.refreshFlight.isSome, w.refreshTrailing, w.eventRefreshQueued, w.addressBusy.isSome⟩

/-- A status event that asks for a refresh: not one that repeats the view. -/
def statusAsks (iface : InterfaceInfo) : Bool :=
  w.watches iface && (w.addressBusy.isSome || w.activeInterface != some iface)

/-- A selection event that asks for a refresh: it is not taken over itself. -/
def selectionAsks (selection : AdapterSelection) : Bool :=
  w.adapterSelection != some selection && (w.verifiedAddressView && !w.addressBusy.isSome)

def act : Call → Coalescer.Act
  | .refreshInterfaces => .ask
  | .refreshNetworkEvent => .hear
  | .interfaceStatusChanged iface => if w.statusAsks iface then .hear else .pass
  | .adapterSelectionChanged selection => if w.selectionAsks selection then .hear else .pass
  | .eventRefresh => .wake
  | .fetchSettled => .finish
  | .mutateAddress => .hold
  | .addressEnded _ => .release
  | _ => .pass

/-- The call publishes something that an older reply must not overwrite. -/
def publishes : Call → Bool
  | .refreshNetworkEvent | .mutateAddress | .retireReads => true
  | .interfaceStatusChanged iface =>
    w.watches iface && !w.addressBusy.isSome && w.activeInterface != some iface
  | .adapterSelectionChanged selection => w.adapterSelection != some selection
  | .fetchReply _ => w.refreshFlight.any w.isCurrent
  | .addressEnded reply => reply.isSome && w.addressBusy == some false
  | _ => false

def Call.isReply : Call → Bool
  | .fetchReply _ => true
  | _ => false

/-- Another fetch is in flight than before, and waits for its replies. -/
def fetchBegins (w w' : InterfaceWatcher) : Bool :=
  w'.refreshFlight.any fun flight => !flight.settled && w.refreshFlight != some flight

/-- The fetch that waits for its replies. -/
def unsettled : Option Flight := w.refreshFlight.filter fun flight => !flight.settled

end InterfaceWatcher

open InterfaceWatcher

structure RefreshLedger where
  watcher : InterfaceWatcher
  begun : ℕ
  replied : ℕ
  /-- A refresh was asked for, and no fetch has begun since. -/
  owed : Bool
  /-- How many fetches had begun when something was last published. -/
  published : ℕ
  /-- Another adapter was selected since the last address operation began. -/
  moved : Bool
  deriving DecidableEq

namespace RefreshLedger

variable (L : RefreshLedger)

def record (call : Call) (w' : InterfaceWatcher) : RefreshLedger :=
  let begins := fetchBegins L.watcher w'
  { watcher := w'
    begun := if begins then L.begun + 1 else L.begun
    replied := if call.isReply then L.replied + 1 else L.replied
    owed := (L.owed || (L.watcher.act call).asks) && !begins
    published := if L.watcher.publishes call then L.begun else L.published
    moved := match call with
      | .mutateAddress => false
      | _ => L.moved || w'.adapterSelection.any L.watcher.replaces }

def machine : Machine RefreshLedger Call where
  initial := ⟨InterfaceWatcher.initial, 0, 0, false, 0, false⟩
  step L call := (InterfaceWatcher.machine.step L.watcher call).map (L.record call)

end RefreshLedger

end PocketStream
