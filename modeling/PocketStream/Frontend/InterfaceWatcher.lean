import PocketStream.Foundation.Machine

/-! # The interface watcher of the window

The window keeps a view of the selected adapter. Status events, selection events,
replies of a refetch, replies of an address operation and the debounce timer all
write it, in any order. Beside the view the model keeps what the adapter was
reported to be since it was last up, and what the watcher did.
-/

namespace PocketStream

open Foundation

namespace InterfaceWatcher

structure IpInfo where
  address : String
  prefixLen : ℕ
  subnet : String
  deriving DecidableEq

structure InterfaceInfo where
  name : String
  displayName : String
  description : String
  ips : List IpInfo
  mac : String
  isUp : Bool
  isEthernet : Bool
  isWifi : Bool
  isVpn : Bool
  isVirtual : Bool
  deriving DecidableEq

structure AdapterSelection where
  selectedMac : Option String
  adapter : Option InterfaceInfo
  interfaceIndex : Option ℕ
  selectionRequired : Bool
  candidates : List InterfaceInfo
  deriving DecidableEq

/-- The adapter, if the selection has its index. -/
def AdapterSelection.eth (selection : AdapterSelection) : Option InterfaceInfo :=
  if selection.interfaceIndex.isSome then selection.adapter else none

def STABLE_DOWN_MS : ℕ := 2000

def isApipa (address : String) : Bool := "169.254.".toList.isPrefixOf address.toList

/-- The link is up and one address is not link local. -/
def InterfaceInfo.usable (iface : InterfaceInfo) : Bool :=
  iface.isUp && iface.ips.any fun ip => !isApipa ip.address

/-- An empty name is the sentinel for no adapter at all. -/
def isDownEvent (iface : InterfaceInfo) : Bool :=
  if iface.name = "" then true
  else if !iface.isUp then true
  else !iface.ips.any fun ip => !isApipa ip.address

/-- `mac.replaceAll("-", ":").toLowerCase()` -/
def macText (mac : String) : List Char :=
  mac.toList.map fun ch => if ch = '-' then ':' else ch.toLower

/-- The reports of the adapter since it was last reported up: when the first came, whether the view
was connected then, and whether a reply has shown one of them. -/
structure Outage where
  since : ℕ
  wasConnected : Bool
  repainted : Bool
  deriving DecidableEq

/-- What the watcher did, with the outage at that time. -/
inductive Happening where
  /-- `handleHardDisconnect`, for another adapter or for the same one. -/
  | teardown (time : ℕ) (changed : Bool) (outage : Option Outage)
  /-- An up event taken for a reconnect: resumed, or left to the adoption. -/
  | reconnect (time : ℕ) (outage : Option Outage) (suppressed : Bool)
  | started (adoption : String)
  | finished (adoption : String) (connected resumed : Bool)
  deriving DecidableEq

/-- The fetch in flight. -/
structure Flight where
  request : ℕ
  bindings : ℕ
  settled : Bool
  deriving DecidableEq

/-- What the three queries of a refetch come back with. -/
inductive FetchReply where
  | selection (selection : AdapterSelection)
  | nothing
  | failed

/-- The part of an address reply's view that the interface view takes. -/
structure AddressView where
  selection : AdapterSelection
  observationError : Option String

end InterfaceWatcher

/-- The module state of `network.ts` and the fields of `state` that it alone writes. -/
structure InterfaceWatcher where
  now : ℕ
  adapterSelection : Option InterfaceWatcher.AdapterSelection
  activeInterface : Option InterfaceWatcher.InterfaceInfo
  interfaceRefresh : ℕ
  bindingRefresh : ℕ
  refreshFlight : Option InterfaceWatcher.Flight
  refreshTrailing : Bool
  eventRefreshQueued : Bool
  verifiedAddressView : Bool
  /-- An address operation runs; whether it is retired. -/
  addressBusy : Option Bool
  /-- When the timer was set. -/
  pendingDownTimer : Option ℕ
  pendingDownIface : Option InterfaceWatcher.InterfaceInfo
  activeAdoptionId : Option String
  suppressedReconnect : Bool
  outage : Option InterfaceWatcher.Outage
  history : List InterfaceWatcher.Happening
  deriving DecidableEq

namespace InterfaceWatcher

variable (w : InterfaceWatcher)

def initial : InterfaceWatcher where
  now := 0
  adapterSelection := none
  activeInterface := none
  interfaceRefresh := 0
  bindingRefresh := 0
  refreshFlight := none
  refreshTrailing := false
  eventRefreshQueued := false
  verifiedAddressView := false
  addressBusy := none
  pendingDownTimer := none
  pendingDownIface := none
  activeAdoptionId := none
  suppressedReconnect := false
  outage := none
  history := []

def isInterfaceConnected : Bool := w.activeInterface.any (·.usable)

def cancelPendingDown : InterfaceWatcher :=
  if w.pendingDownTimer.isSome then { w with pendingDownTimer := none, pendingDownIface := none }
  else w

/-- Another adapter, or another index of it, than the one selected last. -/
def replaces (next : AdapterSelection) : Bool :=
  w.adapterSelection.any fun last =>
    last.selectedMac != next.selectedMac || last.interfaceIndex != next.interfaceIndex

/-- The view and the timer of the replaced adapter are dropped. -/
def dropAdapter : InterfaceWatcher :=
  { w with
    addressBusy := w.addressBusy.map fun _ => true
    pendingDownTimer := none
    pendingDownIface := none
    activeInterface := none
    history :=
      if w.activeInterface.isSome then .teardown w.now true w.outage :: w.history else w.history }

def rememberAdapterSelection (next : AdapterSelection) : InterfaceWatcher :=
  let w := if w.replaces next then w.dropAdapter else w
  { w with adapterSelection := some next }

/-- Callers: the reply of a refetch, the reply of an address operation, and the catch of a refetch,
which paints the last selection again. -/
def applySelection (selection : AdapterSelection) : InterfaceWatcher :=
  let w := w.rememberAdapterSelection selection
  let w := if selection.eth.any fun eth => !isDownEvent eth then w.cancelPendingDown else w
  { w with activeInterface := selection.eth }

def refreshInterfaces : InterfaceWatcher :=
  if w.addressBusy.isSome then { w with refreshTrailing := true }
  else if w.refreshFlight.isSome then { w with refreshTrailing := true }
  else
    { w with
      interfaceRefresh := w.interfaceRefresh + 1
      bindingRefresh := w.bindingRefresh + 1
      refreshTrailing := false
      refreshFlight := some ⟨w.interfaceRefresh + 1, w.bindingRefresh + 1, false⟩ }

def refreshNetworkEvent : InterfaceWatcher :=
  let w := { w with bindingRefresh := w.bindingRefresh + 1 }
  if w.addressBusy.isSome then { w with refreshTrailing := true }
  else if w.eventRefreshQueued then w
  else { w with eventRefreshQueued := true }

/-- The dialog opens or closes, or a mode has been saved: older reads no longer count. -/
def retireReads : InterfaceWatcher :=
  { w with interfaceRefresh := w.interfaceRefresh + 1, bindingRefresh := w.bindingRefresh + 1 }

def applyDownEvent (iface : InterfaceInfo) : InterfaceWatcher :=
  { w with
    activeInterface := if iface.name = "" then none else some iface
    history := .teardown w.now false w.outage :: w.history }

def applyUpEvent (iface : InterfaceInfo) (wasDown : Bool) : InterfaceWatcher :=
  let w := { w with activeInterface := some iface }
  if w.activeAdoptionId.isSome then
    if wasDown then
      { w with
        suppressedReconnect := true
        history := .reconnect w.now w.outage true :: w.history }
    else w
  else if wasDown then { w with history := .reconnect w.now w.outage false :: w.history }
  else w

/-- The status event is about the selected adapter. -/
def watches (iface : InterfaceInfo) : Bool :=
  macText iface.mac == ((w.adapterSelection.bind (·.selectedMac)).map macText).getD []

/-- The status event is left to a later read. -/
def defers (iface : InterfaceInfo) : Bool :=
  w.addressBusy.isSome || (w.verifiedAddressView && w.activeInterface != some iface)

def interfaceStatusChanged (iface : InterfaceInfo) : InterfaceWatcher :=
  if !w.watches iface then w
  else if w.addressBusy.isSome then { w with refreshTrailing := true }
  else if w.activeInterface = some iface then
    if !isDownEvent iface then w.cancelPendingDown else w
  else
    let w := { w with interfaceRefresh := w.interfaceRefresh + 1 }
    if w.verifiedAddressView then w.refreshNetworkEvent
    else
      let w := w.refreshNetworkEvent
      let wasDown := !w.isInterfaceConnected
      if isDownEvent iface then
        { w with
          pendingDownIface := some iface
          pendingDownTimer := if w.pendingDownTimer.isSome then w.pendingDownTimer else some w.now }
      else w.cancelPendingDown.applyUpEvent iface wasDown

/-- The selection event is taken over at once. -/
def takesSelection (selection : AdapterSelection) : Bool :=
  w.adapterSelection != some selection && !(w.verifiedAddressView && !w.addressBusy.isSome)

def adapterSelectionChanged (selection : AdapterSelection) : InterfaceWatcher :=
  if w.adapterSelection = some selection then w
  else
    let w := { w with interfaceRefresh := w.interfaceRefresh + 1 }
    if w.verifiedAddressView && !w.addressBusy.isSome then w.refreshNetworkEvent
    else w.rememberAdapterSelection selection

def adoptionStarted (adoption : String) : InterfaceWatcher :=
  { w with
    activeAdoptionId := some adoption
    history := .started adoption :: w.history }

def adoptionFinished (adoption : String) : InterfaceWatcher :=
  if w.activeAdoptionId ≠ some adoption then
    { w with history := .finished adoption w.isInterfaceConnected false :: w.history }
  else
    { w with
      activeAdoptionId := none
      suppressedReconnect := false
      history := .finished adoption w.isInterfaceConnected
        (w.suppressedReconnect && w.isInterfaceConnected) :: w.history }

/-- The reply of the fetch in flight is not older than anything the view was written from. -/
def isCurrent (flight : Flight) : Bool :=
  flight.request == w.interfaceRefresh && flight.bindings == w.bindingRefresh

def fetchReply (flight : Flight) (reply : FetchReply) : InterfaceWatcher :=
  let settled := some { flight with settled := true }
  if !w.isCurrent flight then { w with refreshFlight := settled }
  else
    let w := { w with refreshFlight := settled }
    match reply with
    | .nothing => w
    | .selection selection => { w with verifiedAddressView := false }.applySelection selection
    | .failed =>
      if w.activeInterface.isSome then w
      else match w.adapterSelection with
        | some selection => w.applySelection selection
        | none => w

/-- The `finally` of a refetch. -/
def fetchSettled : InterfaceWatcher :=
  let w := { w with refreshFlight := none }
  if w.refreshTrailing && !w.addressBusy.isSome then w.refreshInterfaces else w

def applyAddressReply (view : AddressView) : InterfaceWatcher :=
  let w := w.retireReads
  if view.observationError.isSome then w
  else { w.applySelection view.selection with verifiedAddressView := true }

/-- The `finally` of `mutateAddress`. -/
def addressSettled : InterfaceWatcher :=
  let w := { w with addressBusy := none }
  if w.refreshTrailing && !w.refreshFlight.isSome then w.refreshInterfaces else w

/-- The rest of `mutateAddress`: no reply where it was not confirmed or failed. -/
def addressEnded (retired : Bool) (reply : Option AddressView) : InterfaceWatcher :=
  match reply with
  | some view => if retired then w.addressSettled else (w.applyAddressReply view).addressSettled
  | none => w.addressSettled

/-- The adapter is reported down once more. -/
def stillDown : Outage := w.outage.getD ⟨w.now, w.isInterfaceConnected, false⟩

/-- The outage after a status event. -/
def hearStatus (iface : InterfaceInfo) : Option Outage :=
  if !w.watches iface then w.outage
  else if isDownEvent iface then some w.stillDown
  else none

/-- The outage after a reply that shows a selection: reports of another adapter do not count. -/
def hearReply (selection : AdapterSelection) : Option Outage :=
  if selection.eth.any fun eth => !isDownEvent eth then none
  else if w.replaces selection then some ⟨w.now, false, true⟩
  else some { w.stillDown with repainted := true }

inductive Call where
  | elapse (ms : ℕ)
  | interfaceStatusChanged (iface : InterfaceInfo)
  | adapterSelectionChanged (selection : AdapterSelection)
  | adoptionStarted (adoption : String)
  | adoptionFinished (adoption : String)
  | downTimer
  /-- The microtask that `refreshNetworkEvent` queues. -/
  | eventRefresh
  | refreshInterfaces
  | refreshNetworkEvent
  | fetchReply (reply : FetchReply)
  | fetchSettled
  | mutateAddress
  | addressEnded (reply : Option AddressView)
  | retireReads
  /-- The answer to `selectAdapter`. -/
  | selectAdapter (selection : AdapterSelection)

/-- What the adapter was reported to be, after the call. -/
def hear : Call → Option Outage
  | .interfaceStatusChanged iface => w.hearStatus iface
  | .adapterSelectionChanged selection =>
    if w.takesSelection selection && w.replaces selection then none else w.outage
  | .selectAdapter selection => if w.replaces selection then none else w.outage
  | .fetchReply (.selection selection) =>
    if w.refreshFlight.any w.isCurrent then w.hearReply selection else w.outage
  | .addressEnded (some view) =>
    if w.addressBusy = some false ∧ view.observationError = none then w.hearReply view.selection
    else w.outage
  | _ => w.outage

/-- What the code does in answer to the call. -/
def handle : Call → Option InterfaceWatcher
  | .elapse ms => some { w with now := w.now + ms }
  | .interfaceStatusChanged iface => some (w.interfaceStatusChanged iface)
  | .adapterSelectionChanged selection => some (w.adapterSelectionChanged selection)
  | .adoptionStarted adoption => some (w.adoptionStarted adoption)
  | .adoptionFinished adoption => some (w.adoptionFinished adoption)
  | .downTimer =>
    match w.pendingDownTimer with
    | none => none
    | some armed =>
      if w.now < armed + STABLE_DOWN_MS then none
      else
        let idle := { w with pendingDownTimer := none, pendingDownIface := none }
        match w.pendingDownIface with
        | none => some idle
        | some iface => some (idle.applyDownEvent iface)
  | .eventRefresh =>
    if w.eventRefreshQueued then some { w with eventRefreshQueued := false }.refreshInterfaces
    else none
  | .refreshInterfaces => some w.refreshInterfaces
  | .refreshNetworkEvent => some w.refreshNetworkEvent
  | .fetchReply reply =>
    match w.refreshFlight with
    | none => none
    | some flight => if flight.settled then none else some (w.fetchReply flight reply)
  | .fetchSettled =>
    if w.refreshFlight.any (·.settled) then some w.fetchSettled else none
  | .mutateAddress =>
    if w.addressBusy.isSome then none else some { w.retireReads with addressBusy := some false }
  | .addressEnded reply => w.addressBusy.map fun retired => w.addressEnded retired reply
  | .retireReads => some w.retireReads
  | .selectAdapter selection => some (w.rememberAdapterSelection selection)

def machine : Machine InterfaceWatcher Call where
  initial := initial
  step w call := (w.handle call).map fun w' => { w' with outage := w.hear call }

end InterfaceWatcher

end PocketStream
