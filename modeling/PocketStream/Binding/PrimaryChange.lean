import PocketStream.Binding.Observation

/-! # Replacing the primary address

The mode writer first gives the adapter its new address and keeps the old ones.
What follows retires the old primary: only after the new one is observed,
claimed and saved.
-/

namespace PocketStream

open Foundation Routine World

structure ModeTransition where
  ip : Option String
  subnetMask : Option String
  previousAddress : Option String

section Change

variable {N : Type} (net : IpNetwork N)

/-- The saved rows that may not own the address to replace. -/
def ownershipUnknown (settings : AppSettings) (before : OperationSnapshot) (found : IpInfo) : Bool :=
  let owners := settings.adoptedMeta.keys.filter fun subnet =>
    (settings.adoptedMeta.lookup subnet).any (·.address == some found.address)
  1 < owners.card || settings.adoptedMeta.anyEntry fun _ row =>
    row.address == some found.address && (row.prefixLen != some found.prefixLen ||
      row.adapterMac.bind adapterMac != some before.selected.identity.mac)

/-- The address named by `choice`, if the selected adapter has it. -/
def chosenPrimary (settings : AppSettings) (before : OperationSnapshot) (choice : String) :
    Fallible (Option IpInfo) := do
  let (ip, prefixLen) ← parseCidr choice
  match before.selected.ips.find? (·.address == ip.toText) with
  | none => return none
  | some found =>
    if found.prefixLen ≠ prefixLen then
      throw (.network "Primary prefix changed; reopen Configure")
    else if ownershipUnknown settings before found then
      throw (.network "Previous primary ownership is unknown or changed")
    else return some found

def isLinkLocalText (address : String) : Bool := "169.254.".toList.isPrefixOf address.toList

/-- The address to replace when none is named: the only one nobody adopted, or the only one. -/
def onlyPrimary (settings : AppSettings) (before : OperationSnapshot) : Fallible (Option IpInfo) :=
  let usable := before.selected.ips.filter fun a => !isLinkLocalText a.address
  let manual := usable.filter fun a => !settings.adoptedMeta.anyEntry fun _ row =>
    row.address == some a.address && row.desired == .present
  match manual, usable with
  | [a], _ => .ok (some a)
  | _, [a] => .ok (some a)
  | _, [] => .ok none
  | _, _ => .error (.network "Select the address to replace in Configure")

def primaryToReplace (settings : AppSettings) (before : OperationSnapshot)
    (request : ModeTransition) : Fallible (Option IpInfo) :=
  let saved := settings.primaryAddresses.lookup before.selected.identity.mac
  if request.ip.any fun ip => before.all.any fun a =>
      !(a.identity == before.selected.identity) && a.ips.any (·.address == ip) then
    .error (.network "Primary address is assigned to another local adapter")
  else
    match request.previousAddress.or (saved.filter (· ≠ "")) with
    | some choice => chosenPrimary settings before choice
    | none => if saved = some "" then .ok none else onlyPrimary settings before

/-- The intent of a failed removal stays, with the reason. -/
def keepIntent (error : AppError) : AddressOp Unit := do
  let tx ← record
  match tx.intentSaved, tx.subnet, tx.row with
  | true, some subnet, some row =>
    let _ ← publishRow subnet { row with lastError := some error.toText }
  | _, _, _ => return ()

def reportReplacement : Except AppError Unit → AddressOp Unit
  | .error e => do
    keepIntent e
    throw e
  | .ok () => do
    let tx ← record
    refuseIf (tx.outcome ≠ .success)
      (.network (tx.reason.getD "Primary replacement remains pending"))

/-- The removal of the old primary, as the user would ask for it. -/
def retirePrimary (after : OperationSnapshot) (previous : IpInfo) : AddressOp Unit := do
  let settings ← getSettings
  change fun _ => .start (some after.selected.identity.mac) settings.networkMode previous.address
    (some previous.prefixLen)
  let result ← caught (runAddressOperation net
    (.removeManual after.selected.aliasName previous.address))
  reportReplacement result

def finishPrimaryChange (before : OperationSnapshot) (request : ModeTransition)
    (previous : Option IpInfo) : AddressOp Unit := do
  let after ← operationSnapshot
  match request.ip with
  | none => throw (.network "Primary address required")
  | some ip =>
    let prefixLen ← require (maskToPrefix (request.subnetMask.getD ""))
    refuseIf (!(after.selected.identity == before.selected.identity) ∨ after.selected.dhcp ∨
        !after.selected.ips.any fun a => a.address == ip && a.prefixLen == prefixLen)
      (.network "Windows has not confirmed the new primary address")
    attempt (.claim ip) id
    attempt (.persistPrimary after.selected.identity.mac s!"{ip}/{prefixLen}") id
    match previous.filter (·.address ≠ ip) with
    | none => return ()
    | some previous => retirePrimary net after previous

end Change

theorem chosenPrimary_mem {settings : AppSettings} {before : OperationSnapshot} {choice : String}
    {a : IpInfo} (h : chosenPrimary settings before choice = .ok (some a)) :
    a ∈ before.selected.ips := by
  unfold chosenPrimary at h
  obtain ⟨⟨ip, prefixLen⟩, -, h⟩ := Fallible.bind_eq_ok.mp h
  dsimp only at h
  split at h
  · cases h
  · next found hfound =>
    split at h
    · cases h
    · split at h
      · cases h
      · cases h
        exact List.mem_of_find?_eq_some hfound

theorem onlyPrimary_mem {settings : AppSettings} {before : OperationSnapshot} {a : IpInfo}
    (h : onlyPrimary settings before = .ok (some a)) : a ∈ before.selected.ips := by
  unfold onlyPrimary at h
  dsimp only at h
  split at h
  · next hmanual =>
    cases h
    have := hmanual ▸ List.mem_singleton_self a
    exact List.mem_of_mem_filter (List.mem_of_mem_filter this)
  · next husable _ =>
    cases h
    exact List.mem_of_mem_filter (husable ▸ List.mem_singleton_self a)
  · cases h
  · cases h

/-- The address to replace is one of the selected adapter's. -/
theorem primaryToReplace_mem {settings : AppSettings} {before : OperationSnapshot}
    {request : ModeTransition} {a : IpInfo}
    (h : primaryToReplace settings before request = .ok (some a)) : a ∈ before.selected.ips := by
  unfold primaryToReplace at h
  dsimp only at h
  split at h
  · cases h
  · split at h
    · exact chosenPrimary_mem h
    · split at h
      · cases h
      · exact onlyPrimary_mem h

/-! ### The order of the steps -/

/-- The calls that change addresses of the OS. -/
def AddressCall.writes : AddressCall → Bool
  | add _ _ _ => true
  | remove _ _ => true
  | _ => false

/-- The selected adapter of the snapshot is the one before the change, with exactly the new
address. -/
structure Confirmed (before : OperationSnapshot) (request : ModeTransition)
    (after : OperationSnapshot) (ip : String) (prefixLen : UInt8) : Prop where
  address : request.ip = some ip
  mask : maskToPrefix (request.subnetMask.getD "") = .ok prefixLen
  identity : (after.selected.identity == before.selected.identity) = true
  static : after.selected.dhcp = false
  listed : ⟨ip, prefixLen⟩ ∈ after.selected.ips

/-- The address was claimed while the snapshot was the last observation. -/
def ClaimedAfter (after : OperationSnapshot) (ip : String) (log : AddressLog) : Prop :=
  ∃ l₁ l₂, log = l₁ ++ ⟨.claim ip, .ok ()⟩ :: l₂ ∧ lastObservation l₁ = some after.all

/-- The new primary was observed, then claimed, then saved. -/
def Established (before : OperationSnapshot) (request : ModeTransition) (log : AddressLog) : Prop :=
  ∃ after ip prefixLen l₁ l₂, Confirmed before request after ip prefixLen ∧
    ClaimedAfter after ip l₁ ∧ log = l₁ ++
      ⟨.persistPrimary after.selected.identity.mac s!"{ip}/{prefixLen}", .ok ()⟩ :: l₂

variable {before after : OperationSnapshot} {request : ModeTransition} {ip : String}
  {prefixLen : UInt8}

theorem Established.grows {log log' : AddressLog} (hgrows : log <+: log')
    (h : Established before request log) : Established before request log' := by
  obtain ⟨after, ip, prefixLen, l₁, l₂, hconf, hclaimed, rfl⟩ := h
  obtain ⟨l₃, rfl⟩ := hgrows
  exact ⟨after, ip, prefixLen, l₁, l₂ ++ l₃, hconf, hclaimed, by simp⟩

/-- Addresses are written only after the new primary is established. -/
def PrimaryGuard (before : OperationSnapshot) (request : ModeTransition) (call : AddressCall)
    (s : AddressState) : Prop :=
  call.writes = true → Established before request s.2

theorem primaryGuard_of_quiet {call : AddressCall} {s : AddressState} (h : call.writes = false) :
    PrimaryGuard before request call s := fun hw => absurd (h.symm.trans hw) Bool.false_ne_true

instance observes_primaryGuard : Observes (PrimaryGuard before request) where
  quiet call s hc := primaryGuard_of_quiet (by cases call <;> first | rfl | cases hc)
  native s := primaryGuard_of_quiet rfl

section Steps

variable {bad : AppError → Transaction → AddressState → Prop}

theorem reads_confirm (hbad : ∀ e tx s, bad e tx s) (hmask :
      maskToPrefix (request.subnetMask.getD "") = .ok prefixLen) (haddress : request.ip = some ip) :
    Reads (PrimaryGuard before request) (fun _ => Seen after)
      (refuseIf (!(after.selected.identity == before.selected.identity) ∨ after.selected.dhcp ∨
          !after.selected.ips.any fun a => a.address == ip && a.prefixLen == prefixLen)
        (.network "Windows has not confirmed the new primary address"))
      (fun _ _ s => Seen after s ∧ Confirmed before request after ip prefixLen) bad := by
  refine (Runs.refuseIf (fun _ _ _ h => h) fun _ _ _ _ => hbad _ _ _).conseq (fun _ _ h => h)
    (fun _ _ _ h => ⟨h.1, ?_⟩) fun _ _ _ h => h
  obtain ⟨-, hno⟩ := h
  simp only [not_or, Bool.not_eq_true, Bool.not_eq_false', List.any_eq_true, Bool.and_eq_true,
    beq_iff_eq] at hno
  obtain ⟨hid, hdhcp, ⟨address, p⟩, hmem, rfl, rfl⟩ := hno
  exact ⟨haddress, hmask, hid, hdhcp, hmem⟩

theorem reads_claim (hbad : ∀ e tx s, bad e tx s) :
    Reads (PrimaryGuard before request)
      (fun _ s => Seen after s ∧ Confirmed before request after ip prefixLen)
      (attempt (.claim ip) id)
      (fun _ _ s => ClaimedAfter after ip s.2 ∧ Confirmed before request after ip prefixLen) bad :=
  .attempt (fun r _ s => (r = .ok () → ClaimedAfter after ip s.2) ∧
      Confirmed before request after ip prefixLen) (fun _ _ _ h => h)
    (fun _ _ _ => primaryGuard_of_quiet rfl)
    (fun _ s _ h => ⟨fun hr => ⟨s.2, [], congrArg (s.2 ++ [⟨_, ·⟩]) hr, h.1⟩, h.2⟩) (fun _ _ _ _ h => h)
    (fun _ _ _ _ h hr => ⟨h.1 hr, h.2⟩) fun _ _ _ _ _ _ => hbad _ _ _

theorem reads_persistPrimary (hbad : ∀ e tx s, bad e tx s) {P : AddressLog → Prop}
    (mac cidr : String)
    (hP : ∀ log, P log → Established before request (log ++ [⟨.persistPrimary mac cidr, .ok ()⟩])) :
    Reads (PrimaryGuard before request) (fun _ s => P s.2) (attempt (.persistPrimary mac cidr) id)
      (fun _ _ s => Established before request s.2) bad := by
  refine .attempt (fun r _ s => r = .ok () → Established before request s.2) (fun _ _ _ h => h)
    (fun _ _ _ => primaryGuard_of_quiet rfl) (fun _ s o h hr => ?_) (fun _ _ _ _ h => h)
    (fun _ _ _ _ h hr => h hr) fun _ _ _ _ _ _ => hbad _ _ _
  have hlog : (addressWorld.logged.handle s (.persistPrimary mac cidr) o).2.2 =
      s.2 ++ [⟨.persistPrimary mac cidr, .ok ()⟩] := congrArg (s.2 ++ [⟨_, ·⟩]) hr
  exact hlog ▸ hP s.2 h

theorem reads_established {α : Type} (x : AddressOp α) :
    Reads (PrimaryGuard before request) (fun _ s => Established before request s.2) x
      (fun _ _ _ => True) fun _ _ _ => True := by
  have hx : Reads (PrimaryGuard before request) (fun _ s => Established before request s.2) x
      (fun _ _ s => Established before request s.2)
      fun _ _ s => Established before request s.2 := by
    refine .lasting ?_ ?_ x
    · exact fun _ _ => Established.grows
    · exact fun _ _ h _ => h
  exact hx.conseq (fun _ _ h => h) (fun _ _ _ _ => trivial) fun _ _ _ _ => trivial

theorem reads_finishPrimaryChange {N : Type} (net : IpNetwork N) (before : OperationSnapshot)
    (request : ModeTransition) (previous : Option IpInfo) :
    Reads (PrimaryGuard before request) (fun _ _ => True)
      (finishPrimaryChange net before request previous) (fun _ _ _ => True) fun _ _ _ => True := by
  have hT : Readable fun _ _ => True := readable_record fun _ => True
  have hbad : ∀ (_ : AppError) (_ : Transaction), addressWorld.logged.Stable fun _ => True :=
    fun _ _ _ _ _ => trivial
  refine .bind _ (reads_operationSnapshot hT) hbad fun after => ?_
  have hS : ∀ tx : Transaction, addressWorld.logged.Stable fun s => True ∧ Seen after s :=
    fun _ _ _ h => h
  split
  · exact .throw hS fun _ _ _ => trivial
  · next ip haddress =>
    refine .bind _ (.require hS fun _ _ _ _ _ => trivial) hbad fun prefixLen => ?_
    refine .given (φ := maskToPrefix (request.subnetMask.getD "") = .ok prefixLen)
      (fun _ _ h => h.2) fun hmask => ?_
    refine .bind _ ((reads_confirm (fun _ _ _ => trivial) hmask haddress).conseq
      (fun _ _ h => h.1.2) (fun _ _ _ h => h) fun _ _ _ h => h) hbad fun _ => ?_
    refine .bind _ (reads_claim fun _ _ _ => trivial) hbad fun _ => ?_
    refine .bind _ (reads_persistPrimary (fun _ _ _ => trivial)
      (P := fun log => ClaimedAfter after ip log ∧ Confirmed before request after ip prefixLen) _ _
      fun log h => ⟨after, ip, prefixLen, log, [], h.2, h.1, rfl⟩) hbad fun _ => ?_
    exact reads_established _

end Steps

/-- What was written so far was written after the new primary was established. -/
def WrittenAfter (before : OperationSnapshot) (request : ModeTransition) (s : AddressState) : Prop :=
  ∀ event ∈ s.2, event.1.writes = true → Established before request s.2

theorem writtenAfter_call {call : AddressCall} {s : AddressState} {o : AddressAnswer}
    (hg : PrimaryGuard before request call s) (h : WrittenAfter before request s) :
    WrittenAfter before request (addressWorld.logged.handle s call o).2 := by
  intro event hmem hw
  refine Established.grows (List.prefix_append _ _) ?_
  rcases List.mem_append.mp hmem with hmem | hnew
  · exact h event hmem hw
  · obtain rfl := List.mem_singleton.mp hnew
    exact hg hw

/-- However the steps of a primary change end, an address is written only after the new
primary was observed on the same adapter with exactly its prefix, claimed and saved; a run
that fails before has written none. -/
theorem primary_retired_after_established {N : Type} (net : IpNetwork N)
    (before : OperationSnapshot) (request : ModeTransition) (previous : Option IpInfo)
    (tx : Transaction) (store : Store) (moves : List (Move AddressAnswer OtherWriter)) :
    let c := addressWorld.logged.run
      ((store, []), finishPrimaryChange net before request previous tx) moves
    (∀ call next, c.2 = .request call next → call.writes = true →
      Established before request c.1.2) ∧
    ∀ event ∈ c.1.2, event.1.writes = true → Established before request c.1.2 := by
  intro c
  have hsafe := (reads_finishPrimaryChange net before request previous).triple tx (store, [])
    trivial
  refine ⟨fun call next hc hw => ?_, ?_⟩
  · have hrun := Safe.run (c := ((store, []), finishPrimaryChange net before request previous tx))
      hsafe moves
    rw [show addressWorld.logged.run _ moves = c from rfl, hc] at hrun
    exact hrun.issued hw
  · exact Safe.invariant (I := WrittenAfter before request) (fun _ _ h => h)
      (fun _ _ _ => writtenAfter_call) hsafe (fun _ h => by cases h) moves

end PocketStream
