import PocketStream.Adoption.Temporary

/-! # Durable records of temporary addresses

Every address this module adds stays recorded in the settings file for as long
as it is on the adapter. The invariant is on the file alone, so it survives a
crash between any two effects; a second relation ties the settings in memory to
the file whenever no transaction is in flight.
-/

namespace PocketStream

open Foundation Program

namespace Temporary

/-- The settings in memory and on disk, one adapter, the addresses whose OS add was
issued, and the addresses the last observation returned. -/
structure State where
  memory : AppSettings
  disk : AppSettings
  adapter : List IpInfo
  issued : List String := []
  observed : List IpInfo := []

/-- What an effect does and what it reports. -/
inductive Outcome where
  | success
  | silent
  | failure (error : AppError) (tookEffect : Bool)

def Outcome.report : Outcome → Fallible Unit
  | failure e _ => .error e
  | _ => .ok ()

def Outcome.takesEffect : Outcome → Bool
  | success => true
  | silent => false
  | failure _ tookEffect => tookEffect

def added (ip : Ipv4Addr) (mask : String) : List IpInfo :=
  match maskToPrefix mask with
  | .ok prefixLen => [⟨ip.toText, prefixLen⟩]
  | .error _ => []

/-- Observations are truthful or fail; a failed save leaves the file as it was. -/
def handle (mac : String) (w : State) : (e : Effect) → Outcome → e.Reply × State
  | .call .checkWritesAvailable, o => (o.report, w)
  | .call (.observe _), .failure e _ => (.error e, w)
  | .call (.observe iface), _ => (.ok ⟨iface, mac, w.adapter, true⟩, { w with observed := w.adapter })
  | .call (.add _ ip mask), o =>
    (o.report, { w with
      issued := ip.toText :: w.issued
      adapter := if o.takesEffect then w.adapter ++ added ip mask else w.adapter })
  | .call (.remove _ ip), o =>
    (o.report, { w with
      adapter := if o.takesEffect then w.adapter.filter (·.address != ip.toText) else w.adapter })
  | .call (.probeState _ _ _), o => (o.report.map fun _ => .ready, w)
  | .call (.probe _ _), _ => (true, w)
  | .config, _ => (w.memory, w)
  | .persist _, .failure e _ => (.error e, w)
  | .persist next, _ => (.ok (), { w with disk := next })
  | .publish next, _ => ((), { w with memory := next })

def State.ours (w : State) (adapter : List IpInfo) : List IpInfo :=
  adapter.filter fun i => w.issued.contains i.address

/-- Third parties change any address but those whose add was issued here. -/
def interfere (w : State) (adapter : List IpInfo) : State :=
  { w with adapter := if w.ours adapter = w.ours w.adapter then adapter else w.adapter }

def world (mac : String) : World Effect Effect.Reply State Outcome (List IpInfo) where
  handle := handle mac
  interfere := interfere

def State.bound (w : State) (address : String) : Prop := ∃ i ∈ w.adapter, i.address = address

/-- A pending row or an ownership row of the adapter records the address. -/
def Recorded (s : AppSettings) (owner address : String) : Prop :=
  (∃ p ∈ s.pendingAddresses, p.adapterMac = owner ∧ p.address = address) ∨
    ∃ subnet row, s.adoptedMeta.lookup subnet = some row ∧
      row.adapterMac = some owner ∧ row.address = some address

/-- An ownership row of the address that a later load keeps. -/
def Committed (s : AppSettings) (owner address : String) : Prop :=
  ∃ subnet row, s.adoptedMeta.lookup subnet = some row ∧
    row.adapterMac = some owner ∧ row.address = some address ∧
    (row.desired = .removed ∨ (s.adoptedSubnets.lookup subnet).isSome)

/-- Every ownership row is one that a later load keeps. -/
def Aligned (s : AppSettings) : Prop :=
  ∀ subnet row, s.adoptedMeta.lookup subnet = some row →
    row.desired = .removed ∨ (s.adoptedSubnets.lookup subnet).isSome

theorem aligned_align (s : AppSettings) (now : String) : Aligned (s.align now) := by
  intro subnet row h
  simp only [AppSettings.align, lookup_alignAdoptedMeta] at h ⊢
  cases ha : s.adoptedSubnets.lookup subnet with
  | none =>
    rw [ha] at h
    left
    simpa using Option.filter_eq_some_iff.mp h |>.2
  | some address => exact .inr rfl

theorem Committed.align {s : AppSettings} {owner address : String}
    (h : Committed s owner address) (now : String) : Committed (s.align now) owner address := by
  obtain ⟨subnet, row, hrow, hmac, haddr, hkept⟩ := h
  cases ha : s.adoptedSubnets.lookup subnet with
  | none =>
    have hd : row.desired = .removed := by simpa [ha] using hkept
    exact ⟨subnet, row, by simp [AppSettings.align, lookup_alignAdoptedMeta, ha, hrow, hd],
      hmac, haddr, .inl hd⟩
  | some exported =>
    refine ⟨subnet, alignRow subnet exported now (some row),
      by simp [AppSettings.align, lookup_alignAdoptedMeta, ha, hrow], ?_, ?_,
      .inr (by simp [AppSettings.align, ha])⟩
    · simpa [alignRow] using hmac
    · simp [alignRow, haddr]

theorem Aligned.committed {s : AppSettings} (hs : Aligned s) {owner address subnet : String}
    {row : AdoptedMeta} (hrow : s.adoptedMeta.lookup subnet = some row)
    (hmac : row.adapterMac = some owner) (haddr : row.address = some address) :
    Committed s owner address :=
  ⟨subnet, row, hrow, hmac, haddr, hs subnet row hrow⟩

section Invariant

variable (mac : String)

/-- The file records every issued address that is on the adapter. -/
def Durable (w : State) : Prop :=
  ∀ address ∈ w.issued, w.bound address → ∃ owner, canonicalMac mac = some owner ∧
    ((∃ p ∈ w.disk.pendingAddresses, p.adapterMac = owner ∧ p.address = address) ∨
      Committed w.disk owner address)

/-- With no transaction in flight, memory and file agree on what protects an address. -/
structure Synced (w : State) : Prop where
  pending : w.memory.pendingAddresses = w.disk.pendingAddresses
  aligned : Aligned w.memory
  committed : ∀ owner address, Committed w.disk owner address → Committed w.memory owner address

def Inv (w : State) : Prop := Durable mac w ∧ Synced w

/-- A removal is issued for an observed address with a durable record of the caller's
own adapter that no ownership row of that adapter covers, in memory or on disk. -/
def RemovalOwned (caller : String) (ip : Ipv4Addr) (w : State) : Prop :=
  ∃ row ∈ w.disk.pendingAddresses, canonicalMac caller = some row.adapterMac ∧
    row.address = ip.toText ∧ ⟨row.address, row.prefixLen⟩ ∈ w.observed ∧
    (∀ subnet m, w.memory.adoptedMeta.lookup subnet = some m →
      ¬ (m.address = some row.address ∧ m.adapterMac = some row.adapterMac)) ∧
    ¬ Committed w.disk row.adapterMac row.address

def guard (caller : String) (e : Effect) (w : State) : Prop :=
  Durable mac w ∧ ∀ iface ip, e = .call (.remove iface ip) → RemovalOwned caller ip w

variable {mac}

theorem bound_interfere (w : State) {address : String} (h : address ∈ w.issued)
    (adapter : List IpInfo) : (interfere w adapter).bound address ↔ w.bound address := by
  have hmem : ∀ l, (∃ i ∈ l, i.address = address) ↔ ∃ i ∈ w.ours l, i.address = address := by
    intro l
    simp only [State.ours, List.mem_filter, List.contains_iff_mem]
    constructor
    · rintro ⟨i, hi, rfl⟩
      exact ⟨i, ⟨hi, h⟩, rfl⟩
    · rintro ⟨i, ⟨hi, _⟩, rfl⟩
      exact ⟨i, hi, rfl⟩
  change (∃ i ∈ ite _ _ _, _) ↔ ∃ i ∈ w.adapter, _
  split
  · next hours => exact (hmem adapter).trans (hours ▸ (hmem w.adapter).symm)
  · exact Iff.rfl

theorem stable_durable : (world mac).Stable (Durable mac) :=
  fun w adapter h address hissued hbound =>
    h address hissued ((bound_interfere w hissued adapter).mp hbound)

theorem stable_synced : (world mac).Stable Synced :=
  fun _ _ h => ⟨h.pending, h.aligned, h.committed⟩

theorem stable_inv : (world mac).Stable (Inv mac) := stable_durable.and stable_synced

/-- An address of ours that is not on the adapter. -/
def Absent (address : String) (w : State) : Prop := address ∈ w.issued → ¬ w.bound address

theorem stable_absent (mac address : String) : (world mac).Stable (Absent address) :=
  fun w adapter h hissued hbound => h hissued ((bound_interfere w hissued adapter).mp hbound)

/-- What an observation says about the addresses issued here stays true. -/
def Seen (current : InterfaceInfo) (w : State) : Prop :=
  current.ips = w.observed ∧ ∀ address ∈ w.issued, holds current address = true ↔ w.bound address

theorem stable_seen (current : InterfaceInfo) : (world mac).Stable (Seen current) :=
  fun w adapter h => ⟨h.1, fun address hissued =>
    (h.2 address hissued).trans (bound_interfere w hissued adapter).symm⟩

theorem stable_const (mac : String) (p : Prop) : (world mac).Stable fun _ => p := fun _ _ h => h

theorem Seen.absent {current : InterfaceInfo} {w : State} {address : String}
    (h : Seen current w) (hnot : holds current address = false) : Absent address w :=
  fun hissued hbound => by simp [(h.2 address hissued).mpr hbound] at hnot

/-- A save of settings whose maps are those in memory keeps the invariant when every
pending row it drops is covered or not on the adapter. -/
theorem Inv.save {w : State} (h : Inv mac w) (next : AppSettings)
    (hmeta : next.adoptedMeta = w.memory.adoptedMeta)
    (hsubnets : next.adoptedSubnets = w.memory.adoptedSubnets)
    (hpending : ∀ p ∈ w.memory.pendingAddresses, p ∉ next.pendingAddresses →
      Absent p.address w ∨ Committed w.memory p.adapterMac p.address) :
    Durable mac { w with disk := next } ∧ Inv mac { w with memory := next, disk := next } := by
  have hcommitted : ∀ owner address,
      Committed next owner address ↔ Committed w.memory owner address := by
    intro owner address
    rw [Committed, Committed, hmeta, hsubnets]
  have hdurable : Durable mac { w with disk := next } := by
    intro address hissued hbound
    obtain ⟨owner, howner, ⟨p, hp, rfl, rfl⟩ | hc⟩ := h.1 address hissued hbound
    · refine ⟨p.adapterMac, howner, ?_⟩
      by_cases hkept : p ∈ next.pendingAddresses
      · exact .inl ⟨p, hkept, rfl, rfl⟩
      · rcases hpending p (h.2.pending ▸ hp) hkept with ha | hc
        · exact absurd hbound (ha hissued)
        · exact .inr ((hcommitted _ _).mpr hc)
    · exact ⟨owner, howner, .inr ((hcommitted _ _).mpr (h.2.committed _ _ hc))⟩
  refine ⟨hdurable, hdurable, rfl, ?_, fun _ _ hc => hc⟩
  change Aligned next
  rw [Aligned, hmeta, hsubnets]
  exact h.2.aligned

variable {caller : String}

theorem guard_of_durable {e : Effect} {w : State} (h : Durable mac w)
    (he : ∀ iface ip, e ≠ .call (.remove iface ip)) : guard mac caller e w :=
  ⟨h, fun iface ip hr => absurd hr (he iface ip)⟩

/-- A failed transaction publishes the settings it read. -/
def rollback (settings : AppSettings) (e : AppError) : Program Effect Effect.Reply (Fallible Unit) :=
  .request (.publish settings) fun _ => .done (.error e)

theorem changeConfig_run (change : AppSettings → Fallible (Unit × AppSettings)) :
    (changeConfig change).run = .request .config fun (settings : AppSettings) =>
      match change settings with
      | .error e => rollback settings e
      | .ok ((), next) => .request (.persist next) fun (saved : Fallible Unit) =>
        match saved with
        | .error e => rollback settings e
        | .ok () => .request (.publish next) fun _ => .done (.ok ()) := by
  refine congrArg (Program.request Effect.config) (funext fun (settings : AppSettings) => ?_)
  change (changeSettingsIfWith _ _ _ >>= _) = _
  unfold changeSettingsIfWith
  beta_reduce
  cases change settings with
  | error e => rfl
  | ok result =>
    refine congrArg (Program.request (Effect.persist result.2)) ?_
    funext (saved : Fallible Unit)
    cases saved <;> rfl

theorem rollback_triple (settings : AppSettings) (e : AppError) (G : State → Prop) :
    (world mac).Triple (guard mac caller) (fun w => Inv mac w ∧ w.memory = settings)
      (rollback settings e) (World.returns (fun _ w => Inv mac w ∧ G w) fun _ => Inv mac) := by
  refine .request (fun _ => Inv mac) (stable_inv.and fun _ _ h => h)
    (fun w h => guard_of_durable h.1.1 nofun) ?_ fun _ => .done stable_inv fun _ h => h
  rintro w o ⟨h, rfl⟩
  exact h

theorem changeConfig_triple {change : AppSettings → Fallible (Unit × AppSettings)}
    {F G : State → Prop} (hF : (world mac).Stable F) (hG : (world mac).Stable G)
    (hsave : ∀ w next, Inv mac w → F w → change w.memory = .ok ((), next) →
      Durable mac { w with disk := next } ∧ Inv mac { w with memory := next, disk := next } ∧
        G { w with memory := next, disk := next }) :
    (world mac).Triple (guard mac caller) (fun w => Inv mac w ∧ F w) (changeConfig change).run
      (World.returns (fun _ w => Inv mac w ∧ G w) fun _ => Inv mac) := by
  rw [changeConfig_run]
  refine .request (fun settings w => (Inv mac w ∧ F w) ∧ w.memory = settings)
    (stable_inv.and hF) (fun w h => guard_of_durable h.1.1 nofun) (fun w o h => ⟨h, rfl⟩)
    fun (settings : AppSettings) => ?_
  cases hc : change settings with
  | error e =>
    exact (rollback_triple settings e G).conseq (fun w h => ⟨h.1.1, h.2⟩) fun _ _ h => h
  | ok result =>
    obtain ⟨⟨⟩, next⟩ := result
    let mid : Fallible Unit → State → Prop := fun r w => match r with
      | .error _ => Inv mac w ∧ w.memory = settings
      | .ok () => Durable mac w ∧ Inv mac { w with memory := next } ∧ G { w with memory := next }
    refine .request mid ((stable_inv.and hF).and fun _ _ h => h)
      (fun w h => guard_of_durable h.1.1.1 nofun) ?_ fun (saved : Fallible Unit) => ?_
    · rintro w o ⟨⟨h, hf⟩, rfl⟩
      cases o with
      | failure e t => exact ⟨h, rfl⟩
      | success => exact hsave w next h hf hc
      | silent => exact hsave w next h hf hc
    · cases saved with
      | error e => exact rollback_triple settings e G
      | ok u =>
        refine .request (fun _ w => Inv mac w ∧ G w) (stable_durable.and fun w i h => ?_)
          (fun w h => guard_of_durable h.1 nofun) (fun _ _ h => h.2) fun _ =>
            .done (stable_inv.and hG) fun _ h => h
        exact ⟨stable_inv { w with memory := next } i h.1, hG { w with memory := next } i h.2⟩

theorem forgetTemporary_triple (row : PendingAddress) {G : State → Prop}
    (hG : (world mac).Stable G)
    (hkeep : ∀ w next, G w → G { w with memory := next, disk := next }) :
    (world mac).Triple (guard mac caller)
      (fun w => Inv mac w ∧ G w ∧
        (Absent row.address w ∨ Committed w.memory row.adapterMac row.address))
      (forgetTemporaryWith row).run
      (World.returns (fun _ w => Inv mac w ∧ G w) fun _ => Inv mac) := by
  refine changeConfig_triple (hG.and fun w i h => h.imp (stable_absent mac _ w i) id) hG ?_
  rintro w next h ⟨hg, hrow⟩ hc
  obtain rfl : _ = next := congrArg Prod.snd (Except.ok.inj hc)
  have ⟨hd, hi⟩ := h.save { w.memory with
    pendingAddresses := w.memory.pendingAddresses.filter (· != row) } rfl rfl fun p hp hdrop => by
      obtain rfl : p = row := by
        by_contra hne
        exact hdrop (List.mem_filter.mpr ⟨hp, by simpa using hne⟩)
      exact hrow
  exact ⟨hd, hi, hkeep w _ hg⟩

theorem reserveTemporary_triple (row : PendingAddress) {G : State → Prop}
    (hG : (world mac).Stable G)
    (hkeep : ∀ w next, G w → G { w with memory := next, disk := next }) :
    (world mac).Triple (guard mac caller) (fun w => Inv mac w ∧ G w)
      (reserveTemporaryWith row).run
      (World.returns (fun _ w => Inv mac w ∧ G w ∧ row ∈ w.disk.pendingAddresses)
        fun _ => Inv mac) := by
  refine changeConfig_triple hG (hG.and fun _ _ h => h) fun w next h hg hc => ?_
  obtain rfl : { w.memory with
      pendingAddresses := w.memory.pendingAddresses ++ [row] } = next := by
    unfold AppSettings.reserveTemporary at hc
    dsimp only at hc
    split at hc
    · cases hc
    · exact congrArg Prod.snd (Except.ok.inj hc)
  have ⟨hd, hi⟩ := h.save { w.memory with
    pendingAddresses := w.memory.pendingAddresses ++ [row] } rfl rfl fun p hp hdrop =>
      absurd (List.mem_append_left _ hp) hdrop
  exact ⟨hd, hi, hkeep w _ hg, by simp⟩

theorem checkWritesAvailable_triple :
    (world mac).Triple (guard mac caller) (Inv mac) checkWritesAvailable.run
      (World.returns (fun _ => Inv mac) fun _ => Inv mac) := by
  refine .perform stable_inv (fun w h => guard_of_durable h.1 nofun) (fun _ o h => ?_)
    (World.Stable.returns (fun _ => stable_inv) fun _ => stable_inv)
  cases o <;> exact h

theorem getConfig_triple {G : State → Prop} (hG : (world mac).Stable G) :
    (world mac).Triple (guard mac caller) (fun w => Inv mac w ∧ G w) getConfig.run
      (World.returns (fun settings w => (Inv mac w ∧ G w) ∧ w.memory = settings)
        fun _ => Inv mac) :=
  .request (fun settings w => (Inv mac w ∧ G w) ∧ w.memory = settings) (stable_inv.and hG)
    (fun _ h => guard_of_durable h.1.1 nofun) (fun _ _ h => ⟨h, rfl⟩)
    fun _ => .done ((stable_inv.and hG).and fun _ _ h => h) fun _ h => h

theorem Inv.observed {w : State} (h : Inv mac w) (l : List IpInfo) :
    Inv mac { w with observed := l } := ⟨h.1, h.2.pending, h.2.aligned, h.2.committed⟩

theorem observeOwned_triple {iface : String} {G : State → Prop} (hG : (world mac).Stable G)
    (hkeep : ∀ w l, G w → G { w with observed := l }) :
    (world mac).Triple (guard mac caller) (fun w => Inv mac w ∧ G w)
      (observeOwned caller iface).run
      (World.returns (fun current w => (Inv mac w ∧ G w) ∧ Seen current w ∧
        canonicalMac mac = canonicalMac caller) fun _ => Inv mac) := by
  have hst : ∀ current, (world mac).Stable fun w =>
      (Inv mac w ∧ G w) ∧ Seen current w ∧ current.mac = mac :=
    fun current => (stable_inv.and hG).and ((stable_seen current).and fun _ _ h => h)
  refine .tryBind (fun current w => (Inv mac w ∧ G w) ∧ Seen current w ∧ current.mac = mac) ?_
    fun current => ?_
  · refine .perform (stable_inv.and hG) (fun w h => guard_of_durable h.1.1 nofun) ?_
      (World.Stable.returns hst fun _ => stable_inv)
    rintro w o ⟨h, hg⟩
    have hseen : Seen ⟨iface, mac, w.adapter, true⟩ { w with observed := w.adapter } :=
      ⟨rfl, fun address _ => by simp [holds, State.bound]⟩
    cases o with
    | failure e t => exact h
    | success => exact ⟨⟨h.observed _, hkeep w _ hg⟩, hseen, rfl⟩
    | silent => exact ⟨⟨h.observed _, hkeep w _ hg⟩, hseen, rfl⟩
  · split
    · exact .throw (hst current) fun w h => h.1.1
    · next hsame =>
      refine .pure (hst current) fun w h => ⟨h.1, h.2.1, ?_⟩
      rw [not_or, not_not, h.2.2] at hsame
      exact hsame.1

/-- The OS add is issued with its record saved. -/
theorem addAddress_triple (iface : String) (ip : Ipv4Addr) (mask : String) (row : PendingAddress)
    (hrow : row.address = ip.toText) :
    (world mac).Triple (guard mac caller)
      (fun w => (Inv mac w ∧ row ∈ w.disk.pendingAddresses) ∧ canonicalMac mac = some row.adapterMac)
      (addAddress iface ip mask).run fun _ => Inv mac := by
  refine .perform ((stable_inv.and fun _ _ h => h).and fun _ _ h => h)
    (fun w h => guard_of_durable h.1.1.1 nofun) ?_ fun _ => stable_inv
  rintro w o ⟨⟨h, hmem⟩, howner⟩
  refine ⟨fun address hissued hbound => ?_, h.2.pending, h.2.aligned, h.2.committed⟩
  by_cases haddr : address = ip.toText
  · exact ⟨row.adapterMac, howner, .inl ⟨row, hmem, rfl, hrow.trans haddr.symm⟩⟩
  · refine h.1 address ((List.mem_cons.mp hissued).resolve_left haddr) ?_
    obtain ⟨i, hi, rfl⟩ := hbound
    refine ⟨i, ?_, rfl⟩
    change i ∈ (if _ then _ else _) at hi
    split at hi
    · rcases List.mem_append.mp hi with hi | hi
      · exact hi
      · refine absurd ?_ haddr
        unfold added at hi
        split at hi <;> simp_all
    · exact hi

variable (mac) in
theorem addReserved_triple (iface : String) (ip : Ipv4Addr) (mask : String) (row : PendingAddress)
    (hrow : row.address = ip.toText) (howner : canonicalMac caller = some row.adapterMac) :
    (world mac).Triple (guard mac caller) (fun w => Inv mac w ∧ Absent row.address w)
      (addReserved caller iface ip mask row).run fun _ => Inv mac := by
  have hst := stable_absent mac row.address
  have hmem : (world mac).Stable fun w =>
      Absent row.address w ∧ row ∈ w.disk.pendingAddresses := hst.and fun _ _ h => h
  unfold addReserved
  refine .tryBind _ (reserveTemporary_triple row hst fun _ _ h => h) fun _ => ?_
  refine .tryBind _ (observeOwned_triple hmem fun _ _ h => h) fun current => ?_
  have hpre := (stable_inv.and hmem).and
    ((stable_seen current).and (stable_const mac (canonicalMac mac = canonicalMac caller)))
  split
  · exact .tryBind _ ((forgetTemporary_triple row hst fun _ _ h => h).conseq
      (fun w h => ⟨h.1.1, h.1.2.1, .inl h.1.2.1⟩) fun _ _ h => h) fun _ =>
        .throwBind (stable_inv.and hst) fun _ h => h.1
  · exact (addAddress_triple iface ip mask row hrow).conseq
      (fun w h => ⟨⟨h.1.1, h.1.2.2⟩, h.2.2.trans howner⟩) fun _ _ h => h

theorem add_triple (iface : String) (ip : Ipv4Addr) (mask : String) :
    (world mac).Triple (guard mac caller) (Inv mac) (add caller iface ip mask).run
      fun _ => Inv mac := by
  unfold add
  refine .tryBind _ checkWritesAvailable_triple fun _ => ?_
  refine .tryBind (fun _ => Inv mac) ?_ fun prefixLen => ?_
  · cases h : maskToPrefix mask <;> exact .done stable_inv fun _ h => h
  split
  · next owner howner =>
    extract_lets row
    have hst := stable_absent mac row.address
    have hadd := addReserved_triple mac iface ip mask row rfl howner
    refine .tryBind _ ((observeOwned_triple (stable_const mac True) fun _ _ h => h).conseq
      (fun w h => ⟨h, trivial⟩) fun _ _ h => h) fun current => ?_
    have hpre := (stable_inv.and (stable_const mac True)).and
      ((stable_seen current).and
        (stable_const mac (canonicalMac mac = canonicalMac caller)))
    split
    · exact .throwBind hpre fun _ h => h.1.1
    · next hfree =>
      refine .tryBind _ ((getConfig_triple hst).conseq
        (fun w h => ⟨h.1.1, h.2.1.absent (by simpa using hfree)⟩) fun _ _ h => h) fun settings => ?_
      split
      · exact .tryBind _ ((forgetTemporary_triple row hst fun _ _ h => h).conseq
          (fun w h => ⟨h.1.1, h.1.2, .inl h.1.2⟩) fun _ _ h => h) fun _ => hadd
      · exact hadd.conseq (fun w h => h.1) fun _ _ h => h
  · exact .throw stable_inv fun _ h => h

/-- A removal is issued for an observed address with its own saved record. -/
theorem removeAddress_triple (iface : String) (ip : Ipv4Addr) {G : State → Prop}
    (hG : (world mac).Stable G) (howned : ∀ w, G w → RemovalOwned caller ip w) :
    (world mac).Triple (guard mac caller) (fun w => Inv mac w ∧ G w)
      (removeAddress iface ip).run (World.returns (fun _ => Inv mac) fun _ => Inv mac) := by
  refine .perform (stable_inv.and hG) (fun w h => ⟨h.1.1, ?_⟩) ?_
    (World.Stable.returns (fun _ => stable_inv) fun _ => stable_inv)
  · rintro iface' ip' he
    cases he
    exact howned w h.2
  · rintro w o ⟨h, -⟩
    have hinv : Inv mac ((world mac).handle w (.call (.remove iface ip)) o).2 := by
      refine ⟨fun address hissued hbound => h.1 address hissued ?_, h.2.pending, h.2.aligned,
        h.2.committed⟩
      obtain ⟨i, hi, rfl⟩ := hbound
      change i ∈ (if _ then _ else _) at hi
      split at hi
      · exact ⟨i, (List.mem_filter.mp hi).1, rfl⟩
      · exact ⟨i, hi, rfl⟩
    cases o <;> exact hinv

theorem forgetTemporary_inv (row : PendingAddress) :
    (world mac).Triple (guard mac caller)
      (fun w => Inv mac w ∧
        (Absent row.address w ∨ Committed w.memory row.adapterMac row.address))
      (forgetTemporaryWith row).run fun _ => Inv mac :=
  (forgetTemporary_triple row (stable_const mac True) fun _ _ h => h).conseq
    (fun _ h => ⟨h.1, trivial, h.2⟩) fun r _ h => by
      cases r with
      | ok u => exact h.1
      | error e => exact h

theorem removeRow_triple (iface : String) (ip : Ipv4Addr) (settings : AppSettings)
    (row : PendingAddress) (hmem : row ∈ settings.pendingAddresses)
    (haddr : row.address = ip.toText) (howner : canonicalMac caller = some row.adapterMac)
    (hcover : ∀ subnet m, settings.adoptedMeta.lookup subnet = some m →
      ¬ (m.address = some row.address ∧ m.adapterMac = some row.adapterMac)) :
    (world mac).Triple (guard mac caller) (fun w => Inv mac w ∧ w.memory = settings)
      (removeRow caller iface ip row).run fun _ => Inv mac := by
  have hread : (world mac).Stable fun w => w.memory = settings := fun _ _ h => h
  have hsame := stable_const mac (canonicalMac mac = canonicalMac caller)
  unfold removeRow
  refine .tryBind _ (observeOwned_triple hread fun _ _ h => h) fun current => ?_
  have hpre := (stable_inv.and hread).and ((stable_seen current).and hsame)
  split
  · next observed hfind =>
    split
    · exact .throwBind hpre fun _ h => h.1.1
    · next hprefix =>
      have hobs := List.mem_of_find?_eq_some hfind
      have hobsAddr : observed.address = row.address := by simpa using List.find?_some hfind
      have hissue : (world mac).Triple (guard mac caller)
          (fun w => (Inv mac w ∧ w.memory = settings) ∧ Seen current w ∧ _)
          (removeAddress iface ip).run _ :=
        (removeAddress_triple iface ip ((stable_inv.and hread).and ((stable_seen current).and hsame))
          ?_).conseq (fun w h => ⟨h.1.1, h⟩) fun _ _ h => h
      refine .tryBind _ hissue fun _ => ?_
      refine .tryBind _ ((observeOwned_triple (stable_const mac True) fun _ _ h => h).conseq
        (fun w h => ⟨h, trivial⟩) fun _ _ h => h) fun after => ?_
      split
      · exact .throwBind ((stable_inv.and (stable_const mac True)).and ((stable_seen after).and hsame))
          fun _ h => h.1.1
      · next hgone =>
        exact (forgetTemporary_inv row).conseq
          (fun w h => ⟨h.1.1, .inl (h.2.1.absent (by simpa using hgone))⟩) fun _ _ h => h
      · rintro w ⟨⟨h, rfl⟩, hseen, -⟩
        have hpair : (⟨row.address, row.prefixLen⟩ : IpInfo) = observed := by
          rw [← hobsAddr, ← not_not.mp hprefix]
        refine ⟨row, h.2.pending ▸ hmem, howner, haddr, hseen.1 ▸ hpair ▸ hobs, hcover, fun hc => ?_⟩
        obtain ⟨subnet, m, hm, hmowner, hmaddr, -⟩ := h.2.committed _ _ hc
        exact hcover subnet m hm ⟨hmaddr, hmowner⟩
  · next hnone =>
    refine (forgetTemporary_inv row).conseq
      (fun w h => ⟨h.1.1, .inl (h.2.1.absent ?_)⟩) fun _ _ h => h
    have := List.find?_eq_none.mp (Option.eq_none_iff_forall_ne_some.mpr hnone)
    simpa [holds] using this

theorem remove_triple (iface : String) (ip : Ipv4Addr) :
    (world mac).Triple (guard mac caller) (Inv mac) (remove caller iface ip).run
      fun _ => Inv mac := by
  unfold remove
  refine .tryBind _ checkWritesAvailable_triple fun _ => ?_
  refine .tryBind _ ((getConfig_triple (stable_const mac True)).conseq
    (fun w h => ⟨h, trivial⟩) fun _ _ h => h) fun settings => ?_
  split
  · next row hfind =>
    have hmem := List.mem_of_find?_eq_some hfind
    have ⟨haddr, howner⟩ : row.address = ip.toText ∧ some row.adapterMac = canonicalMac caller := by
      simpa using List.find?_some hfind
    split
    · next hcover =>
      obtain ⟨subnet, m, hm, hp⟩ := FiniteMap.anyEntry_iff.mp hcover
      have ⟨hmaddr, hmowner⟩ : m.address = some row.address ∧ m.adapterMac = some row.adapterMac := by
        simpa using hp
      refine (forgetTemporary_inv row).conseq (fun w h => ⟨h.1.1, .inr ?_⟩) fun _ _ h => h
      obtain rfl := h.2
      exact h.1.1.2.aligned.committed hm hmowner hmaddr
    · next hcover =>
      refine (removeRow_triple iface ip settings row hmem haddr howner.symm ?_).conseq
        (fun w h => ⟨h.1.1, h.2⟩) fun _ _ h => h
      intro subnet m hm hp
      exact hcover (FiniteMap.anyEntry_iff.mpr ⟨subnet, m, hm, by simpa using hp⟩)
  · exact .pure ((stable_inv.and (stable_const mac True)).and fun _ _ h => h) fun _ h => h.1.1

end Invariant

/-- A call of `PendingAdoptOps`. -/
inductive Call where
  | add (iface : String) (ip : Ipv4Addr) (mask : String)
  | remove (iface : String) (ip : Ipv4Addr)

def Call.program (caller : String) : Call → Program Effect Effect.Reply (Fallible Unit)
  | add iface ip mask => (Temporary.add caller iface ip mask).run
  | remove iface ip => (Temporary.remove caller iface ip).run

/-- The world and the call in progress, with the adapter it was made for. -/
structure Session where
  state : State
  running : Option (String × Program Effect Effect.Reply (Fallible Unit)) := none

inductive SessionMove where
  | call (caller : String) (c : Call)
  | reply (o : Outcome)
  | interfere (adapter : List IpInfo)
  | finish
  | crash (now : String)

/-- Load the settings file. -/
def State.reload (now : String) (w : State) : State := { w with memory := w.disk.align now }

/-- One move; a move that does not apply changes nothing. -/
def Session.move (mac : String) (s : Session) : SessionMove → Session
  | .call caller c =>
    match s.running with
    | none => { s with running := some (caller, c.program caller) }
    | some _ => s
  | .reply o =>
    match s.running with
    | none => s
    | some (caller, p) =>
      let (w, p) := (world mac).step (s.state, p) (.reply o)
      ⟨w, some (caller, p)⟩
  | .interfere adapter => { s with state := (world mac).interfere s.state adapter }
  | .finish =>
    match s.running with
    | some (_, .done _) => { s with running := none }
    | _ => s
  | .crash now => ⟨s.state.reload now, none⟩

/-- A program start on any settings file and any adapter. -/
def Session.start (disk : AppSettings) (adapter : List IpInfo) (now : String) : Session :=
  ⟨State.reload now { memory := disk, disk := disk, adapter := adapter }, none⟩

def Session.run (mac : String) (s : Session) (moves : List SessionMove) : Session :=
  moves.foldl (Session.move mac) s

section Sessions

variable {mac : String}

theorem Durable.reload {w : State} (h : Durable mac w) (now : String) : Inv mac (w.reload now) :=
  ⟨h, rfl, aligned_align w.disk now, fun _ _ hc => hc.align now⟩

def Session.Inv (mac : String) (s : Session) : Prop :=
  match s.running with
  | none => Temporary.Inv mac s.state
  | some (caller, p) => (world mac).Safe (guard mac caller) (fun _ => Temporary.Inv mac) p s.state

theorem Session.Inv.durable {s : Session} (h : s.Inv mac) : Durable mac s.state := by
  obtain ⟨w, running⟩ := s
  match running with
  | none => exact h.1
  | some (caller, .done a) => exact (h w .refl).1
  | some (caller, .request e next) => exact (h w .refl).1.1

theorem Session.Inv.move {s : Session} (h : s.Inv mac) (m : SessionMove) :
    (s.move mac m).Inv mac := by
  obtain ⟨w, running⟩ := s
  cases m with
  | crash now => exact h.durable.reload now
  | call caller c =>
    cases running with
    | some r => exact h
    | none =>
      cases c with
      | add iface ip mask => exact add_triple iface ip mask w h
      | remove iface ip => exact remove_triple iface ip w h
  | reply o =>
    cases running with
    | none => exact h
    | some r =>
      have hs : (world mac).Safe (guard mac r.1) (fun _ => Temporary.Inv mac) (w, r.2).2 w := h
      exact hs.step (.reply o)
  | interfere adapter =>
    cases running with
    | none => exact stable_inv w adapter h
    | some r =>
      have hs : (world mac).Safe (guard mac r.1) (fun _ => Temporary.Inv mac) r.2 w := h
      exact hs.interfere adapter
  | finish =>
    match running with
    | none => exact h
    | some (caller, .done a) => exact h w .refl
    | some (caller, .request e next) => exact h

theorem Session.Inv.run {s : Session} (h : s.Inv mac) (moves : List SessionMove) :
    (s.run mac moves).Inv mac := by
  induction moves generalizing s with
  | nil => exact h
  | cons m moves ih => exact ih (h.move m)

theorem Session.inv_start (disk : AppSettings) (adapter : List IpInfo) (now : String) :
    (Session.start disk adapter now).Inv mac :=
  have h : Durable mac ⟨disk, disk, adapter, [], []⟩ := fun _ h => absurd h List.not_mem_nil
  h.reload now

theorem Committed.recorded {s : AppSettings} {owner address : String}
    (h : Committed s owner address) : Recorded s owner address := by
  obtain ⟨subnet, row, hrow, hmac, haddr, -⟩ := h
  exact .inr ⟨subnet, row, hrow, hmac, haddr⟩

/-- Whatever is called, fails, takes effect unnoticed or crashes: an address this module
added is recorded in the settings file while it is bound, and a removal is issued only for
an observed address with its own saved record. -/
theorem temporary_ownership (mac : String) (disk : AppSettings) (adapter : List IpInfo)
    (now : String) (moves : List SessionMove) :
    let s := (Session.start disk adapter now).run mac moves
    (∀ address ∈ s.state.issued, s.state.bound address →
      ∃ owner, canonicalMac mac = some owner ∧ Recorded s.state.disk owner address) ∧
    ∀ caller iface ip next, s.running = some (caller, .request (.call (.remove iface ip)) next) →
      RemovalOwned caller ip s.state := by
  intro s
  have h : s.Inv mac := (Session.inv_start disk adapter now).run moves
  constructor
  · intro address hissued hbound
    obtain ⟨owner, howner, hp | hc⟩ := h.durable address hissued hbound
    · exact ⟨owner, howner, .inl hp⟩
    · exact ⟨owner, howner, hc.recorded⟩
  · intro caller iface ip next hrun
    rw [Session.Inv, hrun] at h
    exact h.issued.2 iface ip rfl

end Sessions

end Temporary

end PocketStream
