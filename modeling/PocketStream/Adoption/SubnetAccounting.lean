import PocketStream.Adoption.Subnet

/-! # Accounting of adoption

At every stop of an adoption, each address it bound has a breadcrumb with its
adoption id. A return accounts for what is left: the adopted address, and any
address whose release failed.
-/

namespace PocketStream

open Foundation Program

namespace Subnet

/-- The shared pending list, the addresses bound by the adoption, and a record of which
sources became ready, which probes reported a free target and which releases failed. -/
structure State where
  pending : List PendingIp
  bound : List (String × Ipv4Addr)
  shutdown : Bool
  ready : List Ipv4Addr := []
  free : List (Ipv4Addr × Option Ipv4Addr) := []
  unreleased : List (String × Ipv4Addr) := []

/-- What the injected operations answer; a failing one may still take effect. -/
structure Outcome where
  error : Option AppError := none
  tookEffect : Bool := true
  sourceState : ProbeSourceState := .ready
  occupied : Bool := false
  timedOut : Bool := false
  wake : PollWake := .elapsed

def Outcome.report (o : Outcome) : Fallible Unit :=
  match o.error with
  | none => .ok ()
  | some e => .error e

def Outcome.state (o : Outcome) : Fallible ProbeSourceState :=
  match o.error with
  | none => .ok o.sourceState
  | some e => .error e

def Outcome.applies (o : Outcome) : Bool := o.error.isNone || o.tookEffect

def noted (source : Ipv4Addr) (ready : List Ipv4Addr) : Fallible ProbeSourceState → List Ipv4Addr
  | .ok .ready => source :: ready
  | _ => ready

def handleCall (w : State) : (c : AdoptCall) → Outcome → c.Reply × State
  | .checkWritesAvailable, o => (o.report, w)
  | .observe _, _ => (.error (.network "Adapter observation unavailable"), w)
  | .add iface ip _, o =>
    (o.report, { w with bound := if o.applies then (iface, ip) :: w.bound else w.bound })
  | .remove iface ip, o =>
    (o.report, { w with
      bound := if o.applies then w.bound.filter (· != (iface, ip)) else w.bound
      unreleased := if o.error.isSome then (iface, ip) :: w.unreleased else w.unreleased })
  | .probeState _ source _, o => (o.state, { w with ready := noted source w.ready o.state })
  | .probe target source, o =>
    (o.occupied, { w with free := if o.occupied then w.free else (target, source) :: w.free })

def handle (w : State) : (e : Effect) → Outcome → e.Reply × State
  | .call c, o => handleCall w c o
  | .timed c, o => if o.timedOut then (none, w) else ((handleCall w c o).map some id)
  | .pollDelay, o => (o.wake, w)
  | .shutdown, _ => (w.shutdown, w)
  | .pendingList, _ => (w.pending, w)
  | .pendingInsert e, _ => ((), { w with pending := w.pending ++ [e] })
  | .pendingRemove e, _ => ((), { w with pending := w.pending.filter (· != e) })

theorem handle_timed (w : State) (c : AdoptCall) (o : Outcome) : handle w (.timed c) o =
    if o.timedOut then (none, w) else ((handleCall w c o).map some id) := rfl

def tagged (id : UInt64) (pending : List PendingIp) : List PendingIp :=
  pending.filter (·.adoptionId == id)

/-- Shutdown may be requested, and other adoptions change their own entries. -/
def interfere (id : UInt64) (w : State) (change : Bool × List PendingIp) : State :=
  { w with
    shutdown := change.1
    pending := if tagged id change.2 = tagged id w.pending then change.2 else w.pending }

def world (id : UInt64) : World Effect Effect.Reply State Outcome (Bool × List PendingIp) where
  handle := handle
  interfere := interfere id

/-- Every bound address has an entry tagged with the adoption id. -/
def Accounted (id : UInt64) (w : State) : Prop :=
  ∀ b ∈ w.bound, ⟨b.1, b.2, id⟩ ∈ w.pending

/-- No probe is sent from a source that did not become ready. -/
def guard (id : UInt64) (e : Effect) (w : State) : Prop :=
  Accounted id w ∧ ∀ target source, e = .call (.probe target source) →
    ∃ s ∈ w.ready, source = some s

/-- The invariant between two stops: `owned` are the addresses still to be released or
handed over, and `chosen` was reported free from a ready source. -/
structure Held (id : UInt64) (owned : List (String × Ipv4Addr)) (chosen : Option Ipv4Addr)
    (w : State) : Prop where
  accounted : Accounted id w
  left : ∀ b ∈ w.bound, b ∈ owned ∨ b ∈ w.unreleased
  probed : ∀ c ∈ chosen, ∃ s ∈ w.ready, (c, some s) ∈ w.free

section Accounting

variable {id : UInt64} {owned : List (String × Ipv4Addr)} {chosen : Option Ipv4Addr}

theorem mem_interfere {e : PendingIp} (he : e.adoptionId = id) (w : State)
    (change : Bool × List PendingIp) : e ∈ (interfere id w change).pending ↔ e ∈ w.pending := by
  have hmem : ∀ l, e ∈ l ↔ e ∈ tagged id l := by
    intro l
    simp [tagged, he]
  change e ∈ ite _ _ _ ↔ _
  split
  · next h => rw [hmem, h, ← hmem]
  · exact Iff.rfl

theorem stable_entry {e : PendingIp} (he : e.adoptionId = id) :
    (world id).Stable fun w => e ∈ w.pending :=
  fun w change h => (mem_interfere he w change).mpr h

theorem stable_held : (world id).Stable (Held id owned chosen) := fun w change h =>
  ⟨fun b hb => (mem_interfere rfl w change).mpr (h.accounted b hb), h.left, h.probed⟩

theorem guard_of_held {e : Effect} {w : State} (h : Held id owned chosen w)
    (he : ∀ target source, e ≠ .call (.probe target source)) : guard id e w :=
  ⟨h.accounted, fun target source hp => absurd hp (he target source)⟩

/-- Reading the shutdown flag changes nothing. -/
theorem shutdown_triple {P : State → Prop} (hP : (world id).Stable P)
    (hheld : ∀ w, P w → Held id owned chosen w) :
    (world id).Triple (guard id) P (issue .shutdown) fun _ => P :=
  .perform hP (fun w h => guard_of_held (hheld w h) nofun) (fun _ _ h => h) fun _ => hP

theorem insert_triple (entry : PendingIp) (he : entry.adoptionId = id) :
    (world id).Triple (guard id) (Held id owned chosen) (issue (.pendingInsert entry))
      fun _ w => Held id owned chosen w ∧ entry ∈ w.pending := by
  refine .perform stable_held (fun w h => guard_of_held h nofun) (fun w _ h => ?_) fun _ =>
    stable_held.and (stable_entry he)
  exact ⟨⟨fun b hb => List.mem_append_left _ (h.accounted b hb), h.left, h.probed⟩,
    List.mem_append_right _ (List.mem_singleton.mpr rfl)⟩

/-- A removal unbinds the address or marks its release as failed. -/
theorem Held.removed {iface : String} {ip : Ipv4Addr} {w : State}
    (h : Held id ((iface, ip) :: owned) chosen w) (o : Outcome) :
    Held id owned chosen (handleCall w (.remove iface ip) o).2 := by
  have hsub : ∀ b ∈ (handleCall w (.remove iface ip) o).2.bound,
      b ∈ w.bound ∧ (o.error = none → b ≠ (iface, ip)) := by
    intro b hb
    change b ∈ (if _ then _ else _) at hb
    split at hb
    · obtain ⟨hb, hne⟩ := List.mem_filter.mp hb
      exact ⟨hb, fun _ => by simpa using hne⟩
    · next happ => exact ⟨hb, fun he => absurd (by simp [Outcome.applies, he]) happ⟩
  refine ⟨fun b hb => h.accounted b (hsub b hb).1, fun b hb => ?_, h.probed⟩
  have hmono : ∀ b ∈ w.unreleased, b ∈ (handleCall w (.remove iface ip) o).2.unreleased := by
    intro b hb
    change b ∈ (if _ then _ else _)
    split
    · exact List.mem_cons_of_mem _ hb
    · exact hb
  rcases h.left b (hsub b hb).1 with hown | hun
  · rcases List.mem_cons.mp hown with rfl | hown
    · refine .inr ?_
      cases he : o.error with
      | none => exact absurd rfl ((hsub _ hb).2 he)
      | some e => simp [handleCall, he]
    · exact .inl hown
  · exact .inr (hmono b hun)

theorem release_triple (iface : String) (ip : Ipv4Addr) :
    (world id).Triple (guard id) (Held id ((iface, ip) :: owned) chosen)
      (releaseScratch iface ip id) fun _ => Held id owned chosen := by
  let mid : Fallible Unit → State → Prop := fun r w =>
    Held id owned chosen w ∧ (r = .ok () → (iface, ip) ∉ w.bound)
  have hst : ∀ r, (world id).Stable (mid r) := fun r => stable_held.and fun _ _ h => h
  refine .request mid stable_held (fun w h => guard_of_held h nofun)
    (fun w o h => ⟨h.removed o, fun hr hb => ?_⟩) fun (r : Fallible Unit) => ?_
  · cases he : o.error with
    | none => simp [world, handle, handleCall, Outcome.applies, he] at hb
    | some e => simp [world, handle, handleCall, Outcome.report, he] at hr
  · cases r with
    | error e => exact .done (hst _) fun _ h => h.1
    | ok u =>
      refine .perform (hst _) (fun w h => guard_of_held h.1 nofun) (fun w _ h => ?_) fun _ =>
        stable_held
      refine ⟨fun b hb => List.mem_filter.mpr ⟨h.1.accounted b hb, ?_⟩, h.1.left, h.1.probed⟩
      have hne : b ≠ (iface, ip) := fun e => h.2 rfl (e ▸ hb)
      simpa [Prod.ext_iff] using hne

/-- A bind is issued with its breadcrumb in place. -/
theorem Held.added {iface mask : String} {ip : Ipv4Addr} {w : State} (h : Held id owned chosen w)
    (he : ⟨iface, ip, id⟩ ∈ w.pending) (o : Outcome) :
    Held id ((iface, ip) :: owned) chosen (handleCall w (.add iface ip mask) o).2 := by
  have hsub : ∀ b ∈ (handleCall w (.add iface ip mask) o).2.bound,
      b = (iface, ip) ∨ b ∈ w.bound := by
    intro b hb
    change b ∈ (if _ then _ else _) at hb
    split at hb
    · exact List.mem_cons.mp hb
    · exact .inr hb
  refine ⟨fun b hb => ?_, fun b hb => ?_, h.probed⟩
  · rcases hsub b hb with rfl | hb
    · exact he
    · exact h.accounted b hb
  · rcases hsub b hb with rfl | hb
    · exact .inl (List.mem_cons_self ..)
    · exact (h.left b hb).imp_left (List.mem_cons_of_mem _)

theorem bindScratch_triple (iface : String) (ip : Ipv4Addr) :
    (world id).Triple (guard id) (Held id owned chosen) (bindScratch iface ip id)
      (World.returns (fun _ => Held id ((iface, ip) :: owned) chosen)
        fun _ => Held id owned chosen) := by
  refine .bind _ (insert_triple ⟨iface, ip, id⟩ rfl) fun _ => ?_
  refine .request (fun _ => Held id ((iface, ip) :: owned) chosen)
    (stable_held.and (stable_entry rfl)) (fun w h => guard_of_held h.1 nofun)
    (fun w o h => h.1.added h.2 o) fun (r : Fallible Unit) => ?_
  cases r with
  | ok u => exact .done stable_held fun _ h => h
  | error e =>
    change (world id).Triple _ _ (releaseScratch iface ip id >>= _) _
    exact .bind _ (release_triple iface ip) fun _ => .done stable_held fun _ h => h

theorem mem_noted {s source : Ipv4Addr} {ready : List Ipv4Addr} (h : s ∈ ready)
    (r : Fallible ProbeSourceState) : s ∈ noted source ready r := by
  unfold noted
  split
  · exact List.mem_cons_of_mem _ h
  · exact h

theorem Held.timed {iface : String} {source target : Ipv4Addr} {w : State}
    (h : Held id owned chosen w) (o : Outcome) :
    Held id owned chosen (handle w (.timed (.probeState iface source target)) o).2 ∧
      ((handle w (.timed (.probeState iface source target)) o).1 = some (.ok .ready) →
        source ∈ (handle w (.timed (.probeState iface source target)) o).2.ready) := by
  rw [handle_timed]
  split
  · exact ⟨h, nofun⟩
  · refine ⟨⟨h.accounted, h.left, fun c hc => ?_⟩, fun hr => ?_⟩
    · obtain ⟨s, hs, hf⟩ := h.probed c hc
      exact ⟨s, mem_noted hs o.state, hf⟩
    · have hr : o.state = .ok .ready := Option.some.inj hr
      change source ∈ noted source w.ready o.state
      rw [hr]
      exact List.mem_cons_self ..

/-- What a wait for a source leaves. -/
def Waited (id : UInt64) (owned : List (String × Ipv4Addr)) (chosen : Option Ipv4Addr)
    (source : Ipv4Addr) (r : Fallible Bool) (w : State) : Prop :=
  Held id owned chosen w ∧ (r = .ok true → source ∈ w.ready)

theorem pauseThen_triple {source : Ipv4Addr} {expired : AppError} {next : Run (Fallible Bool)}
    {P : State → Prop} (hP : (world id).Stable P) (hheld : ∀ w, P w → Held id owned chosen w)
    (hnext : (world id).Triple (guard id) (Held id owned chosen) next
      (Waited id owned chosen source)) :
    (world id).Triple (guard id) P (pauseThen expired next) (Waited id owned chosen source) := by
  refine .request (fun _ => P) hP (fun w h => guard_of_held (hheld w h) nofun)
    (fun _ _ h => h) fun (wake : PollWake) => ?_
  match wake with
  | .elapsed => exact hnext.conseq hheld fun _ _ h => h
  | .deadline => exact .done hP fun w h => ⟨hheld w h, nofun⟩
  | .changed true => exact .done hP fun w h => ⟨hheld w h, nofun⟩
  | .changed false =>
    change (world id).Triple _ _ (issue .shutdown >>= _) _
    refine .bind _ (shutdown_triple hP hheld) fun (stop : Bool) => ?_
    cases stop with
    | true => exact .done hP fun w h => ⟨hheld w h, nofun⟩
    | false => exact hnext.conseq hheld fun _ _ h => h

/-- Readiness is reported only for a source that became ready. -/
theorem wait_triple (iface : String) (source target : Ipv4Addr) (polls : ℕ)
    (last : Option ProbeSourceState) :
    (world id).Triple (guard id) (Held id owned chosen)
      (waitForProbeSource iface source target polls last) (Waited id owned chosen source) := by
  induction polls generalizing last with
  | zero => exact .done stable_held fun _ h => ⟨h, nofun⟩
  | succ polls ih =>
    refine .bind _ (shutdown_triple stable_held fun _ h => h) fun (stop : Bool) => ?_
    cases stop with
    | true => exact .done stable_held fun _ h => ⟨h, nofun⟩
    | false =>
      let mid : Option (Fallible ProbeSourceState) → State → Prop := fun r w =>
        Held id owned chosen w ∧ (r = some (.ok .ready) → source ∈ w.ready)
      have hst : ∀ r, (world id).Stable (mid r) := fun r => stable_held.and fun _ _ h => h
      have hnext : ∀ state, (world id).Triple (guard id) (mid (some (.ok state)))
          (pauseThen (sourceNotReady iface source (some state))
            (waitForProbeSource iface source target polls (some state)))
          (Waited id owned chosen source) :=
        fun state => pauseThen_triple (hst _) (fun _ h => h.1) (ih (some state))
      refine .request mid stable_held (fun w h => guard_of_held h nofun) (fun w o h => h.timed o)
        fun (r : Option (Fallible ProbeSourceState)) => ?_
      match r with
      | none => exact .done (hst _) fun _ h => ⟨h.1, nofun⟩
      | some (.error e) => exact .done (hst _) fun _ h => ⟨h.1, nofun⟩
      | some (.ok .ready) => exact .done (hst _) fun _ h => ⟨h.1, fun _ => h.2 rfl⟩
      | some (.ok .pending) => exact hnext _
      | some (.ok .tentative) => exact hnext _
      | some (.ok (.routePending a b)) => exact hnext _

/-- The candidate chosen was reported free by a probe from the ready source. -/
theorem firstFree_triple (source : Ipv4Addr) (candidates : List Ipv4Addr) :
    (world id).Triple (guard id) (fun w => Held id owned none w ∧ source ∈ w.ready)
      (firstFree source candidates)
      fun found w => Held id owned found w ∧ ∀ c ∈ found, c ∈ candidates := by
  have hst : (world id).Stable fun w => Held id owned none w ∧ source ∈ w.ready :=
    stable_held.and fun _ _ h => h
  induction candidates with
  | nil => exact .done hst fun _ h => ⟨h.1, nofun⟩
  | cons candidate rest ih =>
    refine .bind _ (shutdown_triple hst fun _ h => h.1) fun (stop : Bool) => ?_
    cases stop with
    | true => exact .done hst fun _ h => ⟨h.1, nofun⟩
    | false =>
      let mid : Bool → State → Prop := fun occupied w =>
        Held id owned (if occupied then none else some candidate) w ∧ source ∈ w.ready
      have hmid : ∀ r, (world id).Stable (mid r) := fun r => stable_held.and fun _ _ h => h
      refine .request mid hst (fun w h => ⟨h.1.accounted, ?_⟩) (fun w o h => ?_)
        fun (occupied : Bool) => ?_
      · rintro _ _ he
        cases he
        exact ⟨source, h.2, rfl⟩
      · refine ⟨⟨h.1.accounted, h.1.left, fun c hc => ?_⟩, h.2⟩
        cases ho : o.occupied with
        | true => simp [world, handle, handleCall, ho] at hc
        | false =>
          obtain rfl : candidate = c := by simpa [world, handle, handleCall, ho] using hc
          exact ⟨source, h.2, by simp [world, handle, handleCall, ho]⟩
      · cases occupied with
        | true => exact ih.conseq (fun _ h => h) fun _ _ h =>
            ⟨h.1, fun c hc => List.mem_cons_of_mem _ (h.2 c hc)⟩
        | false => exact .done (hmid false) fun _ h => ⟨h.1, by rintro c ⟨⟩; exact .head _⟩

theorem chooseCandidate_triple (readiness : Fallible Bool) (source : Ipv4Addr)
    (candidates : List Ipv4Addr) :
    (world id).Triple (guard id) (Waited id owned none source readiness)
      (chooseCandidate readiness source candidates)
      fun found w => Held id owned found w ∧ ∀ c ∈ found, c ∈ candidates := by
  have hst : (world id).Stable (Waited id owned none source readiness) :=
    stable_held.and fun _ _ h => h
  match readiness with
  | .ok true =>
    exact (firstFree_triple source candidates).conseq (fun _ h => ⟨h.1, h.2 rfl⟩) fun _ _ h => h
  | .ok false => exact .done hst fun _ h => ⟨h.1, nofun⟩
  | .error e => exact .done hst fun _ h => ⟨h.1, nofun⟩

theorem probeAndRelease_triple (iface : String) (device scratch : Ipv4Addr)
    (candidates : List Ipv4Addr) (polls : ℕ) :
    (world id).Triple (guard id) (Held id [(iface, scratch)] none)
      (probeAndRelease iface device scratch candidates id polls)
      fun r w => Held id [] r.2 w ∧ ∀ c ∈ r.2, c ∈ candidates := by
  refine .bind _ (wait_triple iface scratch device polls none) fun readiness => ?_
  refine .bind _ (chooseCandidate_triple readiness scratch candidates) fun found => ?_
  refine .bind (fun _ w => Held id [] found w ∧ ∀ c ∈ found, c ∈ candidates)
    (fun w h => (release_triple iface scratch w h.1).mono fun _ _ hw => ⟨hw, h.2⟩) fun _ => ?_
  exact .done (stable_held.and fun _ _ h => h) fun _ h => h

/-- What a return of the adoption leaves. -/
def Returned (id : UInt64) (iface : String) (candidates : List Ipv4Addr)
    (r : Fallible (Option Ipv4Addr)) (w : State) : Prop :=
  Accounted id w ∧ ∀ ip, r = .ok (some ip) → ip ∈ candidates ∧ Held id [(iface, ip)] (some ip) w

theorem returned_none {iface : String} {candidates : List Ipv4Addr} {w : State}
    {r : Fallible (Option Ipv4Addr)} (hr : ∀ ip, r ≠ .ok (some ip))
    (h : Held id owned chosen w) : Returned id iface candidates r w :=
  ⟨h.accounted, fun ip he => absurd he (hr ip)⟩

theorem bindFinal_triple (iface : String) (device candidate : Ipv4Addr)
    (candidates : List Ipv4Addr) (hc : candidate ∈ candidates) (polls : ℕ) :
    (world id).Triple (guard id) (Held id [] (some candidate))
      (bindFinal iface device candidate id polls) (Returned id iface candidates) := by
  have hrelease : ∀ r : Fallible (Option Ipv4Addr), (∀ ip, r ≠ .ok (some ip)) →
      (world id).Triple (guard id) (Held id [(iface, candidate)] (some candidate))
        (releaseScratch iface candidate id >>= fun _ => .done r) (Returned id iface candidates) :=
    fun r hr => .bind _ (release_triple iface candidate) fun _ =>
      .done stable_held fun _ h => returned_none hr h
  refine .bind _ (bindScratch_triple iface candidate) fun r => ?_
  cases r with
  | error e => exact .done stable_held fun _ h => returned_none nofun h
  | ok u =>
    refine .bind _ (wait_triple iface candidate device polls none) fun readiness => ?_
    match readiness with
    | .error e => exact (hrelease (.error e) nofun).conseq (fun _ h => h.1) fun _ _ h => h
    | .ok false => exact (hrelease (.ok none) nofun).conseq (fun _ h => h.1) fun _ _ h => h
    | .ok true =>
      refine .bind _ ((shutdown_triple stable_held fun _ h => h).conseq (fun _ h => h.1)
        fun _ _ h => h) fun (stop : Bool) => ?_
      cases stop with
      | true => exact hrelease (.ok none) nofun
      | false => exact .done stable_held fun w h => ⟨h.accounted, by rintro ip ⟨⟩; exact ⟨hc, h⟩⟩

theorem adoptFrom_triple (iface : String) (device scratch : Ipv4Addr) (candidates : List Ipv4Addr)
    (polls : ℕ) :
    (world id).Triple (guard id) (Held id [(iface, scratch)] none)
      (adoptFrom iface device scratch candidates id polls) (Returned id iface candidates) := by
  refine .bind _ (probeAndRelease_triple iface device scratch candidates polls) ?_
  rintro ⟨readiness, found⟩
  have hst : (world id).Stable fun w => Held id [] found w ∧ ∀ c ∈ found, c ∈ candidates :=
    stable_held.and fun _ _ h => h
  match readiness with
  | .error e => exact .done hst fun _ h => returned_none nofun h.1
  | .ok false => exact .done hst fun _ h => returned_none nofun h.1
  | .ok true =>
    change (world id).Triple _ _ (issue .shutdown >>= _) _
    refine .bind _ (shutdown_triple hst fun _ h => h.1) fun (stop : Bool) => ?_
    match stop, found with
    | true, _ => exact .done hst fun _ h => returned_none nofun h.1
    | false, none => exact .done hst fun _ h => returned_none nofun h.1
    | false, some candidate =>
      change (world id).Triple _ _ (issue .shutdown >>= _) _
      refine .bind _ (shutdown_triple hst fun _ h => h.1) fun (stop : Bool) => ?_
      cases stop with
      | true => exact .done hst fun _ h => returned_none nofun h.1
      | false =>
        intro w h
        exact bindFinal_triple iface device candidate candidates (h.2 candidate rfl) polls w h.1

theorem adoptAmong_triple (iface : String) (device : Ipv4Addr) (candidates : List Ipv4Addr)
    (prepared : Option PreparedScratch) (polls : ℕ) :
    (world id).Triple (guard id)
      (Held id (prepared.toList.map fun scratch => (iface, scratch.address)) none)
      (adoptAmong iface device candidates id prepared polls) (Returned id iface candidates) := by
  match prepared with
  | some scratch => exact adoptFrom_triple iface device scratch.address candidates polls
  | none =>
    refine .bind _ (bindScratch_triple iface (pickScratch device candidates)) ?_
    rintro (e | u)
    · exact .done stable_held fun _ h => returned_none nofun h
    · exact adoptFrom_triple iface device _ candidates polls

theorem confirmPrepared_triple (iface : String) (device : Ipv4Addr)
    (prepared : Option PreparedScratch) :
    (world id).Triple (guard id) (Held id owned none)
      (confirmPrepared iface device id prepared) fun _ => Held id owned none := by
  unfold confirmPrepared
  match prepared with
  | none => exact .done stable_held fun _ h => h
  | some scratch =>
    dsimp only
    split
    · exact .done stable_held fun _ h => h
    · exact .request (fun _ => Held id owned none) stable_held (fun w h => guard_of_held h nofun)
        (fun _ _ h => h) fun _ => .done stable_held fun _ h => h

/-- The candidates of a call, given the scratch it was handed. -/
def candidatesOf (device : Ipv4Addr) (currentIps localIps : List Ipv4Addr)
    (prepared : Option PreparedScratch) : List Ipv4Addr :=
  pickCandidateIp device
    (localIps ++ currentIps.filter fun ip => prepared.all (·.address != ip))

theorem adoptSubnet_triple (iface : String) (device : Ipv4Addr)
    (currentIps localIps : List Ipv4Addr) (prepared : Option PreparedScratch) (polls : ℕ) :
    (world id).Triple (guard id)
      (Held id (prepared.toList.map fun scratch => (iface, scratch.address)) none)
      (adoptSubnetWithScratch iface device currentIps localIps id prepared polls)
      (Returned id iface (candidatesOf device currentIps localIps prepared)) := by
  refine .bind _ (confirmPrepared_triple iface device prepared) fun (confirmed : Bool) => ?_
  split
  · exact .done stable_held fun _ h => returned_none nofun h
  extract_lets currentIps' candidates
  split
  · exact .done stable_held fun _ h => returned_none nofun h
  split
  · exact .done stable_held fun _ h => returned_none nofun h
  exact adoptAmong_triple iface device candidates prepared polls

end Accounting

theorem mem_pickCandidateIp {device c : Ipv4Addr} {usedIps : List Ipv4Addr}
    (h : c ∈ pickCandidateIp device usedIps) :
    alreadyOnSubnet device [c] = true ∧ c ≠ device ∧ c ∉ usedIps ∧ c.d ∈ candidateStarts := by
  obtain ⟨last, hlast, hc⟩ := List.mem_filterMap.mp h
  dsimp only at hc
  split at hc
  · next hskip =>
    split at hc
    · cases hc
    · next hused =>
      obtain rfl := Option.some.inj hc
      refine ⟨by simp [alreadyOnSubnet], fun he => hskip.1 ?_, by simpa using hused, hlast⟩
      rw [← he]
  · cases hc

theorem pickScratch_d (device : Ipv4Addr) (candidates : List Ipv4Addr) :
    (pickScratch device candidates).d ∈ scratchStarts := by
  unfold pickScratch
  dsimp only
  cases hf : scratchStarts.find? _ with
  | none => exact List.mem_cons_self ..
  | some last => exact List.mem_of_find?_eq_some hf

/-- No scratch address is a candidate. -/
theorem scratch_notMem_candidates : ∀ last ∈ candidateStarts, last ∉ scratchStarts := by
  decide +kernel

/-- A call starts with nothing bound but a prepared scratch that has its breadcrumb. -/
def State.start (iface : String) (id : UInt64) (prepared : Option PreparedScratch)
    (pending : List PendingIp) (shutdown : Bool) : State where
  pending := pending
  bound := (prepared.toList.map fun scratch => (iface, scratch.address)).filter fun b =>
    pending.contains ⟨b.1, b.2, id⟩
  shutdown := shutdown

theorem held_start (iface : String) (id : UInt64) (prepared : Option PreparedScratch)
    (pending : List PendingIp) (shutdown : Bool) :
    Held id (prepared.toList.map fun scratch => (iface, scratch.address)) none
      (State.start iface id prepared pending shutdown) :=
  ⟨fun _ hb => List.contains_iff_mem.mp (List.mem_filter.mp hb).2, fun _ hb => .inl (List.mem_filter.mp hb).1,
    nofun⟩

/-- At every stop of an adoption the bound addresses have breadcrumbs and probes leave only
from ready sources; a returned address is free, new on the device's subnet, and all that
is left bound apart from failed releases. -/
theorem adoption_accounted (iface : String) (device : Ipv4Addr) (currentIps localIps : List Ipv4Addr)
    (id : UInt64) (prepared : Option PreparedScratch) (polls : ℕ) (pending : List PendingIp)
    (shutdown : Bool) (moves : List (Move Outcome (Bool × List PendingIp)))
    (hprepared : ∀ scratch ∈ prepared, ∃ target taken, scratch.address = pickScratch target taken) :
    let c := (world id).run (State.start iface id prepared pending shutdown,
      adoptSubnetWithScratch iface device currentIps localIps id prepared polls) moves
    Accounted id c.1 ∧
    (∀ target source next, c.2 = .request (.call (.probe target source)) next →
      ∃ s ∈ c.1.ready, source = some s) ∧
    ∀ ip, c.2 = .done (.ok (some ip)) →
      (∀ b ∈ c.1.bound, b = (iface, ip) ∨ b ∈ c.1.unreleased ∧ ⟨b.1, b.2, id⟩ ∈ c.1.pending) ∧
      alreadyOnSubnet device [ip] = true ∧ ip ≠ device ∧ ip ∉ currentIps ∧ ip ∉ localIps ∧
      ∃ s ∈ c.1.ready, (ip, some s) ∈ c.1.free := by
  intro c
  have h : (world id).Safe (guard id) _ c.2 c.1 :=
    (adoptSubnet_triple iface device currentIps localIps prepared polls _
      (held_start iface id prepared pending shutdown)).run moves
  generalize c.2 = p, c.1 = w at h
  cases p with
  | request e next =>
    refine ⟨(h w .refl).1.1, ?_, nofun⟩
    rintro target source next' ⟨⟩
    exact (h w .refl).1.2 target source rfl
  | done r =>
    obtain ⟨haccounted, hreturned⟩ := h w .refl
    refine ⟨haccounted, nofun, ?_⟩
    rintro ip ⟨⟩
    obtain ⟨hip, hheld⟩ := hreturned ip rfl
    obtain ⟨hsubnet, hdevice, hused, hd⟩ := mem_pickCandidateIp hip
    rw [List.mem_append, not_or] at hused
    refine ⟨fun b hb => ?_, hsubnet, hdevice, fun hcur => ?_, hused.1, hheld.probed ip rfl⟩
    · exact (hheld.left b hb).imp List.mem_singleton.mp fun hun => ⟨hun, haccounted b hb⟩
    · -- a current address missing from the used list is the prepared scratch
      by_cases hkept : (prepared.all (·.address != ip)) = true
      · exact hused.2 (List.mem_filter.mpr ⟨hcur, hkept⟩)
      · obtain ⟨scratch, hs, he⟩ : ∃ scratch ∈ prepared, scratch.address = ip := by
          cases prepared <;> simp_all
        obtain ⟨target, taken, hpick⟩ := hprepared scratch hs
        refine scratch_notMem_candidates ip.d hd ?_
        rw [← he, hpick]
        exact pickScratch_d target taken

/-- A reused scratch, a ready source and a free first candidate. -/
theorem adoption_accounted_prepared :
    let device : Ipv4Addr := ⟨192, 168, 5, 20⟩
    let scratch : Ipv4Addr := ⟨192, 168, 5, 254⟩
    let ip : Ipv4Addr := ⟨192, 168, 5, 100⟩
    let c := (world 7).run (State.start "eth" 7 (some ⟨scratch, 7⟩) [⟨"eth", scratch, 7⟩] false,
      adoptSubnetWithScratch "eth" device [scratch] [scratch] 7 (some ⟨scratch, 7⟩) 3)
      (List.replicate 14 (.reply {}))
    c.2 = .done (.ok (some ip)) ∧ Accounted 7 c.1 ∧ ip ∉ [scratch] ∧
      ∃ s ∈ c.1.ready, (ip, some s) ∈ c.1.free := by
  intro device scratch ip c
  have hdone : c.2 = .done (.ok (some ip)) := rfl
  have h := adoption_accounted "eth" device [scratch] [scratch] 7 (some ⟨scratch, 7⟩) 3
    [⟨"eth", scratch, 7⟩] false (List.replicate 14 (.reply {}))
    (by rintro _ ⟨⟩; exact ⟨device, [device], by decide +kernel⟩)
  obtain ⟨-, -, -, hcur, -, hfree⟩ := h.2.2 ip hdone
  exact ⟨hdone, h.1, hcur, hfree⟩

end Subnet

end PocketStream
