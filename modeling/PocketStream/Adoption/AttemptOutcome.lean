import PocketStream.Adoption.Attempt
import PocketStream.Config.Ownership

/-! # What an attempt leaves

Until the commit, the saved rows ask for the same addresses as at the start and
every bound address has its breadcrumb. The commit gives up exactly one of the
breadcrumbs for the row it saves, and nothing is removed after it.
-/

namespace PocketStream

open Foundation Program World

namespace Attempt

variable {N : Type} {net : IpNetwork N} {p : Params} {settings : AppSettings}
  {adoptedIps : FiniteMap String Ipv4Addr}

/-- A saved row asks for the address on the adapter. -/
def Bound (s : AppSettings) (subnet : String) (address mac : Option String) : Prop :=
  ∃ row, s.adoptedMeta.lookup subnet = some row ∧ row.desired = .present ∧
    row.address = address ∧ row.adapterMac = mac

/-- The address that an effect asks to remove. -/
def removal : Effect → Option Ipv4Addr
  | .adopt e | .op e =>
    match callOf e with
    | some (.remove _ ip) => some ip
    | _ => none
  | _ => none

/-! ### Interference -/

section Interference

variable (w : State) (i : Interference)

theorem interfere_bound : (interfere p w i).adoption.bound = w.adoption.bound := by
  cases i <;> rfl

theorem interfere_adoptedIps : (interfere p w i).adoptedIps = w.adoptedIps := by
  cases i <;> rfl

theorem interfere_removed : (interfere p w i).removed = w.removed := by
  cases i <;> rfl

theorem interfere_adoption :
    (Subnet.world p.adoptionId).Interferes w.adoption (interfere p w i).adoption := by
  cases i with
  | adoption change => exact .single ⟨change, rfl⟩
  | stale | settings | liveness => exact .refl

theorem mem_interfere {e : PendingIp} (he : e.adoptionId = p.adoptionId) :
    e ∈ (interfere p w i).adoption.pending ↔ e ∈ w.adoption.pending := by
  cases i with
  | adoption change => exact Subnet.mem_interfere he w.adoption change
  | stale | settings | liveness => exact Iff.rfl

/-- A row may change, but not in what it asks for. -/
theorem interfere_lookup (subnet : String) :
    ∃ change : AdoptedMeta → AdoptedMeta,
      (interfere p w i).settings.adoptedMeta.lookup subnet =
        (w.settings.adoptedMeta.lookup subnet).map change ∧
      ∀ row, (change row).desired = row.desired ∧ (change row).address = row.address ∧
        (change row).adapterMac = row.adapterMac := by
  cases i with
  | adoption | stale | settings => exact ⟨_, Option.map_id_apply.symm, fun _ => ⟨rfl, rfl, rfl⟩⟩
  | liveness rows =>
    refine ⟨_, FiniteMap.lookup_mapValues _ w.settings.adoptedMeta subnet, fun row => ?_⟩
    split
    · exact ⟨rfl, rfl, rfl⟩
    · split <;> exact ⟨rfl, rfl, rfl⟩

theorem bound_interfere {subnet : String} {address mac : Option String} :
    Bound (interfere p w i).settings subnet address mac ↔ Bound w.settings subnet address mac := by
  obtain ⟨change, hchange, hkept⟩ := interfere_lookup (p := p) w i subnet
  simp [Bound, hchange, hkept]

theorem named_interfere (ip : Ipv4Addr) :
    named (interfere p w i).settings ip = named w.settings ip := by
  rw [Bool.eq_iff_iff, named, named, FiniteMap.anyEntry_iff, FiniteMap.anyEntry_iff]
  refine exists_congr fun subnet => ?_
  obtain ⟨change, hchange, hkept⟩ := interfere_lookup (p := p) w i subnet
  simp [hchange, hkept]

end Interference

/-! ### The two phases -/

/-- Nothing is committed yet. -/
structure Before (p : Params) (settings : AppSettings) (adoptedIps : FiniteMap String Ipv4Addr)
    (w : State) : Prop where
  rows : ∀ subnet address mac,
    Bound w.settings subnet address mac ↔ Bound settings subnet address mac
  unnamed : ∀ b ∈ w.adoption.bound, named w.settings b.2 = false
  addresses : ∀ subnet ip, w.adoptedIps.lookup subnet = some ip →
    adoptedIps.lookup subnet = some ip
  spared : ∀ ip ∈ w.removed, ∀ subnet,
    ¬ Bound settings subnet (some ip.toText) (canonicalMac p.adapterMac)

/-- The address is committed and handed over. -/
structure Committed (p : Params) (settings : AppSettings) (adoptedIps : FiniteMap String Ipv4Addr)
    (ip : Ipv4Addr) (w : State) : Prop where
  rows : ∀ subnet address mac, Bound w.settings subnet address mac →
    Bound settings subnet address mac ∨ address = some ip.toText
  committed : ∃ mac, Bound w.settings p.deviceSubnet (some ip.toText) mac
  handedOver : ⟨p.iface, ip, p.adoptionId⟩ ∉ w.adoption.pending
  accounted : ∀ b ∈ w.adoption.bound,
    ⟨b.1, b.2, p.adoptionId⟩ ∈ w.adoption.pending ∨ b.2 = ip
  addresses : ∀ subnet a, w.adoptedIps.lookup subnet = some a →
    adoptedIps.lookup subnet = some a ∨ subnet = p.deviceSubnet ∧ a = ip
  spared : ∀ a ∈ w.removed, ∀ subnet,
    ¬ Bound settings subnet (some a.toText) (canonicalMac p.adapterMac)

/-- Nothing is committed and every bound address has its breadcrumb. -/
def Open (p : Params) (settings : AppSettings) (adoptedIps : FiniteMap String Ipv4Addr)
    (w : State) : Prop :=
  Before p settings adoptedIps w ∧ Subnet.Accounted p.adoptionId w.adoption

/-- What holds wherever an attempt ends. -/
def Outlasts (p : Params) (settings : AppSettings) (adoptedIps : FiniteMap String Ipv4Addr)
    (w : State) : Prop :=
  Open p settings adoptedIps w ∨ ∃ ip, Committed p settings adoptedIps ip w

/-- Nothing is removed once an address is committed. -/
def Stop (p : Params) (settings : AppSettings) (adoptedIps : FiniteMap String Ipv4Addr)
    (e : Effect) (w : State) : Prop :=
  Outlasts p settings adoptedIps w ∧
    ((removal e).isSome → Before p settings adoptedIps w)

theorem stable_before : (world net p).Stable (Before p settings adoptedIps) := by
  intro w i h
  refine ⟨fun subnet address mac => ?_, fun b hb => ?_, fun subnet ip hip => ?_, fun ip hip => ?_⟩
  · exact (bound_interfere w i).trans (h.rows subnet address mac)
  · exact (named_interfere w i b.2).trans (h.unnamed b (interfere_bound (p := p) w i ▸ hb))
  · exact h.addresses subnet ip (interfere_adoptedIps (p := p) w i ▸ hip)
  · exact h.spared ip (interfere_removed (p := p) w i ▸ hip)

theorem stable_held {owned : List (String × Ipv4Addr)} :
    (world net p).Stable fun w => Subnet.Held p.adoptionId owned none w.adoption :=
  fun w i h => Subnet.stable_held.interferes (interfere_adoption w i) h

theorem stable_open : (world net p).Stable (Open p settings adoptedIps) :=
  stable_before.and fun w i h b hb =>
    (mem_interfere w i rfl).mpr (h b (interfere_bound (p := p) w i ▸ hb))

theorem stable_committed {ip : Ipv4Addr} :
    (world net p).Stable (Committed p settings adoptedIps ip) := by
  intro w i h
  refine ⟨fun subnet address mac hb => ?_, ?_, ?_, fun b hb => ?_, fun subnet a ha => ?_,
    fun a ha => ?_⟩
  · exact h.rows subnet address mac ((bound_interfere w i).mp hb)
  · obtain ⟨mac, hmac⟩ := h.committed
    exact ⟨mac, (bound_interfere w i).mpr hmac⟩
  · exact fun hmem => h.handedOver ((mem_interfere w i rfl).mp hmem)
  · exact (h.accounted b (interfere_bound (p := p) w i ▸ hb)).imp_left (mem_interfere w i rfl).mpr
  · exact h.addresses subnet a (interfere_adoptedIps (p := p) w i ▸ ha)
  · exact h.spared a (interfere_removed (p := p) w i ▸ ha)

theorem Open.stop {e : Effect} {w : State} (h : Open p settings adoptedIps w) :
    Stop p settings adoptedIps e w :=
  ⟨.inl h, fun _ => h.1⟩

/-! ### Operations on the adapter -/

theorem handleCall_bound (a : Subnet.State) (c : AdoptCall) (o : Subnet.Outcome)
    {b : String × Ipv4Addr} (hb : b ∈ (Subnet.handleCall a c o).2.bound) :
    b ∈ a.bound ∨ ∃ mask, c = .add b.1 b.2 mask ∧ o.applies = true := by
  cases c with
  | add iface ip mask =>
    change b ∈ (if _ then _ else _) at hb
    split at hb
    · next happ =>
      obtain rfl | hb := List.mem_cons.mp hb
      · exact .inr ⟨mask, rfl, happ⟩
      · exact .inl hb
    · exact .inl hb
  | remove iface ip =>
    change b ∈ (if _ then _ else _) at hb
    split at hb
    · exact .inl (List.mem_filter.mp hb).1
    · exact .inl hb
  | checkWritesAvailable | observe | probeState | probe => exact .inl hb

theorem handle_bound (a : Subnet.State) (e : Subnet.Effect) (o : Subnet.Outcome)
    {b : String × Ipv4Addr} (hb : b ∈ (Subnet.handle a e o).2.bound) :
    b ∈ a.bound ∨ ∃ mask, callOf e = some (.add b.1 b.2 mask) ∧ o.applies = true := by
  cases e with
  | call c => simpa [callOf] using handleCall_bound a c o hb
  | timed c =>
    rw [Subnet.handle_timed] at hb
    split at hb
    · exact .inl hb
    · simpa [callOf] using handleCall_bound a c o hb
  | pollDelay | shutdown | pendingList | pendingInsert | pendingRemove => exact .inl hb

/-- An address that becomes bound is one that no saved row names. -/
theorem act_bound {w : State} {e : Subnet.Effect} {o : Subnet.Outcome} {b : String × Ipv4Addr}
    (hb : b ∈ (w.act p e o).2.adoption.bound) :
    b ∈ w.adoption.bound ∨
      ∃ mask, callOf e = some (.add b.1 b.2 mask) ∧ named w.settings b.2 = false := by
  obtain hb | ⟨mask, he, happ⟩ := handle_bound _ e (admitted w.settings e o) hb
  · exact .inl hb
  · refine .inr ⟨mask, he, Bool.eq_false_iff.mpr fun hn => ?_⟩
    simp [admitted, he, hn, Subnet.Outcome.applies] at happ

theorem mem_takenOff {s : AppSettings} {e : Subnet.Effect} {o : Subnet.Outcome} {ip : Ipv4Addr}
    (h : ip ∈ takenOff p s e o) : covered p s ip = false := by
  unfold takenOff at h
  split at h
  · split at h
    · next hc =>
      obtain rfl := List.mem_singleton.mp h
      simpa using (Bool.and_eq_true_iff.mp hc).1
    · cases h
  · cases h

theorem Before.act {w : State} (h : Before p settings adoptedIps w) (e : Subnet.Effect)
    (o : Subnet.Outcome) : Before p settings adoptedIps (w.act p e o).2 := by
  refine ⟨h.rows, fun b hb => ?_, h.addresses, fun ip hip subnet hbound => ?_⟩
  · obtain hb | ⟨-, -, hn⟩ := act_bound hb
    · exact h.unnamed b hb
    · exact hn
  · obtain htaken | hip := List.mem_append.mp hip
    · -- a row of this adapter that names the address covers it
      obtain ⟨row, hrow, -, haddress, hmac⟩ := (h.rows _ _ _).mpr hbound
      have hcov := FiniteMap.anyEntry_eq_false.mp (mem_takenOff htaken) subnet row hrow
      simp [haddress, hmac] at hcov
    · exact h.spared ip hip subnet hbound

theorem embeds : Embeds (Subnet.world p.adoptionId) (world net p) (Subnet.guard p.adoptionId)
    Effect.adopt (fun _ r => r) State.adoption (Before p settings adoptedIps) where
  frame_stable := stable_before
  interferes := interfere_adoption
  frame_handle w e o h _ := by
    change Before _ _ _ (ite _ _ _ : Option e.Reply × State).2
    split
    · dsimp only
      split
      · exact h.act e o.op
      · exact h
    · exact h.act e o.op
  answered w e o r _ hr := by
    by_cases hel : o.elapsed = true
    · simp [world, handle, hel] at hr
    · refine ⟨admitted w.settings e o.op, ?_⟩
      simp only [world, handle, hel] at hr ⊢
      exact Prod.ext (Option.some.inj hr) rfl
  dropped w e o _ hr := by
    by_cases hel : o.elapsed = true
    · by_cases ht : o.tookEffect = true
      · exact .inr ⟨admitted w.settings e o.op, by simp [world, handle, hel, ht]; rfl⟩
      · exact .inl (by simp [world, handle, hel, ht])
    · simp [world, handle, hel] at hr

/-! ### The steps of an attempt -/

section Triples

variable (net p settings adoptedIps)

/-- Reading anything keeps what implies that nothing is committed. -/
theorem read_triple {P : State → Prop} {e : Effect} (hP : (world net p).Stable P)
    (hopen : ∀ w, P w → Open p settings adoptedIps w)
    (hread : ∀ w o, (handle net p w e o).2 = w) :
    (world net p).Triple (Stop p settings adoptedIps) P (issue e) fun _ => P :=
  .perform hP (fun w h => (hopen w h).stop) (fun w o h => (hread w o).symm ▸ h) fun _ => hP

variable {net p settings adoptedIps}

theorem Open.removed {w : State} (h : Open p settings adoptedIps w) (iface : String)
    (ip : Ipv4Addr) (o : Subnet.Outcome) :
    Open p settings adoptedIps (w.act p (.call (.remove iface ip)) o).2 := by
  refine ⟨h.1.act _ o, fun b hb => ?_⟩
  obtain hb | ⟨mask, hadd, -⟩ := act_bound hb
  · exact h.2 b hb
  · cases hadd

/-- A removal that reports success leaves the address unbound. -/
theorem remove_bound {w : State} {iface : String} {ip : Ipv4Addr} {o : Subnet.Outcome}
    (hok : (w.act p (.call (.remove iface ip)) o).1 = .ok ()) :
    (iface, ip) ∉ (w.act p (.call (.remove iface ip)) o).2.adoption.bound := by
  have herror : o.error = none := by
    cases he : o.error with
    | none => rfl
    | some e =>
      change o.report = .ok () at hok
      simp [Subnet.Outcome.report, he] at hok
  change (iface, ip) ∉ ite (o.applies = true) _ _
  simp [Subnet.Outcome.applies, herror]

theorem Open.forgotten {w : State} (h : Open p settings adoptedIps w) {entry : PendingIp}
    (hb : (entry.iface, entry.ip) ∉ w.adoption.bound) :
    Open p settings adoptedIps (w.act p (.pendingRemove entry) {}).2 := by
  refine ⟨h.1.act _ {}, fun b hbound => ?_⟩
  refine List.mem_filter.mpr ⟨h.2 b hbound, bne_iff_ne.mpr ?_⟩
  rintro rfl
  exact hb hbound

theorem reconcileEntry_triple (entry : PendingIp) :
    (world net p).Triple (Stop p settings adoptedIps) (Open p settings adoptedIps)
      (reconcileEntry entry) fun _ => Open p settings adoptedIps := by
  have hunbound : (world net p).Stable fun w => (entry.iface, entry.ip) ∉ w.adoption.bound :=
    fun w i h hb => h (interfere_bound (p := p) w i ▸ hb)
  refine .request (fun (r : Fallible Unit) w => Open p settings adoptedIps w ∧
      (r = .ok () → (entry.iface, entry.ip) ∉ w.adoption.bound)) stable_open (fun w h => h.stop)
    (fun w o h => ⟨h.removed entry.iface entry.ip o.op, remove_bound⟩) fun r => ?_
  match r with
  | .ok () =>
    refine .perform (stable_open.and fun w i h _ => hunbound w i (h rfl)) (fun w h => h.1.stop)
      (fun w o h => ?_) fun _ => stable_open
    exact h.1.forgotten (h.2 rfl)
  | .error e => exact .done (stable_open.and fun _ _ _ => nofun) fun _ h => h.1

theorem reconcileTargets_triple (entries : List PendingIp) :
    (world net p).Triple (Stop p settings adoptedIps) (Open p settings adoptedIps)
      (reconcileTargets entries) fun _ => Open p settings adoptedIps := by
  induction entries with
  | nil => exact .done stable_open fun _ h => h
  | cons entry rest ih => exact .bind _ (reconcileEntry_triple entry) fun _ => ih

theorem reconcilePending_triple (id : UInt64) :
    (world net p).Triple (Stop p settings adoptedIps) (Open p settings adoptedIps)
      (reconcilePending id) fun _ => Open p settings adoptedIps :=
  .bind _ (read_triple net p settings adoptedIps stable_open (fun _ h => h) fun _ _ => rfl)
    fun _ => reconcileTargets_triple _

/-- A rolled-back attempt. -/
theorem rollback_triple (outcome : AdoptionAttemptOutcome) :
    (world net p).Triple (Stop p settings adoptedIps) (Open p settings adoptedIps)
      (do reconcilePending p.adoptionId; return outcome)
      fun _ => Outlasts p settings adoptedIps :=
  .bind _ (reconcilePending_triple _) fun _ => .done stable_open fun _ h => .inl h

/-! ### The commit -/

/-- A commit saves the row and nothing else, or changes nothing. -/
theorem commit_cases (w : State) (row : AdoptedMeta) (saved : Fallible Unit) :
    ((∃ e, (w.commit p row saved).1 = .error e) ∧ (w.commit p row saved).2 = w.settings) ∨
      (w.commit p row saved).1 = .ok () ∧
        (w.commit p row saved).2.adoptedMeta.lookup p.deviceSubnet = some row ∧
        ∀ k ≠ p.deviceSubnet, (w.commit p row saved).2.adoptedMeta.lookup k =
          w.settings.adoptedMeta.lookup k := by
  unfold State.commit
  split
  · exact .inl ⟨⟨_, rfl⟩, rfl⟩
  · unfold changeSettingsIfWith
    split
    · exact .inl ⟨⟨_, rfl⟩, rfl⟩
    · next changed next hset =>
      obtain ⟨rfl, hrow⟩ | ⟨rfl, -, -, hrows⟩ := AppSettings.setBinding_spec hset
      · exact .inr ⟨rfl, hrow, fun _ _ => rfl⟩
      · cases saved with
        | error e => exact .inl ⟨⟨e, rfl⟩, rfl⟩
        | ok u => exact .inr ⟨rfl, (hrows _).trans (if_pos rfl), fun k hk =>
            (hrows k).trans (if_neg hk)⟩

/-- What the reply to the commit says. -/
def Concluded (p : Params) (settings : AppSettings) (adoptedIps : FiniteMap String Ipv4Addr)
    (ip : Ipv4Addr) : Fallible Unit → State → Prop
  | .ok () => Committed p settings adoptedIps ip
  | .error _ => Open p settings adoptedIps

variable (net) in
theorem Open.commit {w : State} (h : Open p settings adoptedIps w) (ip : Ipv4Addr)
    (o : Outcome N) :
    Concluded p settings adoptedIps ip (handle net p w (.commit ip (adoptedRow p ip)) o).1
      (handle net p w (.commit ip (adoptedRow p ip)) o).2 := by
  simp only [handle]
  obtain ⟨⟨e, he⟩, hkept⟩ | ⟨hok, hrow, hrows⟩ :=
    commit_cases (p := p) w (adoptedRow p ip) o.saved
  · generalize w.commit p (adoptedRow p ip) o.saved = c at he hkept ⊢
    obtain ⟨r, s⟩ := c
    obtain rfl : r = .error e := he
    obtain rfl : s = w.settings := hkept
    exact h
  · generalize w.commit p (adoptedRow p ip) o.saved = c at hok hrow hrows ⊢
    obtain ⟨r, s⟩ := c
    obtain rfl : r = .ok () := hok
    refine ⟨fun subnet address mac => ?_, ⟨_, adoptedRow p ip, hrow, rfl, rfl, rfl⟩, fun hmem => ?_,
      fun b hb => ?_, fun subnet a ha => .inl (h.1.addresses subnet a ha), h.1.spared⟩
    · rintro ⟨row, hlookup, hbound⟩
      by_cases hk : subnet = p.deviceSubnet
      · subst hk
        obtain rfl : adoptedRow p ip = row := Option.some.inj (hrow.symm.trans hlookup)
        exact .inr hbound.2.1.symm
      · exact .inl ((h.1.rows _ _ _).mp ⟨row, (hrows subnet hk).symm.trans hlookup, hbound⟩)
    · exact bne_iff_ne.mp (List.mem_filter.mp hmem).2 rfl
    · by_cases hip : b.2 = ip
      · exact .inr hip
      · refine .inl (List.mem_filter.mpr ⟨h.2 b hb, bne_iff_ne.mpr fun he => hip ?_⟩)
        exact congrArg PendingIp.ip he

variable (net) in
theorem Committed.published {w : State} {ip : Ipv4Addr}
    (h : Committed p settings adoptedIps ip w) (row : AdoptedMeta) (o : Outcome N) :
    Committed p settings adoptedIps ip (handle net p w (.publishAdoption ip row) o).2 := by
  refine ⟨h.rows, h.committed, h.handedOver, h.accounted, fun subnet a ha => ?_, h.spared⟩
  by_cases hk : subnet = p.deviceSubnet
  · subst hk
    exact .inr ⟨rfl, (Option.some.inj ((Finmap.lookup_insert _).symm.trans ha)).symm⟩
  · exact h.addresses subnet a ((Finmap.lookup_insert_of_ne _ hk).symm.trans ha)

theorem conclude_triple (ip : Ipv4Addr) :
    (world net p).Triple (Stop p settings adoptedIps) (Open p settings adoptedIps) (conclude p ip)
      fun _ => Outlasts p settings adoptedIps := by
  have hopen : (world net p).Stable (Open p settings adoptedIps) := stable_open
  refine .bind _ (read_triple net p settings adoptedIps hopen (fun _ h => h) fun _ _ => rfl)
    fun stopped => ?_
  refine .bind _ (read_triple net p settings adoptedIps hopen (fun _ h => h) fun _ _ => rfl)
    fun stale => ?_
  split
  · exact rollback_triple _
  refine .request (Concluded p settings adoptedIps ip) hopen (fun w h => h.stop)
    (fun w o h => h.commit net ip o) fun r => ?_
  match r with
  | .error e => exact rollback_triple _
  | .ok () =>
    refine .request (fun _ => Committed p settings adoptedIps ip) stable_committed
      (fun w h => ⟨.inr ⟨ip, h⟩, nofun⟩) (fun w o h => h.published net _ o) fun _ => ?_
    exact .done stable_committed fun _ h => .inr ⟨ip, h⟩

/-! ### The whole attempt -/

theorem adoptBounded_triple :
    (world net p).Triple (Stop p settings adoptedIps)
      (fun w => Before p settings adoptedIps w ∧ Subnet.Held p.adoptionId
        (p.prepared.toList.map fun scratch => (p.iface, scratch.address)) none w.adoption)
      (adoptBounded p) fun _ => Open p settings adoptedIps := by
  intro w h
  have hsafe := Subnet.adoptSubnet_triple p.iface p.deviceIp p.currentIps p.hostIps p.prepared
    p.polls w.adoption h.2
  have hstable : (Subnet.world p.adoptionId).Stable (Subnet.Accounted p.adoptionId) :=
    fun a change ha b hb => (Subnet.mem_interfere rfl a change).mpr (ha b hb)
  refine .mono (fun r w hr => ?_) (hsafe.deadline embeds hstable (fun _ _ hg => hg.1)
    (fun _ _ hr => hr.1) (fun e w hw hg => Open.stop ⟨hw, hg.1⟩) h.1)
  cases r with
  | none => exact hr
  | some r => exact ⟨hr.1, hr.2.1⟩

theorem finish_triple (r : Option (Fallible (Option Ipv4Addr))) :
    (world net p).Triple (Stop p settings adoptedIps) (Open p settings adoptedIps) (finish p r)
      fun _ => Outlasts p settings adoptedIps := by
  have hopen : (world net p).Stable (Open p settings adoptedIps) := stable_open
  match r with
  | some (.ok (some ip)) => exact conclude_triple ip
  | some (.ok none) =>
    refine .bind _ (read_triple net p settings adoptedIps hopen (fun _ h => h) fun _ _ => rfl)
      fun stopped => ?_
    split <;> exact .done hopen fun _ h => .inl h
  | some (.error e) => exact rollback_triple _
  | none => exact rollback_triple _

theorem bound_erase {s : AppSettings} {subnet : String} {row : AdoptedMeta}
    (hrow : s.adoptedMeta.lookup subnet = some row) (hd : row.desired = .removed)
    {k : String} {address mac : Option String} :
    Bound { s with adoptedMeta := s.adoptedMeta.erase subnet } k address mac ↔
      Bound s k address mac := by
  refine exists_congr fun r => and_congr_left fun hr => ?_
  change (s.adoptedMeta.erase subnet).lookup k = some r ↔ _
  rw [FiniteMap.lookup_erase]
  split
  · next hk =>
    subst hk
    refine ⟨nofun, fun h => ?_⟩
    obtain rfl := Option.some.inj (hrow.symm.trans h)
    exact absurd (hd.symm.trans hr.1) nofun
  · rfl

variable (net) in
/-- Only a completed removal is forgotten. -/
theorem Before.forgotten {w : State} (h : Before p settings adoptedIps w) (row : AdoptedMeta)
    (o : Outcome N) :
    Before p settings adoptedIps (handle net p w (.forgetCompletedRemoval row) o).2 := by
  simp only [handle]
  split
  · next s hforget _ =>
    unfold AppSettings.forgetCompletedRemoval at hforget
    dsimp only at hforget
    split at hforget
    · cases hforget
    · next hc =>
      obtain ⟨-, rfl⟩ := Prod.mk.inj (Except.ok.inj hforget)
      simp only [not_or, not_not] at hc
      obtain ⟨hcomplete, hrow, -⟩ := hc
      have hd : row.desired = .removed := by
        simp [AdoptedMeta.removalComplete] at hcomplete
        exact hcomplete.1.1
      refine ⟨fun k address mac => (bound_erase hrow hd).trans (h.rows k address mac),
        fun b hb => ?_, h.addresses, h.spared⟩
      refine FiniteMap.anyEntry_eq_false.mpr fun k r hr => ?_
      rw [FiniteMap.lookup_erase] at hr
      split at hr
      · cases hr
      · exact FiniteMap.anyEntry_eq_false.mp (h.unnamed b hb) k r hr
  · exact h
  · exact h

/-- An attempt that may bind addresses. -/
def Ready (p : Params) (settings : AppSettings) (adoptedIps : FiniteMap String Ipv4Addr)
    (w : State) : Prop :=
  Before p settings adoptedIps w ∧ Subnet.Held p.adoptionId
    (p.prepared.toList.map fun scratch => (p.iface, scratch.address)) none w.adoption

theorem stable_ready : (world net p).Stable (Ready p settings adoptedIps) :=
  stable_before.and stable_held

theorem Ready.open {w : State} (h : Ready p settings adoptedIps w) : Open p settings adoptedIps w :=
  ⟨h.1, h.2.accounted⟩

theorem prepareSubnet_triple :
    (world net p).Triple (Stop p settings adoptedIps) (Ready p settings adoptedIps) prepareSubnet
      fun _ => Ready p settings adoptedIps := by
  have hready : (world net p).Stable (Ready p settings adoptedIps) := stable_ready
  refine .bind _ (read_triple net p settings adoptedIps hready (fun _ h => h.open) fun _ _ => rfl)
    fun (r : Fallible (Option AdoptedMeta)) => ?_
  match r with
  | .error e => exact .done hready fun _ h => h
  | .ok none => exact .done hready fun _ h => h
  | .ok (some row) =>
    refine .request (fun _ => Ready p settings adoptedIps) hready (fun w h => h.open.stop)
      (fun w o h => ?_) fun (r : Fallible Unit) => ?_
    · refine ⟨h.1.forgotten net row o, ?_⟩
      simp only [world, handle]
      split <;> exact h.2
    · match r with
      | .error e => exact .done hready fun _ h => h
      | .ok () =>
        refine .request (fun _ => Ready p settings adoptedIps) hready (fun w h => h.open.stop)
          (fun w o h => ?_) fun _ => .done hready fun _ h => h
        refine ⟨⟨h.1.rows, h.1.unnamed, fun subnet ip hip => ?_, h.1.spared⟩, h.2⟩
        refine h.1.addresses subnet ip ?_
        change (w.adoptedIps.erase p.deviceSubnet).lookup subnet = some ip at hip
        rw [FiniteMap.lookup_erase] at hip
        split at hip
        · cases hip
        · exact hip

theorem attemptAdoption_triple :
    (world net p).Triple (Stop p settings adoptedIps) (Ready p settings adoptedIps)
      (attemptAdoption p) fun _ => Outlasts p settings adoptedIps := by
  have hready : (world net p).Stable (Ready p settings adoptedIps) := stable_ready
  have hleave : ∀ outcome, (world net p).Triple (Stop p settings adoptedIps)
      (Ready p settings adoptedIps) (Program.done outcome : Run AdoptionAttemptOutcome)
      fun _ => Outlasts p settings adoptedIps :=
    fun _ => .done hready fun _ h => .inl h.open
  refine .bind _ (read_triple net p settings adoptedIps hready (fun _ h => h.open) fun _ _ => rfl)
    fun (stale : Bool) => ?_
  split
  · exact hleave _
  refine .bind _ (read_triple net p settings adoptedIps hready (fun _ h => h.open) fun _ _ => rfl)
    fun (mode : NetworkMode) => ?_
  split
  · exact hleave _
  split
  · exact hleave _
  refine .bind _ prepareSubnet_triple fun (go : Bool) => ?_
  split
  · exact .bind _ adoptBounded_triple fun r => finish_triple r
  · exact hleave _

end Triples

/-! ### Every end of an attempt -/

namespace Outlasts

variable {w : State} (h : Outlasts p settings adoptedIps w)
include h

/-- What is saved and still pending was saved before the attempt. -/
theorem pending_bound {subnet : String} {ip : Ipv4Addr} {mac : Option String}
    (hbound : Bound w.settings subnet (some ip.toText) mac)
    (hpending : ⟨p.iface, ip, p.adoptionId⟩ ∈ w.adoption.pending) :
    Bound settings subnet (some ip.toText) mac := by
  obtain ⟨hbefore, -⟩ | ⟨adopted, hcommitted⟩ := h
  · exact (hbefore.rows _ _ _).mp hbound
  · obtain hstart | hip := hcommitted.rows _ _ _ hbound
    · exact hstart
    · obtain rfl : ip = adopted := Ipv4Addr.toText_injective (Option.some.inj hip)
      exact absurd hpending hcommitted.handedOver

theorem accounted {b : String × Ipv4Addr} (hb : b ∈ w.adoption.bound) :
    ⟨b.1, b.2, p.adoptionId⟩ ∈ w.adoption.pending ∨
      ∃ mac, Bound w.settings p.deviceSubnet (some b.2.toText) mac := by
  obtain ⟨-, haccounted⟩ | ⟨adopted, hcommitted⟩ := h
  · exact .inl (haccounted b hb)
  · obtain hpending | rfl := hcommitted.accounted b hb
    · exact .inl hpending
    · exact .inr hcommitted.committed

theorem addresses {subnet : String} {ip : Ipv4Addr} (hip : w.adoptedIps.lookup subnet = some ip) :
    adoptedIps.lookup subnet = some ip ∨
      ∃ mac, Bound w.settings subnet (some ip.toText) mac := by
  obtain ⟨hbefore, -⟩ | ⟨adopted, hcommitted⟩ := h
  · exact .inl (hbefore.addresses subnet ip hip)
  · obtain hstart | ⟨rfl, rfl⟩ := hcommitted.addresses subnet ip hip
    · exact .inl hstart
    · exact .inr hcommitted.committed

theorem spared {ip : Ipv4Addr} (hip : ip ∈ w.removed) (subnet : String) :
    ¬ Bound settings subnet (some ip.toText) (canonicalMac p.adapterMac) := by
  obtain ⟨hbefore, -⟩ | ⟨adopted, hcommitted⟩ := h
  · exact hbefore.spared ip hip subnet
  · exact hcommitted.spared ip hip subnet

end Outlasts

theorem ready_start (p : Params) (pending : List PendingIp) (stopped stale : Bool)
    (settings : AppSettings) (adoptedIps : FiniteMap String Ipv4Addr)
    (adoptedMeta : FiniteMap String AdoptedMeta) :
    Ready p settings adoptedIps
      (State.start p pending stopped stale settings adoptedIps adoptedMeta) := by
  refine ⟨⟨fun _ _ _ => Iff.rfl, fun b hb => ?_, fun _ _ h => h, nofun⟩, ?_⟩
  · have := (List.mem_filter.mp hb).2
    rwa [Bool.not_eq_true'] at this
  · have hstart := Subnet.held_start p.iface p.adoptionId p.prepared pending stopped
    exact ⟨fun b hb => hstart.accounted b (List.mem_filter.mp hb).1,
      fun b hb => hstart.left b (List.mem_filter.mp hb).1, nofun⟩

/-- Wherever an attempt ends or is dropped: an address that it saved is not pending, one that it
bound is pending or saved, one that is exported is saved, and no removal meets an address that it
saved or that a saved row of the adapter asked for. -/
theorem adoption_commits_or_rolls_back (net : IpNetwork N) (p : Params) (pending : List PendingIp)
    (stopped stale : Bool) (settings : AppSettings) (adoptedIps : FiniteMap String Ipv4Addr)
    (adoptedMeta : FiniteMap String AdoptedMeta) (moves : List (Move (Outcome N) Interference)) :
    let c := (world net p).run (State.start p pending stopped stale settings adoptedIps adoptedMeta,
      attemptAdoption p) moves
    (∀ subnet ip mac, Bound c.1.settings subnet (some ip.toText) mac →
      ⟨p.iface, ip, p.adoptionId⟩ ∈ c.1.adoption.pending →
      Bound settings subnet (some ip.toText) mac) ∧
    (∀ e next ip, c.2 = .request e next → removal e = some ip → ∀ subnet mac,
      Bound c.1.settings subnet (some ip.toText) mac → Bound settings subnet (some ip.toText) mac) ∧
    (∀ ip ∈ c.1.removed, ∀ subnet,
      ¬ Bound settings subnet (some ip.toText) (canonicalMac p.adapterMac)) ∧
    (∀ b ∈ c.1.adoption.bound, ⟨b.1, b.2, p.adoptionId⟩ ∈ c.1.adoption.pending ∨
      ∃ mac, Bound c.1.settings p.deviceSubnet (some b.2.toText) mac) ∧
    ∀ subnet ip, c.1.adoptedIps.lookup subnet = some ip → adoptedIps.lookup subnet = some ip ∨
      ∃ mac, Bound c.1.settings subnet (some ip.toText) mac := by
  intro c
  have h : (world net p).Safe (Stop p settings adoptedIps)
      (fun _ => Outlasts p settings adoptedIps) c.2 c.1 :=
    (attemptAdoption_triple _
      (ready_start p pending stopped stale settings adoptedIps adoptedMeta)).run moves
  generalize c.2 = program, c.1 = w at h
  have hkept : Outlasts p settings adoptedIps w :=
    h.holds (I := Outlasts p settings adoptedIps) (fun _ _ hstop => hstop.1) fun _ _ hr => hr
  refine ⟨fun _ _ _ => hkept.pending_bound, ?_, fun _ => hkept.spared, fun _ => hkept.accounted,
    fun _ _ => hkept.addresses⟩
  rintro e next ip rfl hremoval subnet mac hbound
  exact ((h.issued.2 (by simp [hremoval])).rows subnet _ mac).mp hbound

/-- Every operation succeeds, and the adopted address is saved and handed over. -/
example :
    let p : Params :=
      { iface := "eth", adapterMac := "02:00:00:00:00:01", interfaceIndex := 3
        deviceIp := ⟨192, 168, 5, 20⟩, deviceSubnet := "192.168.5.0/24", currentIps := []
        hostIps := [], adoptionId := 7, prepared := none, polls := 3
        now := "2024-01-01T00:00:00+00:00" }
    let settings : AppSettings :=
      { AppSettings.fresh "00000000-0000-4000-8000-000000000000" with
        selectedAdapterMac := some p.adapterMac }
    let c := (world .cidr p).run (State.start p [] false false settings ∅ ∅, attemptAdoption p)
      (List.replicate 26 (.reply {}))
    c.2.returned = some .adopted ∧ c.1.adoption.pending = [] ∧
      c.1.adoption.bound = [("eth", ⟨192, 168, 5, 100⟩)] ∧
      c.1.settings.adoptedMeta.lookup p.deviceSubnet = some (adoptedRow p ⟨192, 168, 5, 100⟩) ∧
      c.1.adoptedIps.lookup p.deviceSubnet = some ⟨192, 168, 5, 100⟩ := by
  decide +kernel

/-- A saved address that is not applied, and an attempt whose every operation fails. -/
theorem saved_scratch_stays_pending :
    let row : AdoptedMeta :=
      { adapterMac := some "02:00:00:00:00:01", prefixLen := some 16
        address := some "192.168.5.254", lastError := some "adapter is DHCP" }
    let settings : AppSettings :=
      { AppSettings.fresh "00000000-0000-4000-8000-000000000000" with
        selectedAdapterMac := some "02:00:00:00:00:01"
        adoptedSubnets := (∅ : FiniteMap String String).insert "192.168.0.0/16" "192.168.5.254"
        adoptedMeta := (∅ : FiniteMap String AdoptedMeta).insert "192.168.0.0/16" row }
    let p : Params :=
      { iface := "eth", adapterMac := "02:00:00:00:00:01", interfaceIndex := 3
        deviceIp := ⟨192, 168, 5, 20⟩, deviceSubnet := "192.168.5.0/24", currentIps := []
        hostIps := [], adoptionId := 7, prepared := none, polls := 3
        now := "2024-01-01T00:00:00+00:00" }
    let failing : Outcome (Ipv4Addr × UInt8) :=
      { op := { error := some (.network "Adapter observation unavailable"), tookEffect := false } }
    let c := (world .cidr p).run (State.start p [] false false settings ∅ ∅, attemptAdoption p)
      (List.replicate 3 (.reply {}) ++ List.replicate 5 (.reply failing))
    c.2.returned = some .failed ∧
      Bound c.1.settings "192.168.0.0/16" (some (Ipv4Addr.toText ⟨192, 168, 5, 254⟩))
        (some "02:00:00:00:00:01") ∧
      ⟨"eth", ⟨192, 168, 5, 254⟩, 7⟩ ∈ c.1.adoption.pending := by
  intro row settings p failing c
  have hended : c.2.returned = some .failed := by decide +kernel
  have hpending : c.1.adoption.pending = [⟨"eth", ⟨192, 168, 5, 254⟩, 7⟩] := by decide +kernel
  have hrow : c.1.settings.adoptedMeta.lookup "192.168.0.0/16" = some row := by decide +kernel
  exact ⟨hended, ⟨row, hrow, rfl, rfl, rfl⟩, hpending ▸ List.mem_singleton_self _⟩

end Attempt

end PocketStream
