import PocketStream.Frontend.Discovery

/-! # Scan chains are accounted for

A chain starts in one place and ends in one of three, and what each of them does to
the count, the marks and the phase is said once. The count is right in every run. A
mark covers every chain started since the marks were cleared, as long as no chain
leaves its mark behind or releases that of another one.
-/

namespace PocketStream

open Foundation

namespace Discovery

variable {s s' : Discovery} {chain : Chain} {found : Bool} {phase : DiscoveryPhase}

/-- The count is that of the chains under way. -/
structure Counted (s : Discovery) : Prop where
  pending : s.pendingScans = s.chains.length
  started : s.next = s.chains.length + s.endings.length
  distinct : s.chains.Pairwise fun c d => c.id ≠ d.id
  drawn : ∀ c ∈ s.chains, c.id < s.next
  epochs : ∀ c ∈ s.chains, c.epoch ≤ s.clears

/-- The marks cover the chains started since they were cleared. -/
structure Marked (s : Discovery) : Prop where
  covered : ∀ c ∈ s.chains, c.epoch = s.clears → c.ip ∈ s.scannedIps
  single : s.chains.Pairwise fun c d => c.ip = d.ip → c.epoch ≠ d.epoch
  released : ∀ e ∈ s.endings, e.found = false → e.eligible = true

/-- Scanning goes on only while a chain is under way. -/
def Quiet (s : Discovery) : Prop := s.discoveryPhase = .scanning → s.chains ≠ []

/-- Two states that differ in the phase and its timers only. -/
structure SameScans (s s' : Discovery) : Prop where
  pendingScans : s'.pendingScans = s.pendingScans
  chains : s'.chains = s.chains
  scannedIps : s'.scannedIps = s.scannedIps
  clears : s'.clears = s.clears
  next : s'.next = s.next
  endings : s'.endings = s.endings

theorem Counted.congr (h : s.Counted) (hs : SameScans s s') : s'.Counted where
  pending := by rw [hs.pendingScans, hs.chains, h.pending]
  started := by rw [hs.next, hs.chains, hs.endings, h.started]
  distinct := hs.chains ▸ h.distinct
  drawn := by
    rw [hs.chains, hs.next]
    exact h.drawn
  epochs := by
    rw [hs.chains, hs.clears]
    exact h.epochs

theorem Marked.congr (h : s.Marked) (hs : SameScans s s') : s'.Marked where
  covered := by
    rw [hs.chains, hs.clears, hs.scannedIps]
    exact h.covered
  single := hs.chains ▸ h.single
  released := hs.endings ▸ h.released

/-! ### Starts -/

/-- A new chain for an address that is not marked. -/
theorem Counted.start (h : s.Counted) (mac ip : String) :
    { s with
      scannedIps := insert ip s.scannedIps
      pendingScans := s.pendingScans + 1
      chains := ⟨s.next, mac, ip, 0, s.clears, .reply⟩ :: s.chains
      next := s.next + 1 }.Counted where
  pending := by simp [h.pending]
  started := by
    have := h.started
    simp only [List.length_cons]
    omega
  distinct := List.pairwise_cons.mpr ⟨fun c hc => (Nat.ne_of_lt (h.drawn c hc)).symm, h.distinct⟩
  drawn c hc := by
    rcases List.mem_cons.mp hc with rfl | hc
    · exact Nat.lt_succ_self _
    · exact Nat.lt_succ_of_lt (h.drawn c hc)
  epochs c hc := by
    rcases List.mem_cons.mp hc with rfl | hc
    · exact Nat.le_refl _
    · exact h.epochs c hc

theorem Marked.start (h : s.Marked) (mac : String) {ip : String} (hip : ip ∉ s.scannedIps) :
    { s with
      scannedIps := insert ip s.scannedIps
      pendingScans := s.pendingScans + 1
      chains := ⟨s.next, mac, ip, 0, s.clears, .reply⟩ :: s.chains
      next := s.next + 1 }.Marked where
  covered c hc hepoch := by
    rcases List.mem_cons.mp hc with rfl | hc
    · exact Finset.mem_insert_self _ _
    · exact Finset.mem_insert_of_mem (h.covered c hc hepoch)
  -- an older chain of the address has an older epoch, or it would be marked
  single := by
    refine List.pairwise_cons.mpr ⟨fun c hc (hsame : ip = c.ip) hepoch => ?_, h.single⟩
    exact hip (hsame ▸ h.covered c hc hepoch.symm)
  released := h.released

theorem scanDevicePorts_cases (s : Discovery) (mac ip : String) :
    s.scanDevicePorts mac ip = s ∨ ip ∉ s.scannedIps ∧ s.scanDevicePorts mac ip = { s with
      scannedIps := insert ip s.scannedIps
      pendingScans := s.pendingScans + 1
      chains := ⟨s.next, mac, ip, 0, s.clears, .reply⟩ :: s.chains
      next := s.next + 1 } := by
  unfold scanDevicePorts
  split
  · exact .inl rfl
  split
  · exact .inl rfl
  next hip => exact .inr ⟨hip, rfl⟩

/-- What scanning a list of devices leaves: more chains, in the same mode and phase. -/
structure Scans (s s' : Discovery) : Prop where
  counted : s.Counted → s'.Counted
  marked : s.Marked → s'.Marked
  chains : s.chains ≠ [] → s'.chains ≠ []
  phase : s'.discoveryPhase = s.discoveryPhase

theorem scans_device (s : Discovery) (mac ip : String) : Scans s (s.scanDevicePorts mac ip) := by
  rcases scanDevicePorts_cases s mac ip with h | ⟨hip, h⟩
  · rw [h]
    exact ⟨id, id, id, rfl⟩
  · rw [h]
    exact ⟨fun hc => hc.start mac ip, fun hm => hm.start mac hip, fun _ => List.cons_ne_nil _ _, rfl⟩

theorem scans_devices (s : Discovery) (records : List DeviceRecord) :
    Scans s (records.foldl (fun s r => s.scanDevicePorts r.mac r.ip) s) := by
  induction records generalizing s with
  | nil => exact ⟨id, id, id, rfl⟩
  | cons r records ih =>
    have hfirst := scans_device s r.mac r.ip
    have hrest := ih (s.scanDevicePorts r.mac r.ip)
    exact ⟨hrest.counted ∘ hfirst.counted, hrest.marked ∘ hfirst.marked,
      hrest.chains ∘ hfirst.chains, hrest.phase.trans hfirst.phase⟩

theorem same_setDiscoveryPhase (s : Discovery) (phase : DiscoveryPhase) :
    SameScans s (s.setDiscoveryPhase phase) := ⟨rfl, rfl, rfl, rfl, rfl, rfl⟩

theorem setDiscoveryPhase_scanning (h : (s.setDiscoveryPhase phase).discoveryPhase = .scanning) :
    phase = .scanning := by
  revert h
  unfold setDiscoveryPhase
  dsimp only
  split
  · split <;> exact nofun
  · split
    · exact nofun
    · exact id

/-- A step that keeps the accounts whatever happens, and the marks and the phase. -/
structure Keeps (s s' : Discovery) : Prop where
  counted : s.Counted → s'.Counted
  marked : s.Counted → s.Marked → s'.Marked
  quiet : s.Quiet → s'.Quiet

theorem Keeps.refl (s : Discovery) : Keeps s s := ⟨id, fun _ => id, id⟩

theorem Keeps.trans {s₁ : Discovery} (h : Keeps s s₁) (h' : Keeps s₁ s') : Keeps s s' :=
  ⟨h'.counted ∘ h.counted, fun hc hm => h'.marked (h.counted hc) (h.marked hc hm),
    h'.quiet ∘ h.quiet⟩

theorem SameScans.keeps (hs : SameScans s s')
    (hphase : s'.discoveryPhase = .scanning → s.discoveryPhase = .scanning) : Keeps s s' :=
  ⟨fun h => h.congr hs, fun _ h => h.congr hs, fun h hp => hs.chains ▸ h (hphase hp)⟩

theorem keeps_setDiscoveryPhase (s : Discovery) (phase : DiscoveryPhase)
    (hphase : phase ≠ .scanning) :
    Keeps s (s.setDiscoveryPhase phase) :=
  (same_setDiscoveryPhase s phase).keeps fun h => absurd (setDiscoveryPhase_scanning h) hphase

theorem keeps_scanAll (s : Discovery) : Keeps s s.scanAllRoutableDevices := by
  unfold scanAllRoutableDevices
  split
  · exact .refl s
  next hopen =>
  split
  · exact .refl s
  next hscan =>
    have hphase := same_setDiscoveryPhase s .scanning
    have hscans := scans_devices (s.setDiscoveryPhase .scanning) s.toScan
    refine ⟨fun h => hscans.counted (h.congr hphase), fun _ h => hscans.marked (h.congr hphase),
      fun _ _ => ?_⟩
    -- the first device is neither marked nor held back by the mode
    obtain ⟨r, records, hr⟩ := List.exists_cons_of_ne_nil hscan
    have hmem : r ∈ s.toScan := hr ▸ List.mem_cons_self
    have hip : r.ip ∉ s.scannedIps := by
      have hready := (List.mem_filter.mp hmem).2
      simp only [Bool.and_eq_true, decide_eq_true_eq] at hready
      exact hready.1.2
    have hauto : (s.setDiscoveryPhase .scanning).isManual = false := by
      simp only [Bool.or_eq_true, not_or, Bool.not_eq_true] at hopen
      exact hopen.1
    rw [hr, List.foldl_cons]
    refine (scans_devices _ records).chains ?_
    rw [scanDevicePorts, if_neg (by simp [hauto]), if_neg (by exact hip)]
    exact List.cons_ne_nil _ _

/-- No chain belongs to the marks that follow a clear. -/
theorem keeps_clear (s : Discovery) :
    Keeps s { s with scannedIps := ∅, clears := s.clears + 1 } where
  counted h := ⟨h.pending, h.started, h.distinct, h.drawn,
    fun c hc => Nat.le_succ_of_le (h.epochs c hc)⟩
  marked hc hm := ⟨fun c hmem hepoch => absurd (hepoch ▸ hc.epochs c hmem) (Nat.not_succ_le_self _),
    hm.single, hm.released⟩
  quiet := id

theorem keeps_reset (s : Discovery) : Keeps s s.resetDiscoveryStatus := by
  have hfresh : Keeps s { s with
      scannedIps := ∅
      clears := s.clears + 1
      graceTimer := none
      initialFlowComplete := false
      initialFlowStartedAt := 0 } :=
    (keeps_clear s).trans (SameScans.keeps ⟨rfl, rfl, rfl, rfl, rfl, rfl⟩ id)
  exact (hfresh.trans (keeps_setDiscoveryPhase _ .discovering nofun)).trans (keeps_scanAll _)

/-! ### Attempts and ends -/

/-- An attempt changes neither the number of a chain nor its address and epoch. -/
theorem awaits_same (c : Chain) (id attempt : ℕ) (wait : Wait) :
    (c.awaits id attempt wait).id = c.id ∧ (c.awaits id attempt wait).ip = c.ip ∧
      (c.awaits id attempt wait).epoch = c.epoch := by
  unfold Chain.awaits
  split <;> exact ⟨rfl, rfl, rfl⟩

theorem keeps_await (s : Discovery) (chain : Chain) (attempt : ℕ) (wait : Wait) :
    Keeps s (s.await chain attempt wait) where
  counted h := by
    refine ⟨?_, ?_, List.pairwise_map.mpr ?_, List.forall_mem_map.mpr fun c hc => ?_,
      List.forall_mem_map.mpr fun c hc => ?_⟩
    · exact h.pending.trans (by rw [await, List.length_map])
    · exact h.started.trans (by rw [await, List.length_map])
    · simpa only [awaits_same] using h.distinct
    · exact (awaits_same c _ _ _).1 ▸ h.drawn c hc
    · exact (awaits_same c _ _ _).2.2 ▸ h.epochs c hc
  marked _ h := by
    refine ⟨List.forall_mem_map.mpr fun c hc => ?_, List.pairwise_map.mpr ?_, h.released⟩
    · rw [(awaits_same c _ _ _).2.1, (awaits_same c _ _ _).2.2]
      exact h.covered c hc
    · simpa only [awaits_same] using h.single
  quiet h hp := fun hnone => h hp (List.map_eq_nil_iff.mp hnone)

theorem keeps_mark (s : Discovery) (ip : String) :
    Keeps s { s with scannedIps := insert ip s.scannedIps } where
  counted h := ⟨h.pending, h.started, h.distinct, h.drawn, h.epochs⟩
  marked _ h := ⟨fun c hc hepoch => Finset.mem_insert_of_mem (h.covered c hc hepoch), h.single,
    h.released⟩
  quiet := id

/-- What the end of a chain does, wherever it ends. -/
structure Ends (s : Discovery) (chain : Chain) (found : Bool) (s' : Discovery) : Prop where
  pendingScans : s'.pendingScans = s.pendingScans - 1
  chains : s'.chains = s.chains.filter (·.id ≠ chain.id)
  clears : s'.clears = s.clears
  next : s'.next = s.next
  endings : s'.endings = ⟨chain.id, chain.ip, found, chain.ip ∉ s'.scannedIps⟩ :: s.endings
  phase : s'.discoveryPhase = .scanning → s.discoveryPhase = .scanning

theorem ends_leaveManual (s : Discovery) (chain : Chain) (found : Bool) :
    Ends s chain found (s.leaveManual chain found) := ⟨rfl, rfl, rfl, rfl, rfl, id⟩

theorem same_scansDone (s : Discovery) : SameScans s s.scansDone := by
  unfold scansDone
  split
  · dsimp only
    split <;> exact ⟨rfl, rfl, rfl, rfl, rfl, rfl⟩
  · exact ⟨rfl, rfl, rfl, rfl, rfl, rfl⟩

theorem scansDone_scanning (h : s.scansDone.discoveryPhase = .scanning) :
    s.discoveryPhase = .scanning ∧ 0 < s.pendingScans := by
  unfold scansDone at h
  split at h
  · dsimp only at h
    split at h
    · have hdiscovering : DiscoveryPhase.discovering = .scanning :=
        setDiscoveryPhase_scanning (s := s) h
      cases hdiscovering
    · exact nomatch setDiscoveryPhase_scanning h
  next hmore => exact ⟨h, not_le.mp hmore⟩

/-- The last chain takes the phase along. -/
theorem ends_finish (s : Discovery) (chain : Chain) (found : Bool) :
    Ends s chain found (s.finish chain found) ∧
      (s.finish chain found).scannedIps = s.scannedIps ∧
      ((s.finish chain found).discoveryPhase = .scanning → s.pendingScans ≠ 1) := by
  have hsame := same_scansDone { s with pendingScans := s.pendingScans - 1 }
  have hphase := scansDone_scanning (s := { s with pendingScans := s.pendingScans - 1 })
  refine ⟨⟨hsame.pendingScans, ?_, hsame.clears, hsame.next, ?_, fun h => (hphase h).1⟩,
    hsame.scannedIps, fun h hone => ?_⟩
  · exact congrArg _ hsame.chains
  · exact congrArg (List.cons _) hsame.endings
  · have hpos : 0 < s.pendingScans - 1 := (hphase h).2
    omega

theorem length_filter_ne {chains : List Chain} (hd : chains.Pairwise fun c d => c.id ≠ d.id)
    (hmem : chain ∈ chains) : (chains.filter (·.id ≠ chain.id)).length + 1 = chains.length := by
  induction chains with
  | nil => cases hmem
  | cons c chains ih =>
    obtain ⟨hne, hd⟩ := List.pairwise_cons.mp hd
    rcases List.mem_cons.mp hmem with rfl | hmem
    · rw [List.filter_cons_of_neg (by simp), List.length_cons,
        List.filter_eq_self.mpr fun d hd => by simpa using (hne d hd).symm]
    · rw [List.filter_cons_of_pos (by simpa using hne chain hmem), List.length_cons, ih hd hmem,
        List.length_cons]

theorem Counted.ends (h : s.Counted) (hmem : chain ∈ s.chains) (he : Ends s chain found s') :
    s'.Counted := by
  have hlength := length_filter_ne h.distinct hmem
  constructor
  · rw [he.pendingScans, he.chains, h.pending, ← hlength]
    simp
  · rw [he.next, he.chains, he.endings, List.length_cons, h.started, ← hlength]
    omega
  · exact he.chains ▸ h.distinct.filter _
  · rw [he.chains, he.next]
    exact fun c hc => h.drawn c (List.mem_of_mem_filter hc)
  · rw [he.chains, he.clears]
    exact fun c hc => h.epochs c (List.mem_of_mem_filter hc)

theorem Marked.ends (h : s.Marked) (he : Ends s chain found s')
    (hcovered : ∀ c ∈ s.chains, c.id ≠ chain.id → c.epoch = s.clears → c.ip ∈ s'.scannedIps)
    (hfree : found = true ∨ chain.ip ∉ s'.scannedIps) : s'.Marked where
  covered c hc hepoch := by
    rw [he.chains] at hc
    obtain ⟨hc, hne⟩ := List.mem_filter.mp hc
    exact hcovered c hc (of_decide_eq_true hne) (he.clears ▸ hepoch)
  single := he.chains ▸ h.single.filter _
  released e hmem hfound := by
    rw [he.endings] at hmem
    rcases List.mem_cons.mp hmem with rfl | hmem
    · have hnot : found = false := hfound
      exact decide_eq_true (hfree.resolve_left (by simp [hnot]))
    · exact h.released e hmem hfound

theorem Counted.quiet (hc : s.Counted) (hmem : chain ∈ s.chains)
    (he : Ends s chain found s')
    (hlast : s'.discoveryPhase = .scanning → s.pendingScans ≠ 1) : s'.Quiet := by
  intro hphase hnone
  have hone := hlast hphase
  have hlength := length_filter_ne hc.distinct hmem
  rw [he.chains] at hnone
  rw [hnone] at hlength
  rw [hc.pending, ← hlength] at hone
  exact hone rfl

/-! ### The calls -/

/-- What a call does to the accounts, and to the marks and the phase if it is tidy. -/
structure Accounts (s : Discovery) (call : Call) (s' : Discovery) : Prop where
  counted : s.Counted → s'.Counted
  tidy : s.Tidy call → s.Counted → s.Marked → s.Quiet → s'.Marked ∧ s'.Quiet

theorem Keeps.accounts {call : Call} (h : Keeps s s') : Accounts s call s' :=
  ⟨h.counted, fun _ hc hm hq => ⟨h.marked hc hm, h.quiet hq⟩⟩

theorem accounts_leave {call : Call} (hmem : chain ∈ s.chains)
    (hcall : s.leaves call = some (chain, found)) :
    Accounts s call (s.leaveManual chain found) := by
  have he := ends_leaveManual s chain found
  refine ⟨fun hc => hc.ends hmem he, fun ht hc hm hq => ?_⟩
  obtain ⟨hfree, hlast⟩ := ht.leaves _ hcall
  refine ⟨hm.ends he (fun c hcm _ hepoch => hm.covered c hcm hepoch) hfree,
    hc.quiet hmem he fun hphase hone => hlast ⟨he.phase hphase, hone⟩⟩

theorem accounts_found {call : Call} (hmem : chain ∈ s.chains) :
    Accounts s call (s.finish chain true) := by
  obtain ⟨he, hsame, hlast⟩ := ends_finish s chain true
  refine ⟨fun hc => hc.ends hmem he, fun _ hc hm hq => ⟨?_, hc.quiet hmem he hlast⟩⟩
  exact hm.ends he (fun c hcm _ hepoch => hsame ▸ hm.covered c hcm hepoch) (.inl rfl)

theorem accounts_giveUp {call : Call} (hmem : chain ∈ s.chains)
    (hcall : s.releases call = some chain) : Accounts s call (s.giveUp chain) := by
  obtain ⟨he, hsame, hlast⟩ := ends_finish
    { s with scannedIps := s.scannedIps.erase chain.ip } chain false
  have he' : Ends s chain false (s.giveUp chain) :=
    ⟨he.pendingScans, he.chains, he.clears, he.next, he.endings, he.phase⟩
  refine ⟨fun hc => hc.ends hmem he', fun ht hc hm hq => ⟨?_, hc.quiet hmem he' hlast⟩⟩
  have hmarks : (s.giveUp chain).scannedIps = s.scannedIps.erase chain.ip := hsame
  refine hm.ends he' (fun c hcm hne hepoch => ?_) (.inr ?_)
  · rw [hmarks]
    refine Finset.mem_erase.mpr ⟨fun hip => ?_, hm.covered c hcm hepoch⟩
    exact ht.releases chain hcall c hcm hne hip hepoch
  · rw [hmarks]
    exact Finset.notMem_erase _ _

theorem mem_of_replying {id : ℕ} (h : s.replying id = some chain) : chain ∈ s.chains :=
  List.mem_of_find?_eq_some h

theorem mem_of_retrying {id : ℕ} (h : s.retrying id = some chain) : chain ∈ s.chains :=
  List.mem_of_find?_eq_some h

theorem accounts_scanReply {id : ℕ} {reply : Option (List ScanResult)}
    (h : s.replying id = some chain) :
    Accounts s (.scanReply id reply) (s.scanReply chain reply) := by
  have hmem := mem_of_replying h
  cases reply with
  | none =>
    unfold scanReply
    dsimp only
    split
    · exact (keeps_await s chain _ _).accounts
    next hlast =>
      refine accounts_giveUp hmem ?_
      simp only [releases, h, Option.filter_some]
      rw [if_pos]
      by_cases hmanual : s.isManual = true <;> simp_all
  | some results =>
    unfold scanReply
    dsimp only
    split
    next hmanual => exact accounts_leave hmem (by simp [leaves, hmanual, h])
    next hauto =>
    split
    · exact accounts_found hmem
    next hnone =>
    split
    · exact (keeps_await s chain _ _).accounts
    next hlast =>
      refine accounts_giveUp hmem ?_
      simp only [releases, h, Option.filter_some]
      rw [if_pos]
      simp_all

theorem accounts_nextAttempt {id : ℕ} (h : s.retrying id = some chain) :
    Accounts s (.retryTimer id) (s.nextAttempt chain) := by
  unfold nextAttempt
  split
  next hmanual => exact accounts_leave (mem_of_retrying h) (by simp [leaves, hmanual, h])
  · exact ((keeps_mark s chain.ip).trans (keeps_await _ chain _ _)).accounts

theorem keeps_arpDeviceDiscovered (s : Discovery) (known : Bool) :
    Keeps s (s.arpDeviceDiscovered known) := by
  unfold arpDeviceDiscovered
  split
  · exact .refl s
  dsimp only
  split
  · exact (keeps_setDiscoveryPhase s .discovering nofun).trans (keeps_scanAll _)
  · exact keeps_scanAll s

theorem keeps_onDevices (s : Discovery) (snapshot : List DeviceRecord) :
    Keeps s (s.onDevices snapshot) := by
  have hnoted (keys : List (String × String)) :
      Keeps s { s with devices := snapshot, scanReadyKeys := keys } :=
    SameScans.keeps ⟨rfl, rfl, rfl, rfl, rfl, rfl⟩ id
  unfold onDevices
  dsimp only
  split
  · exact (hnoted _).trans (keeps_scanAll _)
  · exact hnoted _

theorem keeps_discoveryDegraded (s : Discovery) : Keeps s s.discoveryDegraded := by
  have hcleared (complete : Bool) : Keeps s { s with
      graceTimer := none, initialFlowComplete := complete } :=
    SameScans.keeps ⟨rfl, rfl, rfl, rfl, rfl, rfl⟩ id
  unfold discoveryDegraded
  split
  · dsimp only
    split
    · exact (hcleared true).trans (keeps_setDiscoveryPhase _ .idle nofun)
    · exact hcleared _
  · exact .refl s

theorem keeps_graceTimerFires (s : Discovery) : Keeps s s.graceTimerFires := by
  have hcleared (complete : Bool) : Keeps s { s with
      graceTimer := none, initialFlowComplete := complete } :=
    SameScans.keeps ⟨rfl, rfl, rfl, rfl, rfl, rfl⟩ id
  unfold graceTimerFires
  dsimp only
  split
  · exact hcleared _
  split
  · exact (hcleared true).trans (keeps_setDiscoveryPhase _ .idle nofun)
  · exact hcleared _

theorem keeps_existingArpState (s : Discovery) : Keeps s s.existingArpState := by
  unfold existingArpState
  split
  · exact keeps_setDiscoveryPhase s .discovering nofun
  · exact keeps_scanAll s

theorem accounts_step {call : Call} (hs : s.step call = some s') : Accounts s call s' := by
  have hframe {s' : Discovery} (h : SameScans s s') (hp : s'.discoveryPhase = s.discoveryPhase) :
      Accounts s call s' := (h.keeps fun h' => hp ▸ h').accounts
  cases call with
  | elapse ms =>
    obtain rfl := Option.some.inj hs
    exact hframe ⟨rfl, rfl, rfl, rfl, rfl, rfl⟩ rfl
  | networkMode mode =>
    obtain rfl := Option.some.inj hs
    exact hframe ⟨rfl, rfl, rfl, rfl, rfl, rfl⟩ rfl
  | interfaceConnected connected =>
    obtain rfl := Option.some.inj hs
    exact hframe ⟨rfl, rfl, rfl, rfl, rfl, rfl⟩ rfl
  | setDiscoveryPhase discovering =>
    obtain rfl := Option.some.inj hs
    exact (keeps_setDiscoveryPhase s _ (by split <;> nofun)).accounts
  | hideDiscoveryStatus =>
    obtain rfl := Option.some.inj hs
    have hcleared : Keeps s s.clearGraceTimer := SameScans.keeps ⟨rfl, rfl, rfl, rfl, rfl, rfl⟩ id
    exact (hcleared.trans (keeps_setDiscoveryPhase _ .idle nofun)).accounts
  | resetDiscoveryStatus =>
    obtain rfl := Option.some.inj hs
    exact (keeps_reset s).accounts
  | onDevices snapshot =>
    obtain rfl := Option.some.inj hs
    exact (keeps_onDevices s snapshot).accounts
  | routes hasRouteToSubnet =>
    obtain rfl := Option.some.inj hs
    exact hframe ⟨rfl, rfl, rfl, rfl, rfl, rfl⟩ rfl
  | subnetAdopted =>
    obtain rfl := Option.some.inj hs
    exact (keeps_scanAll s).accounts
  | arpDeviceDiscovered known =>
    obtain rfl := Option.some.inj hs
    exact (keeps_arpDeviceDiscovered s known).accounts
  | discoveryDegraded =>
    obtain rfl := Option.some.inj hs
    exact (keeps_discoveryDegraded s).accounts
  | existingArpState =>
    obtain rfl := Option.some.inj hs
    exact (keeps_existingArpState s).accounts
  | scanReply id reply =>
    obtain ⟨chain, hchain, rfl⟩ := Option.map_eq_some_iff.mp hs
    exact accounts_scanReply hchain
  | retryTimer id =>
    obtain ⟨chain, hchain, rfl⟩ := Option.map_eq_some_iff.mp hs
    exact accounts_nextAttempt hchain
  | graceTimer =>
    have hfires : Accounts s .graceTimer s.graceTimerFires := (keeps_graceTimerFires s).accounts
    unfold step at hs
    dsimp only at hs
    split at hs
    · cases hs
    · obtain ⟨-, hs⟩ := Option.ite_none_right_eq_some.mp hs
      exact Option.some.inj hs ▸ hfires

theorem counted_initial : initial.Counted where
  pending := rfl
  started := rfl
  distinct := .nil
  drawn _ hc := absurd hc List.not_mem_nil
  epochs _ hc := absurd hc List.not_mem_nil

theorem marked_initial : initial.Marked where
  covered _ hc := absurd hc List.not_mem_nil
  single := .nil
  released _ he := absurd he List.not_mem_nil

theorem quiet_initial : initial.Quiet := fun h => nomatch h

theorem counted_of_reachable (h : machine.Reachable s) : s.Counted :=
  h.invariant counted_initial fun _ _ _ hc hs => (accounts_step hs).counted hc

/-- The count is right in every run. In a tidy one no address has two chains since the marks were
cleared, a chain that found nothing leaves its address to be scanned again, and scanning goes on
only while a chain is under way. -/
theorem scan_accounting_settles (h : machine.Reaches Tidy s) :
    (s.pendingScans = s.chains.length ∧ s.next = s.chains.length + s.endings.length) ∧
      (s.chains.Pairwise fun c d => c.ip = d.ip → c.epoch ≠ d.epoch) ∧
      (∀ e ∈ s.endings, e.found = false → e.eligible = true) ∧
      (s.chains = [] → s.discoveryPhase ≠ .scanning) := by
  have hcounted := counted_of_reachable h.reachable
  have hsettled : s.Marked ∧ s.Quiet := by
    refine h.invariant (P := fun s => s.Marked ∧ s.Quiet)
      (fun _ => counted_of_reachable) ⟨marked_initial, quiet_initial⟩ ?_
    rintro s call s' hc ⟨hm, hq⟩ htidy hs
    exact (accounts_step hs).tidy htidy hc hm hq
  exact ⟨⟨hcounted.pending, hcounted.started⟩, hsettled.1.single, hsettled.1.released,
    fun hnone hphase => hsettled.2 hphase hnone⟩

/-! ### Runs of one device -/

def camera : DeviceRecord where
  verifiedByMac := none
  lastVerifiedAt := none
  mac := "02:00:00:00:00:09"
  ip := "10.0.0.9"
  subnet := "10.0.0.0/24"
  openPorts := []
  aliasName := ""
  status := .live
  firstSeen := "2026-01-01T00:00:00Z"
  lastSeen := "2026-01-01T00:00:00Z"

/-- A device comes up, and its scan starts. -/
def scanStarts : List Call :=
  [.interfaceConnected true, .routes fun _ => true, .onDevices [camera]]

/-- Every attempt of a chain fails. -/
def attemptsFail (id : ℕ) : List Call :=
  [.scanReply id none, .elapse RETRY_DELAY_MS, .retryTimer id,
    .scanReply id none, .elapse RETRY_DELAY_MS, .retryTimer id, .scanReply id none]

theorem scan_accounting_settles_failing :
    ∃ s, machine.run initial (scanStarts ++ attemptsFail 0) = some s ∧
      (s.pendingScans = s.chains.length ∧ s.next = s.chains.length + s.endings.length) ∧
      (s.chains.Pairwise fun c d => c.ip = d.ip → c.epoch ≠ d.epoch) ∧
      (∀ e ∈ s.endings, e.found = false → e.eligible = true) ∧
      (s.chains = [] → s.discoveryPhase ≠ .scanning) := by
  obtain ⟨s, hs⟩ := Option.isSome_iff_exists.mp
    (by decide : (machine.run initial (scanStarts ++ attemptsFail 0)).isSome)
  exact ⟨s, hs, scan_accounting_settles (.run .initial (by decide) hs)⟩

/-- The mode changes to Manual before the reply of the only scan. -/
def manualBeforeReply : List Call :=
  scanStarts ++ [.networkMode (some .staticManual), .scanReply 0 (some [])]

/-- The status is reset while a scan is under way, and its chain gives up before the new one. -/
def resetMidScan : List Call :=
  scanStarts ++ [.resetDiscoveryStatus] ++ attemptsFail 0 ++ [.subnetAdopted]

/-- A chain that leaves in Manual mode keeps its address marked and the phase at scanning, and a
chain from before a reset releases the mark of the one that follows it. -/
theorem scan_accounting_slips :
    (machine.run initial manualBeforeReply).map
        (fun s => (s.chains, s.endings, s.discoveryPhase, s.graceTimer)) =
      some ([], [⟨0, camera.ip, false, false⟩], .scanning, none) ∧
    (machine.run initial resetMidScan).map
        (fun s => s.chains.map fun c => (c.id, c.ip, c.epoch)) =
      some [(2, camera.ip, 1), (1, camera.ip, 1)] := by
  decide

end Discovery

end PocketStream
