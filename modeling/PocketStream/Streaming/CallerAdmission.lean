import PocketStream.Streaming.CallerRegistry

/-! # Admission of SRT callers

A caller holds one slot at most, reserved or taken, and no more slots are given
out than there are. What each call may answer is said once for every call; the
occupancy invariant makes the internal faults unreachable, and the law of
reservations follows over whole runs.
-/

namespace PocketStream

open Foundation

/-- Whether a call finds a reservation made at `reservedAt` expired. -/
def CallerCall.expires (reservedAt : ℕ) : CallerCall → Prop
  | .connecting _ _ now => PENDING_CALLER_TTL ≤ now - reservedAt
  | _ => False

/-- A call that is no decision and no add for the address, is no clear, and comes before a
reservation made at `reservedAt` expires. -/
def CallerCall.Leaves (address : CallerAddress) (reservedAt : ℕ) : CallerCall → Prop
  | .connecting other _ now => other ≠ address ∧ now - reservedAt < PENDING_CALLER_TTL
  | .added other _ => other ≠ address
  | .removed _ _ => True
  | .clear => False

/-- A fault or a reject. -/
def CallerReply.refuses : CallerReply → Prop
  | .faulted _ | .decided .rejectStreamId | .decided .rejectCapacity => True
  | _ => False

namespace CallerRegistry

variable {r r' : CallerRegistry} {address a : CallerAddress} {streamId : List UInt8}
  {now : ℕ} {unused : ℤ} {c : CallerCall} {reply : CallerReply}

/-- A slot is reserved or taken, never both, and there are slots enough. -/
structure Sound (r : CallerRegistry) : Prop where
  disjoint : ∀ a ∈ r.pending, a ∉ r.active
  bounded : r.occupancy ≤ MAX_SRT_CALLERS

theorem Sound.activeCount (hr : r.Sound) : r.activeCount.toNat = r.active.card := by
  have hb := hr.bounded
  unfold occupancy MAX_SRT_CALLERS at hb
  rw [CallerRegistry.activeCount, UInt32.toNat_ofNat', Nat.mod_eq_of_lt]
  omega

theorem mem_pruneExpired (h : a ∈ (r.pruneExpired now).pending) : a ∈ r.pending := by
  rw [← Finmap.mem_keys] at h ⊢
  exact FiniteMap.keys_retain_subset _ _ h

theorem Sound.pruneExpired (hr : r.Sound) : (r.pruneExpired now).Sound where
  disjoint a ha := hr.disjoint a (mem_pruneExpired ha)
  bounded := by
    have hb := hr.bounded
    have := Finset.card_le_card (FiniteMap.keys_retain_subset
      (fun _ reservedAt => now - reservedAt < PENDING_CALLER_TTL) r.pending)
    simp only [occupancy, CallerRegistry.pruneExpired] at hb ⊢
    omega

/-- The registry with a reservation of the present moment. -/
def reserve (r : CallerRegistry) (address : CallerAddress) (now : ℕ) : CallerRegistry :=
  { r with pending := r.pending.insert address now }

theorem Sound.reserve (hr : r.Sound) (ha : address ∉ r.active)
    (hroom : address ∈ r.pending ∨ r.occupancy < MAX_SRT_CALLERS) :
    (r.reserve address now).Sound where
  disjoint a hm := by
    rcases Finmap.mem_insert.mp hm with rfl | hm
    · exact ha
    · exact hr.disjoint a hm
  bounded := by
    have hb := hr.bounded
    simp only [occupancy, CallerRegistry.reserve, FiniteMap.keys_insert] at hb hroom ⊢
    rcases hroom with hm | hroom
    · rw [Finset.insert_eq_of_mem (Finmap.mem_keys.mpr hm)]
      exact hb
    · have := Finset.card_insert_le address r.pending.keys
      omega

theorem Sound.activate_occupancy (hr : r.Sound) (ha : address ∈ r.pending) :
    (r.activate address).occupancy = r.occupancy := by
  have hpos := Finset.card_pos.mpr ⟨address, Finmap.mem_keys.mpr ha⟩
  simp only [occupancy, activate, FiniteMap.keys_erase,
    Finset.card_erase_of_mem (Finmap.mem_keys.mpr ha),
    Finset.card_insert_of_notMem (hr.disjoint address ha)]
  omega

theorem Sound.activate (hr : r.Sound) (ha : address ∈ r.pending) : (r.activate address).Sound where
  disjoint a hm := by
    obtain ⟨hne, hm⟩ := Finmap.mem_erase.mp hm
    simpa [CallerRegistry.activate, hne] using hr.disjoint a hm
  bounded := hr.activate_occupancy ha ▸ hr.bounded

/-- A caller that the library reports removed. -/
def release (r : CallerRegistry) (address : CallerAddress) : CallerRegistry :=
  { r with active := r.active.erase address }

theorem Sound.release (hr : r.Sound) : (r.release address).Sound where
  disjoint a ha := fun hm => hr.disjoint a ha (Finset.mem_of_mem_erase hm)
  bounded := by
    have hb := hr.bounded
    have := Finset.card_le_card (Finset.erase_subset address r.active)
    simp only [occupancy, CallerRegistry.release] at hb ⊢
    omega

theorem lookup_pruneExpired {reservedAt : ℕ} (h : r.pending.lookup a = some reservedAt)
    (ht : ¬ PENDING_CALLER_TTL ≤ now - reservedAt) :
    (r.pruneExpired now).pending.lookup a = some reservedAt := by
  simpa [CallerRegistry.pruneExpired, FiniteMap.lookup_retain, h] using ht

/-! ### What a call can do -/

/-- The ways a call ends on a sound registry. -/
inductive Effect (r : CallerRegistry) : CallerCall → CallerReply → CallerRegistry → Prop where
  | rejects (address : CallerAddress) (streamId : List UInt8) (now : ℕ)
      (decision : AdmissionDecision) (hd : decision ≠ .accept) :
    Effect r (.connecting address streamId now) (.decided decision) (r.pruneExpired now)
  | repeats (address : CallerAddress) (streamId : List UInt8) (now : ℕ) (ha : address ∈ r.active) :
    Effect r (.connecting address streamId now) (.decided .accept) (r.pruneExpired now)
  | reserves (address : CallerAddress) (streamId : List UInt8) (now : ℕ) (ha : address ∉ r.active)
      (hid : ∀ id, r.expectedStreamId = some id → id = streamId)
      (hroom : address ∈ (r.pruneExpired now).pending ∨
        (r.pruneExpired now).occupancy < MAX_SRT_CALLERS) :
    Effect r (.connecting address streamId now) (.decided .accept)
      ((r.pruneExpired now).reserve address now)
  | takes (address : CallerAddress) (ha : address ∈ r.pending) :
    Effect r (.added address 0) (.counted (r.activate address).activeCount) (r.activate address)
  | releases (address : CallerAddress) (unused : ℤ) (ha : address ∈ r.active) :
    Effect r (.removed address unused) (.counted (r.release address).activeCount)
      (r.release address)
  | refuses (call : CallerCall) (fault : CallerRegistryFault)
      (hc : fault ≠ .inconsistentCallerState) (ho : fault ≠ .occupancyInvariantExceeded)
      (ha : ∀ a, call = .added a 0 → a ∉ r.pending) : Effect r call (.faulted fault) r
  | clears : Effect r .clear .cleared r.clear

theorem Sound.connecting (hr : r.Sound) :
    Effect r (.connecting address streamId now) (r.call (.connecting address streamId now)).1
      (r.call (.connecting address streamId now)).2 := by
  have hp : (r.pruneExpired now).Sound := hr.pruneExpired
  simp only [call, CallerRegistry.callerConnecting, answer,
    if_neg (Nat.not_lt.mpr hp.bounded), if_neg (fun h : _ ∧ _ => hp.disjoint address h.1 h.2)]
  split_ifs with hs hactive hpending hfull
  · exact .rejects _ _ _ .rejectStreamId nofun
  · exact .repeats _ _ _ hactive
  · exact .reserves _ _ _ hactive (fun id he => by simpa [CallerRegistry.pruneExpired, he] using hs)
      (.inl hpending)
  · exact .rejects _ _ _ .rejectCapacity nofun
  · exact .reserves _ _ _ hactive (fun id he => by simpa [CallerRegistry.pruneExpired, he] using hs)
      (.inr (Nat.lt_of_not_le hfull))

theorem Sound.added (hr : r.Sound) :
    Effect r (.added address unused) (r.call (.added address unused)).1
      (r.call (.added address unused)).2 := by
  have hother : unused ≠ 0 ∨ address ∉ r.pending →
      ∀ a, CallerCall.added address unused = .added a 0 → a ∉ r.pending := by
    rintro h a he
    obtain ⟨rfl, rfl⟩ := CallerCall.added.inj he
    exact h.resolve_left fun h => h rfl
  simp only [call, CallerRegistry.callerAdded, if_neg (Nat.not_lt.mpr hr.bounded)]
  split_ifs with h0 hpending hactive hocc hactive hfull
  · exact .refuses _ _ nofun nofun (hother (.inl h0))
  · exact absurd hactive (hr.disjoint address hpending)
  · exact absurd (hr.activate hpending).bounded (Nat.not_le.mpr hocc)
  · obtain rfl := not_not.mp h0
    exact .takes _ hpending
  · exact .refuses _ _ nofun nofun (hother (.inr hpending))
  · exact .refuses _ _ nofun nofun (hother (.inr hpending))
  · exact .refuses _ _ nofun nofun (hother (.inr hpending))

theorem effect_removed :
    Effect r (.removed address unused) (r.call (.removed address unused)).1
      (r.call (.removed address unused)).2 := by
  simp only [call, CallerRegistry.callerRemoved]
  split_ifs with h0 hactive
  · exact .refuses _ _ nofun nofun nofun
  · exact .releases _ _ hactive
  · exact .refuses _ _ nofun nofun nofun

theorem Sound.effect (hr : r.Sound) (c : CallerCall) : Effect r c (r.call c).1 (r.call c).2 := by
  cases c with
  | connecting address streamId now => exact hr.connecting
  | added address unused => exact hr.added
  | removed address unused => exact effect_removed
  | clear => exact .clears

theorem Effect.sound (he : Effect r c reply r') (hr : r.Sound) : r'.Sound := by
  cases he with
  | rejects address streamId now decision hd => exact hr.pruneExpired
  | repeats address streamId now ha => exact hr.pruneExpired
  | reserves address streamId now ha hid hroom => exact hr.pruneExpired.reserve ha hroom
  | takes address ha => exact hr.activate ha
  | releases address unused ha => exact hr.release
  | refuses call fault hc ho ha => exact hr
  | clears => exact ⟨fun a ha => absurd ha Finmap.notMem_empty, Nat.zero_le _⟩

/-- What a caller may rely on in the answer to a call, and in what the call leaves. -/
structure Admission (r : CallerRegistry) (c : CallerCall) (reply : CallerReply)
    (r' : CallerRegistry) : Prop where
  consistent : reply ≠ .faulted .inconsistentCallerState
  bounded : reply ≠ .faulted .occupancyInvariantExceeded
  reserved : ∀ a ∈ r.pending, c = .added a 0 → reply ≠ .faulted .addedOverCapacity
  presented : ∀ id, r.expectedStreamId = some id → ∀ a ∉ r.pending, a ∈ r'.pending →
    ∃ now, c = .connecting a id now
  taken : ∀ a ∉ r.active, a ∈ r'.active → a ∈ r.pending
  added : ∀ a, c = .added a 0 → ((∃ n, reply = .counted n) ↔ a ∈ r.pending)
  unchanged : reply.refuses → r'.active = r.active ∧
    ∀ a reservedAt, r.pending.lookup a = some reservedAt → ¬ c.expires reservedAt →
      r'.pending.lookup a = some reservedAt
  counted : ∀ n, reply = .counted n → n.toNat = r'.active.card

namespace Effect

theorem consistent (he : Effect r c reply r') : reply ≠ .faulted .inconsistentCallerState ∧
    reply ≠ .faulted .occupancyInvariantExceeded := by
  cases he <;> simp_all

theorem reserved (he : Effect r c reply r') (ha : a ∈ r.pending) (hc : c = .added a 0) :
    ∃ n, reply = .counted n := by
  cases he with
  | takes address hp => exact ⟨_, rfl⟩
  | refuses call fault _ _ hn => exact absurd ha (hn a hc)
  | _ => cases hc

/-- Only a decision for the address itself makes a reservation, and for the Stream ID asked for. -/
theorem presented (he : Effect r c reply r') {id : List UInt8} (hid : r.expectedStreamId = some id)
    (ha : a ∉ r.pending) (ha' : a ∈ r'.pending) : ∃ now, c = .connecting a id now := by
  cases he with
  | rejects address streamId now => exact absurd (mem_pruneExpired ha') ha
  | repeats address streamId now => exact absurd (mem_pruneExpired ha') ha
  | reserves address streamId now _ hs =>
    rcases Finmap.mem_insert.mp ha' with rfl | hm
    · exact ⟨now, by rw [hs id hid]⟩
    · exact absurd (mem_pruneExpired hm) ha
  | takes address => exact absurd (Finmap.mem_erase.mp ha').2 ha
  | clears => exact absurd ha' Finmap.notMem_empty
  | _ => exact absurd ha' ha

theorem taken (he : Effect r c reply r') (ha : a ∉ r.active) (ha' : a ∈ r'.active) :
    a ∈ r.pending := by
  cases he with
  | takes address hp =>
    rcases Finset.mem_insert.mp ha' with rfl | hm
    · exact hp
    · exact absurd hm ha
  | releases address unused => exact absurd (Finset.mem_of_mem_erase ha') ha
  | clears => exact absurd ha' (Finset.notMem_empty a)
  | _ => exact absurd ha' ha

theorem of_counted (he : Effect r c reply r') {n : UInt32} (hn : reply = .counted n)
    (hc : c = .added a 0) : a ∈ r.pending := by
  cases he with
  | takes address hp =>
    cases hc
    exact hp
  | releases => cases hc
  | _ => cases hn

theorem unchanged (he : Effect r c reply r') (hr : reply.refuses) : r'.active = r.active ∧
    ∀ a reservedAt, r.pending.lookup a = some reservedAt → ¬ c.expires reservedAt →
      r'.pending.lookup a = some reservedAt := by
  cases he with
  | rejects address streamId now => exact ⟨rfl, fun a t h ht => lookup_pruneExpired h ht⟩
  | refuses => exact ⟨rfl, fun a t h _ => h⟩
  | _ => exact hr.elim

theorem counted (he : Effect r c reply r') (hr : r.Sound) {n : UInt32}
    (hn : reply = .counted n) : n.toNat = r'.active.card := by
  have hr' := he.sound hr
  cases he with
  | takes address => exact CallerReply.counted.inj hn ▸ hr'.activeCount
  | releases address unused => exact CallerReply.counted.inj hn ▸ hr'.activeCount
  | _ => cases hn

theorem admission (he : Effect r c reply r') (hr : r.Sound) : Admission r c reply r' where
  consistent := he.consistent.1
  bounded := he.consistent.2
  reserved a ha hc := by
    obtain ⟨n, rfl⟩ := he.reserved ha hc
    exact nofun
  presented id hid a ha ha' := he.presented hid ha ha'
  taken a ha ha' := he.taken ha ha'
  added a hc := ⟨fun ⟨_, hn⟩ => he.of_counted hn hc, fun ha => he.reserved ha hc⟩
  unchanged := he.unchanged
  counted n hn := he.counted hr hn

/-- A reservation outlasts every call that is not about its address. -/
theorem lookup_pending (he : Effect r c reply r') {reservedAt : ℕ} (hl : c.Leaves a reservedAt)
    (h : r.pending.lookup a = some reservedAt) : r'.pending.lookup a = some reservedAt := by
  cases he with
  | rejects address streamId now => exact lookup_pruneExpired h (Nat.not_le.mpr hl.2)
  | repeats address streamId now => exact lookup_pruneExpired h (Nat.not_le.mpr hl.2)
  | reserves address streamId now =>
    have hp := lookup_pruneExpired h (Nat.not_le.mpr hl.2)
    simpa [reserve, Finmap.lookup_insert_of_ne _ (Ne.symm hl.1)] using hp
  | takes address => simpa [activate, Finmap.lookup_erase_ne (Ne.symm hl)] using h
  | clears => exact hl.elim
  | _ => exact h

end Effect

/-! ### Runs -/

theorem sound_new (expected : Option String) : (new expected).Sound :=
  ⟨fun _ ha => absurd ha Finmap.notMem_empty, Nat.zero_le _⟩

theorem Sound.run (hr : r.Sound) (calls : List CallerCall) : (r.run calls).Sound := by
  induction calls generalizing r with
  | nil => exact hr
  | cons c calls ih => exact ih ((hr.effect c).sound hr)

theorem Sound.lookup_run (hr : r.Sound) {reservedAt : ℕ} {between : List CallerCall}
    (hb : ∀ c ∈ between, c.Leaves a reservedAt) (h : r.pending.lookup a = some reservedAt) :
    (r.run between).pending.lookup a = some reservedAt := by
  induction between generalizing r with
  | nil => exact h
  | cons c between ih =>
    obtain ⟨hc, hb⟩ := List.forall_mem_cons.mp hb
    exact ih ((hr.effect c).sound hr) hb ((hr.effect c).lookup_pending hc h)

/-- A caller that is accepted while it holds no slot is added within the time of its
reservation. -/
theorem Sound.accepted (hr : r.Sound)
    (hd : (r.call (.connecting a streamId now)).1 = .decided .accept) (ha : a ∉ r.active) :
    (r.call (.connecting a streamId now)).2.pending.lookup a = some now := by
  have he := hr.effect (.connecting a streamId now)
  rw [hd] at he
  generalize (r.call (.connecting a streamId now)).2 = r' at he
  cases he with
  | rejects _ _ _ _ hne => exact absurd rfl hne
  | repeats _ _ _ hm => exact absurd hm ha
  | reserves => exact Finmap.lookup_insert _

end CallerRegistry

end PocketStream
