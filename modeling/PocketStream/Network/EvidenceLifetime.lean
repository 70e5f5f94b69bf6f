import PocketStream.Network.EvidenceWatch

/-! # Evidence and the adapter it was obtained on

An identity change or a lost link owes the expiry of the evidence from before
it, and one pending expiry stands for all that is owed. It does so as long as
no update starts the hold again or ends it on behalf of another change.
-/

namespace PocketStream

open Foundation

/-- What an update does to the hold, by the branch it takes. -/
theorem PresenceState.hold_cases (s : PresenceState) (selection : AdapterSelection) (now : ℕ) :
    ((s.identityChanged selection = true ∧ s.selection.selectedMac.isSome = true ∨
        s.selection.up = true ∧ selection.up = false) ∧
      (s.hold selection now).expireAt = some (now + DOWN_HOLD) ∧
      (s.hold selection now).readyAt = if selection.up then some (now + DOWN_HOLD) else none) ∨
    (s.identityChanged selection = false ∧ s.selection.up = false ∧ selection.up = true ∧
      (s.hold selection now).expireAt = none ∧ (s.hold selection now).readyAt = none) ∨
    (s.hold selection now = s ∧
      (s.identityChanged selection = true ∧ s.selection.selectedMac = none ∧
          (s.selection.up = true → selection.up = true) ∨
        s.identityChanged selection = false ∧ s.selection.up = selection.up)) := by
  unfold hold
  split
  · next h =>
    simp only [Bool.or_eq_true, Bool.and_eq_true, Bool.not_eq_true'] at h
    exact .inl ⟨h, rfl, rfl⟩
  · next h =>
    simp only [Bool.or_eq_true, Bool.and_eq_true, Bool.not_eq_true', not_or, not_and,
      Bool.not_eq_false] at h
    split
    · next h' =>
      simp only [Bool.and_eq_true, Bool.not_eq_true'] at h'
      exact .inr (.inl ⟨h'.2, h'.1.2, h'.1.1, rfl, rfl⟩)
    · next h' =>
      simp only [Bool.and_eq_true, Bool.not_eq_true', not_and, Bool.not_eq_false] at h'
      refine .inr (.inr ⟨rfl, ?_⟩)
      cases hid : s.identityChanged selection with
      | true => exact .inl ⟨rfl, by simpa using h.1 hid, h.2⟩
      | false =>
        refine .inr ⟨rfl, ?_⟩
        cases hup : s.selection.up with
        | true => exact (h.2 hup).symm
        | false =>
          cases hnew : selection.up with
          | true => rw [h' ⟨hnew, hup⟩] at hid; cases hid
          | false => rfl

namespace DeviceRegistry

variable {parseRfc3339 : String → Option ℤ} {r : DeviceRegistry}

theorem scope_mergeVerifiedLocked (device : ArpDevice) (adapter wall : String) (now : ℕ) :
    (r.mergeVerifiedLocked device adapter wall now).2.verificationScope = r.verificationScope := by
  unfold mergeVerifiedLocked
  dsimp only
  split
  · rfl
  · split <;> rfl

theorem scope_mergeVerified (device : ArpDevice) (adapter wall : String) (stale : Bool) (now : ℕ) :
    (r.mergeVerified parseRfc3339 device adapter wall stale now).2.verificationScope =
      r.verificationScope := by
  unfold mergeVerified
  split
  · exact scope_mergeVerifiedLocked device adapter wall now
  · rfl

theorem scope_bindPin (node : ManualNode) (device : ArpDevice) :
    (r.bindPin node device).2.verificationScope = r.verificationScope := by
  unfold bindPin
  dsimp only
  split
  · rfl
  · split
    · rfl
    · split <;> rfl

theorem scope_rejectExpected (key : String) :
    (r.rejectExpected key).2.verificationScope = r.verificationScope := by
  unfold rejectExpected
  split <;> rfl

theorem scope_mergeManualVerified (node : ManualNode) (device : ArpDevice) (adapter wall : String)
    (stale : Bool) (now : ℕ) :
    (r.mergeManualVerified parseRfc3339 node device adapter wall stale now).2.verificationScope =
      r.verificationScope := by
  unfold mergeManualVerified
  split
  · rfl
  · dsimp only
    rw [← scope_mergeVerifiedLocked (r := r) device adapter wall now]
    split
    · exact scope_bindPin node device
    · exact scope_rejectExpected _

/-- No mutator but the one for it moves the verification scope. -/
theorem scope_apply {op : Op} (h : ∀ adapter, op ≠ .setVerificationScope adapter) :
    (r.apply parseRfc3339 op).verificationScope = r.verificationScope := by
  cases op with
  | mergeVerified device adapter wall stale now =>
    exact scope_mergeVerified device adapter wall stale now
  | mergeManualVerified node device adapter wall stale now =>
    exact scope_mergeManualVerified node device adapter wall stale now
  | setVerificationScope adapter => exact absurd rfl (h adapter)
  | hydrateFromCache cached =>
    simp only [apply, hydrateFromCache]
    split <;> rfl
  | mergeArp device =>
    simp only [apply, mergeArp]
    split <;> rfl
  | mergeArpFenced device stale =>
    simp only [apply, mergeArpFenced, mergeArp]
    split
    · rfl
    · split <;> rfl
  | mergeScanResult key openPorts stale =>
    simp only [apply, mergeScanResultFenced]
    split
    · rfl
    · split
      · rfl
      · split <;> rfl
  | setAlias key aliasName =>
    simp only [apply, setAlias]
    split <;> rfl
  | setStatus mac status =>
    simp only [apply, setStatus]
    split
    · rfl
    · split
      · rfl
      · split <;> rfl
  | rememberVerifiedAt mac wall proved stale =>
    simp only [apply, rememberVerifiedAt]
    split
    · rfl
    · split <;> rfl
  | _ => rfl

theorem not_grants_of_unproven {op : Op} (h : op.unproven = true)
    (hscope : r.verificationScope.isSome = true) {key : String} :
    ¬ Grants parseRfc3339 r key op := by
  cases op with
  | mergeVerified | mergeManualVerified | setVerificationScope => cases h
  | mergeArp device =>
    rintro ⟨hnone, -⟩
    rw [hnone] at hscope
    cases hscope
  | mergeArpFenced device stale =>
    rintro ⟨-, hnone, -⟩
    rw [hnone] at hscope
    cases hscope
  | _ => exact id

theorem grants_proofOp {pin : Option ManualNode} {device : ArpDevice} {adapter wall key : String}
    {stale : Bool} {now : ℕ}
    (h : Grants parseRfc3339 r key (proofOp pin device adapter wall stale now)) :
    r.admits parseRfc3339 pin device adapter wall stale = true ∧ sameMac key device.mac = true := by
  cases pin with
  | none => exact ⟨by simpa [admits] using h.1, h.2⟩
  | some node =>
    obtain ⟨hip, haccepts, hsame⟩ := h
    exact ⟨by simp [admits, hip, haccepts], hsame⟩

end DeviceRegistry

namespace Watch

open DeviceRegistry

/-- What the pending expiry and the hold stand for. -/
structure Pending (s : Watch) : Prop where
  expiry : ∀ d, s.control.state.expireAt = some d → d ≤ s.clock + DOWN_HOLD
  cause : ∀ d, s.control.state.expireAt = some d →
    s.OwedToChange d ∨ ∃ t, s.downSince = some t ∧ d = t + DOWN_HOLD
  ready : ∀ r, s.control.state.readyAt = some r → s.control.state.expireAt = some r
  held : ∀ t ∈ s.holds, t + DOWN_HOLD ≤ s.clock ∨
    s.control.state.expireAt = some (t + DOWN_HOLD)
  offered : ∀ t ∈ s.holds, t + DOWN_HOLD ≤ s.clock ∨ s.control.state.selection.up = false ∨
    s.control.state.readyAt = some (t + DOWN_HOLD)
  owed : ∀ t, s.Owes t → (∃ d, s.control.state.expireAt = some d ∧ d ≤ t + DOWN_HOLD) ∨
    ∀ key, s.registry.IsLive key → t ≤ s.provedAt key
  unlinked : s.control.state.selection.up = false → s.control.state.expireAt = none →
    (∀ key, ¬ s.registry.IsLive key) ∧ s.registry.verificationScope = some none

structure Inv (s : Watch) : Prop extends Pending s where
  generation : s.control.gate.generation = UInt64.ofNat s.epochs
  epochs : s.epochs < 2 ^ 64
  registry : s.registry.devices.Inv
  scope : s.registry.verificationScope.isSome = true
  held_changes : ∀ t ∈ s.holds, t ∈ s.changes
  changes_past : ∀ t ∈ s.changes, t ≤ s.clock
  down : ∀ t, s.downSince = some t → t ≤ s.clock ∧ s.control.state.selection.up = false
  issued : ∀ i ∈ s.issued, i.snapshot.fence = UInt64.ofNat i.epoch ∧ i.epoch ≤ s.epochs ∧
    (i.epoch = s.epochs → (∀ t, s.Owes t → t ≤ i.time) ∧
      (i.snapshot.adapter.isSome = true → s.control.state.selection.up = true))

variable {s : Watch} {selection : AdapterSelection} {mode : NetworkMode}

theorem Inv.advance (h : Inv s) {now : ℕ} (hnow : s.clock ≤ now) : Inv { s with clock := now } :=
  { h with
    expiry := fun d hd => (h.expiry d hd).trans (Nat.add_le_add_right hnow _)
    held := fun t ht => (h.held t ht).imp_left fun hle => hle.trans hnow
    offered := fun t ht => (h.offered t ht).imp_left fun hle => hle.trans hnow
    changes_past := fun t ht => (h.changes_past t ht).trans hnow
    down := fun t ht => ⟨(h.down t ht).1.trans hnow, (h.down t ht).2⟩ }

/-- The watch after an update. -/
def updated (s : Watch) (selection : AdapterSelection) (mode : NetworkMode) : Watch :=
  { s.note selection mode s.clock with control := s.control.update selection mode s.clock }

theorem updated_unchanged (h : s.control.state.changed selection mode = false) :
    s.updated selection mode = s := by
  simp [updated, note, Control.update, Control.updateLocked, h]

theorem updated_changed (h : s.control.state.changed selection mode = true) :
    s.updated selection mode = { s with
      control := {
        state := { s.control.state.hold selection s.clock with
          selection := selection
          mode := mode
          revision := s.control.state.revision + 1 }
        gate := if s.control.state.retires selection mode then s.control.gate.step .bump
          else s.control.gate }
      epochs := if s.control.state.retires selection mode then s.epochs + 1 else s.epochs
      changes :=
        if s.control.state.identityChanged selection then s.clock :: s.changes else s.changes
      holds :=
        if s.control.state.identityChanged selection && s.control.state.selection.selectedMac.isSome
        then s.clock :: s.holds else s.holds
      downSince :=
        if selection.up then none
        else if s.control.state.selection.up then some s.clock else s.downSince } := by
  simp [updated, note, Control.update, Control.updateLocked, h]

/-- The debts after an update are the old ones, but for a link that is back, and its own. -/
theorem owes_updated (hc : s.control.state.changed selection mode = true) {t : ℕ}
    (h : (s.updated selection mode).Owes t) :
    (t ∈ s.changes ∨ s.downSince = some t ∧ selection.up = false) ∨
      t = s.clock ∧ (s.control.state.identityChanged selection = true ∨
        s.control.state.selection.up = true ∧ selection.up = false) := by
  simp only [Owes, updated_changed hc] at h
  rcases h with h | h
  · split at h
    · next hid =>
      rcases List.mem_cons.mp h with rfl | h
      · exact .inr ⟨rfl, .inl hid⟩
      · exact .inl (.inl h)
    · exact .inl (.inl h)
  · split at h
    · cases h
    · next hnew =>
      have hnew := Bool.eq_false_iff.mpr hnew
      split at h
      · next hup => exact .inr ⟨(Option.some.inj h).symm, .inr ⟨hup, hnew⟩⟩
      · exact .inl (.inr ⟨h, hnew⟩)

theorem mem_changes_updated (hc : s.control.state.changed selection mode = true) {t : ℕ}
    (h : t ∈ s.changes) : t ∈ (s.updated selection mode).changes := by
  simp only [updated_changed hc]
  split
  · exact List.mem_cons_of_mem _ h
  · exact h

theorem mem_holds_updated (hc : s.control.state.changed selection mode = true) {t : ℕ}
    (h : t ∈ (s.updated selection mode).holds) : t ∈ s.holds ∨ t = s.clock := by
  simp only [updated_changed hc] at h
  split at h
  · exact (List.mem_cons.mp h).symm
  · exact .inl h

/-- The hold starts again: whatever was pending is due no earlier. -/
theorem Inv.pending_restart (h : Inv s) (hc : s.control.state.changed selection mode = true)
    (hbranch : s.control.state.identityChanged selection = true ∧
        s.control.state.selection.selectedMac.isSome = true ∨
      s.control.state.selection.up = true ∧ selection.up = false)
    (hexpire : (s.control.state.hold selection s.clock).expireAt = some (s.clock + DOWN_HOLD))
    (hready : (s.control.state.hold selection s.clock).readyAt =
      if selection.up then some (s.clock + DOWN_HOLD) else none)
    (hcalm : ¬ s.Restarts selection s.clock) : Pending (s.updated selection mode) := by
  have hnext : (s.updated selection mode).control.state.expireAt = some (s.clock + DOWN_HOLD) := by
    rw [updated_changed hc]
    exact hexpire
  have hnextReady : (s.updated selection mode).control.state.readyAt =
      if selection.up then some (s.clock + DOWN_HOLD) else none := by
    rw [updated_changed hc]
    exact hready
  have hclock : (s.updated selection mode).clock = s.clock := by rw [updated_changed hc]
  have hlate : ∀ d, s.control.state.expireAt = some d → s.OwedToChange d ∨ selection.up = false →
      s.clock + DOWN_HOLD ≤ d := fun d hd howed =>
    not_lt.mp fun hlt => hcalm ⟨hbranch, d, hd, hlt, howed⟩
  have hheld : ∀ t ∈ (s.updated selection mode).holds,
      t + DOWN_HOLD ≤ s.clock ∨ t = s.clock := fun t ht => by
    rcases mem_holds_updated hc ht with ht | rfl
    · refine (h.held t ht).imp_right fun hd => ?_
      have := hlate _ hd (.inl ⟨t, h.held_changes t ht, le_rfl⟩)
      have := h.changes_past t (h.held_changes t ht)
      omega
    · exact .inr rfl
  constructor
  · intro d hd
    rw [hnext] at hd
    rw [hclock]
    exact (Option.some.inj hd).ge
  · intro d hd
    rw [hnext] at hd
    obtain rfl := Option.some.inj hd
    simp only [OwedToChange, updated_changed hc]
    cases hid : s.control.state.identityChanged selection with
    | true => exact .inl ⟨s.clock, List.mem_cons_self, le_rfl⟩
    | false =>
      rcases hbranch with ⟨hid', -⟩ | ⟨hup, hnew⟩
      · rw [hid] at hid'
        cases hid'
      · exact .inr ⟨s.clock, by simp [hup, hnew], rfl⟩
  · intro r hr
    rw [hnextReady] at hr
    split at hr
    · rw [hnext, hr]
    · cases hr
  · intro t ht
    rw [hclock, hnext]
    exact (hheld t ht).imp_right fun he => by rw [he]
  · intro t ht
    rw [hclock, hnextReady]
    rcases hheld t ht with hle | rfl
    · exact .inl hle
    · right
      cases hnew : selection.up with
      | true => exact .inr rfl
      | false =>
        left
        rw [updated_changed hc]
        exact hnew
  · intro t ht
    rcases owes_updated hc ht with hold | ⟨rfl, -⟩
    · have howes : s.Owes t := hold.imp_right And.left
      rcases h.owed t howes with ⟨d, hd, hle⟩ | hproved
      · refine .inl ⟨_, hnext, (hlate d hd ?_).trans hle⟩
        exact hold.imp (fun hmem => ⟨t, hmem, hle⟩) And.right
      · right
        rw [updated_changed hc]
        exact hproved
    · exact .inl ⟨_, hnext, le_rfl⟩
  · intro _ hnone
    rw [hnext] at hnone
    cases hnone

/-- The link is back in time: no change of the adapter was waiting for the expiry. -/
theorem Inv.pending_return (h : Inv s) (hc : s.control.state.changed selection mode = true)
    (hid : s.control.state.identityChanged selection = false)
    (hdown : s.control.state.selection.up = false) (hup : selection.up = true)
    (hexpire : (s.control.state.hold selection s.clock).expireAt = none)
    (hready : (s.control.state.hold selection s.clock).readyAt = none)
    (hcalm : ¬ s.Cancels selection) : Pending (s.updated selection mode) := by
  have hunowed : ∀ d, s.control.state.expireAt = some d → ¬ s.OwedToChange d :=
    fun d hd howed => hcalm ⟨hid, hdown, hup, d, hd, howed⟩
  have hnext : (s.updated selection mode).control.state.expireAt = none := by
    rw [updated_changed hc]
    exact hexpire
  have hnextReady : (s.updated selection mode).control.state.readyAt = none := by
    rw [updated_changed hc]
    exact hready
  have helapsed : ∀ t ∈ (s.updated selection mode).holds, t + DOWN_HOLD ≤ s.clock := fun t ht => by
    have ht : t ∈ s.holds := by simpa [updated_changed hc, hid] using ht
    rcases h.held t ht with hle | hd
    · exact hle
    · exact absurd ⟨t, h.held_changes t ht, le_rfl⟩ (hunowed _ hd)
  have hclock : (s.updated selection mode).clock = s.clock := by rw [updated_changed hc]
  constructor
  · intro d hd
    rw [hnext] at hd
    cases hd
  · intro d hd
    rw [hnext] at hd
    cases hd
  · intro r hr
    rw [hnextReady] at hr
    cases hr
  · intro t ht
    exact .inl (hclock ▸ helapsed t ht)
  · intro t ht
    exact .inl (hclock ▸ helapsed t ht)
  · intro t ht
    rcases owes_updated hc ht with (hmem | ⟨-, hnew⟩) | ⟨-, hid' | ⟨-, hnew⟩⟩
    · rcases h.owed t (.inl hmem) with ⟨d, hd, hle⟩ | hproved
      · exact absurd ⟨t, hmem, hle⟩ (hunowed d hd)
      · right
        rw [updated_changed hc]
        exact hproved
    · rw [hup] at hnew
      cases hnew
    · rw [hid] at hid'
      cases hid'
    · rw [hup] at hnew
      cases hnew
  · intro hnew _
    rw [updated_changed hc] at hnew
    rw [show selection.up = false from hnew] at hup
    cases hup

/-- The hold stays: the adapter is the same, or it takes the place of none. -/
theorem Inv.pending_keep (h : Inv s) (hc : s.control.state.changed selection mode = true)
    (hbranch : s.control.state.identityChanged selection = true ∧
        s.control.state.selection.selectedMac = none ∧
          (s.control.state.selection.up = true → selection.up = true) ∨
      s.control.state.identityChanged selection = false ∧
        s.control.state.selection.up = selection.up)
    (hkeep : s.control.state.hold selection s.clock = s.control.state)
    (hcalm : ¬ s.Skips selection s.clock) : Pending (s.updated selection mode) := by
  have hexpire : (s.updated selection mode).control.state.expireAt =
      s.control.state.expireAt := by rw [updated_changed hc, hkeep]
  have hready : (s.updated selection mode).control.state.readyAt =
      s.control.state.readyAt := by rw [updated_changed hc, hkeep]
  have hnewUp : (s.updated selection mode).control.state.selection = selection := by
    rw [updated_changed hc]
  have hclock : (s.updated selection mode).clock = s.clock := by rw [updated_changed hc]
  have hholds : (s.updated selection mode).holds = s.holds := by
    rw [updated_changed hc]
    rcases hbranch with ⟨-, hnone, -⟩ | ⟨hid, -⟩
    · simp [hnone]
    · simp [hid]
  -- a link that was down under an adapter that took the place of none is down still
  have hstill : selection.up = false → s.control.state.selection.up = false := fun hnew => by
    rcases hbranch with ⟨-, -, himp⟩ | ⟨-, heq⟩
    · exact Bool.eq_false_iff.mpr fun hup => by
        rw [himp hup] at hnew
        cases hnew
    · exact heq.trans hnew
  have hfresh : s.control.state.identityChanged selection = true → selection.up = true →
      s.control.state.selection.up = false ∧
        (s.control.state.readyAt = none → ∀ t ∈ s.holds, t + DOWN_HOLD ≤ s.clock) := by
    intro hid hup
    rcases hbranch with ⟨-, hnone, -⟩ | ⟨hid', -⟩
    · constructor
      · exact Bool.eq_false_iff.mpr fun hold => hcalm ⟨hid, hnone, hup, .inl hold⟩
      · exact fun hr t ht => not_lt.mp fun hlt => hcalm ⟨hid, hnone, hup, .inr ⟨hr, t, ht, hlt⟩⟩
    · rw [hid] at hid'
      cases hid'
  constructor
  · intro d hd
    rw [hexpire] at hd
    rw [hclock]
    exact h.expiry d hd
  · intro d hd
    rw [hexpire] at hd
    rcases h.cause d hd with ⟨t, ht, hle⟩ | ⟨t, ht, rfl⟩
    · exact .inl ⟨t, mem_changes_updated hc ht, hle⟩
    · have hdown := (h.down t ht).2
      cases hnew : selection.up with
      | true =>
        left
        rcases hbranch with ⟨hid, -⟩ | ⟨-, heq⟩
        · refine ⟨s.clock, ?_, h.expiry _ hd⟩
          simp [updated_changed hc, hid]
        · rw [hdown, hnew] at heq
          cases heq
      | false => exact .inr ⟨t, by simp [updated_changed hc, hnew, hdown, ht], rfl⟩
  · intro r hr
    rw [hready] at hr
    rw [hexpire]
    exact h.ready r hr
  · intro t ht
    rw [hholds] at ht
    rw [hclock, hexpire]
    exact h.held t ht
  · intro t ht
    rw [hholds] at ht
    rw [hclock, hnewUp, hready]
    cases hnew : selection.up with
    | false => exact .inr (.inl rfl)
    | true =>
      cases hid : s.control.state.identityChanged selection with
      | true =>
        cases hr : s.control.state.readyAt with
        | none => exact .inl ((hfresh hid hnew).2 hr t ht)
        | some r =>
          refine (h.held t ht).imp_right fun hd => .inr ?_
          rw [← hd, h.ready r hr]
      | false =>
        rcases hbranch with ⟨hid', -⟩ | ⟨-, heq⟩
        · rw [hid] at hid'
          cases hid'
        · rw [← hnew, ← heq]
          exact h.offered t ht
  · intro t ht
    rw [hexpire]
    rcases owes_updated hc ht with hold | ⟨rfl, hnow⟩
    · rcases h.owed t (hold.imp_right And.left) with hd | hproved
      · exact .inl hd
      · right
        rw [updated_changed hc]
        exact hproved
    · cases hd : s.control.state.expireAt with
      | some d => exact .inl ⟨d, rfl, h.expiry d hd⟩
      | none =>
        right
        have hdown : s.control.state.selection.up = false := by
          cases hnew : selection.up with
          | false => exact hstill hnew
          | true =>
            rcases hnow with hid | ⟨-, hnew'⟩
            · exact (hfresh hid hnew).1
            · rw [hnew] at hnew'
              cases hnew'
        intro key hlive
        rw [updated_changed hc] at hlive
        exact absurd hlive ((h.unlinked hdown hd).1 key)
  · intro hnew hnone
    rw [hnewUp] at hnew
    rw [hexpire] at hnone
    rw [updated_changed hc]
    exact h.unlinked (hstill hnew) hnone

theorem Inv.updated (h : Inv s) (hroom : s.epochs + 1 < 2 ^ 64)
    (hrestart : ¬ s.Restarts selection s.clock) (hcancel : ¬ s.Cancels selection)
    (hskip : ¬ s.Skips selection s.clock) : Inv (s.updated selection mode) := by
  cases hc : s.control.state.changed selection mode with
  | false => rwa [updated_unchanged hc]
  | true =>
    have hpending : Pending (s.updated selection mode) := by
      rcases s.control.state.hold_cases selection s.clock with
        ⟨hbranch, hexpire, hready⟩ | ⟨hid, hdown, hup, hexpire, hready⟩ | ⟨hkeep, hbranch⟩
      · exact h.pending_restart hc hbranch hexpire hready hrestart
      · exact h.pending_return hc hid hdown hup hexpire hready hcancel
      · exact h.pending_keep hc hbranch hkeep hskip
    have hholds : ∀ t ∈ (s.updated selection mode).holds, t ∈ (s.updated selection mode).changes := by
      intro t ht
      cases hid : s.control.state.identityChanged selection with
      | true =>
        rcases mem_holds_updated hc ht with ht | rfl
        · exact mem_changes_updated hc (h.held_changes t ht)
        · simp [updated_changed hc, hid]
      | false =>
        have ht : t ∈ s.holds := by simpa [updated_changed hc, hid] using ht
        exact mem_changes_updated hc (h.held_changes t ht)
    have hpast : ∀ t ∈ (s.updated selection mode).changes, t ≤ s.clock := by
      intro t ht
      rw [updated_changed hc] at ht
      dsimp only at ht
      split at ht
      · rcases List.mem_cons.mp ht with rfl | ht
        · exact le_rfl
        · exact h.changes_past t ht
      · exact h.changes_past t ht
    have hdown : ∀ t, (s.updated selection mode).downSince = some t →
        t ≤ s.clock ∧ selection.up = false := by
      intro t ht
      rw [updated_changed hc] at ht
      dsimp only at ht
      split at ht
      · cases ht
      · next hnew =>
        refine ⟨?_, Bool.eq_false_iff.mpr hnew⟩
        split at ht
        · exact (Option.some.inj ht).ge
        · exact (h.down t ht).1
    have hissued : ∀ i ∈ s.issued, i.epoch = s.epochs →
        s.control.state.retires selection mode = false →
        (∀ t, (s.updated selection mode).Owes t → t ≤ i.time) ∧
          (i.snapshot.adapter.isSome = true → selection.up = true) := by
      intro i hi he hkeep
      obtain ⟨-, -, hsame⟩ := h.issued i hi
      obtain ⟨hpaid, hadapter⟩ := hsame he
      simp only [PresenceState.retires, Bool.or_eq_false_iff, bne_eq_false_iff_eq] at hkeep
      obtain ⟨⟨hid, -⟩, hup⟩ := hkeep
      refine ⟨fun t ht => ?_, fun ha => hup ▸ hadapter ha⟩
      rcases owes_updated hc ht with hold | ⟨-, hid' | ⟨hold, hnew⟩⟩
      · exact hpaid t (hold.imp_right And.left)
      · rw [hid] at hid'
        cases hid'
      · rw [hup, hnew] at hold
        cases hold
    refine { hpending with
      held_changes := hholds
      changes_past := fun t ht => by rw [updated_changed hc]; exact hpast t ht
      down := fun t ht => by
        obtain ⟨hle, hnew⟩ := hdown t ht
        rw [updated_changed hc]
        exact ⟨hle, hnew⟩
      generation := ?_
      epochs := ?_
      registry := ?_
      scope := ?_
      issued := ?_ }
    · rw [updated_changed hc]
      dsimp only
      split
      · rw [UInt64.ofNat_add, ← h.generation]
        rfl
      · exact h.generation
    · rw [updated_changed hc]
      dsimp only
      split
      · exact hroom
      · exact h.epochs
    · rw [updated_changed hc]
      exact h.registry
    · rw [updated_changed hc]
      exact h.scope
    · intro i hi
      have hi : i ∈ s.issued := by simpa [updated_changed hc] using hi
      obtain ⟨hfence, hle, -⟩ := h.issued i hi
      cases hkeep : s.control.state.retires selection mode with
      | true =>
        have he : (s.updated selection mode).epochs = s.epochs + 1 := by
          simp [updated_changed hc, hkeep]
        rw [he]
        exact ⟨hfence, by omega, fun _ => by omega⟩
      | false =>
        have he : (s.updated selection mode).epochs = s.epochs := by
          simp [updated_changed hc, hkeep]
        have hnew : (s.updated selection mode).control.state.selection = selection := by
          rw [updated_changed hc]
        rw [he, hnew]
        exact ⟨hfence, hle, fun h' => hissued i hi h' hkeep⟩

theorem control_call (c : Control) (now : ℕ) (call : ControlCall) :
    (∃ selection mode, call.selection c = some (selection, mode) ∧
      c.call now call = c.update selection mode now) ∨
    (call.selection c = none ∧ (c.call now call).gate.generation = c.gate.generation ∧
      ∃ revision, (c.call now call).state = { c.state with revision := revision }) := by
  cases call with
  | update selection mode => exact .inl ⟨selection, mode, rfl, rfl⟩
  | updateNative selection mode read =>
    left
    cases hmac : selection.selectedMac with
    | none => exact ⟨selection, mode, by simp [ControlCall.selection, hmac],
        by simp [Control.call, Control.updateNative, hmac]⟩
    | some mac => exact ⟨_, mode, by simp [ControlCall.selection, hmac]; rfl,
        by simp [Control.call, Control.updateNative, hmac]⟩
  | observeLink seen revision read =>
    cases hmac : seen.selectedMac with
    | none =>
      refine .inr ⟨by simp [ControlCall.selection, hmac], ?_, c.state.revision, ?_⟩ <;>
        simp [Control.call, Control.observeLink, hmac]
    | some mac =>
      by_cases hrev : c.state.revision = revision
      · exact .inl ⟨_, _, by simp [ControlCall.selection, hmac, hrev]; exact ⟨rfl, rfl⟩,
          by simp [Control.call, Control.observeLink, hmac, hrev]⟩
      · refine .inr ⟨by simp [ControlCall.selection, hmac, hrev], ?_, c.state.revision, ?_⟩ <;>
          simp [Control.call, Control.observeLink, hmac, hrev]
  | bootstrap => exact .inr ⟨rfl, rfl, _, rfl⟩
  | stop => exact .inr ⟨rfl, rfl, c.state.revision, rfl⟩

variable {parseRfc3339 : String → Option ℤ}

/-- Only the registry changes, and nothing becomes live without newer evidence. -/
theorem Inv.of_registry (h : Inv s) {registry : DeviceRegistry} {provedAt : String → ℕ}
    (hinv : registry.devices.Inv)
    (hscope : registry.verificationScope = s.registry.verificationScope)
    (hlive : ∀ key, registry.IsLive key →
      (s.registry.IsLive key ∧ provedAt key = s.provedAt key) ∨
      ((∀ t, s.Owes t → t ≤ provedAt key) ∧
        ¬ (s.control.state.selection.up = false ∧ s.registry.verificationScope = some none))) :
    Inv { s with registry := registry, provedAt := provedAt } :=
  { h with
    registry := hinv
    scope := hscope ▸ h.scope
    owed := fun t ht => (h.owed t ht).imp_right fun hold key hk => by
      rcases hlive key hk with ⟨hl, he⟩ | ⟨hnew, -⟩
      · exact (hold key hl).trans_eq he.symm
      · exact hnew t ht
    unlinked := fun hdown hnone => by
      obtain ⟨hdead, hclosed⟩ := h.unlinked hdown hnone
      refine ⟨fun key hk => ?_, hscope.trans hclosed⟩
      rcases hlive key hk with ⟨hl, -⟩ | ⟨-, hopen⟩
      · exact hdead key hl
      · exact hopen ⟨hdown, hclosed⟩ }

theorem isLive_apply (h : Inv s) {op : Op} {key : String}
    (hlive : (s.registry.apply parseRfc3339 op).IsLive key) :
    s.registry.IsLive key ∨ Grants parseRfc3339 s.registry key op :=
  (steps_apply h.registry op).live key hlive

/-- A proof as recent as every change, accepted only with an adapter at work. -/
theorem Inv.merge (h : Inv s) {pin : Option ManualNode} {device : ArpDevice}
    {adapter wall : String} {stale : Bool} {proved : ℕ}
    (hfresh : s.registry.admits parseRfc3339 pin device adapter wall stale = true →
      (∀ t, s.Owes t → t ≤ proved) ∧
        ¬ (s.control.state.selection.up = false ∧ s.registry.verificationScope = some none)) :
    Inv (s.merge parseRfc3339 pin device adapter wall stale proved) := by
  have hinv : (s.registry.apply parseRfc3339
      (proofOp pin device adapter wall stale s.clock)).devices.Inv :=
    (steps_apply h.registry _).inv
  have hscope : (s.registry.apply parseRfc3339
      (proofOp pin device adapter wall stale s.clock)).verificationScope =
        s.registry.verificationScope := by
    apply scope_apply
    cases pin <;> nofun
  unfold Watch.merge
  dsimp only
  split
  · next hadmit =>
    obtain ⟨hnew, hopen⟩ := hfresh hadmit
    refine h.of_registry hinv hscope fun key hk => ?_
    cases hsame : sameMac key device.mac with
    | true => exact .inr ⟨by simpa [prove, hsame] using hnew, hopen⟩
    | false =>
      refine .inl ⟨(isLive_apply h hk).resolve_right fun hg => ?_, by simp [prove, hsame]⟩
      rw [(grants_proofOp hg).2] at hsame
      cases hsame
  · next hadmit =>
    refine h.of_registry hinv hscope fun key hk => .inl ⟨?_, rfl⟩
    exact (isLive_apply h hk).resolve_right fun hg => hadmit (grants_proofOp hg).1

/-- A valid fence was taken after every change so far, and the adapter is still up. -/
theorem Inv.fence_fresh (h : Inv s) {work : Issued} (hmem : work ∈ s.issued)
    (hvalid : s.control.gate.valid work.snapshot.fence = true) :
    (∀ t, s.Owes t → t ≤ work.time) ∧
      (work.snapshot.adapter.isSome = true → s.control.state.selection.up = true) := by
  obtain ⟨hfence, hle, hsame⟩ := h.issued work hmem
  refine hsame ?_
  have hgen := (Gate.valid_iff.mp hvalid).2
  rw [hfence, h.generation] at hgen
  have hnat := congrArg UInt64.toNat hgen
  have := h.epochs
  simp only [UInt64.toNat_ofNat'] at hnat
  omega

section Tick

variable (s) (now : ℕ)

/-- The scope a tick sets: the adapter the snapshot offers. -/
def tickScope : Option String :=
  ((s.control.settle now).snapshot now).adapter.bind fun a => canonicalMac a.mac

theorem scope_tick :
    (s.control.tick s.registry now).2.2.verificationScope = some (s.tickScope now) := by
  unfold Control.tick tickScope
  dsimp only
  cases s.control.due now <;>
    cases ((s.control.settle now).snapshot now).adapter <;> rfl

variable {s now}

theorem tick_restricts : Devices.Restricts s.registry.devices
    (s.control.tick s.registry now).2.2.devices := by
  unfold Control.tick
  dsimp only
  cases s.control.due now with
  | true => exact restricts_expireAll.trans (restricts_expireEvidence now)
  | false => exact restricts_expireEvidence (r := s.registry.setVerificationScope _) now

/-- A due expiry leaves nothing live. -/
theorem tick_due (h : s.control.due now = true) (key : String) :
    ¬ (s.control.tick s.registry now).2.2.IsLive key := by
  rintro ⟨ip, hlive⟩
  simp only [Control.tick, h, ↓reduceIte] at hlive
  have hall := Devices.Restricts.liveAt (restricts_expireEvidence now) hlive
  obtain ⟨r, hr, hst, -⟩ := hall
  simp only [expireAll, FiniteMap.lookup_mapValues, Option.map_eq_some_iff] at hr
  obtain ⟨old, -, rfl⟩ := hr
  unfold demote at hst
  split at hst
  · cases hst
  · next hne => exact hne hst

theorem settle_of_not_due (h : s.control.due now = false) : s.control.settle now = s.control := by
  simp [Control.settle, h]

theorem due_iff {c : Control} : c.due now = true ↔ ∃ d, c.state.expireAt = some d ∧ d ≤ now := by
  simp [Control.due, Option.any_eq_true]

end Tick

theorem Inv.tick (h : Inv s) : Inv { s with
    control := (s.control.tick s.registry s.clock).2.1
    registry := (s.control.tick s.registry s.clock).2.2 } := by
  have hinv : (s.control.tick s.registry s.clock).2.2.devices.Inv := tick_restricts.inv h.registry
  have hscope := s.scope_tick s.clock
  have hlive : ∀ key, (s.control.tick s.registry s.clock).2.2.IsLive key →
      s.registry.IsLive key := fun key ⟨ip, hl⟩ => ⟨ip, tick_restricts.liveAt hl⟩
  have hclosed : s.control.state.selection.up = false → s.tickScope s.clock = none := fun hdown => by
    unfold tickScope Control.settle Control.snapshot
    split <;> simp [hdown]
  cases hdue : s.control.due s.clock with
  | false =>
    have hsame : (s.control.tick s.registry s.clock).2.1 = s.control := settle_of_not_due hdue
    rw [hsame]
    exact { h with
      registry := hinv
      scope := by rw [hscope]; rfl
      owed := fun t ht => (h.owed t ht).imp_right fun hold key hk => hold key (hlive key hk)
      unlinked := fun hdown hnone => by
        refine ⟨fun key hk => (h.unlinked hdown hnone).1 key (hlive key hk), ?_⟩
        rw [hscope, hclosed hdown] }
  | true =>
    have hsettled : (s.control.tick s.registry s.clock).2.1 = { s.control with
        state := { s.control.state with expireAt := none, readyAt := none } } := by
      simp [Control.tick, Control.settle, hdue]
    have hdead := tick_due hdue
    obtain ⟨d, hd, hle⟩ := due_iff.mp hdue
    have helapsed : ∀ t ∈ s.holds, t + DOWN_HOLD ≤ s.clock := fun t ht => by
      rcases h.held t ht with hpast | hpending
      · exact hpast
      · rw [hd] at hpending
        exact (Option.some.inj hpending) ▸ hle
    rw [hsettled]
    exact { h with
      registry := hinv
      scope := by rw [hscope]; rfl
      expiry := nofun
      cause := nofun
      ready := nofun
      held := fun t ht => .inl (helapsed t ht)
      offered := fun t ht => .inl (helapsed t ht)
      owed := fun t _ => .inr fun key hk => absurd hk (hdead key)
      unlinked := fun hdown _ => by
        refine ⟨hdead, ?_⟩
        rw [hscope, hclosed hdown] }

theorem Inv.owes_past (h : Inv s) {t : ℕ} (ht : s.Owes t) : t ≤ s.clock :=
  ht.elim (h.changes_past t) fun hd => (h.down t hd).1

theorem not_stale_of_admits {pin : Option ManualNode} {device : ArpDevice} {adapter wall : String}
    {stale : Bool}
    (h : s.registry.admits parseRfc3339 pin device adapter wall stale = true) :
    stale = false ∧ s.registry.verificationScope ≠ some none := by
  simp only [admits, accepts, Bool.and_eq_true, Bool.not_eq_true'] at h
  refine ⟨h.2.1.1.2, fun hclosed => ?_⟩
  have := h.2.1.2
  simp [proofAllowed, hclosed] at this

theorem Inv.control (h : Inv s) {call : ControlCall}
    (hcalm : s.Undisturbed (s.clock, .control call)) {s' : Watch}
    (hs : s.stepNow parseRfc3339 (.control call) = some s') : Inv s' := by
  obtain ⟨hcalm, hroom⟩ := hcalm
  rcases control_call s.control s.clock call with
    ⟨selection, mode, hsel, hupdate⟩ | ⟨hsel, hgate, revision, hstate⟩
  · have hs' : s' = s.updated selection mode := by
      simp only [stepNow, hsel, Option.some.injEq] at hs
      rw [← hs, Watch.updated, hupdate]
    rw [hs']
    refine h.updated hroom (fun hr => ?_) (fun hr => ?_) fun hr => ?_
    · exact hcalm ⟨call, selection, mode, rfl, hsel, .inl hr⟩
    · exact hcalm ⟨call, selection, mode, rfl, hsel, .inr (.inl hr)⟩
    · exact hcalm ⟨call, selection, mode, rfl, hsel, .inr (.inr hr)⟩
  · simp only [stepNow, hsel, Option.some.injEq] at hs
    obtain rfl := hs
    cases hcontrol : s.control.call s.clock call with
    | mk state gate =>
      rw [hcontrol] at hgate hstate
      obtain rfl : state = _ := hstate
      exact { h with generation := hgate.trans h.generation }

theorem Inv.step {s' : Watch} {call : ℕ × WatchCall} (h : Inv s) (hcalm : s.Undisturbed call)
    (hs : s.step parseRfc3339 call = some s') : Inv s' := by
  obtain ⟨now, call⟩ := call
  unfold Watch.step at hs
  split at hs
  · next hnow =>
    have hadv := h.advance hnow
    cases call with
    | control c => exact hadv.control hcalm hs
    | tick =>
      obtain rfl := Option.some.inj hs
      exact hadv.tick
    | snapshot =>
      obtain rfl := Option.some.inj hs
      refine { hadv with issued := fun i hi => ?_ }
      rcases List.mem_cons.mp hi with rfl | hi
      · refine ⟨h.generation, le_rfl, fun _ => ⟨fun t ht => hadv.owes_past ht, fun ha => ?_⟩⟩
        simp only [Control.snapshot] at ha
        split at ha
        · next hoffer =>
          simp only [Bool.and_eq_true] at hoffer
          exact hoffer.1.2
        · cases ha
      · exact hadv.issued i hi
    | verified work pin device wall proved =>
      simp only [stepNow] at hs
      split at hs
      · cases hs
      · next adapter hadapter =>
        split at hs
        · next hok =>
          obtain rfl := Option.some.inj hs
          obtain ⟨hmem, hle, -⟩ := hok
          refine hadv.merge fun hadmit => ?_
          obtain ⟨hfresh, hup⟩ := hadv.fence_fresh hmem
            (by simpa using (not_stale_of_admits hadmit).1)
          refine ⟨fun t ht => (hfresh t ht).trans hle, fun ⟨hdown, _⟩ => ?_⟩
          rw [hup (by rw [hadapter]; rfl)] at hdown
          cases hdown
        · cases hs
    | captured device adapter stale =>
      obtain rfl := Option.some.inj hs
      refine hadv.merge fun hadmit => ⟨fun t ht => hadv.owes_past ht, fun ⟨_, hclosed⟩ => ?_⟩
      exact (not_stale_of_admits hadmit).2 hclosed
    | registry op =>
      simp only [stepNow] at hs
      split at hs
      · next hop =>
        obtain rfl := Option.some.inj hs
        refine hadv.of_registry (steps_apply hadv.registry op).inv
          (scope_apply fun adapter he => by rw [he] at hop; cases hop) fun key hk => ?_
        exact .inl ⟨(isLive_apply hadv hk).resolve_right (not_grants_of_unproven hop h.scope), rfl⟩
      · cases hs
  · cases hs

theorem inv_start (mode : NetworkMode) : Inv (start mode) where
  expiry := nofun
  cause := nofun
  ready := nofun
  held := nofun
  offered := nofun
  owed t ht := by rcases ht with ht | ht <;> cases ht
  unlinked _ _ := by
    refine ⟨fun key ⟨ip, r, hr, _⟩ => ?_, rfl⟩
    simp [start, setVerificationScope] at hr
  generation := rfl
  epochs := Nat.two_pow_pos 64
  registry := Devices.inv_empty
  scope := rfl
  held_changes := nofun
  changes_past := nofun
  down := nofun
  issued := nofun

theorem inv_of_reaches {mode : NetworkMode} (h : (machine parseRfc3339 mode).Reaches Undisturbed s) :
    Inv s := by
  refine h.invariant (Q := fun _ => True) (fun _ _ => trivial) (inv_start mode) ?_
  exact fun _ _ _ _ hinv hcalm hs => hinv.step hcalm hs

/-- What a tick takes although its own evidence is good went with the expiry. -/
theorem due_of_lost (h : Inv s) {now : ℕ} {key : String} {deadline : ℕ}
    (hlive : s.registry.IsLive key) (hlost : ¬ (s.control.tick s.registry now).2.2.IsLive key)
    (hd : s.registry.evidence.lookup key = some deadline) (hgood : now < deadline) :
    s.control.due now = true := by
  obtain ⟨ip, r, hr, hst, hip⟩ := hlive
  refine by_contra fun hdue => hlost ⟨ip, r, ?_, hst, hip⟩
  have hkeyed := h.registry.keyed key r hr
  have hkept : expireRecord s.registry.evidence now r = r := by
    unfold expireRecord
    rw [if_neg]
    rintro ⟨-, hrunOut⟩
    rw [hkeyed, hd] at hrunOut
    exact absurd (of_decide_eq_true hrunOut) (not_le.mpr hgood)
  simp [Control.tick, Bool.eq_false_iff.mpr hdue, expireEvidence, setVerificationScope, hr, hkept]

/-- With nothing pending and no hold there is nothing to disturb. -/
theorem not_disturbs_idle {call : ℕ × WatchCall} (hexpire : s.control.state.expireAt = none)
    (hholds : s.holds = []) (hup : s.control.state.selection.selectedMac = none →
      s.control.state.selection.up = false) : ¬ s.Disturbs call := by
  rintro ⟨c, selection, mode, -, -, ⟨-, d, hd, -⟩ | ⟨-, -, -, d, hd, -⟩ | ⟨-, hnone, -, hup' | ⟨-, t, ht, -⟩⟩⟩
  · rw [hexpire] at hd
    cases hd
  · rw [hexpire] at hd
    cases hd
  · rw [hup hnone] at hup'
    cases hup'
  · rw [hholds] at ht
    cases ht

/-- In a run that loses no pending hold, a tick one hold after an identity change, or after
the loss of a link that is still down, leaves nothing live on evidence from before; no
snapshot offers an adapter while the hold of an identity change is pending; and a tick takes
a record whose own evidence is good only for an identity change or for a link that stayed
down for the whole hold. -/
theorem evidence_lifetime {mode : NetworkMode}
    (h : (machine parseRfc3339 mode).Reaches Undisturbed s) {now : ℕ} (hnow : s.clock ≤ now) :
    (∀ t, s.Owes t → t + DOWN_HOLD ≤ now →
      ∀ key, (s.control.tick s.registry now).2.2.IsLive key → t ≤ s.provedAt key) ∧
    (∀ t ∈ s.holds, now < t + DOWN_HOLD → (s.control.snapshot now).adapter = none) ∧
    ∀ key deadline, s.registry.IsLive key → s.registry.evidence.lookup key = some deadline →
      now < deadline → ¬ (s.control.tick s.registry now).2.2.IsLive key →
      (∃ d, s.control.state.expireAt = some d ∧ d ≤ now ∧ s.OwedToChange d) ∨
        ∃ t, s.downSince = some t ∧ t + DOWN_HOLD ≤ now := by
  have hinv := inv_of_reaches h
  refine ⟨fun t ht hle key hlive => ?_, fun t ht hlt => ?_, fun key deadline hlive hd hgood hlost => ?_⟩
  · rcases hinv.owed t ht with ⟨d, hd, hdle⟩ | hproved
    · exact absurd hlive (tick_due (due_iff.mpr ⟨d, hd, hdle.trans hle⟩) key)
    · obtain ⟨ip, hl⟩ := hlive
      exact hproved key ⟨ip, tick_restricts.liveAt hl⟩
  · refine if_neg fun hoffer => ?_
    simp only [Bool.and_eq_true] at hoffer
    obtain ⟨⟨-, hup⟩, hready⟩ := hoffer
    rcases hinv.offered t ht with hle | hdown | hr
    · omega
    · rw [hup] at hdown
      cases hdown
    · simp [hr] at hready
      omega
  · obtain ⟨d, hexpire, hle⟩ := due_iff.mp (due_of_lost hinv hlive hlost hd hgood)
    rcases hinv.cause d hexpire with howed | ⟨t, ht, rfl⟩
    · exact .inl ⟨d, hexpire, hle, howed⟩
    · exact .inr ⟨t, ht, hle⟩

section Example

/-- The adapter under an interface index, with its link. -/
def ethernet (index : UInt32) (isUp : Bool) : AdapterSelection where
  selectedMac := some "40:cd:3a:00:00:01"
  adapter := some ⟨"USB", "40:cd:3a:00:00:01", [⟨"192.168.1.101", 24⟩], isUp⟩
  interfaceIndex := some index

def camera : ArpDevice where
  mac := "aa:bb:cc:dd:ee:02"
  ip := "192.168.1.204"
  subnet := "192.168.1.0/24"
  firstSeen := ""
  lastSeen := ""

/-- The work a snapshot of the first adapter gives out. -/
def firstWork : Issued :=
  ⟨((Control.start .dhcp).update (ethernet 7 true) .dhcp 0).snapshot 0, 1, 0⟩

/-- A proof on one interface index, and the change to another. -/
def replaced : List (ℕ × WatchCall) :=
  [(0, .control (.update (ethernet 7 true) .dhcp)), (0, .tick), (0, .snapshot),
    (100, .verified firstWork none camera "2026-10-19T12:00:00Z" 100),
    (1000, .control (.update (ethernet 8 true) .dhcp))]

def cameraRecord : DeviceRecord :=
  { DeviceRecord.observed camera.mac camera with
    verifiedByMac := some "40:cd:3a:00:00:01"
    lastVerifiedAt := some "2026-10-19T12:00:00Z" }

theorem evidence_lifetime_replaced_adapter :
    ∃ s, (machine (fun _ => some 0) .dhcp).run (start .dhcp) replaced = some s ∧
      s.registry.IsLive camera.mac ∧
      ∀ key, (s.control.tick s.registry 3000).2.2.IsLive key → 1000 ≤ s.provedAt key := by
  have hidle : ∀ {s : Watch} {call : ℕ × WatchCall}, s.control.state.expireAt = none →
      s.holds = [] → (s.control.state.selection.selectedMac = none →
        s.control.state.selection.up = false) → s.epochs < 8 → s.Undisturbed call :=
    fun hexpire hholds hup he => ⟨not_disturbs_idle hexpire hholds hup, by omega⟩
  have hcalm : (machine (fun _ => some 0) .dhcp).Admits Undisturbed (start .dhcp) replaced := by
    repeat' refine ⟨hidle rfl rfl (by decide +kernel) (by decide +kernel), ?_⟩; rintro _ ⟨⟩
    trivial
  refine ⟨_, rfl, ⟨camera.ip, cameraRecord, by decide +kernel, rfl, rfl⟩, ?_⟩
  exact (evidence_lifetime (.run .initial hcalm rfl) (by decide : 1000 ≤ 3000)).1 1000
    (.inl (by decide +kernel)) (by decide)

def bounce : List (ℕ × WatchCall) :=
  replaced ++ [(1100, .control (.update (ethernet 8 false) .dhcp)),
    (1200, .control (.update (ethernet 8 true) .dhcp))]

/-- The bounce offers the new adapter at once and keeps the camera live past the hold. -/
theorem bounce_outlives_adapter :
    ∃ s, (machine (fun _ => some 0) .dhcp).run (start .dhcp) bounce = some s ∧
      1000 ∈ s.holds ∧ (s.control.snapshot 1200).adapter.isSome = true ∧
      (s.control.tick s.registry 3000).2.2.IsLive camera.mac ∧ s.provedAt camera.mac = 100 := by
  refine ⟨_, rfl, ?_, ?_, ⟨camera.ip, cameraRecord, ?_, rfl, rfl⟩, ?_⟩ <;> decide +kernel

end Example

end Watch

end PocketStream
