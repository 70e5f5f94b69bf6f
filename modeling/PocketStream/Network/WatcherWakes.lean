import PocketStream.Network.Watcher

/-! # Notifications are served

A set bit stands for one wake: about to be sent, queued, or taken by the worker whose
pass has not cleared the bits yet. So a notification that finds the bits set is served
by a pass to come, after a bounded number of steps of the worker.
-/

namespace PocketStream

open Foundation

namespace Watcher

variable {s s' : Watcher} {call : Call} {calls : List Call} {w : ℕ}

/-- The worker has taken a wake and has not cleared the bits. -/
def holds (s : Watcher) : ℕ :=
  match s.loop with
  | .sleeping | .woken | .bindings => 1
  | .waiting | .cleared | .topology | .retrying => 0

/-- The bits and the wakes of a watcher that has started. -/
structure Sound (s : Watcher) : Prop where
  token : s.queue + s.sending + s.holds = if s.dirty = 0 then 0 else 1
  sender : s.sender = some s.channel
  served : s.served ≤ s.wakes
  base : s.base ≤ s.wakes
  seen : s.loop = .bindings ∨ s.loop = .cleared → s.served ≤ s.seen ∧ s.seen ≤ s.wakes
  reading : s.loop = .bindings → s.seen = s.wakes
  clean : s.dirty = 0 → s.loop = .cleared ∧ s.seen = s.wakes ∨ s.wakes ≤ max s.base s.served

/-- The sender is published before the callbacks are registered. -/
structure Kept (s : Watcher) : Prop where
  published : s.start = .published ∨ s.start = .interfaceRegistered ∨ s.start = .addressRegistered →
    s.sender = some s.channel
  served : s.served ≤ s.wakes
  idle : s.start ≠ .active → s.loop = .waiting
  sound : s.start = .active → s.Sound

theorem dirty_wake (d : UInt8) (kind : Kind) : d ||| kind.bits ≠ 0 := by
  intro h
  have hbits := (UInt8.or_eq_zero_iff.mp h).2
  cases kind <;> cases hbits

theorem kept_initial : Kept initial where
  published := by decide
  served := Nat.le_refl _
  idle _ := rfl
  sound := nofun

theorem Sound.wake (h : s.Sound) (kind : Kind) (ht : s.loop ≠ .bindings) : (s.wake kind).Sound where
  token := by
    have htoken := h.token
    have hmarked : (s.wake kind).dirty ≠ 0 := dirty_wake s.dirty kind
    have hholds : (s.wake kind).holds = s.holds := rfl
    have hqueue : (s.wake kind).queue = s.queue := rfl
    have hsending : (s.wake kind).sending = if s.dirty ≠ 0 then s.sending else s.sending + 1 := rfl
    rw [if_neg hmarked, hholds, hqueue, hsending]
    split at htoken
    next hclean =>
      rw [if_neg (not_not_intro hclean)]
      omega
    next hdirty =>
      rw [if_pos hdirty]
      exact htoken
  sender := h.sender
  served := Nat.le_succ_of_le h.served
  base := Nat.le_succ_of_le h.base
  seen hl := ⟨(h.seen hl).1, Nat.le_succ_of_le (h.seen hl).2⟩
  reading hl := absurd hl ht
  clean hd := absurd hd (dirty_wake s.dirty kind)

theorem Sound.send (h : s.Sound) (hactive : s.start = .active) (hsending : 0 < s.sending) :
    s.send.Sound := by
  have hqueue : s.send.queue = s.queue + 1 :=
    if_pos ⟨h.sender, by simp [initialized, hactive]⟩
  refine ⟨?_, h.sender, h.served, h.base, h.seen, h.reading, h.clean⟩
  have htoken := h.token
  have hholds : s.send.holds = s.holds := rfl
  have hdirty : s.send.dirty = s.dirty := rfl
  have hleft : s.send.sending = s.sending - 1 := rfl
  rw [hqueue, hholds, hdirty, hleft]
  omega

/-- A step of the worker that leaves the bits and the notifications. -/
theorem Sound.work (h : s.Sound) {loop : Loop} {queue seen served : ℕ}
    (htoken : queue + s.sending + holds { s with loop := loop } = s.queue + s.sending + s.holds)
    (hserved : s.served ≤ served ∧ served ≤ s.wakes)
    (hseen : loop = .bindings ∨ loop = .cleared → served ≤ seen ∧ seen ≤ s.wakes)
    (hreading : loop = .bindings → seen = s.wakes)
    (hclean : s.dirty = 0 → loop = .cleared ∧ seen = s.wakes ∨ s.wakes ≤ max s.base served) :
    Sound { s with loop := loop, queue := queue, seen := seen, served := served } where
  token := htoken.trans h.token
  sender := h.sender
  served := hserved.2
  base := h.base
  seen := hseen
  reading := hreading
  clean := hclean

theorem Sound.swap (h : s.Sound) (hl : s.loop = .bindings) :
    Sound { s with loop := .cleared, dirty := 0 } where
  token := by
    have htoken := h.token
    have hholds : s.holds = 1 := by simp [holds, hl]
    have hnone : holds { s with loop := .cleared, dirty := 0 } = 0 := rfl
    rw [hholds] at htoken
    rw [hnone, if_pos rfl]
    dsimp only
    split at htoken <;> omega
  sender := h.sender
  served := h.served
  base := h.base
  seen _ := h.seen (.inl hl)
  reading := nofun
  clean _ := .inl ⟨rfl, h.reading hl⟩

/-- Between two passes or in a retry, and no pass ends before its topology read. -/
theorem Sound.quiet (h : s.Sound) {loop : Loop} (hnone : s.holds = 0) (hl : s.loop ≠ .cleared)
    (hto : loop = .waiting ∨ loop = .retrying) : Sound { s with loop := loop } := by
  refine @Sound.work s h _ s.queue _ _ ?_ ⟨Nat.le_refl _, h.served⟩ ?_ ?_ fun hd => ?_
  · rw [hnone]
    rcases hto with rfl | rfl <;> rfl
  · rcases hto with rfl | rfl <;> simp
  · rcases hto with rfl | rfl <;> nofun
  · exact .inr ((h.clean hd).resolve_left fun hc => hl hc.1)

theorem kept_active (hactive : s.start = .active) (h : s.Sound) : s.Kept where
  published hp := by
    rw [hactive] at hp
    rcases hp with hp | hp | hp <;> cases hp
  served := h.served
  idle ha := absurd hactive ha
  sound _ := h

theorem Kept.step (h : s.Kept) (ht : s.Tidy call) (hs : step s call = some s') : s'.Kept := by
  obtain ⟨hpublished, hserved, hidle, hsound⟩ := h
  -- a loop phase other than the first means that the worker has been spawned
  have hspawned (hl : s.loop ≠ .waiting) : s.start = .active := by
    by_contra hstart
    exact hl (hidle hstart)
  cases call with
  | wake kind =>
    obtain rfl := Option.some.inj hs
    exact ⟨hpublished, Nat.le_succ_of_le hserved, hidle, fun ha => (hsound ha).wake kind ht⟩
  | send =>
    obtain ⟨hsending, hs⟩ := Option.ite_none_right_eq_some.mp hs
    obtain rfl := Option.some.inj hs
    exact ⟨hpublished, hserved, hidle, fun ha => (hsound ha).send ha hsending⟩
  | start =>
    unfold step at hs
    dsimp only at hs
    split at hs
    · obtain rfl := Option.some.inj hs
      exact ⟨hpublished, hserved, hidle, hsound⟩
    next hfree =>
      obtain rfl := Option.some.inj hs
      have hstart : s.start = .idle := by simpa [initialized] using hfree
      refine ⟨nofun, hserved, fun _ => hidle (hstart ▸ nofun), nofun⟩
  | reset =>
    obtain ⟨hstart, hs⟩ := Option.ite_none_right_eq_some.mp hs
    obtain rfl := Option.some.inj hs
    exact ⟨nofun, hserved, fun _ => hidle (hstart ▸ nofun), nofun⟩
  | publish =>
    obtain ⟨hstart, hs⟩ := Option.ite_none_right_eq_some.mp hs
    obtain rfl := Option.some.inj hs
    exact ⟨fun _ => rfl, hserved, fun _ => hidle (hstart ▸ nofun), nofun⟩
  | registerInterface ok =>
    obtain ⟨hstart, hs⟩ := Option.ite_none_right_eq_some.mp hs
    obtain rfl := Option.some.inj hs
    refine ⟨fun _ => hpublished (.inl hstart), hserved, fun _ => hidle (hstart ▸ nofun), ?_⟩
    cases ok <;> nofun
  | registerAddress ok =>
    obtain ⟨hstart, hs⟩ := Option.ite_none_right_eq_some.mp hs
    obtain rfl := Option.some.inj hs
    refine ⟨fun _ => hpublished (.inr (.inl hstart)), hserved, fun _ => hidle (hstart ▸ nofun), ?_⟩
    cases ok <;> nofun
  | spawn =>
    obtain ⟨hstart, hs⟩ := Option.ite_none_right_eq_some.mp hs
    obtain rfl := Option.some.inj hs
    exact ⟨nofun, hserved, fun _ => rfl, fun _ => {
      token := ht
      sender := hpublished (.inr (.inr hstart))
      served := hserved
      base := Nat.le_refl _
      seen := by simp
      reading := nofun
      clean := fun _ => .inr (Nat.le_max_left _ _) }⟩
  | recv =>
    obtain ⟨⟨hactive, hl, hqueue⟩, hs⟩ := Option.ite_none_right_eq_some.mp hs
    obtain rfl := Option.some.inj hs
    have hsound := hsound hactive
    have hnone : s.holds = 0 := by simp [holds, hl]
    have htaken : holds { s with loop := .sleeping } = 1 := rfl
    refine kept_active hactive
      (hsound.work ?_ ⟨Nat.le_refl _, hserved⟩ (by simp) nofun fun hd => ?_)
    · rw [hnone, htaken]
      omega
    · exact .inr ((hsound.clean hd).resolve_left (by simp [hl]))
  | debounced =>
    obtain ⟨hl, hs⟩ := Option.ite_none_right_eq_some.mp hs
    obtain rfl := Option.some.inj hs
    have hactive := hspawned (hl ▸ nofun)
    have hsound := hsound hactive
    have hbefore : s.holds = 1 := by simp [holds, hl]
    have hafter : holds { s with loop := .woken } = 1 := rfl
    refine kept_active hactive
      (hsound.work ?_ ⟨Nat.le_refl _, hserved⟩ (by simp) nofun fun hd => ?_)
    · have htoken := hsound.token
      rw [hbefore] at htoken
      rw [hbefore, hafter]
      split at htoken <;> omega
    · exact .inr ((hsound.clean hd).resolve_left (by simp [hl]))
  | passBegins =>
    obtain ⟨hl, hs⟩ := Option.ite_none_right_eq_some.mp hs
    obtain rfl := Option.some.inj hs
    have hactive := hspawned (hl ▸ nofun)
    have hsound := hsound hactive
    have hbefore : s.holds = 1 := by simp [holds, hl]
    have hafter : holds { s with loop := .bindings } = 1 := rfl
    refine kept_active hactive (hsound.work ?_ ⟨Nat.le_refl _, hserved⟩
      (fun _ => ⟨hserved, Nat.le_refl _⟩) (fun _ => rfl) fun hd => ?_)
    · rw [hbefore, hafter]
    · exact .inr ((hsound.clean hd).resolve_left (by simp [hl]))
  | swap =>
    obtain ⟨hl, hs⟩ := Option.ite_none_right_eq_some.mp hs
    obtain rfl := Option.some.inj hs
    have hactive := hspawned (hl ▸ nofun)
    exact kept_active hactive ((hsound hactive).swap hl)
  | topologyBegins =>
    obtain ⟨hl, hs⟩ := Option.ite_none_right_eq_some.mp hs
    obtain rfl := Option.some.inj hs
    have hactive := hspawned (hl ▸ nofun)
    have hsound := hsound hactive
    have hbefore : s.holds = 0 := by simp [holds, hl]
    have hafter : holds { s with loop := .topology } = 0 := rfl
    refine kept_active hactive (hsound.work ?_ (hsound.seen (.inr hl)) (by simp) nofun fun hd => ?_)
    · rw [hbefore, hafter]
    -- with no bit set, the pass has seen every notification
    · rcases hsound.clean hd with ⟨-, hseen⟩ | hold
      · exact .inr (hseen ▸ Nat.le_max_right _ _)
      · have hle := (hsound.seen (.inr hl)).1
        exact .inr (by omega)
  | passEnds =>
    obtain ⟨hl, hs⟩ := Option.ite_none_right_eq_some.mp hs
    obtain rfl := Option.some.inj hs
    have hactive := hspawned (hl ▸ nofun)
    exact kept_active hactive ((hsound hactive).quiet (by simp [holds, hl]) (hl ▸ nofun) (.inl rfl))
  | retry =>
    obtain ⟨⟨hactive, hl⟩, hs⟩ := Option.ite_none_right_eq_some.mp hs
    obtain rfl := Option.some.inj hs
    exact kept_active hactive ((hsound hactive).quiet (by simp [holds, hl]) (hl ▸ nofun) (.inr rfl))
  | retryEnds =>
    obtain ⟨hl, hs⟩ := Option.ite_none_right_eq_some.mp hs
    obtain rfl := Option.some.inj hs
    have hactive := hspawned (hl ▸ nofun)
    exact kept_active hactive ((hsound hactive).quiet (by simp [holds, hl]) (hl ▸ nofun) (.inl rfl))

theorem kept_of_reaches (h : machine.Reaches Tidy s) : s.Kept :=
  h.invariant (fun _ _ => trivial) kept_initial fun _ _ _ _ hk ht hs => hk.step ht hs

/-! ### How far a notification is from its pass -/

/-- The steps of a wake that is queued, or about to be sent. -/
def sendDistance (s : Watcher) : ℕ := if 0 < s.queue then 6 else 7

/-- A bound on the steps until both reads of a pass have begun after the notification. -/
def distance (s : Watcher) (w : ℕ) : ℕ :=
  match s.loop with
  | .waiting | .retrying => s.sendDistance
  | .sleeping => 5
  | .woken => 4
  | .bindings => 3
  -- a later wake may still be sent
  | .cleared => if w < s.seen then s.sendDistance - 5 else s.sendDistance + 2
  | .topology => s.sendDistance + 1

theorem sendDistance_cases (s : Watcher) :
    0 < s.queue ∧ s.sendDistance = 6 ∨ s.queue = 0 ∧ s.sendDistance = 7 := by
  unfold sendDistance
  split <;> omega

theorem distance_bounds (s : Watcher) (w : ℕ) : 1 ≤ s.distance w ∧ s.distance w ≤ 9 := by
  have hsend := s.sendDistance_cases
  unfold distance
  split <;> try split
  all_goals omega

/-- The notification came since the start and is not served. -/
structure Unserved (s : Watcher) (w : ℕ) : Prop where
  base : s.base ≤ w
  came : w < s.wakes
  served : s.served ≤ w

/-- A notification that waits for a pass not begun yet has its bit set. -/
theorem Sound.dirty_ne (h : s.Sound) (hw : s.Unserved w) (hl : s.loop = .cleared → s.seen ≤ w) :
    s.dirty ≠ 0 := by
  intro hd
  have hbase := hw.base
  have hcame := hw.came
  have hserved := hw.served
  rcases h.clean hd with ⟨hcleared, hseen⟩ | hold
  · have := hl hcleared
    omega
  · omega

theorem distance_step (h : s.Sound) (hactive : s.start = .active) (ht : s.Tidy call)
    (hs : step s call = some s') (hw : s.Unserved w) :
    w < s'.served ∨ s'.distance w + call.isProgress.toNat ≤ s.distance w := by
  have hserved := hw.served
  have htoken := h.token
  cases call with
  | wake kind =>
    obtain rfl := Option.some.inj hs
    exact .inr (Nat.le_refl _)
  | send =>
    obtain ⟨hsending, hs⟩ := Option.ite_none_right_eq_some.mp hs
    obtain rfl := Option.some.inj hs
    have hone : s.queue = 0 ∧ s.holds = 0 := by split at htoken <;> omega
    have hbefore : s.sendDistance = 7 := by simp [sendDistance, hone.1]
    have hqueue : s.send.queue = s.queue + 1 := if_pos ⟨h.sender, by simp [initialized, hactive]⟩
    have hafter : s.send.sendDistance = 6 := by simp [sendDistance, hqueue]
    have hloop : s.send.loop = s.loop := rfl
    have hseen : s.send.seen = s.seen := rfl
    refine .inr ?_
    unfold distance
    rw [hloop, hseen, hbefore, hafter]
    have hholds := hone.2
    unfold holds at hholds
    split <;> simp_all [Call.isProgress]
    split <;> omega
  | start =>
    have hinit : s.initialized = true := by simp [initialized, hactive]
    obtain rfl := Option.some.inj ((if_pos hinit).symm.trans hs)
    exact .inr (Nat.le_refl _)
  | reset | publish | registerInterface | registerAddress | spawn =>
    obtain ⟨hstart, -⟩ := Option.ite_none_right_eq_some.mp hs
    cases hactive.symm.trans hstart
  | recv =>
    obtain ⟨⟨-, hl, hqueue⟩, hs⟩ := Option.ite_none_right_eq_some.mp hs
    obtain rfl := Option.some.inj hs
    refine .inr ?_
    simp [distance, hl, sendDistance, hqueue, Call.isProgress]
  | debounced =>
    obtain ⟨hl, hs⟩ := Option.ite_none_right_eq_some.mp hs
    obtain rfl := Option.some.inj hs
    exact .inr (by simp [distance, hl, Call.isProgress])
  | passBegins =>
    obtain ⟨hl, hs⟩ := Option.ite_none_right_eq_some.mp hs
    obtain rfl := Option.some.inj hs
    exact .inr (by simp [distance, hl, Call.isProgress])
  | swap =>
    obtain ⟨hl, hs⟩ := Option.ite_none_right_eq_some.mp hs
    obtain rfl := Option.some.inj hs
    have hseen := h.reading hl
    have hcame := hw.came
    have hqueue : s.queue = 0 := by
      have hholds : s.holds = 1 := by simp [holds, hl]
      rw [hholds] at htoken
      split at htoken <;> omega
    exact .inr (by simp [distance, hl, Call.isProgress, hseen, hcame, sendDistance, hqueue])
  | topologyBegins =>
    obtain ⟨hl, hs⟩ := Option.ite_none_right_eq_some.mp hs
    obtain rfl := Option.some.inj hs
    by_cases hseen : w < s.seen
    · exact .inl hseen
    · refine .inr ?_
      simp [distance, hl, Call.isProgress, hseen, sendDistance]
  | retry =>
    obtain ⟨⟨-, hl⟩, hs⟩ := Option.ite_none_right_eq_some.mp hs
    obtain rfl := Option.some.inj hs
    exact .inr (by simp [distance, hl, Call.isProgress, sendDistance])
  | passEnds | retryEnds =>
    obtain ⟨hl, hs⟩ := Option.ite_none_right_eq_some.mp hs
    obtain rfl := Option.some.inj hs
    exact .inr (by simp [distance, hl, Call.isProgress, sendDistance])

/-! ### The runs of a started watcher -/

/-- The watcher stays started, and the notifications served stay served. -/
structure Continues (s s' : Watcher) : Prop where
  active : s'.start = .active
  base : s'.base = s.base
  wakes : s.wakes ≤ s'.wakes
  served : s.served ≤ s'.served

theorem continues_step (h : s.Sound) (hactive : s.start = .active) (hs : step s call = some s') :
    s.Continues s' := by
  cases call with
  | wake kind =>
    obtain rfl := Option.some.inj hs
    exact ⟨hactive, rfl, Nat.le_succ _, Nat.le_refl _⟩
  | start =>
    have hinit : s.initialized = true := by simp [initialized, hactive]
    obtain rfl := Option.some.inj ((if_pos hinit).symm.trans hs)
    exact ⟨hactive, rfl, Nat.le_refl _, Nat.le_refl _⟩
  | reset | publish | registerInterface | registerAddress | spawn =>
    obtain ⟨hstart, -⟩ := Option.ite_none_right_eq_some.mp hs
    cases hactive.symm.trans hstart
  | topologyBegins =>
    obtain ⟨hl, hs⟩ := Option.ite_none_right_eq_some.mp hs
    obtain rfl := Option.some.inj hs
    exact ⟨hactive, rfl, Nat.le_refl _, (h.seen (.inr hl)).1⟩
  | send | recv | debounced | passBegins | swap | passEnds | retry | retryEnds =>
    obtain ⟨-, hs⟩ := Option.ite_none_right_eq_some.mp hs
    obtain rfl := Option.some.inj hs
    exact ⟨hactive, rfl, Nat.le_refl _, Nat.le_refl _⟩

theorem served_run (h : s.Kept) (hactive : s.start = .active) (ha : machine.Admits Tidy s calls)
    (hr : machine.run s calls = some s') : s.served ≤ s'.served := by
  induction calls generalizing s with
  | nil =>
    obtain rfl := Option.some.inj hr
    exact Nat.le_refl _
  | cons call calls ih =>
    obtain ⟨s₁, hs, hr⟩ := Option.bind_eq_some_iff.mp hr
    have hnext := continues_step (h.sound hactive) hactive hs
    exact Nat.le_trans hnext.served (ih (h.step ha.1 hs) hnext.active (ha.2 s₁ hs) hr)

/-- Every step of the worker brings the notification's pass nearer, and no step takes it away. -/
theorem distance_run (h : s.Kept) (hactive : s.start = .active) (ha : machine.Admits Tidy s calls)
    (hr : machine.run s calls = some s') (hbase : s.base ≤ w) (hcame : w < s.wakes) :
    w < s'.served ∨ s'.distance w + calls.countP Call.isProgress ≤ s.distance w := by
  induction calls generalizing s with
  | nil =>
    obtain rfl := Option.some.inj hr
    exact .inr (Nat.le_refl _)
  | cons call calls ih =>
    obtain ⟨s₁, hs, hr⟩ := Option.bind_eq_some_iff.mp hr
    have hsound := h.sound hactive
    have hnext := continues_step hsound hactive hs
    have hkept := h.step ha.1 hs
    have hlater := served_run hkept hnext.active (ha.2 s₁ hs) hr
    by_cases hserved : w < s.served
    · have hmono := hnext.served
      exact .inl (by omega)
    · have hw : s.Unserved w := ⟨hbase, hcame, Nat.le_of_not_lt hserved⟩
      rcases distance_step hsound hactive ha.1 hs hw with hnow | hnear
      · exact .inl (by omega)
      · rcases ih hkept hnext.active (ha.2 s₁ hs) hr (hnext.base ▸ hbase)
          (Nat.lt_of_lt_of_le hcame hnext.wakes) with hdone | hleft
        · exact .inl hdone
        · refine .inr ?_
          rw [List.countP_cons]
          cases hp : call.isProgress <;> simp [hp] at hnear ⊢ <;> omega

/-- A notification that is not served has a step to come, of the worker or of its own thread. -/
theorem progress_enabled (h : s.Sound) (hactive : s.start = .active) (hw : s.Unserved w) :
    ∃ call, (call.isProgress ∨ call = .retryEnds) ∧ (machine.step s call).isSome := by
  cases hl : s.loop with
  | waiting =>
    have hdirty := h.dirty_ne hw (by simp [hl])
    have htoken := h.token
    have hholds : s.holds = 0 := by simp [holds, hl]
    rw [if_neg hdirty, hholds] at htoken
    by_cases hqueue : 0 < s.queue
    · exact ⟨.recv, .inl rfl, by simp [machine, step, hactive, hl, hqueue]⟩
    · have hsending : 0 < s.sending := by omega
      exact ⟨.send, .inl rfl, by simp [machine, step, hsending]⟩
  | sleeping => exact ⟨.debounced, .inl rfl, by simp [machine, step, hl]⟩
  | woken => exact ⟨.passBegins, .inl rfl, by simp [machine, step, hl]⟩
  | bindings => exact ⟨.swap, .inl rfl, by simp [machine, step, hl]⟩
  | cleared => exact ⟨.topologyBegins, .inl rfl, by simp [machine, step, hl]⟩
  | topology => exact ⟨.passEnds, .inl rfl, by simp [machine, step, hl]⟩
  | retrying => exact ⟨.retryEnds, .inr rfl, by simp [machine, step, hl]⟩

/-- Once `start` has succeeded, at most one wake is queued or about to be, and every notification
is served by a pass that begins both its reads after it: until then a step of its thread or of the
worker is enabled, and nine of them are enough, whatever else happens between them. -/
theorem wakes_served (h : machine.Reaches Tidy s) (hactive : s.start = .active) :
    s.queue + s.sending ≤ 1 ∧ ∀ w, s.base ≤ w → w < s.wakes →
      (w < s.served ∨
        ∃ call, (call.isProgress ∨ call = .retryEnds) ∧ (machine.step s call).isSome) ∧
      ∀ calls s', machine.Admits Tidy s calls → machine.run s calls = some s' →
        9 ≤ calls.countP Call.isProgress → w < s'.served := by
  have hkept := kept_of_reaches h
  have hsound := hkept.sound hactive
  refine ⟨?_, fun w hbase hcame => ⟨?_, fun calls s' ha hr hcount => ?_⟩⟩
  · have htoken := hsound.token
    split at htoken <;> omega
  · by_cases hserved : w < s.served
    · exact .inl hserved
    · exact .inr (progress_enabled hsound hactive ⟨hbase, hcame, Nat.le_of_not_lt hserved⟩)
  · rcases distance_run hkept hactive ha hr hbase hcame with hserved | hnear
    · exact hserved
    · have hfar := s.distance_bounds w
      have hleft := s'.distance_bounds w
      omega

/-- `start` succeeds. -/
def starts : List Call :=
  [.start, .reset, .publish, .registerInterface true, .registerAddress true, .spawn]

/-- A wake and its pass. -/
def pass : List Call :=
  [.send, .recv, .debounced, .passBegins, .swap, .topologyBegins, .passEnds]

/-- A link change during the topology read is served by the trailing pass. -/
theorem wakes_served_trailing :
    ∃ s, s.start = .active ∧ s.loop = .topology ∧ s.base = 0 ∧ s.wakes = 2 ∧
      s.queue + s.sending ≤ 1 ∧ ∀ calls s', machine.Admits Tidy s calls →
        machine.run s calls = some s' → 9 ≤ calls.countP Call.isProgress → 1 < s'.served := by
  let calls : List Call := starts ++ .wake .address ::
    [.send, .recv, .debounced, .passBegins, .swap, .topologyBegins, .wake .link]
  let s := (machine.run initial calls).get (by decide)
  have ha : machine.Admits Tidy initial calls := by decide
  have hr : machine.run initial calls = some s := by decide
  have hserved := wakes_served (.run .initial ha hr) (by decide)
  exact ⟨s, by decide, by decide, by decide, by decide, hserved.1,
    (hserved.2 1 (by decide) (by decide)).2⟩

/-- A notification during the bindings read of a pass is cleared with the bits and never served.
One that comes between the reset and the publication of a start has no wake, and every later one
finds its bit. A wake sent late by a thread that had marked before the reset is a second one. -/
theorem wakes_lost :
    (∃ s, machine.run initial (starts ++ [.wake .address, .send, .recv, .debounced, .passBegins,
        .wake .link, .swap, .topologyBegins, .passEnds]) = some s ∧
      s.wakes = 2 ∧ s.base = 0 ∧ s.served = 1 ∧ s.loop = .waiting ∧ s.queue + s.sending = 0) ∧
    (∃ s, machine.run initial [.start, .reset, .wake .link, .send, .publish,
        .registerInterface true, .registerAddress true, .spawn, .wake .address, .wake .link] =
          some s ∧
      s.start = .active ∧ s.base = 1 ∧ s.wakes = 3 ∧ s.served = 0 ∧ s.dirty ≠ 0 ∧
      s.loop = .waiting ∧ s.queue + s.sending = 0) ∧
    ∃ s, machine.run initial [.start, .wake .link, .reset, .publish, .registerInterface true,
        .registerAddress true, .spawn, .send, .wake .address, .send] = some s ∧
      s.start = .active ∧ s.queue = 2 :=
  ⟨⟨_, rfl, by decide⟩, ⟨_, rfl, by decide⟩, ⟨_, rfl, by decide⟩⟩

end Watcher

end PocketStream
