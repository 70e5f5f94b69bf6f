import PocketStream.Network.WatchdogLadder

/-! # The budget of the ladder

At each rung the restarts, the windows and the reports so far are known. A rank that counts the
restarts left, then the quiet windows left, falls with every turn of the ladder. A session is
installed only under a fence that is not stale, and a stop never comes before a stale fence.
-/

namespace PocketStream

open Foundation

namespace Capture

/-- The modes of the restarts, in their order. -/
def ladderModes : List CaptureMode := [.preferScoped, .forcedUnscoped]

/-- The turns left at a rung, when so many restarts are left. -/
def Rung.rank (left : ℕ) : Rung → ℕ
  | .activation _ => 120 * left + 270
  | .parkUnconfirmed => 120 * left + 160
  | .counters quietWindows => 120 * left + 3 * (maxQuietWindows - quietWindows) + 172
  | .solicitation quietWindows => 120 * left + 3 * (maxQuietWindows - quietWindows) + 171
  | .window quietWindows _ => 120 * left + 3 * (maxQuietWindows - quietWindows) + 170
  | .linkState => 120 * left + 169
  | .takeDeaf _ => 120 * left + 165
  | .join _ _ => 120 * left + 164
  | .start _ => 120 * left + 163
  | .install _ => 120 * left + 162
  | .exhausted => 153
  | .recovery => 152
  | .polling _ waited _ => (maxWatch - waited) / poll + 1
  | .ended => 0

namespace Ladder

def rank (s : Ladder) : ℕ := s.rung.rank (ladderMaxRestarts - s.restartsUsed)

/-- The ladder moves on to another rung. -/
def turn (s s' : Ladder) : Bool := s'.rung != s.rung

/-- A window was healthy, or the link was not read as up. -/
def Excused (s : Ladder) : Prop :=
  (∃ d ∈ s.windows, captureHealth d.1 d.2 = .healthy) ∨ ∃ l ∈ s.readings, l ≠ some true

/-- So many restarts were begun, at most so many windows evaluated, and these events emitted. -/
structure Spent (s : Ladder) (begun windows : ℕ) (emitted : List DiscoveryEvent) : Prop where
  restarts : s.restarts = ladderModes.take begun
  installed : s.installed = ladderModes.take s.restartsUsed
  used : s.restartsUsed ≤ ladderMaxRestarts
  windows : s.windows.length ≤ windows
  emitted : s.emitted = emitted

/-- Unless a stop came, the session is in the slot. -/
def Held (s : Ladder) : Prop := s.stale = false → s.slot = true

/-- What is known at a rung. -/
def At (s : Ladder) : Rung → Prop
  | .activation _ => s.Spent s.restartsUsed (s.restartsUsed * maxQuietWindows) [] ∧ s.Held
  | .parkUnconfirmed => s.Spent s.restartsUsed (s.restartsUsed * maxQuietWindows) []
  | .counters quietWindows | .solicitation quietWindows | .window quietWindows _ =>
    quietWindows < maxQuietWindows ∧ s.Held ∧
      s.Spent s.restartsUsed (s.restartsUsed * maxQuietWindows + quietWindows) []
  | .linkState => s.Held ∧ s.Spent s.restartsUsed ((s.restartsUsed + 1) * maxQuietWindows) []
  | .takeDeaf mode => s.Held ∧ ladderModes[s.restartsUsed]? = some mode ∧
      s.Spent (s.restartsUsed + 1) ((s.restartsUsed + 1) * maxQuietWindows) []
  | .join mode _ | .start mode | .install mode => ladderModes[s.restartsUsed]? = some mode ∧
      s.Spent (s.restartsUsed + 1) ((s.restartsUsed + 1) * maxQuietWindows) []
  | .exhausted => ∃ n, s.Spent n ((ladderMaxRestarts + 1) * maxQuietWindows) []
  | .recovery | .polling _ _ _ =>
    ∃ n, s.Spent n ((ladderMaxRestarts + 1) * maxQuietWindows) [.degraded]
  | .ended => ∃ n emitted, s.Spent n ((ladderMaxRestarts + 1) * maxQuietWindows) emitted ∧
      emitted <+: [.degraded, .recovered] ∧ (emitted = [] → s.stale = false → s.Excused)

variable {s s' : Ladder} {begun w : ℕ} {emitted : List DiscoveryEvent}

theorem used_lt {mode : CaptureMode} (h : ladderModes[s.restartsUsed]? = some mode) :
    s.restartsUsed < ladderMaxRestarts :=
  (List.getElem?_eq_some_iff.mp h).1

/-- The windows of every attempt fit in the budget. -/
theorem Spent.within (h : s.Spent begun ((s.restartsUsed + 1) * maxQuietWindows) emitted) :
    s.Spent begun ((ladderMaxRestarts + 1) * maxQuietWindows) emitted :=
  ⟨h.restarts, h.installed, h.used,
    Nat.le_trans h.windows (Nat.mul_le_mul_right _ (Nat.succ_le_succ h.used)), h.emitted⟩

/-- What a wait of the ladder leads to. -/
structure Climbs (s s' : Ladder) : Prop where
  stale : s'.stale = s.stale
  shutdown : s'.shutdown = s.shutdown
  taken : s'.taken = s.taken
  installed : s.stale = true → s'.installed = s.installed
  stands : s'.At s'.rung
  lower : s'.rank < s.rank

/-- The attempt goes on as it was, and is not stopped where it had not been. -/
structure Same (s s' : Ladder) : Prop where
  used : s'.restartsUsed = s.restartsUsed
  restarts : s'.restarts = s.restarts
  installed : s'.installed = s.installed
  windows : s'.windows = s.windows
  readings : s'.readings = s.readings
  emitted : s'.emitted = s.emitted
  held : s'.stale = false → s.stale = false ∧ s'.slot = s.slot

theorem Same.spent (h : Same s s') (hs : s.Spent begun w emitted) :
    s'.Spent begun w emitted := by
  refine ⟨h.restarts.trans hs.restarts, ?_, ?_, ?_, h.emitted.trans hs.emitted⟩
  · rw [h.installed, h.used]
    exact hs.installed
  · rw [h.used]
    exact hs.used
  · rw [h.windows]
    exact hs.windows

theorem Same.stand (h : Same s s') {rung : Rung} (hs : s.At rung) : s'.At rung := by
  have hheld : s.Held → s'.Held := fun hh hn => (h.held hn).2.trans (hh (h.held hn).1)
  unfold At at hs ⊢
  rw [h.used]
  cases rung with
  | activation due => exact ⟨h.spent hs.1, hheld hs.2⟩
  | parkUnconfirmed => exact h.spent hs
  | counters quietWindows => exact ⟨hs.1, hheld hs.2.1, h.spent hs.2.2⟩
  | solicitation quietWindows => exact ⟨hs.1, hheld hs.2.1, h.spent hs.2.2⟩
  | window quietWindows solicitation => exact ⟨hs.1, hheld hs.2.1, h.spent hs.2.2⟩
  | linkState => exact ⟨hheld hs.1, h.spent hs.2⟩
  | takeDeaf mode => exact ⟨hheld hs.1, hs.2.1, h.spent hs.2.2⟩
  | join mode due => exact ⟨hs.1, h.spent hs.2⟩
  | start mode => exact ⟨hs.1, h.spent hs.2⟩
  | install mode => exact ⟨hs.1, h.spent hs.2⟩
  | exhausted =>
    obtain ⟨n, hn⟩ := hs
    exact ⟨n, h.spent hn⟩
  | recovery =>
    obtain ⟨n, hn⟩ := hs
    exact ⟨n, h.spent hn⟩
  | polling baseline waited due =>
    obtain ⟨n, hn⟩ := hs
    exact ⟨n, h.spent hn⟩
  | ended =>
    obtain ⟨n, emitted, hn, hp, he⟩ := hs
    refine ⟨n, emitted, h.spent hn, hp, fun hnil hstale => ?_⟩
    have hex := he hnil (h.held hstale).1
    rwa [Excused, ← h.windows, ← h.readings] at hex

theorem same_moveTo (rung : Rung) : Same s (s.moveTo rung) :=
  ⟨rfl, rfl, rfl, rfl, rfl, rfl, fun h => ⟨h, rfl⟩⟩

theorem Climbs.moveTo {rung : Rung} (h : s.At rung) (hr : (s.moveTo rung).rank < s.rank) :
    Climbs s (s.moveTo rung) :=
  ⟨rfl, rfl, rfl, fun _ => rfl, (same_moveTo rung).stand h, hr⟩

/-- A stopped ladder may end silently. -/
theorem Spent.ended {n : ℕ} (h : s.Spent n ((s.restartsUsed + 1) * maxQuietWindows) [])
    (he : s.stale = false → s.Excused) : s.At .ended :=
  ⟨n, [], h.within, List.nil_prefix, fun _ => he⟩

/-- A deaf session is restarted in the next mode, or the ladder is exhausted. -/
theorem act_deaf {health : CaptureHealth} (hd : health = .rxDead ∨ health = .fullyDead)
    (quietWindows : ℕ) :
    (∃ mode, ladderModes[s.restartsUsed]? = some mode ∧ s.act (.verdict health) quietWindows =
        { s with rung := .takeDeaf mode, restarts := s.restarts ++ [mode] }) ∨
      s.act (.verdict health) quietWindows = s.moveTo .exhausted := by
  have hstep : nextLadderStep (.verdict health) s.restartsUsed =
      if s.restartsUsed = 0 then .restart .preferScoped
      else if s.restartsUsed < ladderMaxRestarts then .restart .forcedUnscoped else .exhaust := by
    rcases hd with rfl | rfl <;> rfl
  unfold act
  rw [hstep]
  by_cases h0 : s.restartsUsed = 0
  · rw [if_pos h0]
    exact .inl ⟨.preferScoped, by rw [h0]; rfl, rfl⟩
  · rw [if_neg h0]
    by_cases h2 : s.restartsUsed < ladderMaxRestarts
    · rw [if_pos h2]
      have h1 : s.restartsUsed = 1 := by
        simp only [ladderMaxRestarts] at h2
        omega
      exact .inl ⟨.forcedUnscoped, by rw [h1]; rfl, rfl⟩
    · rw [if_neg h2]
      exact .inr rfl

/-- The restart of a deaf session, under a rank that leaves room for it. -/
theorem climbs_deaf {health : CaptureHealth} (hd : health = .rxDead ∨ health = .fullyDead)
    {quietWindows : ℕ} (h : s.Spent s.restartsUsed ((s.restartsUsed + 1) * maxQuietWindows) [])
    (hheld : s.Held) (hr : 120 * (ladderMaxRestarts - s.restartsUsed) + 165 < s.rank) :
    Climbs s (s.act (.verdict health) quietWindows) := by
  rcases act_deaf hd quietWindows with ⟨mode, hm, he⟩ | he
  · rw [he]
    have hbegun : s.restarts ++ [mode] = ladderModes.take (s.restartsUsed + 1) := by
      rw [List.take_add_one, hm, h.restarts]
      rfl
    exact ⟨rfl, rfl, rfl, fun _ => rfl,
      ⟨hheld, hm, ⟨hbegun, h.installed, h.used, h.windows, h.emitted⟩⟩, hr⟩
  · rw [he]
    refine .moveTo ⟨_, h.within⟩ ?_
    change 153 < s.rank
    omega

theorem climbs_evaluate {quietWindows : ℕ} {solicitation : Solicitation} (deltas : ℕ × ℕ)
    (hr : s.rung = .window quietWindows solicitation) (h : s.At s.rung) :
    Climbs s (s.evaluate quietWindows deltas) := by
  rw [hr] at h
  obtain ⟨hq, hheld, hspent⟩ := h
  -- the attempt has room for the window just evaluated
  let t : Ladder := { s with windowAfter := some s.clock, windows := s.windows ++ [deltas] }
  have hcount : t.windows.length ≤ t.restartsUsed * maxQuietWindows + (quietWindows + 1) := by
    have hw := hspent.windows
    simp only [t, List.length_append, List.length_singleton]
    omega
  have ht : t.Spent t.restartsUsed ((t.restartsUsed + 1) * maxQuietWindows) [] := by
    refine ⟨hspent.restarts, hspent.installed, hspent.used, ?_, hspent.emitted⟩
    rw [Nat.add_mul, Nat.one_mul]
    omega
  have hrank : t.rank = 120 * (ladderMaxRestarts - t.restartsUsed) +
      3 * (maxQuietWindows - quietWindows) + 170 := by
    simp only [rank, t, hr, Rung.rank]
  have hc : Climbs t (t.act (.verdict (captureHealth deltas.1 deltas.2)) quietWindows) := by
    cases hh : captureHealth deltas.1 deltas.2 with
    | healthy =>
      refine .moveTo (ht.ended fun _ => .inl ⟨deltas, ?_, hh⟩) ?_
      · exact List.mem_append_right _ (List.mem_singleton_self _)
      · rw [hrank]
        exact Nat.succ_pos _
    | quiet =>
      change Climbs t (if quietWindows + 1 ≥ maxQuietWindows then t.moveTo .linkState
        else t.moveTo (.counters (quietWindows + 1)))
      split
      · refine .moveTo ⟨hheld, ht⟩ ?_
        rw [hrank]
        change 120 * (ladderMaxRestarts - t.restartsUsed) + 169 < _
        omega
      · next hlt =>
        refine .moveTo ⟨Nat.lt_of_not_ge hlt, hheld, ht.restarts, ht.installed, ht.used, hcount,
          ht.emitted⟩ ?_
        rw [hrank]
        change 120 * (ladderMaxRestarts - t.restartsUsed) +
          3 * (maxQuietWindows - (quietWindows + 1)) + 172 < _
        omega
    | rxDead => exact climbs_deaf (.inl rfl) ht hheld (by omega)
    | fullyDead => exact climbs_deaf (.inr rfl) ht hheld (by omega)
  exact ⟨hc.stale, hc.shutdown, hc.taken, hc.installed, hc.stands, hc.lower⟩

theorem climbs_confirmLink (linkUp : Option Bool) (hr : s.rung = .linkState)
    (h : s.At s.rung) : Climbs s (s.confirmLink linkUp) := by
  rw [hr] at h
  obtain ⟨hheld, hspent⟩ := h
  let t : Ladder := { s with readings := s.readings ++ [linkUp] }
  have ht : t.Spent t.restartsUsed ((t.restartsUsed + 1) * maxQuietWindows) [] :=
    ⟨hspent.restarts, hspent.installed, hspent.used, hspent.windows, hspent.emitted⟩
  have hrank : t.rank = 120 * (ladderMaxRestarts - t.restartsUsed) + 169 := by
    simp only [rank, t, hr, Rung.rank]
  have hc : Climbs t (s.confirmLink linkUp) := by
    unfold confirmLink
    by_cases hup : linkUp = some true
    · rw [show quietExhaustEvent linkUp = some .fullyDead from if_pos hup]
      exact climbs_deaf (.inr rfl) ht hheld (by omega)
    · rw [show quietExhaustEvent linkUp = none from if_neg hup]
      refine .moveTo (ht.ended fun _ => .inr ⟨linkUp, ?_, hup⟩) ?_
      · exact List.mem_append_right _ (List.mem_singleton_self _)
      · rw [hrank]
        exact Nat.succ_pos _
  exact ⟨hc.stale, hc.shutdown, hc.taken, hc.installed, hc.stands, hc.lower⟩

theorem climbs_installSession {mode : CaptureMode} (hr : s.rung = .install mode)
    (h : s.At s.rung) : Climbs s (s.installSession mode) := by
  rw [hr] at h
  obtain ⟨hm, hspent⟩ := h
  have hused := used_lt hm
  have hrank : s.rank = 120 * (ladderMaxRestarts - s.restartsUsed) + 162 := by
    simp only [rank, hr, Rung.rank]
  unfold installSession
  split
  · next hs =>
    refine .moveTo ⟨_, [], hspent.within, List.nil_prefix, fun _ hn => ?_⟩ ?_
    · rw [hs] at hn
      cases hn
    · rw [hrank]
      exact Nat.succ_pos _
  · next hs =>
    have hinstalled : s.installed ++ [mode] = ladderModes.take (s.restartsUsed + 1) := by
      rw [List.take_add_one, hm, hspent.installed]
      rfl
    refine ⟨rfl, rfl, rfl, fun hstale => absurd hstale hs,
      ⟨⟨hspent.restarts, hinstalled, hused, hspent.windows, hspent.emitted⟩, fun _ => rfl⟩, ?_⟩
    rw [hrank]
    change 120 * (ladderMaxRestarts - (s.restartsUsed + 1)) + 270 < _
    omega

theorem climbs_pollOnce {baseline waited due : ℕ} (framesSeen : ℕ)
    (hr : s.rung = .polling baseline waited due) (h : s.At s.rung) :
    Climbs s (s.pollOnce baseline waited framesSeen) := by
  rw [hr] at h
  obtain ⟨n, hspent⟩ := h
  have hrank : s.rank = (maxWatch - waited) / poll + 1 := by
    simp only [rank, hr, Rung.rank]
  unfold pollOnce
  split
  · refine ⟨rfl, rfl, rfl, fun _ => rfl, ⟨n, [.degraded, .recovered], ?_, List.prefix_rfl,
      fun he => (List.cons_ne_nil _ _ he).elim⟩, ?_⟩
    · refine ⟨hspent.restarts, hspent.installed, hspent.used, hspent.windows, ?_⟩
      change s.emitted ++ [.recovered] = _
      rw [hspent.emitted]
      rfl
    · rw [hrank]
      exact Nat.succ_pos _
  · split
    · next hlt =>
      refine .moveTo ⟨n, hspent⟩ ?_
      rw [hrank]
      change (maxWatch - (waited + poll)) / poll + 1 < _
      simp only [maxWatch, poll] at hlt ⊢
      omega
    · refine .moveTo ⟨n, [.degraded], hspent, ⟨[.recovered], rfl⟩,
        fun he => (List.cons_ne_nil _ _ he).elim⟩ ?_
      rw [hrank]
      exact Nat.succ_pos _

/-- The rungs at which a stop ends the ladder. -/
theorem climbs_cancelled {n : ℕ} (hspent : s.Spent n ((s.restartsUsed + 1) * maxQuietWindows) [])
    (hstop : s.stale = true) (hr : 0 < s.rank) : Climbs s (s.moveTo .ended) := by
  refine .moveTo (hspent.ended fun hn => ?_) hr
  rw [hstop] at hn
  cases hn

theorem Spent.mono {w' : ℕ} (h : s.Spent begun w emitted) (hw : w ≤ w') :
    s.Spent begun w' emitted :=
  ⟨h.restarts, h.installed, h.used, Nat.le_trans h.windows hw, h.emitted⟩

/-- An attempt that is not over has windows left. -/
theorem Spent.attempt {q : ℕ} (h : s.Spent begun (s.restartsUsed * maxQuietWindows + q) emitted)
    (hq : q ≤ maxQuietWindows) :
    s.Spent begun ((s.restartsUsed + 1) * maxQuietWindows) emitted := by
  refine h.mono ?_
  rw [Nat.add_mul, Nat.one_mul]
  omega

theorem climbs_activated (activation : Activation) {due : ℕ} (hr : s.rung = .activation due)
    (h : s.At s.rung) (hs : s.activated activation = some s') : Climbs s s' := by
  rw [hr] at h
  obtain ⟨hspent, hheld⟩ := h
  have hlast := Spent.attempt (q := 0) hspent (Nat.zero_le _)
  have hrank : s.rank = 120 * (ladderMaxRestarts - s.restartsUsed) + 270 := by
    simp only [rank, hr, Rung.rank]
  have hexhausted : Climbs s (s.moveTo .exhausted) := by
    refine .moveTo ⟨_, hlast.within⟩ ?_
    rw [hrank]
    change 153 < _
    omega
  cases activation with
  | pending => cases hs
  | failed =>
    cases hs
    exact hexhausted
  | closed =>
    cases hs
    exact hexhausted
  | confirmed scope =>
    cases hs
    split
    · next hstop => exact climbs_cancelled hlast hstop.2 (by omega)
    · refine .moveTo ⟨by decide, hheld, hspent⟩ ?_
      rw [hrank]
      change 120 * (ladderMaxRestarts - s.restartsUsed) + 3 * maxQuietWindows + 172 < _
      simp only [maxQuietWindows]
      omega

theorem climb_spec {generation : ℕ} {input : LadderInput} (h : s.At s.rung)
    (hstop : s.shutdown = true → s.stale = true) (hs : s.climb generation input = some s') :
    s' = s ∨ Climbs s s' := by
  unfold climb at hs
  split at hs
  · next due hr =>
    rw [hr] at h
    split at hs
    · next hshut =>
      cases hs
      exact .inr (climbs_cancelled (Spent.attempt (q := 0) h.1 (Nat.zero_le _)) (hstop hshut)
        (by simp only [rank, hr, Rung.rank]; omega))
    · cases hs
  · next due activation hr => exact .inr (climbs_activated activation hr h hs)
  · next due hr =>
    rw [hr] at h
    split at hs
    · cases hs
      exact .inr (.moveTo h.1 (by simp only [rank, hr, moveTo, Rung.rank]; omega))
    · cases hs
  · next hr =>
    rw [hr] at h
    cases hs
    have hlast := (Spent.attempt (q := 0) h (Nat.zero_le _)).within
    refine .inr ⟨rfl, rfl, rfl, fun _ => rfl, ⟨s.restartsUsed, hlast.restarts, hlast.installed,
      hlast.used, hlast.windows, hlast.emitted⟩, ?_⟩
    simp only [rank, hr, Rung.rank]
    change 153 < _
    omega
  · next quietWindows hr =>
    rw [hr] at h
    obtain ⟨hq, hheld, hspent⟩ := h
    cases hs
    right
    split
    · exact .moveTo ⟨hq, hheld, hspent⟩ (by simp only [rank, hr, moveTo, Rung.rank]; omega)
    · next hslot =>
      -- only a stop empties the slot of a session that is watched
      refine .moveTo ((hspent.attempt (Nat.le_of_lt hq)).ended fun hn => absurd (hheld hn) hslot) ?_
      simp only [rank, hr, moveTo, Rung.rank]
      omega
  · next quietWindows hr =>
    rw [hr] at h
    split at hs
    · next hshut =>
      cases hs
      exact .inr (climbs_cancelled (h.2.2.attempt (Nat.le_of_lt h.1)) (hstop hshut)
        (by simp only [rank, hr, Rung.rank]; omega))
    · cases hs
  · next quietWindows value hr =>
    rw [hr] at h
    split at hs
    · cases hs
      exact .inr (.moveTo h (by simp only [rank, hr, moveTo, Rung.rank]; omega))
    · cases hs
      exact .inl rfl
  · next quietWindows solicitation hr =>
    rw [hr] at h
    split at hs
    · next hshut =>
      cases hs
      exact .inr (climbs_cancelled (h.2.2.attempt (Nat.le_of_lt h.1)) (hstop hshut)
        (by simp only [rank, hr, Rung.rank]; omega))
    · cases hs
  · next quietWindows solicitation now hr =>
    split at hs
    · cases hs
      exact .inr (climbs_evaluate _ hr h)
    · cases hs
  · next linkUp hr =>
    cases hs
    exact .inr (climbs_confirmLink linkUp hr h)
  · next mode hr =>
    rw [hr] at h
    obtain ⟨hheld, hm, hspent⟩ := h
    cases hs
    right
    split
    · refine ⟨rfl, rfl, rfl, fun _ => rfl, ⟨hm, hspent.restarts, hspent.installed, hspent.used,
        hspent.windows, hspent.emitted⟩, ?_⟩
      simp only [rank, hr, Rung.rank]
      omega
    · next hslot =>
      refine .moveTo (hspent.ended fun hn => absurd (hheld hn) hslot) ?_
      simp only [rank, hr, moveTo, Rung.rank]
      omega
  · next mode due hr =>
    rw [hr] at h
    cases hs
    exact .inr (.moveTo h (by simp only [rank, hr, moveTo, Rung.rank]; omega))
  · next mode due hr =>
    rw [hr] at h
    split at hs
    · cases hs
      have hexhausted : s.At .exhausted := ⟨_, h.2.within⟩
      refine .inr (.moveTo hexhausted ?_)
      simp only [rank, hr, moveTo, Rung.rank]
      omega
    · cases hs
  · next mode started hr =>
    rw [hr] at h
    cases hs
    right
    split
    · exact .moveTo h (by simp only [rank, hr, moveTo, Rung.rank]; omega)
    · have hexhausted : s.At .exhausted := ⟨_, h.2.within⟩
      refine .moveTo hexhausted ?_
      simp only [rank, hr, moveTo, Rung.rank]
      omega
  · next mode hr =>
    cases hs
    exact .inr (climbs_installSession hr h)
  · next hr =>
    rw [hr] at h
    obtain ⟨n, hspent⟩ := h
    cases hs
    refine .inr ⟨rfl, rfl, rfl, fun _ => rfl, ⟨n, hspent.restarts, hspent.installed, hspent.used,
      hspent.windows, ?_⟩, ?_⟩
    · change s.emitted ++ [.degraded] = _
      rw [hspent.emitted]
      rfl
    · simp only [rank, hr, Rung.rank]
      omega
  · next now hr =>
    rw [hr] at h
    cases hs
    right
    split
    · refine .moveTo h ?_
      simp only [rank, hr, moveTo, Rung.rank, maxWatch, poll]
      omega
    · obtain ⟨n, hspent⟩ := h
      refine .moveTo ⟨n, [.degraded], hspent, ⟨[.recovered], rfl⟩,
        fun he => (List.cons_ne_nil _ _ he).elim⟩ ?_
      simp only [rank, hr, moveTo, Rung.rank]
      omega
  · next baseline waited due hr =>
    rw [hr] at h
    obtain ⟨n, hspent⟩ := h
    split at hs
    · cases hs
      refine .inr (.moveTo ⟨n, [.degraded], hspent, ⟨[.recovered], rfl⟩,
        fun he => (List.cons_ne_nil _ _ he).elim⟩ ?_)
      simp only [rank, hr, moveTo, Rung.rank]
      exact Nat.succ_pos _
    · cases hs
  · next baseline waited due now hr =>
    split at hs
    · cases hs
      exact .inr (climbs_pollOnce _ hr h)
    · cases hs
  · cases hs

/-- What holds in every state: what is known at the rung, and no stop without a stale fence. -/
structure Stands (s : Ladder) : Prop where
  rung : s.At s.rung
  stopped : s.shutdown = true ∨ s.taken = true → s.stale = true

theorem Stands.initial : Stands initial :=
  ⟨⟨⟨rfl, rfl, Nat.zero_le _, Nat.le_refl _, rfl⟩, fun _ => rfl⟩, fun h => by simp [Ladder.initial] at h⟩

theorem rank_pos (h : s.rung ≠ .ended) : 0 < s.rank := by
  unfold rank
  cases hr : s.rung with
  | ended => exact absurd hr h
  | polling baseline waited due => exact Nat.succ_pos _
  | _ =>
    simp only [Rung.rank]
    omega

/-- At every rung the budget holds. -/
theorem within_of_at {rung : Rung} (h : s.At rung) : ∃ n emitted,
    s.Spent n ((ladderMaxRestarts + 1) * maxQuietWindows) emitted ∧
      emitted <+: [.degraded, .recovered] := by
  cases rung with
  | activation due =>
    exact ⟨_, [], (Spent.attempt (q := 0) h.1 (Nat.zero_le _)).within, List.nil_prefix⟩
  | parkUnconfirmed =>
    exact ⟨_, [], (Spent.attempt (q := 0) h (Nat.zero_le _)).within, List.nil_prefix⟩
  | counters quietWindows =>
    exact ⟨_, [], (h.2.2.attempt (Nat.le_of_lt h.1)).within, List.nil_prefix⟩
  | solicitation quietWindows =>
    exact ⟨_, [], (h.2.2.attempt (Nat.le_of_lt h.1)).within, List.nil_prefix⟩
  | window quietWindows solicitation =>
    exact ⟨_, [], (h.2.2.attempt (Nat.le_of_lt h.1)).within, List.nil_prefix⟩
  | linkState => exact ⟨_, [], h.2.within, List.nil_prefix⟩
  | takeDeaf mode => exact ⟨_, [], h.2.2.within, List.nil_prefix⟩
  | join mode due => exact ⟨_, [], h.2.within, List.nil_prefix⟩
  | start mode => exact ⟨_, [], h.2.within, List.nil_prefix⟩
  | install mode => exact ⟨_, [], h.2.within, List.nil_prefix⟩
  | exhausted =>
    obtain ⟨n, hn⟩ := h
    exact ⟨n, [], hn, List.nil_prefix⟩
  | recovery =>
    obtain ⟨n, hn⟩ := h
    exact ⟨n, [.degraded], hn, ⟨[.recovered], rfl⟩⟩
  | polling baseline waited due =>
    obtain ⟨n, hn⟩ := h
    exact ⟨n, [.degraded], hn, ⟨[.recovered], rfl⟩⟩
  | ended =>
    obtain ⟨n, emitted, hn, hp, -⟩ := h
    exact ⟨n, emitted, hn, hp⟩

/-- What one step does to the invariant, the rank and, under a stale fence, the slot. -/
structure Steps (s s' : Ladder) : Prop where
  stands : Stands s'
  spent : (if turn s s' then 1 else 0) + s'.rank ≤ s.rank
  refused : s.stale = true → s'.stale = true ∧ s'.installed = s.installed

theorem Climbs.steps (h : Climbs s s') (hs : Stands s) : Steps s s' where
  stands := ⟨h.stands, by rw [h.stale, h.shutdown, h.taken]; exact hs.stopped⟩
  spent := by
    have hl := h.lower
    split <;> omega
  refused hn := ⟨h.stale.trans hn, h.installed hn⟩

theorem Same.steps (h : Same s s') (hs : Stands s) (hr : s'.rung = s.rung)
    (hstop : s'.shutdown = true ∨ s'.taken = true → s'.stale = true)
    (hn : s.stale = true → s'.stale = true) : Steps s s' where
  stands := ⟨hr ▸ h.stand hs.rung, hstop⟩
  spent := by
    simp [turn, rank, hr, h.used]
  refused hstale := ⟨hn hstale, h.installed⟩

theorem steps_abort (h : Stands s) (hstop : s.stale = true) : Steps s (s.moveTo .ended) where
  stands := by
    obtain ⟨n, emitted, hspent, hp⟩ := within_of_at h.rung
    have hat : s.At .ended :=
      ⟨n, emitted, hspent, hp, fun _ hn => absurd (hstop.symm.trans hn) nofun⟩
    exact ⟨(same_moveTo .ended).stand hat, h.stopped⟩
  spent := by
    by_cases hr : s.rung = .ended
    · simp [turn, rank, moveTo, hr]
    · have hpos := rank_pos hr
      have hend : (s.moveTo .ended).rank = 0 := rfl
      split <;> omega
  refused hn := ⟨hn, rfl⟩

theorem step_spec {generation : ℕ} {input : LadderInput} (h : Stands s)
    (hs : step generation s input = some s') : Steps s s' := by
  unfold step at hs
  split at hs
  · cases hs
    exact Same.steps ⟨rfl, rfl, rfl, rfl, rfl, rfl, fun hn => ⟨hn, rfl⟩⟩ h rfl h.stopped id
  · cases hs
    exact Same.steps ⟨rfl, rfl, rfl, rfl, rfl, rfl, nofun⟩ h rfl (fun _ => rfl) fun _ => rfl
  · split at hs
    · next hstale =>
      cases hs
      exact Same.steps ⟨rfl, rfl, rfl, rfl, rfl, rfl, fun hn => ⟨hn, rfl⟩⟩ h rfl
        (fun _ => hstale) id
    · cases hs
  · split at hs
    · next hstale =>
      cases hs
      refine Same.steps ⟨rfl, rfl, rfl, rfl, rfl, rfl, fun hn => ?_⟩ h rfl (fun _ => hstale.1) id
      exact absurd (hstale.1.symm.trans hn) nofun
    · cases hs
  · split at hs
    · next hshut =>
      cases hs
      exact steps_abort h (h.stopped (.inl hshut))
    · cases hs
  · rcases climb_spec h.rung (fun hn => h.stopped (.inl hn)) hs with rfl | hc
    · exact Same.steps ⟨rfl, rfl, rfl, rfl, rfl, rfl, fun hn => ⟨hn, rfl⟩⟩ h rfl h.stopped id
    · exact hc.steps h

theorem ranked (generation : ℕ) : (machine generation).Ranked Stands turn rank where
  kept _ _ _ h hs := (step_spec h hs).stands
  spent _ _ _ h hs := (step_spec h hs).spent

/-- Under a stale fence no session is installed. -/
theorem run_refused {generation : ℕ} {calls : List LadderInput} (h : Stands s)
    (hn : s.stale = true) (hr : (machine generation).run s calls = some s') :
    s'.installed = s.installed := by
  induction calls generalizing s with
  | nil =>
    cases hr
    rfl
  | cons call calls ih =>
    obtain ⟨s₁, hs, hr⟩ := Option.bind_eq_some_iff.mp hr
    have hstep := step_spec h hs
    obtain ⟨hn₁, he⟩ := hstep.refused hn
    exact (ih hstep.stands hn₁ hr).trans he

theorem Stands.degraded (h : Stands s) (hend : s.rung = .ended) (hn : s.stale = false)
    (hex : ¬s.Excused) : .degraded ∈ s.emitted := by
  have hat := h.rung
  rw [hend] at hat
  obtain ⟨n, emitted, hspent, hp, hlaw⟩ := hat
  rw [hspent.emitted]
  cases emitted with
  | nil => exact absurd (hlaw rfl hn) hex
  | cons e rest =>
    rw [(List.cons_prefix_cons.mp hp).1]
    exact List.mem_cons_self

/-- An input moves the ladder, after some time. -/
theorem moves_after {generation : ℕ} (time : ℕ) (input : LadderInput)
    (hs : (machine generation).step { s with clock := s.clock + time } input = some s')
    (hm : s'.rung ≠ s.rung) :
    ∃ calls s', (machine generation).run s calls = some s' ∧ turn s s' = true := by
  refine ⟨[.elapse time, input], s', ?_, bne_iff_ne.mpr hm⟩
  change ((machine generation).step { s with clock := s.clock + time } input).bind some = some s'
  rw [hs]
  rfl

theorem evaluate_moves {quietWindows q : ℕ} {deltas : ℕ × ℕ} {solicitation : Solicitation} :
    (s.evaluate quietWindows deltas).rung ≠ .window q solicitation := by
  unfold evaluate act
  split
  · exact nofun
  · exact nofun
  · split <;> exact nofun
  · exact nofun
  · exact nofun

/-- Every wait of the ladder may end, and moves it. -/
theorem not_stuck (generation : ℕ) (h : s.rung ≠ .ended) : ∃ calls s',
    (machine generation).run s calls = some s' ∧ turn s s' = true := by
  obtain ⟨rung, used, after, slot, stale, shutdown, taken, clock, restarts, installed, windows,
    readings, emitted⟩ := s
  cases rung with
  | activation due => exact moves_after 0 (.activated .failed) rfl nofun
  | parkUnconfirmed => exact moves_after 0 .next rfl nofun
  | counters quietWindows =>
    refine moves_after 0 .next rfl ?_
    split <;> exact nofun
  | solicitation quietWindows =>
    -- a probe of this session, sent once the last window is over
    let probe : Solicitation := ⟨generation, clock + after.getD 0, ⟨0, 0⟩⟩
    have harms : probe.arms generation after = true := by
      cases after <;> simp [Solicitation.arms, probe]
    let t : Ladder := ⟨.solicitation quietWindows, used, after, slot, stale, shutdown, taken,
      clock + after.getD 0, restarts, installed, windows, readings, emitted⟩
    have hstep : (machine generation).step t (.solicited (some probe)) =
        some (t.moveTo (.window quietWindows probe)) := by
      simp [machine, step, climb, t, Option.filter, harms]
    exact moves_after (after.getD 0) _ hstep nofun
  | window quietWindows solicitation =>
    obtain ⟨due, hdue⟩ : ∃ due, solicitation.instant + initialWindow ≤ clock + due :=
      ⟨_, Nat.le_add_left _ _⟩
    exact moves_after due (.sampled ⟨0, 0⟩) (if_pos hdue) evaluate_moves
  | linkState => exact moves_after 0 (.link none) rfl nofun
  | takeDeaf mode =>
    refine moves_after 0 .next rfl ?_
    split <;> exact nofun
  | join mode due => exact moves_after 0 .joined rfl nofun
  | start mode => exact moves_after 0 (.restarted false) rfl nofun
  | install mode =>
    refine moves_after 0 .next rfl ?_
    unfold installSession
    split <;> exact nofun
  | exhausted => exact moves_after 0 .next rfl nofun
  | recovery =>
    refine moves_after 0 (.sampled ⟨0, 0⟩) rfl ?_
    split <;> exact nofun
  | polling baseline waited due =>
    have hdue : due ≤ clock + due := Nat.le_add_left _ _
    refine moves_after due (.sampled ⟨baseline + 1, 0⟩) (if_pos hdue) ?_
    simp only [pollOnce, if_pos (Nat.lt_succ_self _)]
    exact nofun
  | ended => exact absurd rfl h

/-- The ladder ends within its budget, and reports what it could not heal unless a stop won. -/
theorem watchdog_ladder_budget {generation : ℕ} {calls : List LadderInput} {s : Ladder}
    (h : (machine generation).run initial calls = some s) :
    s.restarts <+: [.preferScoped, .forcedUnscoped] ∧
      s.installed <+: [.preferScoped, .forcedUnscoped] ∧
      s.windows.length ≤ (ladderMaxRestarts + 1) * maxQuietWindows ∧
      s.emitted <+: [.degraded, .recovered] ∧
      (s.rung = .ended → s.stale = false →
        (∀ d ∈ s.windows, captureHealth d.1 d.2 ≠ .healthy) →
        (∀ l ∈ s.readings, l = some true) → .degraded ∈ s.emitted) ∧
      (s.shutdown = true ∨ s.taken = true → ∀ calls' s',
        (machine generation).run s calls' = some s' → s'.installed = s.installed) ∧
      (machine generation).turns turn initial calls ≤ 510 ∧
      (s.rung ≠ .ended → ∃ calls' s',
        (machine generation).run s calls' = some s' ∧ turn s s' = true) := by
  have hs : Stands s := (ranked generation).inv .initial h
  obtain ⟨n, emitted, hspent, hemitted⟩ := within_of_at hs.rung
  refine ⟨?_, ?_, hspent.windows, ?_, fun hend hn hdeaf hup => ?_, fun hstop calls' s' hr => ?_, ?_,
    not_stuck generation⟩
  · rw [hspent.restarts]
    exact List.take_prefix n ladderModes
  · rw [hspent.installed]
    exact List.take_prefix s.restartsUsed ladderModes
  · rw [hspent.emitted]
    exact hemitted
  · refine hs.degraded hend hn ?_
    rintro (⟨d, hd, hh⟩ | ⟨l, hl, hh⟩)
    · exact hdeaf d hd hh
    · exact hh (hup l hl)
  · exact run_refused hs (hs.stopped hstop) hr
  · exact Nat.le_trans (Nat.le_add_right _ _) ((ranked generation).turns_le .initial h)

/-- A session that stays deaf, and its thread does not exit. -/
def wedgedRun : List LadderInput :=
  [.activated (.confirmed (.selectedInterface none)), .next, .solicited (some ⟨1, 0, ⟨3, 4⟩⟩),
    .elapse 10000, .sampled ⟨3, 9⟩, .next, .elapse 10000, .timeout, .next, .sampled ⟨0, 0⟩]

theorem watchdog_ladder_budget_wedged :
    ∃ s, (machine 1).run initial wedgedRun = some s ∧ .degraded ∈ s.emitted := by
  refine ⟨_, rfl, ?_⟩
  have h := @watchdog_ladder_budget 1 wedgedRun _ rfl
  exact h.2.2.2.2.1 rfl rfl (by decide) (by decide)

/-- A stop ends the ladder without a report, however deaf the session is. -/
theorem watchdog_ladder_stopped : ¬∀ (generation : ℕ) (calls : List LadderInput) (s : Ladder),
    (machine generation).run initial calls = some s → s.rung = .ended →
      (∀ d ∈ s.windows, captureHealth d.1 d.2 ≠ .healthy) →
      (∀ l ∈ s.readings, l = some true) → .degraded ∈ s.emitted := by
  intro h
  have hin := h 1 [.fence, .signal, .cancel] _ rfl rfl nofun nofun
  cases hin

end Ladder

end Capture

end PocketStream
