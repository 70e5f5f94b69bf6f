import PocketStream.Streaming.RelayOwnership

/-! # The moves of the relay

Each kind of change that a step makes to the view, with the invariant it keeps
and what the other operations may go on relying on.
-/

namespace PocketStream

/-- The histories differ only in what the ownership does not depend on. -/
structure RelayTrack.Same (h h' : RelayTrack) : Prop where
  claims : h'.claims = h.claims
  claimOf : h'.claimOf = h.claimOf
  builtFor : h'.builtFor = h.builtFor
  storedBy : h'.storedBy = h.storedBy
  supervisor : h'.supervisor = h.supervisor
  recovering : h'.recovering = h.recovering

namespace RelayTrack

theorem Same.refl (h : RelayTrack) : h.Same h := ⟨rfl, rfl, rfl, rfl, rfl, rfl⟩

theorem same_settle (h : RelayTrack) (t : ℕ) : h.Same (h.settle t) := ⟨rfl, rfl, rfl, rfl, rfl, rfl⟩

theorem Same.ite {h h₁ h₂ : RelayTrack} {p : Prop} [Decidable p] (h1 : h.Same h₁)
    (h2 : h.Same h₂) : h.Same (if p then h₁ else h₂) := by
  split
  · exact h1
  · exact h2

end RelayTrack

namespace RelayView

variable {v : RelayView} {t u : ℕ}

theorem Rely.trans {v₁ v₂ v₃ : RelayView} (h : Rely u v₁ v₂) (h' : Rely u v₂ v₃) : Rely u v₁ v₃ where
  claims := Nat.le_trans h.claims h'.claims
  claimOf := h'.claimOf.trans h.claimOf
  newest hs hk hc hd := by
    have h1 := h.claims
    have h2 := h'.claims
    have h3 : v₂.track.claims = v₁.track.claims := by omega
    refine h'.newest (fun hs' => hs (h.supervisor.mp hs')) ?_ (by omega) (h.newest hs hk h3 hd)
    rw [h.claimOf, hk, h3]
  installed := Nat.le_trans h.installed h'.installed
  generations k hk :=
    (h'.generations k (Nat.lt_of_lt_of_le hk h.installed)).trans (h.generations k hk)
  dead g k hd := h'.dead g k (h.dead g k hd)
  gate := h'.gate.trans h.gate
  held hl := by
    obtain ⟨h1, h2, h3, h4⟩ := h.held hl
    obtain ⟨h1', h2', h3', h4'⟩ := h'.held (h.gate.mpr hl)
    exact ⟨h1'.trans h1, h2'.trans h2, h3'.trans h3, h4'.trans h4⟩
  supervisor := h'.supervisor.trans h.supervisor
  recovering hs := (h'.recovering (h.supervisor.mpr hs)).trans (h.recovering hs)

/-! ### The history -/

def retrack (v : RelayView) (k : RelayTrack) : RelayView := { v with track := k }

theorem Owned.retrack {k : RelayTrack} (hv : v.Owned) (hk : v.track.Same k) :
    (v.retrack k).Owned :=
  { hv with
    epoch := hk.claims ▸ hv.epoch
    storedBy := by
      have := hv.storedBy
      change k.storedBy ≤ k.claims
      rwa [hk.storedBy, hk.claims]
    recovering := fun e g h => hv.recovering e g (hk.recovering ▸ h)
    supervised := fun h => hk.supervisor.trans (hv.supervised h)
    claimed := fun t n h => by
      change n ≤ k.claims
      rw [hk.claims]
      exact hv.claimed t n (hk.claimOf ▸ h)
    claimant := fun t u n ht hu hst hsu =>
      hv.claimant t u n (hk.claimOf ▸ ht) (hk.claimOf ▸ hu) (hk.supervisor ▸ hst)
        (hk.supervisor ▸ hsu) }

theorem Rely.retrack {k : RelayTrack} (hk : v.track.Same k) : Rely u v (v.retrack k) :=
  { Rely.refl v u with
    claims := Nat.le_of_eq hk.claims.symm
    claimOf := congrFun hk.claimOf u
    newest := fun _ _ _ h => h
    dead := fun g n hd => ⟨hd.1, hd.2.1, fun l hl hg => hk.storedBy ▸ hd.2.2 l hl hg⟩
    held := fun _ => ⟨rfl, rfl, hk.storedBy, hk.builtFor⟩
    supervisor := by
      change k.supervisor = some u ↔ _
      rw [hk.supervisor]
    recovering := fun _ => hk.recovering }

theorem Owned.claim (hv : v.Owned) (hb : v.track.claims + 1 < 2 ^ 64) :
    { v with epoch := v.epoch + 1, track := v.track.claim t }.Owned :=
  { hv with
    epoch := by
      change (v.epoch + 1).toNat = v.track.claims + 1
      rw [UInt64.toNat_add, hv.epoch, UInt64.toNat_one, Nat.mod_eq_of_lt hb]
    storedBy := Nat.le_succ_of_le hv.storedBy
    claimed := fun u k hu => by
      change k ≤ v.track.claims + 1
      rcases eq_or_ne u t with rfl | hne
      · simp only [RelayTrack.claim, Function.update_self, Option.some.injEq] at hu
        omega
      · simp only [RelayTrack.claim, Function.update_of_ne hne] at hu
        exact Nat.le_succ_of_le (hv.claimed u k hu)
    claimant := fun u w k hu hw hsu hsw => by
      simp only [RelayTrack.claim] at hu hw
      rcases eq_or_ne u t with hut | hut <;> rcases eq_or_ne w t with hwt | hwt
      · exact hut.trans hwt.symm
      · rw [hut, Function.update_self, Option.some.injEq] at hu
        rw [Function.update_of_ne hwt] at hw
        have := hv.claimed w k hw
        omega
      · rw [hwt, Function.update_self, Option.some.injEq] at hw
        rw [Function.update_of_ne hut] at hu
        have := hv.claimed u k hu
        omega
      · rw [Function.update_of_ne hut] at hu
        rw [Function.update_of_ne hwt] at hw
        exact hv.claimant u w k hu hw hsu hsw }

theorem Rely.claim (hu : u ≠ t) :
    Rely u v { v with epoch := v.epoch + 1, track := v.track.claim t } :=
  { Rely.refl v u with
    claims := Nat.le_succ _
    claimOf := Function.update_of_ne hu _ _
    newest := fun _ _ hc => absurd hc (Nat.succ_ne_self _) }

/-! ### Health records -/

section Health

variable {hs : ℕ → RelayHealth}

def rehealth (v : RelayView) (hs : ℕ → RelayHealth) : RelayView := { v with healths := hs }

theorem healthGeneration_rehealth (hg : ∀ h, (hs h).serverGeneration = v.generationOf h) :
    (v.rehealth hs).healthGeneration = v.healthGeneration := by
  have hf : (v.rehealth hs).generationOf = v.generationOf := funext hg
  unfold healthGeneration
  rw [hf]
  rfl

/-- The records change and keep their generations, and a current one that the stored listener
does not report to stays untouched. -/
theorem Owned.rehealth (hv : v.Owned) (hg : ∀ h, (hs h).serverGeneration = v.generationOf h)
    (hp : ∀ l h, v.stored = some l → v.health = some h → l.health ≠ h → (v.healths h).Pristine →
      (hs h).Pristine) : (v.rehealth hs).Owned :=
  { hv with
    generations := fun h hh => by
      change (hs h).serverGeneration.toNat = h + 1
      rw [hg]
      exact hv.generations h hh
    listeners := fun l hl => ⟨(hv.listeners l hl).1, (hv.listeners l hl).2.trans (hg _).symm⟩
    uncleared := fun l h hl hh hne => hp l h hl hh hne (hv.uncleared l h hl hh hne)
    recovering := fun e g h => by
      obtain ⟨hle, hc⟩ := hv.recovering e g h
      refine ⟨hle, fun l hl hgen => hc l hl ?_⟩
      rwa [healthGeneration_rehealth hg] at hgen }

theorem Rely.rehealth (hg : ∀ h, (hs h).serverGeneration = v.generationOf h) :
    Rely u v (v.rehealth hs) :=
  { Rely.refl v u with
    generations := fun h _ => hg h
    dead := fun g k hd => ⟨hd.1, by rw [healthGeneration_rehealth hg]; exact hd.2.1, hd.2.2⟩ }

/-- One record changes. -/
def mark (v : RelayView) (h : ℕ) (f : RelayHealth → RelayHealth) : RelayView :=
  { v with healths := Function.update v.healths h (f (v.healths h)) }

theorem Owned.mark {h : ℕ} {f : RelayHealth → RelayHealth} (hv : v.Owned)
    (hg : (f (v.healths h)).serverGeneration = v.generationOf h)
    (hp : v.Attends h ∨ ((v.healths h).Pristine → (f (v.healths h)).Pristine)) :
    (v.mark h f).Owned := by
  refine hv.rehealth (fun h' => ?_) fun l h' hl hh hne hpr => ?_
  · rcases eq_or_ne h' h with rfl | hne
    · rw [Function.update_self]; exact hg
    · rw [Function.update_of_ne hne]; rfl
  · rcases eq_or_ne h' h with rfl | hne'
    · rw [Function.update_self]
      rcases hp with ha | hp
      · exact absurd (ha l hl hh) hne
      · exact hp hpr
    · rwa [Function.update_of_ne hne']

theorem Rely.mark {h : ℕ} {f : RelayHealth → RelayHealth}
    (hg : (f (v.healths h)).serverGeneration = v.generationOf h) : Rely u v (v.mark h f) := by
  refine Rely.rehealth fun h' => ?_
  rcases eq_or_ne h' h with rfl | hne
  · rw [Function.update_self]; exact hg
  · rw [Function.update_of_ne hne]; rfl

end Health

/-! ### Intents -/

def turnOn (v : RelayView) : RelayView := { v with desired := true }

theorem Owned.turnOn (hv : v.Owned) : v.turnOn.Owned :=
  { hv with idle := fun h => by cases h }

theorem Rely.turnOn : Rely u v v.turnOn :=
  { Rely.refl v u with newest := fun _ _ _ _ => rfl }

def turnOff (v : RelayView) : RelayView := { v with desired := false, health := none }

theorem Owned.turnOff (hv : v.Owned) : v.turnOff.Owned :=
  { hv with
    idle := fun _ => rfl
    health := fun _ h => by cases h
    uncleared := fun _ _ _ h => by cases h
    recovering := fun e g h => ⟨(hv.recovering e g h).1, fun _ _ hg => by cases hg⟩ }

theorem Rely.turnOff (hn : v.track.supervisor ≠ some u → v.track.claimOf u ≠ some v.track.claims) :
    Rely u v v.turnOff :=
  { Rely.refl v u with
    newest := fun hs hk => absurd hk (hn hs)
    dead := fun _ _ hd => ⟨hd.1, by simp [healthGeneration, RelayView.turnOff], hd.2.2⟩ }

/-- A fresh generation becomes the current one. -/
def install (v : RelayView) (kind : RelayIngestKind) : RelayView :=
  { v with
    generation := v.generation + 1
    health := some v.nextHealth
    healths := Function.update v.healths v.nextHealth (.new (v.generation + 1) kind)
    nextHealth := v.nextHealth + 1 }

section Install

variable {kind : RelayIngestKind}

theorem toNat_generation_succ (hv : v.Owned) (hb : v.nextHealth + 1 < 2 ^ 64) :
    (v.generation + 1).toNat = v.nextHealth + 1 := by
  rw [UInt64.toNat_add, hv.generation, UInt64.toNat_one, Nat.mod_eq_of_lt hb]

theorem install_generationOf {h : ℕ} (hh : h < v.nextHealth) :
    (v.install kind).generationOf h = v.generationOf h := by
  simp only [generationOf, install, Function.update_of_ne (Nat.ne_of_lt hh)]

theorem install_generationOf_self :
    (v.install kind).generationOf v.nextHealth = v.generation + 1 := by
  simp only [generationOf, install, Function.update_self, RelayHealth.new]

theorem install_healthGeneration : (v.install kind).healthGeneration = some (v.generation + 1) :=
  congrArg some install_generationOf_self

/-- What existed before is not of the fresh generation. -/
theorem install_fresh (hv : v.Owned) (hb : v.nextHealth + 1 < 2 ^ 64) {g : UInt64}
    (hg : g.toNat ≤ v.nextHealth) : (v.install kind).healthGeneration ≠ some g := by
  rw [install_healthGeneration]
  intro h
  have := congrArg UInt64.toNat (Option.some.inj h)
  rw [toNat_generation_succ hv hb] at this
  omega

theorem Owned.install (hv : v.Owned) (hb : v.nextHealth + 1 < 2 ^ 64) (hd : v.desired = true) :
    (v.install kind).Owned where
  epoch := hv.epoch
  generation := toNat_generation_succ hv hb
  generations h hh := by
    rcases Nat.lt_succ_iff_lt_or_eq.mp hh with hlt | rfl
    · rw [install_generationOf hlt]
      exact hv.generations h hlt
    · rw [install_generationOf_self]
      exact toNat_generation_succ hv hb
  idle h := by
    change v.desired = false at h
    rw [hd] at h
    cases h
  health h hh := by
    cases hh
    exact Nat.lt_succ_self _
  lease g hg := Nat.le_succ_of_le (hv.lease g hg)
  listeners l hl := by
    obtain ⟨hlt, hg⟩ := hv.listeners l hl
    exact ⟨Nat.lt_succ_of_lt hlt, hg.trans (install_generationOf hlt).symm⟩
  single := hv.single
  held := hv.held
  storedBy := hv.storedBy
  uncleared l h hl hh _ := by
    cases hh
    simp only [RelayView.install, Function.update_self]
    exact RelayHealth.pristine_new _ _
  recovering e g h := by
    obtain ⟨hle, -⟩ := hv.recovering e g h
    exact ⟨Nat.le_succ_of_le hle, fun _ _ hg => absurd hg (install_fresh hv hb hle)⟩
  supervised := hv.supervised
  claimed := hv.claimed
  claimant := hv.claimant

theorem Rely.install (hv : v.Owned) (hb : v.nextHealth + 1 < 2 ^ 64) : Rely u v (v.install kind) :=
  { Rely.refl v u with
    installed := Nat.le_succ _
    generations := fun _ hh => install_generationOf hh
    dead := fun _ _ hd => ⟨Nat.le_succ_of_le hd.1, install_fresh hv hb hd.1, hd.2.2⟩ }

end Install

/-! ### The lifecycle gate -/

theorem Owned.lock (hv : v.Owned) : { v with lifecycle := some t }.Owned :=
  { hv with held := fun _ h => by cases h }

theorem Rely.lock (hu : u ≠ t) (hf : v.lifecycle = none) :
    Rely u v { v with lifecycle := some t } :=
  { Rely.refl v u with
    gate := by
      simp only [hf, Option.some.injEq, reduceCtorEq, iff_false]
      exact hu.symm
    held := fun h => by rw [hf] at h; cases h }

theorem Owned.unlock (hv : v.Owned) (hh : v.Holding t) : { v with lifecycle := none }.Owned :=
  { hv with held := fun hne => absurd hh.2 hne }

/-- What is under the gate of one operation is not another's. -/
theorem not_gate (hu : u ≠ t) (hl : v.lifecycle = some t) : v.lifecycle ≠ some u := fun h =>
  hu (Option.some.inj (h.symm.trans hl))

theorem Rely.unlock (hu : u ≠ t) (hh : v.Holding t) : Rely u v { v with lifecycle := none } :=
  { Rely.refl v u with
    gate := iff_of_false (by simp) (not_gate hu hh.1)
    held := fun h => absurd h (not_gate hu hh.1) }

section Listener

variable {l : Listener}

theorem Owned.take (hv : v.Owned) (hh : v.Holding t) (hs : v.stored = some l) :
    { v with stored := none, hands := l :: v.hands }.Owned :=
  { hv with
    listeners := fun l' hl' => by
      refine hv.listeners l' ?_
      simp only [alive, Option.toList_none, List.nil_append, hh.2, List.mem_singleton] at hl'
      simp [alive, hs, hl']
    single := .inr ⟨rfl, l, by simp [hh.2]⟩
    held := fun _ h => by
      have hl := hh.1.symm.trans h
      cases hl
    uncleared := fun _ _ h => by cases h
    recovering := fun e g h => ⟨(hv.recovering e g h).1, fun _ hl => by cases hl⟩ }

theorem Rely.take (hu : u ≠ t) (hh : v.Holding t) :
    Rely u v { v with stored := none, hands := l :: v.hands } :=
  { Rely.refl v u with
    dead := fun _ _ hd => ⟨hd.1, hd.2.1, fun _ hl => by cases hl⟩
    held := fun h => absurd h (not_gate hu hh.1) }

theorem Owned.shutdown (hv : v.Owned) (hc : v.Carrying t l) :
    { v with hands := v.hands.erase l }.Owned :=
  { hv with
    listeners := fun l' hl' => by
      refine hv.listeners l' ?_
      simp only [alive, hc.2.2, Option.toList_none, List.nil_append] at hl' ⊢
      exact List.mem_of_mem_erase hl'
    single := .inl (by simp [hc.2.1])
    held := fun hne => absurd (by simp [hc.2.1]) hne }

theorem Rely.shutdown (hu : u ≠ t) (hc : v.Carrying t l) :
    Rely u v { v with hands := v.hands.erase l } :=
  { Rely.refl v u with held := fun h => absurd h (not_gate hu hc.1) }

def build (v : RelayView) (l : Listener) (b : Option (UInt64 × UInt64)) : RelayView :=
  { v with hands := l :: v.hands, track := { v.track with builtFor := b } }

theorem Owned.build (hv : v.Owned) (hh : v.Holding t) (hs : v.stored = none)
    (hl : l.health < v.nextHealth) (hg : l.generation = v.generationOf l.health)
    (b : Option (UInt64 × UInt64)) : (v.build l b).Owned :=
  { hv with
    listeners := fun l' hl' => by
      simp only [alive, RelayView.build, hs, hh.2, Option.toList_none, List.nil_append,
        List.mem_singleton] at hl'
      subst hl'
      exact ⟨hl, hg⟩
    single := .inr ⟨hs, l, by simp [RelayView.build, hh.2]⟩
    held := fun _ h => by
      have hl := hh.1.symm.trans h
      cases hl }

theorem Rely.build (hu : u ≠ t) (hh : v.Holding t) (b : Option (UInt64 × UInt64)) :
    Rely u v (v.build l b) :=
  { Rely.refl v u with held := fun h => absurd h (not_gate hu hh.1) }

/-- The listener in hand is stored as the one of the current generation. -/
def store (v : RelayView) (l : Listener) (recovery : Option (UInt64 × UInt64)) : RelayView :=
  { v with
    stored := some l
    hands := v.hands.erase l
    track := { v.track with storedBy := v.track.claims, recovering := recovery } }

variable {recovery : Option (UInt64 × UInt64)}

theorem Owned.store (hv : v.Owned) (hc : v.Carrying t l)
    (hg : v.healthGeneration = some l.generation)
    (hr : recovery = none ∨ recovery = v.track.recovering) : (v.store l recovery).Owned :=
  have halive : ∀ l' ∈ (v.store l recovery).alive, l' = l := fun l' hl' => by
    simpa [alive, RelayView.store, hc.2.1] using hl'
  have hmem : l ∈ v.alive := by simp [alive, hc.2.1]
  { hv with
    listeners := fun l' hl' => by
      rw [halive l' hl']
      exact hv.listeners l hmem
    single := .inl (by simp [RelayView.store, hc.2.1])
    held := fun hne => absurd (by simp [RelayView.store, hc.2.1]) hne
    storedBy := Nat.le_refl _
    uncleared := fun l' h hl hh hne => by
      cases hl
      exact absurd (hv.reports hmem hh hg) hne
    recovering := fun e g h => by
      rcases hr with rfl | rfl
      · cases h
      · refine ⟨(hv.recovering e g h).1, fun l' hl hg' => ?_⟩
        cases hl
        exact Option.some.inj (hg.symm.trans hg') }

theorem Rely.store (hu : u ≠ t) (hc : v.Carrying t l)
    (hg : v.healthGeneration = some l.generation)
    (hr : recovery = v.track.recovering ∨ v.track.supervisor = some t) :
    Rely u v (v.store l recovery) :=
  { Rely.refl v u with
    dead := fun g k hd => ⟨hd.1, hd.2.1, fun l' hl hg' => by
      cases hl
      exact absurd (hg.trans (congrArg some hg')) hd.2.1⟩
    held := fun h => absurd h (not_gate hu hc.1)
    recovering := fun hs => by
      rcases hr with hr | hr
      · exact hr
      · exact absurd (Option.some.inj (hs.symm.trans hr)) hu }

end Listener

/-! ### The supervisor -/

theorem Owned.supervise (hv : v.Owned) (hs : v.track.supervisor = none) :
    { v with eventsTaken := true, track := { v.track with supervisor := some t } }.Owned :=
  { hv with
    supervised := fun h => by cases h
    claimant := fun u w k hu hw _ _ =>
      hv.claimant u w k hu hw (by simp [hs]) (by simp [hs]) }

theorem Rely.supervise (hu : u ≠ t) (hs : v.track.supervisor = none) :
    Rely u v { v with eventsTaken := true, track := { v.track with supervisor := some t } } :=
  { Rely.refl v u with
    supervisor := by
      simp only [hs, Option.some.injEq, reduceCtorEq, iff_false]
      exact hu.symm
    recovering := fun _ => rfl }

/-- Only the supervisor is concerned. -/
theorem Owned.accept {recovery : Option (UInt64 × UInt64)} (hv : v.Owned)
    (hs : v.track.supervisor = some t)
    (hr : ∀ e g, recovery = some (e, g) → g.toNat ≤ v.nextHealth ∧ v.Cleared g) :
    { v with track := v.track.accept t recovery }.Owned :=
  { hv with
    recovering := fun e g h => hr e g h
    claimed := fun u k hu => by
      simp only [RelayTrack.accept] at hu
      split at hu
      · rcases eq_or_ne u t with rfl | hne
        · rw [Function.update_self, Option.some.injEq] at hu
          exact Nat.le_of_eq hu.symm
        · rw [Function.update_of_ne hne] at hu
          exact hv.claimed u k hu
      · exact hv.claimed u k hu
    claimant := fun u w k hu hw hsu hsw => by
      have hut : u ≠ t := fun h => hsu (h ▸ hs)
      have hwt : w ≠ t := fun h => hsw (h ▸ hs)
      simp only [RelayTrack.accept] at hu hw
      refine hv.claimant u w k ?_ ?_ hsu hsw
      · split at hu
        · rwa [Function.update_of_ne hut] at hu
        · exact hu
      · split at hw
        · rwa [Function.update_of_ne hwt] at hw
        · exact hw }

theorem Rely.accept {recovery : Option (UInt64 × UInt64)} (hu : u ≠ t)
    (hs : v.track.supervisor = some t) :
    Rely u v { v with track := v.track.accept t recovery } :=
  { Rely.refl v u with
    claimOf := by
      simp only [RelayTrack.accept]
      split
      · exact Function.update_of_ne hu _ _
      · rfl
    recovering := fun h => absurd (Option.some.inj (h.symm.trans hs)) hu }

theorem Owned.quit (hv : v.Owned) :
    { v with track := { v.track with recovering := none } }.Owned :=
  { hv with recovering := fun _ _ h => by cases h }

theorem Rely.quit (hu : u ≠ t) (hs : v.track.supervisor = some t) :
    Rely u v { v with track := { v.track with recovering := none } } :=
  { Rely.refl v u with recovering := fun h => absurd (Option.some.inj (h.symm.trans hs)) hu }

/-! ### Mild moves -/

def relet (v : RelayView) (lease : Option UInt64) : RelayView := { v with lease := lease }

/-- The invariant is kept with what every operation relies on. -/
def Mild (v v' : RelayView) : Prop := v'.Owned ∧ ∀ u, Rely u v v'

theorem Mild.refl (hv : v.Owned) : Mild v v := ⟨hv, fun u => .refl v u⟩

theorem Mild.retrack {v' : RelayView} {k : RelayTrack} (h : Mild v v') (hk : v'.track.Same k) :
    Mild v (v'.retrack k) :=
  ⟨h.1.retrack hk, fun u => (h.2 u).trans (.retrack hk)⟩

theorem Mild.trans {v₁ v₂ v₃ : RelayView} (h : Mild v₁ v₂) (h' : Mild v₂ v₃) : Mild v₁ v₃ :=
  ⟨h'.1, fun u => (h.2 u).trans (h'.2 u)⟩

theorem Mild.mark (hv : v.Owned) (h : ℕ) (f : RelayHealth → RelayHealth)
    (hg : (f (v.healths h)).serverGeneration = v.generationOf h)
    (hp : v.Attends h ∨ ((v.healths h).Pristine → (f (v.healths h)).Pristine)) :
    Mild v (v.mark h f) :=
  ⟨hv.mark hg hp, fun _ => .mark hg⟩

theorem Mild.turnOn (hv : v.Owned) : Mild v v.turnOn := ⟨hv.turnOn, fun _ => .turnOn⟩

theorem Mild.install {kind : RelayIngestKind} (hv : v.Owned) (hb : v.nextHealth + 1 < 2 ^ 64)
    (hd : v.desired = true) : Mild v (v.install kind) :=
  ⟨hv.install hb hd, fun _ => .install hv hb⟩

theorem Mild.relet {lease : Option UInt64} (hv : v.Owned)
    (hl : ∀ g, lease = some g → g.toNat ≤ v.nextHealth) : Mild v (v.relet lease) :=
  ⟨{ hv with lease := hl }, fun u => { Rely.refl v u with }⟩

/-! ### Moves of one operation -/

variable (t) in
/-- The invariant is kept with what every other operation relies on. -/
def Apart (v v' : RelayView) : Prop := v'.Owned ∧ ∀ u, u ≠ t → Rely u v v'

theorem Mild.apart {v' : RelayView} (h : Mild v v') : Apart t v v' := ⟨h.1, fun u _ => h.2 u⟩

theorem Apart.trans {v₁ v₂ v₃ : RelayView} (h : Apart t v₁ v₂) (h' : Apart t v₂ v₃) :
    Apart t v₁ v₃ :=
  ⟨h'.1, fun u hu => (h.2 u hu).trans (h'.2 u hu)⟩

/-- The newest intent is its operation's to withdraw. -/
theorem Apart.turnOff {e : UInt64} (hv : v.Owned) (hs : v.track.supervisor ≠ some t)
    (hi : v.Intends t e) (he : v.epoch = e) : Apart t v v.turnOff := by
  refine ⟨hv.turnOff, fun u hu => .turnOff fun hsu hk => hu ?_⟩
  refine hv.claimant u t _ hk ?_ hsu hs
  rw [hi, ← he, hv.epoch]

theorem Apart.build {l : Listener} (hv : v.Owned) (hh : v.Holding t) (hs : v.stored = none)
    (hl : l.health < v.nextHealth) (hg : l.generation = v.generationOf l.health)
    (b : Option (UInt64 × UInt64)) : Apart t v (v.build l b) :=
  ⟨hv.build hh hs hl hg b, fun _ hu => .build hu hh b⟩

theorem Apart.accept (hv : v.Owned) (hs : v.track.supervisor = some t)
    (recovery : Option (UInt64 × UInt64))
    (hr : ∀ e g, recovery = some (e, g) → g.toNat ≤ v.nextHealth ∧ v.Cleared g) :
    Apart t v (v.retrack (v.track.accept t recovery)) :=
  ⟨hv.accept hs hr, fun _ hu => .accept hu hs⟩

/-- The record of the current generation is stopped and withdrawn. -/
def halt (v : RelayView) : RelayView :=
  match v.health with
  | some h => v.turnOff.mark h .stop
  | none => v.turnOff

theorem halt_track : v.halt.track = v.track := by
  unfold RelayView.halt
  split <;> rfl

theorem Apart.halt {e : UInt64} (hv : v.Owned) (hs : v.track.supervisor ≠ some t)
    (hi : v.Intends t e) (he : v.epoch = e) : Apart t v v.halt := by
  have h := Apart.turnOff hv hs hi he
  unfold RelayView.halt
  split
  · exact h.trans (Mild.apart (.mark h.1 _ .stop rfl (.inl fun _ _ hn => by cases hn)))
  · exact h

end RelayView

end PocketStream
