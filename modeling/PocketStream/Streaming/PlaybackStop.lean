import PocketStream.Streaming.PlaybackOwnership

/-! # A stop outlives what was published before it

Every epoch is claimed once, a stop's above those of the intent and of the
installed pipeline. Until another start, whatever was published before the stop is
withdrawn or retired by a call that has not returned, with one exception: a retry
that publishes corrected settings before the stop has withdrawn the old ones.
-/

namespace PocketStream

open Foundation

namespace Playback

namespace Host

variable {s s' : Host} {call : Call}

/-- A stop that has yet to withdraw the intent, or to retire the pipeline. -/
def Leaving (s : Host) (stopEpoch : ℕ) : Prop :=
  .clear stopEpoch ∈ s.pending ∨ .retire stopEpoch ∈ s.pending ∨ s.gate = .stopCheck stopEpoch

/-- Whatever was published or installed before the last stop is still within its reach. -/
structure Outlived (s : Host) : Prop where
  intent : ∀ e, s.playbackIntentEpoch = some e → ∃ stopEpoch, .clear stopEpoch ∈ s.pending ∧
    e < stopEpoch
  placed : ∀ e g, s.playbackInstance = some (e, g) → s.gate = .retireTake .stop ∨
    ∃ stopEpoch, s.Leaving stopEpoch ∧ e < stopEpoch
  late : ∀ e settings, .start e settings ∈ s.pending → e < s.epoch

/-- No epoch is ahead of the last one claimed. -/
structure Claimed (s : Host) : Prop where
  intent : ∀ e, s.playbackIntentEpoch = some e → e ≤ s.epoch
  placed : ∀ e g, s.playbackInstance = some (e, g) → e ≤ s.epoch
  clear : ∀ stopEpoch, .clear stopEpoch ∈ s.pending → stopEpoch ≤ s.epoch
  start : ∀ e settings, .start e settings ∈ s.pending → e ≤ s.epoch
  settings : s.playbackSettings.isSome = true → s.playbackIntentEpoch.isSome = true
  outlived : s.startedSince = false → s.Outlived

theorem nextEpoch_eq (hroom : s.wraps = false) : nextEpoch s.epoch = s.epoch + 1 := by
  have hroom : ¬2 ^ 64 ≤ s.epoch + 1 := by simpa [wraps] using hroom
  exact Nat.mod_eq_of_lt (by omega)

/-- With the last stop still to withdraw it, the intent is not the last one claimed. -/
theorem Claimed.behind (h : s.Claimed) (hstopped : s.startedSince = false) :
    s.playbackIntentEpoch ≠ some s.epoch := by
  intro hi
  obtain ⟨stopEpoch, hmem, hlt⟩ := (h.outlived hstopped).intent _ hi
  have hle := h.clear stopEpoch hmem
  omega

/-- The intent and the waiting calls stay, and a pipeline is installed or gone as before. -/
theorem Claimed.same (h : s.Claimed) (hi : SameIntent s s')
    (hplaced : ∀ e g, s'.playbackInstance = some (e, g) → s.playbackInstance = some (e, g) ∧
      ∀ stopEpoch, s.gate = .stopCheck stopEpoch → e < stopEpoch → s'.gate = .retireTake .stop)
    (htake : s.gate = .retireTake .stop → s'.playbackInstance = none) : s'.Claimed where
  intent e he := by
    rw [hi.epoch]
    exact h.intent e (hi.intent ▸ he)
  placed e g hg := by
    rw [hi.epoch]
    exact h.placed e g (hplaced e g hg).1
  clear stopEpoch hmem := by
    rw [hi.epoch]
    exact h.clear stopEpoch (hi.pending ▸ hmem)
  start e settings hmem := by
    rw [hi.epoch]
    exact h.start e settings (hi.pending ▸ hmem)
  settings hs := by
    rw [hi.intent]
    exact h.settings (hi.settings ▸ hs)
  outlived hstopped := by
    have ho := h.outlived (hi.startedSince ▸ hstopped)
    refine ⟨fun e he => ?_, fun e g hg => ?_, fun e settings hmem => ?_⟩
    · rw [hi.pending]
      exact ho.intent e (hi.intent ▸ he)
    · obtain ⟨hold, hcheck⟩ := hplaced e g hg
      obtain hgate | ⟨stopEpoch, hleaving, hlt⟩ := ho.placed e g hold
      · cases (htake hgate).symm.trans hg
      · obtain hclear | hretire | hgate := hleaving
        · exact .inr ⟨stopEpoch, .inl (hi.pending ▸ hclear), hlt⟩
        · exact .inr ⟨stopEpoch, .inr (.inl (hi.pending ▸ hretire)), hlt⟩
        · exact .inl (hcheck stopEpoch hgate hlt)
    · rw [hi.epoch]
      exact ho.late e settings (hi.pending ▸ hmem)

/-- The holder of the gate is not at a stage of a stop. -/
theorem Claimed.free (h : s.Claimed) (hi : SameIntent s s')
    (hplaced : s'.playbackInstance = s.playbackInstance) (hstops : s.gate.stops = false) :
    s'.Claimed := by
  apply h.same hi
  · intro e g hg
    refine ⟨hplaced ▸ hg, fun stopEpoch hgate => ?_⟩
    rw [hgate] at hstops
    cases hstops
  · intro hgate
    rw [hgate] at hstops
    cases hstops

/-- The waiting calls change, and no stop among them is forgotten. -/
theorem Claimed.waits (h : s.Claimed) {waiting : List Pending}
    (hstart : ∀ e settings, .start e settings ∈ waiting → .start e settings ∈ s.pending)
    (hclear : ∀ stopEpoch, .clear stopEpoch ∈ waiting ↔ .clear stopEpoch ∈ s.pending)
    (hretire : ∀ stopEpoch, .retire stopEpoch ∈ s.pending → .retire stopEpoch ∈ waiting) :
    Claimed { s with pending := waiting } where
  intent := h.intent
  placed := h.placed
  clear stopEpoch hmem := h.clear stopEpoch ((hclear stopEpoch).mp hmem)
  start e settings hmem := h.start e settings (hstart e settings hmem)
  settings := h.settings
  outlived hstopped := by
    have ho := h.outlived hstopped
    refine ⟨fun e he => ?_, fun e g hg => (ho.placed e g hg).imp_right ?_, fun e settings hmem => ?_⟩
    · obtain ⟨stopEpoch, hmem, hlt⟩ := ho.intent e he
      exact ⟨stopEpoch, (hclear stopEpoch).mpr hmem, hlt⟩
    · rintro ⟨stopEpoch, hleaving, hlt⟩
      exact ⟨stopEpoch, hleaving.imp (hclear stopEpoch).mpr (.imp_left (hretire stopEpoch)), hlt⟩
    · exact ho.late e settings (hstart e settings hmem)

theorem Claimed.advance (h : s.Claimed) (hroom : s.wraps = false) (ha : Advances s s') :
    s'.Claimed := by
  cases ha with
  | keep hslot hintent _ _ _ _ hstops => exact h.free hintent hslot.placed hstops
  | checkStop hgate hnext =>
    apply Claimed.same h
    · exact ⟨rfl, rfl, rfl, rfl, rfl⟩
    · intro e g hg
      refine ⟨hg, fun stopEpoch hcheck hlt => ?_⟩
      obtain rfl | ⟨rfl, e', g', hg', hle⟩ := hnext
      · rfl
      · obtain rfl := Gated.stopCheck.inj (hgate.symm.trans hcheck)
        cases hg.symm.trans hg'
        omega
    · intro htake
      cases hgate.symm.trans htake
  | takeRecording | take => exact h.same ⟨rfl, rfl, rfl, rfl, rfl⟩ nofun fun _ => rfl
  | detach hgate | tell hgate | reserve hgate | reserveFailed hgate | rollback hgate | clear hgate
  | build hgate =>
    apply Claimed.free h
    · exact ⟨rfl, rfl, rfl, rfl, rfl⟩
    · rfl
    · rw [hgate]; rfl
  | discard _ _ hstops =>
    apply Claimed.free h
    · exact ⟨rfl, rfl, rfl, rfl, rfl⟩
    · rfl
    · exact hstops
  | adapterChanged hgate hepoch hintent =>
    rw [← hepoch] at *
    rw [nextEpoch_eq hroom]
    refine ⟨fun e he => ?_, fun e g hg => ?_, fun S hS => ?_, fun e st hst => ?_, fun _ => rfl,
      fun hstopped => absurd hintent (h.behind hstopped)⟩
    · exact Nat.le_of_eq (Option.some.inj he).symm
    · exact Nat.le_succ_of_le (h.placed e g hg)
    · exact Nat.le_succ_of_le (h.clear S hS)
    · exact Nat.le_succ_of_le (h.start e st hst)
  | install hgate hepoch hintent =>
    refine ⟨h.intent, fun e g hg => ?_, h.clear, h.start, h.settings, fun hstopped => ?_⟩
    · cases hg
      exact Nat.le_of_eq hepoch.symm
    · rw [← hepoch] at hintent
      exact absurd hintent (h.behind hstopped)

/-- A call touches neither the epochs nor the gate. -/
theorem Claimed.untouched (h : s.Claimed) (hi : SameIntent s s')
    (hplaced : s'.playbackInstance = s.playbackInstance) (hgate : s'.gate = s.gate) :
    s'.Claimed where
  intent e he := by
    rw [hi.epoch]
    exact h.intent e (hi.intent ▸ he)
  placed e g hg := by
    rw [hi.epoch]
    exact h.placed e g (hplaced ▸ hg)
  clear stopEpoch hmem := by
    rw [hi.epoch]
    exact h.clear stopEpoch (hi.pending ▸ hmem)
  start e settings hmem := by
    rw [hi.epoch]
    exact h.start e settings (hi.pending ▸ hmem)
  settings hs := by
    rw [hi.intent]
    exact h.settings (hi.settings ▸ hs)
  outlived hstopped := by
    have ho := h.outlived (hi.startedSince ▸ hstopped)
    refine ⟨fun e he => ?_, fun e g hg => ?_, fun e settings hmem => ?_⟩
    · rw [hi.pending]
      exact ho.intent e (hi.intent ▸ he)
    · rw [hgate]
      simp only [Leaving, hi.pending, hgate]
      exact ho.placed e g (hplaced ▸ hg)
    · rw [hi.epoch]
      exact ho.late e settings (hi.pending ▸ hmem)

theorem Claimed.erased (h : s.Claimed) {waiting : Pending}
    (hclear : ∀ stopEpoch, waiting ≠ .clear stopEpoch)
    (hretire : ∀ stopEpoch, waiting ≠ .retire stopEpoch) :
    Claimed { s with pending := s.pending.erase waiting } := by
  apply h.waits
  · exact fun _ _ hmem => List.mem_of_mem_erase hmem
  · exact fun stopEpoch => List.mem_erase_of_ne (hclear stopEpoch).symm
  · exact fun stopEpoch => (List.mem_erase_of_ne (hretire stopEpoch).symm).mpr

theorem erased_start (h : s.Claimed) (startEpoch : ℕ) (settings : AppSettings) :
    Claimed { s with pending := s.pending.erase (.start startEpoch settings) } :=
  h.erased (by simp) (by simp)

theorem erased_retry (h : s.Claimed) (requestedEpoch : ℕ) (manual : Bool)
    (settings : Option AppSettings) :
    Claimed { s with pending := s.pending.erase (.retry requestedEpoch manual settings) } :=
  h.erased (by simp) (by simp)

/-- A stop claims an epoch above every epoch published or read. -/
theorem Claimed.stop (h : s.Claimed) (hroom : s.wraps = false) : Claimed { s with
    epoch := nextEpoch s.epoch
    pending := .clear (nextEpoch s.epoch) :: s.pending
    startedSince := false } := by
  rw [nextEpoch_eq hroom]
  have hstart : ∀ e settings, .start e settings ∈ Pending.clear (s.epoch + 1) :: s.pending →
      e < s.epoch + 1 := by
    intro e settings hmem
    have hold : .start e settings ∈ s.pending := by simpa using hmem
    exact Nat.lt_succ_of_le (h.start e settings hold)
  refine ⟨fun e he => ?_, fun e g hg => ?_, fun S hS => ?_, fun e settings hmem => ?_, h.settings,
    fun _ => ⟨fun e he => ?_, fun e g hg => .inr ?_, hstart⟩⟩
  · exact Nat.le_succ_of_le (h.intent e he)
  · exact Nat.le_succ_of_le (h.placed e g hg)
  · obtain hnew | hold := List.mem_cons.mp hS
    · exact Nat.le_of_eq (Pending.clear.inj hnew)
    · exact Nat.le_succ_of_le (h.clear S hold)
  · exact Nat.le_of_lt (hstart e settings hmem)
  · exact ⟨s.epoch + 1, List.mem_cons_self, Nat.lt_succ_of_le (h.intent e he)⟩
  · exact ⟨s.epoch + 1, .inl List.mem_cons_self, Nat.lt_succ_of_le (h.placed e g hg)⟩

/-- A new intent is published, unless the last word was a stop. -/
theorem Claimed.published (h : s.Claimed) (hroom : s.wraps = false)
    (hstarted : s.startedSince = true) (hepoch : s'.epoch = nextEpoch s.epoch)
    (hintent : s'.playbackIntentEpoch = some (nextEpoch s.epoch))
    (hplaced : s'.playbackInstance = s.playbackInstance) (hpending : s'.pending = s.pending)
    (hsame : s'.startedSince = s.startedSince) : s'.Claimed where
  intent e he := by
    rw [hintent] at he
    exact Nat.le_of_eq (hepoch.symm ▸ (Option.some.inj he).symm)
  placed e g hg := by
    rw [hepoch, nextEpoch_eq hroom]
    exact Nat.le_succ_of_le (h.placed e g (hplaced ▸ hg))
  clear stopEpoch hmem := by
    rw [hepoch, nextEpoch_eq hroom]
    exact Nat.le_succ_of_le (h.clear stopEpoch (hpending ▸ hmem))
  start e settings hmem := by
    rw [hepoch, nextEpoch_eq hroom]
    exact Nat.le_succ_of_le (h.start e settings (hpending ▸ hmem))
  settings _ := by
    rw [hintent]
    rfl
  outlived hstopped := by
    rw [hsame, hstarted] at hstopped
    cases hstopped

theorem Claimed.resumeStart (h : s.Claimed) (hroom : s.wraps = false) (startEpoch : ℕ)
    (settings : AppSettings) (relay : RelayData)
    (hlate : s.startedSince = false → startEpoch < s.epoch) :
    (s.resumeStart startEpoch settings relay).Claimed := by
  obtain heq | ⟨hepoch, heq⟩ := resumeStart_cases s startEpoch settings relay
  · rw [heq]
    exact h
  · rw [heq, ← hepoch]
    have hstarted : s.startedSince = true := by
      by_contra hnot
      have hlt := hlate (by simpa using hnot)
      omega
    exact h.published hroom hstarted rfl rfl rfl rfl rfl

theorem corrections_intent (h : s.Claimed) {manual : Bool} {settings : Option AppSettings}
    {desired : AppSettings} (hc : s.corrections manual settings = some desired) :
    ∃ e, s.playbackIntentEpoch = some e := by
  apply Option.isSome_iff_exists.mp
  apply h.settings
  unfold corrections at hc
  split at hc
  · next hsettings => rw [hsettings]; rfl
  · cases hc

/-- A retry publishes nothing that a stop has still to withdraw. -/
theorem Claimed.resumeRetry (h : s.Claimed) (hroom : s.wraps = false) (requestedEpoch : ℕ)
    (manual : Bool) (settings : Option AppSettings)
    (hcalm : s.epoch = requestedEpoch → s.revives manual settings = false) :
    (s.resumeRetry requestedEpoch manual settings).Claimed := by
  obtain heq | ⟨hepoch, ⟨desired, hc, heq⟩ | ⟨health, -, -, heq⟩⟩ :=
    resumeRetry_cases s requestedEpoch manual settings
  · rw [heq]
    exact h
  · rw [heq, ← hepoch]
    have hstarted : s.startedSince = true := by
      by_contra hnot
      obtain ⟨e, he⟩ := corrections_intent h hc
      obtain ⟨stopEpoch, hmem, hlt⟩ := (h.outlived (by simpa using hnot)).intent e he
      have hquiet := hcalm hepoch
      simp only [revives, hc, Option.isSome_some, Bool.true_and, List.any_eq_false] at hquiet
      have hwithdraws := hquiet _ hmem
      simp [Pending.withdraws, he, hlt] at hwithdraws
    exact h.published hroom hstarted rfl rfl rfl rfl rfl
  · rw [heq]
    exact h.untouched ⟨rfl, rfl, rfl, rfl, rfl⟩ rfl rfl

theorem Claimed.resumeClear (h : s.Claimed) (stopEpoch : ℕ) :
    Claimed { resumeClear { s with pending := s.pending.erase (.clear stopEpoch) } stopEpoch with
      pending := .retire stopEpoch :: s.pending.erase (.clear stopEpoch) } := by
  have hstart : ∀ e settings,
      .start e settings ∈ Pending.retire stopEpoch :: s.pending.erase (.clear stopEpoch) →
        .start e settings ∈ s.pending := by
    intro e settings hmem
    obtain hnew | hold := List.mem_cons.mp hmem
    · cases hnew
    · exact List.mem_of_mem_erase hold
  have hclear : ∀ S,
      .clear S ∈ Pending.retire stopEpoch :: s.pending.erase (.clear stopEpoch) →
        .clear S ∈ s.pending := by
    intro S hmem
    obtain hnew | hold := List.mem_cons.mp hmem
    · cases hnew
    · exact List.mem_of_mem_erase hold
  have hother : ∀ S, S ≠ stopEpoch → .clear S ∈ s.pending →
      .clear S ∈ Pending.retire stopEpoch :: s.pending.erase (.clear stopEpoch) := by
    intro S hne hold
    have hne' : Pending.clear S ≠ .clear stopEpoch := fun heq => hne (Pending.clear.inj heq)
    exact List.mem_cons_of_mem _ ((List.mem_erase_of_ne hne').mpr hold)
  -- a pipeline within the reach of the stop stays within its reach
  have hplaced : s.startedSince = false → ∀ e g, s.playbackInstance = some (e, g) →
      s.gate = .retireTake .stop ∨ ∃ S,
        (.clear S ∈ Pending.retire stopEpoch :: s.pending.erase (.clear stopEpoch) ∨
          .retire S ∈ Pending.retire stopEpoch :: s.pending.erase (.clear stopEpoch) ∨
          s.gate = .stopCheck S) ∧ e < S := by
    intro hstopped e g hg
    refine ((h.outlived hstopped).placed e g hg).imp_right ?_
    rintro ⟨S, hcl | hre | hgate, hlt⟩
    · by_cases hS : S = stopEpoch
      · exact ⟨S, .inr (.inl (hS ▸ List.mem_cons_self)), hlt⟩
      · exact ⟨S, .inl (hother S hS hcl), hlt⟩
    · have hne : Pending.retire S ≠ .clear stopEpoch := nofun
      exact ⟨S, .inr (.inl (List.mem_cons_of_mem _ ((List.mem_erase_of_ne hne).mpr hre))), hlt⟩
    · exact ⟨S, .inr (.inr hgate), hlt⟩
  obtain ⟨heq, e₀, he₀, hle⟩ | heq :=
    resumeClear_cases { s with pending := s.pending.erase (.clear stopEpoch) } stopEpoch
  · rw [heq]
    refine ⟨h.intent, h.placed, fun S hS => h.clear S (hclear S hS),
      fun e st hst => h.start e st (hstart e st hst), h.settings, fun hstopped => ?_⟩
    refine ⟨fun e he => ?_, hplaced hstopped, fun e st hst => ?_⟩
    · obtain ⟨S, hS, hlt⟩ := (h.outlived hstopped).intent e he
      obtain rfl := Option.some.inj (he₀.symm.trans he)
      exact ⟨S, hother S (by omega) hS, hlt⟩
    · exact (h.outlived hstopped).late e st (hstart e st hst)
  · rw [heq]
    refine ⟨nofun, h.placed, fun S hS => h.clear S (hclear S hS),
      fun e st hst => h.start e st (hstart e st hst), nofun, fun hstopped => ?_⟩
    exact ⟨nofun, hplaced hstopped, fun e st hst =>
      (h.outlived hstopped).late e st (hstart e st hst)⟩

theorem Claimed.resumeRetire (h : s.Claimed) (stopEpoch : ℕ) (hidle : s.gate = .idle) :
    Claimed { s with
      pending := s.pending.erase (.retire stopEpoch), gate := .stopCheck stopEpoch } where
  intent := h.intent
  placed := h.placed
  clear S hS := h.clear S (List.mem_of_mem_erase hS)
  start e settings hmem := h.start e settings (List.mem_of_mem_erase hmem)
  settings := h.settings
  outlived hstopped := by
    have ho := h.outlived hstopped
    refine ⟨fun e he => ?_, fun e g hg => ?_, fun e settings hmem => ?_⟩
    · obtain ⟨S, hS, hlt⟩ := ho.intent e he
      have hne : Pending.clear S ≠ .retire stopEpoch := nofun
      exact ⟨S, (List.mem_erase_of_ne hne).mpr hS, hlt⟩
    · obtain htake | ⟨S, hcl | hre | hcheck, hlt⟩ := ho.placed e g hg
      · cases hidle.symm.trans htake
      · have hne : Pending.clear S ≠ .retire stopEpoch := nofun
        exact .inr ⟨S, .inl ((List.mem_erase_of_ne hne).mpr hcl), hlt⟩
      · by_cases hS : S = stopEpoch
        · exact .inr ⟨S, .inr (.inr (hS ▸ rfl)), hlt⟩
        · have hne : Pending.retire S ≠ .retire stopEpoch := fun heq => hS (Pending.retire.inj heq)
          exact .inr ⟨S, .inr (.inl ((List.mem_erase_of_ne hne).mpr hre)), hlt⟩
      · cases hidle.symm.trans hcheck
    · exact ho.late e settings (List.mem_of_mem_erase hmem)

theorem Claimed.resume (h : s.Claimed) {waiting : Pending} {relay : RelayData}
    (hcalm : s.disturbs (.resume waiting relay) = false)
    (hs : s.resume waiting relay = some s') : s'.Claimed := by
  obtain ⟨hmem, hcase⟩ := resume_cases hs
  cases waiting with
  | start startEpoch settings =>
    rw [show s' = _ from hcase]
    have herased := erased_start h startEpoch settings
    apply herased.resumeStart hcalm
    exact fun hstopped => (h.outlived hstopped).late startEpoch settings hmem
  | retry requestedEpoch manual settings =>
    rw [show s' = _ from hcase]
    simp only [disturbs, Bool.or_eq_false_iff] at hcalm
    have herased := erased_retry h requestedEpoch manual settings
    apply herased.resumeRetry hcalm.1
    intro hepoch
    have hepoch : s.epoch = requestedEpoch := hepoch
    have hboth := Bool.and_eq_false_imp.mp hcalm.2 (by simp [hepoch])
    have hrevives : s.revives manual settings = false := (Bool.or_eq_false_iff.mp hboth).2
    -- dropping the retry from the queue brings no stop back
    simp only [revives, Bool.and_eq_false_imp] at hrevives ⊢
    intro hsome
    have hany := hrevives hsome
    simp only [List.any_eq_false] at hany ⊢
    exact fun x hx => hany x (List.mem_of_mem_erase hx)
  | clear stopEpoch =>
    rw [show s' = _ from hcase]
    exact h.resumeClear stopEpoch
  | retire stopEpoch =>
    obtain ⟨hidle, rfl⟩ := hcase
    exact h.resumeRetire stopEpoch hidle

theorem Claimed.step (h : s.Claimed) (hr : s.Records) (hcalm : s.disturbs call = false)
    (hs : s.step call = some s') : s'.Claimed := by
  cases call with
  | start settings =>
    obtain rfl := Option.some.inj hs
    refine ⟨h.intent, h.placed, fun S hS => h.clear S (by simpa using hS), fun e st hst => ?_,
      h.settings, nofun⟩
    obtain hnew | hold := List.mem_cons.mp hst
    · exact Nat.le_of_eq (Pending.start.inj hnew).1
    · exact h.start e st hold
  | retry manual settings =>
    obtain rfl := Option.some.inj hs
    exact h.waits (by simp) (by simp) (by simp)
  | stop =>
    obtain rfl := Option.some.inj hs
    exact h.stop hcalm
  | startRecording | stopRecording | step =>
    obtain ⟨rfl, hidle, -⟩ := others_enter hs rfl
    apply Claimed.free h
    · exact ⟨rfl, rfl, rfl, rfl, rfl⟩
    · rfl
    · rw [hidle]; rfl
  | resume waiting relay => exact h.resume hcalm hs
  | advance input => exact h.advance hcalm (advance_step hr hs).2
  | buffer | fault =>
    simp only [Host.step] at hs
    split at hs
    · obtain rfl := Option.some.inj hs
      exact h.untouched ⟨rfl, rfl, rfl, rfl, rfl⟩ rfl rfl
    · cases hs
  | tick =>
    obtain rfl := Option.some.inj hs
    exact h.untouched ⟨rfl, rfl, rfl, rfl, rfl⟩ rfl rfl

/-- What holds in every state of a run that no retry disturbs. -/
structure Kept (s : Host) : Prop where
  records : s.Records
  owned : s.Owned
  claimed : s.Claimed

theorem records_initial : initial.Records where
  settled _ := PlaybackHealth.settled_new
  allocated _ h := by cases h
  watch := trivial

theorem owned_initial : initial.Owned where
  alive _ h := by cases h
  emptied h := by cases h
  placed := ⟨fun _ => rfl, fun _ => rfl⟩
  recording h := by cases h
  named _ := rfl
  attached _ h := by cases h
  rollback h := by cases h

theorem claimed_initial : initial.Claimed where
  intent _ h := by cases h
  placed _ _ h := by cases h
  clear _ h := by cases h
  start _ _ h := by cases h
  settings h := by cases h
  outlived _ := by
    refine ⟨fun _ h => ?_, fun _ _ h => ?_, fun _ _ h => ?_⟩
    · cases h
    · cases h
    · cases h

theorem Kept.step (h : s.Kept) (hcalm : s.disturbs call = false) (hs : s.step call = some s') :
    s'.Kept := by
  refine ⟨h.records.step hcalm hs, ?_, h.claimed.step h.records hcalm hs⟩
  obtain ha | ho := step_slot h.records hs
  · exact h.owned.advance ha
  · exact h.owned.others ho

theorem kept_run (h : machine.Reaches (fun s call => s.disturbs call = false) s) : s.Kept := by
  induction h with
  | initial => exact ⟨records_initial, owned_initial, claimed_initial⟩
  | step _ hcalm hs ih => exact ih.step hcalm hs

/-- A pipeline is only ever installed by the holder of the gate, under the epoch of its build. -/
theorem Kept.install (h : s.Kept) {p : ℕ} (hs : s.step call = some s')
    (hp : s'.playback = some p) (hnew : s.playback ≠ some p) :
    s.playbackIntentEpoch = some s.epoch ∧ (s.pipelines p).builtEpoch = s.epoch ∧
      ∃ g, s'.playbackInstance = some (s.epoch, g) := by
  obtain ha | ho := step_slot h.records hs
  · cases ha with
    | keep hslot => exact absurd (hslot.playback ▸ hp) hnew
    | install hgate hepoch hintent hbuilt =>
      obtain rfl := Option.some.inj hp
      rw [hepoch]
      exact ⟨hintent, hbuilt, _, rfl⟩
    | takeRecording | take => cases hp
    | checkStop | detach | tell | reserve | reserveFailed | rollback | clear | adapterChanged | build
    | discard => exact absurd hp hnew
  · exact absurd (ho.slot.playback ▸ hp) hnew

/-- Every call has returned; the supervisor may be anywhere in its step. -/
def returned (s : Host) : Bool := s.pending.isEmpty && !s.gate.serves

theorem Kept.returned (h : s.Kept) (hstopped : s.startedSince = false)
    (hreturned : s.returned = true) : s.playback = none := by
  simp only [Host.returned, Bool.and_eq_true, List.isEmpty_iff, Bool.not_eq_true'] at hreturned
  obtain ⟨hpending, hserves⟩ := hreturned
  rw [← h.owned.placed]
  cases hi : s.playbackInstance with
  | none => rfl
  | some i =>
    exfalso
    obtain htake | ⟨S, hcl | hre | hcheck, -⟩ := (h.claimed.outlived hstopped).placed i.1 i.2 hi
    · rw [htake] at hserves
      cases hserves
    · simp [hpending] at hcl
    · simp [hpending] at hre
    · rw [hcheck] at hserves
      cases hserves

/-- In a run that no retry disturbs, one pipeline at most is alive, a pipeline is installed under
the epoch of its build, a recording ends with its pipeline and its path is told or still held, and
after the last stop nothing stays installed or is installed. -/
theorem playback_lifecycle (h : machine.Reaches (fun s call => s.disturbs call = false) s) :
    (∀ p q, (s.pipelines p).alive = true → (s.pipelines q).alive = true → p = q) ∧
    (∀ call s' p, s.step call = some s' → s'.playback = some p → s.playback ≠ some p →
      (s.pipelines p).builtEpoch = s.epoch ∧ ∃ g, s'.playbackInstance = some (s.epoch, g)) ∧
    (s.recording = true → ∃ p, s.playback = some p ∧ s.recordingOn = some p) ∧
    (∀ path ∈ s.attached, path ∈ s.reported ∨ s.recordingPath = some path ∨
      s.gate.heldPath = some path) ∧
    (s.startedSince = false → (s.returned = true → s.playback = none) ∧
      ∀ call s' p, s.step call = some s' → s'.playback = some p → s.playback = some p) := by
  have hk := kept_run h
  refine ⟨?_, ?_, hk.owned.recording, hk.owned.attached, fun hstopped => ⟨hk.returned hstopped, ?_⟩⟩
  · intro p q hp hq
    exact hk.owned.single hp hq
  · intro call s' p hs hp hnew
    exact (hk.install hs hp hnew).2
  · intro call s' p hs hp
    by_contra hnew
    exact hk.claimed.behind hstopped (hk.install hs hp hnew).1

section Example

def udpSettings : AppSettings :=
  let settings := AppSettings.fresh "token"
  { settings with stream := { settings.stream with protocol := .udp } }

/-- A step, to the point where it has read the record of the installed pipeline. -/
def compareStep : List Call := .step :: List.replicate 3 (.advance .next)

/-- The attempt that is due, to the installation of what it builds. -/
def attemptStep : List Call :=
  [.next, .bound (.error ""), .built (.ok ()), .bound (.error ""), .played false (.ok ()),
    .fence false].map .advance

def udpPlayback : List Call :=
  [.start udpSettings, .resume (.start 0 udpSettings) (.new .rtsp)] ++ compareStep ++ attemptStep ++
    [.buffer 0]

def udpRecording : List Call :=
  udpPlayback ++ [.startRecording "clip.mp4", .advance (.attached (.ok ()))]

/-- A stop that nothing comes in between of. -/
def fullStop : List Call :=
  [.stop, .resume (.clear 2) (.new .rtsp), .resume (.retire 2) (.new .rtsp), .advance .next,
    .advance .next, .advance (.finalized (.ok ())), .advance .next, .advance .next]

theorem playback_lifecycle_stop :
    ∃ s, machine.run initial (udpRecording ++ fullStop) = some s ∧ s.playback = none ∧
      (∀ path ∈ s.attached, path ∈ s.reported ∨ s.recordingPath = some path ∨
        s.gate.heldPath = some path) ∧
      ∀ call s' p, s.step call = some s' → s'.playback = some p → s.playback = some p := by
  have hadmits : machine.Admits (fun s call => s.disturbs call = false) initial
      (udpRecording ++ fullStop) := by
    decide
  obtain ⟨-, -, -, hpath, hstopped⟩ := playback_lifecycle (Machine.Reaches.run .initial hadmits rfl)
  obtain ⟨hnone, hlater⟩ := hstopped rfl
  exact ⟨_, rfl, hnone rfl, hpath, hlater⟩

def busFault : PlaybackFault := ⟨.busError, "stream lost", true⟩

/-- A fault and a manual retry, while the supervisor waits for the state. -/
def rearmedStep : List Call :=
  compareStep ++ [.fault 0 busFault, .retry true none, .resume (.retry 1 true none) (.new .rtsp)] ++
    attemptStep

def otherCredentials : AppSettings :=
  { udpSettings with credentials := { udpSettings.credentials with password := "other" } }

/-- A retry with other credentials, between the two halves of a stop. -/
def revivedStop : List Call :=
  [.stop, .retry true (some otherCredentials),
    .resume (.retry 2 true (some otherCredentials)) (.new .rtsp), .resume (.clear 2) (.new .rtsp),
    .resume (.retire 2) (.new .rtsp), .advance .next, .advance .next, .advance .next]

/-- The retried pipeline replaces the recorded one, which is alive until then; and a stop that has
returned leaves an intent that the next step builds. -/
theorem rearmed_playback_replaces :
    (∃ s, machine.run initial (udpRecording ++ rearmedStep.take 10) = some s ∧
      (s.pipelines 0).alive = true ∧ (s.pipelines 1).alive = true) ∧
    (∃ s, machine.run initial (udpRecording ++ rearmedStep) = some s ∧ s.recording = true ∧
      s.recordingOn = some 0 ∧ s.playback = some 1) ∧
    ∃ s, machine.run initial (udpPlayback ++ revivedStop) = some s ∧ s.startedSince = false ∧
      s.returned = true ∧ ∃ s', machine.run s (compareStep ++ attemptStep) = some s' ∧
        s'.startedSince = false ∧ s'.playback = some 1 :=
  ⟨⟨_, rfl, rfl, rfl⟩, ⟨_, rfl, rfl, rfl, rfl⟩, _, rfl, rfl, rfl, _, rfl, rfl, rfl⟩

end Example

end Host

end Playback

end PocketStream
