import PocketStream.Streaming.RelayProtocol

/-! # Relay programs under the protocol

Rules for the steps of a relay program whose assertions are about the view, and
what the start of a listener ensures: it never has more than one listener in its
hands, and leaves the lifecycle gate with none.
-/

namespace PocketStream

open Foundation RelayView

/-- From every state of `A` the program keeps to the protocol and ends in `B`. -/
abbrev Ensures {α : Type} (t : ℕ) (A : RelayView → Prop) (p : RelayProgram α)
    (B : α → RelayView → Prop) : Prop :=
  relayProtocol.Triple t (fun s => A s.view) p fun a s => B a s.view

variable {α β : Type} {t : ℕ} {A : RelayView → Prop} {B : α → RelayView → Prop}

theorem stable_of_kept (hA : RelayView.Kept t A) : relayProtocol.Stable t fun s => A s.view :=
  fun _ _ hm hs => hA _ _ hm.1 hm.2.2 hs

namespace Ensures

theorem done {a : α} (hA : RelayView.Kept t A) (h : ∀ v, v.Owned → A v → B a v) :
    Ensures t A (Program.done a) B :=
  Protocol.Triple.done (stable_of_kept hA) fun _ hi hs => h _ hi hs

theorem conseq {A' : RelayView → Prop} {B' : α → RelayView → Prop} {p : RelayProgram α}
    (h : Ensures t A p B) (hA : ∀ v, v.Owned → A' v → A v)
    (hB : ∀ a v, v.Owned → B a v → B' a v) : Ensures t A' p B' :=
  Protocol.Triple.conseq h (fun _ hi hs => hA _ hi hs) fun _ _ hi hs => hB _ _ hi hs

theorem bind {f : α → RelayProgram β} {p : RelayProgram α} {C : β → RelayView → Prop}
    (mid : α → RelayView → Prop) (hp : Ensures t A p mid)
    (hf : ∀ a, Ensures t (mid a) (f a) C) : Ensures t A (p >>= f) C :=
  Protocol.Triple.bind (fun a s => mid a s.view) hp hf

theorem given {φ : Prop} {p : RelayProgram α} (hφ : ∀ v, v.Owned → A v → φ)
    (h : φ → Ensures t A p B) : Ensures t A p B :=
  Protocol.Triple.given (fun s hi hs => hφ s.view hi hs) h

section Steps

variable {e : RelayEffect}

theorem step {B : e.Reply → RelayView → Prop} (hA : RelayView.Kept t A)
    (hg : ∀ v, v.Owned → A v → relayGuard t e v)
    (hr : ∀ (s : TrackedRelay) o r s', s.view.Owned → A s.view → s.Room e → s.answer t e o = some (r, s') →
      s'.view.Owned → B r s'.view)
    (hB : ∀ r, RelayView.Kept t (B r)) : Ensures t A (relayStep e) B :=
  Protocol.Triple.perform (stable_of_kept hA) (fun _ hi hs => hg _ hi hs)
    (fun _ o r s' hi hs hm ha hi' => hr _ o r s' hi hs hm ha hi') fun r => stable_of_kept (hB r)

theorem mild (he : e.mild = true) (hA : RelayView.Kept t A)
    (hg : ∀ v, v.Owned → A v → relayGuard t e v) : Ensures t A (relayStep e) fun _ => A :=
  step hA hg (fun _ _ _ _ hi hs hm ha _ =>
    hA _ _ hi ((TrackedRelay.mild_answer hi (hg _ hi hs) hm he ha).2 t) hs) fun _ => hA

theorem silent_guard (he : e.silent = true) (v : RelayView) : relayGuard t e v := by
  cases e <;> trivial

/-- A silent step tells what is true of the view it leaves alone. -/
theorem tells {B : e.Reply → RelayView → Prop} (he : e.silent = true) (hA : RelayView.Kept t A)
    (hr : ∀ (s : TrackedRelay) o r s', s.view.Owned → A s.view →
      s.answer t e o = some (r, s') → B r s.view)
    (hB : ∀ r, RelayView.Kept t (B r)) : Ensures t A (relayStep e) B :=
  step hA (fun v _ _ => silent_guard he v)
    (fun s o r s' hi hs _ ha _ => TrackedRelay.silent_view he ha ▸ hr s o r s' hi hs ha) hB

theorem silent (he : e.silent = true) (hA : RelayView.Kept t A) :
    Ensures t A (relayStep e) fun _ => A :=
  tells he hA (fun _ _ _ _ _ hs _ => hs) fun _ => hA

end Steps

theorem ifEpoch {epoch : UInt64} {superseded : α} {next : RelayProgram α} (hA : RelayView.Kept t A)
    (hs : ∀ v, v.Owned → A v → B superseded v) (hn : Ensures t A next B) :
    Ensures t A (ifEpoch epoch superseded next) B := by
  refine .bind (fun _ => A) (.silent rfl hA) fun current => ?_
  split
  · exact hn
  · exact .done hA hs

theorem withTransaction {body : RelayProgram α} (hA : RelayView.Kept t A)
    (hB : ∀ a, RelayView.Kept t (B a))
    (hb : Ensures t A body B) : Ensures t A (withTransaction body) B :=
  .bind (fun _ => A) (.silent rfl hA) fun _ => .bind B hb fun a =>
    .bind (fun _ => B a) (.silent rfl (hB a)) fun _ => .done (hB a) fun _ _ h => h

/-- The body has the lifecycle gate and must not leave it with a listener. -/
theorem withLifecycle {body : RelayProgram α} (hA : RelayView.Kept t A)
    (hB : ∀ a, RelayView.Kept t (B a))
    (hlock : ∀ v, A v → A { v with lifecycle := some t })
    (hunlock : ∀ a v, B a v → B a { v with lifecycle := none })
    (hb : Ensures t (fun v => A v ∧ v.Holding t) body fun a v => B a v ∧ v.Holding t) :
    Ensures t A (withLifecycle body) B := by
  refine .bind (fun _ v => A v ∧ v.Holding t) ?_ fun _ => .bind _ hb fun a =>
    .bind (fun _ => B a) ?_ fun _ => .done (hB a) fun _ _ h => h
  · refine .step hA (fun _ _ _ => trivial) ?_ fun _ => hA.and kept_holding
    intro s o r s' hi hs _ ha _
    simp only [TrackedRelay.answer, RelayShared.answer] at ha
    split at ha
    · next hf =>
      cases ha
      exact ⟨hlock s.view hs, rfl, hi.hands_of_free (Option.isNone_iff_eq_none.mp hf)⟩
    · cases ha
  · refine .step ((hB a).and kept_holding) (fun _ _ h => h.2) ?_ fun _ => hB a
    intro s o r s' hi hs _ ha _
    cases ha
    exact hunlock a s.view hs.1

/-- A check of currency, and what it implies while it holds. -/
theorem isCurrent {epoch generation : UInt64} {F : RelayView → Prop} (hA : RelayView.Kept t A)
    (hF : RelayView.Kept t F)
    (h : ∀ v, v.Owned → A v → v.epoch = epoch → v.healthGeneration = some generation → F v) :
    Ensures t A (relayIsCurrent epoch generation) fun current v => A v ∧ (current = true → F v) := by
  refine ifEpoch hA (fun _ _ hs => ⟨hs, fun h => by cases h⟩) (.tells rfl hA ?_ fun _ =>
    hA.and (.imp fun _ => hF))
  intro s o r s' hi hs ha
  cases ha
  refine ⟨hs, fun hc => ?_⟩
  obtain ⟨he, -, -, hg⟩ := RelayShared.relayIsCurrent_eq hc
  exact h s.view hi hs he hg

end Ensures

/-! ### The firewall lease -/

section Firewall

variable {g : UInt64}

theorem relayLease_keeps (hA : RelayView.Kept t A) (e : LeaseEffect) :
    Ensures t A (relayLease e) fun _ => A :=
  .mild rfl hA fun _ _ _ => trivial

theorem retireFirewall_keeps (hA : RelayView.Kept t A) :
    Ensures t A (retireFirewall g) fun _ => A := by
  refine .bind _ (relayLease_keeps hA .readLease) fun lease => ?_
  split
  · exact .bind (fun _ => A) (.silent rfl hA) fun _ => .bind (fun _ => A)
      (relayLease_keeps hA _) fun _ => .done hA fun _ _ h => h
  · exact .done hA fun _ _ h => h

theorem applyFirewall_keeps (hA : RelayView.Kept t A) (spec : ResolvedStartSpec) :
    Ensures t A (applyFirewall spec g) fun _ => A := by
  refine .bind _ (relayLease_keeps hA .readLease) fun prior => .bind (fun _ => A) ?_ fun retired => ?_
  · cases prior with
    | none => exact .done hA fun _ _ h => h
    | some lease => exact retireFirewall_keeps hA
  · split
    · exact relayLease_keeps hA _
    · refine .bind _ (relayLease_keeps hA _) fun installed => ?_
      split
      · exact .done hA fun _ _ h => h
      · exact .bind (fun _ => A) (.silent rfl hA) fun _ => .bind (fun _ => A)
          (relayLease_keeps hA _) fun _ => .done hA fun _ _ h => h

theorem retireLease_keeps (hA : RelayView.Kept t A) : ∀ generation,
    Ensures t A (retireLease generation) fun _ => A
  | some _ => .bind (fun _ => A) (retireFirewall_keeps hA) fun _ => .done hA fun _ _ h => h
  | none => .done hA fun _ _ h => h

end Firewall

end PocketStream
