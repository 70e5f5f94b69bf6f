import Mathlib.Control.Monad.Basic
import PocketStream.Config.Validation

/-! # The settings store

Settings live in memory and in one file. A transaction computes new settings
from a copy, saves them and publishes them only then; the older writers change
the settings in memory first and save afterwards.
-/

namespace PocketStream

section Styles

variable {m : Type → Type} [Monad m] {τ : Type}

/-- Change the settings in memory, then save them. -/
def mutateThenSaveWith (settings : AppSettings)
    (change : AppSettings → Fallible (τ × Bool × AppSettings))
    (persist : AppSettings → m (Fallible Unit)) : m (Fallible τ × AppSettings) :=
  match change settings with
  | .error e => pure (.error e, settings)
  | .ok (value, false, _) => pure (.ok value, settings)
  | .ok (value, true, next) => do
    let result ← persist next
    return (result.map fun () => value, next)

/-- The transaction of the two re-stream commits: save the checked copy, then publish only
the fields of the commit. -/
def commitRestreamWith (settings : AppSettings) (publish : AppSettings → AppSettings)
    (persist : AppSettings → m (Fallible Unit)) : m (Fallible AppSettings × AppSettings) :=
  match validateProspectiveSettings (publish settings) with
  | .error e => pure (.error e, settings)
  | .ok prospective => do
    match ← persist prospective with
    | .error e => return (.error e, settings)
    | .ok () => return (.ok prospective, publish settings)

end Styles

/-- The settings in memory and those a restart would load. -/
@[ext] structure Store where
  memory : AppSettings
  disk : AppSettings
  deriving DecidableEq

namespace Store

/-- `persist`: a failed write leaves the file as it was. -/
def save (saved : Fallible Unit) (next : AppSettings) : StateM AppSettings (Fallible Unit) :=
  fun disk => match saved with
    | .ok () => (.ok (), next)
    | .error e => (.error e, disk)

variable {τ : Type}

/-- `change_settings_if_with` -/
def changeIf (w : Store) (change : AppSettings → Fallible (τ × Bool × AppSettings))
    (saved : Fallible Unit) : Fallible τ × Store :=
  let ((result, memory), disk) := changeSettingsIfWith w.memory change (save saved) |>.run w.disk
  (result, ⟨memory, disk⟩)

/-- `change_settings_with` -/
def change (w : Store) (change : AppSettings → Fallible (τ × AppSettings))
    (saved : Fallible Unit) : Fallible τ × Store :=
  let ((result, memory), disk) := changeSettingsWith w.memory change (save saved) |>.run w.disk
  (result, ⟨memory, disk⟩)

def mutateThenSave (w : Store) (change : AppSettings → Fallible (τ × Bool × AppSettings))
    (saved : Fallible Unit) : Fallible τ × Store :=
  let ((result, memory), disk) := mutateThenSaveWith w.memory change (save saved) |>.run w.disk
  (result, ⟨memory, disk⟩)

def commitRestream (w : Store) (publish : AppSettings → AppSettings) (saved : Fallible Unit) :
    Fallible AppSettings × Store :=
  let ((result, memory), disk) := commitRestreamWith w.memory publish (save saved) |>.run w.disk
  (result, ⟨memory, disk⟩)

/-- What a transaction can do: nothing, or save and publish the changed copy. -/
theorem changeIf_cases (w : Store) (change : AppSettings → Fallible (τ × Bool × AppSettings))
    (saved : Fallible Unit) :
    (∃ e, w.changeIf change saved = (.error e, w)) ∨
    (∃ result next, change w.memory = .ok (result, false, next) ∧
      w.changeIf change saved = (.ok result, w)) ∨
    ∃ result next, change w.memory = .ok (result, true, next) ∧ saved = .ok () ∧
      w.changeIf change saved = (.ok result, ⟨next, next⟩) := by
  unfold changeIf changeSettingsIfWith
  cases hc : change w.memory with
  | error e => exact .inl ⟨e, rfl⟩
  | ok r =>
    obtain ⟨result, changed, next⟩ := r
    cases changed with
    | false => exact .inr (.inl ⟨result, next, rfl, rfl⟩)
    | true =>
      cases saved with
      | error e => exact .inl ⟨e, rfl⟩
      | ok u => exact .inr (.inr ⟨result, next, rfl, rfl, rfl⟩)

theorem change_eq_changeIf (w : Store) (f : AppSettings → Fallible (τ × AppSettings))
    (saved : Fallible Unit) : w.change f saved =
      w.changeIf (fun s => (f s).map fun (value, next) => (value, true, next)) saved := rfl

theorem change_cases (w : Store) (f : AppSettings → Fallible (τ × AppSettings))
    (saved : Fallible Unit) :
    (∃ e, w.change f saved = (.error e, w)) ∨
    ∃ result next, f w.memory = .ok (result, next) ∧ saved = .ok () ∧
      w.change f saved = (.ok result, ⟨next, next⟩) := by
  rw [change_eq_changeIf]
  rcases w.changeIf_cases _ saved with h | ⟨result, next, hf, -⟩ | ⟨result, next, hf, hs, he⟩
  · exact .inl h
  · cases h : f w.memory <;> rw [h] at hf <;> cases hf
  · refine .inr ⟨result, next, ?_, hs, he⟩
    cases h : f w.memory with
    | error e =>
      rw [h] at hf
      cases hf
    | ok r =>
      rw [h] at hf
      cases hf
      rfl

/-- A transaction whose save fails changes nothing. -/
theorem changeIf_failed (w : Store) (change : AppSettings → Fallible (τ × Bool × AppSettings))
    (e : AppError) : (w.changeIf change (.error e)).2 = w := by
  rcases w.changeIf_cases change (.error e) with ⟨_, h⟩ | ⟨_, _, _, h⟩ | ⟨_, _, _, hs, _⟩
  · rw [h]
  · rw [h]
  · cases hs

theorem commitRestream_failed (w : Store) (publish : AppSettings → AppSettings) (e : AppError) :
    (w.commitRestream publish (.error e)).2 = w := by
  unfold commitRestream commitRestreamWith
  cases validateProspectiveSettings (publish w.memory) <;> rfl

section Mutate

variable {w : Store} {change : AppSettings → Fallible (τ × Bool × AppSettings)}
  {saved : Fallible Unit} {value : τ} {next : AppSettings}

theorem mutateThenSave_error {e : AppError} (hc : change w.memory = .error e) :
    w.mutateThenSave change saved = (.error e, w) := by
  unfold mutateThenSave mutateThenSaveWith
  rw [hc]
  rfl

theorem mutateThenSave_unchanged (hc : change w.memory = .ok (value, false, next)) :
    w.mutateThenSave change saved = (.ok value, w) := by
  unfold mutateThenSave mutateThenSaveWith
  rw [hc]
  rfl

theorem mutateThenSave_unsaved {e : AppError} (hc : change w.memory = .ok (value, true, next)) :
    w.mutateThenSave change (.error e) = (.error e, ⟨next, w.disk⟩) := by
  unfold mutateThenSave mutateThenSaveWith
  rw [hc]
  rfl

end Mutate

/-- A writer that changes memory first keeps it when the save fails only if there was
nothing to change; the file stays as it was. -/
theorem mutateThenSave_failed (w : Store)
    (change : AppSettings → Fallible (τ × Bool × AppSettings)) (e : AppError) :
    (w.mutateThenSave change (.error e)).2.disk = w.disk ∧
      ((w.mutateThenSave change (.error e)).2 = w ↔
        ∀ value next, change w.memory = .ok (value, true, next) → next = w.memory) := by
  cases hc : change w.memory with
  | error e' => simp [mutateThenSave_error hc]
  | ok r =>
    obtain ⟨value, changed, next⟩ := r
    cases changed with
    | false => simp [mutateThenSave_unchanged hc]
    | true => simp [mutateThenSave_unsaved hc, Store.ext_iff]

end Store

end PocketStream
