import PocketStream.Config.Writers
import PocketStream.Foundation.Interleaving
import Mathlib.Logic.Relation

/-! # Concurrent writers

Any number of calls share the settings, the file and two locks. A transaction
holds both locks from its copy to its publication, a commit holds the save lock
and takes the settings lock twice, an older writer changes the settings before
it queues for the save lock. A critical section under the settings lock alone is
one step. Every save succeeds.
-/

namespace PocketStream

open Foundation

/-- Where a call is. -/
inductive Stage where
  | start
  | waiting
  | locked
  | changed (next : AppSettings)
  | stored (next : AppSettings)
  | checked (prospective : AppSettings)
  | committed (prospective : AppSettings)
  | queued
  | saving
  | cloned (snapshot : AppSettings)
  | leaving
  | done

namespace Stage

/-- Whether the call holds `CONFIG_SAVE_LOCK`. -/
def holdsSave : Stage → Bool
  | start | queued | done => false
  | _ => true

/-- Whether the call holds the settings lock between steps. -/
def holdsSettings : Stage → Bool
  | locked | changed _ | stored _ => true
  | _ => false

/-- Whether the change of the call is in memory, or found to be none. -/
def effective : Stage → Bool
  | queued | saving | cloned _ | leaving | done => true
  | _ => false

/-- Whether the call has changed memory and not yet copied it for its save. -/
def unsaved : Stage → Bool
  | queued | saving => true
  | _ => false

/-- Whether the call still has to bring memory and file together. -/
def busy : Stage → Bool
  | queued | saving | stored _ | checked _ | committed _ | cloned _ => true
  | _ => false

end Stage

variable {ι : Type} [DecidableEq ι]

/-- The shared state, the stages of the calls and the order of their effects. -/
structure Calls (ι : Type) where
  memory : AppSettings
  persisted : Option AppSettings
  saveLock : Option ι
  settingsLock : Option ι
  stage : ι → Stage
  order : List ι

def Calls.init (ι : Type) (memory : AppSettings) : Calls ι where
  memory := memory
  persisted := none
  saveLock := none
  settingsLock := none
  stage := fun _ => .start
  order := []

def Calls.goto (c : Calls ι) (i : ι) (s : Stage) : Calls ι :=
  { c with stage := Function.update c.stage i s }

inductive CallStep (writer : ι → Writer) : Calls ι → Calls ι → Prop where
  /-- `_save`, at the start of a transaction or a commit. -/
  | lockSave {c : Calls ι} (i : ι) (hs : c.stage i = .start)
    (hw : ∀ change, (writer i).style ≠ .mutate change) (hfree : c.saveLock = none) :
    CallStep writer c ({ c with saveLock := some i }.goto i .waiting)
  | lockSettings {c : Calls ι} (i : ι) {change} (hs : c.stage i = .waiting)
    (hw : (writer i).style = .transaction change) (hfree : c.settingsLock = none) :
    CallStep writer c ({ c with settingsLock := some i }.goto i .locked)
  | change {c : Calls ι} (i : ι) {change next} (hs : c.stage i = .locked)
    (hw : (writer i).style = .transaction change)
    (hc : change c.memory = .ok ((), true, next)) :
    CallStep writer c (c.goto i (.changed next))
  | changeNothing {c : Calls ι} (i : ι) {change} (hs : c.stage i = .locked)
    (hw : (writer i).style = .transaction change)
    (hc : ∀ next, change c.memory ≠ .ok ((), true, next)) :
    CallStep writer c
      ({ c with saveLock := none, settingsLock := none, order := c.order ++ [i] }.goto i .done)
  | persist {c : Calls ι} (i : ι) {next} (hs : c.stage i = .changed next) :
    CallStep writer c ({ c with persisted := some next }.goto i (.stored next))
  | publish {c : Calls ι} (i : ι) {next} (hs : c.stage i = .stored next) :
    CallStep writer c
      ({ c with memory := next, saveLock := none, settingsLock := none
                order := c.order ++ [i] }.goto i .done)
  | check {c : Calls ι} (i : ι) {publish prospective} (hs : c.stage i = .waiting)
    (hw : (writer i).style = .commit publish) (hfree : c.settingsLock = none)
    (hc : validateProspectiveSettings (publish c.memory) = .ok prospective) :
    CallStep writer c (c.goto i (.checked prospective))
  | reject {c : Calls ι} (i : ι) {publish e} (hs : c.stage i = .waiting)
    (hw : (writer i).style = .commit publish) (hfree : c.settingsLock = none)
    (hc : validateProspectiveSettings (publish c.memory) = .error e) :
    CallStep writer c ({ c with order := c.order ++ [i] }.goto i .leaving)
  | persistCommit {c : Calls ι} (i : ι) {prospective} (hs : c.stage i = .checked prospective) :
    CallStep writer c ({ c with persisted := some prospective }.goto i (.committed prospective))
  | publishCommit {c : Calls ι} (i : ι) {publish prospective}
    (hs : c.stage i = .committed prospective) (hw : (writer i).style = .commit publish)
    (hfree : c.settingsLock = none) :
    CallStep writer c
      ({ c with memory := publish c.memory, order := c.order ++ [i] }.goto i .leaving)
  | mutate {c : Calls ι} (i : ι) {change next} (hs : c.stage i = .start)
    (hw : (writer i).style = .mutate change) (hfree : c.settingsLock = none)
    (hc : change c.memory = .ok ((), true, next)) :
    CallStep writer c ({ c with memory := next, order := c.order ++ [i] }.goto i .queued)
  | mutateNothing {c : Calls ι} (i : ι) {change} (hs : c.stage i = .start)
    (hw : (writer i).style = .mutate change) (hfree : c.settingsLock = none)
    (hc : ∀ next, change c.memory ≠ .ok ((), true, next)) :
    CallStep writer c ({ c with order := c.order ++ [i] }.goto i .done)
  /-- `save` takes its lock before it copies the settings. -/
  | lockQueued {c : Calls ι} (i : ι) (hs : c.stage i = .queued) (hfree : c.saveLock = none) :
    CallStep writer c ({ c with saveLock := some i }.goto i .saving)
  | clone {c : Calls ι} (i : ι) (hs : c.stage i = .saving) (hfree : c.settingsLock = none) :
    CallStep writer c (c.goto i (.cloned c.memory))
  | persistClone {c : Calls ι} (i : ι) {snapshot} (hs : c.stage i = .cloned snapshot) :
    CallStep writer c ({ c with persisted := some snapshot }.goto i .leaving)
  | leave {c : Calls ι} (i : ι) (hs : c.stage i = .leaving) :
    CallStep writer c ({ c with saveLock := none }.goto i .done)

/-- What a call does to the settings when it runs alone and its save succeeds. -/
def Style.apply (s : AppSettings) : Style → AppSettings
  | transaction change | mutate change =>
    match change s with
    | .ok ((), true, next) => next
    | _ => s
  | commit publish =>
    if (validateProspectiveSettings (publish s)).toBool then publish s else s

def Writer.apply (s : AppSettings) (writer : Writer) : AppSettings := writer.style.apply s

/-- A call alone whose save succeeds has that effect. -/
theorem Store.write_saved_memory (w : Store) (writer : Writer) :
    (w.write writer (.ok ())).memory = writer.apply w.memory := by
  rw [write, Writer.apply]
  cases writer.style with
  | transaction change | mutate change =>
    simp only [Style.perform, changeSettingsIfWith, mutateThenSaveWith, Style.apply]
    cases hc : change w.memory with
    | error e => rfl
    | ok r =>
      obtain ⟨⟨⟩, changed, next⟩ := r
      cases changed <;> rfl
  | commit publish =>
    simp only [Style.perform, commitRestreamWith, Style.apply]
    cases validateProspectiveSettings (publish w.memory) <;> rfl

end PocketStream
