import PocketStream.Native.Operations

/-! # Transactions of native steps

A transaction merges the completions of its native steps with the outcome of
the work around them. A step after a failed one is refused before it runs.
-/

namespace PocketStream

open LocalExecutor

variable {J : Type}

structure ScopeState (J : Type) where
  last : Option (Completion (Facts J)) := none
  failed : Bool := false
  mutated : Bool := false

namespace ScopeState

def record (s : ScopeState J) (completion : Completion (Facts J)) (failed : Bool) :
    ScopeState J where
  last := some completion
  failed := s.failed || failed
  mutated := s.mutated || completion.observation.any fun facts =>
    facts.mutated || (completion.outcome == .uncertain && !facts.observes)

def finish (s : ScopeState J) (outcome : Outcome) (step : String) : Completion (Facts J) :=
  let completion := s.last.getD (.new outcome step)
  let merged :=
    if completion.outcome ≠ .uncertain then
      if (s.mutated ∧ outcome ≠ .completed) ∨ (s.failed ∧ outcome = .completed) then .uncertain
      else outcome
    else completion.outcome
  { completion with outcome := merged, step := step }

end ScopeState

/-- The modes of `firewall::Operation`. -/
inductive FirewallMode | startup | install | uninstall | ensure | disable
  deriving DecidableEq, Repr

/-- A step of a transaction with everything that happens around it, and whether the
operating system is changed by it. -/
inductive NativeStep where
  | execute (op : Operation) (run : OperationRun) (changed : Bool)
  | firewall (mode : FirewallMode) (run : FirewallRun) (changed : Bool)

namespace NativeStep

variable (codec : ReportCodec J)

def changed : NativeStep → Bool
  | execute _ _ changed => changed
  | firewall _ _ changed => changed

/-- The completion a step records, and whether it counts as failed. -/
def recorded : NativeStep → Completion (Facts J) × Bool
  | execute op run _ =>
    let (completion, result) := observedResult codec op run
    (completion, completion.outcome ≠ .completed || !result.toBool)
  | firewall _ run _ =>
    let (completion, _) := executeFirewall codec run
    (completion, completion.outcome ≠ .completed)

def outcome (s : NativeStep) : Outcome := (s.recorded codec).1.outcome

/-- The step's report says that something was changed. -/
def reportsMutation (s : NativeStep) : Bool := (s.recorded codec).1.observation.any Facts.mutated

end NativeStep

/-- A step as a transaction reaches it: whether cancellation was requested by then. -/
structure NativeCall where
  cancelRequested : Bool
  step : NativeStep

section Scope

variable (codec : ReportCodec J)

/-- `check_writes_available` inside a transaction -/
def ScopeState.writesAvailable (s : ScopeState J) (cancelRequested : Bool) : Bool :=
  !cancelRequested && !s.failed

/-- The steps of a transaction in order: the state they leave and those that ran. -/
def runScope (s : ScopeState J) : List NativeCall → ScopeState J × List NativeStep
  | [] => (s, [])
  | call :: calls =>
    if s.writesAvailable call.cancelRequested then
      let (completion, failed) := call.step.recorded codec
      let (s', ran) := runScope (s.record completion failed) calls
      (s', call.step :: ran)
    else runScope s calls

/-- The outcome a transaction records, from the outcome of its work. -/
def transactionOutcome (calls : List NativeCall) (work : Outcome) : Outcome :=
  ((runScope codec {} calls).1.finish work "transaction_finished").outcome

/-- What the recorded outcome says about the steps that ran. -/
structure Classified (final : Outcome) (ran : List NativeStep) : Prop where
  completed : final = .completed → ∀ s ∈ ran, s.outcome codec = .completed
  certain : final ≠ .uncertain → ∀ s ∈ ran, s.outcome codec ≠ .uncertain
  unchanged : final = .failed ∨ final = .canceled → ∀ s ∈ ran, s.changed = false

/-- What the scripts guarantee of a step that changes the operating system: its process was
dispatched, and a report it prints says so. Only the installer's removals of rules that are
already disabled go unreported. -/
def NativeStep.Accounted : NativeStep → Prop
  | .execute op run changed => changed →
      (preflight op run).isSome ∧ run.cancelRequested = false ∧
        ∀ p report, run.process = some p → parseReport codec p = .ok report → report.mutated
  | .firewall mode run changed => changed →
      ∀ p report, run = .exited p → parseFirewallReport codec p = some report →
        report.mutated ∨ mode = .install ∨ mode = .uninstall

/-- A change no report tells of, from a process that is not taken as uncertain: a single
address operation without a report whose effect was observed, or an installer's removals. -/
def NativeStep.unreported : NativeStep → Bool
  | .execute op run changed => changed && !run.cancelRequested &&
      match preflight op run, run.process with
      | some before, some p => !(parseReport codec p).toBool &&
          addressEffectObserved op before (if op.identity.isSome then run.after else none)
      | _, _ => false
  | .firewall mode run changed => changed && (mode == .install || mode == .uninstall) &&
      match run with
      | .exited p => (firewallFailure p).isNone &&
          (parseFirewallReport codec p).any fun r => !r.mutated && !r.outcome.isUncertain
      | _ => false

/-- The runs whose failure or cancellation hides a change: nothing else makes the outcome
uncertain. -/
def HiddenChange (work : Outcome) (ran : List NativeStep) : Prop :=
  (work = .failed ∨ work = .canceled) ∧ (∃ s ∈ ran, s.unreported codec) ∧
    ∀ s ∈ ran, s.reportsMutation codec = false ∧ s.outcome codec ≠ .uncertain

end Scope

section Steps

variable {codec : ReportCodec J} {op : Operation} {run : OperationRun} {p : ProcessResult}
  {before after : Option NativeAdapter}

/-- Without a report, only an observed address effect is not uncertain. -/
theorem evaluateResult_error {e : AppError} (h : parseReport codec p = .error e) :
    (evaluateResult codec op before after p).1.outcome =
        (if addressEffectObserved op before after then .completed else .uncertain) ∧
      (evaluateResult codec op before after p).1.observation =
        some (.operation op before after (some p) none) := by
  unfold evaluateResult
  rw [h]
  dsimp only
  split
  · exact ⟨rfl, rfl⟩
  · exact ⟨rfl, rfl⟩

/-- With a report, the completion keeps it. -/
theorem evaluateResult_ok {report : Report J} (h : parseReport codec p = .ok report) :
    (evaluateResult codec op before after p).1.observation =
      some (.operation op before after (some p) (some report)) := by
  unfold evaluateResult
  rw [h]
  dsimp only
  split
  · rfl
  · split
    · rfl
    · split
      · rfl
      · rfl

/-- A change shows in the step's report or its outcome, or goes unreported. -/
theorem NativeStep.Accounted.shows {s : NativeStep} (h : s.Accounted codec)
    (hc : s.changed = true) :
    s.reportsMutation codec = true ∨ s.outcome codec = .uncertain ∨ s.unreported codec = true := by
  cases s with
  | execute op run changed =>
    obtain rfl : changed = true := hc
    obtain ⟨hpre, hcancel, hreport⟩ := h rfl
    obtain ⟨before, hbefore⟩ := Option.isSome_iff_exists.mp hpre
    simp only [reportsMutation, outcome, unreported, recorded, observedResult, hbefore, hcancel,
      Bool.false_eq_true, if_false]
    cases hp : run.process with
    | none => exact .inr (.inl rfl)
    | some p =>
      cases hr : parseReport codec p with
      | error e =>
        dsimp only
        generalize (if op.identity.isSome = true then run.after else none) = after
        rw [(evaluateResult_error hr).1]
        cases ha : addressEffectObserved op before after with
        | true => exact .inr (.inr (by simp [hr, Except.toBool]))
        | false => exact .inr (.inl rfl)
      | ok report =>
        dsimp only
        rw [evaluateResult_ok hr]
        exact .inl (hreport p report hp hr)
  | firewall mode run changed =>
    obtain rfl : changed = true := hc
    simp only [reportsMutation, outcome, unreported, recorded, executeFirewall]
    cases run with
    | setupFailed => exact .inr (.inl rfl)
    | taskFailed => exact .inr (.inl rfl)
    | exited p =>
      dsimp only [evaluateFirewall]
      cases hf : firewallFailure p with
      | some failure => exact .inr (.inl rfl)
      | none =>
        cases hr : parseFirewallReport codec p with
        | none => exact .inr (.inl rfl)
        | some report =>
          dsimp only
          cases hu : report.outcome.isUncertain with
          | true => exact .inr (.inl rfl)
          | false =>
            cases hm : report.mutated with
            | true => exact .inl hm
            | false =>
              have hmode := (h rfl p report rfl hr).resolve_left (by simp [hm])
              exact .inr (.inr (by simpa [hm, hu] using hmode))

theorem NativeStep.changed_of_unreported {s : NativeStep} (h : s.unreported codec = true) :
    s.changed = true := by
  cases s <;> simp only [unreported, Bool.and_eq_true] at h <;> exact h.1.1

theorem NativeStep.recorded_outcome {s : NativeStep} (h : (s.recorded codec).2 = false) :
    s.outcome codec = .completed := by
  cases s with
  | execute op run changed =>
    simp only [recorded, Bool.or_eq_false_iff, decide_eq_false_iff_not, not_not] at h
    exact h.1
  | firewall mode run changed =>
    simp only [recorded, decide_eq_false_iff_not, not_not] at h
    exact h

variable (codec) in
/-- What a transaction's state knows of the steps that ran. -/
structure Summarizes (s : ScopeState J) (ran : List NativeStep) : Prop where
  last : s.last = ran.getLast?.map fun x => (x.recorded codec).1
  failed : s.failed = ran.any fun x => (x.recorded codec).2
  mutated : s.mutated = true →
    ∃ x ∈ ran, x.reportsMutation codec = true ∨ x.outcome codec = .uncertain
  reported : ∀ x ∈ ran, x.reportsMutation codec = true → s.mutated = true
  earlier : ∀ x ∈ ran.dropLast, (x.recorded codec).2 = false

variable {st : ScopeState J} {ran : List NativeStep}

theorem Summarizes.nil : Summarizes codec ({} : ScopeState J) [] where
  last := rfl
  failed := rfl
  mutated h := by cases h
  reported _ hx := by cases hx
  earlier _ hx := by cases hx

theorem Summarizes.record (h : Summarizes codec st ran) (hf : st.failed = false)
    (x : NativeStep) :
    Summarizes codec (st.record (x.recorded codec).1 (x.recorded codec).2) (ran ++ [x]) where
  last := by simp [ScopeState.record]
  failed := by simp [ScopeState.record, h.failed]
  mutated hm := by
    simp only [ScopeState.record, Bool.or_eq_true, Option.any_eq_true] at hm
    rcases hm with hm | ⟨facts, hobs, hm | hu⟩
    · obtain ⟨y, hy, hm⟩ := h.mutated hm
      exact ⟨y, List.mem_append_left _ hy, hm⟩
    · exact ⟨x, by simp, .inl (by simp [NativeStep.reportsMutation, hobs, hm])⟩
    · simp only [Bool.and_eq_true, beq_iff_eq] at hu
      exact ⟨x, by simp, .inr hu.1⟩
  reported y hy hm := by
    simp only [ScopeState.record, Bool.or_eq_true]
    rcases List.mem_append.mp hy with hy | hy
    · exact .inl (h.reported y hy hm)
    · obtain rfl := List.mem_singleton.mp hy
      obtain ⟨facts, hobs, hm⟩ := Option.any_eq_true _ _ |>.mp hm
      exact .inr (by simp [hobs, hm])
  earlier y hy := by
    rw [List.dropLast_concat] at hy
    have := h.failed ▸ hf
    simp only [List.any_eq_false, Bool.not_eq_true] at this
    exact this y hy

theorem Summarizes.runScope {calls : List NativeCall} (h : Summarizes codec st ran) :
    Summarizes codec (runScope codec st calls).1 (ran ++ (runScope codec st calls).2) := by
  induction calls generalizing st ran with
  | nil => simpa [PocketStream.runScope] using h
  | cons call calls ih =>
    unfold PocketStream.runScope
    split
    · next hw =>
      simp only [ScopeState.writesAvailable, Bool.and_eq_true, Bool.not_eq_true'] at hw
      have := ih (h.record hw.2 call.step)
      rwa [List.append_assoc] at this
    · exact ih h

theorem Summarizes.eq_nil (h : Summarizes codec st ran) (hl : st.last = none) : ran = [] := by
  rw [h.last, Option.map_eq_none_iff, List.getLast?_eq_none_iff] at hl
  exact hl

/-- Only the last step that ran can be uncertain. -/
theorem Summarizes.uncertain (h : Summarizes codec st ran) {c : Completion (Facts J)}
    (hl : st.last = some c) :
    (∃ x ∈ ran, x.outcome codec = .uncertain) ↔ c.outcome = .uncertain := by
  rw [h.last, Option.map_eq_some_iff] at hl
  obtain ⟨y, hy, rfl⟩ := hl
  obtain ⟨init, rfl⟩ := List.getLast?_eq_some_iff.mp hy
  have hinit := h.earlier
  rw [List.dropLast_concat] at hinit
  constructor
  · rintro ⟨x, hx, hu⟩
    rcases List.mem_append.mp hx with hx | hx
    · rw [NativeStep.recorded_outcome (hinit x hx)] at hu
      cases hu
    · exact List.mem_singleton.mp hx ▸ hu
  · exact fun hu => ⟨y, by simp, hu⟩

/-- The recorded outcome is the work's unless a step makes it uncertain. -/
theorem Summarizes.finish (h : Summarizes codec st ran) (work : Outcome) (step : String) :
    (st.finish work step).outcome =
      if (∃ x ∈ ran, x.outcome codec = .uncertain) ∨ (st.mutated ∧ work ≠ .completed) ∨
        (st.failed ∧ work = .completed) then .uncertain else work := by
  unfold ScopeState.finish
  cases hl : st.last with
  | none =>
    obtain rfl := h.eq_nil hl
    have hm : st.mutated = false := by
      by_contra hm
      obtain ⟨x, hx, -⟩ := h.mutated (by simpa using hm)
      cases hx
    have hf : st.failed = false := h.failed
    cases work <;> simp [Completion.new, hm, hf]
  | some c =>
    simp only [h.uncertain hl, Option.getD_some]
    by_cases hu : c.outcome = .uncertain
    · simp [hu]
    · simp [hu]

/-- A transaction is classified right exactly when no failure hides a change. -/
theorem Summarizes.classified (h : Summarizes codec st ran) (hacc : ∀ x ∈ ran, x.Accounted codec)
    (work : Outcome) (step : String) :
    Classified codec (st.finish work step).outcome ran ↔ ¬ HiddenChange codec work ran := by
  rw [h.finish]
  constructor
  · rintro hclass ⟨hwork, ⟨x, hx, hun⟩, hquiet⟩
    have hm : ¬ st.mutated = true := fun hm => by
      obtain ⟨y, hy, hrep | hu⟩ := h.mutated hm
      · exact Bool.false_ne_true ((hquiet y hy).1.symm.trans hrep)
      · exact (hquiet y hy).2 hu
    have hnone : ¬ ∃ x ∈ ran, x.outcome codec = .uncertain :=
      fun ⟨y, hy, hu⟩ => (hquiet y hy).2 hu
    have hcomp : work ≠ .completed := by rcases hwork with rfl | rfl <;> decide
    rw [if_neg (by
      rintro (hu | ⟨hm', -⟩ | ⟨-, hw⟩)
      · exact hnone hu
      · exact hm hm'
      · exact hcomp hw)] at hclass
    have := hclass.unchanged hwork x hx
    rw [NativeStep.changed_of_unreported hun] at this
    cases this
  · intro hhidden
    split
    · refine ⟨fun hc => (by cases hc), fun hc => absurd rfl hc, fun hc => ?_⟩
      rcases hc with hc | hc <;> cases hc
    · next hquiet =>
      simp only [not_or, not_exists, not_and] at hquiet
      obtain ⟨hcert, hmut, hfail⟩ := hquiet
      refine ⟨fun hc x hx => ?_, fun _ => hcert, fun hwork x hx => ?_⟩
      · have hf : (ran.any fun x => (x.recorded codec).2) = false := by
          rw [← h.failed, ← Bool.not_eq_true]
          exact fun hf => hfail hf hc
        simp only [List.any_eq_false, Bool.not_eq_true] at hf
        exact NativeStep.recorded_outcome (hf x hx)
      · by_contra hch
        have hcomp : work ≠ .completed := by rcases hwork with rfl | rfl <;> decide
        have hm : ¬ st.mutated = true := fun hm => hmut hm hcomp
        have hrep : ∀ y ∈ ran, y.reportsMutation codec = false := fun y hy => by
          by_contra hr
          exact hm (h.reported y hy (by simpa using hr))
        rcases (hacc x hx).shows (by simpa using hch) with hs | hs | hs
        · exact hm (h.reported x hx hs)
        · exact hcert x hx hs
        · exact hhidden ⟨hwork, ⟨x, hx, hs⟩, fun y hy => ⟨hrep y hy, hcert y hy⟩⟩

theorem mem_runScope {calls : List NativeCall} {x : NativeStep}
    (h : x ∈ (runScope codec st calls).2) : ∃ call ∈ calls, call.step = x := by
  induction calls generalizing st with
  | nil => cases h
  | cons call calls ih =>
    unfold runScope at h
    split at h
    · rcases List.mem_cons.mp h with rfl | h
      · exact ⟨call, List.mem_cons_self .., rfl⟩
      · obtain ⟨c, hc, hx⟩ := ih h
        exact ⟨c, List.mem_cons_of_mem _ hc, hx⟩
    · obtain ⟨c, hc, hx⟩ := ih h
      exact ⟨c, List.mem_cons_of_mem _ hc, hx⟩

end Steps

/-- Every transaction of native steps is classified right exactly when it does not end as
failed or canceled over a change that no step accounts for. -/
theorem transaction_classified_iff (codec : ReportCodec J) (calls : List NativeCall)
    (work : Outcome) (h : ∀ call ∈ calls, call.step.Accounted codec) :
    Classified codec (transactionOutcome codec calls work) (runScope codec {} calls).2 ↔
      ¬ HiddenChange codec work (runScope codec {} calls).2 := by
  have hnil : Summarizes codec {} [] := Summarizes.nil
  have hs : Summarizes codec (runScope codec {} calls).1 ([] ++ (runScope codec {} calls).2) :=
    hnil.runScope
  rw [List.nil_append] at hs
  refine hs.classified (fun x hx => ?_) work _
  obtain ⟨call, hc, rfl⟩ := mem_runScope hx
  exact h call hc

section Interrupted

def removeWiredAddress : Operation where
  kind := .removeAddress
  identity := some wiredAdapter.identity
  address := some ⟨192, 168, 5, 10⟩
  prefixLen := some 24
  automatic := false

/-- The process times out after the address is gone. -/
def interruptedRemoval : NativeStep :=
  .execute removeWiredAddress
    { snapshot := .ok wiredAdapter, cancelRequested := false,
      process := some ⟨1460, .timedOut, ⟨[], false, false⟩, ⟨[], false, false⟩, true, true⟩,
      after := some { wiredAdapter with ips := [] } } true

/-- A reader for which every result is unreadable. -/
def noReports : ReportCodec Unit := ⟨fun _ => none, fun _ => none, fun _ => none⟩

theorem interruptedRemoval_accounted : interruptedRemoval.Accounted noReports :=
  fun _ => ⟨by decide +kernel, rfl, fun p report _ h => by
    unfold parseReport at h
    split at h
    · cases h
    · cases h⟩

/-- The removal takes effect and its transaction fails, and the outcome is failed. -/
theorem interrupted_removal_misclassified :
    (∀ call ∈ [NativeCall.mk false interruptedRemoval], call.step.Accounted noReports) ∧
      transactionOutcome noReports [⟨false, interruptedRemoval⟩] .failed = .failed ∧
      ¬ Classified noReports (transactionOutcome noReports [⟨false, interruptedRemoval⟩] .failed)
        (runScope noReports {} [⟨false, interruptedRemoval⟩]).2 := by
  have hfinal : transactionOutcome noReports [⟨false, interruptedRemoval⟩] .failed = .failed := by
    decide +kernel
  refine ⟨fun call hc => ?_, hfinal, fun hclass => ?_⟩
  · obtain rfl := List.mem_singleton.mp hc
    exact interruptedRemoval_accounted
  · have := hclass.unchanged (.inl hfinal) interruptedRemoval (List.mem_singleton.mpr rfl)
    cases this

theorem transaction_classified_iff_interrupted :
    Classified noReports (transactionOutcome noReports [⟨false, interruptedRemoval⟩] .failed)
        (runScope noReports {} [⟨false, interruptedRemoval⟩]).2 ↔
      ¬ HiddenChange noReports .failed (runScope noReports {} [⟨false, interruptedRemoval⟩]).2 :=
  transaction_classified_iff noReports [⟨false, interruptedRemoval⟩] .failed fun call hc => by
    obtain rfl := List.mem_singleton.mp hc
    exact interruptedRemoval_accounted

end Interrupted

end PocketStream
