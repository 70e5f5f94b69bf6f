import PocketStream.Native.OperationEvidence

/-! # Runs of the native operation script

Whatever the calls of a run answer, at every point of it a call that changes an
adapter is sanctioned, and a run that ends prints an account of what it did. The
application takes a failed operation as one that changed nothing, and it is so.
-/

namespace PocketStream

open Foundation Routine World

namespace OperationScript

variable {host : ScriptHost} {data : OperationInput}

/-- A successful operation read the state before its first write and again after its last, and
reports the state it has achieved. -/
def Concluded (host : ScriptHost) (data : OperationInput) (result : ScriptData)
    (log : ScriptLog) : Prop :=
  ∃ id before after l₁ p₁ l₂ p₂, data.identity = some id ∧ log = l₁ ++ p₁ ++ l₂ ++ p₂ ∧
    Unwritten l₁ ∧ Shows host id p₁ before ∧ Shows host id p₂ after ∧
    Achieved host data before after ∧ result = .state (observed after)

/-- A run that listed its steps, with what a successful operation has concluded. -/
def Completed (host : ScriptHost) (data : OperationInput) (result : ScriptData) (t : ScriptRun)
    (log : ScriptLog) : Prop :=
  Taken data (fun _ => True) (Operation.requiredSteps data.kind) t log ∧
    t.stage.utf8ByteSize ≤ 64 ∧ (data.kind ≠ .inventory → Concluded host data result log)

theorem Taken.weaken {R : ScriptLog → Prop} {names : List String} {t : ScriptRun} {log : ScriptLog}
    (h : Taken data R names t log) : Taken data (fun _ => True) names t log :=
  { h with holds := True.intro }

theorem Taken.extend {R R' : ScriptLog → Prop} {names : List String} {t : ScriptRun}
    {log part : ScriptLog} (h : Taken data R names t log) (hpart : Unwritten part)
    (hR : R' (log ++ part)) : Taken data R' names t (log ++ part) where
  read := List.mem_append_left _ h.read
  clean ht e he := by
    rcases List.mem_append.mp he with he | he
    · exact h.clean ht e he
    · exact hpart e he
  good := h.good
  holds := hR
  names := h.names
  exit := h.exit

/-- The first reading of the state, before anything was written. -/
def Opened (host : ScriptHost) (id : NativeIdentity) (before : NicState) (log : ScriptLog) : Prop :=
  ∃ l₁ p₁ l₂, log = l₁ ++ p₁ ++ l₂ ∧ Unwritten l₁ ∧ Shows host id p₁ before

theorem lasting_opened {id : NativeIdentity} (before : NicState) :
    Lasting fun l => Known id before l ∧ Opened host id before l := by
  rintro l e ⟨hknown, l₁, p₁, l₂, rfl, hl₁, hp₁⟩
  exact ⟨lasting_known before _ e hknown, l₁, p₁, l₂ ++ [e], by simp, hl₁, hp₁⟩

theorem Shows.known {id : NativeIdentity} {log part : ScriptLog} {before : NicState}
    (h : Shows host id part before) : Known id before (log ++ part) := by
  obtain ⟨haddresses, hroutes⟩ := h.listed
  constructor
  · intro row hr
    obtain ⟨hindex, rows, hrows, hmem⟩ := haddresses row hr
    exact ⟨hindex, rows, List.mem_append_right _ hrows, hmem⟩
  · intro row hr
    obtain ⟨hindex, rows, hrows, hmem⟩ := hroutes row hr
    exact ⟨hindex, rows, List.mem_append_right _ hrows, hmem⟩

theorem acts_inventory (hkind : data.kind = .inventory) :
    Acts host (Taken data (fun _ => True) []) (inventory host)
      (fun result t l => Completed host data result t l) (Failed data) := by
  have hsteady : Steady fun t l =>
      Taken data (fun _ => True) [] t l ∧ t.stage.utf8ByteSize ≤ 64 :=
    fun t l e h he => ⟨steady_taken (fun _ _ h => h) t l e h.1 he, h.2⟩
  refine Acts.via (fun _ t l => Taken data (fun _ => True) [] t l ∧ t.stage.utf8ByteSize ≤ 64)
    (Acts.change fun t l h => ⟨⟨⟨h.read, h.clean, h.good, h.holds⟩, h.names, h.exit⟩,
      (by decide : "inventory".utf8ByteSize ≤ 64)⟩)
    (fun _ _ h => h) fun _ => ?_
  apply Acts.seq (acts_glance rfl hsteady fun _ _ h => h.1.failed) (fun _ _ h => h)
  intro all
  apply Acts.seq ((acts_glance rfl hsteady fun _ _ h => h.1.failed).weaken fun _ _ h => h.1)
    (fun _ _ h => h)
  intro nics
  refine Acts.via (fun _ t l => Taken data (fun _ => True) ["inventory"] t l ∧
    t.stage.utf8ByteSize ≤ 64) (Acts.change fun t l h => ⟨h.1.1.step _, h.1.2⟩)
    (fun _ _ h => h) fun _ => ?_
  exact Acts.pure fun t l h => ⟨by rw [hkind]; exact h.1, h.2, fun hn => absurd hkind hn⟩

theorem acts_operate (hkind : data.kind ≠ .inventory) :
    Acts host (fun t l => Taken data (fun _ => True) [] t l ∧ Unwritten l) (operate host data)
      (fun result t l => Completed host data result t l) (Failed data) := by
  have hstage : ∀ {name : String} {bad : ScriptRun → ScriptLog → Prop},
      Acts host (fun t l => Taken data (fun _ => True) [] t l ∧ Unwritten l) (stage name)
        (fun _ t l => Taken data (fun _ => True) [] t l ∧ Unwritten l) bad :=
    acts_stage fun _ _ h =>
      ⟨⟨⟨h.1.read, h.1.clean, h.1.good, h.1.holds⟩, h.1.names, h.1.exit⟩, h.2⟩
  apply Acts.seq Acts.require (fun _ _ h => h.1.failed)
  intro id
  apply Runs.given fun _ _ h => h.2
  intro hwell
  have hid : data.identity = some id := by
    unfold wellFormed at hwell
    split at hwell
    · next id' hid' =>
      split at hwell
      · cases hwell
        exact hid'
      · cases hwell
    · cases hwell
  apply Acts.seq (hstage.weaken fun _ _ h => h.1) (fun _ _ h => h)
  intro
  have hask : Acts host (fun t l => Taken data (fun _ => True) [] t l ∧ Unwritten l)
      (ask .isAdministrator) (fun _ t l => Taken data (fun _ => True) [] t l ∧ Unwritten l)
      (Failed data) :=
    .ask (fun _ => stable_still _) (fun _ _ _ hw => by cases hw)
      (fun t l o h => ⟨steady_taken (fun _ _ h => h) t l ⟨.isAdministrator, _⟩ h.1 rfl,
        h.2.append (e := ⟨.isAdministrator, _⟩) rfl⟩) fun _ _ => stable_still _
  apply Acts.seq hask (fun _ _ h => h)
  intro administrator
  apply Acts.seq (acts_refuse fun _ _ h => h.1.failed) (fun _ _ h => h)
  intro
  apply Acts.seq (hstage.weaken fun _ _ h => h.1) (fun _ _ h => h)
  intro
  apply Acts.seq (acts_readState fun _ _ h => h.1.failed) (fun _ _ h => h)
  intro before
  apply Acts.via (fun _ => Taken data (fun l => Known id before l ∧ Opened host id before l) [])
    (Acts.require.conseq (fun _ _ h => h) (fun _ t l h => ?_) fun _ t l h => ?_) (fun _ _ h => h)
  rotate_left
  · obtain ⟨⟨l₀, part, h, rfl, hshows⟩, -⟩ := h
    exact h.1.extend hshows.unwritten
      ⟨hshows.known, l₀, part, [], by simp, h.2, hshows⟩
  · obtain ⟨l₀, part, h, rfl, hshows⟩ := h
    exact Kept.failed (h.1.extend hshows.unwritten
      (hshows.known : Known id before (l₀ ++ part))).toKept
  intro
  apply Acts.seq acts_stageTaken (fun _ _ h => h)
  intro
  apply Acts.seq (acts_perform hid (lasting_opened before) fun l h => h.1) (fun _ _ h => h)
  intro gateway
  apply Runs.given fun _ _ h => h.2
  intro hgateway
  refine Acts.via (fun _ t l => Taken data (fun l => Known id before l ∧ Opened host id before l)
      (performed data.kind) t l ∧ t.stage = "postcondition")
    (Acts.change fun t l h =>
      ⟨⟨⟨h.1.read, h.1.clean, h.1.good, h.1.holds⟩, h.1.names, h.1.exit⟩, rfl⟩)
    (fun _ _ h => h) fun _ => ?_
  apply Acts.seq (acts_readState fun _ _ h => h.1.failed) (fun _ _ h => h)
  intro after
  have hclosed : ∀ t l, (∃ l₀ part, (Taken data (fun l => Known id before l ∧
      Opened host id before l) (performed data.kind) t l₀ ∧ t.stage = "postcondition") ∧
      l = l₀ ++ part ∧ Shows host id part after) →
      Taken data (fun l => ∃ l₁ p₁ l₂ p₂, l = l₁ ++ p₁ ++ l₂ ++ p₂ ∧ Unwritten l₁ ∧
        Shows host id p₁ before ∧ Shows host id p₂ after) (performed data.kind) t l ∧
        t.stage = "postcondition" := by
    rintro t l ⟨l₀, part, ⟨h, hstage⟩, rfl, hshows⟩
    obtain ⟨l₁, p₁, l₂, rfl, hl₁, hp₁⟩ := h.holds.2
    exact ⟨h.extend hshows.unwritten ⟨l₁, p₁, l₂, part, rfl, hl₁, hp₁, hshows⟩, hstage⟩
  apply Acts.seq ((acts_postcondition hgateway).weaken hclosed) (fun _ _ h => h)
  intro
  refine Acts.via (fun _ t l => (Taken data (fun l => ∃ l₁ p₁ l₂ p₂, l = l₁ ++ p₁ ++ l₂ ++ p₂ ∧
      Unwritten l₁ ∧ Shows host id p₁ before ∧ Shows host id p₂ after)
      (Operation.requiredSteps data.kind) t l ∧ t.stage = "postcondition") ∧
      Achieved host data before after)
    (Acts.change fun t l h => ⟨⟨checked_required hkind ▸ h.1.1.step _, h.1.2⟩, h.2⟩)
    (fun _ _ h => h) fun _ => ?_
  refine Acts.pure fun t l h => ?_
  obtain ⟨⟨h, hstage⟩, hachieved⟩ := h
  refine ⟨h.weaken, by rw [hstage]; decide, fun _ => ?_⟩
  obtain ⟨l₁, p₁, l₂, p₂, hl, hl₁, hp₁, hp₂⟩ := h.holds
  exact ⟨id, before, after, l₁, p₁, l₂, p₂, hid, hl, hl₁, hp₁, hp₂, hachieved, rfl⟩

/-- A call that reads, before the input is known. -/
theorem acts_early {α : Type} {call : ScriptCall} {g : call.Reply → Except String α}
    (hcall : call.writes = false) {fresh : ScriptRun → Prop} :
    Acts host (fun t l => fresh t ∧ Unwritten l) (attempt call g)
      (fun _ t l => fresh t ∧ Unwritten l) (fun _ l => Unwritten l) := by
  apply answers_attempt
  · rintro t l - hw
    rw [hcall] at hw
    cases hw
  · exact fun t l r a h _ => ⟨h.1, h.2.append hcall⟩
  · exact fun t l r err h _ => h.2.append hcall

theorem acts_askEarly {call : ScriptCall} (hcall : call.writes = false)
    {fresh : ScriptRun → Prop} {bad : ScriptRun → ScriptLog → Prop} :
    Acts host (fun t l => fresh t ∧ Unwritten l) (ask call)
      (fun _ t l => fresh t ∧ Unwritten l) bad := by
  refine .ask (fun _ => stable_still _) (fun t l _ hw => ?_)
    (fun t l o h => ⟨h.1, h.2.append hcall⟩) fun _ _ => stable_still _
  rw [hcall] at hw
  cases hw

/-- A run that has neither written nor taken a step. -/
def Fresh (t : ScriptRun) : Prop := t.steps = [] ∧ t.nativeExit = none

/-- Nothing is written before the input is read. -/
theorem acts_admitInput :
    Acts host (fun t l => t = {} ∧ l = []) admitInput
      (fun data t l => Taken data (fun _ => True) [] t l ∧ Unwritten l)
      (fun _ l => Unwritten l) := by
  have hfresh : ∀ (t : ScriptRun) (l : ScriptLog), t = {} ∧ l = [] → Fresh t ∧ Unwritten l := by
    rintro t l ⟨rfl, rfl⟩
    exact ⟨⟨rfl, rfl⟩, fun e he => by cases he⟩
  apply Acts.seq ((acts_askEarly rfl).weaken hfresh) (fun _ _ h => h)
  intro version
  apply Acts.seq Acts.refuseIf (fun _ _ h => h.2)
  intro
  apply Acts.via (fun _ t l => Fresh t ∧ Unwritten l) (Acts.weaken
    (Acts.each (fun _ t l => Fresh t ∧ Unwritten l) fun name _ _ => acts_early rfl)
    fun _ _ h => h.1) (fun _ _ h => h)
  intro
  apply Acts.seq (acts_stage fun _ _ h => h) (fun _ _ h => h)
  intro
  apply Acts.seq (acts_askEarly rfl) (fun _ _ h => h)
  intro size
  apply Acts.seq Acts.refuseIf (fun _ _ h => h.2)
  intro
  have hparse : Acts host (fun t l => Fresh t ∧ Unwritten l)
      (attempt .parseInput CmdletError.stop)
      (fun data t l => Taken data (fun _ => True) [] t l ∧ Unwritten l)
      (fun _ l => Unwritten l) := by
    apply answers_attempt
    · exact fun _ _ _ hw => by cases hw
    · intro t l r data h hr
      obtain ⟨⟨hsteps, hexit⟩, hl⟩ := h
      have hl' : Unwritten (l ++ [⟨.parseInput, r⟩]) := hl.append rfl
      refine ⟨⟨⟨?_, fun _ => hl', ?_, True.intro⟩, ?_, .inl hexit⟩, hl'⟩
      · rw [stop_ok r data hr]
        simp
      · simp [hsteps]
      · simp [hsteps]
    · exact fun t l r err h _ => h.2.append rfl
  apply Acts.seq (hparse.weaken fun _ _ h => h.1) (fun _ _ h => h)
  intro data
  apply Acts.seq Acts.refuseIf (fun _ _ h => h.2)
  intro
  exact Acts.pure fun _ _ h => h.1

theorem acts_body :
    Acts host (fun t l => t = {} ∧ l = []) (body host)
      (fun result t l => ∃ data, Completed host data result t l)
      (fun t l => t.mutated = false → Unwritten l) := by
  refine Acts.seq acts_admitInput (fun _ _ h _ => h) fun data => ?_
  split
  · next hkind =>
    exact (acts_inventory hkind).conseq (fun _ _ h => h.1) (fun _ _ _ h => ⟨data, h⟩)
      fun _ _ _ h => h.clean
  · next hkind =>
    exact (acts_operate hkind).conseq (fun _ _ h => h) (fun _ _ _ h => ⟨data, h⟩)
      fun _ _ _ h => h.clean

/-- What is printed of a run accounts for its log. -/
structure Accounts (host : ScriptHost) (printed : UInt32 × Report ScriptData) (log : ScriptLog) :
    Prop where
  version : printed.2.version = 1
  ok : printed.2.ok = (printed.1 == 0)
  clean : printed.2.mutated = false → Unwritten log
  completed : printed.2.ok = true → ∃ data result, ⟨.parseInput, .ok data⟩ ∈ log ∧
    printed.2.data = some result ∧
    printed.2.steps.map (·.name) = Operation.requiredSteps data.kind ∧
    (∀ s ∈ printed.2.steps, goodStep s) ∧ printed.2.stage.utf8ByteSize ≤ 64 ∧
    (data.kind ≠ .inventory → Concluded host data result log)

theorem acts_script :
    Acts host (fun t l => t = {} ∧ l = []) (script host)
      (fun printed _ l => Accounts host printed l) (fun _ _ => False) := by
  have hbody : Acts host (fun t l => t = {} ∧ l = []) (body host).caught
      (fun result t => returns (fun data l => ∃ input, Completed host input data t l)
        (fun _ l => t.mutated = false → Unwritten l) result)
      (fun _ _ => False) := by
    refine (Acts.caught acts_body).conseq (fun _ _ h => h) ?_ fun _ _ _ h => h
    rintro (e | data) t l h
    · exact h
    · exact h
  apply Acts.seq hbody (fun _ _ h => h)
  intro result
  refine Runs.bind _ (Runs.record fun _ => stable_still _) (fun _ _ => stable_still _) fun t => ?_
  cases result with
  | ok data =>
    refine Acts.pure fun t' l h => ?_
    obtain ⟨⟨input, htaken, hstage, hconcluded⟩, rfl⟩ := h
    exact ⟨rfl, rfl, htaken.clean, fun _ => ⟨input, data, htaken.read, rfl, htaken.names,
      htaken.good, hstage, hconcluded⟩⟩
  | error e =>
    refine Acts.pure fun t' l h => ?_
    obtain ⟨hclean, rfl⟩ := h
    exact ⟨rfl, rfl, hclean, fun hok => by cases hok⟩

/-! ### The results -/

variable (host) in
theorem safe_script : answers.Safe (Sanctioned host)
    (ends (fun printed _ l => Accounts host printed l) fun _ _ _ => False) (script host {}) [] :=
  acts_script.triple {} [] ⟨rfl, rfl⟩

/-- At every point of a run, whatever was answered so far, a call that changes an adapter has
resolved the selected adapter since the last change, targets that adapter and rows of it that were
listed, and is in the terms of the kind that was asked for. -/
theorem script_sanctioned (moves : List (Move ((call : ScriptCall) → call.Reply) Empty))
    {log : ScriptLog} {call : ScriptCall} {next : call.Reply → Program ScriptCall ScriptCall.Reply
      (Except String (UInt32 × Report ScriptData) × ScriptRun)}
    (hrun : answers.run ([], script host {}) moves = (log, .request call next)) :
    Sanctioned host call log := by
  have hsafe := (safe_script host).run (c := ([], script host {})) moves
  rw [hrun] at hsafe
  exact hsafe.issued

def literalHost : ScriptHost where
  toPowerShell := .literal
  isWordChar := Char.isAlphanum
  isSpace := Char.isWhitespace
  parseBytes _ := none

def wiredId : NativeIdentity where
  guid := "01234567-89ab-cdef-0123-456789abcdef"
  index := 7
  mac := "02:00:00:00:00:01"
  aliasName := "Ethernet"

def wiredRow : AdapterRow where
  name := "Ethernet"
  interfaceGuid := "01234567-89ab-cdef-0123-456789abcdef"
  ifIndex := 7
  description := "Wired"
  macAddress := "02-00-00-00-00-01"
  mediaType := "802.3"
  physicalMediaType := "802.3"
  ndisPhysicalMedium := 14
  status := "Up"
  isVirtual := false

/-- A host with one wired adapter, asked to restart it. -/
def wiredAnswer : (call : ScriptCall) → call.Reply
  | .version => (5, 1)
  | .importModule _ => .ok ()
  | .readInput => 200
  | .parseInput => .ok ⟨1, .restart, some wiredId, none, none, false⟩
  | .isAdministrator => true
  | .adapters => .ok [wiredRow]
  | .addresses => .ok [⟨7, "192.168.1.20", 24, "Manual"⟩]
  | .routes => .ok []
  | .interfaces => .ok [⟨7, "Disabled"⟩]
  | .dnsServers => .ok [⟨7, []⟩]
  | .nameServer _ => .ok ""
  | .newAddress _ _ _ => .ok ()
  | .removeAddress _ => .ok ()
  | .removeRoute _ => .ok ()
  | .enableDhcp _ => .ok ()
  | .resetDns _ => .ok ()
  | .restartAdapter _ => .ok ()
  | .netsh _ => .ok (some 0)
  | .ipconfig _ _ => .ok (some 0)

def wiredMoves (n : ℕ) : List (Move ((call : ScriptCall) → call.Reply) Empty) :=
  List.replicate n (.reply wiredAnswer)

theorem restart_sanctioned : ∃ log next,
    answers.run ([], script literalHost {}) (wiredMoves 17) =
      (log, .request (.restartAdapter wiredRow) next) ∧
    Sanctioned literalHost (.restartAdapter wiredRow) log :=
  ⟨_, _, rfl, script_sanctioned (wiredMoves 17) rfl⟩

/-- A run that ends prints an account of its log. -/
theorem script_accounts (moves : List (Move ((call : ScriptCall) → call.Reply) Empty))
    {log : ScriptLog} {ended : Except String (UInt32 × Report ScriptData) × ScriptRun}
    (hrun : answers.run ([], script host {}) moves = (log, .done ended)) :
    ∃ printed, ended.1 = .ok printed ∧ Accounts host printed log :=
  (safe_script host).succeeds hrun

def restartReport : Report ScriptData where
  version := 1
  ok := true
  stage := "postcondition"
  mutated := true
  steps := [⟨"restart_adapter", true, none⟩, ⟨"postcondition", true, none⟩]
  data := some (.state ⟨false, [⟨"192.168.1.20", 24⟩], [], [], ""⟩)

theorem restart_run : ∃ log t,
    answers.run ([], script literalHost {}) (wiredMoves 24) =
      (log, .done (.ok (0, restartReport), t)) := ⟨_, _, rfl⟩

theorem restart_accounts : ∃ printed log, Accounts literalHost printed log := by
  obtain ⟨log, t, hrun⟩ := restart_run
  obtain ⟨printed, -, h⟩ := script_accounts (wiredMoves 24) hrun
  exact ⟨printed, log, h⟩

/-! ### The application -/

section Application

variable {codec : ReportCodec ScriptData} {op : Operation} {before after : Option NativeAdapter}
  {p : ProcessResult}

/-- A report that the application accepts was printed by a run that ended. -/
def Reads {α : Type} (codec : ReportCodec ScriptData) (p : ProcessResult)
    (script : Program ScriptCall ScriptCall.Reply
      (Except String (UInt32 × Report ScriptData) × α)) : Prop :=
  ∀ report, parseReport codec p = .ok report → ∃ code t, script = .done (.ok (code, report), t)

/-- A process that the application takes in full. -/
def Intact (p : ProcessResult) : Prop :=
  p.termination = .exited ∧ p.stdout.truncated = false ∧ p.stderr.truncated = false ∧
    p.stdout.readFailed = false ∧ p.stderr.readFailed = false ∧ p.observedTreeExited = true

/-- Only a report that denies a mutation makes an operation a failed one. -/
theorem report_of_failed (h : (evaluateResult codec op before after p).1.outcome = .failed) :
    ∃ report, parseReport codec p = .ok report ∧ report.mutated = false := by
  unfold evaluateResult at h
  cases hreport : parseReport codec p with
  | error e =>
    simp only [hreport] at h
    split at h <;> cases h
  | ok report =>
    simp only [hreport] at h
    refine ⟨report, rfl, ?_⟩
    split at h
    · cases h
    · split at h
      · cases hm : report.mutated with
        | false => rfl
        | true => simp [hm] at h
      · split at h <;> cases h

theorem requiredSteps_bounded (kind : Kind) : (Operation.requiredSteps kind).length ≤ 64 ∧
    ∀ name ∈ Operation.requiredSteps kind, name.utf8ByteSize ≤ 64 := by
  cases kind <;> decide

/-- The application calls an operation failed only if its run has changed nothing, and it accepts
every success printed by an intact process, with the steps it requires. -/
theorem evaluation_sound (op : Operation) (before after : Option NativeAdapter)
    (moves : List (Move ((call : ScriptCall) → call.Reply) Empty))
    (hreads : Reads codec p (answers.run ([], script host {}) moves).2) :
    ((evaluateResult codec op before after p).1.outcome = .failed →
      Unwritten (answers.run ([], script host {}) moves).1) ∧
    ∀ report t, (answers.run ([], script host {}) moves).2 = .done (.ok (0, report), t) →
      codec.report p.stdout.bytes = some report → p.exitCode = 0 → Intact p →
      parseReport codec p = .ok report ∧ ∃ data,
        ⟨.parseInput, .ok data⟩ ∈ (answers.run ([], script host {}) moves).1 ∧
        (op.kind = data.kind → op.stepsMatch report = true) := by
  constructor
  · intro h
    obtain ⟨report, hparse, hmutated⟩ := report_of_failed h
    obtain ⟨code, t, hdone⟩ := hreads report hparse
    obtain ⟨printed, heq, haccounts⟩ := (safe_script host).succeeds (Prod.ext rfl hdone)
    cases heq
    exact haccounts.clean hmutated
  · intro report t hdone hbytes hexit hintact
    obtain ⟨printed, heq, haccounts⟩ := (safe_script host).succeeds (Prod.ext rfl hdone)
    cases heq
    obtain ⟨data, result, hread, -, hnames, hgood, hstage, -⟩ := haccounts.completed haccounts.ok
    obtain ⟨hlength, hsizes⟩ := requiredSteps_bounded data.kind
    obtain ⟨hterm, hout, herr, houtRead, herrRead, htree⟩ := hintact
    refine ⟨?_, data, hread, fun hkind => ?_⟩
    · have hsteps : ∀ s ∈ report.steps,
          (s.ok = true ∧ s.nativeExit.any (· != 0) = false) ∧ s.name.utf8ByteSize ≤ 64 := by
        intro s hs
        obtain ⟨hok, hcode⟩ := hgood s hs
        have hsize := hsizes s.name (hnames ▸ List.mem_map_of_mem hs)
        rcases hcode with hcode | hcode <;> simp [hok, hcode, hsize]
      have hversion := haccounts.version
      have hok : report.ok = true := haccounts.ok
      have hcount : report.steps.length ≤ 64 := by
        rw [← hnames, List.length_map] at hlength
        exact hlength
      simp only at hversion hstage
      simp only [parseReport, hterm, hout, herr, houtRead, herrRead, htree, hbytes, hexit, hversion,
        hok]
      simpa [hcount, hstage] using hsteps
    · rw [Operation.stepsMatch, hkind, hnames]
      exact beq_self_eq_true _

def restartCodec : ReportCodec ScriptData :=
  ⟨fun _ => some restartReport, fun _ => none, fun _ => none⟩

def restartProcess : ProcessResult where
  exitCode := 0
  termination := .exited
  stdout := ⟨[], false, false⟩
  stderr := ⟨[], false, false⟩
  observedTreeExited := true
  containmentVerifiedBeforeResume := true

theorem restart_parsed : parseReport restartCodec restartProcess = .ok restartReport := rfl

theorem restart_accepted : ∃ data log t,
    answers.run ([], script literalHost {}) (wiredMoves 24) =
      (log, .done (.ok (0, restartReport), t)) ∧ ⟨.parseInput, .ok data⟩ ∈ log ∧
    (Kind.restart = data.kind → (⟨.restart, some wiredId, none, none, false⟩ : Operation).stepsMatch
      restartReport = true) := by
  obtain ⟨log, t, hrun⟩ := restart_run
  have hdone := congrArg Prod.snd hrun
  obtain ⟨-, data, hread, hsteps⟩ := (evaluation_sound ⟨.restart, some wiredId, none, none, false⟩
    none none (wiredMoves 24) fun report hparse => ⟨0, t, by
      rw [restart_parsed] at hparse
      cases hparse
      exact hdone⟩).2 restartReport t hdone rfl rfl ⟨rfl, rfl, rfl, rfl, rfl, rfl⟩
  rw [hrun] at hread
  exact ⟨data, log, t, hrun, hread, hsteps⟩

end Application

end OperationScript

end PocketStream
