import PocketStream.Native.Transaction

/-! # What an outcome is evidence of

A process, its report and two observations may each be missing or contradict the others. Each
outcome of an evaluation stands for one combination of what they say, and whatever else they
say is uncertain.
-/

namespace PocketStream

open LocalExecutor

variable {J : Type}

/-- The process ended by itself and all of its output is there. -/
structure ProcessComplete (p : ProcessResult) : Prop where
  exited : p.termination = .exited
  stdout : p.stdout.truncated = false ∧ p.stdout.readFailed = false
  stderr : p.stderr.truncated = false ∧ p.stderr.readFailed = false
  tree : p.observedTreeExited = true

/-- The report is what the process printed, within bounds, and agrees with its exit code. -/
structure Consistent (codec : ReportCodec J) (p : ProcessResult) (report : Report J) : Prop where
  printed : codec.report p.stdout.bytes = some report
  version : report.version = 1
  exit : report.ok = (p.exitCode == 0)
  bounds : report.steps.length ≤ 64 ∧ report.stage.utf8ByteSize ≤ 64
  steps : ∀ s ∈ report.steps, s.name.utf8ByteSize ≤ 64 ∧
    (report.ok = true → s.ok = true ∧ ∀ exit, s.nativeExit = some exit → exit = 0)

theorem step_consistent_iff {ok : Bool} {s : ReportStep} :
    ¬ ((ok && (!s.ok || s.nativeExit.any (· != 0))) || decide (64 < s.name.utf8ByteSize)) = true ↔
      s.name.utf8ByteSize ≤ 64 ∧
        (ok = true → s.ok = true ∧ ∀ exit, s.nativeExit = some exit → exit = 0) := by
  cases ok <;> cases s.ok <;> cases s.nativeExit <;> simp [and_comm]

theorem parseReport_eq_ok {codec : ReportCodec J} {p : ProcessResult} {report : Report J} :
    parseReport codec p = .ok report ↔ ProcessComplete p ∧ Consistent codec p report := by
  unfold parseReport
  constructor
  · intro h
    split at h
    · cases h
    · next hcomplete =>
      simp only [ne_eq, not_or, Decidable.not_not, Bool.not_eq_true, Bool.not_eq_false']
        at hcomplete
      obtain ⟨hexited, hout, herr, houtRead, herrRead, htree⟩ := hcomplete
      split at h
      · cases h
      · next found hprinted =>
        split at h
        · cases h
        · next hconsistent =>
          obtain rfl := Except.ok.inj h
          simp only [ne_eq, not_or, Decidable.not_not, not_lt, List.any_eq_true, not_exists,
            not_and, step_consistent_iff] at hconsistent
          obtain ⟨hversion, hexit, hsteps, hstage, hnames⟩ := hconsistent
          exact ⟨⟨hexited, ⟨hout, houtRead⟩, ⟨herr, herrRead⟩, htree⟩, hprinted, hversion, hexit,
            ⟨hsteps, hstage⟩, hnames⟩
  · rintro ⟨hp, hr⟩
    have hsteps : ¬ report.steps.any (fun s => (report.ok && (!s.ok || s.nativeExit.any (· != 0))) ||
        64 < s.name.utf8ByteSize) = true := by
      rw [List.any_eq_true]
      rintro ⟨s, hs, hbad⟩
      exact step_consistent_iff.mpr (hr.steps s hs) hbad
    rw [if_neg (by simp [hp.exited, hp.stdout, hp.stderr, hp.tree]), hr.printed]
    refine if_neg ?_
    rintro (hversion | hexit | hlen | hstage | hbad)
    · exact hversion hr.version
    · exact hexit hr.exit
    · exact Nat.not_lt.mpr hr.bounds.1 hlen
    · exact Nat.not_lt.mpr hr.bounds.2 hstage
    · exact hsteps hbad

/-- The adapter has the identity, whatever its alias. -/
def HasIdentity (adapter : NativeAdapter) (id : NativeIdentity) : Prop :=
  adapter.identity.guid = id.guid ∧ adapter.identity.index = id.index ∧
    adapter.identity.mac = id.mac

/-- The operation's adapter, where it is for one, is the one observed afterwards. -/
def SameAdapter (op : Operation) (after : Option NativeAdapter) : Prop :=
  ∀ id, op.identity = some id → ∃ adapter, after = some adapter ∧ HasIdentity adapter id

/-- The observed adapter shows the effect of the operation and what the report says of it. -/
structure EffectReported (codec : ReportCodec J) (op : Operation) (adapter : NativeAdapter)
    (data : Option J) (state : ObservedState) : Prop where
  reported : data.bind codec.observedState = some state
  effect : op.nativeEffectMatches adapter = true
  dhcp : state.dhcp = adapter.dhcp
  addresses : (adapter.ips.map fun a => (a.address, a.prefixLen)).Perm
    (state.addresses.map fun a => (a.address, a.prefixLen))
  gateways : ∀ gateway, gateway ∈ adapter.gateways ↔ gateway ∈ state.gateways
  dns : (∀ ip ∈ state.dns, (Ipv4Addr.parse ip).isSome) ∧ state.dnsManual.utf8ByteSize ≤ 4096

theorem postcondition_iff {codec : ReportCodec J} {op : Operation} {adapter : NativeAdapter}
    {data : Option J} :
    op.postcondition codec adapter data = true ↔ ∃ state, EffectReported codec op adapter data state := by
  unfold Operation.postcondition
  cases hdata : data.bind codec.observedState with
  | none =>
    simp only [Bool.false_eq_true, false_iff]
    rintro ⟨state, hstate⟩
    rw [hstate.reported] at hdata
    cases hdata
  | some state =>
    simp only [Bool.and_eq_true, beq_iff_eq, List.isPerm_iff, List.all_eq_true,
      List.contains_eq_mem, decide_eq_true_eq]
    constructor
    · rintro ⟨⟨⟨⟨⟨hdhcp, hips⟩, hgateways⟩, hdns⟩, hmanual⟩, heffect⟩
      exact ⟨state, hdata, heffect, hdhcp, hips,
        fun gateway => ⟨hgateways.1 gateway, hgateways.2 gateway⟩, hdns, hmanual⟩
    · rintro ⟨state', hreported, heffect, hdhcp, hips, hgateways, hdns, hmanual⟩
      obtain rfl := Option.some.inj (hdata.symm.trans hreported)
      exact ⟨⟨⟨⟨⟨hdhcp, hips⟩, fun gateway => (hgateways gateway).mp,
        fun gateway => (hgateways gateway).mpr⟩, hdns⟩, hmanual⟩, heffect⟩

/-- Every step is reported, and the operation's adapter bears the report out. -/
def Verified (codec : ReportCodec J) (op : Operation) (after : Option NativeAdapter)
    (p : ProcessResult) (data : Option J) : Prop :=
  ∃ report, ProcessComplete p ∧ Consistent codec p report ∧ report.ok = true ∧
    report.data = data ∧ report.steps.map (·.name) = Operation.requiredSteps op.kind ∧
    ∀ id, op.identity = some id → ∃ adapter, after = some adapter ∧ HasIdentity adapter id ∧
      ∃ state, EffectReported codec op adapter data state

/-- Without a report, a single address came or went and all else stayed. -/
def Accounted (codec : ReportCodec J) (op : Operation) (before after : Option NativeAdapter)
    (p : ProcessResult) : Prop :=
  (¬ ∃ report, ProcessComplete p ∧ Consistent codec p report) ∧ SameAdapter op after ∧
    (op.kind = .addAddress ∨ op.kind = .removeAddress) ∧
    ∃ was is, before = some was ∧ after = some is ∧ op.nativeEffectMatches is = true ∧
      (otherAddresses op was).Perm (otherAddresses op is) ∧ was.dhcp = is.dhcp ∧
      was.gateways = is.gateways

/-- The report says that the operation failed before it changed anything. -/
def Refused (codec : ReportCodec J) (op : Operation) (after : Option NativeAdapter)
    (p : ProcessResult) : Prop :=
  ∃ report, ProcessComplete p ∧ Consistent codec p report ∧ report.ok = false ∧
    report.mutated = false ∧ SameAdapter op after

theorem identityMatches_iff {op : Operation} {after : Option NativeAdapter} :
    identityMatches op after = true ↔ SameAdapter op after := by
  unfold identityMatches SameAdapter
  cases op.identity with
  | none => simp
  | some id =>
    cases after with
    | none => simp
    | some adapter => simp [HasIdentity, BEq.beq]

theorem addressEffectObserved_iff {op : Operation} {before after : Option NativeAdapter} :
    addressEffectObserved op before after = true ↔ SameAdapter op after ∧
      (op.kind = .addAddress ∨ op.kind = .removeAddress) ∧
      ∃ was is, before = some was ∧ after = some is ∧ op.nativeEffectMatches is = true ∧
        (otherAddresses op was).Perm (otherAddresses op is) ∧ was.dhcp = is.dhcp ∧
        was.gateways = is.gateways := by
  unfold addressEffectObserved
  rw [Bool.and_eq_true, Bool.and_eq_true, identityMatches_iff]
  cases before <;> cases after <;> simp [List.isPerm_iff, and_assoc]

theorem not_parsed_iff {codec : ReportCodec J} {p : ProcessResult} :
    (∃ e, parseReport codec p = .error e) ↔
      ¬ ∃ report, ProcessComplete p ∧ Consistent codec p report := by
  simp only [← parseReport_eq_ok]
  cases parseReport codec p <;> simp

/-- The report proves too little: the adapter is another one, or does not bear it out. -/
def Unproven (codec : ReportCodec J) (op : Operation) (after : Option NativeAdapter)
    (report : Report J) : Prop :=
  ¬ SameAdapter op after ∨ report.ok = true ∧ ∃ id, op.identity = some id ∧
    ∀ adapter, after = some adapter → ¬ ∃ state, EffectReported codec op adapter report.data state

section evaluation

variable {codec : ReportCodec J} {op : Operation} {before after : Option NativeAdapter}
  {p : ProcessResult} {report : Report J}

theorem unproven_iff :
    (!identityMatches op after ∨ (report.ok ∧ op.identity.isSome ∧
        after.all fun adapter => !op.postcondition codec adapter report.data)) ↔
      Unproven codec op after report := by
  have hshown : (after.all fun adapter => !op.postcondition codec adapter report.data) = true ↔
      ∀ adapter, after = some adapter →
        ¬ ∃ state, EffectReported codec op adapter report.data state := by
    simp only [← postcondition_iff]
    cases after <;> simp
  rw [Unproven, ← identityMatches_iff, hshown, Option.isSome_iff_exists]
  simp

variable (op before after) in
/-- With a report, the evaluation is one of four. -/
theorem evaluateResult_report (h : parseReport codec p = .ok report) :
    let r := evaluateResult codec op before after p
    (Unproven codec op after report ∧ r.1.outcome = .uncertain ∧ ∃ e, r.2 = .error e) ∨
    (¬ Unproven codec op after report ∧ report.ok = false ∧
      r.1.outcome = (if report.mutated then .uncertain else .failed) ∧ ∃ e, r.2 = .error e) ∨
    (¬ Unproven codec op after report ∧ report.ok = true ∧ op.stepsMatch report = false ∧
      r.1.outcome = .uncertain ∧ ∃ e, r.2 = .error e) ∨
    (¬ Unproven codec op after report ∧ report.ok = true ∧ op.stepsMatch report = true ∧
      r.1.outcome = .completed ∧ r.2 = .ok report.data) := by
  unfold evaluateResult
  rw [h]
  dsimp only
  split
  · next hunproven => exact .inl ⟨unproven_iff.mp hunproven, rfl, _, rfl⟩
  · next hproven =>
    replace hproven := mt unproven_iff.mpr hproven
    split
    · next hfailed => 
      exact .inr (.inl ⟨hproven, by simpa using hfailed, rfl, _, rfl⟩)
    · next hok =>
      split
      · next hsteps =>
        exact .inr (.inr (.inl ⟨hproven, by simpa using hok, by simpa using hsteps, rfl, _, rfl⟩))
      · next hsteps =>
        exact .inr (.inr (.inr ⟨hproven, by simpa using hok, by simpa using hsteps, rfl, rfl⟩))

variable (op before after) in
theorem evaluateResult_unreported
    (h : ¬ ∃ report, ProcessComplete p ∧ Consistent codec p report) :
    (evaluateResult codec op before after p).1.outcome =
        (if addressEffectObserved op before after then .completed else .uncertain) ∧
      ∃ e, (evaluateResult codec op before after p).2 = .error e := by
  obtain ⟨e, he⟩ := not_parsed_iff.mpr h
  refine ⟨(evaluateResult_error he).1, e, ?_⟩
  unfold evaluateResult
  rw [he]
  dsimp only
  split <;> rfl

theorem consistent_unique (h : parseReport codec p = .ok report) {other : Report J}
    (hp : ProcessComplete p) (hother : Consistent codec p other) : other = report :=
  Except.ok.inj ((parseReport_eq_ok.mpr ⟨hp, hother⟩).symm.trans h)

theorem verified_iff {data : Option J} (h : parseReport codec p = .ok report) :
    Verified codec op after p data ↔ ¬ Unproven codec op after report ∧ report.ok = true ∧
      op.stepsMatch report = true ∧ report.data = data := by
  constructor
  · rintro ⟨other, hp, hreport, hok, hdata, hsteps, hshown⟩
    obtain rfl := consistent_unique h hp hreport
    refine ⟨?_, hok, by simpa [Operation.stepsMatch] using hsteps, hdata⟩
    rintro (hother | ⟨-, id, hid, hnone⟩)
    · refine hother fun id hid => ?_
      obtain ⟨adapter, hafter, hsame, -⟩ := hshown id hid
      exact ⟨adapter, hafter, hsame⟩
    · obtain ⟨adapter, hafter, -, hstate⟩ := hshown id hid
      exact hnone adapter hafter (hdata ▸ hstate)
  · rintro ⟨hproven, hok, hsteps, hdata⟩
    obtain ⟨hsame, hshown⟩ := not_or.mp hproven
    obtain ⟨hp, hreport⟩ := parseReport_eq_ok.mp h
    refine ⟨report, hp, hreport, hok, hdata, by simpa [Operation.stepsMatch] using hsteps, ?_⟩
    intro id hid
    obtain ⟨adapter, hafter, hid'⟩ := not_not.mp hsame id hid
    refine ⟨adapter, hafter, hid', ?_⟩
    by_contra hnone
    refine hshown ⟨hok, id, hid, ?_⟩
    rintro adapter' hafter'
    obtain rfl := Option.some.inj (hafter.symm.trans hafter')
    rwa [hdata]

theorem refused_iff (h : parseReport codec p = .ok report) :
    Refused codec op after p ↔ ¬ Unproven codec op after report ∧ report.ok = false ∧
      report.mutated = false := by
  constructor
  · rintro ⟨other, hp, hreport, hok, hmutated, hsame⟩
    obtain rfl := consistent_unique h hp hreport
    refine ⟨?_, hok, hmutated⟩
    rintro (hother | ⟨hok', -⟩)
    · exact hother hsame
    · rw [hok] at hok'
      cases hok'
  · rintro ⟨hproven, hok, hmutated⟩
    obtain ⟨hp, hreport⟩ := parseReport_eq_ok.mp h
    exact ⟨report, hp, hreport, hok, hmutated, not_not.mp (not_or.mp hproven).1⟩

end evaluation

/-- Each outcome has its evidence, and whatever lacks it is uncertain. -/
theorem evaluateResult_evidence (codec : ReportCodec J) (op : Operation)
    (before after : Option NativeAdapter) (p : ProcessResult) :
    let r := evaluateResult codec op before after p
    (∀ data, (r.1.outcome = .completed ∧ r.2 = .ok data) ↔ Verified codec op after p data) ∧
    ((r.1.outcome = .completed ∧ ∃ e, r.2 = .error e) ↔ Accounted codec op before after p) ∧
    (r.1.outcome = .failed ↔ Refused codec op after p) ∧
    (r.1.outcome = .uncertain ↔ (∀ data, ¬ Verified codec op after p data) ∧
      ¬ Accounted codec op before after p ∧ ¬ Refused codec op after p) := by
  cases hparse : parseReport codec p with
  | error e =>
    have hnone := not_parsed_iff.mp ⟨e, hparse⟩
    have hverified (data : Option J) : ¬ Verified codec op after p data := by
      rintro ⟨report, hp, hreport, -⟩
      exact hnone ⟨report, hp, hreport⟩
    have hrefused : ¬ Refused codec op after p := by
      rintro ⟨report, hp, hreport, -⟩
      exact hnone ⟨report, hp, hreport⟩
    have haccounted : Accounted codec op before after p ↔
        addressEffectObserved op before after = true := by
      rw [addressEffectObserved_iff]
      exact and_iff_right hnone
    obtain ⟨houtcome, e', he'⟩ :=
      evaluateResult_unreported op before after hnone
    simp only [houtcome, he', hverified, hrefused, haccounted]
    cases addressEffectObserved op before after <;> simp
  | ok report =>
    have haccounted : ¬ Accounted codec op before after p := fun h =>
      h.1 ⟨report, parseReport_eq_ok.mp hparse⟩
    simp only [verified_iff hparse, refused_iff hparse, haccounted]
    rcases evaluateResult_report op before after hparse with
      ⟨hunproven, houtcome, e, he⟩ | ⟨hproven, hok, houtcome, e, he⟩ |
        ⟨hproven, hok, hsteps, houtcome, e, he⟩ | ⟨hproven, hok, hsteps, houtcome, hdata⟩
    · simp [houtcome, he, hunproven]
    · cases hmutated : report.mutated <;> simp [houtcome, he, hproven, hok, hmutated]
    · simp [houtcome, he, hproven, hok, hsteps]
    · simp [houtcome, hdata, hproven, hok, hsteps]

def exitedWith (exitCode : UInt32) : ProcessResult where
  exitCode := exitCode
  termination := .exited
  stdout := ⟨[], false, false⟩
  stderr := ⟨[], false, false⟩
  observedTreeExited := true
  containmentVerifiedBeforeResume := true

/-- A codec that reads one report out of everything. -/
def reads (report : Report Unit) : ReportCodec Unit where
  report _ := some report
  observedState _ := none
  firewallReport _ := none

def adapterBehind (gateways : List String) : NativeAdapter where
  index := 3
  guid := "4d36e972-e325-11ce-bfc1-08002be10318"
  aliasName := "Ethernet"
  dhcp := false
  mac := "02-00-5E-10-00-0A"
  isUp := true
  ips := []
  gateways := gateways

/-- An inventory, which is of no adapter. -/
def inventoryResult : Completion (Facts Unit) × Fallible (Option Unit) :=
  evaluateResult (reads ⟨1, true, "inventory", false, [⟨"inventory", true, none⟩], none⟩)
    ⟨.inventory, none, none, none, false⟩ none none (exitedWith 0)

/-- A restart that was refused while the adapter got a gateway. -/
def refusalResult : Completion (Facts Unit) × Fallible (Option Unit) :=
  evaluateResult (reads ⟨1, false, "restart_adapter", false, [], none⟩)
    ⟨.restart, some (adapterBehind []).identity, none, none, false⟩
    (some (adapterBehind [])) (some (adapterBehind ["192.168.1.1"])) (exitedWith 1)

/-- An inventory completes without an adapter, and a refusal stands although the two
observations differ. -/
theorem evaluateResult_inventory_and_refusal :
    inventoryResult.1.outcome = .completed ∧ inventoryResult.2 = .ok none ∧
      refusalResult.1.outcome = .failed ∧
      (adapterBehind []).gateways ≠ (adapterBehind ["192.168.1.1"]).gateways := by
  refine ⟨?_, ?_, ?_, ?_⟩ <;> decide +kernel

end PocketStream
