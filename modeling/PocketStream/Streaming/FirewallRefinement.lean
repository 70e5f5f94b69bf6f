import PocketStream.Streaming.FirewallHost
import PocketStream.Streaming.FirewallRun

/-! # Runs of the policy script as native operations

The host of the lease calls takes an operation as one step that leaves its rule
on or off. Every run of the script for that operation, cut short at any point,
is such a step for the outcome that the application takes from its process.
-/

namespace PocketStream

open Foundation World

/-- `firewall::ensure` and `firewall::disable` -/
def FirewallOperation.policy : FirewallOperation → PolicyOperation
  | ensure role port interface => .ensure role port interface
  | disable role => .disable role

/-- The name of a role in `ROLES`. -/
def FirewallRule.ruleName : FirewallRule → String
  | rtsp => "PocketStream.RTSP.Inbound.v2"
  | srt => "PocketStream.SRT.Inbound.v2"

namespace FirewallPolicy

variable {host : PolicyHost} {data : PolicyInput} {start rules : List StoredRule}
  {codec : ReportCodec RuleShape} {program : String} {operation : FirewallOperation}

/-- Whether a rule of the role is enabled. -/
def enabledRole (host : PolicyHost) (rules : List StoredRule) (role : FirewallRule) : Bool :=
  rules.any fun r => host.same r.name role.ruleName && r.object.enabled

/-- What the application reads of a process that it did not stop is what the script printed. -/
def Reads {α : Type} (codec : ReportCodec RuleShape)
    (script : Program PolicyCall PolicyCall.Reply
      (Except String (UInt32 × FirewallReport RuleShape) × α)) (run : FirewallRun) : Prop :=
  ∀ p report, run = .exited p → firewallFailure p = none →
    parseFirewallReport codec p = some report → ∃ code t, script = .done (.ok (code, report), t)

theorem payload_spec (h : operation.policy.payload program = .ok data) :
    data.operation = operation.policy ∧ data.roles = firewallRoles := by
  cases operation with
  | ensure role port interface =>
    simp only [FirewallOperation.policy, PolicyOperation.payload] at h
    split at h
    · cases h
    · cases h
      exact ⟨rfl, rfl⟩
  | disable role =>
    cases h
    exact ⟨rfl, rfl⟩

/-- The one target of an operation is the definition of its role. -/
theorem name_of_target (h : operation.policy.payload program = .ok data) {role : RoleDefinition}
    (hrole : role ∈ targets data) : role.name = operation.role.ruleName := by
  obtain ⟨hop, hroles⟩ := payload_spec h
  have hmem : role ∈ firewallRoles ∧ role.role = operation.role := by
    cases operation <;>
      simpa [targets, hop, hroles, FirewallOperation.policy, FirewallOperation.role] using hrole
  obtain ⟨hmem, hrole⟩ := hmem
  rw [← hrole]
  rcases List.mem_pair.mp hmem with rfl | rfl <;> rfl

theorem targets_nonempty (h : operation.policy.payload program = .ok data) :
    ∃ role ∈ targets data, role.name = operation.role.ruleName := by
  obtain ⟨hop, hroles⟩ := payload_spec h
  cases operation with
  | ensure role port interface | disable role =>
    cases role <;>
      simp [targets, hop, hroles, FirewallOperation.policy, FirewallOperation.role, firewallRoles,
        FirewallRule.ruleName]

theorem not_maintains (h : operation.policy.payload program = .ok data) : ¬ maintains data := by
  obtain ⟨hop, -⟩ := payload_spec h
  cases operation <;>
    simp [maintains, PolicyInput.mode, hop, FirewallOperation.policy, PolicyOperation.mode]

/-- The rules of the other role are out of reach. -/
theorem enabledRole_other (h : operation.policy.payload program = .ok data)
    (hnames : host.same FirewallRule.rtsp.ruleName FirewallRule.srt.ruleName = false)
    (hkept : ∀ r ∈ start, ¬ governs host data r → r ∈ rules)
    (hnew : ∀ r ∈ rules, r ∉ start → Reaches host data start r.name) {role : FirewallRule}
    (hrole : role ≠ operation.role) :
    enabledRole host rules role = enabledRole host start role := by
  have hout : ∀ name, host.same name role.ruleName = true →
      ¬ ∃ target ∈ targets data, host.same name target.name = true := by
    rintro name hn ⟨target, htarget, ht⟩
    rw [name_of_target h htarget] at ht
    have hsame := PowerShell.same_trans (PowerShell.same_symm hn) ht
    cases role <;> cases hop : operation.role
    · exact hrole hop.symm
    · rw [hop, hnames] at hsame
      cases hsame
    · rw [hop] at hsame
      rw [PowerShell.same_symm hsame] at hnames
      cases hnames
    · exact hrole hop.symm
  have hiff : ∀ r : StoredRule, host.same r.name role.ruleName = true →
      (r ∈ rules ↔ r ∈ start) := by
    intro r hn
    constructor
    · intro hr
      by_contra hnot
      rcases (hnew r hr hnot).1 with hm | ht
      · exact not_maintains h hm
      · exact hout r.name hn ht
    · intro hr
      apply hkept r hr
      rintro (⟨target, htarget, ht, -⟩ | ⟨hm, -⟩)
      · exact hout r.name hn ⟨target, htarget, ht⟩
      · exact not_maintains h hm
  rw [Bool.eq_iff_iff]
  simp only [enabledRole, List.any_eq_true, Bool.and_eq_true]
  constructor
  · rintro ⟨r, hr, hn, hon⟩
    exact ⟨r, (hiff r hn).mp hr, hn, hon⟩
  · rintro ⟨r, hr, hn, hon⟩
    exact ⟨r, (hiff r hn).mpr hr, hn, hon⟩

theorem enabledRole_off {role : FirewallRule} (h : Off host role.ruleName rules) :
    enabledRole host rules role = false := by
  simp only [enabledRole, List.any_eq_false, Bool.and_eq_true, not_and, Bool.not_eq_true]
  exact h

theorem enabledRole_verified {role : RoleDefinition} {rule : FirewallRule} {port : UInt16}
    {aliasName : String} (h : VerifiedRule host data role port aliasName true rules)
    (hname : role.name = rule.ruleName) : enabledRole host rules rule = true := by
  obtain ⟨r, s, hnamed, hshape, hverified⟩ := h
  have hr := mem_named.mp (hnamed ▸ List.mem_singleton_self r : r ∈ named host rules role.name)
  simp only [PolicyHost.verified, Bool.and_eq_true, beq_iff_eq] at hverified
  simp only [enabledRole, List.any_eq_true, Bool.and_eq_true]
  exact ⟨r, hr.1, hname ▸ hr.2, (enabled_of_shape hshape).symm.trans hverified.2⟩

/-- An outcome of the application that does not ask for a recovery was printed by a run that
ended. -/
theorem printed_of_outcome {α : Type} {run : FirewallRun}
    {script : Program PolicyCall PolicyCall.Reply
      (Except String (UInt32 × FirewallReport RuleShape) × α)}
    (hreads : Reads codec script run)
    (h : ∀ stage reason, (executeFirewall codec run).2 ≠ .failed stage reason true) :
    ∃ code report t, report.outcome = (executeFirewall codec run).2 ∧
      script = .done (.ok (code, report), t) := by
  cases run with
  | exited p =>
    simp only [executeFirewall, evaluateFirewall] at h ⊢
    split at h
    · exact absurd rfl (h _ _)
    · next hfailure =>
      split at h
      · next report hreport =>
        obtain ⟨code, t, hdone⟩ := hreads p report rfl hfailure hreport
        exact ⟨code, report, t, rfl, hdone⟩
      · exact absurd rfl (h _ _)
  | setupFailed | taskFailed => exact absurd rfl (h _ _)

/-- What the application takes for an outcome is true of the rules the run leaves. -/
theorem truthful_of_outcome (hstart : Distinct start) {moves : List (Move PolicyAnswer Empty)}
    {run : FirewallRun}
    (hreads : Reads codec ((policyWorld host data).run (start, script host {}) moves).2 run)
    (h : ∀ stage reason, (executeFirewall codec run).2 ≠ .failed stage reason true) :
    ∃ report, report.outcome = (executeFirewall codec run).2 ∧ Truthful host data start report
      ((policyWorld host data).run (start, script host {}) moves).1 := by
  obtain ⟨code, report, t, houtcome, hdone⟩ := printed_of_outcome hreads h
  obtain ⟨printed, heq, -, -, htruth⟩ :=
    (safe_script host data hstart).succeeds (Prod.ext rfl hdone)
  cases heq
  exact ⟨report, houtcome, htruth⟩

/-- Every run of the script for a lease call, cut short anywhere or not, changes whether the rules
of the roles are enabled as the abstract operation does for the outcome of its process, and an
applied outcome leaves the rule on. -/
theorem script_refines_operation
    (hnames : host.same FirewallRule.rtsp.ruleName FirewallRule.srt.ruleName = false)
    (hpayload : operation.policy.payload program = .ok data) (hstart : Distinct start)
    (moves : List (Move PolicyAnswer Empty)) {run : FirewallRun}
    (hreads : Reads codec ((policyWorld host data).run (start, script host {}) moves).2 run) :
    ∃ on,
      (∀ role, enabledRole host ((policyWorld host data).run (start, script host {}) moves).1 role =
        if role = operation.role then
          FirewallHost.ruleAfter operation (executeFirewall codec run).2
            (enabledRole host start role) on
        else enabledRole host start role) ∧
      ∀ name action shape blocks,
        (executeFirewall codec run).2 = .applied name action shape blocks → on = true := by
  obtain ⟨hframed, -, hdim⟩ :
      Contained host data start ((policyWorld host data).run (start, script host {}) moves).1 :=
    contained_run hstart moves
  have hkept := hframed.keeps
  have hnew := hframed.reaches
  have htruth := truthful_of_outcome hstart hreads
  generalize ((policyWorld host data).run (start, script host {}) moves).1 = rules at *
  obtain ⟨hop, -⟩ := payload_spec hpayload
  refine ⟨enabledRole host rules operation.role, fun role => ?_,
    fun name action shape blocks h => ?_⟩
  · split
    · next hrole =>
      subst hrole
      cases operation with
      | ensure => rfl
      | disable wanted =>
        have hmode : data.mode = .disable := by rw [PolicyInput.mode, hop]; rfl
        simp only [FirewallHost.ruleAfter]
        split
        · next hinactive =>
          obtain ⟨report, houtcome, htruthful⟩ := htruth fun stage reason h => by
            rw [hinactive] at h
            cases h
          rw [Truthful, houtcome, hinactive] at htruthful
          obtain ⟨target, htarget, hname⟩ := targets_nonempty hpayload
          apply enabledRole_off
          rw [← hname]
          exact (htruthful.2 (by simp [retires, hmode]) target htarget).1
        · rw [Bool.eq_iff_iff, Bool.and_eq_true]
          refine ⟨fun h => ⟨?_, h⟩, fun h => h.2⟩
          simp only [enabledRole, List.any_eq_true, Bool.and_eq_true] at h ⊢
          obtain ⟨r, hr, hn, hon⟩ := h
          exact ⟨r, hdim (by simp [hmode]) r hr hon, hn, hon⟩
    · next hrole => exact enabledRole_other hpayload hnames hkept hnew hrole
  · obtain ⟨report, houtcome, htruthful⟩ := htruth fun stage reason hf => by
      rw [h] at hf
      cases hf
    rw [Truthful, houtcome, h] at htruthful
    obtain ⟨wanted, port, interface, aliasName, role, hrole, -, -, -, hverified⟩ := htruthful
    exact enabledRole_verified hverified (name_of_target hpayload hrole)

/-- The process that printed the report of the retired listener. -/
def retiredProcess : ProcessResult where
  exitCode := 0
  termination := .exited
  stdout := ⟨[], false, false⟩
  stderr := ⟨[], false, false⟩
  observedTreeExited := true
  containmentVerifiedBeforeResume := true

def retiredCodec : ReportCodec RuleShape where
  report _ := none
  observedState _ := none
  firewallReport _ := some ⟨2, true, "verified", true, .inactive, []⟩

theorem script_refines_disable :
    ∃ on, ∀ role, enabledRole literalHost [listenerRule.withEnabled false, otherRule] role =
      if role = .rtsp then
        FirewallHost.ruleAfter (.disable .rtsp)
          (executeFirewall retiredCodec (.exited retiredProcess)).2
          (enabledRole literalHost [listenerRule, otherRule] role) on
      else enabledRole literalHost [listenerRule, otherRule] role := by
  have hreads : Reads retiredCodec ((policyWorld literalHost retireListener).run
      ([listenerRule, otherRule], script literalHost {}) (List.replicate 17 (.reply granted))).2
      (.exited retiredProcess) := by
    intro p report hp hfailure hreport
    rw [retire_run]
    obtain ⟨hreport, -⟩ := Option.filter_eq_some_iff.mp hreport
    cases hreport
    exact ⟨0, _, rfl⟩
  have hpayload : (FirewallOperation.disable .rtsp).policy.payload "C:\\PocketStream.exe" =
      .ok retireListener := rfl
  obtain ⟨on, h, -⟩ := script_refines_operation (by decide) hpayload (by decide)
    (List.replicate 17 (.reply granted)) hreads
  rw [retire_run] at h
  exact ⟨on, h⟩

end FirewallPolicy

end PocketStream
