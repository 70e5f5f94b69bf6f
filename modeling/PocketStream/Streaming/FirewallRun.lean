import PocketStream.Streaming.FirewallTruth

/-! # Runs of the policy script

Whatever the calls of a run answer, the script writes no rule out of its reach
at any point, and a run that ends prints a report that is true of the store.
-/

namespace PocketStream

open Foundation Routine World

namespace FirewallPolicy

variable {host : PolicyHost} {data : PolicyInput} {start : List StoredRule}
  {R : List StoredRule → Prop}

/-! ### Legacy rules -/

theorem acts_legacyCandidate {rule : RuleObject} {role : RoleDefinition} (hrole : role ∈ data.roles)
    (hR : ∀ s, R s → ∃ r ∈ s, r.object = rule) :
    Acts host data start (Sound host data start R) (legacyCandidate host data rule role)
      (fun found t s => Sound host data start R t s ∧
        ∀ rule' ∈ found, maintains data → Reaches host data start rule'.name)
      (Sound host data start R) := by
  have hnone : ∀ {pre : PolicyRun → List StoredRule → Prop},
      (∀ t s, pre t s → Sound host data start R t s) → Acts host data start pre
        (pure none : PolicyScript (Option RuleObject))
        (fun found t s => Sound host data start R t s ∧
          ∀ rule' ∈ found, maintains data → Reaches host data start rule'.name)
        (Sound host data start R) :=
    fun hpre => Acts.pure fun t s h => ⟨hpre t s h, fun _ hr => by cases hr⟩
  unfold legacyCandidate
  split
  · exact hnone fun _ _ h => h
  next hskip =>
  simp only [Bool.or_eq_true, Bool.not_eq_true', not_or, Bool.not_eq_false, Bool.not_eq_true]
    at hskip
  apply Acts.seq (acts_shape fun _ _ h => h.distinct) (fun _ _ h => h)
  intro s
  split
  · exact hnone fun _ _ h => h.1
  next hprogram =>
  apply Acts.seq Acts.require (fun _ _ h => h.1)
  intro valid
  apply Acts.seq Acts.refuseIf (fun _ _ h => h.1.1)
  intro
  apply Runs.given (φ := maintains data → Reaches host data start rule.name)
  · rintro t rules ⟨⟨⟨h, hshape⟩, hvalid⟩, hmigratable⟩ hm
    obtain ⟨r, hr, rfl⟩ := hR rules h.holds
    simp only [not_not] at hmigratable
    refine h.reaches_migrated hm hrole hr ⟨hskip.1.1, hskip.1.2, s, hshape r hr rfl, ?_, ?_, ?_⟩
    · cases hany : host.isAny [s.program] with
      | true => exact .inl rfl
      | false => exact .inr (by simpa [hany] using hprogram)
    · rw [hvalid, hmigratable.1]
    · exact hmigratable.2
  · intro hreach
    apply Acts.seq Acts.record (fun _ _ h => h.1.1.1)
    intro run
    apply Acts.seq Acts.refuseIf (fun _ _ h => h.1.1.1.1)
    intro
    apply Acts.seq Acts.refuseIf (fun _ _ h => h.1.1.1.1.1)
    intro
    apply Acts.via (fun _ => Sound host data start R)
      (Acts.change fun t s h => h.1.1.1.1.1.1.retag rfl rfl rfl rfl) (fun _ _ h => h)
    intro
    exact Acts.pure fun t s h => ⟨h, fun rule' hr => by cases hr; exact hreach⟩

theorem acts_legacy :
    Acts host data start (Sound host data start R) (legacy host data)
      (fun found t s => Sound host data start R t s ∧
        ∀ rule ∈ found, maintains data → Reaches host data start rule.name)
      (Sound host data start fun _ => True) := by
  have hread : Acts host data start (Sound host data start R)
      (attempt .persistentRules CmdletError.stop)
      (fun rules => Sound host data start fun s => R s ∧ ∀ rule ∈ rules, ∃ r ∈ s, r.object = rule)
      (Sound host data start R) := by
    apply acts_read .persistentRules trivial fun _ _ => rfl
    intro t s o rules h hrules
    simp only [handle, PolicyAnswer.reply] at hrules
    split at hrules
    · cases hrules
    · cases hrules
      exact h.conseq ⟨h.holds, fun rule hr => List.mem_map.mp hr⟩
  apply Acts.seq hread (fun _ _ h => h.weaken)
  intro rules
  have hall : Acts host data start
      (Sound host data start fun s => R s ∧ ∀ rule ∈ rules, ∃ r ∈ s, r.object = rule)
      (gather (fun p => legacyCandidate host data p.1 p.2)
        (rules.flatMap fun rule => data.roles.map fun role => (rule, role)))
      (fun found t s =>
        Sound host data start (fun s => R s ∧ ∀ rule ∈ rules, ∃ r ∈ s, r.object = rule) t s ∧
          ∀ rule ∈ found, maintains data → Reaches host data start rule.name)
      (Sound host data start fun s => R s ∧ ∀ rule ∈ rules, ∃ r ∈ s, r.object = rule) := by
    apply Runs.gather (fun rule : RuleObject => maintains data → Reaches host data start rule.name)
    · exact fun _ => stable_still _
    · exact fun _ _ => stable_still _
    rintro ⟨rule, role⟩ hmem
    obtain ⟨rule', hrule, hpair⟩ := List.mem_flatMap.mp hmem
    obtain ⟨role', hrole, hpair⟩ := List.mem_map.mp hpair
    cases hpair
    exact acts_legacyCandidate hrole fun s hs => hs.2 rule hrule
  exact hall.conseq (fun _ _ h => h) (fun _ _ _ h => ⟨h.1.conseq h.1.holds.1, h.2⟩)
    fun _ _ _ h => h.weaken

theorem maintains_of_mem (h : data.mode ∈ [FirewallMode.install, .uninstall]) : maintains data := by
  simpa [maintains] using h

theorem acts_settleLegacy (hR : Downward R) :
    Acts host data start (Sound host data start R) (settleLegacy host data)
      (fun found t s => Sound host data start R t s ∧
        ∀ rule ∈ found, maintains data → Reaches host data start rule.name)
      (Sound host data start fun _ => True) := by
  have hfound : Acts host data start (Sound host data start R) (candidates host data)
      (fun found t s => Sound host data start R t s ∧
        ∀ rule ∈ found, maintains data → Reaches host data start rule.name)
      (Sound host data start fun _ => True) := by
    unfold candidates
    split
    · exact Acts.pure fun _ _ h => ⟨h, fun _ hr => by cases hr⟩
    · exact acts_legacy
  apply Acts.seq hfound (fun _ _ h => h)
  intro found
  apply Runs.given fun _ _ h => h.2
  intro hfound
  split
  · next hmode =>
    apply Acts.seq (acts_stage.weaken fun _ _ h => h.1) (fun _ _ h => h)
    intro
    have hall : Acts host data start (Sound host data start R) (each (disableVerified host) found)
        (fun _ => Sound host data start R) (Sound host data start R) := by
      refine Acts.each (fun _ => Sound host data start R) fun rule l hmem => ?_
      have hreach := hfound rule (hmem.subset List.mem_cons_self) (maintains_of_mem hmode)
      exact (acts_disableVerified hR hreach).conseq (fun _ _ h => h)
        (fun _ _ _ h => h.conseq h.holds.1) fun _ _ _ h => h
    apply Acts.seq hall (fun _ _ h => h.weaken)
    intro
    exact Acts.pure fun _ _ h => ⟨h, hfound⟩
  · apply Acts.seq Acts.refuseIf (fun _ _ h => h.1.weaken)
    intro
    exact Acts.pure fun _ _ h => ⟨h.1.1, hfound⟩

theorem acts_removeLegacy (hR : Downward R) {rule : RuleObject} (hm : maintains data)
    (hreach : Reaches host data start rule.name) :
    Acts host data start (Sound host data start R) (removeLegacy host rule)
      (fun _ => Sound host data start R) (Sound host data start R) := by
  apply Acts.seq (acts_write (.removeRule rule) ⟨hreach, hm⟩ fun t s o h => ?_) (fun _ _ h => h)
  · intro
    apply Acts.seq (acts_glance .persistentRules trivial fun _ _ => rfl) (fun _ _ h => h)
    intro left
    exact Acts.refuseIf.conseq (fun _ _ h => h) (fun _ _ _ h => h.1) fun _ _ _ h => h
  · refine h.write ⟨hreach, hm⟩ (.inl hm) ?_
    simp only [handle]
    split
    · exact hR.drop rule.name s h.holds
    · exact h.holds

/-! ### The startup -/

theorem acts_reconcile (hR : Downward R) (roles : List RoleDefinition)
    (hroles : ∀ role ∈ roles, role ∈ targets data) :
    Acts host data start (Sound host data start R) (reconcile host data roles)
      (fun failed => Sound host data start fun s =>
        R s ∧ (failed = false → ∀ role ∈ roles, Off host role.name s))
      (Sound host data start R) := by
  induction roles generalizing R with
  | nil => exact Acts.pure fun _ _ h => h.conseq ⟨h.holds, by simp⟩
  | cons role rest ih =>
    have hrole : Acts host data start (Sound host data start R)
        (reconcileRole host data role).caught
        (fun result => Sound host data start fun s =>
          R s ∧ (result.toBool = true → Off host role.name s))
        (Sound host data start R) := by
      refine ((acts_retireOwned hR (hroles role List.mem_cons_self) _ _).caught).conseq
        (fun _ _ h => h) ?_ fun _ _ _ h => h
      rintro (e | ⟨⟩) t s h
      · exact Sound.conseq h ⟨h.holds, fun hr => by cases hr⟩
      · exact Sound.conseq h ⟨h.holds.1, fun _ => h.holds.2⟩
    apply Acts.seq hrole (fun _ _ h => h)
    intro result
    have hdown : Downward fun s => R s ∧ (result.toBool = true → Off host role.name s) :=
      hR.and (downward_off role.name).imp
    apply Acts.seq (ih hdown fun r hr => hroles r (List.mem_cons_of_mem _ hr))
      (fun _ _ h => h.conseq h.holds.1)
    intro failed
    refine Acts.pure fun t s h => h.conseq ⟨h.holds.1.1, fun hnone role' hr => ?_⟩
    simp only [Bool.or_eq_false_iff, Bool.not_eq_false'] at hnone
    rcases List.mem_cons.mp hr with rfl | hr
    · exact h.holds.1.2 hnone.1
    · exact h.holds.2 hnone.2 role' hr

theorem targets_startup (hmode : data.mode = .startup) : targets data = data.roles := by
  unfold targets
  cases hop : data.operation with
  | ensure | disable => simp [PolicyInput.mode, PolicyOperation.mode, hop] at hmode
  | _ => rfl

theorem acts_startup :
    Acts host data start (Sound host data start fun _ => True) (startup host data)
      (fun _ => Sound host data start fun s =>
        data.mode = .startup → ∀ role ∈ targets data, Retired host data role s)
      (Sound host data start fun _ => True) := by
  unfold startup
  split
  · next hmode =>
    have htargets := targets_startup hmode
    apply Acts.seq (acts_reconcile Downward.true data.roles fun role hr => htargets ▸ hr)
      (fun _ _ h => h)
    intro failed
    refine Acts.refuseIf.conseq (fun _ _ h => h) ?_ fun _ _ _ h => h.conseq h.holds.1
    rintro - t s ⟨h, hfailed⟩
    refine h.conseq fun _ role hr => ⟨?_, fun hm => ?_⟩
    · exact h.holds.2 (by simpa using hfailed) role (htargets ▸ hr)
    · rw [hmode] at hm
      cases hm
  · next hmode => exact Acts.pure fun _ _ h => h.conseq fun hm => absurd hm hmode

/-! ### The roles -/

/-- A rule that is disabled, and removed in an uninstallation. -/
theorem acts_retireRule (hR : Downward R) {role : RoleDefinition} {rule : RuleObject}
    (hreach : Reaches host data start rule.name) (hsame : host.same rule.name role.name = true) :
    Acts host data start (Sound host data start R) (retireRule host data role rule)
      (fun _ => Sound host data start fun s => R s ∧ Retired host data role s)
      (Sound host data start R) := by
  apply Acts.seq acts_stage (fun _ _ h => h)
  intro
  apply Acts.seq (acts_disableVerified hR hreach) (fun _ _ h => h)
  intro
  have hoff : ∀ {t : PolicyRun} {s : List StoredRule},
      Sound host data start (fun s => R s ∧ Off host rule.name s) t s → Off host role.name s :=
    fun h => h.holds.2.congr hsame
  have hdown : Downward fun s => R s ∧ Off host rule.name s := hR.and (downward_off rule.name)
  split
  · next hmode =>
    apply Acts.seq acts_stage (fun _ _ h => h)
    intro
    apply Acts.via (fun _ => Sound host data start fun s => R s ∧ Off host rule.name s)
      (acts_write (.removeRule rule) ⟨hreach, .inr hmode⟩ fun t s o h => ?_)
      (fun _ _ h => h.conseq h.holds.1)
    rotate_left
    · refine h.write ⟨hreach, .inr hmode⟩ (.inl (.inr hmode)) ?_
      simp only [handle]
      split
      · exact hdown.drop rule.name s h.holds
      · exact h.holds
    · intro
      apply Acts.seq acts_exact (fun _ _ h => h.conseq h.holds.1)
      intro left
      refine Acts.refuseIf.conseq (fun _ _ h => h) ?_ fun _ _ _ h => h.1.conseq h.1.holds.1
      rintro - t s ⟨⟨h, rfl⟩, hleft⟩
      refine h.conseq ⟨h.holds.1, hoff h, fun _ => ?_⟩
      simpa using hleft
  · next hmode =>
    exact Acts.pure fun t s h => h.conseq ⟨h.holds.1, hoff h, fun hm => absurd hm hmode⟩

/-- The rules found under the name of a role that is to be retired. -/
theorem acts_applyRole_retire (hR : Downward R) {role : RoleDefinition}
    (hrole : role ∈ targets data)
    (hmode : data.mode ∈ [FirewallMode.startup, .disable, .uninstall]) :
    Acts host data start (Sound host data start R) (applyRole host data role)
      (fun _ => Sound host data start fun s => R s ∧ Retired host data role s)
      (Sound host data start R) := by
  apply Acts.seq acts_stage (fun _ _ h => h)
  intro
  apply Acts.seq acts_exact (fun _ _ h => h)
  intro rules
  apply Acts.seq Acts.refuseIf (fun _ _ h => h.1)
  intro
  apply Runs.given fun _ _ h => h.2
  intro hlength
  apply Acts.seq (acts_requireAllOwned fun _ _ h => h.1.1.distinct) (fun _ _ h => h.1.1)
  intro
  rw [if_pos hmode]
  rcases one_or_none hlength with rfl | ⟨rule, rfl⟩
  · refine Acts.pure fun t s h => ?_
    obtain ⟨⟨⟨h, hfound⟩, -⟩, -⟩ := h
    have hnone := List.map_eq_nil_iff.mp hfound.symm
    exact h.conseq ⟨h.holds, off_of_named_nil hnone, fun _ => hnone⟩
  · apply Runs.given (φ := Reaches host data start rule.name ∧ host.same rule.name role.name = true)
    · rintro t s ⟨⟨⟨h, hfound⟩, -⟩, howned⟩
      have hmem : rule ∈ (named host s role.name).map (·.object) :=
        hfound ▸ List.mem_singleton_self rule
      obtain ⟨r, hr, hrule⟩ := List.mem_map.mp hmem
      exact ⟨h.reaches hrole hmem (howned rule List.mem_cons_self), hrule ▸ (mem_named.mp hr).2⟩
    · rintro ⟨hreach, hsame⟩
      refine Acts.seq ((acts_retireRule hR hreach hsame).weaken fun _ _ h => h.1.1.1)
        (fun _ _ h => h) fun _ => ?_
      exact Acts.pure fun _ _ h => h

/-- What an ensured or installed role leaves: an applied report where it was ensured. -/
theorem acts_applyRole_prepare {role : RoleDefinition} (hrole : role ∈ targets data)
    (hmode : data.mode = .install ∨ data.mode = .ensure)
    (hone : data.mode = .ensure → targets data = [role]) :
    Acts host data start (Sound host data start fun _ => True) (applyRole host data role)
      (fun _ t s => Sound host data start (fun _ => True) t s ∧ ∀ wanted port interface,
        data.operation = .ensure wanted port interface → Applied host data role port t s)
      (Sound host data start fun _ => True) := by
  apply Acts.seq acts_stage (fun _ _ h => h)
  intro
  apply Acts.seq acts_exact (fun _ _ h => h)
  intro rules
  apply Acts.seq Acts.refuseIf (fun _ _ h => h.1)
  intro
  apply Acts.seq (acts_requireAllOwned fun _ _ h => h.1.1.distinct) (fun _ _ h => h.1.1)
  intro
  rw [if_neg (by rcases hmode with h | h <;> simp [h])]
  apply Acts.seq (acts_stage.weaken fun _ _ h => h.1.1.1) (fun _ _ h => h)
  intro
  cases hop : data.operation with
  | ensure wanted port interface =>
    have hens : data.mode = .ensure := by rw [PolicyInput.mode, hop]; rfl
    apply Acts.seq Acts.refuseIf (fun _ _ h => h)
    intro
    apply Acts.seq (acts_selectedAlias.weaken fun _ _ h => h.1) (fun _ _ h => h)
    intro aliasName
    apply Runs.given fun _ _ h => h.2
    intro halias
    apply Acts.seq ((acts_prepare hmode hrole hone).weaken fun _ _ h => h.1) (fun _ _ h => h)
    intro action
    refine (acts_enableRule hens hrole halias).conseq (fun _ _ h => h) ?_ fun _ _ _ h => h
    rintro - t s h
    refine ⟨h.1, fun _ _ _ he => ?_⟩
    cases he
    exact h.2
  | _ =>
    apply Acts.seq (acts_prepare hmode hrole hone) (fun _ _ h => h)
    intro
    exact Acts.pure fun _ _ h => ⟨h.1.weaken, fun _ _ _ he => by cases he⟩

/-! ### The body -/

/-- The run has changed nothing yet. -/
def Fresh (start : List StoredRule) (t : PolicyRun) (rules : List StoredRule) : Prop :=
  rules = start ∧ t.mutated = false ∧ t.touched = none

/-- The run knows its input, or not yet. -/
def Entered (start : List StoredRule) (found : Option PolicyInput) (t : PolicyRun)
    (rules : List StoredRule) : Prop :=
  Fresh start t rules ∧ t.outcome = .inactive ∧ t.data = found

theorem acts_admitInput (hstart : Distinct start) :
    Acts host data start (fun t s => t = {} ∧ s = start) (admitInput host)
      (fun found t s => found = data ∧ Sound host data start (fun _ => True) t s)
      (Fresh start) := by
  have himports : Acts host data start (fun t s => t = {} ∧ s = start)
      (each (fun name => attempt (.importModule name) CmdletError.stop) trustedModules)
      (fun _ => Entered start none) (Entered start none) := by
    refine (Acts.each (fun _ => Entered start none) fun name _ _ =>
      acts_glance (.importModule name) trivial fun _ _ => rfl).weaken ?_
    rintro t s ⟨rfl, rfl⟩
    exact ⟨⟨rfl, rfl, rfl⟩, rfl, rfl⟩
  have hinput : Acts host data start (Entered start none) (attempt .readInput CmdletError.stop)
      (fun found t s => Entered start none t s ∧ found = data) (Entered start none) := by
    apply acts_read .readInput trivial fun _ _ => rfl
    intro t s o found h hfound
    refine ⟨h, ?_⟩
    simp only [handle, PolicyAnswer.reply] at hfound
    split at hfound
    · cases hfound
    · cases hfound
      rfl
  have hstage : ∀ {name : String} {found : Option PolicyInput},
      Acts host data start (Entered start found) (stage name) (fun _ => Entered start found)
        (Fresh start) := Acts.change fun _ _ h => h
  apply Acts.seq himports (fun _ _ h => h.1)
  intro
  apply Acts.seq hstage (fun _ _ h => h)
  intro
  apply Acts.seq hinput (fun _ _ h => h.1)
  intro found
  apply Runs.given fun _ _ h => h.2
  rintro rfl
  refine Acts.via (fun _ => Entered start (some found)) (Acts.change fun t s h => ?_)
    (fun _ _ h => h) fun _ => ?_
  · exact ⟨h.1.1, h.1.2.1, rfl⟩
  apply Acts.seq Acts.refuseIf (fun _ _ h => h.1)
  intro
  apply Acts.seq (hstage.weaken fun _ _ h => h.1) (fun _ _ h => h)
  intro
  have hask : Acts host found start (Entered start (some found)) (ask .isAdministrator)
      (fun _ => Entered start (some found)) (Fresh start) :=
    .ask (fun _ => stable_still _) (fun _ _ _ => trivial) (fun _ _ _ h => h)
      fun _ _ => stable_still _
  apply Acts.seq hask (fun _ _ h => h)
  intro administrator
  split
  · refine Acts.pure fun t s h => ⟨rfl, ?_⟩
    obtain ⟨⟨rfl, -, htouched⟩, houtcome, hdata⟩ := h
    exact {
      framed := fun _ _ => Iff.rfl
      distinct := hstart
      read := hdata
      untouched := fun _ _ => rfl
      touched := fun role hr => by rw [htouched] at hr; cases hr
      available := fun reason hr => by rw [houtcome] at hr; cases hr
      inactive := fun _ => houtcome
      holds := True.intro }
  · exact Acts.via (fun _ => Fresh start) (Acts.change fun t s h => h.1) (fun _ _ h => h)
      fun _ => Acts.throw fun _ _ h => h

/-- The modes that retire their roles. -/
def retires (data : PolicyInput) : Prop := data.mode ∈ [FirewallMode.startup, .disable, .uninstall]

def AllRetired (host : PolicyHost) (data : PolicyInput) (rules : List StoredRule) : Prop :=
  retires data → ∀ role ∈ targets data, Retired host data role rules

theorem downward_retiredOnce (l : List RoleDefinition) (p : RoleDefinition → Prop) :
    Downward fun s => ∀ role ∈ l, p role → Retired host data role s :=
  .all fun role => .imp (.imp (downward_retired role))

theorem downward_allRetired : Downward (AllRetired host data) :=
  .imp (.all fun role => .imp (downward_retired role))

/-- The report of an ensured role is in place. -/
def Ensured (host : PolicyHost) (data : PolicyInput) (t : PolicyRun) (rules : List StoredRule) :
    Prop :=
  ∀ wanted port interface, data.operation = .ensure wanted port interface →
    ∃ role ∈ targets data, Applied host data role port t rules

theorem acts_rolesOf {pre : PolicyRun → List StoredRule → Prop} :
    Acts host data start pre (rolesOf data)
      (fun roles t s => pre t s ∧ (roles = targets data ∧ (data.mode = .ensure → roles.length = 1) ∨
        data.mode = .startup ∧ roles = [])) pre := by
  simp only [rolesOf, targets, PolicyInput.mode]
  cases data.operation with
  | ensure =>
    apply Acts.seq Acts.refuseIf (fun _ _ h => h)
    intro
    exact Acts.pure fun _ _ h => ⟨h.1, .inl ⟨rfl, fun _ => not_not.mp h.2⟩⟩
  | disable =>
    apply Acts.seq Acts.refuseIf (fun _ _ h => h)
    intro
    exact Acts.pure fun _ _ h => ⟨h.1, .inl ⟨rfl, fun hm => by cases hm⟩⟩
  | startup => exact Acts.pure fun _ _ h => ⟨h, .inr ⟨rfl, rfl⟩⟩
  | _ => exact Acts.pure fun _ _ h => ⟨h, .inl ⟨rfl, fun hm => by cases hm⟩⟩

/-- Every role is prepared or retired, as its mode asks. -/
theorem acts_applyRoles {roles : List RoleDefinition}
    (hroles : roles = targets data ∧ (data.mode = .ensure → roles.length = 1) ∨
      data.mode = .startup ∧ roles = []) :
    Acts host data start
      (Sound host data start fun s =>
        data.mode = .startup → ∀ role ∈ targets data, Retired host data role s)
      (each (applyRole host data) roles)
      (fun _ t s => Sound host data start (AllRetired host data) t s ∧ Ensured host data t s)
      (Sound host data start fun _ => True) := by
  rcases hroles with ⟨rfl, hone⟩ | ⟨hmode, rfl⟩
  · by_cases hret : retires data
    · have hall : Acts host data start
          (Sound host data start fun s => ∀ role ∈ targets data, role ∉ targets data →
            Retired host data role s)
          (each (applyRole host data) (targets data))
          (fun _ => Sound host data start fun s => ∀ role ∈ targets data, role ∉ [] →
            Retired host data role s)
          (Sound host data start fun _ => True) := by
        refine Acts.each (fun l => Sound host data start fun s => ∀ role ∈ targets data, role ∉ l →
          Retired host data role s) fun role l hmem => ?_
        have hrole : role ∈ targets data := hmem.subset List.mem_cons_self
        refine (acts_applyRole_retire (downward_retiredOnce _ _) hrole hret).conseq
          (fun _ _ h => h) (fun _ _ _ h => h.conseq fun role' hr hl => ?_)
          fun _ _ _ h => h.weaken
        by_cases heq : role' = role
        · exact heq ▸ h.holds.2
        · exact h.holds.1 role' hr (by simp [heq, hl])
      refine hall.conseq (fun _ _ h => h.conseq fun role hr hn => absurd hr hn) ?_ fun _ _ _ h => h
      rintro - t s h
      refine ⟨h.conseq fun _ role hr => h.holds role hr List.not_mem_nil, fun _ _ _ hop => ?_⟩
      simp [retires, PolicyInput.mode, PolicyOperation.mode, hop] at hret
    · have hmode : data.mode = .install ∨ data.mode = .ensure := by
        unfold retires at hret
        cases hm : data.mode <;> simp_all
      rcases hmode with hmode | hmode
      · refine (Acts.each (fun _ => Sound host data start fun _ => True)
          fun role l hmem => ?_).conseq (fun _ _ h => h.weaken)
          (fun _ _ _ h => ⟨h.conseq fun hr => absurd hr hret, ?_⟩) fun _ _ _ h => h
        · refine (acts_applyRole_prepare (hmem.subset List.mem_cons_self) (.inl hmode) fun hm => ?_)
            |>.conseq (fun _ _ h => h) (fun _ _ _ h => h.1) fun _ _ _ h => h
          rw [hmode] at hm
          cases hm
        · intro _ _ _ hop
          rw [PolicyInput.mode, hop] at hmode
          cases hmode
      · obtain ⟨role, hrole⟩ := List.length_eq_one_iff.mp (hone hmode)
        have hmem : role ∈ targets data := hrole ▸ List.mem_singleton_self role
        rw [hrole]
        refine Acts.seq ((acts_applyRole_prepare hmem (.inr hmode) fun _ => hrole).weaken
          fun _ _ h => h.weaken) (fun _ _ h => h) fun _ => ?_
        refine Acts.pure fun t s h => ⟨h.1.conseq fun hr => absurd hr hret, ?_⟩
        exact fun wanted port interface hop => ⟨role, hmem, h.2 wanted port interface hop⟩
  · refine Acts.pure fun t s h => ⟨h.conseq fun _ => h.holds hmode, fun _ _ _ hop => ?_⟩
    rw [PolicyInput.mode, hop] at hmode
    cases hmode

theorem acts_retireLegacy {found : List RuleObject}
    (hfound : ∀ rule ∈ found, maintains data → Reaches host data start rule.name) :
    Acts host data start
      (fun t s => Sound host data start (AllRetired host data) t s ∧ Ensured host data t s)
      (retireLegacy host data found)
      (fun _ t s => Sound host data start (AllRetired host data) t s ∧ Ensured host data t s)
      (Sound host data start fun _ => True) := by
  unfold retireLegacy
  split
  · next hmode =>
    have hm := maintains_of_mem hmode
    apply Acts.seq (acts_stage.weaken fun _ _ h => h.1) (fun _ _ h => h)
    intro
    refine (Acts.each (fun _ => Sound host data start (AllRetired host data))
      fun rule l hmem => acts_removeLegacy downward_allRetired hm
        (hfound rule (hmem.subset List.mem_cons_self) hm)).conseq
      (fun _ _ h => h) (fun _ _ _ h => ⟨h, fun _ _ _ hop => ?_⟩) fun _ _ _ h => h.weaken
    rw [PolicyInput.mode, hop] at hmode
    simp [PolicyOperation.mode] at hmode
  · exact Acts.pure fun _ _ h => h

/-- What a report says of the rules it leaves. -/
def Truthful (host : PolicyHost) (data : PolicyInput) (start : List StoredRule)
    (report : FirewallReport RuleShape) (rules : List StoredRule) : Prop :=
  match report.outcome with
  | .applied name _ _ _ => ∃ wanted port interface aliasName, ∃ role ∈ targets data,
      data.operation = .ensure wanted port interface ∧ name = role.name ∧
      (interface = none → aliasName = "Any") ∧ VerifiedRule host data role port aliasName true rules
  | .inactive => data.mode ≠ .ensure ∧ AllRetired host data rules
  | .unavailable _ => rules = start
  | .failed _ _ uncertain => uncertain = false → ¬ maintains data → rules = start ∨
      data.mode = .ensure ∧ ∀ role ∈ targets data, Off host role.name rules

/-- The body reports a settled outcome, or it fails before or after its first write. -/
theorem acts_body (hstart : Distinct start) :
    Acts host data start (fun t s => t = {} ∧ s = start) (body host)
      (fun report _ s => report.ok = true ∧ report.outcome.settled = true ∧
        Truthful host data start report s)
      (fun t s => Fresh start t s ∨ Sound host data start (fun _ => True) t s) := by
  apply Acts.seq (acts_admitInput hstart) (fun _ _ h => .inl h)
  intro found
  apply Runs.given fun _ _ h => h.1
  rintro rfl
  apply Acts.seq (acts_stage.weaken fun _ _ h => h.2) (fun _ _ h => h)
  intro
  apply Acts.seq acts_startup (fun _ _ h => .inr h)
  intro
  have hdown : Downward fun s =>
      found.mode = .startup → ∀ role ∈ targets found, Retired host found role s :=
    .imp (.all fun role => .imp (downward_retired role))
  apply Acts.seq (acts_settleLegacy hdown) (fun _ _ h => .inr h)
  intro rules
  apply Runs.given fun _ _ h => h.2
  intro hfound
  apply Acts.seq (acts_rolesOf.weaken fun _ _ h => h.1) (fun _ _ h => .inr h.weaken)
  intro roles
  apply Runs.given fun _ _ h => h.2
  intro hroles
  apply Acts.seq ((acts_applyRoles hroles).weaken fun _ _ h => h.1) (fun _ _ h => .inr h)
  intro
  apply Acts.seq (acts_retireLegacy hfound) (fun _ _ h => .inr h)
  intro
  apply Acts.seq Acts.record (fun _ _ h => .inr h.1.weaken)
  intro run
  apply Acts.seq Acts.refuseIf (fun _ _ h => .inr h.1.1.weaken)
  intro
  refine Acts.pure fun t s h => ⟨rfl, ?_⟩
  obtain ⟨⟨⟨h, hensured⟩, rfl⟩, -⟩ := h
  unfold Truthful
  cases hop : found.operation with
  | ensure wanted port interface =>
    obtain ⟨role, hrole, aliasName, action, blocks, houtcome, halias, hverified⟩ :=
      hensured wanted port interface hop
    simp only [houtcome]
    exact ⟨rfl, wanted, port, interface, aliasName, role, hrole, rfl, rfl,
      fun hnone => halias (by rw [hop]; exact hnone), hverified⟩
  | _ =>
    have hmode : found.mode ≠ .ensure := by simp [PolicyInput.mode, hop, PolicyOperation.mode]
    simp only [h.inactive hmode]
    exact ⟨rfl, hmode, h.holds⟩

/-! ### The cleanup -/

/-- A failed run that is not uncertain is harmless. -/
def Harmless (host : PolicyHost) (data : PolicyInput) (start rules : List StoredRule) : Prop :=
  ¬ maintains data → rules = start ∨
    data.mode = .ensure ∧ ∀ role ∈ targets data, Off host role.name rules

theorem acts_cleanup {failed : PolicyRun} :
    Acts host data start
      (fun t s => (Fresh start t s ∨ Sound host data start (fun _ => True) t s) ∧ failed = t)
      (cleanup host failed)
      (fun uncertain t s => (Fresh start t s ∨ Sound host data start (fun _ => True) t s) ∧
        (uncertain = false → Harmless host data start s))
      (fun _ _ => False) := by
  unfold cleanup
  split
  · next role found htouched hdata =>
    apply Runs.given (φ := found = data ∧ failed.mutated = true ∧ role ∈ targets data ∧
      (data.mode = .ensure → targets data = [role]))
    · rintro t s ⟨h | h, rfl⟩
      · rw [h.2.2] at htouched
        cases htouched
      · have hfound := h.read
        rw [hdata] at hfound
        cases hfound
        exact ⟨rfl, h.touched role htouched⟩
    · rintro ⟨rfl, hmutated, hrole, hone⟩
      have hclean : Acts host found start
          (fun t s => (Fresh start t s ∨ Sound host found start (fun _ => True) t s) ∧ failed = t)
          (cleanupRole host found role).caught
          (fun result => Sound host found start fun s =>
            result.toBool = true → Off host role.name s) (fun _ _ => False) := by
        refine ((acts_retireOwned Downward.true hrole _ _).caught).conseq ?_ ?_ fun _ _ _ h => h
        · rintro t s ⟨h | h, rfl⟩
          · rw [h.2.2] at htouched
            cases htouched
          · exact h
        · rintro (e | ⟨⟩) t s h
          · exact Sound.conseq h fun hr => by cases hr
          · exact Sound.conseq h fun _ => h.holds.2
      apply Acts.seq hclean (fun _ _ h => h)
      intro result
      cases result with
      | ok =>
        refine Acts.pure fun t s h => ⟨.inr h.weaken, fun hcertain _ => .inr ?_⟩
        by_cases hmode : found.mode = .ensure
        · refine ⟨hmode, fun role' hr => ?_⟩
          rw [hone hmode, List.mem_singleton] at hr
          exact hr ▸ h.holds rfl
        · rw [if_neg hmode, hmutated] at hcertain
          cases hcertain
      | error e => exact Acts.pure fun t s h => ⟨.inr h.weaken, fun hcertain => by cases hcertain⟩
  · next hnone =>
    refine Acts.pure fun t s h => ⟨h.1, fun hcertain hm => .inl ?_⟩
    obtain ⟨h | h, rfl⟩ := h
    · exact h.1
    · exact h.untouched hm hcertain

/-- The printed report is true, and its exit code and its flag agree with its outcome. -/
def Printed (host : PolicyHost) (data : PolicyInput) (start : List StoredRule)
    (printed : UInt32 × FirewallReport RuleShape) (rules : List StoredRule) : Prop :=
  printed.2.ok = (printed.1 == 0) ∧ printed.2.ok = printed.2.outcome.settled ∧
    Truthful host data start printed.2 rules

theorem acts_script (hstart : Distinct start) :
    Acts host data start (fun t s => t = {} ∧ s = start) (script host)
      (fun printed _ s => Printed host data start printed s) (fun _ _ => False) := by
  have hbody : Acts host data start (fun t s => t = {} ∧ s = start) (body host).caught
      (fun result t => returns (fun report s => Printed host data start (0, report) s)
        (fun _ s => Fresh start t s ∨ Sound host data start (fun _ => True) t s) result)
      (fun _ _ => False) := by
    refine ((acts_body hstart).caught).conseq
      (fun _ _ h => h) ?_ fun _ _ _ h => h
    rintro (e | report) t s h
    · exact h
    · exact ⟨h.1, h.1.trans h.2.1.symm, h.2.2⟩
  apply Acts.seq hbody (fun _ _ h => h)
  intro result
  cases result with
  | ok report => exact Acts.pure fun _ _ h => h
  | error e =>
    apply Acts.via (fun failed t s =>
      (Fresh start t s ∨ Sound host data start (fun _ => True) t s) ∧ failed = t)
      (Runs.record fun _ => stable_still _) (fun _ _ (h : False) => h)
    intro failed
    apply Acts.seq acts_cleanup (fun _ _ h => h)
    intro uncertain
    apply Acts.via (fun run t s => ((Fresh start t s ∨ Sound host data start (fun _ => True) t s) ∧
        (uncertain = false → Harmless host data start s)) ∧ run = t)
      (Runs.record fun _ => stable_still _) (fun _ _ (h : False) => h)
    intro run
    refine Acts.pure fun t s h => ?_
    obtain ⟨⟨h, hharmless⟩, rfl⟩ := h
    unfold Printed Truthful failure
    rcases h with h | h
    · cases run.outcome with
      | unavailable reason => exact ⟨rfl, rfl, h.1⟩
      | _ => exact ⟨rfl, rfl, hharmless⟩
    · cases hout : run.outcome with
      | unavailable reason => exact absurd hout (h.available reason)
      | _ => exact ⟨rfl, rfl, hharmless⟩

/-! ### The results -/

variable (host data) in
theorem safe_script (hstart : Distinct start) :
    (policyWorld host data).Safe (fun call _ => Permits host data start call)
      (ends (fun printed _ s => Printed host data start printed s) fun _ _ _ => False)
      (script host {}) start :=
  (acts_script hstart).triple {} start ⟨rfl, rfl⟩

/-- Outside of the modes that prepare a rule, no call turns one on. -/
theorem dim_handle {rules : List StoredRule} {call : PolicyCall} {o : PolicyAnswer}
    (hp : Permits host data start call) (hmode : data.mode ≠ .install ∧ data.mode ≠ .ensure)
    (h : ∀ r ∈ rules, r.object.enabled = true → r ∈ start) :
    ∀ r ∈ (handle host data rules call o).2, r.object.enabled = true → r ∈ start := by
  cases call with
  | setEnabled rule enabled =>
    simp only [handle]
    split
    · cases enabled with
      | true => exact absurd (hp.2 rfl) hmode.2
      | false =>
        rintro r hr hon
        obtain ⟨r', hr', rfl⟩ := List.mem_map.mp hr
        split at hon
        · cases hon
        · next hne =>
          rw [if_neg hne]
          exact h r' hr' hon
    · exact h
  | setRule | newRule =>
    rcases hp.2 with hm | hm
    · exact absurd hm hmode.1
    · exact absurd hm hmode.2
  | removeRule rule =>
    simp only [handle]
    split
    · exact fun r hr => h r (mem_dropRules.mp hr).1
    · exact h
  | _ => exact h

/-- What holds at every point of a run. -/
structure Contained (host : PolicyHost) (data : PolicyInput) (start rules : List StoredRule) :
    Prop where
  framed : Framed host data start rules
  distinct : Distinct rules
  dim : data.mode ≠ .install ∧ data.mode ≠ .ensure →
    ∀ r ∈ rules, r.object.enabled = true → r ∈ start

theorem contained_run (hstart : Distinct start) (moves : List (Move PolicyAnswer Empty)) :
    Contained host data start ((policyWorld host data).run (start, script host {}) moves).1 := by
  refine Safe.invariant (W := policyWorld host data) (I := Contained host data start)
    (stable_still _) ?_ (c := (start, script host {})) (safe_script host data hstart) ?_ moves
  · intro call s o hp h
    obtain ⟨hframed, hdistinct⟩ := framed_handle hp ⟨h.framed, h.distinct⟩
    exact ⟨hframed, hdistinct, fun hmode => dim_handle hp hmode (h.dim hmode)⟩
  · exact ⟨fun _ _ => Iff.rfl, hstart, fun _ r hr _ => hr⟩

theorem Framed.keeps {rules : List StoredRule} (h : Framed host data start rules) :
    ∀ r ∈ start, ¬ governs host data r → r ∈ rules :=
  fun r hr hforeign => (h r fun hreach => hforeign (hreach.2 r hr rfl)).mpr hr

theorem Framed.reaches {rules : List StoredRule} (h : Framed host data start rules) :
    ∀ r ∈ rules, r ∉ start → Reaches host data start r.name := by
  intro r hr hnew
  by_contra hout
  exact hnew ((h r hout).mp hr)

/-- Whatever its calls answer, at every point of a run every rule that the script does not own
under a role of its operation, and is not asked to migrate, is as it was; what is new or changed
has a name in reach; and a run that does not prepare a rule has turned none on. -/
theorem script_keeps_rules (hstart : Distinct start) (moves : List (Move PolicyAnswer Empty)) :
    let rules := ((policyWorld host data).run (start, script host {}) moves).1
    (∀ r ∈ start, ¬ governs host data r → r ∈ rules) ∧
    (∀ r ∈ rules, r ∉ start → Reaches host data start r.name) ∧
    (data.mode ≠ .install ∧ data.mode ≠ .ensure →
      ∀ r ∈ rules, r.object.enabled = true → r ∈ start) := by
  intro rules
  have h : Contained host data start rules := contained_run hstart moves
  exact ⟨h.framed.keeps, h.framed.reaches, h.dim⟩

/-- Texts are compared as they are. -/
def literalHost : PolicyHost where
  toPowerShell := .literal
  isDigit := Char.isDigit
  rooted _ := true
  recordBytes _ := 0
  reportBytes _ := 0
  listed n m := m == n
  listed_same _ _ h := by simpa [PowerShell.literal] using h

def listenerRule : StoredRule where
  object :=
    { name := "PocketStream.RTSP.Inbound.v2", group := firewallGroup
      displayName := "PocketStream RTSP Server", enabled := true, direction := "Inbound"
      action := "Allow", profile := "Any", edgeTraversalPolicy := "Block", platform := []
      looseSourceMapping := "False", localOnlyMapping := "False"
      remoteDynamicKeywordAddresses := [] }
  filters
    | .application => [⟨"C:\\PocketStream.exe", "Any"⟩]
    | .port => [⟨"TCP", ["8554"], ["Any"], "Any"⟩]
    | .address => [⟨["Any"], ["Any"]⟩]
    | .interface => [["Any"]]
    | .interfaceType => ["Any"]
    | .service => ["Any"]
    | .security => [⟨"NotRequired", "NotRequired", "Any", "Any", "Any", "False"⟩]

/-- A rule of another program's name with the same filters. -/
def otherRule : StoredRule := listenerRule.withName "CoreNet-DHCP-In"

def retireListener : PolicyInput :=
  ⟨2, .disable .rtsp, "C:\\PocketStream.exe", firewallGroup, firewallRoles⟩

/-- A call that succeeds. -/
def granted : PolicyAnswer := ⟨none, true, listenerRule, true, [], [], []⟩

/-- The other rule outlives a run that retires the listener. -/
theorem script_keeps_otherRule :
    otherRule ∈ ((policyWorld literalHost retireListener).run
      ([listenerRule, otherRule], script literalHost {})
        (List.replicate 17 (.reply granted))).1 := by
  refine (script_keeps_rules (by decide) _).1 otherRule (by simp) ?_
  rintro (⟨role, hrole, hn, -⟩ | ⟨hm, -⟩)
  · obtain ⟨hmem, hrtsp⟩ := List.mem_filter.mp hrole
    rcases List.mem_pair.mp hmem with rfl | rfl
    · exact absurd hn (by decide)
    · exact absurd hrtsp (by decide)
  · rcases hm with hm | hm <;> cases hm

theorem retire_run : (policyWorld literalHost retireListener).run
    ([listenerRule, otherRule], script literalHost {}) (List.replicate 17 (.reply granted)) =
      ([listenerRule.withEnabled false, otherRule],
        .done (.ok (0, ⟨2, true, "verified", true, .inactive, []⟩),
          { data := some retireListener, stage := "disable", mutated := true })) := rfl

end FirewallPolicy

end PocketStream
