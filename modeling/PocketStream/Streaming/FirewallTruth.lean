import PocketStream.Streaming.FirewallStore

/-! # What a policy report promises

An applied report names one enabled rule in the shape that was asked for, an
inactive one leaves no enabled rule of the roles it retires, and a failure that
is not uncertain has changed nothing or has left the rule disabled. The
assertions carry what of the store outlives the later disables and removals.
-/

namespace PocketStream

open Foundation Routine World

namespace FirewallPolicy

variable {host : PolicyHost} {data : PolicyInput} {start : List StoredRule}
  {R R' : List StoredRule → Prop}

/-! ### Assertions on the store -/

/-- No rule of the name is enabled. -/
def Off (host : PolicyHost) (name : String) (rules : List StoredRule) : Prop :=
  ∀ r ∈ rules, host.same r.name name = true → r.object.enabled = false

/-- The role has one rule, of the shape that is asked for. -/
def VerifiedRule (host : PolicyHost) (data : PolicyInput) (role : RoleDefinition) (port : UInt16)
    (aliasName : String) (enabled : Bool) (rules : List StoredRule) : Prop :=
  ∃ r s, named host rules role.name = [r] ∧ r.shape = .ok s ∧
    host.verified data s role port aliasName enabled = true

/-- What a disable, a startup and an uninstallation leave of a role. -/
def Retired (host : PolicyHost) (data : PolicyInput) (role : RoleDefinition)
    (rules : List StoredRule) : Prop :=
  Off host role.name rules ∧ (data.mode = .uninstall → named host rules role.name = [])

/-- What outlives disables and removals. -/
structure Downward (R : List StoredRule → Prop) : Prop where
  dim : ∀ name rules, R rules → R (editRules name (·.withEnabled false) rules)
  drop : ∀ name rules, R rules → R (dropRules name rules)

theorem mem_named {rules : List StoredRule} {name : String} {r : StoredRule} :
    r ∈ named host rules name ↔ r ∈ rules ∧ host.same r.name name = true := List.mem_filter

theorem Downward.true : Downward fun _ => True := ⟨fun _ _ h => h, fun _ _ h => h⟩

theorem Downward.and (h : Downward R) (h' : Downward R') : Downward fun s => R s ∧ R' s :=
  ⟨fun name s hs => ⟨h.dim name s hs.1, h'.dim name s hs.2⟩,
    fun name s hs => ⟨h.drop name s hs.1, h'.drop name s hs.2⟩⟩

theorem Downward.imp {p : Prop} (h : Downward R) : Downward fun s => p → R s :=
  ⟨fun name s hs hp => h.dim name s (hs hp), fun name s hs hp => h.drop name s (hs hp)⟩

theorem Downward.all {ι : Type} {S : ι → List StoredRule → Prop} (h : ∀ i, Downward (S i)) :
    Downward fun s => ∀ i, S i s :=
  ⟨fun name s hs i => (h i).dim name s (hs i), fun name s hs i => (h i).drop name s (hs i)⟩

theorem downward_off (name : String) : Downward (Off host name) where
  dim name' rules h := by
    intro r hr hn
    obtain ⟨r', hr', rfl⟩ := List.mem_map.mp hr
    split at hn
    · next hname =>
      rw [if_pos hname]
      rfl
    · next hname =>
      rw [if_neg hname]
      exact h r' hr' hn
  drop name' rules h := fun r hr hn => h r (mem_dropRules.mp hr).1 hn

theorem named_edit (name name' : String) (rules : List StoredRule) :
    named host (editRules name' (·.withEnabled false) rules) name =
      editRules name' (·.withEnabled false) (named host rules name) := by
  simp only [named, editRules, List.filter_map]
  congr 1
  apply List.filter_congr
  intro r _
  simp only [Function.comp]
  split <;> rfl

theorem downward_gone (name : String) : Downward fun rules => named host rules name = [] where
  dim name' rules h := by rw [named_edit, h]; rfl
  drop name' rules h := by
    rw [named, List.filter_eq_nil_iff] at h ⊢
    exact fun r hr => h r (mem_dropRules.mp hr).1

theorem downward_retired (role : RoleDefinition) : Downward (Retired host data role) :=
  (downward_off role.name).and (downward_gone role.name).imp

theorem off_of_named_nil {name : String} {rules : List StoredRule}
    (h : named host rules name = []) : Off host name rules := by
  intro r hr hn
  have hmem := mem_named.mpr ⟨hr, hn⟩
  rw [h] at hmem
  cases hmem

theorem off_of_readback {name : String} {rules : List StoredRule}
    (h : ((named host rules name).map (·.object)).map (·.enabled) = [false]) :
    Off host name rules := by
  intro r hr hn
  have hmem : r.object.enabled ∈ ((named host rules name).map (·.object)).map (·.enabled) :=
    List.mem_map_of_mem (List.mem_map_of_mem (mem_named.mpr ⟨hr, hn⟩))
  rw [h] at hmem
  exact List.mem_singleton.mp hmem

theorem Off.congr {name name' : String} {rules : List StoredRule} (h : Off host name rules)
    (hn : host.same name name' = true) : Off host name' rules :=
  fun r hr hr' => h r hr (PowerShell.same_trans hr' (PowerShell.same_symm hn))

theorem enabled_of_shape {r : StoredRule} {s : RuleShape} (h : r.shape = .ok s) :
    s.enabled = r.object.enabled := by
  unfold StoredRule.shape RuleShape.build at h
  split at h
  · cases h
    rfl
  · cases h

theorem VerifiedRule.off {role : RoleDefinition} {port : UInt16} {aliasName : String}
    {rules : List StoredRule} (h : VerifiedRule host data role port aliasName false rules) :
    Off host role.name rules := by
  obtain ⟨r, s, hnamed, hshape, hverified⟩ := h
  apply off_of_readback
  rw [hnamed, List.map_singleton, List.map_singleton, ← enabled_of_shape hshape]
  simp only [PolicyHost.verified, Bool.and_eq_true, beq_iff_eq] at hverified
  rw [hverified.2]

theorem VerifiedRule.owned {role : RoleDefinition} {port : UInt16} {aliasName : String}
    {enabled : Bool} {rules : List StoredRule}
    (h : VerifiedRule host data role port aliasName enabled rules) {r : StoredRule}
    (hr : r ∈ rules) (hn : host.same r.name role.name = true) : ownedRule host data r := by
  obtain ⟨r', s, hnamed, hshape, hverified⟩ := h
  have hmem := mem_named.mpr ⟨hr, hn⟩
  rw [hnamed, List.mem_singleton] at hmem
  subst hmem
  simp only [PolicyHost.verified, Bool.and_eq_true] at hverified
  exact ⟨s, hshape, hverified.1.1.1.1.1.1.1.1⟩

/-! ### The assertion of a run -/

/-- The start is known up to what is in reach, a run outside of a maintenance that has not
marked itself mutated has changed nothing, and the rule a run has touched is its own. -/
structure Sound (host : PolicyHost) (data : PolicyInput) (start : List StoredRule)
    (R : List StoredRule → Prop) (t : PolicyRun) (rules : List StoredRule) : Prop where
  framed : Framed host data start rules
  distinct : Distinct rules
  read : t.data = some data
  untouched : ¬ maintains data → t.mutated = false → rules = start
  touched : ∀ role, t.touched = some role → t.mutated = true ∧ role ∈ targets data ∧
    (data.mode = .ensure → targets data = [role])
  available : ∀ reason, t.outcome ≠ .unavailable reason
  inactive : data.mode ≠ .ensure → t.outcome = .inactive
  holds : R rules

namespace Sound

variable {t t' : PolicyRun} {rules : List StoredRule}

theorem conseq (h : Sound host data start R t rules) (hR : R' rules) :
    Sound host data start R' t rules :=
  { h with holds := hR }

theorem weaken (h : Sound host data start R t rules) :
    Sound host data start (fun _ => True) t rules :=
  h.conseq True.intro

/-- The stage and the records are of no concern. -/
theorem retag (h : Sound host data start R t rules) (hdata : t'.data = t.data)
    (hmutated : t'.mutated = t.mutated) (htouched : t'.touched = t.touched)
    (houtcome : t'.outcome = t.outcome) : Sound host data start R t' rules where
  framed := h.framed
  distinct := h.distinct
  read := hdata.trans h.read
  untouched hm ht := h.untouched hm (hmutated ▸ ht)
  touched role hr := by
    rw [hmutated]
    exact h.touched role (htouched ▸ hr)
  available := by
    rw [houtcome]
    exact h.available
  inactive hm := houtcome.trans (h.inactive hm)
  holds := h.holds

theorem mutate (h : Sound host data start R t rules) :
    Sound host data start R { t with mutated := true } rules :=
  { h with
    untouched := fun _ ht => by cases ht
    touched := fun role hr => ⟨rfl, (h.touched role hr).2⟩ }

theorem touch (h : Sound host data start R t rules) {role : RoleDefinition}
    (hrole : role ∈ targets data) (hone : data.mode = .ensure → targets data = [role]) :
    Sound host data start R { t with touched := some role, mutated := true } rules :=
  { h with
    untouched := fun _ ht => by cases ht
    touched := fun role' hr => by
      cases hr
      exact ⟨rfl, hrole, hone⟩ }

/-- A permitted write of a run that is marked, or of a maintenance. -/
theorem write (h : Sound host data start R t rules) {call : PolicyCall} {o : PolicyAnswer}
    (hp : Permits host data start call) (hm : maintains data ∨ t.mutated = true)
    (hR : R' (handle host data rules call o).2) :
    Sound host data start R' t (handle host data rules call o).2 where
  framed := (framed_handle hp ⟨h.framed, h.distinct⟩).1
  distinct := (framed_handle hp ⟨h.framed, h.distinct⟩).2
  read := h.read
  untouched hn ht := by
    rcases hm with hm | hm
    · exact absurd hm hn
    · rw [hm] at ht
      cases ht
  touched := h.touched
  available := h.available
  inactive := h.inactive
  holds := hR

/-- A rule that may be changed now and that the run did not make was there from the start. -/
theorem governed (h : Sound host data start R t rules) {r : StoredRule} (hr : r ∈ rules)
    (hg : governs host data r) : ∀ r' ∈ start, r'.name = r.name → governs host data r' := by
  intro r' hr' hn
  by_contra hforeign
  have hout : ¬ Reaches host data start r'.name := fun hreach => hforeign (hreach.2 r' hr' rfl)
  obtain rfl := h.distinct.unique ((h.framed r' hout).mpr hr') hr hn
  exact hforeign hg

/-- An owned rule found under the name of a role is in reach. -/
theorem reaches (h : Sound host data start R t rules) {role : RoleDefinition}
    (hrole : role ∈ targets data) {rule : RuleObject}
    (hfound : rule ∈ (named host rules role.name).map (·.object))
    (howned : ∀ r ∈ rules, r.object = rule → ownedRule host data r) :
    Reaches host data start rule.name := by
  obtain ⟨r, hr, rfl⟩ := List.mem_map.mp hfound
  obtain ⟨hr, hn⟩ := mem_named.mp hr
  exact ⟨.inr ⟨role, hrole, hn⟩, h.governed hr (.inl ⟨role, hrole, hn, howned r hr rfl⟩)⟩

/-- The name of a role without a rule is in reach. -/
theorem reaches_new (h : Sound host data start R t rules) {role : RoleDefinition}
    (hrole : role ∈ targets data) (hnone : named host rules role.name = []) :
    Reaches host data start role.name := by
  refine ⟨.inr ⟨role, hrole, PowerShell.same_refl _⟩, fun r hr hn => ?_⟩
  by_contra hforeign
  have hout : ¬ Reaches host data start r.name := fun hreach => hforeign (hreach.2 r hr rfl)
  have hmem : r ∈ named host rules role.name :=
    mem_named.mpr ⟨(h.framed r hout).mpr hr, hn ▸ PowerShell.same_refl _⟩
  rw [hnone] at hmem
  cases hmem

/-- A candidate of a migration is in reach of it. -/
theorem reaches_migrated (h : Sound host data start R t rules) (hm : maintains data)
    {role : RoleDefinition} (hrole : role ∈ data.roles) {r : StoredRule} (hr : r ∈ rules)
    (hmigrated : migrated host data role r) : Reaches host data start r.name :=
  ⟨.inl hm, h.governed hr (.inr ⟨hm, role, hrole, hmigrated⟩)⟩

end Sound

/-! ### The helpers of the script -/

section Helpers

theorem acts_stage {name : String} {bad : PolicyRun → List StoredRule → Prop} :
    Acts host data start (Sound host data start R) (stage name)
      (fun _ => Sound host data start R) bad :=
  Acts.change fun _ _ h => h.retag rfl rfl rfl rfl

theorem acts_disableVerified (hR : Downward R) {rule : RuleObject}
    (hreach : Reaches host data start rule.name) :
    Acts host data start (Sound host data start R) (disableVerified host rule)
      (fun _ => Sound host data start fun s => R s ∧ Off host rule.name s)
      (Sound host data start R) := by
  have hread : Acts host data start (Sound host data start R) (do
      let again ← exact host rule.name
      refuseIf (again.map (·.enabled) ≠ [false]) "Disable readback failed")
      (fun _ => Sound host data start fun s => R s ∧ Off host rule.name s)
      (Sound host data start R) := by
    apply Acts.seq acts_exact (fun _ _ h => h)
    intro again
    refine Acts.refuseIf.conseq (fun _ _ h => h) ?_ fun _ _ _ h => h.1
    rintro - t s ⟨⟨h, rfl⟩, hoff⟩
    exact h.conseq ⟨h.holds, off_of_readback (not_not.mp hoff)⟩
  unfold disableVerified
  split
  · apply Acts.via (fun _ t s => Sound host data start R t s ∧ t.mutated = true)
      (Acts.change fun t s h => ⟨h.mutate, rfl⟩) (fun _ _ h => h)
    intro
    refine Acts.seq (acts_write (.setEnabled rule false) ⟨hreach, fun h => by cases h⟩ ?_)
      (fun _ _ h => h) fun _ => hread
    rintro t s o ⟨h, hm⟩
    refine h.write ⟨hreach, fun h => by cases h⟩ (.inr hm) ?_
    simp only [handle]
    split
    · exact hR.dim rule.name s h.holds
    · exact h.holds
  · exact hread

theorem acts_readback {pre : PolicyRun → List StoredRule → Prop} {role : RoleDefinition}
    {port : UInt16} {aliasName message : String} {enabled : Bool}
    (hd : ∀ t s, pre t s → Distinct s) :
    Acts host data start pre (readback host data role port aliasName enabled message)
      (fun _ t s => pre t s ∧ VerifiedRule host data role port aliasName enabled s) pre := by
  apply Acts.seq acts_exact (fun _ _ h => h)
  intro found
  split
  · next rule =>
    apply Acts.seq (acts_shape fun t s h => hd t s h.1) (fun _ _ h => h.1)
    intro s
    refine Acts.refuseIf.conseq (fun _ _ h => h) ?_ fun _ _ _ h => h.1.1
    rintro - t rules ⟨⟨⟨h, hfound⟩, hshape⟩, hverified⟩
    obtain ⟨r, hnamed, rfl⟩ := List.map_eq_singleton_iff.mp hfound.symm
    have hr : r ∈ named host rules role.name := hnamed ▸ List.mem_singleton_self r
    exact ⟨h, r, s, hnamed, hshape r (mem_named.mp hr).1 rfl, by simpa using hverified⟩
  · exact Acts.throw fun _ _ h => h.1

theorem acts_selectedAlias {pre : PolicyRun → List StoredRule → Prop} :
    Acts host data start pre (selectedAlias host data)
      (fun a t s => pre t s ∧ (data.operation.interface = none → a = "Any")) pre := by
  unfold selectedAlias
  split
  · exact Acts.pure fun _ _ h => ⟨h, fun _ => rfl⟩
  · next id hid =>
    refine Acts.seq (acts_glance .netAdapters trivial fun _ _ => rfl) (fun _ _ h => h) fun all => ?_
    refine Acts.require.conseq (fun _ _ h => h) ?_ fun _ _ _ h => h
    exact fun _ _ _ h => ⟨h.1, fun hnone => by rw [hid] at hnone; cases hnone⟩

/-- The lists of the script that hold at most one rule. -/
theorem one_or_none {rules : List RuleObject} (h : ¬ 1 < rules.length) :
    rules = [] ∨ ∃ rule, rules = [rule] := by
  rcases rules with _ | ⟨rule, _ | ⟨rule', rest⟩⟩
  · exact .inl rfl
  · exact .inr ⟨rule, rfl⟩
  · simp at h

/-- The one rule found under a name may be owned, and is disabled then. -/
theorem acts_retireOwned (hR : Downward R) {role : RoleDefinition} (hrole : role ∈ targets data)
    (collision conflict : String) :
    Acts host data start (Sound host data start R) (do
        let rules ← exact host role.name
        refuseIf (1 < rules.length) collision
        each (fun rule => do
          requireOwned host data conflict rule
          disableVerified host rule) rules)
      (fun _ => Sound host data start fun s => R s ∧ Off host role.name s)
      (Sound host data start R) := by
  apply Acts.seq acts_exact (fun _ _ h => h)
  intro rules
  apply Acts.seq Acts.refuseIf (fun _ _ h => h.1)
  intro
  apply Runs.given fun _ _ h => h.2
  intro hlength
  rcases one_or_none hlength with rfl | ⟨rule, rfl⟩
  · refine Acts.pure fun t s h => ?_
    exact h.1.1.conseq ⟨h.1.1.holds, off_of_named_nil (List.map_eq_nil_iff.mp h.1.2.symm)⟩
  · refine Acts.via (fun _ => Sound host data start fun s => R s ∧ Off host role.name s)
      ?_ (fun _ _ h => h) fun _ => Acts.pure fun _ _ h => h
    apply Acts.seq (acts_requireOwned fun t s h => h.1.1.distinct) (fun _ _ h => h.1.1)
    intro
    apply Runs.given (φ := Reaches host data start rule.name ∧ host.same rule.name role.name = true)
    · rintro t s ⟨⟨⟨h, hfound⟩, -⟩, howned⟩
      have hmem : rule ∈ (named host s role.name).map (·.object) :=
        hfound ▸ List.mem_singleton_self rule
      obtain ⟨r, hr, hrule⟩ := List.mem_map.mp hmem
      exact ⟨h.reaches hrole hmem howned, hrule ▸ (mem_named.mp hr).2⟩
    · rintro ⟨hreach, hsame⟩
      refine (acts_disableVerified hR hreach).conseq (fun _ _ h => h.1.1.1) ?_ fun _ _ _ h => h
      exact fun _ _ _ h => h.conseq ⟨h.holds.1, h.holds.2.congr hsame⟩

end Helpers

/-! ### Preparing and enabling -/

section Ensure

variable {role : RoleDefinition} {port : UInt16} {aliasName : String}

/-- The run has touched the role. -/
def Touched (host : PolicyHost) (data : PolicyInput) (start : List StoredRule)
    (role : RoleDefinition) (R : List StoredRule → Prop) (t : PolicyRun) (rules : List StoredRule) :
    Prop :=
  Sound host data start R t rules ∧ t.touched = some role

theorem Touched.write {t : PolicyRun} {rules : List StoredRule}
    (h : Touched host data start role R t rules) {call : PolicyCall} {o : PolicyAnswer}
    (hp : Permits host data start call) (hR : R' (handle host data rules call o).2) :
    Touched host data start role R' t (handle host data rules call o).2 :=
  ⟨h.1.write hp (.inr (h.1.touched role h.2).1) hR, h.2⟩

theorem Touched.weaken {t : PolicyRun} {rules : List StoredRule}
    (h : Touched host data start role R t rules) :
    Touched host data start role (fun _ => True) t rules :=
  ⟨h.1.weaken, h.2⟩

/-- The name that `Prepare` writes. -/
def writtenName (role : RoleDefinition) : List RuleObject → String
  | [] => role.name
  | rule :: _ => rule.name

theorem acts_retireFound (hrole : role ∈ targets data) {rules : List RuleObject} :
    Acts host data start
      (fun t s => Sound host data start R t s ∧ rules = (named host s role.name).map (·.object))
      (retireFound host data role port aliasName rules)
      (fun _ t s => Sound host data start (fun _ => True) t s ∧
        Reaches host data start (writtenName role rules))
      (Sound host data start fun _ => True) := by
  cases rules with
  | nil =>
    refine Acts.pure fun t s h => ⟨h.1.weaken, ?_⟩
    exact h.1.reaches_new hrole (List.map_eq_nil_iff.mp h.2.symm)
  | cons rule rest =>
    apply Acts.seq (acts_shape fun _ _ h => h.1.distinct) (fun _ _ h => h.1.weaken)
    intro s
    apply Acts.seq Acts.refuseIf (fun _ _ h => h.1.1.weaken)
    intro
    apply Runs.given (φ := Reaches host data start rule.name)
    · rintro t rules ⟨⟨⟨h, hfound⟩, hshape⟩, howned⟩
      exact h.reaches hrole (hfound ▸ List.mem_cons_self)
        fun r hr hrule => ⟨s, hshape r hr hrule, by simpa using howned⟩
    · intro hreach
      refine Acts.seq ((acts_disableVerified Downward.true hreach).weaken
        fun _ _ h => h.1.1.1.weaken) (fun _ _ h => h) fun _ => ?_
      exact Acts.pure fun _ _ h => ⟨h.weaken, hreach⟩

/-- What is prepared reads back disabled, in the shape that was asked for. -/
theorem acts_prepare (hmode : data.mode = .install ∨ data.mode = .ensure)
    (hrole : role ∈ targets data) (hone : data.mode = .ensure → targets data = [role]) :
    Acts host data start (Sound host data start R) (prepare host data role port aliasName)
      (fun _ => Touched host data start role (VerifiedRule host data role port aliasName false))
      (Sound host data start fun _ => True) := by
  apply Acts.seq acts_exact (fun _ _ h => h.weaken)
  intro rules
  apply Acts.seq Acts.refuseIf (fun _ _ h => h.1.weaken)
  intro
  apply Acts.seq ((acts_retireFound hrole).weaken fun _ _ h => h.1) (fun _ _ h => h)
  intro action
  apply Runs.given fun _ _ h => h.2
  intro hreach
  apply Acts.via (fun _ => Touched host data start role fun _ => True)
    (Acts.change fun t s h => ⟨h.1.touch hrole hone, rfl⟩) (fun _ _ h => h)
  intro
  have hwrite : Acts host data start (Touched host data start role fun _ => True)
      (writeRule data role port aliasName rules)
      (fun _ => Touched host data start role fun _ => True)
      (Touched host data start role fun _ => True) := by
    cases rules with
    | nil =>
      exact acts_write _ ⟨hreach, hmode⟩ fun t s o h => h.write ⟨hreach, hmode⟩ True.intro
    | cons rule rest =>
      exact acts_write _ ⟨hreach, hmode⟩ fun t s o h => h.write ⟨hreach, hmode⟩ True.intro
  apply Acts.seq hwrite (fun _ _ h => h.1)
  intro
  apply Acts.seq (acts_readback fun _ _ h => h.1.distinct) (fun _ _ h => h.1)
  intro
  exact Acts.pure fun t s h => ⟨h.1.1.conseq h.2, h.1.2⟩

/-- The rule of an applied report. -/
def Applied (host : PolicyHost) (data : PolicyInput) (role : RoleDefinition) (port : UInt16)
    (t : PolicyRun) (rules : List StoredRule) : Prop :=
  ∃ aliasName action blocks, t.outcome = .applied role.name action true blocks ∧
    (data.operation.interface = none → aliasName = "Any") ∧
    VerifiedRule host data role port aliasName true rules

theorem acts_blockRules {pre : PolicyRun → List StoredRule → Prop} :
    Acts host data start pre (blockRules host data) (fun _ => pre) pre := by
  apply Acts.seq (acts_glance .activeRules trivial fun _ _ => rfl) (fun _ _ h => h)
  intro active
  refine (Runs.gather (fun _ => True) (fun _ => stable_still _) (fun _ _ => stable_still _)
    fun block _ => ?_).conseq (fun _ _ h => h) (fun _ _ _ h => h.1) fun _ _ _ h => h
  refine Acts.seq (acts_glance (.activeFilters block) trivial fun _ _ => rfl) (fun _ _ h => h)
    fun apps => ?_
  exact Acts.pure fun _ _ h => ⟨h, fun _ _ => True.intro⟩

/-- What is enabled was prepared, and reads back enabled in the same shape. -/
theorem acts_enableRule {action : RuleAction} (hmode : data.mode = .ensure)
    (hrole : role ∈ targets data) (halias : data.operation.interface = none → aliasName = "Any") :
    Acts host data start
      (Touched host data start role (VerifiedRule host data role port aliasName false))
      (enableRule host data role port aliasName action)
      (fun _ t s => Sound host data start (fun _ => True) t s ∧ Applied host data role port t s)
      (Sound host data start fun _ => True) := by
  apply Acts.via
    (fun _ => Touched host data start role (VerifiedRule host data role port aliasName false))
    (Acts.change fun _ _ h => ⟨h.1.retag rfl rfl rfl rfl, h.2⟩) (fun _ _ h => h)
  intro
  apply Acts.seq acts_selectedAlias (fun _ _ h => h.1.weaken)
  intro current
  apply Acts.seq Acts.refuseIf (fun _ _ h => h.1.1.weaken)
  intro
  apply Acts.seq (acts_exact.weaken fun _ _ h => h.1.1) (fun _ _ h => h.1.weaken)
  intro found
  split
  · exact Acts.throw fun _ _ h => h.1.1.weaken
  · next rule rest =>
    apply Runs.given (φ := Reaches host data start rule.name)
    · rintro t s ⟨h, hfound⟩
      have hmem : rule ∈ (named host s role.name).map (·.object) := hfound ▸ List.mem_cons_self
      refine h.1.reaches hrole hmem fun r hr hrule => ?_
      obtain ⟨r', hr', hrule'⟩ := List.mem_map.mp hmem
      obtain rfl := h.1.distinct.unique hr (mem_named.mp hr').1
        (congrArg RuleObject.name (hrule.trans hrule'.symm))
      exact h.1.holds.owned hr (mem_named.mp hr').2
    · intro hreach
      apply Acts.via (fun _ => Touched host data start role fun _ => True)
        ((acts_write (.setEnabled rule true) ⟨hreach, fun _ => hmode⟩ fun t s o h =>
          h.write ⟨hreach, fun _ => hmode⟩ True.intro).weaken fun _ _ h => h.1)
        (fun _ _ h => h.1)
      intro
      apply Acts.via
        (fun _ => Touched host data start role fun _ => True)
        (Acts.change fun _ _ h => ⟨h.1.retag rfl rfl rfl rfl, h.2⟩) (fun _ _ h => h)
      intro
      apply Acts.seq (acts_readback fun _ _ h => h.1.distinct) (fun _ _ h => h.1)
      intro
      apply Acts.seq acts_blockRules (fun _ _ h => h.1.1)
      intro blocks
      apply Acts.seq Acts.refuseIf (fun _ _ h => h.1.1)
      intro
      refine Acts.change fun t s h => ⟨?_, aliasName, action, blocks, rfl, halias, h.1.2⟩
      obtain ⟨⟨h, -⟩, -⟩ := h
      exact { h.1 with
        available := fun reason hr => by cases hr
        inactive := fun hm => absurd hmode hm }

end Ensure

end FirewallPolicy

end PocketStream
