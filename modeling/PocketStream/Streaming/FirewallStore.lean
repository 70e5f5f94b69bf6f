import PocketStream.Streaming.FirewallPolicy

/-! # The rules the policy script can reach

The script runs against a store of rules whose calls may fail before or after
their effect and may write a rule in any shape. It writes only rules that it
owns under a role of its operation, or candidates of a migration that it was
asked to carry out; every other rule stays as it is at every point of a run.
-/

namespace PocketStream

open Foundation Routine World

structure StoredRule where
  object : RuleObject
  filters : (kind : FilterKind) → List kind.Object

namespace StoredRule

def name (r : StoredRule) : String := r.object.name

def shape (r : StoredRule) : Except String RuleShape :=
  RuleShape.build r.object (r.filters .application) (r.filters .port) (r.filters .address)
    (r.filters .interface) (r.filters .interfaceType) (r.filters .service) (r.filters .security)

def withName (r : StoredRule) (name : String) : StoredRule :=
  { r with object := { r.object with name := name } }

def withEnabled (r : StoredRule) (enabled : Bool) : StoredRule :=
  { r with object := { r.object with enabled := enabled } }

end StoredRule

/-- How a call is answered: whether it fails, whether a write took effect, what a rule is
after it was written, and what is read outside of the store. -/
structure PolicyAnswer where
  failure : Option CmdletError
  took : Bool
  result : StoredRule
  administrator : Bool
  adapters : List NetAdapter
  active : List RuleObject
  applications : List ApplicationFilter

namespace PolicyAnswer

def reply {α : Type} (o : PolicyAnswer) (a : α) : Except CmdletError α :=
  match o.failure with
  | some e => .error e
  | none => .ok a

/-- A query by name finds nothing only where nothing has the name. -/
def found (o : PolicyAnswer) (rules : List RuleObject) : Except CmdletError (List RuleObject) :=
  match o.failure with
  | some e => if e.zeroMatch ∧ rules ≠ [] then .ok rules else .error e
  | none => .ok rules

end PolicyAnswer

/-- The rules of one exact name, changed. -/
def editRules (name : String) (f : StoredRule → StoredRule) (rules : List StoredRule) :
    List StoredRule :=
  rules.map fun r => if r.name = name then f r else r

def dropRules (name : String) (rules : List StoredRule) : List StoredRule :=
  rules.filter fun r => r.name ≠ name

namespace FirewallPolicy

variable (host : PolicyHost) (data : PolicyInput)

/-- A filter query for a rule that is gone fails. -/
def filtersOf (rules : List StoredRule) (kind : FilterKind) (name : String) (o : PolicyAnswer) :
    Except CmdletError (List kind.Object) :=
  match rules.find? fun r => r.name = name with
  | some r => o.reply (r.filters kind)
  | none => .error (o.failure.getD ⟨true, "InstanceID"⟩)

def handle (rules : List StoredRule) (call : PolicyCall) (o : PolicyAnswer) :
    call.Reply × List StoredRule :=
  match call with
  | .importModule _ => (o.reply (), rules)
  | .readInput => (o.reply data, rules)
  | .isAdministrator => (o.administrator, rules)
  | .namedRules name =>
    (o.found ((rules.filter fun r => host.listed name r.name).map (·.object)), rules)
  | .persistentRules => (o.reply (rules.map (·.object)), rules)
  | .activeRules => (o.reply o.active, rules)
  | .filters kind name => (filtersOf rules kind name o, rules)
  | .activeFilters _ => (o.reply o.applications, rules)
  | .netAdapters => (o.reply o.adapters, rules)
  | .setEnabled rule enabled =>
    (o.reply (), if o.took then editRules rule.name (·.withEnabled enabled) rules else rules)
  | .setRule rule _ =>
    (o.reply (), if o.took then editRules rule.name (fun _ => o.result.withName rule.name) rules
      else rules)
  | .newRule name _ _ =>
    if rules.any (·.name = name) then (.error (o.failure.getD ⟨false, "AlreadyExists"⟩), rules)
    else (o.reply (), if o.took then rules ++ [o.result.withName name] else rules)
  | .removeRule rule => (o.reply (), if o.took then dropRules rule.name rules else rules)

def policyWorld : World PolicyCall PolicyCall.Reply (List StoredRule) PolicyAnswer Empty where
  handle := handle host data
  interfere _ i := i.elim

/-! ### Reach -/

/-- The roles an operation is about. -/
def targets : List RoleDefinition :=
  match data.operation with
  | .ensure wanted _ _ | .disable wanted => data.roles.filter fun r => r.role == wanted
  | _ => data.roles

def maintains : Prop := data.mode = .install ∨ data.mode = .uninstall

def ownedRule (r : StoredRule) : Prop := ∃ s, r.shape = .ok s ∧ host.owned data s = true

/-- A rule under a role's display name and another name that a migration may take away. -/
def migrated (role : RoleDefinition) (r : StoredRule) : Prop :=
  host.exactly r.object.displayName role.displayName = true ∧ host.same r.name role.name = false ∧
    ∃ s, r.shape = .ok s ∧
      (host.isAny [s.program] = true ∨ host.sameProgram data s.program = true) ∧
      host.validPort s = .ok true ∧ host.migratable role s = true

/-- The rules the script may change. -/
def governs (r : StoredRule) : Prop :=
  (∃ role ∈ targets data, host.same r.name role.name = true ∧ ownedRule host data r) ∨
    maintains data ∧ ∃ role ∈ data.roles, migrated host data role r

/-- The names the script may write, given the rules it starts from. -/
def Reaches (start : List StoredRule) (name : String) : Prop :=
  (maintains data ∨ ∃ role ∈ targets data, host.same name role.name = true) ∧
    ∀ r ∈ start, r.name = name → governs host data r

/-- A rule is only prepared to be installed or ensured, only enabled to be ensured, and only
removed in a maintenance. -/
def Permits (start : List StoredRule) : PolicyCall → Prop
  | .setEnabled rule enabled =>
    Reaches host data start rule.name ∧ (enabled = true → data.mode = .ensure)
  | .setRule rule _ =>
    Reaches host data start rule.name ∧ (data.mode = .install ∨ data.mode = .ensure)
  | .newRule name _ _ =>
    Reaches host data start name ∧ (data.mode = .install ∨ data.mode = .ensure)
  | .removeRule rule => Reaches host data start rule.name ∧ maintains data
  | _ => True

/-- The rules out of reach are those of the start. -/
def Framed (start rules : List StoredRule) : Prop :=
  ∀ r, ¬ Reaches host data start r.name → (r ∈ rules ↔ r ∈ start)

def Distinct (rules : List StoredRule) : Prop := (rules.map (·.name)).Nodup

instance (rules : List StoredRule) : Decidable (Distinct rules) :=
  inferInstanceAs (Decidable (rules.map (·.name)).Nodup)

end FirewallPolicy

section Rules

variable {name : String} {f : StoredRule → StoredRule} {rules : List StoredRule} {r : StoredRule}

theorem names_editRules (hf : ∀ r, r.name = name → (f r).name = name) :
    (editRules name f rules).map (·.name) = rules.map (·.name) := by
  simp only [editRules, List.map_map]
  apply List.map_congr_left
  intro r _
  by_cases h : r.name = name
  · simp [h, hf r h]
  · simp [h]

theorem mem_editRules_of_ne (hf : ∀ r, r.name = name → (f r).name = name) (h : r.name ≠ name) :
    r ∈ editRules name f rules ↔ r ∈ rules := by
  simp only [editRules, List.mem_map]
  constructor
  · rintro ⟨r', hr', rfl⟩
    by_cases hn : r'.name = name
    · rw [if_pos hn] at h
      exact absurd (hf r' hn) h
    · rwa [if_neg hn]
  · intro hr
    exact ⟨r, hr, if_neg h⟩

theorem mem_dropRules : r ∈ dropRules name rules ↔ r ∈ rules ∧ r.name ≠ name := by
  simp [dropRules]

end Rules

namespace FirewallPolicy

variable {host : PolicyHost} {data : PolicyInput} {start rules : List StoredRule}

theorem Distinct.unique (h : Distinct rules) {r r' : StoredRule} (hr : r ∈ rules)
    (hr' : r' ∈ rules) (hn : r.name = r'.name) : r = r' :=
  List.inj_on_of_nodup_map h hr hr' hn

/-- A permitted call keeps the names distinct and the rules out of reach. -/
theorem framed_handle {call : PolicyCall} {o : PolicyAnswer}
    (hp : Permits host data start call) (h : Framed host data start rules ∧ Distinct rules) :
    Framed host data start (handle host data rules call o).2 ∧
      Distinct (handle host data rules call o).2 := by
  obtain ⟨hf, hd⟩ := h
  have edit : ∀ name g, Reaches host data start name → (∀ r, r.name = name → (g r).name = name) →
      Framed host data start (if o.took then editRules name g rules else rules) ∧
        Distinct (if o.took then editRules name g rules else rules) := by
    intro name g hname hg
    split
    · constructor
      · intro r hr
        rw [mem_editRules_of_ne hg fun h => hr (h ▸ hname)]
        exact hf r hr
      · rw [Distinct, names_editRules hg]
        exact hd
    · exact ⟨hf, hd⟩
  cases call with
  | setEnabled rule enabled => exact edit _ _ hp.1 fun r h => h
  | setRule rule params => exact edit _ _ hp.1 fun _ _ => rfl
  | newRule name group params =>
    simp only [handle]
    split
    · exact ⟨hf, hd⟩
    · next hnew =>
      simp only [List.any_eq_true, decide_eq_true_eq, not_exists, not_and] at hnew
      split
      · constructor
        · intro r hr
          rw [List.mem_append, List.mem_singleton, hf r hr]
          constructor
          · rintro (h | rfl)
            · exact h
            · exact absurd hp.1 hr
          · exact Or.inl
        · simp only [Distinct, List.map_append, List.map_cons, List.map_nil]
          apply List.nodup_append.mpr
          refine ⟨hd, List.nodup_singleton _, ?_⟩
          rintro a ha b hb rfl
          obtain ⟨r, hr, rfl⟩ := List.mem_map.mp ha
          exact hnew r hr (List.mem_singleton.mp hb)
      · exact ⟨hf, hd⟩
  | removeRule rule =>
    simp only [handle]
    split
    · constructor
      · intro r hr
        rw [mem_dropRules, hf r hr]
        simp only [and_iff_left_iff_imp]
        rintro - hn
        exact hr (hn ▸ hp.1)
      · exact hd.sublist (List.filter_sublist.map _)
    · exact ⟨hf, hd⟩
  | _ => exact ⟨hf, hd⟩

/-! ### Rules of the script's proofs -/

section Acts

variable (host data start) in
/-- The routine issues only what is permitted, whatever its calls answer. -/
abbrev Acts {α : Type} (pre : PolicyRun → List StoredRule → Prop) (x : PolicyScript α)
    (good : α → PolicyRun → List StoredRule → Prop) (bad : PolicyRun → List StoredRule → Prop) :
    Prop :=
  (policyWorld host data).Acts (fun call _ => Permits host data start call) pre x good bad

variable {α : Type} {pre pre' : PolicyRun → List StoredRule → Prop}
  {good : α → PolicyRun → List StoredRule → Prop}

/-- A call that reads leaves its reader with what it found. -/
theorem acts_read (call : PolicyCall) {g : call.Reply → Except String α}
    (hp : Permits host data start call) (hquiet : ∀ s o, (handle host data s call o).2 = s)
    (hgood : ∀ t s o a, pre t s → g (handle host data s call o).1 = .ok a → good a t s) :
    Acts host data start pre (attempt call g) good pre := by
  apply Runs.attempt fun r t s => pre t s ∧ ∃ o, r = (handle host data s call o).1
  · exact fun _ => stable_still _
  · exact fun _ _ _ => hp
  · intro t s o h
    change pre t (handle host data s call o).2 ∧ ∃ o', (handle host data s call o).1 =
      (handle host data (handle host data s call o).2 call o').1
    rw [hquiet]
    exact ⟨h, o, rfl⟩
  · exact fun _ _ => stable_still _
  · rintro r a t s ⟨h, o, rfl⟩ ha
    exact hgood t s o a h ha
  · exact fun _ _ _ _ h _ => h.1

/-- A read whose reply does not matter. -/
theorem acts_glance (call : PolicyCall) {g : call.Reply → Except String α}
    (hp : Permits host data start call) (hquiet : ∀ s o, (handle host data s call o).2 = s) :
    Acts host data start pre (attempt call g) (fun _ => pre) pre :=
  acts_read call hp hquiet fun _ _ _ _ h _ => h

theorem acts_write (call : PolicyCall) {g : call.Reply → Except String α}
    (hp : Permits host data start call)
    (hpost : ∀ t s o, pre t s → pre' t (handle host data s call o).2) :
    Acts host data start pre (attempt call g) (fun _ => pre') pre' := by
  apply Runs.attempt fun _ => pre'
  · exact fun _ => stable_still _
  · exact fun _ _ _ => hp
  · exact hpost
  · exact fun _ _ => stable_still _
  · exact fun _ _ _ _ h _ => h
  · exact fun _ _ _ _ h _ => h

/-- The rules that `-eq` finds under a name. -/
def named (host : PolicyHost) (rules : List StoredRule) (name : String) : List StoredRule :=
  rules.filter fun r => host.same r.name name

theorem filter_listed (rules : List StoredRule) (name : String) :
    ((rules.filter fun r => host.listed name r.name).map (·.object)).filter
      (fun r => host.same r.name name) = (named host rules name).map (·.object) := by
  rw [List.filter_map, List.filter_filter, named]
  congr 1
  apply List.filter_congr
  intro r _
  change (host.same r.name name && host.listed name r.name) = host.same r.name name
  cases h : host.same r.name name with
  | false => rfl
  | true => exact host.listed_same name r.name (by simpa [PowerShell.same] using h)

theorem acts_exact {name : String} :
    Acts host data start pre (exact host name)
      (fun found t s => pre t s ∧ found = (named host s name).map (·.object)) pre := by
  apply acts_read (.namedRules name) trivial fun _ _ => rfl
  intro t s o found h hfound
  refine ⟨h, ?_⟩
  simp only [handle, PolicyAnswer.found] at hfound
  split at hfound
  · next e _ =>
    split at hfound
    · simp only [exactRules, Except.ok.injEq] at hfound
      rw [← hfound, filter_listed]
    · next hzero =>
      simp only [exactRules] at hfound
      split at hfound
      · next hz =>
        cases hfound
        simp only [hz, true_and, not_not] at hzero
        rw [← filter_listed, hzero]
        rfl
      · cases hfound
  · simp only [exactRules, Except.ok.injEq] at hfound
    rw [← hfound, filter_listed]

theorem acts_filters {kind : FilterKind} {rule : RuleObject}
    (hd : ∀ t s, pre t s → Distinct s) :
    Acts host data start pre (filters kind rule)
      (fun found t s => pre t s ∧ ∀ r ∈ s, r.name = rule.name → found = r.filters kind) pre := by
  apply acts_read (.filters kind rule.name) trivial fun _ _ => rfl
  intro t s o found h hfound
  refine ⟨h, fun r hr hn => ?_⟩
  simp only [handle, filtersOf] at hfound
  split at hfound
  · next r' hr' =>
    have hmem := List.mem_of_find?_eq_some hr'
    have hname : r'.name = rule.name := by simpa using List.find?_some hr'
    obtain rfl := (hd t s h).unique hr hmem (hn.trans hname.symm)
    simp only [PolicyAnswer.reply] at hfound
    split at hfound
    · cases hfound
    · cases hfound
      rfl
  · cases hfound

/-- The shape read is that of the rule in the store. -/
theorem acts_shape {rule : RuleObject} (hd : ∀ t s, pre t s → Distinct s) :
    Acts host data start pre (shape rule)
      (fun found t s => pre t s ∧ ∀ r ∈ s, r.object = rule → r.shape = .ok found) pre := by
  apply Acts.seq (acts_filters hd) (fun _ _ h => h)
  intro app
  apply Acts.seq (acts_filters fun t s h => hd t s h.1) (fun _ _ h => h.1)
  intro port
  apply Acts.seq (acts_filters fun t s h => hd t s h.1.1) (fun _ _ h => h.1.1)
  intro addr
  apply Acts.seq (acts_filters fun t s h => hd t s h.1.1.1) (fun _ _ h => h.1.1.1)
  intro iface
  apply Acts.seq (acts_filters fun t s h => hd t s h.1.1.1.1) (fun _ _ h => h.1.1.1.1)
  intro type
  apply Acts.seq (acts_filters fun t s h => hd t s h.1.1.1.1.1) (fun _ _ h => h.1.1.1.1.1)
  intro svc
  apply Acts.seq (acts_filters fun t s h => hd t s h.1.1.1.1.1.1) (fun _ _ h => h.1.1.1.1.1.1)
  intro sec
  refine Acts.require.conseq (fun _ _ h => h) ?_ fun _ _ _ h => h.1.1.1.1.1.1.1
  rintro found t s ⟨⟨⟨⟨⟨⟨⟨⟨h, happ⟩, hport⟩, haddr⟩, hiface⟩, htype⟩, hsvc⟩, hsec⟩, hbuild⟩
  refine ⟨h, fun r hr hrule => ?_⟩
  have hn : r.name = rule.name := congrArg RuleObject.name hrule
  rw [StoredRule.shape, hrule, ← happ r hr hn, ← hport r hr hn, ← haddr r hr hn, ← hiface r hr hn,
    ← htype r hr hn, ← hsvc r hr hn, ← hsec r hr hn, hbuild]

theorem acts_requireOwned {message : String} {rule : RuleObject}
    (hd : ∀ t s, pre t s → Distinct s) :
    Acts host data start pre (requireOwned host data message rule)
      (fun _ t s => pre t s ∧ ∀ r ∈ s, r.object = rule → ownedRule host data r) pre := by
  apply Acts.seq (acts_shape hd) (fun _ _ h => h)
  intro s
  refine Acts.refuseIf.conseq (fun _ _ h => h) ?_ fun _ _ _ h => h.1
  rintro - t rules ⟨⟨h, hshape⟩, howned⟩
  exact ⟨h, fun r hr hrule => ⟨s, hshape r hr hrule, by simpa using howned⟩⟩

theorem acts_requireAllOwned {message : String} {rules : List RuleObject}
    (hd : ∀ t s, pre t s → Distinct s) :
    Acts host data start pre (each (requireOwned host data message) rules)
      (fun _ t s => pre t s ∧ ∀ rule ∈ rules, ∀ r ∈ s, r.object = rule → ownedRule host data r)
      pre := by
  refine (Acts.each (fun l t s => pre t s ∧ ∀ rule ∈ rules, rule ∈ l ∨
    ∀ r ∈ s, r.object = rule → ownedRule host data r) fun rule l _ => ?_).conseq
    (fun _ _ h => ⟨h, fun _ hr => .inl hr⟩)
    (fun _ _ _ h => ⟨h.1, fun rule hr => (h.2 rule hr).resolve_left List.not_mem_nil⟩)
    fun _ _ _ h => h
  refine (acts_requireOwned fun t s h => hd t s h.1).conseq (fun _ _ h => h) ?_ fun _ _ _ h => h.1
  rintro - t s ⟨⟨h, hall⟩, howned⟩
  refine ⟨h, fun rule' hr => ?_⟩
  rcases hall rule' hr with hl | hdone
  · rcases List.mem_cons.mp hl with rfl | hl
    · exact .inr howned
    · exact .inl hl
  · exact .inr hdone

end Acts

end FirewallPolicy

end PocketStream
