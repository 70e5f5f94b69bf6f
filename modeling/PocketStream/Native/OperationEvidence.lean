import PocketStream.Native.OperationScript

/-! # What a native operation writes, and what it reports

The calls of the script are answered in any way. A write is issued only with the
adapter resolved since the write before it, on rows the script has listed and in
the terms of its kind; a report that denies a mutation follows no write, and a
successful one lists the required steps and rests on a last reading of the state.
-/

namespace PocketStream

open Foundation Routine World

abbrev ScriptLog := Log ScriptCall ScriptCall.Reply

namespace OperationScript

variable {host : ScriptHost} {data : OperationInput} {id : NativeIdentity}

/-! ### Evidence in a log -/

def Unwritten (log : ScriptLog) : Prop := ∀ e ∈ log, e.1.writes = false

/-- The adapter was resolved, and nothing was written since. -/
def Resolved (host : ScriptHost) (id : NativeIdentity) (nic : AdapterRow) (log : ScriptLog) :
    Prop :=
  ∃ l₁ all l₂, log = l₁ ++ ⟨.adapters, .ok all⟩ :: l₂ ∧ host.resolve id all = .ok nic ∧ Unwritten l₂

/-- A row of the selected adapter that was read. -/
def ListedAddress (id : NativeIdentity) (row : AddressRow) (log : ScriptLog) : Prop :=
  row.interfaceIndex = id.index ∧ ∃ rows, ⟨.addresses, .ok rows⟩ ∈ log ∧ row ∈ rows

def ListedRoute (id : NativeIdentity) (row : RouteRow) (log : ScriptLog) : Prop :=
  row.interfaceIndex = id.index ∧ ∃ rows, ⟨.routes, .ok rows⟩ ∈ log ∧ row ∈ rows

/-- The writes of a kind. -/
def Fits (host : ScriptHost) (data : OperationInput) (id : NativeIdentity) (nic : AdapterRow)
    (log : ScriptLog) : ScriptCall → Prop
  | .newAddress index ip len => index = id.index ∧
      (data.kind = .addAddress ∧ ip = address data ∧ len = prefixLen data ∨
        data.kind = .staticAddress ∧ host.same ip (address data) = false ∧
          ∃ row, ListedAddress id row log ∧ row.ipAddress = ip ∧ row.prefixLength = len)
  | .removeAddress row => ListedAddress id row log ∧
      (data.kind = .removeAddress ∧ host.same row.ipAddress (address data) = true ∧
          row.prefixLength = prefixLen data ∨
        data.kind = .dhcp ∧ host.same row.prefixOrigin "Manual" = true)
  | .removeRoute row => data.kind = .dhcp ∧ ListedRoute id row log
  | .enableDhcp index | .resetDns index => data.kind = .dhcp ∧ index = id.index
  | .restartAdapter target => data.kind = .restart ∧ target = nic
  | .netsh arguments => data.kind = .staticAddress ∧ ∃ gateway,
      arguments = netshArguments data nic gateway ∧ ∀ g ∈ gateway,
        (∃ row, ListedRoute id row log ∧ row.nextHop = g) ∧
          host.compatible g (address data) (prefixLen data).toNat = .ok true
  | .ipconfig action name => name = nic.name ∧
      (data.kind = .renew ∧ action ∈ ["/release", "/renew"] ∨
        data.kind = .dhcp ∧ action = "/renew")
  | _ => True

/-- A write has its input, its fresh identity check and its form. -/
def Sanctioned (host : ScriptHost) (call : ScriptCall) (log : ScriptLog) : Prop :=
  call.writes = true → ∃ data id nic, ⟨.parseInput, .ok data⟩ ∈ log ∧ data.identity = some id ∧
    Resolved host id nic log ∧ Fits host data id nic log call

/-- What outlives the calls that follow. -/
def Lasting (R : ScriptLog → Prop) : Prop := ∀ l e, R l → R (l ++ [e])

theorem lasting_address (row : AddressRow) : Lasting (ListedAddress id row) :=
  fun _ _ h => ⟨h.1, h.2.imp fun _ h => ⟨List.mem_append_left _ h.1, h.2⟩⟩

theorem lasting_route (row : RouteRow) : Lasting (ListedRoute id row) :=
  fun _ _ h => ⟨h.1, h.2.imp fun _ h => ⟨List.mem_append_left _ h.1, h.2⟩⟩

theorem Unwritten.append {log : ScriptLog} (h : Unwritten log)
    {e : (call : ScriptCall) × call.Reply} (he : e.1.writes = false) : Unwritten (log ++ [e]) := by
  intro e' he'
  rcases List.mem_append.mp he' with h' | h'
  · exact h e' h'
  · rw [List.mem_singleton.mp h']
    exact he

theorem Resolved.append {nic : AdapterRow} {log : ScriptLog} (h : Resolved host id nic log)
    {e : (call : ScriptCall) × call.Reply} (he : e.1.writes = false) :
    Resolved host id nic (log ++ [e]) := by
  obtain ⟨l₁, all, l₂, rfl, hnic, hl₂⟩ := h
  exact ⟨l₁, all, l₂ ++ [e], by simp, hnic, hl₂.append he⟩

theorem Resolved.index {nic : AdapterRow} {log : ScriptLog} (h : Resolved host id nic log) :
    nic.ifIndex = id.index := by
  obtain ⟨-, all, -, -, hnic, -⟩ := h
  unfold ScriptHost.resolve at hnic
  split at hnic
  · split at hnic
    · cases hnic
    · next hindex =>
      split at hnic
      · cases hnic
      · split at hnic
        · cases hnic
        · cases hnic
          exact not_not.mp hindex
  · cases hnic

/-! ### The assertion of a run -/

def goodStep (s : ReportStep) : Prop := s.ok = true ∧ (s.nativeExit = none ∨ s.nativeExit = some 0)

/-- The input was read, a run that has not marked itself mutated has written nothing, and its
steps are good. -/
structure Kept (data : OperationInput) (R : ScriptLog → Prop) (t : ScriptRun) (log : ScriptLog) :
    Prop where
  read : ⟨.parseInput, .ok data⟩ ∈ log
  clean : t.mutated = false → Unwritten log
  good : ∀ s ∈ t.steps, goodStep s
  holds : R log

/-- The steps taken so far; the exit code of a native step is zero. -/
structure Taken (data : OperationInput) (R : ScriptLog → Prop) (names : List String) (t : ScriptRun)
    (log : ScriptLog) : Prop extends Kept data R t log where
  names : t.steps.map (·.name) = names
  exit : t.nativeExit = none ∨ t.nativeExit = some 0

/-- The run has marked itself mutated. -/
structure Dirty (data : OperationInput) (R : ScriptLog → Prop) (names : List String) (t : ScriptRun)
    (log : ScriptLog) : Prop extends Taken data R names t log where
  mutated : t.mutated = true

variable {R R' : ScriptLog → Prop} {names : List String}

theorem Kept.append {t : ScriptRun} {log : ScriptLog} (h : Kept data R t log) (hR : Lasting R)
    {e : (call : ScriptCall) × call.Reply} (he : e.1.writes = false) :
    Kept data R t (log ++ [e]) where
  read := List.mem_append_left _ h.read
  clean ht := (h.clean ht).append he
  good := h.good
  holds := hR log e h.holds

theorem Kept.written {t : ScriptRun} {log : ScriptLog} (h : Kept data R t log) (hR : Lasting R)
    (ht : t.mutated = true) (e : (call : ScriptCall) × call.Reply) :
    Kept data R t (log ++ [e]) where
  read := List.mem_append_left _ h.read
  clean hf := by
    rw [ht] at hf
    cases hf
  good := h.good
  holds := hR log e h.holds

theorem Kept.conseq {t : ScriptRun} {log : ScriptLog} (h : Kept data R t log) (hR : R' log) :
    Kept data R' t log :=
  { h with holds := hR }

variable (host) in
abbrev Acts {α : Type} (pre : ScriptRun → ScriptLog → Prop) (x : OperationProgram α)
    (good : α → ScriptRun → ScriptLog → Prop) (bad : ScriptRun → ScriptLog → Prop) : Prop :=
  answers.Acts (Sanctioned host) pre x good bad

section Rules

variable {α : Type} {pre bad : ScriptRun → ScriptLog → Prop}

/-- A run that failed: what it did is accounted for. -/
abbrev Failed (data : OperationInput) : ScriptRun → ScriptLog → Prop := Kept data fun _ => True

theorem Kept.failed {t : ScriptRun} {log : ScriptLog} (h : Kept data R t log) : Failed data t log :=
  h.conseq True.intro

/-- What reading leaves as it is. -/
def Steady (pre : ScriptRun → ScriptLog → Prop) : Prop :=
  ∀ t l e, pre t l → e.1.writes = false → pre t (l ++ [e])

theorem steady_taken (hR : Lasting R) : Steady (Taken data R names) :=
  fun _ _ _ h he => { h with toKept := h.toKept.append hR he }

theorem steady_dirty (hR : Lasting R) : Steady (Dirty data R names) :=
  fun _ _ _ h he => { h with toTaken := steady_taken hR _ _ _ h.toTaken he }

theorem Steady.resolved (h : Steady pre) (nic : AdapterRow) :
    Steady fun t l => pre t l ∧ Resolved host id nic l :=
  fun t l e hl he => ⟨h t l e hl.1 he, hl.2.append he⟩

theorem stop_ok (r : Except CmdletError α) (a : α) (h : CmdletError.stop r = .ok a) :
    r = .ok a := by
  cases r with
  | ok b => exact congrArg Except.ok (Except.ok.inj h)
  | error e => cases h

/-- A call that reads adds itself to what was read. -/
theorem acts_trace {part : ScriptLog} {call : ScriptCall} {g : call.Reply → Except String α}
    (hcall : call.writes = false) (found : α → call.Reply)
    (hfound : ∀ r a, g r = .ok a → r = found a) (hpart : Unwritten part)
    (hpre : ∀ t l, pre t l → Failed data t l) :
    Acts host (fun t l => ∃ l₀, pre t l₀ ∧ l = l₀ ++ part) (attempt call g)
      (fun a t l => ∃ l₀, pre t l₀ ∧ l = l₀ ++ (part ++ [⟨call, found a⟩])) (Failed data) := by
  apply answers_attempt
  · rintro t l - hw
    rw [hcall] at hw
    cases hw
  · rintro t l r a ⟨l₀, h, rfl⟩ hr
    exact ⟨l₀, h, by rw [hfound r a hr, List.append_assoc]⟩
  · rintro t l r err ⟨l₀, h, rfl⟩ -
    have hk := hpre t l₀ h
    exact {
      read := List.mem_append_left _ (List.mem_append_left _ hk.read)
      clean := fun ht e he => by
        rcases List.mem_append.mp he with he | he
        · rcases List.mem_append.mp he with he | he
          · exact hk.clean ht e he
          · exact hpart e he
        · rw [List.mem_singleton.mp he]
          exact hcall
      good := hk.good
      holds := True.intro }

/-- A call that reads, where only its last reply matters. -/
theorem acts_glance {call : ScriptCall} {g : call.Reply → Except String α}
    (hcall : call.writes = false) (hsteady : Steady pre) (hpre : ∀ t l, pre t l → Failed data t l) :
    Acts host pre (attempt call g)
      (fun a t l => pre t l ∧ ∃ l' r, l = l' ++ [⟨call, r⟩] ∧ g r = .ok a) (Failed data) := by
  apply answers_attempt
  · rintro t l - hw
    rw [hcall] at hw
    cases hw
  · exact fun t l r a h hr => ⟨hsteady t l ⟨call, r⟩ h hcall, l, r, rfl, hr⟩
  · exact fun t l r err h _ => (hpre t l h).append (fun _ _ h => h) hcall

theorem acts_resolve (hsteady : Steady pre) (hpre : ∀ t l, pre t l → Failed data t l) :
    Acts host pre (resolveSelected host id) (fun nic t l => pre t l ∧ Resolved host id nic l)
      (Failed data) := by
  apply Acts.seq (acts_glance rfl hsteady hpre) (fun _ _ h => h)
  intro all
  refine Acts.require.conseq (fun _ _ h => h) ?_ fun _ _ _ h => hpre _ _ h.1
  rintro nic t l ⟨⟨h, l', r, rfl, hr⟩, hnic⟩
  exact ⟨h, l', all, [], by rw [stop_ok r all hr], hnic, fun e he => by cases he⟩

theorem acts_refuse {c : Prop} [Decidable c] {message : String}
    (hpre : ∀ t l, pre t l → Failed data t l) :
    Acts host pre (refuseIf c message) (fun _ t l => pre t l ∧ ¬ c) (Failed data) :=
  Acts.refuseIf.conseq (fun _ _ h => h) (fun _ _ _ h => h) fun _ _ _ h => hpre _ _ h

/-- A write with its mark set, its identity check and its form. -/
theorem acts_write (hR : Lasting R) {nic : AdapterRow} {call : ScriptCall}
    {g : call.Reply → Except String α} (hid : data.identity = some id)
    (hfits : ∀ l, R l → Resolved host id nic l → Fits host data id nic l call) :
    Acts host (fun t l => Dirty data R names t l ∧ Resolved host id nic l) (attempt call g)
      (fun _ => Dirty data R names) (Failed data) := by
  apply answers_attempt
  · rintro t l ⟨h, hnic⟩ -
    exact ⟨data, id, nic, h.read, hid, hnic, hfits l h.holds hnic⟩
  · rintro t l r a ⟨h, -⟩ -
    exact { h with toKept := h.toKept.written hR h.mutated _ }
  · rintro t l r err ⟨h, -⟩ -
    exact (h.toKept.written hR h.mutated _).failed

theorem acts_stage {name : String} (hpre : ∀ t l, pre t l → pre { t with stage := name } l) :
    Acts host pre (stage name) (fun _ => pre) bad :=
  Acts.change hpre

theorem acts_stageTaken {name : String} :
    Acts host (Taken data R names) (stage name) (fun _ => Taken data R names) bad :=
  acts_stage fun _ _ h => ⟨⟨h.read, h.clean, h.good, h.holds⟩, h.names, h.exit⟩

theorem acts_stageDirty {name : String} :
    Acts host (Dirty data R names) (stage name) (fun _ => Dirty data R names) bad :=
  acts_stage fun _ _ h => ⟨⟨⟨h.read, h.clean, h.good, h.holds⟩, h.names, h.exit⟩, h.mutated⟩

theorem acts_mutate {S : ScriptLog → Prop} :
    Acts host (fun t l => Taken data R names t l ∧ S l) mutate
      (fun _ t l => Dirty data R names t l ∧ S l) bad :=
  Acts.change fun _ _ h => ⟨{ h.1 with
    clean := fun ht => by cases ht
    mutated := rfl }, h.2⟩

theorem Taken.step {t : ScriptRun} {log : ScriptLog} (h : Taken data R names t log)
    (name : String) :
    Taken data R (names ++ [name])
      { t with steps := t.steps ++ [⟨name, true, t.nativeExit⟩], nativeExit := none } log where
  read := h.read
  clean := h.clean
  good := by
    intro s hs
    rcases List.mem_append.mp hs with hs | hs
    · exact h.good s hs
    · rw [List.mem_singleton.mp hs]
      exact ⟨rfl, h.exit⟩
  holds := h.holds
  names := by rw [List.map_append, h.names]; rfl
  exit := .inl rfl

theorem acts_step {name : String} {names' : List String} (hnames : names ++ [name] = names') :
    Acts host (Taken data R names) (step name) (fun _ => Taken data R names') bad :=
  Acts.change fun _ _ h => hnames ▸ h.step name

theorem acts_stepDirty {name : String} {names' : List String} (hnames : names ++ [name] = names') :
    Acts host (Dirty data R names) (step name) (fun _ => Dirty data R names') bad :=
  Acts.change fun _ _ h => ⟨hnames ▸ h.toTaken.step name, h.mutated⟩

/-- The exit code of a native step that goes on is zero. -/
theorem acts_finish {code : Option Int32} :
    Acts host (Dirty data R names) (finish code) (fun _ => Dirty data R names) (Failed data) := by
  refine Acts.via (fun _ t l => Failed data t l ∧ (code = some 0 → Dirty data R names t l))
    (Acts.change fun t l h => ⟨⟨h.read, h.clean, h.good, True.intro⟩, fun hcode =>
      ⟨⟨⟨h.read, h.clean, h.good, h.holds⟩, h.names, .inr hcode⟩, h.mutated⟩⟩)
    (fun _ _ h => h) fun _ => ?_
  refine (acts_refuse fun _ _ h => h.1).conseq (fun _ _ h => h) ?_ fun _ _ _ h => h
  exact fun _ _ _ h => h.1.2 (not_not.mp h.2)

end Rules

/-! ### The states read -/

/-- The replies from which the state of the selected adapter is read. -/
def Shows (host : ScriptHost) (id : NativeIdentity) (part : ScriptLog) (s : NicState) : Prop :=
  ∃ all addresses routes interfaces dns manual state,
    part = [⟨.adapters, .ok all⟩, ⟨.addresses, .ok addresses⟩, ⟨.routes, .ok routes⟩,
      ⟨.interfaces, .ok interfaces⟩, ⟨.dnsServers, .ok dns⟩, ⟨.nameServer id.guid, .ok manual⟩] ∧
    host.resolve id all = .ok s.nic ∧
    buildState host s.nic addresses routes interfaces dns = .ok state ∧ s = state manual

theorem acts_readState {pre : ScriptRun → ScriptLog → Prop}
    (hpre : ∀ t l, pre t l → Failed data t l) :
    Acts host pre (readState host id)
      (fun s t l => ∃ l₀ part, pre t l₀ ∧ l = l₀ ++ part ∧ Shows host id part s) (Failed data) := by
  have hfailed : ∀ {part : ScriptLog}, Unwritten part → ∀ t l,
      (∃ l₀, pre t l₀ ∧ l = l₀ ++ part) → Failed data t l := by
    rintro part hpart t - ⟨l₀, h, rfl⟩
    have hk := hpre t l₀ h
    refine ⟨List.mem_append_left _ hk.read, fun ht e he => ?_, hk.good, True.intro⟩
    rcases List.mem_append.mp he with he | he
    · exact hk.clean ht e he
    · exact hpart e he
  have hresolve : Acts host pre (resolveSelected host id)
      (fun nic t l => ∃ all, (∃ l₀, pre t l₀ ∧ l = l₀ ++ [⟨.adapters, .ok all⟩]) ∧
        host.resolve id all = .ok nic) (Failed data) := by
    apply Acts.seq ((acts_trace rfl Except.ok stop_ok (by simp [Unwritten]) hpre).weaken
      fun t l h => ⟨l, h, (List.append_nil l).symm⟩) (fun _ _ h => h)
    intro all
    refine Acts.require.conseq (fun _ _ h => h) (fun nic t l h => ⟨all, h.1, h.2⟩) fun _ t l h => ?_
    exact hfailed (by simp [Unwritten, ScriptCall.writes]) t l h
  apply Acts.seq hresolve (fun _ _ h => h)
  intro nic
  apply Acts.of_exists
  intro all
  apply Runs.given fun _ _ h => h.2
  intro hnic
  apply Acts.seq ((acts_trace rfl Except.ok stop_ok (by simp [Unwritten, ScriptCall.writes])
    hpre).weaken fun _ _ h => h.1) (fun _ _ h => h)
  intro addresses
  apply Acts.seq (acts_trace rfl Except.ok stop_ok (by simp [Unwritten, ScriptCall.writes]) hpre)
    (fun _ _ h => h)
  intro routes
  apply Acts.seq (acts_trace rfl Except.ok stop_ok (by simp [Unwritten, ScriptCall.writes]) hpre)
    (fun _ _ h => h)
  intro interfaces
  apply Acts.seq (acts_trace rfl Except.ok stop_ok (by simp [Unwritten, ScriptCall.writes]) hpre)
    (fun _ _ h => h)
  intro dns
  apply Acts.seq Acts.require (hfailed (by simp [Unwritten, ScriptCall.writes]))
  intro state
  apply Runs.given fun _ _ h => h.2
  intro hstate
  apply Acts.seq ((acts_trace rfl Except.ok stop_ok (by simp [Unwritten, ScriptCall.writes])
    hpre).weaken fun _ _ h => h.1) (fun _ _ h => h)
  intro manual
  refine Acts.pure fun t l h => ?_
  obtain ⟨l₀, h, rfl⟩ := h
  refine ⟨l₀, _, h, rfl, all, addresses, routes, interfaces, dns, manual, state, by simp, ?_⟩
  have hbuilt : (state manual).nic = nic := by
    unfold buildState at hstate
    split at hstate
    · cases hstate
      rfl
    · cases hstate
  rw [hbuilt]
  exact ⟨hnic, hstate, rfl⟩

theorem Shows.unwritten {part : ScriptLog} {s : NicState} (h : Shows host id part s) :
    Unwritten part := by
  obtain ⟨all, addresses, routes, interfaces, dns, manual, state, rfl, -⟩ := h
  simp [Unwritten, ScriptCall.writes]

/-- The rows of a state that was read are rows of the selected adapter. -/
theorem Shows.listed {part : ScriptLog} {s : NicState} (h : Shows host id part s) :
    (∀ row ∈ s.addresses, ListedAddress id row part) ∧
      ∀ row ∈ s.routes, ListedRoute id row part := by
  obtain ⟨all, addresses, routes, interfaces, dns, manual, state, rfl, hnic, hstate, rfl⟩ := h
  have hindex : (state manual).nic.ifIndex = id.index :=
    Resolved.index ⟨[], all, [], rfl, hnic, fun e he => by cases he⟩
  unfold buildState at hstate
  split at hstate
  · have hs := congrFun (Except.ok.inj hstate) manual
    constructor
    · intro row hrow
      rw [← congrArg NicState.addresses hs] at hrow
      obtain ⟨hmem, hrow⟩ := List.mem_filter.mp hrow
      exact ⟨(eq_of_beq hrow).trans hindex, addresses, by simp, hmem⟩
    · intro row hrow
      rw [← congrArg NicState.routes hs] at hrow
      obtain ⟨hmem, hrow⟩ := List.mem_filter.mp hrow
      rw [Bool.and_eq_true] at hrow
      exact ⟨(eq_of_beq hrow.1).trans hindex, routes, by simp, hmem⟩
  · cases hstate

/-! ### The kinds -/

/-- The rows of the state before the operation. -/
def Known (id : NativeIdentity) (before : NicState) (log : ScriptLog) : Prop :=
  (∀ row ∈ before.addresses, ListedAddress id row log) ∧
    ∀ row ∈ before.routes, ListedRoute id row log

theorem lasting_known (before : NicState) : Lasting (Known id before) :=
  fun l e h => ⟨fun row hr => lasting_address row l e (h.1 row hr),
    fun row hr => lasting_route row l e (h.2 row hr)⟩

section Kinds

variable {before : NicState} (hid : data.identity = some id)

include hid

theorem acts_addAddress (hR : Lasting R) (hkind : data.kind = .addAddress) :
    Acts host (Taken data R []) (addAddress host data id) (fun _ => Taken data R ["add_address"])
      (Failed data) := by
  apply Acts.seq (acts_glance rfl (steady_taken hR) fun _ _ h => h.failed) (fun _ _ h => h)
  intro all
  apply Acts.seq (acts_refuse fun _ _ h => h.1.failed) (fun _ _ h => h)
  intro
  apply Acts.seq ((acts_resolve (steady_taken hR) fun _ _ h => h.failed).weaken
    fun _ _ h => h.1.1) (fun _ _ h => h)
  intro nic
  apply Acts.seq acts_mutate (fun _ _ h => h)
  intro
  apply Acts.seq (acts_write hR hid ?_) (fun _ _ h => h)
  · intro
    exact (acts_stepDirty rfl).conseq (fun _ _ h => h) (fun _ _ _ h => h.toTaken) fun _ _ _ h => h
  · exact fun l hl hnic => ⟨hnic.index, .inl ⟨hkind, rfl, rfl⟩⟩

/-- The removal of an address that was listed. -/
theorem acts_removeListed (hR : Lasting R) {row : AddressRow}
    (hrow : ∀ l, R l → ListedAddress id row l)
    (hkind : data.kind = .removeAddress ∧ host.same row.ipAddress (address data) = true ∧
        row.prefixLength = prefixLen data ∨
      data.kind = .dhcp ∧ host.same row.prefixOrigin "Manual" = true) :
    Acts host (Taken data R names) (do
        let _ ← resolveSelected host id
        mutate
        attempt (.removeAddress row) CmdletError.stop)
      (fun _ => Taken data R names) (Failed data) := by
  apply Acts.seq (acts_resolve (steady_taken hR) fun _ _ h => h.failed) (fun _ _ h => h)
  intro nic
  apply Acts.seq acts_mutate (fun _ _ h => h)
  intro
  refine (acts_write hR hid ?_).conseq (fun _ _ h => h) (fun _ _ _ h => h.toTaken) fun _ _ _ h => h
  exact fun l hl _ => ⟨hrow l hl, hkind⟩

theorem acts_removeAddress (hR : Lasting R) (hknown : ∀ l, R l → Known id before l)
    (hkind : data.kind = .removeAddress) :
    Acts host (Taken data R []) (removeAddress host data id before)
      (fun _ => Taken data R ["remove_address"]) (Failed data) := by
  apply Acts.via (fun _ => Taken data R []) ?_ (fun _ _ h => h) fun _ => acts_step rfl
  generalize hrows : before.addresses.filter (fun a => host.same a.ipAddress (address data)) = rows
  rcases rows with _ | ⟨row, _ | ⟨row', rest⟩⟩
  · exact Acts.pure fun _ _ h => h
  · apply Acts.seq (acts_refuse fun _ _ h => h.failed) (fun _ _ h => h)
    intro
    apply Runs.given fun _ _ h => h.2
    intro hlen
    obtain ⟨hmem, hsame⟩ := List.mem_filter.mp (hrows ▸ List.mem_singleton_self row)
    exact (acts_removeListed hid hR (fun l hl => (hknown l hl).1 row hmem)
      (.inl ⟨hkind, hsame, not_not.mp hlen⟩)).weaken fun _ _ h => h.1
  · exact Acts.throw fun _ _ h => h.failed

theorem acts_restart (hR : Lasting R) (hkind : data.kind = .restart) :
    Acts host (Taken data R []) (restart host id) (fun _ => Taken data R ["restart_adapter"])
      (Failed data) := by
  apply Acts.seq (acts_resolve (steady_taken hR) fun _ _ h => h.failed) (fun _ _ h => h)
  intro nic
  apply Acts.seq acts_mutate (fun _ _ h => h)
  intro
  refine Acts.seq (acts_write hR hid fun l hl _ => ⟨hkind, rfl⟩) (fun _ _ h => h) fun _ => ?_
  exact (acts_stepDirty rfl).conseq (fun _ _ h => h) (fun _ _ _ h => h.toTaken) fun _ _ _ h => h

theorem acts_renewAction (hR : Lasting R) (hkind : data.kind = .renew) {action : String}
    (haction : action ∈ ["/release", "/renew"]) {names' : List String}
    (hnames : names ++ [action] = names') :
    Acts host (Taken data R names) (renewAction host id action) (fun _ => Taken data R names')
      (Failed data) := by
  apply Acts.seq acts_stageTaken (fun _ _ h => h)
  intro
  apply Acts.seq (acts_resolve (steady_taken hR) fun _ _ h => h.failed) (fun _ _ h => h)
  intro nic
  apply Acts.seq acts_mutate (fun _ _ h => h)
  intro
  refine Acts.seq (acts_write hR hid fun l hl _ => ⟨rfl, .inl ⟨hkind, haction⟩⟩)
    (fun _ _ h => h) fun code => ?_
  apply Acts.seq acts_finish (fun _ _ h => h)
  intro
  exact (acts_stepDirty hnames).conseq (fun _ _ h => h) (fun _ _ _ h => h.toTaken) fun _ _ _ h => h

theorem acts_renew (hR : Lasting R) (hkind : data.kind = .renew) :
    Acts host (Taken data R []) (renew host id before)
      (fun _ => Taken data R ["/release", "/renew"]) (Failed data) := by
  apply Acts.seq (acts_refuse fun _ _ h => h.failed) (fun _ _ h => h)
  intro
  apply Acts.seq ((acts_renewAction hid hR hkind (by simp) rfl).weaken fun _ _ h => h.1)
    (fun _ _ h => h)
  intro
  exact acts_renewAction hid hR hkind (by simp) rfl

/-- Rows that were listed are removed one by one. -/
theorem acts_enableDhcp (hR : Lasting R) (hknown : ∀ l, R l → Known id before l)
    (hkind : data.kind = .dhcp) :
    Acts host (Taken data R []) (enableDhcp host id before)
      (fun _ => Taken data R
        ["remove_manual_addresses", "remove_default_routes", "enable_dhcp", "reset_dns",
          "renew_lease"]) (Failed data) := by
  have hmanual : Acts host (Taken data R []) (each (removeManual host id) before.addresses)
      (fun _ => Taken data R []) (Failed data) := by
    refine Acts.each (fun _ => Taken data R []) fun row l hmem => ?_
    unfold removeManual
    split
    · next horigin =>
      exact acts_removeListed hid hR
        (fun l hl => (hknown l hl).1 row (hmem.subset List.mem_cons_self)) (.inr ⟨hkind, horigin⟩)
    · exact Acts.pure fun _ _ h => h
  have hroutes : ∀ names, Acts host (Taken data R names) (each (removeRoute host id) before.routes)
      (fun _ => Taken data R names) (Failed data) := by
    intro names
    refine Acts.each (fun _ => Taken data R names) fun row l hmem => ?_
    apply Acts.seq (acts_resolve (steady_taken hR) fun _ _ h => h.failed) (fun _ _ h => h)
    intro nic
    apply Acts.seq acts_mutate (fun _ _ h => h)
    intro
    refine (acts_write hR hid ?_).conseq (fun _ _ h => h) (fun _ _ _ h => h.toTaken)
      fun _ _ _ h => h
    exact fun l hl _ => ⟨hkind, (hknown l hl).2 row (hmem.subset List.mem_cons_self)⟩
  apply Acts.seq acts_stageTaken (fun _ _ h => h)
  intro
  apply Acts.seq hmanual (fun _ _ h => h)
  intro
  apply Acts.seq (acts_step rfl) (fun _ _ h => h)
  intro
  apply Acts.seq acts_stageTaken (fun _ _ h => h)
  intro
  apply Acts.seq (hroutes _) (fun _ _ h => h)
  intro
  apply Acts.seq (acts_step rfl) (fun _ _ h => h)
  intro
  apply Acts.seq acts_stageTaken (fun _ _ h => h)
  intro
  apply Acts.seq (acts_resolve (steady_taken hR) fun _ _ h => h.failed) (fun _ _ h => h)
  intro nic
  apply Acts.seq acts_mutate (fun _ _ h => h)
  intro
  refine Acts.seq (acts_write hR hid fun l hl hnic => ⟨hkind, hnic.index⟩) (fun _ _ h => h) ?_
  intro
  apply Acts.seq (acts_stepDirty rfl) (fun _ _ h => h)
  intro
  apply Acts.seq acts_stageDirty (fun _ _ h => h)
  intro
  apply Acts.seq (acts_resolve (steady_dirty hR) fun _ _ h => h.failed) (fun _ _ h => h)
  intro nic'
  refine Acts.seq (acts_write hR hid fun l hl hnic => ⟨hkind, hnic.index⟩) (fun _ _ h => h) ?_
  intro
  apply Acts.seq (acts_stepDirty rfl) (fun _ _ h => h)
  intro
  apply Acts.seq acts_stageDirty (fun _ _ h => h)
  intro
  apply Acts.via (fun _ => Dirty data R
    ["remove_manual_addresses", "remove_default_routes", "enable_dhcp", "reset_dns"])
    ?_ (fun _ _ h => h)
  · intro
    exact (acts_stepDirty rfl).conseq (fun _ _ h => h) (fun _ _ _ h => h.toTaken) fun _ _ _ h => h
  · apply Acts.seq (acts_resolve (steady_dirty hR) fun _ _ h => h.failed) (fun _ _ h => h)
    intro nic''
    refine Acts.seq (acts_write hR hid fun l hl _ => ⟨rfl, .inr ⟨hkind, rfl⟩⟩)
      (fun _ _ h => h) fun code => ?_
    exact acts_finish

omit hid in
theorem keptGateway_spec {gateway : Option String}
    (h : keptGateway host data before = .ok gateway) : ∀ g ∈ gateway,
      (∃ row ∈ before.routes, row.nextHop = g) ∧
        host.compatible g (address data) (prefixLen data).toNat = .ok true := by
  unfold keptGateway at h
  split at h
  · cases h
    simp
  · next g hg =>
    cases hc : host.compatible g (address data) (prefixLen data).toNat with
    | error e => simp [hc, bind, Except.bind] at h
    | ok fits =>
      cases fits with
      | false => simp [hc, bind, Except.bind] at h
      | true =>
        simp only [hc, bind, Except.bind, if_true] at h
        cases h
        intro g' hg'
        cases hg'
        have hmem := PowerShell.mem_of_mem_distinct (hg ▸ List.mem_singleton_self g)
        obtain ⟨row, hrow, hn⟩ := List.mem_map.mp hmem
        exact ⟨⟨row, (List.mem_filter.mp hrow).1, hn⟩, hc⟩
  · cases h

/-- A secondary address is only made where it is missing. -/
theorem acts_restoreSecondary (hR : Lasting R) (hkind : data.kind = .staticAddress)
    {row : AddressRow} (hrow : ∀ l, R l → ListedAddress id row l) :
    Acts host (Dirty data R names) (restoreSecondary host data id row)
      (fun _ => Dirty data R names) (Failed data) := by
  unfold restoreSecondary
  split
  · exact Acts.pure fun _ _ h => h
  · next hother =>
    apply Acts.seq (acts_resolve (steady_dirty hR) fun _ _ h => h.failed) (fun _ _ h => h)
    intro nic
    apply Acts.seq (acts_glance rfl ((steady_dirty hR).resolved nic) fun _ _ h => h.1.failed)
      (fun _ _ h => h)
    intro all
    split
    · exact Acts.pure fun _ _ h => h.1.1
    · refine Acts.weaken (acts_write hR hid fun l hl hnic => ?_) fun _ _ h => h.1
      exact ⟨hnic.index, .inr ⟨hkind, by simpa using hother, row, hrow l hl, rfl, rfl⟩⟩

theorem acts_staticAddress (hR : Lasting R) (hknown : ∀ l, R l → Known id before l)
    (hkind : data.kind = .staticAddress) :
    Acts host (Taken data R []) (staticAddress host data id before)
      (fun gateway t l => Taken data R ["static_primary", "restore_secondaries"] t l ∧
        keptGateway host data before = .ok gateway) (Failed data) := by
  apply Acts.seq (acts_glance rfl (steady_taken hR) fun _ _ h => h.failed) (fun _ _ h => h)
  intro all
  apply Acts.seq (acts_refuse fun _ _ h => h.1.failed) (fun _ _ h => h)
  intro
  apply Acts.via (fun _ => Taken data R []) (Acts.weaken (Acts.each (fun _ => Taken data R [])
    fun row l _ => Acts.require.conseq (fun _ _ h => h) (fun _ _ _ h => h.1) fun _ _ _ h => h)
    fun _ _ h => h.1.1) (fun _ _ h => h.failed)
  intro
  apply Acts.seq Acts.require (fun _ _ h => h.failed)
  intro gateway
  apply Runs.given fun _ _ h => h.2
  intro hgateway
  apply Acts.seq ((acts_resolve (steady_taken hR) fun _ _ h => h.failed).weaken fun _ _ h => h.1)
    (fun _ _ h => h)
  intro nic
  apply Acts.seq (acts_stage fun _ _ h =>
    ⟨⟨⟨h.1.read, h.1.clean, h.1.good, h.1.holds⟩, h.1.names, h.1.exit⟩, h.2⟩) (fun _ _ h => h)
  intro
  apply Acts.seq acts_mutate (fun _ _ h => h)
  intro
  refine Acts.seq (acts_write hR hid fun l hl hnic => ⟨hkind, gateway, rfl, fun g hg => ?_⟩)
    (fun _ _ h => h) fun code => ?_
  · obtain ⟨⟨row, hrow, hn⟩, hc⟩ := keptGateway_spec hgateway g hg
    exact ⟨⟨row, (hknown l hl).2 row hrow, hn⟩, hc⟩
  apply Acts.seq acts_finish (fun _ _ h => h)
  intro
  apply Acts.seq (acts_stepDirty rfl) (fun _ _ h => h)
  intro
  apply Acts.seq acts_stageDirty (fun _ _ h => h)
  intro
  apply Acts.seq (Acts.each (fun _ => Dirty data R ["static_primary"]) fun row l hmem =>
    acts_restoreSecondary hid hR hkind fun l' hl =>
      (hknown l' hl).1 row (hmem.subset List.mem_cons_self)) (fun _ _ h => h)
  intro
  apply Acts.seq (acts_stepDirty rfl) (fun _ _ h => h)
  intro
  exact Acts.pure fun _ _ h => ⟨h.toTaken, hgateway⟩

end Kinds

/-! ### The postcondition -/

/-- The address is there once with its prefix, on a static adapter. -/
def HasAddress (host : ScriptHost) (data : OperationInput) (after : NicState) : Prop :=
  after.addresses.countP (fun a =>
    host.same a.ipAddress (address data) && a.prefixLength == prefixLen data) = 1 ∧
    after.dhcp = false

/-- The other addresses, the DNS servers and the gateway are those of before. -/
def KeepsOthers (host : ScriptHost) (data : OperationInput) (before after : NicState) : Prop :=
  (∀ row ∈ before.addresses, host.same row.ipAddress (address data) = false →
    after.addresses.countP (fun a => host.same a.ipAddress row.ipAddress &&
      a.prefixLength == row.prefixLength) = 1) ∧
  host.exactly (",".intercalate before.dns) (",".intercalate after.dns) = true ∧
  ∃ gateway, keptGateway host data before = .ok gateway ∧
    (gateway = none → after.routes = []) ∧ ∀ g ∈ gateway, after.routes ≠ [] ∧
      ∀ r ∈ after.routes, host.same r.nextHop g = true

/-- What a successful operation leaves, as it was read. -/
def Achieved (host : ScriptHost) (data : OperationInput) (before after : NicState) : Prop :=
  match data.kind with
  | .addAddress => HasAddress host data after
  | .staticAddress => HasAddress host data after ∧ KeepsOthers host data before after
  | .removeAddress => ∀ a ∈ after.addresses, host.same a.ipAddress (address data) = false
  | .dhcp => after.dhcp = true ∧
      (∀ a ∈ after.addresses, host.same a.prefixOrigin "Manual" = false) ∧
      (∀ r ∈ after.routes, host.same r.protocol "NetMgmt" = false) ∧
      after.dnsManual.toList.all host.isSpace = true
  | .renew => after.dhcp = true
  | _ => True

theorem hasAddress_of_applied {after : NicState} (h : addressApplied host data after = .ok ()) :
    HasAddress host data after := by
  unfold addressApplied at h
  split at h
  · cases h
  · next hok =>
    rw [not_or, not_not, Bool.not_eq_true] at hok
    exact hok

theorem keepsOthers_of_preserved {before after : NicState} {gateway : Option String}
    (hgateway : keptGateway host data before = .ok gateway)
    (h : othersPreserved host data before after gateway = .ok ()) :
    KeepsOthers host data before after := by
  unfold othersPreserved at h
  split at h
  · cases h
  next hsecondary =>
  split at h
  · cases h
  next hdns =>
  refine ⟨fun row hrow hother => ?_, by simpa using hdns, gateway, hgateway, ?_⟩
  · simp only [List.any_eq_true, not_exists, not_and] at hsecondary
    simpa [hother] using hsecondary row hrow
  · split at h
    · next hroutes =>
      refine ⟨fun _ => ?_, by simp⟩
      rcases hr : after.routes with _ | ⟨r, rest⟩
      · rfl
      · obtain ⟨b, hb, -⟩ := PowerShell.exists_mem_distinct
          (List.mem_map_of_mem (f := RouteRow.nextHop) (hr ▸ List.mem_cons_self : r ∈ after.routes))
        rw [hroutes] at hb
        cases hb
    · next gateway g hroutes =>
      split at h
      · next hsame =>
        refine ⟨by simp, ?_⟩
        rintro g' hg'
        cases hg'
        constructor
        · intro hnone
          rw [hnone] at hroutes
          cases hroutes
        · intro r hr
          obtain ⟨b, hb, hsame'⟩ := PowerShell.exists_mem_distinct
            (List.mem_map_of_mem (f := RouteRow.nextHop) hr)
          rw [hroutes, List.mem_singleton] at hb
          exact PowerShell.same_trans (hb ▸ hsame') hsame
      · cases h
    · cases h

/-- The steps of a kind before its postcondition. -/
def performed : Kind → List String
  | .addAddress => ["add_address"]
  | .removeAddress => ["remove_address"]
  | .staticAddress => ["static_primary", "restore_secondaries"]
  | .dhcp => ["remove_manual_addresses", "remove_default_routes", "enable_dhcp", "reset_dns",
      "renew_lease"]
  | .renew => ["/release", "/renew"]
  | .restart => ["restart_adapter"]
  | _ => []

/-- The steps of a kind with those of its postcondition. -/
def checked (kind : Kind) : List String :=
  performed kind ++ if kind = .dhcp then ["verify_dns_reset"] else []

theorem checked_required {kind : Kind} (h : kind ≠ .inventory) :
    checked kind ++ ["postcondition"] = Operation.requiredSteps kind := by
  cases kind with
  | inventory => exact absurd rfl h
  | _ => rfl

section Operation

variable {before : NicState} (hid : data.identity = some id)

include hid

theorem acts_perform (hR : Lasting R) (hknown : ∀ l, R l → Known id before l) :
    Acts host (Taken data R []) (perform host data id before)
      (fun gateway t l => Taken data R (performed data.kind) t l ∧ (data.kind = .staticAddress →
        keptGateway host data before = .ok gateway)) (Failed data) := by
  unfold perform
  cases hkind : data.kind with
  | addAddress =>
    apply Acts.seq (acts_addAddress hid hR hkind) (fun _ _ h => h)
    intro
    exact Acts.pure fun _ _ h => ⟨h, fun hs => by cases hs⟩
  | removeAddress =>
    apply Acts.seq (acts_removeAddress hid hR hknown hkind) (fun _ _ h => h)
    intro
    exact Acts.pure fun _ _ h => ⟨h, fun hs => by cases hs⟩
  | staticAddress =>
    exact (acts_staticAddress hid hR hknown hkind).conseq (fun _ _ h => h)
      (fun _ _ _ h => ⟨h.1, fun _ => h.2⟩) fun _ _ _ h => h
  | dhcp =>
    apply Acts.seq (acts_enableDhcp hid hR hknown hkind) (fun _ _ h => h)
    intro
    exact Acts.pure fun _ _ h => ⟨h, fun hs => by cases hs⟩
  | renew =>
    apply Acts.seq (acts_renew hid hR hkind) (fun _ _ h => h)
    intro
    exact Acts.pure fun _ _ h => ⟨h, fun hs => by cases hs⟩
  | restart =>
    apply Acts.seq (acts_restart hid hR hkind) (fun _ _ h => h)
    intro
    exact Acts.pure fun _ _ h => ⟨h, fun hs => by cases hs⟩
  | _ => exact Acts.pure fun _ _ h => ⟨h, fun hs => by cases hs⟩

omit hid in
theorem acts_postcondition {after : NicState} {gateway : Option String} {name : String}
    (hgateway : data.kind = .staticAddress → keptGateway host data before = .ok gateway) :
    Acts host (fun t l => Taken data R (performed data.kind) t l ∧ t.stage = name)
      (postcondition host data before after gateway)
      (fun _ t l => (Taken data R (checked data.kind) t l ∧ t.stage = name) ∧
        Achieved host data before after) (Failed data) := by
  unfold postcondition Achieved checked
  cases hkind : data.kind with
  | addAddress =>
    refine Acts.require.conseq (fun _ _ h => h) (fun _ _ _ h => ?_) fun _ _ _ h => h.1.failed
    exact ⟨by simpa using h.1, hasAddress_of_applied h.2⟩
  | staticAddress =>
    apply Acts.seq Acts.require (fun _ _ h => h.1.failed)
    intro
    refine Acts.require.conseq (fun _ _ h => h) (fun _ _ _ h => ?_) fun _ _ _ h => h.1.1.failed
    exact ⟨by simpa using h.1.1, hasAddress_of_applied h.1.2,
      keepsOthers_of_preserved (hgateway hkind) h.2⟩
  | removeAddress =>
    refine (acts_refuse fun _ _ h => h.1.failed).conseq (fun _ _ h => h) (fun _ _ _ h => ?_)
      fun _ _ _ h => h
    exact ⟨by simpa using h.1, by simpa using h.2⟩
  | dhcp =>
    apply Acts.seq Acts.require (fun _ _ h => h.1.failed)
    intro
    refine Acts.change fun t l h => ?_
    obtain ⟨⟨h, hstage⟩, hrestored⟩ := h
    refine ⟨⟨h.step _, hstage⟩, ?_⟩
    simp only [dhcpRestored] at hrestored
    split at hrestored
    · cases hrestored
    · split at hrestored
      · cases hrestored
      · split at hrestored
        · cases hrestored
        · split at hrestored
          · cases hrestored
          · simp_all
  | renew =>
    refine (acts_refuse fun _ _ h => h.1.failed).conseq (fun _ _ h => h) (fun _ _ _ h => ?_)
      fun _ _ _ h => h
    exact ⟨by simpa using h.1, not_not.mp h.2⟩
  | _ => exact Acts.pure fun _ _ h => ⟨by simpa using h, True.intro⟩

end Operation

end OperationScript

end PocketStream
