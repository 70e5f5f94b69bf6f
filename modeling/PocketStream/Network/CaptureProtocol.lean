import PocketStream.Network.PktMon

/-! # The protocol of the driver

The driver takes its calls in one order: a library handle, a session, its
constraint and its sources, a stream attached to it, then frames. Its teardown
takes the same things down in reverse. The program follows the order whatever
its calls answer.
-/

namespace PocketStream

open Foundation Routine World

namespace PktMon

open Capture (ScopeOutcome CaptureMode)

/-! ### What the driver holds -/

structure LiveSession where
  handle : Handle
  constraints : List (List UInt8)
  sources : List (Region × ℕ)
  output : Option Handle
  active : Bool

/-- What one capture has open, and the last list that was enumerated for it. -/
structure Driver where
  api : Option Handle := none
  listing : Option Region := none
  session : Option LiveSession := none
  stream : Option (Handle × RealtimeStreamConfiguration) := none

/-- The context of the callbacks while it lives, and what the thread has told. -/
structure ListenerThread where
  context : Option ℕ
  proven : Bool
  activation : Option (Except String ScopeOutcome)

structure CaptureState where
  driver : Driver
  thread : ListenerThread

/-- The driver passes the frames of one ethertype, that of ARP. -/
structure PassesArp (constraint : List UInt8) : Prop where
  size : constraint.length = constraintSize
  present : leNat ((constraint.drop constraintIsPresentOffset).take 4) = isPresentEthertypeBit
  ethertype : leNat ((constraint.drop constraintEthertypeOffset).take 2) = ethertypeArp

theorem passesArp_buildArpConstraint : PassesArp buildArpConstraint := ⟨rfl, rfl, rfl⟩

/-- What a call leaves, for its reply. The calls of a teardown have their effect whatever
they return. -/
def CaptureState.advance (s : CaptureState) : (call : CaptureCall) → call.Reply → CaptureState
  | .load, _ | .awaitShutdown, _ => s
  | .initializeApi _, (hr, handle) =>
    if hr = 0 then { s with driver.api := some handle } else s
  | .uninitializeApi _, _ => { s with driver.api := none, driver.listing := none }
  | .createLiveSession _ _, (hr, handle) =>
    if hr = 0 then { s with driver.session := some ⟨handle, [], [], none, false⟩ } else s
  | .closeSessionHandle _, _ => { s with driver.session := none }
  | .enumDataSources _ _ _ _, reply =>
    if reply.hr = 0 then { s with driver.listing := some reply.list } else s
  | .addSingleDataSource _ list offset, hr =>
    if hr = 0 then
      { s with driver.session := s.driver.session.map fun l =>
          { l with sources := l.sources ++ [(list, offset)] } }
    else s
  | .addCaptureConstraint _ constraint, hr =>
    if hr = 0 then
      { s with driver.session := s.driver.session.map fun l =>
          { l with constraints := l.constraints ++ [constraint] } }
    else s
  | .createRealtimeStream _ config, (hr, handle) =>
    if hr = 0 then { s with driver.stream := some (handle, config) } else s
  | .attachOutputToSession _ stream, hr =>
    if hr = 0 then
      { s with driver.session := s.driver.session.map fun l => { l with output := some stream } }
    else s
  | .closeRealtimeStream _, _ =>
    { s with
      driver.stream := none
      driver.session := s.driver.session.map fun l => { l with output := none } }
  | .setSessionActive _ active, hr =>
    if hr = 0 ∨ active = false then
      { s with driver.session := s.driver.session.map fun l => { l with active := active } }
    else s
  | .storeScopeProven proven, _ => { s with thread.proven := proven }
  | .sendActivation result, _ => { s with thread.activation := some result }
  | .dropContext, _ => { s with thread.context := none }

/-- The driver and the channels of the thread, answering as the outcome says. -/
def captureWorld :
    World CaptureCall CaptureCall.Reply CaptureState ((call : CaptureCall) → call.Reply) Empty where
  handle s call o := (o call, s.advance call (o call))
  interfere s _ := s

/-! ### What a capture is scoped to -/

/-- The only entry of a present adapter with the address that is wanted. -/
def JoinedByMac (scope : CaptureScope) (entries : List DataSourceEntry) (i : Fin entries.length) :
    Prop :=
  ∃ mac, scope.mac = some mac ∧
    ∀ j : Fin entries.length,
      ((entries.get j).isPresent ≠ 0 ∧ (entries.get j).mac = some mac) ↔ j = i

/-- No entry is the only one with the address, and this is the only one with a name. -/
def JoinedByName (scope : CaptureScope) (entries : List DataSourceEntry) (i : Fin entries.length) :
    Prop :=
  (∀ k, ¬ JoinedByMac scope entries k) ∧
    ∀ j : Fin entries.length,
      ((entries.get j).isPresent ≠ 0 ∧ scope.names (entries.get j) = true) ↔ j = i

/-- The outcome that an entry gives. -/
def Joins (scope : CaptureScope) (entries : List DataSourceEntry) (i : Fin entries.length) :
    ScopeOutcome → Prop
  | .selectedInterface id => JoinedByMac scope entries i ∧ id = some (entries.get i).id
  | .scopedByName id => JoinedByName scope entries i ∧ id = (entries.get i).id
  | .unscopedFallback _ => False

/-- The outcome names the sources that the session listens to: the one entry that was joined in
the list that was enumerated, or all of them. -/
def ScopedTo (scope : CaptureScope) (listing : Option Region) (sources : List (Region × ℕ))
    (outcome : ScopeOutcome) : Prop :=
  ((∃ reason, outcome = .unscopedFallback reason) ∧ listing = none ∧ sources = []) ∨
    ∃ list entries, ∃ i : Fin entries.length, listing = some list ∧
      sourceList list = .ok entries ∧ Joins scope entries i outcome ∧
      sources = [(list, (entries.get i).offset)]

/-- The capture is active, hears ARP alone, and only from what its outcome names. -/
structure Captures (scope : CaptureScope) (capture : CaptureSession) (outcome : ScopeOutcome)
    (s : CaptureState) : Prop where
  api : s.driver.api = some capture.handle
  stream : ∃ config, s.driver.stream = some (capture.stream, config) ∧
    s.thread.context = some config.userContext
  session : ∃ l, s.driver.session = some l ∧ l.handle = capture.session ∧
    (∃ c, l.constraints = [c] ∧ PassesArp c) ∧ l.output = some capture.stream ∧ l.active = true ∧
    ScopedTo scope s.driver.listing l.sources outcome

/-! ### The order of the calls -/

def Driver.InSession (d : Driver) (handle : Handle) (p : LiveSession → Prop) : Prop :=
  ∃ l, d.session = some l ∧ l.handle = handle ∧ p l

/-- The call is the next one that the driver allows. A source is added out of the list that was
enumerated, frames are asked for behind the constraint alone, a stream has the context of a
thread that lives, and a context is dropped behind a driver that holds nothing. An activation
is reported once, and a success while the capture is what it says. -/
def Permits (scope : CaptureScope) (mode : CaptureMode) : CaptureCall → CaptureState → Prop
  | .load, _ => True
  | .initializeApi version, s => version = apiVersion10 ∧ s.driver.api = none
  | .uninitializeApi handle, s =>
    s.driver.api = some handle ∧ s.driver.session.isNone ∧ s.driver.stream = none
  | .createLiveSession handle _, s => s.driver.api = some handle ∧ s.driver.session.isNone
  | .closeSessionHandle session, s =>
    (s.driver.InSession session fun l => l.active = false) ∧ s.driver.stream = none
  | .enumDataSources handle kind _ _, s =>
    mode = .preferScoped ∧ s.driver.api = some handle ∧ kind = dataSourceKindNetworkInterface
  | .addSingleDataSource session list offset, s =>
    (s.driver.InSession session fun l => l.active = false ∧ l.constraints ≠ [] ∧ l.sources = []) ∧
      s.driver.listing = some list ∧ offset + dataSourceSpecSize ≤ list.bytes.length
  | .addCaptureConstraint session constraint, s =>
    (s.driver.InSession session fun l => l.active = false) ∧ PassesArp constraint
  | .createRealtimeStream handle config, s =>
    s.driver.api = some handle ∧ s.driver.stream = none ∧
      s.thread.context = some config.userContext
  | .attachOutputToSession session stream, s =>
    (s.driver.InSession session fun l => l.active = false) ∧
      ∃ config, s.driver.stream = some (stream, config)
  | .closeRealtimeStream stream, s =>
    (∃ config, s.driver.stream = some (stream, config)) ∧
      ∀ l, s.driver.session = some l → l.active = false
  | .setSessionActive session active, s =>
    s.driver.InSession session fun l => active = true →
      (∃ c, l.constraints = [c] ∧ PassesArp c) ∧
        ∃ stream config, l.output = some stream ∧ s.driver.stream = some (stream, config)
  | .storeScopeProven proven, s =>
    s.thread.activation = none ∧ ∃ capture outcome, Captures scope capture outcome s ∧
      (proven = true ↔ ∃ id, outcome = .selectedInterface (some id))
  | .sendActivation result, s =>
    s.thread.activation = none ∧ match result with
      | .ok outcome => ∃ capture, Captures scope capture outcome s
      | .error _ => s.driver = {}
  | .awaitShutdown, s =>
    ∃ capture outcome, s.thread.activation = some (.ok outcome) ∧ Captures scope capture outcome s
  | .dropContext, s => s.driver = {} ∧ s.thread.activation.isSome

section specs

variable {scope : CaptureScope} {mode : CaptureMode}

variable (scope mode) in
/-- What a part of a capture does to the driver, when its calls are taken in order. -/
abbrev Acts {α : Type} (pre : CaptureState → Prop) (x : CaptureRoutine α)
    (good : α → CaptureState → Prop) (bad : CaptureState → Prop) : Prop :=
  captureWorld.Acts (Permits scope mode) (fun _ => pre) x (fun a _ => good a) fun _ => bad

/-! ### The join -/

theorem filter_finRange_eq_singleton {n : ℕ} {p : Fin n → Bool} {q : Fin n → Prop} {i : Fin n}
    (hpq : ∀ j, p j = true ↔ q j) :
    (List.finRange n).filter p = [i] ↔ ∀ j, q j ↔ j = i := by
  constructor
  · intro h j
    have hmem : j ∈ (List.finRange n).filter p ↔ j = i := by rw [h, List.mem_singleton]
    rwa [List.mem_filter, and_iff_right (List.mem_finRange j), hpq] at hmem
  · intro h
    have heq : (List.finRange n).filter p = (List.finRange n).filter (· == i) :=
      List.filter_congr fun j _ => by rw [Bool.eq_iff_iff, hpq, h j, beq_iff_eq]
    rw [heq, List.filter_beq, List.count_eq_one_of_mem (List.nodup_finRange n)
      (List.mem_finRange i), List.replicate_one]

theorem selectScopedSource_eq_ok {entries : List DataSourceEntry} {i : Fin entries.length} :
    selectScopedSource entries scope = .ok i ↔ JoinedByMac scope entries i := by
  unfold selectScopedSource JoinedByMac
  cases scope.mac with
  | none => simp
  | some mac =>
    have hone := filter_finRange_eq_singleton (i := i) fun j : Fin entries.length =>
      show ((entries.get j).isPresent != 0 && (entries.get j).mac == some mac) = true ↔ _ from by
        rw [Bool.and_eq_true, bne_iff_ne, beq_iff_eq]
    simp only [Option.some.injEq, exists_eq_left']
    refine Iff.trans ?_ hone
    split
    case h_1 k hk => rw [hk, Except.ok.injEq, List.singleton_inj]
    case h_2 hk => rw [hk]; simp
    case h_3 hne _ => simpa using hne i

theorem selectNamedSource_eq_some {entries : List DataSourceEntry} {i : Fin entries.length} :
    selectNamedSource entries scope = some i ↔
      ∀ j : Fin entries.length,
        ((entries.get j).isPresent ≠ 0 ∧ scope.names (entries.get j) = true) ↔ j = i := by
  have hone := filter_finRange_eq_singleton (i := i) fun j : Fin entries.length =>
    show ((entries.get j).isPresent != 0 && scope.names (entries.get j)) = true ↔ _ from by
      rw [Bool.and_eq_true, bne_iff_ne]
  unfold selectNamedSource
  refine Iff.trans ?_ hone
  dsimp only
  split
  case h_1 k hk => rw [hk, Option.some.injEq, List.singleton_inj]
  case h_2 hne => simpa using hne i

theorem joinSource_eq_ok {entries : List DataSourceEntry} {i : Fin entries.length} {named : Bool}
    (h : joinSource entries scope = .ok (i, named)) :
    if named then JoinedByName scope entries i else JoinedByMac scope entries i := by
  unfold joinSource at h
  split at h
  case h_1 k hk =>
    cases h
    exact selectScopedSource_eq_ok.mp hk
  case h_2 reason hreason =>
    split at h
    case h_1 k hk =>
      cases h
      refine ⟨fun k hk => ?_, selectNamedSource_eq_some.mp hk⟩
      rw [selectScopedSource_eq_ok.mpr hk] at hreason
      cases hreason
    case h_2 => cases h

theorem sourceList_offset {list : Region} {entries : List DataSourceEntry}
    (h : sourceList list = .ok entries) (i : Fin entries.length) :
    (entries.get i).offset + dataSourceSpecSize ≤ list.bytes.length := by
  obtain ⟨result, hparse, hholds, hentries⟩ := parseDataSourceList_spec list
  rw [parseDataSourceList_sourceList, h] at hparse
  cases hparse
  obtain ⟨hlength, hget⟩ := hentries entries rfl
  have hlist := hholds.mp ⟨entries, rfl⟩
  obtain ⟨entry, hentry, spec, mac, rest, -, -, hspec⟩ := hget i (hlength ▸ i.isLt)
  obtain ⟨hbase, hend⟩ := hlist.records i (hlength ▸ i.isLt)
  have heq : entries.get i = entry :=
    Option.some.inj ((List.getElem?_eq_getElem i.isLt).symm.trans hentry)
  rw [heq, hspec]
  change slotPointer list i - list.base + dataSourceSpecSize ≤ list.bytes.length
  omega

/-! ### Calls and teardowns -/

theorem acts_of_state {α : Type} {x : CaptureRoutine α} {pre : CaptureState → Prop}
    {good : α → CaptureState → Prop} {bad : CaptureState → Prop}
    (h : ∀ s₀, pre s₀ → Acts scope mode (· = s₀) x good bad) : Acts scope mode pre x good bad :=
  ⟨fun t s hs => (h s hs).triple t s rfl⟩

theorem acts_attempt {α : Type} {call : CaptureCall} {f : call.Reply → Except String α}
    {s₀ : CaptureState} {good : α → CaptureState → Prop} {bad : CaptureState → Prop}
    (hp : Permits scope mode call s₀) (hgood : ∀ r a, f r = .ok a → good a (s₀.advance call r))
    (hbad : ∀ r e, f r = .error e → bad (s₀.advance call r)) :
    Acts scope mode (· = s₀) (attempt call f) good bad := by
  apply World.Acts.attempt fun r _ s => s = s₀.advance call r
  · rintro - s rfl
    exact hp
  · rintro - s o rfl
    rfl
  · rintro r a - s rfl ha
    exact hgood r a ha
  · rintro r e - s rfl he
    exact hbad r e he

theorem acts_issue {call : CaptureCall} {s₀ : CaptureState}
    {good : call.Reply → CaptureState → Prop} {bad : CaptureState → Prop}
    (hp : Permits scope mode call s₀) (hgood : ∀ r, good r (s₀.advance call r)) :
    Acts scope mode (· = s₀) (issue call) good bad :=
  acts_attempt hp (fun _ _ h => by cases h; exact hgood _) fun _ _ h => by cases h

variable (scope mode) in
/-- The calls are taken in order, and leave the last state whatever they return. -/
def Unwinds : CaptureState → List CaptureCall → CaptureState → Prop
  | s, [], s' => s = s'
  | s, call :: calls, s' => Permits scope mode call s ∧ ∀ r, Unwinds (s.advance call r) calls s'

theorem acts_release {calls : List CaptureCall} {s₀ s₁ : CaptureState}
    (h : Unwinds scope mode s₀ calls s₁) :
    Acts scope mode (· = s₀) (release calls) (fun _ => (· = s₁)) fun _ => False := by
  have hall : Acts scope mode (Unwinds scope mode · calls s₁) (release calls)
      (fun _ s => Unwinds scope mode s [] s₁) fun _ => False := by
    apply World.Acts.each fun l _ s => Unwinds scope mode s l s₁
    rintro call l -
    apply acts_of_state
    rintro s ⟨hpermits, hrest⟩
    exact acts_attempt hpermits (fun r _ _ => hrest r) fun _ _ h => by cases h
  exact hall.conseq (fun _ s hs => hs ▸ h) (fun _ _ _ h => h) fun _ _ _ h => h

theorem acts_checked {call : CaptureCall} {hr : call.Reply → Int32} {name : String}
    {teardown : List CaptureCall} {s₀ s₁ : CaptureState}
    {good : call.Reply → CaptureState → Prop} (hp : Permits scope mode call s₀)
    (hgood : ∀ r, hr r = 0 → good r (s₀.advance call r))
    (hbad : ∀ r, hr r ≠ 0 → Unwinds scope mode (s₀.advance call r) teardown s₁) :
    Acts scope mode (· = s₀) (checked call hr name teardown) good (· = s₁) := by
  have hissue : Acts scope mode (· = s₀) (issue call) (fun r s => s = s₀.advance call r)
      (fun _ => False) := acts_issue hp fun _ => rfl
  apply World.Acts.seq hissue fun _ _ h => h.elim
  intro r
  by_cases hok : hr r = 0
  · rw [if_neg (not_not.mpr hok)]
    exact World.Acts.pure fun _ _ h => h ▸ hgood r hok
  · rw [if_pos hok]
    apply World.Acts.seq (acts_release (hbad r hok)) fun _ _ h => h.elim
    intro
    exact World.Acts.throw fun _ _ h => h

end specs

end PktMon

end PocketStream
