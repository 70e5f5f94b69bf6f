import PocketStream.Network.CaptureProtocol

/-! # Runs of a capture

A start that fails leaves the driver as it was, whichever of its calls failed,
and one that succeeds leaves an active capture that hears what it reports. The
thread of the listener closes all it has opened before it drops its context.
-/

namespace PocketStream

open Foundation Routine World

namespace PktMon

open Capture (ScopeOutcome CaptureMode)

variable {scope : CaptureScope} {mode : CaptureMode} {thread : ListenerThread} {handle : Handle}

/-- Only the library is open. -/
def Opened (handle : Handle) (thread : ListenerThread) (s : CaptureState) : Prop :=
  ∃ listing, s = ⟨{ api := some handle, listing := listing }, thread⟩

/-- The source is the entry that was joined in its list. -/
def Found (scope : CaptureScope) (source : ScopedSource) : Prop :=
  ∃ entries, ∃ i : Fin entries.length, sourceList source.list = .ok entries ∧
    Joins scope entries i source.outcome ∧ source.offset = (entries.get i).offset

theorem acts_enumerateAndJoin :
    Acts scope .preferScoped (Opened handle thread) (enumerateAndJoin handle scope)
      (fun source s => s = ⟨{ api := some handle, listing := some source.list }, thread⟩ ∧
        Found scope source)
      (Opened handle thread) := by
  have hsize : Acts scope .preferScoped (Opened handle thread)
      (issue (.enumDataSources handle dataSourceKindNetworkInterface false 0))
      (fun _ => Opened handle thread) (Opened handle thread) := by
    apply World.Acts.of_exists
    intro listing
    apply acts_issue
    · exact ⟨rfl, rfl, rfl⟩
    · intro r
      by_cases hr : r.hr = 0
      · exact ⟨some r.list, by simp [CaptureState.advance, hr]⟩
      · exact ⟨listing, by simp [CaptureState.advance, hr]⟩
  apply World.Acts.seq hsize fun _ _ h => h
  intro size
  apply World.Acts.seq World.Acts.refuseIf fun _ _ h => h
  intro
  have hfilled : Acts scope .preferScoped (Opened handle thread)
      (checked (.enumDataSources handle dataSourceKindNetworkInterface false size.needed)
        Enumeration.hr "PacketMonitorEnumDataSources" [])
      (fun filled s => s = ⟨{ api := some handle, listing := some filled.list }, thread⟩)
      (Opened handle thread) := by
    apply World.Acts.of_exists
    intro listing
    have hcall : Acts scope .preferScoped
        (· = ⟨{ api := some handle, listing := listing }, thread⟩)
        (checked (.enumDataSources handle dataSourceKindNetworkInterface false size.needed)
          Enumeration.hr "PacketMonitorEnumDataSources" [])
        (fun filled s => s = ⟨{ api := some handle, listing := some filled.list }, thread⟩)
        (· = ⟨{ api := some handle, listing := listing }, thread⟩) :=
      acts_checked ⟨rfl, rfl, rfl⟩ (fun r hr => by simp [CaptureState.advance, hr])
        fun r hr => if_neg hr
    exact hcall.conseq (fun _ _ h => h) (fun _ _ _ h => h) fun _ _ _ h => ⟨listing, h⟩
  apply World.Acts.seq (hfilled.weaken fun _ _ h => h.1) fun _ _ h => h
  intro filled
  apply World.Acts.seq World.Acts.require fun _ s h => ⟨_, h⟩
  intro entries
  apply World.Acts.seq World.Acts.require fun _ s h => ⟨_, h.1⟩
  rintro ⟨i, named⟩
  apply World.Acts.pure
  rintro - s ⟨⟨rfl, hentries⟩, hjoin⟩
  refine ⟨rfl, entries, i, hentries, ?_, rfl⟩
  have hjoined := joinSource_eq_ok hjoin
  cases named
  · exact ⟨by simpa using hjoined, rfl⟩
  · exact ⟨by simpa using hjoined, rfl⟩

/-! ### A start -/

/-- The driver on the way to a capture. -/
def building (handle : Handle) (source : Option ScopedSource) (session : Option LiveSession)
    (stream : Option (Handle × RealtimeStreamConfiguration)) (thread : ListenerThread) :
    CaptureState :=
  ⟨{ api := some handle, listing := source.map ScopedSource.list, session := session,
     stream := stream }, thread⟩

/-- The source is one that was asked for, and found. -/
def Wanted (scope : CaptureScope) (wanted : Option CaptureScope) (source : Option ScopedSource) :
    Prop :=
  (wanted = none → source = none) ∧ ∀ found, source = some found → Found scope found

theorem acts_scopedSource {wanted : Option CaptureScope}
    (hwanted : ∀ w, wanted = some w → w = scope ∧ mode = .preferScoped) :
    Acts scope mode (· = building handle none none none thread) (scopedSource handle wanted)
      (fun source s => s = building handle source none none thread ∧ Wanted scope wanted source)
      (· = ⟨{}, thread⟩) := by
  cases wanted with
  | none => exact World.Acts.pure fun _ s h => ⟨h, fun _ => rfl, fun _ hf => by cases hf⟩
  | some w =>
    obtain ⟨rfl, rfl⟩ := hwanted w rfl
    apply World.Acts.seq ((World.Acts.caught acts_enumerateAndJoin).weaken fun _ _ h => ⟨none, h⟩)
      (fun _ _ h => h)
    intro found
    cases found with
    | ok found =>
      apply World.Acts.pure
      rintro - s ⟨rfl, hfound⟩
      refine ⟨rfl, ?_, ?_⟩
      · rintro ⟨⟩
      · rintro _ ⟨⟩
        exact hfound
    | error e =>
      apply World.Acts.of_exists
      intro listing
      apply World.Acts.seq (acts_release _) fun _ _ h => h.elim
      · intro
        exact World.Acts.throw fun _ _ h => h
      · exact ⟨⟨rfl, rfl, rfl⟩, fun _ => rfl⟩

/-- A call that changes the state as its success does, or not at all. -/
theorem acts_step {call : CaptureCall} {hr : call.Reply → Int32} {name : String}
    {teardown : List CaptureCall} {s₀ s₁ : CaptureState} {next : call.Reply → CaptureState}
    (hp : Permits scope mode call s₀) (hok : ∀ r, hr r = 0 → s₀.advance call r = next r)
    (hfailed : ∀ r, hr r ≠ 0 → s₀.advance call r = s₀)
    (hunwinds : Unwinds scope mode s₀ teardown s₁) :
    Acts scope mode (· = s₀) (checked call hr name teardown) (fun r s => s = next r) (· = s₁) := by
  apply acts_checked hp hok
  intro r hr
  rwa [hfailed r hr]

section build

variable {source : Option ScopedSource} {session stream : Handle} {constraints : List (List UInt8)}
  {sources : List (Region × ℕ)} {output : Option Handle} {config : RealtimeStreamConfiguration}

theorem unwinds_session : Unwinds scope mode
    (building handle source (some ⟨session, constraints, sources, output, false⟩) none thread)
    [.closeSessionHandle session, .uninitializeApi handle] ⟨{}, thread⟩ :=
  ⟨⟨⟨_, rfl, rfl, rfl⟩, rfl⟩, fun _ => ⟨⟨rfl, rfl, rfl⟩, fun _ => rfl⟩⟩

theorem unwinds_stream : Unwinds scope mode
    (building handle source (some ⟨session, constraints, sources, output, false⟩)
      (some (stream, config)) thread)
    [.closeRealtimeStream stream, .closeSessionHandle session, .uninitializeApi handle]
    ⟨{}, thread⟩ := by
  refine ⟨⟨⟨_, rfl⟩, ?_⟩, fun _ => unwinds_session⟩
  rintro _ ⟨⟩
  rfl

/-- The sources that a session has behind the attachment. -/
def attached (source : Option ScopedSource) : List (Region × ℕ) :=
  source.toList.map fun found => (found.list, found.offset)

theorem acts_attachSource (hfound : ∀ found, source = some found → Found scope found)
    (hconstraints : constraints ≠ []) :
    Acts scope mode
      (· = building handle source (some ⟨session, constraints, [], none, false⟩) none thread)
      (attachSource handle session source)
      (fun _ s => s = building handle source
        (some ⟨session, constraints, attached source, none, false⟩) none thread)
      (· = ⟨{}, thread⟩) := by
  cases source with
  | none => exact World.Acts.pure fun _ _ h => h
  | some found =>
    obtain ⟨entries, i, hentries, -, hoffset⟩ := hfound found rfl
    apply World.Acts.seq (acts_step _ _ _ unwinds_session) (fun _ _ h => h)
    · intro
      exact World.Acts.pure fun _ _ h => h
    · refine ⟨⟨_, rfl, rfl, rfl, hconstraints, rfl⟩, rfl, ?_⟩
      rw [hoffset]
      exact sourceList_offset hentries i
    · exact fun r hr => if_pos hr
    · exact fun r hr => if_neg hr

theorem acts_tryStart {name : String} {wanted : Option CaptureScope}
    (hcontext : thread.context = some config.userContext)
    (hwanted : ∀ w, wanted = some w → w = scope ∧ mode = .preferScoped) :
    Acts scope mode (· = ⟨{}, thread⟩) (tryStart name config wanted)
      (fun started s => Captures scope started.1 started.2 s ∧ s.thread = thread ∧
        (wanted = none → s.driver.listing = none))
      (· = ⟨{}, thread⟩) := by
  refine World.Acts.via (fun opened _ s => s = building opened.2 none none none thread)
    (acts_step ⟨rfl, rfl⟩ (fun r hr => if_pos hr) (fun r hr => if_neg hr) rfl) (fun _ _ h => h) ?_
  rintro ⟨-, handle⟩
  apply World.Acts.seq (acts_scopedSource hwanted) fun _ _ h => h
  intro source
  apply Runs.given fun _ _ h => h.2
  rintro ⟨hnone, hfound⟩
  apply Runs.conseq _ (fun _ _ h => h.1) (fun _ _ _ h => h) fun _ _ _ h => h
  refine World.Acts.via (fun created _ s => s =
      building handle source (some ⟨created.2, [], [], none, false⟩) none thread)
    (acts_step ⟨rfl, rfl⟩ (fun r hr => if_pos hr) (fun r hr => if_neg hr)
      ⟨⟨rfl, rfl, rfl⟩, fun _ => rfl⟩) (fun _ _ h => h) ?_
  rintro ⟨-, session⟩
  refine World.Acts.via (fun _ _ s => s =
      building handle source (some ⟨session, [buildArpConstraint], [], none, false⟩) none thread)
    (acts_step ⟨⟨_, rfl, rfl, rfl⟩, passesArp_buildArpConstraint⟩ (fun r hr => if_pos hr)
      (fun r hr => if_neg hr) unwinds_session) (fun _ _ h => h) ?_
  intro
  apply World.Acts.seq (acts_attachSource hfound (List.cons_ne_nil _ _)) fun _ _ h => h
  intro
  refine World.Acts.via (fun streamed _ s => s = building handle source
      (some ⟨session, [buildArpConstraint], attached source, none, false⟩)
      (some (streamed.2, config)) thread)
    (acts_step ⟨rfl, rfl, hcontext⟩ (fun r hr => if_pos hr) (fun r hr => if_neg hr)
      unwinds_session) (fun _ _ h => h) ?_
  rintro ⟨-, stream⟩
  refine World.Acts.via (fun _ _ s => s = building handle source
      (some ⟨session, [buildArpConstraint], attached source, some stream, false⟩)
      (some (stream, config)) thread)
    (acts_step ⟨⟨_, rfl, rfl, rfl⟩, _, rfl⟩ (fun r hr => if_pos hr) (fun r hr => if_neg hr)
      unwinds_stream) (fun _ _ h => h) ?_
  intro
  refine World.Acts.via (fun _ _ s => s = building handle source
      (some ⟨session, [buildArpConstraint], attached source, some stream, true⟩)
      (some (stream, config)) thread)
    (acts_step ⟨_, rfl, rfl, fun _ => ⟨⟨_, rfl, passesArp_buildArpConstraint⟩, _, _, rfl, rfl⟩⟩
      (fun r hr => if_pos (.inl hr)) (fun r hr => if_neg (not_or.mpr ⟨hr, by decide⟩))
      unwinds_stream)
    (fun _ _ h => h) ?_
  intro
  apply World.Acts.pure
  rintro - s rfl
  refine ⟨⟨rfl, ⟨config, rfl, hcontext⟩, _, rfl, rfl, ⟨_, rfl, passesArp_buildArpConstraint⟩, rfl,
    rfl, ?_⟩, rfl, fun h => by rw [building, hnone h]; rfl⟩
  cases source with
  | none => exact .inl ⟨⟨_, rfl⟩, rfl, rfl⟩
  | some found =>
    obtain ⟨entries, i, hentries, hjoins, hoffset⟩ := hfound found rfl
    exact .inr ⟨found.list, entries, i, rfl, hentries, hjoins, by rw [← hoffset]; rfl⟩

end build

/-! ### What the program does with a capture -/

variable {config : RealtimeStreamConfiguration} {capture : CaptureSession} {outcome : ScopeOutcome}

theorem acts_load {s₀ : CaptureState} :
    Acts scope mode (· = s₀) load (fun _ => (· = s₀)) (· = s₀) :=
  acts_attempt trivial (fun _ _ _ => rfl) fun _ _ _ => rfl

/-- The capture that a start has returned. -/
def Started (scope : CaptureScope) (mode : CaptureMode) (thread : ListenerThread)
    (capture : CaptureSession) (outcome : ScopeOutcome) (s : CaptureState) : Prop :=
  Captures scope capture outcome s ∧ s.thread = thread ∧
    (mode = .forcedUnscoped → s.driver.listing = none)

theorem Captures.unscoped {s : CaptureState} (h : Captures scope capture outcome s)
    (hlisting : s.driver.listing = none) (reason : String) :
    Captures scope capture (.unscopedFallback reason) s := by
  obtain ⟨l, hl, hhandle, hconstraint, houtput, hactive, hscoped⟩ := h.session
  refine { h with session := ⟨l, hl, hhandle, hconstraint, houtput, hactive, .inl ?_⟩ }
  obtain ⟨-, -, hsources⟩ | ⟨list, -, -, hlist, -⟩ := hscoped
  · exact ⟨⟨reason, rfl⟩, hlisting, hsources⟩
  · rw [hlisting] at hlist
    cases hlist

theorem acts_start {name : String} (hcontext : thread.context = some config.userContext) :
    Acts scope mode (· = ⟨{}, thread⟩) (CaptureSession.start name config scope mode)
      (fun started => Started scope mode thread started.1 started.2) (· = ⟨{}, thread⟩) := by
  have hunscoped : Acts scope mode (· = ⟨{}, thread⟩) (tryStart name config none)
      (fun started s => ∀ reason,
        Started scope mode thread started.1 (.unscopedFallback reason) s)
      (· = ⟨{}, thread⟩) := by
    apply (acts_tryStart hcontext fun _ h => by cases h).conseq (fun _ _ h => h) _ fun _ _ _ h => h
    rintro ⟨capture, outcome⟩ - s ⟨hcaptures, hthread, hlisting⟩ reason
    exact ⟨hcaptures.unscoped (hlisting rfl) reason, hthread, fun _ => hlisting rfl⟩
  apply World.Acts.seq acts_load fun _ _ h => h
  intro
  cases mode with
  | forcedUnscoped =>
    apply World.Acts.seq hunscoped fun _ _ h => h
    intro started
    exact World.Acts.pure fun _ _ h => h _
  | preferScoped =>
    apply World.Acts.seq (World.Acts.caught (acts_tryStart hcontext _)) fun _ _ h => h
    · rintro (scopedReason | started)
      · apply World.Acts.seq (World.Acts.caught hunscoped) fun _ _ h => h
        rintro (e | started)
        · exact World.Acts.throw fun _ _ h => h
        · exact World.Acts.pure fun _ _ h => h _
      · exact World.Acts.pure fun _ _ h => ⟨h.1, h.2.1, fun hm => by cases hm⟩
    · rintro _ ⟨⟩
      exact ⟨rfl, rfl⟩

theorem acts_stop {s₀ : CaptureState} (h : Captures scope capture outcome s₀) :
    Acts scope mode (· = s₀) capture.stop (fun _ => (· = ⟨{}, s₀.thread⟩)) fun _ => False := by
  obtain ⟨driver, thread⟩ := s₀
  obtain ⟨api, ⟨config, stream, -⟩, l, hl, hhandle, -⟩ := h
  dsimp only at api stream hl
  apply acts_release
  simpa [Unwinds, Permits, CaptureState.advance, Driver.InSession, api, stream, hl] using hhandle

/-- A thread that has not reported yet. -/
def unreported (context : ℕ) : ListenerThread := ⟨some context, false, none⟩

theorem Captures.retell {s : CaptureState} {thread' : ListenerThread}
    (h : Captures scope capture outcome s) (hcontext : thread'.context = s.thread.context) :
    Captures scope capture outcome { s with thread := thread' } := by
  obtain ⟨config, hstream, huser⟩ := h.stream
  exact ⟨h.api, ⟨config, hstream, hcontext.trans huser⟩, h.session⟩

/-- The thread has told how it went, and holds nothing. -/
structure Finished (s : CaptureState) : Prop where
  driver : s.driver = {}
  context : s.thread.context = none
  told : s.thread.activation.isSome
  proven : s.thread.proven = true ↔
    ∃ id, s.thread.activation = some (.ok (.selectedInterface (some id)))

theorem identityScoped_iff : identityScoped outcome = true ↔
    ∃ id, outcome = .selectedInterface (some id) := by
  unfold identityScoped
  split <;> simp_all

theorem acts_listen {context : ℕ} : Acts scope mode
    (Started scope mode (unreported context) capture outcome) (listen capture outcome)
    (fun _ => Finished) fun _ => False := by
  apply acts_of_state
  rintro ⟨driver, -⟩ ⟨hcaptures, rfl, -⟩
  refine World.Acts.via (fun _ _ s => s = ⟨driver, some context, identityScoped outcome, none⟩)
    (acts_issue ?_ fun _ => rfl) (fun _ _ h => h) fun _ => ?_
  · exact ⟨rfl, capture, outcome, hcaptures, identityScoped_iff⟩
  have hproven : Captures scope capture outcome
      ⟨driver, some context, identityScoped outcome, none⟩ := hcaptures.retell rfl
  refine World.Acts.via
    (fun _ _ s => s = ⟨driver, some context, identityScoped outcome, some (.ok outcome)⟩)
    (acts_issue ?_ fun _ => rfl) (fun _ _ h => h) fun _ => ?_
  · exact ⟨rfl, capture, hproven⟩
  have htold : Captures scope capture outcome
      ⟨driver, some context, identityScoped outcome, some (.ok outcome)⟩ := hproven.retell rfl
  refine World.Acts.via
    (fun _ _ s => s = ⟨driver, some context, identityScoped outcome, some (.ok outcome)⟩)
    (acts_issue ?_ fun _ => rfl) (fun _ _ h => h) fun _ => ?_
  · exact ⟨capture, outcome, rfl, htold⟩
  apply World.Acts.seq (acts_stop htold) fun _ _ h => h
  intro
  apply acts_issue
  · exact ⟨rfl, rfl⟩
  · intro
    exact ⟨rfl, rfl, rfl, by simpa [CaptureState.advance] using identityScoped_iff⟩

theorem acts_listenerThread {context : ℕ} :
    Acts scope mode (· = ⟨{}, unreported context⟩) (listenerThread context scope mode)
      (fun _ => Finished) fun _ => False := by
  apply World.Acts.seq (World.Acts.caught (acts_start rfl)) fun _ _ h => h
  rintro (e | ⟨capture, outcome⟩)
  · refine World.Acts.via (fun _ _ s => s = ⟨{}, some context, false, some (.error e)⟩)
      (acts_issue ?_ fun _ => rfl) (fun _ _ h => h) fun _ => ?_
    · exact ⟨rfl, rfl⟩
    apply acts_issue
    · exact ⟨rfl, rfl⟩
    · intro
      exact ⟨rfl, rfl, rfl, by simp [CaptureState.advance]⟩
  · exact acts_listen

/-! ### Queries -/

theorem acts_probe : Acts scope mode (· = ⟨{}, thread⟩) probe (fun _ => (· = ⟨{}, thread⟩))
    (· = ⟨{}, thread⟩) := by
  apply World.Acts.seq acts_load fun _ _ h => h
  intro
  refine World.Acts.via (fun opened _ s => s = building opened.2 none none none thread)
    (acts_step ⟨rfl, rfl⟩ (fun r hr => if_pos hr) (fun r hr => if_neg hr) rfl) (fun _ _ h => h) ?_
  rintro ⟨-, handle⟩
  refine World.Acts.via (fun created _ s => s =
      building handle none (some ⟨created.2, [], [], none, false⟩) none thread)
    (acts_step ⟨rfl, rfl⟩ (fun r hr => if_pos hr) (fun r hr => if_neg hr)
      ⟨⟨rfl, rfl, rfl⟩, fun _ => rfl⟩) (fun _ _ h => h) ?_
  rintro ⟨-, session⟩
  exact (acts_release unwinds_session).conseq (fun _ _ h => h) (fun _ _ _ h => h)
    fun _ _ _ h => h.elim

theorem acts_liveSourceIdFor : Acts scope .preferScoped (· = ⟨{}, thread⟩) (liveSourceIdFor scope)
    (fun _ => (· = ⟨{}, thread⟩)) (· = ⟨{}, thread⟩) := by
  apply World.Acts.seq acts_load fun _ _ h => h
  intro
  refine World.Acts.via (fun opened _ s => s = building opened.2 none none none thread)
    (acts_step ⟨rfl, rfl⟩ (fun r hr => if_pos hr) (fun r hr => if_neg hr) rfl) (fun _ _ h => h) ?_
  rintro ⟨-, handle⟩
  apply World.Acts.seq ((World.Acts.caught acts_enumerateAndJoin).weaken fun _ _ h => ⟨none, h⟩)
    fun _ _ h => h
  intro result
  refine World.Acts.via (fun _ _ s => s = ⟨{}, thread⟩) ?_ (fun _ _ h => h) fun _ =>
    World.Acts.require.conseq (fun _ _ h => h) (fun _ _ _ h => h.1) fun _ _ _ h => h
  have hclose : Acts scope .preferScoped (Opened handle thread) (release [.uninitializeApi handle])
      (fun _ => (· = ⟨{}, thread⟩)) (· = ⟨{}, thread⟩) := by
    apply World.Acts.of_exists
    intro listing
    apply (acts_release _).conseq (fun _ _ h => h) (fun _ _ _ h => h) fun _ _ _ h => h.elim
    exact ⟨⟨rfl, rfl, rfl⟩, fun _ => rfl⟩
  refine hclose.weaken fun _ s h => ?_
  cases result with
  | ok found => exact ⟨_, h.1⟩
  | error e => exact h

/-! ### Runs -/

section runs

variable {α : Type} {x : CaptureRoutine α} {s₀ : CaptureState}
  {good : α → CaptureState → Prop} {bad : CaptureState → Prop}

theorem Acts.permits (h : Acts scope mode (· = s₀) x good bad)
    (moves : List (Move ((call : CaptureCall) → call.Reply) Empty)) {call : CaptureCall}
    {next : call.Reply → Program CaptureCall CaptureCall.Reply (Except String α × Unit)}
    (hrun : (captureWorld.run (s₀, x ()) moves).2 = .request call next) :
    Permits scope mode call (captureWorld.run (s₀, x ()) moves).1 := by
  have hsafe := Safe.run (c := (s₀, x ())) (h.triple () s₀ rfl) moves
  rw [hrun] at hsafe
  exact hsafe.issued

theorem Acts.returned (h : Acts scope mode (· = s₀) x good bad)
    (moves : List (Move ((call : CaptureCall) → call.Reply) Empty)) {r : Except String α × Unit}
    (hrun : (captureWorld.run (s₀, x ()) moves).2 = .done r) :
    ends (fun a _ => good a) (fun _ _ => bad) r (captureWorld.run (s₀, x ()) moves).1 := by
  have hsafe := Safe.run (c := (s₀, x ())) (h.triple () s₀ rfl) moves
  rw [hrun] at hsafe
  exact hsafe.returned

end runs

/-- Whatever the driver answers, a start takes its calls in order. If it fails, it leaves the
driver as it was, and if it succeeds, the capture is active and hears only what its outcome
names. A capture that was to be unscoped has not enumerated anything. -/
theorem start_allOrNothing (name : String) (config : RealtimeStreamConfiguration)
    (scope : CaptureScope) (mode : CaptureMode)
    (moves : List (Move ((call : CaptureCall) → call.Reply) Empty)) :
    let c := captureWorld.run (⟨{}, unreported config.userContext⟩,
      CaptureSession.start name config scope mode ()) moves
    (∀ call next, c.2 = .request call next → Permits scope mode call c.1) ∧
      (∀ e, c.2 = .done (.error e, ()) → c.1 = ⟨{}, unreported config.userContext⟩) ∧
      ∀ capture outcome, c.2 = .done (.ok (capture, outcome), ()) →
        Captures scope capture outcome c.1 ∧
        (mode = .forcedUnscoped → c.1.driver.listing = none) := by
  intro c
  have hstart : Acts scope mode (· = ⟨{}, unreported config.userContext⟩)
      (CaptureSession.start name config scope mode)
      (fun started => Started scope mode (unreported config.userContext) started.1 started.2)
      (· = ⟨{}, unreported config.userContext⟩) := acts_start rfl
  refine ⟨fun call next h => hstart.permits moves h, fun e h => hstart.returned moves h, ?_⟩
  intro capture outcome h
  obtain ⟨hcaptures, -, hlisting⟩ := hstart.returned moves h
  exact ⟨hcaptures, hlisting⟩

/-- A buffer of the capacity at the bottom of the memory. -/
def blank (capacity : ℕ) : Region where
  base := 0
  bytes := List.replicate (capacity % 2 ^ 64) 0
  fits := by
    rw [Nat.zero_add, List.length_replicate]
    exact Nat.mod_lt _ (by decide)

/-- A driver whose calls all succeed, with the same handle for each thing it opens, and which
answers an enumeration with a list of no sources. -/
def willing : (call : CaptureCall) → call.Reply
  | .load => .ok ()
  | .initializeApi _ | .createLiveSession _ _ | .createRealtimeStream _ _ => (0, 7)
  | .enumDataSources _ _ _ capacity =>
    ⟨0, 8, blank capacity, fun h => by rw [blank, List.length_replicate, Nat.mod_eq_of_lt h]⟩
  | .storeScopeProven _ | .sendActivation _ | .awaitShutdown | .dropContext => ()
  | .uninitializeApi _ | .closeSessionHandle _ | .addSingleDataSource _ _ _
  | .addCaptureConstraint _ _ | .attachOutputToSession _ _ | .closeRealtimeStream _
  | .setSessionActive _ _ => (0 : Int32)

example : (captureWorld.run (⟨{}, unreported 5⟩, CaptureSession.start "Capture" ⟨5, 4, 128⟩
    ⟨none, "Ethernet", ""⟩ .preferScoped ()) (List.replicate 11 (.reply willing))).2 =
    .done (.ok (⟨7, 7, 7⟩, .unscopedFallback ("selected adapter has no usable MAC to match a " ++
      "capture source; no unique present name/description match")), ()) := by
  rfl

/-- The callbacks have a context that lives, and frames come through the constraint alone. -/
structure Hears (s : CaptureState) : Prop where
  context : ∀ stream config, s.driver.stream = some (stream, config) →
    s.thread.context = some config.userContext
  constrained : ∀ l, s.driver.session = some l → l.active = true →
    (∃ c, l.constraints = [c] ∧ PassesArp c) ∧
      ∃ stream config, l.output = some stream ∧ s.driver.stream = some (stream, config)

theorem Hears.of_inactive {s : CaptureState} (h : ∀ stream config,
      s.driver.stream = some (stream, config) → s.thread.context = some config.userContext)
    (hinactive : ∀ l, s.driver.session = some l → l.active = false) : Hears s where
  context := h
  constrained l hl hactive := by
    rw [hinactive l hl] at hactive
    cases hactive

/-- A change of a session that is not active. -/
theorem Hears.map {s : CaptureState} {f : LiveSession → LiveSession} {session : Handle}
    {p : LiveSession → Prop} (h : Hears s)
    (hin : s.driver.InSession session fun l => l.active = false ∧ p l)
    (hf : ∀ l, l.active = false → (f l).active = false) :
    Hears { s with driver.session := s.driver.session.map f } := by
  obtain ⟨l, hl, -, hinactive, -⟩ := hin
  refine .of_inactive h.context fun l' hl' => ?_
  obtain ⟨l'', hl'', rfl⟩ := Option.map_eq_some_iff.mp hl'
  obtain rfl := Option.some.inj (hl.symm.trans hl'')
  exact hf l hinactive

theorem Driver.InSession.imp {d : Driver} {session : Handle} {p q : LiveSession → Prop}
    (h : d.InSession session p) (hpq : ∀ l, p l → q l) : d.InSession session q := by
  obtain ⟨l, hl, hhandle, hp⟩ := h
  exact ⟨l, hl, hhandle, hpq l hp⟩

theorem hears_advance {s : CaptureState} {call : CaptureCall} {r : call.Reply}
    (hp : Permits scope mode call s) (h : Hears s) : Hears (s.advance call r) := by
  cases call with
  | load | awaitShutdown => exact h
  | uninitializeApi | storeScopeProven | sendActivation => exact ⟨h.context, h.constrained⟩
  | initializeApi | enumDataSources =>
    dsimp only [CaptureState.advance]
    split
    · exact ⟨h.context, h.constrained⟩
    · exact h
  | closeSessionHandle => exact .of_inactive h.context fun _ hl => by cases hl
  | createLiveSession handle name =>
    dsimp only [CaptureState.advance]
    split
    · refine .of_inactive h.context ?_
      rintro _ ⟨⟩
      rfl
    · exact h
  | addSingleDataSource session list offset =>
    dsimp only [CaptureState.advance]
    split
    · exact h.map hp.1 fun _ hl => hl
    · exact h
  | addCaptureConstraint session constraint =>
    dsimp only [CaptureState.advance]
    split
    · exact h.map (hp.1.imp fun _ hl => ⟨hl, trivial⟩) fun _ hl => hl
    · exact h
  | attachOutputToSession session stream =>
    dsimp only [CaptureState.advance]
    split
    · exact h.map (hp.1.imp fun _ hl => ⟨hl, trivial⟩) fun _ hl => hl
    · exact h
  | createRealtimeStream handle config =>
    obtain ⟨-, hstream, hcontext⟩ := hp
    dsimp only [CaptureState.advance]
    split
    · constructor
      · rintro _ _ ⟨⟩
        exact hcontext
      · intro l hl hactive
        obtain ⟨-, stream, config', -, hopen⟩ := h.constrained l hl hactive
        rw [hstream] at hopen
        cases hopen
    · exact h
  | closeRealtimeStream stream =>
    apply Hears.of_inactive
    · rintro _ _ ⟨⟩
    · intro l hl
      obtain ⟨l', hl', rfl⟩ := Option.map_eq_some_iff.mp hl
      exact hp.2 l' hl'
  | setSessionActive session active =>
    obtain ⟨l, hl, -, hready⟩ := hp
    dsimp only [CaptureState.advance]
    split
    · refine ⟨h.context, fun l' hl' hactive => ?_⟩
      obtain ⟨l'', hl'', rfl⟩ := Option.map_eq_some_iff.mp hl'
      obtain rfl := Option.some.inj (hl.symm.trans hl'')
      exact hready hactive
    · exact h
  | dropContext =>
    obtain ⟨hdriver, -⟩ := hp
    constructor
    · intro stream config hstream
      rw [CaptureState.advance, hdriver] at hstream
      cases hstream
    · intro l hl
      rw [CaptureState.advance, hdriver] at hl
      cases hl

/-- Whatever the driver answers, the thread of the listener takes its calls in order and holds
nothing when it is over, and it has told how it went. As long as it runs, no callback is given a
context that has been dropped, and no frame comes from outside the constraint. -/
theorem listenerThread_run (context : ℕ) (scope : CaptureScope) (mode : CaptureMode)
    (moves : List (Move ((call : CaptureCall) → call.Reply) Empty)) :
    let c := captureWorld.run (⟨{}, unreported context⟩, listenerThread context scope mode ()) moves
    Hears c.1 ∧ (∀ call next, c.2 = .request call next → Permits scope mode call c.1) ∧
      ∀ r, c.2 = .done r → r = (.ok (), ()) ∧ Finished c.1 := by
  intro c
  have hthread : Acts scope mode (· = ⟨{}, unreported context⟩)
      (listenerThread context scope mode) (fun _ => Finished) fun _ => False :=
    acts_listenerThread
  refine ⟨?_, fun call next h => hthread.permits moves h, ?_⟩
  · apply Safe.invariant (fun _ i => i.elim) (fun _ _ _ => hears_advance)
      (hthread.triple () _ rfl)
    exact .of_inactive (fun _ _ h => by cases h) fun _ h => by cases h
  · rintro ⟨e | ⟨⟩, ⟨⟩⟩ h
    · exact (hthread.returned moves h).elim
    · exact ⟨rfl, hthread.returned moves h⟩

end PktMon

end PocketStream
