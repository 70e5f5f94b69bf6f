import PocketStream.Foundation.History
import PocketStream.Network.BoundTcp

/-! # Where a bound transport connects, and until when

Each step of the transport changes the table of forwards and the log in one of a few ways. The
invariant says that a forward connects behind a check of its own that passed, along the path of
the start. Once the gate is closed or the loop is left, only a forward in the middle of its
segment still connects.
-/

namespace PocketStream

open Foundation

namespace BoundTcp

/-- The look shows the path of the gate under live fences. -/
structure Look.Confirms (look : Look) (path : ReadyPath) : Prop where
  live : look.pathStale = false ∧ look.readyStale = false
  same : ∃ current, look.ready = .ok current ∧ current.index = path.index ∧
    current.source = path.source ∧ current.target = path.target

theorem Gate.check_eq_ok {gate : Gate} {look : Look} :
    gate.check look = .ok () ↔ gate.active = true ∧ look.Confirms gate.path := by
  unfold Gate.check
  constructor
  · intro h
    split at h
    · cases h
    next hlive =>
    split at h
    · cases h
    next current hready =>
    split at h
    · cases h
    next hsame =>
    simp only [Bool.or_eq_true, Bool.not_eq_true', bne_iff_ne, not_or, Bool.not_eq_false,
      Bool.not_eq_true, ne_eq, not_not] at hlive hsame
    obtain ⟨⟨⟨hfresh, hindex⟩, hsource⟩, htarget⟩ := hsame
    exact ⟨hlive.1, ⟨hlive.2, hfresh⟩, current, hready, hindex, hsource, htarget⟩
  · rintro ⟨hactive, ⟨hpath, hfresh⟩, current, hready, hindex, hsource, htarget⟩
    simp [hactive, hpath, hfresh, hready, hindex, hsource, htarget]

theorem Transport.passes_iff {s : Transport} {look : Look} : s.passes look = true ↔
    s.gate.active = true ∧ look.Confirms s.gate.path := by
  rw [← Gate.check_eq_ok, passes]
  cases s.gate.check look <;> simp [Except.toBool]

theorem Transport.passes_eq_false {s : Transport} {look : Look} (h : s.gate.active = false) :
    s.passes look = false := by
  rw [← Bool.not_eq_true, passes_iff, h]
  simp

/-! ### The table of forwards -/

namespace Forwards

variable {fs : Forwards} {id : ℕ} {f : Forward} {stage : Stage} {P Q : ℕ → Forward → Prop}

theorem find_eq_some : fs.find id stage = some f ↔ fs.lookup id = some f ∧ f.stage = stage := by
  simp [find, Option.filter_eq_some_iff]

/-- Every forward satisfies the assertion. -/
def All (P : ℕ → Forward → Prop) (fs : Forwards) : Prop := ∀ id f, fs.lookup id = some f → P id f

theorem All.insert (h : fs.All P) (hf : P id f) : Forwards.All P (Finmap.insert id f fs) := by
  intro id' f' hlookup
  rw [FiniteMap.lookup_insert] at hlookup
  split at hlookup
  · next he =>
    obtain rfl := Option.some.inj hlookup
    exact he ▸ hf
  · exact h id' f' hlookup

theorem All.erase (h : fs.All P) : Forwards.All P (Finmap.erase id fs) := by
  intro id' f' hlookup
  rw [FiniteMap.lookup_erase] at hlookup
  split at hlookup
  · cases hlookup
  · exact h id' f' hlookup

/-- A move keeps what it keeps of the forward, unless the forward is aborted and yields. -/
theorem All.move (h : fs.All P)
    (hf : (f.aborted = true → stage.inSegment = true) → P id { f with stage := stage }) :
    (fs.move id f stage).All P := by
  unfold Forwards.move
  split
  · exact h.erase
  · next hkeep =>
    refine h.insert (hf fun haborted => ?_)
    simpa [haborted] using hkeep

theorem All.dropped (h : fs.All P)
    (hP : ∀ id f, P id f → f.stage.inSegment = true → Q id { f with aborted := true }) :
    fs.dropped.All Q := by
  intro id f hlookup
  simp only [Forwards.dropped, FiniteMap.lookup_mapValues, FiniteMap.lookup_retain] at hlookup
  obtain ⟨g, hg, rfl⟩ := Option.map_eq_some_iff.mp hlookup
  obtain ⟨hg, hseg⟩ := Option.filter_eq_some_iff.mp hg
  exact hP id g (h id g hg) hseg

theorem card_move_le (h : fs.lookup id = some f) :
    (fs.move id f stage).keys.card ≤ fs.keys.card := by
  unfold Forwards.move
  split
  · rw [FiniteMap.keys_erase]
    exact Finset.card_erase_le
  · rw [FiniteMap.keys_insert, Finset.insert_eq_of_mem (FiniteMap.mem_keys_of_lookup h)]

theorem card_dropped_le : fs.dropped.keys.card ≤ fs.keys.card := by
  refine Finset.card_le_card fun id hid => ?_
  rw [Finmap.mem_keys, ← Finmap.lookup_isSome] at hid ⊢
  obtain ⟨f, hf⟩ := Option.isSome_iff_exists.mp hid
  simp only [Forwards.dropped, FiniteMap.lookup_mapValues, FiniteMap.lookup_retain] at hf
  obtain ⟨g, hg, -⟩ := Option.map_eq_some_iff.mp hf
  rw [(Option.filter_eq_some_iff.mp hg).1]
  rfl

end Forwards

/-! ### What a step changes -/

/-- The ways in which a step changes the transport. -/
inductive Change (s : Transport) : Transport → Prop
  | stay : Change s s
  | left : s.serving = .serving → Change s s.leave
  | dropped : s.aborting = true → s.serving = .serving →
      Change s { s with forwards := s.forwards.dropped, serving := .finished }
  | spawned : s.serving = .serving → s.gate.active = true →
      s.forwards.keys.card < maxConnections →
      Change s { s with
        forwards := s.forwards.insert s.spawned ⟨.spawned, false⟩
        spawned := s.spawned + 1 }
  | joined (id : ℕ) : Change s { s with forwards := s.forwards.erase id }
  | polled (id : ℕ) (f : Forward) : s.forwards.lookup id = some f → f.stage = .spawned →
      Change s (s.move id f .polled)
  | checked (id : ℕ) (f : Forward) (look : Look) : s.forwards.lookup id = some f →
      f.stage = .polled → s.gate.active = true → look.Confirms s.gate.path →
      Change s ((s.move id f .checked).note (.checked id look))
  | connected (id : ℕ) (f : Forward) : s.forwards.lookup id = some f → f.stage = .checked →
      Change s ((s.move id f .connecting).note (.connect id s.route))
  | yielded (id : ℕ) (f : Forward) (stage : Stage) : s.forwards.lookup id = some f →
      stage.inSegment = false → Change s (s.move id f stage)
  | retired : s.serving = .returned →
      Change s { s with serving := .finished, gate := { s.gate with active := false } }
  | shutdown : Change s { s with aborting := true, gate := { s.gate with active := false } }
  | readiness (look : Look) : Change s (s.note (.readiness (s.passes look)))

theorem step_cases {s s' : Transport} {e : Event} (h : step s e = some s') : Change s s' := by
  cases e with
  | cancelled =>
    obtain ⟨hserving, h⟩ := Option.ite_none_right_eq_some.mp h
    obtain rfl := Option.some.inj h
    exact .left hserving
  | tick look =>
    obtain ⟨hserving, h⟩ := Option.ite_none_right_eq_some.mp h
    obtain rfl := Option.some.inj h
    unfold Transport.continueIf
    split
    · exact .stay
    · exact .left hserving
  | joined id =>
    obtain ⟨-, h⟩ := Option.ite_none_right_eq_some.mp h
    obtain ⟨f, -, rfl⟩ := Option.map_eq_some_iff.mp h
    exact .joined id
  | accepted ok look =>
    obtain ⟨hserving, h⟩ := Option.ite_none_right_eq_some.mp h
    obtain rfl := Option.some.inj h
    unfold Transport.continueIf
    split
    · next hok =>
      rw [Bool.and_eq_true, Transport.passes_iff] at hok
      unfold Transport.spawn
      split
      · next hroom => exact .spawned hserving hok.2.1 hroom
      · exact .stay
    · exact .left hserving
  | poll id =>
    obtain ⟨f, hf, rfl⟩ := Option.map_eq_some_iff.mp h
    obtain ⟨hlookup, hstage⟩ := Forwards.find_eq_some.mp hf
    exact .polled id f hlookup hstage
  | check id look =>
    obtain ⟨f, hf, rfl⟩ := Option.map_eq_some_iff.mp h
    obtain ⟨hlookup, hstage⟩ := Forwards.find_eq_some.mp hf
    split
    · next hpass =>
      obtain ⟨hactive, hconfirms⟩ := Transport.passes_iff.mp hpass
      exact .checked id f look hlookup hstage hactive hconfirms
    · exact .yielded id f .done hlookup rfl
  | connect id bound =>
    obtain ⟨f, hf, rfl⟩ := Option.map_eq_some_iff.mp h
    obtain ⟨hlookup, hstage⟩ := Forwards.find_eq_some.mp hf
    split
    · exact .connected id f hlookup hstage
    · exact .yielded id f .done hlookup rfl
  | settle id opened look =>
    obtain ⟨f, hf, rfl⟩ := Option.map_eq_some_iff.mp h
    obtain ⟨hlookup, -⟩ := Forwards.find_eq_some.mp hf
    refine .yielded id f _ hlookup ?_
    split <;> rfl
  | closed id =>
    obtain ⟨f, hf, rfl⟩ := Option.map_eq_some_iff.mp h
    obtain ⟨hlookup, -⟩ := Forwards.find_eq_some.mp hf
    exact .yielded id f .done hlookup rfl
  | retire =>
    obtain ⟨hserving, h⟩ := Option.ite_none_right_eq_some.mp h
    obtain rfl := Option.some.inj h
    exact .retired hserving
  | shutdown =>
    obtain rfl := Option.some.inj h
    exact .shutdown
  | dropped =>
    obtain ⟨⟨haborting, hserving⟩, h⟩ := Option.ite_none_right_eq_some.mp h
    obtain rfl := Option.some.inj h
    exact .dropped haborting hserving
  | readiness look =>
    obtain rfl := Option.some.inj h
    exact .readiness look

namespace Change

variable {s s' : Transport}

theorem path_eq (h : Change s s') : s'.gate.path = s.gate.path := by cases h <;> rfl

theorem destination_eq (h : Change s s') : s'.destination = s.destination := by cases h <;> rfl

/-- A closed gate stays closed. -/
theorem inactive (h : Change s s') (hs : s.gate.active = false) : s'.gate.active = false := by
  cases h <;> first | exact hs | rfl

theorem left_loop (h : Change s s') (hs : s.serving ≠ .serving) : s'.serving ≠ .serving := by
  cases h <;> first | exact hs | exact nofun

theorem card_le (h : Change s s') (hs : s.forwards.keys.card ≤ maxConnections) :
    s'.forwards.keys.card ≤ maxConnections := by
  cases h with
  | stay => exact hs
  | left => exact Forwards.card_dropped_le.trans hs
  | dropped => exact Forwards.card_dropped_le.trans hs
  | spawned _ _ hroom =>
    refine le_trans ?_ (Nat.succ_le_of_lt hroom)
    rw [FiniteMap.keys_insert]
    exact Finset.card_insert_le _ _
  | joined id =>
    rw [FiniteMap.keys_erase]
    exact Finset.card_erase_le.trans hs
  | polled id f hf => exact (Forwards.card_move_le hf).trans hs
  | checked id f look hf => exact (Forwards.card_move_le hf).trans hs
  | connected id f hf => exact (Forwards.card_move_le hf).trans hs
  | yielded id f stage hf => exact (Forwards.card_move_le hf).trans hs
  | retired => exact hs
  | shutdown => exact hs
  | readiness => exact hs

end Change

/-- How the parts of a transport depend on the stage of the serving task. -/
structure Orderly (s : Transport) : Prop where
  aborting : s.aborting = true → s.gate.active = false
  finished : s.serving = .finished → s.gate.active = false
  ended : s.serving ≠ .serving →
    s.forwards.All fun _ f => f.aborted = true ∧ f.stage.inSegment = true

theorem Orderly.change {s s' : Transport} (h : Orderly s) (hc : Change s s') : Orderly s' := by
  have hdropped : s.forwards.dropped.All fun _ f => f.aborted = true ∧ f.stage.inSegment = true :=
    Forwards.All.dropped (P := fun _ _ => True) (fun _ _ _ => trivial) fun _ _ _ hseg => ⟨rfl, hseg⟩
  cases hc with
  | stay => exact h
  | left => exact ⟨h.aborting, nofun, fun _ => hdropped⟩
  | dropped haborting => exact ⟨h.aborting, fun _ => h.aborting haborting, fun _ => hdropped⟩
  | spawned hserving => exact ⟨h.aborting, h.finished, fun hended => absurd hserving hended⟩
  | joined id => exact ⟨h.aborting, h.finished, fun hended => (h.ended hended).erase⟩
  | polled id f hf =>
    refine ⟨h.aborting, h.finished, fun hended => (h.ended hended).move fun _ => ⟨?_, rfl⟩⟩
    exact (h.ended hended id f hf).1
  | checked id f look hf =>
    refine ⟨h.aborting, h.finished, fun hended => (h.ended hended).move fun _ => ⟨?_, rfl⟩⟩
    exact (h.ended hended id f hf).1
  | connected id f hf =>
    refine ⟨h.aborting, h.finished, fun hended => (h.ended hended).move fun hseg => ?_⟩
    exact absurd (hseg (h.ended hended id f hf).1) (by decide)
  | yielded id f stage hf hstage =>
    refine ⟨h.aborting, h.finished, fun hended => (h.ended hended).move fun hseg => ?_⟩
    exact absurd (hseg (h.ended hended id f hf).1) (by simp [hstage])
  | retired hserving => exact ⟨fun _ => rfl, fun _ => rfl, fun _ => h.ended (by simp [hserving])⟩
  | shutdown => exact ⟨fun _ => rfl, fun _ => rfl, h.ended⟩
  | readiness => exact ⟨h.aborting, h.finished, h.ended⟩

/-- A check of the forward passed. -/
def CheckedIn (path : ReadyPath) (id : ℕ) (log : List Entry) : Prop :=
  ∃ look, Entry.checked id look ∈ log ∧ look.Confirms path

/-- What a transport started as `t` keeps. -/
structure Sound (t s : Transport) : Prop where
  path : s.gate.path = t.gate.path
  destination : s.destination = t.destination
  card : s.forwards.keys.card ≤ maxConnections
  checked : s.forwards.All fun id f => f.stage = .checked → CheckedIn t.gate.path id s.log
  connects : ∀ before id c after, s.log = before ++ .connect id c :: after →
    c = t.route ∧ CheckedIn t.gate.path id before

/-- An entry at the end of the log keeps the law of the connects. -/
theorem connects_concat {t : Transport} {log : List Entry} {e : Entry}
    (h : ∀ before id c after, log = before ++ .connect id c :: after →
      c = t.route ∧ CheckedIn t.gate.path id before)
    (he : ∀ id c, e = .connect id c → c = t.route ∧ CheckedIn t.gate.path id log)
    (before : List Entry) (id : ℕ) (c : Connect) (after : List Entry)
    (hsplit : log ++ [e] = before ++ .connect id c :: after) :
    c = t.route ∧ CheckedIn t.gate.path id before := by
  rcases append_cons_eq_concat.mp hsplit with ⟨-, hc, rfl⟩ | ⟨rest, -, hlog⟩
  · exact he id c hc.symm
  · exact h before id c rest hlog

theorem CheckedIn.concat {path : ReadyPath} {id : ℕ} {log : List Entry} (e : Entry)
    (h : CheckedIn path id log) : CheckedIn path id (log ++ [e]) := by
  obtain ⟨look, hmem, hconfirms⟩ := h
  exact ⟨look, List.mem_append_left _ hmem, hconfirms⟩

theorem Sound.change {t s s' : Transport} (h : Sound t s) (hc : Change s s') : Sound t s' := by
  have hpath := hc.path_eq.trans h.path
  have hdestination := hc.destination_eq.trans h.destination
  have hcard := hc.card_le h.card
  have hdropped : s.forwards.dropped.All
      fun id f => f.stage = .checked → CheckedIn t.gate.path id s.log :=
    h.checked.dropped fun _ _ hf _ => hf
  cases hc with
  | stay => exact h
  | left => exact ⟨hpath, hdestination, hcard, hdropped, h.connects⟩
  | dropped => exact ⟨hpath, hdestination, hcard, hdropped, h.connects⟩
  | spawned => exact ⟨hpath, hdestination, hcard, h.checked.insert nofun, h.connects⟩
  | joined id => exact ⟨hpath, hdestination, hcard, h.checked.erase, h.connects⟩
  | polled id f hf =>
    exact ⟨hpath, hdestination, hcard, h.checked.move fun _ => nofun, h.connects⟩
  | checked id f look hf hstage hactive hconfirms =>
    refine ⟨hpath, hdestination, hcard, ?_, connects_concat h.connects nofun⟩
    refine Forwards.All.move (fun i g hg hchecked => (h.checked i g hg hchecked).concat _) ?_
    exact fun _ _ => ⟨look, List.mem_append_right _ (List.mem_singleton_self _), h.path ▸ hconfirms⟩
  | connected id f hf hstage =>
    refine ⟨hpath, hdestination, hcard, ?_, connects_concat h.connects ?_⟩
    · refine Forwards.All.move (fun i g hg hchecked => (h.checked i g hg hchecked).concat _) ?_
      exact fun _ => nofun
    · rintro _ _ ⟨⟩
      refine ⟨?_, h.checked id f hf hstage⟩
      rw [Transport.route, Transport.route, h.path, h.destination]
  | yielded id f stage hf hstage =>
    refine ⟨hpath, hdestination, hcard, h.checked.move fun _ hchecked => ?_, h.connects⟩
    rw [show stage = .checked from hchecked] at hstage
    cases hstage
  | retired => exact ⟨hpath, hdestination, hcard, h.checked, h.connects⟩
  | shutdown => exact ⟨hpath, hdestination, hcard, h.checked, h.connects⟩
  | readiness look =>
    refine ⟨hpath, hdestination, hcard, ?_, connects_concat h.connects nofun⟩
    exact fun id f hf hchecked => (h.checked id f hf hchecked).concat _

/-! ### After the end -/

/-- The entries of a log beyond an earlier one satisfy the assertion. -/
def Beyond (P : Entry → Prop) (old log : List Entry) : Prop :=
  ∃ new, log = old ++ new ∧ ∀ e ∈ new, P e

theorem Beyond.refl {P : Entry → Prop} (log : List Entry) : Beyond P log log :=
  ⟨[], by simp, by simp⟩

theorem Beyond.concat {P : Entry → Prop} {old log : List Entry} {e : Entry}
    (h : Beyond P old log) (he : P e) : Beyond P old (log ++ [e]) := by
  obtain ⟨new, rfl, hnew⟩ := h
  refine ⟨new ++ [e], by simp, fun e' hmem => ?_⟩
  rcases List.mem_append.mp hmem with hmem | hmem
  · exact hnew e' hmem
  · exact List.mem_singleton.mp hmem ▸ he

/-- Behind a closed gate only a forward that was checked before connects, and every reading of
the readiness is negative. -/
def Entry.Late (s : Transport) : Entry → Prop
  | .connect id _ => ∃ f, s.forwards.lookup id = some f ∧ f.stage = .checked
  | .readiness reply => reply = false
  | .checked _ _ => True

/-- Behind the loop only a forward that ran in it connects. -/
def Entry.Straggling (s : Transport) : Entry → Prop
  | .connect id _ => ∃ f, s.forwards.lookup id = some f ∧ f.stage.inSegment = true
  | _ => True

/-- What a transport keeps once the gate of `s₁` is closed. -/
structure Closed (s₁ s : Transport) : Prop where
  inactive : s.gate.active = false
  checked : s.forwards.All fun id f => f.stage = .checked →
    ∃ g, s₁.forwards.lookup id = some g ∧ g.stage = .checked
  log : Beyond (Entry.Late s₁) s₁.log s.log

theorem Closed.change {s₁ s s' : Transport} (h : Closed s₁ s) (hc : Change s s') :
    Closed s₁ s' := by
  have hinactive := hc.inactive h.inactive
  have hdropped : s.forwards.dropped.All fun id f => f.stage = .checked →
      ∃ g, s₁.forwards.lookup id = some g ∧ g.stage = .checked :=
    h.checked.dropped fun _ _ hf _ => hf
  cases hc with
  | stay => exact h
  | left => exact ⟨hinactive, hdropped, h.log⟩
  | dropped => exact ⟨hinactive, hdropped, h.log⟩
  | spawned => exact ⟨hinactive, h.checked.insert nofun, h.log⟩
  | joined id => exact ⟨hinactive, h.checked.erase, h.log⟩
  | polled id f => exact ⟨hinactive, h.checked.move fun _ => nofun, h.log⟩
  | checked id f look hf hstage hactive =>
    -- a closed gate passes no check
    rw [h.inactive] at hactive
    cases hactive
  | connected id f hf hstage =>
    refine ⟨hinactive, h.checked.move fun _ => nofun, h.log.concat ?_⟩
    exact h.checked id f hf hstage
  | yielded id f stage hf hstage =>
    refine ⟨hinactive, h.checked.move fun _ hchecked => ?_, h.log⟩
    rw [show stage = .checked from hchecked] at hstage
    cases hstage
  | retired => exact ⟨hinactive, h.checked, h.log⟩
  | shutdown => exact ⟨hinactive, h.checked, h.log⟩
  | readiness look =>
    exact ⟨hinactive, h.checked, h.log.concat (Transport.passes_eq_false h.inactive)⟩

/-- What a transport keeps once the loop of `s₁` is left. -/
structure Left (s₁ s : Transport) : Prop where
  behind : s.serving ≠ .serving
  running : s.forwards.All fun id _ =>
    ∃ g, s₁.forwards.lookup id = some g ∧ g.stage.inSegment = true
  log : Beyond (Entry.Straggling s₁) s₁.log s.log

theorem Left.change {s₁ s s' : Transport} (h : Left s₁ s) (hc : Change s s') : Left s₁ s' := by
  have hbehind := hc.left_loop h.behind
  cases hc with
  | stay => exact h
  | left hserving => exact absurd hserving h.behind
  | dropped _ hserving => exact absurd hserving h.behind
  | spawned hserving => exact absurd hserving h.behind
  | joined id => exact ⟨hbehind, h.running.erase, h.log⟩
  | polled id f hf => exact ⟨hbehind, h.running.move fun _ => h.running id f hf, h.log⟩
  | checked id f look hf =>
    exact ⟨hbehind, h.running.move fun _ => h.running id f hf, h.log.concat trivial⟩
  | connected id f hf =>
    exact ⟨hbehind, h.running.move fun _ => h.running id f hf, h.log.concat (h.running id f hf)⟩
  | yielded id f stage hf => exact ⟨hbehind, h.running.move fun _ => h.running id f hf, h.log⟩
  | retired => exact ⟨hbehind, h.running, h.log⟩
  | shutdown => exact ⟨hbehind, h.running, h.log⟩
  | readiness look => exact ⟨hbehind, h.running, h.log.concat trivial⟩

/-! ### The law of the transport -/

/-- A start reads the verified address from the URL and checks the path once more. -/
theorem start_eq_ok {U : UrlParser} {url : String} {ready : Fallible ReadyPath} {look : Look}
    {listener : Fallible Unit} {t : Transport} (h : start U url ready look listener = .ok t) :
    ∃ path endpoint ip, ready = .ok path ∧ U.parse url = some endpoint ∧
      Ipv4Addr.parse path.target.ip = some ip ∧
      endpoint.hostStr.bind Ipv4Addr.parse = some ip ∧ look.Confirms path ∧
      t = { gate := ⟨path, true⟩, destination := ⟨ip, endpoint.port.getD 554⟩ } := by
  unfold start at h
  split at h
  · cases h
  next path =>
  split at h
  · cases h
  next endpoint hparse =>
  split at h
  · cases h
  next ip hip =>
  split at h
  · cases h
  next hmatch =>
  simp only [not_or, ne_eq, not_not] at hmatch
  dsimp only at h
  split at h
  · cases h
  · cases h
  next _ _ _ hcheck =>
  obtain rfl := Except.ok.inj h
  exact ⟨path, endpoint, ip, rfl, hparse, hip, hmatch.2.1, (Gate.check_eq_ok.mp hcheck).2, rfl⟩

theorem sound_start (gate : Gate) (destination : SocketAddrV4) :
    let t : Transport := { gate := gate, destination := destination }
    Sound t t ∧ Orderly t := by
  refine ⟨⟨rfl, rfl, by simp, ?_, by simp⟩, ⟨nofun, nofun, fun h => absurd rfl h⟩⟩
  intro id f hf
  simp at hf

theorem reachable_sound (gate : Gate) (destination : SocketAddrV4) {s : Transport}
    (h : (machine { gate := gate, destination := destination }).Reachable s) :
    Sound { gate := gate, destination := destination } s ∧ Orderly s := by
  induction h with
  | initial => exact sound_start gate destination
  | step _ _ hstep ih => exact ⟨ih.1.change (step_cases hstep), ih.2.change (step_cases hstep)⟩

def cameraPath : ReadyPath where
  target := ⟨"02:00:5e:10:00:0b", some "02:00:5e:10:00:0b", "192.168.1.204"⟩
  source := ⟨192, 168, 1, 5⟩
  index := 7
  fence := 0

def liveLook : Look := ⟨false, .ok cameraPath, false⟩

def cameraUrls : UrlParser where
  parse := fun url =>
    if url = "rtsp://192.168.1.204/live" then some ⟨"rtsp", some "192.168.1.204", none⟩ else none

def cameraTransport : Transport :=
  { gate := ⟨cameraPath, true⟩, destination := ⟨⟨192, 168, 1, 204⟩, 554⟩ }

theorem start_camera : start cameraUrls "rtsp://192.168.1.204/live" (.ok cameraPath) liveLook
    (.ok ()) = .ok cameraTransport := by
  rfl

/-- The events of one accepted connection up to its connect. -/
def connectEvents : List Event :=
  [.accepted true liveLook, .poll 0, .check 0 liveLook, .connect 0 true]

theorem log_connectEvents : ((machine cameraTransport).run cameraTransport connectEvents).map
    Transport.log = some [.checked 0 liveLook, .connect 0 cameraTransport.route] := rfl

def failedLook : Look := ⟨false, .error (.network "Camera proof expired"), false⟩

end BoundTcp

end PocketStream
