import PocketStream.Binding.BindingStore
import PocketStream.Binding.ReconcileTruth
import PocketStream.Config.Ownership

/-! # Exported routes

An exported route has a row in memory that asks for it and was observed in
place. The settings hold the same row and address, but for the one subnet that
the running writer has saved and publishes with its next access.
-/

namespace PocketStream

open Foundation Program World

namespace BindingStore

variable {N : Type} {net : IpNetwork N} {w : State} {subnet : String} {row : AdoptedMeta}

def Exported (w : State) (subnet address : String) : Prop :=
  (adoptedConfigSnapshot w).1.lookup subnet = some address

instance (w : State) (subnet address : String) : Decidable (Exported w subnet address) :=
  inferInstanceAs (Decidable (_ = _))

/-- The rows agree but for their last evidence. -/
def SameRow (a b : AdoptedMeta) : Prop :=
  { a with lastDeviceSeen := none } = { b with lastDeviceSeen := none }

/-- The settings hold the row of the subnet, and its address. -/
def Durable (w : State) (subnet address : String) : Prop :=
  ∃ row saved, w.adoptedMeta.lookup subnet = some row ∧
    w.settings.adoptedMeta.lookup subnet = some saved ∧ SameRow saved row ∧
    saved.desired = .present ∧ w.settings.adoptedSubnets.lookup subnet = some address

/-- The access takes the subnet's route down or replaces its row. -/
def Effect.publishes : Effect → String → Prop
  | publishRow s _ | retireLive s | recordRow s _ | retireRow s => fun subnet => subnet = s
  | _ => fun _ => False

/-- What is exported is durable, apart from lagging subnets. -/
structure Sound (lagging : String → Prop) (w : State) : Prop where
  aligned : ∀ subnet, w.settings.adoptedMeta.lookup subnet = none →
    w.settings.adoptedSubnets.lookup subnet = none
  durable : ∀ subnet address, Exported w subnet address → ¬ lagging subnet →
    Durable w subnet address

/-- Nothing lags. -/
abbrev Settled : State → Prop := Sound fun _ => False

def Stop (e : Effect) (w : State) : Prop := Sound e.publishes w

/-! ### The export -/

theorem exported_iff {address : String} : Exported w subnet address ↔
    ∃ ip row, w.adoptedIps.lookup subnet = some ip ∧ w.adoptedMeta.lookup subnet = some row ∧
      routes row ip = true ∧ ip.toText = address := by
  rw [Exported, adoptedConfigSnapshot, mergeAdoptedConfig, FiniteMap.lookup_tabulate]
  split
  · split
    · next ip row hip hrow => simp [hip, hrow]
    · next hnone =>
      simp only [reduceCtorEq, false_iff]
      rintro ⟨ip, row, hip, hrow, -⟩
      exact hnone ip row hip hrow
  · next hk =>
    simp only [reduceCtorEq, false_iff]
    rintro ⟨ip, row, hip, -⟩
    rw [FiniteMap.lookup_eq_none_of_notMem_keys hk] at hip
    cases hip

theorem routes_iff {ip : Ipv4Addr} : routes row ip = true ↔
    row.desired = .present ∧ row.applied = true ∧ row.address = some ip.toText ∧
      row.lastError = none := by
  simp [routes, and_assoc]

theorem confirmed_of_routes {ip : Ipv4Addr} (h : routes row ip = true) : row.confirmed = true := by
  obtain ⟨hd, happ, -, herr⟩ := routes_iff.mp h
  simp [AdoptedMeta.confirmed, hd, happ, herr]

theorem SameRow.desired {a b : AdoptedMeta} (h : SameRow a b) : a.desired = b.desired := by
  unfold SameRow at h
  have hd := congrArg AdoptedMeta.desired h
  exact hd

theorem Sound.mono {lagging lagging' : String → Prop} (h : Sound lagging w)
    (hle : ∀ subnet, lagging subnet → lagging' subnet) : Sound lagging' w :=
  ⟨h.aligned, fun subnet address he hn => h.durable subnet address he fun hl => hn (hle subnet hl)⟩

theorem Sound.lag {lagging : String → Prop} (h : Settled w) : Sound lagging w :=
  h.mono fun _ => False.elim

/-! ### Changes of one subnet -/

/-- The two states agree on every other subnet. -/
structure SameElsewhere (subnet : String) (w w' : State) : Prop where
  saved : ∀ k ≠ subnet, w'.settings.adoptedMeta.lookup k = w.settings.adoptedMeta.lookup k
  addresses : ∀ k ≠ subnet,
    w'.settings.adoptedSubnets.lookup k = w.settings.adoptedSubnets.lookup k
  live : ∀ k ≠ subnet, w'.adoptedIps.lookup k = w.adoptedIps.lookup k
  rows : ∀ k ≠ subnet, w'.adoptedMeta.lookup k = w.adoptedMeta.lookup k

theorem Sound.update {lagging lagging' : String → Prop} {w' : State} (h : Sound lagging w)
    (hsame : SameElsewhere subnet w w') (hle : ∀ k ≠ subnet, lagging k → lagging' k)
    (haligned : w'.settings.adoptedMeta.lookup subnet = none →
      w'.settings.adoptedSubnets.lookup subnet = none)
    (hdurable : ∀ address, Exported w' subnet address → ¬ lagging' subnet →
      Durable w' subnet address) : Sound lagging' w' := by
  constructor
  · intro k hk
    by_cases he : k = subnet
    · exact he ▸ haligned (he ▸ hk)
    · rw [hsame.addresses k he]
      exact h.aligned k (hsame.saved k he ▸ hk)
  · intro k address hexp hn
    by_cases he : k = subnet
    · subst he
      exact hdurable address hexp hn
    · rw [exported_iff, hsame.live k he, hsame.rows k he, ← exported_iff] at hexp
      have hd := h.durable k address hexp fun hl => hn (hle k he hl)
      rwa [Durable, hsame.rows k he, hsame.saved k he, hsame.addresses k he]

/-- What a confirmed row says is saved. -/
def Published (subnet : String) (row : AdoptedMeta) (w : State) : Prop :=
  row.confirmed = true → ∃ saved, w.settings.adoptedMeta.lookup subnet = some saved ∧
    SameRow saved row ∧ w.settings.adoptedSubnets.lookup subnet = row.address

/-- A row that is saved if it is confirmed may be recorded, whatever becomes of its route. -/
theorem Sound.recorded (h : Sound (· = subnet) w) (hsaved : Published subnet row w)
    {live : FiniteMap String Ipv4Addr}
    (hlive : ∀ k ≠ subnet, live.lookup k = w.adoptedIps.lookup k) :
    Settled { w with adoptedIps := live, adoptedMeta := w.adoptedMeta.insert subnet row } := by
  refine h.update ⟨fun _ _ => rfl, fun _ _ => rfl, hlive, fun k hk => ?_⟩ (fun k hk he => hk he)
    (h.aligned subnet) fun address hexp _ => ?_
  · exact Finmap.lookup_insert_of_ne _ hk
  · obtain ⟨ip, r, -, hr, hroutes, rfl⟩ := exported_iff.mp hexp
    obtain rfl : row = r := Option.some.inj ((Finmap.lookup_insert _).symm.trans hr)
    obtain ⟨hd, -, haddress, -⟩ := routes_iff.mp hroutes
    obtain ⟨saved, hlookup, hsame, hroute⟩ := hsaved (confirmed_of_routes hroutes)
    exact ⟨row, saved, hr, hlookup, hsame, hsame.desired.trans hd, hroute.trans haddress⟩

/-- A subnet without a route, or without a row, is not exported. -/
theorem Sound.retired {w' : State} (h : Sound (· = subnet) w) (hsame : SameElsewhere subnet w w')
    (hsettings : w'.settings = w.settings)
    (hnone : w'.adoptedIps.lookup subnet = none ∨ w'.adoptedMeta.lookup subnet = none) :
    Settled w' := by
  refine h.update hsame (fun k hk he => hk he) (hsettings ▸ h.aligned subnet) fun address hexp => ?_
  obtain ⟨ip, row, hip, hrow, -⟩ := exported_iff.mp hexp
  obtain hn | hn := hnone
  · exact absurd (hip.symm.trans hn) nofun
  · exact absurd (hrow.symm.trans hn) nofun

/-! ### Saves -/

theorem State.save_cases (w : State)
    (change : AppSettings → Fallible (Unit × Bool × AppSettings)) (saved : Fallible Unit) :
    (∃ e, w.save change saved = (.error e, w)) ∨
      ∃ changed next, change w.settings = .ok ((), changed, next) ∧
        w.save change saved =
          (.ok (), { w with settings := if changed then next else w.settings }) := by
  unfold State.save BindingStore.save changeSettingsIfWith
  split
  · exact .inl ⟨_, rfl⟩
  · next changed next hchange =>
    cases changed with
    | false => exact .inr ⟨false, next, hchange, rfl⟩
    | true =>
      cases saved with
      | error e => exact .inl ⟨e, rfl⟩
      | ok u => exact .inr ⟨true, next, hchange, rfl⟩

theorem always_ok {change : AppSettings → Fallible (Unit × AppSettings)} {s next : AppSettings}
    {changed : Bool} (h : always change s = .ok ((), changed, next)) :
    changed = true ∧ change s = .ok ((), next) := by
  unfold always at h
  cases hc : change s with
  | error e => simp [hc, Except.map] at h
  | ok p =>
    obtain ⟨u, made⟩ := p
    simp only [hc, Except.map, Except.ok.injEq, Prod.mk.injEq] at h
    obtain ⟨-, rfl, rfl⟩ := h
    exact ⟨rfl, rfl⟩

/-- The row is saved, and lags until it is published. -/
structure Saved (subnet : String) (row : AdoptedMeta) (w w' : State) : Prop where
  lags : Sound (· = subnet) w'
  live : w'.adoptedIps = w.adoptedIps
  rows : w'.adoptedMeta = w.adoptedMeta
  held : w'.settings.adoptedMeta.lookup subnet = some row
  route : w.settings.adoptedMeta.lookup subnet = some row ∧
      w'.settings.adoptedSubnets.lookup subnet = w.settings.adoptedSubnets.lookup subnet ∨
    w'.settings.adoptedSubnets.lookup subnet =
      AppSettings.exportedAfter row (w.settings.adoptedSubnets.lookup subnet)

theorem save_binding (h : Settled w) (row : AdoptedMeta) (forceIntent : Bool)
    (saved : Fallible Unit) :
    (∃ e, w.save (AppSettings.setBindingForOperation subnet row forceIntent) saved =
        (.error e, w)) ∨
      ∃ w', w.save (AppSettings.setBindingForOperation subnet row forceIntent) saved =
        (.ok (), w') ∧ Saved subnet row w w' := by
  obtain hfailed | ⟨changed, next, hset, hsaved⟩ := w.save_cases
    (AppSettings.setBindingForOperation subnet row forceIntent) saved
  · exact .inl hfailed
  · refine .inr ⟨_, hsaved, ?_⟩
    obtain ⟨rfl, hrow⟩ | ⟨rfl, -, haddresses, hrows⟩ := AppSettings.setBinding_spec hset
    · exact ⟨h.lag, rfl, rfl, hrow, .inl ⟨hrow, rfl⟩⟩
    · have hrow : next.adoptedMeta.lookup subnet = some row := (hrows subnet).trans (if_pos rfl)
      refine ⟨?_, rfl, rfl, hrow, .inr ((haddresses subnet).trans (if_pos rfl))⟩
      refine h.update ⟨fun k hk => (hrows k).trans (if_neg hk),
        fun k hk => (haddresses k).trans (if_neg hk), fun _ _ => rfl, fun _ _ => rfl⟩
        (fun _ _ => False.elim) (fun hn => ?_) fun _ _ hn => absurd rfl hn
      exact absurd (hrow.symm.trans hn) nofun

/-- A forgotten row lags until it is retired. -/
theorem save_forget (h : Settled w) {change : AppSettings → Fallible (Unit × AppSettings)}
    (hchange : ∀ next, change w.settings = .ok ((), next) →
      next.adoptedMeta = w.settings.adoptedMeta.erase subnet ∧
      next.adoptedSubnets.lookup subnet = none ∧ ∀ k ≠ subnet,
        next.adoptedSubnets.lookup k = w.settings.adoptedSubnets.lookup k)
    (saved : Fallible Unit) :
    (∃ e, w.save (always change) saved = (.error e, w)) ∨
      ∃ w', w.save (always change) saved = (.ok (), w') ∧ Sound (· = subnet) w' ∧
        w'.settings.adoptedMeta.lookup subnet = none := by
  obtain hfailed | ⟨changed, next, hmade, hsaved⟩ := w.save_cases (always change) saved
  · exact .inl hfailed
  · obtain ⟨rfl, hforget⟩ := always_ok hmade
    obtain ⟨hrows, hroute, haddresses⟩ := hchange next hforget
    refine .inr ⟨_, hsaved, ?_, ?_⟩
    · refine h.update ⟨fun k hk => ?_, haddresses, fun _ _ => rfl, fun _ _ => rfl⟩
        (fun _ _ => False.elim) (fun _ => hroute) fun _ _ hn => absurd rfl hn
      change next.adoptedMeta.lookup k = _
      rw [hrows, FiniteMap.lookup_erase, if_neg hk]
    · change next.adoptedMeta.lookup subnet = none
      rw [hrows, FiniteMap.lookup_erase, if_pos rfl]

/-! ### Interference -/

/-- What runs between two accesses changes nothing of a binding but its last evidence. -/
structure Restamped (w w' : State) : Prop where
  live : w'.adoptedIps = w.adoptedIps
  addresses : w'.settings.adoptedSubnets = w.settings.adoptedSubnets
  saved : ∀ k, ∃ stamp : AdoptedMeta → AdoptedMeta, (∀ row, SameRow (stamp row) row) ∧
    w'.settings.adoptedMeta.lookup k = (w.settings.adoptedMeta.lookup k).map stamp
  rows : ∀ k row', w'.adoptedMeta.lookup k = some row' →
    (∃ row, w.adoptedMeta.lookup k = some row ∧ SameRow row row') ∨ row'.address = none

theorem saved_same (w : State) (k : String) : ∃ stamp : AdoptedMeta → AdoptedMeta,
    (∀ row, SameRow (stamp row) row) ∧
      w.settings.adoptedMeta.lookup k = (w.settings.adoptedMeta.lookup k).map stamp :=
  ⟨id, fun _ => rfl, Option.map_id_apply.symm⟩

theorem rows_same (w : State) (k : String) (row' : AdoptedMeta)
    (h : w.adoptedMeta.lookup k = some row') :
    (∃ row, w.adoptedMeta.lookup k = some row ∧ SameRow row row') ∨ row'.address = none :=
  .inl ⟨row', h, rfl⟩

theorem restamped_interfere (w : State) (i : Interference) : Restamped w (interfere w i) := by
  cases i with
  | settings next => exact ⟨rfl, rfl, saved_same w, rows_same w⟩
  | noteLiveness subnet wall =>
    simp only [interfere]
    split
    · refine ⟨rfl, rfl, saved_same w, fun k row' hrow' => ?_⟩
      rw [FiniteMap.lookup_insert] at hrow'
      split at hrow'
      · next hk =>
        subst hk
        obtain rfl := Option.some.inj hrow'
        cases hrow : w.adoptedMeta.lookup k with
        | none => exact .inr rfl
        | some row => exact .inl ⟨row, rfl, rfl⟩
      · exact .inl ⟨row', hrow', rfl⟩
    · exact ⟨rfl, rfl, saved_same w, rows_same w⟩
  | flush rows saved =>
    simp only [interfere]
    obtain ⟨e, he⟩ | ⟨changed, next, hmade, hsaved⟩ :=
      w.save_cases (always (AppSettings.updateAdoptionLiveness rows)) saved
    · rw [he]
      exact ⟨rfl, rfl, saved_same w, rows_same w⟩
    · obtain ⟨rfl, hflush⟩ := always_ok hmade
      cases hflush
      rw [hsaved]
      refine ⟨rfl, rfl, fun k => ⟨_, fun row => ?_, FiniteMap.lookup_mapValues _ _ k⟩, rows_same w⟩
      split
      · rfl
      · split <;> rfl

theorem SameRow.routes {a b : AdoptedMeta} (h : SameRow a b) (ip : Ipv4Addr) :
    routes a ip = routes b ip := by
  unfold SameRow at h
  have hr := congrArg (BindingStore.routes · ip) h
  exact hr

theorem Restamped.exported {w' : State} (h : Restamped w w') {address : String}
    (hexp : Exported w' subnet address) : ∃ row row', w.adoptedMeta.lookup subnet = some row ∧
      w'.adoptedMeta.lookup subnet = some row' ∧ SameRow row row' ∧
      Exported w subnet address := by
  obtain ⟨ip, row', hip, hrow', hroutes, rfl⟩ := exported_iff.mp hexp
  rw [h.live] at hip
  obtain ⟨row, hrow, hsame⟩ | hnone := h.rows subnet row' hrow'
  · exact ⟨row, row', hrow, hrow', hsame,
      exported_iff.mpr ⟨ip, row, hip, hrow, (hsame.routes ip).trans hroutes, rfl⟩⟩
  · simp [routes, hnone] at hroutes

theorem Sound.restamped {lagging : String → Prop} {w' : State} (h : Sound lagging w)
    (hr : Restamped w w') : Sound lagging w' := by
  constructor
  · intro k hk
    obtain ⟨stamp, -, hstamp⟩ := hr.saved k
    rw [hr.addresses]
    exact h.aligned k (Option.map_eq_none_iff.mp (hstamp ▸ hk))
  · intro k address hexp hn
    obtain ⟨row, row', hrow, hrow', hsame, hbefore⟩ := hr.exported hexp
    obtain ⟨r, saved, hlookup, hsaved, hagree, hd, hroute⟩ := h.durable k address hbefore hn
    obtain rfl : row = r := Option.some.inj (hrow.symm.trans hlookup)
    obtain ⟨stamp, hstamp, hmap⟩ := hr.saved k
    refine ⟨row', stamp saved, hrow', by rw [hmap, hsaved]; rfl,
      ((hstamp saved).trans hagree).trans hsame, (hstamp saved).desired.trans hd, ?_⟩
    rw [hr.addresses, hroute]

theorem stable_sound {lagging : String → Prop} : (world net).Stable (Sound lagging) :=
  fun w i h => h.restamped (restamped_interfere w i)

theorem stable_published : (world net).Stable (Published subnet row) := by
  intro w i h hc
  have hr := restamped_interfere w i
  obtain ⟨saved, hsaved, hsame, hroute⟩ := h hc
  obtain ⟨stamp, hstamp, hmap⟩ := hr.saved subnet
  refine ⟨stamp saved, ?_, (hstamp saved).trans hsame, (congrArg _ hr.addresses).trans hroute⟩
  exact hmap.trans (by rw [hsaved]; rfl)

theorem stable_unsaved :
    (world net).Stable fun w => w.settings.adoptedMeta.lookup subnet = none := by
  intro w i h
  obtain ⟨stamp, -, hmap⟩ := (restamped_interfere w i).saved subnet
  exact hmap.trans (by rw [h]; rfl)

/-! ### The observed row -/

theorem applyBinding_fields (a : Answers) (row : AdoptedMeta) (action : BindingAction)
    (iface : Option InterfaceInfo) (read : List IpInfo → Fallible (List IpInfo)) (t : Trace) :
    ((applyBinding a.ops row action iface (a.observe read)).run t).1.desired = row.desired ∧
      ((applyBinding a.ops row action iface (a.observe read)).run t).1.address = row.address := by
  have hconfirm := fun r => confirmOwner_fields iface r
  cases action with
  | unavailable reason =>
    simp only [applyBinding]
    split
    · exact ⟨rfl, rfl⟩
    · exact ⟨(hconfirm _).1, (hconfirm _).2.2.1⟩
  | hold reason applied => exact ⟨(hconfirm _).1, (hconfirm _).2.2.1⟩
  | observed applied => exact ⟨(hconfirm _).1, (hconfirm _).2.2.1⟩
  | add ip prefixLen =>
    cases iface with
    | none => exact ⟨rfl, rfl⟩
    | some adapter => exact ⟨(hconfirm _).1, (hconfirm _).2.2.1⟩
  | remove ip =>
    cases iface with
    | none => exact ⟨rfl, rfl⟩
    | some adapter => exact ⟨(hconfirm _).1, (hconfirm _).2.2.1⟩

/-- A row is confirmed only where the exported address is its own. -/
theorem observedRow_confirmed {site : CallSite} {snapshot : Fallible (Snapshot N)}
    {mode : NetworkMode} {exported : Option String} {a : Answers}
    (h : (observedRow net site subnet row snapshot mode exported a).confirmed = true) :
    exported = (observedRow net site subnet row snapshot mode exported a).address := by
  obtain ⟨hdesired, haddress⟩ := applyBinding_fields a row
    (rowAction net subnet row snapshot mode exported) (snapshot.toOption.map (·.iface))
    (site.read row) {}
  simp only [AdoptedMeta.confirmed, Bool.and_eq_true, beq_iff_eq] at h
  refine Eq.trans ?_ haddress.symm
  by_contra hne
  have hhold : rowAction net subnet row snapshot mode exported =
      .hold "saved routing address and metadata disagree" false :=
    if_pos ⟨hdesired.symm.trans h.1.1, hne⟩
  have herror := h.2
  rw [observedRow, hhold] at herror
  obtain ⟨-, -, -, -, hkept⟩ := confirmOwner_fields (snapshot.toOption.map (·.iface))
    { row with applied := false, lastError := some "saved routing address and metadata disagree" }
  change Option.isNone (confirmOwner _ _).lastError = true at herror
  rw [hkept] at herror
  cases herror

/-! ### The writers -/

/-- An access that reads only keeps what implies that nothing lags. -/
theorem read_triple {P : State → Prop} {e : Effect} (hP : (world net).Stable P)
    (hsettled : ∀ w, P w → Settled w) (hread : ∀ w o, (handle net w e o).2 = w) :
    (world net).Triple Stop P (issue e) fun _ => P :=
  .perform hP (fun w h => (hsettled w h).lag) (fun w o h => (hread w o).symm ▸ h) fun _ => hP

theorem publishLive_ne {live : FiniteMap String Ipv4Addr} {k : String} (hk : k ≠ subnet) :
    (publishLive live subnet row).lookup k = live.lookup k := by
  unfold publishLive
  split
  · split
    · exact Finmap.lookup_insert_of_ne _ hk
    · rfl
  · exact Finmap.lookup_erase_ne hk

theorem not_confirmed_of_error {e : String} (h : row.lastError = some e) :
    row.confirmed = false := by
  simp [AdoptedMeta.confirmed, h]

/-- A row whose save fails is not confirmed. -/
theorem persist_published (h : Settled w)
    (hroute : row.confirmed = true → w.settings.adoptedSubnets.lookup subnet = row.address)
    (saved : Fallible Unit) :
    let c := w.save (AppSettings.setBindingForOperation subnet row false) saved
    Sound (· = subnet) c.2 ∧ Published subnet (PocketStream.publishBinding row c.1) c.2 := by
  obtain ⟨e, he⟩ | ⟨w', hw', hsaved⟩ := save_binding h row false saved
  · rw [he]
    refine ⟨h.lag, fun hc => ?_⟩
    rw [not_confirmed_of_error rfl] at hc
    cases hc
  · rw [hw']
    refine ⟨hsaved.lags, fun hc => ⟨row, hsaved.held, rfl, ?_⟩⟩
    change row.confirmed = true at hc
    change w'.settings.adoptedSubnets.lookup subnet = row.address
    obtain ⟨-, hkept⟩ | hafter := hsaved.route
    · exact hkept.trans (hroute hc)
    · rw [hafter, hroute hc]
      simp only [AdoptedMeta.confirmed, Bool.and_eq_true, beq_iff_eq] at hc
      simp [AppSettings.exportedAfter, hc.1.1]

/-- The row may be published where its address is exported if it is confirmed. -/
theorem publishBinding_triple :
    (world net).Triple Stop (fun w => Settled w ∧
        (row.confirmed = true → w.settings.adoptedSubnets.lookup subnet = row.address))
      (publishBinding subnet row) fun _ => Settled := by
  have hroute : (world net).Stable fun w =>
      row.confirmed = true → w.settings.adoptedSubnets.lookup subnet = row.address :=
    fun w i h hc => (congrArg _ (restamped_interfere w i).addresses).trans (h hc)
  refine .request (fun (r : Fallible Unit) w => Sound (· = subnet) w ∧
      Published subnet (PocketStream.publishBinding row r) w) (stable_sound.and hroute)
    (fun w h => h.1.lag) (fun w o h => ?_) fun r => ?_
  · exact persist_published h.1 h.2 o.saved
  · refine .request (fun _ => Settled) (stable_sound.and stable_published) (fun w h => h.1)
      (fun w o h => ?_) fun _ => .done stable_sound fun _ h => h
    exact h.1.recorded h.2 fun k hk => publishLive_ne hk

theorem reconcileBindingRow_triple (site : CallSite) :
    (world net).Triple Stop Settled (reconcileBindingRow site subnet row) fun _ => Settled := by
  refine .request (fun row w => Settled w ∧
      (row.confirmed = true → w.settings.adoptedSubnets.lookup subnet = row.address))
    stable_sound (fun w h => h.lag) (fun w o h => ⟨h, observedRow_confirmed⟩) fun row => ?_
  exact publishBinding_triple

theorem reconcileRows_triple (rows : List (String × AdoptedMeta)) :
    (world net).Triple Stop Settled (reconcileRows rows) fun _ => Settled := by
  induction rows with
  | nil => exact .done stable_sound fun _ h => h
  | cons entry rest ih => exact .bind _ (reconcileBindingRow_triple _) fun _ => ih

theorem reconcileBindings_triple (order : List String) :
    (world net).Triple Stop Settled (reconcileBindings order) fun _ => Settled := by
  refine .bind _ (read_triple stable_sound (fun _ h => h) fun _ _ => rfl)
    fun (r : Fallible Unit) => ?_
  match r with
  | .error e => exact .done stable_sound fun _ h => h
  | .ok () =>
    exact .bind _ (read_triple stable_sound (fun _ h => h) fun _ _ => rfl)
      fun settings => reconcileRows_triple _

theorem removeTracked_triple :
    (world net).Triple Stop Settled (removeTracked subnet row) fun _ => Settled := by
  refine .bind _ (read_triple stable_sound (fun _ h => h) fun _ _ => rfl)
    fun (r : Fallible Unit) => ?_
  match r with
  | .error e =>
    refine publishBinding_triple.conseq (fun w h => ⟨h, fun hc => ?_⟩) fun _ _ h => h
    rw [not_confirmed_of_error rfl] at hc
    cases hc
  | .ok () => exact reconcileBindingRow_triple _

/-- A row that desires a removal may be recorded at any time. -/
theorem recordRow_triple {P : State → Prop} (hP : (world net).Stable P)
    (hlags : ∀ w, P w → Sound (· = subnet) w ∧ Published subnet row w) :
    (world net).Triple Stop P (issue (.recordRow subnet row)) fun _ => Settled :=
  .perform hP (fun w h => (hlags w h).1)
    (fun w _ h => (hlags w h).1.recorded (hlags w h).2 fun _ _ => rfl) fun _ => stable_sound

theorem published_of_removed (h : row.desired = .removed) : Published subnet row w := by
  intro hc
  simp [AdoptedMeta.confirmed, h] at hc

/-- Taking a route down leaves what is known of the settings. -/
theorem retire_triple {e : Effect} {Q : AppSettings → Prop}
    (hQ : (world net).Stable fun w => Q w.settings)
    (he : e = .retireLive subnet ∨ e = .retireRow subnet) :
    (world net).Triple Stop (fun w => Sound (· = subnet) w ∧ Q w.settings) (issue e)
      fun _ w => Settled w ∧ Q w.settings := by
  obtain rfl | rfl := he
  · refine .perform (stable_sound.and hQ) (fun w h => h.1) (fun w o h => ⟨?_, h.2⟩)
      fun _ => stable_sound.and hQ
    refine h.1.retired ⟨fun _ _ => rfl, fun _ _ => rfl, fun _ hk => Finmap.lookup_erase_ne hk,
      fun _ _ => rfl⟩ rfl (.inl ?_)
    exact (FiniteMap.lookup_erase _ _ _).trans (if_pos rfl)
  · refine .perform (stable_sound.and hQ) (fun w h => h.1) (fun w o h => ⟨?_, h.2⟩)
      fun _ => stable_sound.and hQ
    refine h.1.retired ⟨fun _ _ => rfl, fun _ _ => rfl, fun _ _ => rfl,
      fun _ hk => Finmap.lookup_erase_ne hk⟩ rfl (.inr ?_)
    exact (FiniteMap.lookup_erase _ _ _).trans (if_pos rfl)

theorem retireLive_triple :
    (world net).Triple Stop (Sound (· = subnet)) (issue (.retireLive subnet)) fun _ => Settled :=
  (retire_triple (Q := fun _ => True) (fun _ _ _ => trivial) (.inl rfl)).conseq
    (fun _ h => ⟨h, trivial⟩) fun _ _ h => h.1

theorem retireRow_triple :
    (world net).Triple Stop (Sound (· = subnet)) (issue (.retireRow subnet)) fun _ => Settled :=
  (retire_triple (Q := fun _ => True) (fun _ _ _ => trivial) (.inr rfl)).conseq
    (fun _ h => ⟨h, trivial⟩) fun _ _ h => h.1

/-- What an access that may fail leaves: a lagging subnet, or everything as it was. -/
def Attempted (subnet : String) : Fallible Unit → State → Prop
  | .ok () => Sound (· = subnet)
  | .error _ => Settled

theorem persistIntent_triple :
    (world net).Triple Stop Settled (issue (.persistIntent subnet row)) (Attempted subnet) := by
  refine .perform stable_sound (fun w h => h.lag) (fun w o h => ?_) fun r => ?_
  · change Attempted subnet (w.save _ o.saved).1 (w.save _ o.saved).2
    obtain ⟨e, he⟩ | ⟨w', hw', hsaved⟩ := save_binding h row true o.saved
    · rw [he]
      exact h
    · rw [hw']
      exact hsaved.lags
  · cases r <;> exact stable_sound

theorem forgetUnowned_ok (row : AdoptedMeta) {s next : AppSettings}
    (h : AppSettings.forgetUnownedBinding subnet row s = .ok ((), next)) :
    next.adoptedMeta = s.adoptedMeta.erase subnet ∧
      next.adoptedSubnets.lookup subnet = none ∧
      ∀ k ≠ subnet, next.adoptedSubnets.lookup k = s.adoptedSubnets.lookup k := by
  unfold AppSettings.forgetUnownedBinding at h
  split at h
  · cases h
  · cases h
    exact ⟨rfl, (FiniteMap.lookup_erase _ _ _).trans (if_pos rfl),
      fun k hk => Finmap.lookup_erase_ne hk⟩

theorem forgetCompleted_ok (row : AdoptedMeta) {s next : AppSettings}
    (h : AppSettings.forgetCompletedRemoval subnet row s = .ok ((), next)) :
    next.adoptedMeta = s.adoptedMeta.erase subnet ∧
      next.adoptedSubnets.lookup subnet = none ∧
      ∀ k ≠ subnet, next.adoptedSubnets.lookup k = s.adoptedSubnets.lookup k := by
  unfold AppSettings.forgetCompletedRemoval at h
  dsimp only at h
  split at h
  · cases h
  · next hguard =>
    cases h
    simp only [not_or, Bool.not_eq_true, Option.isSome_eq_false_iff, Option.isNone_iff_eq_none]
      at hguard
    exact ⟨rfl, hguard.2.2.1, fun _ _ => rfl⟩

theorem forgetUnownedAddress_triple :
    (world net).Triple Stop Settled (forgetUnownedAddress subnet row) fun _ => Settled := by
  refine .bind (Attempted subnet) ?_ fun (r : Fallible Unit) => ?_
  · refine .perform stable_sound (fun w h => h.lag) (fun w o h => ?_) fun r => ?_
    · change Attempted subnet (w.save _ o.saved).1 (w.save _ o.saved).2
      obtain ⟨e, he⟩ | ⟨w', hw', hlags, -⟩ :=
        save_forget h (fun _ => forgetUnowned_ok row) o.saved
      · rw [he]
        exact h
      · rw [hw']
        exact hlags
    · cases r <;> exact stable_sound
  · match r with
    | .error e => exact .done stable_sound fun _ h => h
    | .ok () =>
      exact .bind _ retireRow_triple fun _ =>
        retireLive_triple.conseq (fun _ h => h.lag) fun _ _ h => h

theorem removeSaved_triple (bySubnet : Bool) :
    (world net).Triple Stop Settled (removeSaved subnet bySubnet) fun _ => Settled := by
  refine .bind _ (read_triple stable_sound (fun _ h => h) fun _ _ => rfl) fun settings => ?_
  split
  · exact .done stable_sound fun _ h => h
  · next row _ =>
    refine .bind _ (read_triple stable_sound (fun _ h => h) fun _ _ => rfl)
      fun (r : Fallible Unit) => ?_
    match r with
    | .error e => exact .done stable_sound fun _ h => h
    | .ok () =>
      dsimp only
      split
      · exact forgetUnownedAddress_triple
      · refine .bind _ persistIntent_triple fun (r : Fallible Unit) => ?_
        match r with
        | .error e => exact .done stable_sound fun _ h => h
        | .ok () =>
          refine .bind _ retireLive_triple fun _ => ?_
          refine .bind _ (recordRow_triple stable_sound fun w h =>
            ⟨h.lag, published_of_removed rfl⟩) fun _ => removeTracked_triple

theorem removeUnmanaged_triple :
    (world net).Triple Stop Settled (removeUnmanaged subnet row) fun _ => Settled := by
  refine .bind _ (read_triple stable_sound (fun _ h => h) fun _ _ => rfl) fun settings => ?_
  refine .bind _ (read_triple stable_sound (fun _ h => h) fun _ _ => rfl)
    fun (r : Fallible Unit) => ?_
  match r with
  | .error e => exact .done stable_sound fun _ h => h
  | .ok () =>
    dsimp only
    split
    · exact .done stable_sound fun _ h => h
    · refine .bind _ persistIntent_triple fun (r : Fallible Unit) => ?_
      match r with
      | .error e => exact .done stable_sound fun _ h => h
      | .ok () =>
        exact .bind _ (recordRow_triple stable_sound fun w h => ⟨h, published_of_removed rfl⟩)
          fun _ => removeTracked_triple

theorem prepareSubnetAdoption_none {settings : AppSettings} {owner : String} {index : UInt32}
    {stale staleAfter : Bool} {snapshot : Fallible (Snapshot N)}
    (h : PocketStream.prepareSubnetAdoption net settings subnet owner index stale snapshot
      staleAfter = .ok none) : settings.adoptedMeta.lookup subnet = none := by
  unfold PocketStream.prepareSubnetAdoption at h
  split at h
  · assumption
  · split at h
    · cases h
    · split at h
      · cases h
      · split at h <;> cases h

/-- A subnet without a saved row may be adopted. -/
def Adoptable (subnet : String) (s : AppSettings) : Prop := s.adoptedMeta.lookup subnet = none

theorem forgetCompleted_triple :
    (world net).Triple Stop Settled (issue (.forgetCompletedRemoval subnet row)) fun r w =>
      Attempted subnet r w ∧ (r = .ok () → Adoptable subnet w.settings) := by
  refine .perform stable_sound (fun w h => h.lag) (fun w o h => ?_) fun r => ?_
  · obtain ⟨e, he⟩ | ⟨w', hw', hlags, hnone⟩ :=
      save_forget h (fun _ => forgetCompleted_ok row) o.saved
    all_goals
      change Attempted subnet (w.save _ o.saved).1 (w.save _ o.saved).2 ∧
        ((w.save _ o.saved).1 = .ok () → Adoptable subnet (w.save _ o.saved).2.settings)
    · rw [he]
      exact ⟨h, nofun⟩
    · rw [hw']
      exact ⟨hlags, fun _ => hnone⟩
  · have hunsaved : (world net).Stable fun w => Adoptable subnet w.settings := stable_unsaved
    cases r with
    | error e => exact stable_sound.and fun _ _ _ => nofun
    | ok u => exact stable_sound.and fun w i h hr => hunsaved w i (h hr)

theorem retireCompleted_triple (subnet : String) (row : AdoptedMeta) :
    (world net).Triple Stop Settled (retireCompleted subnet row)
      fun go w => Settled w ∧ (go = true → Adoptable subnet w.settings) := by
  have hunsaved : (world net).Stable fun w => Adoptable subnet w.settings := stable_unsaved
  refine .bind _ forgetCompleted_triple fun (r : Fallible Unit) => ?_
  match r with
  | .error e => exact .done (stable_sound.and fun _ _ _ => nofun) fun w h => ⟨h.1, nofun⟩
  | .ok () =>
    refine .bind _ ((retire_triple hunsaved (.inr rfl)).conseq (fun w h => ⟨h.1, h.2 rfl⟩)
      fun _ _ h => h) fun _ => ?_
    refine .bind _ ((retire_triple hunsaved (.inl rfl)).conseq (fun _ h => ⟨h.1.lag, h.2⟩)
      fun _ _ h => h) fun _ => ?_
    exact .done (stable_sound.and hunsaved) fun _ h => ⟨h.1, fun _ => h.2⟩

theorem prepareSubnetAdoption_triple (p : Attempt.Params) :
    (world net).Triple Stop Settled (prepareSubnetAdoption p) fun go w =>
      Settled w ∧ (go = true → Adoptable p.deviceSubnet w.settings) := by
  have hunsaved : (world net).Stable fun w => Adoptable p.deviceSubnet w.settings := stable_unsaved
  refine .request (fun (r : Fallible (Option AdoptedMeta)) w => Settled w ∧
      (r = .ok none → Adoptable p.deviceSubnet w.settings)) stable_sound
    (fun w h => h.lag) (fun w o h => ⟨h, fun hr => ?_⟩) fun r => ?_
  · simp only [world, handle] at hr
    split at hr
    · cases hr
    · exact prepareSubnetAdoption_none hr
  have hmid : (world net).Stable fun w => Settled w ∧
      (r = .ok none → Adoptable p.deviceSubnet w.settings) :=
    stable_sound.and fun w i h hr => hunsaved w i (h hr)
  match r with
  | .error e => exact .done hmid fun w h => ⟨h.1, nofun⟩
  | .ok none => exact .done hmid fun w h => ⟨h.1, fun _ => h.2 rfl⟩
  | .ok (some row) => exact fun w h => retireCompleted_triple p.deviceSubnet row w h.1

/-- A committed row may be published; its subnet was not exported before. -/
theorem commit_adopted (h : Settled w) (hnone : Adoptable subnet w.settings)
    (hd : row.desired = .present) (saved : Fallible Unit) :
    let c := w.save (AppSettings.setBindingForOperation subnet row false) saved
    Settled c.2 ∧ (c.1 = .ok () → Published subnet row c.2) := by
  obtain ⟨e, he⟩ | ⟨w', hw', hsaved⟩ := save_binding h row false saved
  · rw [he]
    exact ⟨h, nofun⟩
  · rw [hw']
    refine ⟨?_, fun _ _ => ⟨row, hsaved.held, rfl, ?_⟩⟩
    · refine hsaved.lags.update ⟨fun _ _ => rfl, fun _ _ => rfl, fun _ _ => rfl, fun _ _ => rfl⟩
        (fun k hk he => hk he) (hsaved.lags.aligned subnet) fun address hexp _ => ?_
      rw [exported_iff, hsaved.live, hsaved.rows, ← exported_iff] at hexp
      obtain ⟨_, _, -, hrow, -⟩ := h.durable subnet address hexp fun hl => hl
      exact absurd (hnone.symm.trans hrow) nofun
    · obtain ⟨hrow, -⟩ | hafter := hsaved.route
      · exact absurd (hnone.symm.trans hrow) nofun
      · change w'.settings.adoptedSubnets.lookup subnet = row.address
        rw [hafter, h.aligned subnet hnone, AppSettings.exportedAfter, hd]
        rfl

theorem publishAdoption_triple {ip : Ipv4Addr} :
    (world net).Triple Stop (fun w => Settled w ∧ Published subnet row w)
      (publishAdoption subnet ip row) fun _ => Settled := by
  have hlags : (world net).Stable fun w => Sound (· = subnet) w ∧ Published subnet row w :=
    stable_sound.and stable_published
  refine .bind (fun _ w => Sound (· = subnet) w ∧ Published subnet row w) ?_ fun _ =>
    recordRow_triple hlags fun _ h => h
  refine .perform (stable_sound.and stable_published) (fun w h => h.1.lag)
    (fun w o h => ⟨?_, h.2⟩) fun _ => hlags
  exact h.1.update ⟨fun _ _ => rfl, fun _ _ => rfl, fun _ hk => Finmap.lookup_insert_of_ne _ hk,
    fun _ _ => rfl⟩ (fun _ _ => False.elim) (h.1.aligned subnet) fun _ _ hn => absurd rfl hn

theorem adoptSubnet_triple (p : Attempt.Params) :
    (world net).Triple Stop Settled (adoptSubnet p) fun _ => Settled := by
  have hunsaved : (world net).Stable fun w => Adoptable p.deviceSubnet w.settings := stable_unsaved
  refine .bind _ (prepareSubnetAdoption_triple p) fun (go : Bool) => ?_
  cases go with
  | false => exact .done (stable_sound.and fun _ _ _ => nofun) fun _ h => h.1
  | true =>
    refine .bind (fun _ w => Settled w ∧ Adoptable p.deviceSubnet w.settings)
      ((read_triple (stable_sound.and hunsaved) (fun _ h => h.1) fun _ _ => rfl).conseq
        (fun w h => ⟨h.1, h.2 rfl⟩) fun _ _ h => h) fun (adopted : Option Ipv4Addr) => ?_
    cases adopted with
    | none => exact .done (stable_sound.and hunsaved) fun _ h => h.1
    | some ip =>
      refine .bind (fun (r : Fallible Unit) w => Settled w ∧
          (r = .ok () → Published p.deviceSubnet (Attempt.adoptedRow p ip) w))
        (.perform (stable_sound.and hunsaved) (fun w h => h.1.lag) (fun w o h => ?_) fun r => ?_)
        fun (r : Fallible Unit) => ?_
      · simp only [world, handle]
        split
        · exact ⟨h.1, nofun⟩
        · exact commit_adopted h.1 h.2 rfl o.saved
      · exact stable_sound.and fun w i h hr => stable_published w i (h hr)
      · match r with
        | .error e => exact .done (stable_sound.and fun _ _ _ => nofun) fun _ h => h.1
        | .ok () => exact publishAdoption_triple.conseq (fun _ h => ⟨h.1, h.2 rfl⟩) fun _ _ h => h

theorem runWriters_triple (writers : List Writer) :
    (world net).Triple Stop Settled (runWriters writers) fun _ => Settled := by
  induction writers with
  | nil => exact .done stable_sound fun _ h => h
  | cons writer rest ih =>
    refine .bind _ ?_ fun _ => ih
    cases writer with
    | reconcile order => exact reconcileBindings_triple order
    | removeSaved subnet bySubnet => exact removeSaved_triple bySubnet
    | removeUnmanaged subnet row => exact removeUnmanaged_triple
    | adopt p => exact adoptSubnet_triple p

theorem settled_start (file : AppSettings) (now : String) (rows : FiniteMap String AdoptedMeta) :
    Settled (State.start file now rows) := by
  constructor
  · intro subnet hnone
    change file.adoptedSubnets.lookup subnet = none
    cases ha : file.adoptedSubnets.lookup subnet with
    | none => rfl
    | some address =>
      have hrow := AppSettings.lookup_align file now subnet
      rw [ha] at hrow
      exact absurd (hrow.symm.trans hnone) nofun
  · intro subnet address hexp
    obtain ⟨ip, row, hip, -⟩ := exported_iff.mp hexp
    cases hip

end BindingStore

end PocketStream
