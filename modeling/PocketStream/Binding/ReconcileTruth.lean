import PocketStream.Binding.Reconcile

/-! # What reconciliation does and reports

A write is issued only where the saved intent and the snapshot call for it, and
a row without an error says what the last observation shows. The pass over all
rows reads that observation less carefully than a requested removal does, and
the exact inputs on which this matters are named.
-/

namespace PocketStream

open Foundation

variable {N : Type} {net : IpNetwork N} {subnet : String} {row : AdoptedMeta}

theorem savedAddress_eq_some {ip : Ipv4Addr} {prefixLen : UInt8}
    (h : savedAddress net subnet row = some (ip, prefixLen)) :
    row.address = some ip.toText ∧ row.prefixLen = some prefixLen := by
  simp only [savedAddress, Option.bind_eq_bind, Option.bind_eq_some_iff] at h
  obtain ⟨network, -, address, ha, parsed, hp, p, hprefix, hif⟩ := h
  split at hif
  · cases hif
    rw [← Ipv4Addr.toText_of_parse hp]
    exact ⟨ha, hprefix⟩
  · cases hif

/-- What a decision says about the row and the snapshot. -/
inductive Decided (net : IpNetwork N) (subnet : String) (row : AdoptedMeta) (iface : InterfaceInfo)
    (dhcp : Bool) (conflicts : List N) : BindingAction → Prop where
  | unavailable (reason : String) (hd : row.desired = .present) :
    Decided net subnet row iface dhcp conflicts (.unavailable reason)
  | hold (reason : String) : Decided net subnet row iface dhcp conflicts (.hold reason false)
  | remove (ip : Ipv4Addr) (prefixLen : UInt8) (howner : ownerMatches row iface = true)
    (hsaved : savedAddress net subnet row = some (ip, prefixLen)) (hd : row.desired = .removed)
    (hobs : iface.ips.find? (·.address == ip.toText) = some ⟨ip.toText, prefixLen⟩) :
    Decided net subnet row iface dhcp conflicts (.remove ip)
  | absent (ip : Ipv4Addr) (prefixLen : UInt8)
    (hsaved : savedAddress net subnet row = some (ip, prefixLen)) (hd : row.desired = .removed)
    (hobs : iface.ips.find? (·.address == ip.toText) = none) :
    Decided net subnet row iface dhcp conflicts (.observed false)
  | present (ip : Ipv4Addr) (prefixLen : UInt8)
    (hsaved : savedAddress net subnet row = some (ip, prefixLen)) (hd : row.desired = .present)
    (hobs : iface.ips.find? (·.address == ip.toText) = some ⟨ip.toText, prefixLen⟩) :
    Decided net subnet row iface dhcp conflicts (.observed true)
  | add (ip : Ipv4Addr) (prefixLen : UInt8) (howner : ownerMatches row iface = true)
    (hsaved : savedAddress net subnet row = some (ip, prefixLen)) (hd : row.desired = .present)
    (hobs : iface.ips.find? (·.address == ip.toText) = none) (hup : iface.isUp = true)
    (hstatic : dhcp = false) (hfree : ∀ n ∈ conflicts, net.contains n ip = false) :
    Decided net subnet row iface dhcp conflicts (.add ip prefixLen)

variable (net subnet row) in
theorem decided_bindingAction (iface : InterfaceInfo) (mode : NetworkMode) (dhcp : Bool)
    (conflicts : List N) :
    Decided net subnet row iface dhcp conflicts
      (bindingAction net subnet row (some iface) mode (.ok dhcp) conflicts) := by
  unfold bindingAction
  split
  · next hfilter =>
    refine .unavailable _ ?_
    cases hd : row.desired with
    | present => rfl
    | removed => simp [hd, Option.filter, Except.toBool] at hfilter
  · next found hfilter =>
    obtain ⟨hf, husable⟩ := Option.filter_eq_some_iff.mp hfilter
    obtain rfl := Option.some.inj hf
    split
    · exact .hold _
    · next howner =>
      have howner : ownerMatches row iface = true := by simpa using howner
      split
      · exact .hold _
      · next ip prefixLen hsaved =>
        dsimp only
        split
        · exact .hold _
        · next hprefix =>
          have hexact : ∀ i, iface.ips.find? (·.address == ip.toText) = some i →
              i = ⟨ip.toText, prefixLen⟩ := by
            intro i hi
            have ha : i.address = ip.toText := by simpa using List.find?_some hi
            have hp : i.prefixLen = prefixLen := by simpa [hi] using hprefix
            rw [← ha, ← hp]
          cases hobs : iface.ips.find? (·.address == ip.toText) with
          | none =>
            cases hd : row.desired with
            | removed => exact .absent ip prefixLen hsaved hd hobs
            | present =>
              simp only [reduceCtorEq, if_false, Option.isSome_none, Bool.false_eq_true]
              split
              · exact .hold _
              · next hstatic =>
                split
                · exact .hold _
                · split
                  · exact .hold _
                  · next hfree =>
                    refine .add ip prefixLen howner hsaved hd hobs ?_ (by simpa using hstatic) ?_
                    · simpa [hd] using husable
                    · simpa using hfree
          | some i =>
            obtain rfl := hexact i hobs
            cases hd : row.desired with
            | removed => exact .remove ip prefixLen howner hsaved hd hobs
            | present =>
              simp only [reduceCtorEq, if_false, Option.isSome_some, if_true]
              split
              · exact .hold _
              · split
                · exact .hold _
                · exact .present ip prefixLen hsaved hd hobs

/-- Writes are issued where the saved intent and the snapshot call for them. -/
structure SafeWrites (net : IpNetwork N) (row : AdoptedMeta) (snapshot : Fallible (Snapshot N))
    (writes : List AdoptCall) : Prop where
  add : ∀ iface ip mask, .add iface ip mask ∈ writes →
    row.desired = .present ∧ row.address = some ip.toText ∧ ∃ s, snapshot = .ok s ∧
      s.iface.isUp = true ∧ ownerMatches row s.iface = true ∧ s.dhcp = false ∧
      (∀ i ∈ s.iface.ips, i.address ≠ ip.toText) ∧ ∀ n ∈ s.conflicts, net.contains n ip = false
  remove : ∀ iface ip, .remove iface ip ∈ writes →
    row.desired = .removed ∧ row.address = some ip.toText ∧ ∃ s prefixLen, snapshot = .ok s ∧
      row.prefixLen = some prefixLen ∧ ⟨ip.toText, prefixLen⟩ ∈ s.iface.ips

/-- A row without an error is applied exactly when it is wanted and its address and prefix
were observed last. -/
def AppliedTruthful (r : AdoptedMeta) (observed : Option (List IpInfo)) : Prop :=
  r.lastError = none → (r.applied = true ↔
    r.desired = .present ∧ ∃ ips, observed = some ips ∧ listsBinding r ips = true)

/-- A completed removal was observed last without its address, at every prefix. -/
def CompletionTruthful (r : AdoptedMeta) (observed : Option (List IpInfo)) : Prop :=
  r.removalComplete = true → ∀ ips, observed = some ips → ∀ i ∈ ips, some i.address ≠ r.address

/-- What an OS write leaves of the row before its save: the answers decide. -/
def written (site : CallSite) (iface : InterfaceInfo) (row : AdoptedMeta) (a : Answers) :
    AdoptedMeta :=
  confirmOwner (some iface) (settle row a.write (a.observed.bind (site.read row)))

section Run

variable {site : CallSite} {mode : NetworkMode} {exported : Option String} {a : Answers}
  {s : Snapshot N}

theorem reconcile_remove {ip : Ipv4Addr}
    (h : rowAction net subnet row (.ok s) mode exported = .remove ip) :
    reconcileBindingRow net site subnet row (.ok s) mode exported a =
      (publishBinding (written site s.iface { row with applied := true, lastError := none } a)
        a.saved, ⟨[.remove s.iface.name ip], a.observed.toOption.or (some s.iface.ips)⟩) := by
  obtain ⟨write, observed, saved⟩ := a
  unfold reconcileBindingRow
  rw [h]
  cases observed <;> rfl

theorem reconcile_add {ip : Ipv4Addr} {prefixLen : UInt8}
    (h : rowAction net subnet row (.ok s) mode exported = .add ip prefixLen) :
    reconcileBindingRow net site subnet row (.ok s) mode exported a =
      (publishBinding (written site s.iface { row with applied := false, lastError := none } a)
        a.saved, ⟨[.add s.iface.name ip (prefixToMask prefixLen)],
          a.observed.toOption.or (some s.iface.ips)⟩) := by
  obtain ⟨write, observed, saved⟩ := a
  unfold reconcileBindingRow
  rw [h]
  cases observed <;> rfl

theorem reconcile_unavailable {snapshot : Fallible (Snapshot N)} {reason : String}
    (h : rowAction net subnet row snapshot mode exported = .unavailable reason) :
    reconcileBindingRow net site subnet row snapshot mode exported a =
      (publishBinding (if row.removalComplete then row else
          confirmOwner (snapshot.toOption.map (·.iface)) { row with lastError := some reason })
        a.saved, ⟨[], (snapshot.toOption.map (·.iface)).map (·.ips)⟩) := by
  unfold reconcileBindingRow
  rw [h]
  cases hc : row.removalComplete <;> simp only [applyBinding, hc] <;> rfl

end Run

theorem publishBinding_error {r : AdoptedMeta} {saved : Fallible Unit}
    (h : (publishBinding r saved).lastError = none) : saved = .ok () ∧ r.lastError = none := by
  unfold publishBinding at h
  split at h
  · exact ⟨rfl, h⟩
  · cases h

/-- Publishing and confirming a row keep what it says about its address. -/
theorem publishBinding_fields (r : AdoptedMeta) (saved : Fallible Unit) :
    (publishBinding r saved).desired = r.desired ∧ (publishBinding r saved).applied = r.applied ∧
      (publishBinding r saved).address = r.address ∧
      (publishBinding r saved).prefixLen = r.prefixLen := by
  unfold publishBinding
  split <;> exact ⟨rfl, rfl, rfl, rfl⟩

theorem confirmOwner_fields (iface : Option InterfaceInfo) (r : AdoptedMeta) :
    (confirmOwner iface r).desired = r.desired ∧ (confirmOwner iface r).applied = r.applied ∧
      (confirmOwner iface r).address = r.address ∧
      (confirmOwner iface r).prefixLen = r.prefixLen ∧
      (confirmOwner iface r).lastError = r.lastError := by
  unfold confirmOwner
  split <;> exact ⟨rfl, rfl, rfl, rfl, rfl⟩

section Report

variable {r : AdoptedMeta} {observed : Option (List IpInfo)}

theorem listsBinding_congr {r r' : AdoptedMeta} (ha : r.address = r'.address)
    (hp : r.prefixLen = r'.prefixLen) (ips : List IpInfo) :
    listsBinding r ips = listsBinding r' ips := by
  rw [listsBinding, listsBinding, ha, hp]

theorem removalComplete_iff :
    r.removalComplete = true ↔ r.desired = .removed ∧ r.applied = false ∧ r.lastError = none := by
  simp [AdoptedMeta.removalComplete, and_assoc]

theorem AppliedTruthful.publish (h : AppliedTruthful r observed) (iface : Option InterfaceInfo)
    (saved : Fallible Unit) :
    AppliedTruthful (publishBinding (confirmOwner iface r) saved) observed := by
  intro herr
  obtain ⟨pd, pa, paddr, pp⟩ := publishBinding_fields (confirmOwner iface r) saved
  obtain ⟨cd, ca, caddr, cp, ce⟩ := confirmOwner_fields iface r
  have := h (ce ▸ (publishBinding_error herr).2)
  rw [pd, pa, cd, ca, this]
  simp only [listsBinding_congr (paddr.trans caddr) (pp.trans cp)]

theorem CompletionTruthful.publish (h : CompletionTruthful r observed)
    (iface : Option InterfaceInfo) (saved : Fallible Unit) :
    CompletionTruthful (publishBinding (confirmOwner iface r) saved) observed := by
  intro hc
  obtain ⟨pd, pa, paddr, -⟩ := publishBinding_fields (confirmOwner iface r) saved
  obtain ⟨cd, ca, caddr, -, ce⟩ := confirmOwner_fields iface r
  rw [removalComplete_iff, pd, pa, cd, ca] at hc
  rw [paddr, caddr]
  exact h (removalComplete_iff.mpr ⟨hc.1, hc.2.1, ce ▸ (publishBinding_error hc.2.2).2⟩)

theorem appliedTruthful_of_error {e : String} (h : r.lastError = some e) :
    AppliedTruthful r observed := fun hn => by rw [h] at hn; cases hn

theorem completionTruthful_of_ne (h : r.desired = .removed → r.applied = false →
    r.lastError ≠ none) : CompletionTruthful r observed := fun hc =>
  absurd (removalComplete_iff.mp hc).2.2 (h (removalComplete_iff.mp hc).1
    (removalComplete_iff.mp hc).2.1)

/-- A settled row without an error says what was read back. -/
theorem settle_ok {result : Fallible Unit} {o : Fallible (List IpInfo)}
    (h : (settle r result o).lastError = none) :
    result = .ok () ∧ ∃ ips, o = .ok ips ∧ (settle r result o).applied = listsBinding r ips ∧
      listsBinding r ips = (r.desired == .present) := by
  cases result with
  | error e => cases h
  | ok u =>
    cases o with
    | error e => cases h
    | ok ips =>
      refine ⟨rfl, ips, rfl, rfl, ?_⟩
      change (if listsBinding r ips ≠ (r.desired == .present) then some _ else none) = none at h
      by_contra hne
      rw [if_pos hne] at h
      cases h

theorem read_ok {site : CallSite} {o : Fallible (List IpInfo)} {ips : List IpInfo}
    (h : o.bind (site.read r) = .ok ips) : o = .ok ips ∧
      (site = .removeSavedOperation →
        ∀ i ∈ ips, some i.address = r.address → some i.prefixLen = r.prefixLen) := by
  cases o with
  | error e => cases h
  | ok l =>
    change site.read r l = .ok ips at h
    cases site with
    | reconcileBindings =>
      cases h
      exact ⟨rfl, nofun⟩
    | removeSavedOperation =>
      unfold CallSite.read at h
      dsimp only at h
      split at h
      · cases h
      · next hsame =>
        cases h
        exact ⟨rfl, fun _ i hi ha => by simp_all⟩

theorem appliedTruthful_written {site : CallSite} {a : Answers} {other : Option (List IpInfo)} :
    AppliedTruthful (settle r a.write (a.observed.bind (site.read r)))
      (a.observed.toOption.or other) := by
  intro herr
  obtain ⟨-, ips, hread, happ, hwant⟩ := settle_ok herr
  rw [happ, hwant, (read_ok hread).1]
  constructor
  · intro hd
    have hp : r.desired = .present := by simpa using hd
    exact ⟨hp, ips, rfl, hwant.trans hd⟩
  · rintro ⟨hd, -⟩
    change r.desired = .present at hd
    rw [hd]
    rfl

end Report

/-- A removal that the snapshot calls for. -/
def RemovalDue (net : IpNetwork N) (subnet : String) (row : AdoptedMeta)
    (snapshot : Fallible (Snapshot N)) : Prop :=
  row.desired = .removed ∧ ∃ s ip prefixLen, snapshot = .ok s ∧
    ownerMatches row s.iface = true ∧ savedAddress net subnet row = some (ip, prefixLen) ∧
    s.iface.ips.find? (·.address == ip.toText) = some ⟨ip.toText, prefixLen⟩

/-- The pass over all rows removes an address, every step succeeds, and the observation
lists the address with other prefixes only. -/
def PrefixChanged (net : IpNetwork N) (site : CallSite) (subnet : String) (row : AdoptedMeta)
    (snapshot : Fallible (Snapshot N)) (a : Answers) : Prop :=
  site = .reconcileBindings ∧ RemovalDue net subnet row snapshot ∧ a.write = .ok () ∧
    a.saved = .ok () ∧ ∃ ips, a.observed = .ok ips ∧ (∃ i ∈ ips, some i.address = row.address) ∧
      listsBinding row ips = false

/-- What the claim of a reconciled row amounts to. -/
structure Reported (net : IpNetwork N) (row : AdoptedMeta) (snapshot : Fallible (Snapshot N))
    (reconciled : AdoptedMeta × Trace) : Prop where
  safe : SafeWrites net row snapshot reconciled.2.writes
  applied : AppliedTruthful reconciled.1 reconciled.2.observed
  complete : CompletionTruthful reconciled.1 reconciled.2.observed

section Exact

variable {site : CallSite} {snapshot : Fallible (Snapshot N)} {mode : NetworkMode}
  {exported : Option String} {a : Answers}

theorem bindingAction_of_removalDue {s : Snapshot N} (h : RemovalDue net subnet row (.ok s)) :
    ∃ ip, rowAction net subnet row (.ok s) mode exported = .remove ip := by
  obtain ⟨hd, s', ip, prefixLen, hs, howner, hsaved, hobs⟩ := h
  cases hs
  refine ⟨ip, ?_⟩
  simp [rowAction, bindingAction, hd, howner, hsaved, hobs, Option.filter, Except.toBool]

theorem safeWrites_nil : SafeWrites net row snapshot [] := ⟨nofun, nofun⟩

/-- A row left without a write. -/
theorem reported_unwritten {r : AdoptedMeta} {observed : Option (List IpInfo)}
    (happ : AppliedTruthful r observed) (hcomplete : CompletionTruthful r observed)
    (iface : Option InterfaceInfo) :
    Reported net row snapshot (publishBinding (confirmOwner iface r) a.saved, ⟨[], observed⟩) :=
  ⟨safeWrites_nil, happ.publish iface _, hcomplete.publish iface _⟩

theorem reported_error {r : AdoptedMeta} {e : String} {observed : Option (List IpInfo)}
    (h : r.lastError = some e) (iface : Option InterfaceInfo) :
    Reported net row snapshot (publishBinding (confirmOwner iface r) a.saved, ⟨[], observed⟩) :=
  reported_unwritten (appliedTruthful_of_error h)
    (completionTruthful_of_ne fun _ _ hn => by rw [h] at hn; cases hn) iface

/-- The row of a removal that goes wrong is reported complete while its address is there. -/
theorem not_reported_of_prefixChanged (h : PrefixChanged net site subnet row snapshot a) :
    ¬ Reported net row snapshot
      (reconcileBindingRow net site subnet row snapshot mode exported a) := by
  obtain ⟨rfl, hdue, hwrite, hsaved, ips, hobs, ⟨i, hi, haddr⟩, hlists⟩ := h
  have hs := hdue
  obtain ⟨hd, s, -, -, rfl, -⟩ := hs
  obtain ⟨ip, hact⟩ := bindingAction_of_removalDue hdue
  intro hr
  rw [reconcile_remove hact, hsaved, written, hwrite, hobs] at hr
  have hsettled : settle { row with applied := true, lastError := none } (.ok ())
      ((Except.ok ips).bind (CallSite.reconcileBindings.read
        { row with applied := true, lastError := none })) =
      { row with applied := false, lastError := none } := by
    have hl : listsBinding { row with applied := true, lastError := none } ips = false := hlists
    change { row with
      applied := listsBinding { row with applied := true, lastError := none } ips,
      lastError := if listsBinding { row with applied := true, lastError := none } ips ≠
        (row.desired == BindingDesired.present) then _ else none } = _
    rw [hl, hd]
    rfl
  rw [hsettled] at hr
  obtain ⟨cd, ca, caddr, -, ce⟩ := confirmOwner_fields (some s.iface)
    { row with applied := false, lastError := none }
  refine hr.complete (removalComplete_iff.mpr ⟨cd.trans hd, ca, ce⟩) ips rfl i hi ?_
  exact haddr.trans caddr.symm

theorem confirmOwner_removed {r : AdoptedMeta} (h : r.desired = .removed)
    (iface : Option InterfaceInfo) : confirmOwner iface r = r :=
  if_neg fun hc => by rw [h] at hc; exact nomatch hc.2.1

theorem reported_remove {s : Snapshot N} {ip : Ipv4Addr} {prefixLen : UInt8}
    (howner : ownerMatches row s.iface = true)
    (hsaved : savedAddress net subnet row = some (ip, prefixLen)) (hd : row.desired = .removed)
    (hobs : s.iface.ips.find? (·.address == ip.toText) = some ⟨ip.toText, prefixLen⟩)
    (hact : rowAction net subnet row (.ok s) mode exported = .remove ip)
    (h : ¬ PrefixChanged net site subnet row (.ok s) a) :
    Reported net row (.ok s)
      (reconcileBindingRow net site subnet row (.ok s) mode exported a) := by
  obtain ⟨haddr, hprefix⟩ := savedAddress_eq_some hsaved
  rw [reconcile_remove hact]
  refine ⟨⟨?_, ?_⟩, appliedTruthful_written.publish _ _, ?_⟩
  · rintro _ _ _ (- | ⟨-, ⟨⟩⟩)
  · rintro iface ip' (- | ⟨-, ⟨⟩⟩)
    exact ⟨hd, haddr, s, prefixLen, rfl, hprefix, List.mem_of_find?_eq_some hobs⟩
  · intro hc ips hips i hi hlisted
    -- a completed removal was written, read back and saved without an error
    obtain ⟨pd, pa, paddr, -⟩ := publishBinding_fields
      (written site s.iface { row with applied := true, lastError := none } a) a.saved
    rw [removalComplete_iff, pd, pa] at hc
    obtain ⟨hd', happlied, herr⟩ := hc
    obtain ⟨hsave, herr⟩ := publishBinding_error herr
    obtain ⟨-, ca, caddr, -, ce⟩ := confirmOwner_fields (some s.iface)
      (settle { row with applied := true, lastError := none } a.write
        (a.observed.bind (site.read { row with applied := true, lastError := none })))
    obtain ⟨hwrite, read, hread, happ, -⟩ := settle_ok (ce.symm.trans herr)
    obtain ⟨hobserved, hsame⟩ := read_ok hread
    rw [hobserved] at hips
    cases hips
    have hlists : listsBinding row ips = false := happ.symm.trans (ca.symm.trans happlied)
    have haddress : some i.address = row.address := hlisted.trans (paddr.trans caddr)
    cases site with
    | reconcileBindings =>
      exact h ⟨rfl, ⟨hd, s, ip, prefixLen, rfl, howner, hsaved, hobs⟩, hwrite, hsave, ips,
        hobserved, ⟨i, hi, haddress⟩, hlists⟩
    | removeSavedOperation =>
      have hp : some i.prefixLen = row.prefixLen := hsame rfl i hi haddress
      have : listsBinding row ips = true :=
        List.any_eq_true.mpr ⟨i, hi, by simp [haddress, hp]⟩
      exact Bool.false_ne_true (hlists.symm.trans this)

theorem reported_add {s : Snapshot N} {ip : Ipv4Addr} {prefixLen : UInt8}
    (howner : ownerMatches row s.iface = true)
    (hsaved : savedAddress net subnet row = some (ip, prefixLen)) (hd : row.desired = .present)
    (hobs : s.iface.ips.find? (·.address == ip.toText) = none) (hup : s.iface.isUp = true)
    (hstatic : s.dhcp = false) (hfree : ∀ n ∈ s.conflicts, net.contains n ip = false)
    (hact : rowAction net subnet row (.ok s) mode exported = .add ip prefixLen) :
    Reported net row (.ok s)
      (reconcileBindingRow net site subnet row (.ok s) mode exported a) := by
  rw [reconcile_add hact]
  refine ⟨⟨?_, ?_⟩, appliedTruthful_written.publish _ _, ?_⟩
  · rintro iface ip' mask (- | ⟨-, ⟨⟩⟩)
    refine ⟨hd, (savedAddress_eq_some hsaved).1, s, rfl, hup, howner, hstatic, ?_, hfree⟩
    simpa using hobs
  · rintro _ _ (- | ⟨-, ⟨⟩⟩)
  · refine CompletionTruthful.publish (completionTruthful_of_ne fun hr => ?_) _ _
    exact nomatch hd.symm.trans hr

theorem reported_of_not_prefixChanged (h : ¬ PrefixChanged net site subnet row snapshot a) :
    Reported net row snapshot
      (reconcileBindingRow net site subnet row snapshot mode exported a) := by
  by_cases hex : row.desired = .present ∧ exported ≠ row.address
  · unfold reconcileBindingRow rowAction
    rw [if_pos hex]
    exact reported_error rfl _
  cases snapshot with
  | error e =>
    have hact : rowAction net subnet row (.error e : Fallible (Snapshot N)) mode exported =
      .unavailable e.toText := if_neg hex
    rw [reconcile_unavailable hact]
    split
    · next hc =>
      obtain ⟨hd, happ, -⟩ := removalComplete_iff.mp hc
      rw [← confirmOwner_removed hd none]
      refine reported_unwritten (fun _ => by simp [happ, hd]) (fun _ _ h => ?_) none
      exact nomatch h
    · exact reported_error rfl _
  | ok s =>
    have hact : rowAction net subnet row (.ok s) mode exported =
      bindingAction net subnet row (some s.iface) mode (.ok s.dhcp) s.conflicts := if_neg hex
    have hdecided := decided_bindingAction net subnet row s.iface mode s.dhcp s.conflicts
    rw [← hact] at hdecided
    generalize hval : rowAction net subnet row (.ok s) mode exported = action at hdecided
    cases hdecided with
    | unavailable reason hd =>
      rw [reconcile_unavailable hval, if_neg (by simp [AdoptedMeta.removalComplete, hd])]
      exact reported_error rfl _
    | hold reason =>
      unfold reconcileBindingRow
      rw [hval]
      exact reported_error rfl _
    | remove ip prefixLen howner hsaved hd hobs =>
      exact reported_remove howner hsaved hd hobs hval h
    | absent ip prefixLen hsaved hd hobs =>
      unfold reconcileBindingRow
      rw [hval]
      refine reported_unwritten (fun _ => ?_) ?_ _
      · simp [hd]
      · rintro - ips ⟨⟩ i hi haddr
        rw [List.find?_eq_none] at hobs
        rw [(savedAddress_eq_some hsaved).1] at haddr
        exact hobs i hi (by simpa using haddr)
    | present ip prefixLen hsaved hd hobs =>
      unfold reconcileBindingRow
      rw [hval]
      refine reported_unwritten (fun _ => ?_) (completionTruthful_of_ne fun hr => ?_) _
      · have hlists : listsBinding row s.iface.ips = true :=
          List.any_eq_true.mpr ⟨_, List.mem_of_find?_eq_some hobs,
            by simp [savedAddress_eq_some hsaved]⟩
        exact ⟨fun _ => ⟨hd, s.iface.ips, rfl, hlists⟩, fun _ => rfl⟩
      · exact nomatch hd.symm.trans hr
    | add ip prefixLen howner hsaved hd hobs hup hstatic hfree =>
      exact reported_add howner hsaved hd hobs hup hstatic hfree hval

/-- The tombstone of a subnet is forgotten only over a fresh snapshot without its address. -/
theorem prepareSubnetAdoption_absent {settings : AppSettings} {owner : String} {index : UInt32}
    {stale staleAfter : Bool}
    (h : prepareSubnetAdoption net settings subnet owner index stale snapshot staleAfter =
      .ok (some row)) :
    settings.adoptedMeta.lookup subnet = some row ∧ row.removalComplete = true ∧
      ∃ s, snapshot = .ok s ∧ ∀ i ∈ s.iface.ips, some i.address ≠ row.address := by
  unfold prepareSubnetAdoption at h
  split at h
  · cases h
  · next found hfound =>
    split at h
    · cases h
    · next hcomplete =>
      split at h
      · cases h
      · next s =>
        split at h
        · cases h
        · next hconfirmed =>
          cases h
          simp only [not_or, not_not] at hconfirmed
          have hdecided := decided_bindingAction net subnet row s.iface settings.networkMode
            s.dhcp []
          rw [hconfirmed.2.2.2.2.2.2] at hdecided
          refine ⟨hfound, by simp_all, s, rfl, ?_⟩
          cases hdecided with
          | absent ip prefixLen hsaved hd hobs =>
            rw [(savedAddress_eq_some hsaved).1]
            simpa using hobs

theorem reconcileBindings_lookup {settings : AppSettings} {available : Fallible Unit}
    {answers : String → Answers} {reconciled : AdoptedMeta × Trace}
    (h : (reconcileBindings net settings available snapshot answers).lookup subnet =
      some reconciled) :
    ∃ row, settings.adoptedMeta.lookup subnet = some row ∧ reconciled =
      reconcileBindingRow net .reconcileBindings subnet row snapshot settings.networkMode
        (settings.adoptedSubnets.lookup subnet) (answers subnet) := by
  cases available with
  | error e => cases h
  | ok u =>
    simp only [reconcileBindings, FiniteMap.lookup_mapValues, Option.map_eq_some_iff] at h
    obtain ⟨row, hrow, rfl⟩ := h
    exact ⟨row, hrow, rfl⟩

end Exact

/-- Every reconciled row is safe and truthful, but for a removal of the pass over all rows
that left its address with another prefix; a forgotten tombstone had no such exception. -/
theorem reconciliation_truthful (net : IpNetwork N) (snapshot : Fallible (Snapshot N)) :
    (∀ site subnet row mode exported a,
      Reported net row snapshot
        (reconcileBindingRow net site subnet row snapshot mode exported a) ↔
      ¬ PrefixChanged net site subnet row snapshot a) ∧
    (∀ settings available answers subnet reconciled,
      (reconcileBindings net settings available snapshot answers).lookup subnet =
          some reconciled →
        ∃ row, settings.adoptedMeta.lookup subnet = some row ∧
          (Reported net row snapshot reconciled ↔
            ¬ PrefixChanged net .reconcileBindings subnet row snapshot (answers subnet))) ∧
    ∀ settings subnet owner index stale staleAfter row,
      prepareSubnetAdoption net settings subnet owner index stale snapshot staleAfter =
          .ok (some row) →
        settings.adoptedMeta.lookup subnet = some row ∧ row.removalComplete = true ∧
          ∃ s, snapshot = .ok s ∧ ∀ i ∈ s.iface.ips, some i.address ≠ row.address := by
  have hrow : ∀ site subnet row mode exported a,
      Reported net row snapshot
        (reconcileBindingRow net site subnet row snapshot mode exported a) ↔
      ¬ PrefixChanged net site subnet row snapshot a := fun site subnet row mode exported a =>
    ⟨fun hr hp => not_reported_of_prefixChanged hp hr, reported_of_not_prefixChanged⟩
  refine ⟨hrow, ?_, ?_⟩
  · intro settings available answers subnet reconciled h
    obtain ⟨row, hlookup, rfl⟩ := reconcileBindings_lookup h
    exact ⟨row, hlookup, hrow _ _ _ _ _ _⟩
  · intro settings subnet owner index stale staleAfter row h
    exact prepareSubnetAdoption_absent h

def removedRow : AdoptedMeta :=
  { adapterMac := some "02:00:00:00:00:01", prefixLen := some 24
    address := some "192.168.5.100", desired := .removed, applied := true }

def listedSnapshot : Snapshot (Ipv4Addr × UInt8) :=
  { iface := ⟨"Ethernet", "02:00:00:00:00:01", [⟨"192.168.5.100", 24⟩], true⟩
    dhcp := false, index := 7, conflicts := [] }

/-- The removal succeeds, and the address is there again with another prefix. -/
def changedPrefix : Answers := ⟨.ok (), .ok [⟨"192.168.5.100", 25⟩], .ok ()⟩

theorem changed_prefix_reported_complete :
    ¬ Reported .cidr removedRow (.ok listedSnapshot)
      (reconcileBindingRow .cidr .reconcileBindings "192.168.5.0/24" removedRow
        (.ok listedSnapshot) .staticAuto none changedPrefix) := by
  intro h
  have hact : rowAction .cidr "192.168.5.0/24" removedRow (.ok listedSnapshot) .staticAuto none =
      .remove ⟨192, 168, 5, 100⟩ := by decide +kernel
  rw [reconcile_remove hact] at h
  exact h.complete rfl _ rfl ⟨"192.168.5.100", 25⟩ (List.mem_singleton.mpr rfl) rfl

/-- A requested removal reads the same answers as unconfirmed. -/
example : (reconcileBindingRow .cidr .removeSavedOperation "192.168.5.0/24" removedRow
    (.ok listedSnapshot) .staticAuto none changedPrefix).1.removalComplete = false := by
  decide +kernel

end PocketStream
