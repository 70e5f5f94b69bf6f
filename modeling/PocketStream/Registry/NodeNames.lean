import PocketStream.Registry.ChangesExact

/-! # Records named by manual nodes

Hydration gives the record of each manual node its alias, and a node without a record a
record. Where all have theirs, the last node of a record names it.
-/

namespace PocketStream

open Foundation

namespace Devices

variable {m m' : Devices}

def nodeKey (m : Devices) (node : ManualNode) : String :=
  (node.expectedMac.bind (recordKeyForMac m)).getD (manualNodeKey node)

/-- The alias that the last of its nodes gives a record. -/
def lastAlias (m : Devices) (nodes : List ManualNode) (key : String) : Option String :=
  (nodes.filter fun node => m.nodeKey node = key).getLast?.map (·.aliasName)

/-- The nodes name records the registry has, some of them anew, and in the end all as before. -/
def Restores (m : Devices) (nodes : List ManualNode) : Prop :=
  (∀ node ∈ nodes, m.nodeKey node ∈ m ∧
    m.lastAlias nodes (m.nodeKey node) = some (m.aliasAt (m.nodeKey node))) ∧
  ∃ node ∈ nodes, m.aliasAt (m.nodeKey node) ≠ node.aliasName

theorem nodeKey_congr (h : m'.keys = m.keys) (node : ManualNode) :
    m'.nodeKey node = m.nodeKey node := by
  have hmem (mac : String) : mac ∈ m' ↔ mac ∈ m := by
    rw [← Finmap.mem_keys, h, Finmap.mem_keys]
  have hfound : recordKeyForMac m' = recordKeyForMac m := by
    funext mac
    simp only [recordKeyForMac, hmem, FiniteMap.findKey, h]
  rw [nodeKey, hfound, nodeKey]

theorem hydrateNode_known {node : ManualNode} {s : DeviceRecord}
    (hs : m.lookup (m.nodeKey node) = some s) (now : String) (changed : Bool) :
    hydrateNode now (changed, m) node = (changed || s.aliasName != node.aliasName,
      m.insert (m.nodeKey node) { s with aliasName := node.aliasName }) := by
  unfold hydrateNode
  dsimp only
  rw [show (node.expectedMac.bind (recordKeyForMac m)).getD (manualNodeKey node) = m.nodeKey node
    from rfl, hs]
  dsimp only
  split
  · next hne => rw [bne_iff_ne.mpr hne, Bool.or_true]
  · next hsame =>
    rw [not_not] at hsame
    rw [← hsame, bne_self_eq_false, Bool.or_false, FiniteMap.insert_eq_self.mpr hs]

theorem hydrateNode_flag (now : String) (node : ManualNode) :
    (hydrateNode now (true, m) node).1 = true := by
  unfold hydrateNode
  dsimp only
  split
  · split <;> rfl
  · rfl

theorem hydrate_flag (now : String) (nodes : List ManualNode) (m : Devices) :
    (nodes.foldl (hydrateNode now) (true, m)).1 = true := by
  induction nodes generalizing m with
  | nil => rfl
  | cons node nodes ih =>
    have hflag := hydrateNode_flag (m := m) now node
    rw [List.foldl_cons, show hydrateNode now (true, m) node =
      (true, (hydrateNode now (true, m) node).2) from Prod.ext hflag rfl]
    exact ih _

theorem mem_hydrateNode (now : String) (found : Bool × Devices) (node : ManualNode) {k : String}
    (hk : k ∈ found.2) : k ∈ (hydrateNode now found node).2 := by
  unfold hydrateNode
  dsimp only
  split
  · split
    · exact Finmap.mem_insert.mpr (.inr hk)
    · exact hk
  · exact Finmap.mem_insert.mpr (.inr hk)

theorem mem_hydrate (now : String) (nodes : List ManualNode) (found : Bool × Devices) {k : String}
    (hk : k ∈ found.2) : k ∈ (nodes.foldl (hydrateNode now) found).2 := by
  induction nodes generalizing found with
  | nil => exact hk
  | cons node nodes ih => exact ih _ (mem_hydrateNode now found node hk)

/-- A node without a record leaves one. -/
theorem hydrate_unknown {nodes : List ManualNode} (now : String) (changed : Bool)
    (h : ∃ node ∈ nodes, m.nodeKey node ∉ m) :
    (nodes.foldl (hydrateNode now) (changed, m)).1 = true ∧
      ∃ k, k ∉ m ∧ k ∈ (nodes.foldl (hydrateNode now) (changed, m)).2 := by
  induction nodes generalizing m changed with
  | nil =>
    obtain ⟨node, hnode, -⟩ := h
    cases hnode
  | cons node nodes ih =>
    rw [List.foldl_cons]
    cases hs : m.lookup (m.nodeKey node) with
    | none =>
      have hnew : hydrateNode now (changed, m) node =
          (true, m.insert (m.nodeKey node) (.pinned (m.nodeKey node) node now)) := by
        unfold hydrateNode
        dsimp only
        rw [show (node.expectedMac.bind (recordKeyForMac m)).getD (manualNodeKey node) =
          m.nodeKey node from rfl, hs]
      rw [hnew]
      refine ⟨hydrate_flag now nodes _, m.nodeKey node, Finmap.lookup_eq_none.mp hs, ?_⟩
      exact mem_hydrate now nodes _ (Finmap.mem_insert.mpr (.inl rfl))
    | some s =>
      have hmem := Finmap.mem_of_lookup_eq_some hs
      have hkeys : (m.insert (m.nodeKey node) { s with aliasName := node.aliasName }).keys =
          m.keys := by
        rw [FiniteMap.keys_insert, Finset.insert_eq_of_mem (Finmap.mem_keys.mpr hmem)]
      obtain ⟨unknown, hunknown, hnot⟩ := h
      have hrest : unknown ∈ nodes :=
        (List.mem_cons.mp hunknown).resolve_left fun he => hnot (he ▸ hmem)
      rw [hydrateNode_known hs]
      obtain ⟨hflag, k, hk, hkept⟩ := ih (changed || s.aliasName != node.aliasName)
        ⟨unknown, hrest, by rwa [nodeKey_congr hkeys, ← Finmap.mem_keys, hkeys, Finmap.mem_keys]⟩
      refine ⟨hflag, k, ?_, hkept⟩
      rwa [← Finmap.mem_keys, hkeys, Finmap.mem_keys] at hk

theorem lastAlias_cons {node : ManualNode} (nodes : List ManualNode) (key fallback : String) :
    (m.lastAlias (node :: nodes) key).getD fallback =
      (m.lastAlias nodes key).getD (if m.nodeKey node = key then node.aliasName else fallback) := by
  unfold lastAlias
  rw [List.filter_cons]
  by_cases hkey : m.nodeKey node = key
  · rw [if_pos (decide_eq_true hkey), if_pos hkey, List.getLast?_cons]
    cases (nodes.filter fun node => m.nodeKey node = key).getLast? <;> rfl
  · rw [if_neg (by simpa using hkey), if_neg hkey]

/-- Nodes of records the registry has name each as its last one says. -/
theorem hydrate_known {nodes : List ManualNode} (now : String) (changed : Bool)
    (h : ∀ node ∈ nodes, m.nodeKey node ∈ m) :
    (nodes.foldl (hydrateNode now) (changed, m)).1 =
        (changed || nodes.any fun node => m.aliasAt (m.nodeKey node) != node.aliasName) ∧
      ∀ k, (nodes.foldl (hydrateNode now) (changed, m)).2.lookup k = (m.lookup k).map fun s =>
        { s with aliasName := (m.lastAlias nodes k).getD s.aliasName } := by
  induction nodes generalizing m changed with
  | nil => exact ⟨(Bool.or_false _).symm, fun _ => Option.map_id'.symm⟩
  | cons node nodes ih =>
    obtain ⟨s, hs⟩ := Finmap.mem_iff.mp (h node List.mem_cons_self)
    have hkeys : (m.insert (m.nodeKey node) { s with aliasName := node.aliasName }).keys =
        m.keys := by
      rw [FiniteMap.keys_insert,
        Finset.insert_eq_of_mem (Finmap.mem_keys.mpr (Finmap.mem_of_lookup_eq_some hs))]
    have hnodeKey := nodeKey_congr hkeys
    have hlast (k : String) : lastAlias (m.insert (m.nodeKey node)
        { s with aliasName := node.aliasName }) nodes k = m.lastAlias nodes k := by
      simp only [lastAlias, hnodeKey]
    rw [List.foldl_cons, hydrateNode_known hs]
    have hrest : ∀ next ∈ nodes, nodeKey (m.insert (m.nodeKey node)
        { s with aliasName := node.aliasName }) next ∈
          m.insert (m.nodeKey node) { s with aliasName := node.aliasName } := by
      intro next hnext
      rw [hnodeKey, ← Finmap.mem_keys, hkeys, Finmap.mem_keys]
      exact h next (List.mem_cons_of_mem _ hnext)
    obtain ⟨hflag, hlookup⟩ := ih (changed || s.aliasName != node.aliasName) hrest
    refine ⟨?_, fun k => ?_⟩
    · rw [hflag, List.any_cons, aliasAt_eq hs, ← Bool.or_assoc]
      by_cases hsame : s.aliasName = node.aliasName
      · rw [← hsame, FiniteMap.insert_eq_self.mpr hs]
      · rw [bne_iff_ne.mpr hsame, Bool.or_true, Bool.true_or, Bool.true_or]
    · rw [hlookup, hlast, FiniteMap.lookup_insert]
      by_cases hk : k = m.nodeKey node
      · subst hk
        rw [if_pos rfl, hs, Option.map_some, Option.map_some, lastAlias_cons, if_pos rfl]
      · rw [if_neg hk]
        cases m.lookup k with
        | none => rfl
        | some x => rw [Option.map_some, Option.map_some, lastAlias_cons, if_neg (Ne.symm hk)]

theorem lastAlias_eq_some {nodes : List ManualNode} {key aliasName : String}
    (h : m.lastAlias nodes key = some aliasName) :
    ∃ node ∈ nodes, m.nodeKey node = key ∧ node.aliasName = aliasName := by
  obtain ⟨node, hnode, halias⟩ := Option.map_eq_some_iff.mp h
  obtain ⟨hmem, hkey⟩ := List.mem_filter.mp (List.mem_of_getLast? hnode)
  exact ⟨node, hmem, of_decide_eq_true hkey, halias⟩

theorem lastAlias_isSome {nodes : List ManualNode} {node : ManualNode} (h : node ∈ nodes) :
    ∃ aliasName, m.lastAlias nodes (m.nodeKey node) = some aliasName := by
  have hne : (nodes.filter fun next => m.nodeKey next = m.nodeKey node) ≠ [] :=
    List.ne_nil_of_mem (List.mem_filter.mpr ⟨h, decide_eq_true rfl⟩)
  rw [lastAlias, List.getLast?_eq_some_getLast hne]
  exact ⟨_, rfl⟩

/-- Known nodes leave the records as they were where the last ones name them so. -/
theorem hydrate_back_iff {nodes : List ManualNode} (now : String)
    (h : ∀ node ∈ nodes, m.nodeKey node ∈ m) :
    (nodes.foldl (hydrateNode now) (false, m)).2 = m ↔ ∀ node ∈ nodes,
      m.lastAlias nodes (m.nodeKey node) = some (m.aliasAt (m.nodeKey node)) := by
  have hlookup := (hydrate_known now false h).2
  constructor
  · intro hback node hnode
    obtain ⟨s, hs⟩ := Finmap.mem_iff.mp (h node hnode)
    obtain ⟨aliasName, hlast⟩ := lastAlias_isSome (m := m) hnode
    have hkept := hlookup (m.nodeKey node)
    rw [hback, hs, Option.map_some, hlast] at hkept
    rw [hlast, aliasAt_eq hs, congrArg DeviceRecord.aliasName (Option.some.inj hkept)]
    rfl
  · intro hnamed
    refine Finmap.ext_lookup fun k => ?_
    rw [hlookup]
    cases hs : m.lookup k with
    | none => rfl
    | some s =>
      cases hlast : m.lastAlias nodes k with
      | none => rfl
      | some aliasName =>
        obtain ⟨node, hnode, rfl, -⟩ := lastAlias_eq_some hlast
        have halias := Option.some.inj (hlast.symm.trans (hnamed node hnode))
        rw [Option.map_some, Option.getD_some, halias, aliasAt_eq hs]

theorem exact_hydrate_iff (m : Devices) (nodes : List ManualNode) (now : String) :
    Exact (nodes.foldl (hydrateNode now) (false, m)).1 m
      (nodes.foldl (hydrateNode now) (false, m)).2 ↔ ¬ m.Restores nodes := by
  by_cases hknown : ∀ node ∈ nodes, m.nodeKey node ∈ m
  · have hflag := (hydrate_known now false hknown).1
    have hback := hydrate_back_iff now hknown
    rw [Exact, hflag, Bool.false_or, List.any_eq_true, ne_eq, hback]
    simp only [bne_iff_ne]
    constructor
    · rintro hexact ⟨hnamed, hrenamed⟩
      exact hexact.mp hrenamed fun node hnode => (hnamed node hnode).2
    · intro hrestores
      constructor
      · exact fun hrenamed hnamed =>
          hrestores ⟨fun node hnode => ⟨hknown node hnode, hnamed node hnode⟩, hrenamed⟩
      · intro hnot
        by_contra hsame
        refine hnot fun node hnode => ?_
        obtain ⟨aliasName, hlast⟩ := lastAlias_isSome (m := m) hnode
        obtain ⟨last, hmem, hkey, rfl⟩ := lastAlias_eq_some hlast
        rw [hlast, ← hkey]
        by_contra hne
        exact hsame ⟨last, hmem, fun he => hne (congrArg some he.symm)⟩
  · have hunknown : ∃ node ∈ nodes, m.nodeKey node ∉ m := by
      by_contra hnone
      exact hknown fun node hnode => not_not.mp fun hnot => hnone ⟨node, hnode, hnot⟩
    obtain ⟨hflag, k, hk, hkept⟩ := hydrate_unknown now false hunknown
    refine iff_of_true ⟨fun _ hback => hk (hback ▸ hkept), fun _ => hflag⟩ ?_
    rintro ⟨hnamed, -⟩
    exact hknown fun node hnode => (hnamed node hnode).1

end Devices

end PocketStream
