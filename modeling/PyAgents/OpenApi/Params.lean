import PyAgents.OpenApi.Entries

/-!
# The parameters of an entry

`build_entries` merges the path-level parameters of a path and the operation-level parameters
of one of its operations into a dict `merged`, keyed by `(p.get("name"), p.get("in"))` and
written path level first, and then summarizes the values of `merged` whose name is not empty.
Writing a key that is already present keeps its place and replaces its value. So `merged` holds
each key once, as Python compares keys, with the last parameter written under it: the last
operation-level one when the operation declares one, and otherwise the last path-level one.

This module states that reading of the loop in the terms of the loop's purpose (`keptParams`)
and shows that the `parameters` metadata of an entry is the sorted list of the summaries of the
kept parameters. The order of `merged`, the order in which the keys first appear, is lost to the
sort, and nothing here depends on it.

Keys compare as Python compares them. `True == 1`, so a parameter named `True` and one named `1`
in the same place are one key; `ParamKey.norm` picks one value for each such class.

## Main definitions

* `paramKey` — the key a parameter is merged under
* `keptParam`, `keptParams` — the parameter kept for a key, and the parameters an entry
  summarizes
* `MergedOf` — what `merged` holds after the loop has written a list of parameters

## Main results

* `mergeParams_mergedOf` — the loop leaves each key once, with the last parameter under it
* `operationEntry_parameters` — the `parameters` metadata of an entry is absent when no kept
  parameter has a name, and otherwise the sorted summaries of those that have one
* `pathEntries_parameters` — the same for the entry of every operation of a path item, whose
  path-level parameters are those of the item
-/

namespace PyAgents

/-! ## Keys as Python compares them -/

/-- The value that stands for a key among the keys `==` to it. -/
def ParamKey.norm (k : ParamKey) : ParamKey := (k.1.hashKey, k.2.hashKey)

theorem ParamKey.beq_iff {a b : ParamKey} : a.beq b ↔ a.norm = b.norm := by
  simp [ParamKey.beq, ParamKey.norm, PyVal.hashEq_iff_hashKey, Prod.ext_iff]

/-- `(p.get("name"), p.get("in"))` for a parameter `p` that is a dict: the key it is merged
under. -/
def paramKey : PyVal → ParamKey
  | .dict kvs => ((kvs.lookup "name").getD .none, (kvs.lookup "in").getD .none)
  | _ => (.none, .none)

theorem paramKey_fst_of_get {p x : PyVal} (h : p.get "name" = .ok x) : (paramKey p).1 = x := by
  cases p with
  | dict kvs => exact Except.ok.inj h
  | _ => cases h

theorem paramKey_of_get {p a b : PyVal} (ha : p.get "name" = .ok a) (hb : p.get "in" = .ok b) :
    paramKey p = (a, b) := by
  cases p with
  | dict kvs => cases ha; cases hb; rfl
  | _ => cases ha

/-! ## The parameters an entry keeps -/

/-- The last parameter of `ps` whose key is `key`. -/
def lastWithKey (ps : List PyVal) (key : ParamKey) : Option PyVal :=
  (ps.filter fun p => (paramKey p).norm = key).getLast?

/-- The parameter an entry keeps for `key`: the last operation-level parameter with that key if
the operation declares one, and otherwise the last path-level one. -/
def keptParam (pathParams opParams : List PyVal) (key : ParamKey) : Option PyVal :=
  (lastWithKey opParams key).or (lastWithKey pathParams key)

/-- The keys of the parameters `ps`, each once, as Python compares them. -/
def paramKeys (ps : List PyVal) : List ParamKey :=
  (ps.map fun p => (paramKey p).norm).dedup

/-- The parameters an entry summarizes: for each key of the path-level and operation-level
parameters, the one kept for it, when its name is not empty. -/
def keptParams (pathParams opParams : List PyVal) : List PyVal :=
  ((paramKeys (pathParams ++ opParams)).filterMap (keptParam pathParams opParams)).filter
    fun p => (paramKey p).1.truthy

/-- The parameter kept for a key is the last one with that key, path level first. -/
theorem keptParam_eq (pathParams opParams : List PyVal) :
    keptParam pathParams opParams = lastWithKey (pathParams ++ opParams) := by
  funext key
  simp [keptParam, lastWithKey, List.filter_append, List.getLast?_append]

theorem lastWithKey_append_singleton (ps : List PyVal) (p : PyVal) (key : ParamKey) :
    lastWithKey (ps ++ [p]) key =
      if (paramKey p).norm = key then some p else lastWithKey ps key := by
  by_cases h : (paramKey p).norm = key <;> simp [lastWithKey, List.filter_append, h]

/-! ## One write into `merged` -/

/-- The keys of `merged`, as Python compares them. -/
def keysOf (R : List (ParamKey × PyVal)) : List ParamKey := R.map fun e => e.1.norm

/-- `merged[key] = p` adds `key` at the end unless it is there. -/
theorem keysOf_assocSetKey (R : List (ParamKey × PyVal)) (key : ParamKey) (p : PyVal) :
    keysOf (assocSetKey R key p) =
      if key.norm ∈ keysOf R then keysOf R else keysOf R ++ [key.norm] := by
  induction R with
  | nil => rfl
  | cons e R ih =>
    obtain ⟨k, q⟩ := e
    by_cases hk : k.norm = key.norm
    · simp [assocSetKey, keysOf, ParamKey.beq_iff.mpr hk, hk]
    · have hb : ¬k.beq key = true := fun h => hk (ParamKey.beq_iff.mp h)
      simp only [keysOf] at ih
      simp only [assocSetKey, if_neg hb, keysOf, List.map_cons, ih, List.mem_cons, Ne.symm hk,
        false_or]
      split_ifs <;> rfl

/-- After `merged[key] = p`, an entry of a `merged` with distinct keys is the written one or an
entry under another key that was there before. -/
theorem mem_assocSetKey {R : List (ParamKey × PyVal)} (hR : (keysOf R).Nodup) {key : ParamKey}
    {p : PyVal} {e : ParamKey × PyVal} (he : e ∈ assocSetKey R key p) :
    e.1.norm = key.norm ∧ e.2 = p ∨ e ∈ R ∧ e.1.norm ≠ key.norm := by
  induction R with
  | nil =>
    obtain rfl := List.mem_singleton.mp he
    exact .inl ⟨rfl, rfl⟩
  | cons e' R ih =>
    obtain ⟨k, q⟩ := e'
    simp only [keysOf, List.map_cons, List.nodup_cons] at hR
    by_cases hk : k.norm = key.norm
    · rw [assocSetKey, if_pos (ParamKey.beq_iff.mpr hk)] at he
      rcases List.mem_cons.mp he with rfl | he
      · exact .inl ⟨hk, rfl⟩
      · refine .inr ⟨List.mem_cons_of_mem _ he, fun h => hR.1 ?_⟩
        rw [hk, ← h]
        exact List.mem_map_of_mem _ he
    · rw [assocSetKey, if_neg fun h => hk (ParamKey.beq_iff.mp h)] at he
      rcases List.mem_cons.mp he with rfl | he
      · exact .inr ⟨List.mem_cons_self _ _, hk⟩
      · exact (ih hR.2 he).imp_right fun ⟨h1, h2⟩ => ⟨List.mem_cons_of_mem _ h1, h2⟩

/-- What `merged` holds after the loop has written the parameters `ps`: each key of `ps` once,
as Python compares keys, with the last parameter of `ps` under it. -/
structure MergedOf (ps : List PyVal) (R : List (ParamKey × PyVal)) : Prop where
  nodup : (keysOf R).Nodup
  mem_keysOf : ∀ k, k ∈ keysOf R ↔ k ∈ ps.map fun p => (paramKey p).norm
  lastWithKey_eq : ∀ e ∈ R, lastWithKey ps e.1.norm = some e.2

theorem MergedOf.nil : MergedOf [] [] :=
  ⟨List.nodup_nil, fun _ => Iff.rfl, fun _ h => absurd h (List.not_mem_nil _)⟩

/-- One write `merged[(p.get("name"), p.get("in"))] = p` keeps the invariant. -/
theorem MergedOf.write {ps : List PyVal} {R : List (ParamKey × PyVal)} (hR : MergedOf ps R)
    (p : PyVal) : MergedOf (ps ++ [p]) (assocSetKey R (paramKey p) p) where
  nodup := by
    rw [keysOf_assocSetKey]
    split_ifs with h
    · exact hR.nodup
    · exact hR.nodup.append (List.nodup_singleton _) (List.disjoint_singleton.mpr h)
  mem_keysOf k := by
    rw [keysOf_assocSetKey, List.map_append, List.mem_append, ← hR.mem_keysOf]
    split_ifs with h
    · simpa using fun hk : k = (paramKey p).norm => hk ▸ h
    · simp
  lastWithKey_eq e he := by
    rw [lastWithKey_append_singleton]
    rcases mem_assocSetKey hR.nodup he with ⟨h1, h2⟩ | ⟨h1, h2⟩
    · rw [if_pos h1.symm, h2]
    · rw [if_neg (Ne.symm h2), hR.lastWithKey_eq e h1]

theorem mergeParams_cons_eq_ok {acc : List (ParamKey × PyVal)} {p : PyVal} {ps : List PyVal}
    {R : List (ParamKey × PyVal)} (h : mergeParams acc (p :: ps) = .ok R) :
    mergeParams (assocSetKey acc (paramKey p) p) ps = .ok R := by
  simp only [mergeParams, bind_eq_ok] at h
  obtain ⟨a, ha, b, hb, h⟩ := h
  rw [paramKey_of_get ha hb]
  split_ifs at h
  exact h

/-- **The loop over the parameters.** When the loop returns, `merged` holds each key of the
parameters once, as Python compares keys, with the last parameter under it. -/
theorem mergeParams_mergedOf {qs : List PyVal} {acc : List (ParamKey × PyVal)}
    (hacc : MergedOf qs acc) :
    ∀ {ps R}, mergeParams acc ps = .ok R → MergedOf (qs ++ ps) R
  | [], _, h => by
    cases h
    simpa using hacc
  | p :: ps, R, h => by
    simpa using mergeParams_mergedOf (hacc.write p) (mergeParams_cons_eq_ok h)

/-- The parameters left in `merged` are, up to order, the ones kept for the keys of `ps`. -/
theorem MergedOf.perm {ps : List PyVal} {R : List (ParamKey × PyVal)} (hR : MergedOf ps R) :
    (R.map Prod.snd).Perm ((paramKeys ps).filterMap (lastWithKey ps)) := by
  have hvals : (keysOf R).filterMap (lastWithKey ps) = R.map Prod.snd := by
    rw [keysOf, List.filterMap_map, ← List.filterMap_eq_map]
    exact List.filterMap_congr fun e he => hR.lastWithKey_eq e he
  have hkeys : (keysOf R).Perm (paramKeys ps) :=
    (List.perm_ext_iff_of_nodup hR.nodup (List.nodup_dedup _)).mpr fun k =>
      (hR.mem_keysOf k).trans List.mem_dedup.symm
  rw [← hvals]
  exact hkeys.filterMap _

/-! ## The summaries in an entry -/

section

variable (J : JsonCodec) (fuel : Nat) (spec : PyVal)

/-- The loop `for p in merged.values(): if p.get("name"): param_strings.append(...)` summarizes
the values of `merged` whose name is not empty, in order. -/
theorem summaries_of_mapM {R : List (ParamKey × PyVal)} {named : List (Option String)}
    (h : R.mapM (fun kp => do
      if (← kp.2.get "name").truthy then some <$> summarizeParameter J fuel kp.2 spec
      else pure none) = .ok named) :
    ((R.map Prod.snd).filter fun p => (paramKey p).1.truthy).mapM
      (summarizeParameter J fuel · spec) = .ok (named.filterMap id) := by
  induction R generalizing named with
  | nil => cases h; rfl
  | cons e R ih =>
    obtain ⟨y, ys, hy, hys, rfl⟩ := mapM_cons_eq_ok.mp h
    obtain ⟨x, hx, hy⟩ := bind_eq_ok.mp hy
    simp only [List.map_cons, List.filter_cons, paramKey_fst_of_get hx]
    split_ifs at hy ⊢ with ht
    · cases hs : summarizeParameter J fuel e.2 spec with
      | error err => rw [hs] at hy; cases hy
      | ok s =>
        rw [hs] at hy
        cases hy
        exact mapM_cons_eq_ok.mpr ⟨s, _, hs, ih hys, rfl⟩
    · cases hy
      have := ih hys
      exact this

theorem lookup_optionalItem {k : String} (key : String) (hk : k ≠ key) (text : String) :
    (optionalItem k text).lookup key = none := by
  have hb : (key == k) = false := by simpa using hk.symm
  unfold optionalItem
  split_ifs
  · rfl
  · rw [List.lookup_cons, hb]
    rfl

/-- **The parameters of an entry.** When the entry of an operation is computed, its
`parameters` metadata is absent when no parameter kept for a key has a name, and otherwise the
sorted list of the summaries of those that have one. -/
theorem operationEntry_parameters {maxDepth : Int} {path : String} {pathParams : List PyVal}
    {m : String} {op v : PyVal}
    (h : operationEntry J fuel spec maxDepth path pathParams m op = .ok v) :
    ∃ opParams strs items, derefParameters fuel op spec = .ok opParams ∧
      (keptParams pathParams opParams).mapM (summarizeParameter J fuel · spec) = .ok strs ∧
      v.get "metadata" = .ok (.dict items) ∧
      ((strs = [] ∧ items.lookup "parameters" = none) ∨
        (strs ≠ [] ∧ ∃ L : List String, items.lookup "parameters" = some (.list (L.map .str)) ∧
          L.Sorted (· ≤ ·) ∧ L.Perm strs)) := by
  simp only [operationEntry, bind_eq_ok, pure_eq_ok] at h
  obtain ⟨_, _, _, _, _, _, _, _, _, _, _, _, opParams, hop, R, hR, named, hnamed, rb, _, rfl⟩ :=
    h
  have hkept := ((mergeParams_mergedOf MergedOf.nil hR).perm.filter
    fun p => (paramKey p).1.truthy)
  rw [List.nil_append, ← keptParam_eq pathParams opParams] at hkept
  obtain ⟨strs, hstrs, hp⟩ := mapM_perm_ok hkept (summaries_of_mapM J fuel spec hnamed)
  have hL := (List.perm_insertionSort (· ≤ ·) (named.filterMap id)).trans hp
  refine ⟨opParams, strs, _, hop, hstrs, rfl, ?_⟩
  simp only [List.lookup_append, lookup_optionalItem _ (by decide : "summary" ≠ "parameters"),
    lookup_optionalItem _ (by decide : "description" ≠ "parameters"),
    lookup_optionalItem _ (by decide : "requestBody" ≠ "parameters"), List.isEmpty_iff]
  by_cases hs : strs = []
  · subst hs
    refine .inl ⟨rfl, ?_⟩
    rw [if_pos hL.eq_nil]
    rfl
  · have hne : (named.filterMap id).insertionSort (· ≤ ·) ≠ [] := fun h => hs (h ▸ hL).symm.eq_nil
    haveI : IsTotal String (· ≤ ·) := ⟨fun (a b : String) => le_total a b⟩
    haveI : IsTrans String (· ≤ ·) :=
      ⟨fun (a b c : String) (h1 : a ≤ b) (h2 : b ≤ c) => le_trans h1 h2⟩
    refine .inr ⟨hs, _, ?_, List.sorted_insertionSort _ _, hL⟩
    rw [if_neg hne]
    rfl


/-- **The parameters of every entry of a path.** For every path item whose entries are computed
and every operation of it, the `parameters` metadata of the operation's entry is absent when no
parameter kept for a key has a name, and otherwise the sorted list of the summaries of the kept
parameters that have one. The keys range over the dereferenced parameters of the path item and
of the operation, and the parameter kept for a key is the last operation-level one with that
key, or else the last path-level one. -/
theorem pathEntries_parameters {maxDepth : Int} {ms : List String} {path : String} {item : PyVal}
    {block : List PyVal} (h : pathEntries J fuel spec maxDepth ms path item = .ok block)
    {m : String} (hm : m ∈ ms.filter (hasOperation item)) :
    ∃ op pathParams opParams strs items,
      item.get m = .ok op ∧ derefParameters fuel item spec = .ok pathParams ∧
      derefParameters fuel op spec = .ok opParams ∧
      (keptParams pathParams opParams).mapM (summarizeParameter J fuel · spec) = .ok strs ∧
      (entryOf J fuel spec maxDepth path item m).get "metadata" = .ok (.dict items) ∧
      ((strs = [] ∧ items.lookup "parameters" = none) ∨
        (strs ≠ [] ∧ ∃ L : List String, items.lookup "parameters" = some (.list (L.map .str)) ∧
          L.Sorted (· ≤ ·) ∧ L.Perm strs)) := by
  cases item with
  | dict kvs =>
    simp only [pathEntries] at h
    obtain ⟨pp, hpp, h⟩ := bind_eq_ok.mp h
    obtain ⟨v, hv⟩ := ok_of_mapM_ok h m hm
    obtain ⟨opParams, strs, items, hop, hstrs, hitems, hlook⟩ :=
      operationEntry_parameters J fuel spec hv
    exact ⟨_, pp, opParams, strs, items, rfl, hpp, hop, hstrs,
      by simp [entryOf, hpp, hv, hitems], hlook⟩
  | _ => simp [hasOperation] at hm

/-- The operation's parameter `id` replaces the path's, and the parameter with an empty name is
left out. -/
theorem pathEntries_parameters_override :
    let item : PyVal := .dict [
      ("parameters", .list [.dict [("name", .str "id"), ("in", .str "path")],
        .dict [("name", .str ""), ("in", .str "query")]]),
      ("get", .dict [("parameters", .list [.dict [("name", .str "id"), ("in", .str "path"),
        ("required", .bool true)]])])]
    pathEntries refCodec 4 (.dict []) 2 ["get"] "/items" item =
        .ok [.dict [("content", .str ""), ("metadata", .dict [("endpoint", .str "/items"),
          ("method", .str "GET"), ("parameters", .list [.str "path:id — any (required)"])])]] ∧
      "get" ∈ ["get"].filter (hasOperation item) ∧
      ∃ op pathParams opParams strs items,
        item.get "get" = .ok op ∧ derefParameters 4 item (.dict []) = .ok pathParams ∧
        derefParameters 4 op (.dict []) = .ok opParams ∧
        (keptParams pathParams opParams).mapM (summarizeParameter refCodec 4 · (.dict [])) =
          .ok strs ∧
        (entryOf refCodec 4 (.dict []) 2 "/items" item "get").get "metadata" = .ok (.dict items) ∧
        ((strs = [] ∧ items.lookup "parameters" = none) ∨
          (strs ≠ [] ∧ ∃ L : List String, items.lookup "parameters" = some (.list (L.map .str)) ∧
            L.Sorted (· ≤ ·) ∧ L.Perm strs)) := by
  intro item
  exact ⟨rfl, by decide,
    @pathEntries_parameters refCodec 4 (.dict []) 2 ["get"] "/items" item _ rfl "get" (by decide)⟩

end

end PyAgents
