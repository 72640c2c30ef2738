import PyAgents.OpenApi.Deref

/-!
# `deref` as inline expansion

On a document whose references form no cycle, `deref` is the plain inline expansion: each
reference replaced by the expansion of its target with the reference's other keys assigned over
it, or by `{}` when it resolves to `None`, and every other dict and list expanded member by
member. `seen` only ever cuts a cycle, never a reference that is merely shared, because each
member of a dict or a list is dereferenced with its own copy of `seen`.

Two more conditions are needed. The references are strings, so that `ref in seen` compares
pointers. And the keys beside a `$ref` hold no references: such a reference would be followed
with the reference beside it already in `seen`, though no cycle leads there.

## Siblings along a chain

Following a reference whose target is itself a reference keeps the first reference's other keys:
they are assigned over the first target, and so stand beside the second reference. A chain of
references can carry keys to a target that is not a dict, and then `deref` raises the `TypeError`
of `merged[k] = v`. Asking of each reference as it stands in the document that it have a dict as
target when keys stand beside it does not rule this out (`deref_chain_typeError`). The expansion
here merges as `deref` does, so the two have the same outcome, exceptions included.

## Main results

* `deref_eq_inlineExpand` — on an acyclic document, with string references and siblings without
  references, `deref` and the inline expansion have the same outcome at every fuel
* `deref_chain_typeError` — a document whose references all meet those conditions and have a
  dict as target when keys stand beside them, on which `deref` raises
-/

namespace PyAgents

namespace PyVal

mutual
/-- The dicts in `v`, `v` included, through dicts and lists, each as its list of items. -/
def dicts : PyVal → List (List (String × PyVal))
  | .list xs => dictsList xs
  | .dict kvs => kvs :: dictsDict kvs
  | _ => []
/-- `dicts` over items. -/
def dictsList : List PyVal → List (List (String × PyVal))
  | [] => []
  | x :: xs => dicts x ++ dictsList xs
/-- `dicts` over the values of a dict. -/
def dictsDict : List (String × PyVal) → List (List (String × PyVal))
  | [] => []
  | (_, x) :: kvs => dicts x ++ dictsDict kvs
end

theorem mem_dictsList {d : List (String × PyVal)} :
    ∀ {xs : List PyVal}, d ∈ dictsList xs ↔ ∃ x ∈ xs, d ∈ x.dicts
  | [] => by simp [dictsList]
  | x :: xs => by simp [dictsList, mem_dictsList]

theorem mem_dictsDict {d : List (String × PyVal)} :
    ∀ {kvs : List (String × PyVal)}, d ∈ dictsDict kvs ↔ ∃ kv ∈ kvs, d ∈ kv.2.dicts
  | [] => by simp [dictsDict]
  | (k, x) :: kvs => by simp [dictsDict, mem_dictsDict]

theorem mem_dicts_dict {d kvs : List (String × PyVal)} :
    d ∈ (PyVal.dict kvs).dicts ↔ d = kvs ∨ ∃ kv ∈ kvs, d ∈ kv.2.dicts := by
  simp [dicts, mem_dictsDict]

theorem mem_dicts_list {d : List (String × PyVal)} {xs : List PyVal} :
    d ∈ (PyVal.list xs).dicts ↔ ∃ x ∈ xs, d ∈ x.dicts := by
  simp [dicts, mem_dictsList]

end PyVal

/-! ## The conditions -/

section Conditions

variable (doc : PyVal)

/-- `r'` is a reference inside the target of the reference `r`. -/
def RefEdge (r r' : PyVal) : Prop := ∃ t, resolvePointer doc r = .ok t ∧ r' ∈ t.refs

/-- No reference leads back to itself through the references inside the targets. -/
def Acyclic : Prop := ∀ r, ¬Relation.TransGen (RefEdge doc) r r

/-- Each reference in `v` with keys beside it has a dict as target. -/
def ObjectTargets (v : PyVal) : Prop :=
  ∀ kvs ∈ v.dicts, ∀ ref, kvs.lookup "$ref" = some ref → (∃ kv ∈ kvs, kv.1 ≠ "$ref") →
    ∃ tkvs, resolvePointer doc ref = .ok (.dict tkvs)

end Conditions

/-- Every `$ref` value in `v` is a string. -/
def stringRefs (v : PyVal) : Bool :=
  v.refs.all fun r => match r with
    | .str _ => true
    | _ => false

/-- The keys beside each `$ref` in `v` hold no references. -/
def siblingsFree (v : PyVal) : Bool :=
  v.dicts.all fun kvs => (kvs.lookup "$ref").isNone || kvs.all fun kv => kv.1 == "$ref" || kv.2.refs.isEmpty

theorem RefEdge.mem_refs {doc r r' : PyVal} (h : RefEdge doc r r') : r' ∈ doc.refs :=
  let ⟨_, ht, hr⟩ := h
  (resolvePointer_sub ht).1 hr

/-- A document without references has no cycle. -/
theorem Acyclic.of_refs_nil {doc : PyVal} (h : doc.refs = []) : Acyclic doc := fun r hr => by
  obtain ⟨_, -, he⟩ := Relation.TransGen.tail'_iff.mp hr
  simpa [h] using he.mem_refs

theorem exists_str_of_stringRefs {v r : PyVal} (hv : stringRefs v) (hr : r ∈ v.refs) :
    ∃ s, r = .str s := by
  have := List.all_eq_true.mp hv r hr
  cases r <;> first | exact ⟨_, rfl⟩ | cases this

theorem stringRefs_of_subset {v w : PyVal} (hw : stringRefs w) (h : v.refs ⊆ w.refs) :
    stringRefs v :=
  List.all_eq_true.mpr fun r hr => List.all_eq_true.mp hw r (h hr)

theorem refs_nil_of_siblingsFree {v : PyVal} (hv : siblingsFree v) {kvs : List (String × PyVal)}
    (hd : kvs ∈ v.dicts) (href : (kvs.lookup "$ref").isSome) {kv : String × PyVal} (hkv : kv ∈ kvs)
    (hk : kv.1 ≠ "$ref") : kv.2.refs = [] := by
  have := List.all_eq_true.mp hv kvs hd
  simp only [Bool.or_eq_true, Option.isNone_iff_eq_none, List.all_eq_true] at this
  rcases this with h | h
  · simp [h] at href
  · simpa [hk] using h kv hkv

theorem siblingsFree_of_subset {v w : PyVal} (hw : siblingsFree w) (h : v.dicts ⊆ w.dicts) :
    siblingsFree v :=
  List.all_eq_true.mpr fun kvs hkvs => List.all_eq_true.mp hw kvs (h hkvs)

/-! ## What a target and a merged target hold -/

theorem walkPointer_dicts : ∀ (doc : PyVal) (ps : List String),
    (walkPointer doc ps).dicts ⊆ doc.dicts
  | _, [] => by simp only [walkPointer]; exact List.Subset.refl _
  | .dict kvs, p :: ps => by
    simp only [walkPointer]
    cases hp : kvs.lookup p with
    | none => exact List.nil_subset _
    | some x =>
      refine (walkPointer_dicts x ps).trans fun d hd => ?_
      exact PyVal.mem_dicts_dict.mpr (.inr ⟨_, PyVal.mem_of_lookup hp, hd⟩)
  | .none, _ :: _ | .bool _, _ :: _ | .int _, _ :: _ | .str _, _ :: _ | .list _, _ :: _
  | .set _, _ :: _ | .bytes _, _ :: _ | .object _, _ :: _ | .unset, _ :: _ => List.nil_subset _

theorem resolvePointer_dicts {doc ref target : PyVal} (h : resolvePointer doc ref = .ok target) :
    target.dicts ⊆ doc.dicts := by
  unfold resolvePointer at h
  split at h
  · split at h <;> cases h
    · exact walkPointer_dicts doc _
    · exact List.nil_subset _
  · cases h

/-- Assigning keys other than `$ref` over `target`: the result is the target, or a dict with the
target's `$ref` whose items are the target's or the assigned ones. -/
theorem foldlM_setItem_items : ∀ (L : List (String × PyVal)) {target merged : PyVal},
    (∀ kv ∈ L, kv.1 ≠ "$ref") → L.foldlM (fun m kv => m.setItem kv.1 kv.2) target = .ok merged →
    merged = target ∨ ∃ tkvs mkvs, target = .dict tkvs ∧ merged = .dict mkvs ∧
      mkvs.lookup "$ref" = tkvs.lookup "$ref" ∧ ∀ kv ∈ mkvs, kv ∈ tkvs ∨ kv ∈ L
  | [], _, _, _, h => by cases h; exact .inl rfl
  | (k, x) :: L, target, merged, hL, h => by
    rw [List.foldlM_cons] at h
    cases target with
    | dict tkvs =>
      have hk : k ≠ "$ref" := hL (k, x) (.head _)
      have hlook : (PyVal.assocSet tkvs k x).lookup "$ref" = tkvs.lookup "$ref" := by
        rw [PyVal.lookup_assocSet, if_neg (Ne.symm hk)]
      have hmem : ∀ kv ∈ PyVal.assocSet tkvs k x, kv ∈ tkvs ∨ kv ∈ (k, x) :: L := fun kv hkv =>
        (PyVal.mem_assocSet hkv).imp_right fun (h : kv = (k, x)) => h ▸ List.mem_cons_self _ _
      refine .inr ⟨tkvs, ?_⟩
      rcases foldlM_setItem_items L (fun kv hkv => hL kv (.tail _ hkv)) h with
        rfl | ⟨_, mkvs, htk, rfl, hl, hm⟩
      · exact ⟨_, rfl, rfl, hlook, hmem⟩
      · cases htk
        refine ⟨mkvs, rfl, rfl, hl.trans hlook, fun kv hkv => ?_⟩
        rcases hm kv hkv with h | h
        · exact hmem kv h
        · exact .inr (.tail _ h)
    | _ => cases h

/-! ## The expansion -/

variable (doc : PyVal)

/-- The inline expansion of `v`: a reference whose target is not `None` becomes the expansion of
that target with the reference's other keys assigned over it, any other reference becomes `{}`,
and every other dict and list is expanded member by member. The fuel counts nested expansions. -/
def inlineExpand : Nat → PyVal → Except PyExc PyVal
  | 0, _ => .error recursionLimit
  | fuel + 1, .dict kvs =>
    match kvs.lookup "$ref" with
    | some ref => do
      let target ← resolvePointer doc ref
      if target = .none then .ok (.dict []) else inlineExpand fuel (← mergeSiblings target kvs)
    | none => do return .dict (← kvs.mapM fun kv => do return (kv.1, ← inlineExpand fuel kv.2))
  | fuel + 1, .list xs => do return .list (← xs.mapM (inlineExpand fuel))
  | _ + 1, v => .ok v

section Expansion

variable {doc} {fuel : Nat} {kvs : List (String × PyVal)}

theorem inlineExpand_ref {ref : PyVal} (href : kvs.lookup "$ref" = some ref) :
    inlineExpand doc (fuel + 1) (.dict kvs) = (do
      let target ← resolvePointer doc ref
      if target = .none then .ok (.dict []) else inlineExpand doc fuel (← mergeSiblings target kvs)) := by
  rw [inlineExpand, href]

theorem inlineExpand_dict (href : kvs.lookup "$ref" = Option.none) :
    inlineExpand doc (fuel + 1) (.dict kvs) =
      (do return .dict (← kvs.mapM fun kv => do return (kv.1, ← inlineExpand doc fuel kv.2))) := by
  rw [inlineExpand, href]

theorem inlineExpand_list (xs : List PyVal) :
    inlineExpand doc (fuel + 1) (.list xs) = (do return .list (← xs.mapM (inlineExpand doc fuel))) :=
  rfl

end Expansion

/-- What `deref` keeps of the values it meets on a document without cycles: each reference in
`seen` leads to every reference of the value, whose references are strings and whose dicts with
a `$ref` have siblings without references. -/
structure Chain (seen : List PyVal) (v : PyVal) : Prop where
  above : ∀ s ∈ seen, ∀ r ∈ v.refs, Relation.TransGen (RefEdge doc) s r
  strings : stringRefs v
  siblings : siblingsFree v

variable {doc}

/-- A member of the value, with the same `seen`. -/
theorem Chain.member {seen : List PyVal} {v w : PyVal} (h : Chain doc seen v) (hr : w.refs ⊆ v.refs)
    (hd : w.dicts ⊆ v.dicts) : Chain doc seen w :=
  ⟨fun s hs r hr' => h.above s hs r (hr hr'), stringRefs_of_subset h.strings hr,
    siblingsFree_of_subset h.siblings hd⟩

/-- **The merged target of a reference**, followed with the reference added to `seen`, keeps the
chain: its references are the target's, each one step from the reference. -/
theorem Chain.merged (hstr : stringRefs doc) (hsib : siblingsFree doc) {seen : List PyVal}
    {kvs : List (String × PyVal)} {ref target merged : PyVal} (h : Chain doc seen (.dict kvs))
    (href : kvs.lookup "$ref" = some ref) (ht : resolvePointer doc ref = .ok target)
    (hm : mergeSiblings target kvs = .ok merged) : Chain doc (ref :: seen) merged := by
  have hsome : (kvs.lookup "$ref").isSome := by simp [href]
  have hself : kvs ∈ (PyVal.dict kvs).dicts := PyVal.mem_dicts_dict.mpr (.inl rfl)
  -- the siblings add no reference
  have hsibs : PyVal.refsDict (kvs.filter (·.1 != "$ref")) = [] := PyVal.refsDict_eq_nil fun kv hkv => by
    obtain ⟨hkv, hk⟩ := List.mem_filter.mp hkv
    have hk : kv.1 ≠ "$ref" := by simpa using hk
    exact ⟨hk, refs_nil_of_siblingsFree h.siblings hself hsome hkv hk⟩
  have hrefs : merged.refs ⊆ target.refs := by
    have := (foldlM_setItem_sub _ hm).1
    rwa [hsibs, List.append_nil] at this
  have htd := resolvePointer_dicts ht
  refine ⟨fun s hs r hr => ?_, stringRefs_of_subset hstr
    (hrefs.trans (resolvePointer_sub ht).1), ?_⟩
  · have hedge : RefEdge doc ref r := ⟨target, ht, hrefs hr⟩
    rcases List.mem_cons.mp hs with rfl | hs
    · exact .single hedge
    · exact .tail (h.above s hs ref (PyVal.mem_refsDict_of_lookup href)) hedge
  -- the dicts of the merged target are the target's, the siblings', or the merged dict itself
  have hL : ∀ kv ∈ kvs.filter (·.1 != "$ref"), kv.1 ≠ "$ref" := fun kv hkv => by
    simpa using (List.mem_filter.mp hkv).2
  have hsibT : siblingsFree target := siblingsFree_of_subset hsib htd
  rcases foldlM_setItem_items _ hL hm with rfl | ⟨tkvs, mkvs, rfl, rfl, hl, hitems⟩
  · exact hsibT
  have hfrom : ∀ kv ∈ mkvs, kv ∈ tkvs ∨ (kv ∈ kvs ∧ kv.1 ≠ "$ref") := fun kv hkv =>
    (hitems kv hkv).imp_right fun h' => ⟨(List.mem_filter.mp h').1, hL kv h'⟩
  refine List.all_eq_true.mpr fun d hd => ?_
  rcases PyVal.mem_dicts_dict.mp hd with rfl | ⟨kv, hkv, hd⟩
  · simp only [Bool.or_eq_true, Option.isNone_iff_eq_none, List.all_eq_true]
    refine (Option.eq_none_or_eq_some (d.lookup "$ref")).imp id fun ⟨x, hx⟩ kv hkv => ?_
    by_cases hk : kv.1 = "$ref"
    · simp [hk]
    have hsomeT : (tkvs.lookup "$ref").isSome := by simp [← hl, hx]
    rcases hfrom kv hkv with hT | ⟨hK, -⟩
    · simp [refs_nil_of_siblingsFree hsibT (PyVal.mem_dicts_dict.mpr (.inl rfl)) hsomeT hT hk]
    · simp [refs_nil_of_siblingsFree h.siblings hself hsome hK hk]
  · rcases hfrom kv hkv with hT | ⟨hK, -⟩
    · exact List.all_eq_true.mp hsibT d (PyVal.mem_dicts_dict.mpr (.inr ⟨kv, hT, hd⟩))
    · exact List.all_eq_true.mp h.siblings d (PyVal.mem_dicts_dict.mpr (.inr ⟨kv, hK, hd⟩))

/-- A reference on the chain is not in `seen`: it would lead back to itself. -/
theorem Chain.not_seen (hacyc : Acyclic doc) {seen : List PyVal} {kvs : List (String × PyVal)}
    {ref : PyVal} (h : Chain doc seen (.dict kvs)) (href : kvs.lookup "$ref" = some ref) :
    seen.any ref.hashEq = false := by
  have hr := PyVal.mem_refsDict_of_lookup href
  obtain ⟨s, rfl⟩ := exists_str_of_stringRefs h.strings hr
  refine Bool.eq_false_iff.mpr fun hany => ?_
  obtain ⟨t, ht, heq⟩ := List.any_eq_true.mp hany
  simp only [PyVal.hashEq, PyVal.asInt, beq_iff_eq] at heq
  subst heq
  exact hacyc _ (h.above _ ht _ hr)

/-- **`deref` refines the expansion.** On the chain, `deref` and the inline expansion have the
same outcome at every fuel. -/
theorem deref_eq_inlineExpand_of (hacyc : Acyclic doc) (hstr : stringRefs doc)
    (hsib : siblingsFree doc) : ∀ (fuel : Nat) {seen : List PyVal} {v : PyVal},
      Chain doc seen v → deref doc fuel seen v = inlineExpand doc fuel v
  | 0, _, _, _ => rfl
  | fuel + 1, seen, v, h => by
    have ih : ∀ {seen' : List PyVal} {v' : PyVal}, Chain doc seen' v' →
        deref doc fuel seen' v' = inlineExpand doc fuel v' :=
      fun h' => deref_eq_inlineExpand_of hacyc hstr hsib fuel h'
    rw [deref_succ]
    cases v with
    | dict kvs =>
      cases href : kvs.lookup "$ref" with
      | none =>
        rw [derefStep_dict href, inlineExpand_dict href]
        refine congrArg (· >>= _) (mapM_congr_of_mem fun kv hkv => ?_)
        rw [ih (h.member (PyVal.refs_subset_refsDict hkv)
          fun d hd => PyVal.mem_dicts_dict.mpr (.inr ⟨kv, hkv, hd⟩))]
      | some ref =>
        have hs := h.not_seen hacyc href
        obtain ⟨s, rfl⟩ := exists_str_of_stringRefs h.strings (PyVal.mem_refsDict_of_lookup href)
        rw [derefStep_ref href rfl hs, inlineExpand_ref href, expandRef]
        cases ht : resolvePointer doc (.str s) with
        | error e => rfl
        | ok target =>
          simp only [ok_bind]
          by_cases hnone : target = .none
          · simp [hnone]
          · simp only [hnone, if_false]
            cases hm : mergeSiblings target kvs with
            | error e => rfl
            | ok merged => exact ih (h.merged hstr hsib href ht hm)
    | list xs =>
      rw [derefStep_list, inlineExpand_list]
      refine congrArg (· >>= _) (mapM_congr_of_mem fun x hx => ?_)
      exact ih (h.member (PyVal.refs_subset_refsList hx)
        fun d hd => PyVal.mem_dicts_list.mpr ⟨x, hx, hd⟩)
    | none | bool _ | int _ | str _ | set _ | bytes _ | object _ | unset => rfl

/-- **`deref` is the inline expansion.** On a document without reference cycles, with string
references, and with no reference among the keys beside a `$ref` (in the document and in the
value), `deref(obj, doc)` and the inline expansion of `obj` have the same outcome at every fuel:
the same value, or the same exception. No reference, however often it is shared, becomes the
cycle placeholder. -/
theorem deref_eq_inlineExpand (obj : PyVal) (hacyc : Acyclic doc)
    (hdoc : stringRefs doc ∧ siblingsFree doc) (hobj : stringRefs obj ∧ siblingsFree obj)
    (fuel : Nat) : deref doc fuel [] obj = inlineExpand doc fuel obj :=
  deref_eq_inlineExpand_of hacyc hdoc.1 hdoc.2 fuel ⟨fun _ hs => absurd hs (List.not_mem_nil _),
    hobj.1, hobj.2⟩

theorem deref_eq_inlineExpand_shared :
    let doc : PyVal := .dict [("A", .dict [("type", .str "string")])]
    let obj : PyVal := .dict [("properties",
      .dict [("x", .dict [("$ref", .str "#/A")]), ("y", .dict [("$ref", .str "#/A")])])]
    Acyclic doc ∧ (stringRefs doc ∧ siblingsFree doc) ∧ (stringRefs obj ∧ siblingsFree obj) ∧
      deref doc 5 [] obj = inlineExpand doc 5 obj := by
  intro doc obj
  have hacyc : Acyclic doc := Acyclic.of_refs_nil rfl
  have hdoc : stringRefs doc ∧ siblingsFree doc := by decide
  have hobj : stringRefs obj ∧ siblingsFree obj := by decide
  exact ⟨hacyc, hdoc, hobj, deref_eq_inlineExpand obj hacyc hdoc hobj 5⟩

/-! ## A chain that carries keys to a list -/

/-- **A reference with keys beside it, whose target is a reference to a list.** Every reference
of the document and of `obj` is a string, none leads back to itself, the keys beside each hold no
reference, and each with keys beside it has a dict as target. `deref` still raises at every fuel
that reaches the second reference: `x` is assigned into the list. -/
theorem deref_chain_typeError :
    let doc : PyVal := .dict [("a", .dict [("$ref", .str "#/b")]), ("b", .list [.int 1])]
    let obj : PyVal := .dict [("$ref", .str "#/a"), ("x", .int 1)]
    Acyclic doc ∧ (stringRefs doc ∧ siblingsFree doc ∧ ObjectTargets doc doc) ∧
      (stringRefs obj ∧ siblingsFree obj ∧ ObjectTargets doc obj) ∧
      ∀ fuel, deref doc (fuel + 2) [] obj =
        .error ⟨.typeError, "list indices must be integers or slices, not str"⟩ := by
  intro doc obj
  have ha : resolvePointer doc (.str "#/a") = .ok (.dict [("$ref", .str "#/b")]) := by
    simp [doc, resolvePointer, pyStartsWith, splitOn, unescapeToken, replacePair, walkPointer,
      List.lookup_cons]
  have hb : resolvePointer doc (.str "#/b") = .ok (.list [.int 1]) := by
    simp [doc, resolvePointer, pyStartsWith, splitOn, unescapeToken, replacePair, walkPointer,
      List.lookup_cons]
  refine ⟨fun r hr => ?_, ⟨by decide, by decide, ?_⟩, ⟨by decide, by decide, ?_⟩, fun fuel => ?_⟩
  · -- a cycle ends on `#/b`, the one reference of the document, whose target holds none
    obtain ⟨_, -, hlast⟩ := Relation.TransGen.tail'_iff.mp hr
    have hr' : r = .str "#/b" := by
      simpa [doc, PyVal.refs, PyVal.refsList] using hlast.mem_refs
    subst hr'
    obtain ⟨_, ⟨t, ht, hmem⟩, -⟩ := Relation.TransGen.head'_iff.mp hr
    rw [hb] at ht
    cases ht
    simp [PyVal.refs, PyVal.refsList] at hmem
  · intro kvs hkvs ref href ⟨kv, hkv, hk⟩
    simp only [doc, PyVal.dicts, PyVal.dictsDict, PyVal.dictsList, List.append_nil,
      List.mem_cons, List.mem_singleton, List.not_mem_nil, or_false] at hkvs
    rcases hkvs with rfl | rfl
    · simp [List.lookup_cons] at href
    · simp at hkv
      simp [hkv] at hk
  · intro kvs hkvs ref href _
    simp only [obj, PyVal.dicts, PyVal.dictsDict, List.append_nil, List.mem_singleton] at hkvs
    subst hkvs
    simp only [List.lookup_cons, beq_self_eq_true, Option.some.injEq] at href
    subst href
    exact ⟨_, ha⟩
  · rw [@deref_ref doc (fuel + 1) [] [("$ref", .str "#/a"), ("x", .int 1)] _ rfl rfl rfl, ha]
    simp only [ok_bind]
    rw [if_neg (by decide)]
    show deref doc (fuel + 1) [.str "#/a"] (.dict [("$ref", .str "#/b"), ("x", .int 1)]) = _
    rw [@deref_ref doc fuel [.str "#/a"] [("$ref", .str "#/b"), ("x", .int 1)] _ rfl rfl rfl, hb]
    rfl

end PyAgents
