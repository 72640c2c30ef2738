import PyAgents.OpenApi.Ref

/-!
# `deref` ends, and leaves no reference

`deref` recurses on the merged copy of a reference's target, a value that is no part of its
argument and can be larger than it. It ends all the same, on every document and every value,
cyclic reference graphs included: a reference is followed only when it is not yet in `seen`,
and following it adds it to `seen`. What it returns holds no `$ref` key at any depth, and
`deref` gives such a value back unchanged.

## Implementation notes

The measure is lexicographic: first the references not yet in `seen`, among those of the
document and of the value `deref` started from, then the size of the value. It is written as
one number, `size + unseen * (size doc + 1)`, which also bounds the fuel. A call on a value
inside a dict or a list keeps `seen` and has a smaller value. A call on a merged target adds a
new reference to `seen`. The merged target is the target, a part of the document, with the
dict's other keys assigned over it, so it is smaller than the document and the dict together.

That every reference met on the way is one of those counted is an invariant of the recursion: a
merged target holds the references of its target and of the siblings, and no others.

`refs v` lists the values of the `$ref` keys of the dicts in `v`, through dicts and lists. A
Python set holds hashable values only, and a dict is not hashable, so `refs` does not look into
a set.

`deref` is taken one call at a time: `derefStep` is its body with the nested calls left to a
parameter, and `DerefCall` lists the calls one step makes. Each fact is proved for one step,
given that it holds of the calls the step makes, and then for `deref` by induction on the fuel.

`NoLimit r` says that `r` is not an exception of class `RecursionError`, which only running out
of fuel raises; `size` is also the measure of `ts_type_from_schema`.

## Main results

* `deref_noLimit` — fuel `size + unseen * (size doc + 1)` is enough
* `deref_mono` — once a run has ended, more fuel changes nothing
* `refs_of_deref` — what `deref` returns holds no `$ref`
* `deref_of_refs_nil` — a value without `$ref` is its own result
* `deref_ends` — the four together, for every document and value, from an empty `seen`
-/

namespace PyAgents

/-! ## Exceptions other than `RecursionError` -/

/-- `r` is a value, or an exception of a class other than `RecursionError`. -/
def NoLimit {α : Type} (r : Except PyExc α) : Prop := ∀ e, r = .error e → e.cls ≠ .recursionError

namespace NoLimit

variable {α β : Type}

theorem ok (a : α) : NoLimit (.ok a : Except PyExc α) := fun _ h => nomatch h

theorem of_cls {e : PyExc} (h : e.cls ≠ .recursionError) : NoLimit (.error e : Except PyExc α) :=
  fun _ he => by cases he; exact h

theorem bind {x : Except PyExc α} {f : α → Except PyExc β} (hx : NoLimit x)
    (hf : ∀ a, x = .ok a → NoLimit (f a)) : NoLimit (x >>= f) := by
  cases x with
  | error e => exact of_cls (hx e rfl)
  | ok a => exact hf a rfl

theorem ite {c : Prop} [Decidable c] {x y : Except PyExc α} (hx : NoLimit x) (hy : NoLimit y) :
    NoLimit (if c then x else y) := by
  split <;> assumption

/-- A bind that raises no `RecursionError` runs a first step that raises none. -/
theorem left {x : Except PyExc α} {f : α → Except PyExc β} (h : NoLimit (x >>= f)) :
    NoLimit x := by
  cases x with
  | error e => exact fun e' he' => h e' (by cases he'; rfl)
  | ok a => exact ok a

theorem right {x : Except PyExc α} {f : α → Except PyExc β} (h : NoLimit (x >>= f)) {a : α}
    (hx : x = .ok a) : NoLimit (f a) := by
  subst hx
  exact h

theorem mapM {f : α → Except PyExc β} : ∀ {l : List α}, (∀ a ∈ l, NoLimit (f a)) →
    NoLimit (l.mapM f)
  | [], _ => ok _
  | a :: l, h => by
    rw [List.mapM_cons]
    exact .bind (h a (.head _)) fun _ _ =>
      .bind (mapM fun b hb => h b (.tail _ hb)) fun _ _ => ok _

theorem anyM {f : α → Except PyExc Bool} : ∀ {l : List α}, (∀ a ∈ l, NoLimit (f a)) →
    NoLimit (l.anyM f)
  | [], _ => ok _
  | a :: l, h => by
    simp only [List.anyM]
    refine .bind (h a (.head _)) fun b _ => ?_
    cases b
    · exact anyM fun b hb => h b (.tail _ hb)
    · exact ok _

/-- A loop that raises no `RecursionError` gives the same outcome with steps that agree with
its own wherever those raise none. -/
theorem mapM_congr {f g : α → Except PyExc β} : ∀ {l : List α},
    (∀ a ∈ l, NoLimit (f a) → g a = f a) → NoLimit (l.mapM f) → l.mapM g = l.mapM f
  | [], _, _ => rfl
  | a :: l, h, hn => by
    rw [List.mapM_cons] at hn ⊢
    rw [List.mapM_cons, h a (.head _) hn.left]
    cases hfa : f a with
    | error e => rfl
    | ok b =>
      have hl : NoLimit (l.mapM f) := (hn.right hfa).left
      simp only [ok_bind]
      rw [mapM_congr (fun b hb => h b (.tail _ hb)) hl]

end NoLimit

namespace PyVal

/-! ## Sizes and references -/

mutual
/-- The number of values in `v`, `v` included. -/
def size : PyVal → Nat
  | .list xs | .set xs => sizeList xs + 1
  | .dict kvs => sizeDict kvs + 1
  | _ => 1
/-- `size` summed over items. -/
def sizeList : List PyVal → Nat
  | [] => 0
  | x :: xs => size x + sizeList xs
/-- `size` summed over values. -/
def sizeDict : List (String × PyVal) → Nat
  | [] => 0
  | (_, x) :: kvs => size x + sizeDict kvs
end

mutual
/-- The values of the `$ref` keys of the dicts in `v`, through dicts and lists. A set holds
only hashable values, never a dict, so `refs` does not look into one. -/
def refs : PyVal → List PyVal
  | .list xs => refsList xs
  | .dict kvs => refsDict kvs
  | _ => []
/-- `refs` over items. -/
def refsList : List PyVal → List PyVal
  | [] => []
  | x :: xs => refs x ++ refsList xs
/-- `refs` over the items of a dict, with the value of each `$ref` key. -/
def refsDict : List (String × PyVal) → List PyVal
  | [] => []
  | (k, x) :: kvs => (if k = "$ref" then [x] else []) ++ refs x ++ refsDict kvs
end

@[simp] theorem size_list (xs : List PyVal) : (PyVal.list xs).size = sizeList xs + 1 := rfl
@[simp] theorem size_set (xs : List PyVal) : (PyVal.set xs).size = sizeList xs + 1 := rfl
@[simp] theorem size_dict (kvs : List (String × PyVal)) : (PyVal.dict kvs).size = sizeDict kvs + 1 :=
  rfl
@[simp] theorem size_str (s : String) : (PyVal.str s).size = 1 := rfl

@[simp] theorem refs_list (xs : List PyVal) : (PyVal.list xs).refs = refsList xs := rfl
@[simp] theorem refs_dict (kvs : List (String × PyVal)) : (PyVal.dict kvs).refs = refsDict kvs :=
  rfl
@[simp] theorem refsDict_nil : refsDict [] = [] := rfl
@[simp] theorem sizeDict_nil : sizeDict [] = 0 := rfl
@[simp] theorem refsDict_cons (k : String) (x : PyVal) (kvs : List (String × PyVal)) :
    refsDict ((k, x) :: kvs) = (if k = "$ref" then [x] else []) ++ x.refs ++ refsDict kvs := rfl
@[simp] theorem sizeDict_cons (k : String) (x : PyVal) (kvs : List (String × PyVal)) :
    sizeDict ((k, x) :: kvs) = x.size + sizeDict kvs := rfl

theorem size_pos : ∀ v : PyVal, 0 < v.size
  | .list _ | .set _ | .dict _ => Nat.succ_pos _
  | .none | .bool _ | .int _ | .str _ | .bytes _ | .object _ | .unset => Nat.one_pos

theorem size_le_sizeList {x : PyVal} : ∀ {xs : List PyVal}, x ∈ xs → x.size ≤ sizeList xs
  | _ :: _, .head _ => Nat.le_add_right _ _
  | _ :: _, .tail _ h => (size_le_sizeList h).trans (Nat.le_add_left _ _)

theorem size_le_sizeDict {kv : String × PyVal} :
    ∀ {kvs : List (String × PyVal)}, kv ∈ kvs → kv.2.size ≤ sizeDict kvs
  | _ :: _, .head _ => Nat.le_add_right _ _
  | _ :: _, .tail _ h => (size_le_sizeDict h).trans (Nat.le_add_left _ _)

theorem refs_subset_refsList {x : PyVal} : ∀ {xs : List PyVal}, x ∈ xs → x.refs ⊆ refsList xs
  | _ :: _, .head _ => List.subset_append_left _ _
  | _ :: _, .tail _ h => (refs_subset_refsList h).trans (List.subset_append_right _ _)

theorem refs_subset_refsDict {kv : String × PyVal} {kvs : List (String × PyVal)} (h : kv ∈ kvs) :
    kv.2.refs ⊆ refsDict kvs := by
  induction kvs with
  | nil => cases h
  | cons kv' kvs ih =>
    obtain ⟨k, x⟩ := kv'
    intro r hr
    rcases List.mem_cons.mp h with rfl | h
    · simp [hr]
    · simp [ih h hr]

theorem mem_of_lookup {kvs : List (String × PyVal)} {k : String} {x : PyVal}
    (h : kvs.lookup k = some x) : (k, x) ∈ kvs := by
  obtain ⟨_, _, rfl, -⟩ := List.lookup_eq_some_iff.mp h
  simp

theorem mem_refsDict_of_lookup {kvs : List (String × PyVal)} {x : PyVal}
    (h : kvs.lookup "$ref" = some x) : x ∈ refsDict kvs := by
  induction kvs with
  | nil => cases h
  | cons kv kvs ih =>
    obtain ⟨k, y⟩ := kv
    by_cases hk : k = "$ref"
    · subst hk
      simp only [List.lookup_cons, beq_self_eq_true, Option.some.injEq] at h
      simp [h]
    · simp only [List.lookup_cons, beq_false_of_ne (Ne.symm hk)] at h
      simp [ih h]

/-- A value of a dict without `$ref` is not under a `$ref` key. -/
theorem ne_of_lookup_none {kvs : List (String × PyVal)} (h : kvs.lookup "$ref" = Option.none)
    {kv : String × PyVal} (hkv : kv ∈ kvs) : kv.1 ≠ "$ref" := by
  intro hk
  have := List.lookup_eq_none_iff.mp h _ hkv
  simp [hk] at this

theorem refsDict_eq_nil : ∀ {kvs : List (String × PyVal)},
    (∀ kv ∈ kvs, kv.1 ≠ "$ref" ∧ kv.2.refs = []) → refsDict kvs = []
  | [], _ => rfl
  | (k, x) :: kvs, h => by
    obtain ⟨hk, hx⟩ := h (k, x) (.head _)
    simp [hk, hx, refsDict_eq_nil fun kv hkv => h kv (.tail _ hkv)]

theorem refsList_eq_nil : ∀ {xs : List PyVal}, (∀ x ∈ xs, x.refs = []) → refsList xs = []
  | [], _ => rfl
  | x :: xs, h => by
    simp [refsList, h x (.head _), refsList_eq_nil fun y hy => h y (.tail _ hy)]

end PyVal

open PyVal (size sizeList sizeDict refs refsList refsDict)

/-! ## What a reference resolves to -/

/-- The value a pointer reaches is part of the document. -/
theorem walkPointer_sub : ∀ (doc : PyVal) (ps : List String),
    (walkPointer doc ps).refs ⊆ doc.refs ∧ (walkPointer doc ps).size ≤ doc.size
  | _, [] => by
    simp only [walkPointer]
    exact ⟨List.Subset.refl _, le_rfl⟩
  | .dict kvs, p :: ps => by
    simp only [walkPointer]
    cases hp : kvs.lookup p with
    | none => exact ⟨List.nil_subset _, PyVal.size_pos _⟩
    | some x =>
      have hm := PyVal.mem_of_lookup hp
      obtain ⟨h1, h2⟩ := walkPointer_sub x ps
      have : x.size ≤ sizeDict kvs := PyVal.size_le_sizeDict hm
      exact ⟨h1.trans (PyVal.refs_subset_refsDict hm), by simp only [PyVal.size_dict]; omega⟩
  | .none, _ :: _ | .bool _, _ :: _ | .int _, _ :: _ | .str _, _ :: _ | .list _, _ :: _
  | .set _, _ :: _ | .bytes _, _ :: _ | .object _, _ :: _ | .unset, _ :: _ =>
    ⟨List.nil_subset _, PyVal.size_pos _⟩

theorem resolvePointer_sub {doc ref target : PyVal} (h : resolvePointer doc ref = .ok target) :
    target.refs ⊆ doc.refs ∧ target.size ≤ doc.size := by
  unfold resolvePointer at h
  split at h
  · split at h <;> cases h
    · exact walkPointer_sub doc _
    · exact ⟨List.nil_subset _, PyVal.size_pos _⟩
  · cases h

theorem resolvePointer_error {doc ref : PyVal} {e : PyExc} (h : resolvePointer doc ref = .error e) :
    e.cls = .attributeError := by
  unfold resolvePointer at h
  split at h
  · split at h <;> cases h
  · cases h
    rfl

/-- `merged[k] = v` adds the value's references and size, and can drop the old value's. -/
theorem assocSet_sub : ∀ (kvs : List (String × PyVal)) (k : String) (x : PyVal),
    refsDict (PyVal.assocSet kvs k x) ⊆ refsDict kvs ++ refsDict [(k, x)] ∧
      sizeDict (PyVal.assocSet kvs k x) ≤ sizeDict kvs + x.size
  | [], k, x => ⟨List.subset_append_right _ _, by simp [PyVal.assocSet]⟩
  | (k', y) :: kvs, k, x => by
    obtain ⟨h1, h2⟩ := assocSet_sub kvs k x
    by_cases hk : k' = k
    · -- the written value takes the old one's place
      subst hk
      refine ⟨?_, by simp [PyVal.assocSet]; omega⟩
      simp only [PyVal.assocSet, if_true, PyVal.refsDict_cons, PyVal.refsDict_nil, List.append_nil]
      exact List.append_subset.mpr ⟨List.subset_append_right _ _,
        List.subset_append_of_subset_left _ (List.subset_append_right _ _)⟩
    · -- the head stays, and the write goes into the tail
      refine ⟨?_, by simp [PyVal.assocSet, hk]; omega⟩
      rw [PyVal.assocSet, if_neg hk, PyVal.refsDict_cons k' y, PyVal.refsDict_cons k' y]
      exact List.append_subset.mpr ⟨List.subset_append_of_subset_left _ (List.subset_append_left _ _),
        h1.trans (List.append_subset.mpr ⟨List.subset_append_of_subset_left _
          (List.subset_append_right _ _), List.subset_append_right _ _⟩)⟩

/-- Assigning the keys of `L` over `target`: the result holds the references of the target and
of `L`, and is no larger than the two together. -/
theorem foldlM_setItem_sub : ∀ (L : List (String × PyVal)) {target merged : PyVal},
    L.foldlM (fun m kv => m.setItem kv.1 kv.2) target = .ok merged →
      merged.refs ⊆ target.refs ++ refsDict L ∧ merged.size ≤ target.size + sizeDict L
  | [], target, merged, h => by
    cases h
    exact ⟨List.subset_append_left _ _, Nat.le_add_right _ _⟩
  | (k, x) :: L, target, merged, h => by
    rw [List.foldlM_cons] at h
    cases target with
    | dict tkvs =>
      obtain ⟨h1, h2⟩ := foldlM_setItem_sub L h
      obtain ⟨h3, h4⟩ := assocSet_sub tkvs k x
      refine ⟨fun r hr => ?_, by simp only [PyVal.size_dict, PyVal.sizeDict_cons] at h2 ⊢; omega⟩
      rw [PyVal.refs_dict, PyVal.refsDict_cons]
      rcases List.mem_append.mp (h1 hr) with h | h
      · rcases List.mem_append.mp (h3 h) with h' | h'
        · exact List.mem_append_left _ h'
        · rw [PyVal.refsDict_cons, PyVal.refsDict_nil, List.append_nil] at h'
          exact List.mem_append_right _ (List.mem_append_left _ h')
      · exact List.mem_append_right _ (List.mem_append_right _ h)
    | _ => cases h

theorem foldlM_setItem_error : ∀ (L : List (String × PyVal)) {target : PyVal} {e : PyExc},
    L.foldlM (fun m kv => m.setItem kv.1 kv.2) target = .error e → e.cls = .typeError
  | [], _, _, h => by cases h
  | (k, x) :: L, target, e, h => by
    rw [List.foldlM_cons] at h
    cases target with
    | dict tkvs => exact foldlM_setItem_error L h
    | list _ => cases h; rfl
    | _ => cases h; rfl

theorem refsDict_filter (p : String × PyVal → Bool) : ∀ kvs : List (String × PyVal),
    refsDict (kvs.filter p) ⊆ refsDict kvs ∧ sizeDict (kvs.filter p) ≤ sizeDict kvs
  | [] => ⟨List.Subset.refl _, le_rfl⟩
  | (k, x) :: kvs => by
    obtain ⟨h1, h2⟩ := refsDict_filter p kvs
    rw [List.filter_cons]
    split
    · refine ⟨?_, by simp only [PyVal.sizeDict_cons]; omega⟩
      rw [PyVal.refsDict_cons, PyVal.refsDict_cons]
      exact List.append_subset.mpr ⟨List.subset_append_left _ _,
        List.subset_append_of_subset_right _ h1⟩
    · exact ⟨fun r hr => by simp [h1 hr], by simp only [PyVal.sizeDict_cons]; omega⟩

/-- The merged target holds the references of the target and of the dict, and is smaller than
the two together. -/
theorem mergeSiblings_sub {target merged : PyVal} {kvs : List (String × PyVal)}
    (h : mergeSiblings target kvs = .ok merged) :
    merged.refs ⊆ target.refs ++ refsDict kvs ∧ merged.size ≤ target.size + sizeDict kvs := by
  obtain ⟨h1, h2⟩ := foldlM_setItem_sub _ h
  obtain ⟨h3, h4⟩ := refsDict_filter (·.1 != "$ref") kvs
  exact ⟨h1.trans (List.append_subset.mpr ⟨List.subset_append_left _ _,
    h3.trans (List.subset_append_right _ _)⟩), by omega⟩

/-! ## One call -/

variable (doc : PyVal)

/-- A new reference, followed: `None` when it resolves to `None`, for which `deref` returns
`{}`; else its target merged with the dict's other keys. -/
def expandRef (ref : PyVal) (kvs : List (String × PyVal)) : Except PyExc (Option PyVal) := do
  let target ← resolvePointer doc ref
  if target = .none then return Option.none else return some (← mergeSiblings target kvs)

/-- One call of `deref`, with `recur` for the calls it makes. -/
def derefStep (recur : List PyVal → PyVal → Except PyExc PyVal) (seen : List PyVal) :
    PyVal → Except PyExc PyVal
  | .dict kvs =>
    match kvs.lookup "$ref" with
    | some ref =>
      if !ref.hashable then .error ref.unhashableError
      else if seen.any ref.hashEq then .ok cyclePlaceholder
      else do
        let target ← resolvePointer doc ref
        if target = .none then .ok (.dict [])
        else recur (ref :: seen) (← mergeSiblings target kvs)
    | none => do
      let kvs' ← kvs.mapM fun kv => do return (kv.1, ← recur seen kv.2)
      return .dict kvs'
  | .list xs => do return .list (← xs.mapM (recur seen))
  | obj => .ok obj

theorem deref_succ (fuel : Nat) (seen : List PyVal) (obj : PyVal) :
    deref doc (fuel + 1) seen obj = derefStep doc (deref doc fuel) seen obj := by
  cases obj <;> rfl

/-- The calls one step of `deref` on `v` makes, each with its `seen`. -/
inductive DerefCall (seen : List PyVal) : PyVal → List PyVal → PyVal → Prop
  /-- On a value of a dict without `$ref`. -/
  | value {kvs : List (String × PyVal)} {kv : String × PyVal} :
      kvs.lookup "$ref" = Option.none → kv ∈ kvs → DerefCall seen (.dict kvs) seen kv.2
  /-- On an item of a list. -/
  | item {xs : List PyVal} {x : PyVal} : x ∈ xs → DerefCall seen (.list xs) seen x
  /-- On the merged target of a reference not in `seen`, which joins `seen`. -/
  | ref {kvs : List (String × PyVal)} {ref merged : PyVal} :
      kvs.lookup "$ref" = some ref → ref.hashable → seen.any ref.hashEq = false →
      expandRef doc ref kvs = .ok (some merged) → DerefCall seen (.dict kvs) (ref :: seen) merged

section Step

variable {doc} {recur : List PyVal → PyVal → Except PyExc PyVal} {seen : List PyVal}
  {kvs : List (String × PyVal)} {ref : PyVal}

theorem derefStep_unhashable (href : kvs.lookup "$ref" = some ref) (hh : ref.hashable = false) :
    derefStep doc recur seen (.dict kvs) = .error ref.unhashableError := by
  simp [derefStep, href, hh]

theorem derefStep_seen (href : kvs.lookup "$ref" = some ref) (hh : ref.hashable)
    (hs : seen.any ref.hashEq) : derefStep doc recur seen (.dict kvs) = .ok cyclePlaceholder := by
  simp [derefStep, href, hh, hs]

theorem derefStep_ref (href : kvs.lookup "$ref" = some ref) (hh : ref.hashable)
    (hs : seen.any ref.hashEq = false) : derefStep doc recur seen (.dict kvs) =
      expandRef doc ref kvs >>= fun o => o.elim (.ok (.dict [])) (recur (ref :: seen)) := by
  simp only [derefStep, href, hh, hs, expandRef, Bool.not_true, Bool.false_eq_true, if_false]
  cases resolvePointer doc ref with
  | error e => rfl
  | ok target =>
    by_cases ht : target = .none
    · simp [ht]
    · cases mergeSiblings target kvs <;> simp [ht]

theorem derefStep_list (xs : List PyVal) :
    derefStep doc recur seen (.list xs) = (do return .list (← xs.mapM (recur seen))) := rfl

theorem derefStep_dict (href : kvs.lookup "$ref" = Option.none) :
    derefStep doc recur seen (.dict kvs) = (do
      let kvs' ← kvs.mapM fun kv => do return (kv.1, ← recur seen kv.2)
      return .dict kvs') := by
  simp [derefStep, href]

/-- Following a reference raises no `RecursionError` of its own. -/
theorem noLimit_expandRef : NoLimit (expandRef doc ref kvs) := by
  unfold expandRef
  refine .bind (fun e he => by rw [resolvePointer_error he]; decide) fun target _ => ?_
  split
  · exact .ok _
  · exact .bind (fun e he => by rw [foldlM_setItem_error _ he]; decide) fun _ _ => .ok _

/-- **One step raises no `RecursionError` of its own.** -/
theorem derefStep_noLimit {v : PyVal}
    (h : ∀ s' v', DerefCall doc seen v s' v' → NoLimit (recur s' v')) :
    NoLimit (derefStep doc recur seen v) := by
  cases v with
  | dict kvs =>
    cases href : kvs.lookup "$ref" with
    | none =>
      rw [derefStep_dict href]
      exact .bind (.mapM fun kv hkv => .bind (h _ _ (.value href hkv)) fun _ _ => .ok _)
        fun _ _ => .ok _
    | some ref =>
      cases hh : ref.hashable
      · rw [derefStep_unhashable href hh]
        exact .of_cls (by simp [PyVal.unhashableError])
      cases hs : seen.any ref.hashEq
      · rw [derefStep_ref href hh hs]
        refine .bind noLimit_expandRef fun o ho => ?_
        cases o with
        | none => exact .ok _
        | some merged => exact h _ _ (.ref href hh hs ho)
      · rw [derefStep_seen href hh hs]
        exact .ok _
  | list xs => exact .bind (.mapM fun x hx => h _ _ (.item hx)) fun _ _ => .ok _
  | none | bool _ | int _ | str _ | set _ | bytes _ | object _ | unset => exact .ok _

/-- **One step depends on its calls only where they end.** Two steps whose calls agree
wherever the first step's calls raise no `RecursionError` give the same outcome, when the first
raises none. -/
theorem derefStep_congr {recur' : List PyVal → PyVal → Except PyExc PyVal} {v : PyVal}
    (h : ∀ s' v', DerefCall doc seen v s' v' → NoLimit (recur s' v') → recur' s' v' = recur s' v')
    (hn : NoLimit (derefStep doc recur seen v)) :
    derefStep doc recur' seen v = derefStep doc recur seen v := by
  cases v with
  | dict kvs =>
    cases href : kvs.lookup "$ref" with
    | none =>
      rw [derefStep_dict href] at hn ⊢
      rw [derefStep_dict href, NoLimit.mapM_congr (fun kv hkv hn' => ?_) hn.left]
      rw [h _ _ (.value href hkv) hn'.left]
    | some ref =>
      cases hh : ref.hashable
      · rw [derefStep_unhashable href hh, derefStep_unhashable href hh]
      cases hs : seen.any ref.hashEq
      · rw [derefStep_ref href hh hs] at hn ⊢
        rw [derefStep_ref href hh hs]
        cases ho : expandRef doc ref kvs with
        | error e => rfl
        | ok o =>
          cases o with
          | none => rfl
          | some merged => exact h _ _ (.ref href hh hs ho) (hn.right ho)
      · rw [derefStep_seen href hh hs, derefStep_seen href hh hs]
  | list xs =>
    rw [derefStep_list] at hn ⊢
    rw [derefStep_list, NoLimit.mapM_congr (fun x hx hn' => h _ _ (.item hx) hn') hn.left]
  | none | bool _ | int _ | str _ | set _ | bytes _ | object _ | unset => rfl

/-- **What one step returns holds no `$ref`**, when what its calls return holds none. -/
theorem refs_of_derefStep {v r : PyVal}
    (h : ∀ s' v' r', DerefCall doc seen v s' v' → recur s' v' = .ok r' → r'.refs = [])
    (hr : derefStep doc recur seen v = .ok r) : r.refs = [] := by
  cases v with
  | dict kvs =>
    cases href : kvs.lookup "$ref" with
    | none =>
      rw [derefStep_dict href] at hr
      obtain ⟨kvs', hm, hr⟩ := bind_eq_ok.mp hr
      cases hr
      refine PyVal.refsDict_eq_nil fun kv' hkv' => ?_
      obtain ⟨kv, hkv, hstep⟩ := exists_of_mapM_ok hm kv' hkv'
      obtain ⟨x, hx, hstep⟩ := bind_eq_ok.mp hstep
      cases hstep
      exact ⟨@PyVal.ne_of_lookup_none kvs href kv hkv, h _ _ _ (.value href hkv) hx⟩
    | some ref =>
      cases hh : ref.hashable
      · rw [derefStep_unhashable href hh] at hr
        cases hr
      cases hs : seen.any ref.hashEq
      · rw [derefStep_ref href hh hs] at hr
        obtain ⟨o, ho, hr⟩ := bind_eq_ok.mp hr
        cases o with
        | none => cases hr; rfl
        | some merged => exact h _ _ _ (.ref href hh hs ho) hr
      · rw [derefStep_seen href hh hs] at hr
        cases hr
        rfl
  | list xs =>
    rw [derefStep_list] at hr
    obtain ⟨ys, hm, hr⟩ := bind_eq_ok.mp hr
    cases hr
    refine PyVal.refsList_eq_nil fun y hy => ?_
    obtain ⟨x, hx, hstep⟩ := exists_of_mapM_ok hm y hy
    exact h _ _ _ (.item hx) hstep
  | none | bool _ | int _ | str _ | set _ | bytes _ | object _ | unset => cases hr; rfl

/-- **One step gives back a value without `$ref`**, when its calls give back theirs. -/
theorem derefStep_of_refs_nil {v : PyVal} (hv : v.refs = [])
    (h : ∀ s' v', DerefCall doc seen v s' v' → recur s' v' = .ok v') :
    derefStep doc recur seen v = .ok v := by
  cases v with
  | dict kvs =>
    have href : kvs.lookup "$ref" = Option.none := by
      cases hl : kvs.lookup "$ref" with
      | none => rfl
      | some x =>
        have := PyVal.mem_refsDict_of_lookup hl
        rw [← PyVal.refs_dict, hv] at this
        cases this
    rw [derefStep_dict href, @mapM_ok_of_forall _ _ _ _ id kvs fun kv hkv => by
      rw [h _ _ (.value href hkv)]
      rfl, List.map_id]
    rfl
  | list xs =>
    rw [derefStep_list, @mapM_ok_of_forall _ _ _ (recur seen) id xs fun x hx => h _ _ (.item hx),
      List.map_id]
    rfl
  | none | bool _ | int _ | str _ | set _ | bytes _ | object _ | unset => rfl

end Step

/-! ## The measure -/

/-- The references of `R` not yet in `seen`. -/
def unseen (R seen : List PyVal) : Nat := (R.filter fun r => !seen.any r.hashEq).length

theorem hashEq_self (v : PyVal) : v.hashEq v := by
  unfold PyVal.hashEq
  split <;> simp_all

/-- Following a new reference of `R` leaves fewer of `R` unseen. -/
theorem unseen_cons_lt {R seen : List PyVal} {ref : PyVal} (hr : ref ∈ R)
    (hs : seen.any ref.hashEq = false) : unseen R (ref :: seen) < unseen R seen := by
  unfold unseen
  have hsub : (R.filter fun r => !(ref :: seen).any r.hashEq) =
      (R.filter fun r => !seen.any r.hashEq).filter fun r => !(ref :: seen).any r.hashEq := by
    rw [List.filter_filter]
    congr 1
    funext r
    cases h : seen.any r.hashEq <;> simp [List.any_cons, h]
  rw [hsub]
  refine lt_of_le_of_ne (List.length_filter_le _ _) fun heq => ?_
  have := List.filter_length_eq_length.mp heq ref (List.mem_filter.mpr ⟨hr, by simp [hs]⟩)
  simp [hashEq_self] at this

/-- A call is on a smaller value with the same `seen`, or on a merged target with one more
reference in `seen`: a reference of the value, and the merged target is smaller than the
document and the value together. -/
theorem DerefCall.cases' {seen s' : List PyVal} {v v' : PyVal} (hc : DerefCall doc seen v s' v') :
    (s' = seen ∧ v'.refs ⊆ v.refs ∧ v'.size < v.size) ∨
      ∃ ref, s' = ref :: seen ∧ ref ∈ v.refs ∧ seen.any ref.hashEq = false ∧
        v'.refs ⊆ doc.refs ++ v.refs ∧ v'.size < doc.size + v.size := by
  cases hc with
  | value _ hkv =>
    have := PyVal.size_le_sizeDict hkv
    exact .inl ⟨rfl, PyVal.refs_subset_refsDict hkv, by simp only [PyVal.size_dict]; omega⟩
  | item hx =>
    have := PyVal.size_le_sizeList hx
    exact .inl ⟨rfl, PyVal.refs_subset_refsList hx, by simp only [PyVal.size_list]; omega⟩
  | @ref kvs ref merged href _ hs ho =>
    refine .inr ⟨ref, rfl, PyVal.mem_refsDict_of_lookup href, hs, ?_⟩
    unfold expandRef at ho
    obtain ⟨target, ht, ho⟩ := bind_eq_ok.mp ho
    obtain ⟨h1, h2⟩ := resolvePointer_sub ht
    split at ho
    · cases ho
    · obtain ⟨m, hm, ho⟩ := bind_eq_ok.mp ho
      cases ho
      obtain ⟨h3, h4⟩ := mergeSiblings_sub hm
      refine ⟨fun r hr => ?_, by simp only [PyVal.size_dict]; omega⟩
      rcases List.mem_append.mp (h3 hr) with h | h
      exacts [List.mem_append_left _ (h1 h), List.mem_append_right _ h]

/-- **Every call lowers the measure**, and keeps the references of its value among `R`. -/
theorem DerefCall.decreases {R seen s' : List PyVal} {v v' : PyVal} (hdoc : doc.refs ⊆ R)
    (hc : DerefCall doc seen v s' v') (hv : v.refs ⊆ R) :
    v'.refs ⊆ R ∧ v'.size + unseen R s' * (doc.size + 1) < v.size + unseen R seen * (doc.size + 1) := by
  rcases hc.cases' with ⟨rfl, h1, h2⟩ | ⟨ref, rfl, hr, hs, h1, h2⟩
  · exact ⟨h1.trans hv, by omega⟩
  · refine ⟨h1.trans (List.append_subset.mpr ⟨hdoc, hv⟩), ?_⟩
    have hlt := unseen_cons_lt (hv hr) hs
    have : (unseen R (ref :: seen) + 1) * (doc.size + 1) ≤ unseen R seen * (doc.size + 1) :=
      Nat.mul_le_mul_right _ hlt
    rw [Nat.add_mul, Nat.one_mul] at this
    omega

/-! ## Every run -/

/-- **The measure bounds the calls.** With the references of the document among `R`, fuel for
the size of `v` and, per reference of `R` not in `seen`, the size of the document plus one, is
enough: the run raises no `RecursionError`. -/
theorem deref_noLimit {R : List PyVal} (hdoc : doc.refs ⊆ R) :
    ∀ (fuel : Nat) {seen : List PyVal} {v : PyVal}, v.refs ⊆ R →
      v.size + unseen R seen * (doc.size + 1) ≤ fuel → NoLimit (deref doc fuel seen v)
  | 0, _, v, _, hf => absurd hf (by have := PyVal.size_pos v; omega)
  | fuel + 1, _, _, hv, hf => by
    rw [deref_succ]
    refine derefStep_noLimit fun s' v' hc => ?_
    obtain ⟨hv', hlt⟩ := hc.decreases doc hdoc hv
    exact deref_noLimit hdoc fuel hv' (by omega)

/-- **More fuel changes nothing** once a run has ended. -/
theorem deref_mono : ∀ {fuel fuel' : Nat} {seen : List PyVal} {v : PyVal}, fuel ≤ fuel' →
    NoLimit (deref doc fuel seen v) → deref doc fuel' seen v = deref doc fuel seen v
  | 0, _, _, _, _, h => absurd rfl (h recursionLimit rfl)
  | _ + 1, 0, _, _, hle, _ => absurd hle (Nat.not_succ_le_zero _)
  | fuel + 1, fuel' + 1, _, _, hle, h => by
    rw [deref_succ] at h ⊢
    rw [deref_succ]
    exact derefStep_congr (fun _ _ _ hn => deref_mono (Nat.le_of_succ_le_succ hle) hn) h

/-- **What `deref` returns holds no `$ref`**, at any depth. -/
theorem refs_of_deref : ∀ {fuel : Nat} {seen : List PyVal} {v r : PyVal},
    deref doc fuel seen v = .ok r → r.refs = []
  | 0, _, _, _, h => by cases h
  | _ + 1, _, _, _, h => by
    rw [deref_succ] at h
    exact refs_of_derefStep (fun _ _ _ _ h' => refs_of_deref h') h

/-- **A value without `$ref` is its own result**, given a call per level. -/
theorem deref_of_refs_nil : ∀ {fuel : Nat} {seen : List PyVal} {v : PyVal}, v.refs = [] →
    v.size ≤ fuel → deref doc fuel seen v = .ok v
  | 0, _, v, _, hf => absurd hf (by have := PyVal.size_pos v; omega)
  | fuel + 1, _, _, hv, hf => by
    rw [deref_succ]
    refine derefStep_of_refs_nil hv fun s' v' hc => ?_
    rcases hc.cases' with ⟨rfl, h1, h2⟩ | ⟨ref, -, hr, -⟩
    · exact deref_of_refs_nil (List.eq_nil_of_subset_nil (hv ▸ h1)) (by omega)
    · rw [hv] at hr
      cases hr

/-- The fuel `deref(obj, doc)` needs: the size of `obj`, and for each reference of the document
and of `obj`, the size of the document plus one. -/
def derefFuel (doc obj : PyVal) : Nat := obj.size + (doc.refs ++ obj.refs).length * (doc.size + 1)

/-- **`deref` ends, and leaves no reference.** For every document and every value, cyclic
reference graphs included, `deref(obj, doc)` returns or raises an exception other than
`RecursionError` within `derefFuel doc obj` calls, and more fuel gives the same outcome. What it
returns holds no `$ref` key at any depth, and `deref` returns it unchanged. -/
theorem deref_ends (obj : PyVal) {fuel : Nat} (hf : derefFuel doc obj ≤ fuel) :
    NoLimit (deref doc fuel [] obj) ∧
      (∀ fuel', fuel ≤ fuel' → deref doc fuel' [] obj = deref doc fuel [] obj) ∧
      ∀ v, deref doc fuel [] obj = .ok v →
        v.refs = [] ∧ ∀ fuel', v.size ≤ fuel' → deref doc fuel' [] v = .ok v := by
  have hR : unseen (doc.refs ++ obj.refs) [] = (doc.refs ++ obj.refs).length := by
    simp [unseen]
  have hn : NoLimit (deref doc fuel [] obj) :=
    deref_noLimit doc (List.subset_append_left _ _) fuel (List.subset_append_right _ _)
      (by rw [hR]; exact hf)
  refine ⟨hn, fun _ hle => deref_mono doc hle hn, fun v hv => ⟨refs_of_deref doc hv, ?_⟩⟩
  exact fun _ hle => deref_of_refs_nil doc (refs_of_deref doc hv) hle

theorem deref_ends_cycle :
    let doc : PyVal := .dict [("a", .dict [("$ref", .str "#/a")])]
    let obj : PyVal := .dict [("$ref", .str "#/a")]
    derefFuel doc obj ≤ 10 ∧
      NoLimit (deref doc 10 [] obj) ∧
      (∀ fuel', 10 ≤ fuel' → deref doc fuel' [] obj = deref doc 10 [] obj) ∧
      ∀ v, deref doc 10 [] obj = .ok v →
        v.refs = [] ∧ ∀ fuel', v.size ≤ fuel' → deref doc fuel' [] v = .ok v := by
  intro doc obj
  have hf : derefFuel doc obj ≤ 10 := by decide
  exact ⟨hf, deref_ends doc obj hf⟩

end PyAgents
