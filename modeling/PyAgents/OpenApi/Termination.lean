import PyAgents.OpenApi.Schema
import PyAgents.OpenApi.Deref

/-!
# When `ts_type_from_schema` ends

`tsTypeFromSchema_selfArray` shows one way the recursion of `ts_type_from_schema` never ends: a
dict with `"type": null` and `items`, which the inference branch rebuilds unchanged. The other
way is through `deref`, on a `$ref` graph. This module shows there is no third. On a schema in
which no dict holds `$ref` and none pairs a `null` type with `items`, a run with `2 * size`
calls, `size` counting the values inside the schema, returns a string or raises an exception
other than `RecursionError`, at every depth and every `max_depth`.

## Implementation notes

Every nested call is on a value inside the schema, with one exception. The inference branch,
for a dict without a type and with `items`, calls itself on `{"type": "array", **s}`, which is
larger; but that call goes straight to the array branch and so to `items`, inside `s`. The fuel
counts two calls per level: the call on a value, and the rebuilt call it may make.

A value inside the schema is an item of a list or a value of a dict. `iter` also visits the keys
of a dict and the characters of a string, as strings: those end at once, in an
`AttributeError`.

`NoLimit r` says that `r` is not an exception of class `RecursionError`. Only the fuel running
out raises one. Every other exception of a call, such as `get` on a list or `json.dumps` on a
set, is of another class. So `NoLimit` passes through every operation of a call once it holds
of the nested calls.

## Main results

* `tsCall_noLimit` — one call raises no `RecursionError` of its own
* `tsTypeFromSchema_ends` — the recursion ends within `2 * size` calls
-/

namespace PyAgents

namespace PyVal

/-! ## The schemas the measure covers -/

mutual
/-- A schema that `ts_type_from_schema` walks without `deref` and without a rebuilt schema
that rebuilds itself: every dict inside it has distinct keys (as a Python dict does), no
`$ref`, and no `null` type beside `items`. -/
def plainSchema : PyVal → Bool
  | .list xs | .set xs => plainList xs
  | .dict kvs => decide (kvs.map Prod.fst).Nodup && (kvs.lookup "$ref").isNone &&
      !(kvs.lookup "type" == some .none && (kvs.lookup "items").isSome) && plainDict kvs
  | _ => true
/-- `plainSchema` on every item. -/
def plainList : List PyVal → Bool
  | [] => true
  | x :: xs => plainSchema x && plainList xs
/-- `plainSchema` on every value. -/
def plainDict : List (String × PyVal) → Bool
  | [] => true
  | (_, x) :: kvs => plainSchema x && plainDict kvs
end

theorem plainList_iff : ∀ {xs : List PyVal}, plainList xs ↔ ∀ x ∈ xs, x.plainSchema
  | [] => by simp [plainList]
  | x :: xs => by simp [plainList, plainList_iff]

theorem plainDict_iff : ∀ {kvs : List (String × PyVal)},
    plainDict kvs ↔ ∀ kv ∈ kvs, kv.2.plainSchema
  | [] => by simp [plainDict]
  | (k, x) :: kvs => by simp [plainDict, plainDict_iff]

theorem depth_le_depthList {x : PyVal} : ∀ {xs : List PyVal}, x ∈ xs → x.depth ≤ depthList xs
  | _ :: _, .head _ => le_max_left _ _
  | _ :: _, .tail _ h => (depth_le_depthList h).trans (le_max_right _ _)

theorem depth_le_depthDict {kv : String × PyVal} :
    ∀ {kvs : List (String × PyVal)}, kv ∈ kvs → kv.2.depth ≤ depthDict kvs
  | _ :: _, .head _ => le_max_left _ _
  | _ :: _, .tail _ h => (depth_le_depthDict h).trans (le_max_right _ _)

/-- What `v.get(k, d)` finds is the default, or a value inside `v`. -/
theorem depth_of_getD {v d x : PyVal} {k : String} (h : v.getD k d = .ok x) :
    x = d ∨ x.depth < v.depth := by
  cases v <;> simp only [getD, Except.ok.injEq, reduceCtorEq] at h
  case dict kvs =>
    cases hl : kvs.lookup k with
    | none => simp [hl, ← h]
    | some y =>
      simp only [hl, Option.getD_some] at h
      subst h
      have : y.depth ≤ depthDict kvs := depth_le_depthDict (mem_of_lookup hl)
      simp only [depth_dict]
      exact .inr (by omega)

end PyVal

open PyVal (size sizeList sizeDict plainSchema)

/-- What `plainSchema` asks of a dict. -/
structure PlainDict (kvs : List (String × PyVal)) : Prop where
  nodup : (kvs.map Prod.fst).Nodup
  no_ref : kvs.lookup "$ref" = none
  typed_items : kvs.lookup "type" = some .none → kvs.lookup "items" = none
  values : ∀ kv ∈ kvs, kv.2.plainSchema

theorem plainSchema_dict {kvs : List (String × PyVal)} :
    (PyVal.dict kvs).plainSchema ↔ PlainDict kvs := by
  simp only [PyVal.plainSchema, PyVal.plainDict_iff, Bool.and_eq_true, decide_eq_true_eq,
    Bool.not_eq_true', Bool.and_eq_false_iff, beq_eq_false_iff_ne, Option.isNone_iff_eq_none,
    Option.not_isSome, ne_eq, ← imp_iff_not_or]
  exact ⟨fun ⟨⟨⟨hnd, hr⟩, ht⟩, hv⟩ => ⟨hnd, hr, ht, hv⟩,
    fun ⟨hnd, hr, ht, hv⟩ => ⟨⟨⟨hnd, hr⟩, ht⟩, hv⟩⟩

/-! ## Where the nested calls go -/

/-- `v` is a plain schema of fewer than `n` values, nested at most `D` deep: where the nested
calls of a call on a schema of `n` values go. -/
def PlainBelow (n D : Nat) (v : PyVal) : Prop := v.plainSchema ∧ v.size < n ∧ v.depth ≤ D

namespace PlainBelow

variable {n D : Nat} {kvs : List (String × PyVal)}

/-- A value of a dict. -/
theorem of_mem (hs : (PyVal.dict kvs).plainSchema) (hn : (PyVal.dict kvs).size ≤ n)
    (hD : (PyVal.dict kvs).depth ≤ D) {kv : String × PyVal} (hm : kv ∈ kvs) :
    PlainBelow n D kv.2 := by
  have := PyVal.size_le_sizeDict hm
  have := PyVal.depth_le_depthDict hm
  simp only [PyVal.size_dict, PyVal.depth_dict] at hn hD
  exact ⟨(plainSchema_dict.mp hs).values _ hm, by omega, by omega⟩

theorem of_lookup (hs : (PyVal.dict kvs).plainSchema) (hn : (PyVal.dict kvs).size ≤ n)
    (hD : (PyVal.dict kvs).depth ≤ D) {k : String} {x : PyVal} (h : kvs.lookup k = some x) :
    PlainBelow n D x :=
  of_mem hs hn hD (PyVal.mem_of_lookup h)

/-- `s.get(k, d)`: a value of the schema, or the default. -/
theorem of_getD {s : PyVal} (hs : s.plainSchema) (hn : s.size ≤ n) (hD : s.depth ≤ D) {k : String}
    {d v : PyVal} (h : s.getD k d = .ok v) : v = d ∨ PlainBelow n D v := by
  cases s <;> simp only [PyVal.getD, Except.ok.injEq, reduceCtorEq] at h
  case dict kvs =>
    cases hl : kvs.lookup k with
    | none => simp [hl, ← h]
    | some x => simpa [hl, ← h] using Or.inr (of_lookup hs hn hD hl)

/-- `s[k]`: a value of the schema. -/
theorem of_subscript {s : PyVal} (hs : s.plainSchema) (hn : s.size ≤ n) (hD : s.depth ≤ D)
    {k : String} {x : PyVal} (h : s.subscript k = .ok x) : PlainBelow n D x := by
  cases s <;> simp only [PyVal.subscript, reduceCtorEq] at h
  case dict kvs =>
    cases hl : kvs.lookup k <;> simp only [hl, reduceCtorEq, Except.ok.injEq] at h
    exact h ▸ of_lookup hs hn hD hl

/-- `v.or({})`, when it is a dict, holds values inside `v`, or none. -/
theorem values_or_empty {v : PyVal} (hv : v = .dict [] ∨ PlainBelow n D v)
    {kvs' : List (String × PyVal)} (h : v.or (.dict []) = .dict kvs') :
    ∀ kv ∈ kvs', PlainBelow n D kv.2 := by
  by_cases ht : v.truthy
  · rw [PyVal.or_of_truthy ht] at h
    subst h
    rcases hv with hv | ⟨hp, hsz, hd⟩
    · cases hv
      simp
    · exact fun _ hm => of_mem hp hsz.le hd hm
  · rw [PyVal.or_of_not_truthy (by simpa using ht)] at h
    cases h
    simp

/-- What a loop over `v` visits: the items of a list, or strings and numbers. -/
theorem of_iter {v : PyVal} (hv : PlainBelow n D v) {xs : List PyVal} (h : v.iter = .ok xs) :
    ∀ x ∈ xs, PlainBelow n D x := by
  obtain ⟨hp, hsz, hd⟩ := hv
  cases v <;> simp only [PyVal.iter, Except.ok.injEq, reduceCtorEq] at h <;> subst h
  case list xs | set xs =>
    intro x hx
    have := PyVal.size_le_sizeList hx
    have := PyVal.depth_le_depthList hx
    simp only [PyVal.size_list, PyVal.size_set, PyVal.depth_list, PyVal.depth] at hsz hd
    exact ⟨PyVal.plainList_iff.mp hp x hx, by omega, by omega⟩
  all_goals
    intro x hx
    obtain ⟨_, -, rfl⟩ := List.mem_map.mp hx
    exact ⟨rfl, lt_of_le_of_lt (by simp [PyVal.size]) hsz, by simp⟩

end PlainBelow

/-! ## The operations of a call -/

section Operations

variable (J : JsonCodec) (v : PyVal) (k : String)

theorem noLimit_getD (d : PyVal) : NoLimit (v.getD k d) := by
  cases v <;> first | exact NoLimit.ok _ | exact NoLimit.of_cls (by simp)

theorem noLimit_get : NoLimit (v.get k) := noLimit_getD v k _

theorem noLimit_contains : NoLimit (v.contains k) := by
  cases v <;> first | exact NoLimit.ok _ | exact NoLimit.of_cls (by simp)

theorem noLimit_subscript : NoLimit (v.subscript k) := by
  cases v
  case dict kvs =>
    cases hl : kvs.lookup k <;> simp only [PyVal.subscript, hl]
    exacts [NoLimit.of_cls (by simp), NoLimit.ok _]
  all_goals first | exact NoLimit.ok _ | exact NoLimit.of_cls (by simp)

theorem noLimit_iter : NoLimit v.iter := by
  cases v <;> first | exact NoLimit.ok _ | exact NoLimit.of_cls (by simp)

theorem noLimit_stripValue : NoLimit (stripValue v) := by
  cases v <;> first | exact NoLimit.ok _ | exact NoLimit.of_cls (by simp)

theorem noLimit_setOf : NoLimit (setOf v) := by
  refine .bind (noLimit_iter v) fun xs _ => ?_
  split
  · exact NoLimit.of_cls (by simp [PyVal.unhashableError])
  · exact NoLimit.ok _

theorem noLimit_displayWith (x : PyVal) : NoLimit (displayWith k x v) := by
  cases v <;> first | exact NoLimit.ok _ | exact NoLimit.of_cls (by simp)

/-- Within its depth, `json.dumps` raises `TypeError` or `ValueError`, never `RecursionError`. -/
theorem noLimit_dumps (hd : v.depth ≤ J.maxDepth) : NoLimit (J.dumps v) := fun _ he => by
  rcases J.dumps_error_cls hd he with h | h <;> simp [h]

theorem noLimit_propertyLine (required : List PyVal) (name : String) {sub : PyVal}
    (hsub : sub.depth ≤ J.maxDepth) (dtype : String) :
    NoLimit (propertyLine J required name sub dtype) := by
  unfold propertyLine
  refine .bind (noLimit_get _ _) fun _ _ => .bind (noLimit_get _ _) fun _ _ =>
    .bind (noLimit_stripValue _) fun _ _ => .bind (noLimit_get _ _) fun _ _ =>
    -- the enum's values, when there is no description
    .ite (.bind (noLimit_iter _) fun _ _ => .bind (.ok _) fun _ _ => ?_) (.bind (.ok _) fun _ _ => ?_)
  -- both branches join: the default, printed by `json.dumps`, then the tail
  all_goals
    exact .bind (noLimit_getD _ _ _) fun _ hdef =>
      .ite (.bind (noLimit_dumps J _ ((PyVal.depth_of_getD hdef).elim (fun h => h ▸ Nat.zero_le _)
          fun h => (h.trans_le hsub).le)) fun _ _ => .bind (.ok _) fun _ _ =>
          .bind (noLimit_get _ _) fun _ _ => .ok _)
        (.bind (.ok _) fun _ _ => .bind (noLimit_get _ _) fun _ _ => .ok _)

end Operations

/-! ## One call -/

section Call

variable (J : JsonCodec) {n : Nat}

theorem noLimit_joinTypes {recur : PyVal → Except PyExc String}
    (hrec : ∀ v, PlainBelow n J.maxDepth v → NoLimit (recur v)) (sep : String) {v : PyVal}
    (hv : PlainBelow n J.maxDepth v) : NoLimit (joinTypes recur sep v) :=
  .bind (noLimit_iter v) fun _ hxs =>
    .bind (.mapM fun x hx => hrec x (hv.of_iter hxs x hx)) fun _ _ => .ok _

theorem noLimit_objectType {recur : PyVal → Except PyExc String}
    (hrec : ∀ v, PlainBelow n J.maxDepth v → NoLimit (recur v)) {s : PyVal} (hs : s.plainSchema)
    (hn : s.size ≤ n) (hD : s.depth ≤ J.maxDepth) : NoLimit (objectType J recur s) := by
  unfold objectType
  refine .bind (noLimit_getD _ _ _) fun props hprops => .bind (noLimit_getD _ _ _) fun _ _ =>
    .bind (noLimit_setOf _) fun _ _ => ?_
  dsimp only
  split
  · next kvs' h =>
    have hv := PlainBelow.values_or_empty (PlainBelow.of_getD hs hn hD hprops) h
    refine .bind (.mapM fun kv hkv => .bind (hrec _ (hv kv (List.mem_of_mem_filter hkv)))
      fun _ _ => noLimit_propertyLine J _ _ (hv kv (List.mem_of_mem_filter hkv)).2.2 _) fun _ _ => ?_
    refine .bind (noLimit_getD _ _ _) fun addl haddl => ?_
    dsimp only
    split
    · have hv := (PlainBelow.of_getD hs hn hD haddl).resolve_left nofun
      exact .bind (hrec _ hv) fun _ _ => .ok _
    · exact .ok _
  · exact NoLimit.of_cls (by simp)

theorem noLimit_inferredType {recur : PyVal → Except PyExc String} {kvs : List (String × PyVal)}
    (hprops : kvs.lookup "properties" = none)
    (hrebuild : (kvs.lookup "items").isSome →
      NoLimit (recur (.dict (PyVal.mergeInto [("type", .str "array")] kvs)))) :
    NoLimit (inferredType recur (.dict kvs)) := by
  unfold inferredType
  split
  · exact .ok _
  refine .bind (.ok _) fun _ _ => .bind (.anyM fun _ _ => noLimit_contains _ _) fun _ _ => ?_
  split
  · exact .ok _
  refine .bind (.ok _) fun _ _ => ?_
  simp only [contains_dict, hprops, Option.isSome_none, ok_bind, Bool.false_eq_true, if_false]
  split
  · next hi =>
    refine .bind (noLimit_displayWith _ _ _) fun _ hR => ?_
    cases hR
    exact hrebuild hi
  · exact .ok _

theorem exists_dict_of_getD {v d x : PyVal} {k : String} (h : v.getD k d = .ok x) :
    ∃ kvs, v = .dict kvs := by
  cases v <;> simp [PyVal.getD] at h
  exact ⟨_, rfl⟩

theorem lookup_of_getD {kvs : List (String × PyVal)} {k : String} {d x : PyVal}
    (h : (PyVal.dict kvs).getD k d = .ok x) (hne : x ≠ d) : kvs.lookup k = some x := by
  simp only [PyVal.getD, Except.ok.injEq] at h
  cases hl : kvs.lookup k with
  | none => simp [hl] at h; exact absurd h.symm hne
  | some y => simpa [hl] using h

theorem lookup_none_of_contains {kvs : List (String × PyVal)} {k : String} {b : Bool}
    (h : (PyVal.dict kvs).contains k = .ok b) (hb : ¬b = true) : kvs.lookup k = none := by
  rw [contains_dict, Except.ok.injEq] at h
  rw [← Option.not_isSome_iff_eq_none, h]
  exact hb

theorem one_lt_size_of_lookup {kvs : List (String × PyVal)} {k : String} {x : PyVal}
    (h : kvs.lookup k = some x) : 1 < (PyVal.dict kvs).size := by
  have : x.size ≤ sizeDict kvs := PyVal.size_le_sizeDict (PyVal.mem_of_lookup h)
  have := PyVal.size_pos x
  simp only [PyVal.size_dict]
  omega

/-- `s.get("items", {})` of an array schema: a value inside the schema, or `{}`, smaller than
the schema, which holds `type`. -/
theorem PlainBelow.of_items {D : Nat} {s t items : PyVal} (hs : s.plainSchema) (hn : s.size ≤ n)
    (hD : s.depth ≤ D) (ht : s.get "type" = .ok t) (harr : t.isStr "array" = true)
    (hi : s.getD "items" (.dict []) = .ok items) : PlainBelow n D items := by
  obtain ⟨kvs, rfl⟩ := exists_dict_of_getD ht
  rcases PlainBelow.of_getD hs hn hD hi with rfl | h
  · have hne : t ≠ .none := by rintro rfl; cases harr
    simp only [PyVal.depth_dict] at hD
    exact ⟨rfl, lt_of_lt_of_le (one_lt_size_of_lookup (lookup_of_getD ht hne)) hn, by simp; omega⟩
  · exact h

theorem noLimit_typedSchema {recur : PyVal → Int → Except PyExc String}
    (hrec : ∀ v d, PlainBelow n J.maxDepth v → NoLimit (recur v d)) {s : PyVal}
    (hs : s.plainSchema) (hn : s.size ≤ n) (hD : s.depth ≤ J.maxDepth) {depth : Int}
    (hrebuild : ∀ kvs, s = .dict kvs → kvs.lookup "type" = none → (kvs.lookup "items").isSome →
      NoLimit (recur (.dict (PyVal.mergeInto [("type", .str "array")] kvs)) depth)) :
    NoLimit (typedSchema J recur s depth) := by
  unfold typedSchema
  refine .bind (noLimit_get _ _) fun t ht => ?_
  obtain ⟨kvs, rfl⟩ := exists_dict_of_getD ht
  refine .bind (noLimit_get _ _) fun _ _ => ?_
  by_cases harr : t.isStr "array" = true
  · rw [if_pos harr]
    exact .bind (noLimit_getD _ _ _) fun _ hi =>
      .bind (hrec _ _ (PlainBelow.of_items hs hn hD ht harr hi)) fun _ _ => .ok _
  rw [if_neg harr]
  refine .bind (.ok _) fun _ _ => .bind (noLimit_contains _ _) fun hasProps hp =>
    .bind (noLimit_contains _ _) fun hasAddl _ => ?_
  by_cases hobj : (t.isStr "object" || hasProps || hasAddl) = true
  · rw [if_pos hobj]
    exact noLimit_objectType J (fun v hv => hrec v _ hv) hs hn hD
  rw [if_neg hobj]
  cases t with
  | str base =>
    dsimp only
    split <;> exact .ok _
  | none =>
    have hprops : kvs.lookup "properties" = none := by
      simp only [contains_dict, Except.ok.injEq] at hp
      rw [← Option.not_isSome_iff_eq_none, hp]
      exact fun h => hobj (by simp [h])
    refine noLimit_inferredType hprops fun hi => hrebuild kvs rfl ?_ hi
    simp only [PyVal.get, PyVal.getD, Except.ok.injEq] at ht
    cases hl : kvs.lookup "type" with
    | none => rfl
    | some x =>
      rw [hl, Option.getD_some] at ht
      subst ht
      simp [(plainSchema_dict.mp hs).typed_items hl] at hi
  | _ => exact .ok _

theorem noLimit_schemaBody {recur : PyVal → Int → Except PyExc String}
    (hrec : ∀ v d, PlainBelow n J.maxDepth v → NoLimit (recur v d)) {s : PyVal}
    (hs : s.plainSchema) (hn : s.size ≤ n) (hD : s.depth ≤ J.maxDepth) {depth : Int}
    (hrebuild : ∀ kvs, s = .dict kvs →
      (∀ k ∈ ["oneOf", "anyOf", "allOf", "const", "enum"], kvs.lookup k = none) →
      kvs.lookup "type" = none → (kvs.lookup "items").isSome →
      NoLimit (recur (.dict (PyVal.mergeInto [("type", .str "array")] kvs)) depth)) :
    NoLimit (schemaBody J recur s depth) := by
  have hjoin : ∀ sep k, NoLimit (do joinTypes (recur · (depth + 1)) sep (← s.subscript k)) :=
    fun _ _ => .bind (noLimit_subscript _ _) fun _ hx =>
      noLimit_joinTypes J (fun v hv => hrec v _ hv) _ (PlainBelow.of_subscript hs hn hD hx)
  unfold schemaBody
  refine .bind (noLimit_contains _ _) fun b1 h1 => ?_
  by_cases hb1 : b1 = true
  · rw [if_pos hb1]; exact hjoin _ _
  rw [if_neg hb1]
  refine .bind (noLimit_contains _ _) fun b2 h2 => ?_
  by_cases hb2 : b2 = true
  · rw [if_pos hb2]; exact hjoin _ _
  rw [if_neg hb2]
  refine .bind (noLimit_contains _ _) fun b3 h3 => ?_
  by_cases hb3 : b3 = true
  · rw [if_pos hb3]; exact hjoin _ _
  rw [if_neg hb3]
  refine .bind (noLimit_contains _ _) fun b4 h4 => ?_
  by_cases hb4 : b4 = true
  · rw [if_pos hb4]
    exact .bind (noLimit_subscript _ _) fun _ hx =>
      noLimit_dumps J _ (PlainBelow.of_subscript hs hn hD hx).2.2
  rw [if_neg hb4]
  refine .bind (noLimit_contains _ _) fun b5 h5 => ?_
  by_cases hb5 : b5 = true
  · rw [if_pos hb5]
    exact .bind (noLimit_subscript _ _) fun _ hy => .bind (noLimit_iter _) fun _ hxs =>
      .bind (.mapM fun x hx => noLimit_dumps J _
        ((PlainBelow.of_subscript hs hn hD hy).of_iter hxs x hx).2.2) fun _ _ => .ok _
  rw [if_neg hb5]
  refine noLimit_typedSchema J hrec hs hn hD fun kvs hkvs => hrebuild kvs hkvs ?_
  subst hkvs
  simp only [List.mem_cons, List.mem_singleton, forall_eq_or_imp, forall_eq, List.not_mem_nil,
    or_false]
  exact ⟨lookup_none_of_contains h1 hb1, lookup_none_of_contains h2 hb2,
    lookup_none_of_contains h3 hb3, lookup_none_of_contains h4 hb4, lookup_none_of_contains h5 hb5⟩

end Call

/-! ## The recursion -/

/-- `deref` leaves a plain schema as it is, given a call per level. -/
theorem deref_plain (doc : PyVal) :
    ∀ (fuel : Nat) (seen : List PyVal) {v : PyVal}, v.plainSchema → v.size ≤ fuel →
      deref doc fuel seen v = .ok v
  | 0, _, v, _, hf => absurd hf (Nat.not_le.mpr (PyVal.size_pos v))
  | fuel + 1, seen, .dict kvs, hs, hf => by
    have hp := plainSchema_dict.mp hs
    have hkv : ∀ kv ∈ kvs, (do return (kv.1, ← deref doc fuel seen kv.2)) = Except.ok kv :=
      fun kv hkv => by
        have := PyVal.size_le_sizeDict hkv
        simp only [PyVal.size_dict] at hf
        rw [deref_plain doc fuel seen (hp.values kv hkv) (by omega)]
        rfl
    rw [deref_dict doc hp.no_ref, @mapM_ok_of_forall _ _ _ _ id kvs hkv, List.map_id]
    rfl
  | fuel + 1, seen, .list xs, hs, hf => by
    have hx : ∀ x ∈ xs, deref doc fuel seen x = .ok (id x) := fun x hx => by
      have := PyVal.size_le_sizeList hx
      simp only [PyVal.size_list] at hf
      exact deref_plain doc fuel seen (PyVal.plainList_iff.mp hs x hx) (by omega)
    simp only [deref, mapM_ok_of_forall hx, List.map_id]
    rfl
  | _ + 1, _, .none, _, _ | _ + 1, _, .bool _, _, _ | _ + 1, _, .int _, _, _
  | _ + 1, _, .str _, _, _ | _ + 1, _, .set _, _, _ | _ + 1, _, .bytes _, _, _
  | _ + 1, _, .object _, _, _ | _ + 1, _, .unset, _, _ => rfl

variable (J : JsonCodec) (doc : PyVal)

/-- **One call raises no `RecursionError` of its own.** On a plain schema, with a call per level
left for `deref`, a call raises `RecursionError` only if a nested call does: on a value inside
the schema, or on the rebuilt `{"type": "array", **s}` below `max_depth`. -/
theorem tsCall_noLimit {fuel : Nat} {recur : PyVal → Int → Except PyExc String} {s : PyVal}
    (hs : s.plainSchema) (hD : s.depth ≤ J.maxDepth) (hf : s.size ≤ fuel)
    (hrec : ∀ v d, PlainBelow s.size J.maxDepth v → NoLimit (recur v d)) {depth maxDepth : Int}
    (hrebuild : depth < maxDepth → ∀ kvs, s = .dict kvs →
      (∀ k ∈ ["oneOf", "anyOf", "allOf", "const", "enum"], kvs.lookup k = none) →
      kvs.lookup "type" = none → (kvs.lookup "items").isSome →
      NoLimit (recur (.dict (PyVal.mergeInto [("type", .str "array")] kvs)) depth)) :
    NoLimit (tsCall J doc fuel recur s depth maxDepth) := by
  unfold tsCall
  split
  · exact .ok _
  refine .bind (noLimit_contains _ _) fun b _ => ?_
  -- the `$ref` test finds none, or `deref` gives the schema back
  have hback : ∀ k : PyVal → Except PyExc String,
      (if b = true then deref doc fuel [] s >>= k else pure s >>= k) = k s := fun k => by
    split
    · rw [deref_plain doc fuel [] hs hf]
      rfl
    · rfl
  rw [hback]
  dsimp only
  split
  · refine .bind (noLimit_get _ _) fun t ht => ?_
    split
    · next harr =>
      exact .bind (noLimit_getD _ _ _) fun _ hi =>
        .bind (hrec _ _ (PlainBelow.of_items hs le_rfl hD ht harr hi)) fun _ _ => .ok _
    · exact .ok _
  · next hd => exact noLimit_schemaBody J hrec hs le_rfl hD (hrebuild (not_le.mp hd))

/-- **The rebuilt call.** Below `max_depth`, `{"type": "array", **s}`, for a dict `s` without a
type and without the keys the earlier branches test, goes to the array branch: the nested call
on `items`, one level deeper. -/
theorem tsCall_rebuilt {kvs : List (String × PyVal)} (hnd : (kvs.map Prod.fst).Nodup)
    (hk : ∀ k ∈ ["$ref", "oneOf", "anyOf", "allOf", "const", "enum"], kvs.lookup k = none)
    (ht : kvs.lookup "type" = none) {x : PyVal} (hi : kvs.lookup "items" = some x) (fuel : Nat)
    (recur : PyVal → Int → Except PyExc String) {depth maxDepth : Int} (hd : depth < maxDepth) :
    tsCall J doc fuel recur (.dict (PyVal.mergeInto [("type", .str "array")] kvs)) depth maxDepth =
      (do return (← recur x (depth + 1)) ++ "[]") := by
  have hlook : ∀ k, k ≠ "type" → (PyVal.mergeInto [("type", .str "array")] kvs).lookup k =
      kvs.lookup k := fun k hk => by
    rw [PyVal.lookup_mergeInto hnd]
    cases kvs.lookup k <;> simp [PyVal.or, List.lookup_cons, beq_false_of_ne hk]
  have htype : (PyVal.mergeInto [("type", .str "array")] kvs).lookup "type" = some (.str "array") := by
    rw [PyVal.lookup_mergeInto hnd, ht]
    rfl
  simp only [List.mem_cons, List.mem_singleton, forall_eq_or_imp, forall_eq] at hk
  obtain ⟨h1, h2, h3, h4, h5, h6⟩ := hk
  simp only [tsCall, reduceCtorEq, ↓reduceIte, contains_dict, ne_eq, String.reduceEq,
    not_false_eq_true, hlook, h1, Option.isSome_none, not_le.mpr hd, schemaBody, mapM,
    bind_pure_comp, typedSchema, PyVal.get, PyVal.getD, PyVal.isStr, Bool.or_eq_true, pure_bind, h2,
    h3, h4, h5, h6, htype, Option.getD_some, hi, ok_bind, beq_self_eq_true, Bool.false_eq_true]

/-- Two calls per value of a plain schema are enough: no run raises `RecursionError`. -/
theorem tsTypeFromSchema_noLimit (maxDepth : Int) :
    ∀ (fuel : Nat) {s : PyVal}, s.plainSchema → s.depth ≤ J.maxDepth → 2 * s.size ≤ fuel →
      ∀ depth, NoLimit (tsTypeFromSchema J doc fuel s depth maxDepth) := by
  intro fuel
  induction fuel using Nat.strong_induction_on with
  | _ fuel ih =>
    intro s hs hD hf depth
    have hpos := PyVal.size_pos s
    obtain ⟨fuel, rfl⟩ : ∃ f, fuel = f + 1 := ⟨fuel - 1, by omega⟩
    rw [tsTypeFromSchema]
    refine tsCall_noLimit J doc hs hD (by omega)
      (fun v d hv => ih fuel (by omega) hv.1 hv.2.2 (by have := hv.2.1; omega) d) ?_
    -- the rebuilt call spends one more unit of fuel, then goes to `items`
    rintro hd kvs rfl hk ht hi
    have hp := plainSchema_dict.mp hs
    obtain ⟨x, hx⟩ := Option.isSome_iff_exists.mp hi
    have hxb : PlainBelow (PyVal.dict kvs).size J.maxDepth x := PlainBelow.of_lookup hs le_rfl hD hx
    have h2 := one_lt_size_of_lookup hx
    obtain ⟨f, rfl⟩ : ∃ f, fuel = f + 1 := ⟨fuel - 1, by omega⟩
    have hk' : ∀ k ∈ ["$ref", "oneOf", "anyOf", "allOf", "const", "enum"], kvs.lookup k = none :=
      fun k hk'' => (List.mem_cons.mp hk'').elim (fun h => h ▸ hp.no_ref) (hk k)
    rw [tsTypeFromSchema, tsCall_rebuilt J doc hp.nodup hk' ht hx _ _ hd]
    exact .bind (ih f (by omega) hxb.1 hxb.2.2 (by have := hxb.2.1; omega) _) fun _ _ => .ok _

/-- **The recursion ends.** On a schema in which every dict has distinct keys, no `$ref` and no
`null` type beside `items`, nested no deeper than `json` reaches (as every schema `json.load`
returns is), `ts_type_from_schema` returns a string or raises an exception other than
`RecursionError`, within two calls per value of the schema, at every depth and every
`max_depth`. -/
theorem tsTypeFromSchema_ends {s : PyVal} (hs : s.plainSchema) (hnest : s.depth ≤ J.maxDepth)
    {fuel : Nat} (hf : 2 * s.size ≤ fuel) (depth maxDepth : Int) :
    (∃ t, tsTypeFromSchema J doc fuel s depth maxDepth = .ok t) ∨
      ∃ e, tsTypeFromSchema J doc fuel s depth maxDepth = .error e ∧ e.cls ≠ .recursionError := by
  have h := tsTypeFromSchema_noLimit J doc maxDepth fuel hs hnest hf depth
  cases hr : tsTypeFromSchema J doc fuel s depth maxDepth with
  | ok t => exact .inl ⟨t, rfl⟩
  | error e => exact .inr ⟨e, rfl, h e hr⟩

/-- `{"type": "object", "properties": {"tags": {"items": {"type": "string"}}}}`: the property
`tags` has no type, so the inference branch rebuilds it as an array. -/
theorem tsTypeFromSchema_ends_tags :
    let s := PyVal.dict [("type", .str "object"),
      ("properties", .dict [("tags", .dict [("items", .dict [("type", .str "string")])])])]
    s.plainSchema ∧ s.depth ≤ refCodec.maxDepth ∧ 2 * s.size ≤ 12 ∧
      ((∃ t, tsTypeFromSchema refCodec (.dict []) 12 s 0 4 = .ok t) ∨
        ∃ e, tsTypeFromSchema refCodec (.dict []) 12 s 0 4 = .error e ∧
          e.cls ≠ .recursionError) := by
  intro s
  have hs : s.plainSchema := by decide
  have hnest : s.depth ≤ refCodec.maxDepth := by decide
  have hf : 2 * s.size ≤ 12 := by decide
  exact ⟨hs, hnest, hf, tsTypeFromSchema_ends refCodec (.dict []) hs hnest hf 0 4⟩

/-- The run behind it: `tags` comes out an optional array of strings. -/
example : tsTypeFromSchema refCodec (.dict []) 12 (.dict [("type", .str "object"),
    ("properties", .dict [("tags", .dict [("items", .dict [("type", .str "string")])])])]) 0 4 =
    .ok "\x7b\n  tags?: string[];\n\x7d" := by
  rfl

/-- A plain schema whose property `a` has a default of 101 nested lists, one level more than the
reference codec nests. -/
def deepDefaultSchema : PyVal :=
  .dict [("properties", .dict [("a", .dict [("default", (fun v => .list [v])^[101] .none)])])]

set_option maxRecDepth 4000 in
/-- **The depth bound is needed.** On `deepDefaultSchema`, with fuel to spare, the call reaches
the line of `a` and prints its default with `json.dumps`, which raises `RecursionError`: the
reference codec, like CPython's, refuses the nesting. -/
theorem tsTypeFromSchema_deepDefault :
    deepDefaultSchema.plainSchema ∧ refCodec.maxDepth < deepDefaultSchema.depth ∧
      2 * deepDefaultSchema.size ≤ 220 ∧
      tsTypeFromSchema refCodec (.dict []) 220 deepDefaultSchema 0 4 =
        .error (JsonText.recursionError "encoding") :=
  ⟨by decide, by decide, by decide, by rfl⟩

end PyAgents
