import PyAgents.OpenApi.Ref
import PyAgents.Python.JsonText

/-!
# Schemas as TypeScript-like types

`ts_type_from_schema(s, doc, depth, max_depth)` of `openapi-to-idz.py`, which turns a JSON
Schema into a compact type such as `{ id: string; tags?: string[]; }`.

One call is `tsCall`, with the nested calls as a parameter `recur` (at the same `max_depth`);
`tsTypeFromSchema` ties the knot, one unit of fuel per call as for `deref`. Every nested call
but two goes one level deeper. The two that do not are the array case past `max_depth`, which
recurses on `items` at the same depth, and the inference branch for a schema without a type,
which rebuilds the schema as `{"type": "object", **s}` or `{"type": "array", **s}` and calls
itself on it at the same depth.

That last rebuild is where the recursion need not end. `{"type": "array", **s}` lets `s`
overwrite `type`; when `s` holds `"type": null` and `items`, the rebuilt schema still has a
`null` type, and the call that receives it takes the same branch again (`SelfArray`,
`tsTypeFromSchema_selfArray`).

## Scope

`json.dumps` enters through the codec `J` of `PyAgents.Python.Json`; the texts it prints for
`const`, `enum` and `default` are the codec's. Every other operation is Python's, with the
exceptions Python raises on a value of the wrong type.

## Main results

* `tsCall_selfArray` — one call on such a schema is a call on the rebuilt schema, at the same
  depth
* `tsTypeFromSchema_selfArray` — and so the recursion exhausts every fuel
-/

namespace PyAgents

variable (J : JsonCodec) (doc : PyVal)

/-! ## Pieces of one call -/

/-- `v.strip()`, which only a string has. -/
def stripValue : PyVal → Except PyExc String
  | .str s => .ok (pyStrip s)
  | v => .error ⟨.attributeError, s!"'{v.typeName}' object has no attribute 'strip'"⟩

/-- `set(v)`: the members of `v`, each of which must be hashable. -/
def setOf (v : PyVal) : Except PyExc (List PyVal) := do
  let xs ← v.iter
  match xs.find? (!·.hashable) with
  | some x => .error x.unhashableError
  | none => .ok xs

/-- `{key: x, **s}`: `s` must be a dict, and its items are assigned over `key`. -/
def displayWith (key : String) (x s : PyVal) : Except PyExc PyVal :=
  match s with
  | .dict kvs => .ok (.dict (PyVal.mergeInto [(key, x)] kvs))
  | _ => .error ⟨.typeError, s!"'{s.typeName}' object is not a mapping"⟩

/-- `sep.join(ts_type_from_schema(x, ...) for x in v)`, with `recur` for the nested call. -/
def joinTypes (recur : PyVal → Except PyExc String) (sep : String) (v : PyVal) :
    Except PyExc String := do
  let xs ← v.iter
  return sep.intercalate (← xs.mapM recur)

/-- The line of an object type for the property `name`, whose schema `sub` has the type
`dtype`: `  name?: dtype; // description (format) (default: ...)`. -/
def propertyLine (required : List PyVal) (name : String) (sub : PyVal) (dtype : String) :
    Except PyExc String := do
  let desc ← stripValue (((← sub.get "description").or (← sub.get "title")).or (.str ""))
  let enumVals ← sub.get "enum"
  let desc ← if enumVals.truthy && desc.isEmpty then do
      let xs ← enumVals.iter
      pure ("one of " ++ ", ".intercalate (xs.map PyVal.pyStr))
    else pure desc
  let opt := if required.any (PyVal.hashEq (.str name)) then "" else "?"
  let default ← sub.getD "default" .none
  let defaultNote ← if default ≠ .none ∧ default ≠ .dict [] ∧ default ≠ .list [] then do
      pure (" (default: " ++ (← J.dumps default) ++ ")")
    else pure ""
  let fmt ← sub.get "format"
  let fmtNote := if fmt.truthy then " (" ++ fmt.pyStr ++ ")" else ""
  let metaBits := [pyStrip (String.mk (desc.toList.map fun c => if c = '\n' then ' ' else c)),
    pyStrip fmtNote, pyStrip defaultNote].filter (!·.isEmpty)
  let comment := if metaBits.isEmpty then "" else " // " ++ " ".intercalate metaBits
  return "  " ++ name ++ opt ++ ": " ++ dtype ++ ";" ++ comment

/-- The object branch: one line per property not starting with `x-`, then one for
`additionalProperties` when it is a schema. -/
def objectType (recur : PyVal → Except PyExc String) (s : PyVal) : Except PyExc String := do
  let props := (← s.getD "properties" (.dict [])).or (.dict [])
  let required ← setOf ((← s.getD "required" (.list [])).or (.list []))
  let lines ← match props with
    | .dict kvs => (kvs.filter (!pyStartsWith ·.1 "x-")).mapM fun kv => do
        propertyLine J required kv.1 kv.2 (← recur kv.2)
    | v => .error ⟨.attributeError, s!"'{v.typeName}' object has no attribute 'items'"⟩
  let addl ← s.getD "additionalProperties" (.bool false)
  let addlLines ← match addl with
    | .dict _ => do pure ["  [key: string]: " ++ (← recur addl) ++ ";"]
    | _ => pure []
  let inner := "\n".intercalate (lines ++ addlLines)
  return "\x7b\n" ++ inner ++ (if inner.isEmpty then "" else "\n") ++ "\x7d"

/-- The names of the primitive types. -/
def primitiveTypes : List String := ["string", "number", "integer", "boolean", "null"]

/-- The inference branch, for a schema whose `type` is missing or `null`. `recur` is the
nested call at the same depth. -/
def inferredType (recur : PyVal → Except PyExc String) (s : PyVal) : Except PyExc String := do
  if !s.truthy then return "any"
  if ← ["pattern", "minLength", "maxLength"].anyM s.contains then return "string"
  if ← s.contains "properties" then recur (← displayWith "type" (.str "object") s)
  else if ← s.contains "items" then recur (← displayWith "type" (.str "array") s)
  else return "any"

/-- The part of one call after the combinators and `const`/`enum`, which reads `type`. -/
def typedSchema (recur : PyVal → Int → Except PyExc String) (s : PyVal) (depth : Int) :
    Except PyExc String := do
  let t ← s.get "type"
  let fmt ← s.get "format"
  if t.isStr "array" then
    return (← recur (← s.getD "items" (.dict [])) (depth + 1)) ++ "[]"
  let hasProps ← s.contains "properties"
  let hasAddl ← s.contains "additionalProperties"
  if t.isStr "object" || hasProps || hasAddl then objectType J (recur · (depth + 1)) s
  else match t with
    | .str base =>
      if base ∈ primitiveTypes then
        let base := if base = "integer" then "number" else base
        return if fmt.truthy then base ++ " /* " ++ fmt.pyStr ++ " */" else base
      else return "any"
    | .none => inferredType (recur · depth) s
    | _ => return "any"

/-- One call below `max_depth`, after the `$ref` has been inlined. -/
def schemaBody (recur : PyVal → Int → Except PyExc String) (s : PyVal) (depth : Int) :
    Except PyExc String := do
  if ← s.contains "oneOf" then joinTypes (recur · (depth + 1)) " | " (← s.subscript "oneOf")
  else if ← s.contains "anyOf" then joinTypes (recur · (depth + 1)) " | " (← s.subscript "anyOf")
  else if ← s.contains "allOf" then joinTypes (recur · (depth + 1)) " & " (← s.subscript "allOf")
  else if ← s.contains "const" then J.dumps (← s.subscript "const")
  else if ← s.contains "enum" then do
    let xs ← (← s.subscript "enum").iter
    return " | ".intercalate (← xs.mapM J.dumps)
  else typedSchema J recur s depth

/-- One call of `ts_type_from_schema(s, doc, depth, max_depth)`, with `recur s' depth'` for the
nested calls and `fuel` for the call of `deref`. -/
def tsCall (fuel : Nat) (recur : PyVal → Int → Except PyExc String) (s : PyVal)
    (depth maxDepth : Int) : Except PyExc String :=
  if s = .none then .ok "unknown" else do
  let s ← do if ← s.contains "$ref" then deref doc fuel [] s else pure s
  if maxDepth ≤ depth then
    let t ← s.get "type"
    if t.isStr "array" then return (← recur (← s.getD "items" (.dict [])) depth) ++ "[]"
    else return match t with
      | .str t => t
      | _ => "object"
  else schemaBody J recur s depth

/-- `ts_type_from_schema(s, doc, depth, max_depth)`, with `fuel` calls left before the recursion
limit. -/
def tsTypeFromSchema : Nat → PyVal → Int → Int → Except PyExc String
  | 0, _, _, _ => .error recursionLimit
  | fuel + 1, s, depth, maxDepth =>
    tsCall J doc fuel (fun s' depth' => tsTypeFromSchema fuel s' depth' maxDepth) s depth maxDepth

/-! ## A schema that rebuilds itself -/

/-- The keys whose presence sends a schema without a type to another branch before the
inference of an array. -/
def earlierKeys : List String :=
  ["$ref", "oneOf", "anyOf", "allOf", "const", "enum", "properties", "additionalProperties",
    "pattern", "minLength", "maxLength"]

/-- A schema dict that the inference branch rebuilds as `{"type": "array", **s}` and finds
unchanged in what matters: `type` is present and `null`, `items` is present, and none of the
`earlierKeys` is. -/
structure SelfArray (kvs : List (String × PyVal)) : Prop where
  nodup : (kvs.map Prod.fst).Nodup
  type_null : kvs.lookup "type" = some .none
  has_items : (kvs.lookup "items").isSome
  no_earlier : ∀ k ∈ earlierKeys, kvs.lookup k = none

theorem contains_dict (kvs : List (String × PyVal)) (k : String) :
    (PyVal.dict kvs).contains k = .ok (kvs.lookup k).isSome := by
  simp only [PyVal.contains, Except.ok.injEq]
  induction kvs with
  | nil => rfl
  | cons kv kvs ih =>
    obtain ⟨j, x⟩ := kv
    by_cases h : k = j
    · simp [h]
    · simp [List.lookup_cons, h, beq_false_of_ne h, ih, Ne.symm h]

theorem SelfArray.contains_earlier {kvs : List (String × PyVal)} (h : SelfArray kvs) {k : String}
    (hk : k ∈ earlierKeys) : (PyVal.dict kvs).contains k = .ok false := by
  simp [contains_dict, h.no_earlier k hk]

/-- `{"type": "array", **s}` keeps the shape. -/
theorem SelfArray.mergeInto {kvs : List (String × PyVal)} (h : SelfArray kvs) :
    SelfArray (PyVal.mergeInto [("type", .str "array")] kvs) where
  nodup := PyVal.nodup_mergeInto (by simp) kvs
  type_null := by rw [PyVal.lookup_mergeInto h.nodup, h.type_null]; rfl
  has_items := by
    rw [PyVal.lookup_mergeInto h.nodup]
    obtain ⟨x, hx⟩ := Option.isSome_iff_exists.mp h.has_items
    simp [hx]
  no_earlier k hk := by
    have hne : k ≠ "type" := by rintro rfl; simp [earlierKeys] at hk
    rw [PyVal.lookup_mergeInto h.nodup, h.no_earlier k hk]
    simp [List.lookup_cons, beq_false_of_ne hne]

/-- **One call on a self-rebuilding schema.** Below `max_depth`, the call on such a schema is
the nested call on `{"type": "array", **s}`, at the same depth. -/
theorem tsCall_selfArray {kvs : List (String × PyVal)} (h : SelfArray kvs) (fuel : Nat)
    (recur : PyVal → Int → Except PyExc String) {depth maxDepth : Int} (hd : depth < maxDepth) :
    tsCall J doc fuel recur (.dict kvs) depth maxDepth =
      recur (.dict (PyVal.mergeInto [("type", .str "array")] kvs)) depth := by
  have hc := fun k (hk : k ∈ earlierKeys) => h.contains_earlier hk
  have hitems : (PyVal.dict kvs).contains "items" = .ok true := by
    simp [contains_dict, h.has_items]
  have htruthy : (PyVal.dict kvs).truthy := by
    obtain ⟨x, hx⟩ := Option.isSome_iff_exists.mp h.has_items
    cases kvs with
    | nil => simp at hx
    | cons _ _ => rfl
  simp [tsCall, schemaBody, typedSchema, inferredType, displayWith, hc, earlierKeys, hitems,
    PyVal.get, PyVal.getD, h.type_null, htruthy, not_le.mpr hd, PyVal.isStr, List.anyM]

/-- **The recursion does not end.** On a schema dict with `"type": null` and `items` and none of
the `earlierKeys`, below `max_depth`, every fuel runs out: the call rebuilds the same schema at
the same depth for as long as the interpreter lets it. -/
theorem tsTypeFromSchema_selfArray (fuel : Nat) {kvs : List (String × PyVal)} (h : SelfArray kvs)
    {depth maxDepth : Int} (hd : depth < maxDepth) :
    tsTypeFromSchema J doc fuel (.dict kvs) depth maxDepth = .error recursionLimit := by
  induction fuel generalizing kvs with
  | zero => rfl
  | succ fuel ih =>
    rw [tsTypeFromSchema, tsCall_selfArray J doc h fuel _ hd]
    exact ih h.mergeInto

/-- `ts_type_from_schema({"type": None, "items": {}}, doc, 0, 4)` reaches the recursion limit of
CPython, 1000 calls, and any other. -/
theorem tsTypeFromSchema_null_items :
    SelfArray [("type", .none), ("items", .dict [])] ∧ (0 : Int) < 4 ∧
      tsTypeFromSchema refCodec (.dict []) 1000 (.dict [("type", .none), ("items", .dict [])]) 0 4 =
        .error recursionLimit :=
  have h : SelfArray [("type", .none), ("items", .dict [])] :=
    ⟨by decide, rfl, rfl, by decide⟩
  ⟨h, by decide, tsTypeFromSchema_selfArray refCodec (.dict []) 1000 h (by decide)⟩

end PyAgents
