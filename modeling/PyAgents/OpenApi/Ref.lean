import PyAgents.Python.Builtins

/-!
# JSON Pointers and `$ref`

`resolve_pointer` and `deref` of `openapi-to-idz.py`.

`resolve_pointer(doc, pointer)` follows a pointer of the form `#/a/b` through nested dicts,
unescaping each token as RFC 6901 asks (`~1` to `/`, then `~0` to `~`), and answers `None` when a
step is missing. Its caller cannot tell a missing target from a target that is `null`, and the
model keeps that: a missing step is the value `None`.

`deref(obj, doc, seen)` inlines the references of `obj`. A dict with a `$ref` key is replaced by a
copy of its target with the dict's other keys assigned over it, and that copy is dereferenced in
turn with the reference added to `seen`; a reference already in `seen` becomes
`{"type": "object"}`. Every other dict and every list is dereferenced member by member, each
member with its own copy of `seen`.

## Fuel

`deref` recurses on the merged copy, which is no part of its argument, so the model carries a
fuel, one unit per call: the interpreter's recursion limit. A call that runs out raises
`RecursionError`, as CPython does when the stack reaches its limit.

`seen` is a Python `set`, so `ref in seen` hashes `ref` (an array or object as reference raises
`TypeError`) and compares with `==` (`hashEq`). The model keeps it as a list, newest first.
-/

namespace PyAgents

/-- Python's `RecursionError`, when a recursion outruns the interpreter's limit. -/
def recursionLimit : PyExc := ⟨.recursionError, "maximum recursion depth exceeded"⟩

/-! ## `resolve_pointer` -/

/-- One reference token, unescaped: `p.replace("~1", "/").replace("~0", "~")`. -/
def unescapeToken (p : List Char) : String :=
  String.mk (replacePair '~' '0' ['~'] (replacePair '~' '1' ['/'] p))

/-- The loop of `resolve_pointer`: each token must be a key of the dict reached so far. -/
def walkPointer : PyVal → List String → PyVal
  | cur, [] => cur
  | .dict kvs, p :: ps =>
    match kvs.lookup p with
    | some x => walkPointer x ps
    | none => .none
  | _, _ :: _ => .none

/-- `resolve_pointer(doc, pointer)`. A pointer that is not a string has no `startswith`. -/
def resolvePointer (doc pointer : PyVal) : Except PyExc PyVal :=
  match pointer with
  | .str p =>
    if pyStartsWith p "#/" then
      .ok (walkPointer doc ((splitOn '/' (p.toList.drop 2)).map unescapeToken))
    else .ok .none
  | _ => .error ⟨.attributeError, s!"'{pointer.typeName}' object has no attribute 'startswith'"⟩

/-! ## `deref` -/

/-- `{"type": "object"}`, what a reference already on the way down becomes. -/
def cyclePlaceholder : PyVal := .dict [("type", .str "object")]

/-- `merged = deepcopy(target)`, then `merged[k] = v` for every key of `obj` but `$ref`. -/
def mergeSiblings (target : PyVal) (kvs : List (String × PyVal)) : Except PyExc PyVal :=
  (kvs.filter (·.1 != "$ref")).foldlM (fun m kv => m.setItem kv.1 kv.2) target

variable (doc : PyVal)

/-- `deref(obj, doc, seen)`, with `fuel` calls left before the recursion limit. -/
def deref : Nat → List PyVal → PyVal → Except PyExc PyVal
  | 0, _, _ => .error recursionLimit
  | fuel + 1, seen, .dict kvs =>
    match kvs.lookup "$ref" with
    | some ref =>
      if !ref.hashable then .error ref.unhashableError
      else if seen.any ref.hashEq then .ok cyclePlaceholder
      else do
        let target ← resolvePointer doc ref
        if target = .none then .ok (.dict [])
        else deref fuel (ref :: seen) (← mergeSiblings target kvs)
    | none => do
      let kvs' ← kvs.mapM fun kv => do return (kv.1, ← deref fuel seen kv.2)
      return .dict kvs'
  | fuel + 1, seen, .list xs => do return .list (← xs.mapM (deref fuel seen))
  | _ + 1, _, obj => .ok obj

@[simp] theorem deref_zero (seen : List PyVal) (obj : PyVal) :
    deref doc 0 seen obj = .error recursionLimit := rfl

/-- A reference met before is cut off. -/
theorem deref_seen {fuel : Nat} {seen : List PyVal} {kvs : List (String × PyVal)} {ref : PyVal}
    (href : kvs.lookup "$ref" = some ref) (hh : ref.hashable) (hs : seen.any ref.hashEq) :
    deref doc (fuel + 1) seen (.dict kvs) = .ok cyclePlaceholder := by
  simp [deref, href, hh, hs]

/-- A new reference is resolved, and its target, with the siblings assigned over it, is
dereferenced with the reference added to `seen`. -/
theorem deref_ref {fuel : Nat} {seen : List PyVal} {kvs : List (String × PyVal)} {ref : PyVal}
    (href : kvs.lookup "$ref" = some ref) (hh : ref.hashable) (hs : seen.any ref.hashEq = false) :
    deref doc (fuel + 1) seen (.dict kvs) = (do
      let target ← resolvePointer doc ref
      if target = .none then .ok (.dict [])
      else deref doc fuel (ref :: seen) (← mergeSiblings target kvs)) := by
  simp [deref, href, hh, hs]

/-- A dict without `$ref` is dereferenced value by value. -/
theorem deref_dict {fuel : Nat} {seen : List PyVal} {kvs : List (String × PyVal)}
    (href : kvs.lookup "$ref" = none) :
    deref doc (fuel + 1) seen (.dict kvs) =
      (.dict <$> kvs.mapM fun kv => do return (kv.1, ← deref doc fuel seen kv.2)) := by
  simp [deref, href]

end PyAgents
