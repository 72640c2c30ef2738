import PyAgents.OpenApi.Schema
import Mathlib.Data.List.Sort
import Mathlib.Data.String.Basic

/-!
# Flattening a document into entries

`build_entries(spec, max_depth)` of `openapi-to-idz.py`, with the helpers it calls: one entry per
operation, a dict `{"content": ..., "metadata": ...}` whose metadata holds the endpoint, the
upper-cased method, the cleaned summary and description, the sorted one-line summaries of the
parameters, and the request body as a TypeScript-like type.

The operations of a path are found by a loop over `HTTP_METHODS`, a `set` literal. The order in
which a `for` loop visits a set of strings follows the hashes of the strings, and Python salts
those hashes per process (`PYTHONHASHSEED`): two runs of the script may visit the eight methods
in different orders. The model takes that order as a parameter, `methods`, a permutation of
`httpMethods`.

## Main results

* `buildEntries_perm` — a run that succeeds is one entry per operation, grouped by path in the
  document's order and, within a path, in the order of `methods`; under every other order of
  the methods the run succeeds too, with the same entries so grouped
* `buildEntries_order_dependent` — a document with two operations under one path gets different
  entries under two orders of the methods
-/

namespace PyAgents

variable (J : JsonCodec)

/-! ## Helpers -/

/-- `clean_text(text)`: whitespace runs collapsed to one space, then stripped. -/
def cleanText (text : PyVal) : Except PyExc String :=
  if !text.truthy then .ok "" else
  match text with
  | .str t => .ok (pyStrip (String.mk (collapseSpace false t.toList)))
  | .bytes _ => .error ⟨.typeError, "cannot use a string pattern on a bytes-like object"⟩
  | v => .error ⟨.typeError, s!"expected string or bytes-like object, got '{v.typeName}'"⟩

/-- `HTTP_METHODS`, listed in the source's order. A run visits them in some permutation of this
list. -/
def httpMethods : List String := ["get", "put", "post", "delete", "patch", "options", "head", "trace"]

/-- `deref_parameter(p, spec)`. -/
def derefParameter (fuel : Nat) (p spec : PyVal) : Except PyExc PyVal := do
  if ← p.contains "$ref" then deref spec fuel [] p else pure p

/-- `summarize_parameter(p, spec)`: `'<in>:<name> — <type> (required|optional) — <desc>'`. -/
def summarizeParameter (fuel : Nat) (p spec : PyVal) : Except PyExc String := do
  let p ← derefParameter fuel p spec
  let schema ← p.getD "schema" (.dict [])
  let schema ← do if ← schema.contains "$ref" then deref spec fuel [] schema else pure schema
  let dtype ← tsTypeFromSchema J spec fuel schema 0 2
  let name ← p.getD "name" (.str "")
  let place ← p.getD "in" (.str "")
  let req := if (← p.getD "required" (.bool false)).truthy then "required" else "optional"
  let desc ← cleanText ((← p.get "description").or (.str ""))
  let s := place.pyStr ++ ":" ++ name.pyStr ++ " — " ++ dtype ++ " (" ++ req ++ ")"
  return if desc.isEmpty then s else s ++ " — " ++ desc

/-- The media types `extract_request_body_str` prefers, in order. -/
def preferredMediaTypes : List String :=
  ["application/json", "application/*+json", "multipart/form-data",
    "application/x-www-form-urlencoded"]

/-- `next(iter(content.keys()))` on a non-empty `content`. -/
def firstKey : PyVal → Except PyExc (Option String)
  | .dict [] => .ok none
  | .dict ((k, _) :: _) => .ok (some k)
  | v => .error ⟨.attributeError, s!"'{v.typeName}' object has no attribute 'keys'"⟩

/-- `extract_request_body_str(op, spec, max_depth)`. -/
def extractRequestBodyStr (fuel : Nat) (op spec : PyVal) (maxDepth : Int) :
    Except PyExc String := do
  let rb ← op.get "requestBody"
  if !rb.truthy then return ""
  let rb ← deref spec fuel [] rb
  let content := (← rb.get "content").or (.dict [])
  let ct ← match ← preferredMediaTypes.findM? content.contains with
    | some k => pure (some k)
    | none => if content.truthy then firstKey content else pure none
  match ct with
  | none => return ""
  | some ct =>
    if ct.isEmpty then return ""
    let schema ← ((← content.get ct).or (.dict [])).get "schema"
    if !schema.truthy then return ""
    tsTypeFromSchema J spec fuel schema 0 maxDepth

/-- `[deref_parameter(p, spec) for p in v.get("parameters", [])] if "parameters" in v else []`. -/
def derefParameters (fuel : Nat) (v spec : PyVal) : Except PyExc (List PyVal) := do
  if ← v.contains "parameters" then
    let ps ← (← v.getD "parameters" (.list [])).iter
    ps.mapM (derefParameter fuel · spec)
  else pure []

/-! ## Merging the parameters -/

/-- A key of `merged`, `(p.get("name"), p.get("in"))`. -/
abbrev ParamKey := PyVal × PyVal

/-- `==` on two keys of `merged`. -/
def ParamKey.beq (a b : ParamKey) : Bool := a.1.hashEq b.1 && a.2.hashEq b.2

/-- `merged[key] = p`: a key equal to a present one keeps its place and takes the new value. -/
def assocSetKey : List (ParamKey × PyVal) → ParamKey → PyVal → List (ParamKey × PyVal)
  | [], key, p => [(key, p)]
  | (k, q) :: ms, key, p => if k.beq key then (k, p) :: ms else (k, q) :: assocSetKey ms key p

/-- The loop `for p in path_params + op_params: merged[(p.get("name"), p.get("in"))] = p`.
Hashing the key hashes its two members in order. -/
def mergeParams : List (ParamKey × PyVal) → List PyVal → Except PyExc (List (ParamKey × PyVal))
  | acc, [] => .ok acc
  | acc, p :: ps => do
    let key : ParamKey := (← p.get "name", ← p.get "in")
    if !key.1.hashable then .error key.1.unhashableError
    else if !key.2.hashable then .error key.2.unhashableError
    else mergeParams (assocSetKey acc key p) ps

/-! ## Entries -/

/-- The metadata items an entry has when its text is not empty. -/
def optionalItem (key text : String) : List (String × PyVal) :=
  if text.isEmpty then [] else [(key, .str text)]

/-- The entry of the operation `op` under `method` of the path `path`, whose path-level
parameters are `pathParams`. -/
def operationEntry (fuel : Nat) (spec : PyVal) (maxDepth : Int) (path : String)
    (pathParams : List PyVal) (method : String) (op : PyVal) : Except PyExc PyVal := do
  let summaryRaw ← cleanText ((← op.get "summary").or (.str ""))
  let descriptionRaw ← cleanText ((← op.get "description").or (.str ""))
  let opId ← cleanText ((← op.get "operationId").or (.str ""))
  let summaryRaw :=
    if summaryRaw.isEmpty && descriptionRaw.isEmpty && !opId.isEmpty then opId else summaryRaw
  let contentText := if summaryRaw.isEmpty then descriptionRaw else summaryRaw
  let opParams ← derefParameters fuel op spec
  let merged ← mergeParams [] (pathParams ++ opParams)
  let named ← merged.mapM fun kp => do
    if (← kp.2.get "name").truthy then some <$> summarizeParameter J fuel kp.2 spec
    else pure none
  let paramStrings := (named.filterMap id).insertionSort (· ≤ ·)
  let rbStr ← extractRequestBodyStr J fuel op spec maxDepth
  let metadata := [("endpoint", .str path), ("method", .str (pyUpper method))] ++
    optionalItem "summary" summaryRaw ++ optionalItem "description" descriptionRaw ++
    (if paramStrings.isEmpty then [] else [("parameters", .list (paramStrings.map .str))]) ++
    optionalItem "requestBody" rbStr
  return .dict [("content", .str contentText), ("metadata", .dict metadata)]

/-- The path item `item` has an operation under `m`. -/
def hasOperation (item : PyVal) (m : String) : Bool :=
  match item with
  | .dict kvs => (kvs.lookup m).isSome
  | _ => false

/-- The entries of one path, visiting the methods in the order `methods`. A path item that is
not a dict is skipped. -/
def pathEntries (fuel : Nat) (spec : PyVal) (maxDepth : Int) (methods : List String)
    (path : String) (item : PyVal) : Except PyExc (List PyVal) := do
  match item with
  | .dict kvs =>
    let pathParams ← derefParameters fuel item spec
    (methods.filter (hasOperation item)).mapM fun m =>
      operationEntry J fuel spec maxDepth path pathParams m ((kvs.lookup m).getD .none)
  | _ => pure []

/-- `build_entries(spec, max_depth)`, visiting `HTTP_METHODS` in the order `methods`. -/
def buildEntries (fuel : Nat) (methods : List String) (spec : PyVal) (maxDepth : Int) :
    Except PyExc PyVal := do
  match (← spec.getD "paths" (.dict [])).or (.dict []) with
  | .dict paths =>
    let blocks ← paths.mapM fun kv => pathEntries J fuel spec maxDepth methods kv.1 kv.2
    return .dict [("entries", .list blocks.flatten)]
  | v => .error ⟨.attributeError, s!"'{v.typeName}' object has no attribute 'items'"⟩

/-! ## The order of the methods -/

/-- The entry of the operation under `m` of `item`, as `pathEntries` computes it, or `None` when
computing it raises. -/
def entryOf (fuel : Nat) (spec : PyVal) (maxDepth : Int) (path : String) (item : PyVal)
    (m : String) : PyVal :=
  match item with
  | .dict kvs =>
    match derefParameters fuel item spec >>= fun pp =>
        operationEntry J fuel spec maxDepth path pp m ((kvs.lookup m).getD .none) with
    | .ok v => v
    | .error _ => .none
  | _ => .none

/-- The value of `build_entries` over the path items `paths`, visiting the methods in the order
`methods`, with `E path item m` for the entry of an operation. -/
def entriesOf (paths : List (String × PyVal)) (E : String → PyVal → String → PyVal)
    (methods : List String) : PyVal :=
  .dict [("entries",
    .list (paths.flatMap fun kv => (methods.filter (hasOperation kv.2)).map (E kv.1 kv.2)))]

/-- Every entry names the path and the upper-cased method it was built for. -/
theorem operationEntry_shape {fuel : Nat} {spec : PyVal} {maxDepth : Int} {path : String}
    {pathParams : List PyVal} {m : String} {op v : PyVal}
    (h : operationEntry J fuel spec maxDepth path pathParams m op = .ok v) :
    ∃ content rest, v = .dict [("content", content),
      ("metadata", .dict (("endpoint", .str path) :: ("method", .str (pyUpper m)) :: rest))] := by
  simp only [operationEntry, bind, Except.bind, pure, Except.pure] at h
  repeat' split at h
  all_goals cases h
  all_goals exact ⟨_, _, by simp only [List.append_assoc]; rfl⟩

section

variable {fuel : Nat} {spec : PyVal} {maxDepth : Int}

/-- A path whose entries are computed under one order of the methods has them computed under
every other order, as the same entries in that order. -/
theorem pathEntries_perm {ms : List String} {path : String} {item : PyVal} {block : List PyVal}
    (h : pathEntries J fuel spec maxDepth ms path item = .ok block) {ms' : List String}
    (hperm : ms'.Perm ms) :
    pathEntries J fuel spec maxDepth ms' path item =
      .ok ((ms'.filter (hasOperation item)).map (entryOf J fuel spec maxDepth path item)) := by
  cases item with
  | dict kvs =>
    simp only [pathEntries] at h ⊢
    cases hpp : derefParameters fuel (.dict kvs) spec with
    | error e => simp only [hpp, error_bind, reduceCtorEq] at h
    | ok pp =>
      simp only [hpp, ok_bind] at h ⊢
      refine mapM_ok_of_forall fun m hm => ?_
      obtain ⟨y, hy⟩ := ok_of_mapM_ok h m ((hperm.filter _).mem_iff.mp hm)
      simp [entryOf, hpp, hy]
  | _ => rw [List.filter_eq_nil_iff.mpr fun _ _ => by simp [hasOperation]]; rfl

/-- The entries of a path that are computed name the path and their method. -/
theorem entryOf_shape {ms : List String} {path : String} {item : PyVal} {block : List PyVal}
    (h : pathEntries J fuel spec maxDepth ms path item = .ok block) {m : String}
    (hm : m ∈ ms.filter (hasOperation item)) :
    ∃ content rest, entryOf J fuel spec maxDepth path item m = .dict [("content", content),
      ("metadata", .dict (("endpoint", .str path) :: ("method", .str (pyUpper m)) :: rest))] := by
  cases item with
  | dict kvs =>
    simp only [pathEntries] at h
    cases hpp : derefParameters fuel (.dict kvs) spec with
    | error e => simp only [hpp, error_bind, reduceCtorEq] at h
    | ok pp =>
      simp only [hpp, ok_bind] at h
      obtain ⟨y, hy⟩ := ok_of_mapM_ok h m hm
      obtain ⟨content, rest, rfl⟩ := operationEntry_shape J hy
      exact ⟨content, rest, by simp [entryOf, hpp, hy]⟩
  | _ => simp [hasOperation] at hm

/-- **A run that succeeds, under every order.** When `build_entries` returns, its entries are
one per operation, grouped by path in the document's order and, within a path, in the order in
which the methods were visited; visiting them in any other order returns the same entries in
that order. -/
theorem buildEntries_perm {ms : List String} {r : PyVal}
    (h : buildEntries J fuel ms spec maxDepth = .ok r) :
    ∃ paths, (spec.getD "paths" (.dict [])).map (·.or (.dict [])) = .ok (.dict paths) ∧
      (∀ kv ∈ paths, ∃ block, pathEntries J fuel spec maxDepth ms kv.1 kv.2 = .ok block) ∧
      ∀ ms', ms'.Perm ms →
        buildEntries J fuel ms' spec maxDepth = .ok (entriesOf paths (entryOf J fuel spec maxDepth) ms') := by
  simp only [buildEntries] at h ⊢
  cases hp : spec.getD "paths" (.dict []) with
  | error e => simp only [hp, error_bind, reduceCtorEq] at h
  | ok pv =>
    simp only [hp, ok_bind] at h ⊢
    cases hd : pv.or (.dict []) with
    | dict paths =>
      simp only [hd] at h ⊢
      cases hb : paths.mapM (fun kv => pathEntries J fuel spec maxDepth ms kv.1 kv.2) with
      | error e => simp only [hb, error_bind, reduceCtorEq] at h
      | ok blocks =>
        refine ⟨paths, by simp [Except.map, hd], ok_of_mapM_ok hb, fun ms' hperm => ?_⟩
        have hall : paths.mapM (fun kv => pathEntries J fuel spec maxDepth ms' kv.1 kv.2) =
            .ok (paths.map fun kv =>
              (ms'.filter (hasOperation kv.2)).map (entryOf J fuel spec maxDepth kv.1 kv.2)) :=
          mapM_ok_of_forall fun kv hkv =>
            let ⟨_, hkv'⟩ := ok_of_mapM_ok hb kv hkv
            pathEntries_perm J hkv' hperm
        rw [hall]
        rfl
    | _ => simp only [hd, reduceCtorEq] at h

end

/-! ## The entries depend on the order -/

/-- Two concatenations of blocks of the same lengths are equal only if the blocks are. -/
theorem flatMap_inj_of_length {α β : Type} {f g : α → List β} :
    ∀ {l : List α}, (∀ x ∈ l, (f x).length = (g x).length) → l.flatMap f = l.flatMap g →
      ∀ x ∈ l, f x = g x
  | [], _, _, x, hx => absurd hx (List.not_mem_nil x)
  | y :: l, hlen, h, x, hx => by
    simp only [List.flatMap_cons] at h
    obtain ⟨h₁, h₂⟩ := List.append_inj h (hlen y (List.mem_cons_self _ _))
    rcases List.mem_cons.mp hx with rfl | hx
    · exact h₁
    · exact flatMap_inj_of_length (fun z hz => hlen z (List.mem_cons_of_mem _ hz)) h₂ x hx

/-- A list without repetitions and with two members is not its own reverse. -/
theorem reverse_ne_self {α : Type} : ∀ {l : List α}, l.Nodup → 2 ≤ l.length → l.reverse ≠ l
  | [], _, h2, _ | [_], _, h2, _ => by simp at h2
  | a :: b :: t, hl, _, h => by
    have hlast := congrArg List.getLast? h
    rw [List.getLast?_reverse, List.getLast?_cons_cons] at hlast
    exact (List.nodup_cons.mp hl).1 (List.mem_of_getLast?_eq_some hlast.symm)

theorem two_le_length_of_mem {α : Type} {l : List α} {a b : α} (ha : a ∈ l) (hb : b ∈ l)
    (hab : a ≠ b) : 2 ≤ l.length := by
  match l, ha, hb with
  | [_], ha, hb =>
    simp only [List.mem_singleton] at ha hb
    exact absurd (ha.trans hb.symm) hab
  | _ :: _ :: _, _, _ => simp

theorem pyUpper_injOn : ∀ a ∈ httpMethods, ∀ b ∈ httpMethods, pyUpper a = pyUpper b → a = b := by
  decide

/-- **The entries depend on the order of the methods.** When `build_entries` returns under one
order of `HTTP_METHODS`, and some path has operations under two methods, it returns other
entries under the reversed order: within that path the two entries change places. -/
theorem buildEntries_order_dependent {fuel : Nat} {ms : List String} {spec : PyVal}
    {maxDepth : Int} {r : PyVal} (hms : ms.Perm httpMethods)
    (h : buildEntries J fuel ms spec maxDepth = .ok r) {paths : List (String × PyVal)}
    (hpaths : (spec.getD "paths" (.dict [])).map (·.or (.dict [])) = .ok (.dict paths))
    {path : String} {item : PyVal} (hitem : (path, item) ∈ paths) {m₁ m₂ : String}
    (hne : m₁ ≠ m₂) (h₁ : m₁ ∈ httpMethods) (h₂ : m₂ ∈ httpMethods)
    (ho₁ : hasOperation item m₁) (ho₂ : hasOperation item m₂) :
    ∃ r', buildEntries J fuel ms.reverse spec maxDepth = .ok r' ∧ r' ≠ r := by
  obtain ⟨paths', hpaths', hblocks, hall⟩ := buildEntries_perm J h
  obtain rfl : paths = paths' := by
    rw [hpaths] at hpaths'
    simpa using hpaths'
  have hr := Except.ok.inj (h.symm.trans (hall ms (.refl _)))
  refine ⟨_, hall ms.reverse (List.reverse_perm ms), fun heq => ?_⟩
  rw [hr] at heq
  simp only [entriesOf, PyVal.dict.injEq, List.cons.injEq, Prod.mk.injEq, PyVal.list.injEq,
    true_and, and_true] at heq
  have hblock := flatMap_inj_of_length (fun kv _ => by simp) heq (path, item) hitem
  rw [List.filter_reverse, List.map_reverse] at hblock
  obtain ⟨block, hb⟩ := hblocks (path, item) hitem
  have hnd : ms.Nodup := hms.nodup_iff.mpr (by decide)
  have hm₁ : m₁ ∈ ms.filter (hasOperation item) := List.mem_filter.mpr ⟨hms.mem_iff.mpr h₁, ho₁⟩
  have hm₂ : m₂ ∈ ms.filter (hasOperation item) := List.mem_filter.mpr ⟨hms.mem_iff.mpr h₂, ho₂⟩
  refine reverse_ne_self ((hnd.filter _).map_on fun x hx y hy hxy => ?_) ?_ hblock
  · obtain ⟨_, _, hex⟩ := entryOf_shape J hb hx
    obtain ⟨_, _, hey⟩ := entryOf_shape J hb hy
    rw [hex, hey] at hxy
    simp only [PyVal.dict.injEq, List.cons.injEq, Prod.mk.injEq, PyVal.str.injEq, true_and] at hxy
    exact pyUpper_injOn x (hms.mem_iff.mp (List.mem_of_mem_filter hx))
      y (hms.mem_iff.mp (List.mem_of_mem_filter hy)) hxy.2.1.1
  · simpa using two_le_length_of_mem hm₁ hm₂ hne

/-- The document `{"paths": {"/x": {"get": {}, "post": {}}}}`: under the order of the source's
literal its entries are those of `GET` then `POST`, and under the reversed order they differ. -/
theorem buildEntries_get_post :
    httpMethods.Perm httpMethods ∧
      buildEntries refCodec 1000 httpMethods
          (.dict [("paths", .dict [("/x", .dict [("get", .dict []), ("post", .dict [])])])]) 4 =
        .ok (.dict [("entries", .list [
          .dict [("content", .str ""),
            ("metadata", .dict [("endpoint", .str "/x"), ("method", .str "GET")])],
          .dict [("content", .str ""),
            ("metadata", .dict [("endpoint", .str "/x"), ("method", .str "POST")])]])]) ∧
      ((PyVal.dict [("paths", .dict [("/x", .dict [("get", .dict []), ("post", .dict [])])])]).getD
          "paths" (.dict [])).map (·.or (.dict [])) =
        .ok (.dict [("/x", .dict [("get", .dict []), ("post", .dict [])])]) ∧
      ("/x", PyVal.dict [("get", .dict []), ("post", .dict [])]) ∈
        [("/x", PyVal.dict [("get", .dict []), ("post", .dict [])])] ∧
      "get" ≠ "post" ∧ "get" ∈ httpMethods ∧ "post" ∈ httpMethods ∧
      hasOperation (.dict [("get", .dict []), ("post", .dict [])]) "get" ∧
      hasOperation (.dict [("get", .dict []), ("post", .dict [])]) "post" ∧
      ∃ r', buildEntries refCodec 1000 httpMethods.reverse
          (.dict [("paths", .dict [("/x", .dict [("get", .dict []), ("post", .dict [])])])]) 4 =
          .ok r' ∧
        r' ≠ .dict [("entries", .list [
          .dict [("content", .str ""),
            ("metadata", .dict [("endpoint", .str "/x"), ("method", .str "GET")])],
          .dict [("content", .str ""),
            ("metadata", .dict [("endpoint", .str "/x"), ("method", .str "POST")])]])] :=
  have hres : buildEntries refCodec 1000 httpMethods
      (.dict [("paths", .dict [("/x", .dict [("get", .dict []), ("post", .dict [])])])]) 4 =
      .ok (.dict [("entries", .list [
        .dict [("content", .str ""),
          ("metadata", .dict [("endpoint", .str "/x"), ("method", .str "GET")])],
        .dict [("content", .str ""),
          ("metadata", .dict [("endpoint", .str "/x"), ("method", .str "POST")])]])]) := rfl
  ⟨.refl _, hres, rfl, by decide, by decide, by decide, by decide, rfl, rfl,
    @buildEntries_order_dependent refCodec _ _ _ _ _ (.refl _) hres _ rfl "/x"
      (.dict [("get", .dict []), ("post", .dict [])]) (by decide) "get" "post" (by decide)
      (by decide) (by decide) rfl rfl⟩

end PyAgents
