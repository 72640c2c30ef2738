import PyAgents.OpenApi.Params
import Mathlib.Data.List.DropRight

/-!
# The file `main` writes

`main` loads the OpenAPI document, runs `build_entries` on it, and writes the result with
`json.dump`. This module shows that `json.dump` accepts the result and that the text it writes
reads back as the entries: every value `build_entries` returns is a JSON value. Its dicts have
distinct keys, and its leaves are strings (`StrJson`).

The model's strings hold Unicode scalar values only. `json.load` turns the escape `"\ud800"`
into a lone surrogate, which the UTF-8 file that `main` writes to refuses with
`UnicodeEncodeError`; such documents are outside the model.

The keys of an entry's metadata are distinct because each optional item is added under its own
key, at most once. The document's own values never reach the output except through strings:
summaries, descriptions and parameter summaries are formatted or cleaned text, and request
bodies are rendered as TypeScript-like types.

The texts an entry carries from the document pass through `clean_text`, which collapses every
run of whitespace to one space and strips both ends. Its results are clean text (`IsClean`), and
on clean text it changes nothing, so cleaning twice is cleaning once.

## Main results

* `cleanText_idem` — `clean_text` returns clean text, and returns clean text unchanged
* `strJson_operationEntry` — every entry is a JSON value whose leaves are strings
* `buildEntries_roundtrip` — the output of `build_entries` is such a value; `json.dump` accepts
  it, and the text it writes reads back as that output
* `buildEntries_operations` — the entries describe the document's operations, one each, in order
-/

namespace PyAgents

/-! ## Clean text -/

/-- Text as `clean_text` leaves it: every whitespace character is a space, no two of them are
adjacent, and none is first or last. -/
structure IsClean (cs : List Char) : Prop where
  spaces : ∀ c ∈ cs, pyIsSpace c → c = ' '
  single : cs.Chain' fun a b => ¬(pyIsSpace a ∧ pyIsSpace b)
  first : ∀ c ∈ cs.head?, ¬pyIsSpace c
  last : ∀ c ∈ cs.getLast?, ¬pyIsSpace c

theorem spaces_collapseSpace : ∀ (inRun : Bool) (cs : List Char),
    ∀ c ∈ collapseSpace inRun cs, pyIsSpace c → c = ' '
  | _, [] => fun _ h => absurd h (List.not_mem_nil _)
  | inRun, c :: cs => by
    unfold collapseSpace
    split
    · split
      · exact spaces_collapseSpace true cs
      · intro x hx
        rcases List.mem_cons.mp hx with rfl | hx
        · exact fun _ => rfl
        · exact spaces_collapseSpace true cs x hx
    · intro x hx
      rcases List.mem_cons.mp hx with rfl | hx
      · exact fun h => absurd h ‹_›
      · exact spaces_collapseSpace false cs x hx

/-- The collapsed text has no two adjacent whitespace characters, and after whitespace it does not
start with one. -/
theorem single_collapseSpace : ∀ (inRun : Bool) (cs : List Char),
    (collapseSpace inRun cs).Chain' (fun a b => ¬(pyIsSpace a ∧ pyIsSpace b)) ∧
      (inRun = true → ∀ c ∈ (collapseSpace inRun cs).head?, ¬pyIsSpace c)
  | _, [] => ⟨by simp [collapseSpace], fun _ _ h => by simp [collapseSpace] at h⟩
  | inRun, c :: cs => by
    obtain ⟨ht, hht⟩ := single_collapseSpace true cs
    obtain ⟨hf, -⟩ := single_collapseSpace false cs
    unfold collapseSpace
    split
    · split
      · exact ⟨ht, fun _ => hht rfl⟩
      · next hr =>
        exact ⟨List.chain'_cons'.mpr ⟨fun y hy h => hht rfl y hy h.2, ht⟩, fun h => absurd h hr⟩
    · next hc =>
      refine ⟨List.chain'_cons'.mpr ⟨fun _ _ h => hc h.1, hf⟩, fun _ x hx => ?_⟩
      cases hx
      exact hc

/-- Stripping keeps the single spaces and removes those at the ends. -/
theorem isClean_strip {cs : List Char} (hs : ∀ c ∈ cs, pyIsSpace c → c = ' ')
    (hc : cs.Chain' fun a b => ¬(pyIsSpace a ∧ pyIsSpace b)) :
    IsClean ((cs.dropWhile pyIsSpace).rdropWhile pyIsSpace) := by
  have hpre := List.rdropWhile_prefix pyIsSpace (cs.dropWhile pyIsSpace)
  have hsuf : cs.dropWhile pyIsSpace <:+ cs := List.dropWhile_suffix pyIsSpace
  refine ⟨fun c h => hs c (hsuf.subset (hpre.subset h)), List.Chain'.prefix (hc.suffix hsuf) hpre,
    fun c h => ?_, fun c h => ?_⟩
  · have hne : (cs.dropWhile pyIsSpace).rdropWhile pyIsSpace ≠ [] := by
      rintro hnil
      rw [hnil] at h
      cases h
    obtain ⟨t, ht⟩ := hpre
    have hd := List.head?_dropWhile_not pyIsSpace cs
    rw [← ht, List.head?_append_of_ne_nil _ hne, h] at hd
    simpa using hd
  · have hne : (cs.dropWhile pyIsSpace).rdropWhile pyIsSpace ≠ [] := by
      rintro hnil
      rw [hnil] at h
      cases h
    rw [List.getLast?_eq_getLast _ hne, Option.mem_some_iff] at h
    subst h
    simpa using List.rdropWhile_last_not pyIsSpace _ hne

/-- On text with single spaces, collapsing changes nothing. -/
theorem collapseSpace_of_single : ∀ {inRun : Bool} {cs : List Char},
    (∀ c ∈ cs, pyIsSpace c → c = ' ') → cs.Chain' (fun a b => ¬(pyIsSpace a ∧ pyIsSpace b)) →
      (inRun = true → ∀ c ∈ cs.head?, ¬pyIsSpace c) → collapseSpace inRun cs = cs
  | _, [], _, _, _ => rfl
  | inRun, c :: cs, hs, hc, hh => by
    obtain ⟨hnext, hc'⟩ := List.chain'_cons'.mp hc
    have hs' : ∀ x ∈ cs, pyIsSpace x → x = ' ' := fun x hx => hs x (.tail _ hx)
    unfold collapseSpace
    split
    · next hsp =>
      have hr : inRun = false := by
        cases inRun
        · rfl
        · exact absurd hsp (hh rfl c rfl)
      rw [if_neg (by simp [hr]), hs c (.head _) hsp,
        collapseSpace_of_single hs' hc' fun _ y hy h => hnext y hy ⟨hsp, h⟩]
    · rw [collapseSpace_of_single hs' hc' fun h => absurd h Bool.false_ne_true]

theorem strip_of_isClean {cs : List Char} (h : IsClean cs) :
    (cs.dropWhile pyIsSpace).rdropWhile pyIsSpace = cs := by
  have hd : cs.dropWhile pyIsSpace = cs := by
    cases cs with
    | nil => rfl
    | cons c cs => rw [List.dropWhile_cons, if_neg (h.first c rfl)]
  rw [hd, List.rdropWhile_eq_self_iff]
  intro hne
  simpa using h.last _ (List.getLast?_eq_getLast cs hne)

theorem isClean_of_cleanText {text : PyVal} {s : String} (h : cleanText text = .ok s) :
    IsClean s.toList := by
  unfold cleanText at h
  split at h
  · cases h
    exact ⟨fun _ h => (by cases h), List.chain'_nil, fun _ h => (by cases h), fun _ h => by cases h⟩
  · split at h
    · cases h
      exact isClean_strip (spaces_collapseSpace false _) (single_collapseSpace false _).1
    · cases h
    · cases h

theorem cleanText_of_isClean {s : String} (h : IsClean s.toList) : cleanText (.str s) = .ok s := by
  unfold cleanText
  split
  · next ht =>
    simp only [PyVal.truthy, Bool.not_not, String.isEmpty_iff] at ht
    rw [ht]
  · show Except.ok (pyStrip (String.mk (collapseSpace false s.toList))) = .ok s
    rw [collapseSpace_of_single h.spaces h.single fun h => absurd h Bool.false_ne_true]
    exact congrArg Except.ok (congrArg String.mk (strip_of_isClean h))

/-- **`clean_text` is idempotent.** What it returns is clean text; clean text it returns
unchanged; so cleaning a cleaned text gives the same text. -/
theorem cleanText_idem :
    (∀ (text : PyVal) (s : String), cleanText text = .ok s → IsClean s.toList) ∧
      (∀ s : String, IsClean s.toList → cleanText (.str s) = .ok s) ∧
      ∀ (text : PyVal) (s : String), cleanText text = .ok s → cleanText (.str s) = .ok s :=
  ⟨fun _ _ => isClean_of_cleanText, fun _ => cleanText_of_isClean,
    fun _ _ h => cleanText_of_isClean (isClean_of_cleanText h)⟩

/-- A summary with a tab, a newline and spaces around it. -/
theorem cleanText_idem_summary :
    cleanText (.str "  List\tall \n zones ") = .ok "List all zones" ∧
      IsClean "List all zones".toList ∧ cleanText (.str "List all zones") = .ok "List all zones" :=
  ⟨rfl, cleanText_idem.1 _ _ (rfl : cleanText (.str "  List\tall \n zones ") = .ok "List all zones"),
    cleanText_idem.2.2 _ _ (rfl : cleanText (.str "  List\tall \n zones ") = .ok "List all zones")⟩

/-! ## Values every codec writes -/

namespace PyVal

mutual
/-- Every leaf of `v` is a string: what is inside it is lists, dicts and strings only. -/
def strLeaves : PyVal → Bool
  | .str _ => true
  | .list xs => strLeavesList xs
  | .dict kvs => strLeavesDict kvs
  | .none | .bool _ | .int _ | .set _ | .bytes _ | .object _ | .unset => false
/-- `strLeaves` on every item. -/
def strLeavesList : List PyVal → Bool
  | [] => true
  | x :: xs => strLeaves x && strLeavesList xs
/-- `strLeaves` on every value. -/
def strLeavesDict : List (String × PyVal) → Bool
  | [] => true
  | (_, x) :: kvs => strLeaves x && strLeavesDict kvs
end

mutual
/-- A value whose leaves are strings holds no int. -/
theorem intsFit_of_strLeaves : ∀ {v : PyVal}, v.strLeaves → v.intsFit
  | .str _, _ => rfl
  | .list xs, h => intsFitList_of_strLeavesList h
  | .dict kvs, h => intsFitDict_of_strLeavesDict h
  | .none, h | .bool _, h | .int _, h | .set _, h | .bytes _, h | .object _, h | .unset, h =>
    absurd h (by simp [strLeaves])
theorem intsFitList_of_strLeavesList : ∀ {xs : List PyVal}, strLeavesList xs → intsFitList xs
  | [], _ => rfl
  | x :: xs, h => by
    simp only [strLeavesList, Bool.and_eq_true] at h
    simp [intsFit_of_strLeaves h.1, intsFitList_of_strLeavesList h.2]
theorem intsFitDict_of_strLeavesDict :
    ∀ {kvs : List (String × PyVal)}, strLeavesDict kvs → intsFitDict kvs
  | [], _ => rfl
  | (_, x) :: kvs, h => by
    simp only [strLeavesDict, Bool.and_eq_true] at h
    simp [intsFit_of_strLeaves h.1, intsFitDict_of_strLeavesDict h.2]
end

end PyVal

/-- A value `json` writes under every codec: a JSON value, so its dicts have distinct keys, whose
leaves are strings, nested at most `d` deep. -/
structure StrJson (d : Nat) (v : PyVal) : Prop where
  isJson : v.isJson
  strLeaves : v.strLeaves
  depth_le : v.depth ≤ d

namespace StrJson

variable {d : Nat}

theorem str (s : String) : StrJson d (.str s) := ⟨rfl, rfl, Nat.zero_le _⟩

theorem list : ∀ {xs : List PyVal}, (∀ x ∈ xs, StrJson d x) → StrJson (d + 1) (.list xs)
  | [], _ => ⟨rfl, rfl, by simp⟩
  | x :: xs, h =>
    have hx := h x (.head _)
    have ih := list fun y hy => h y (.tail _ hy)
    ⟨by simpa [PyVal.isJson, PyVal.isJsonList] using ⟨hx.isJson, ih.isJson⟩,
      by simpa [PyVal.strLeaves, PyVal.strLeavesList] using ⟨hx.strLeaves, ih.strLeaves⟩,
      by simpa using ⟨hx.depth_le, by simpa using ih.depth_le⟩⟩

theorem dict_values : ∀ {kvs : List (String × PyVal)}, (∀ kv ∈ kvs, StrJson d kv.2) →
    PyVal.isJsonDict kvs ∧ PyVal.strLeavesDict kvs ∧ PyVal.depthDict kvs ≤ d
  | [], _ => ⟨rfl, rfl, Nat.zero_le _⟩
  | (_, x) :: kvs, h =>
    have hx := h _ (.head _)
    have ih := dict_values fun kv hkv => h kv (.tail _ hkv)
    ⟨by simp [hx.isJson, ih.1], by simp [PyVal.strLeavesDict, hx.strLeaves, ih.2.1],
      by simpa using ⟨hx.depth_le, ih.2.2⟩⟩

theorem dict {kvs : List (String × PyVal)} (hk : (kvs.map Prod.fst).Nodup)
    (h : ∀ kv ∈ kvs, StrJson d kv.2) : StrJson (d + 1) (.dict kvs) :=
  have hv := dict_values h
  ⟨PyVal.isJson_dict hk hv.1, hv.2.1, by simpa using hv.2.2⟩

/-- What every codec writes, it reads back. -/
theorem roundtrip {J : JsonCodec} {v : PyVal} (h : StrJson d v) (hd : d ≤ 8) :
    ∃ t, J.dumps v = .ok t ∧ J.loads t = .ok v :=
  JsonCodec.Loaded.roundtrip
    ⟨h.isJson, PyVal.intsFit_of_strLeaves h.strLeaves, h.depth_le.trans (hd.trans J.maxDepth_ge)⟩

end StrJson

theorem keys_optionalItem (key text : String) : ((optionalItem key text).map Prod.fst).Sublist [key] := by
  unfold optionalItem
  split <;> simp

theorem strJson_of_mem_optionalItem {key text : String} {kv : String × PyVal} {d : Nat}
    (h : kv ∈ optionalItem key text) : StrJson d kv.2 := by
  unfold optionalItem at h
  split at h
  · cases h
  · rw [List.mem_singleton.mp h]
    exact .str _

/-- An entry, whatever its texts: the metadata keys are distinct, and every value is a string or a
list of strings. -/
theorem strJson_entry (content path method summary description requestBody : String)
    (params : List String) :
    StrJson 3 (.dict [("content", .str content), ("metadata", .dict
      ([("endpoint", .str path), ("method", .str method)] ++ optionalItem "summary" summary ++
        optionalItem "description" description ++
        (if params.isEmpty then [] else [("parameters", .list (params.map .str))]) ++
        optionalItem "requestBody" requestBody))]) := by
  have hparams : ((if params.isEmpty then [] else [("parameters", PyVal.list (params.map .str))]).map
      Prod.fst).Sublist ["parameters"] := by
    split <;> simp
  have hkeys := ((((List.Sublist.refl ["endpoint", "method"]).append
    (keys_optionalItem "summary" summary)).append (keys_optionalItem "description" description)).append
    hparams).append (keys_optionalItem "requestBody" requestBody)
  have hvals : ∀ kv ∈ [("endpoint", PyVal.str path), ("method", .str method)] ++
      optionalItem "summary" summary ++ optionalItem "description" description ++
      (if params.isEmpty then [] else [("parameters", .list (params.map .str))]) ++
      optionalItem "requestBody" requestBody, StrJson 1 kv.2 := by
    intro kv hkv
    simp only [List.mem_append] at hkv
    rcases hkv with (((h | h) | h) | h) | h
    · rcases List.mem_pair.mp h with rfl | rfl <;> exact .str _
    · exact strJson_of_mem_optionalItem h
    · exact strJson_of_mem_optionalItem h
    · split at h
      · cases h
      · rw [List.mem_singleton.mp h]
        exact .list fun x hx => by
          obtain ⟨s, -, rfl⟩ := List.mem_map.mp hx
          exact .str s
    · exact strJson_of_mem_optionalItem h
  refine .dict (by simp) fun kv hkv => ?_
  rcases List.mem_pair.mp hkv with rfl | rfl
  · exact .str _
  · exact .dict (by simp only [List.map_append]; exact hkeys.nodup (by decide)) hvals

variable (J : JsonCodec)

/-- Every entry `build_entries` appends is a JSON value with string leaves. -/
theorem strJson_operationEntry {fuel : Nat} {spec : PyVal} {maxDepth : Int} {path : String}
    {pathParams : List PyVal} {m : String} {op v : PyVal}
    (h : operationEntry J fuel spec maxDepth path pathParams m op = .ok v) : StrJson 3 v := by
  simp only [operationEntry] at h
  repeat obtain ⟨_, -, h⟩ := bind_eq_ok.mp h
  cases h
  exact strJson_entry _ _ _ _ _ _ _

theorem strJson_of_pathEntries {fuel : Nat} {spec : PyVal} {maxDepth : Int} {ms : List String}
    {path : String} {item : PyVal} {block : List PyVal}
    (h : pathEntries J fuel spec maxDepth ms path item = .ok block) : ∀ v ∈ block, StrJson 3 v := by
  cases item with
  | dict kvs =>
    simp only [pathEntries] at h
    obtain ⟨_, -, h⟩ := bind_eq_ok.mp h
    intro v hv
    obtain ⟨_, -, hop⟩ := exists_of_mapM_ok h v hv
    exact strJson_operationEntry J hop
  | _ =>
    cases h
    intro _ h
    cases h

/-- **The file `main` writes reads back as the entries.** Whenever `build_entries` returns, under
any order of the methods, its output is a JSON value, so its dicts have distinct keys, whose
leaves are strings, nested five deep. `json.dump` accepts it, and the text it writes loads back
as that output. -/
theorem buildEntries_roundtrip {fuel : Nat} {ms : List String} {spec out : PyVal} {maxDepth : Int}
    (h : buildEntries J fuel ms spec maxDepth = .ok out) :
    StrJson 5 out ∧ ∃ t, J.dumps out = .ok t ∧ J.loads t = .ok out := by
  have hout : StrJson 5 out := by
    simp only [buildEntries] at h
    obtain ⟨_, -, h⟩ := bind_eq_ok.mp h
    split at h
    · obtain ⟨blocks, hb, h⟩ := bind_eq_ok.mp h
      cases h
      refine .dict (by simp) fun kv hkv => ?_
      rw [List.mem_singleton.mp hkv]
      refine .list fun v hv => ?_
      obtain ⟨block, hblock, hv⟩ := List.mem_flatten.mp hv
      obtain ⟨kv, -, hkv⟩ := exists_of_mapM_ok hb block hblock
      exact strJson_of_pathEntries J hkv v hv
    · cases h
  exact ⟨hout, hout.roundtrip (by decide)⟩

/-- A path with one path-level parameter and one operation whose summary needs cleaning. -/
theorem buildEntries_roundtrip_zones :
    let spec : PyVal := .dict [("paths", .dict [("/zones/\x7bid\x7d", .dict [
      ("parameters", .list [.dict [("name", .str "id"), ("in", .str "path"),
        ("required", .bool true), ("schema", .dict [("type", .str "string")])]]),
      ("get", .dict [("summary", .str "  List\n zones ")])])])]
    let out : PyVal := .dict [("entries", .list [.dict [("content", .str "List zones"),
      ("metadata", .dict [("endpoint", .str "/zones/\x7bid\x7d"), ("method", .str "GET"),
        ("summary", .str "List zones"),
        ("parameters", .list [.str "path:id — string (required)"])])]])]
    buildEntries refCodec 1000 httpMethods spec 4 = .ok out ∧ StrJson 5 out ∧
      ∃ t, refCodec.dumps out = .ok t ∧ refCodec.loads t = .ok out := by
  intro spec out
  have h : buildEntries refCodec 1000 httpMethods spec 4 = .ok out := rfl
  exact ⟨h, buildEntries_roundtrip refCodec h⟩

/-! ## One entry per operation -/

/-- `(entry["metadata"]["endpoint"], entry["metadata"]["method"])`: the operation a reader of the
file takes an entry to describe. -/
def entryOperation (entry : PyVal) : Except PyExc (PyVal × PyVal) := do
  let metadata ← entry.subscript "metadata"
  return (← metadata.subscript "endpoint", ← metadata.subscript "method")

/-- The operations of the path items `paths`, visiting the methods in the order `methods`: each
path item that is a dict, with each method it has an operation under, upper-cased. -/
def operationsOf (paths : List (String × PyVal)) (methods : List String) : List (PyVal × PyVal) :=
  paths.flatMap fun kv => (methods.filter (hasOperation kv.2)).map fun m => (.str kv.1, .str (pyUpper m))

theorem mapM_map_ok {ε α β γ : Type} {f : α → β} {g : β → Except ε γ} {h : α → γ} :
    ∀ {l : List α}, (∀ x ∈ l, g (f x) = .ok (h x)) → (l.map f).mapM g = .ok (l.map h)
  | [], _ => rfl
  | x :: xs, hx => by
    rw [List.map_cons, List.mapM_cons, hx x (List.mem_cons_self _ _),
      mapM_map_ok fun y hy => hx y (List.mem_cons_of_mem _ hy)]
    rfl

theorem mapM_flatMap_ok {ε α β γ : Type} {f : α → List β} {g : β → Except ε γ} {h : α → List γ} :
    ∀ {l : List α}, (∀ x ∈ l, (f x).mapM g = .ok (h x)) → (l.flatMap f).mapM g = .ok (l.flatMap h)
  | [], _ => rfl
  | x :: xs, hx => by
    rw [List.flatMap_cons, List.mapM_append, hx x (List.mem_cons_self _ _),
      mapM_flatMap_ok fun y hy => hx y (List.mem_cons_of_mem _ hy)]
    rfl

/-- Distinct paths give distinct operations, as upper-casing tells the HTTP methods apart. -/
theorem nodup_operationsOf {ms : List String} (hms : ms.Perm httpMethods)
    {paths : List (String × PyVal)} (hk : (paths.map Prod.fst).Nodup) :
    (operationsOf paths ms).Nodup := by
  refine List.nodup_flatMap.mpr ⟨fun kv _ => ?_, (List.pairwise_map.mp hk).imp fun hne => ?_⟩
  · refine List.Nodup.map_on (fun a ha b hb hab => ?_)
      ((hms.nodup_iff.mpr (by decide)).filter _)
    exact pyUpper_injOn a (hms.subset (List.mem_of_mem_filter ha)) b
      (hms.subset (List.mem_of_mem_filter hb)) (by simpa using hab)
  · intro x hx hx'
    obtain ⟨_, -, rfl⟩ := List.mem_map.mp hx
    obtain ⟨_, -, h⟩ := List.mem_map.mp hx'
    exact hne (by simpa using (congrArg Prod.fst h).symm)

/-- The paths of a JSON document are distinct. -/
theorem keys_nodup_of_paths {spec : PyVal} {paths : List (String × PyVal)} (hj : spec.isJson)
    (hp : (spec.getD "paths" (.dict [])).map (·.or (.dict [])) = .ok (.dict paths)) :
    (paths.map Prod.fst).Nodup := by
  cases hg : spec.getD "paths" (.dict []) with
  | error e => simp [hg, Except.map] at hp
  | ok pv =>
    have hpv := PyVal.isJson_of_getD hj (rfl : (PyVal.dict []).isJson = true) hg
    have hor : (pv.or (.dict [])).isJson := by
      unfold PyVal.or
      split
      exacts [hpv, rfl]
    simp only [hg, Except.map, Except.ok.injEq] at hp
    rw [hp] at hor
    simp only [PyVal.isJson, Bool.and_eq_true, decide_eq_true_eq] at hor
    exact hor.1

/-- **One entry per operation.** When `build_entries` returns, visiting the set `HTTP_METHODS` in
any order `ms`, its entries describe exactly the operations of the document. There is one per
path item that is a dict and method it has an operation under, in the order of the document and
then of `ms`, each under its path and its upper-cased method. For a JSON document, no two entries
describe the same operation. -/
theorem buildEntries_operations {fuel : Nat} {ms : List String} {spec out : PyVal} {maxDepth : Int}
    (hms : ms.Perm httpMethods) (h : buildEntries J fuel ms spec maxDepth = .ok out) :
    ∃ paths es, (spec.getD "paths" (.dict [])).map (·.or (.dict [])) = .ok (.dict paths) ∧
      out = .dict [("entries", .list es)] ∧
      es.mapM entryOperation = .ok (operationsOf paths ms) ∧
      (spec.isJson → (operationsOf paths ms).Nodup) := by
  obtain ⟨paths, hp, hblocks, hall⟩ := buildEntries_perm J h
  have hout : out = entriesOf paths (entryOf J fuel spec maxDepth) ms :=
    Except.ok.inj (h.symm.trans (hall ms (.refl _)))
  refine ⟨paths, _, hp, hout, mapM_flatMap_ok fun kv hkv => mapM_map_ok fun m hm => ?_,
    fun hj => nodup_operationsOf hms (keys_nodup_of_paths hj hp)⟩
  obtain ⟨block, hblock⟩ := hblocks kv hkv
  obtain ⟨content, rest, he⟩ := entryOf_shape J hblock hm
  rw [he]
  rfl

/-- One path with two operations: the entries describe `GET` and `POST` of that path, in that
order. -/
theorem buildEntries_operations_zones :
    let spec : PyVal := .dict [("paths", .dict [("/zones", .dict [
      ("post", .dict [("summary", .str "Create a zone")]),
      ("get", .dict [("summary", .str "List zones")])])])]
    let out : PyVal := .dict [("entries", .list [
      .dict [("content", .str "List zones"), ("metadata", .dict [("endpoint", .str "/zones"),
        ("method", .str "GET"), ("summary", .str "List zones")])],
      .dict [("content", .str "Create a zone"), ("metadata", .dict [("endpoint", .str "/zones"),
        ("method", .str "POST"), ("summary", .str "Create a zone")])]])]
    httpMethods.Perm httpMethods ∧ buildEntries refCodec 1000 httpMethods spec 4 = .ok out ∧
      ∃ paths es, (spec.getD "paths" (.dict [])).map (·.or (.dict [])) = .ok (.dict paths) ∧
        out = .dict [("entries", .list es)] ∧
        es.mapM entryOperation = .ok (operationsOf paths httpMethods) ∧
        (spec.isJson → (operationsOf paths httpMethods).Nodup) := by
  intro spec out
  have h : buildEntries refCodec 1000 httpMethods spec 4 = .ok out := rfl
  exact ⟨.refl _, h, buildEntries_operations refCodec (.refl _) h⟩

end PyAgents
