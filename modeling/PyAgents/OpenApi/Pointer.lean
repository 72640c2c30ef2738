import PyAgents.OpenApi.Ref

/-!
# Escaped pointers

`resolve_pointer` unescapes each reference token with two replacements, `~1` to `/` and then
`~0` to `~`. RFC 6901 escapes a key the other way round, `~` to `~0` and then `/` to `~1`. This
module shows that the two agree on every key: the pointer built from a non-empty list of keys,
each escaped and the escapes joined with `/`, resolves to the value those keys reach in the
document, or to `None` when some step is not a member of a dict.

The order of the two replacements is what makes this work. An escaped key has a `~` only in
front of a `0` or a `1`. The first replacement turns each `~1` back into `/` and leaves each `~0`
whole, since the `0` after a `~` is never read as the start of a `~1`; the second turns `~0` into
`~`. In the other order, `~01`, the escape of `~1`, would decode to `/`.

## Main definitions

* `escapeToken`, `pointerOf` — the RFC 6901 pointer to a list of keys
* `memberPath` — `doc[k1]...[kn]`, when each step is a member of a dict

## Main results

* `unescapeToken_escapeToken` — decoding undoes the escaping, for every key
* `resolvePointer_pointerOf` — the pointer to `ks` resolves to the member path `ks`
-/

namespace PyAgents

/-! ## Escaping -/

/-- `s.replace(old, new)` for a one-character `old`. -/
def replaceChar (old : Char) (new s : List Char) : List Char :=
  s.flatMap fun c => if c = old then new else [c]

/-- The RFC 6901 escape of a key, `k.replace("~", "~0").replace("/", "~1")`. -/
def escapeToken (k : List Char) : List Char :=
  replaceChar '/' ['~', '1'] (replaceChar '~' ['~', '0'] k)

/-- `"#/" + "/".join(esc(k) for k in ks)`. -/
def pointerOf (ks : List String) : String :=
  String.mk ("#/".toList ++ ['/'].intercalate (ks.map fun k => escapeToken k.toList))

theorem replaceChar_cons (old c : Char) (new s : List Char) :
    replaceChar old new (c :: s) = (if c = old then new else [c]) ++ replaceChar old new s :=
  rfl

theorem escapeToken_tilde (k : List Char) : escapeToken ('~' :: k) = '~' :: '0' :: escapeToken k :=
  rfl

theorem escapeToken_slash (k : List Char) : escapeToken ('/' :: k) = '~' :: '1' :: escapeToken k :=
  rfl

theorem escapeToken_other {c : Char} (h1 : c ≠ '~') (h2 : c ≠ '/') (k : List Char) :
    escapeToken (c :: k) = c :: escapeToken k := by
  simp [escapeToken, replaceChar_cons, h1, h2]

theorem slash_not_mem_escapeToken : ∀ k : List Char, '/' ∉ escapeToken k
  | [] => List.not_mem_nil _
  | c :: k => by
    have ih := slash_not_mem_escapeToken k
    by_cases h1 : c = '~'
    · subst h1; simpa [escapeToken_tilde] using ih
    by_cases h2 : c = '/'
    · subst h2; simpa [escapeToken_slash] using ih
    · simpa [escapeToken_other h1 h2, Ne.symm h2] using ih

/-! ## Unescaping -/

/-- The first replacement of `unescapeToken`, `~1` to `/`, gives back the key with only its `~`
escaped: it never splits a `~0`. -/
theorem replacePair_escapeToken : ∀ k : List Char,
    replacePair '~' '1' ['/'] (escapeToken k) = replaceChar '~' ['~', '0'] k
  | [] => by simp [escapeToken, replaceChar, replacePair]
  | c :: k => by
    have ih := replacePair_escapeToken k
    by_cases h1 : c = '~'
    · subst h1
      rw [escapeToken_tilde, replacePair_cons_cons_of_ne _ _ _ (by decide),
        replacePair_cons_of_ne _ _ (by decide), ih]
      rfl
    by_cases h2 : c = '/'
    · subst h2
      rw [escapeToken_slash, replacePair_match, ih]
      rfl
    · rw [escapeToken_other h1 h2, replacePair_cons_of_ne _ _ h1, ih, replaceChar_cons, if_neg h1]
      rfl

/-- The second replacement, `~0` to `~`, undoes the escaping of `~`. -/
theorem replacePair_replaceChar : ∀ k : List Char,
    replacePair '~' '0' ['~'] (replaceChar '~' ['~', '0'] k) = k
  | [] => by simp [replaceChar, replacePair]
  | c :: k => by
    rw [replaceChar_cons]
    by_cases h1 : c = '~'
    · subst h1
      rw [if_pos rfl, List.cons_append, List.cons_append, List.nil_append, replacePair_match,
        replacePair_replaceChar k]
      rfl
    · rw [if_neg h1, List.singleton_append, replacePair_cons_of_ne _ _ h1,
        replacePair_replaceChar k]

/-- Decoding undoes the RFC 6901 escaping, for every key. -/
theorem unescapeToken_escapeToken (k : String) : unescapeToken (escapeToken k.toList) = k := by
  rw [unescapeToken, replacePair_escapeToken, replacePair_replaceChar]
  rfl

/-! ## Resolving -/

/-- `doc[k1]...[kn]`, when each step is a member of a dict; nothing when a step reaches a value
that is not a dict holding the next key. -/
def memberPath (doc : PyVal) (ks : List String) : Option PyVal :=
  ks.foldlM (fun cur k => match cur with
    | .dict kvs => kvs.lookup k
    | _ => Option.none) doc

/-- The loop of `resolve_pointer` follows the member path, with `None` for a missing step. -/
theorem walkPointer_eq_memberPath : ∀ (doc : PyVal) (ks : List String),
    walkPointer doc ks = (memberPath doc ks).getD .none
  | _, [] => by simp [walkPointer, memberPath]
  | .dict kvs, k :: ks => by
    simp only [walkPointer, memberPath, List.foldlM_cons]
    cases kvs.lookup k with
    | none => rfl
    | some x => exact walkPointer_eq_memberPath x ks
  | .none, _ :: _ | .bool _, _ :: _ | .int _, _ :: _ | .str _, _ :: _ | .list _, _ :: _
  | .set _, _ :: _ | .bytes _, _ :: _ | .object _, _ :: _ | .unset, _ :: _ => rfl

/-- Splitting the pointer at `/` gives back the escaped keys, since no escape holds a `/`. -/
theorem splitOn_pointerOf {ks : List String} (hks : ks ≠ []) :
    splitOn '/' ((pointerOf ks).toList.drop 2) = ks.map fun k => escapeToken k.toList := by
  rw [splitOn_eq_splitOn]
  refine List.splitOn_intercalate _ '/' (fun l hl => ?_) (by simpa using hks)
  obtain ⟨k, -, rfl⟩ := List.mem_map.mp hl
  exact slash_not_mem_escapeToken _

/-- **The pointer to a list of keys.** For every non-empty list of keys, with `/` and `~` in
them or not, the RFC 6901 pointer to them resolves to `doc[k1]...[kn]` when each step is a
member of a dict, and to `None` when some step is not. -/
theorem resolvePointer_pointerOf (doc : PyVal) {ks : List String} (hks : ks ≠ []) :
    resolvePointer doc (.str (pointerOf ks)) = .ok ((memberPath doc ks).getD .none) := by
  have hpre : pyStartsWith (pointerOf ks) "#/" = true := by
    simp [pyStartsWith, pointerOf, List.isPrefixOf]
  rw [resolvePointer, if_pos hpre, splitOn_pointerOf hks, List.map_map,
    ← walkPointer_eq_memberPath]
  congr 2
  exact List.map_id'' (fun k => unescapeToken_escapeToken k) ks

theorem resolvePointer_pointerOf_tilde :
    ["a/b", "~1"] ≠ [] ∧
      resolvePointer (.dict [("a/b", .dict [("~1", .int 7)])]) (.str (pointerOf ["a/b", "~1"])) =
        .ok (.int 7) :=
  ⟨List.cons_ne_nil _ _, resolvePointer_pointerOf _ (List.cons_ne_nil _ _)⟩

end PyAgents
