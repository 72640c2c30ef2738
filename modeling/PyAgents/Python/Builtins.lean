import PyAgents.Python.Value

/-!
# The builtins of the OpenAPI flattener

The string methods (`strip`, `startswith`, `replace`, `split`, `upper`), the one regular
expression (`re.sub(r"\s+", " ", ·)`), and the operations on values of unknown type that
`openapi-to-idz.py` applies to a decoded document: `a or b`, iteration, item assignment, the
dict display `{"type": "array", **s}`, and the equality of hashable values that decides when two
dict keys or set members are the same.

## Scope

Strings are lists of code points, as in Python 3. Whitespace is `str.isspace`, which is also the
class `\s` of a `str` pattern of `re`. Case mapping is ASCII only: the script upper-cases the
eight HTTP method names and nothing else. The one-character and two-character patterns of
`split` and `replace` are the only ones the script uses, so they are the only ones modelled.

## Main definitions

* `pyStrip`, `collapseSpace` — `str.strip` and the whitespace-collapsing `re.sub`
* `replacePair`, `splitOn` — `str.replace` with a two-character pattern, `str.split` on a
  character
* `PyVal.iter`, `PyVal.setItem`, `PyVal.hashEq`, `mergeInto` — iteration, `v[k] = x`, `==` on
  hashable values, and `{**base, **s}`
-/

namespace PyAgents

/-! ## The `Except` monad -/

@[simp] theorem ok_bind {ε α β : Type} (a : α) (f : α → Except ε β) :
    (Except.ok a >>= f) = f a := rfl

@[simp] theorem error_bind {ε α β : Type} (e : ε) (f : α → Except ε β) :
    (Except.error e >>= f) = Except.error e := rfl

/-- A loop whose every step returns returns the list of the results. -/
theorem mapM_ok_of_forall {ε α β : Type} {f : α → Except ε β} {g : α → β} :
    ∀ {l : List α}, (∀ x ∈ l, f x = .ok (g x)) → l.mapM f = .ok (l.map g)
  | [], _ => rfl
  | x :: xs, h => by
    rw [List.mapM_cons, h x (List.mem_cons_self _ _),
      mapM_ok_of_forall fun y hy => h y (List.mem_cons_of_mem _ hy)]
    rfl

/-- In a loop that returns, every step returned. -/
theorem ok_of_mapM_ok {ε α β : Type} {f : α → Except ε β} :
    ∀ {l : List α} {r : List β}, l.mapM f = .ok r → ∀ x ∈ l, ∃ y, f x = .ok y
  | [], _, _, x, hx => absurd hx (List.not_mem_nil x)
  | x :: xs, r, h, y, hy => by
    rw [List.mapM_cons] at h
    cases hx : f x with
    | error e => simp only [hx, error_bind, reduceCtorEq] at h
    | ok a =>
      cases hxs : xs.mapM f with
      | error e => simp only [hx, hxs, ok_bind, error_bind, reduceCtorEq] at h
      | ok bs =>
        rcases List.mem_cons.mp hy with rfl | hy
        · exact ⟨a, hx⟩
        · exact ok_of_mapM_ok hxs y hy

/-- Every result of a loop that returns is the result of one of its steps. -/
theorem exists_of_mapM_ok {ε α β : Type} {f : α → Except ε β} :
    ∀ {l : List α} {r : List β}, l.mapM f = .ok r → ∀ y ∈ r, ∃ x ∈ l, f x = .ok y
  | [], _, h, y, hy => by
    cases h
    exact absurd hy (List.not_mem_nil y)
  | x :: xs, r, h, y, hy => by
    rw [List.mapM_cons] at h
    cases hx : f x with
    | error e => simp only [hx, error_bind, reduceCtorEq] at h
    | ok a =>
      cases hxs : xs.mapM f with
      | error e => simp only [hx, hxs, ok_bind, error_bind, reduceCtorEq] at h
      | ok bs =>
        simp only [hx, hxs, ok_bind] at h
        cases h
        rcases List.mem_cons.mp hy with rfl | hy
        · exact ⟨x, List.mem_cons_self _ _, hx⟩
        · obtain ⟨z, hz, hfz⟩ := exists_of_mapM_ok hxs y hy
          exact ⟨z, List.mem_cons_of_mem _ hz, hfz⟩

/-- A computation followed by another returns when the first returns a value on which the
second returns. -/
theorem bind_eq_ok {ε α β : Type} {x : Except ε α} {f : α → Except ε β} {r : β} :
    x >>= f = .ok r ↔ ∃ a, x = .ok a ∧ f a = .ok r := by
  cases x <;> simp

theorem pure_eq_ok {ε α : Type} {a b : α} : (pure a : Except ε α) = .ok b ↔ a = b :=
  ⟨fun h => Except.ok.inj h, congrArg _⟩

theorem mapM_cons_eq_ok {ε α β : Type} {f : α → Except ε β} {x : α} {l : List α} {r : List β} :
    (x :: l).mapM f = .ok r ↔ ∃ y ys, f x = .ok y ∧ l.mapM f = .ok ys ∧ r = y :: ys := by
  simp only [List.mapM_cons, bind_eq_ok, pure_eq_ok]
  exact ⟨fun ⟨y, hy, ys, hys, hr⟩ => ⟨y, ys, hy, hys, hr.symm⟩,
    fun ⟨y, ys, hy, hys, hr⟩ => ⟨y, hy, ys, hys, hr.symm⟩⟩

/-- A loop that returns on a list returns on every permutation of it, with its results
permuted alike. -/
theorem mapM_perm_ok {ε α β : Type} {f : α → Except ε β} {l l' : List α} (hp : l.Perm l') :
    ∀ {r : List β}, l.mapM f = .ok r → ∃ r', l'.mapM f = .ok r' ∧ r.Perm r' := by
  induction hp with
  | nil => exact fun h => ⟨_, h, .refl _⟩
  | cons x _ ih =>
    intro r h
    obtain ⟨y, ys, hy, hys, rfl⟩ := mapM_cons_eq_ok.mp h
    obtain ⟨ys', hys', hp⟩ := ih hys
    exact ⟨y :: ys', mapM_cons_eq_ok.mpr ⟨y, ys', hy, hys', rfl⟩, hp.cons y⟩
  | swap x y l =>
    intro r h
    obtain ⟨b, r1, hb, h1, rfl⟩ := mapM_cons_eq_ok.mp h
    obtain ⟨a, c, ha, hc, rfl⟩ := mapM_cons_eq_ok.mp h1
    exact ⟨a :: b :: c, mapM_cons_eq_ok.mpr ⟨a, b :: c, ha,
      mapM_cons_eq_ok.mpr ⟨b, c, hb, hc, rfl⟩, rfl⟩, .swap a b c⟩
  | trans _ _ ih1 ih2 =>
    intro r h
    obtain ⟨r1, h1, hp1⟩ := ih1 h
    obtain ⟨r2, h2, hp2⟩ := ih2 h1
    exact ⟨r2, h2, hp1.trans hp2⟩

/-- Loops whose steps agree on the list agree. -/
theorem mapM_congr_of_mem {ε α β : Type} {f g : α → Except ε β} :
    ∀ {l : List α}, (∀ x ∈ l, f x = g x) → l.mapM f = l.mapM g
  | [], _ => rfl
  | x :: xs, h => by
    rw [List.mapM_cons, List.mapM_cons, h x (List.mem_cons_self _ _),
      mapM_congr_of_mem fun y hy => h y (List.mem_cons_of_mem _ hy)]

/-! ## Strings -/

/-- `c.isspace()`: the characters of bidirectional class `WS`, `B` or `S`, or of category
`Zs`. -/
def pyIsSpace (c : Char) : Bool :=
  let n := c.toNat
  (9 ≤ n && n ≤ 13) || (28 ≤ n && n ≤ 32) || n == 0x85 || n == 0xa0 || n == 0x1680 ||
    (0x2000 ≤ n && n ≤ 0x200a) || n == 0x2028 || n == 0x2029 || n == 0x202f || n == 0x205f ||
    n == 0x3000

/-- `s.strip()`. -/
def pyStrip (s : String) : String :=
  String.mk ((s.toList.dropWhile pyIsSpace).reverse.dropWhile pyIsSpace).reverse

/-- `s.startswith(prefix)`. -/
def pyStartsWith (s pre : String) : Bool := pre.toList.isPrefixOf s.toList

/-- `s.upper()`, on ASCII letters. -/
def pyUpper (s : String) : String := String.mk (s.toList.map Char.toUpper)

/-- `s.replace(old, new)` for a two-character `old`, `a` then `b`: the occurrences are found
from the left and do not overlap. -/
def replacePair (a b : Char) (new : List Char) : List Char → List Char
  | [] => []
  | [c] => [c]
  | c :: cs@(d :: ds) =>
    if c = a ∧ d = b then new ++ replacePair a b new ds else c :: replacePair a b new cs

/-- `s.split(sep)` for a one-character `sep`: the pieces between the separators, empty ones
included, so that there is always one more piece than separators. -/
def splitOn (sep : Char) : List Char → List (List Char)
  | [] => [[]]
  | c :: cs =>
    if c = sep then [] :: splitOn sep cs
    else match splitOn sep cs with
      | [] => [[c]]
      | w :: ws => (c :: w) :: ws

/-- `re.sub(r"\s+", " ", s)`: every maximal run of whitespace becomes one space. `inRun` says
that the character before was whitespace. -/
def collapseSpace (inRun : Bool) : List Char → List Char
  | [] => []
  | c :: cs =>
    if pyIsSpace c then
      if inRun then collapseSpace true cs else ' ' :: collapseSpace true cs
    else c :: collapseSpace false cs

theorem replacePair_match (a b : Char) (new cs : List Char) :
    replacePair a b new (a :: b :: cs) = new ++ replacePair a b new cs := by
  simp [replacePair]

theorem replacePair_cons_of_ne {a c : Char} (b : Char) (new : List Char) (h : c ≠ a)
    (cs : List Char) : replacePair a b new (c :: cs) = c :: replacePair a b new cs := by
  cases cs with
  | nil => simp [replacePair]
  | cons d ds => simp [replacePair, h]

theorem replacePair_cons_cons_of_ne {b d : Char} (a c : Char) (new : List Char) (h : d ≠ b)
    (cs : List Char) : replacePair a b new (c :: d :: cs) = c :: replacePair a b new (d :: cs) := by
  simp [replacePair, h]

@[simp] theorem splitOn_nil (sep : Char) : splitOn sep [] = [[]] := rfl

theorem splitOn_ne_nil (sep : Char) (s : List Char) : splitOn sep s ≠ [] := by
  cases s with
  | nil => simp
  | cons c cs =>
    unfold splitOn
    split
    · simp
    · split <;> simp

theorem splitOn_of_not_mem {sep : Char} : ∀ {cs : List Char}, sep ∉ cs → splitOn sep cs = [cs]
  | [], _ => rfl
  | c :: cs, h => by
    rw [List.mem_cons, not_or] at h
    rw [splitOn, if_neg (Ne.symm h.1), splitOn_of_not_mem h.2]

/-- A piece with no separator, then a separator: the piece comes first. -/
theorem splitOn_append_cons {sep : Char} : ∀ {cs : List Char}, sep ∉ cs → ∀ ds : List Char,
    splitOn sep (cs ++ sep :: ds) = cs :: splitOn sep ds
  | [], _, ds => by simp [splitOn]
  | c :: cs, h, ds => by
    rw [List.mem_cons, not_or] at h
    rw [List.cons_append, splitOn, if_neg (Ne.symm h.1), splitOn_append_cons h.2]

/-- `splitOn` is the library's `List.splitOn`. -/
theorem splitOn_eq_splitOn (sep : Char) : ∀ cs : List Char, splitOn sep cs = cs.splitOn sep
  | [] => rfl
  | c :: cs => by
    rw [List.splitOn, List.splitOnP_cons, ← List.splitOn, ← splitOn_eq_splitOn sep cs, splitOn]
    by_cases h : c = sep
    · simp [h]
    · cases hs : splitOn sep cs with
      | nil => exact absurd hs (splitOn_ne_nil sep cs)
      | cons w ws => simp [h]

/-! ## Values of unknown type -/

namespace PyVal

/-- `a or b`. -/
def or (a b : PyVal) : PyVal := if a.truthy then a else b

/-- `iter(v)`: what a `for` loop over `v` visits. A dict yields its keys and a string its
characters. -/
def iter : PyVal → Except PyExc (List PyVal)
  | .list xs | .set xs => .ok xs
  | .dict kvs => .ok (kvs.map fun kv => .str kv.1)
  | .str s => .ok (s.toList.map fun c => .str (String.singleton c))
  | .bytes data => .ok (data.map fun b => .int b.toNat)
  | v => .error ⟨.typeError, s!"'{v.typeName}' object is not iterable"⟩

/-- `v == w` for hashable `v` and `w`: a `bool` is equal to the integer it stands for. This is
when two dict keys or two set members are the same. -/
def hashEq (v w : PyVal) : Bool :=
  match v.asInt, w.asInt with
  | some m, some n => m == n
  | _, _ => v == w

/-- The value that stands for `v` among the values `hashEq` makes equal to it: a `bool`
stands for the integer it is equal to. -/
def hashKey (v : PyVal) : PyVal :=
  match v.asInt with
  | some n => .int n
  | Option.none => v

/-- Two hashable values are `==` exactly when they stand for the same value. -/
theorem hashEq_iff_hashKey {v w : PyVal} : v.hashEq w ↔ v.hashKey = w.hashKey := by
  unfold hashEq hashKey
  cases hv : v.asInt <;> cases hw : w.asInt <;> simp only [beq_iff_eq, int.injEq]
  all_goals constructor <;> rintro rfl <;> simp_all [asInt]

/-- `kvs[k] = x` on the items of a dict: the value of a present key is replaced where it
stands, and a new key goes last. -/
def assocSet : List (String × PyVal) → String → PyVal → List (String × PyVal)
  | [], k, x => [(k, x)]
  | (k', y) :: kvs, k, x => if k' = k then (k, x) :: kvs else (k', y) :: assocSet kvs k x

/-- `v[k] = x` for a string `k`. -/
def setItem (v : PyVal) (k : String) (x : PyVal) : Except PyExc PyVal :=
  match v with
  | .dict kvs => .ok (.dict (assocSet kvs k x))
  | .list _ => .error ⟨.typeError, "list indices must be integers or slices, not str"⟩
  | _ => .error ⟨.typeError, s!"'{v.typeName}' object does not support item assignment"⟩

@[simp] theorem or_of_truthy {a : PyVal} (h : a.truthy) (b : PyVal) : a.or b = a := by
  simp [PyVal.or, h]

@[simp] theorem or_of_not_truthy {a : PyVal} (h : a.truthy = false) (b : PyVal) : a.or b = b := by
  simp [PyVal.or, h]

theorem lookup_assocSet (kvs : List (String × PyVal)) (k k' : String) (x : PyVal) :
    (assocSet kvs k x).lookup k' = if k' = k then some x else kvs.lookup k' := by
  induction kvs with
  | nil => by_cases h : k' = k <;> simp [assocSet, List.lookup_cons, h, beq_false_of_ne]
  | cons kv kvs ih =>
    obtain ⟨j, y⟩ := kv
    by_cases hj : j = k
    · subst hj
      by_cases h : k' = j <;> simp [assocSet, List.lookup_cons, h, beq_false_of_ne]
    · by_cases h : k' = j
      · subst h
        simp [assocSet, List.lookup_cons, hj]
      · simp [assocSet, List.lookup_cons, hj, beq_false_of_ne h, ih]

theorem mem_assocSet {kvs : List (String × PyVal)} {k : String} {x : PyVal} {kv : String × PyVal}
    (h : kv ∈ assocSet kvs k x) : kv ∈ kvs ∨ kv = (k, x) := by
  induction kvs with
  | nil => simpa [assocSet] using h
  | cons kv' kvs ih =>
    obtain ⟨j, y⟩ := kv'
    by_cases hj : j = k
    · simp only [assocSet, hj, if_true, List.mem_cons] at h
      rcases h with h | h
      · exact .inr h
      · exact .inl (List.mem_cons_of_mem _ h)
    · simp only [assocSet, hj, if_false, List.mem_cons] at h
      rcases h with h | h
      · exact .inl (h ▸ List.mem_cons_self _ _)
      · exact (ih h).imp_left (List.mem_cons_of_mem _)

theorem keys_assocSet_of_mem {kvs : List (String × PyVal)} {k : String} (h : k ∈ kvs.map Prod.fst)
    (x : PyVal) : (assocSet kvs k x).map Prod.fst = kvs.map Prod.fst := by
  induction kvs with
  | nil => simp at h
  | cons kv kvs ih =>
    obtain ⟨j, y⟩ := kv
    by_cases hj : j = k
    · simp [assocSet, hj]
    · have h' : k ∈ kvs.map Prod.fst := by simpa [Ne.symm hj] using h
      simp [assocSet, hj, ih h']

theorem keys_assocSet_of_not_mem {kvs : List (String × PyVal)} {k : String}
    (h : k ∉ kvs.map Prod.fst) (x : PyVal) :
    (assocSet kvs k x).map Prod.fst = kvs.map Prod.fst ++ [k] := by
  induction kvs with
  | nil => rfl
  | cons kv kvs ih =>
    obtain ⟨j, y⟩ := kv
    have hj : j ≠ k := fun hj => h (by simp [hj])
    simp only [List.map_cons, List.mem_cons, not_or] at h
    simp [assocSet, hj, ih h.2]

theorem lookup_eq_none_of_not_mem {kvs : List (String × PyVal)} {k : String}
    (h : k ∉ kvs.map Prod.fst) : kvs.lookup k = Option.none :=
  List.lookup_eq_none_iff.mpr fun _ hp => bne_iff_ne.mpr fun hk => h (hk ▸ List.mem_map_of_mem _ hp)

/-- A dict display `{**base, **s}`: the items of `s` assigned one by one into `base`. -/
def mergeInto (base kvs : List (String × PyVal)) : List (String × PyVal) :=
  kvs.foldl (fun acc kv => assocSet acc kv.1 kv.2) base

theorem nodup_mergeInto {base : List (String × PyVal)} (hb : (base.map Prod.fst).Nodup)
    (kvs : List (String × PyVal)) : ((mergeInto base kvs).map Prod.fst).Nodup := by
  induction kvs generalizing base with
  | nil => exact hb
  | cons kv kvs ih =>
    apply ih
    by_cases h : kv.1 ∈ base.map Prod.fst
    · rwa [keys_assocSet_of_mem h]
    · rw [keys_assocSet_of_not_mem h]
      exact hb.append (List.nodup_singleton _) (by simpa using h)

/-- With the keys of `kvs` distinct, a key of the display holds its value in `kvs`, else the one
in `base`. -/
theorem lookup_mergeInto {kvs : List (String × PyVal)} (hk : (kvs.map Prod.fst).Nodup)
    (base : List (String × PyVal)) (k : String) :
    (mergeInto base kvs).lookup k = (kvs.lookup k).or (base.lookup k) := by
  induction kvs generalizing base with
  | nil => rfl
  | cons kv kvs ih =>
    obtain ⟨j, y⟩ := kv
    simp only [List.map_cons, List.nodup_cons] at hk
    simp only [mergeInto, List.foldl_cons] at ih ⊢
    rw [ih hk.2, lookup_assocSet]
    by_cases h : k = j
    · subst h
      simp [List.lookup_cons, lookup_eq_none_of_not_mem hk.1]
    · simp [List.lookup_cons, h, beq_false_of_ne h]

end PyVal

end PyAgents
