import PyAgents.Python.Value

/-!
# `_camel_to_kebab`

```
s1 = re.sub(r"(.)([A-Z][a-z]+)", r"\1-\2", name)
return re.sub(r"([a-z0-9])([A-Z])", r"\1-\2", s1).lower()
```

Each `re.sub` scans left to right and resumes after the end of each match, so a character a
match consumed is never the start of another one. The first pass therefore carries a little state:
whether it is still inside the match it just made, and in its greedy `[a-z]+` run every
lower-case letter is copied without being tried as a start. Written that way both passes
recurse on the tail of the list, structurally, and evaluate by `decide`.

`str.lower` is `pyLower`, exact on ASCII text; the class names the agent converts are ASCII
(`AgentClass.name_ascii`), and the passes insert ASCII hyphens only.

## Main results

* `camelToKebab_eq_insertHyphens` — on a string without a newline, the two passes put a hyphen
  before exactly the capitals that follow one of `[a-z0-9]` or precede one of `[a-z]`
-/

namespace PyAgents

/-- Where the first pass stands: looking for a match, inside the greedy `[a-z]+` of the match
it made last, or copying the `n + 1` characters of that match's `[A-Z][a-z]` still to come. -/
inductive KebabScan where
  | look
  | run
  | copy (n : Nat)
  deriving DecidableEq

/-- A match of `(.)([A-Z][a-z]+)` starts at `c`, followed by `t`. -/
def kebabOpens (c : Char) : List Char → Bool
  | u :: l :: _ => c != '\n' && u.isUpper && l.isLower
  | _ => false

/-- The first pass, `re.sub(r"(.)([A-Z][a-z]+)", r"\1-\2", _)`. -/
def kebabPass1 : KebabScan → List Char → List Char
  | _, [] => []
  | .copy 0, c :: t => c :: kebabPass1 .run t
  | .copy (n + 1), c :: t => c :: kebabPass1 (.copy n) t
  | s, c :: t =>
    if s = .run ∧ c.isLower then c :: kebabPass1 .run t
    else if kebabOpens c t then c :: '-' :: kebabPass1 (.copy 1) t
    else c :: kebabPass1 .look t

/-- The second pass, `re.sub(r"([a-z0-9])([A-Z])", r"\1-\2", _)`. -/
def kebabPass2 : List Char → List Char
  | c :: u :: rest =>
    if (c.isLower ∨ c.isDigit) ∧ u.isUpper then c :: '-' :: u :: kebabPass2 rest
    else c :: kebabPass2 (u :: rest)
  | cs => cs

/-- `_camel_to_kebab(name)`. -/
def camelToKebab (name : String) : String :=
  pyLower (String.mk (kebabPass2 (kebabPass1 .look name.toList)))

example : camelToKebab "CounterAgent" = "counter-agent" := by decide
example : camelToKebab "HTTPServerAgent" = "http-server-agent" := by decide

/-! ## The two passes as one rule

Each pass decides hyphens between neighbouring characters. The first puts one after the `(.)` of
a match, before a capital followed by a lower-case letter, unless the character before that
capital was taken by the match before; that character is then the last letter of a greedy
`[a-z]+`, and the second pass puts the hyphen there instead. The second puts one between a
character of `[a-z0-9]` and a capital, except where the first already put one. Its matches never
overlap, since a capital is not in `[a-z0-9]`. Together the two passes put a hyphen before
exactly the capitals that follow a character of `[a-z0-9]` or precede one of `[a-z]`. -/

theorem isUpper_iff (c : Char) : c.isUpper ↔ 65 ≤ c.toNat ∧ c.toNat ≤ 90 := by
  simp [Char.isUpper, Char.toNat, UInt32.le_def, BitVec.le_def, UInt32.toNat]

theorem isLower_iff (c : Char) : c.isLower ↔ 97 ≤ c.toNat ∧ c.toNat ≤ 122 := by
  simp [Char.isLower, Char.toNat, UInt32.le_def, BitVec.le_def, UInt32.toNat]

theorem isDigit_iff (c : Char) : c.isDigit ↔ 48 ≤ c.toNat ∧ c.toNat ≤ 57 := by
  simp [Char.isDigit, Char.toNat, UInt32.le_def, BitVec.le_def, UInt32.toNat]

/-- `[a-z0-9]`. -/
def lowerOrDigit (c : Char) : Bool := c.isLower || c.isDigit

theorem isLower_of_isUpper {c : Char} (h : c.isUpper) : c.isLower = false := by
  rw [isUpper_iff] at h
  rw [← Bool.not_eq_true, isLower_iff]
  omega

theorem lowerOrDigit_of_isUpper {c : Char} (h : c.isUpper) : lowerOrDigit c = false := by
  have hd : c.isDigit = false := by
    rw [isUpper_iff] at h
    rw [← Bool.not_eq_true, isDigit_iff]
    omega
  simp [lowerOrDigit, isLower_of_isUpper h, hd]

/-- A hyphen goes before `c`, which follows `prev` and precedes `next`: `c` is in `[A-Z]`, it is
not the first character, and `prev` is in `[a-z0-9]` or `next` is in `[a-z]`. -/
def hyphenBefore (prev : Option Char) (c : Char) (next : Option Char) : Bool :=
  prev.isSome && c.isUpper && (prev.any lowerOrDigit || next.any Char.isLower)

/-- The string with a hyphen inserted before each character that `hyphenBefore` picks; `prev` is
the character before the list. -/
def insertHyphens : Option Char → List Char → List Char
  | _, [] => []
  | prev, c :: t =>
    (if hyphenBefore prev c t.head? then ['-', c] else [c]) ++ insertHyphens (some c) t

theorem insertHyphens_cons (prev : Option Char) (c : Char) (t : List Char) :
    insertHyphens prev (c :: t) =
      (if hyphenBefore prev c t.head? then ['-', c] else [c]) ++ insertHyphens (some c) t :=
  rfl

/-- The second pass read as a scan that remembers the character before. -/
def afterLowerOrDigit : Option Char → List Char → List Char
  | _, [] => []
  | prev, c :: t =>
    (if c.isUpper && prev.any lowerOrDigit then ['-', c] else [c]) ++ afterLowerOrDigit (some c) t

theorem afterLowerOrDigit_cons_of_not_isUpper {c : Char} (h : c.isUpper = false) (p q : Option Char)
    (t : List Char) : afterLowerOrDigit p (c :: t) = afterLowerOrDigit q (c :: t) := by
  simp [afterLowerOrDigit, h]

/-- The second pass is the scan, from any start that is not in `[a-z0-9]`: after a match it
resumes behind the capital, which the scan would not count either. -/
theorem kebabPass2_eq_scan : ∀ (t : List Char) {p : Option Char}, p.any lowerOrDigit = false →
    kebabPass2 t = afterLowerOrDigit p t
  | [], _, _ => rfl
  | [c], p, hp => by simp [kebabPass2, afterLowerOrDigit, hp]
  | c :: u :: rest, p, hp => by
    by_cases hm : (c.isLower ∨ c.isDigit) ∧ u.isUpper
    · have hu : (some u).any lowerOrDigit = false := by simpa using lowerOrDigit_of_isUpper hm.2
      rw [kebabPass2, if_pos hm, kebabPass2_eq_scan rest hu]
      simp [afterLowerOrDigit, hp, hm.2, lowerOrDigit, hm.1]
    · rw [kebabPass2, if_neg hm]
      have hc : afterLowerOrDigit p (c :: u :: rest) =
          c :: afterLowerOrDigit (some c) (u :: rest) := by
        simp [afterLowerOrDigit, hp]
      rw [hc]
      by_cases hl : lowerOrDigit c
      · have hu : u.isUpper = false := by
          simp only [lowerOrDigit, Bool.or_eq_true] at hl
          simpa [hl] using hm
        rw [afterLowerOrDigit_cons_of_not_isUpper hu _ Option.none,
          @kebabPass2_eq_scan (u :: rest) Option.none rfl]
      · rw [@kebabPass2_eq_scan (u :: rest) (some c) (by simpa using hl)]

/-- What the first pass has read of its last match when it reaches `c`, followed by `t`: in
`copy 1`, `c` is the capital and a lower-case letter follows; in `copy 0`, `c` is that
lower-case letter. -/
def KebabScan.Fits : KebabScan → Char → List Char → Prop
  | .copy 0, c, _ => c.isLower
  | .copy 1, _, t => t.head?.any Char.isLower
  | .copy (_ + 2), _, _ => False
  | .look, _, _ | .run, _, _ => True

theorem kebabPass1_singleton : ∀ (st : KebabScan) (c : Char), kebabPass1 st [c] = [c]
  | .look, _ | .run, _ => by simp [kebabPass1, kebabOpens]
  | .copy 0, _ | .copy (_ + 1), _ => by simp [kebabPass1]

theorem kebabPass1_copy_zero (c : Char) (t : List Char) :
    kebabPass1 (.copy 0) (c :: t) = c :: kebabPass1 .run t := by
  simp [kebabPass1]

theorem kebabPass1_copy_succ (n : Nat) (c : Char) (t : List Char) :
    kebabPass1 (.copy (n + 1)) (c :: t) = c :: kebabPass1 (.copy n) t := by
  simp [kebabPass1]

/-- The first pass at a character it may start a match on. -/
theorem kebabPass1_look (c : Char) (t : List Char) : kebabPass1 .look (c :: t) =
    if kebabOpens c t then c :: '-' :: kebabPass1 (.copy 1) t else c :: kebabPass1 .look t := by
  simp [kebabPass1]

theorem kebabPass1_run {c : Char} (h : c.isLower = false) (t : List Char) :
    kebabPass1 .run (c :: t) = kebabPass1 .look (c :: t) := by
  simp [kebabPass1, h]

theorem kebabPass1_run_lower {c : Char} (h : c.isLower) (t : List Char) :
    kebabPass1 .run (c :: t) = c :: kebabPass1 .run t := by
  simp [kebabPass1, h]

/-- **The two passes from one character on.** From a state that fits what the first pass has
read, the second pass, remembering `q`, puts its hyphen before `c` by its own rule and, from
there on, a hyphen before exactly the characters `hyphenBefore` picks. -/
theorem afterLowerOrDigit_kebabPass1 : ∀ (t : List Char) {st : KebabScan} {q : Option Char}
    {c : Char}, '\n' ∉ c :: t → st.Fits c t →
    afterLowerOrDigit q (kebabPass1 st (c :: t)) =
      (if c.isUpper && q.any lowerOrDigit then ['-', c] else [c]) ++ insertHyphens (some c) t
  | [], st, q, c, _, _ => by simp [kebabPass1_singleton, afterLowerOrDigit, insertHyphens]
  | x :: t, st, q, c, hn, hf => by
    have hx : '\n' ∉ x :: t := fun h => hn (List.mem_cons_of_mem _ h)
    have hc : c ≠ '\n' := fun h => hn (h ▸ List.mem_cons_self _ _)
    have ih : ∀ {st' : KebabScan} {q' : Option Char}, st'.Fits x t →
        afterLowerOrDigit q' (kebabPass1 st' (x :: t)) =
          (if x.isUpper && q'.any lowerOrDigit then ['-', x] else [x]) ++ insertHyphens (some x) t :=
      fun hf' => afterLowerOrDigit_kebabPass1 t hx hf'
    have head : ∀ rest, afterLowerOrDigit q (c :: rest) =
        (if c.isUpper && q.any lowerOrDigit then ['-', c] else [c]) ++
          afterLowerOrDigit (some c) rest := fun _ => rfl
    -- the first pass puts no hyphen after `c`
    have plain : ∀ st' : KebabScan, st'.Fits x t →
        (x.isUpper → t.head?.any Char.isLower → lowerOrDigit c) →
        afterLowerOrDigit q (c :: kebabPass1 st' (x :: t)) =
          (if c.isUpper && q.any lowerOrDigit then ['-', c] else [c]) ++
            insertHyphens (some c) (x :: t) := fun st' hf' hdec => by
      rw [head, ih hf', insertHyphens_cons (some c) x]
      congr 2
      simp only [hyphenBefore, Option.isSome_some, Option.any_some, Bool.true_and]
      cases hxu : x.isUpper
      · rfl
      by_cases hcl : lowerOrDigit c
      · simp [hcl]
      · -- then no lower-case letter follows `x`, or the first pass would have opened a match
        have hl : t.head?.any Char.isLower = false :=
          Bool.eq_false_iff.mpr fun hl => hcl (hdec hxu hl)
        simp [hcl, hl]
    -- the first pass opens a match at `c`
    have opens : kebabOpens c (x :: t) →
        afterLowerOrDigit q (c :: '-' :: kebabPass1 (.copy 1) (x :: t)) =
          (if c.isUpper && q.any lowerOrDigit then ['-', c] else [c]) ++
            insertHyphens (some c) (x :: t) := fun ho => by
      obtain ⟨l, t, rfl⟩ : ∃ l t', t = l :: t' := by
        cases t with
        | nil => simp [kebabOpens] at ho
        | cons l t' => exact ⟨l, t', rfl⟩
      simp only [kebabOpens, Bool.and_eq_true, bne_iff_ne] at ho
      rw [head, afterLowerOrDigit, ih (by simpa using ho.2),
        insertHyphens_cons (some c) x]
      simp [hyphenBefore, ho.1.2, ho.2, lowerOrDigit]
    -- a match the first pass could have opened at `c` but did not is the second pass's
    have looked : afterLowerOrDigit q (kebabPass1 .look (c :: x :: t)) =
        (if c.isUpper && q.any lowerOrDigit then ['-', c] else [c]) ++
          insertHyphens (some c) (x :: t) := by
      rw [kebabPass1_look]
      split
      · next ho => exact opens ho
      · next ho =>
        refine plain .look trivial fun hxu hl => ?_
        obtain ⟨l, t', rfl⟩ : ∃ l t', t = l :: t' := by
          cases t with
          | nil => simp at hl
          | cons l t' => exact ⟨l, t', rfl⟩
        simp [kebabOpens, hc, hxu, show l.isLower from by simpa using hl] at ho
    cases st with
    | look => exact looked
    | run =>
      cases hl : c.isLower
      · rw [kebabPass1_run hl]; exact looked
      · rw [kebabPass1_run_lower hl]
        exact plain .run trivial fun _ _ => by simp [lowerOrDigit, hl]
    | copy n =>
      match n, hf with
      | 0, hf =>
        rw [kebabPass1_copy_zero]
        exact plain .run trivial fun _ _ => by simp [lowerOrDigit, show c.isLower from hf]
      | 1, hf =>
        have hxl : x.isLower := by simpa using hf
        rw [kebabPass1_copy_succ]
        exact plain (.copy 0) hxl fun hxu => absurd hxl (by simp [isLower_of_isUpper hxu])

/-- **`_camel_to_kebab` as one rule.** On a string without a newline (a class name), the two
`re.sub` passes put a hyphen before exactly the characters at positions `i ≥ 1` that are in
`[A-Z]` and follow a character of `[a-z0-9]` or precede one of `[a-z]`; then the result is
lower-cased. -/
theorem camelToKebab_eq_insertHyphens (name : String) (h : '\n' ∉ name.toList) :
    camelToKebab name = pyLower (String.mk (insertHyphens none name.toList)) := by
  rw [camelToKebab]
  congr 2
  cases hn : name.toList with
  | nil => rfl
  | cons c t =>
    rw [@kebabPass2_eq_scan _ Option.none rfl,
      @afterLowerOrDigit_kebabPass1 t .look Option.none c (hn ▸ h) trivial, insertHyphens_cons]
    simp [hyphenBefore]

theorem camelToKebab_eq_insertHyphens_http :
    '\n' ∉ "HTTPServerAgent".toList ∧
      camelToKebab "HTTPServerAgent" = pyLower (String.mk (insertHyphens none "HTTPServerAgent".toList)) :=
  ⟨by decide, camelToKebab_eq_insertHyphens _ (by decide)⟩

end PyAgents
