import PyAgents.Python.Json
import Mathlib.Data.Nat.Digits

/-!
# A concrete JSON codec

`JsonCodec` keeps the library abstract. This module gives one instance of it, `refCodec`, a
printer and a reader of JSON texts, so that the model runs on actual frames and a failing input
of the agent can be written down as the text a client sends.

The printer writes the compact form, `json.dumps(v, separators=(",", ":"))`, escaping only the
quote and the backslash inside strings. The reader takes that form back: no whitespace between
tokens, integers only, the escapes of JSON other than `\u`. A text with a repeated key in an
object is refused (Python keeps the last value; no frame of the model repeats a key). These are
choices of this codec, not of the agent, whose behaviour the rest of the model states for every
codec.

The codec has CPython's limits: an int of more than 4300 digits raises `ValueError` both ways,
with CPython's texts, and nesting deeper than `depthLimit` raises `RecursionError`. Where a value
fails in more than one way, CPython reports the first failure it meets; this codec checks the
depth first, then the types, then the ints.

The reader spends one unit of fuel per level of nesting and per item; the length of the text is
always enough, which is how `loads` calls it.

## Main results

* `readValue_ser` — the reader takes back what the printer wrote, whatever follows it that does
  not extend a number
* `refCodec` — the two, packaged as a `JsonCodec`
-/

namespace PyAgents

namespace JsonText

/-! ## Printing -/

/-- The decimal digits of `n`, least significant first, as `Nat.digits 10` has them; `fuel`
bounds their number. -/
def digitsLE : Nat → Nat → List Nat
  | 0, _ => []
  | fuel + 1, n => if n = 0 then [] else n % 10 :: digitsLE fuel (n / 10)

/-- The decimal literal of `n`, most significant digit first. -/
def decimal (n : Nat) : List Char :=
  if n = 0 then ['0'] else ((digitsLE n n).map Nat.digitChar).reverse

/-- An integer literal. -/
def intText (n : Int) : List Char :=
  if n < 0 then '-' :: decimal n.natAbs else decimal n.natAbs

/-- One character of a string literal's body: the quote and the backslash are escaped. -/
def escapeChar (c : Char) : List Char :=
  if c = '"' ∨ c = '\\' then ['\\', c] else [c]

/-- A string literal, quotes included. -/
def strText (s : String) : List Char :=
  '"' :: s.toList.flatMap escapeChar ++ ['"']

mutual
/-- The compact JSON text of a value `json.dumps` accepts (and `[]` for any other value). -/
def ser : PyVal → List Char
  | .none => ['n', 'u', 'l', 'l']
  | .bool true => ['t', 'r', 'u', 'e']
  | .bool false => ['f', 'a', 'l', 's', 'e']
  | .int n => intText n
  | .str s => strText s
  | .list [] => ['[', ']']
  | .list (x :: xs) => '[' :: ser x ++ serItems xs
  | .dict [] => ['\x7b', '\x7d']
  | .dict ((k, x) :: kvs) => '\x7b' :: strText k ++ ':' :: ser x ++ serMembers kvs
  | .set _ | .bytes _ | .object _ | .unset => []
/-- The items of an array after its first one, and the closing bracket. -/
def serItems : List PyVal → List Char
  | [] => [']']
  | x :: xs => ',' :: ser x ++ serItems xs
/-- The members of an object after its first one, and the closing brace. -/
def serMembers : List (String × PyVal) → List Char
  | [] => ['\x7d']
  | (k, x) :: kvs => ',' :: strText k ++ ':' :: ser x ++ serMembers kvs
end

mutual
/-- The type of the first value, in the order `json.dumps` meets them, that it cannot
serialise. -/
def offenderType : PyVal → Option String
  | .list xs => offenderTypeList xs
  | .dict kvs => offenderTypeDict kvs
  | .none | .bool _ | .int _ | .str _ => none
  | .set _ => some "set"
  | .bytes _ => some "bytes"
  | .object cls => some cls
  | .unset => some "object"
/-- `offenderType` over items. -/
def offenderTypeList : List PyVal → Option String
  | [] => none
  | x :: xs => (offenderType x).or (offenderTypeList xs)
/-- `offenderType` over values. -/
def offenderTypeDict : List (String × PyVal) → Option String
  | [] => none
  | (_, x) :: kvs => (offenderType x).or (offenderTypeDict kvs)
end

/-! ## Reading -/

/-- The value of a decimal digit. -/
def digitVal (c : Char) : Nat := c.toNat - '0'.toNat

/-- The longest prefix of decimal digits, and what follows it. -/
def digitRun : List Char → List Char × List Char
  | [] => ([], [])
  | c :: cs => if c.isDigit then let p := digitRun cs; (c :: p.1, p.2) else ([], c :: cs)

/-- A run of decimal digits, as a number. -/
def readNat (cs : List Char) : Option (Nat × List Char) :=
  match digitRun cs with
  | ([], _) => none
  | (ds, r) => some (Nat.ofDigits 10 (ds.reverse.map digitVal), r)

/-- The character a backslash escape `\e` stands for. -/
def unescape : Char → Option Char
  | '"' => some '"'
  | '\\' => some '\\'
  | '/' => some '/'
  | 'b' => some '\x08'
  | 'f' => some '\x0c'
  | 'n' => some '\n'
  | 'r' => some '\r'
  | 't' => some '\t'
  | _ => none

/-- The body of a string literal after its opening quote, read up to and past the closing
quote. -/
def readStr : List Char → Option (List Char × List Char)
  | [] => none
  | c :: r =>
    if c = '"' then some ([], r)
    else if c = '\\' then
      match r with
      | e :: r => (unescape e).bind fun c => (readStr r).map fun p => (c :: p.1, p.2)
      | [] => none
    else (readStr r).map fun p => (c :: p.1, p.2)

@[simp] theorem readStr_quote (r : List Char) : readStr ('"' :: r) = some ([], r) := by
  cases r <;> simp [readStr]

@[simp] theorem readStr_backslash (e : Char) (r : List Char) :
    readStr ('\\' :: e :: r) = (unescape e).bind fun c => (readStr r).map fun p => (c :: p.1, p.2) := by
  simp [readStr]

theorem readStr_plain {c : Char} (r : List Char) (hq : c ≠ '"') (hb : c ≠ '\\') :
    readStr (c :: r) = (readStr r).map fun p => (c :: p.1, p.2) := by
  cases r <;> simp [readStr, hq, hb]

mutual
/-- One JSON value at the head of the text, and the text after it. -/
def readValue : Nat → List Char → Option (PyVal × List Char)
  | 0, _ | _ + 1, [] => none
  | fuel + 1, c :: r =>
    if c.isDigit then (readNat (c :: r)).map fun p => (.int p.1, p.2)
    else if c = '-' then (readNat r).map fun p => (.int (-p.1), p.2)
    else if c = '"' then (readStr r).map fun p => (.str (String.mk p.1), p.2)
    else if c = '[' then
      if r.head? = some ']' then some (.list [], r.tail)
      else do
        let (x, r) ← readValue fuel r
        let (xs, r) ← readItems fuel r
        pure (.list (x :: xs), r)
    else if c = '\x7b' then
      if r.head? = some '\x7d' then some (.dict [], r.tail)
      else do
        let (kv, r) ← readMember fuel r
        let (kvs, r) ← readMembers fuel r
        pure (.dict (kv :: kvs), r)
    else
      match c, r with
      | 'n', 'u' :: 'l' :: 'l' :: r => some (.none, r)
      | 't', 'r' :: 'u' :: 'e' :: r => some (.bool true, r)
      | 'f', 'a' :: 'l' :: 's' :: 'e' :: r => some (.bool false, r)
      | _, _ => none
/-- The items of an array after its first one, read up to and past the closing bracket. -/
def readItems : Nat → List Char → Option (List PyVal × List Char)
  | fuel + 1, ',' :: r => do
    let (x, r) ← readValue fuel r
    let (xs, r) ← readItems fuel r
    pure (x :: xs, r)
  | _ + 1, ']' :: r => some ([], r)
  | _, _ => none
/-- One `"key":value` member of an object. -/
def readMember : Nat → List Char → Option ((String × PyVal) × List Char)
  | fuel + 1, '"' :: r => do
    let (k, r) ← readStr r
    match r with
    | ':' :: r => do
      let (x, r) ← readValue fuel r
      pure ((String.mk k, x), r)
    | _ => none
  | _, _ => none
/-- The members of an object after its first one, read up to and past the closing brace. -/
def readMembers : Nat → List Char → Option (List (String × PyVal) × List Char)
  | fuel + 1, ',' :: r => do
    let (kv, r) ← readMember fuel r
    let (kvs, r) ← readMembers fuel r
    pure (kv :: kvs, r)
  | _ + 1, '\x7d' :: r => some ([], r)
  | _, _ => none
end

/-- `readValue` on a non-empty text, with fuel. This and the three equations after it are what
the round trip unfolds, so that no proof unfolds the mutual block itself. -/
theorem readValue_succ_cons (fuel : Nat) (c : Char) (r : List Char) :
    readValue (fuel + 1) (c :: r) =
      if c.isDigit then (readNat (c :: r)).map fun p => (.int p.1, p.2)
      else if c = '-' then (readNat r).map fun p => (.int (-p.1), p.2)
      else if c = '"' then (readStr r).map fun p => (.str (String.mk p.1), p.2)
      else if c = '[' then
        if r.head? = some ']' then some (.list [], r.tail)
        else do
          let (x, r) ← readValue fuel r
          let (xs, r) ← readItems fuel r
          pure (.list (x :: xs), r)
      else if c = '\x7b' then
        if r.head? = some '\x7d' then some (.dict [], r.tail)
        else do
          let (kv, r) ← readMember fuel r
          let (kvs, r) ← readMembers fuel r
          pure (.dict (kv :: kvs), r)
      else
        match c, r with
        | 'n', 'u' :: 'l' :: 'l' :: r => some (.none, r)
        | 't', 'r' :: 'u' :: 'e' :: r => some (.bool true, r)
        | 'f', 'a' :: 'l' :: 's' :: 'e' :: r => some (.bool false, r)
        | _, _ => none := rfl

theorem readItems_comma (fuel : Nat) (r : List Char) :
    readItems (fuel + 1) (',' :: r) = (do
      let (x, r) ← readValue fuel r
      let (xs, r) ← readItems fuel r
      pure (x :: xs, r)) := rfl

theorem readMembers_comma (fuel : Nat) (r : List Char) :
    readMembers (fuel + 1) (',' :: r) = (do
      let (kv, r) ← readMember fuel r
      let (kvs, r) ← readMembers fuel r
      pure (kv :: kvs, r)) := rfl

theorem readMember_quote (fuel : Nat) (r : List Char) :
    readMember (fuel + 1) ('"' :: r) = (do
      let (k, r) ← readStr r
      match r with
      | ':' :: r => do
        let (x, r) ← readValue fuel r
        pure ((String.mk k, x), r)
      | _ => none) := rfl

/-! ## Numbers and strings read back -/

/-- The text does not begin with a digit, so a number printed before it ends where it
started. -/
def endsNumber : List Char → Bool
  | c :: _ => !c.isDigit
  | [] => true

theorem digitsLE_eq {fuel n : Nat} (h : n ≤ fuel) : digitsLE fuel n = Nat.digits 10 n := by
  induction fuel generalizing n with
  | zero => simp [Nat.le_zero.mp h, digitsLE]
  | succ fuel ih =>
    rcases Nat.eq_zero_or_pos n with rfl | hn
    · simp [digitsLE]
    · rw [digitsLE, if_neg hn.ne', Nat.digits_def' (by norm_num) hn, ih (by omega)]

private theorem digitChar_isDigit : ∀ d, d < 10 → (Nat.digitChar d).isDigit := by decide

private theorem digitVal_digitChar : ∀ d, d < 10 → digitVal (Nat.digitChar d) = d := by decide

theorem decimal_isDigit (n : Nat) : ∀ c ∈ decimal n, c.isDigit := by
  unfold decimal
  split
  · simp
  · simp only [digitsLE_eq le_rfl, List.mem_reverse, List.mem_map]
    rintro _ ⟨d, hd, rfl⟩
    exact digitChar_isDigit d (Nat.digits_lt_base (by norm_num) hd)

theorem decimal_ne_nil (n : Nat) : decimal n ≠ [] := by
  unfold decimal
  split
  · simp
  · simpa [digitsLE_eq le_rfl, Nat.digits_ne_nil_iff_ne_zero]

theorem ofDigits_decimal (n : Nat) : Nat.ofDigits 10 ((decimal n).reverse.map digitVal) = n := by
  unfold decimal
  split
  · subst n; rfl
  · have hd : ((Nat.digits 10 n).map Nat.digitChar).map digitVal = Nat.digits 10 n := by
      rw [List.map_map]
      refine (List.map_congr_left fun d hd => ?_).trans (List.map_id _)
      exact digitVal_digitChar d (Nat.digits_lt_base (by norm_num) hd)
    rw [digitsLE_eq le_rfl, List.reverse_reverse, hd, Nat.ofDigits_digits]

theorem digitRun_append {ds r : List Char} (hds : ∀ c ∈ ds, c.isDigit) (hr : endsNumber r) :
    digitRun (ds ++ r) = (ds, r) := by
  induction ds with
  | nil => cases r <;> simp_all [digitRun, endsNumber]
  | cons c ds ih => simp_all [digitRun]

theorem readNat_decimal {r : List Char} (n : Nat) (hr : endsNumber r) :
    readNat (decimal n ++ r) = some (n, r) := by
  obtain ⟨c, cs, hc⟩ := List.exists_cons_of_ne_nil (decimal_ne_nil n)
  have hrun := digitRun_append (decimal_isDigit n) hr
  have hval := ofDigits_decimal n
  rw [hc] at hrun hval
  rw [hc, readNat, hrun]
  exact congrArg (fun m => some (m, r)) hval

theorem readStr_escape (cs : List Char) (r : List Char) :
    readStr (cs.flatMap escapeChar ++ '"' :: r) = some (cs, r) := by
  induction cs with
  | nil => simp
  | cons c cs ih =>
    by_cases hq : c = '"'
    · simp [escapeChar, hq, unescape, ih]
    by_cases hb : c = '\\'
    · simp [escapeChar, hb, unescape, ih]
    · simp [escapeChar, hq, hb, readStr_plain _ hq hb, ih]

/-! ## Values read back -/

theorem decimal_head (n : Nat) : ∃ c cs, decimal n = c :: cs ∧ c.isDigit := by
  obtain ⟨c, cs, hc⟩ := List.exists_cons_of_ne_nil (decimal_ne_nil n)
  exact ⟨c, cs, hc, decimal_isDigit n c (hc ▸ List.mem_cons_self c cs)⟩

theorem readValue_int {fuel : Nat} {r : List Char} (n : Int) (hr : endsNumber r) :
    readValue (fuel + 1) (intText n ++ r) = some (.int n, r) := by
  by_cases hn : n < 0
  · simp [intText, hn, readValue_succ_cons, readNat_decimal _ hr, abs_of_neg hn]
  · obtain ⟨c, cs, hc, hd⟩ := decimal_head n.natAbs
    have hread := readNat_decimal n.natAbs hr
    rw [hc, List.cons_append] at hread
    simp [intText, hn, hc, readValue_succ_cons, hd, hread, abs_of_nonneg (not_lt.mp hn)]

/-- What the printer writes for a value `json.dumps` accepts starts with a character that
cannot close an array. -/
theorem ser_head {v : PyVal} (hv : v.serializable) : ∃ c cs, ser v = c :: cs ∧ c ≠ ']' := by
  match v, hv with
  | .none, _ | .bool true, _ | .bool false, _ | .str _, _ | .list [], _ | .list (_ :: _), _
  | .dict [], _ | .dict (_ :: _), _ => simp [ser, strText]
  | .int n, _ =>
    unfold ser intText
    split
    · simp
    · obtain ⟨c, cs, hc, hd⟩ := decimal_head n.natAbs
      exact ⟨c, cs, hc, by rintro rfl; simp at hd⟩

private theorem endsNumber_serItems (xs : List PyVal) (r : List Char) :
    endsNumber (serItems xs ++ r) := by
  cases xs <;> simp [serItems, endsNumber]

private theorem endsNumber_serMembers (kvs : List (String × PyVal)) (r : List Char) :
    endsNumber (serMembers kvs ++ r) := by
  cases kvs <;> simp [serMembers, endsNumber]

mutual
/-- **Round trip.** The reader takes back the text the printer wrote for a value `json.dumps`
accepts, given fuel as long as the text, whatever follows that does not extend a number. -/
theorem readValue_ser : ∀ {v : PyVal} {fuel : Nat} {r : List Char}, v.serializable →
    (ser v).length ≤ fuel → endsNumber r → readValue fuel (ser v ++ r) = some (v, r)
  | _, 0, _, hv, h, _ => by
    obtain ⟨c, cs, hc, -⟩ := ser_head hv
    simp [hc] at h
  | .none, _ + 1, _, _, _, _ | .bool true, _ + 1, _, _, _, _ | .bool false, _ + 1, _, _, _, _
  | .list [], _ + 1, _, _, _, _ | .dict [], _ + 1, _, _, _, _ => rfl
  | .int n, _ + 1, _, _, _, hr => readValue_int n hr
  | .str s, _ + 1, r, _, _, _ => by simp [ser, strText, readValue_succ_cons, readStr_escape]
  | .list (x :: xs), f + 1, r, hv, h, _ => by
    simp only [PyVal.serializable, PyVal.serializableList, Bool.and_eq_true] at hv
    simp only [ser, List.length_cons, List.length_append] at h
    obtain ⟨c, cs, hc, hne⟩ := ser_head hv.1
    have hhead : (ser x).head? = some c := by simp [hc]
    have hx := readValue_ser hv.1 (by omega : (ser x).length ≤ f) (endsNumber_serItems xs r)
    have hxs := @readItems_ser xs f r hv.2 (by omega)
    simp [ser, readValue_succ_cons, hhead, hne, hx, hxs]
  | .dict ((k, x) :: kvs), f + 1, r, hv, h, _ => by
    simp only [PyVal.serializable, PyVal.serializableDict, Bool.and_eq_true] at hv
    simp only [ser, strText, List.length_cons, List.length_append] at h
    obtain ⟨f, rfl⟩ : ∃ g, f = g + 1 := ⟨f - 1, by omega⟩
    have hx := readValue_ser hv.1 (by omega : (ser x).length ≤ f) (endsNumber_serMembers kvs r)
    have hkvs := @readMembers_ser kvs (f + 1) r hv.2 (by omega)
    simp [ser, strText, readValue_succ_cons, readMember_quote, readStr_escape, hx, hkvs]
  | .set _, _ + 1, _, hv, _, _ | .bytes _, _ + 1, _, hv, _, _ | .object _, _ + 1, _, hv, _, _
  | .unset, _ + 1, _, hv, _, _ => by simp [PyVal.serializable] at hv
/-- `readValue_ser` for the items after an array's first one. -/
theorem readItems_ser : ∀ {xs : List PyVal} {fuel : Nat} {r : List Char},
    PyVal.serializableList xs → (serItems xs).length ≤ fuel →
      readItems fuel (serItems xs ++ r) = some (xs, r)
  | [], 0, _, _, h | _ :: _, 0, _, _, h => by simp [serItems] at h
  | [], _ + 1, _, _, _ => rfl
  | x :: xs, f + 1, r, hv, h => by
    simp only [PyVal.serializableList, Bool.and_eq_true] at hv
    simp only [serItems, List.length_cons, List.length_append] at h
    have hx := readValue_ser hv.1 (by omega : (ser x).length ≤ f) (endsNumber_serItems xs r)
    have hxs := @readItems_ser xs f r hv.2 (by omega)
    simp [serItems, readItems_comma, hx, hxs]
/-- `readValue_ser` for the members after an object's first one. -/
theorem readMembers_ser : ∀ {kvs : List (String × PyVal)} {fuel : Nat} {r : List Char},
    PyVal.serializableDict kvs → (serMembers kvs).length ≤ fuel →
      readMembers fuel (serMembers kvs ++ r) = some (kvs, r)
  | [], 0, _, _, h | _ :: _, 0, _, _, h => by simp [serMembers] at h
  | [], _ + 1, _, _, _ => rfl
  | (k, x) :: kvs, f + 1, r, hv, h => by
    simp only [PyVal.serializableDict, Bool.and_eq_true] at hv
    simp only [serMembers, strText, List.length_cons, List.length_append] at h
    obtain ⟨f, rfl⟩ : ∃ g, f = g + 1 := ⟨f - 1, by omega⟩
    have hx := readValue_ser hv.1 (by omega : (ser x).length ≤ f) (endsNumber_serMembers kvs r)
    have hkvs := @readMembers_ser kvs (f + 1) r hv.2 (by omega)
    simp [serMembers, strText, readMembers_comma, readMember_quote, readStr_escape, hx, hkvs]
end

example : readValue 40 (ser (.dict [("type", .str "rpc"), ("args", .list [.int (-12), .none])]))
    = some (.dict [("type", .str "rpc"), ("args", .list [.int (-12), .none])], []) := by decide

/-! ## The codec -/

/-- How deep this codec nests before it raises `RecursionError`. -/
def depthLimit : Nat := 100

/-- The `JSONDecodeError` of a text that is not one JSON value. -/
def decodeError : PyExc := ⟨.jsonDecodeError, "Expecting value"⟩

/-- The `ValueError` of `str()` on an int of more than 4300 digits. -/
def strLimitError : PyExc :=
  ⟨.valueError, "Exceeds the limit (4300 digits) for integer string conversion; " ++
    "use sys.set_int_max_str_digits() to increase the limit"⟩

/-- The `ValueError` of `int()` on a string of `digits` decimal digits, more than 4300. -/
def intLimitError (digits : Nat) : PyExc :=
  ⟨.valueError, "Exceeds the limit (4300 digits) for integer string conversion: value has " ++
    toString digits ++ " digits; use sys.set_int_max_str_digits() to increase the limit"⟩

/-- The `RecursionError` of the encoder (`encoding`) or the decoder (`decoding`). -/
def recursionError (doing : String) : PyExc :=
  ⟨.recursionError, "maximum recursion depth exceeded while " ++ doing ++ " a JSON object"⟩

mutual
/-- The first int, in the order of the text, of more than 4300 digits. -/
def firstBigInt : PyVal → Option Int
  | .int n => if (PyVal.int n).intsFit then none else some n
  | .list xs | .set xs => firstBigIntList xs
  | .dict kvs => firstBigIntDict kvs
  | .none | .bool _ | .str _ | .bytes _ | .object _ | .unset => none
/-- `firstBigInt` over items. -/
def firstBigIntList : List PyVal → Option Int
  | [] => none
  | x :: xs => (firstBigInt x).or (firstBigIntList xs)
/-- `firstBigInt` over values. -/
def firstBigIntDict : List (String × PyVal) → Option Int
  | [] => none
  | (_, x) :: kvs => (firstBigInt x).or (firstBigIntDict kvs)
end

/-- `json.dumps(v, separators=(",", ":"))`. -/
def dumps (v : PyVal) : Except PyExc String :=
  if depthLimit < v.depth then .error (recursionError "encoding")
  else if !v.serializable then
    .error ⟨.typeError,
      "Object of type " ++ (offenderType v).getD "object" ++ " is not JSON serializable"⟩
  else if !v.intsFit then .error strLimitError
  else .ok (String.mk (ser v))

/-- `json.loads(t)`: one JSON value and nothing after it. -/
def loads (t : String) : Except PyExc PyVal :=
  match readValue t.length t.toList with
  | some (v, []) =>
    if !v.intsFit then .error (intLimitError (decimal ((firstBigInt v).getD 0).natAbs).length)
    else if depthLimit < v.depth then .error (recursionError "decoding")
    else if v.isJson then .ok v
    else .error decodeError
  | _ => .error decodeError

theorem loads_ser {v : PyVal} (hv : v.isJson) (hi : v.intsFit) (hd : v.depth ≤ depthLimit) :
    loads (String.mk (ser v)) = .ok v := by
  have hread := @readValue_ser v (ser v).length [] (PyVal.serializable_of_isJson hv) le_rfl rfl
  rw [List.append_nil] at hread
  simp [loads, String.length, hread, hv, hi, not_lt.mpr hd]

theorem loads_within {t : String} {v : PyVal} (h : loads t = .ok v) :
    v.isJson ∧ v.intsFit ∧ v.depth ≤ depthLimit := by
  unfold loads at h
  split at h
  · split_ifs at h with h1 h2 h3
    cases h
    exact ⟨h3, by simpa using h1, not_lt.mp h2⟩
  · cases h

end JsonText

/-- The concrete codec: `JsonText.dumps` and `JsonText.loads`. -/
def refCodec : JsonCodec where
  dumps := JsonText.dumps
  loads := JsonText.loads
  maxDepth := JsonText.depthLimit
  maxDepth_ge := by decide
  dumps_ok hs hi hd := ⟨_, by simp [JsonText.dumps, hs, hi, not_lt.mpr hd]; rfl⟩
  dumps_error hs _ hd := ⟨_, by simp [JsonText.dumps, hs, not_lt.mpr hd]; rfl⟩
  dumps_bigInt hs hi hd := ⟨_, by simp [JsonText.dumps, hs, hi, not_lt.mpr hd]; rfl⟩
  dumps_error_cls hd h := by
    unfold JsonText.dumps at h
    split_ifs at h with h1 h2 h3 <;> cases h
    · exact absurd hd (not_le.mpr h1)
    · exact .inl rfl
    · exact .inr rfl
  serializable_of_dumps h := by
    unfold JsonText.dumps at h
    split_ifs at h with h1 h2
    simpa using h2
  loads_dumps hv h := by
    unfold JsonText.dumps at h
    split_ifs at h with h1 h2 h3
    cases h
    exact JsonText.loads_ser hv (by simpa using h3) (not_lt.mp h1)
  loads_within := JsonText.loads_within

end PyAgents
