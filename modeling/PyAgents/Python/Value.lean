import Mathlib.Data.List.Nodup
import Mathlib.Algebra.Group.Nat.Basic

/-!
# Python values

Both programs of the repository pass untyped Python values around: the agent keeps one as its
state, decodes frames into them and answers RPCs with them, and the OpenAPI flattener walks a
decoded JSON document. `PyVal` is the part of Python's object world they can meet: the JSON
shapes, plus the objects `json.dumps` refuses (`set`, `bytes`, any other object such as a
`datetime`) and the agent module's own `_UNSET` sentinel, a bare `object()`.

## Total, permissive operations

Every operation is total. Where Python raises, the operation returns the exception, with the
class and the text `str(e)` Python gives it, so that the callers can decide whether their
`try` catches it. Dictionaries are association lists in insertion order; nothing forbids a
repeated key, and `isJson` is the predicate that rules it out for the values a JSON decoder can
produce.

## Scope

Python `float` is not modelled, so a statement over "every JSON value" here is over the values
without a float. A `str` is a Lean `String`, a sequence of Unicode scalar values: a Python string
holding a lone surrogate (which `json.loads` makes of the escape `\ud800`) is outside the model.
Ints are unbounded, as in Python; CPython refuses to convert one of more than 4300 decimal digits
to or from text (`sys.get_int_max_str_digits()`), and `intsFit` says when a value stays within
that limit. `str` and `repr` of an int are modelled within it: every value the code prints comes
from `json.loads` or from the program text.

## Main definitions

* `PyVal`, `PyExc` — values and raised exceptions
* `PyVal.get`, `PyVal.contains`, `PyVal.truthy`, `PyVal.repr` — the few operations the code
  applies to values of unknown type, with the exceptions Python raises
* `PyVal.serializable`, `PyVal.isJson` — what `json.dumps` accepts, and what it round-trips
* `PyVal.intsFit`, `PyVal.depth` — CPython's limit on the digits of an int, and the nesting its
  JSON encoder and decoder recurse through
-/

namespace PyAgents

/-- The classes of the exceptions the modelled code raises or catches. -/
inductive ExcClass where
  | jsonDecodeError
  | typeError
  | attributeError
  | keyError
  | valueError
  /-- An error thrown by the JavaScript runtime and surfaced in Python, such as
  `WebSocket.send` on a socket that can no longer carry messages. -/
  | jsException
  /-- The interpreter's recursion limit was reached. -/
  | recursionError
  deriving DecidableEq, Repr

/-- A raised exception: its class and its text `str(e)`. Every class here derives from
`Exception`, so `except Exception` catches all of them. The text is taken as computed when the
exception is raised: an exception whose `str()` itself raises, such as `ValueError(10 ** 4301)`,
is outside the model. -/
structure PyExc where
  cls : ExcClass
  msg : String
  deriving DecidableEq, Repr

/-- A Python value. -/
inductive PyVal where
  | none
  | bool (b : Bool)
  | int (n : Int)
  | str (s : String)
  | list (xs : List PyVal)
  | dict (kvs : List (String × PyVal))
  | set (xs : List PyVal)
  | bytes (data : List UInt8)
  /-- Any other object, named by its class (`datetime`, an instance of a user class). -/
  | object (cls : String)
  /-- The agent module's `_UNSET = object()`, compared by identity. -/
  | unset
  deriving Repr, Inhabited

/-- `s.lower()`, as far as the model needs it. It lowers the ASCII letters and the Kelvin sign
`'\u212A'`, whose lower case is `'k'`. Besides the ASCII letters, the Kelvin sign is the only code
point whose lower case is made of ASCII letters alone, so comparing a lowered text with an ASCII
word, as `fetch` does with `"websocket"`, is exact on every text. Every other cased letter keeps its case here, where Python
lowers it (`'É'.lower()` is `'é'`); the class names the model lowers are ASCII
(`AgentClass.name_ascii`). -/
def pyLower (s : String) : String :=
  String.mk (s.toList.map fun c => if c = '\u212A' then 'k' else c.toLower)

namespace PyVal

/-! ## Equality -/

mutual
/-- Structural equality, as a `Bool`; `eq_of_beq` makes it decide `=`. -/
def beq : PyVal → PyVal → Bool
  | .none, .none | .unset, .unset => true
  | .bool a, .bool b => a == b
  | .int a, .int b => a == b
  | .str a, .str b => a == b
  | .list a, .list b | .set a, .set b => beqList a b
  | .dict a, .dict b => beqDict a b
  | .bytes a, .bytes b => a == b
  | .object a, .object b => a == b
  | _, _ => false
/-- `beq` on lists. -/
def beqList : List PyVal → List PyVal → Bool
  | [], [] => true
  | x :: xs, y :: ys => beq x y && beqList xs ys
  | _, _ => false
/-- `beq` on association lists. -/
def beqDict : List (String × PyVal) → List (String × PyVal) → Bool
  | [], [] => true
  | (k, x) :: xs, (l, y) :: ys => k == l && beq x y && beqDict xs ys
  | _, _ => false
end

mutual
theorem eq_of_beq : ∀ {a b : PyVal}, beq a b = true → a = b
  | .list _, b, h | .set _, b, h => by
    cases b <;> first | cases h | exact congrArg _ (eq_of_beqList h)
  | .dict _, b, h => by cases b <;> first | cases h | exact congrArg _ (eq_of_beqDict h)
  | .none, b, h | .unset, b, h => by cases b <;> first | rfl | cases h
  | .bool _, b, h | .int _, b, h | .str _, b, h | .bytes _, b, h | .object _, b, h => by
    cases b <;> first | cases h | exact congrArg _ (beq_iff_eq.mp h)
theorem eq_of_beqList : ∀ {a b : List PyVal}, beqList a b = true → a = b
  | [], [], _ => rfl
  | x :: xs, y :: ys, h => by
    have h' : (beq x y && beqList xs ys) = true := h
    simp only [Bool.and_eq_true] at h'
    rw [eq_of_beq h'.1, eq_of_beqList h'.2]
  | [], _ :: _, h | _ :: _, [], h => nomatch h
theorem eq_of_beqDict : ∀ {a b : List (String × PyVal)}, beqDict a b = true → a = b
  | [], [], _ => rfl
  | (k, x) :: xs, (l, y) :: ys, h => by
    have h' : (k == l && beq x y && beqDict xs ys) = true := h
    simp only [Bool.and_eq_true, beq_iff_eq] at h'
    rw [h'.1.1, eq_of_beq h'.1.2, eq_of_beqDict h'.2]
  | [], _ :: _, h | _ :: _, [], h => nomatch h
end

mutual
theorem beq_self : ∀ a : PyVal, beq a a = true
  | .list a | .set a => beqList_self a
  | .dict a => beqDict_self a
  | .none | .unset => rfl
  | .bool b | .int b | .str b | .bytes b | .object b => beq_self_eq_true b
theorem beqList_self : ∀ a : List PyVal, beqList a a = true
  | [] => rfl
  | x :: xs => show (beq x x && beqList xs xs) = true by rw [beq_self x, beqList_self xs]; rfl
theorem beqDict_self : ∀ a : List (String × PyVal), beqDict a a = true
  | [] => rfl
  | (k, x) :: xs => show (k == k && beq x x && beqDict xs xs) = true by
    rw [beq_self_eq_true, beq_self x, beqDict_self xs]; rfl
end

instance : DecidableEq PyVal := fun a b =>
  decidable_of_iff (beq a b = true) ⟨eq_of_beq, fun h => h ▸ beq_self a⟩

/-! ## Operations on values of unknown type -/

/-- `type(v).__name__`, as error messages quote it. -/
def typeName : PyVal → String
  | .none => "NoneType"
  | .bool _ => "bool"
  | .int _ => "int"
  | .str _ => "str"
  | .list _ => "list"
  | .dict _ => "dict"
  | .set _ => "set"
  | .bytes _ => "bytes"
  | .object cls => cls
  | .unset => "object"

/-- Python truthiness, `bool(v)`. -/
def truthy : PyVal → Bool
  | .none => false
  | .bool b => b
  | .int n => n != 0
  | .str s => !s.isEmpty
  | .list xs | .set xs => !xs.isEmpty
  | .dict kvs => !kvs.isEmpty
  | .bytes data => !data.isEmpty
  | .object _ | .unset => true

/-- `v.get(key, default)`: only a `dict` has a `get` method. -/
def getD (v : PyVal) (key : String) (default : PyVal) : Except PyExc PyVal :=
  match v with
  | .dict kvs => .ok ((kvs.lookup key).getD default)
  | _ => .error ⟨.attributeError, s!"'{v.typeName}' object has no attribute 'get'"⟩

/-- `v.get(key)`. -/
def get (v : PyVal) (key : String) : Except PyExc PyVal := v.getD key .none

/-- `v` is the string `s`: Python's `v == s`, which holds only between strings. -/
def isStr (v : PyVal) (s : String) : Bool :=
  match v with
  | .str t => t == s
  | _ => false

/-- `hash(v)` succeeds: containers that can change are unhashable. -/
def hashable : PyVal → Bool
  | .list _ | .dict _ | .set _ => false
  | _ => true

/-- The `TypeError` that `hash(v)` raises on an unhashable value. -/
def unhashableError (v : PyVal) : PyExc := ⟨.typeError, s!"unhashable type: '{v.typeName}'"⟩

/-- `key in v` for a string `key`, as the flattener tests schema and dict keys: key membership
for a `dict`, element equality for a `list` or `set`, substring for a `str`. -/
def contains (v : PyVal) (key : String) : Except PyExc Bool :=
  match v with
  | .dict kvs => .ok (kvs.any (·.1 == key))
  | .list xs | .set xs => .ok (xs.any (·.isStr key))
  | .str s => .ok (s.toList.tails.any (key.toList.isPrefixOf ·))
  | .bytes _ => .error ⟨.typeError, "a bytes-like object is required, not 'str'"⟩
  | _ => .error ⟨.typeError, s!"argument of type '{v.typeName}' is not iterable"⟩

/-! ## `repr` and `str` -/

/-- Two lower-case hexadecimal digits, as `\xNN` escapes print a code point below 256. -/
def hex2 (n : Nat) : String :=
  String.mk [Nat.digitChar (n / 16 % 16), Nat.digitChar (n % 16)]

/-- One character of a string literal printed by `repr`, between the quotes `q`. Control
characters and the non-printable Latin-1 range print as `\xNN`; other code points print as
they are. -/
def reprChar (q : Char) (c : Char) : String :=
  if c = '\\' then "\\\\"
  else if c = q then "\\" ++ c.toString
  else if c = '\t' then "\\t"
  else if c = '\n' then "\\n"
  else if c = '\r' then "\\r"
  else if c.toNat < 0x20 ∨ (0x7f ≤ c.toNat ∧ c.toNat ≤ 0xa0) ∨ c.toNat = 0xad then
    "\\x" ++ hex2 c.toNat
  else c.toString

/-- `repr(s)` for a string: single quotes unless the text has a single quote and no double
quote. -/
def reprStr (s : String) : String :=
  let q := if s.contains '\'' && !s.contains '"' then '"' else '\''
  q.toString ++ String.join (s.toList.map (reprChar q)) ++ q.toString

mutual
/-- `repr(v)`. An object other than the sentinel prints as `<cls object>`; CPython adds its
address, which the model does not have. -/
def repr : PyVal → String
  | .none => "None"
  | .bool b => if b then "True" else "False"
  | .int n => toString n
  | .str s => reprStr s
  | .list xs => "[" ++ reprList xs ++ "]"
  | .dict kvs => "\x7b" ++ reprDict kvs ++ "\x7d"
  | .set [] => "set()"
  | .set xs => "\x7b" ++ reprList xs ++ "\x7d"
  | .bytes data => "b" ++ reprStr (String.mk (data.map fun b => Char.ofNat b.toNat))
  | .object cls => "<" ++ cls ++ " object>"
  | .unset => "<object object>"
/-- The items of a list or set, separated by `", "`. -/
def reprList : List PyVal → String
  | [] => ""
  | [x] => repr x
  | x :: xs => repr x ++ ", " ++ reprList xs
/-- The items of a dict, `'k': v`, separated by `", "`. -/
def reprDict : List (String × PyVal) → String
  | [] => ""
  | [(k, x)] => reprStr k ++ ": " ++ repr x
  | (k, x) :: xs => reprStr k ++ ": " ++ repr x ++ ", " ++ reprDict xs
end

/-- `str(v)`: a string is its own text, everything else prints as its `repr`. -/
def pyStr : PyVal → String
  | .str s => s
  | v => v.repr

/-! ## Subscripts and arithmetic -/

/-- `v[key]` for a string `key`. -/
def subscript (v : PyVal) (key : String) : Except PyExc PyVal :=
  match v with
  | .dict kvs =>
    match kvs.lookup key with
    | .some x => .ok x
    | .none => .error ⟨.keyError, reprStr key⟩
  | .list _ => .error ⟨.typeError, "list indices must be integers or slices, not str"⟩
  | .str _ => .error ⟨.typeError, "string indices must be integers, not 'str'"⟩
  | .bytes _ => .error ⟨.typeError, "byte indices must be integers or slices, not str"⟩
  | _ => .error ⟨.typeError, s!"'{v.typeName}' object is not subscriptable"⟩

/-- The integer a value stands for in arithmetic: `bool` is a subclass of `int`. -/
def asInt : PyVal → Option Int
  | .int n => some n
  | .bool b => some (if b then 1 else 0)
  | _ => .none

/-- The `TypeError` of a binary operator `op` on operands it does not support. -/
def unsupported (op : String) (a b : PyVal) : PyExc :=
  ⟨.typeError, s!"unsupported operand type(s) for {op}: '{a.typeName}' and '{b.typeName}'"⟩

/-- `a + b`: integer addition, and concatenation of two strings or two lists. -/
def add (a b : PyVal) : Except PyExc PyVal :=
  match a.asInt, b.asInt, a, b with
  | some m, some n, _, _ => .ok (.int (m + n))
  | _, _, .str s, .str t => .ok (.str (s ++ t))
  | _, _, .list xs, .list ys => .ok (.list (xs ++ ys))
  | _, _, .str _, _ =>
    .error ⟨.typeError, "can only concatenate str (not \"" ++ b.typeName ++ "\") to str"⟩
  | _, _, .list _, _ =>
    .error ⟨.typeError, "can only concatenate list (not \"" ++ b.typeName ++ "\") to list"⟩
  | _, _, _, _ => .error (unsupported "+" a b)

/-- `a - b` on integers. Set difference is not modelled: no JSON value is a set. -/
def sub (a b : PyVal) : Except PyExc PyVal :=
  match a.asInt, b.asInt with
  | some m, some n => .ok (.int (m - n))
  | _, _ => .error (unsupported "-" a b)

/-! ## What `json.dumps` accepts -/

mutual
/-- `json.dumps` accepts `v`: no `set`, `bytes` or other object anywhere inside it. -/
def serializable : PyVal → Bool
  | .none | .bool _ | .int _ | .str _ => true
  | .list xs => serializableList xs
  | .dict kvs => serializableDict kvs
  | .set _ | .bytes _ | .object _ | .unset => false
/-- `serializable` on every item. -/
def serializableList : List PyVal → Bool
  | [] => true
  | x :: xs => serializable x && serializableList xs
/-- `serializable` on every value. -/
def serializableDict : List (String × PyVal) → Bool
  | [] => true
  | (_, x) :: xs => serializable x && serializableDict xs
end

mutual
/-- `v` is a JSON value: serializable, and no dict inside it repeats a key. These are the
values `json.loads (json.dumps v)` gives back unchanged. -/
def isJson : PyVal → Bool
  | .none | .bool _ | .int _ | .str _ => true
  | .list xs => isJsonList xs
  | .dict kvs => decide (kvs.map Prod.fst).Nodup && isJsonDict kvs
  | .set _ | .bytes _ | .object _ | .unset => false
/-- `isJson` on every item. -/
def isJsonList : List PyVal → Bool
  | [] => true
  | x :: xs => isJson x && isJsonList xs
/-- `isJson` on every value. -/
def isJsonDict : List (String × PyVal) → Bool
  | [] => true
  | (_, x) :: xs => isJson x && isJsonDict xs
end

mutual
theorem serializable_of_isJson : ∀ {v : PyVal}, v.isJson → v.serializable
  | .list xs, h => serializableList_of_isJsonList (by simpa [isJson] using h)
  | .dict kvs, h => by
    simp only [isJson, Bool.and_eq_true] at h
    exact serializableDict_of_isJsonDict h.2
  | .none, _ | .bool _, _ | .int _, _ | .str _, _ => rfl
theorem serializableList_of_isJsonList : ∀ {xs : List PyVal}, isJsonList xs → serializableList xs
  | [], _ => rfl
  | x :: xs, h => by
    simp only [isJsonList, Bool.and_eq_true] at h
    simp [serializableList, serializable_of_isJson h.1, serializableList_of_isJsonList h.2]
theorem serializableDict_of_isJsonDict :
    ∀ {kvs : List (String × PyVal)}, isJsonDict kvs → serializableDict kvs
  | [], _ => rfl
  | (_, x) :: xs, h => by
    simp only [isJsonDict, Bool.and_eq_true] at h
    simp [serializableDict, serializable_of_isJson h.1, serializableDict_of_isJsonDict h.2]
end

@[simp] theorem isJson_none : PyVal.none.isJson := rfl
@[simp] theorem isJson_bool (b : Bool) : (PyVal.bool b).isJson := rfl
@[simp] theorem isJson_int (n : Int) : (PyVal.int n).isJson := rfl
@[simp] theorem isJson_str (s : String) : (PyVal.str s).isJson := rfl
@[simp] theorem isJson_unset : PyVal.unset.isJson = false := rfl
@[simp] theorem serializable_unset : PyVal.unset.serializable = false := rfl

@[simp] theorem isJsonDict_cons (k : String) (x : PyVal) (kvs : List (String × PyVal)) :
    isJsonDict ((k, x) :: kvs) = (x.isJson && isJsonDict kvs) := rfl

@[simp] theorem isJsonDict_nil : isJsonDict [] = true := rfl

/-- A dict with distinct keys and JSON values is a JSON value. -/
theorem isJson_dict {kvs : List (String × PyVal)} (hk : (kvs.map Prod.fst).Nodup)
    (hv : isJsonDict kvs) : (PyVal.dict kvs).isJson := by
  simp [isJson, hk, hv]

/-! ## What CPython's `json` can carry -/

/-- CPython's default `sys.get_int_max_str_digits()`: `str()` of an int of more decimal digits
raises `ValueError`, and so does `int()` of a longer string of digits. -/
def intMaxStrDigits : Nat := 4300

/-- `10 ^ intMaxStrDigits`: the ints of at most that many digits are those of smaller absolute
value. It is written as a power of `10 ^ 43`, because Lean evaluates `a ^ b` only for
`b ≤ 256`. -/
def intStrBound : Nat := (10 ^ 43) ^ 100

set_option exponentiation.threshold 4300 in
theorem intStrBound_eq : intStrBound = 10 ^ intMaxStrDigits := rfl

mutual
/-- Every int inside `v` has at most `intMaxStrDigits` decimal digits. -/
def intsFit : PyVal → Bool
  | .int n => decide (n.natAbs < intStrBound)
  | .list xs | .set xs => intsFitList xs
  | .dict kvs => intsFitDict kvs
  | .none | .bool _ | .str _ | .bytes _ | .object _ | .unset => true
/-- `intsFit` on every item. -/
def intsFitList : List PyVal → Bool
  | [] => true
  | x :: xs => intsFit x && intsFitList xs
/-- `intsFit` on every value. -/
def intsFitDict : List (String × PyVal) → Bool
  | [] => true
  | (_, x) :: xs => intsFit x && intsFitDict xs
end

mutual
/-- How deep lists, dicts and sets nest in `v`. CPython's JSON encoder and decoder spend one
level of the recursion limit on each. -/
def depth : PyVal → Nat
  | .list xs | .set xs => depthList xs + 1
  | .dict kvs => depthDict kvs + 1
  | .none | .bool _ | .int _ | .str _ | .bytes _ | .object _ | .unset => 0
/-- The depth of the deepest item. -/
def depthList : List PyVal → Nat
  | [] => 0
  | x :: xs => max (depth x) (depthList xs)
/-- The depth of the deepest value. -/
def depthDict : List (String × PyVal) → Nat
  | [] => 0
  | (_, x) :: xs => max (depth x) (depthDict xs)
end

@[simp] theorem intsFit_none : PyVal.none.intsFit := rfl
@[simp] theorem intsFit_bool (b : Bool) : (PyVal.bool b).intsFit := rfl
@[simp] theorem intsFit_str (s : String) : (PyVal.str s).intsFit := rfl
@[simp] theorem intsFit_list (xs : List PyVal) : (PyVal.list xs).intsFit = intsFitList xs := rfl
@[simp] theorem intsFit_dict (kvs : List (String × PyVal)) :
    (PyVal.dict kvs).intsFit = intsFitDict kvs := rfl
@[simp] theorem intsFitList_nil : intsFitList [] = true := rfl
@[simp] theorem intsFitList_cons (x : PyVal) (xs : List PyVal) :
    intsFitList (x :: xs) = (x.intsFit && intsFitList xs) := rfl
@[simp] theorem intsFitDict_nil : intsFitDict [] = true := rfl
@[simp] theorem intsFitDict_cons (k : String) (x : PyVal) (kvs : List (String × PyVal)) :
    intsFitDict ((k, x) :: kvs) = (x.intsFit && intsFitDict kvs) := rfl

@[simp] theorem depth_none : PyVal.none.depth = 0 := rfl
@[simp] theorem depth_bool (b : Bool) : (PyVal.bool b).depth = 0 := rfl
@[simp] theorem depth_int (n : Int) : (PyVal.int n).depth = 0 := rfl
@[simp] theorem depth_str (s : String) : (PyVal.str s).depth = 0 := rfl
@[simp] theorem depth_list (xs : List PyVal) : (PyVal.list xs).depth = depthList xs + 1 := rfl
@[simp] theorem depth_dict (kvs : List (String × PyVal)) :
    (PyVal.dict kvs).depth = depthDict kvs + 1 := rfl
@[simp] theorem depthList_nil : depthList [] = 0 := rfl
@[simp] theorem depthList_cons (x : PyVal) (xs : List PyVal) :
    depthList (x :: xs) = max x.depth (depthList xs) := rfl
@[simp] theorem depthDict_nil : depthDict [] = 0 := rfl
@[simp] theorem depthDict_cons (k : String) (x : PyVal) (kvs : List (String × PyVal)) :
    depthDict ((k, x) :: kvs) = max x.depth (depthDict kvs) := rfl

/-- An int fits when it has at most 4300 decimal digits. -/
theorem intsFit_int (n : Int) :
    (PyVal.int n).intsFit = decide (n.natAbs < 10 ^ intMaxStrDigits) := by
  rw [← intStrBound_eq]
  rfl

theorem intsFit_of_mem_list {xs : List PyVal} (h : intsFitList xs) : ∀ a ∈ xs, a.intsFit := by
  induction xs with
  | nil => simp
  | cons x xs ih =>
    simp only [intsFitList_cons, Bool.and_eq_true] at h
    simpa [h.1] using ih h.2

theorem depth_lt_of_mem_list {xs : List PyVal} : ∀ a ∈ xs, a.depth < (PyVal.list xs).depth := by
  induction xs with
  | nil => simp
  | cons x xs ih =>
    intro a ha
    rcases List.mem_cons.mp ha with rfl | ha
    · simp only [depth_list, depthList_cons]; omega
    · have := ih a ha
      simp only [depth_list, depthList_cons] at this ⊢; omega

/-- A value found in a dict fits when the dict does, and nests less deep. -/
theorem intsFit_of_lookup {kvs : List (String × PyVal)} {k : String} {x : PyVal}
    (hv : intsFitDict kvs) (h : kvs.lookup k = some x) :
    x.intsFit ∧ x.depth < (PyVal.dict kvs).depth := by
  induction kvs with
  | nil => cases h
  | cons kv kvs ih =>
    obtain ⟨k', x'⟩ := kv
    simp only [intsFitDict_cons, Bool.and_eq_true] at hv
    by_cases hk : k = k'
    · simp only [hk, List.lookup_cons, beq_self_eq_true, Option.some.injEq] at h
      subst h
      exact ⟨hv.1, by simp only [depth_dict, depthDict_cons]; omega⟩
    · obtain ⟨h1, h2⟩ := ih hv.2 (by simpa [List.lookup_cons, beq_false_of_ne hk] using h)
      simp only [depth_dict, depthDict_cons] at h2 ⊢
      exact ⟨h1, by omega⟩

/-- What `get` finds in a value whose ints fit, or its default, fits; what it finds nests less
deep than the value. -/
theorem intsFit_of_getD {v d x : PyVal} {k : String} (hv : v.intsFit) (hd : d.intsFit)
    (h : v.getD k d = .ok x) : x.intsFit ∧ (x = d ∨ x.depth < v.depth) := by
  cases v with
  | dict kvs =>
    simp only [getD, Except.ok.injEq] at h
    cases hl : kvs.lookup k with
    | none => simp only [hl, Option.getD_none] at h; exact ⟨h ▸ hd, .inl h.symm⟩
    | some y =>
      simp only [hl, Option.getD_some] at h
      obtain ⟨h1, h2⟩ := intsFit_of_lookup hv hl
      exact ⟨h ▸ h1, .inr (h ▸ h2)⟩
  | _ => simp [getD] at h

/-! ## JSON values are closed under the operations -/

theorem isJson_of_mem_isJsonList {xs : List PyVal} (h : isJsonList xs) : ∀ a ∈ xs, a.isJson := by
  induction xs with
  | nil => simp
  | cons x xs ih =>
    simp only [isJsonList, Bool.and_eq_true] at h
    simpa [h.1] using ih h.2

theorem isJson_of_lookup {kvs : List (String × PyVal)} {k : String} {x : PyVal}
    (hv : isJsonDict kvs) (h : kvs.lookup k = some x) : x.isJson := by
  induction kvs with
  | nil => cases h
  | cons kv kvs ih =>
    obtain ⟨k', x'⟩ := kv
    simp only [isJsonDict_cons, Bool.and_eq_true] at hv
    by_cases hk : k = k'
    · simp_all [List.lookup_cons]
    · exact ih hv.2 (by simpa [List.lookup_cons, beq_false_of_ne hk] using h)

/-- What `get` finds in a JSON value, or its default, is a JSON value. -/
theorem isJson_of_getD {v d x : PyVal} {k : String} (hv : v.isJson) (hd : d.isJson)
    (h : v.getD k d = .ok x) : x.isJson := by
  cases v with
  | dict kvs =>
    simp only [getD, Except.ok.injEq] at h
    simp only [isJson, Bool.and_eq_true] at hv
    cases hl : kvs.lookup k with
    | none => simpa [hl, ← h] using hd
    | some y => simpa [hl, ← h] using isJson_of_lookup hv.2 hl
  | _ => simp [getD] at h

end PyVal

end PyAgents
