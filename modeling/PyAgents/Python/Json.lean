import PyAgents.Python.Value

/-!
# The `json` module

The agent never looks inside a JSON text: it hands values to `json.dumps`, texts to
`json.loads`, and acts on what comes back. So the library enters the model as a parameter,
`JsonCodec`, carrying exactly the contract the agent's behaviour rests on, and every result
about the agent holds for every codec that keeps it. Python's `json` module is one such codec;
`PyAgents.refCodec` (in `PyAgents.Python.JsonText`) is another, concrete one, which is what
lets the model run on actual frames.

## The contract

CPython's `json` fails in three ways on a Python value: `TypeError` on an object it cannot
serialise (`Object of type set is not JSON serializable`), `ValueError` on an int of more than
4300 decimal digits (`sys.get_int_max_str_digits()`), and `RecursionError` on nesting deeper
than its recursion limit. Its C encoder and decoder spend one level of that limit on each list
or dict (from CPython 3.12 on, Python frames do not count against it), so the two reach the same
depth, `maxDepth`, in the agent's handlers. The contract is:

* `json.dumps` returns a text for a serialisable value whose ints fit, nested at most `maxDepth`
  deep; within that depth it raises `TypeError` on a value it cannot serialise whose ints fit,
  `ValueError` on a serialisable value with an int that does not fit, and no exception of another
  class. It never returns a text for a value it cannot serialise;
* `json.loads (json.dumps v)` gives back `v` for a JSON value `v`;
* whatever `json.loads` returns is a JSON value whose ints fit, nested at most `maxDepth` deep
  (`int()` refuses a longer string of digits, and the decoder a deeper text).

`maxDepth` is not fixed: the handlers call `json` from a shallow stack, and CPython's limits
(1000 frames, or at least 500 levels of C recursion) leave far more than the eight levels the
contract asks for. What `json.loads` does on a text that is not the serialisation of anything is
left open: it may raise `JSONDecodeError`, or anything else.

## Main definitions

* `JsonCodec` — `json.dumps` and `json.loads`, with their contract
* `JsonCodec.Loaded`, `JsonCodec.Fits` — what `json.loads` returns, and the values the agent can
  keep as its state: those whose `cf_agent_state` message, one level deeper, still serialises
-/

namespace PyAgents

/-- The part of Python's `json` module the agent uses, with its contract. -/
structure JsonCodec where
  /-- `json.dumps(v)`. -/
  dumps : PyVal → Except PyExc String
  /-- `json.loads(s)` on a `str`. -/
  loads : String → Except PyExc PyVal
  /-- The nesting `json.dumps` and `json.loads` both reach in the agent's handlers. -/
  maxDepth : Nat
  maxDepth_ge : 8 ≤ maxDepth
  dumps_ok : ∀ {v : PyVal}, v.serializable → v.intsFit → v.depth ≤ maxDepth →
    ∃ t, dumps v = .ok t
  dumps_error : ∀ {v : PyVal}, v.serializable = false → v.intsFit → v.depth ≤ maxDepth →
    ∃ m, dumps v = .error ⟨.typeError, m⟩
  dumps_bigInt : ∀ {v : PyVal}, v.serializable → v.intsFit = false → v.depth ≤ maxDepth →
    ∃ m, dumps v = .error ⟨.valueError, m⟩
  dumps_error_cls : ∀ {v : PyVal} {e : PyExc}, v.depth ≤ maxDepth → dumps v = .error e →
    e.cls = .typeError ∨ e.cls = .valueError
  serializable_of_dumps : ∀ {v : PyVal} {t : String}, dumps v = .ok t → v.serializable
  loads_dumps : ∀ {v : PyVal} {t : String}, v.isJson → dumps v = .ok t → loads t = .ok v
  loads_within : ∀ {t : String} {v : PyVal}, loads t = .ok v →
    v.isJson ∧ v.intsFit ∧ v.depth ≤ maxDepth

namespace JsonCodec

variable (J : JsonCodec)

/-- A value `json.loads` can return: a JSON value whose ints fit, nested at most `maxDepth`
deep. -/
def Loaded (v : PyVal) : Prop := v.isJson ∧ v.intsFit ∧ v.depth ≤ J.maxDepth

/-- A value the agent can keep as its state: a JSON value whose ints fit, nested less than
`maxDepth` deep, so that its `cf_agent_state` message serialises too. -/
def Fits (v : PyVal) : Prop := v.isJson ∧ v.intsFit ∧ v.depth < J.maxDepth

instance : DecidablePred J.Fits := fun _ => inferInstanceAs (Decidable (_ ∧ _ ∧ _))

instance : DecidablePred J.Loaded := fun _ => inferInstanceAs (Decidable (_ ∧ _ ∧ _))

/-- `json.loads(cell)` on a `state` column read from SQL, where `NULL` arrives as `None`. -/
def loadsCell : Option String → Except PyExc PyVal
  | some t => J.loads t
  | none => .error ⟨.typeError, "the JSON object must be str, bytes or bytearray, not NoneType"⟩

/-- The text `json.dumps` gives a value it serialises (and `""` for any other value). -/
def text (v : PyVal) : String :=
  match J.dumps v with
  | .ok t => t
  | .error _ => ""

theorem isJson_of_loads {t : String} {v : PyVal} (h : J.loads t = .ok v) : v.isJson :=
  (J.loads_within h).1

theorem loaded_of_loads {t : String} {v : PyVal} (h : J.loads t = .ok v) : J.Loaded v :=
  J.loads_within h

theorem dumps_eq_text {v : PyVal} (hs : v.serializable) (hi : v.intsFit)
    (hd : v.depth ≤ J.maxDepth) : J.dumps v = .ok (J.text v) := by
  obtain ⟨t, ht⟩ := J.dumps_ok hs hi hd
  simp [text, ht]

variable {J}

theorem Fits.loaded {v : PyVal} (h : J.Fits v) : J.Loaded v := ⟨h.1, h.2.1, h.2.2.le⟩

theorem Loaded.dumps {v : PyVal} (h : J.Loaded v) : J.dumps v = .ok (J.text v) :=
  J.dumps_eq_text (PyVal.serializable_of_isJson h.1) h.2.1 h.2.2

theorem Loaded.loads_text {v : PyVal} (h : J.Loaded v) : J.loads (J.text v) = .ok v :=
  J.loads_dumps h.1 h.dumps

/-- A value `json.loads` can return serialises, and its text reads back as the value. -/
theorem Loaded.roundtrip {v : PyVal} (h : J.Loaded v) :
    ∃ t, J.dumps v = .ok t ∧ J.loads t = .ok v :=
  ⟨_, h.dumps, h.loads_text⟩

theorem fits_none : J.Fits .none := ⟨rfl, rfl, lt_of_lt_of_le (by decide) J.maxDepth_ge⟩

/-- An int whose decimal text fits is a value the agent can keep. -/
theorem fits_int {n : Int} (h : (PyVal.int n).intsFit) : J.Fits (.int n) :=
  ⟨rfl, h, lt_of_lt_of_le (by simp) J.maxDepth_ge⟩

/-- A value `v.get(key, d)` finds in a value `json.loads` returned, or the default `d` the agent
can keep, is one the agent can keep: it lies one level inside. -/
theorem Loaded.fits_getD {v d x : PyVal} {k : String} (h : J.Loaded v) (hd : J.Fits d)
    (hx : v.getD k d = .ok x) : J.Fits x := by
  obtain ⟨hi, hlt⟩ := PyVal.intsFit_of_getD h.2.1 hd.2.1 hx
  refine ⟨PyVal.isJson_of_getD h.1 hd.1 hx, hi, ?_⟩
  rcases hlt with rfl | hlt
  · exact hd.2.2
  · exact lt_of_lt_of_le hlt h.2.2

/-- `json.dumps` on a JSON value either writes a text that reads back as the value, or
raises. -/
theorem dumps_isJson {v : PyVal} (h : v.isJson) :
    (J.dumps v = .ok (J.text v) ∧ J.loads (J.text v) = .ok v) ∨ ∃ e, J.dumps v = .error e := by
  rcases hd : J.dumps v with e | t
  · exact .inr ⟨e, rfl⟩
  · exact .inl ⟨by simp [text, hd], by simpa [text, hd] using J.loads_dumps h hd⟩

/-- `json.dumps` raises on a value it cannot serialise. -/
theorem dumps_unserializable {v : PyVal} (h : v.serializable = false) : ∃ e, J.dumps v = .error e := by
  rcases hd : J.dumps v with e | t
  · exact ⟨e, rfl⟩
  · simp [J.serializable_of_dumps hd] at h

end JsonCodec

end PyAgents
