import PyAgents.Agent.World

/-!
# State: the getter and the write path

`Agent.state` and `Agent._set_state_internal`, and the class they read `initial_state` from.

The getter resolves the state lazily. The in-memory `_state` answers when it is set; otherwise
the marker row `cf_state_was_changed` says whether the current row `cf_state_row_id` is to be
believed, and without it the class's `initial_state` is persisted on first use. A current row
that does not decode is replaced by `initial_state`, or both rows are deleted.

The write path sets `_state` first, then serialises; so a value `json.dumps` refuses, with
`TypeError` or with `ValueError` on an int of more than 4300 digits, leaves the cache changed and
the table untouched (`setStateInternal_of_dumps_error`). A value it accepts is written to both
rows, broadcast to every socket except the sender, and passed to `on_state_changed`
(`setStateInternal_json`).

## Method bodies

An RPC handler is arbitrary Python. What matters to the agent is which of its own operations the
handler performs, in which order, on which values: so a body is a `Prog`, a tree whose nodes read
`self.state`, call `self.set_state(v)`, return or raise, and whose continuations may depend on the
state read. `Prog.run` executes it against the getter and the write path.

## Main definitions

* `AgentClass`, `Attr`, `Prog`
* `state`, `setStateInternal`, `setState`, `Prog.run`
* `Prog.eval`, `Prog.storesFit` — a body with the state as a plain variable, and whether the
  values it stores, evaluated from a given state, fit
-/

namespace PyAgents

open Call

/-- A method body, as the agent operations it performs. -/
inductive Prog where
  /-- `return v`. -/
  | ret (v : PyVal)
  /-- `raise e`. -/
  | raise (e : PyExc)
  /-- Read `self.state`, and continue with its value. -/
  | getState (k : PyVal → Prog)
  /-- `self.set_state(v)`, then continue. -/
  | setState (v : PyVal) (k : Prog)

/-- A class or instance attribute, as RPC dispatch sees it. -/
inductive Attr where
  /-- A function; `marked` when `@callable` set `_agent_callable` on it. Its body receives the
  positional arguments. -/
  | function (marked : Bool) (body : List PyVal → Prog)
  /-- Any other value; calling it raises `TypeError`. -/
  | value (v : PyVal)

/-- An `Agent` subclass, with what one instance of it adds in `__init__`. -/
structure AgentClass where
  /-- `type(self).__name__`. -/
  name : String
  /-- The name is ASCII, the text `pyLower` lowers as Python does. -/
  name_ascii : ∀ c ∈ name.toList, c.toNat < 128 := by decide
  /-- `type(self).__module__`: the module the class, and the methods in its body, are defined
  in. -/
  module : String
  /-- `initial_state`: `_UNSET` unless the class sets one. -/
  initialState : PyVal := .unset
  /-- The attributes `getattr(type(self), name)` finds, through the MRO. -/
  classAttrs : List (String × Attr) := []
  /-- Attributes the instance holds itself, which `getattr(self, name)` finds first. -/
  instanceAttrs : List (String × Attr) := []

variable (J : JsonCodec) (A : AgentClass)

/-- The `cf_agent_state` message carrying `state`. -/
def stateMessage (state : PyVal) : PyVal := .dict [("type", .str cfAgentState), ("state", state)]

/-- `_set_state_internal(state, source_ws)`. -/
def setStateInternal (state : PyVal) (sourceWs : Option Conn) : Call Unit := do
  setCache state
  let stateJson ← lift (J.dumps state)
  upsert stateRowId stateJson
  upsert stateWasChanged (← lift (J.dumps (.bool true)))
  let msg ← lift (J.dumps (stateMessage state))
  broadcast msg sourceWs (← getWebSockets)
  emit (.onStateChanged state)

/-- `set_state(state)`. -/
def setState (state : PyVal) : Call Unit := setStateInternal J state none

/-- The `state` property. -/
def state : Call PyVal := do
  let w ← read
  if w.cache ≠ .unset then return w.cache
  else if (← select stateWasChanged).length > 0 then
    match ← select stateRowId with
    | [] => return (← read).cache
    | cell :: _ =>
      match J.loadsCell cell with
      | .ok v => do
        setCache v
        return v
      | .error e =>
        if e.cls = .jsonDecodeError ∨ e.cls = .typeError then
          if A.initialState ≠ .unset then do
            setCache A.initialState
            setStateInternal J A.initialState none
            return (← read).cache
          else do
            delete stateRowId
            delete stateWasChanged
            return .none
        else throw e
  else if A.initialState = .unset then return .none
  else do
    setStateInternal J A.initialState none
    return A.initialState

/-- Run a method body. -/
def Prog.run : Prog → Call PyVal
  | .ret v => pure v
  | .raise e => throw e
  | .getState k => do Prog.run (k (← state J A))
  | .setState v k => do
    PyAgents.setState J v
    Prog.run k

/-- A method body with the state as a plain variable: what it returns or raises, and the state it
leaves. -/
def Prog.eval : Prog → PyVal → Except PyExc PyVal × PyVal
  | .ret v, st => (.ok v, st)
  | .raise e, st => (.error e, st)
  | .getState k, st => (k st).eval st
  | .setState v k, _ => k.eval v

/-- Evaluated from the state `st`, the body stores only values the agent can keep, and returns one
too, or a value of a type `json.dumps` refuses. -/
def Prog.storesFit : Prog → PyVal → Bool
  | .ret v, _ => decide (J.Fits v) || !v.serializable
  | .raise _, _ => true
  | .getState k, st => (k st).storesFit st
  | .setState v k, _ => decide (J.Fits v) && k.storesFit v

/-! ## The write path -/

/-- The world after `_set_state_internal` wrote `state` to both rows. -/
def World.write (w : World) (state : PyVal) : World :=
  { w with
    cache := state
    rows := Function.update (Function.update w.rows stateRowId (some (some (J.text state))))
      stateWasChanged (some (some (J.text (.bool true)))) }

@[simp] theorem serializable_stateMessage (state : PyVal) :
    (stateMessage state).serializable = state.serializable := by
  simp [stateMessage, PyVal.serializable, PyVal.serializableDict]

@[simp] theorem intsFit_stateMessage (state : PyVal) :
    (stateMessage state).intsFit = state.intsFit := by
  simp [stateMessage]

@[simp] theorem depth_stateMessage (state : PyVal) :
    (stateMessage state).depth = state.depth + 1 := by
  simp [stateMessage]

theorem isJson_stateMessage {state : PyVal} (h : state.isJson) : (stateMessage state).isJson :=
  PyVal.isJson_dict (by simp) (by simp [h])

variable {J} in
/-- The state message of a value the agent can keep is one `json.loads` can return. -/
theorem JsonCodec.Fits.stateMessage_loaded {state : PyVal} (h : J.Fits state) :
    J.Loaded (stateMessage state) :=
  ⟨isJson_stateMessage h.1, by simpa using h.2.1, by simpa using h.2.2⟩

variable {J} in
/-- A state message `json.loads` returned carries a value the agent can keep. -/
theorem JsonCodec.Loaded.fits_of_stateMessage {state : PyVal} (h : J.Loaded (stateMessage state)) :
    J.Fits state := by
  obtain ⟨h1, h2, h3⟩ := h
  simp only [stateMessage, PyVal.isJson, Bool.and_eq_true, PyVal.isJsonDict_cons] at h1
  exact ⟨h1.2.2.1, by simpa using h2, by simp at h3; omega⟩

/-- `json.dumps(True)`, the marker row's text. -/
theorem dumps_true : J.dumps (.bool true) = .ok (J.text (.bool true)) :=
  J.dumps_eq_text rfl rfl (Nat.zero_le _)

variable {J} in
/-- **A serialisable write.** `_set_state_internal` caches and stores the value, broadcasts it to
every socket but the sender, and runs `on_state_changed`, when its ints fit, its state message
nests within the codec's depth, and no socket it sends to is broken. -/
theorem setStateInternal_json {state : PyVal} (hs : state.serializable) (hi : state.intsFit)
    (hd : state.depth < J.maxDepth) (sourceWs : Option Conn)
    {w : World} (hr : ∀ ws ∈ w.sockets, sourceWs ≠ some ws → ws ∉ w.broken) :
    setStateInternal J state sourceWs w =
      (.ok (), { w.write J state with
        trace := w.trace ++ fanout (J.text (stateMessage state)) sourceWs w.sockets ++
          [.onStateChanged state] }) := by
  have hb := broadcast_reliable (J.text (stateMessage state)) sourceWs w.sockets (w.write J state) hr
  simp only [World.write] at hb
  simp [setStateInternal, J.dumps_eq_text hs hi hd.le, dumps_true,
    J.dumps_eq_text (show (stateMessage state).serializable by simpa using hs) (by simpa using hi)
      (by simpa using hd), hb, World.write]

variable {J} in
/-- A write of a value the agent can keep, over sockets that do not break. -/
theorem JsonCodec.Fits.setStateInternal {state : PyVal} (hv : J.Fits state) (sourceWs : Option Conn)
    {w : World} (hr : ∀ ws ∈ w.sockets, sourceWs ≠ some ws → ws ∉ w.broken) :
    setStateInternal J state sourceWs w =
      (.ok (), { w.write J state with
        trace := w.trace ++ fanout (J.text (stateMessage state)) sourceWs w.sockets ++
          [.onStateChanged state] }) :=
  setStateInternal_json (PyVal.serializable_of_isJson hv.1) hv.2.1 hv.2.2 sourceWs hr

variable {J} in
/-- **A refused write changes the cache and nothing else.** `_set_state_internal` assigns
`_state` before it calls `json.dumps`, and the error `json.dumps` raises leaves it there. -/
theorem setStateInternal_of_dumps_error {state : PyVal} {e : PyExc} (h : J.dumps state = .error e)
    (sourceWs : Option Conn) (w : World) :
    setStateInternal J state sourceWs w = (.error e, { w with cache := state }) := by
  simp [setStateInternal, h]

/-- `set_state({1, 2})` raises `TypeError` with the table and every socket untouched, but
`_state` now holds the set, and the next read returns it. -/
theorem setState_set_then_read (J : JsonCodec) (A : AgentClass) (w : World) :
    ∃ m, setState J (.set [.int 1, .int 2]) w =
        (.error ⟨.typeError, m⟩, { w with cache := .set [.int 1, .int 2] }) ∧
      state J A { w with cache := .set [.int 1, .int 2] } =
        (.ok (.set [.int 1, .int 2]), { w with cache := .set [.int 1, .int 2] }) := by
  obtain ⟨m, hm⟩ := @JsonCodec.dumps_error J (.set [.int 1, .int 2]) rfl rfl
    (by simp [PyVal.depth, PyVal.depthList]; have := J.maxDepth_ge; omega)
  exact ⟨m, setStateInternal_of_dumps_error hm none w, by simp [state]⟩

/-! ## The getter, case by case

The eight lemmas below are the whole case analysis of `state`: which of them applies is decided
by the cache, the two rows, what `json.loads` makes of the current row, and `initial_state`. -/

section Getter

variable {J A} {w : World}

theorem state_of_cache (h : w.cache ≠ .unset) : state J A w = (.ok w.cache, w) := by
  simp [state, h]

theorem state_of_stored {m cell : Option String} {v : PyVal} (hc : w.cache = .unset)
    (hm : w.rows stateWasChanged = some m) (hr : w.rows stateRowId = some cell)
    (hd : J.loadsCell cell = .ok v) : state J A w = (.ok v, { w with cache := v }) := by
  simp [state, hc, hm, hr, hd]

/-- With the marker row and no current row, the getter returns `self._state` as it is: the
sentinel. -/
theorem state_of_marker_without_row {m : Option String} (hc : w.cache = .unset)
    (hm : w.rows stateWasChanged = some m) (hr : w.rows stateRowId = none) :
    state J A w = (.ok .unset, w) := by
  simp [state, hc, hm, hr]

/-- A table holding the marker row and no current row: the first read returns the sentinel,
whatever the codec and the class. -/
theorem state_marker_only (J : JsonCodec) (A : AgentClass) :
    state J A { World.init "agent" with
      rows := fun id => if id = stateWasChanged then some (some "true") else none } =
      (.ok .unset, { World.init "agent" with
        rows := fun id => if id = stateWasChanged then some (some "true") else none }) :=
  @state_of_marker_without_row J A _ (some "true") rfl (by simp) (by simp [stateWasChanged, stateRowId])

theorem state_of_corrupt_initial {m cell : Option String} {e : PyExc} (hc : w.cache = .unset)
    (hm : w.rows stateWasChanged = some m) (hr : w.rows stateRowId = some cell)
    (hd : J.loadsCell cell = .error e) (he : e.cls = .jsonDecodeError ∨ e.cls = .typeError)
    (hi : A.initialState ≠ .unset) :
    state J A w = match setStateInternal J A.initialState none { w with cache := A.initialState } with
      | (.ok _, w') => (.ok w'.cache, w')
      | (.error e, w') => (.error e, w') := by
  simp [state, hc, hm, hr, hd, he, hi]
  rcases setStateInternal J A.initialState none { w with cache := A.initialState } with
    ⟨_ | _, w'⟩ <;> rfl

theorem state_of_corrupt_unset {m cell : Option String} {e : PyExc} (hc : w.cache = .unset)
    (hm : w.rows stateWasChanged = some m) (hr : w.rows stateRowId = some cell)
    (hd : J.loadsCell cell = .error e) (he : e.cls = .jsonDecodeError ∨ e.cls = .typeError)
    (hi : A.initialState = .unset) :
    state J A w = (.ok .none,
      { w with rows := Function.update (Function.update w.rows stateRowId none) stateWasChanged none }) := by
  simp [state, hc, hm, hr, hd, he, hi]

theorem state_of_corrupt_raise {m cell : Option String} {e : PyExc} (hc : w.cache = .unset)
    (hm : w.rows stateWasChanged = some m) (hr : w.rows stateRowId = some cell)
    (hd : J.loadsCell cell = .error e) (he : ¬(e.cls = .jsonDecodeError ∨ e.cls = .typeError)) :
    state J A w = (.error e, w) := by
  simp [state, hc, hm, hr, hd, he]

theorem state_of_unmarked_unset (hc : w.cache = .unset) (hm : w.rows stateWasChanged = none)
    (hi : A.initialState = .unset) : state J A w = (.ok .none, w) := by
  simp [state, hc, hm, hi]

theorem state_of_unmarked_initial (hc : w.cache = .unset) (hm : w.rows stateWasChanged = none)
    (hi : A.initialState ≠ .unset) :
    state J A w = match setStateInternal J A.initialState none w with
      | (.ok _, w') => (.ok A.initialState, w')
      | (.error e, w') => (.error e, w') := by
  simp [state, hc, hm, hi]
  rcases setStateInternal J A.initialState none w with ⟨_ | _, w'⟩ <;> rfl

end Getter

/-! ## A body runs as it evaluates

A read of the state and a write are the only steps of a body that touch the world. So a property
of worlds, indexed by the state a read returns, that reads keep and that writes of values that
fit carry to the value written, holds from the start of a body whose writes fit to its end; and
the body returns what its evaluation returns. -/

section Run

variable {J A} {I : PyVal → World → Prop}
  (hread : ∀ {st : PyVal} {w : World}, I st w → (state J A w).1 = .ok st ∧ I st (state J A w).2)
  (hwrite : ∀ {st v : PyVal} {w : World}, J.Fits v → I st w →
    (PyAgents.setState J v w).1 = .ok () ∧ I v (PyAgents.setState J v w).2)
include hread hwrite

/-- **A body runs as it evaluates.** From a world where `I st` holds, a body whose writes fit
returns what its evaluation on `st` returns, and ends where `I` holds of the state the evaluation
leaves. -/
theorem Prog.run_eval : ∀ {p : Prog} {st : PyVal} {w : World}, p.storesFit J st → I st w →
    (p.run J A w).1 = (p.eval st).1 ∧ I (p.eval st).2 (p.run J A w).2
  | .ret _, _, _, _, h => ⟨rfl, h⟩
  | .raise _, _, _, _, h => ⟨rfl, h⟩
  | .getState k, st, w, hp, h => by
    obtain ⟨h1, h2⟩ := hread h
    have hrun : (Prog.getState k).run J A w = (k st).run J A (state J A w).2 :=
      bind_of_ok (Prod.ext h1 rfl) _
    rw [hrun]
    exact Prog.run_eval hp h2
  | .setState v k, _, w, hp, h => by
    simp only [Prog.storesFit, Bool.and_eq_true, decide_eq_true_eq] at hp
    obtain ⟨h1, h2⟩ := hwrite hp.1 h
    have hrun : (Prog.setState v k).run J A w = k.run J A (PyAgents.setState J v w).2 :=
      bind_of_ok (Prod.ext h1 rfl) _
    rw [hrun]
    exact Prog.run_eval hp.2 h2

end Run

variable {J} in
/-- What a body whose writes fit returns, the agent could keep, or `json.dumps` refuses for its
type. -/
theorem Prog.storesFit_result : ∀ {p : Prog} {st r : PyVal}, p.storesFit J st →
    (p.eval st).1 = .ok r → J.Fits r ∨ r.serializable = false
  | .ret _, _, _, hp, hr => by
    cases hr
    simpa [Prog.storesFit] using hp
  | .raise _, _, _, _, hr => by cases hr
  | .getState k, st, _, hp, hr => @Prog.storesFit_result (k st) st _ hp hr
  | .setState _ _, _, _, hp, hr => by
    simp only [Prog.storesFit, Bool.and_eq_true] at hp
    exact Prog.storesFit_result hp.2 hr

end PyAgents
