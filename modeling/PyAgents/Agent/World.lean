import PyAgents.Python.Json

/-!
# The agent's world

One Durable Object instance of an `Agent` subclass, and the runtime around it, as the handlers
see them: the in-memory `_state`, the `cf_agents_state` table, the hibernatable WebSockets the
runtime has accepted, and a trace of every message sent and every user hook run.

## Calls keep what they did before raising

A handler is a `Call`: a world goes in, and out comes the world after it together with the value
it returned or the exception it raised. The world after a raise keeps every write and every send
made before it: Python does not roll back, and neither does the SQL storage between two
statements of one handler. `Call` is therefore not `StateT World (Except PyExc)`, which forgets
the state on an exception, but the state-passing function written out; its `bind` has one
simp lemma, and every primitive one more, so that later proofs run a handler by `simp`.

## What is a parameter

The agent's identity string `str(self.ctx.id)` and the set of sockets whose `send` raises are
part of the world and never change; the class under test (its name, `initial_state`, its
methods) is `PyAgents.AgentClass`, in `PyAgents.Agent.State`.

## Main definitions

* `World`, `Effect`, `Conn`, `Frame`
* `Call` and its primitives: `select`, `upsert`, `delete`, `wsSend`, `broadcast`,
  `acceptWebSocket`, `emit`
* `broadcast_reliable`, `broadcast_broken` — the fan-out loop over `getWebSockets()`
-/

namespace PyAgents

/-! ## Wire and storage constants -/

/-- `STATE_ROW_ID`, the row holding the serialised state. -/
def stateRowId : String := "cf_state_row_id"
/-- `STATE_WAS_CHANGED`, the marker row written next to it. -/
def stateWasChanged : String := "cf_state_was_changed"
/-- `CF_AGENT_STATE`. -/
def cfAgentState : String := "cf_agent_state"
/-- `CF_AGENT_STATE_ERROR`. -/
def cfAgentStateError : String := "cf_agent_state_error"
/-- `CF_AGENT_IDENTITY`. -/
def cfAgentIdentity : String := "cf_agent_identity"
/-- `RPC`. -/
def rpc : String := "rpc"

theorem stateWasChanged_ne_stateRowId : stateWasChanged ≠ stateRowId := by decide

/-! ## Sockets, frames, effects -/

/-- A server-side WebSocket, compared by identity. -/
structure Conn where
  id : Nat
  deriving DecidableEq, Repr

/-- A WebSocket message as `webSocketMessage` receives it: a `str`, or binary data. -/
inductive Frame where
  | text (s : String)
  | binary (data : List UInt8)
  deriving DecidableEq, Repr

/-- What a handler does that someone outside the agent can see. -/
inductive Effect where
  /-- `ws.send(text)` delivered `text` to `ws`. -/
  | send (ws : Conn) (text : String)
  | onConnect (ws : Conn)
  | onMessage (ws : Conn) (message : Frame)
  | onClose (ws : Conn) (code : Int) (reason : String) (wasClean : Bool)
  | onError (ws : Conn) (error : String)
  | onStateChanged (state : PyVal)
  deriving Repr

/-- One agent instance and its runtime. -/
structure World where
  /-- `self._state`: the module's `_UNSET` until something resolves the state. -/
  cache : PyVal
  /-- `cf_agents_state`, by `id`: no row, or a row whose `state` is `NULL` or a text. -/
  rows : String → Option (Option String)
  /-- `self.ctx.getWebSockets()`, oldest first. -/
  sockets : List Conn
  /-- The sockets whose `send` raises. -/
  broken : List Conn
  /-- The identity of the next socket `acceptWebSocket` registers. -/
  nextSocket : Nat
  /-- `str(self.ctx.id)`. -/
  ctxId : String
  /-- Every message sent and every hook run, oldest first. -/
  trace : List Effect

/-- The agent before anything happened: no state resolved, an empty table, no sockets. -/
def World.init (ctxId : String) (broken : List Conn := []) : World :=
  ⟨.unset, fun _ => none, [], broken, 0, ctxId, []⟩

/-! ## Calls -/

/-- A handler run on a world: its result or exception, and the world after it. -/
def Call (α : Type) := World → Except PyExc α × World

namespace Call

instance : Monad Call where
  pure a := fun w => (.ok a, w)
  bind x f := fun w =>
    match x w with
    | (.ok a, w') => f a w'
    | (.error e, w') => (.error e, w')

@[simp] theorem pure_apply {α} (a : α) (w : World) : (pure a : Call α) w = (.ok a, w) := rfl

@[simp] theorem bind_apply {α β} (x : Call α) (f : α → Call β) (w : World) :
    (x >>= f) w = match x w with
      | (.ok a, w') => f a w'
      | (.error e, w') => (.error e, w') := rfl

@[simp] theorem pure_bind {α β} (a : α) (f : α → Call β) : (pure a >>= f) = f a := rfl

/-- `raise e`. -/
def throw {α} (e : PyExc) : Call α := fun w => (.error e, w)

/-- `try: x except Exception as e: handler(e)`. -/
def tryCatch {α} (x : Call α) (handler : PyExc → Call α) : Call α := fun w =>
  match x w with
  | (.error e, w') => handler e w'
  | r => r

/-- Run a fallible pure computation, such as `json.dumps`, raising its exception. -/
def lift {α} : Except PyExc α → Call α
  | .ok a => pure a
  | .error e => throw e

/-- Read the world. -/
def read : Call World := fun w => (.ok w, w)

/-- Change the world. -/
def modify (f : World → World) : Call Unit := fun w => (.ok (), f w)

@[simp] theorem throw_apply {α} (e : PyExc) (w : World) : (throw e : Call α) w = (.error e, w) :=
  rfl
@[simp] theorem lift_ok {α} (a : α) : lift (.ok a) = pure a := rfl
@[simp] theorem lift_error {α} (e : PyExc) : (lift (.error e) : Call α) = throw e := rfl
@[simp] theorem read_apply (w : World) : read w = (.ok w, w) := rfl
@[simp] theorem modify_apply (f : World → World) (w : World) : modify f w = (.ok (), f w) := rfl

theorem tryCatch_apply {α} (x : Call α) (handler : PyExc → Call α) (w : World) :
    tryCatch x handler w = match x w with
      | (.error e, w') => handler e w'
      | r => r := rfl

section Outcome

variable {α β : Type} {x : Call α} {w w' : World}

theorem bind_of_ok {a : α} (h : x w = (.ok a, w')) (f : α → Call β) : (x >>= f) w = f a w' := by
  simp [h]

theorem bind_of_error {e : PyExc} (h : x w = (.error e, w')) (f : α → Call β) :
    (x >>= f) w = (.error e, w') := by
  simp [h]

theorem tryCatch_of_error {e : PyExc} (h : x w = (.error e, w')) (handler : PyExc → Call α) :
    tryCatch x handler w = handler e w' := by
  simp [tryCatch_apply, h]

end Outcome

end Call

open Call

/-! ## Primitives -/

/-- `self._state = v`. -/
def setCache (v : PyVal) : Call Unit := modify fun w => { w with cache := v }

/-- `list(exec("SELECT state FROM cf_agents_state WHERE id = ?", id).toArray())`: at most one
row, as `id` is the primary key. -/
def select (id : String) : Call (List (Option String)) := fun w => (.ok (w.rows id).toList, w)

/-- `exec("INSERT OR REPLACE INTO cf_agents_state (id, state) VALUES (?, ?)", id, text)`. -/
def upsert (id text : String) : Call Unit :=
  modify fun w => { w with rows := Function.update w.rows id (some (some text)) }

/-- `exec("DELETE FROM cf_agents_state WHERE id = ?", id)`. -/
def delete (id : String) : Call Unit :=
  modify fun w => { w with rows := Function.update w.rows id none }

/-- `ws.send(text)`: delivered, or raised by a socket that cannot carry it. -/
def wsSend (ws : Conn) (text : String) : Call Unit := fun w =>
  if ws ∈ w.broken then (.error ⟨.jsException, "WebSocket send() failed"⟩, w)
  else (.ok (), { w with trace := w.trace ++ [.send ws text] })

/-- Record a hook invocation. User hooks are no-ops here: they run, and change nothing. -/
def emit (e : Effect) : Call Unit := modify fun w => { w with trace := w.trace ++ [e] }

/-- `self.ctx.getWebSockets()`. -/
def getWebSockets : Call (List Conn) := fun w => (.ok w.sockets, w)

/-- `str(self.ctx.id)`. -/
def getCtxId : Call String := fun w => (.ok w.ctxId, w)

/-- `self.ctx.acceptWebSocket(server)` for the server end of a fresh `WebSocketPair`. -/
def acceptWebSocket : Call Conn := fun w =>
  let server : Conn := ⟨w.nextSocket⟩
  (.ok server, { w with sockets := w.sockets ++ [server], nextSocket := w.nextSocket + 1 })

/-- The loop of `_set_state_internal` over `getWebSockets()`, skipping `source_ws`. -/
def broadcast (msg : String) (sourceWs : Option Conn) : List Conn → Call Unit
  | [] => pure ()
  | ws :: rest => do
    if sourceWs = some ws then broadcast msg sourceWs rest
    else
      wsSend ws msg
      broadcast msg sourceWs rest

@[simp] theorem setCache_apply (v : PyVal) (w : World) :
    setCache v w = (.ok (), { w with cache := v }) := rfl
@[simp] theorem select_apply (id : String) (w : World) :
    select id w = (.ok (w.rows id).toList, w) := rfl
@[simp] theorem upsert_apply (id text : String) (w : World) :
    upsert id text w = (.ok (), { w with rows := Function.update w.rows id (some (some text)) }) :=
  rfl
@[simp] theorem delete_apply (id : String) (w : World) :
    delete id w = (.ok (), { w with rows := Function.update w.rows id none }) := rfl
@[simp] theorem emit_apply (e : Effect) (w : World) :
    emit e w = (.ok (), { w with trace := w.trace ++ [e] }) := rfl
@[simp] theorem getWebSockets_apply (w : World) : getWebSockets w = (.ok w.sockets, w) := rfl
@[simp] theorem getCtxId_apply (w : World) : getCtxId w = (.ok w.ctxId, w) := rfl
@[simp] theorem acceptWebSocket_apply (w : World) :
    acceptWebSocket w = (.ok ⟨w.nextSocket⟩,
      { w with sockets := w.sockets ++ [⟨w.nextSocket⟩], nextSocket := w.nextSocket + 1 }) := rfl

theorem wsSend_of_not_mem {ws : Conn} {w : World} (h : ws ∉ w.broken) (text : String) :
    wsSend ws text w = (.ok (), { w with trace := w.trace ++ [.send ws text] }) := by
  simp [wsSend, h]

theorem wsSend_of_mem {ws : Conn} {w : World} (h : ws ∈ w.broken) (text : String) :
    wsSend ws text w = (.error ⟨.jsException, "WebSocket send() failed"⟩, w) := by
  simp [wsSend, h]

/-! ## The fan-out loop -/

/-- The sends of a broadcast that reaches every socket of `targets`. -/
def fanout (msg : String) (sourceWs : Option Conn) (targets : List Conn) : List Effect :=
  (targets.filter fun ws => sourceWs ≠ some ws).map (.send · msg)

/-- **Reliable fan-out.** When no socket the loop sends to is broken, every one of them but
`source_ws` receives the message, in `getWebSockets()` order, and nothing else changes. -/
theorem broadcast_reliable (msg : String) (sourceWs : Option Conn) (targets : List Conn)
    (w : World) (h : ∀ ws ∈ targets, sourceWs ≠ some ws → ws ∉ w.broken) :
    broadcast msg sourceWs targets w =
      (.ok (), { w with trace := w.trace ++ fanout msg sourceWs targets }) := by
  induction targets generalizing w with
  | nil => simp [broadcast, fanout]
  | cons ws rest ih =>
    have hrest : ∀ x ∈ rest, sourceWs ≠ some x → x ∉ w.broken := fun x hx => h x (.tail _ hx)
    by_cases hs : sourceWs = some ws
    · rw [broadcast, if_pos hs, ih w hrest]
      simp [fanout, List.filter_cons, hs]
    · simp only [broadcast, hs, if_false, bind_apply, wsSend_of_not_mem (h ws (.head _) hs)]
      rw [ih { w with trace := w.trace ++ [.send ws msg] } hrest]
      simp [fanout, List.filter_cons, hs]

/-- **The first broken socket stops the loop.** The sockets before it receive the message; it
raises, and no socket after it receives anything. -/
theorem broadcast_broken (msg : String) (sourceWs : Option Conn) (before : List Conn)
    (bad : Conn) (after : List Conn) (w : World)
    (hbefore : ∀ ws ∈ before, sourceWs ≠ some ws → ws ∉ w.broken)
    (hbad : sourceWs ≠ some bad) (hbroken : bad ∈ w.broken) :
    broadcast msg sourceWs (before ++ bad :: after) w =
      (.error ⟨.jsException, "WebSocket send() failed"⟩,
        { w with trace := w.trace ++ fanout msg sourceWs before }) := by
  induction before generalizing w with
  | nil => simp [broadcast, hbad, wsSend_of_mem hbroken, fanout]
  | cons ws rest ih =>
    have hrest : ∀ x ∈ rest, sourceWs ≠ some x → x ∉ w.broken :=
      fun x hx => hbefore x (.tail _ hx)
    by_cases hs : sourceWs = some ws
    · rw [List.cons_append, broadcast, if_pos hs, ih w hrest hbroken]
      simp [fanout, List.filter_cons, hs]
    · rw [List.cons_append, broadcast, if_neg hs]
      simp only [bind_apply, wsSend_of_not_mem (hbefore ws (.head _) hs)]
      rw [ih { w with trace := w.trace ++ [.send ws msg] } hrest hbroken]
      simp [fanout, List.filter_cons, hs]

end PyAgents
