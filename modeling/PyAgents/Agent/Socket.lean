import PyAgents.Python.Builtins
import PyAgents.Agent.State
import PyAgents.Agent.Kebab

/-!
# The socket-facing handlers

`Agent.fetch`, `Agent.webSocketMessage`, `Agent._handle_rpc` with `_get_callable_methods`, and
the two lifecycle callbacks. These are the entry points the runtime calls; everything the agent
does to the outside world goes through one of them, or through `set_state` from a method.

`webSocketMessage` routes a frame by its decoded `type`: `cf_agent_state` goes to the write path
with the frame's sender as `source_ws`, `rpc` to the dispatcher, everything else to
`on_message`. Only `JSONDecodeError` is caught around `json.loads`, and the `type` is read with
`parsed.get`, which only a dict has.

RPC dispatch checks the method name against the `@callable` class attributes, then looks the
name up on the instance and calls what it finds with the request's `args` spread positionally.
Membership in the dict of callables hashes the name, so an unhashable name raises before any
reply is sent; everything after the membership test runs inside `try`.
-/

namespace PyAgents

open Call

/-- An HTTP request, as `fetch` reads it: the `Upgrade` header, if any. -/
structure Request where
  upgrade : Option String

/-- `fetch`'s answer. -/
inductive Response where
  /-- Status 101, handing the client end of the pair whose server end is `server`. -/
  | webSocket (server : Conn)
  /-- A JSON body, `Content-Type: application/json`. -/
  | json (body : String)

/-- `upgrade and upgrade.lower() == "websocket"`. -/
def Request.isWebSocket (r : Request) : Bool :=
  match r.upgrade with
  | some u => pyLower u == "websocket"
  | none => false

namespace Attr

/-- The attribute carries `_agent_callable = True`. -/
def marked : Attr → Bool
  | .function marked _ => marked
  | .value _ => false

end Attr

variable (J : JsonCodec) (A : AgentClass)

/-- `dir(self)`: the names of the instance's and the class's attributes. -/
def AgentClass.dir : List String := (A.instanceAttrs ++ A.classAttrs).map Prod.fst

/-- `getattr(self, name)`: the instance's own attribute first, then the class's. -/
def AgentClass.getattr (name : String) : Option Attr :=
  (A.instanceAttrs.lookup name).or (A.classAttrs.lookup name)

/-- `_get_callable_methods()`: every name of `dir(self)` not starting with `_` whose class
attribute is marked `@callable`. -/
def getCallableMethods : List String :=
  A.dir.filter fun name =>
    !pyStartsWith name "_" && ((A.classAttrs.lookup name).map Attr.marked).getD false

/-- `method_name in callables`, with the hash the dict lookup computes first. -/
def inCallables (methodName : PyVal) : Except PyExc Bool :=
  if methodName.hashable then
    .ok (match methodName with
      | .str name => getCallableMethods A |>.contains name
      | _ => false)
  else .error methodName.unhashableError

/-- The positional arguments of `method(*args)`, iterating `args`; `funcStr` names `method` in
the error, as CPython's `_PyObject_FunctionStr` prints it. -/
def starArgs (funcStr : String) : PyVal → Except PyExc (List PyVal)
  | .list xs | .set xs => .ok xs
  | .dict kvs => .ok (kvs.map fun kv => .str kv.1)
  | .str s => .ok (s.toList.map fun c => .str c.toString)
  | .bytes data => .ok (data.map fun b => .int b.toNat)
  | v => .error ⟨.typeError,
      funcStr ++ " argument after * must be an iterable, not " ++ v.typeName⟩

/-- How `_PyObject_FunctionStr` prints the attribute `name` the call is made on: a function as
`module.qualname()`, taken to be defined in the class body under its name
(`entry.CounterAgent.increment()`), and any other value as `str(v)`. -/
def Attr.funcStr (name : String) : Attr → String
  | .function _ _ => A.module ++ "." ++ A.name ++ "." ++ name ++ "()"
  | .value v => v.pyStr

/-- `method(*args)` for the attribute `getattr(self, name)` found. -/
def callAttr (name : String) (attr : Attr) (args : PyVal) : Call PyVal := do
  let positional ← lift (starArgs (attr.funcStr A name) args)
  match attr with
  | .function _ body => (body positional).run J A
  | .value v => throw ⟨.typeError, "'" ++ v.typeName ++ "' object is not callable"⟩

/-- `ws.send(json.dumps(msg))`. -/
def sendJson (ws : Conn) (msg : PyVal) : Call Unit := do
  wsSend ws (← lift (J.dumps msg))

variable {J} in
/-- A message `json.dumps` writes goes out on a socket whose `send` works. -/
theorem sendJson_of_dumps {msg : PyVal} (hm : J.dumps msg = .ok (J.text msg)) {ws : Conn}
    {w : World} (hb : ws ∉ w.broken) :
    sendJson J ws msg w = (.ok (), { w with trace := w.trace ++ [.send ws (J.text msg)] }) := by
  simp [sendJson, hm, wsSend_of_not_mem hb]

variable {J} in
/-- A message `json.loads` could return goes out on a socket whose `send` works. -/
theorem sendJson_of_loaded {msg : PyVal} (hm : J.Loaded msg) {ws : Conn} {w : World}
    (hb : ws ∉ w.broken) :
    sendJson J ws msg w = (.ok (), { w with trace := w.trace ++ [.send ws (J.text msg)] }) :=
  sendJson_of_dumps hm.dumps hb

variable {J} in
/-- A message `json.dumps` refuses raises its error before anything is sent. -/
theorem sendJson_of_dumps_error {msg : PyVal} {e : PyExc} (h : J.dumps msg = .error e) (ws : Conn)
    (w : World) : sendJson J ws msg w = (.error e, w) := by
  simp [sendJson, h]

/-- The failed `rpc` reply. -/
def rpcError (rpcId : PyVal) (error : String) : PyVal :=
  .dict [("type", .str rpc), ("id", rpcId), ("success", .bool false), ("error", .str error)]

/-- The successful `rpc` reply. -/
def rpcResult (rpcId result : PyVal) : PyVal :=
  .dict [("type", .str rpc), ("id", rpcId), ("success", .bool true), ("result", result)]

/-- `_handle_rpc(ws, parsed)`, for a `parsed` that is a dict. -/
def handleRpc (ws : Conn) (parsed : PyVal) : Call Unit := do
  let rpcId ← lift (parsed.get "id")
  let methodName ← lift (parsed.get "method")
  let args ← lift (parsed.getD "args" (.list []))
  if !(← lift (inCallables A methodName)) then
    sendJson J ws (rpcError rpcId ("Method " ++ methodName.pyStr ++ " is not callable"))
  else
    tryCatch
      (do
        let name := methodName.pyStr
        let method ← match A.getattr name with
          | some attr => pure attr
          | none => throw ⟨.attributeError, "'" ++ A.name ++ "' object has no attribute '" ++
              name ++ "'"⟩
        let result ← callAttr J A name method args
        sendJson J ws (rpcResult rpcId result))
      fun e => sendJson J ws (rpcError rpcId e.msg)

/-- The method body `_handle_rpc` runs for the request `kvs`, if any: the method name is a string
that `_get_callable_methods` lists, `getattr(self, name)` finds a function under it, and the
request's `args` spread into its positional arguments. -/
def rpcBody (kvs : List (String × PyVal)) : Option Prog :=
  match (kvs.lookup "method").getD .none with
  | .str name =>
    if name ∈ getCallableMethods A then
      match A.getattr name with
      | some (.function marked body) =>
        match starArgs ((Attr.function marked body).funcStr A name) ((kvs.lookup "args").getD (.list [])) with
        | .ok xs => some (body xs)
        | .error _ => none
      | _ => none
    else none
  | _ => none

/-- The `cf_agent_state_error` message. -/
def stateErrorMessage (error : String) : PyVal :=
  .dict [("type", .str cfAgentStateError), ("error", .str error)]

/-- `webSocketMessage(ws, message)`. -/
def webSocketMessage (ws : Conn) : Frame → Call Unit
  | .binary data => emit (.onMessage ws (.binary data))
  | .text message =>
    match J.loads message with
    | .error e =>
      if e.cls = .jsonDecodeError then emit (.onMessage ws (.text message)) else throw e
    | .ok parsed => do
      let msgType ← lift (parsed.get "type")
      if msgType.isStr cfAgentState then
        let newState ← lift (parsed.get "state")
        tryCatch (setStateInternal J newState (some ws))
          fun e => sendJson J ws (stateErrorMessage e.msg)
      else if msgType.isStr rpc then handleRpc J A ws parsed
      else emit (.onMessage ws (.text message))

/-- `webSocketClose(ws, code, reason, was_clean)`. -/
def webSocketClose (ws : Conn) (code : Int) (reason : String) (wasClean : Bool) : Call Unit :=
  emit (.onClose ws code reason wasClean)

/-- `webSocketError(ws, error)`. -/
def webSocketError (ws : Conn) (error : String) : Call Unit := emit (.onError ws error)

/-- The `cf_agent_identity` message. -/
def identityMessage (name agent : String) : PyVal :=
  .dict [("type", .str cfAgentIdentity), ("name", .str name), ("agent", .str agent)]

/-! ## The messages the agent writes serialise -/

section Messages

variable {J}

theorem loaded_stateErrorMessage (error : String) : J.Loaded (stateErrorMessage error) :=
  ⟨PyVal.isJson_dict (by simp [stateErrorMessage]) (by simp [stateErrorMessage]),
    by simp [stateErrorMessage], by simp [stateErrorMessage]; have := J.maxDepth_ge; omega⟩

theorem loaded_identityMessage (name agent : String) : J.Loaded (identityMessage name agent) :=
  ⟨PyVal.isJson_dict (by simp [identityMessage]) (by simp [identityMessage]),
    by simp [identityMessage], by simp [identityMessage]; have := J.maxDepth_ge; omega⟩

/-- An error reply serialises when its `id` is a value the agent could keep. -/
theorem loaded_rpcError {rpcId : PyVal} (h : J.Fits rpcId) (error : String) :
    J.Loaded (rpcError rpcId error) :=
  ⟨PyVal.isJson_dict (by simp [rpcError]) (by simp [rpcError, h.1]),
    by simp [rpcError, h.2.1], by simp [rpcError]; have := h.2.2; omega⟩

/-- A result reply serialises when its `id` and its result are values the agent could keep. -/
theorem loaded_rpcResult {rpcId result : PyVal} (h : J.Fits rpcId) (hr : J.Fits result) :
    J.Loaded (rpcResult rpcId result) :=
  ⟨PyVal.isJson_dict (by simp [rpcResult]) (by simp [rpcResult, h.1, hr.1]),
    by simp [rpcResult, h.2.1, hr.2.1], by simp [rpcResult]; have := h.2.2; have := hr.2.2; omega⟩

end Messages

/-- `fetch(request)`. -/
def fetch (request : Request) : Call Response :=
  if request.isWebSocket then do
    let server ← acceptWebSocket
    sendJson J server (identityMessage (← getCtxId) (camelToKebab A.name))
    let current ← state J A
    if current ≠ .none then sendJson J server (stateMessage current)
    emit (.onConnect server)
    return .webSocket server
  else do
    let agent := camelToKebab A.name
    let current ← state J A
    return .json (← lift (J.dumps (.dict [("agent", .str agent), ("state", current)])))

end PyAgents
