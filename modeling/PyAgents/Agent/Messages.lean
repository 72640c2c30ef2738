import PyAgents.Agent.Durability

/-!
# Inbound frames and RPC replies

`webSocketMessage` case by case, from the decoded frame, and what `_handle_rpc` sends back.

A text frame is decoded first. `JSONDecodeError` sends the frame to `on_message`; any other
exception of `json.loads` leaves the handler. A decoded value is then asked for its `type` with
`parsed.get`, which only a dict has: for every other JSON value (a number, a string, an array,
`null`, a boolean) the `AttributeError` leaves the handler, and `on_message` never sees the
frame (`webSocketMessage_not_object`).

For an `rpc` object, the method name is looked up in the dict of callables before the `try`: an
array or an object as name is unhashable, and the `TypeError` leaves the handler before any reply
(`handleRpc_unhashable`).

For a state push, the fan-out loop of `_set_state_internal` runs inside the handler's `try`. A
socket whose `send` raises ends the loop: the sockets after it get nothing, `on_state_changed` is
skipped, and the pusher is told of an error although both rows were already written
(`push_broken`).

## Main results

* `webSocketMessage_not_object` — a JSON frame that is not an object raises
* `handleRpc_unhashable` — an unhashable method name raises before any reply
* `push_broken` — a broken socket cuts the state broadcast short
-/

namespace PyAgents

open Call

variable {J : JsonCodec} {A : AgentClass}

/-! ## Routing -/

theorem webSocketMessage_undecodable {t : String} {e : PyExc} (h : J.loads t = .error e)
    (he : e.cls = .jsonDecodeError) (ws : Conn) :
    webSocketMessage J A ws (.text t) = emit (.onMessage ws (.text t)) := by
  simp [webSocketMessage, h, he]

theorem webSocketMessage_loads_raise {t : String} {e : PyExc} (h : J.loads t = .error e)
    (he : e.cls ≠ .jsonDecodeError) (ws : Conn) : webSocketMessage J A ws (.text t) = throw e := by
  simp [webSocketMessage, h, he]

/-- A decoded object is routed by its `type`: a state push, an RPC, or anything else. -/
theorem webSocketMessage_object {t : String} {kvs : List (String × PyVal)}
    (h : J.loads t = .ok (.dict kvs)) (ws : Conn) :
    webSocketMessage J A ws (.text t) =
      if ((kvs.lookup "type").getD .none).isStr cfAgentState then
        tryCatch (setStateInternal J ((kvs.lookup "state").getD .none) (some ws))
          fun e => sendJson J ws (stateErrorMessage e.msg)
      else if ((kvs.lookup "type").getD .none).isStr rpc then handleRpc J A ws (.dict kvs)
      else emit (.onMessage ws (.text t)) := by
  simp [webSocketMessage, h, PyVal.get, PyVal.getD]

/-- **A JSON frame that is not an object raises.** `parsed.get("type")` on a number, a string,
an array, `null` or a boolean raises `AttributeError`, which leaves `webSocketMessage` with the
world untouched: nothing is sent, and `on_message` is not called. -/
theorem webSocketMessage_not_object {t : String} {parsed : PyVal} (h : J.loads t = .ok parsed)
    (hp : ∀ kvs, parsed ≠ .dict kvs) (ws : Conn) (w : World) :
    webSocketMessage J A ws (.text t) w =
      (.error ⟨.attributeError, s!"'{parsed.typeName}' object has no attribute 'get'"⟩, w) := by
  cases parsed with
  | dict kvs => exact absurd rfl (hp kvs)
  | _ => simp [webSocketMessage, h, PyVal.get, PyVal.getD]

/-- A JSON number is the frame `42`. -/
theorem webSocketMessage_number (w : World) :
    webSocketMessage refCodec counterAgent ⟨0⟩ (.text "42") w =
      (.error ⟨.attributeError, "'int' object has no attribute 'get'"⟩, w) :=
  webSocketMessage_not_object (show refCodec.loads "42" = .ok (.int 42) from rfl) (fun _ => by simp) ⟨0⟩ w

/-! ## RPC -/

/-- **An unhashable method name raises before any reply.** `method_name not in callables`
hashes the name; for an array or an object that raises `TypeError` outside the `try`. -/
theorem handleRpc_unhashable {kvs : List (String × PyVal)}
    (hm : ((kvs.lookup "method").getD .none).hashable = false) (ws : Conn) (w : World) :
    handleRpc J A ws (.dict kvs) w = (.error ((kvs.lookup "method").getD .none).unhashableError, w) := by
  simp [handleRpc, PyVal.get, PyVal.getD, inCallables, hm]

/-- **What `_handle_rpc` does, in three cases.** It raises before the `try` (an unhashable method
name); or it sends one error reply (a name that is not callable, or a call that fails before the
body runs); or it runs the body `rpcBody` finds inside the `try`, and replies with its result or
with its error. -/
theorem handleRpc_cases (ws : Conn) (kvs : List (String × PyVal)) :
    (((kvs.lookup "method").getD .none).hashable = false ∧
        handleRpc J A ws (.dict kvs) = throw ((kvs.lookup "method").getD .none).unhashableError) ∨
      (∃ error, handleRpc J A ws (.dict kvs) =
        sendJson J ws (rpcError ((kvs.lookup "id").getD .none) error)) ∨
      ∃ p, rpcBody A kvs = some p ∧ handleRpc J A ws (.dict kvs) = tryCatch (do
          let result ← p.run J A
          sendJson J ws (rpcResult ((kvs.lookup "id").getD .none) result))
        fun e => sendJson J ws (rpcError ((kvs.lookup "id").getD .none) e.msg) := by
  by_cases hh : ((kvs.lookup "method").getD .none).hashable
  swap
  · have hh := Bool.eq_false_iff.mpr hh
    exact .inl ⟨hh, funext (handleRpc_unhashable hh ws)⟩
  -- a call that raises before the body runs is answered by the `except`
  have hfail : ∀ {α} (x : Call α) (f : α → Call Unit) (e : PyExc) (h : PyExc → Call Unit),
      (∀ w, x w = (.error e, w)) → tryCatch (x >>= f) h = h e := fun x f e h hx =>
    funext fun w => tryCatch_of_error (bind_of_error (hx w) f) h
  have hdef : handleRpc J A ws (.dict kvs) = handleRpc J A ws (.dict kvs) := rfl
  nth_rewrite 2 [handleRpc] at hdef
  simp only [PyVal.get, PyVal.getD, inCallables, if_pos hh, lift_ok, Call.pure_bind] at hdef
  rw [hdef, rpcBody]
  generalize (kvs.lookup "method").getD .none = m at *
  cases m with
  | str name =>
    by_cases hc : name ∈ getCallableMethods A
    · simp only [hc, List.elem_eq_true_of_mem, Bool.not_true, Bool.false_eq_true, if_false, PyVal.pyStr]
      cases hg : A.getattr name with
      | none => exact .inr (.inl ⟨_, hfail _ _ _ _ fun w => rfl⟩)
      | some attr =>
        cases attr with
        | function marked body =>
          simp only [callAttr]
          cases hs : starArgs ((Attr.function marked body).funcStr A name)
              ((kvs.lookup "args").getD (.list [])) with
          | error e => exact .inr (.inl ⟨_, hfail _ _ e _ fun w => by simp [hs]⟩)
          | ok xs => exact .inr (.inr ⟨body xs, rfl, by simp [hs]⟩)
        | value v =>
          simp only [callAttr]
          cases hs : starArgs ((Attr.value v).funcStr A name) ((kvs.lookup "args").getD (.list [])) with
          | error e => exact .inr (.inl ⟨_, hfail _ _ e _ fun w => by simp [hs]⟩)
          | ok xs => exact .inr (.inl ⟨_, hfail _ _ ⟨.typeError, "'" ++ v.typeName ++ "' object is not callable"⟩ _
              fun w => by simp [hs]⟩)
    · exact .inr (.inl ⟨_, if_pos (by simp [hc, List.elem_eq_mem])⟩)
  | _ => exact .inr (.inl ⟨_, if_pos rfl⟩)

/-- A callable method that `getattr` finds, called with the positional arguments the request
spreads, is the body `rpcBody` finds. -/
theorem rpcBody_eq {kvs : List (String × PyVal)} {name : String}
    (hm : (kvs.lookup "method").getD .none = .str name) (hc : name ∈ getCallableMethods A)
    {marked : Bool} {body : List PyVal → Prog}
    (hattr : A.getattr name = some (.function marked body)) {xs : List PyVal}
    (hargs : starArgs ((Attr.function marked body).funcStr A name)
      ((kvs.lookup "args").getD (.list [])) = .ok xs) :
    rpcBody A kvs = some (body xs) := by
  simp [rpcBody, hm, hc, hattr, hargs]

/-- The body `rpcBody` finds is a function of the class, called with the positional arguments the
request spreads. -/
theorem rpcBody_eq_some {kvs : List (String × PyVal)} {p : Prog} (h : rpcBody A kvs = some p) :
    ∃ name marked body xs, A.getattr name = some (.function marked body) ∧
      starArgs ((Attr.function marked body).funcStr A name) ((kvs.lookup "args").getD (.list [])) =
        .ok xs ∧ p = body xs := by
  unfold rpcBody at h
  split at h
  · next name _ =>
    split_ifs at h
    split at h
    · next marked body hattr =>
      split at h
      · next xs hxs => exact ⟨name, marked, body, xs, hattr, hxs, (Option.some.inj h).symm⟩
      · cases h
    · cases h
  · cases h

/-- The positional arguments spread from a JSON value are JSON values. -/
theorem isJson_of_starArgs {funcStr : String} {args : PyVal} {xs : List PyVal} (hargs : args.isJson)
    (h : starArgs funcStr args = .ok xs) : ∀ a ∈ xs, a.isJson := by
  cases args with
  | list ys =>
    simp only [starArgs, Except.ok.injEq] at h
    exact h ▸ PyVal.isJson_of_mem_isJsonList hargs
  | dict kvs =>
    simp only [starArgs, Except.ok.injEq] at h
    subst h
    intro a ha
    obtain ⟨_, -, rfl⟩ := List.mem_map.mp ha
    rfl
  | str s =>
    simp only [starArgs, Except.ok.injEq] at h
    subst h
    intro a ha
    obtain ⟨_, -, rfl⟩ := List.mem_map.mp ha
    rfl
  | set _ | bytes _ => simp [PyVal.isJson] at hargs
  | _ => simp [starArgs] at h

/-- The frame `{"type":"rpc","id":"1","method":[],"args":[]}` gets no reply: the handler raises
`TypeError: unhashable type: 'list'`, with nothing sent. -/
theorem rpc_list_method_unanswered (w : World) :
    webSocketMessage refCodec counterAgent ⟨0⟩
        (.text "\x7b\"type\":\"rpc\",\"id\":\"1\",\"method\":[],\"args\":[]\x7d") w =
      (.error ⟨.typeError, "unhashable type: 'list'"⟩, w) := by
  have h : refCodec.loads "\x7b\"type\":\"rpc\",\"id\":\"1\",\"method\":[],\"args\":[]\x7d" =
      .ok (.dict [("type", .str "rpc"), ("id", .str "1"), ("method", .list []), ("args", .list [])]) :=
    rfl
  rw [webSocketMessage_object h, if_neg (by decide), if_pos (by decide),
    @handleRpc_unhashable refCodec counterAgent
      [("type", .str "rpc"), ("id", .str "1"), ("method", .list []), ("args", .list [])] rfl]
  rfl

/-! ## A state push over a broken socket -/

/-- `_set_state_internal` when a socket it sends to is broken: both rows and the cache are
written, the sockets before the broken one receive the message, and the `send` error leaves the
call before `on_state_changed`. -/
theorem setStateInternal_broken {v : PyVal} (hv : J.Fits v) {sourceWs : Option Conn}
    {w : World} {before after : List Conn} {bad : Conn} (hsockets : w.sockets = before ++ bad :: after)
    (hbefore : ∀ ws ∈ before, sourceWs ≠ some ws → ws ∉ w.broken) (hbad : sourceWs ≠ some bad)
    (hbroken : bad ∈ w.broken) :
    setStateInternal J v sourceWs w = (.error ⟨.jsException, "WebSocket send() failed"⟩,
      { w.write J v with trace := w.trace ++ fanout (J.text (stateMessage v)) sourceWs before }) := by
  have hb := broadcast_broken (J.text (stateMessage v)) sourceWs before bad after (w.write J v)
    hbefore hbad hbroken
  rw [← hsockets] at hb
  simp only [World.write] at hb
  simp [setStateInternal, hv.loaded.dumps, dumps_true, hv.stateMessage_loaded.dumps, hb, World.write]

/-- **A broken socket cuts the state broadcast short.** A push of `v` from `c`, when the
registered sockets are `before ++ bad :: after` and `bad` is the first one other than `c` whose
`send` raises: `v` is cached and stored, the state message reaches the sockets of `before` other
than `c` and no later one, `on_state_changed` does not run, and `c` is sent a
`cf_agent_state_error` carrying the `send` error. -/
theorem push_broken {t : String} {v : PyVal} (h : J.loads t = .ok (stateMessage v)) {c bad : Conn}
    {before after : List Conn} {w : World} (hsockets : w.sockets = before ++ bad :: after)
    (hbefore : ∀ ws ∈ before, ws ≠ c → ws ∉ w.broken) (hbad : bad ≠ c) (hbroken : bad ∈ w.broken)
    (hc : c ∉ w.broken) :
    webSocketMessage J A c (.text t) w =
      (.ok (), { w.write J v with
        trace := w.trace ++ fanout (J.text (stateMessage v)) (some c) before ++
          [.send c (J.text (stateErrorMessage "WebSocket send() failed"))] }) := by
  have hset := @setStateInternal_broken J v (fits_of_push h) (some c) w before after bad hsockets
    (fun ws hws hne => hbefore ws hws
    (fun hwc => hne (hwc ▸ rfl))) (fun hb => hbad (Option.some_injective _ hb).symm) hbroken
  rw [webSocketMessage_push A h, tryCatch_apply, hset]
  simp [sendJson, (loaded_stateErrorMessage _).dumps, wsSend, hc, World.write]

/-- Three sockets, the middle one broken, and a push from the first. -/
theorem push_broken_middle :
    refCodec.loads "\x7b\"type\":\"cf_agent_state\",\"state\":7\x7d" = .ok (stateMessage (.int 7)) ∧
      ([⟨0⟩, ⟨1⟩, ⟨2⟩] : List Conn) = [⟨0⟩] ++ ⟨1⟩ :: [⟨2⟩] ∧ (∀ ws ∈ [(⟨0⟩ : Conn)], ws ≠ ⟨0⟩ → ws ∉ [⟨1⟩]) ∧
      (⟨1⟩ : Conn) ≠ ⟨0⟩ ∧ (⟨1⟩ : Conn) ∈ [⟨1⟩] ∧ (⟨0⟩ : Conn) ∉ [⟨1⟩] ∧
      webSocketMessage refCodec counterAgent ⟨0⟩ (.text "\x7b\"type\":\"cf_agent_state\",\"state\":7\x7d")
          { World.init "counter" [⟨1⟩] with sockets := [⟨0⟩, ⟨1⟩, ⟨2⟩], nextSocket := 3 } =
        (.ok (), { ({ World.init "counter" [⟨1⟩] with sockets := [⟨0⟩, ⟨1⟩, ⟨2⟩], nextSocket := 3 }
            : World).write refCodec (.int 7) with
          trace := [] ++ fanout (refCodec.text (stateMessage (.int 7))) (some ⟨0⟩) [⟨0⟩] ++
            [.send ⟨0⟩ (refCodec.text (stateErrorMessage "WebSocket send() failed"))] }) :=
  ⟨rfl, rfl, by decide, by decide, by decide, by decide,
    push_broken (show refCodec.loads "\x7b\"type\":\"cf_agent_state\",\"state\":7\x7d" =
      .ok (stateMessage (.int 7)) from rfl) rfl (by decide)
      (by decide) (by decide) (by decide)⟩

/-- The same push: the third socket receives nothing, `on_state_changed` does not run, and the
pusher is sent a `cf_agent_state_error`. -/
theorem push_broken_middle_trace :
    (webSocketMessage refCodec counterAgent ⟨0⟩ (.text "\x7b\"type\":\"cf_agent_state\",\"state\":7\x7d")
        { World.init "counter" [⟨1⟩] with sockets := [⟨0⟩, ⟨1⟩, ⟨2⟩], nextSocket := 3 }).2.trace =
      [.send ⟨0⟩ (refCodec.text (stateErrorMessage "WebSocket send() failed"))] := by
  rfl

end PyAgents
