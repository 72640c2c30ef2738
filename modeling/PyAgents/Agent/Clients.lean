import PyAgents.Agent.Upgrade

/-!
# Clients agree with the agent

The agent and its clients as one system. Each client keeps a last known state: the `state` of
the last `cf_agent_state` message it received, or the value it pushed itself, `None` before
either. An event is an upgrade, a plain `fetch`, a frame from a registered client, a close, or a
restart; `Sys.step` runs the agent's handler for it and lets every client see the messages the
handler sent.

The invariant, `Agreement`, says that every registered client's last known state is what a read
of `state` returns. It rests on three facts of the code: every write goes to every socket but the
sender, and the sender already holds the value it pushed; an upgrade sends the new socket the
current state unless it is `None`; and the lazy default is persisted (and broadcast) by the first
read, which happens in the first upgrade, before any client can hold a state.

It also rests on every write being one `json.dumps` accepts. `_set_state_internal` caches a value
before it serialises it, so a refused write, of an int of more than 4300 digits say, changes what
a read returns and tells no client. A client's push always fits, since `json.loads` decoded it.
An RPC runs an arbitrary method body, and what the body writes depends on the state it reads; so
the law is stated for the runs in which every RPC's body, evaluated from the state it finds,
stores only values that fit (`Sys.storesFit`, a check computed along the run). The handlers are
followed with Hoare triples (`Call.Triple`), and the bodies with `Prog.run_eval`, read by read
and write by write.

## Main results

* `midway_handleRpc` — an RPC whose body's writes fit keeps the agreement
* `Sys.Inv.step`, `Sys.Inv.run` — every event, and so every run whose writes fit, keeps the
  agreement
* `webSocketMessage_received` — a push reaches every other registered socket once, and not its
  sender
* `clients_agree` — after any run whose writes fit, every registered client holds what a read of
  `state` returns
-/

namespace PyAgents

open Call

/-! ## What a client knows -/

/-- The state a client reads from a message: `msg.state`, when `msg.type` is
`cf_agent_state`. -/
def stateOf (msg : PyVal) : Option PyVal :=
  match msg.get "type", msg.get "state" with
  | .ok ty, .ok v => if ty.isStr cfAgentState then some v else none
  | _, _ => none

variable (J : JsonCodec) (A : AgentClass)

/-- The state a client takes from a text it receives, or sends: that of a state message. -/
def received (text : String) : Option PyVal :=
  match J.loads text with
  | .ok msg => stateOf msg
  | .error _ => none

/-- The client and the state an effect hands it: a state message delivered to it. -/
def Effect.notice : Effect → Option (Conn × PyVal)
  | .send ws text => (received J text).map (ws, ·)
  | _ => none

/-- Every client's last known state after the effects `es`, from `view` before them. -/
def observe (view : Conn → PyVal) (es : List Effect) : Conn → PyVal :=
  es.foldl (fun view e => match Effect.notice J e with
    | some (ws, v) => Function.update view ws v
    | none => view) view

/-- What can happen to an agent and its clients. -/
inductive Event where
  /-- A client opens a WebSocket: `fetch` with `Upgrade: websocket`. -/
  | upgrade
  /-- A plain HTTP request to `fetch`. -/
  | fetch
  /-- A registered client sends a frame. -/
  | message (ws : Conn) (frame : Frame)
  /-- A registered client's socket closes: the runtime drops it from `getWebSockets()`, then
  calls `webSocketClose`. -/
  | close (ws : Conn) (code : Int) (reason : String) (wasClean : Bool)
  /-- Eviction, and a fresh instance for the next event. -/
  | restart

/-- The agent's world, and every client's last known state. -/
structure Sys where
  world : World
  view : Conn → PyVal

/-- Nothing happened yet: no client knows a state. -/
def Sys.init (ctxId : String) : Sys := ⟨World.init ctxId, fun _ => .none⟩

/-- Run a handler, and let the clients, whose views were `view`, see what it sent. -/
def Sys.handle {α} (s : Sys) (view : Conn → PyVal) (c : Call α) : Sys :=
  ⟨(c s.world).2, observe J view ((c s.world).2.trace.drop s.world.trace.length)⟩

/-- The views after `ws` sends `frame`: a client that pushes a state holds it. -/
def pushed (view : Conn → PyVal) (ws : Conn) : Frame → Conn → PyVal
  | .text t =>
    match received J t with
    | some v => Function.update view ws v
    | none => view
  | .binary _ => view

/-- One event. A frame or a close from a socket that is not registered changes nothing. -/
def Sys.step (s : Sys) : Event → Sys
  | .upgrade =>
    s.handle J (Function.update s.view ⟨s.world.nextSocket⟩ .none) (fetch J A ⟨some "websocket"⟩)
  | .fetch => s.handle J s.view (fetch J A ⟨none⟩)
  | .message ws frame =>
    if ws ∈ s.world.sockets then s.handle J (pushed J s.view ws frame) (webSocketMessage J A ws frame)
    else s
  | .close ws code reason wasClean =>
    if ws ∈ s.world.sockets then
      ⟨(webSocketClose ws code reason wasClean { s.world with sockets := s.world.sockets.erase ws }).2,
        s.view⟩
    else s
  | .restart => ⟨s.world.restart, s.view⟩

/-- A run of events. -/
def Sys.run : List Event → Sys → Sys
  | [], s => s
  | e :: es, s => Sys.run es (s.step J A e)

/-- The event asks only for writes the agent can keep: a frame that decodes to an RPC calls a
method whose body, evaluated from the state a read returns, stores only values that fit. Every
other event writes only what `json.loads` decoded, or the default. -/
def Event.storesFit (w : World) : Event → Bool
  | .message _ (.text t) =>
    match J.loads t, (state J A w).1 with
    | .ok (.dict kvs), .ok st =>
      !((kvs.lookup "type").getD .none).isStr rpc || (rpcBody A kvs).all (·.storesFit J st)
    | _, _ => true
  | _ => true

/-- Every event of the run, from the system it finds, asks only for writes that fit. -/
def Sys.storesFit : List Event → Sys → Bool
  | [], _ => true
  | e :: es, s => e.storesFit J A s.world && Sys.storesFit es (s.step J A e)

/-! ## Observing -/

variable {J A}

@[simp] theorem observe_nil (view : Conn → PyVal) : observe J view [] = view := rfl

theorem observe_cons (view : Conn → PyVal) (e : Effect) (es : List Effect) :
    observe J view (e :: es) = observe J (match Effect.notice J e with
      | some (ws, v) => Function.update view ws v
      | none => view) es := rfl

theorem observe_append (view : Conn → PyVal) (es es' : List Effect) :
    observe J view (es ++ es') = observe J (observe J view es) es' := List.foldl_append _ _ _ _

/-- Effects that hand no client a state change no view. -/
theorem observe_quiet {es : List Effect} (h : ∀ e ∈ es, Effect.notice J e = none)
    (view : Conn → PyVal) : observe J view es = view := by
  induction es generalizing view with
  | nil => rfl
  | cons e es ih =>
    simp only [observe, List.foldl_cons, h e (.head _)]
    exact ih (fun e he => h e (.tail _ he)) view

theorem observe_cons_notice {e : Effect} {ws : Conn} {v : PyVal} (h : Effect.notice J e = some (ws, v))
    (view : Conn → PyVal) (es : List Effect) :
    observe J view (e :: es) = observe J (Function.update view ws v) es := by
  simp [observe, h]

/-- A broadcast of a state message hands its state to every target but the source. -/
theorem observe_fanout {t : String} {v : PyVal} (h : received J t = some v)
    (sourceWs : Option Conn) (targets : List Conn) (view : Conn → PyVal) (ws : Conn) :
    observe J view (fanout t sourceWs targets) ws =
      if ws ∈ targets ∧ sourceWs ≠ some ws then v else view ws := by
  induction targets generalizing view with
  | nil => simp [fanout]
  | cons x xs ih =>
    by_cases hx : sourceWs = some x
    · have hfx : fanout t sourceWs (x :: xs) = fanout t sourceWs xs := by simp [fanout, hx]
      rw [hfx, ih]
      by_cases hw : ws = x
      · subst hw; simp [hx]
      · simp [hw]
    · have hfx : fanout t sourceWs (x :: xs) = .send x t :: fanout t sourceWs xs := by
        simp [fanout, hx]
      rw [hfx, @observe_cons_notice J (.send x t) x v (by simp [Effect.notice, h]), ih]
      by_cases hw : ws = x
      · subst hw; simp [hx]
      · simp [hw]

theorem stateOf_stateMessage (v : PyVal) : stateOf (stateMessage v) = some v := by
  simp [stateOf, stateMessage, PyVal.get, PyVal.getD, PyVal.isStr, List.lookup_cons]

theorem received_stateMessage {v : PyVal} (hv : J.Fits v) :
    received J (J.text (stateMessage v)) = some v := by
  simp [received, hv.stateMessage_loaded.loads_text, stateOf_stateMessage]

/-- A JSON message that is not a state message hands no client a state. -/
theorem notice_quiet {msg : PyVal} (hm : J.loads (J.text msg) = .ok msg) (hs : stateOf msg = none)
    (ws : Conn) : Effect.notice J (.send ws (J.text msg)) = none := by
  simp [Effect.notice, received, hm, hs]

/-! ## Hoare triples over calls -/

namespace Call

/-- `c`, run from a world satisfying `P`, ends in one satisfying `P`, and every value it returns
satisfies `Q`. -/
def Triple {α} (P : World → Prop) (c : Call α) (Q : α → Prop) : Prop :=
  ∀ w, P w → P (c w).2 ∧ ∀ a, (c w).1 = .ok a → Q a

variable {P : World → Prop}

theorem Triple.pure {α} {Q : α → Prop} {a : α} (h : Q a) : Triple P (Pure.pure a) Q :=
  fun _ hw => ⟨hw, fun _ ha => by cases ha; exact h⟩

theorem Triple.throw {α} {Q : α → Prop} (e : PyExc) : Triple P (Call.throw e) Q :=
  fun _ hw => ⟨hw, fun _ ha => by cases ha⟩

theorem Triple.lift {α} {Q : α → Prop} {x : Except PyExc α} (h : ∀ a, x = .ok a → Q a) :
    Triple P (Call.lift x) Q := by
  cases x with
  | error e => exact .throw e
  | ok a => exact .pure (h a rfl)

theorem Triple.bind {α β} {x : Call α} {f : α → Call β} {Q : α → Prop} {R : β → Prop}
    (hx : Triple P x Q) (hf : ∀ a, Q a → Triple P (f a) R) : Triple P (x >>= f) R := by
  intro w hw
  obtain ⟨hP, hQ⟩ := hx w hw
  simp only [bind_apply]
  rcases hxw : x w with ⟨_ | a, w'⟩
  · rw [hxw] at hP
    exact ⟨hP, fun _ h => by cases h⟩
  · rw [hxw] at hP hQ
    exact hf a (hQ a rfl) w' hP

theorem Triple.tryCatch {α} {x : Call α} {h : PyExc → Call α} {Q : α → Prop}
    (hx : Triple P x Q) (hh : ∀ e, Triple P (h e) Q) : Triple P (Call.tryCatch x h) Q := by
  intro w hw
  obtain ⟨hP, hQ⟩ := hx w hw
  simp only [tryCatch_apply]
  rcases hxw : x w with ⟨_ | a, w'⟩
  · rw [hxw] at hP
    exact hh _ w' hP
  · rw [hxw] at hP hQ
    exact ⟨hP, hQ⟩

theorem Triple.ite {α} {c : Prop} [Decidable c] {x y : Call α} {Q : α → Prop}
    (hx : Triple P x Q) (hy : Triple P y Q) : Triple P (if c then x else y) Q := by
  split <;> assumption

/-- `try: f(x) except: h`, started from one world `w`: `x` ends within `P` and returns only values
satisfying `Q`, and from there `f` and the handler keep `P`. -/
theorem Triple.tryCatch_bind_at {α β} {x : Call α} {f : α → Call β} {h : PyExc → Call β}
    {Q : α → Prop} {R : β → Prop} {w : World} (hx : P (x w).2 ∧ ∀ a, (x w).1 = .ok a → Q a)
    (hf : ∀ a, Q a → Triple P (f a) R) (hh : ∀ e, Triple P (h e) R) :
    P (Call.tryCatch (x >>= f) h w).2 := by
  rcases hxw : x w with ⟨_ | a, w'⟩ <;> rw [hxw] at hx
  · rw [tryCatch_of_error (bind_of_error hxw f)]
    exact (hh _ w' hx.1).1
  · have hrun : Call.tryCatch (x >>= f) h w = Call.tryCatch (f a) h w' := by
      simp only [tryCatch_apply, bind_apply, hxw]
    rw [hrun]
    exact (Triple.tryCatch (hf a (hx.2 a rfl)) hh w' hx.1).1

end Call

/-! ## The agreement -/

variable (J A) in
/-- The clients agree with the agent: the world holds the register `last`; a default not yet
persisted has no registered socket waiting for it; and every registered client's view is what a
read returns. -/
structure Agreement (view : Conn → PyVal) (last : Option PyVal) (w : World) : Prop where
  tracks : Tracks J A w last
  resolved : w.rows stateWasChanged = none → A.initialState ≠ .unset → w.sockets = []
  agree : ∀ ws ∈ w.sockets, view ws = last.getD A.defaultState

/-- Effects that hand no client a state keep the agreement. -/
theorem Agreement.append_quiet {view : Conn → PyVal} {es es' : List Effect} {last : Option PyVal}
    {w : World} (h : Agreement J A (observe J view es) last w)
    (hq : ∀ e ∈ es', Effect.notice J e = none) :
    Agreement J A (observe J view (es ++ es')) last { w with trace := w.trace ++ es' } :=
  ⟨frameClosed_tracks A last w _ h.tracks rfl rfl rfl, h.resolved,
    by rw [observe_append, observe_quiet hq]; exact h.agree⟩

variable (J A) in
/-- Partway through an event that began with the trace `t₀` and the views `view`, on the
registry `S` with next socket `N`: the registry is unchanged, and the agreement holds for the
views updated by what was sent since. -/
def Midway (view : Conn → PyVal) (t₀ : List Effect) (S : List Conn) (N : Nat) (w : World) :
    Prop :=
  w.sockets = S ∧ w.nextSocket = N ∧
    ∃ es last, w.trace = t₀ ++ es ∧ Agreement J A (observe J view es) last w

section Midway

variable {view : Conn → PyVal} {t₀ : List Effect} {S : List Conn} {N : Nat}

theorem triple_quiet {es' : List Effect} (hq : ∀ e ∈ es', Effect.notice J e = none) {α} {a : α} :
    Triple (Midway J A view t₀ S N) (fun w => (.ok a, { w with trace := w.trace ++ es' }))
      (fun _ => True) := by
  rintro w ⟨hS, hN, es, last, ht, hag⟩
  exact ⟨⟨hS, hN, es ++ es', last, by simp [ht], hag.append_quiet hq⟩, fun _ _ => trivial⟩

theorem triple_emit {e : Effect} (he : Effect.notice J e = none) :
    Triple (Midway J A view t₀ S N) (emit e) (fun _ => True) :=
  triple_quiet (by simpa using he)

/-- Sending a message that is not a state message keeps the agreement; so does failing to
serialise it. -/
theorem triple_sendJson {msg : PyVal} (hm : msg.isJson ∨ msg.serializable = false)
    (hs : stateOf msg = none) (ws : Conn) :
    Triple (Midway J A view t₀ S N) (sendJson J ws msg) (fun _ => True) := by
  intro w hw
  obtain ⟨_, _, _, _, _, hag⟩ := id hw
  have hd : (J.dumps msg = .ok (J.text msg) ∧ J.loads (J.text msg) = .ok msg) ∨
      ∃ e, J.dumps msg = .error e := hm.elim JsonCodec.dumps_isJson fun h => .inr (J.dumps_unserializable h)
  rcases hd with ⟨hd, hl⟩ | ⟨e, he⟩
  · rw [sendJson_of_dumps hd (by simp [hag.tracks.reliable])]
    exact triple_quiet (by simpa using notice_quiet hl hs ws) w hw
  · rw [sendJson_of_dumps_error he ws w]
    exact ⟨hw, fun _ h => by cases h⟩

/-- A read keeps the agreement. The first read of a default persists it, but only when no socket
is registered. -/
theorem triple_state (hinit : A.initialState = .unset ∨ J.Fits A.initialState) :
    Triple (Midway J A view t₀ S N) (state J A) (fun _ => True) := by
  rintro w ⟨hS, hN, es, last, ht, hag⟩
  obtain ⟨-, htr⟩ := tracks_state A hinit hag.tracks
  refine ⟨?_, fun _ _ => trivial⟩
  by_cases hr : w.cache ≠ .unset ∨ w.rows stateWasChanged ≠ none ∨ A.initialState = .unset
  · obtain ⟨c, hs⟩ := state_of_tracks hag.tracks hr
    rw [hs] at htr ⊢
    exact ⟨hS, hN, es, last, ht, htr, hag.resolved, hag.agree⟩
  · push_neg at hr
    obtain ⟨hc, hm, hi⟩ := hr
    have hnil := hag.resolved hm hi
    rw [state_of_fresh hc hm (hinit.resolve_left hi) hag.tracks.reliable] at htr ⊢
    dsimp only at htr ⊢
    refine ⟨hS, hN, es ++ (fanout (J.text (stateMessage A.initialState)) none w.sockets ++
      [.onStateChanged A.initialState]), last, by simp [ht], htr, fun hm' => ?_, fun ws hws => ?_⟩
    · simp [World.write] at hm'
    · simp [World.write, hnil] at hws

/-- A write of a value the agent can keep keeps the agreement: every registered client is sent
the value, and the world tracks it. -/
theorem midway_setState {v : PyVal} (hv : J.Fits v) {w : World} (hw : Midway J A view t₀ S N w) :
    Midway J A view t₀ S N (setState J v w).2 ∧ Tracks J A (setState J v w).2 (some v) := by
  obtain ⟨hS, hN, es, last, ht, hag⟩ := hw
  have hset := @JsonCodec.Fits.setStateInternal J v hv none w (by simp [hag.tracks.reliable])
  obtain ⟨-, htr⟩ := tracks_setStateInternal A hag.tracks hv none
  rw [setState, hset]
  rw [hset] at htr
  dsimp only at htr ⊢
  refine ⟨⟨hS, hN, es ++ (fanout (J.text (stateMessage v)) none w.sockets ++ [.onStateChanged v]),
    some v, by simp [ht], htr, fun hm => by simp [World.write] at hm, fun ws hws => ?_⟩, htr⟩
  rw [observe_append, observe_append, observe_quiet (by simp [Effect.notice]),
    observe_fanout (received_stateMessage hv)]
  simp [World.write] at hws
  simp [hws]

end Midway

/-! ## RPCs whose bodies' writes fit -/

theorem stateOf_dict (kvs : List (String × PyVal)) :
    stateOf (.dict kvs) = if ((kvs.lookup "type").getD .none).isStr cfAgentState
      then some ((kvs.lookup "state").getD .none) else none := by
  simp [stateOf, PyVal.get, PyVal.getD]

theorem stateOf_rpcError (rpcId : PyVal) (error : String) : stateOf (rpcError rpcId error) = none := by
  simp [stateOf_dict, rpcError, List.lookup_cons, PyVal.isStr, rpc, cfAgentState]

theorem stateOf_rpcResult (rpcId result : PyVal) : stateOf (rpcResult rpcId result) = none := by
  simp [stateOf_dict, rpcResult, List.lookup_cons, PyVal.isStr, rpc, cfAgentState]

theorem isJson_rpcError {rpcId : PyVal} (h : rpcId.isJson) (error : String) :
    (rpcError rpcId error).isJson :=
  PyVal.isJson_dict (by simp) (by simp [h])

theorem isJson_or_rpcResult {rpcId result : PyVal} (h : rpcId.isJson)
    (hr : result.isJson ∨ result.serializable = false) :
    (rpcResult rpcId result).isJson ∨ (rpcResult rpcId result).serializable = false := by
  rcases hr with hr | hr
  · exact .inl (PyVal.isJson_dict (by simp) (by simp [h, hr]))
  · exact .inr (by simp [rpcResult, PyVal.serializable, PyVal.serializableDict, hr])

section Midway

variable {view : Conn → PyVal} {t₀ : List Effect} {S : List Conn} {N : Nat}
  (hinit : A.initialState = .unset ∨ J.Fits A.initialState)
include hinit

/-- A read returns what it returned before, and keeps the agreement. -/
theorem midway_state {st : PyVal} {w : World}
    (h : Midway J A view t₀ S N w ∧ (state J A w).1 = .ok st) :
    (state J A w).1 = .ok st ∧
      Midway J A view t₀ S N (state J A w).2 ∧ (state J A (state J A w).2).1 = .ok st := by
  obtain ⟨hw, hst⟩ := h
  obtain ⟨-, -, _, last, -, hag⟩ := id hw
  obtain ⟨h1, h2⟩ := tracks_state A hinit hag.tracks
  exact ⟨hst, (triple_state hinit w hw).1, (tracks_state A hinit h2).1.trans (h1.symm.trans hst)⟩

/-- **A body whose writes fit keeps the agreement**, read by read and write by write, and returns
a value that `json.dumps` refuses or reads back. -/
theorem midway_run {p : Prog} {st : PyVal} (hp : p.storesFit J st) {w : World}
    (hw : Midway J A view t₀ S N w) (hst : (state J A w).1 = .ok st) :
    Midway J A view t₀ S N (p.run J A w).2 ∧
      ∀ r, (p.run J A w).1 = .ok r → r.isJson ∨ r.serializable = false := by
  have hwrite : ∀ {st v : PyVal} {w : World}, J.Fits v →
      Midway J A view t₀ S N w ∧ (state J A w).1 = .ok st →
      (setState J v w).1 = .ok () ∧
        (Midway J A view t₀ S N (setState J v w).2 ∧ (state J A (setState J v w).2).1 = .ok v) :=
    fun hv h => by
      obtain ⟨-, -, _, _, -, hag⟩ := id h.1
      obtain ⟨hm, htr⟩ := midway_setState hv h.1
      exact ⟨(tracks_setStateInternal A hag.tracks hv none).1, hm, (tracks_state A hinit htr).1⟩
  obtain ⟨h1, h2, -⟩ := Prog.run_eval (midway_state hinit) hwrite hp ⟨hw, hst⟩
  exact ⟨h2, fun r hr => (Prog.storesFit_result hp (h1 ▸ hr)).imp_left (·.1)⟩

/-- **An RPC whose body's writes fit keeps the agreement.** Its replies carry no state, and the
body it runs, from the state `st` a read returns, stores values that fit. -/
theorem midway_handleRpc (ws : Conn) {kvs : List (String × PyVal)} (hp : (PyVal.dict kvs).isJson)
    {st : PyVal} (hfit : (rpcBody A kvs).all (·.storesFit J st)) {w : World}
    (hw : Midway J A view t₀ S N w) (hst : (state J A w).1 = .ok st) :
    Midway J A view t₀ S N (handleRpc J A ws (.dict kvs) w).2 := by
  have hid := PyVal.isJson_of_getD hp PyVal.isJson_none (show (PyVal.dict kvs).get "id" = _ from rfl)
  have herr : ∀ error, Triple (Midway J A view t₀ S N)
      (sendJson J ws (rpcError ((kvs.lookup "id").getD .none) error)) (fun _ => True) :=
    fun _ => triple_sendJson (.inl (isJson_rpcError hid _)) (stateOf_rpcError _ _) ws
  rcases @handleRpc_cases J A ws kvs with ⟨-, h⟩ | ⟨error, h⟩ | ⟨p, hb, h⟩ <;> rw [h]
  · exact hw
  · exact (herr error w hw).1
  · have hpf : p.storesFit J st := by simpa [hb] using hfit
    exact Triple.tryCatch_bind_at (midway_run hinit hpf hw hst)
      (fun r hr => triple_sendJson (isJson_or_rpcResult hid hr) (stateOf_rpcResult _ _) ws)
      fun e => herr e.msg

omit hinit in
/-- What `Event.storesFit` asks of an RPC frame: the body it calls, from the state a read returns,
stores only values that fit. -/
theorem storesFit_rpcBody {ws : Conn} {t : String} {kvs : List (String × PyVal)} {st : PyVal}
    {w : World} (hfit : Event.storesFit J A w (.message ws (.text t)))
    (hl : J.loads t = .ok (.dict kvs)) (hrpc : ((kvs.lookup "type").getD .none).isStr rpc)
    (hst : (state J A w).1 = .ok st) : (rpcBody A kvs).all (·.storesFit J st) := by
  simpa only [Event.storesFit, hl, hst, hrpc, Bool.not_true, Bool.false_or] using hfit

omit hinit in
/-- An RPC frame whose body, from the state a read returns, stores only values that fit asks only
for writes that fit. -/
theorem Event.storesFit_of_rpcBody {ws : Conn} {t : String} {kvs : List (String × PyVal)}
    {st : PyVal} {p : Prog} {w : World} (hl : J.loads t = .ok (.dict kvs))
    (hst : (state J A w).1 = .ok st) (hb : rpcBody A kvs = some p) (hp : p.storesFit J st) :
    Event.storesFit J A w (.message ws (.text t)) := by
  simp [Event.storesFit, hl, hst, hb, hp]

omit hinit in
/-- A state push asks for no write beyond the value `json.loads` decoded. -/
theorem Event.storesFit_push {ws : Conn} {t : String} {v : PyVal} {w : World}
    (hl : J.loads t = .ok (stateMessage v)) : Event.storesFit J A w (.message ws (.text t)) := by
  simp only [Event.storesFit, hl]
  split
  · next hkvs _ =>
    simp only [stateMessage, Except.ok.injEq, PyVal.dict.injEq] at hkvs
    simp [← hkvs, List.lookup_cons, PyVal.isStr, cfAgentState, rpc]
  · rfl

/-- A frame that is not a state push keeps the agreement, whatever it decodes to, when an RPC in it
asks only for writes that fit. -/
theorem midway_webSocketMessage (ws : Conn) {frame : Frame}
    (hnp : ∀ t, frame = .text t → received J t = none) {w : World}
    (hfit : Event.storesFit J A w (.message ws frame)) (hw : Midway J A view t₀ S N w) :
    Midway J A view t₀ S N (webSocketMessage J A ws frame w).2 := by
  cases frame with
  | binary data => exact (triple_emit (by simp [Effect.notice]) w hw).1
  | text t =>
    cases hl : J.loads t with
    | error e =>
      by_cases he : e.cls = .jsonDecodeError
      · rw [webSocketMessage_undecodable hl he]
        exact (triple_emit (by simp [Effect.notice]) w hw).1
      · rw [webSocketMessage_loads_raise hl he]
        exact hw
    | ok parsed =>
      cases parsed with
      | dict kvs =>
        have hr := hnp t rfl
        simp only [received, hl, stateOf_dict] at hr
        rw [webSocketMessage_object hl, if_neg (by simpa using hr)]
        split
        · next hrpc =>
          obtain ⟨-, -, _, last, -, hag⟩ := id hw
          have hst := (tracks_state A hinit hag.tracks).1
          exact midway_handleRpc hinit ws (J.isJson_of_loads hl) (storesFit_rpcBody hfit hl hrpc hst) hw hst
        · exact (triple_emit (by simp [Effect.notice]) w hw).1
      | _ =>
        rw [webSocketMessage_not_object hl (by simp) ws w]
        exact hw

/-- A plain `fetch` reads the state and sends nothing. -/
theorem triple_fetch_plain : Triple (Midway J A view t₀ S N) (fetch J A ⟨none⟩) (fun _ => True) := by
  have hws : (⟨none⟩ : Request).isWebSocket = false := rfl
  unfold fetch
  rw [if_neg (by simp [hws])]
  exact .bind (triple_state hinit) fun _ _ => .bind (.lift fun _ _ => trivial) fun _ _ => .pure trivial

end Midway

/-! ## The system keeps the agreement -/

variable (J A) in
/-- The invariant of the system: the clients agree with the agent, and the registry holds
distinct sockets, each older than the next one `acceptWebSocket` registers. -/
def Sys.Inv (s : Sys) : Prop :=
  (∃ last, Agreement J A s.view last s.world) ∧ s.world.sockets.Nodup ∧
    ∀ ws ∈ s.world.sockets, ws.id < s.world.nextSocket

theorem Sys.inv_init (ctxId : String) : (Sys.init ctxId).Inv J A :=
  ⟨⟨none, tracks_init A ctxId, fun _ _ => rfl, fun _ h => by cases h⟩, .nil, fun _ h => by cases h⟩

/-- A handler that keeps the agreement midway keeps the invariant. -/
theorem Sys.Inv.handle {α} {s : Sys} {view : Conn → PyVal} {c : Call α}
    (hs : s.Inv J A) (hview : ∃ last, Agreement J A view last s.world)
    (hc : ∀ last, Agreement J A view last s.world →
      Midway J A view s.world.trace s.world.sockets s.world.nextSocket (c s.world).2) :
    (s.handle J view c).Inv J A := by
  obtain ⟨last, hag⟩ := hview
  obtain ⟨hS, hN, es, last', ht, hag'⟩ := hc last hag
  refine ⟨⟨last', ?_⟩, ?_, ?_⟩
  · simpa [Sys.handle, ht] using hag'
  · simpa [Sys.handle, hS] using hs.2.1
  · simpa [Sys.handle, hS, hN] using hs.2.2

/-- What a client makes of a text it receives: a state message, decoded. -/
theorem received_eq_some {t : String} {v : PyVal} (h : received J t = some v) :
    ∃ kvs, J.loads t = .ok (.dict kvs) ∧ ((kvs.lookup "type").getD .none).isStr cfAgentState ∧
      (kvs.lookup "state").getD .none = v := by
  unfold received at h
  split at h
  · next msg hl =>
    cases msg with
    | dict kvs =>
      rw [stateOf_dict] at h
      split at h
      · exact ⟨kvs, hl, ‹_›, Option.some_injective _ h⟩
      · cases h
    | _ => simp [stateOf, PyVal.get, PyVal.getD] at h
  · cases h

/-- A pushed state is one the agent can keep: `json.loads` decoded it, one level inside the
message. -/
theorem fits_of_received {t : String} {v : PyVal} (hr : received J t = some v) : J.Fits v := by
  obtain ⟨kvs, hl, -, rfl⟩ := received_eq_some hr
  exact (J.loaded_of_loads hl).fits_getD JsonCodec.fits_none rfl

/-- **A push reaches every other registered socket once, and not its sender.** Over reliable
sockets, a frame that decodes to a state message carrying `v` stores `v`, sends the state
message to every registered socket but the sender, in registry order, and runs
`on_state_changed(v)`. -/
theorem webSocketMessage_received {t : String} {v : PyVal} (hr : received J t = some v) (c : Conn)
    {w : World} (hb : w.broken = []) :
    webSocketMessage J A c (.text t) w = (.ok (), { w.write J v with
      trace := w.trace ++ fanout (J.text (stateMessage v)) (some c) w.sockets ++ [.onStateChanged v] }) := by
  have hv := fits_of_received hr
  obtain ⟨kvs, hl, hty, rfl⟩ := received_eq_some hr
  rw [webSocketMessage_object hl, if_pos hty, tryCatch_apply, hv.setStateInternal (some c) (by simp [hb])]

theorem notice_identity (s : Conn) (ctxId agent : String) :
    Effect.notice J (.send s (J.text (identityMessage ctxId agent))) = none :=
  notice_quiet (loaded_identityMessage ctxId agent).loads_text
    (by simp [stateOf_dict, identityMessage, List.lookup_cons, PyVal.isStr, cfAgentIdentity, cfAgentState]) s

theorem notice_stateMessage {v : PyVal} (hv : J.Fits v) (s : Conn) :
    Effect.notice J (.send s (J.text (stateMessage v))) = some (s, v) := by
  simp [Effect.notice, received_stateMessage hv]

theorem observe_cons_quiet {e : Effect} (h : Effect.notice J e = none) (view : Conn → PyVal)
    (es : List Effect) : observe J view (e :: es) = observe J view es := by
  simp [observe_cons, h]

/-- After the greeting, the new socket holds the state it was greeted with (it already held
`None` when that is the state, and no message was sent). -/
theorem observe_greeting {v : PyVal} (hv : J.Fits v) {view : Conn → PyVal} {s : Conn}
    (hs : v = .none → view s = .none) :
    observe J view (greeting J s v) = Function.update view s v := by
  by_cases hn : v = .none
  · subst hn
    funext x
    by_cases hx : x = s
    · subst hx
      simp [greeting, hs rfl]
    · simp [greeting, hx]
  · simp [greeting, hn, observe_cons_notice (notice_stateMessage hv s)]

/-- Registering the next socket keeps the registry free of repeats and older than the next
socket. -/
theorem register_fresh {S : List Conn} {N : Nat} (hnd : S.Nodup) (hfr : ∀ ws ∈ S, ws.id < N) :
    (S ++ [(⟨N⟩ : Conn)]).Nodup ∧ ∀ ws ∈ S ++ [(⟨N⟩ : Conn)], ws.id < N + 1 := by
  constructor
  · exact List.nodup_append.mpr ⟨hnd, List.nodup_singleton _,
      by simpa using fun h => Nat.lt_irrefl _ (hfr _ h)⟩
  · intro ws hws
    rcases List.mem_append.mp hws with hws | hws
    · exact Nat.lt_succ_of_lt (hfr ws hws)
    · rw [List.mem_singleton.mp hws]
      exact Nat.lt_succ_self _

section Step

variable (hinit : A.initialState = .unset ∨ J.Fits A.initialState)
include hinit

/-- **An upgrade keeps the agreement.** The new socket is told the current state (twice, on the
first upgrade of an agent with a default), and nobody else is told anything. -/
theorem Sys.Inv.upgrade {s : Sys} (hs : s.Inv J A) : (s.step J A .upgrade).Inv J A := by
  obtain ⟨w, view⟩ := s
  obtain ⟨⟨last, hag⟩, hnd, hfr⟩ := hs
  dsimp only at hag hnd hfr
  have htr := preserves_fetch_upgrade_of A (frameClosed_tracks A last)
    (fun w h => (tracks_state A hinit h).2) w hag.tracks
  have hnew : (⟨w.nextSocket⟩ : Conn) ∉ w.sockets := fun h => Nat.lt_irrefl _ (hfr _ h)
  have hid := @notice_identity J ⟨w.nextSocket⟩ w.ctxId (camelToKebab A.name)
  have hconn : Effect.notice J (.onConnect ⟨w.nextSocket⟩) = none := rfl
  have hnone : Function.update view ⟨w.nextSocket⟩ .none ⟨w.nextSocket⟩ = .none :=
    Function.update_same _ _ _
  by_cases hr : w.cache ≠ .unset ∨ w.rows stateWasChanged ≠ none ∨ A.initialState = .unset
  · have hcur := Tracks.fits_current A hinit hag.tracks
    obtain ⟨c, hf⟩ := fetch_upgrade_resolved hag.tracks hr hcur
    simp only [Sys.step, Sys.handle, hf] at htr ⊢
    refine ⟨⟨last, htr, fun hm hi => ?_, fun ws hws => ?_⟩, register_fresh hnd hfr⟩ <;>
      dsimp only at *
    · obtain ⟨rfl, hc⟩ := hag.tracks.unmarked hm
      simp [hc, hm, hi] at hr
    · simp only [List.append_assoc, List.cons_append, List.drop_left, List.mem_append,
        List.mem_singleton] at hws ⊢
      rw [observe_cons_quiet hid, observe_append, observe_greeting hcur fun _ => hnone,
        observe_quiet (by simpa using hconn), Function.update_idem]
      rcases hws with hws | rfl
      · rw [Function.update_noteq (show ws ≠ ⟨w.nextSocket⟩ from fun h => hnew (h ▸ hws)),
          hag.agree ws hws]
      · exact Function.update_same _ _ _
  · push_neg at hr
    obtain ⟨hc, hm, hi⟩ := hr
    have hnil := hag.resolved hm hi
    have hinit' := hinit.resolve_left hi
    obtain ⟨rfl, -⟩ := hag.tracks.unmarked hm
    have hf := @fetch_upgrade_fresh J A w hc hm hinit' hag.tracks.reliable
    simp only [Sys.step, Sys.handle, hf] at htr ⊢
    refine ⟨⟨none, htr, fun hm' => by simp [World.write] at hm', fun ws hws => ?_⟩,
      by simpa [World.write] using register_fresh hnd hfr⟩
    dsimp only at *
    simp only [World.write, hnil, List.nil_append, List.mem_singleton] at hws
    subst hws
    simp only [World.write, hnil, List.nil_append, List.append_assoc, List.cons_append,
      List.drop_left]
    have hfan : fanout (J.text (stateMessage A.initialState)) none [⟨w.nextSocket⟩] =
        [.send ⟨w.nextSocket⟩ (J.text (stateMessage A.initialState))] := rfl
    rw [observe_cons_quiet hid, hfan, List.singleton_append,
      observe_cons_notice (notice_stateMessage hinit' _),
      observe_cons_quiet (show Effect.notice J (.onStateChanged A.initialState) = none from rfl),
      observe_append, observe_greeting hinit' fun h => by rw [Function.update_same, h]]
    simp [observe_quiet, hconn, AgentClass.defaultState, hi]

theorem Sys.Inv.fetch {s : Sys} (hs : s.Inv J A) : (s.step J A .fetch).Inv J A :=
  hs.handle hs.1 fun _ hag => (triple_fetch_plain hinit _ ⟨rfl, rfl, [], _, by simp, hag⟩).1

/-- **A frame keeps the agreement.** A state push is sent to everyone but its sender, who holds
it already; any other frame sends no state, or sends it to everyone through an RPC whose writes
fit. -/
theorem Sys.Inv.message {s : Sys} (hs : s.Inv J A) (ws : Conn) (frame : Frame)
    (hfit : Event.storesFit J A s.world (.message ws frame)) :
    (s.step J A (.message ws frame)).Inv J A := by
  simp only [Sys.step]
  split
  · cases frame with
    | binary _ => exact hs.handle hs.1 fun _ hag =>
        midway_webSocketMessage hinit ws (by simp) hfit ⟨rfl, rfl, [], _, by simp, hag⟩
    | text t =>
      cases hr : received J t with
      | none =>
        rw [show pushed J s.view ws (.text t) = s.view by simp [pushed, hr]]
        exact hs.handle hs.1 fun _ hag => midway_webSocketMessage hinit ws
          (fun _ h => by cases h; exact hr) hfit ⟨rfl, rfl, [], _, by simp, hag⟩
      | some v =>
        obtain ⟨⟨last, hag⟩, hnd, hfr⟩ := hs
        have hv := fits_of_received hr
        have hwm := @webSocketMessage_received J A t v hr ws s.world hag.tracks.reliable
        obtain ⟨-, htr⟩ := tracks_setStateInternal A hag.tracks hv (some ws)
        rw [hv.setStateInternal (some ws) (by simp [hag.tracks.reliable])] at htr
        simp only [Sys.handle, pushed, hr, hwm]
        refine ⟨⟨some v, htr, fun hm => by simp [World.write] at hm, fun x hx => ?_⟩, hnd, hfr⟩
        simp only [World.write, List.append_assoc, List.drop_left] at hx ⊢
        rw [observe_append, observe_quiet (by simp [Effect.notice]),
          observe_fanout (received_stateMessage hv)]
        by_cases hxw : x = ws
        · subst hxw; simp
        · simp [hx, hxw, Ne.symm hxw]
  · exact hs

end Step

/-- A close drops the socket and runs the hook: the others keep their views. -/
theorem Sys.Inv.close {s : Sys} (hs : s.Inv J A) (ws : Conn) (code : Int) (reason : String)
    (wasClean : Bool) : (s.step J A (.close ws code reason wasClean)).Inv J A := by
  simp only [Sys.step]
  split
  · obtain ⟨⟨last, hag⟩, hnd, hfr⟩ := hs
    simp only [webSocketClose, emit_apply]
    exact ⟨⟨last, frameClosed_tracks A last _ _ hag.tracks rfl rfl rfl,
      fun hm hi => by simp [hag.resolved hm hi], fun x hx => hag.agree x (List.mem_of_mem_erase hx)⟩,
      hnd.erase ws, fun x hx => hfr x (List.mem_of_mem_erase hx)⟩
  · exact hs

/-- A restart forgets the cache; the clients stay connected and keep their views. -/
theorem Sys.Inv.restart {s : Sys} (hs : s.Inv J A) : (s.step J A .restart).Inv J A :=
  let ⟨⟨last, hag⟩, hnd, hfr⟩ := hs
  ⟨⟨last, Tracks.restart A hag.tracks, hag.resolved, hag.agree⟩, hnd, hfr⟩

section Run

variable (hinit : A.initialState = .unset ∨ J.Fits A.initialState)
include hinit

theorem Sys.Inv.step {s : Sys} (hs : s.Inv J A) :
    ∀ e : Event, e.storesFit J A s.world → (s.step J A e).Inv J A
  | .upgrade, _ => hs.upgrade hinit
  | .fetch, _ => hs.fetch hinit
  | .message ws frame, hfit => hs.message hinit ws frame hfit
  | .close ws code reason wasClean, _ => hs.close ws code reason wasClean
  | .restart, _ => hs.restart

/-- **Every run whose writes fit keeps the agreement.** -/
theorem Sys.Inv.run : ∀ (events : List Event) {s : Sys}, s.Inv J A → Sys.storesFit J A events s →
    (s.run J A events).Inv J A
  | [], _, hs, _ => hs
  | e :: es, _, hs, hfit => by
    simp only [Sys.storesFit, Bool.and_eq_true] at hfit
    exact Sys.Inv.run es (hs.step hinit e hfit.1) hfit.2

end Run

end PyAgents
