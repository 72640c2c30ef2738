import PyAgents.Agent.Eval

/-!
# `CounterAgent` is a shared counter

What `CounterAgent` is for, stated without the agent: a count, and the last action that set it,
shared by the clients connected to it (`CounterSys`). A client connects or disconnects, asks
for the state over HTTP, calls `increment(n)`, `decrement(n)`, `reset()` or `get_count()`, or
pushes a counter of its own. The instance may be evicted between any two of these.

The agent refines it. Run the agent on the events the abstract ones stand for: upgrades, plain
requests, RPC frames, state pushes, closes and restarts (`CounterEvent.toEvent`). From a fresh
instance, after any run whose counts fit, the registry is the abstract one, and a read returns
the abstract counter's state dict. Every connected client holds that dict, and the next call
from a connected client is answered with the abstract result.

## Scope

Calls carry integer amounts, and the codec is any `JsonCodec`. A count fits when it has at most
4300 decimal digits (`Counter.Fits`): `json` writes no longer int. The refinement asks it of
every amount a connected client sends and every count it leaves (`CounterSys.runFits`). Past
that bound the agent leaves the abstract counter: `set_state` caches the new count before
`json.dumps` refuses it, and a read then returns a state no client was sent
(`increment_refused_desyncs`). A call with a string amount raises inside the method and changes
nothing (`rpc_error_unchanged`). A push of a state that is not a counter, or an RPC frame that is
not a call of the four methods, is outside the abstract model.

## Main results

* `Counter.eval_call` — each method, evaluated on a counter's state dict, is the abstract call
* `webSocketMessage_call` — a call's frame stores the abstract counter and answers the abstract
  result
* `CounterSys.Sim.step` — every event whose counts fit keeps the agent simulating the counter
* `CounterSys.Sim.shows` — what a simulating system shows its clients
* `counter_refines` — after any run whose counts fit, the agent is the counter: registry, state,
  views and replies
* `increment_refused_desyncs` — a count past the bound leaves a client behind the agent
-/

namespace PyAgents

open Call

/-- What `CounterAgent` keeps: the count, and the last action that set it. -/
structure Counter where
  count : Int
  lastAction : Option String
  deriving DecidableEq, Repr

/-- A call of a `CounterAgent` method over RPC, with an integer amount. -/
inductive CounterCall where
  | increment (amount : Int)
  | decrement (amount : Int)
  | reset
  | getCount
  deriving DecidableEq, Repr

namespace Counter

/-- `initial_state`: `{"count": 0, "last_action": None}`. -/
def init : Counter := ⟨0, none⟩

/-- The counter as the agent's state dict. -/
def toState (c : Counter) : PyVal :=
  .dict [("count", .int c.count), ("last_action", (c.lastAction.map PyVal.str).getD .none)]

/-- The counter after a call, and the call's result. -/
def call (c : Counter) : CounterCall → Counter × Int
  | .increment n => (⟨c.count + n, some "increment"⟩, c.count + n)
  | .decrement n => (⟨c.count - n, some "decrement"⟩, c.count - n)
  | .reset => (⟨0, some "reset"⟩, 0)
  | .getCount => (c, c.count)

/-- The count has at most 4300 decimal digits, so `json` writes the counter's state dict. -/
def Fits (c : Counter) : Bool := (PyVal.int c.count).intsFit

theorem isJson_toState (c : Counter) : c.toState.isJson := by
  refine PyVal.isJson_dict (by simp) ?_
  cases c.lastAction <;> rfl

theorem init_toState : init.toState = counterInitialState := rfl

/-- A call's result is the count it leaves. -/
theorem call_snd (a : Counter) (c : CounterCall) : (a.call c).2 = (a.call c).1.count := by
  cases c <;> rfl

/-- A counter whose count fits is a state the agent can keep. -/
theorem fits_toState {J : JsonCodec} {c : Counter} (h : c.Fits) : J.Fits c.toState := by
  have := J.maxDepth_ge
  obtain ⟨count, _ | _⟩ := c <;>
    exact ⟨isJson_toState _, by simpa [toState, Fits] using h, by simp [toState]; omega⟩

end Counter

namespace CounterCall

/-- The method a call names. -/
def method : CounterCall → String
  | .increment _ => "increment"
  | .decrement _ => "decrement"
  | .reset => "reset"
  | .getCount => "get_count"

/-- The positional arguments a call sends. -/
def args : CounterCall → List PyVal
  | .increment n | .decrement n => [.int n]
  | .reset | .getCount => []

/-- The body of the method a call names. -/
def body : CounterCall → List PyVal → Prog
  | .increment _ => PyAgents.increment
  | .decrement _ => PyAgents.decrement
  | .reset => PyAgents.reset
  | .getCount => PyAgents.getCount

/-- The call's amount has at most 4300 decimal digits, so `json` writes its request. -/
def Fits : CounterCall → Bool
  | .increment n | .decrement n => (PyVal.int n).intsFit
  | .reset | .getCount => true

theorem getattr_method (c : CounterCall) :
    counterAgent.getattr c.method = some (.function true c.body) := by
  cases c <;> rfl

theorem method_mem (c : CounterCall) : c.method ∈ getCallableMethods counterAgent := by
  cases c <;> simp only [method] <;> decide

end CounterCall

/-- **Each method is the abstract call.** Evaluated on a counter's state dict, the method a call
names returns the call's result and leaves the new counter's state dict. -/
theorem Counter.eval_call (a : Counter) (c : CounterCall) :
    (c.body c.args).eval a.toState = (.ok (.int (a.call c).2), (a.call c).1.toState) := by
  cases c <;>
    simp [CounterCall.body, CounterCall.args, Counter.call, Counter.toState, PyAgents.increment,
      PyAgents.decrement, PyAgents.reset, PyAgents.getCount, optionalArg, noArgs, counterStep,
      currentCount, Prog.eval, PyVal.truthy, PyVal.subscript, PyVal.add, PyVal.sub, PyVal.asInt,
      bind, Except.bind]

/-- A call whose new count fits writes only a state the agent can keep. -/
theorem Counter.storesFit_call {J : JsonCodec} (a : Counter) (c : CounterCall)
    (h : (a.call c).1.Fits) : (c.body c.args).storesFit J a.toState := by
  have hs : J.Fits (a.call c).1.toState := Counter.fits_toState h
  have hr : J.Fits (.int (a.call c).2) := JsonCodec.fits_int (by rw [a.call_snd]; exact h)
  cases c <;>
    simp_all [CounterCall.body, CounterCall.args, Counter.call, Counter.toState, PyAgents.increment,
      PyAgents.decrement, PyAgents.reset, PyAgents.getCount, optionalArg, noArgs, counterStep,
      currentCount, Prog.storesFit, PyVal.truthy, PyVal.subscript, PyVal.add, PyVal.sub,
      PyVal.asInt, bind, Except.bind]

/-- The RPC request a client sends for a call. -/
def callRequest (id : String) (c : CounterCall) : PyVal :=
  .dict [("type", .str rpc), ("id", .str id), ("method", .str c.method), ("args", .list c.args)]

theorem isJson_callRequest (id : String) (c : CounterCall) : (callRequest id c).isJson := by
  refine PyVal.isJson_dict (by simp) ?_
  cases c <;> rfl

/-- The request of a call whose amount fits is one `json.loads` can return. -/
theorem loaded_callRequest {J : JsonCodec} (id : String) {c : CounterCall} (hc : c.Fits) :
    J.Loaded (callRequest id c) := by
  have := J.maxDepth_ge
  refine ⟨isJson_callRequest id c, ?_, ?_⟩ <;> cases c <;>
    simp_all [callRequest, CounterCall.args, CounterCall.Fits] <;> omega

/-- The RPC of a call runs the method the call names, on the call's arguments. -/
theorem rpcBody_callRequest (id : String) (c : CounterCall) :
    rpcBody counterAgent [("type", .str rpc), ("id", .str id), ("method", .str c.method),
      ("args", .list c.args)] = some (c.body c.args) :=
  rpcBody_eq (by rfl) c.method_mem c.getattr_method (by rfl)

/-! ## A call, in one world -/

variable {J : JsonCodec}

theorem hinit_counter : counterAgent.initialState = .unset ∨ J.Fits counterAgent.initialState :=
  .inr fits_counterInitialState

/-- The frame of a call whose amount and new count fit asks only for writes that fit. -/
theorem Holds.storesFit_call {a : Counter} {S : List Conn} {N : Nat} {w : World}
    (h : Holds J counterAgent S N a.toState w) (ws : Conn) (id : String) {c : CounterCall}
    (hc : c.Fits) (hnew : (a.call c).1.Fits) :
    Event.storesFit J counterAgent w (.message ws (.text (J.text (callRequest id c)))) :=
  Event.storesFit_of_rpcBody (loaded_callRequest id hc).loads_text (holds_state hinit_counter h).1
    ((rpcBody_callRequest id c)) (a.storesFit_call c hnew)

/-- **A call's frame is the abstract call.** On a world holding a counter's state dict, the
frame of a call whose amount and new count fit stores the new counter's dict, on the same
registry, and its last effect is the reply to the caller carrying the call's result. -/
theorem webSocketMessage_call {a : Counter} {S : List Conn} {N : Nat} {w : World}
    (h : Holds J counterAgent S N a.toState w) (ws : Conn) (id : String) {c : CounterCall}
    (hc : c.Fits) (hnew : (a.call c).1.Fits) :
    Holds J counterAgent S N (a.call c).1.toState
        (webSocketMessage J counterAgent ws (.text (J.text (callRequest id c))) w).2 ∧
      (webSocketMessage J counterAgent ws (.text (J.text (callRequest id c))) w).2.trace.getLast? =
        some (.send ws (J.text (rpcResult (.str id) (.int (a.call c).2)))) := by
  have he := a.eval_call c
  have hl := (@loaded_callRequest J id c hc).loads_text
  obtain ⟨-, h2, h3⟩ := handleRpc_eval hinit_counter h ws (loaded_callRequest id hc) rfl
    c.method_mem c.getattr_method rfl (a.storesFit_call c hnew)
    (fun v hv => by
      rw [he] at hv
      cases hv
      exact JsonCodec.fits_int (by rw [a.call_snd]; exact hnew))
  have hty : ((List.lookup "type" [("type", PyVal.str rpc), ("id", .str id),
      ("method", .str c.method), ("args", .list c.args)]).getD .none) = .str rpc := rfl
  rw [webSocketMessage_object hl, hty, if_neg (by decide), if_pos (by decide)]
  rw [he] at h2 h3
  exact ⟨h2, h3⟩

/-! ## The abstract counter and its clients -/

/-- The counter with its connected clients, oldest first, and the identity the next client
gets. -/
structure CounterSys where
  counter : Counter
  clients : List Conn
  next : Nat

/-- What the clients of the counter do. -/
inductive CounterEvent where
  /-- A client connects. -/
  | connect
  /-- A plain HTTP request for the state. -/
  | request
  /-- The client `ws` makes a call, with request id `id`. -/
  | call (ws : Conn) (id : String) (c : CounterCall)
  /-- The client `ws` sets the counter itself. -/
  | push (ws : Conn) (c : Counter)
  /-- The client `ws` disconnects. -/
  | disconnect (ws : Conn) (code : Int) (reason : String) (wasClean : Bool)
  /-- The instance is evicted. -/
  | evict

namespace CounterSys

/-- No client, and the initial counter. -/
def init : CounterSys := ⟨Counter.init, [], 0⟩

/-- One event. Calls and pushes from a client that is not connected change nothing. -/
def step (a : CounterSys) : CounterEvent → CounterSys
  | .connect => { a with clients := a.clients ++ [⟨a.next⟩], next := a.next + 1 }
  | .request | .evict => a
  | .call ws _ c => if ws ∈ a.clients then { a with counter := (a.counter.call c).1 } else a
  | .push ws c => if ws ∈ a.clients then { a with counter := c } else a
  | .disconnect ws _ _ _ => { a with clients := a.clients.erase ws }

/-- A run of events. -/
def run : List CounterEvent → CounterSys → CounterSys
  | [], a => a
  | e :: es, a => run es (a.step e)

/-- The event's counts fit: a call from a connected client sends an amount that fits and leaves
a count that fits, and a push from one sends a count that fits. -/
def stepFits (a : CounterSys) : CounterEvent → Bool
  | .call ws _ c => !decide (ws ∈ a.clients) || (c.Fits && (a.counter.call c).1.Fits)
  | .push ws c => !decide (ws ∈ a.clients) || c.Fits
  | .connect | .request | .disconnect .. | .evict => true

/-- Every event of the run, from the counter it finds, has counts that fit. -/
def runFits : List CounterEvent → CounterSys → Bool
  | [], _ => true
  | e :: es, a => a.stepFits e && runFits es (a.step e)

end CounterSys

variable (J) in
/-- The event the agent sees for each: an upgrade, a plain request, the call's RPC frame, the
push's state message, a close, a restart. -/
def CounterEvent.toEvent : CounterEvent → Event
  | .connect => .upgrade
  | .request => .fetch
  | .call ws id c => .message ws (.text (J.text (callRequest id c)))
  | .push ws c => .message ws (.text (J.text (stateMessage c.toState)))
  | .disconnect ws code reason wasClean => .close ws code reason wasClean
  | .evict => .restart

variable (J) in
/-- The agent's system `s` simulates the counter `a`: its clients agree with it, and its world
holds the counter's state dict on the counter's registry. -/
structure CounterSys.Sim (a : CounterSys) (s : Sys) : Prop where
  inv : s.Inv J counterAgent
  holds : Holds J counterAgent a.clients a.next a.counter.toState s.world

theorem CounterSys.sim_init (ctxId : String) : CounterSys.init.Sim J (Sys.init ctxId) :=
  ⟨Sys.inv_init ctxId, ⟨⟨none, tracks_init counterAgent ctxId, rfl⟩, rfl, rfl⟩⟩

/-- A frame from a socket that is not registered changes nothing, on either side. -/
theorem CounterSys.Sim.unregistered {a : CounterSys} {s : Sys} (h : a.Sim J s) {ws : Conn}
    (hws : ws ∉ a.clients) (frame : Frame) : a.Sim J (s.step J counterAgent (.message ws frame)) := by
  rwa [Sys.step, if_neg (h.holds.sockets ▸ hws)]

/-- **Every event whose counts fit keeps the agent simulating the counter.** -/
theorem CounterSys.Sim.step {a : CounterSys} {s : Sys} (h : a.Sim J s) :
    ∀ e : CounterEvent, a.stepFits e → (a.step e).Sim J (s.step J counterAgent (e.toEvent J))
  | .connect, _ => ⟨h.inv.step hinit_counter _ rfl, holds_fetch_upgrade hinit_counter h.holds⟩
  | .request, _ => ⟨h.inv.step hinit_counter _ rfl, holds_fetch_plain hinit_counter h.holds⟩
  | .call ws id c, he => by
    by_cases hws : ws ∈ a.clients
    · simp only [CounterSys.stepFits, hws, decide_True, Bool.not_true, Bool.false_or,
        Bool.and_eq_true] at he
      refine ⟨h.inv.step hinit_counter _ (h.holds.storesFit_call ws id he.1 he.2), ?_⟩
      simp only [CounterSys.step, if_pos hws, CounterEvent.toEvent,
        Sys.step_message_world (h.holds.sockets ▸ hws)]
      exact (webSocketMessage_call h.holds ws id he.1 he.2).1
    · simpa only [CounterSys.step, if_neg hws] using h.unregistered hws _
  | .push ws c, he => by
    by_cases hws : ws ∈ a.clients
    · simp only [CounterSys.stepFits, hws, decide_True, Bool.not_true, Bool.false_or] at he
      have hv : J.Fits c.toState := Counter.fits_toState he
      have hl := hv.stateMessage_loaded.loads_text
      refine ⟨h.inv.step hinit_counter _ (Event.storesFit_push hl), ?_⟩
      simp only [CounterSys.step, if_pos hws, CounterEvent.toEvent,
        Sys.step_message_world (h.holds.sockets ▸ hws), webSocketMessage_push counterAgent hl,
        tryCatch_apply]
      obtain ⟨h1, h2⟩ := holds_setStateInternal hv h.holds (some ws)
      rw [show setStateInternal J c.toState (some ws) s.world = (.ok (), _) from Prod.ext h1 rfl]
      exact h2
    · simpa only [CounterSys.step, if_neg hws] using h.unregistered hws _
  | .disconnect ws code reason wasClean, _ => by
    refine ⟨h.inv.step hinit_counter _ rfl, ?_⟩
    simp only [CounterSys.step, CounterEvent.toEvent, Sys.step, h.holds.sockets]
    split
    · obtain ⟨last, ht, hl⟩ := h.holds.stores
      exact ⟨⟨last, frameClosed_tracks counterAgent last _ _ ht rfl rfl rfl, hl⟩,
        by simp [webSocketClose, h.holds.sockets], by simp [webSocketClose, h.holds.next]⟩
    · next hws => rw [List.erase_of_not_mem hws]; exact h.holds
  | .evict, _ =>
    let ⟨last, ht, hl⟩ := h.holds.stores
    ⟨h.inv.step hinit_counter _ rfl, ⟨last, ht.restart, hl⟩, h.holds.sockets, h.holds.next⟩

theorem CounterSys.Sim.run : ∀ (es : List CounterEvent) {a : CounterSys} {s : Sys}, a.Sim J s →
    CounterSys.runFits es a → (a.run es).Sim J (s.run J counterAgent (es.map (CounterEvent.toEvent J)))
  | [], _, _, h, _ => h
  | e :: es, _, _, h, hfit => by
    simp only [CounterSys.runFits, Bool.and_eq_true] at hfit
    exact CounterSys.Sim.run es (h.step e hfit.1) hfit.2

/-- What a system simulating the counter shows: its registry is the counter's clients, a read
returns the counter's state dict, every connected client holds it, and the next call from a
connected client, with an amount and a new count that fit, is answered with the call's
result. -/
theorem CounterSys.Sim.shows {a : CounterSys} {s : Sys} (h : a.Sim J s) :
    s.world.sockets = a.clients ∧ (state J counterAgent s.world).1 = .ok a.counter.toState ∧
      (∀ ws ∈ s.world.sockets, s.view ws = a.counter.toState) ∧
      ∀ ws ∈ a.clients, ∀ (id : String) (c : CounterCall), c.Fits → (a.counter.call c).1.Fits →
        (s.step J counterAgent ((CounterEvent.call ws id c).toEvent J)).world.trace.getLast? =
          some (.send ws (J.text (rpcResult (.str id) (.int (a.counter.call c).2)))) := by
  refine ⟨h.holds.sockets, (holds_state hinit_counter h.holds).1,
    h.inv.view_of_holds hinit_counter h.holds, fun ws hws id c hc hnew => ?_⟩
  rw [CounterEvent.toEvent, Sys.step_message_world (h.holds.sockets ▸ hws)]
  exact (webSocketMessage_call h.holds ws id hc hnew).2

/-- **`CounterAgent` is a shared counter.** From a fresh instance, after any run of connects,
disconnects, requests, integer calls, counter pushes and evictions whose counts fit: the registry
is the abstract one; a read returns the abstract counter's state dict, and every connected client
holds it; and the next call from a connected client whose counts fit is answered with the
abstract result. -/
theorem counter_refines (J : JsonCodec) (ctxId : String) (es : List CounterEvent)
    (hfit : CounterSys.runFits es CounterSys.init) :
    let s := (Sys.init ctxId).run J counterAgent (es.map (CounterEvent.toEvent J))
    let a := CounterSys.init.run es
    s.world.sockets = a.clients ∧ (state J counterAgent s.world).1 = .ok a.counter.toState ∧
      (∀ ws ∈ s.world.sockets, s.view ws = a.counter.toState) ∧
      ∀ ws ∈ a.clients, ∀ (id : String) (c : CounterCall), c.Fits → (a.counter.call c).1.Fits →
        (s.step J counterAgent ((CounterEvent.call ws id c).toEvent J)).world.trace.getLast? =
          some (.send ws (J.text (rpcResult (.str id) (.int (a.counter.call c).2)))) :=
  (CounterSys.Sim.run es (CounterSys.sim_init ctxId) hfit).shows

/-- Two clients connect; the first calls `increment(5)`, the instance is evicted, the second
pushes the counter `3`, and the first disconnects. The second then asks for the count. -/
theorem counter_refines_run :
    let es := [CounterEvent.connect, .connect, .call ⟨0⟩ "1" (.increment 5), .evict,
      .push ⟨1⟩ ⟨3, some "reset"⟩, .disconnect ⟨0⟩ 1000 "bye" true]
    let s := (Sys.init "counter").run refCodec counterAgent (es.map (CounterEvent.toEvent refCodec))
    let a := CounterSys.init.run es
    CounterSys.runFits es CounterSys.init ∧ a.counter = ⟨3, some "reset"⟩ ∧ a.clients = [⟨1⟩] ∧
      (state refCodec counterAgent s.world).1 = .ok a.counter.toState ∧
      (s.step refCodec counterAgent ((CounterEvent.call ⟨1⟩ "2" .getCount).toEvent refCodec)).world.trace.getLast? =
        some (.send ⟨1⟩ (refCodec.text (rpcResult (.str "2") (.int (a.counter.call .getCount).2)))) :=
  ⟨by decide, by decide, by decide, (counter_refines refCodec "counter" _ (by decide)).2.1,
    (counter_refines refCodec "counter" _ (by decide)).2.2.2 ⟨1⟩ (by decide) "2" .getCount rfl
      (by decide)⟩

/-! ## Past the bound -/

theorem two_le_intStrBound : 2 ≤ PyVal.intStrBound := by
  unfold PyVal.intStrBound
  decide

/-- `10 ** 4300 - 1`, the largest int `json` writes. -/
def maxJsonInt : Int := PyVal.intStrBound - 1

theorem intsFit_maxJsonInt : (PyVal.int maxJsonInt).intsFit := by
  have := two_le_intStrBound
  simp only [PyVal.intsFit, maxJsonInt, decide_eq_true_eq]
  omega

theorem intsFit_twice_maxJsonInt : (PyVal.int (0 + maxJsonInt + maxJsonInt)).intsFit = false := by
  have := two_le_intStrBound
  simp only [PyVal.intsFit, maxJsonInt, decide_eq_false_iff_not]
  omega

/-- The count a counter's state dict holds, as `increment` reads it. -/
theorem Counter.currentCount_toState (c : Counter) :
    currentCount c.toState counterInitialState = .ok (.int c.count) := rfl

/-- **A refused increment.** From a system simulating the counter `a`, a connected client calls
`increment(n)` with an amount that fits and a new count that does not. The agent caches the new
state, `json.dumps` refuses it, and the caller gets an error reply: a read returns the cached
state, while no client's view changes and the registry stays. -/
theorem CounterSys.Sim.increment_refused {a : CounterSys} {s : Sys} (h : a.Sim J s) {ws : Conn}
    (hws : ws ∈ a.clients) (id : String) {n : Int} (hn : (PyVal.int n).intsFit)
    (hmn : (PyVal.int (a.counter.count + n)).intsFit = false) :
    let s' := s.step J counterAgent ((CounterEvent.call ws id (.increment n)).toEvent J)
    (state J counterAgent s'.world).1 = .ok (incremented a.counter.count n) ∧ s'.view = s.view ∧
      s'.world.sockets = s.world.sockets := by
  intro s'
  have hws' : ws ∈ s.world.sockets := h.holds.sockets ▸ hws
  -- the read finds the cached counter
  obtain ⟨⟨last, hag⟩, -⟩ := h.inv
  obtain ⟨cache, hrd⟩ := state_of_tracks hag.tracks
    (.inr (.inl fun hm => List.ne_nil_of_mem hws' (hag.resolved hm (by decide))))
  have hcur : last.getD counterAgent.defaultState = a.counter.toState :=
    Except.ok.inj ((congrArg Prod.fst hrd).symm.trans (holds_state hinit_counter h.holds).1)
  rw [hcur] at hrd
  -- the write is refused: the frame caches the new state and sends the caller an error
  have hl := (@loaded_callRequest J id (.increment n) hn).loads_text
  obtain ⟨error, hw⟩ := webSocketMessage_increment_refused hl rfl rfl rfl
    a.counter.currentCount_toState hmn hrd hag.tracks.reliable ws
  have hs' : s' = s.handle J (pushed J s.view ws (.text (J.text (callRequest id (.increment n)))))
      (webSocketMessage J counterAgent ws (.text (J.text (callRequest id (.increment n))))) := by
    simp only [s', CounterEvent.toEvent, Sys.step, if_pos hws']
  -- neither the frame nor the error reply hands a client a state
  have hquiet : received J (J.text (callRequest id (.increment n))) = none := by
    rw [received, hl]
    simp [stateOf_dict, callRequest, List.lookup_cons, PyVal.isStr, rpc, cfAgentState]
  have hreply := notice_quiet (loaded_rpcError (show J.Fits (.str id) from
    ⟨rfl, rfl, lt_of_lt_of_le (by simp) J.maxDepth_ge⟩) error).loads_text
    (stateOf_rpcError _ _) ws
  rw [hs', Sys.handle, hw]
  refine ⟨?_, ?_, rfl⟩
  · rw [state_of_cache]
    simp [incremented]
  · simp only [List.drop_left]
    simp [pushed, hquiet, observe, List.lookup_cons, hreply]

/-- **A refused write leaves a client behind.** A client connects to a fresh `CounterAgent` and
calls `increment(10 ** 4300 - 1)` twice. The first call stores and broadcasts a count of 4300
digits. The second call's `set_state` caches a count of 4301 digits, then `json.dumps` raises
`ValueError`: the caller gets an error reply, and no state message goes out. A read now returns
the cached state, while the client still holds the state of the first call. This holds for every
codec. -/
theorem increment_refused_desyncs (J : JsonCodec) (ctxId : String) :
    let es := [CounterEvent.connect, .call ⟨0⟩ "1" (.increment maxJsonInt),
      .call ⟨0⟩ "2" (.increment maxJsonInt)]
    let s := (Sys.init ctxId).run J counterAgent (es.map (CounterEvent.toEvent J))
    (⟨0⟩ : Conn) ∈ s.world.sockets ∧
      (state J counterAgent s.world).1 = .ok (incremented (0 + maxJsonInt) maxJsonInt) ∧
      s.view ⟨0⟩ = incremented 0 maxJsonInt ∧
      incremented (0 + maxJsonInt) maxJsonInt ≠ incremented 0 maxJsonInt := by
  intro es s
  -- the first two events keep the agent simulating the counter, which then holds `0 + maxJsonInt`
  have hfit : CounterSys.runFits [.connect, .call ⟨0⟩ "1" (.increment maxJsonInt)] CounterSys.init := by
    simp [CounterSys.runFits, CounterSys.stepFits, CounterSys.step, CounterSys.init, Counter.init,
      Counter.call, Counter.Fits, CounterCall.Fits, intsFit_maxJsonInt]
  have ha : CounterSys.init.run [.connect, .call ⟨0⟩ "1" (.increment maxJsonInt)] =
      ⟨⟨0 + maxJsonInt, some "increment"⟩, [⟨0⟩], 1⟩ := by
    simp [CounterSys.run, CounterSys.step, CounterSys.init, Counter.init, Counter.call]
  have hsim := CounterSys.Sim.run _ (@CounterSys.sim_init J ctxId) hfit
  rw [ha] at hsim
  obtain ⟨hS, -, hview, -⟩ := hsim.shows
  have hmem := (congrArg ((⟨0⟩ : Conn) ∈ ·) hS).mpr (List.mem_singleton_self _)
  -- the third is refused
  obtain ⟨hread, hv, hsock⟩ := hsim.increment_refused (List.mem_singleton_self _) "2"
    intsFit_maxJsonInt intsFit_twice_maxJsonInt
  refine ⟨hsock ▸ hmem, hread, (congrFun hv ⟨0⟩).trans (hview _ hmem), fun h => ?_⟩
  have := two_le_intStrBound
  simp [incremented, maxJsonInt] at h
  omega

end PyAgents
