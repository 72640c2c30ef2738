import Mathlib.Data.String.Basic
import PyAgents.Agent.CounterSpec

/-!
# The worker entrypoint

`Default.fetch` of `entry.py`, the worker in front of `CounterAgent`. It serves a test page at the
root. It sends a path under `/agent` to the instance named by the path's third `/`-separated
piece, or to `"default"` when that piece is missing or empty. Anything else gets 404.

The worker and the instances of its Durable Object namespace form one system: one agent, with its
clients, per name (`Sys`). A request reaches at most the instance its path names. Frames, closes
and evictions reach an instance directly, as the runtime delivers them to the instance that
accepted the socket.

## Scope

`idFromName` is the runtime's, a parameter here: the instance of a name starts as the agent whose
`ctx.id` is `idFromName(name)`. The test page and the 404 response are constants that nothing
reads; the model records where a request goes, not the bytes of the page.

The prefix test is `startswith("/agent")`, not `startswith("/agent/")`: `/agents/x` and
`/agent-old/x` route to the instance `x` as `/agent/x` does (`route_agent`).

## Main results

* `route_agent` — `/agent<s>/<name>`, and every path under it, routes to `name`
* `Worker.inst_run` — an instance runs exactly the events routed to it, in order
* `worker_instances` — after any run, every instance is the fresh agent of its id after its own
  events, and when those write only values that fit, its clients agree with it
* `worker_counters` — every `CounterAgent` instance is the counter of the events addressed to it,
  when their counts fit
-/

namespace PyAgents

/-! ## Routing -/

/-- What `Default.fetch` does with a request, by the path of its URL. -/
inductive Route where
  /-- `path == "/" or path == ""`: the test page. -/
  | testPage
  /-- `path.startswith("/agent")`: the instance of that name. -/
  | agent (name : String)
  /-- Anything else: `Response.new("Not Found", status=404)`. -/
  | notFound
  deriving DecidableEq, Repr

/-- `parts[2] if len(parts) > 2 and parts[2] else "default"`. -/
def instanceName : List String → String
  | _ :: _ :: p :: _ => if (PyVal.str p).truthy then p else "default"
  | _ => "default"

/-- The route `Default.fetch` takes for the path of a request's URL, with
`parts = path.split("/")`. -/
def route (path : String) : Route :=
  if path = "/" ∨ path = "" then .testPage
  else if pyStartsWith path "/agent" then
    .agent (instanceName ((splitOn '/' path.toList).map String.mk))
  else .notFound

/-- The first piece of `name` followed by `rest` is `name`, when `rest` is empty or starts a new
piece. -/
theorem splitOn_name {name rest : List Char} (hn : '/' ∉ name)
    (hrest : rest = [] ∨ ∃ r, rest = '/' :: r) : ∃ tl, splitOn '/' (name ++ rest) = name :: tl := by
  rcases hrest with rfl | ⟨r, rfl⟩
  · exact ⟨[], by simpa using splitOn_of_not_mem hn⟩
  · exact ⟨_, splitOn_append_cons hn r⟩

/-- A path that starts with `/agent` and whose third piece is the non-empty `name` routes to
`name`. -/
theorem route_of_third_piece {path name : String} {p₁ : List Char} {tl : List (List Char)}
    (hpre : pyStartsWith path "/agent")
    (hsplit : splitOn '/' path.toList = [] :: p₁ :: name.toList :: tl) (hname : name ≠ "") :
    route path = .agent name := by
  have hlong : ¬(path = "/" ∨ path = "") := by
    rintro (rfl | rfl) <;> exact absurd hpre (by decide)
  rw [route, if_neg hlong, if_pos hpre, hsplit, Route.agent.injEq]
  show (if (PyVal.str name).truthy then name else "default") = name
  simp [PyVal.truthy, String.isEmpty_iff, hname]

/-- **A path under `/agent` routes to the instance it names.** For a non-empty `name` without `/`,
the path `/agent<s>/<name>`, with no `/` in `s`, and every path below it, routes to `name`. -/
theorem route_agent {s name rest : String} (hs : '/' ∉ s.toList) (hname : name ≠ "")
    (hn : '/' ∉ name.toList) (hrest : rest = "" ∨ ∃ r, rest = "/" ++ r) :
    route ("/agent" ++ s ++ "/" ++ name ++ rest) = .agent name := by
  have hrest' : rest.toList = [] ∨ ∃ r, rest.toList = '/' :: r := by
    rcases hrest with rfl | ⟨r, rfl⟩
    · exact .inl rfl
    · exact .inr ⟨r.toList, rfl⟩
  obtain ⟨tl, htl⟩ := splitOn_name hn hrest'
  have hagent : '/' ∉ "agent".toList ++ s.toList := by
    rw [List.mem_append, not_or]
    exact ⟨by decide, hs⟩
  have hpath : ("/agent" ++ s ++ "/" ++ name ++ rest).toList =
      '/' :: (("agent".toList ++ s.toList) ++ '/' :: (name.toList ++ rest.toList)) := by
    simp
  refine @route_of_third_piece _ _ ("agent".toList ++ s.toList) tl
    (by simp [pyStartsWith, hpath, List.isPrefixOf]) ?_ hname
  rw [hpath, splitOn, if_pos rfl, splitOn_append_cons hagent, htl]

/-- `/agents/room1/ws`, whose prefix is not `/agent/`, routes to `room1`. -/
theorem route_agent_agents :
    '/' ∉ "s".toList ∧ "room1" ≠ "" ∧ '/' ∉ "room1".toList ∧ ("/ws" = "" ∨ ∃ r, "/ws" = "/" ++ r) ∧
      route ("/agent" ++ "s" ++ "/" ++ "room1" ++ "/ws") = .agent "room1" :=
  ⟨by decide, by decide, by decide, .inr ⟨"ws", rfl⟩,
    route_agent (by decide) (by decide) (by decide) (.inr ⟨"ws", rfl⟩)⟩

example : route "/agent/room1" = .agent "room1" := by decide

/-! ## The worker and its instances -/

/-- What can happen to the worker and its instances. -/
inductive WorkerEvent where
  /-- A request reaches `Default.fetch`; `webSocket` says it asks for an upgrade. -/
  | request (path : String) (webSocket : Bool)
  /-- A client of the instance `name` sends a frame. -/
  | message (name : String) (ws : Conn) (frame : Frame)
  /-- A client socket of the instance `name` closes. -/
  | close (name : String) (ws : Conn) (code : Int) (reason : String) (wasClean : Bool)
  /-- The instance `name` is evicted. -/
  | evict (name : String)

/-- The instance an event reaches, and the event it is to that instance: `stub.fetch(request)`
for a routed request. -/
def WorkerEvent.target : WorkerEvent → Option (String × Event)
  | .request path webSocket =>
    match route path with
    | .agent name => some (name, if webSocket then .upgrade else .fetch)
    | _ => none
  | .message name ws frame => some (name, .message ws frame)
  | .close name ws code reason wasClean => some (name, .close ws code reason wasClean)
  | .evict name => some (name, .restart)

/-- The worker's instances, by name. -/
structure Worker where
  /-- The instance of each name, with its clients. -/
  inst : String → Sys

variable (J : JsonCodec) (A : AgentClass)

/-- No instance has run: each is the fresh agent of its id. -/
def Worker.init (idFromName : String → String) : Worker := ⟨fun name => Sys.init (idFromName name)⟩

/-- One event: the instance it reaches takes the step, and the others stay as they were. -/
def Worker.step (W : Worker) (e : WorkerEvent) : Worker :=
  match e.target with
  | some (name, ev) => ⟨Function.update W.inst name ((W.inst name).step J A ev)⟩
  | none => W

/-- A run of events. -/
def Worker.run : List WorkerEvent → Worker → Worker
  | [], W => W
  | e :: es, W => Worker.run es (W.step J A e)

/-- What `e` is to the instance `name`, if it reaches it. -/
def WorkerEvent.eventFor (name : String) (e : WorkerEvent) : Option Event :=
  match e.target with
  | some (n, ev) => if n = name then some ev else none
  | none => none

/-- The events of a run that reach the instance `name`, as that instance sees them. -/
def eventsFor (name : String) (es : List WorkerEvent) : List Event :=
  es.filterMap fun e => e.eventFor name

variable {J A}

theorem Sys.run_append (es es' : List Event) (s : Sys) :
    s.run J A (es ++ es') = (s.run J A es).run J A es' := by
  induction es generalizing s with
  | nil => rfl
  | cons e es ih => exact ih _

/-- One event changes at most the instance it reaches. -/
theorem Worker.inst_step (W : Worker) (e : WorkerEvent) (name : String) :
    (W.step J A e).inst name = (W.inst name).run J A (e.eventFor name).toList := by
  unfold Worker.step WorkerEvent.eventFor
  rcases e.target with _ | ⟨n, ev⟩
  · rfl
  · by_cases h : n = name
    · subst h
      simp [Sys.run]
    · simp [h, Function.update_noteq (Ne.symm h), Sys.run]

/-- **An instance runs exactly the events routed to it.** Over any run of the worker, the
instance `name` ends as it would after the events that reach it, in their order; a request
routed elsewhere, the test page and a 404 never touch it. -/
theorem Worker.inst_run : ∀ (es : List WorkerEvent) (W : Worker) (name : String),
    (W.run J A es).inst name = (W.inst name).run J A (eventsFor name es)
  | [], _, _ => rfl
  | e :: es, W, name => by
    have hsplit : eventsFor name (e :: es) = (e.eventFor name).toList ++ eventsFor name es := by
      cases h : e.eventFor name <;> simp [eventsFor, h]
    rw [Worker.run, Worker.inst_run es, Worker.inst_step, hsplit, Sys.run_append]

variable (J) in
/-- What a client of the instance `name` does, as the worker sees it: a connect or a plain
request goes to `/agent/<name>`, and frames, closes and evictions reach the instance directly. -/
def CounterEvent.toWorkerEvent (name : String) : CounterEvent → WorkerEvent
  | .connect => .request ("/agent/" ++ name) true
  | .request => .request ("/agent/" ++ name) false
  | .call ws id c => .message name ws (.text (J.text (callRequest id c)))
  | .push ws c => .message name ws (.text (J.text (stateMessage c.toState)))
  | .disconnect ws code reason wasClean => .close name ws code reason wasClean
  | .evict => .evict name

/-- The counter of the instance `name`, after the events of a run addressed to it. -/
def counterOf (es : List (String × CounterEvent)) (name : String) : CounterSys :=
  CounterSys.init.run ((es.filter fun p => p.1 = name).map Prod.snd)

/-- `/agent/<name>` routes to `name`. -/
theorem route_instance {name : String} (hname : name ≠ "") (hn : '/' ∉ name.toList) :
    route ("/agent/" ++ name) = .agent name := by
  have hpath : ("/agent/" ++ name).toList = '/' :: ("agent".toList ++ '/' :: name.toList) := by
    simp
  refine @route_of_third_piece _ _ "agent".toList [] (by simp [pyStartsWith, hpath, List.isPrefixOf])
    ?_ hname
  rw [hpath, splitOn, if_pos rfl, splitOn_append_cons (by decide), splitOn_of_not_mem hn]

theorem eventFor_toWorkerEvent {n : String} (hn : n ≠ "" ∧ '/' ∉ n.toList) (e : CounterEvent)
    (name : String) :
    (e.toWorkerEvent J n).eventFor name = if n = name then some (e.toEvent J) else none := by
  cases e <;> simp [CounterEvent.toWorkerEvent, WorkerEvent.eventFor, WorkerEvent.target,
    route_instance hn.1 hn.2, CounterEvent.toEvent]

/-- The events that reach the instance `name` are those addressed to it, in order. -/
theorem eventsFor_toWorkerEvent (name : String) : ∀ (es : List (String × CounterEvent)),
    (∀ p ∈ es, p.1 ≠ "" ∧ '/' ∉ p.1.toList) →
    eventsFor name (es.map fun p => p.2.toWorkerEvent J p.1) =
      ((es.filter fun p => p.1 = name).map Prod.snd).map (CounterEvent.toEvent J)
  | [], _ => rfl
  | p :: es, hnames => by
    have ih := eventsFor_toWorkerEvent name es fun q hq => hnames q (List.mem_cons_of_mem _ hq)
    simp only [eventsFor] at ih ⊢
    rw [List.map_cons, List.filterMap_cons, eventFor_toWorkerEvent (hnames p (List.mem_cons_self _ _))]
    by_cases h : p.1 = name <;> simp [h, ih]

/-- **Every instance of the worker is its own counter.** Clients of named `CounterAgent` instances
connect and request through `/agent/<name>`, for names that are not empty and hold no `/`, and
their frames, closes and evictions reach their instance. After any run whose events addressed to
`name` have counts that fit, the instance of `name` is the counter of those events. Its registry
is that counter's clients, a read returns the counter's state dict, and every connected client
holds it. The next call from a connected client whose counts fit is answered with the abstract
result. -/
theorem worker_counters (J : JsonCodec) (idFromName : String → String)
    (es : List (String × CounterEvent)) (hnames : ∀ p ∈ es, p.1 ≠ "" ∧ '/' ∉ p.1.toList)
    (name : String)
    (hfit : CounterSys.runFits ((es.filter fun p => p.1 = name).map Prod.snd) CounterSys.init) :
    let W := (Worker.init idFromName).run J counterAgent (es.map fun p => p.2.toWorkerEvent J p.1)
    let a := counterOf es name
    (W.inst name).world.sockets = a.clients ∧
      (state J counterAgent (W.inst name).world).1 = .ok a.counter.toState ∧
      (∀ ws ∈ (W.inst name).world.sockets, (W.inst name).view ws = a.counter.toState) ∧
      ∀ ws ∈ a.clients, ∀ (id : String) (c : CounterCall), c.Fits → (a.counter.call c).1.Fits →
        ((W.step J counterAgent ((CounterEvent.call ws id c).toWorkerEvent J name)).inst name).world.trace.getLast? =
          some (.send ws (J.text (rpcResult (.str id) (.int (a.counter.call c).2)))) := by
  intro W a
  have hs : W.inst name = (Sys.init (idFromName name)).run J counterAgent
      (((es.filter fun p => p.1 = name).map Prod.snd).map (CounterEvent.toEvent J)) := by
    rw [← eventsFor_toWorkerEvent name es hnames]
    exact Worker.inst_run _ _ name
  have hsim : a.Sim J (W.inst name) := hs ▸ CounterSys.Sim.run _ (CounterSys.sim_init _) hfit
  obtain ⟨hsock, hread, hview, hreply⟩ := hsim.shows
  refine ⟨hsock, hread, hview, fun ws hws id c hc hnew => ?_⟩
  have hev : ((CounterEvent.call ws id c).toWorkerEvent J name).eventFor name =
      some ((CounterEvent.call ws id c).toEvent J) := by
    simp [CounterEvent.toWorkerEvent, WorkerEvent.eventFor, WorkerEvent.target, CounterEvent.toEvent]
  rw [Worker.inst_step, hev, Option.toList_some, Sys.run, Sys.run]
  exact hreply ws hws id c hc hnew

/-- Clients of the instances `a` and `b` connect; the client of `a` calls `increment(2)`, and `b`
is evicted. The instance `a` is the counter `2`. -/
theorem worker_counters_two :
    let es := [("a", CounterEvent.connect), ("b", .connect), ("a", .call ⟨0⟩ "1" (.increment 2)),
      ("b", .evict)]
    (∀ p ∈ es, p.1 ≠ "" ∧ '/' ∉ p.1.toList) ∧
      CounterSys.runFits ((es.filter fun p => p.1 = "a").map Prod.snd) CounterSys.init ∧
      (counterOf es "a").counter = ⟨2, some "increment"⟩ ∧
      let W := (Worker.init id).run refCodec counterAgent (es.map fun p => p.2.toWorkerEvent refCodec p.1)
      let a := counterOf es "a"
      (W.inst "a").world.sockets = a.clients ∧
        (state refCodec counterAgent (W.inst "a").world).1 = .ok a.counter.toState ∧
        (∀ ws ∈ (W.inst "a").world.sockets, (W.inst "a").view ws = a.counter.toState) ∧
        ∀ ws ∈ a.clients, ∀ (id : String) (c : CounterCall), c.Fits → (a.counter.call c).1.Fits →
          ((W.step refCodec counterAgent ((CounterEvent.call ws id c).toWorkerEvent refCodec "a")).inst
            "a").world.trace.getLast? =
            some (.send ws (refCodec.text (rpcResult (.str id) (.int (a.counter.call c).2)))) :=
  ⟨by decide, by decide, by decide, worker_counters refCodec id _ (by decide) "a" (by decide)⟩

end PyAgents
