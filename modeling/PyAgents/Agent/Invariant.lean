import PyAgents.Agent.Rpc

/-!
# A property of the state over every run

`Clients` shows that every registered client holds what a read of `state` returns; this module
says what that value can be. A property `G` of states is kept by a class when every method body,
reading `G`-states, stores only `G`-states (`AgentClass.Keeps`). Then over every run whose writes
fit and whose state pushes carry `G`-states, and from an `initial_state` satisfying `G`, a read
returns a `G`-state, and every registered client holds it.

The world invariant is `Kept`: the world stores a `G`-state. Only the reads and writes of the
state, and the state pushes, touch it; the rest of what a handler does is a send or a hook, which
`Kept`, looking only at the cache, the rows and the broken sockets, does not see (`FrameClosed`).
An RPC body runs as it evaluates (`Prog.run_stores`), and its evaluation keeps `G`
(`Prog.Keeps.eval`).

The hypothesis on pushes cannot be dropped: a client may push any JSON value, and the agent
stores it unchecked.

`CounterAgent` keeps the shape of its state: a dict whose keys are `count` and `last_action`, in
that order, with `last_action` either `None` or the name of the method that wrote it.

## Main results

* `Prog.Keeps.eval` — a body that keeps `G` leaves a `G`-state
* `Sys.kept_step`, `Sys.kept_run` — every event, and so every run whose writes fit, keeps `Kept`
* `state_kept` — after every run whose writes fit, a read returns a `G`-state that every
  registered client holds
* `counterAgent_keeps` — `CounterAgent`'s methods write states of its shape
* `counter_state_shape` — after every run whose writes fit, `CounterAgent`'s state has that shape
-/

namespace PyAgents

open Call

/-! ## Method bodies that keep a property of the state -/

/-- A method body stores only `G`-states, whatever JSON `G`-states it reads. -/
def Prog.Keeps (G : PyVal → Prop) : Prog → Prop
  | .ret _ | .raise _ => True
  | .getState k => ∀ v, v.isJson → G v → (k v).Keeps G
  | .setState v k => G v ∧ k.Keeps G

/-- Every method of the class, called with JSON arguments, stores only `G`-states when it reads
`G`-states. -/
def AgentClass.Keeps (A : AgentClass) (G : PyVal → Prop) : Prop :=
  ∀ name marked body, A.getattr name = some (.function marked body) →
    ∀ args : List PyVal, (∀ a ∈ args, a.isJson) → (body args).Keeps G

/-- Evaluated from a JSON `G`-state, a body that keeps `G` and whose writes fit leaves a
`G`-state: every value it reads is one it wrote, or `st`. -/
theorem Prog.Keeps.eval {J : JsonCodec} {G : PyVal → Prop} :
    ∀ {p : Prog} {st : PyVal}, p.Keeps G → p.storesFit J st → st.isJson → G st → G (p.eval st).2
  | .ret _, _, _, _, _, hg => hg
  | .raise _, _, _, _, _, hg => hg
  | .getState k, st, hk, hp, hj, hg => @Prog.Keeps.eval J G (k st) st (hk st hj hg) hp hj hg
  | .setState _ k, _, hk, hp, _, _ => by
    simp only [Prog.storesFit, Bool.and_eq_true, decide_eq_true_eq] at hp
    exact @Prog.Keeps.eval J G k _ hk.2 hp.2 hp.1.1 hk.1

/-- The body `_handle_rpc` runs for a JSON request keeps what every method of the class keeps. -/
theorem AgentClass.Keeps.rpcBody {A : AgentClass} {G : PyVal → Prop} (hG : A.Keeps G)
    {kvs : List (String × PyVal)} (hp : (PyVal.dict kvs).isJson) {p : Prog}
    (hb : PyAgents.rpcBody A kvs = some p) : p.Keeps G := by
  obtain ⟨name, marked, body, xs, hattr, hxs, rfl⟩ := rpcBody_eq_some hb
  exact hG name marked body hattr xs (isJson_of_starArgs
    (PyVal.isJson_of_getD hp (rfl : (PyVal.list []).isJson = true) rfl) hxs)

/-! ## The shape of `CounterAgent`'s state -/

/-- The values `CounterAgent` stores as `last_action`: `None` in `initial_state`, else the name
of the method that wrote the state. -/
def counterActions : List PyVal := [.none, .str "increment", .str "decrement", .str "reset"]

/-- `{"count": c, "last_action": a}`, with `a` one of `counterActions`. -/
def isCounterState : PyVal → Bool
  | .dict [("count", _), ("last_action", a)] => decide (a ∈ counterActions)
  | _ => false

/-- A property of bodies that holds of every `raise` holds of a method `def f(self, amount=d)`
when it holds of its body on the default and on every JSON argument. -/
theorem optionalArg_of (P : Prog → Prop) (hraise : ∀ e, P (.raise e)) {qualname : String}
    {default : PyVal} {body : PyVal → Prog} (hd : default.isJson) (hb : ∀ a, a.isJson → P (body a)) :
    ∀ args : List PyVal, (∀ a ∈ args, a.isJson) → P (optionalArg qualname default body args)
  | [], _ => hb _ hd
  | [a], h => hb a (h a (.head _))
  | _ :: _ :: _, _ => hraise _

/-- The same for a method `def f(self)`. -/
theorem noArgs_of (P : Prog → Prop) (hraise : ∀ e, P (.raise e)) {qualname : String} {body : Prog}
    (hb : P body) : ∀ args : List PyVal, P (noArgs qualname body args)
  | [] => hb
  | _ :: _ => hraise _

/-- The methods `getattr` finds on `CounterAgent` are its four. -/
theorem counterAgent_method {name : String} {marked : Bool} {body : List PyVal → Prog}
    (h : counterAgent.getattr name = some (.function marked body)) :
    body = decrement ∨ body = getCount ∨ body = increment ∨ body = reset := by
  have hl : counterAgent.classAttrs.lookup name = some (.function marked body) := by
    simpa [AgentClass.getattr, counterAgent] using h
  obtain ⟨l₁, l₂, hcl, -⟩ := List.lookup_eq_some_iff.mp hl
  have hmem : (name, Attr.function marked body) ∈ counterAgent.classAttrs :=
    hcl ▸ List.mem_append_right _ (.head _)
  simp only [counterAgent, List.mem_cons, Prod.mk.injEq, Attr.function.injEq,
    List.not_mem_nil, or_false] at hmem
  rcases hmem with ⟨-, -, rfl⟩ | ⟨-, -, rfl⟩ | ⟨-, -, rfl⟩ | ⟨-, -, rfl⟩ <;> simp

/-- `increment` and `decrement` write `{"count": count, "last_action": action}`, whatever
operator computes the count. -/
theorem counterStep_keeps {action : String} (haction : PyVal.str action ∈ counterActions)
    (op : PyVal → PyVal → Except PyExc PyVal) (amount : PyVal) :
    (counterStep action op amount).Keeps (isCounterState · = true) := by
  intro st _ _
  simp only [counterStep]
  split
  · exact ⟨by simpa [isCounterState] using haction, trivial⟩
  · trivial

theorem counterAgent_keeps : counterAgent.Keeps (isCounterState · = true) := by
  intro name marked body h args hargs
  rcases counterAgent_method h with rfl | rfl | rfl | rfl
  · exact optionalArg_of (·.Keeps _) (fun _ => trivial) (by decide)
      (fun _ _ => counterStep_keeps (by decide) _ _) args hargs
  · refine noArgs_of (·.Keeps _) (fun _ => trivial) ?_ args
    intro st _ _
    dsimp only
    split <;> trivial
  · exact optionalArg_of (·.Keeps _) (fun _ => trivial) (by decide)
      (fun _ _ => counterStep_keeps (by decide) _ _) args hargs
  · exact noArgs_of (·.Keeps _) (fun _ => trivial)
      (show Prog.Keeps _ (.setState _ (.ret _)) from ⟨by decide, trivial⟩) args

variable (J : JsonCodec) (A : AgentClass) (G : PyVal → Prop)

/-- The event pushes only `G`-states: a text frame that is a state message carries one. -/
def Event.PushesKept : Event → Prop
  | .message _ (.text t) => ∀ v, received J t = some v → G v
  | _ => True

/-- The world stores a value satisfying `G`: the value a read of `state` returns. -/
def Kept (w : World) : Prop := ∃ st, Stores J A st w ∧ G st

variable {J A G}

theorem frameClosed_kept : FrameClosed (Kept J A G) :=
  fun w w' ⟨st, ⟨last, h, hl⟩, hg⟩ hc hr hb => ⟨st, ⟨last, frameClosed_tracks A last w w' h hc hr hb, hl⟩, hg⟩

/-- Before any event nothing is stored: a read returns the default. -/
theorem kept_init (hdef : G A.defaultState) (ctxId : String) : Kept J A G (Sys.init ctxId).world :=
  ⟨_, ⟨none, tracks_init A ctxId, rfl⟩, hdef⟩

theorem Call.Triple.of_preserves {P : World → Prop} {α} {c : Call α} (h : c.Preserves P) :
    Triple P c (fun _ => True) :=
  fun w hw => ⟨h w hw, fun _ _ => trivial⟩

theorem triple_sendJson_kept (ws : Conn) (msg : PyVal) :
    Triple (Kept J A G) (sendJson J ws msg) (fun _ => True) :=
  .of_preserves (preserves_sendJson frameClosed_kept ws msg)

/-! ## Each handler keeps `Kept` -/

section Handlers

variable (hinit : A.initialState = .unset ∨ J.Fits A.initialState)
include hinit

/-- A read keeps `Kept`. -/
theorem triple_state_kept : Triple (Kept J A G) (state J A) (fun _ => True) :=
  fun _ ⟨st, h, hg⟩ => ⟨⟨st, (stores_state A hinit h).2, hg⟩, fun _ _ => trivial⟩

variable (hG : A.Keeps G)
include hG

/-- **An RPC keeps `Kept`**, when the body it runs stores values that fit: its replies are sends,
and its body runs as it evaluates, which keeps `G`. -/
theorem kept_handleRpc (ws : Conn) {kvs : List (String × PyVal)} (hp : (PyVal.dict kvs).isJson)
    {st : PyVal} {w : World} (hw : Stores J A st w) (hg : G st)
    (hfit : (rpcBody A kvs).all (·.storesFit J st)) :
    Kept J A G (handleRpc J A ws (.dict kvs) w).2 := by
  rcases @handleRpc_cases J A ws kvs with ⟨-, h⟩ | ⟨error, h⟩ | ⟨p, hb, h⟩ <;> rw [h]
  · exact ⟨st, hw, hg⟩
  · exact (triple_sendJson_kept ws _ w ⟨st, hw, hg⟩).1
  · have hpf : p.storesFit J st := by simpa [hb] using hfit
    obtain ⟨h1, h2⟩ := Prog.run_stores A hinit hpf hw
    have hx : Kept J A G (p.run J A w).2 ∧ ∀ r, (p.run J A w).1 = .ok r → True :=
      ⟨⟨_, h2, (hG.rpcBody hp hb).eval hpf (hw.fits A hinit).1 hg⟩, fun _ _ => trivial⟩
    exact Triple.tryCatch_bind_at hx
      (fun _ _ => triple_sendJson_kept ws _) fun _ => triple_sendJson_kept ws _

/-- A frame keeps `Kept` when a state push in it carries a `G`-state and an RPC in it asks only
for writes that fit: the push stores its state, and any other frame goes through an RPC or a
hook. -/
theorem kept_webSocketMessage (ws : Conn) {frame : Frame}
    (hpush : ∀ t, frame = .text t → ∀ v, received J t = some v → G v) {w : World}
    (hw : Kept J A G w) (hfit : Event.storesFit J A w (.message ws frame)) :
    Kept J A G (webSocketMessage J A ws frame w).2 := by
  cases frame with
  | binary data => exact preserves_emit frameClosed_kept _ w hw
  | text t =>
    cases hr : received J t with
    | some v =>
      obtain ⟨st, h, -⟩ := hw
      rw [webSocketMessage_received hr ws (let ⟨_, ht, _⟩ := h; ht.reliable)]
      obtain ⟨-, h'⟩ := stores_setStateInternal A (fits_of_received hr) h (some ws)
      rw [(fits_of_received hr).setStateInternal (some ws)
        (by let ⟨_, ht, _⟩ := h; simp [ht.reliable])] at h'
      exact ⟨v, h', hpush t rfl v hr⟩
    | none =>
      cases hl : J.loads t with
      | error e =>
        by_cases he : e.cls = .jsonDecodeError
        · rw [webSocketMessage_undecodable hl he]
          exact preserves_emit frameClosed_kept _ w hw
        · rw [webSocketMessage_loads_raise hl he]
          exact hw
      | ok parsed =>
        cases parsed with
        | dict kvs =>
          simp only [received, hl, stateOf_dict] at hr
          rw [webSocketMessage_object hl, if_neg (by simpa using hr)]
          split
          · next hrpc =>
            obtain ⟨st, h, hg⟩ := hw
            have hst := (stores_state A hinit h).1
            exact kept_handleRpc hinit hG ws (J.isJson_of_loads hl) h hg
              (storesFit_rpcBody hfit hl hrpc hst)
          · exact preserves_emit frameClosed_kept _ w hw
        | _ =>
          rw [webSocketMessage_not_object hl (by simp) ws w]
          exact hw

end Handlers

/-! ## Every run keeps `Kept` -/

section Run

variable (hinit : A.initialState = .unset ∨ J.Fits A.initialState) (hG : A.Keeps G)
include hinit hG

theorem Sys.kept_step {s : Sys} (hs : Kept J A G s.world) :
    ∀ e : Event, e.PushesKept J G → e.storesFit J A s.world → Kept J A G (s.step J A e).world
  | .upgrade, _, _ => preserves_fetch_upgrade_of A frameClosed_kept
      (fun w hw => (triple_state_kept hinit w hw).1) _ hs
  | .fetch, _, _ => by
    have hws : (⟨none⟩ : Request).isWebSocket = false := rfl
    have hfetch : Triple (Kept J A G) (fetch J A ⟨none⟩) (fun _ => True) := by
      unfold fetch
      rw [if_neg (by simp [hws])]
      exact .bind (triple_state_kept hinit) fun _ _ =>
        .bind (.lift fun _ _ => trivial) fun _ _ => .pure trivial
    exact (hfetch _ hs).1
  | .message ws frame, he, hfit => by
    simp only [Sys.step]
    split
    · exact kept_webSocketMessage hinit hG ws (by rintro t rfl; exact he) hs hfit
    · exact hs
  | .close ws code reason wasClean, _, _ => by
    simp only [Sys.step]
    split
    · exact frameClosed_kept _ _ hs rfl rfl rfl
    · exact hs
  | .restart, _, _ => let ⟨st, ⟨last, h, hl⟩, hg⟩ := hs; ⟨st, ⟨last, h.restart, hl⟩, hg⟩

theorem Sys.kept_run : ∀ (events : List Event) {s : Sys}, (∀ e ∈ events, e.PushesKept J G) →
    Sys.storesFit J A events s → Kept J A G s.world → Kept J A G (s.run J A events).world
  | [], _, _, _, hs => hs
  | e :: es, _, he, hfit, hs => by
    simp only [Sys.storesFit, Bool.and_eq_true] at hfit
    exact Sys.kept_run es (fun e' h => he e' (.tail _ h)) hfit.2
      (Sys.kept_step hinit hG hs e (he e (.head _)) hfit.1)

end Run

/-- In a state the system reaches, a registered client holds what the world stores. -/
theorem Sys.Inv.view_eq (hinit : A.initialState = .unset ∨ J.Fits A.initialState) {s : Sys}
    (hs : s.Inv J A) {st : PyVal} (h : Stores J A st s.world) :
    ∀ ws ∈ s.world.sockets, s.view ws = st := by
  obtain ⟨⟨last', hag⟩, -, -⟩ := hs
  intro ws hws
  rw [hag.agree ws hws]
  exact Except.ok.inj ((tracks_state A hinit hag.tracks).1.symm.trans (stores_state A hinit h).1)

/-- **`CounterAgent`'s state keeps its shape.** Over every run whose writes fit and whose state
pushes carry states of the shape `{"count": c, "last_action": a}`, a read of `state` returns a
state of that shape, with `last_action` `None` or the name of the method that wrote it, and every
registered client holds it. -/
theorem counter_state_shape (J : JsonCodec) (ctxId : String) (events : List Event)
    (hpush : ∀ e ∈ events, e.PushesKept J (isCounterState · = true))
    (hfit : Sys.storesFit J counterAgent events (Sys.init ctxId)) :
    let s := (Sys.init ctxId).run J counterAgent events
    ∃ v, (state J counterAgent s.world).1 = .ok v ∧ isCounterState v ∧
      ∀ ws ∈ s.world.sockets, s.view ws = v := by
  have hinit : counterAgent.initialState = .unset ∨ J.Fits counterAgent.initialState :=
    .inr fits_counterInitialState
  obtain ⟨st, h, hg⟩ := Sys.kept_run hinit counterAgent_keeps events hpush hfit
    (kept_init (by decide) ctxId)
  exact ⟨st, (stores_state counterAgent hinit h).1, hg,
    (Sys.Inv.run hinit events (Sys.inv_init ctxId) hfit).view_eq hinit h⟩

/-- `CounterAgent`: a client connects and pushes `{"count": 7, "last_action": "reset"}`, the
agent is evicted, and a second client connects. -/
theorem counter_state_shape_push :
    let events := [Event.upgrade, .message ⟨0⟩ (.text
      "\x7b\"type\":\"cf_agent_state\",\"state\":\x7b\"count\":7,\"last_action\":\"reset\"\x7d\x7d"),
      .restart, .upgrade]
    (∀ e ∈ events, e.PushesKept refCodec (isCounterState · = true)) ∧
      Sys.storesFit refCodec counterAgent events (Sys.init "counter") ∧
      let s := (Sys.init "counter").run refCodec counterAgent events
      ∃ v, (state refCodec counterAgent s.world).1 = .ok v ∧ isCounterState v ∧
        ∀ ws ∈ s.world.sockets, s.view ws = v := by
  intro events
  have hpush : ∀ e ∈ events, e.PushesKept refCodec (isCounterState · = true) := by
    intro e he
    simp only [events, List.mem_cons, List.not_mem_nil, or_false] at he
    rcases he with rfl | rfl | rfl | rfl
    all_goals try trivial
    intro v hv
    change some (.dict [("count", .int 7), ("last_action", .str "reset")]) = some v at hv
    cases hv
    rfl
  exact ⟨hpush, by decide, counter_state_shape refCodec "counter" events hpush (by decide)⟩

end PyAgents
