import PyAgents.Agent.Messages

/-!
# WebSocket upgrades

What `fetch` sends on an upgrade. The socket is registered with `acceptWebSocket` before anything
is sent, then the identity message goes out, then the state is read, and a state message follows
when the state is not `None`.

Reading the state is where the two cases part. When the state is resolved (or the class has no
`initial_state`), the read changes at most the cache, and the new socket receives the identity
message and at most one state message (`fetch_upgrade_resolved`). On the first read of an agent
with an `initial_state`, the read persists the default through `_set_state_internal`, whose loop
over `getWebSockets()` already includes the socket just accepted: that socket receives the state
message twice (`fetch_upgrade_fresh`).

## Main results

* `state_of_tracks`, `state_of_fresh` — the read, in the two cases
* `fetch_upgrade_resolved`, `fetch_upgrade_fresh` — the upgrade, in the two cases
-/

namespace PyAgents

open Call

variable {J : JsonCodec} {A : AgentClass}

/-! ## The read -/

/-- A read from a world holding `last` whose state is resolved, or whose class has no
`initial_state`, returns what the register holds and changes at most the cache. -/
theorem state_of_tracks {w : World} {last : Option PyVal} (h : Tracks J A w last)
    (hr : w.cache ≠ .unset ∨ w.rows stateWasChanged ≠ none ∨ A.initialState = .unset) :
    ∃ c, state J A w = (.ok (last.getD A.defaultState), { w with cache := c }) := by
  by_cases hc : w.cache = .unset
  · cases hm : w.rows stateWasChanged with
    | none =>
      have hi : A.initialState = .unset := by simpa [hc, hm] using hr
      obtain ⟨rfl, -⟩ := h.unmarked hm
      exact ⟨w.cache, by simp [state_of_unmarked_unset hc hm hi, AgentClass.defaultState, hi]⟩
    | some m =>
      obtain ⟨t, hrow, hd⟩ := h.stored (by simp [hm])
      exact ⟨_, state_of_stored hc hm hrow hd⟩
  · exact ⟨w.cache, by rw [state_of_cache hc, ← h.cached hc]⟩

/-- **The first read persists the default.** With nothing resolved and nothing stored, a read
writes `initial_state` through `_set_state_internal`, broadcasting it to every registered
socket. -/
theorem state_of_fresh {w : World} (hc : w.cache = .unset) (hm : w.rows stateWasChanged = none)
    (hi : J.Fits A.initialState) (hb : w.broken = []) :
    state J A w = (.ok A.initialState, { w.write J A.initialState with
      trace := w.trace ++ fanout (J.text (stateMessage A.initialState)) none w.sockets ++
        [.onStateChanged A.initialState] }) := by
  have hne : A.initialState ≠ .unset := by rintro h; simpa [h] using hi.1
  rw [state_of_unmarked_initial hc hm hne, hi.setStateInternal none (by simp [hb])]

/-! ## The upgrade -/

variable (J) in
/-- The state message an upgrade sends after reading `current`: one, unless it is `None`. -/
def greeting (s : Conn) (current : PyVal) : List Effect :=
  if current ≠ .none then [.send s (J.text (stateMessage current))] else []

/-- **An upgrade on a resolved state.** The new socket is sent the identity message, then at most
one state message, carrying what a read returns; nothing is sent to another socket, and only the
cache changes besides the registration. -/
theorem fetch_upgrade_resolved {w : World} {last : Option PyVal} (h : Tracks J A w last)
    (hr : w.cache ≠ .unset ∨ w.rows stateWasChanged ≠ none ∨ A.initialState = .unset)
    (hj : J.Fits (last.getD A.defaultState)) :
    ∃ c, fetch J A ⟨some "websocket"⟩ w = (.ok (.webSocket ⟨w.nextSocket⟩),
      { w with
        cache := c
        sockets := w.sockets ++ [⟨w.nextSocket⟩]
        nextSocket := w.nextSocket + 1
        trace := w.trace ++
          .send ⟨w.nextSocket⟩ (J.text (identityMessage w.ctxId (camelToKebab A.name))) ::
            greeting J ⟨w.nextSocket⟩ (last.getD A.defaultState) ++ [.onConnect ⟨w.nextSocket⟩] }) := by
  have hws : (⟨some "websocket"⟩ : Request).isWebSocket = true := by decide
  obtain ⟨c, hs⟩ := state_of_tracks (frameClosed_tracks A last w
    { w with
      sockets := w.sockets ++ [⟨w.nextSocket⟩]
      nextSocket := w.nextSocket + 1
      trace := w.trace ++ [.send ⟨w.nextSocket⟩ (J.text (identityMessage w.ctxId (camelToKebab A.name)))] }
    h rfl rfl rfl) hr
  dsimp only at hs
  have hnb : (⟨w.nextSocket⟩ : Conn) ∉ w.broken := by simp [h.reliable]
  refine ⟨c, ?_⟩
  by_cases hn : last.getD A.defaultState = .none
  · simp [fetch, hws, sendJson, (loaded_identityMessage _ _).dumps, wsSend, hnb, hs, hn, greeting]
  · simp [fetch, hws, sendJson, (loaded_identityMessage _ _).dumps, hj.stateMessage_loaded.dumps,
      wsSend, hnb, hs, hn, greeting]

/-- **The first upgrade of an agent with an `initial_state` greets twice.** The read persists the
default and broadcasts it to every registered socket, the new one included; then `fetch` sends
the new socket the state message once more. -/
theorem fetch_upgrade_fresh {w : World} (hc : w.cache = .unset) (hm : w.rows stateWasChanged = none)
    (hi : J.Fits A.initialState) (hb : w.broken = []) :
    fetch J A ⟨some "websocket"⟩ w = (.ok (.webSocket ⟨w.nextSocket⟩),
      { w.write J A.initialState with
        sockets := w.sockets ++ [⟨w.nextSocket⟩]
        nextSocket := w.nextSocket + 1
        trace := w.trace ++
          .send ⟨w.nextSocket⟩ (J.text (identityMessage w.ctxId (camelToKebab A.name))) ::
            fanout (J.text (stateMessage A.initialState)) none (w.sockets ++ [⟨w.nextSocket⟩]) ++
            .onStateChanged A.initialState :: greeting J ⟨w.nextSocket⟩ A.initialState ++
            [.onConnect ⟨w.nextSocket⟩] }) := by
  have hws : (⟨some "websocket"⟩ : Request).isWebSocket = true := by decide
  have hs := @state_of_fresh J A
    { w with
      sockets := w.sockets ++ [⟨w.nextSocket⟩]
      nextSocket := w.nextSocket + 1
      trace := w.trace ++ [.send ⟨w.nextSocket⟩ (J.text (identityMessage w.ctxId (camelToKebab A.name)))] }
    hc hm hi hb
  dsimp only at hs
  have hnb : (⟨w.nextSocket⟩ : Conn) ∉ w.broken := by simp [hb]
  by_cases hn : A.initialState = .none
  · simp [fetch, hws, sendJson, (loaded_identityMessage _ _).dumps, wsSend, hnb, hs, hn, greeting,
      World.write]
  · simp [fetch, hws, sendJson, (loaded_identityMessage _ _).dumps, hi.stateMessage_loaded.dumps,
      wsSend, hnb, hs, hn, greeting, World.write]

/-- The first upgrade of a fresh `CounterAgent` sends the new socket the identity message and then
the state message twice. -/
theorem counter_first_upgrade :
    (fetch refCodec counterAgent ⟨some "websocket"⟩ (World.init "counter")).2.trace =
      [.send ⟨0⟩ (refCodec.text (identityMessage "counter" "counter-agent")),
        .send ⟨0⟩ (refCodec.text (stateMessage counterInitialState)),
        .onStateChanged counterInitialState,
        .send ⟨0⟩ (refCodec.text (stateMessage counterInitialState)),
        .onConnect ⟨0⟩] := by
  rw [fetch_upgrade_fresh rfl rfl fits_counterInitialState rfl]
  have hname : camelToKebab counterAgent.name = "counter-agent" := by decide
  have hinit : counterAgent.initialState = counterInitialState := rfl
  simp [World.init, hname, hinit, fanout, greeting, show counterInitialState ≠ .none by decide]

end PyAgents
