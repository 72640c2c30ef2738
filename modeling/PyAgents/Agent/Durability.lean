import PyAgents.Agent.Socket
import PyAgents.Agent.Counter
import PyAgents.Python.JsonText

/-!
# Restarts are invisible

A Durable Object may be evicted between any two events and rebuilt from storage; with WebSocket
hibernation this happens while clients stay connected. The rebuilt instance starts from
`_state = _UNSET` over the same `cf_agents_state` rows and the same sockets (`World.restart`).
The agent is right to cache the state in memory only if no client can tell: every read of
`state`, and every message sent, must be what it would have been with the instance kept alive.

## Why it holds

The cache never says anything the table does not. `Coherent` is that invariant: behind the
marker row there is a current row that decodes, and a resolved cache holds what it decodes to.
On a coherent world the getter returns the same value from the cache as from the table, and
leaves the same world behind (`state_restart`); the write path starts by overwriting the cache
(`setStateInternal_restart`); every other primitive ignores the cache. So a handler run on a
restarted world returns what it returns on the original, and the two worlds after it differ at
most by a restart (`Call.Stable`). One induction over the run then removes the restarts
(`runOps_eraseRestarts`).

Coherence needs `initial_state` to be unset or a value the agent can keep (`JsonCodec.Fits`),
and every write to be of such a value. A value `json.dumps` refuses, a set or an int of more than
4300 digits, is cached and never stored, and a restart does observe that: the read after it
resolves the table again (`restart_reverts_bigInt`).

## Main results

* `state_restart`, `Call.Stable` — one handler cannot tell a world from its restart
* `runOps_eraseRestarts` — a run and the same run without its restarts read and send the same
* `reads_tracks` — every read returns the last value written, else `initial_state`, else `None`
* `restarts_invisible` — the law, for runs whose writes `json.dumps` accepts
* `restart_reverts_bigInt` — a restart after `set_state(10 ** 4301)` changes the next read
-/

namespace PyAgents

open Call

/-! ## Restarts -/

/-- The instance the runtime builds after an eviction: `_state` is `_UNSET` again, storage and
sockets are kept. -/
def World.restart (w : World) : World := { w with cache := .unset }

@[simp] theorem World.restart_cache (w : World) : w.restart.cache = .unset := rfl
@[simp] theorem World.restart_trace (w : World) : w.restart.trace = w.trace := rfl
@[simp] theorem World.restart_rows (w : World) : w.restart.rows = w.rows := rfl
@[simp] theorem World.restart_sockets (w : World) : w.restart.sockets = w.sockets := rfl
@[simp] theorem World.restart_broken (w : World) : w.restart.broken = w.broken := rfl
@[simp] theorem World.restart_restart (w : World) : w.restart.restart = w.restart := rfl

theorem World.restart_of_unset {w : World} (h : w.cache = .unset) : w.restart = w := by
  cases w; simp_all [World.restart]

/-- `w'` is `w`, or `w` restarted. -/
def Forgets (w w' : World) : Prop := w' = w ∨ w' = w.restart

theorem Forgets.refl (w : World) : Forgets w w := .inl rfl

theorem Forgets.restart (w : World) : Forgets w w.restart := .inr rfl

theorem Forgets.trace {w w' : World} (h : Forgets w w') : w'.trace = w.trace := by
  rcases h with rfl | rfl <;> rfl

theorem Forgets.trans {w₁ w₂ w₃ : World} (h₁ : Forgets w₁ w₂) (h₂ : Forgets w₂ w₃) :
    Forgets w₁ w₃ := by
  rcases h₁ with rfl | rfl <;> rcases h₂ with rfl | rfl <;> simp [Forgets]

/-! ## The invariant -/

variable (J : JsonCodec) (A : AgentClass)

/-- The table can answer for the cache. -/
structure Coherent (w : World) : Prop where
  /-- Behind the marker row there is a current row, and it decodes. -/
  row : w.rows stateWasChanged ≠ none →
    ∃ t v, w.rows stateRowId = some (some t) ∧ J.loads t = .ok v
  /-- A resolved cache holds what the current row decodes to, behind the marker row. -/
  cache : w.cache ≠ .unset → w.rows stateWasChanged ≠ none ∧
    ∃ t, w.rows stateRowId = some (some t) ∧ J.loads t = .ok w.cache

variable {J}

theorem Coherent.restart {w : World} (h : Coherent J w) : Coherent J w.restart :=
  ⟨h.row, by simp⟩

/-- Coherence reads only the cache and the rows. -/
theorem Coherent.congr {w w' : World} (h : Coherent J w) (hc : w'.cache = w.cache)
    (hr : w'.rows = w.rows) : Coherent J w' :=
  ⟨hr ▸ h.row, hc ▸ hr ▸ h.cache⟩

/-- After a write of a value the agent can keep, the table answers for it. -/
theorem coherent_write {v : PyVal} (hv : J.Fits v) (w : World) : Coherent J (w.write J v) :=
  ⟨fun _ => ⟨_, v, by simp [World.write, Function.update_noteq
    stateWasChanged_ne_stateRowId.symm], hv.loaded.loads_text⟩, fun _ => ⟨by simp [World.write], _,
    by simp [World.write, Function.update_noteq stateWasChanged_ne_stateRowId.symm],
    hv.loaded.loads_text⟩⟩

/-! ## Handlers that keep a world property -/

namespace Call

/-- `c` ends in a world satisfying `P` whenever it starts in one, whether it returns or
raises. -/
def Preserves {α} (P : World → Prop) (c : Call α) : Prop := ∀ w, P w → P (c w).2

variable {P : World → Prop}

theorem Preserves.pure {α} (a : α) : (Pure.pure a : Call α).Preserves P := fun _ h => h

theorem Preserves.throw {α} (e : PyExc) : (Call.throw e : Call α).Preserves P := fun _ h => h

theorem Preserves.lift {α} (x : Except PyExc α) : (Call.lift x).Preserves P := by
  cases x <;> intro w h <;> exact h

theorem Preserves.bind {α β} {x : Call α} {f : α → Call β} (hx : x.Preserves P)
    (hf : ∀ a, (f a).Preserves P) : (x >>= f).Preserves P := by
  intro w h
  simp only [bind_apply]
  rcases hxw : x w with ⟨_ | a, w'⟩
  · simpa [hxw] using hx w h
  · exact hf a w' (by simpa [hxw] using hx w h)

theorem Preserves.tryCatch {α} {x : Call α} {handler : PyExc → Call α} (hx : x.Preserves P)
    (hh : ∀ e, (handler e).Preserves P) : (Call.tryCatch x handler).Preserves P := by
  intro w h
  simp only [tryCatch_apply]
  rcases hxw : x w with ⟨_ | a, w'⟩
  · exact hh _ w' (by simpa [hxw] using hx w h)
  · simpa [hxw] using hx w h

theorem Preserves.ite {α} {c : Prop} [Decidable c] {x y : Call α} (hx : x.Preserves P)
    (hy : y.Preserves P) : (if c then x else y).Preserves P := by
  split <;> assumption

end Call

/-- `P` looks only at the cache, the rows and the broken sockets. -/
def FrameClosed (P : World → Prop) : Prop :=
  ∀ w w', P w → w'.cache = w.cache → w'.rows = w.rows → w'.broken = w.broken → P w'

theorem frameClosed_coherent : FrameClosed (Coherent J) := fun _ _ h hc hr _ => h.congr hc hr

section Frame

variable {P : World → Prop} (hP : FrameClosed P)
include hP

/-- A call that touches neither the cache, nor the rows, nor the broken sockets keeps `P`. -/
theorem Call.Preserves.of_frame {α} {c : Call α}
    (h : ∀ w, (c w).2.cache = w.cache ∧ (c w).2.rows = w.rows ∧ (c w).2.broken = w.broken) :
    c.Preserves P :=
  fun w hw => hP w _ hw (h w).1 (h w).2.1 (h w).2.2

theorem preserves_wsSend (ws : Conn) (text : String) : (wsSend ws text).Preserves P :=
  .of_frame hP fun w => by by_cases h : ws ∈ w.broken <;> simp [wsSend, h]

theorem preserves_emit (e : Effect) : (emit e).Preserves P := .of_frame hP fun _ => by simp

theorem preserves_sendJson (ws : Conn) (msg : PyVal) : (sendJson J' ws msg).Preserves P :=
  .bind (.lift _) fun _ => preserves_wsSend hP ws _

theorem preserves_broadcast (msg : String) (sourceWs : Option Conn) (targets : List Conn) :
    (broadcast msg sourceWs targets).Preserves P := by
  induction targets with
  | nil => exact .pure ()
  | cons ws rest ih => exact .ite ih (.bind (preserves_wsSend hP ws msg) fun _ => ih)

/-- An upgrade keeps every property of the cache and the rows that the getter keeps. -/
theorem preserves_fetch_upgrade_of (hs : (state J A).Preserves P) :
    (fetch J A ⟨some "websocket"⟩).Preserves P := by
  have hws : (⟨some "websocket"⟩ : Request).isWebSocket = true := by decide
  have hconnect : ∀ server : Conn, (do emit (.onConnect server); pure (Response.webSocket server) :
      Call Response).Preserves P := fun _ => .bind (preserves_emit hP _) fun _ => .pure _
  simp only [fetch, hws, if_true]
  exact .bind (.of_frame hP fun _ => ⟨rfl, rfl, rfl⟩) fun server =>
    .bind (.of_frame hP fun _ => ⟨rfl, rfl, rfl⟩) fun _ =>
    .bind (preserves_sendJson hP _ _) fun _ => .bind hs fun _ =>
    .ite (.bind (preserves_sendJson hP _ _) fun _ => hconnect server)
      (.bind (.pure ()) fun _ => hconnect server)

end Frame

/-- A write of a value the agent can keep leaves the table answering for it, raised or not. -/
theorem preserves_setStateInternal {v : PyVal} (hv : J.Fits v) (sourceWs : Option Conn) :
    (setStateInternal J v sourceWs).Preserves (Coherent J) := by
  intro w _
  have hb := preserves_broadcast frameClosed_coherent (J.text (stateMessage v)) sourceWs
    w.sockets (w.write J v) (coherent_write hv w)
  simp only [World.write] at hb
  simp only [setStateInternal, bind_apply, setCache_apply, hv.loaded.dumps, dumps_true,
    hv.stateMessage_loaded.dumps, lift_ok, pure_apply, upsert_apply, getWebSockets_apply]
  rcases hb' : broadcast (J.text (stateMessage v)) sourceWs w.sockets _ with ⟨_ | _, w'⟩
  · simpa [hb'] using hb
  · exact (hb' ▸ hb).congr rfl rfl

/-- The getter keeps coherence, when `initial_state` is unset or a value the agent can keep. -/
theorem preserves_state (hinit : A.initialState = .unset ∨ J.Fits A.initialState) :
    (state J A).Preserves (Coherent J) := by
  intro w hw
  by_cases hc : w.cache = .unset
  · cases hm : w.rows stateWasChanged with
    | none =>
      by_cases hi : A.initialState = .unset
      · rw [state_of_unmarked_unset hc hm hi]; exact hw
      · have h := preserves_setStateInternal (hinit.resolve_left hi) none w hw
        rw [state_of_unmarked_initial hc hm hi]
        rcases hs : setStateInternal J A.initialState none w with ⟨_ | _, w'⟩ <;> simpa [hs] using h
    | some m =>
      obtain ⟨t, v, hr, hd⟩ := hw.row (by simp [hm])
      rw [state_of_stored hc hm hr hd]
      exact ⟨hw.row, fun _ => ⟨by simp [hm], t, hr, hd⟩⟩
  · rw [state_of_cache hc]; exact hw

/-- **The getter cannot tell a world from its restart.** On a coherent world the table decodes
to the cached value, and reading it there caches it again. -/
theorem state_restart {w : World} (hw : Coherent J w) : state J A w.restart = state J A w := by
  by_cases hc : w.cache = .unset
  · rw [World.restart_of_unset hc]
  · obtain ⟨hm, t, hr, hd⟩ := hw.cache hc
    obtain ⟨m, hm⟩ := Option.ne_none_iff_exists'.mp hm
    rw [state_of_cache hc, state_of_stored (World.restart_cache w) hm hr hd]
    rfl

/-- The write path overwrites the cache before anything else. -/
theorem setStateInternal_restart (v : PyVal) (sourceWs : Option Conn) (w : World) :
    setStateInternal J v sourceWs w.restart = setStateInternal J v sourceWs w := rfl

/-- A client's state push goes straight to the write path, with its sender as `source_ws`. -/
theorem webSocketMessage_push {frame : String} {v : PyVal}
    (h : J.loads frame = .ok (stateMessage v)) (ws : Conn) :
    webSocketMessage J A ws (.text frame) =
      tryCatch (setStateInternal J v (some ws)) fun e => sendJson J ws (stateErrorMessage e.msg) := by
  simp [webSocketMessage, h, stateMessage, PyVal.get, PyVal.getD, PyVal.isStr, List.lookup_cons]

/-! ## Handlers that cannot tell a world from its restart -/

namespace Call

variable (J) in
/-- On a coherent world and on its restart, `c` returns the same, and the worlds it leaves
differ at most by the restart. -/
def Stable {α} (c : Call α) : Prop :=
  ∀ w, Coherent J w → (c w.restart).1 = (c w).1 ∧ Forgets (c w).2 (c w.restart).2

theorem Stable.of_eq {α} {c : Call α} (h : ∀ w, Coherent J w → c w.restart = c w) :
    c.Stable J := fun w hw => by rw [h w hw]; exact ⟨rfl, .refl _⟩

/-- A call that ignores the cache commutes with a restart. -/
theorem Stable.of_commutes {α} {c : Call α} (h : ∀ w, c w.restart = ((c w).1, (c w).2.restart)) :
    c.Stable J := fun w _ => by rw [h w]; exact ⟨rfl, .restart _⟩

theorem Stable.pure {α} (a : α) : (Pure.pure a : Call α).Stable J :=
  .of_commutes fun _ => rfl

theorem Stable.lift {α} (x : Except PyExc α) : (Call.lift x).Stable J :=
  .of_commutes fun _ => by cases x <;> rfl

theorem Stable.bind {α β} {x : Call α} {f : α → Call β} (hx : x.Stable J)
    (hxp : x.Preserves (Coherent J)) (hf : ∀ a, (f a).Stable J) : (x >>= f).Stable J := by
  intro w hw
  obtain ⟨h1, h2⟩ := hx w hw
  have hw' := hxp w hw
  simp only [bind_apply]
  rcases hxw : x w with ⟨_ | a, w'⟩ <;> rcases hxr : x w.restart with ⟨_ | a', w''⟩ <;>
    simp only [hxw, hxr, Except.error.injEq, Except.ok.injEq, reduceCtorEq] at h1 h2 hw' ⊢
  · exact ⟨h1, h2⟩
  · cases h1
    rcases h2 with rfl | rfl
    · exact ⟨rfl, .refl _⟩
    · exact hf _ w' hw'

theorem Stable.ite {α} {c : Prop} [Decidable c] {x y : Call α} (hx : x.Stable J)
    (hy : y.Stable J) : (if c then x else y).Stable J := by
  split <;> assumption

end Call

theorem stable_wsSend (ws : Conn) (text : String) : (wsSend ws text).Stable J :=
  .of_commutes fun w => by by_cases h : ws ∈ w.broken <;> simp [wsSend, h, World.restart]

theorem stable_emit (e : Effect) : (emit e).Stable J := .of_commutes fun _ => rfl

theorem stable_sendJson (ws : Conn) (msg : PyVal) : (sendJson J' ws msg).Stable J :=
  .bind (.lift _) (.lift _) fun _ => stable_wsSend ws _

theorem stable_state : (state J A).Stable J := .of_eq fun _ hw => state_restart A hw

/-- **An upgrade cannot tell a world from its restart.** It reads the state once, after
registering the socket and sending the identity. -/
theorem stable_fetch_upgrade (hinit : A.initialState = .unset ∨ J.Fits A.initialState) :
    (fetch J A ⟨some "websocket"⟩).Stable J := by
  have hws : (⟨some "websocket"⟩ : Request).isWebSocket = true := by decide
  have hconnect : ∀ server : Conn,
      (do emit (.onConnect server); pure (Response.webSocket server) : Call Response).Stable J :=
    fun _ => .bind (stable_emit _) (preserves_emit frameClosed_coherent _) fun _ => .pure _
  simp only [fetch, hws, if_true]
  exact .bind (.of_commutes fun _ => rfl) (.of_frame frameClosed_coherent fun _ => ⟨rfl, rfl, rfl⟩) fun server =>
    .bind (.of_commutes fun _ => rfl) (.of_frame frameClosed_coherent fun _ => ⟨rfl, rfl, rfl⟩) fun _ =>
    .bind (stable_sendJson _ _) (preserves_sendJson frameClosed_coherent _ _) fun _ =>
    .bind (stable_state A) (preserves_state A hinit) fun _ =>
    .ite (.bind (stable_sendJson _ _) (preserves_sendJson frameClosed_coherent _ _) fun _ =>
      hconnect server)
      (.bind (.pure ()) (.pure ()) fun _ => hconnect server)

theorem preserves_fetch_upgrade (hinit : A.initialState = .unset ∨ J.Fits A.initialState) :
    (fetch J A ⟨some "websocket"⟩).Preserves (Coherent J) :=
  preserves_fetch_upgrade_of A frameClosed_coherent (preserves_state A hinit)

/-! ## Runs -/

variable (J) in
/-- The events of a run the law speaks about. -/
inductive StoreOp where
  /-- A read of `self.state`. -/
  | read
  /-- `self.set_state(v)`. -/
  | setState (v : PyVal)
  /-- A client's `{"type": "cf_agent_state", "state": v}`, as any text decoding to it. -/
  | push (ws : Conn) (frame : String) (v : PyVal) (decodes : J.loads frame = .ok (stateMessage v))
  /-- A WebSocket upgrade request to `fetch`. -/
  | upgrade
  /-- An eviction and a fresh instance. -/
  | restart

/-- The event is a restart. -/
def StoreOp.isRestart : StoreOp J → Bool
  | .restart => true
  | _ => false

/-- The event writes only what the agent can keep: a `set_state` of a value that fits. -/
def StoreOp.Fits : StoreOp J → Prop
  | .setState v => J.Fits v
  | _ => True

instance : DecidablePred (@StoreOp.Fits J)
  | .setState v => inferInstanceAs (Decidable (J.Fits v))
  | .read | .push .. | .upgrade | .restart => isTrue trivial

variable (J) in
/-- A run: what every read returned, in order, and the world at the end. -/
def runOps : List (StoreOp J) → World → List (Except PyExc PyVal) × World
  | [], w => ([], w)
  | .read :: ops, w =>
    let rest := runOps ops (state J A w).2
    ((state J A w).1 :: rest.1, rest.2)
  | .setState v :: ops, w => runOps ops (setState J v w).2
  | .push ws frame _ _ :: ops, w => runOps ops (webSocketMessage J A ws (.text frame) w).2
  | .upgrade :: ops, w => runOps ops (fetch J A ⟨some "websocket"⟩ w).2
  | .restart :: ops, w => runOps ops w.restart

/-- The same run with every restart taken out. -/
def eraseRestarts (ops : List (StoreOp J)) : List (StoreOp J) := ops.filter fun op => !op.isRestart

/-- A pushed state is one the agent can keep: its frame, one level deeper, was decoded. -/
theorem fits_of_push {frame : String} {v : PyVal} (h : J.loads frame = .ok (stateMessage v)) :
    J.Fits v :=
  (J.loaded_of_loads h).fits_of_stateMessage

theorem preserves_push {frame : String} {v : PyVal} (h : J.loads frame = .ok (stateMessage v))
    (ws : Conn) : (webSocketMessage J A ws (.text frame)).Preserves (Coherent J) := by
  rw [webSocketMessage_push A h]
  exact .tryCatch (preserves_setStateInternal (fits_of_push h) _) fun _ =>
    preserves_sendJson frameClosed_coherent _ _

/-- Two runs of the same events from a world and from its restart read the same values, and
end in worlds that differ at most by a restart. -/
theorem runOps_forgets (hinit : A.initialState = .unset ∨ J.Fits A.initialState) :
    ∀ (ops : List (StoreOp J)) (w w' : World), Coherent J w → Forgets w w' →
      (runOps J A ops w').1 = (runOps J A ops w).1 ∧
        Forgets (runOps J A ops w).2 (runOps J A ops w').2
  | ops, w, _, _, .inl rfl => ⟨rfl, .refl _⟩
  | [], w, _, _, .inr rfl => ⟨rfl, .restart w⟩
  | .read :: ops, w, _, hw, .inr rfl => by
    simp only [runOps, state_restart A hw, true_and]
    exact .refl _
  | .setState _ :: _, _, _, _, .inr rfl => ⟨rfl, .refl _⟩
  | .push ws frame _ h :: ops, w, _, _, .inr rfl => by
    have : webSocketMessage J A ws (.text frame) w.restart = webSocketMessage J A ws (.text frame) w := by
      rw [webSocketMessage_push A h]; rfl
    simp only [runOps, this, true_and]
    exact .refl _
  | .upgrade :: ops, w, _, hw, .inr rfl => by
    obtain ⟨-, hf⟩ := stable_fetch_upgrade A hinit w hw
    exact runOps_forgets hinit ops _ _ (preserves_fetch_upgrade A hinit w hw) hf
  | .restart :: _, _, _, _, .inr rfl => ⟨rfl, .refl _⟩

/-- **Restarts can be erased.** A run whose writes fit, from a coherent world, reads what the
same run without its restarts reads, and ends in the world that run ends in, up to a restart. -/
theorem runOps_eraseRestarts (hinit : A.initialState = .unset ∨ J.Fits A.initialState) :
    ∀ (ops : List (StoreOp J)), (∀ op ∈ ops, op.Fits) → ∀ (w : World), Coherent J w →
      (runOps J A ops w).1 = (runOps J A (eraseRestarts ops) w).1 ∧
        Forgets (runOps J A (eraseRestarts ops) w).2 (runOps J A ops w).2
  | [], _, _, _ => ⟨rfl, .refl _⟩
  | .read :: ops, hops, w, hw => by
    obtain ⟨h1, h2⟩ := runOps_eraseRestarts hinit ops (fun op h => hops op (.tail _ h)) _
      (preserves_state A hinit w hw)
    simp only [eraseRestarts, List.filter_cons, StoreOp.isRestart] at h1 h2 ⊢
    simp only [Bool.not_false, if_true, runOps, h1, true_and]
    exact h2
  | .setState v :: ops, hops, w, hw => by
    have := runOps_eraseRestarts hinit ops (fun op h => hops op (.tail _ h)) _
      (preserves_setStateInternal (hops _ (.head _)) none w hw)
    simpa [eraseRestarts, List.filter_cons, StoreOp.isRestart, runOps] using this
  | .push ws frame v h :: ops, hops, w, hw => by
    have := runOps_eraseRestarts hinit ops (fun op h => hops op (.tail _ h)) _
      (preserves_push A h ws w hw)
    simpa [eraseRestarts, List.filter_cons, StoreOp.isRestart, runOps] using this
  | .upgrade :: ops, hops, w, hw => by
    have := runOps_eraseRestarts hinit ops (fun op h => hops op (.tail _ h)) _
      (preserves_fetch_upgrade A hinit w hw)
    simpa [eraseRestarts, List.filter_cons, StoreOp.isRestart, runOps] using this
  | .restart :: ops, hops, w, hw => by
    obtain ⟨h1, h2⟩ := runOps_eraseRestarts hinit ops (fun op h => hops op (.tail _ h)) _ hw.restart
    obtain ⟨h3, h4⟩ := runOps_forgets A hinit (eraseRestarts ops) w w.restart hw (.restart w)
    simp only [eraseRestarts, List.filter_cons, StoreOp.isRestart, Bool.not_true] at h1 h2 h3 h4 ⊢
    simp only [runOps, Bool.false_eq_true, if_false]
    exact ⟨h1.trans h3, h4.trans h2⟩

/-! ## What a read returns -/

/-- The state a read returns when nothing was ever written: `initial_state`, else `None`. -/
def AgentClass.defaultState (A : AgentClass) : PyVal :=
  if A.initialState = .unset then .none else A.initialState

variable (J) in
/-- The abstract agent: one register holding the last value written, read back as that value,
else `initial_state`, else `None`. Restarts and upgrades do not touch it. -/
def expectedReads : Option PyVal → List (StoreOp J) → List (Except PyExc PyVal)
  | _, [] => []
  | last, .read :: ops => .ok (last.getD A.defaultState) :: expectedReads last ops
  | _, .setState v :: ops | _, .push _ _ v _ :: ops => expectedReads (some v) ops
  | last, .upgrade :: ops | last, .restart :: ops => expectedReads last ops

variable (J) in
/-- The world holds `last`, the last value written, with `initial_state` behind it. -/
structure Tracks (w : World) (last : Option PyVal) : Prop where
  /-- Behind the marker row, the current row decodes to what a read returns. -/
  stored : w.rows stateWasChanged ≠ none →
    ∃ t, w.rows stateRowId = some (some t) ∧ J.loads t = .ok (last.getD A.defaultState)
  /-- Without the marker row nothing was written, and nothing resolved. -/
  unmarked : w.rows stateWasChanged = none → last = none ∧ w.cache = .unset
  /-- A resolved cache holds what a read returns. -/
  cached : w.cache ≠ .unset → w.cache = last.getD A.defaultState
  /-- No socket's `send` raises. -/
  reliable : w.broken = []
  /-- What was written is a value the agent can keep. -/
  fits : w.rows stateWasChanged ≠ none → J.Fits (last.getD A.defaultState)

theorem frameClosed_tracks (last : Option PyVal) : FrameClosed (Tracks J A · last) :=
  fun _ _ h hc hr hb =>
    ⟨hr ▸ h.stored, hr ▸ hc ▸ h.unmarked, hc ▸ h.cached, hb ▸ h.reliable, hr ▸ h.fits⟩

theorem Tracks.restart {w : World} {last : Option PyVal} (h : Tracks J A w last) :
    Tracks J A w.restart last :=
  ⟨h.stored, fun hm => ⟨(h.unmarked hm).1, rfl⟩, by simp, h.reliable, h.fits⟩

/-- Only the value a read returns matters, once the marker row is there. -/
theorem Tracks.congr_last {w : World} {last last' : Option PyVal} (h : Tracks J A w last)
    (hv : last.getD A.defaultState = last'.getD A.defaultState)
    (hm : w.rows stateWasChanged ≠ none) : Tracks J A w last' :=
  ⟨hv ▸ h.stored, fun h' => absurd h' hm, hv ▸ h.cached, h.reliable, hv ▸ h.fits⟩

/-- Nothing tracked yet, on a table without rows. -/
theorem tracks_init (ctxId : String) : Tracks J A (World.init ctxId) none :=
  ⟨fun h => absurd rfl h, fun _ => ⟨rfl, rfl⟩, fun h => absurd rfl h, rfl, fun h => absurd rfl h⟩

/-- The current state is one the agent can keep: it was written, or it is the default. -/
theorem Tracks.fits_current (hinit : A.initialState = .unset ∨ J.Fits A.initialState) {w : World}
    {last : Option PyVal} (h : Tracks J A w last) : J.Fits (last.getD A.defaultState) := by
  cases hm : w.rows stateWasChanged with
  | none =>
    obtain ⟨rfl, -⟩ := h.unmarked hm
    by_cases hu : A.initialState = .unset
    · simp only [Option.getD_none, AgentClass.defaultState, hu, if_true]
      exact ⟨rfl, rfl, lt_of_lt_of_le (by decide) J.maxDepth_ge⟩
    · simpa [AgentClass.defaultState, hu] using hinit.resolve_left hu
  | some m => exact h.fits (by simp [hm])

/-- A write of a value the agent can keep, over reliable sockets, makes it the last one
written. -/
theorem tracks_setStateInternal {w : World} {last : Option PyVal} (h : Tracks J A w last)
    {v : PyVal} (hv : J.Fits v) (sourceWs : Option Conn) :
    (setStateInternal J v sourceWs w).1 = .ok () ∧
      Tracks J A (setStateInternal J v sourceWs w).2 (some v) := by
  rw [hv.setStateInternal sourceWs (by simp [h.reliable])]
  refine ⟨rfl, fun _ => ⟨_, ?_, hv.loaded.loads_text⟩, fun hm => by simp [World.write] at hm,
    fun _ => rfl, h.reliable, fun _ => hv⟩
  simp [World.write, Function.update_noteq stateWasChanged_ne_stateRowId.symm]

/-- **A read returns the last value written, else `initial_state`, else `None`.** -/
theorem tracks_state (hinit : A.initialState = .unset ∨ J.Fits A.initialState) {w : World}
    {last : Option PyVal} (h : Tracks J A w last) :
    (state J A w).1 = .ok (last.getD A.defaultState) ∧ Tracks J A (state J A w).2 last := by
  by_cases hc : w.cache = .unset
  · cases hm : w.rows stateWasChanged with
    | none =>
      obtain ⟨rfl, -⟩ := h.unmarked hm
      by_cases hi : A.initialState = .unset
      · rw [state_of_unmarked_unset hc hm hi]
        exact ⟨by simp [AgentClass.defaultState, hi], h⟩
      · obtain ⟨h1, h2⟩ := tracks_setStateInternal A h (hinit.resolve_left hi) none
        rw [state_of_unmarked_initial hc hm hi]
        rcases hs : setStateInternal J A.initialState none w with ⟨_ | _, w'⟩
        · simp [hs] at h1
        · simp only [hs] at h2
          refine ⟨by simp [AgentClass.defaultState, hi], h2.congr_last A ?_ ?_⟩
          · simp [AgentClass.defaultState, hi]
          · intro hm'
            exact absurd (h2.unmarked hm').1 (by simp)
    | some m =>
      obtain ⟨t, hr, hd⟩ := h.stored (by simp [hm])
      rw [state_of_stored hc hm hr hd]
      exact ⟨rfl, ⟨h.stored, fun hm' => by simp [hm] at hm', fun _ => rfl, h.reliable, h.fits⟩⟩
  · rw [state_of_cache hc]
    exact ⟨congrArg _ (h.cached hc), h⟩

variable (J) in
/-- The world tracks a register whose value, what a read returns, is `st`. -/
def Stores (st : PyVal) (w : World) : Prop :=
  ∃ last, Tracks J A w last ∧ last.getD A.defaultState = st

/-- The state stored is one the agent can keep. -/
theorem Stores.fits (hinit : A.initialState = .unset ∨ J.Fits A.initialState) {st : PyVal}
    {w : World} (h : Stores J A st w) : J.Fits st :=
  let ⟨_, ht, hl⟩ := h
  hl ▸ ht.fits_current A hinit

/-- A read returns the state stored, and leaves it stored. -/
theorem stores_state (hinit : A.initialState = .unset ∨ J.Fits A.initialState) {st : PyVal}
    {w : World} (h : Stores J A st w) : (state J A w).1 = .ok st ∧ Stores J A st (state J A w).2 :=
  let ⟨last, ht, hl⟩ := h
  hl ▸ ⟨(tracks_state A hinit ht).1, last, (tracks_state A hinit ht).2, rfl⟩

/-- A write of a value the agent can keep stores it. -/
theorem stores_setStateInternal {st v : PyVal} (hv : J.Fits v) {w : World} (h : Stores J A st w)
    (sourceWs : Option Conn) :
    (setStateInternal J v sourceWs w).1 = .ok () ∧ Stores J A v (setStateInternal J v sourceWs w).2 :=
  let ⟨_, ht, _⟩ := h
  ⟨(tracks_setStateInternal A ht hv sourceWs).1, some v, (tracks_setStateInternal A ht hv sourceWs).2, rfl⟩

/-- **A body runs as it evaluates, on the table.** From a world that stores `st`, a body whose
writes fit returns what its evaluation returns, and leaves the state the evaluation leaves
stored. -/
theorem Prog.run_stores (hinit : A.initialState = .unset ∨ J.Fits A.initialState) {p : Prog}
    {st : PyVal} {w : World} (hp : p.storesFit J st) (h : Stores J A st w) :
    (p.run J A w).1 = (p.eval st).1 ∧ Stores J A (p.eval st).2 (p.run J A w).2 :=
  Prog.run_eval (stores_state A hinit) (fun hv h => stores_setStateInternal A hv h none) hp h

/-- Reads along a run whose writes fit, from a world holding `last`, return what the abstract
register returns. -/
theorem reads_tracks (hinit : A.initialState = .unset ∨ J.Fits A.initialState) :
    ∀ (ops : List (StoreOp J)), (∀ op ∈ ops, op.Fits) → ∀ (w : World) (last : Option PyVal),
      Tracks J A w last → (runOps J A ops w).1 = expectedReads J A last ops
  | [], _, _, _, _ => rfl
  | .read :: ops, hops, w, last, h => by
    obtain ⟨h1, h2⟩ := tracks_state A hinit h
    simp only [runOps, expectedReads, h1,
      reads_tracks hinit ops (fun op h => hops op (.tail _ h)) _ _ h2]
  | .setState v :: ops, hops, w, last, h =>
    reads_tracks hinit ops (fun op h => hops op (.tail _ h)) _ _
      (tracks_setStateInternal A h (hops _ (.head _)) none).2
  | .push ws frame v hd :: ops, hops, w, last, h => by
    have h' := tracks_setStateInternal A h (fits_of_push hd) (some ws)
    simp only [runOps, expectedReads, webSocketMessage_push A hd, tryCatch_apply]
    rcases hs : setStateInternal J v (some ws) w with ⟨_ | _, w'⟩
    · simp [hs] at h'
    · exact reads_tracks hinit ops (fun op h => hops op (.tail _ h)) _ _ (by simpa [hs] using h'.2)
  | .upgrade :: ops, hops, w, last, h =>
    reads_tracks hinit ops (fun op h => hops op (.tail _ h)) _ _
      (preserves_fetch_upgrade_of A (frameClosed_tracks A last)
        (fun w h => (tracks_state A hinit h).2) w h)
  | .restart :: ops, hops, w, last, h =>
    reads_tracks hinit ops (fun op h => hops op (.tail _ h)) _ _ h.restart

/-! ## The law -/

theorem coherent_init (ctxId : String) (broken : List Conn) : Coherent J (World.init ctxId broken) :=
  ⟨fun h => absurd rfl h, fun h => absurd rfl h⟩

/-- **Restarts are invisible to writes that fit.** Over any run of reads, writes of values the
agent can keep, client state pushes and WebSocket upgrades from an empty table, with restarts
placed anywhere, every read returns and every message is sent exactly as in the same run without
the restarts. Over reliable sockets every read returns the last value written, else
`initial_state`, else `None`. -/
theorem restarts_invisible (hinit : A.initialState = .unset ∨ J.Fits A.initialState)
    (ctxId : String) (broken : List Conn) (ops : List (StoreOp J)) (hops : ∀ op ∈ ops, op.Fits) :
    (runOps J A ops (World.init ctxId broken)).1 =
        (runOps J A (eraseRestarts ops) (World.init ctxId broken)).1 ∧
      (runOps J A ops (World.init ctxId broken)).2.trace =
        (runOps J A (eraseRestarts ops) (World.init ctxId broken)).2.trace ∧
      (broken = [] → (runOps J A ops (World.init ctxId broken)).1 = expectedReads J A none ops) := by
  obtain ⟨h1, h2⟩ := runOps_eraseRestarts A hinit ops hops _ (coherent_init ctxId broken)
  refine ⟨h1, h2.trace, ?_⟩
  rintro rfl
  exact reads_tracks A hinit ops hops _ none (tracks_init A ctxId)

/-- `CounterAgent` reads its default, is set to `3`, is evicted, and reads `3` back. -/
theorem restarts_invisible_counter :
    (counterAgent.initialState = .unset ∨ refCodec.Fits counterAgent.initialState) ∧
      (∀ op ∈ [.read, .setState (.int 3), .restart, .read], @StoreOp.Fits refCodec op) ∧
      (runOps refCodec counterAgent [.read, .setState (.int 3), .restart, .read]
          (World.init "counter" [])).1 =
        (runOps refCodec counterAgent (eraseRestarts [.read, .setState (.int 3), .restart, .read])
          (World.init "counter" [])).1 ∧
      (runOps refCodec counterAgent [.read, .setState (.int 3), .restart, .read]
          (World.init "counter" [])).2.trace =
        (runOps refCodec counterAgent (eraseRestarts [.read, .setState (.int 3), .restart, .read])
          (World.init "counter" [])).2.trace ∧
      ([] = ([] : List Conn) →
        (runOps refCodec counterAgent [.read, .setState (.int 3), .restart, .read]
          (World.init "counter" [])).1 =
          expectedReads refCodec counterAgent none [.read, .setState (.int 3), .restart, .read]) :=
  ⟨.inr fits_counterInitialState, by decide, restarts_invisible counterAgent
    (.inr fits_counterInitialState) "counter" [] [.read, .setState (.int 3), .restart, .read]
    (by decide)⟩

/-! ## A write `json.dumps` refuses -/

set_option exponentiation.threshold 4301 in
/-- `10 ** 4301` has 4302 digits: `json.dumps` refuses it. -/
theorem intsFit_tenPow4301 : (PyVal.int (10 ^ 4301)).intsFit = false := by
  rw [PyVal.intsFit_int, decide_eq_false_iff_not, not_lt, Int.natAbs_pow]
  exact Nat.pow_le_pow_right (by norm_num) (by decide)

/-- A restart after a write of an int `json.dumps` refuses changes the next read: without it the
read returns the cached int, after it the read resolves the empty table again. -/
theorem restart_reverts_refused {n : Int} (hn : (PyVal.int n).intsFit = false) (J : JsonCodec)
    (A : AgentClass) (ctxId : String) (broken : List Conn) :
    (runOps J A (eraseRestarts [.setState (.int n), .restart, .read]) (World.init ctxId broken)).1 =
        [.ok (.int n)] ∧
      (runOps J A [.setState (.int n), .restart, .read] (World.init ctxId broken)).1 ≠
        [.ok (.int n)] := by
  have hbig : ∀ w : World, ∃ e, setStateInternal J (.int n) none w =
      (.error e, { w with cache := .int n }) := fun w =>
    let ⟨_, hm⟩ := @JsonCodec.dumps_bigInt J (.int n) rfl hn (Nat.zero_le _)
    ⟨_, setStateInternal_of_dumps_error hm none w⟩
  obtain ⟨e, he⟩ := hbig (World.init ctxId broken)
  have hrestart : ({ World.init ctxId broken with cache := .int n } : World).restart =
      World.init ctxId broken := rfl
  refine ⟨by simp [eraseRestarts, StoreOp.isRestart, runOps, setState, he, state], ?_⟩
  simp only [runOps, setState, he, hrestart, List.cons.injEq, and_true]
  intro hread
  by_cases hi : A.initialState = .unset
  · rw [state_of_unmarked_unset rfl rfl hi] at hread
    cases hread
  · rw [state_of_unmarked_initial rfl rfl hi] at hread
    rcases hs : setStateInternal J A.initialState none (World.init ctxId broken) with ⟨_ | _, w'⟩
    · rw [hs] at hread
      cases hread
    · rw [hs] at hread
      have hinit : A.initialState = .int n := by simpa using hread
      rw [hinit, he] at hs
      cases hs

/-- **A restart after `set_state(10 ** 4301)` changes the next read.** The write caches the int,
then `json.dumps` raises `ValueError` and nothing is stored. Without a restart the read returns
the int; after one, it resolves the empty table, and returns `None`, or persists and returns
`initial_state`, or raises: never the int. This holds for every codec and every class. -/
theorem restart_reverts_bigInt (J : JsonCodec) (A : AgentClass) (ctxId : String)
    (broken : List Conn) :
    (runOps J A (eraseRestarts [.setState (.int (10 ^ 4301)), .restart, .read])
        (World.init ctxId broken)).1 = [.ok (.int (10 ^ 4301))] ∧
      (runOps J A [.setState (.int (10 ^ 4301)), .restart, .read] (World.init ctxId broken)).1 ≠
        [.ok (.int (10 ^ 4301))] :=
  restart_reverts_refused intsFit_tenPow4301 J A ctxId broken

end PyAgents
