import PyAgents.Agent.State

/-!
# `CounterAgent`

The example agent of `entry.py`: a counter with four `@callable` methods and a dict default
state. Its hooks only print, so they add nothing to the trace beyond the hook calls the agent
records anyway.

`increment` and `decrement` are one method with the operator as parameter (`counterStep`); each
keeps its own definition under its name, with its own operator and action text. Both fall back
on `{"count": 0, "last_action": None}` when the state is falsy; `get_count` falls back on
`{"count": 0}`.

The worker entrypoint `Default`, which routes `/agent/<name>` to an instance, is modelled in
`PyAgents.Agent.Worker`; it reaches the agent only through `fetch`.
-/

namespace PyAgents

/-- `CounterAgent.initial_state`. -/
def counterInitialState : PyVal := .dict [("count", .int 0), ("last_action", .none)]

/-- The body of a method `def f(self, amount=1)`, given its positional arguments. -/
def optionalArg (qualname : String) (default : PyVal) (body : PyVal → Prog) : List PyVal → Prog
  | [] => body default
  | [a] => body a
  | args => .raise ⟨.typeError, qualname ++ "() takes from 1 to 2 positional arguments but " ++
      toString (args.length + 1) ++ " were given"⟩

/-- The body of a method `def f(self)`, given its positional arguments. -/
def noArgs (qualname : String) (body : Prog) : List PyVal → Prog
  | [] => body
  | args => .raise ⟨.typeError, qualname ++ "() takes 1 positional argument but " ++
      toString (args.length + 1) ++ " were given"⟩

/-- `current = self.state or default`, then `current["count"]`. -/
def currentCount (st default : PyVal) : Except PyExc PyVal :=
  (if st.truthy then st else default).subscript "count"

/-- The body shared by `increment` and `decrement`: read the state, apply `op` to its count and
`amount`, store the new count with `action` as `last_action`, and return the new count. -/
def counterStep (action : String) (op : PyVal → PyVal → Except PyExc PyVal) (amount : PyVal) :
    Prog :=
  .getState fun st =>
    match currentCount st counterInitialState >>= (op · amount) with
    | .ok count => .setState (.dict [("count", count), ("last_action", .str action)]) (.ret count)
    | .error e => .raise e

/-- `CounterAgent.increment(self, amount=1)`. -/
def increment : List PyVal → Prog :=
  optionalArg "CounterAgent.increment" (.int 1) (counterStep "increment" PyVal.add)

/-- `CounterAgent.decrement(self, amount=1)`. -/
def decrement : List PyVal → Prog :=
  optionalArg "CounterAgent.decrement" (.int 1) (counterStep "decrement" PyVal.sub)

/-- `CounterAgent.reset(self)`. -/
def reset : List PyVal → Prog :=
  noArgs "CounterAgent.reset"
    (.setState (.dict [("count", .int 0), ("last_action", .str "reset")]) (.ret (.int 0)))

/-- `CounterAgent.get_count(self)`. -/
def getCount : List PyVal → Prog :=
  noArgs "CounterAgent.get_count" <| .getState fun st =>
    match currentCount st (.dict [("count", .int 0)]) with
    | .ok count => .ret count
    | .error e => .raise e

/-- The class `CounterAgent`, with its `@callable` methods. -/
def counterAgent : AgentClass where
  name := "CounterAgent"
  module := "entry"
  initialState := counterInitialState
  classAttrs :=
    [("decrement", .function true decrement), ("get_count", .function true getCount),
      ("increment", .function true increment), ("reset", .function true reset)]

/-- `initial_state` is a state the agent can keep, under every codec. -/
theorem fits_counterInitialState {J : JsonCodec} : J.Fits counterInitialState :=
  ⟨by decide, by decide, lt_of_lt_of_le (by decide) J.maxDepth_ge⟩

end PyAgents
