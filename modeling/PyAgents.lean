import PyAgents.Python.Value
import PyAgents.Python.Json
import PyAgents.Python.JsonText
import PyAgents.Python.Builtins
import PyAgents.Agent.World
import PyAgents.Agent.State
import PyAgents.Agent.Kebab
import PyAgents.Agent.Socket
import PyAgents.Agent.Counter
import PyAgents.Agent.Durability
import PyAgents.Agent.Messages
import PyAgents.Agent.Upgrade
import PyAgents.Agent.Clients
import PyAgents.Agent.Rpc
import PyAgents.Agent.Invariant
import PyAgents.Agent.Atomic
import PyAgents.Agent.Hibernation
import PyAgents.Agent.Eval
import PyAgents.Agent.CounterSpec
import PyAgents.Agent.Worker
import PyAgents.OpenApi.Ref
import PyAgents.OpenApi.Pointer
import PyAgents.OpenApi.Deref
import PyAgents.OpenApi.Inline
import PyAgents.OpenApi.Schema
import PyAgents.OpenApi.Termination
import PyAgents.OpenApi.Entries
import PyAgents.OpenApi.Params
import PyAgents.OpenApi.Output
