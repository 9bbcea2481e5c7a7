import TokenTransfer.Adapter

/-!
# Registries

A registry holds one adapter per chain, so that callers can route an operation to its chain.

## Main definitions

* `Registry` - the adapters by chain
* `Registry.insert` - adds an adapter under its own chain
* `Registry.perform` - an operation of the adapter of a chain
-/

namespace TokenTransfer

/-- The adapters by chain. -/
structure Registry where
  adapters : Table ChainId Adapter

namespace Registry

/-- The registry without adapters. -/
def empty : Registry := ⟨.empty⟩

/-- Adds an adapter under its own chain, and gives the one it replaces. -/
def insert (registry : Registry) (adapter : Adapter) : Option Adapter × Registry :=
  (registry.adapters.find? adapter.chain, ⟨registry.adapters.insert adapter.chain adapter⟩)

/-- The adapter of a chain. -/
def get (registry : Registry) (chain : ChainId) : Except Fault Adapter :=
  match registry.adapters.find? chain with
  | some adapter => .ok adapter
  | none => .error (.missing (.adapter chain))

/-- The chains that have an adapter, in order. -/
def chains (registry : Registry) : List ChainId := registry.adapters.keys

/-- The number of adapters. -/
def size (registry : Registry) : Nat := registry.adapters.size

/-- The registry as it is shown for inspection. -/
def inspect (registry : Registry) : String :=
  "NttRegistry \x7b chains: [" ++ ", ".intercalate (registry.chains.map ChainId.inspect) ++
    "] \x7d"

/-- An operation of the adapter of a chain: its outcome, the events it has recorded, and the registry
afterwards. -/
def perform {α : Type} (registry : Registry) (chain : ChainId) (action : Adapter.Action α) :
    Except Fault α × List Event × Registry :=
  match registry.adapters.find? chain with
  | none => (.error (.missing (.adapter chain)), [], registry)
  | some adapter =>
    let (outcome, after) := action.runOn ⟨adapter, []⟩
    (outcome, after.events, ⟨registry.adapters.insert chain after.state⟩)

end Registry

end TokenTransfer
