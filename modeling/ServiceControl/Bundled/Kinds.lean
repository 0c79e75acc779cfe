import ServiceControl.Adapter.Registry
import ServiceControl.Bundled.Block
import ServiceControl.Bundled.Log
import ServiceControl.Bundled.Prometheus
import ServiceControl.Bundled.Statsd
import ServiceControl.Bundled.Whitelist

/-!
# Bundled kinds

The adapters that come with the gateway: two checkers, and three consumers whose entries in services
documents take no params.
-/

namespace ServiceControl

/-- The bundled checkers. Their builders take tokens from the given one on. -/
def bundledCheckers (token : Nat) (scheduler : Bool) : List (String × CheckerBuilder) :=
  [(Whitelist.kind, Whitelist.builder token scheduler), (Block.kind, Block.builder (token + 1))]

/-- The consumer that shows series. -/
def Prometheus.consumer : Consumer where
  name := kind
  endpoint := some endpoint
  page reports := .exposition (pageAfter {} {} reports)

/-- The consumer that sends lines. All lines of a call wait before the first is sent, so a call with
more lines than there is room for is refused. -/
def Statsd.consumer (beginning : String) : Consumer where
  name := kind
  deliver _ reports := match (({ beginning := beginning } : Outbox).consume reports).1 with
    | .ok () => .taken
    | .error detail => .refused detail

/-- Builds the consumer that sends lines; without a scheduler nothing could send them. -/
def Statsd.build (scheduler : Bool) (s : Settings) : Except String Consumer :=
  if !scheduler then .error s!"statsd {s.statsd.address}: nothing runs the sender"
  else match checkAddress s.statsd.address with
    | .ok () => .ok (consumer s.statsd.beginning)
    | .error e => .error s!"statsd {s.statsd.address}: {e.message}"

/-- The bundled consumers. Their builders take tokens from the given one on. -/
def bundledConsumers (token : Nat) (scheduler : Bool) : List (String × ConsumerBuilder) :=
  [(Prometheus.kind, { token := token, build := fun _ => .ok Prometheus.consumer }),
    (Statsd.kind, { token := token + 1, build := Statsd.build scheduler }),
    (Log.kind, { token := token + 2, build := fun _ => .ok { name := Log.kind } })]

/-- Registers the bundled adapters, checkers first. What stands before a collision stays. -/
def Registries.registerBundled (r : Registries) (token : Nat) (scheduler : Bool) :
    Except Collision Registries := do
  let checkers ← r.checkers.registerAll (bundledCheckers token scheduler)
  let consumers ← r.consumers.registerAll (bundledConsumers token scheduler)
  return { checkers, consumers }

end ServiceControl
