import ServiceControl.Gateway.Deployment

/-!
# What a gateway is asked

A gateway is asked to check and to take reports, and it is told what a fetch of its services
document brought; between two calls, time passes. Before all calls, its start ends with a first
reload. Here a call is served before the next one comes. Calls that come in each other's way are
runs of single steps.
-/

namespace ServiceControl

/-- What happens to a gateway. -/
inductive GatewayCall where
  | check (request : CheckRequest)
  | report (r : ReportRequest)
  | reload (fetched : Except FetchError ByteArray)
  | wait (ms : Nat)

/-- The payload of a reload whose fetch succeeded. -/
def GatewayCall.payload? : GatewayCall → Option ByteArray
  | .check _ | .report _ | .wait _ => none
  | .reload fetched => fetched.toOption

namespace Gateway

/-- The gateway after one call. -/
def serve (g : Gateway) : GatewayCall → Gateway
  | .check request => (g.check request).2
  | .report r => (g.report r).2
  | .reload fetched => (g.reload fetched).2
  | .wait ms => { g with pipeline := g.pipeline.sleep ms }

/-- The gateway after calls in order. -/
def serveAll (g : Gateway) (calls : List GatewayCall) : Gateway := calls.foldl serve g

/-- The report of a call that puts it into the queue. -/
def accepted? (g : Gateway) : GatewayCall → Option ReportRequest
  | .report r => if (g.report r).1 = .sent then some r else none
  | .check _ | .reload _ | .wait _ => none

/-- The reports that a gateway accepts in the course of calls, in order. -/
def accepted (g : Gateway) : List GatewayCall → List ReportRequest
  | [] => []
  | call :: rest => (g.accepted? call).toList ++ accepted (g.serve call) rest

/-- The gateway for settings before its first reload. -/
def ofSettings (r : Registries) (s : Settings) : Gateway where
  pipeline := Pipeline.ofSettings r s
  reloader := some { registries := r }
  patience := 1000 * s.listener.requestTimeout

end Gateway

namespace Deployment

/-- A start that succeeds ends with the first reload, whatever comes of it. -/
theorem exists_of_start {s : Settings} {r : Registries} {f : Folder} {d : Deployment}
    (hstart : start s r f = .ok d) : ∃ source isWatched,
      d = (reload { gateway := .ofSettings r s, source, isWatched } f).2 := by
  simp only [start, bind, Except.bind, pure, Except.pure, throw, throwThe,
    MonadExceptOf.throw] at hstart
  split at hstart
  · cases hstart
  · next source _ =>
    split at hstart
    · cases hstart
    · split at hstart
      · cases hstart
      · next isWatched _ =>
        split at hstart
        · cases hstart
        · exact ⟨source, isWatched, (Except.ok.inj hstart).symm⟩

end Deployment

end ServiceControl
