import ServiceControl.Adapter.Registry
import ServiceControl.Reports.Batcher
import ServiceControl.Reports.Queue
import ServiceControl.SelfMetrics

/-!
# The pipeline of reports

Workers take reports from the queue, one at a time each, and hand every report to all
consumers in order. Some consumers take their reports in batches. A consumer that refuses a
report does not keep it from the others; one that crashes ends the worker that called it, or
the gathering of its batches.
-/

namespace ServiceControl

/-- A consumer in its place. -/
structure Outlet where
  consumer : Consumer
  /-- What gathers its reports, if it takes them in batches. -/
  batcher : Option (Batcher ReportRequest) := none

/-- One call of a consumer, by the place of its outlet. -/
structure DeliveredCall where
  outlet : Nat
  reports : List ReportRequest

/-- What a worker does. -/
inductive Worker where
  /-- It waits for a report. -/
  | waiting
  /-- It has a report that goes to the outlet at a place next. -/
  | delivering (r : ReportRequest) (next : Nat)
  | finished

/-- The queue, the workers and the consumers. -/
structure Pipeline where
  queue : ReportQueue
  outlets : List Outlet := []
  workers : List Worker := []
  /-- All calls of consumers, in order. -/
  calls : List DeliveredCall := []
  /-- For each time that a consumer was asked for its page, its place and the
  number of calls before. -/
  scrapes : List (Nat × Nat) := []
  metrics : Metrics := []
  /-- The time in milliseconds. -/
  now : Nat := 0

namespace Pipeline

/-- The outlet of a consumer; batches are of one report at least. -/
def outletOf (batching : SortedMap BatchSettings) (name : String) (c : Consumer) : Outlet where
  consumer := c
  batcher := (batching.find? name).map fun b =>
    { maxCount := max b.maxCount 1, timeout := b.timeout }

/-- The outlets for enabled names; kinds that are not known or cannot be built are left out. -/
def outletsOf (r : Registries) (s : Settings) : List Outlet :=
  s.reports.consumers.filterMap fun name =>
    match r.consumers.get? name with
    | none => none
    | some b => match b.build s with
      | .ok c => some (outletOf s.reports.batching name c)
      | .error _ => none

/-- The earlier calls of the consumer at a place. -/
def callsOf (p : Pipeline) (place : Nat) : List (List ReportRequest) :=
  (p.calls.filter (·.outlet == place)).map (·.reports)

/-- Calls the consumer at a place. -/
def call (p : Pipeline) (place : Nat) (c : Consumer) (reports : List ReportRequest) :
    Delivery × Pipeline :=
  (c.deliver (p.callsOf place) reports, { p with calls := p.calls ++ [⟨place, reports⟩] })

/-- What a consumer says that takes no reports any more. -/
def closedMessage (name : String) : String := s!"{name}: batcher is closed"

/-- Hands reports to an outlet: to the batcher, or to the consumer itself. -/
def hand (p : Pipeline) (place : Nat) (o : Outlet) (rs : List ReportRequest) :
    Delivery × Pipeline :=
  match o.batcher with
  | none => p.call place o.consumer rs
  | some b =>
    match b.offer rs with
    | some b => (.taken, { p with outlets := p.outlets.set place { o with batcher := some b } })
    | none => (.refused (closedMessage o.consumer.name), p)

/-- Hands reports to the outlet at a place; where there is none, they are gone. -/
def handAt (p : Pipeline) (place : Nat) (rs : List ReportRequest) : Delivery × Pipeline :=
  match p.outlets[place]? with
  | some o => p.hand place o rs
  | none => (.taken, p)

/-- What a worker does next with the outcome of a call. -/
def proceed (p : Pipeline) (worker : Nat) (o : Outlet) (r : ReportRequest) (place : Nat) :
    Delivery → Pipeline
  | .crashed => { p with workers := p.workers.set worker .finished }
  | d =>
    { p with
      workers := p.workers.set worker (.delivering r (place + 1))
      metrics := p.metrics.count (.reportsConsumed o.consumer.name (d == .taken)) }

/-- One step of a worker; nothing if it has to wait or has finished. -/
def stepWorker (p : Pipeline) (worker : Nat) : Option Pipeline :=
  match p.workers[worker]? with
  | some .waiting =>
    match p.queue.take? with
    | some (r, queue) =>
      some { p with queue, workers := p.workers.set worker (.delivering r 0) }
    | none =>
      if p.queue.isDone then some { p with workers := p.workers.set worker .finished } else none
  | some (.delivering r place) =>
    match p.outlets[place]? with
    | some o =>
      let (d, p) := p.hand place o [r]
      some (p.proceed worker o r place d)
    | none => some { p with workers := p.workers.set worker .waiting }
  | _ => none

/-- One step of the batcher at a place; nothing if there is nothing to do. -/
def stepBatcher (p : Pipeline) (place : Nat) : Option Pipeline :=
  match p.outlets[place]? with
  | some o =>
    match o.batcher.bind (·.step p.now) with
    | some (none, b) => some { p with outlets := p.outlets.set place { o with batcher := some b } }
    | some (some batch, b) =>
      let (d, p) := p.call place o.consumer batch
      let b := if d = .crashed then b.crash else b
      some { p with outlets := p.outlets.set place { o with batcher := some b } }
    | none => none
  | none => none

/-- The first step that is possible, of workers before batchers. -/
def step? (p : Pipeline) : Option Pipeline :=
  ((List.range p.workers.length).findSome? p.stepWorker).or
    ((List.range p.outlets.length).findSome? p.stepBatcher)

/-- Steps until none is possible, or as often as given. -/
def run : Nat → Pipeline → Pipeline
  | 0, p => p
  | n + 1, p =>
    match p.step? with
    | some p => run n p
    | none => p

/-- More steps than there can be without a change from outside: each report goes to each outlet, and
each batcher takes and passes it on. -/
def stepBound (p : Pipeline) : Nat :=
  let held := p.outlets.map fun o => match o.batcher with
    | some b => b.incoming.length + b.batch.length
    | none => 0
  (p.queue.waiting.length + p.workers.length + 1) * (4 * p.outlets.length + 4) +
    2 * held.sum + 2 * p.workers.length + 4 * p.outlets.length

/-- Steps until everything waits. -/
def settle (p : Pipeline) : Pipeline := run p.stepBound p

/-- Starts workers. -/
def start (p : Pipeline) (count : Nat) : Pipeline :=
  { p with workers := p.workers ++ List.replicate count .waiting }

/-- Lets time pass. -/
def sleep (p : Pipeline) (ms : Nat) : Pipeline :=
  settle { p with now := p.now + ms }

/-- Closes every batcher and waits until it has passed on what it had. -/
def closeBatchers (p : Pipeline) : Pipeline :=
  settle { p with outlets := p.outlets.map fun o => { o with batcher := o.batcher.map (·.close) } }

/-- Whether a worker has finished. -/
def Worker.isFinished : Worker → Bool
  | .finished => true
  | _ => false

/-- The number of workers that have finished. -/
def finishedWorkers (p : Pipeline) : Nat := p.workers.countP Worker.isFinished

/-- The names of the consumers in order. -/
def names (p : Pipeline) : List String := p.outlets.map (·.consumer.name)

/-- The paths under which consumers show what they have taken. -/
def endpoints (p : Pipeline) : List String := p.outlets.filterMap (·.consumer.endpoint)

/-- The calls of all consumers of a name, in order. -/
def callsNamed (p : Pipeline) (name : String) : List DeliveredCall :=
  p.calls.filter fun c => (p.outlets[c.outlet]?).any (·.consumer.name == name)

/-- The reports before each time that the consumer at a place was asked for its page. -/
def scraped (p : Pipeline) (place : Nat) : List (List ReportRequest) :=
  let calls := p.callsOf place
  let marks := (p.scrapes.filter (·.1 == place)).map (·.2)
  List.zipWith (fun first last => ((calls.take last).drop first).flatten) (0 :: marks) marks

/-- Asks the consumer at a place for its page. -/
def scrape (p : Pipeline) (place : Nat) (c : Consumer) : Page × Pipeline :=
  let p := { p with scrapes := p.scrapes ++ [(place, (p.callsOf place).length)] }
  (c.page (p.scraped place), p)

/-- What comes of sending a report. -/
inductive Sending where
  | sent
  /-- No room came up within the time that the sender waits. -/
  | lost
  | closed
  deriving DecidableEq, Repr

/-- Sends a report and waits for room if there is none, for a time after which
the report is lost. -/
def send (p : Pipeline) (patience : Nat) (r : ReportRequest) : Sending × Pipeline :=
  match p.queue.put r with
  | .ok queue => (.sent, { p with queue })
  | .error .closed => (.closed, p)
  | .error .full =>
    let p := p.settle
    match p.queue.put r with
    | .ok queue => (.sent, { p with queue })
    | .error .closed => (.closed, p)
    | .error .full => (.lost, p.sleep patience)

end Pipeline

end ServiceControl
