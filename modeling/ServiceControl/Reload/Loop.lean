import ServiceControl.Reload.Reloader
import ServiceControl.SelfMetrics

/-!
# The reload loop

The loop reloads at once, then at every tick of an interval and at every trigger in between, until
it is told to stop. One reload runs at a time: the loop and calls from outside wait for each other.
Time is counted in milliseconds, and nothing but a fetch takes any.

A tick that falls due while a reload runs is taken when the loop is free again. A tick that is taken
late moves the following ones: the next one comes a full interval after it.
-/

namespace ServiceControl

/-- A scripted answer to a fetch, and how long it takes. -/
structure TimedAnswer where
  answer : Except FetchError ByteArray
  delay : Nat := 0

/-- A reload, from the wish to its end. -/
inductive ReloadTask where
  /-- It waits for the one that runs. -/
  | queued
  /-- It has started to fetch; the answer comes at an instant. -/
  | fetching (answer : Except FetchError ByteArray) (finish : Nat)

/-- What the loop does. -/
inductive LoopPhase where
  /-- It waits for a tick, a trigger or the end. -/
  | listening
  | reloading (task : ReloadTask)
  | stopped

/-- The loop, its inputs, and a call from outside. -/
structure ReloadLoop where
  reloader : Reloader
  interval : Nat
  /-- The answers to fetches in order; the last one is repeated. -/
  answers : List TimedAnswer
  now : Nat := 0
  /-- When the next tick is due. -/
  tick : Nat := 0
  phase : LoopPhase := .listening
  /-- A reload that was called for from outside. -/
  outside : Option ReloadTask := none
  /-- What came of the last reload that was called for from outside. -/
  outcome : Option ReloadOutcome := none
  /-- The number of triggers that wait; nothing if the loop does not listen to triggers. -/
  triggers : Option Nat := some 0
  /-- Whether triggers may still be sent. -/
  hasTriggers : Bool := true
  stopSent : Bool := false
  /-- The number of fetches that were started. -/
  fetches : Nat := 0
  metrics : Metrics := []

namespace ReloadLoop

/-- The answer to the next fetch. -/
def nextAnswer (l : ReloadLoop) : TimedAnswer :=
  (l.answers[l.fetches]?.or l.answers.getLast?).getD ⟨.error (.invalidLocator ""), 0⟩

/-- Whether a reload is between its start and its end. -/
def isFetching : ReloadTask → Bool
  | .fetching _ _ => true
  | .queued => false

/-- Whether a reload runs. -/
def isBusy (l : ReloadLoop) : Bool :=
  l.outside.any isFetching || match l.phase with
    | .reloading t => isFetching t
    | _ => false

/-- The start of a fetch. -/
def startFetch (l : ReloadLoop) : ReloadTask × ReloadLoop :=
  let a := l.nextAnswer
  (.fetching a.answer (l.now + a.delay), { l with fetches := l.fetches + 1 })

/-- How late a tick may be taken without moving the following ones. -/
def tickTolerance : Nat := 5

/-- When the tick after one that is taken now is due. -/
def nextTick (l : ReloadLoop) : Nat :=
  if l.tick + tickTolerance < l.now then l.now + l.interval else l.tick + l.interval

/-- Whether a tick is due. -/
def tickDue (l : ReloadLoop) : Bool := l.tick ≤ l.now

/-- One step of the loop; nothing if it has to wait or has stopped. -/
def stepLoop (l : ReloadLoop) : Option ReloadLoop :=
  match l.phase with
  | .stopped => none
  | .listening =>
    if l.stopSent then some { l with phase := .stopped, triggers := none }
    else if l.tickDue then some { l with tick := l.nextTick, phase := .reloading .queued }
    else match l.triggers with
      | none => none
      | some (n + 1) => some { l with triggers := some n, phase := .reloading .queued }
      | some 0 => if l.hasTriggers then none else some { l with triggers := none }
  | .reloading .queued =>
    if l.isBusy then none
    else
      let (task, l) := l.startFetch
      some { l with phase := .reloading task }
  | .reloading (.fetching answer finish) =>
    if l.now < finish then none
    else
      let (outcome, reloader) := l.reloader.receive answer
      some { l with
        reloader, phase := .listening
        metrics := l.metrics.count (.configReloads outcome.label) }

/-- One step of the call from outside; nothing if it has to wait or there is none. -/
def stepOutside (l : ReloadLoop) : Option ReloadLoop :=
  match l.outside with
  | none => none
  | some .queued =>
    if l.isBusy then none
    else
      let (task, l) := l.startFetch
      some { l with outside := some task }
  | some (.fetching answer finish) =>
    if l.now < finish then none
    else
      let (outcome, reloader) := l.reloader.receive answer
      some { l with reloader, outside := none, outcome := some outcome }

/-- Steps of the loop and of the call from outside until both wait, or as often as given. -/
def settle : Nat → ReloadLoop → ReloadLoop
  | 0, l => l
  | n + 1, l =>
    match l.stepLoop.or l.stepOutside with
    | some l => settle n l
    | none => l

/-- More steps than there can be at one instant: each waiting trigger leads to three at most. -/
def stepBound (l : ReloadLoop) : Nat := 3 * (l.triggers.getD 0) + 16

/-- Lets everything happen that happens now. -/
def catchUp (l : ReloadLoop) : ReloadLoop := settle l.stepBound l

/-- When a task comes to its end. -/
def endOf? : ReloadTask → Option Nat
  | .fetching _ finish => some finish
  | .queued => none

/-- The next instant at which something happens by itself. -/
def nextEvent? (l : ReloadLoop) : Option Nat :=
  let own := match l.phase with
    | .listening => some l.tick
    | .reloading t => endOf? t
    | .stopped => none
  match own, l.outside.bind endOf? with
  | some a, some b => some (min a b)
  | a, b => a.or b

/-- Lets time pass up to an instant, from one event to the next. -/
def runUntil (target : Nat) : Nat → ReloadLoop → ReloadLoop
  | 0, l => { l with now := target }
  | n + 1, l =>
    match l.nextEvent? with
    | some t =>
      if t ≤ target then runUntil target n (catchUp { l with now := max t l.now })
      else { l with now := target }
    | none => { l with now := target }

/-- Lets time pass. -/
def sleep (l : ReloadLoop) (ms : Nat) : ReloadLoop := (runUntil (l.now + ms) (2 * ms + 8) l).catchUp

/-- Starts the loop. Without an interval it breaks off at once. -/
def start (l : ReloadLoop) : ReloadLoop :=
  if l.interval = 0 then { l with phase := .stopped, triggers := none } else l.catchUp

/-- Sends a trigger, and tells whether anybody listens. -/
def trigger (l : ReloadLoop) : Bool × ReloadLoop :=
  match l.triggers with
  | some n => (true, catchUp { l with triggers := some (n + 1) })
  | none => (false, l)

/-- Gives up sending triggers; the loop takes notice of it. -/
def dropTriggers (l : ReloadLoop) : ReloadLoop := catchUp { l with hasTriggers := false }

/-- Tells the loop to stop. -/
def stop (l : ReloadLoop) : ReloadLoop := catchUp { l with stopSent := true }

/-- Lets time pass until the call from outside has come to its end. -/
def runOutside : Nat → ReloadLoop → ReloadLoop
  | 0, l => l
  | n + 1, l =>
    if l.outside.isNone then l
    else match l.nextEvent? with
      | some t => runOutside n (catchUp { l with now := max t l.now })
      | none => l

/-- Calls for a reload from outside and waits for its end. -/
def reloadNow (l : ReloadLoop) : Option ReloadOutcome × ReloadLoop :=
  let l := catchUp { l with outside := some .queued, outcome := none }
  let wait := match l.phase with
    | .reloading t => (endOf? t).getD l.now
    | _ => l.now
  let l := runOutside (2 * (wait + 1) + 2 * (l.answers.map (·.delay)).sum + 16) l
  (l.outcome, l)

/-- Whether the loop goes on. -/
def isRunning (l : ReloadLoop) : Bool :=
  match l.phase with
  | .stopped => false
  | _ => true

end ReloadLoop

end ServiceControl
