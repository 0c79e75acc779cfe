import ServiceControl.Collection.Table
import ServiceControl.SelfMetrics
import ServiceControl.Services.Resolve

/-!
# The pool of checkers

Checks are answered by checkers that are built when they are first needed and kept. Entries
that agree in kind, id and typed params share one checker, whatever place they have and
whichever configuration they came with. A build that fails is not remembered, so it is tried
again at the next need.
-/

namespace ServiceControl

/-- What checkers are kept under. -/
structure CheckerKey where
  kind : String
  id : String
  params : Params
  deriving DecidableEq, Repr

/-- A checker that was built, with the number of builds attempted before it. -/
structure Instance where
  serial : Nat
  checker : Checker

/-- What happened to checkers. -/
inductive PoolEvent where
  | built (kind : String) (serial : Nat)
  | failed (kind : String)
  | unloaded (kind : String) (serial : Nat)
  deriving DecidableEq, Repr

/-- The configuration in force and the checkers that are kept. -/
structure CheckerPool where
  services : Services := .empty
  kept : Table CheckerKey Instance := []
  /-- The number of builds attempted. -/
  attempts : Nat := 0
  /-- What happened, in order. -/
  history : List PoolEvent := []
  metrics : Metrics := []

/-- The denials that a checker adds for a call; one that cannot tell denies. -/
def Checker.denials (c : Checker) (request : CheckRequest) : List CheckError :=
  match c.check request with
  | .ok none => []
  | .ok (some d) => [d]
  | .error e => [⟨.permissionDenied, e.message⟩]

/-- What an active entry of checkers is kept under, and its builder. -/
def Entry.checkerKey? (e : Entry) : Option (CheckerKey × CheckerBuilder) := do
  let b ← e.binding
  let params ← b.params?
  let builder ← b.builder.checker?
  return (⟨e.kind, e.id, params⟩, builder)

namespace CheckerPool

/-- The checker that is kept under a key. -/
def kept? (p : CheckerPool) (key : CheckerKey) : Option Instance := Table.find? key p.kept

/-- The part that one check does at a time: looks again, and builds and keeps what is not there. -/
def build (p : CheckerPool) (key : CheckerKey) (b : CheckerBuilder) :
    Option Instance × CheckerPool :=
  match p.kept? key with
  | some i => (some i, p)
  | none =>
    match b.build p.attempts key.params with
    | .ok c =>
      let i : Instance := ⟨p.attempts, c⟩
      (some i, { p with
        kept := p.kept ++ [(key, i)]
        attempts := p.attempts + 1
        history := p.history ++ [.built key.kind i.serial]
        metrics := p.metrics.count (.checkerBuilds key.kind true) })
    | .error _ =>
      (none, { p with
        attempts := p.attempts + 1
        history := p.history ++ [.failed key.kind]
        metrics := p.metrics.count (.checkerBuilds key.kind false) })

/-- The checker under a key: the kept one, or a new one. -/
def obtain (p : CheckerPool) (key : CheckerKey) (b : CheckerBuilder) :
    Option Instance × CheckerPool :=
  match p.kept? key with
  | some i => (some i, p)
  | none => p.build key b

/-- The checker of an entry, if there is one. -/
def checkerFor (p : CheckerPool) (e : Entry) : Option Instance × CheckerPool :=
  match e.checkerKey? with
  | some (key, b) => p.obtain key b
  | none => (none, p)

/-- Asks the checkers of entries in order. -/
def ask (request : CheckRequest) : List Entry → CheckerPool → List CheckError × CheckerPool
  | [], p => ([], p)
  | e :: rest, p =>
    let (i, p) := p.checkerFor e
    let denials := match i with
      | some i => i.checker.denials request
      | none => []
    let (more, p) := ask request rest p
    (denials ++ more, p)

/-- What is counted for a check that was answered. -/
def countCheck (m : Metrics) (errors : List CheckError) : Metrics :=
  ((m.count .checkRequests).count .checkDurations).countAll
    (errors.map fun e => .checkErrors e.code)

/-- The call that a check is about. -/
def keyOf (request : CheckRequest) : CallKey :=
  ⟨request.operation.consumer, request.service, .check⟩

/-- Answers a check. -/
def check (p : CheckerPool) (request : CheckRequest) : CheckResponse × CheckerPool :=
  let (errors, p) := ask request (p.services.resolve (keyOf request)) p
  (⟨request.operation.id, errors⟩, { p with metrics := countCheck p.metrics errors })

/-- Puts a configuration in force. The checkers stay. -/
def change (p : CheckerPool) (services : Services) : CheckerPool := { p with services }

/-- Gives up all checkers. -/
def unloadAll (p : CheckerPool) : CheckerPool :=
  { p with
    kept := []
    history := p.history ++ p.kept.map fun (key, i) => .unloaded key.kind i.serial }

/-- For a kind, the number of builds attempted, of builds that succeeded and of
checkers given up. -/
def tally (p : CheckerPool) (kind : String) : Nat × Nat × Nat :=
  let built := p.history.countP fun
    | .built k _ => k == kind
    | _ => false
  let failed := p.history.countP (· == .failed kind)
  let unloaded := p.history.countP fun
    | .unloaded k _ => k == kind
    | _ => false
  (built + failed, built, unloaded)

end CheckerPool

end ServiceControl
