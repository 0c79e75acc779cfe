import ServiceControl.Call.Basic

/-!
# The queue of reports

Reports that were accepted wait in a bounded queue. It stays of use as long as somebody may put
reports into it or take them out.
-/

namespace ServiceControl

/-- A bounded queue. -/
structure ReportQueue where
  capacity : Nat
  waiting : List ReportRequest := []
  /-- Whether reports may still be put in. -/
  hasSenders : Bool := true
  /-- Whether reports may still be taken out. -/
  hasReceiver : Bool := true
  deriving Inhabited

namespace ReportQueue

/-- The largest capacity that there is memory for: the eighth part of a machine word's range. -/
def longest : Nat := 2 ^ 61 - 1

/-- The queue for a configured capacity; there is room for one report at least. -/
def ofCapacity (capacity : Nat) : ReportQueue := { capacity := max capacity 1 }

/-- Why a report is not in the queue. -/
inductive PutError where
  /-- There is no room now. -/
  | full
  /-- Nobody puts reports in or takes them out any more. -/
  | closed
  deriving DecidableEq, Repr

/-- Puts a report in, if there is room. -/
def put (q : ReportQueue) (r : ReportRequest) : Except PutError ReportQueue :=
  if !q.hasReceiver || !q.hasSenders then .error .closed
  else if q.waiting.length < q.capacity then .ok { q with waiting := q.waiting ++ [r] }
  else .error .full

/-- Takes the first report out. -/
def take? (q : ReportQueue) : Option (ReportRequest × ReportQueue) :=
  match q.waiting with
  | r :: rest => some (r, { q with waiting := rest })
  | [] => none

/-- Nothing will come any more. -/
def isDone (q : ReportQueue) : Bool := q.waiting.isEmpty && !q.hasSenders

/-- Gives up taking reports out; what waits is lost. -/
def dropReceiver (q : ReportQueue) : ReportQueue := { q with waiting := [], hasReceiver := false }

/-- Gives up putting reports in; what waits stays. -/
def dropSenders (q : ReportQueue) : ReportQueue := { q with hasSenders := false }

end ReportQueue

end ServiceControl
