import ServiceControl.Call.Basic
import ServiceControl.Collection.Table

/-!
# The gateway's own metrics

Counters about the gateway itself, apart from the telemetry that it passes on.
-/

namespace ServiceControl

/-- What is counted. -/
inductive Counter where
  | checkRequests
  /-- Measured durations of checks. -/
  | checkDurations
  | checkErrors (code : CheckCode)
  | checkerBuilds (kind : String) (ok : Bool)
  | reportsEnqueued
  | reportsConsumed (consumer : String) (ok : Bool)
  | configReloads (outcome : String)
  deriving DecidableEq, Repr

namespace Counter

/-- The word for an outcome. -/
def outcome (ok : Bool) : String := if ok then "ok" else "error"

/-- The name of a counter. -/
def name : Counter → String
  | checkRequests => "mixgate_check_requests_total"
  | checkDurations => "mixgate_check_duration_seconds_count"
  | checkErrors _ => "mixgate_check_errors_total"
  | checkerBuilds _ _ => "mixgate_checker_builds_total"
  | reportsEnqueued => "mixgate_reports_enqueued_total"
  | reportsConsumed _ _ => "mixgate_reports_consumed_total"
  | configReloads _ => "mixgate_config_reloads_total"

/-- The labels of a counter in the order of their names. -/
def labels : Counter → List (String × String)
  | checkErrors code => [("code", code.name)]
  | checkerBuilds kind ok => [("kind", kind), ("outcome", outcome ok)]
  | reportsConsumed consumer ok => [("consumer", consumer), ("outcome", outcome ok)]
  | configReloads result => [("outcome", result)]
  | _ => []

/-- A counter with its labels in braces. -/
def text (c : Counter) : String :=
  let labels := ",".intercalate (c.labels.map fun l => l.1 ++ "=" ++ l.2)
  if labels = "" then c.name else c.name ++ "\x7b" ++ labels ++ "\x7d"

end Counter

/-- How often each counter was raised. -/
abbrev Metrics := Table Counter Nat

namespace Metrics

/-- Raises a counter by one. -/
def count (m : Metrics) (c : Counter) : Metrics := Table.alter c (fun n => n.getD 0 + 1) m

/-- Raises counters one after another. -/
def countAll (m : Metrics) (cs : List Counter) : Metrics := cs.foldl count m

/-- How often a counter was raised. -/
def get (m : Metrics) (c : Counter) : Nat := (Table.find? c m).getD 0

/-- Raising a counter changes that one only. -/
theorem get_count (m : Metrics) (c d : Counter) :
    (m.count c).get d = if c = d then m.get c + 1 else m.get d := by
  simp only [get, count, Table.find?_alter]
  by_cases h : c = d
  · simp only [h, ite_true, Option.getD_some]
  · simp only [h, ite_false]

end Metrics

end ServiceControl
