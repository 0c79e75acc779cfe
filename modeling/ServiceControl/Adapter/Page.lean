import ServiceControl.Collection.SortedMap
import ServiceControl.Number.Shortest

/-!
# Pages

What a consumer shows of the reports it has taken: a text, or an exposition of metrics.
-/

namespace ServiceControl

/-- The value of a line. -/
inductive LineValue where
  | count (n : Nat)
  | sum (x : Binary64)
  deriving DecidableEq, Repr

/-- What a scrape shows. -/
structure Exposition where
  /-- Descriptions by name. -/
  help : SortedMap String := .empty
  /-- Sorts of metrics by name. -/
  sorts : SortedMap String := .empty
  /-- Values by name and labels. -/
  values : SortedMap LineValue := .empty
  deriving DecidableEq, Repr

/-- The text of a value. -/
def LineValue.text : LineValue → String
  | count n => toString n
  | sum x => Shortest.positional x

/-- The lines of an exposition: the comments on all metrics, then their values. -/
def Exposition.lines (e : Exposition) : List String :=
  e.help.entries.map (fun (name, text) => s!"# HELP {name} {text}") ++
  e.sorts.entries.map (fun (name, sort) => s!"# TYPE {name} {sort}") ++
  e.values.entries.map (fun (key, value) => s!"{key} {value.text}")

/-- What a consumer shows. -/
inductive Page where
  | text (s : String)
  | exposition (e : Exposition)
  deriving DecidableEq, Repr

end ServiceControl
