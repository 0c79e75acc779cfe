import ServiceControl.Call.Json
import ServiceControl.Proofs.Json.Records

/-!
# Calls read back

What is written of a call has the form in which calls are read, record by record: each field stands
under its own name, and what is left out or null is read as missing. Only a double that is not
finite has no number in JSON, so a call reads back exactly if all of its doubles are finite.
-/

namespace ServiceControl

open Json

/-! ### Words, doubles and labels -/

namespace Json

@[simp] theorem toInt64?_toInt (i : Int64) : toInt64? (.int i.toInt) = some i := by
  have hbounds : -2 ^ 63 ≤ i.toInt ∧ i.toInt ≤ 2 ^ 63 - 1 :=
    ⟨i.le_toInt, Int.le_sub_one_of_lt i.toInt_lt⟩
  rw [toInt64?, int64?, intIn?, if_pos hbounds, Option.map_some, Int64.ofInt_toInt]

theorem toInt64?_null : toInt64? .null = none := rfl

@[simp] theorem toInt32?_toInt (i : Int32) : toInt32? (.int i.toInt) = some i := by
  have hbounds : -2 ^ 31 ≤ i.toInt ∧ i.toInt ≤ 2 ^ 31 - 1 :=
    ⟨i.le_toInt, Int.le_sub_one_of_lt i.toInt_lt⟩
  rw [toInt32?, int32?, intIn?, if_pos hbounds, Option.map_some, Int32.ofInt_toInt]

/-- A double reads back exactly if it is finite. -/
@[simp] theorem double?_ofDouble_iff {x : Binary64} :
    double? (ofDouble x) = some x ↔ x.isFinite = true := by
  rw [ofDouble]
  split
  · next h => simp only [double?, h]
  · next h => simp only [double?, reduceCtorEq, h]

@[simp] theorem labels?_ofMap (l : Labels) : labels? (ofMap .str l) = some l :=
  map?_eq_some fun _ _ => rfl

end Json

/-! ### Values of metrics -/

namespace ExponentialBuckets

/-- All doubles are finite. -/
def IsFinite (b : ExponentialBuckets Binary64) : Prop :=
  b.growth.isFinite = true ∧ b.scale.isFinite = true

theorem ofJson?_null : ofJson? .null = none := rfl

@[simp] theorem ofJson?_toJson_iff {b : ExponentialBuckets Binary64} :
    ofJson? b.toJson = some b ↔ b.IsFinite := by
  obtain ⟨count, growth, scale⟩ := b
  rw [ofJson?, toJson, record?_obj (by decide) (by simp)]
  simp [Record.withDefault_eq, Option.bind_eq_some_iff, IsFinite]

end ExponentialBuckets

namespace Distribution

/-- All doubles are finite. -/
def IsFinite (d : Distribution Binary64) : Prop :=
  d.mean.isFinite = true ∧ d.minimum.isFinite = true ∧ d.maximum.isFinite = true ∧
    ∀ b ∈ d.buckets, b.IsFinite

theorem ofJson?_null : ofJson? .null = none := rfl

@[simp] theorem ofJson?_toJson_iff {d : Distribution Binary64} :
    ofJson? d.toJson = some d ↔ d.IsFinite := by
  obtain ⟨count, mean, minimum, maximum, bucketCounts, buckets⟩ := d
  rw [ofJson?, toJson, record?_obj (by decide) (by simp)]
  simp [Record.withDefault_eq, Record.optional_eq, Option.bind_eq_some_iff, list?_map_iff,
    readOptional_getD_iff ExponentialBuckets.ofJson?_null, IsFinite]

end Distribution

namespace MetricValue

/-- All doubles are finite. -/
def IsFinite (v : MetricValue) : Prop :=
  (∀ x ∈ v.double, x.isFinite = true) ∧ ∀ d ∈ v.distribution, d.IsFinite

section

variable {α : Type} (name other : String) (v : Option α) (write : α → Json)

theorem map_fst_setField : ((setField name v write).map Prod.fst).Sublist [name] := by
  cases v with
  | none => exact List.nil_sublist _
  | some x => exact .refl _

theorem get?_setField :
    Record.get? (setField name v write) other = if name = other then v.map write else none := by
  cases v <;> simp [setField]

end

theorem ofJson?_toJson_iff {v : MetricValue} : ofJson? v.toJson = some v ↔ v.IsFinite := by
  obtain ⟨labels, int64, double, bool, text, distribution⟩ := v
  rw [ofJson?, toJson, record?_obj (by decide)]
  · simp [Record.withDefault_eq, Record.optional_eq, Option.bind_eq_some_iff, get?_setField,
      readOptional_map_iff toInt64?_null, readOptional_map_iff double?_null,
      readOptional_map_iff bool?_null, readOptional_map_iff text?_null,
      readOptional_map_iff Distribution.ofJson?_null, IsFinite]
  · simp only [List.map_cons, List.map_append]
    exact (((((map_fst_setField ..).append (map_fst_setField ..)).append
      (map_fst_setField ..)).append (map_fst_setField ..)).append (map_fst_setField ..)).cons_cons _

end MetricValue

namespace MetricValueSet

/-- All doubles are finite. -/
def IsFinite (s : MetricValueSet) : Prop := ∀ v ∈ s.values, v.IsFinite

theorem ofJson?_toJson_iff {s : MetricValueSet} : ofJson? s.toJson = some s ↔ s.IsFinite := by
  obtain ⟨name, values⟩ := s
  rw [ofJson?, toJson, record?_obj (by decide) (by simp)]
  simp [Record.withDefault_eq, Option.bind_eq_some_iff, list?_map_iff,
    MetricValue.ofJson?_toJson_iff, IsFinite]

end MetricValueSet

/-! ### Operations -/

namespace LogEntry

theorem ofJson?_toJson (e : LogEntry) : ofJson? e.toJson = some e := by
  obtain ⟨name, severity, text, payload⟩ := e
  rw [ofJson?, toJson, record?_obj (by decide) (by simp)]
  simp [Record.withDefault_eq, Record.optional_eq, Option.bind_eq_some_iff, ofOptionalText,
    readOptional_getD_iff text?_null, readOptional_getD_iff payload?_null, payload?_fields]

end LogEntry

namespace Operation

/-- All doubles are finite. -/
def IsFinite (o : Operation) : Prop := ∀ s ∈ o.metrics, s.IsFinite

theorem ofJson?_toJson_iff {o : Operation} : ofJson? o.toJson = some o ↔ o.IsFinite := by
  obtain ⟨id, name, consumer, startTime, endTime, labels, metrics, logs⟩ := o
  rw [ofJson?, toJson, record?_obj (by decide) (by simp)]
  simp [Record.withDefault_eq, Record.optional_eq, Option.bind_eq_some_iff, ofOptionalText,
    readOptional_getD_iff text?_null, list?_map_iff, MetricValueSet.ofJson?_toJson_iff,
    LogEntry.ofJson?_toJson, IsFinite]

end Operation

/-! ### Calls -/

namespace CheckRequest

/-- All doubles are finite. -/
def IsFinite (c : CheckRequest) : Prop := c.operation.IsFinite

theorem ofJson?_toJson_iff {c : CheckRequest} : ofJson? c.toJson = some c ↔ c.IsFinite := by
  obtain ⟨service, operation⟩ := c
  rw [ofJson?, toJson, record?_obj (by decide) (by simp)]
  simp [Record.withDefault_eq, Option.bind_eq_some_iff, Operation.ofJson?_toJson_iff, IsFinite]

end CheckRequest

namespace ReportRequest

/-- All doubles are finite. -/
def IsFinite (r : ReportRequest) : Prop := ∀ o ∈ r.operations, o.IsFinite

theorem ofJson?_toJson_iff {r : ReportRequest} : ofJson? r.toJson = some r ↔ r.IsFinite := by
  obtain ⟨service, operations⟩ := r
  rw [ofJson?, toJson, record?_obj (by decide) (by simp)]
  simp [Record.withDefault_eq, Option.bind_eq_some_iff, list?_map_iff, Operation.ofJson?_toJson_iff,
    IsFinite]

end ReportRequest

namespace CheckError

theorem ofJson?_toJson (e : CheckError) : ofJson? e.toJson = some e := by
  obtain ⟨code, detail⟩ := e
  rw [ofJson?, toJson, record?_obj (by decide) (by simp)]
  simp [Record.withDefault_eq, Record.required, CheckCode.ofJson?]

end CheckError

namespace CheckResponse

theorem ofJson?_toJson (a : CheckResponse) : ofJson? a.toJson = some a := by
  obtain ⟨operation, errors⟩ := a
  rw [ofJson?, toJson, record?_obj (by decide) (by simp)]
  simp [Record.withDefault_eq, Option.bind_eq_some_iff, list?_map_iff, CheckError.ofJson?_toJson]

end CheckResponse

end ServiceControl
