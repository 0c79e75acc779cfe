import ServiceControl.Bundled.Statsd
import ServiceControl.Proofs.Statsd.Protocol

/-!
# What lines say

A line is made of a name, a whole number and a type, and the name of pieces that come from the
report. Whoever takes the line in cuts it at the characters that the protocol keeps for itself. This
gives back what the line was made of exactly if none of the pieces has such a character; with one a
piece can end the name, stand in for the value, and begin another line. A report has as many lines
as its counts and the samples of its distributions.
-/

namespace ServiceControl

namespace ExponentialBuckets

variable {α : Type} [Reckoning α] {bounds : List α}

/-- With bounds there is a value for each bucket. -/
theorem exists_bucketValue (hbounds : bounds ≠ []) (l : ExponentialBuckets α) (first maximum : α)
    (i : Nat) : ∃ v, l.bucketValue bounds first maximum i = .ok v := by
  rw [bucketValue]
  split
  · rw [lastValue, List.getLast?_eq_some_getLast hbounds]
    split
    · exact ⟨_, rfl⟩
    · exact ⟨_, rfl⟩
  · split
    · exact ⟨_, rfl⟩
    · split
      · exact ⟨_, rfl⟩
      · exact ⟨_, rfl⟩

/-- With bounds there are samples, as many as the buckets count. -/
theorem exists_samplesFrom (hbounds : bounds ≠ []) (l : ExponentialBuckets α) (first maximum : α)
    (i : Nat) (counts : List Int64) :
    ∃ xs, l.samplesFrom bounds first maximum i counts = .ok xs ∧
      xs.length = (counts.map Int64.toNatClampNeg).sum := by
  induction counts generalizing i with
  | nil => exact ⟨[], rfl, rfl⟩
  | cons c counts ih =>
    obtain ⟨v, hv⟩ := exists_bucketValue hbounds l first maximum i
    obtain ⟨xs, hxs, hlength⟩ := ih (i + 1)
    refine ⟨List.replicate c.toNatClampNeg v ++ xs, ?_, ?_⟩
    · simp only [samplesFrom, hv, hxs, bind, Except.bind, pure, Except.pure]
    · rw [List.length_append, List.length_replicate, hlength, List.map_cons, List.sum_cons]

/-- A distribution has samples exactly with the layout, and then as many as its buckets count. -/
theorem length_samples {l : ExponentialBuckets α} (hbounds : l.bounds ≠ []) (d : Distribution α) :
    ((l.samples d).toOption.getD []).length =
      if d.buckets.any l.same then (d.bucketCounts.map Int64.toNatClampNeg).sum else 0 := by
  cases hsame : d.buckets.any l.same with
  | false =>
    have hnone : l.samples d = .error .otherLayout := by
      rw [samples, hsame]
      rfl
    rw [hnone]
    rfl
  | true =>
    obtain ⟨first, hfirst⟩ : ∃ first, firstValue l.bounds d.minimum = .ok first := by
      rw [firstValue, List.head?_eq_some_head hbounds]
      split
      · exact ⟨_, rfl⟩
      · exact ⟨_, rfl⟩
    obtain ⟨xs, hxs, hlength⟩ := exists_samplesFrom hbounds l first d.maximum 0 d.bucketCounts
    have hsome : l.samples d = .ok xs := by
      rw [samples, hsame]
      simp only [hfirst, hxs, Bool.not_true, Bool.false_eq_true, if_false, bind, Except.bind]
    rw [hsome, if_pos rfl]
    exact hlength

end ExponentialBuckets

/-- The layouts of known metrics have bounds. -/
theorem bounds_ne_nil_of_layoutOf? {metric : String} {l : ExponentialBuckets Binary64}
    (h : layoutOf? metric = some l) : l.bounds ≠ [] := by
  obtain ⟨m, -, hm⟩ := Option.bind_eq_some_iff.mp h
  have hcount : l.count = 8 := by
    cases m <;> cases hm <;> rfl
  intro hnil
  have hlength : l.bounds.length = l.count.toNatClampNeg := by
    rw [ExponentialBuckets.bounds, List.length_map, List.length_range]
  rw [hnil, hcount] at hlength
  cases hlength

namespace Statsd

/-- What the name in a line is made of. -/
structure NamePieces where
  /-- The version, the location and the method, as far as they are present. -/
  resource : List String
  metric : String
  /-- The labels of the metric, as far as they are present. -/
  labels : List String

/-- The name that is made of pieces. -/
def NamePieces.name (p : NamePieces) : String :=
  lineName (joinPieces p.resource) p.metric (joinPieces p.labels)

/-- All texts that come from the report. -/
def NamePieces.all (p : NamePieces) : List String := p.resource ++ p.metric :: p.labels

/-- What a line is made of. -/
structure Reading where
  pieces : NamePieces
  value : Int
  sort : LineSort

/-- What the line of a reading is to say. -/
def Reading.measurement (x : Reading) : Measurement := ⟨x.pieces.name, x.value, x.sort⟩

/-- The readings of one value of a metric: its count, or the samples of its distribution in
milliseconds. -/
def valueReadings (resource : List String) (metric : String) (v : MetricValue) : List Reading :=
  match v.int64, v.distribution with
  | some count, _ =>
    [⟨⟨resource, metric, labelsUnder (labelKeysOf metric) v.labels⟩, count.toInt, .counter⟩]
  | none, some d => (samplesOf metric d).map fun seconds =>
    ⟨⟨resource, metric, []⟩, (seconds * Binary64.ofInt 1000).toInt64, .timing⟩
  | none, none => []

/-- The labels that the names of an operation's metrics begin with, as far as they are present. -/
def resourcePieces (service : String) (o : Operation) : List String :=
  labelsUnder [LabelKey.apiVersion, LabelKey.location, LabelKey.apiMethod]
    (o.resourceLabels service)

/-- The readings of a report. -/
def readings (r : ReportRequest) : List Reading :=
  r.operations.flatMap fun o => o.metrics.flatMap fun m =>
    m.values.flatMap (valueReadings (resourcePieces r.service o) m.name)

/-- The number of lines of one value of a metric. -/
def lineCount (metric : String) (v : MetricValue) : Nat :=
  if v.int64.isSome then 1
  else match v.distribution, layoutOf? metric with
    | some d, some l =>
      if d.buckets.any l.same then (d.bucketCounts.map Int64.toNatClampNeg).sum else 0
    | _, _ => 0

theorem counterLine_eq (name : String) (count : Int) :
    counterLine name count = (Measurement.mk name count .counter).line := by
  simp only [counterLine, Measurement.line, LineSort.text, String.append_assoc]
  rfl

theorem timingLine_eq (name : String) (seconds : Binary64) :
    timingLine name seconds =
      (Measurement.mk name (seconds * Binary64.ofInt 1000).toInt64 .timing).line := by
  simp only [timingLine, Measurement.line, LineSort.text, String.append_assoc]
  rfl

/-- The lines of a value say its readings. -/
theorem valueLines_eq (resource : List String) (metric : String) :
    valueLines (joinPieces resource) metric =
      fun v => (valueReadings resource metric v).map fun x => x.measurement.line := by
  have hnone : joinPieces [] = "" := rfl
  funext v
  rw [valueLines, valueReadings]
  cases v.int64 with
  | some count =>
    simp only [counterLine_eq, Reading.measurement, NamePieces.name, labelPart, List.map_cons,
      List.map_nil]
  | none =>
    cases v.distribution with
    | none => rfl
    | some d =>
      simp only [List.map_map, Function.comp_def, Reading.measurement, NamePieces.name, hnone]
      exact List.map_congr_left fun seconds _ => timingLine_eq _ seconds

/-- The lines of a report say its readings, in order. -/
theorem lines_eq (r : ReportRequest) :
    lines r = (readings r).map fun x => x.measurement.line := by
  have hresource : ∀ o : Operation, resourcePart (o.resourceLabels r.service) =
      joinPieces (resourcePieces r.service o) := fun _ => rfl
  have hoperation : ∀ o : Operation, operationLines r.service o =
      o.metrics.flatMap fun m => m.values.flatMap fun v =>
        (valueReadings (resourcePieces r.service o) m.name v).map fun x => x.measurement.line :=
    fun o => by simp only [operationLines, hresource, valueLines_eq]
  simp only [lines, funext hoperation, readings, List.map_flatMap]

/-- A value has a line for its count, or else one for each sample of its distribution. -/
theorem length_valueReadings (resource : List String) (metric : String) (v : MetricValue) :
    (valueReadings resource metric v).length = lineCount metric v := by
  rw [valueReadings, lineCount]
  cases v.int64 with
  | some count => rfl
  | none =>
    cases v.distribution with
    | none => rfl
    | some d =>
      simp only [List.length_map, samplesOf]
      cases hlayout : layoutOf? metric with
      | none => rfl
      | some l => exact ExponentialBuckets.length_samples (bounds_ne_nil_of_layoutOf? hlayout) d

/-- A report has as many lines as its values have together. -/
theorem length_lines (r : ReportRequest) :
    (lines r).length = (r.operations.map fun o =>
      (o.metrics.map fun m => (m.values.map (lineCount m.name)).sum).sum).sum := by
  simp only [lines_eq, readings, List.length_map, List.length_flatMap, length_valueReadings]

/-- Characters but points come from the pieces, and none is lost. -/
theorem mem_joinPieces_iff {c : Char} (hc : c ≠ '.') {pieces : List String} :
    c ∈ (joinPieces pieces).toList ↔ ∃ p ∈ pieces, c ∈ p.toList := by
  have hpoint : ".".toList = ['.'] := by decide
  rw [joinPieces, trimPoints, Text.trimBy, String.toList_ofList,
    Text.mem_trimListBy_iff (p := (· == '.')) (beq_eq_false_iff_ne.mpr hc),
    String.toList_intercalate, hpoint]
  induction pieces with
  | nil => simp
  | cons p pieces ih =>
    cases pieces with
    | nil => simp
    | cons q pieces =>
      simp only [List.map_cons, List.intercalate_cons_cons, List.mem_append, List.mem_singleton,
        or_iff_left hc, List.exists_mem_cons_iff] at ih ⊢
      exact or_congr_right ih

/-- Separators stay in the names of metrics. -/
theorem mem_shortName_iff {c : Char} (hc : isSeparator c = true) {metric : String} :
    c ∈ (shortName metric).toList ↔ c ∈ metric.toList := by
  simp only [isSeparator, Bool.or_eq_true, beq_iff_eq] at hc
  rw [shortName]
  rcases hc with ((rfl | rfl) | rfl) | rfl <;>
    rw [Text.mem_replaceChar_iff (by decide) (by decide),
      Text.mem_replace_iff (by decide) (by decide) (by decide),
      Text.mem_replace_iff (by decide) (by decide) (by decide)]

/-- A name is without separators exactly if all that it is made of is. -/
theorem isWhole_name_iff (p : NamePieces) : IsWhole p.name ↔ ∀ s ∈ p.all, IsWhole s := by
  have hmem : ∀ c, isSeparator c = true → (c ∈ p.name.toList ↔ ∃ s ∈ p.all, c ∈ s.toList) := by
    intro c hc
    have hpoint : c ≠ '.' := by
      rintro rfl
      cases hc
    simp only [NamePieces.name, lineName, mem_joinPieces_iff hpoint, NamePieces.all,
      mem_shortName_iff hc, List.exists_mem_cons_iff, List.mem_append, or_and_right, exists_or,
      List.not_mem_nil, false_and, exists_false, or_false]
  simp only [isWhole_iff]
  constructor
  · intro h s hs c hc hcs
    exact h c hc ((hmem c hc).mpr ⟨s, hs, hcs⟩)
  · intro h c hc hname
    obtain ⟨s, hs, hcs⟩ := (hmem c hc).mp hname
    exact h s hs c hc hcs

/-- For every report each line is the name, the value and the type of a reading, in order, and there
are as many lines as the counts, and the samples of distributions that have the layout of a known
metric. A line is read as just that reading if and only if no text that came from the report into
its name has a colon, a bar or a line break. -/
theorem lines_read_back (r : ReportRequest) :
    lines r = (readings r).map (fun x => x.measurement.line) ∧
      (lines r).length = (r.operations.map fun o =>
        (o.metrics.map fun m => (m.values.map (lineCount m.name)).sum).sum).sum ∧
      ∀ x ∈ readings r, read? x.measurement.line = some [x.measurement] ↔
        ∀ s ∈ x.pieces.all, IsWhole s :=
  ⟨lines_eq r, length_lines r, fun x _ => (read?_line_iff _).trans (isWhole_name_iff x.pieces)⟩

/-- A report of one call to a method with a name. -/
def methodReport (method : String) : ReportRequest :=
  { service := "books"
    operations := [
      { labels := .ofList [(LabelKey.apiMethod, method)]
        metrics := [⟨"calls", [{ int64 := some 5 }]⟩] }] }

/-- What a line is made of when the method is named plainly. -/
def plainReading : Reading := ⟨⟨["List"], "calls", []⟩, 5, .counter⟩

/-- A plain name is read back. -/
theorem lines_read_back_plain : plainReading ∈ readings (methodReport "List") ∧
    (∀ s ∈ plainReading.pieces.all, IsWhole s) ∧
    read? plainReading.measurement.line = some [plainReading.measurement] := by
  have hreading : readings (methodReport "List") = [plainReading] := by rfl
  have hmem : plainReading ∈ readings (methodReport "List") :=
    hreading ▸ List.mem_singleton_self plainReading
  have hwhole : ∀ s ∈ plainReading.pieces.all, IsWhole s := by decide
  exact ⟨hmem, hwhole, ((lines_read_back (methodReport "List")).2.2 plainReading hmem).mpr hwhole⟩

/-- The name of a method can end its line and begin another one: two counts are read that nobody
reported. -/
theorem not_forall_lines_read_back :
    (¬ ∀ r : ReportRequest, ∀ x ∈ readings r, read? x.measurement.line = some [x.measurement]) ∧
      (lines (methodReport "List:1|c\nforged")).map read? =
        [some [⟨"List", 1, .counter⟩, ⟨"forged.calls", 5, .counter⟩]] := by
  have hforged : (lines (methodReport "List:1|c\nforged")).map read? =
      [some [⟨"List", 1, .counter⟩, ⟨"forged.calls", 5, .counter⟩]] := by
    decide +kernel
  refine ⟨fun hall => ?_, hforged⟩
  rw [lines_eq, List.map_map, List.map_eq_singleton_iff] at hforged
  obtain ⟨x, hx, hread⟩ := hforged
  have hone := hall _ x (hx ▸ List.mem_singleton_self x)
  rw [Function.comp_apply, hone, Option.some.injEq, List.cons.injEq] at hread
  exact List.cons_ne_nil _ _ hread.2.symm

end Statsd

end ServiceControl
