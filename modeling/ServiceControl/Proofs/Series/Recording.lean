import Mathlib.Data.List.Perm.Basic
import ServiceControl.Bundled.Prometheus

/-!
# What recordings give to a series

A series gets increments or samples from recordings. What it is bound to show is described here by
the recordings alone: a counter shows the sum of its increments, a histogram how many samples are at
most each of its bounds, and how many there are at all. Only the number of occurrences of each
recording matters for that, not their order.
-/

namespace ServiceControl.Prometheus

/-- The names of histograms with their layouts. -/
def histogramLayouts : Table String (ExponentialBuckets Binary64) :=
  KnownMetric.all.filterMap fun m => m.layout?.map fun l => (safeName m.name, l)

/-- The layout of the histograms of a name; summaries have none. -/
def layoutOf (name : String) : Option (ExponentialBuckets Binary64) :=
  Table.find? name histogramLayouts

/-- The names of histograms and summaries differ. -/
theorem nodup_names : (histogramLayouts.map Prod.fst ++ summaryFields.map Prod.snd).Nodup := by
  decide +kernel

/-- The name of a metric tells its layout. -/
theorem layoutOf_safeName {m : KnownMetric} {l : ExponentialBuckets Binary64}
    (h : m.layout? = some l) : layoutOf (safeName m.name) = some l := by
  have hmem : (safeName m.name, l) ∈ histogramLayouts := by
    refine List.mem_filterMap.mpr ⟨m, by cases m <;> decide, ?_⟩
    rw [h, Option.map_some]
  exact Table.find?_of_mem (List.nodup_append.mp nodup_names).1 hmem

/-- The series of log entries are summaries. -/
theorem layoutOf_summary {field name : String} (h : (field, name) ∈ summaryFields) :
    layoutOf name = none := by
  refine Table.find?_eq_none_iff.mpr fun hmem => ?_
  exact (List.nodup_append.mp nodup_names).2.2 name hmem name (List.mem_map_of_mem h) rfl

namespace Recording

/-- What a recording adds to the counter of a series. -/
def increment? (key : Series) : Recording → Option UInt64
  | count s n => if s = key then some n else none
  | observe .. => none

/-- The samples that a recording adds to a series as it is shown. -/
def samples? (key : ShownSeries) : Recording → Option (List Binary64)
  | count .. => none
  | observe s _ samples => if s.shown = key then some samples else none

/-- Samples are recorded with the layout that the name of the series tells. -/
def IsLaidOut : Recording → Prop
  | count .. => True
  | observe s l _ => l = layoutOf s.name

end Recording

/-- The increments of a counter. -/
def incrementsOf (key : Series) (rs : List Recording) : List UInt64 :=
  rs.filterMap (Recording.increment? key)

/-- What the counter of a series shows, if anything was recorded for it. -/
def counterOf (key : Series) (rs : List Recording) : Option UInt64 :=
  if (incrementsOf key rs).isEmpty then none
  else some (UInt64.ofNat ((incrementsOf key rs).map (·.toNat)).sum)

/-- The samples of a series as it is shown, recording by recording. -/
def observationsOf (key : ShownSeries) (rs : List Recording) : List (List Binary64) :=
  rs.filterMap (Recording.samples? key)

/-- The tally of samples without their sum: how many are at most each bound, if there are bounds,
and how many there are. -/
def Tally.ofSamples (layout : Option (ExponentialBuckets Binary64)) (samples : List Binary64) :
    Tally :=
  match layout with
  | some l =>
    .histogram
      { bounds := l.bounds
        atMost := l.bounds.map fun b => samples.countP (·.atMost b)
        count := samples.length }
  | none => .summary { count := samples.length }

/-- What the tally of a series shows besides the sum, if anything was recorded for it. -/
def tallyOf (key : ShownSeries) (rs : List Recording) : Option Tally :=
  if (observationsOf key rs).isEmpty then none
  else some (.ofSamples (layoutOf key.name) (observationsOf key rs).flatten)

/-- A tally counts its samples in any order. -/
theorem Tally.ofSamples_perm {xs ys : List Binary64} (h : xs.Perm ys)
    (layout : Option (ExponentialBuckets Binary64)) :
    ofSamples layout xs = ofSamples layout ys := by
  cases layout with
  | none => simp only [ofSamples, h.length_eq]
  | some l => simp only [ofSamples, h.length_eq, h.countP_eq]

/-- The increments of a counter sum up in any order. -/
theorem counterOf_perm {rs ts : List Recording} (h : rs.Perm ts) (key : Series) :
    counterOf key rs = counterOf key ts := by
  have hperm : (incrementsOf key rs).Perm (incrementsOf key ts) := h.filterMap _
  simp only [counterOf, hperm.isEmpty_eq, (hperm.map (·.toNat)).sum_nat]

/-- The samples of a series are counted in any order of their recordings. -/
theorem tallyOf_perm {rs ts : List Recording} (h : rs.Perm ts) (key : ShownSeries) :
    tallyOf key rs = tallyOf key ts := by
  have hperm : (observationsOf key rs).Perm (observationsOf key ts) := h.filterMap _
  simp only [tallyOf, hperm.isEmpty_eq, Tally.ofSamples_perm hperm.flatten]

/-- What a value of a metric adds: its count to a counter, or samples to a histogram with the layout
of the metric, or nothing. -/
theorem valueRecording_cases (operation : Labels) (m : KnownMetric) (v : MetricValue) :
    (∃ labels, valueRecording operation m v =
      some (.count ⟨safeName m.name, labels⟩ (increment v.int64))) ∨
    (∃ labels l samples, m.layout? = some l ∧
      valueRecording operation m v = some (.observe ⟨safeName m.name, labels⟩ (some l) samples)) ∨
    valueRecording operation m v = none := by
  rw [valueRecording]
  cases m.layout? with
  | none => exact .inl ⟨_, rfl⟩
  | some l =>
    simp only
    split
    · exact .inr (.inl ⟨_, l, _, rfl, rfl⟩)
    · exact .inr (.inr rfl)

/-- Recordings come with the layouts of their names. -/
theorem isLaidOut_of_valueRecording {operation : Labels} {m : KnownMetric} {v : MetricValue}
    {r : Recording} (h : valueRecording operation m v = some r) : r.IsLaidOut := by
  rcases valueRecording_cases operation m v with
    ⟨labels, hv⟩ | ⟨labels, l, samples, hlayout, hv⟩ | hv
  · obtain rfl := Option.some.inj (hv.symm.trans h)
    trivial
  · obtain rfl := Option.some.inj (hv.symm.trans h)
    exact (layoutOf_safeName hlayout).symm
  · cases hv.symm.trans h

theorem isLaidOut_of_logRecordings {e : LogEntry} {r : Recording} (h : r ∈ logRecordings e) :
    r.IsLaidOut := by
  rw [logRecordings] at h
  split at h
  · cases h
  · obtain ⟨⟨field, name⟩, hfield, hvalue⟩ := List.mem_filterMap.mp h
    obtain ⟨x, -, rfl⟩ := Option.map_eq_some_iff.mp hvalue
    exact (layoutOf_summary hfield).symm

/-- All that a report adds comes with the layouts of its names. -/
theorem isLaidOut_of_recordings {report : ReportRequest} {r : Recording}
    (h : r ∈ recordings report) : r.IsLaidOut := by
  obtain ⟨o, -, h⟩ := List.mem_flatMap.mp h
  rcases List.mem_append.mp h with h | h
  · obtain ⟨set, -, h⟩ := List.mem_flatMap.mp h
    rw [metricRecordings] at h
    split at h
    · obtain ⟨v, -, hv⟩ := List.mem_filterMap.mp h
      exact isLaidOut_of_valueRecording hv
    · cases h
  · obtain ⟨e, -, h⟩ := List.mem_flatMap.mp h
    exact isLaidOut_of_logRecordings h

/-- The series to whose counter a value of a metric is mapped. -/
def counterSeries? (operation : Labels) (metric : String) (v : MetricValue) : Option Series :=
  match (KnownMetric.ofName? metric).bind fun m => valueRecording operation m v with
  | some (.count s _) => some s
  | _ => none

/-- The values of a report that are mapped to the counter of a series. -/
def countedValues (key : Series) (report : ReportRequest) : List MetricValue :=
  report.operations.flatMap fun o => o.metrics.flatMap fun set =>
    set.values.filter fun v =>
      counterSeries? (o.resourceLabels report.service) set.name v = some key

/-- A value raises the counter that it is mapped to by its count. -/
theorem increment?_valueRecording (key : Series) (operation : Labels) {metric : String}
    {m : KnownMetric} (hm : KnownMetric.ofName? metric = some m) (v : MetricValue) :
    (valueRecording operation m v).bind (Recording.increment? key) =
      if counterSeries? operation metric v = some key then some (increment v.int64) else none := by
  rw [counterSeries?, hm, Option.bind_some]
  rcases valueRecording_cases operation m v with ⟨labels, hv⟩ | ⟨labels, l, samples, -, hv⟩ | hv
  · simp [hv, Recording.increment?]
  · simp [hv, Recording.increment?]
  · simp [hv]

/-- The values of a metric raise counters by their counts. -/
theorem incrementsOf_metricRecordings (key : Series) (operation : Labels) (set : MetricValueSet) :
    incrementsOf key (metricRecordings operation set) =
      (set.values.filter fun v => counterSeries? operation set.name v = some key).map
        fun v => increment v.int64 := by
  rw [metricRecordings]
  cases hm : KnownMetric.ofName? set.name with
  | none => simp [incrementsOf, counterSeries?, hm]
  | some m =>
    simp only [incrementsOf, List.filterMap_filterMap, increment?_valueRecording key operation hm]
    rw [← List.filterMap_eq_map, List.filterMap_filter]
    simp only [Function.comp_apply, decide_eq_true_eq]

/-- Log entries raise no counter. -/
theorem incrementsOf_logRecordings (key : Series) (e : LogEntry) :
    incrementsOf key (logRecordings e) = [] := by
  refine List.filterMap_eq_nil_iff.mpr fun r hr => ?_
  rw [logRecordings] at hr
  split at hr
  · cases hr
  · obtain ⟨x, -, hx⟩ := List.mem_filterMap.mp hr
    obtain ⟨y, -, rfl⟩ := Option.map_eq_some_iff.mp hx
    rfl

theorem incrementsOf_flatMap {α : Type} (key : Series) (l : List α) (f : α → List Recording) :
    incrementsOf key (l.flatMap f) = l.flatMap fun x => incrementsOf key (f x) :=
  List.filterMap_flatMap

/-- The increments of a counter are the counts of the values that are mapped to it. -/
theorem incrementsOf_recordings (key : Series) (reports : List ReportRequest) :
    incrementsOf key (reports.flatMap recordings) =
      (reports.flatMap (countedValues key)).map fun v => increment v.int64 := by
  have hoperation : ∀ (service : String) (o : Operation),
      incrementsOf key (operationRecordings service o) = (o.metrics.flatMap fun set =>
        set.values.filter fun v =>
          counterSeries? (o.resourceLabels service) set.name v = some key).map
        fun v => increment v.int64 := by
    intro service o
    have hlogs : incrementsOf key (o.logs.flatMap logRecordings) = [] := by
      rw [incrementsOf_flatMap]
      exact List.flatMap_eq_nil_iff.mpr fun e _ => incrementsOf_logRecordings key e
    rw [operationRecordings, incrementsOf, List.filterMap_append, ← incrementsOf, ← incrementsOf,
      hlogs, List.append_nil, incrementsOf_flatMap, List.map_flatMap]
    simp only [incrementsOf_metricRecordings]
  simp only [incrementsOf_flatMap, recordings, hoperation, countedValues, List.map_flatMap]

/-- A count raises a counter by itself, and by nothing if it is negative or missing. -/
theorem toNat_increment (count : Option Int64) :
    (increment count).toNat = (count.getD 0).toNatClampNeg := by
  have hlt : (count.getD 0).toNatClampNeg < 2 ^ 64 :=
    Nat.lt_trans (Int64.toNatClampNeg_lt _) (by decide)
  rw [increment, UInt64.toNat_ofNat', Nat.mod_eq_of_lt hlt]

/-- A counter shows the sum of the counts of the values that are mapped to it, modulo the size of a
word. Negative counts and missing ones count for nothing. -/
theorem counterOf_recordings (key : Series) (reports : List ReportRequest) :
    let values := reports.flatMap (countedValues key)
    counterOf key (reports.flatMap recordings) =
      if values.isEmpty then none
      else some (UInt64.ofNat (values.map fun v => (v.int64.getD 0).toNatClampNeg).sum) := by
  intro values
  simp only [counterOf, incrementsOf_recordings, List.isEmpty_map, List.map_map, Function.comp_def,
    toNat_increment, values]

end ServiceControl.Prometheus
