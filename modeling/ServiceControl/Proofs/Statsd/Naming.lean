import ServiceControl.Proofs.Statsd.Lines
import ServiceControl.Proofs.Statsd.Points

/-!
# Empty pieces of names

A name is joined in three steps, and each drops only the empty pieces at the two ends of its own
join. If all pieces are tidy, the name that is sent is the join of the pieces that are not empty
just where no empty piece has others on both sides within its step.
-/

namespace ServiceControl.Statsd

/-- What is sent for a reading: its name comes behind the configured beginning. -/
def Reading.sent (beginning : String) (x : Reading) : Measurement :=
  ⟨withBeginning beginning x.pieces.name, x.value, x.sort⟩

@[simp] theorem Reading.name_sent (beginning : String) (x : Reading) :
    (x.sent beginning).name = withBeginning beginning x.pieces.name := by
  rw [Reading.sent]

namespace NamePieces

/-- The pieces of a name in their order, the configured beginning first. -/
def inOrder (beginning : String) (p : NamePieces) : List String :=
  beginning :: (p.resource ++ shortName p.metric :: p.labels)

/-- No empty piece stands where it is not dropped: with others before and behind it among the labels
of the resource or among those of the metric, as the metric's name between labels of both sorts, or
with nothing but empty ones behind the beginning. -/
structure Gapless (beginning : String) (p : NamePieces) : Prop where
  resource : ∀ s ∈ withoutEmptyEnds p.resource, s ≠ ""
  labels : ∀ s ∈ withoutEmptyEnds p.labels, s ≠ ""
  metric : p.metric = "" → (∀ s ∈ p.resource, s = "") ∨ ∀ s ∈ p.labels, s = ""
  notAlone : beginning ≠ "" → ∃ s ∈ p.all, s ≠ ""

/-- The pieces that the joins of both sorts of labels leave, with the metric's name between them. -/
def merged (p : NamePieces) : List String :=
  withoutEmptyEnds p.resource ++ shortName p.metric :: withoutEmptyEnds p.labels

/-- The pieces of the name in a line. -/
def kept (p : NamePieces) : List String := withoutEmptyEnds p.merged

/-- The pieces of the name that is sent; there is a point behind the beginning in any case. -/
def keptBehind (beginning : String) (p : NamePieces) : List String :=
  if beginning = "" then p.kept
  else beginning :: if p.kept = [] then [""] else p.kept

variable {beginning : String} {p : NamePieces}

theorem metric_mem_all (p : NamePieces) : p.metric ∈ p.all :=
  List.mem_append_right _ List.mem_cons_self

theorem isTidy_of_mem_merged (h : ∀ s ∈ p.all, IsTidy s) : ∀ s ∈ p.merged, IsTidy s := by
  intro s hs
  rw [merged, List.mem_append, List.mem_cons] at hs
  rcases hs with hs | rfl | hs
  · exact h s (List.mem_append_left _ (withoutEmptyEnds_subset _ hs))
  · exact isTidy_shortName (h _ p.metric_mem_all)
  · exact h s (List.mem_append_right _ (List.mem_cons_of_mem _ (withoutEmptyEnds_subset _ hs)))

/-- The three steps make one join. -/
theorem name_eq (h : ∀ s ∈ p.all, IsTidy s) : p.name = ".".intercalate p.kept := by
  have hresource := joinPieces_eq fun s hs => h s (List.mem_append_left _ hs)
  have hlabels := joinPieces_eq fun s hs =>
    h s (List.mem_append_right _ (List.mem_cons_of_mem _ hs))
  calc p.name
    _ = joinPieces (".".intercalate (withoutEmptyEnds p.resource) ::
          [shortName p.metric, ".".intercalate (withoutEmptyEnds p.labels)]) := by
      rw [name, lineName, hresource, hlabels]
    _ = joinPieces ((withoutEmptyEnds p.resource ++ [shortName p.metric]) ++
          [".".intercalate (withoutEmptyEnds p.labels)]) := by
      rw [joinPieces_join_cons _ (List.cons_ne_nil _ _), List.append_cons]
    _ = joinPieces p.merged := by
      rw [joinPieces_concat_join _ (List.concat_ne_nil _ _), ← List.append_cons, merged]
    _ = ".".intercalate p.kept := joinPieces_eq (isTidy_of_mem_merged h)

/-- The name that is sent is one join, too. -/
theorem withBeginning_name (hb : IsTidy beginning) (h : ∀ s ∈ p.all, IsTidy s) :
    withBeginning beginning p.name = ".".intercalate (p.keptBehind beginning) := by
  have hpoint : ∀ t : String, withBeginning beginning t =
      if beginning = "" then t else beginning ++ "." ++ t := by
    intro t
    simp only [withBeginning, trimPoints_eq_self hb.head hb.last, String.isEmpty_iff]
    rfl
  rw [hpoint, keptBehind, name_eq h]
  split
  · rfl
  · split
    · next hnil => rw [hnil]; rfl
    · next hne => rw [String.intercalate_cons_of_ne_nil hne]

theorem isTidy_of_mem_keptBehind (hb : IsTidy beginning) (h : ∀ s ∈ p.all, IsTidy s) :
    ∀ s ∈ p.keptBehind beginning, IsTidy s := by
  have hkept : ∀ s ∈ p.kept, IsTidy s := fun s hs =>
    isTidy_of_mem_merged h s (withoutEmptyEnds_subset _ hs)
  rw [keptBehind]
  split
  · exact hkept
  · rw [List.forall_mem_cons]
    refine ⟨hb, ?_⟩
    split
    · exact List.forall_mem_singleton.mpr (isTidy_iff.mpr (.inl rfl))
    · exact hkept

theorem keptBehind_ne_singleton (beginning : String) (p : NamePieces) :
    p.keptBehind beginning ≠ [""] := by
  rw [keptBehind]
  split
  · intro h
    exact head?_withoutEmptyEnds p.merged "" (by rw [← kept, h]; rfl) rfl
  · split
    · exact fun h => absurd (List.cons.inj h).2 (List.cons_ne_nil _ _)
    · next hne => exact fun h => hne (List.cons.inj h).2

/-- No piece is lost but empty ones. -/
theorem nonEmpty_keptBehind (beginning : String) (p : NamePieces) :
    nonEmpty (p.keptBehind beginning) = nonEmpty (p.inOrder beginning) := by
  have hkept : nonEmpty p.kept = nonEmpty (p.resource ++ shortName p.metric :: p.labels) := by
    rw [kept, merged, nonEmpty_withoutEmptyEnds, nonEmpty_append, nonEmpty_append, nonEmpty_cons,
      nonEmpty_cons _ p.labels, nonEmpty_withoutEmptyEnds, nonEmpty_withoutEmptyEnds]
  rw [keptBehind, inOrder, nonEmpty_cons, ← hkept]
  split
  · next hempty =>
    rw [hempty]
    rfl
  · rw [nonEmpty_cons]
    split
    · next hnil =>
      rw [hnil]
      rfl
    · rfl

theorem kept_eq_nil_iff (h : IsTidy p.metric) : p.kept = [] ↔ ∀ s ∈ p.all, s = "" := by
  have htrimmed : ∀ pieces : List String,
      (∀ s ∈ withoutEmptyEnds pieces, s = "") ↔ ∀ s ∈ pieces, s = "" := by
    intro pieces
    rw [← withoutEmptyEnds_eq_nil_iff, withoutEmptyEnds_withoutEmptyEnds,
      withoutEmptyEnds_eq_nil_iff]
  rw [kept, withoutEmptyEnds_eq_nil_iff, merged, all, List.forall_mem_append,
    List.forall_mem_append, List.forall_mem_cons, List.forall_mem_cons, htrimmed, htrimmed,
    shortName_eq_empty_iff h]

/-- The pieces that are left are not empty just if there are no gaps. -/
theorem forall_keptBehind_iff (h : IsTidy p.metric) :
    (∀ s ∈ p.keptBehind beginning, s ≠ "") ↔ p.Gapless beginning := by
  have hkept : (∀ s ∈ p.kept, s ≠ "") ↔ (∀ s ∈ withoutEmptyEnds p.resource, s ≠ "") ∧
      (∀ s ∈ withoutEmptyEnds p.labels, s ≠ "") ∧
      (p.metric = "" → (∀ s ∈ p.resource, s = "") ∨ ∀ s ∈ p.labels, s = "") := by
    rw [kept, merged, forall_withoutEmptyEnds_append_cons, shortName_eq_empty_iff h,
      withoutEmptyEnds_eq_nil_iff, withoutEmptyEnds_eq_nil_iff]
  have hany : p.kept ≠ [] ↔ ∃ s ∈ p.all, s ≠ "" := by
    rw [ne_eq, kept_eq_nil_iff h]
    simp only [not_forall, exists_prop, ne_eq]
  have hgapless : p.Gapless beginning ↔
      (∀ s ∈ p.kept, s ≠ "") ∧ (beginning ≠ "" → p.kept ≠ []) := by
    rw [hkept, hany]
    exact ⟨fun g => ⟨⟨g.resource, g.labels, g.metric⟩, g.notAlone⟩,
      fun g => ⟨g.1.1, g.1.2.1, g.1.2.2, g.2⟩⟩
  rw [hgapless, keptBehind]
  by_cases hempty : beginning = ""
  · rw [if_pos hempty]
    exact (and_iff_left fun hne => absurd hempty hne).symm
  · rw [if_neg hempty, List.forall_mem_cons]
    by_cases hnil : p.kept = []
    · rw [if_pos hnil]
      exact iff_of_false (fun hall => hall.2 "" (List.mem_singleton_self _) rfl)
        fun g => g.2 hempty hnil
    · rw [if_neg hnil]
      exact ⟨fun hall => ⟨hall.2, fun _ => hnil⟩, fun g => ⟨hempty, g.1⟩⟩

end NamePieces

/-- A report whose label values and metric names are tidy. -/
structure IsTidyReport (r : ReportRequest) : Prop where
  labels : ∀ o ∈ r.operations, ∀ e ∈ o.labels.entries, IsTidy e.2
  names : ∀ o ∈ r.operations, ∀ m ∈ o.metrics, IsTidy m.name
  valueLabels : ∀ o ∈ r.operations, ∀ m ∈ o.metrics, ∀ v ∈ m.values, ∀ e ∈ v.labels.entries,
    IsTidy e.2

theorem isTidy_of_mem_labelsUnder {keys : List String} {l : Labels}
    (h : ∀ e ∈ l.entries, IsTidy e.2) : ∀ s ∈ labelsUnder keys l, IsTidy s := by
  intro s hs
  obtain ⟨k, -, hk⟩ := List.mem_filterMap.mp hs
  exact h _ (SortedMap.mem_entries_of_find? hk)

/-- The services that are put over an operation's labels do not come into names. -/
theorem resourcePieces_eq (service : String) (o : Operation) :
    resourcePieces service o =
      labelsUnder [LabelKey.apiVersion, LabelKey.location, LabelKey.apiMethod] o.labels := by
  have hfind : ∀ k ∈ [LabelKey.apiVersion, LabelKey.location, LabelKey.apiMethod],
      (o.resourceLabels service).find? k = o.labels.find? k := by
    intro k hk
    have hother : LabelKey.consumer ≠ k ∧ LabelKey.service ≠ k := by
      revert k
      decide
    rw [Operation.resourceLabels, SortedMap.find?_insert, if_neg hother.1, SortedMap.find?_insert,
      if_neg hother.2]
  exact List.filterMap_congr hfind

/-- All readings of a value have the same resource and metric; labels come from the value. -/
theorem pieces_of_mem_valueReadings {resource : List String} {metric : String} {v : MetricValue}
    {x : Reading} (h : x ∈ valueReadings resource metric v) :
    x.pieces.resource = resource ∧ x.pieces.metric = metric ∧
      x.pieces.labels ⊆ labelsUnder (labelKeysOf metric) v.labels := by
  rw [valueReadings] at h
  split at h
  · rw [List.mem_singleton.mp h]
    exact ⟨rfl, rfl, List.Subset.refl _⟩
  · obtain ⟨seconds, -, rfl⟩ := List.mem_map.mp h
    exact ⟨rfl, rfl, List.nil_subset _⟩
  · cases h

/-- What comes from a tidy report into a name is tidy. -/
theorem isTidy_of_mem_readings {r : ReportRequest} (h : IsTidyReport r) :
    ∀ x ∈ readings r, ∀ s ∈ x.pieces.all, IsTidy s := by
  intro x hx s hs
  simp only [readings, List.mem_flatMap] at hx
  obtain ⟨o, ho, m, hm, v, hv, hx⟩ := hx
  obtain ⟨hresource, hmetric, hlabels⟩ := pieces_of_mem_valueReadings hx
  rw [NamePieces.all, hresource, hmetric, List.mem_append, List.mem_cons, resourcePieces_eq] at hs
  rcases hs with hs | rfl | hs
  · exact isTidy_of_mem_labelsUnder (h.labels o ho) s hs
  · exact h.names o ho m hm
  · exact isTidy_of_mem_labelsUnder (h.valueLabels o ho m hm v hv) s (hlabels hs)

/-- The beginning comes before the name in a line. -/
theorem withBeginning_line (beginning : String) (x : Reading) :
    withBeginning beginning x.measurement.line = (x.sent beginning).line := by
  have hbefore : ∀ s t : String,
      withBeginning beginning (s ++ t) = withBeginning beginning s ++ t := by
    intro s t
    simp only [withBeginning]
    split
    · rfl
    · exact String.append_assoc.symm
  rw [Measurement.line, hbefore, hbefore, Measurement.line, Reading.sent, Reading.measurement]

/-- Every line that is sent for a report is the line of a reading, in order. For every report and
beginning that are tidy, the name in it is the join of just the pieces that are not empty if and
only if there are no gaps among the pieces. If and only if there are none, the name is tidy itself:
no point stands at its ends, and no two stand side by side. -/
theorem sent_name_eq_iff {r : ReportRequest} {beginning : String} (hr : IsTidyReport r)
    (hb : IsTidy beginning) :
    (lines r).map (withBeginning beginning) =
        (readings r).map (fun x => (x.sent beginning).line) ∧
      ∀ x ∈ readings r,
        ((x.sent beginning).name = ".".intercalate (nonEmpty (x.pieces.inOrder beginning)) ↔
          x.pieces.Gapless beginning) ∧
        (IsTidy (x.sent beginning).name ↔ x.pieces.Gapless beginning) := by
  refine ⟨?_, fun x hx => ?_⟩
  · simp only [lines_eq, List.map_map, Function.comp_def, withBeginning_line]
  · have hpieces := isTidy_of_mem_readings hr x hx
    have hkept := NamePieces.isTidy_of_mem_keptBehind hb hpieces
    have hone := NamePieces.keptBehind_ne_singleton beginning x.pieces
    have hgapless : (∀ s ∈ x.pieces.keptBehind beginning, s ≠ "") ↔ x.pieces.Gapless beginning :=
      NamePieces.forall_keptBehind_iff (hpieces _ x.pieces.metric_mem_all)
    rw [Reading.name_sent, NamePieces.withBeginning_name hb hpieces,
      ← NamePieces.nonEmpty_keptBehind, intercalate_eq_nonEmpty_iff hkept hone,
      isTidy_intercalate_iff hkept hone]
    exact ⟨hgapless, hgapless⟩

/-- A report of one call, with the location that a frontend gave. -/
def locatedReport (location : String) : ReportRequest :=
  { service := "books"
    operations := [
      { labels := .ofList [(LabelKey.apiVersion, "v1"), (LabelKey.location, location),
          (LabelKey.apiMethod, "List")]
        metrics := [⟨"calls", [{ int64 := some 5 }]⟩] }] }

theorem readings_locatedReport (location : String) : readings (locatedReport location) =
    [⟨⟨["v1", location, "List"], "calls", []⟩, 5, .counter⟩] := by
  rfl

/-- Where a location is given, all pieces are in the name. -/
theorem sent_name_located : IsTidyReport (locatedReport "eu") ∧ IsTidy "mixgate" ∧
    ∀ x ∈ readings (locatedReport "eu"), IsTidy (x.sent "mixgate").name := by
  have hreport : IsTidyReport (locatedReport "eu") :=
    ⟨by decide +kernel, by decide +kernel, by decide +kernel⟩
  have hbeginning : IsTidy "mixgate" := by decide
  refine ⟨hreport, hbeginning, fun x hx => ?_⟩
  rw [((sent_name_eq_iff hreport hbeginning).2 x hx).2]
  rw [readings_locatedReport, List.mem_singleton] at hx
  rw [hx]
  exact ⟨by decide, by decide, nofun, fun _ => ⟨"v1", by decide, by decide⟩⟩

/-- An empty location leaves two points side by side. -/
theorem not_forall_sent_name_eq :
    (¬ ∀ (r : ReportRequest) (beginning : String), IsTidyReport r → IsTidy beginning →
      ∀ x ∈ readings r,
        (x.sent beginning).name = ".".intercalate (nonEmpty (x.pieces.inOrder beginning))) ∧
      lines (locatedReport "") = ["v1..List.calls:5|c"] := by
  refine ⟨fun hall => ?_, by decide +kernel⟩
  have hreport : IsTidyReport (locatedReport "") :=
    ⟨by decide +kernel, by decide +kernel, by decide +kernel⟩
  have hname := hall _ "" hreport (by decide) _
    (readings_locatedReport "" ▸ List.mem_singleton_self _)
  exact absurd hname (by decide +kernel)

end ServiceControl.Statsd
