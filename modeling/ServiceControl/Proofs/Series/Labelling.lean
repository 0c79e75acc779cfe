import ServiceControl.Proofs.Series.Recording

/-!
# Whose series a recording goes to

Series show the service of a report under one name, which more than one key of a label turns
into. The service is put over the operation's label of its own key. A label of another such key
is put over the service if its key comes behind, and is lost if its key comes before. So the
series of a report show its service exactly if the last label behind the service's own key,
should there be one, says the same.
-/

namespace ServiceControl.Prometheus

/-- The name under which series show the service of a report. -/
def serviceLabel : String := safeName LabelKey.service

/-- The series that gets a recording. -/
def Recording.series : Recording → Series
  | count s _ => s
  | observe s _ _ => s

/-- Whether a label of a key is shown in the place of the service. -/
def spellsService (key : String) : Bool := decide (safeName key = serviceLabel)

/-- The labels of an operation that are put over the service of its report. -/
def laterSpellings (labels : Labels) : List (String × String) :=
  labels.entries.filter fun e => spellsService e.1 && decide (LabelKey.service < e.1)

/-- The service that series show, if the labels of the value have none. -/
def shownService (service : String) (labels : Labels) : String :=
  ((laterSpellings labels).getLast?.map Prod.snd).getD service

/-- A series shows each of its names with one value, which the merged labels tell. -/
theorem mem_shownLabels_iff {keys : List String} {key : String} (hkey : key ∈ keys) (l : Labels)
    (x : String) :
    (safeName key, x) ∈ shownLabels keys l ↔ x = (l.find? (safeName key)).getD unknown := by
  rw [shownLabels, List.mem_map]
  constructor
  · rintro ⟨k, -, hk⟩
    obtain ⟨hname, hvalue⟩ := Prod.mk.inj hk
    rw [← hvalue, hname]
  · rintro rfl
    exact ⟨key, hkey, rfl⟩

/-- What is recorded for a resource before its labels are looked at. -/
def unknowns : Labels := .ofList (LabelKey.ofResource.map fun k => (safeName k, unknown))

/-- Of the labels that are shown under a name the last one is taken; those of the value come behind
those of the operation. -/
theorem find?_mergedLabels (operation value : Labels) (name : String) :
    (mergedLabels operation value).find? name =
      (((operation.entries ++ value.entries).filter fun e => safeName e.1 = name).getLast?.map
        Prod.snd).or (unknowns.find? name) := by
  rw [mergedLabels, SortedMap.find?_insertAll, List.filter_map, List.getLast?_map, Option.map_map]
  rfl

/-- Behind the service of the report stand the labels that are put over it. -/
theorem filter_resourceLabels (o : Operation) (service : String) :
    (o.resourceLabels service).entries.filter (fun e => spellsService e.1) =
      (o.labels.entries.filter fun e => decide (e.1 < LabelKey.service) && spellsService e.1) ++
        (LabelKey.service, service) :: laterSpellings o.labels := by
  have hconsumer : spellsService LabelKey.consumer = false := by decide +kernel
  have hservice : spellsService LabelKey.service = true := decide_eq_true rfl
  rw [Operation.resourceLabels, SortedMap.filter_entries_insert hconsumer, SortedMap.entries_insert,
    List.filter_append, List.filter_cons, if_pos hservice, List.filter_filter, List.filter_filter,
    laterSpellings]
  simp only [Bool.and_comm]

/-- The merged labels of a value that says nothing about the service tell the
service that is shown. -/
theorem find?_mergedLabels_resourceLabels (o : Operation) (service : String) {v : MetricValue}
    (hv : ∀ e ∈ v.labels.entries, spellsService e.1 = false) :
    (mergedLabels (o.resourceLabels service) v.labels).find? serviceLabel =
      some (shownService service o.labels) := by
  have hvalue : v.labels.entries.filter (fun e => spellsService e.1) = [] :=
    List.filter_eq_nil_iff.mpr fun e he => Bool.eq_false_iff.mp (hv e he)
  have hspells : (fun e : String × String => decide (safeName e.1 = serviceLabel)) =
      fun e => spellsService e.1 := rfl
  rw [find?_mergedLabels, hspells, List.filter_append, hvalue, List.append_nil,
    filter_resourceLabels, List.getLast?_append, List.getLast?_cons, shownService]
  cases (laterSpellings o.labels).getLast? <;> rfl

/-- The series of a value are shown with the labels of the resource, which the
merged labels tell. -/
theorem exists_labels_of_valueRecording {operation : Labels} {m : KnownMetric} {v : MetricValue}
    {r : Recording} (h : valueRecording operation m v = some r) :
    ∃ more, r.series.labels =
      shownLabels (LabelKey.ofResource ++ more) (mergedLabels operation v.labels) := by
  simp only [valueRecording] at h
  split at h
  · obtain rfl := Option.some.inj h
    exact ⟨_, rfl⟩
  · split at h
    · obtain rfl := Option.some.inj h
      exact ⟨_, rfl⟩
    · cases h

section

variable {service : String} {o : Operation} {m : KnownMetric} {v : MetricValue} {r : Recording}

/-- A series that gets something from a value without a label for the service shows one service. -/
theorem mem_labels_iff (hv : ∀ e ∈ v.labels.entries, safeName e.1 ≠ serviceLabel)
    (hr : valueRecording (o.resourceLabels service) m v = some r) (x : String) :
    (serviceLabel, x) ∈ r.series.labels ↔ x = shownService service o.labels := by
  have hspells : ∀ e ∈ v.labels.entries, spellsService e.1 = false := fun e he =>
    decide_eq_false (hv e he)
  obtain ⟨more, hlabels⟩ := exists_labels_of_valueRecording hr
  have hkey : LabelKey.service ∈ LabelKey.ofResource ++ more :=
    List.mem_append_left _ (by decide)
  rw [hlabels, serviceLabel, mem_shownLabels_iff hkey, ← serviceLabel,
    find?_mergedLabels_resourceLabels o service hspells, Option.getD_some]

/-- Every series that gets something from a value without a label for the service shows one service:
that of the report, unless the operation has a label whose key is shown in its place and comes
behind the service's own key. Then the last such label is shown, and the series show the service of
the report exactly if that label says the same. -/
theorem shows_service (hv : ∀ e ∈ v.labels.entries, safeName e.1 ≠ serviceLabel)
    (hr : valueRecording (o.resourceLabels service) m v = some r) :
    (∀ x, (serviceLabel, x) ∈ r.series.labels ↔ x = shownService service o.labels) ∧
      ((serviceLabel, service) ∈ r.series.labels ↔
        ∀ e, (laterSpellings o.labels).getLast? = some e → e.2 = service) := by
  refine ⟨mem_labels_iff hv hr, (mem_labels_iff hv hr service).trans ?_⟩
  rw [shownService]
  cases (laterSpellings o.labels).getLast? with
  | none => simp
  | some e => simp [eq_comm]

end

/-- A request that was counted, without labels of its own. -/
def countedOnce : MetricValue := { int64 := some 1 }

theorem safeName_ne_of_mem_countedOnce :
    ∀ e ∈ countedOnce.labels.entries, safeName e.1 ≠ serviceLabel := nofun

/-- Labels whose keys are the service's own one and one that comes before it. -/
def earlySpellings : Labels :=
  .ofList [(LabelKey.service, "forged"), ("/" ++ LabelKey.service, "forged")]

/-- Labels that come before the service make no difference. -/
theorem shows_service_early :
    (∀ e ∈ countedOnce.labels.entries, safeName e.1 ≠ serviceLabel) ∧
    ∃ r, valueRecording (({ labels := earlySpellings } : Operation).resourceLabels "shelves")
        .requestCount countedOnce = some r ∧
      (serviceLabel, "shelves") ∈ r.series.labels := by
  obtain ⟨r, hr⟩ : ∃ r, valueRecording
      (({ labels := earlySpellings } : Operation).resourceLabels "shelves")
        .requestCount countedOnce = some r := ⟨_, rfl⟩
  have hearly : laterSpellings earlySpellings = [] := by decide +kernel
  refine ⟨safeName_ne_of_mem_countedOnce, r, hr,
    (shows_service safeName_ne_of_mem_countedOnce hr).2.mpr fun e he => ?_⟩
  rw [hearly] at he
  cases he

/-- A label whose key is the name under which the service is shown. -/
def forging (other : String) : Labels := .ofList [(serviceLabel, other)]

theorem consumer_lt_service : LabelKey.consumer < LabelKey.service := by decide +kernel

/-- Such a label stands behind the service. -/
theorem entries_forging (service other : String) :
    (({ labels := forging other } : Operation).resourceLabels service).entries =
      [(LabelKey.consumer, ""), (LabelKey.service, service), (serviceLabel, other)] := by
  have hservice : LabelKey.service < serviceLabel := by decide +kernel
  simp only [Operation.resourceLabels, forging, SortedMap.ofList, SortedMap.insertAll,
    SortedMap.empty, SortedMap.insert, SortedMap.insertEntry, List.foldl_cons, List.foldl_nil,
    hservice, consumer_lt_service, if_true]

theorem entries_unlabelled (service : String) :
    (({ labels := .empty } : Operation).resourceLabels service).entries =
      [(LabelKey.consumer, ""), (LabelKey.service, service)] := by
  simp only [Operation.resourceLabels, SortedMap.empty, SortedMap.insert, SortedMap.insertEntry,
    consumer_lt_service, if_true]

/-- The last entry of a name is the same as if the other service had been called. -/
theorem getLast?_filter_forging (service other name : String) :
    (((({ labels := forging other } : Operation).resourceLabels service).entries.filter fun e =>
        safeName e.1 = name).getLast?.map Prod.snd) =
      ((({ labels := .empty } : Operation).resourceLabels other).entries.filter fun e =>
        safeName e.1 = name).getLast?.map Prod.snd := by
  have hname : safeName serviceLabel = serviceLabel := by decide +kernel
  have hservice : safeName LabelKey.service = serviceLabel := rfl
  rw [entries_forging, entries_unlabelled]
  by_cases hkey : serviceLabel = name
  · subst hkey
    simp [List.filter_cons, hname, hservice, apply_ite List.getLast?]
  · simp [List.filter_cons, hname, hservice, hkey]

/-- A report of a request to a service, by an operation with labels. -/
def labelledReport (service : String) (labels : Labels) : ReportRequest where
  service := service
  operations := [{ labels, metrics := [⟨KnownMetric.requestCount.name, [countedOnce]⟩] }]

/-- Such a report raises one counter, which the merged labels tell. -/
theorem recordings_labelledReport (service : String) (labels : Labels) :
    recordings (labelledReport service labels) =
      [.count ⟨safeName KnownMetric.requestCount.name,
        shownLabels (LabelKey.ofResource ++ KnownMetric.requestCount.labelKeys)
          (mergedLabels (({ labels } : Operation).resourceLabels service) .empty)⟩
        (increment (some 1))] := by
  simp only [recordings, labelledReport, operationRecordings, metricRecordings,
    KnownMetric.ofName?_name, List.flatMap_cons, List.flatMap_nil, List.append_nil]
  rfl

/-- What is reported for one service with such a label is recorded as for the other service. -/
theorem recordings_forging (service other : String) :
    recordings (labelledReport service (forging other)) =
      recordings (labelledReport other .empty) := by
  have hvalue : (SortedMap.empty : Labels).entries = [] := rfl
  have hlabels : ∀ keys,
      shownLabels keys (mergedLabels
        (({ labels := forging other } : Operation).resourceLabels service) .empty) =
      shownLabels keys (mergedLabels (({ labels := .empty } : Operation).resourceLabels other)
        .empty) := by
    intro keys
    refine List.map_congr_left fun key _ => ?_
    rw [find?_mergedLabels, find?_mergedLabels, hvalue, List.append_nil, List.append_nil,
      getLast?_filter_forging]
  rw [recordings_labelledReport, recordings_labelledReport, hlabels]

/-- A label that comes behind the service moves what is reported for one service into the series of
any other. -/
theorem not_forall_shows_service :
    (¬ ∀ (service : String) (o : Operation) (m : KnownMetric) (v : MetricValue) (r : Recording),
      (∀ e ∈ v.labels.entries, safeName e.1 ≠ serviceLabel) →
      valueRecording (o.resourceLabels service) m v = some r →
      (serviceLabel, service) ∈ r.series.labels) ∧
    ∀ service other, recordings (labelledReport service (forging other)) =
      recordings (labelledReport other .empty) := by
  refine ⟨fun hall => ?_, recordings_forging⟩
  obtain ⟨r, hr⟩ : ∃ r, valueRecording
      (({ labels := forging "b" } : Operation).resourceLabels "a")
        .requestCount countedOnce = some r := ⟨_, rfl⟩
  have hshown := hall "a" _ _ _ r safeName_ne_of_mem_countedOnce hr
  have hforged : "a" = shownService "a" (forging "b") :=
    (mem_labels_iff safeName_ne_of_mem_countedOnce hr "a").mp hshown
  exact absurd hforged (by decide +kernel)

end ServiceControl.Prometheus
