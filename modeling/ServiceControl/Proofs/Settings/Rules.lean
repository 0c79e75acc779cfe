import Mathlib.Data.List.Count
import Mathlib.Data.List.Nodup
import ServiceControl.Settings.Text

/-!
# The rules of settings

Settings are accepted exactly if they keep all rules. Each rule that they do not keep is told, once
and by itself, in the order of the settings, and those of batches in the order of the consumers'
names. What a rule says depends on the settings that it is about and on nothing else; two rules are
about two settings each.
-/

namespace ServiceControl.Settings

/-- A rule of settings. Three of them come with each consumer whose reports are batched. -/
inductive Rule where
  | bindAddress
  | requestTimeout
  | workers
  | queueCapacity
  /-- The consumer is enabled. -/
  | enabled (name : String)
  | maxCount (name : String)
  | batchTimeout (name : String)
  | source
  | pollInterval
  | fetchTimeout
  | metricsAddress
  deriving DecidableEq, Repr

/-- What a rule asks of settings. The rules of batches ask nothing of a consumer without any. -/
def Keeps (s : Settings) : Rule → Prop
  | .bindAddress => (Net.Endpoint.parse? s.listener.bindAddress).isSome = true
  | .requestTimeout => 1 ≤ s.listener.requestTimeout
  | .workers => 1 ≤ s.reports.workers
  | .queueCapacity => 1 ≤ s.reports.queueCapacity
  | .enabled name => s.reports.batching.contains name = true → name ∈ s.reports.consumers
  | .maxCount name => ∀ b, s.reports.batching.find? name = some b → 1 ≤ b.maxCount
  | .batchTimeout name => ∀ b, s.reports.batching.find? name = some b → 1 ≤ b.timeout
  | .source => ¬ Text.Blank s.services.source
  | .pollInterval => 1 ≤ s.services.pollInterval
  | .fetchTimeout => 1 ≤ s.services.fetchTimeout
  | .metricsAddress => s.observability.metricsEnabled = true →
      (Net.Endpoint.parse? s.observability.metricsAddress).isSome = true

/-- What is found under a key, or nothing, is looked at. -/
instance {p : BatchSettings → Prop} [DecidablePred p] (o : Option BatchSettings) :
    Decidable (∀ b, o = some b → p b) :=
  match o with
  | none => .isTrue (by simp)
  | some b => decidable_of_iff (p b) (by simp)

instance (s : Settings) : DecidablePred s.Keeps
  | .bindAddress => inferInstanceAs (Decidable (_ = true))
  | .requestTimeout | .workers | .queueCapacity | .pollInterval | .fetchTimeout =>
    inferInstanceAs (Decidable (1 ≤ _))
  | .enabled _ => inferInstanceAs (Decidable (_ = true → _ ∈ _))
  | .maxCount _ => inferInstanceAs (Decidable (∀ b : BatchSettings, _ = some b → 1 ≤ b.maxCount))
  | .batchTimeout _ => inferInstanceAs (Decidable (∀ b : BatchSettings, _ = some b → 1 ≤ b.timeout))
  | .source => inferInstanceAs (Decidable (¬ Text.Blank _))
  | .metricsAddress => inferInstanceAs (Decidable (_ = true → _ = true))

/-- The setting that is told when a rule is violated. -/
def Rule.field : Rule → String
  | .bindAddress => "listener.bind_address"
  | .requestTimeout => "listener.request_timeout_secs"
  | .workers => "reports.workers"
  | .queueCapacity => "reports.queue_capacity"
  | .enabled name => s!"reports.batching.{name}"
  | .maxCount name => s!"reports.batching.{name}.max_batch_count"
  | .batchTimeout name => s!"reports.batching.{name}.batch_timeout_ms"
  | .source => "services.source"
  | .pollInterval => "services.poll_interval_secs"
  | .fetchTimeout => "services.fetch_timeout_secs"
  | .metricsAddress => "observability.metrics_address"

/-- The wording that is told with it; that for an address shows the address. -/
def Rule.message (s : Settings) : Rule → String
  | .bindAddress => s!"'{s.listener.bindAddress}' is not a socket address"
  | .metricsAddress => s!"'{s.observability.metricsAddress}' is not a socket address"
  | .enabled _ => "names a consumer that is not enabled"
  | .source => "must not be empty"
  | _ => "must be at least 1"

/-- What is told when a rule is violated. -/
def Rule.violation (s : Settings) (r : Rule) : Violation := ⟨r.field, r.message s⟩

/-- The rules of a batch. -/
def batchRules (name : String) : List Rule := [.enabled name, .maxCount name, .batchTimeout name]

/-- The rules that are told before those of batches. -/
def Rule.first : List Rule := [.bindAddress, .requestTimeout, .workers, .queueCapacity]

/-- The rules that are told behind those of batches. -/
def Rule.last : List Rule := [.source, .pollInterval, .fetchTimeout, .metricsAddress]

/-- The rules that ask something of settings, in the order in which they are told. -/
def rules (s : Settings) : List Rule :=
  Rule.first ++ s.reports.batching.keys.flatMap batchRules ++ Rule.last

/-! ## What is told -/

/-- What is told of a rule. -/
def told (s : Settings) (r : Rule) : List Violation := if s.Keeps r then [] else [r.violation s]

/-- What is required by a rule is told if the rule is violated. -/
theorem require_eq_told {s : Settings} {r : Rule} {holds : Bool} (h : holds = true ↔ s.Keeps r) :
    require holds (r.violation s).field (r.violation s).message = s.told r := by
  unfold require told
  simp only [h]

theorem batchViolations_eq (s : Settings) {e : String × BatchSettings}
    (he : e ∈ s.reports.batching.entries) :
    batchViolations s.reports.consumers e.1 e.2 = (batchRules e.1).flatMap s.told := by
  have hfind : s.reports.batching.find? e.1 = some e.2 := SortedMap.find?_of_mem he
  have henabled : s.reports.consumers.contains e.1 = true ↔ s.Keeps (.enabled e.1) := by
    simp [Keeps, SortedMap.contains, hfind]
  have hcount : decide (0 < e.2.maxCount) = true ↔ s.Keeps (.maxCount e.1) := by
    simp [Keeps, hfind, Nat.one_le_iff_ne_zero, Nat.pos_iff_ne_zero]
  have htimeout : decide (0 < e.2.timeout) = true ↔ s.Keeps (.batchTimeout e.1) := by
    simp [Keeps, hfind, Nat.one_le_iff_ne_zero, Nat.pos_iff_ne_zero]
  rw [batchRules, List.flatMap_cons, List.flatMap_cons, List.flatMap_cons, List.flatMap_nil,
    List.append_nil, ← require_eq_told henabled, ← require_eq_told hcount,
    ← require_eq_told htimeout, ← List.append_assoc]
  rfl

/-- The rules are gone through one by one. -/
theorem violations_eq_flatMap (s : Settings) : s.violations = s.rules.flatMap s.told := by
  have hbatches : (s.reports.batching.entries.flatMap fun e =>
      batchViolations s.reports.consumers e.1 e.2) =
        (s.reports.batching.keys.flatMap batchRules).flatMap s.told := by
    rw [SortedMap.keys, List.flatMap_map, List.flatMap_assoc]
    exact List.flatMap_congr fun e he => s.batchViolations_eq he
  have hmetrics : (if s.observability.metricsEnabled then
      requireEndpoint "observability.metrics_address" s.observability.metricsAddress else []) =
        s.told .metricsAddress := by
    cases henabled : s.observability.metricsEnabled with
    | false => simp [told, Keeps, henabled]
    | true =>
      refine require_eq_told (r := .metricsAddress) ?_
      simp only [Keeps, henabled, forall_const]
  have hlistener : requireEndpoint "listener.bind_address" s.listener.bindAddress =
      s.told .bindAddress := require_eq_told (r := .bindAddress) Iff.rfl
  have hsource : require (!decide (Text.Blank s.services.source)) "services.source"
      "must not be empty" = s.told .source :=
    require_eq_told (r := .source)
      (by simp only [Keeps, Bool.not_eq_true', decide_eq_false_iff_not])
  have hrequest : requirePositive "listener.request_timeout_secs" s.listener.requestTimeout =
      s.told .requestTimeout := require_eq_told (r := .requestTimeout) decide_eq_true_iff
  have hworkers : requirePositive "reports.workers" s.reports.workers = s.told .workers :=
    require_eq_told (r := .workers) decide_eq_true_iff
  have hqueue : requirePositive "reports.queue_capacity" s.reports.queueCapacity =
      s.told .queueCapacity := require_eq_told (r := .queueCapacity) decide_eq_true_iff
  have hpoll : requirePositive "services.poll_interval_secs" s.services.pollInterval =
      s.told .pollInterval := require_eq_told (r := .pollInterval) decide_eq_true_iff
  have hfetch : requirePositive "services.fetch_timeout_secs" s.services.fetchTimeout =
      s.told .fetchTimeout := require_eq_told (r := .fetchTimeout) decide_eq_true_iff
  simp only [violations, rules, Rule.first, Rule.last, hlistener, hrequest, hworkers, hqueue,
    hbatches, hsource, hpoll, hfetch, hmetrics, List.flatMap_append, List.flatMap_cons,
    List.flatMap_nil, List.append_nil, List.append_assoc]

/-- The violations are those of the rules that are not kept, in order. -/
theorem violations_eq_map (s : Settings) :
    s.violations = (s.rules.filter fun r => !decide (s.Keeps r)).map (Rule.violation s) := by
  rw [violations_eq_flatMap]
  induction s.rules with
  | nil => rfl
  | cons r rest ih =>
    rw [List.flatMap_cons, ih, told, List.filter_cons]
    by_cases h : s.Keeps r <;> simp [h]

/-! ## Rules are told apart -/

namespace Rule

/-- The consumer of a rule about batches. -/
def consumer? : Rule → Option String
  | .enabled name | .maxCount name | .batchTimeout name => some name
  | _ => none

/-- The rules that are not about batches. -/
def plain : List Rule := first ++ last

theorem mem_plain_of_consumer? {r : Rule} (h : r.consumer? = none) : r ∈ plain := by
  cases r with
  | enabled | maxCount | batchTimeout => cases h
  | _ => decide

/-- What the fields of batches begin with. -/
def batchingField : String := "reports.batching."

/-- No other field begins with it. -/
theorem field_ne_of_mem_plain {r : Rule} (h : r ∈ plain) (rest : String) :
    r.field ≠ batchingField ++ rest := by
  have hnone : ∀ r ∈ plain, Text.afterList? batchingField.toList r.field.toList = none := by decide
  intro heq
  have hlist : r.field.toList = batchingField.toList ++ rest.toList := by
    rw [heq, String.toList_append]
  have hsome := Text.afterList?_eq_some_iff.mpr hlist
  rw [hnone r h] at hsome
  cases hsome

/-- The field of a rule about batches is the consumer's, or one below it. -/
theorem exists_field_eq {r : Rule} {name : String} (h : r.consumer? = some name) :
    ∃ rest, r.field = batchingField ++ rest := by
  cases r with
  | enabled name => exact ⟨name, rfl⟩
  | maxCount name => exact ⟨name ++ ".max_batch_count", String.append_assoc⟩
  | batchTimeout name => exact ⟨name ++ ".batch_timeout_ms", String.append_assoc⟩
  | _ => cases h

/-- The number of reports and the time of batches are told apart, whoever the consumers are. -/
theorem maxCount_field_ne (name name' : String) :
    (maxCount name).field ≠ (batchTimeout name').field := by
  intro h
  have hends : batchingField ++ name ++ ".max_batch_count" =
      batchingField ++ name' ++ ".batch_timeout_ms" := h
  have hlast := congrArg (fun t : String => t.toList.getLast?) hends
  have hcount : (".max_batch_count" : String).toList.getLast? = some 't' := by decide
  have htime : (".batch_timeout_ms" : String).toList.getLast? = some 's' := by decide
  simp only [String.toList_append, List.getLast?_append, hcount, htime, Option.some_or] at hlast
  exact absurd hlast (by decide)

/-- Different rules are told by different violations. -/
theorem violation_injective (s : Settings) : Function.Injective (violation s) := by
  intro r r' h
  obtain ⟨hfield, hmessage⟩ := Violation.mk.inj h
  cases hr : r.consumer? with
  | none =>
    cases hr' : r'.consumer? with
    | none =>
      have hnodup : (plain.map field).Nodup := by decide
      exact List.inj_on_of_nodup_map hnodup (mem_plain_of_consumer? hr) (mem_plain_of_consumer? hr')
        hfield
    | some name =>
      obtain ⟨rest, hrest⟩ := exists_field_eq hr'
      exact absurd (hfield.trans hrest) (field_ne_of_mem_plain (mem_plain_of_consumer? hr) rest)
  | some name =>
    cases hr' : r'.consumer? with
    | none =>
      obtain ⟨rest, hrest⟩ := exists_field_eq hr
      exact absurd (hfield.symm.trans hrest)
        (field_ne_of_mem_plain (mem_plain_of_consumer? hr') rest)
    | some name' =>
      -- both are about batches: those of one sort differ by the consumer, and others by their
      -- wording or by the end of the field
      have hwording : "names a consumer that is not enabled" ≠ "must be at least 1" := by decide
      cases r with
      | enabled name =>
        cases r' with
        | enabled name' => exact congrArg enabled ((String.append_right_inj _).mp hfield)
        | maxCount | batchTimeout => exact absurd hmessage hwording
        | _ => cases hr'
      | maxCount name =>
        cases r' with
        | maxCount name' =>
          exact congrArg maxCount
            ((String.append_right_inj _).mp ((String.append_left_inj _).mp hfield))
        | enabled => exact absurd hmessage.symm hwording
        | batchTimeout name' => exact absurd hfield (maxCount_field_ne name name')
        | _ => cases hr'
      | batchTimeout name =>
        cases r' with
        | batchTimeout name' =>
          exact congrArg batchTimeout
            ((String.append_right_inj _).mp ((String.append_left_inj _).mp hfield))
        | enabled => exact absurd hmessage.symm hwording
        | maxCount name' => exact absurd hfield.symm (maxCount_field_ne name' name)
        | _ => cases hr'
      | _ => cases hr

end Rule

/-! ## Each rule by itself -/

/-- Every rule about the batches of a configured consumer is gone through, and
all other rules are. -/
theorem mem_rules_iff {s : Settings} {r : Rule} :
    r ∈ s.rules ↔ ∀ name, r.consumer? = some name → name ∈ s.reports.batching.keys := by
  cases r <;> simp [rules, Rule.first, Rule.last, batchRules, Rule.consumer?]

/-- No rule is gone through twice. -/
theorem nodup_rules (s : Settings) : s.rules.Nodup := by
  have hbatches : (s.reports.batching.keys.flatMap batchRules).Nodup := by
    refine List.nodup_flatMap.mpr
      ⟨fun name _ => ?_, s.reports.batching.nodup_keys.imp fun hne => ?_⟩
    · simp [batchRules]
    · simp [batchRules, Function.onFun, Ne.symm hne]
  have hplain : ∀ r ∈ Rule.plain, r ∉ s.reports.batching.keys.flatMap batchRules := by
    intro r hr hmem
    obtain ⟨name, -, hname⟩ := List.mem_flatMap.mp hmem
    simp only [batchRules, List.mem_cons, List.not_mem_nil, or_false] at hname
    rcases hname with rfl | rfl | rfl <;> simp [Rule.plain, Rule.first, Rule.last] at hr
  have hperm : (Rule.plain ++ s.reports.batching.keys.flatMap batchRules).Perm s.rules := by
    rw [rules, Rule.plain, List.append_assoc, List.append_assoc]
    exact List.perm_append_comm.append_left Rule.first
  exact hperm.nodup (List.nodup_append'.mpr ⟨by decide, hbatches, hplain⟩)

/-- A rule that is not gone through asks nothing of the settings. -/
theorem mem_rules_of_not_keeps {s : Settings} {r : Rule} (h : ¬ s.Keeps r) : r ∈ s.rules := by
  refine mem_rules_iff.mpr fun name hname => ?_
  by_contra hnot
  have hnone : s.reports.batching.find? name = none :=
    Option.eq_none_iff_forall_ne_some.mpr fun b hb =>
      hnot (List.mem_map_of_mem (SortedMap.mem_entries_of_find? hb))
  cases r with
  | enabled | maxCount | batchTimeout =>
    obtain rfl := Option.some.inj hname
    exact h (by simp [Keeps, SortedMap.contains, hnone])
  | _ => cases hname

/-- A rule that is not kept is told once, and one that is kept is not. -/
theorem count_violation (s : Settings) (r : Rule) :
    s.violations.count (r.violation s) = if s.Keeps r then 0 else 1 := by
  rw [violations_eq_map, List.count_map_of_injective _ _ (Rule.violation_injective s)]
  by_cases h : s.Keeps r
  · rw [if_pos h, List.count_eq_zero]
    simp [h]
  · rw [if_neg h, List.count_filter (by simpa using h), s.nodup_rules.count,
      if_pos (mem_rules_of_not_keeps h)]

/-! ## What a rule depends on -/

/-- Two settings agree on what a rule is about. Two rules are about two settings each:
who is enabled matters to those whose reports are batched, and the address of the metrics
if there are any. -/
def Agree (s t : Settings) : Rule → Prop
  | .bindAddress => s.listener.bindAddress = t.listener.bindAddress
  | .requestTimeout => s.listener.requestTimeout = t.listener.requestTimeout
  | .workers => s.reports.workers = t.reports.workers
  | .queueCapacity => s.reports.queueCapacity = t.reports.queueCapacity
  | .enabled name =>
    s.reports.batching.contains name = t.reports.batching.contains name ∧
      (name ∈ s.reports.consumers ↔ name ∈ t.reports.consumers)
  | .maxCount name => (s.reports.batching.find? name).map (·.maxCount) =
      (t.reports.batching.find? name).map (·.maxCount)
  | .batchTimeout name => (s.reports.batching.find? name).map (·.timeout) =
      (t.reports.batching.find? name).map (·.timeout)
  | .source => s.services.source = t.services.source
  | .pollInterval => s.services.pollInterval = t.services.pollInterval
  | .fetchTimeout => s.services.fetchTimeout = t.services.fetchTimeout
  | .metricsAddress => s.observability.metricsEnabled = t.observability.metricsEnabled ∧
      s.observability.metricsAddress = t.observability.metricsAddress

/-- What is asked of a batch is asked of its number. -/
theorem forall_eq_some_iff {p : Nat → Prop} {f : BatchSettings → Nat} {o : Option BatchSettings} :
    (∀ b, o = some b → p (f b)) ↔ ∀ n, o.map f = some n → p n := by
  cases o <;> simp

theorem Agree.keeps_iff {s t : Settings} {r : Rule} (h : s.Agree t r) :
    s.Keeps r ↔ t.Keeps r := by
  cases r with
  | enabled name => simp only [Keeps, h.1, h.2]
  | metricsAddress => simp only [Keeps, h.1, h.2]
  | maxCount name | batchTimeout name =>
    unfold Agree at h
    simp only [Keeps, forall_eq_some_iff (p := (1 ≤ ·)), h]
  | _ =>
    unfold Agree at h
    simp only [Keeps, h]

theorem Agree.violation_eq {s t : Settings} {r : Rule} (h : s.Agree t r) :
    r.violation s = r.violation t := by
  cases r with
  | bindAddress =>
    have haddress : s.listener.bindAddress = t.listener.bindAddress := h
    simp only [Rule.violation, Rule.message, haddress]
  | metricsAddress =>
    have haddress : s.observability.metricsAddress = t.observability.metricsAddress := h.2
    simp only [Rule.violation, Rule.message, haddress]
  | _ => rfl

/-! ## Acceptance -/

/-- A rule is told exactly if it is not kept. -/
theorem mem_violations_iff {s : Settings} {r : Rule} :
    r.violation s ∈ s.violations ↔ ¬ s.Keeps r := by
  rw [← List.count_pos_iff, count_violation]
  split <;> simp_all

/-- Nothing is told exactly of settings that keep all rules. -/
theorem violations_eq_nil_iff {s : Settings} : s.violations = [] ↔ ∀ r, s.Keeps r := by
  constructor
  · intro h r
    by_contra hr
    have hmem := mem_violations_iff.mpr hr
    rw [h] at hmem
    cases hmem
  · intro h
    rw [violations_eq_map, List.map_eq_nil_iff, List.filter_eq_nil_iff]
    exact fun r _ => by simp [h r]

theorem validate_eq_ok_iff {s t : Settings} : s.validate = .ok t ↔ s = t ∧ s.violations = [] := by
  unfold validate
  cases h : s.violations with
  | nil => simp
  | cons v vs => simp

theorem validate_eq_error_iff {s : Settings} {e : SettingsError} :
    s.validate = .error e ↔ e = .invalid s.violations ∧ s.violations ≠ [] := by
  unfold validate
  cases h : s.violations with
  | nil => simp
  | cons v vs => simp [eq_comm]

/-- A text is accepted exactly if it reads as settings of which nothing is told. -/
theorem parse_eq_ok_iff {text : String} {s : Settings} :
    parse text = .ok s ↔ (Toml.parse? text).bind (ofData? true) = some s ∧ s.violations = [] := by
  unfold parse
  cases h : (Toml.parse? text).bind (ofData? true) with
  | none => simp
  | some t =>
    simp only [validate_eq_ok_iff, Option.some.injEq]
    constructor
    · rintro ⟨rfl, hnil⟩
      exact ⟨rfl, hnil⟩
    · rintro ⟨rfl, hnil⟩
      exact ⟨rfl, hnil⟩

/-- Settings are accepted exactly if they keep all rules, and refused with all violations if they do
not. The violations are those of the rules that are not kept, in the order of the rules, each of
them told once and no other one. Whether a rule is told, and with which words, depends on what the
rule is about only. A text is accepted exactly if it reads as settings of which nothing is told. -/
theorem tells_violated_rules (s : Settings) :
    (s.validate = .ok s ↔ ∀ r, s.Keeps r) ∧
    (s.validate = .error (.invalid s.violations) ↔ ∃ r, ¬ s.Keeps r) ∧
    s.violations = (s.rules.filter fun r => !decide (s.Keeps r)).map (Rule.violation s) ∧
    (∀ r : Rule, s.violations.count (r.violation s) = if s.Keeps r then 0 else 1) ∧
    (∀ t r, s.Agree t r →
      t.violations.count (r.violation s) = s.violations.count (r.violation s)) ∧
    ∀ text, parse text = .ok s ↔
      (Toml.parse? text).bind (ofData? true) = some s ∧ s.violations = [] := by
  have hnil := violations_eq_nil_iff (s := s)
  refine ⟨?_, ?_, s.violations_eq_map, s.count_violation, ?_, fun text => parse_eq_ok_iff⟩
  · rw [validate_eq_ok_iff, hnil]
    exact and_iff_right rfl
  · rw [validate_eq_error_iff, ne_eq, hnil, not_forall]
    exact and_iff_right rfl
  · intro t r h
    have hkeeps : s.Keeps r ↔ t.Keeps r := h.keeps_iff
    rw [h.violation_eq, count_violation, ← h.violation_eq, count_violation]
    simp only [hkeeps]

/-- Five parts of these settings break a rule, and one of them breaks two. -/
def broken : Settings where
  listener := { bindAddress := "nope" }
  reports := {
    workers := 0
    batching := .ofList [("cloudwatch", { maxCount := 0, timeout := 10 })] }
  services := { source := "\t" }
  observability := { metricsAddress := "localhost" }

/-- An address that is none is told among five other violations, and by itself. -/
theorem tells_violated_rules_broken :
    broken.violations.map (·.field) = ["listener.bind_address", "reports.workers",
      "reports.batching.cloudwatch", "reports.batching.cloudwatch.max_batch_count",
      "services.source", "observability.metrics_address"] ∧
    broken.Agree { listener := broken.listener } .bindAddress ∧
      ({ listener := broken.listener } : Settings).violations.count
        ⟨"listener.bind_address", "'nope' is not a socket address"⟩ = 1 := by
  have hkeeps : ¬ broken.Keeps .bindAddress := by decide +kernel
  obtain ⟨-, -, -, hcount, hagree, -⟩ := tells_violated_rules broken
  refine ⟨by decide +kernel, rfl, ?_⟩
  have hsame := hagree { listener := broken.listener } .bindAddress rfl
  rw [hcount, if_neg hkeeps] at hsame
  exact hsame

end ServiceControl.Settings
