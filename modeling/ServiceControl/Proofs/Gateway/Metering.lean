import Mathlib.Data.List.Induction
import ServiceControl.Proofs.Gateway.Traffic

/-!
# The gateway's metrics account for its traffic

Whenever the metrics are read, they tell how many checks were answered and with which errors, which
checkers were built and which were not, how many senders were told that their reports are in the
queue, and for each name how many calls of its outlets have succeeded and how many have failed.
-/

namespace ServiceControl

namespace Traffic

/-- The metrics agree with what has happened, on the side of checks and on that of reports. -/
structure Accounted (outlets : List Outlet) (t : Traffic) : Prop where
  checks : t.checks.Accounted
  reports : t.reports.Accounted outlets

variable {outlets : List Outlet} {t : Traffic}

/-- Every move is accounted for. -/
theorem Accounted.step (h : t.Accounted outlets) (hcalm : ∀ o ∈ outlets, o.consumer.IsCalm)
    (m : TrafficMove) : (t.step m).Accounted outlets := by
  cases m with
  | check m => exact ⟨h.checks.step m, h.reports⟩
  | unload => exact ⟨h.checks.unload, h.reports⟩
  | report m => exact ⟨h.checks, h.reports.step hcalm m⟩

/-- So are all moves from the start. -/
theorem accounted_after (start : Services) (hcalm : ∀ o ∈ outlets, o.consumer.IsCalm)
    (hfresh : ∀ o ∈ outlets, ∀ b, o.batcher = some b → b.IsFresh) (capacity workers : Nat)
    (moves : List TrafficMove) :
    (after start outlets capacity workers moves).Accounted outlets := by
  induction moves using List.reverseRecOn with
  | nil =>
    refine ⟨⟨rfl, rfl, fun _ => rfl, fun _ _ => rfl, Metrics.only_nil _⟩, ?_⟩
    exact MeteredReports.accounted_start hcalm hfresh capacity workers
  | append_singleton moves m ih =>
    rw [after_snoc]
    exact ih.step hcalm m

/-- A counter of checks is read on the side of checks. -/
theorem Accounted.get_of_checks (h : t.Accounted outlets) {c : Counter}
    (hc : c.isOfChecks = true) : t.gateway.metrics.get c = t.checks.run.pool.metrics.get c :=
  Metrics.get_append_left h.reports.only hc

/-- A counter of reports is read on the side of reports. -/
theorem Accounted.get_of_reports (h : t.Accounted outlets) {c : Counter}
    (hc : ¬c.isOfChecks = true) : t.gateway.metrics.get c = t.reports.pipeline.metrics.get c :=
  Metrics.get_append_right h.checks.only hc

/-- What was counted under a name succeeded or failed. -/
theorem count_label_add (calls : List ConsumeCall) (name : String) :
    (calls.map ConsumeCall.label).count (name, true) +
      (calls.map ConsumeCall.label).count (name, false) = (calls.map (·.label.1)).count name := by
  induction calls with
  | nil => rfl
  | cons c rest ih =>
    simp only [List.map_cons, List.count_cons]
    obtain ⟨own, ok⟩ := c.label
    by_cases hname : own = name <;> cases ok <;> simp [hname] <;> omega

/-- Where no worker has a report, none is handed to some outlets only. -/
theorem handed_eq_zero {r : MeteredReports} (h : r.inHand = []) (names : List String)
    (name : String) : r.handed names name = 0 := by
  refine List.sum_eq_zero_iff_forall_eq_nat.mpr fun n hn => ?_
  obtain ⟨w, hw, rfl⟩ := List.mem_map.mp hn
  cases w with
  | waiting | finished => rfl
  | delivering report next =>
    have hmem : report ∈ r.inHand := List.mem_filterMap.mpr ⟨_, hw, rfl⟩
    rw [h] at hmem
    cases hmem

/-- With consumers that do not break off, and in every order of steps of checks, senders, workers
and batchers, the metrics account for the traffic. Each answered check counts once and with one
duration, each error of an answer by its code, each call of a builder by its kind and by whether it
succeeded, and each sender that was told that its report is in the queue. For each name the calls of
its outlets are counted by whether they succeeded, which is what the consumers have said or whether
the batchers were open. These calls are as many as the reports that went through for each outlet of
the name, and those that workers have made so far with the reports that they have. -/
theorem metrics_account (start : Services) (outlets : List Outlet)
    (hcalm : ∀ o ∈ outlets, o.consumer.IsCalm)
    (hfresh : ∀ o ∈ outlets, ∀ b, o.batcher = some b → b.IsFresh) (capacity workers : Nat)
    (moves : List TrafficMove) :
    let t := after start outlets capacity workers moves
    let responses := t.checks.run.responses
    let names := outlets.map (·.consumer.name)
    let counted := t.gateway.metrics.get
    (counted .checkRequests = responses.length ∧ counted .checkDurations = responses.length ∧
      (∀ code, counted (.checkErrors code) =
        (responses.flatMap (·.errors)).countP (·.code = code)) ∧
      ∀ kind ok, counted (.checkerBuilds kind ok) = t.checks.attempts.count (kind, ok)) ∧
    counted .reportsEnqueued = t.reports.accepted.length ∧
    (∀ name ok, counted (.reportsConsumed name ok) =
      (t.reports.consumed.map ConsumeCall.label).count (name, ok)) ∧
    (∀ c ∈ t.reports.consumed, c.IsTrue outlets) ∧
    (∀ name, counted (.reportsConsumed name true) + counted (.reportsConsumed name false) =
      t.reports.delivered.length * names.count name + t.reports.handed names name) ∧
    t.reports.taken.Perm (t.reports.delivered ++ t.reports.inHand) ∧
    (t.reports.inHand = [] → ∀ name,
      counted (.reportsConsumed name true) + counted (.reportsConsumed name false) =
        t.reports.taken.length * names.count name) := by
  intro t responses names counted
  have h : t.Accounted outlets := accounted_after start hcalm hfresh capacity workers moves
  have houtcomes (name : String) (ok : Bool) : counted (.reportsConsumed name ok) =
      (t.reports.consumed.map ConsumeCall.label).count (name, ok) :=
    (h.get_of_reports (c := .reportsConsumed name ok) nofun).trans (h.reports.outcomes name ok)
  have hshares (name : String) :
      counted (.reportsConsumed name true) + counted (.reportsConsumed name false) =
        t.reports.delivered.length * names.count name + t.reports.handed names name := by
    rw [houtcomes, houtcomes, count_label_add]
    exact h.reports.shares name
  refine ⟨⟨?_, ?_, ?_, ?_⟩, ?_, houtcomes, h.reports.calls, hshares, h.reports.flow, ?_⟩
  · exact (h.get_of_checks rfl).trans h.checks.requests
  · exact (h.get_of_checks rfl).trans h.checks.durations
  · exact fun code => (h.get_of_checks rfl).trans (h.checks.errors code)
  · exact fun kind ok => (h.get_of_checks rfl).trans (h.checks.builds kind ok)
  · exact (h.get_of_reports (c := .reportsEnqueued) nofun).trans h.reports.enqueued
  · intro hnone name
    rw [hshares, handed_eq_zero hnone, h.reports.flow.length_eq, hnone, List.append_nil]
    rfl

/-- Two outlets of one name: a consumer that refuses every report, and one that takes reports in
batches. -/
def pairOutlets : List Outlet :=
  [{ consumer := { name := "pair", deliver := fun _ _ => .refused "busy" } },
    { consumer := { name := "pair" }, batcher := some { maxCount := 2, timeout := 10 } }]

/-- One report goes through, the batcher is closed, and the other report is handed to both outlets.
Only the sender of the second one was answered, and one check. -/
def pairMoves : List TrafficMove :=
  [.report (.send { service := "a" }), .report (.send { service := "b" }), .report (.answer 1),
    .check (.call {}), .report (.work 0), .report (.work 0), .report (.work 0), .report (.work 0),
    .report (.close 1), .check (.advance 0), .report (.work 1), .report (.work 1),
    .report (.work 1), .check (.advance 0)]

/-- Of the four calls that were made for the name, one has succeeded. -/
theorem metrics_account_pair :
    (∀ o ∈ pairOutlets, o.consumer.IsCalm) ∧
    (∀ o ∈ pairOutlets, ∀ b, o.batcher = some b → b.IsFresh) ∧
    let counted := (after .empty pairOutlets 4 2 pairMoves).gateway.metrics.get
    counted .checkRequests = 1 ∧ counted .reportsEnqueued = 1 ∧
    counted (.reportsConsumed "pair" true) = 1 ∧
    counted (.reportsConsumed "pair" true) + counted (.reportsConsumed "pair" false) =
      1 * 2 + 2 := by
  have hrefuses : Consumer.IsCalm { name := "pair", deliver := fun _ _ => .refused "busy" } :=
    fun _ _ => nofun
  have htakes : Consumer.IsCalm { name := "pair" } := fun _ _ => nofun
  have hcalm : ∀ o ∈ pairOutlets, o.consumer.IsCalm := by
    intro o ho
    simp only [pairOutlets, List.mem_cons, List.not_mem_nil, or_false] at ho
    rcases ho with rfl | rfl
    · exact hrefuses
    · exact htakes
  have hfresh : ∀ o ∈ pairOutlets, ∀ b, o.batcher = some b → b.IsFresh := by
    intro o ho b hb
    simp only [pairOutlets, List.mem_cons, List.not_mem_nil, or_false] at ho
    rcases ho with rfl | rfl
    · cases hb
    · obtain rfl := Option.some.inj hb
      exact ⟨rfl, rfl, rfl, rfl, by decide⟩
  obtain ⟨⟨hrequests, -⟩, henqueued, houtcomes, -, hshares, -⟩ :=
    metrics_account .empty pairOutlets hcalm hfresh 4 2 pairMoves
  refine ⟨hcalm, hfresh, hrequests.trans ?_, henqueued.trans ?_, (houtcomes "pair" true).trans ?_,
    (hshares "pair").trans ?_⟩ <;> decide +kernel

end Traffic

end ServiceControl
