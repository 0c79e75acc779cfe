import ServiceControl.Proofs.Checking.Metering
import ServiceControl.Proofs.Gateway.Calls
import ServiceControl.Proofs.Reports.Metering

/-!
# Checks and reports under way together

Checks, senders of reports, workers and batchers take their steps in any order, and checkers may be
given up and batchers closed at any time. Calls of a gateway that come one after another are such a
run, with steps that nothing comes between.
-/

namespace ServiceControl

/-- Checks and reports under way. -/
structure Traffic where
  checks : MeteredChecks
  reports : MeteredReports

/-- What can happen next. -/
inductive TrafficMove where
  /-- A check takes a step, or the configuration changes. -/
  | check (m : CheckMove)
  /-- All checkers are given up. -/
  | unload
  | report (m : ReportMove)

namespace Traffic

/-- The traffic after one more move. -/
def step (t : Traffic) : TrafficMove → Traffic
  | .check m => { t with checks := t.checks.step m }
  | .unload => { t with checks := t.checks.unload }
  | .report m => { t with reports := t.reports.step m }

/-- The traffic after moves in order. -/
def stepAll (t : Traffic) (moves : List TrafficMove) : Traffic := moves.foldl step t

/-- The traffic of moves from a gateway with a configuration in force and workers that were started
on an empty queue. -/
def after (start : Services) (outlets : List Outlet) (capacity workers : Nat)
    (moves : List TrafficMove) : Traffic :=
  stepAll
    { checks := { run := { pool := { services := start } } }
      reports := {
        pipeline := ({ queue := .ofCapacity capacity, outlets } : Pipeline).start workers } } moves

/-- The gateway that the traffic is at. -/
def gateway (t : Traffic) : Gateway where
  pool := t.checks.run.pool
  pipeline := t.reports.pipeline

theorem after_snoc (start : Services) (outlets : List Outlet) (capacity workers : Nat)
    (moves : List TrafficMove) (m : TrafficMove) :
    after start outlets capacity workers (moves ++ [m]) =
      (after start outlets capacity workers moves).step m := by
  rw [after, stepAll, List.foldl_concat, after, stepAll]

theorem stepAll_snoc (t : Traffic) (moves : List TrafficMove) (m : TrafficMove) :
    t.stepAll (moves ++ [m]) = (t.stepAll moves).step m := List.foldl_concat _ _ _ _

theorem stepAll_append (t : Traffic) (before rest : List TrafficMove) :
    t.stepAll (before ++ rest) = (t.stepAll before).stepAll rest := List.foldl_append

/-- The traffic is at what a gateway has of checks and reports. -/
structure IsAt (t : Traffic) (g : Gateway) : Prop where
  pool : t.checks.run.pool = g.pool
  pipeline : t.reports.pipeline = g.pipeline

/-- Steps of one check are moves of the traffic. -/
theorem exists_moves_of_alone {t : Traffic} {i : Nat} {s : CheckRun}
    (h : CheckRun.Alone i t.checks.run s) :
    ∃ moves, (t.stepAll moves).checks.run = s ∧ (t.stepAll moves).reports = t.reports := by
  generalize hr : t.checks.run = r at h
  induction h generalizing t with
  | refl => exact ⟨[], hr, rfl⟩
  | step _ ih =>
    obtain ⟨moves, hrun, hreports⟩ := ih (t := t.step (.check (.advance i))) (hr ▸ rfl)
    exact ⟨.check (.advance i) :: moves, hrun, hreports⟩

/-- Settling is a number of moves of workers and batchers. -/
theorem exists_moves_settle (t : Traffic) :
    ∃ moves, (t.stepAll moves).checks = t.checks ∧
      (t.stepAll moves).reports.pipeline = t.reports.pipeline.settle := by
  refine Pipeline.settle_induction (P := fun p => ∃ moves, (t.stepAll moves).checks = t.checks ∧
    (t.stepAll moves).reports.pipeline = p) ?_ ?_ ⟨[], rfl, rfl⟩
  · rintro _ q worker ⟨moves, hchecks, rfl⟩ hstep
    refine ⟨moves ++ [.report (.work worker)], ?_, ?_⟩ <;> rw [stepAll_snoc]
    · exact hchecks
    · simp only [step, MeteredReports.step, hstep]
  · rintro _ q place ⟨moves, hchecks, rfl⟩ hstep
    refine ⟨moves ++ [.report (.gather place)], ?_, ?_⟩ <;> rw [stepAll_snoc]
    · exact hchecks
    · simp only [step, MeteredReports.step, hstep, Option.getD_some]

/-- Time that passes is followed by settling. -/
theorem exists_moves_sleep (t : Traffic) (ms : Nat) :
    ∃ moves, (t.stepAll moves).checks = t.checks ∧
      (t.stepAll moves).reports.pipeline = t.reports.pipeline.sleep ms := by
  obtain ⟨moves, hchecks, hpipeline⟩ := exists_moves_settle (t.step (.report (.wait ms)))
  exact ⟨.report (.wait ms) :: moves, hchecks, hpipeline⟩

/-- A report that there is room for is sent, and its sender is told so. -/
theorem exists_moves_put {t : Traffic} {r : ReportRequest} {queue : ReportQueue}
    (h : t.reports.pipeline.queue.put r = .ok queue) :
    ∃ moves, (t.stepAll moves).checks = t.checks ∧
      (t.stepAll moves).reports.pipeline = { t.reports.pipeline with
        queue, metrics := Gateway.countReport t.reports.pipeline.metrics .sent } := by
  refine ⟨[.report (.send r), .report (.answer t.reports.sent.length)], rfl, ?_⟩
  simp [stepAll, step, MeteredReports.step, h]

/-- A sender that waits for room lets the others take their steps meanwhile. -/
theorem exists_moves_send (t : Traffic) (patience : Nat) (r : ReportRequest) :
    ∃ moves, (t.stepAll moves).checks = t.checks ∧ (t.stepAll moves).reports.pipeline =
      { (t.reports.pipeline.send patience r).2 with
        metrics := Gateway.countReport (t.reports.pipeline.send patience r).2.metrics
          (t.reports.pipeline.send patience r).1 } := by
  unfold Pipeline.send
  split
  · next queue hput => exact exists_moves_put hput
  · exact ⟨[], rfl, rfl⟩
  · obtain ⟨before, hchecks, hsettled⟩ := exists_moves_settle t
    rw [← hsettled]
    dsimp only
    split
    · next queue hput =>
      obtain ⟨rest, hsame, hpipeline⟩ := exists_moves_put hput
      refine ⟨before ++ rest, ?_, ?_⟩ <;> rw [stepAll_append]
      · exact hsame.trans hchecks
      · exact hpipeline
    · exact ⟨before, hchecks, rfl⟩
    · obtain ⟨rest, hsame, hpipeline⟩ := exists_moves_sleep (t.stepAll before) patience
      refine ⟨before ++ rest, ?_, ?_⟩ <;> rw [stepAll_append]
      · exact hsame.trans hchecks
      · exact hpipeline

/-- What a gateway does for one call is a number of moves. -/
theorem IsAt.exists_moves_serve {t : Traffic} {g : Gateway} (h : t.IsAt g) (call : GatewayCall) :
    ∃ moves, (t.stepAll moves).IsAt (g.serve call) := by
  obtain ⟨hpool, hpipeline⟩ := h
  cases call with
  | check request =>
    obtain ⟨s, halone, -, hs⟩ := CheckRun.exists_alone_answered t.checks.run request
    obtain ⟨moves, hrun, hreports⟩ :=
      exists_moves_of_alone (t := t.step (.check (.call request))) halone
    refine ⟨.check (.call request) :: moves, ?_, ?_⟩
    · rw [hpool] at hs
      exact (congrArg CheckRun.pool hrun).trans hs
    · exact (congrArg MeteredReports.pipeline hreports).trans hpipeline
  | report r =>
    obtain ⟨moves, hchecks, hsent⟩ := exists_moves_send t g.patience r
    refine ⟨moves, ?_, ?_⟩
    · rw [hchecks]
      exact hpool
    · rw [hsent, hpipeline]
      rfl
  | reload fetched =>
    simp only [Gateway.serve, Gateway.reload]
    split
    · exact ⟨[], hpool, hpipeline⟩
    · next m _ =>
      split
      · let s := (m.receive fetched).2.current?.getD .empty
        exact ⟨[.check (.change s)], congrArg (CheckerPool.change · s) hpool, hpipeline⟩
      · exact ⟨[], hpool, hpipeline⟩
  | wait ms =>
    obtain ⟨moves, hchecks, hslept⟩ := exists_moves_sleep t ms
    refine ⟨moves, ?_, ?_⟩
    · rw [hchecks]
      exact hpool
    · rw [hslept, hpipeline]
      rfl

/-- So are all calls that come one after another. -/
theorem IsAt.exists_moves_serveAll {t : Traffic} {g : Gateway} (h : t.IsAt g)
    (calls : List GatewayCall) : ∃ moves, (t.stepAll moves).IsAt (g.serveAll calls) := by
  induction calls generalizing t g with
  | nil => exact ⟨[], h⟩
  | cons call rest ih =>
    obtain ⟨first, hfirst⟩ := h.exists_moves_serve call
    obtain ⟨more, hmore⟩ := ih hfirst
    refine ⟨first ++ more, ?_⟩
    rw [stepAll_append]
    exact hmore

/-- Every gateway that was started for settings and has served calls is at some traffic. -/
theorem exists_moves_of_calls (r : Registries) (s : Settings) (calls : List GatewayCall) :
    ∃ moves, (after .empty (Pipeline.outletsOf r s) s.reports.queueCapacity s.reports.workers
      moves).IsAt ((Gateway.ofSettings r s).serveAll calls) := by
  let begin := after .empty (Pipeline.outletsOf r s) s.reports.queueCapacity s.reports.workers []
  obtain ⟨first, hchecks, hpipeline⟩ := exists_moves_settle begin
  have hstart : (begin.stepAll first).IsAt (.ofSettings r s) :=
    ⟨congrArg (·.run.pool) hchecks, hpipeline⟩
  obtain ⟨more, hmore⟩ := hstart.exists_moves_serveAll calls
  refine ⟨first ++ more, ?_⟩
  rw [← stepAll_append] at hmore
  exact hmore

end Traffic

end ServiceControl
