import ServiceControl.Proofs.Checking.Transparency
import ServiceControl.Proofs.Gateway.Calls
import ServiceControl.Proofs.Gateway.Phases

/-!
# Stopping a gateway

There is only so much work that keeps stopping waiting, and as long as some is left, a worker or a
batcher can do a part of it. So stopping can always be brought to its end, and then every consumer
has got every accepted report once and no checker is left.
-/

namespace ServiceControl

namespace Pipeline

/-- The batchers for settings are started with nothing in them. -/
theorem isFresh_of_mem_outletsOf {r : Registries} {s : Settings} {o : Outlet}
    (ho : o ∈ outletsOf r s) {b : Batcher ReportRequest} (hb : o.batcher = some b)
    (hfits : b.limit ≤ Batcher.largest) : b.IsFresh := by
  obtain ⟨name, -, hname⟩ := List.mem_filterMap.mp ho
  split at hname
  · cases hname
  · split at hname
    · obtain rfl := Option.some.inj hname
      obtain ⟨settings, -, rfl⟩ := Option.map_eq_some_iff.mp hb
      exact ⟨rfl, rfl, rfl, rfl, hfits⟩
    · cases hname

/-- A pipeline that was just started waits for its first report. -/
theorem settle_start {outlets : List Outlet}
    (hfresh : ∀ o ∈ outlets, ∀ b, o.batcher = some b → b.IsFresh) (capacity workers : Nat) :
    (start { queue := .ofCapacity capacity, outlets } workers).settle =
      start { queue := .ofCapacity capacity, outlets } workers := by
  refine settle_of_step? (Option.or_eq_none_iff.mpr ⟨?_, ?_⟩) <;>
    rw [List.findSome?_eq_none_iff] <;> intro i _
  · simp only [stepWorker, start]
    cases hw : ([] ++ List.replicate workers Worker.waiting)[i]? with
    | none => rfl
    | some w =>
      obtain rfl := List.eq_of_mem_replicate (List.mem_of_getElem? hw)
      rfl
  · simp only [stepBatcher, start]
    cases ho : outlets[i]? with
    | none => rfl
    | some o =>
      cases hb : o.batcher with
      | none => simp [hb]
      | some b =>
        simp [hb, (hfresh o (List.mem_of_getElem? ho) b hb).step_eq_none]

end Pipeline

/-- The number of parts of stopping that are still to come, if there are so many outlets. -/
def StopPhase.rank (outlets : Nat) : StopPhase → Nat
  | .serving => 2 * outlets + 3
  | .draining => 2 * outlets + 2
  | .closing place => 2 * (outlets - place) + 1
  | .awaiting place => 2 * (outlets - place)
  | .stopped => 0

namespace GatewayRun

/-- What is left to do until a gateway has stopped. -/
def remaining (g : GatewayRun) : Nat :=
  g.phase.rank g.work.pipeline.outlets.length + g.work.pipeline.weight

variable {outlets : List Outlet} {workers : Nat} {g : GatewayRun}

/-- A step of a worker takes some of the work away. -/
theorem remaining_work {worker : Nat} {p : Pipeline}
    (hstep : g.work.pipeline.stepWorker worker = some p) :
    (g.step (.work worker)).remaining < g.remaining := by
  have hgo := Pipeline.WorkerStep.of_stepWorker hstep
  have hlength := Pipeline.length_outlets_of_plan_eq hgo.plan_eq
  simp only [GatewayRun.step, WorkRun.step, hstep, WorkRun.worked, remaining, hlength]
  exact Nat.add_lt_add_left hgo.weight_lt _

/-- So does a step of a batcher. -/
theorem remaining_gather {place : Nat} {p : Pipeline}
    (hstep : g.work.pipeline.stepBatcher place = some p) :
    (g.step (.gather place)).remaining < g.remaining := by
  have hgo := Pipeline.BatcherStep.of_stepBatcher hstep
  have hlength := Pipeline.length_outlets_of_plan_eq hgo.plan_eq
  simp only [GatewayRun.step, WorkRun.step, hstep, Option.getD_some, remaining, hlength]
  exact Nat.add_lt_add_left hgo.weight_lt _

/-- As long as workers are awaited, one of them or a batcher has something to do, or they have
left. -/
theorem Keeps.exists_move_of_draining (h : g.Keeps outlets workers) (hphase : g.phase = .draining) :
    ∃ m, (g.step m).remaining < g.remaining := by
  cases hstep : g.work.pipeline.step? with
  | some p =>
    rcases Pipeline.step?_cases hstep with ⟨worker, hw⟩ | ⟨place, hb⟩
    · exact ⟨_, remaining_work hw⟩
    · exact ⟨_, remaining_gather hb⟩
  | none =>
    have hstage : g.Stage .draining := hphase ▸ h.stage
    have hcount : g.work.pipeline.finishedWorkers = g.work.pipeline.workers.length := by
      refine List.countP_eq_length.mpr fun w hw => ?_
      obtain ⟨worker, hget⟩ := List.mem_iff_getElem?.mp hw
      rw [Pipeline.eq_finished_of_stepWorker hget hstage.2
        ((Pipeline.steps_eq_none_of_step? hstep).1 worker)]
      rfl
    refine ⟨.stop, ?_⟩
    simp only [GatewayRun.step, GatewayRun.proceed, hphase, hcount, if_true, remaining,
      StopPhase.rank]
    omega

/-- As long as the end of a batcher is awaited, it has something to do, or it has come to its
end. -/
theorem Keeps.exists_move_of_awaiting (h : g.Keeps outlets workers) {place : Nat}
    (hphase : g.phase = .awaiting place) : ∃ m, (g.step m).remaining < g.remaining := by
  have hstage : g.Stage (.awaiting place) := hphase ▸ h.stage
  obtain ⟨-, -, -, hclosed, hlt⟩ := hstage
  cases hstep : g.work.pipeline.stepBatcher place with
  | some p => exact ⟨_, remaining_gather hstep⟩
  | none =>
    have hended : (g.work.pipeline.batcherAt place).any (·.isRunning) = false := by
      cases hb : g.work.pipeline.batcherAt place with
      | none => rfl
      | some b =>
        have hnone := Pipeline.step_eq_none_of_stepBatcher hb hstep
        exact Batcher.isRunning_of_step (hclosed b hb) (h.work.batchers place b hb).fits hnone
    refine ⟨.stop, ?_⟩
    simp only [GatewayRun.step, GatewayRun.proceed, hphase, hended, Bool.false_eq_true, if_false,
      remaining, StopPhase.rank]
    omega

/-- Until a gateway has stopped, some move brings it nearer to that. -/
theorem Keeps.exists_move (h : g.Keeps outlets workers) (hphase : g.phase ≠ .stopped) :
    ∃ m, (g.step m).remaining < g.remaining := by
  cases hg : g.phase with
  | serving =>
    have hweight : (g.work.step .dropSenders).pipeline.weight = g.work.pipeline.weight := rfl
    refine ⟨.stop, ?_⟩
    simp only [GatewayRun.step, GatewayRun.proceed, hg, remaining, StopPhase.rank, hweight]
    exact Nat.add_lt_add_right (Nat.lt_succ_self _) _
  | draining => exact h.exists_move_of_draining hg
  | closing place =>
    refine ⟨.stop, ?_⟩
    simp only [GatewayRun.step, GatewayRun.proceed, hg]
    split
    · simp only [remaining, StopPhase.rank, hg, Pipeline.weight_closeAt]
      simp only [Pipeline.closeAt, List.length_modify]
      omega
    · simp only [remaining, StopPhase.rank, hg]
      omega
  | awaiting place => exact h.exists_move_of_awaiting hg
  | stopped => exact absurd hg hphase

/-- Whatever state a gateway is in, stopping it can be brought to its end. -/
theorem Keeps.exists_stopped (hcalm : ∀ o ∈ outlets, o.consumer.IsCalm)
    (h : g.Keeps outlets workers) :
    ∃ moves : List GatewayMove, (moves.foldl GatewayRun.step g).phase = .stopped := by
  -- a move that takes some of the work away leads to a state of which the same is known
  induction hn : g.remaining using Nat.strongRecOn generalizing g with
  | ind n ih =>
    by_cases hphase : g.phase = .stopped
    · exact ⟨[], hphase⟩
    · obtain ⟨m, hm⟩ := h.exists_move hphase
      obtain ⟨moves, hmoves⟩ := ih _ (hn ▸ hm) (h.step hcalm m) rfl
      exact ⟨m :: moves, hmoves⟩

end GatewayRun

namespace Gateway

/-- What is known of a gateway after calls, with the reports that it accepted. -/
structure Holds (outlets : List Outlet) (workers : Nat) (queued : List ReportRequest)
    (g : Gateway) : Prop where
  pipeline : g.pipeline.Carries outlets workers queued
  pool : g.pool.HasAll

variable {outlets : List Outlet} {workers : Nat} {queued : List ReportRequest} {g : Gateway}

/-- Each call keeps what is known, with the report that it puts into the queue. -/
theorem Holds.serve (h : g.Holds outlets workers queued)
    (hcalm : ∀ o ∈ outlets, o.consumer.IsCalm) (call : GatewayCall) :
    (g.serve call).Holds outlets workers (queued ++ (g.accepted? call).toList) := by
  obtain ⟨hpipeline, hpool⟩ := h
  cases call with
  | check request =>
    rw [accepted?, Option.toList_none, List.append_nil]
    exact ⟨hpipeline, hpool.check request⟩
  | wait ms =>
    rw [accepted?, Option.toList_none, List.append_nil]
    exact ⟨hpipeline.sleep hcalm ms, hpool⟩
  | reload fetched =>
    rw [accepted?, Option.toList_none, List.append_nil]
    simp only [Gateway.serve, Gateway.reload]
    split
    · exact ⟨hpipeline, hpool⟩
    · split
      · exact ⟨hpipeline, hpool.of_same rfl rfl rfl⟩
      · exact ⟨hpipeline, hpool⟩
  | report r =>
    have hsend := hpipeline.send hcalm g.patience r
    have hsent : (g.accepted? (.report r)).toList =
        if (g.pipeline.send g.patience r).1 = .sent then [r] else [] := by
      by_cases h : (g.pipeline.send g.patience r).1 = .sent <;>
        simp [accepted?, Gateway.report, h]
    rw [hsent]
    exact ⟨hsend.of_clock (g.pipeline.send g.patience r).2.now _, hpool⟩

theorem Holds.serveAll (h : g.Holds outlets workers queued)
    (hcalm : ∀ o ∈ outlets, o.consumer.IsCalm) (calls : List GatewayCall) :
    (g.serveAll calls).Holds outlets workers (queued ++ g.accepted calls) := by
  induction calls generalizing g queued with
  | nil => simpa [accepted, Gateway.serveAll] using h
  | cons call rest ih =>
    rw [accepted, ← List.append_assoc]
    exact ih (h.serve hcalm call)

end Gateway

namespace GatewayRun

/-- A gateway starts with nothing accepted and no checker built. -/
theorem holds_ofSettings {r : Registries} {s : Settings}
    (hcalm : ∀ o ∈ Pipeline.outletsOf r s, o.consumer.IsCalm)
    (hfits : ∀ o ∈ Pipeline.outletsOf r s, ∀ b, o.batcher = some b → b.limit ≤ Batcher.largest) :
    WorkRun.Holds (Pipeline.outletsOf r s) s.reports.workers
      { pipeline := Pipeline.ofSettings r s } := by
  have hfresh : ∀ o ∈ Pipeline.outletsOf r s, ∀ b, o.batcher = some b → b.IsFresh :=
    fun o ho b hb => Pipeline.isFresh_of_mem_outletsOf ho hb (hfits o ho b hb)
  rw [Pipeline.ofSettings, Pipeline.settle_start hfresh]
  exact WorkRun.holds_start hcalm hfresh s.reports.queueCapacity

theorem keeps_after {r : Registries} {s : Settings}
    (hcalm : ∀ o ∈ Pipeline.outletsOf r s, o.consumer.IsCalm)
    (hfits : ∀ o ∈ Pipeline.outletsOf r s, ∀ b, o.batcher = some b → b.limit ≤ Batcher.largest)
    (start : Services) (moves : List GatewayMove) :
    (after r s start moves).Keeps (Pipeline.outletsOf r s) s.reports.workers := by
  induction moves using List.reverseRecOn with
  | nil => exact ⟨holds_ofSettings hcalm hfits, .of_start start⟩
  | append_singleton moves m ih =>
    rw [after_snoc]
    exact ih.step hcalm m

/-- A gateway that was just started has accepted nothing, and its first reload built no checker. -/
theorem holds_of_start {r : Registries} {s : Settings} {f : Folder} {d : Deployment}
    (hcalm : ∀ o ∈ Pipeline.outletsOf r s, o.consumer.IsCalm)
    (hfits : ∀ o ∈ Pipeline.outletsOf r s, ∀ b, o.batcher = some b → b.limit ≤ Batcher.largest)
    (hstart : Deployment.start s r f = .ok d) :
    d.gateway.Holds (Pipeline.outletsOf r s) s.reports.workers [] := by
  obtain ⟨source, isWatched, rfl⟩ := Deployment.exists_of_start hstart
  have hempty : (Gateway.ofSettings r s).Holds (Pipeline.outletsOf r s) s.reports.workers [] :=
    ⟨⟨_, rfl, rfl, holds_ofSettings hcalm hfits⟩, .of_start _⟩
  exact hempty.serve hcalm (.reload (f.fetch source))

/-- In every run of a gateway whose consumers are calm, when stopping has come to its end, every
consumer that was built has got every accepted report once and no other one, nothing is left in any
batcher, and every checker that was built was given up once. Every run can be continued so that
stopping comes to its end. The same holds of a gateway that is started, serves calls one after
another, and is stopped. -/
theorem drained_of_stopped (r : Registries) (s : Settings) (start : Services)
    (hworkers : 1 ≤ s.reports.workers)
    (hcalm : ∀ o ∈ Pipeline.outletsOf r s, o.consumer.IsCalm)
    (hfits : ∀ o ∈ Pipeline.outletsOf r s, ∀ b, o.batcher = some b →
      b.limit ≤ Batcher.largest) :
    (∀ moves,
      ((after r s start moves).phase = .stopped →
        (after r s start moves).work.pipeline.Drained (Pipeline.outletsOf r s)
            (after r s start moves).work.queued ∧
          (after r s start moves).checks.pool.Emptied) ∧
      ∃ more, (after r s start (moves ++ more)).phase = .stopped) ∧
    ∀ (f : Folder) (d : Deployment) (calls : List GatewayCall), Deployment.start s r f = .ok d →
      let stopped := ({ d with gateway := d.gateway.serveAll calls } : Deployment).stop.gateway
      stopped.pipeline.Drained (Pipeline.outletsOf r s) (d.gateway.accepted calls) ∧
        stopped.pool.Emptied := by
  refine ⟨fun moves => ⟨fun hphase => ?_, ?_⟩, fun f d calls hstart => ?_⟩
  · have h := keeps_after hcalm hfits start moves
    have hstage : (after r s start moves).Stage .stopped := hphase ▸ h.stage
    obtain ⟨hemptied, hleft, hended⟩ := hstage
    exact ⟨h.work.drained hworkers hleft hended, hemptied⟩
  · obtain ⟨more, hmore⟩ := (keeps_after hcalm hfits start moves).exists_stopped hcalm
    refine ⟨more, ?_⟩
    rw [after, List.foldl_append]
    exact hmore
  · have h := (holds_of_start hcalm hfits hstart).serveAll hcalm calls
    rw [List.nil_append] at h
    exact ⟨h.pipeline.closeBatchers hcalm hworkers, h.pool.unloadAll⟩

/-- A builder of one consumer. -/
def twinBuilder (token : Nat) (c : Consumer) : ConsumerBuilder where
  token := token
  build _ := .ok c

/-- A consumer that takes every report, and one that refuses every report. -/
def twinRegistries : Registries where
  checkers := CheckerPool.plainRegistries.checkers
  consumers := {
    space := "report consumer"
    builders := .ofList [
      ("plain", twinBuilder 0 { name := "plain" }),
      ("busy", twinBuilder 1 { name := "busy", deliver := fun _ _ => .refused "busy" })] }

/-- One consumer is enabled twice, and takes its reports in batches. -/
def twinSettings : Settings where
  reports := {
    workers := 2
    queueCapacity := 1
    consumers := ["busy", "plain", "busy"]
    batching := .ofList [("busy", { maxCount := 3, timeout := 10 })] }

/-- A check builds two checkers while two reports come in, and the gateway is stopped before
anything was handed to a consumer. -/
def twinMoves : List GatewayMove := List.flatten [
  [.check (.call { service := "books" }), .report { service := "a" }, .work 1,
    .report { service := "b" }],
  .replicate 8 (.check (.advance 0)),
  [.stop], .replicate 6 (.work 0), .replicate 5 (.work 1), [.stop],
  [.stop], .replicate 3 (.gather 0), [.stop],
  [.stop, .stop],
  [.stop], .replicate 3 (.gather 2), [.stop],
  [.stop]]

/-- The same two reports, with a check and some time between them. -/
def twinCalls : List GatewayCall :=
  [.report { service := "a" }, .check { service := "books" }, .wait 5, .report { service := "b" }]

/-- Both reports come to each of the three consumers, and both checkers are given up. -/
theorem drained_of_stopped_twin :
    let g := after twinRegistries twinSettings
      (CheckerPool.plainServices.convert twinRegistries).value twinMoves
    (∀ o ∈ Pipeline.outletsOf twinRegistries twinSettings, o.consumer.IsCalm) ∧
    g.phase = .stopped ∧
    (∀ place < 3, (g.work.pipeline.callsOf place).flatten.Perm
      [{ service := "a" }, { service := "b" }]) ∧
    g.checks.pool.unloadedCheckers = [("closed", 0), ("mute", 1)] ∧
    ∃ d, Deployment.start twinSettings twinRegistries .empty = .ok d ∧
      let stopped := ({ d with gateway := d.gateway.serveAll twinCalls } : Deployment).stop.gateway
      ∀ place < 3, (stopped.pipeline.callsOf place).flatten.Perm
        [{ service := "a" }, { service := "b" }] := by
  intro g
  have hrefuses : Consumer.IsCalm { name := "busy", deliver := fun _ _ => .refused "busy" } :=
    fun _ _ => nofun
  have htakes : Consumer.IsCalm { name := "plain" } := fun _ _ => nofun
  have houtlets : Pipeline.outletsOf twinRegistries twinSettings =
      [{ consumer := { name := "busy", deliver := fun _ _ => .refused "busy" },
         batcher := some { maxCount := 3, timeout := 10 } },
        { consumer := { name := "plain" } },
        { consumer := { name := "busy", deliver := fun _ _ => .refused "busy" },
          batcher := some { maxCount := 3, timeout := 10 } }] := rfl
  have hcalm : ∀ o ∈ Pipeline.outletsOf twinRegistries twinSettings, o.consumer.IsCalm := by
    intro o ho
    simp only [houtlets, List.mem_cons, List.not_mem_nil, or_false] at ho
    rcases ho with rfl | rfl | rfl
    · exact hrefuses
    · exact htakes
    · exact hrefuses
  have hfits : ∀ o ∈ Pipeline.outletsOf twinRegistries twinSettings, ∀ b, o.batcher = some b →
      b.limit ≤ Batcher.largest := by
    intro o ho b hb
    simp only [houtlets, List.mem_cons, List.not_mem_nil, or_false] at ho
    rcases ho with rfl | rfl | rfl <;> cases hb <;> decide
  obtain ⟨hmoves, hcalls⟩ := drained_of_stopped twinRegistries twinSettings
    (CheckerPool.plainServices.convert twinRegistries).value (by decide) hcalm hfits
  have hphase : g.phase = .stopped := by decide +kernel
  obtain ⟨⟨-, hdelivered, -⟩, hemptied⟩ := (hmoves twinMoves).1 hphase
  have hlength : g.work.pipeline.outlets.length = 3 := by decide +kernel
  refine ⟨hcalm, hphase, fun place hlt => hdelivered place (hlength ▸ hlt), ?_, ?_⟩
  · rw [hemptied.unloaded]
    decide +kernel
  · have haccepted : (Deployment.start twinSettings twinRegistries .empty).toOption.map
        (·.gateway.accepted twinCalls) = some [{ service := "a" }, { service := "b" }] := rfl
    cases hstart : Deployment.start twinSettings twinRegistries .empty with
    | error e =>
      rw [hstart] at haccepted
      cases haccepted
    | ok d =>
      rw [hstart] at haccepted
      obtain ⟨⟨hconsumers, hdelivered, -⟩, -⟩ := hcalls .empty d twinCalls hstart
      have hlength := congrArg List.length hconsumers
      rw [houtlets, List.length_map, List.length_map] at hlength
      rw [show d.gateway.accepted twinCalls = _ from Option.some.inj haccepted] at hdelivered
      exact ⟨d, rfl, fun place hlt => hdelivered place (Nat.lt_of_lt_of_eq hlt hlength.symm)⟩

end GatewayRun

end ServiceControl
