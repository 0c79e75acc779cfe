import ServiceControl.Gateway.Deployment
import ServiceControl.Proofs.Checking.Unloading
import ServiceControl.Proofs.Reports.Draining

/-!
# Phases of stopping

To stop, a gateway gives up the senders of its queue, waits for the workers, closes one batcher
after another and waits for the end of each, and then gives up its checkers. Until then checks,
workers and batchers take their steps in any order. What is known of the gateway in each phase is
kept by all these steps.
-/

namespace ServiceControl

/-- How far stopping has come. -/
inductive StopPhase where
  | serving
  /-- The senders are gone, and the workers are awaited. -/
  | draining
  /-- The workers have left, and the batchers before a place have come to their ends. -/
  | closing (place : Nat)
  /-- The batcher at a place was closed, and its end is awaited. -/
  | awaiting (place : Nat)
  | stopped
  deriving DecidableEq, Repr

/-- A gateway whose checks and reports are under way. -/
structure GatewayRun where
  checks : CheckRun
  work : WorkRun
  phase : StopPhase := .serving

/-- What can happen next. -/
inductive GatewayMove where
  /-- A check takes a step, or the configuration changes. -/
  | check (m : CheckMove)
  | report (r : ReportRequest)
  | work (worker : Nat)
  | gather (place : Nat)
  /-- The time of a batch is over although more reports wait. -/
  | expire (place : Nat)
  | wait (ms : Nat)
  /-- Stopping begins or goes on. -/
  | stop

namespace GatewayRun

/-- The next part of stopping, or nothing if it has to wait. -/
def proceed (g : GatewayRun) : GatewayRun :=
  match g.phase with
  | .serving => { g with work := g.work.step .dropSenders, phase := .draining }
  | .draining =>
    if g.work.pipeline.finishedWorkers = g.work.pipeline.workers.length then
      { g with phase := .closing 0 }
    else g
  | .closing place =>
    if place < g.work.pipeline.outlets.length then
      { g with
        work := { g.work with pipeline := g.work.pipeline.closeAt place }
        phase := .awaiting place }
    else { g with checks := { g.checks with pool := g.checks.pool.unloadAll }, phase := .stopped }
  | .awaiting place =>
    if (g.work.pipeline.batcherAt place).any (·.isRunning) then g
    else { g with phase := .closing (place + 1) }
  | .stopped => g

/-- The run after one more move. Once stopping has begun, no check is under way. -/
def step (g : GatewayRun) : GatewayMove → GatewayRun
  | .check m => if g.phase = .serving then { g with checks := g.checks.step m } else g
  | .report r => { g with work := g.work.step (.put r) }
  | .work worker => { g with work := g.work.step (.work worker) }
  | .gather place => { g with work := g.work.step (.gather place) }
  | .expire place =>
    { g with work := { g.work with
        pipeline := (g.work.pipeline.expireBatcher place).getD g.work.pipeline } }
  | .wait ms => { g with work := g.work.step (.wait ms) }
  | .stop => g.proceed

/-- The run of moves of a gateway that was started with a configuration in force. -/
def after (r : Registries) (s : Settings) (start : Services) (moves : List GatewayMove) :
    GatewayRun :=
  moves.foldl step {
    checks := { pool := { services := start } }
    work := { pipeline := Pipeline.ofSettings r s } }

theorem after_snoc (r : Registries) (s : Settings) (start : Services) (moves : List GatewayMove)
    (m : GatewayMove) : after r s start (moves ++ [m]) = (after r s start moves).step m := by
  rw [after, List.foldl_concat, after]

/-- What is known of a gateway, by how far stopping has come. -/
def Stage (g : GatewayRun) : StopPhase → Prop
  | .serving => g.checks.pool.HasAll
  | .draining => g.checks.pool.HasAll ∧ g.work.pipeline.queue.hasSenders = false
  | .closing place => g.checks.pool.HasAll ∧ g.work.pipeline.AllLeft ∧
    ∀ i < place, g.work.pipeline.EndedAt i
  | .awaiting place => g.checks.pool.HasAll ∧ g.work.pipeline.AllLeft ∧
    (∀ i < place, g.work.pipeline.EndedAt i) ∧ g.work.pipeline.ClosedAt place ∧
    place < g.work.pipeline.outlets.length
  | .stopped => g.checks.pool.Emptied ∧ g.work.pipeline.AllLeft ∧
    ∀ i, g.work.pipeline.EndedAt i

/-- What is known of a gateway of so many workers before some outlets. -/
structure Keeps (outlets : List Outlet) (workers : Nat) (g : GatewayRun) : Prop where
  work : g.work.Holds outlets workers
  stage : g.Stage g.phase

variable {outlets : List Outlet} {workers : Nat} {g : GatewayRun}

/-- What brings nothing of the pipeline back leaves the gateway at its stage. -/
theorem Keeps.of_later (h : g.Keeps outlets workers) {work : WorkRun}
    (hwork : work.Holds outlets workers) (hlater : g.work.pipeline.Later work.pipeline) :
    Keeps outlets workers { g with work } := by
  obtain ⟨checks, work₀, phase⟩ := g
  refine ⟨hwork, ?_⟩
  have hstage := h.stage
  cases phase with
  | serving => exact hstage
  | draining => exact ⟨hstage.1, hlater.senders hstage.2⟩
  | closing place =>
    obtain ⟨hpool, hleft, hended⟩ := hstage
    exact ⟨hpool, hlater.left hleft, fun i hi => hlater.endedAt (hended i hi)⟩
  | awaiting place =>
    obtain ⟨hpool, hleft, hended, hclosed, hlt⟩ := hstage
    exact ⟨hpool, hlater.left hleft, fun i hi => hlater.endedAt (hended i hi),
      hlater.closedAt hclosed, hlater.length ▸ hlt⟩
  | stopped =>
    obtain ⟨hpool, hleft, hended⟩ := hstage
    exact ⟨hpool, hlater.left hleft, fun i => hlater.endedAt (hended i)⟩

/-- A batcher that is closed after all workers have left loses nothing. -/
theorem Keeps.closeAt (h : g.Keeps outlets workers) (hleft : g.work.pipeline.AllLeft)
    (place : Nat) : WorkRun.Holds outlets workers
      { g.work with pipeline := g.work.pipeline.closeAt place } := by
  refine h.work.close hleft (fun i => ?_) (Pipeline.plan_closeAt _ _) rfl rfl rfl
  rw [Pipeline.batcherAt_closeAt]
  split
  · exact Or.inr rfl
  · exact Or.inl rfl

/-- Each part of stopping leads to the next stage. -/
theorem Keeps.proceed (h : g.Keeps outlets workers) (hcalm : ∀ o ∈ outlets, o.consumer.IsCalm) :
    g.proceed.Keeps outlets workers := by
  obtain ⟨checks, work, phase⟩ := g
  have hstage := h.stage
  cases phase with
  | serving => exact ⟨h.work.step hcalm .dropSenders, hstage, rfl⟩
  | draining =>
    simp only [GatewayRun.proceed]
    split
    · next hcount =>
      refine ⟨h.work, hstage.1, ?_, fun i hi => absurd hi (Nat.not_lt_zero i)⟩
      exact h.work.sound.eq_finished (hcount.trans h.work.sound.length)
    · exact h
  | closing place =>
    obtain ⟨hpool, hleft, hended⟩ := hstage
    simp only [GatewayRun.proceed]
    split
    · next hlt =>
      refine ⟨h.closeAt hleft place, hpool, hleft, fun i hi b hb => ?_, fun b hb => ?_, ?_⟩
      · rw [Pipeline.batcherAt_closeAt, if_neg (Nat.ne_of_gt hi)] at hb
        exact hended i hi b hb
      · rw [Pipeline.batcherAt_closeAt, if_pos rfl] at hb
        obtain ⟨b₀, -, rfl⟩ := Option.map_eq_some_iff.mp hb
        rfl
      · rw [Pipeline.closeAt, List.length_modify]
        exact hlt
    · next hge =>
      refine ⟨h.work, hpool.unloadAll, hleft, fun i b hb => ?_⟩
      -- there is no batcher behind the last outlet
      rcases Nat.lt_or_ge i place with hi | hi
      · exact hended i hi b hb
      · have hnone : work.pipeline.outlets[i]? = none :=
          List.getElem?_eq_none (Nat.le_trans (Nat.le_of_not_lt hge) hi)
        rw [Pipeline.batcherAt, hnone] at hb
        cases hb
  | awaiting place =>
    obtain ⟨hpool, hleft, hended, -, -⟩ := hstage
    simp only [GatewayRun.proceed]
    split
    · exact h
    · next hend =>
      refine ⟨h.work, hpool, hleft, fun i hi b hb => ?_⟩
      rcases Nat.lt_or_eq_of_le (Nat.le_of_lt_succ hi) with hi | rfl
      · exact hended i hi b hb
      · simpa [hb] using hend
  | stopped => exact h

/-- Every move keeps what is known of a gateway. -/
theorem Keeps.step (h : g.Keeps outlets workers) (hcalm : ∀ o ∈ outlets, o.consumer.IsCalm)
    (m : GatewayMove) : (g.step m).Keeps outlets workers := by
  have hmove (m : WorkMove) : Keeps outlets workers { g with work := g.work.step m } :=
    h.of_later (h.work.step hcalm m) (h.work.later hcalm m)
  cases m with
  | check m =>
    simp only [GatewayRun.step]
    split
    · next hserving =>
      obtain ⟨checks, work, phase⟩ := g
      obtain rfl : phase = .serving := hserving
      exact ⟨h.work, CheckRun.hasAll_step h.stage m⟩
    · exact h
  | report r => exact hmove (.put r)
  | work worker => exact hmove (.work worker)
  | gather place => exact hmove (.gather place)
  | wait ms => exact hmove (.wait ms)
  | stop => exact h.proceed hcalm
  | expire place =>
    simp only [GatewayRun.step]
    cases hstep : g.work.pipeline.expireBatcher place with
    | none => exact h
    | some p =>
      have hpass := h.work.passesAt_of_expireBatcher hcalm hstep
      exact h.of_later (h.work.passes hpass) hpass.later

end GatewayRun

end ServiceControl
