import Mathlib.Data.List.Induction
import ServiceControl.Proofs.Reports.Working

/-!
# Every report reaches every consumer once

In every run, reports are taken in the order of the queue, and each worker hands each report that it
takes to all outlets in order. A worker leaves only when nothing waits and nothing will come. So
when all workers have left, nothing is owed, and each outlet has got what was put into the queue.
-/

namespace ServiceControl

namespace WorkRun

variable {r r' : WorkRun} {worker place : Nat}

/-- What is told of a run of so many workers before some outlets, apart from the calls. -/
structure Told (outlets : List Outlet) (workers : Nat) (r : WorkRun) : Prop where
  plan : r.pipeline.plan = outlets.map fun o => (o.consumer, o.batcher.isSome)
  length : r.pipeline.workers.length = workers
  known : ∀ x ∈ r.log, x.1 < workers
  flows : r.Flows
  shares : ∀ place < outlets.length, r.Shares place
  allFit : r.AllFit outlets.length
  noneEarly : NoneEarly r.pipeline

/-- What is known of a run of so many workers before some outlets. -/
structure Sound (outlets : List Outlet) (workers : Nat) (r : WorkRun) : Prop where
  plan : r.pipeline.plan = outlets.map fun o => (o.consumer, o.batcher.isSome)
  length : r.pipeline.workers.length = workers
  known : ∀ x ∈ r.log, x.1 < workers
  flows : r.Flows
  shares : ∀ place < outlets.length, r.Shares place
  allFit : r.AllFit outlets.length
  allCalled : r.AllCalled
  noneEarly : NoneEarly r.pipeline

variable {outlets : List Outlet} {workers : Nat}

theorem Sound.told (h : r.Sound outlets workers) : r.Told outlets workers :=
  ⟨h.plan, h.length, h.known, h.flows, h.shares, h.allFit, h.noneEarly⟩

theorem Told.sound (h : r.Told outlets workers) (hcalled : r.AllCalled) :
    r.Sound outlets workers :=
  ⟨h.plan, h.length, h.known, h.flows, h.shares, h.allFit, hcalled, h.noneEarly⟩

/-- The outlets are as many as they were. -/
theorem Told.length_outlets (h : r.Told outlets workers) :
    r.pipeline.outlets.length = outlets.length := by
  rw [← Pipeline.length_plan, h.plan, List.length_map]

theorem Sound.length_outlets (h : r.Sound outlets workers) :
    r.pipeline.outlets.length = outlets.length := h.told.length_outlets

/-- The steps of workers keep what is told. -/
theorem Goes.told (hgo : r.Goes worker r') (h : r.Told outlets workers) :
    r'.Told outlets workers := by
  obtain ⟨hlength, hknown⟩ := hgo.known h.length h.known
  have houtlets := h.length_outlets
  refine ⟨hgo.plan_eq.trans h.plan, hlength, hknown, hgo.flows h.flows, ?_, ?_,
    hgo.noneEarly h.noneEarly⟩
  · intro place hlt
    exact hgo.shares (houtlets ▸ hlt) (h.shares place hlt)
  · rw [← houtlets]
    exact hgo.allFit (houtlets ▸ h.allFit)

/-- The steps of workers keep what is known. -/
theorem Goes.sound (hgo : r.Goes worker r') (h : r.Sound outlets workers) :
    r'.Sound outlets workers :=
  (hgo.told h.told).sound (hgo.allCalled h.allCalled)

/-- What is not a step of a worker changes nothing about workers. -/
theorem Told.quietly (h : r.Told outlets workers) (hlog : r'.log = r.log)
    (hworkers : r'.pipeline.workers = r.pipeline.workers)
    (hplan : r'.pipeline.plan = r.pipeline.plan) (hflows : r'.Flows)
    (hearly : NoneEarly r'.pipeline) : r'.Told outlets workers := by
  refine ⟨hplan.trans h.plan, hworkers ▸ h.length, hlog ▸ h.known, hflows, ?_, ?_, hearly⟩
  · intro place hlt
    obtain ⟨hall, halone⟩ := h.shares place hlt
    refine ⟨?_, ?_⟩
    · rw [handedAt, taken, owedAt, hlog, hworkers]
      exact hall
    · rw [handedAt, taken, owedAt, hlog, hworkers]
      exact halone
  · intro v w hw
    rw [eventsOf, hlog]
    exact h.allFit v w (hworkers ▸ hw)

theorem Sound.quietly (h : r.Sound outlets workers) (hlog : r'.log = r.log)
    (hworkers : r'.pipeline.workers = r.pipeline.workers)
    (hplan : r'.pipeline.plan = r.pipeline.plan) (hflows : r'.Flows)
    (hcalled : r'.AllCalled) (hearly : NoneEarly r'.pipeline) : r'.Sound outlets workers :=
  (h.told.quietly hlog hworkers hplan hflows hearly).sound hcalled

/-- A report that is put into the queue waits there, and nobody has left yet. -/
theorem Told.put (h : r.Told outlets workers) {report : ReportRequest} {queue : ReportQueue}
    (hput : r.pipeline.queue.put report = .ok queue) :
    Told outlets workers
      { r with pipeline := { r.pipeline with queue }, queued := r.queued ++ [report] } := by
  obtain ⟨hsenders, -, rfl⟩ := ReportQueue.put_eq_ok hput
  refine h.quietly rfl rfl rfl ?_ fun worker hw => ?_
  · exact (List.append_assoc _ _ _).symm.trans (congrArg (· ++ [report]) h.flows)
  · exact absurd ((h.noneEarly worker hw).2.symm.trans hsenders) (by decide)

/-- A batcher calls its own consumer only. -/
theorem callsOf_of_batcherStep {p q : Pipeline} (h : Pipeline.BatcherStep p place q) {i : Nat}
    {c : Consumer} (hplan : p.plan[i]? = some (c, false)) : q.callsOf i = p.callsOf i := by
  cases h with
  | gathers => rfl
  | passes ho hb =>
    refine (Pipeline.callsOf_append rfl i).trans ?_
    rw [if_neg (ne_of_plan ho hb hplan), List.append_nil]

/-- So the other consumers are called with what is handed to them. -/
theorem allCalled_of_batcherStep {p : Pipeline} (hr : r.AllCalled)
    (h : Pipeline.BatcherStep r.pipeline place p) : AllCalled { r with pipeline := p } := by
  intro i c hplan
  have hold : r.pipeline.plan[i]? = some (c, false) := h.plan_eq ▸ hplan
  exact (callsOf_of_batcherStep h hold).trans (hr i c hold)

/-- Steps of batchers do not touch the queue and the workers. -/
theorem Sound.gather (h : r.Sound outlets workers) {p : Pipeline}
    (hgo : Pipeline.BatcherStep r.pipeline place p) :
    Sound outlets workers { r with pipeline := p } := by
  have hcalled := allCalled_of_batcherStep h.allCalled hgo
  have hplan := hgo.plan_eq
  cases hgo with
  | gathers => exact h.quietly rfl rfl hplan h.flows hcalled h.noneEarly
  | passes => exact h.quietly rfl rfl hplan h.flows hcalled h.noneEarly

/-- Every move keeps what is known of a run. -/
theorem Sound.step (h : r.Sound outlets workers) (hcalm : ∀ o ∈ outlets, o.consumer.IsCalm)
    (m : WorkMove) : (r.step m).Sound outlets workers := by
  cases m with
  | put report =>
    cases hput : r.pipeline.queue.put report with
    | error _ =>
      simp only [WorkRun.step, hput]
      exact h
    | ok queue =>
      simp only [WorkRun.step, hput]
      exact (h.told.put hput).sound h.allCalled
  | dropSenders =>
    refine h.quietly rfl rfl rfl h.flows h.allCalled fun worker hw => ?_
    exact ⟨(h.noneEarly worker hw).1, rfl⟩
  | work worker =>
    have hplan : AllCalm r.pipeline.plan := by
      rw [h.plan]
      intro x hx
      obtain ⟨o, ho, rfl⟩ := List.mem_map.mp hx
      exact hcalm o ho
    cases hstep : r.pipeline.stepWorker worker with
    | none =>
      simp only [WorkRun.step, hstep]
      exact h
    | some p =>
      simp only [WorkRun.step, hstep]
      exact (Goes.of_stepWorker hplan hstep).sound h
  | gather place =>
    cases hstep : r.pipeline.stepBatcher place with
    | none =>
      simp only [WorkRun.step, hstep]
      exact h
    | some p =>
      simp only [WorkRun.step, hstep]
      exact h.gather (Pipeline.BatcherStep.of_stepBatcher hstep)
  | wait ms => exact h.quietly rfl rfl rfl h.flows h.allCalled h.noneEarly

/-- At its start a run has taken nothing, and nobody has left. -/
theorem told_start (outlets : List Outlet) (capacity workers : Nat) :
    (after outlets capacity workers []).Told outlets workers := by
  have hwaiting (w : Worker) (v : Nat)
      (hw : (List.replicate workers Worker.waiting)[v]? = some w) : w = .waiting :=
    List.eq_of_mem_replicate (List.mem_of_getElem? hw)
  refine ⟨rfl, List.length_replicate, nofun, rfl, ?_, ?_, ?_⟩
  · intro place _
    have hnone : (List.replicate workers Worker.waiting).filterMap (Worker.owed? place) = [] := by
      rw [List.filterMap_eq_nil_iff]
      intro w hw
      rw [List.eq_of_mem_replicate hw]
      rfl
    exact ⟨.of_eq hnone, fun _ => hnone⟩
  · intro v w hw
    obtain rfl := hwaiting w v hw
    exact ⟨[], rfl⟩
  · intro v hv
    cases hwaiting _ v hv

/-- Runs from an empty queue are sound. -/
theorem sound_after (hcalm : ∀ o ∈ outlets, o.consumer.IsCalm) (capacity : Nat)
    (moves : List WorkMove) : (after outlets capacity workers moves).Sound outlets workers := by
  induction moves using List.reverseRecOn with
  | nil => exact (told_start outlets capacity workers).sound fun _ _ _ => rfl
  | append_singleton moves m ih =>
    rw [after_snoc]
    exact ih.step hcalm m

/-- Workers that have left owe nothing, so what was taken has been handed to each outlet. -/
theorem Shares.of_finished (h : r.Shares place)
    (hall : ∀ w ∈ r.pipeline.workers, w = Worker.finished) :
    (r.handedAt place).Perm r.taken ∧
      (r.pipeline.workers.length = 1 → r.handedAt place = r.taken) := by
  have hnone : r.owedAt place = [] := by
    rw [owedAt, List.filterMap_eq_nil_iff]
    intro w hw
    rw [hall w hw]
    rfl
  obtain ⟨hperm, halone⟩ := h
  rw [hnone, List.append_nil] at hperm halone
  exact ⟨hperm, halone⟩

/-- When all workers have left, the queue was emptied. -/
theorem Sound.taken_eq (h : r.Sound outlets workers) (hworkers : 1 ≤ workers)
    (hall : ∀ w ∈ r.pipeline.workers, w = Worker.finished) : r.taken = r.queued := by
  have hlt : 0 < r.pipeline.workers.length := by
    rw [h.length]
    exact hworkers
  have hfirst : r.pipeline.workers[0]? = some .finished := by
    rw [List.getElem?_eq_getElem hlt, hall _ (List.getElem_mem hlt)]
  have hflows := h.flows
  rw [Flows, (h.noneEarly 0 hfirst).1, List.append_nil] at hflows
  exact hflows

/-- All workers have left if so many have. -/
theorem eq_finished_of_finishedWorkers {p : Pipeline} (hlength : p.workers.length = workers)
    (hcount : p.finishedWorkers = workers) : ∀ w ∈ p.workers, w = Worker.finished := by
  intro w hw
  have hleft := List.countP_eq_length.mp (hcount.trans hlength.symm) w hw
  cases w with
  | finished => rfl
  | waiting => cases hleft
  | delivering => cases hleft

theorem Sound.eq_finished (h : r.Sound outlets workers)
    (hcount : r.pipeline.finishedWorkers = workers) :
    ∀ w ∈ r.pipeline.workers, w = Worker.finished :=
  eq_finished_of_finishedWorkers h.length hcount

/-- A consumer without a batcher is called with what is handed to it, one report at a time. -/
theorem Sound.callsOf_eq (h : r.Sound outlets workers) {o : Outlet} (ho : outlets[place]? = some o)
    (hb : o.batcher = none) :
    r.pipeline.callsOf place = (r.handedAt place).map fun report => [report] := by
  refine h.allCalled place o.consumer ?_
  rw [h.plan, List.getElem?_map, ho, Option.map_some, hb]
  rfl

/-- In every order of steps of any number of workers, reports are taken in the order of the queue,
each by one worker, and every worker hands each report that it takes to all outlets in order before
it takes the next one. A consumer without a batcher is called with one report at a time. No worker
leaves before the senders are gone and the queue is empty, and when all have left, each outlet has
got exactly the reports that were put into the queue, and from one worker in the same order. -/
theorem handedAt_after (outlets : List Outlet) (hcalm : ∀ o ∈ outlets, o.consumer.IsCalm)
    (capacity workers : Nat) (moves : List WorkMove) :
    let r := after outlets capacity workers moves
    (r.taken ++ r.pipeline.queue.waiting = r.queued ∧ ∀ x ∈ r.log, x.1 < workers) ∧
    (∀ (worker : Nat) (w : Worker), r.pipeline.workers[worker]? = some w →
      w.Fits outlets.length (r.eventsOf worker)) ∧
    (∀ (place : Nat) (o : Outlet), outlets[place]? = some o → o.batcher = none →
      r.pipeline.callsOf place = (r.handedAt place).map fun report => [report]) ∧
    (∀ worker : Nat, r.pipeline.workers[worker]? = some .finished →
      r.pipeline.queue.waiting = [] ∧ r.pipeline.queue.hasSenders = false) ∧
    (1 ≤ workers → r.pipeline.finishedWorkers = workers →
      ∀ (place : Nat) (o : Outlet), outlets[place]? = some o →
        (r.handedAt place).Perm r.queued ∧
        (workers = 1 → r.handedAt place = r.queued) ∧
        (o.batcher = none → (r.pipeline.callsOf place).flatten.Perm r.queued ∧
          (workers = 1 → (r.pipeline.callsOf place).flatten = r.queued))) := by
  intro r
  have h : r.Sound outlets workers := sound_after hcalm capacity moves
  refine ⟨⟨h.flows, h.known⟩, h.allFit, fun _ _ ho hb => h.callsOf_eq ho hb, h.noneEarly, ?_⟩
  intro hworkers hcount place o ho
  have hlt : place < outlets.length := (List.getElem?_eq_some_iff.mp ho).1
  have hall := h.eq_finished hcount
  obtain ⟨hperm, halone⟩ := (h.shares place hlt).of_finished hall
  rw [h.taken_eq hworkers hall] at hperm halone
  rw [h.length] at halone
  refine ⟨hperm, halone, fun hb => ?_⟩
  have hflatten : (r.pipeline.callsOf place).flatten = r.handedAt place := by
    rw [h.callsOf_eq ho hb, ← List.flatMap_def, List.flatMap_singleton']
  rw [hflatten]
  exact ⟨hperm, halone⟩

/-- A consumer that refuses every report, and one that takes reports in batches. -/
def busyOutlets : List Outlet :=
  [{ consumer := { name := "busy", deliver := fun _ _ => .refused "busy" } },
    { consumer := { name := "calm" }, batcher := some { maxCount := 2, timeout := 10 } }]

/-- Two workers take a report each and hand them on in turns, the second one first. -/
def busyMoves : List WorkMove :=
  [.put { service := "a" }, .put { service := "b" }, .work 0, .work 1, .work 1, .work 0,
    .dropSenders, .work 1, .gather 1, .work 1, .work 1, .work 0, .work 0, .work 0]

/-- The consumer that refuses both reports has got both, in the order in which they were handed to
it. -/
theorem handedAt_after_busy :
    (∀ o ∈ busyOutlets, o.consumer.IsCalm) ∧
    ((after busyOutlets 4 2 busyMoves).handedAt 0).Perm [{ service := "a" }, { service := "b" }] ∧
    ((after busyOutlets 4 2 busyMoves).handedAt 0).map (·.service) = ["b", "a"] := by
  have hcalm : ∀ o ∈ busyOutlets, o.consumer.IsCalm := by
    intro o ho
    simp only [busyOutlets, List.mem_cons, List.not_mem_nil, or_false] at ho
    rcases ho with rfl | rfl
    · exact fun _ _ => nofun
    · exact fun _ _ => nofun
  have hleft : (after busyOutlets 4 2 busyMoves).pipeline.finishedWorkers = 2 := by decide +kernel
  refine ⟨hcalm, ?_, by decide +kernel⟩
  exact ((handedAt_after busyOutlets hcalm 4 2 busyMoves).2.2.2.2 (by decide) hleft 0 _ rfl).1

end WorkRun

end ServiceControl
