import ServiceControl.Proofs.Http.Attending

/-!
# Requests that are served one at a time

A request that is served before anything else happens is served by a run: the workers and batchers
do what they can when it has to wait, and if that makes no room, its time passes.
-/

namespace ServiceControl.Http

variable {g : Gateway} {r : Request} {call : ReportRequest} {due : Nat} {i : Nat}

namespace RequestRun

variable {s : RequestRun}

/-- Attending to a request that has no answer yet. -/
theorem attendTo_of_open (htask : s.tasks[i]? = some ⟨r, due, none⟩) :
    (s.attendTo i).gateway = (attend s.gateway due r).2 ∧
      (s.attendTo i).tasks[i]? = some ⟨r, due, (attend s.gateway due r).1⟩ := by
  have hlt := (List.getElem?_eq_some_iff.mp htask).1
  unfold attendTo
  rw [htask]
  exact ⟨rfl, List.getElem?_set_self hlt⟩

theorem answer?_of_task {out : Option Response} (htask : s.tasks[i]? = some ⟨r, due, out⟩) :
    s.answer? i = out := by
  rw [answer?, htask, Option.bind_some]

/-- A request with a report is dispatched as that. -/
theorem dispatch_of_reportOf? (h : reportOf? g r = some call) :
    dispatch g r = (answerOf (g.report call).1, (g.report call).2) := by
  have hdemand := demand_of_reportOf? h
  unfold reportOf? at h
  split at h
  · next hpath _ =>
    split at h
    · next hsize =>
      unfold dispatch
      rw [hpath]
      simp only [answerCall_eq g hsize, hdemand]
    · cases h
  · cases h

/-- What workers and batchers can do is a run of moves, and nobody is answered by it. -/
theorem exists_steps_settle (s : RequestRun) : ∃ more : List RequestMove,
    (more.foldl RequestRun.step s).gateway = s.gateway.settle ∧
      (more.foldl RequestRun.step s).tasks = s.tasks := by
  refine Pipeline.settle_induction (P := fun p => ∃ more : List RequestMove,
    (more.foldl RequestRun.step s).gateway = { s.gateway with pipeline := p } ∧
      (more.foldl RequestRun.step s).tasks = s.tasks) ?_ ?_ ⟨[], rfl, rfl⟩
  · rintro p q worker ⟨more, hgateway, htasks⟩ hstep
    refine ⟨more ++ [.work worker], ?_⟩
    rw [List.foldl_append, List.foldl_cons, List.foldl_nil]
    simp only [RequestRun.step, hgateway, hstep, piped, htasks, and_self]
  · rintro p q place ⟨more, hgateway, htasks⟩ hstep
    refine ⟨more ++ [.gather place], ?_⟩
    rw [List.foldl_append, List.foldl_cons, List.foldl_nil]
    simp only [RequestRun.step, hgateway, hstep, piped, Option.getD_some, htasks, and_self]

/-- That takes no time. -/
theorem now_settle (p : Pipeline) : p.settle.now = p.now := by
  refine Pipeline.settle_induction (P := fun q => q.now = p.now) ?_ ?_ rfl
  · intro q q' worker hq hstep
    exact (Pipeline.WorkerStep.of_stepWorker hstep).now_eq.trans hq
  · intro q q' place hq hstep
    exact (Pipeline.BatcherStep.of_stepBatcher hstep).now_eq.trans hq

/-- And it changes no consumer. -/
theorem plan_settle (p : Pipeline) : p.settle.plan = p.plan := by
  refine Pipeline.settle_induction (P := fun q => q.plan = p.plan) ?_ ?_ rfl
  · intro q q' worker hq hstep
    exact (Pipeline.WorkerStep.of_stepWorker hstep).plan_eq.trans hq
  · intro q q' place hq hstep
    exact (Pipeline.BatcherStep.of_stepBatcher hstep).plan_eq.trans hq

/-- A report that finds the queue full waits until the workers have done what they can, and is sent
if there is room then. -/
theorem report_of_settled (h : g.pipeline.queue.put call = .error .full)
    (hreply : g.settle.pipeline.queue.replyTo call ≠ .full) :
    g.report call = g.settle.report call := by
  have hreply' : g.pipeline.settle.queue.replyTo call ≠ .full := hreply
  simp only [Gateway.report, Pipeline.send, h, Gateway.settle]
  cases hput : g.pipeline.settle.queue.put call with
  | ok queue => rfl
  | error e =>
    cases e with
    | closed => rfl
    | full => simp [ReportQueue.replyTo, hput] at hreply'

/-- If there is none, it waits as long as it has patience, and is lost. -/
theorem report_of_full (h : g.pipeline.queue.put call = .error .full)
    (hreply : g.settle.pipeline.queue.replyTo call = .full) : g.report call =
      (.lost, { g.settle with pipeline := g.settle.pipeline.sleep g.patience }) := by
  have hreply' : g.pipeline.settle.queue.replyTo call = .full := hreply
  simp only [Gateway.report, Pipeline.send, h, Gateway.settle]
  cases hput : g.pipeline.settle.queue.put call with
  | ok queue => simp [ReportQueue.replyTo, hput] at hreply'
  | error e =>
    cases e with
    | closed => simp [ReportQueue.replyTo, hput] at hreply'
    | full => rfl

/-- A report that waits for room in the queue and is served alone is answered by a run. -/
theorem exists_steps_dispatch (htask : s.tasks[i]? = some ⟨r, due, none⟩)
    (hdue : due = s.gateway.pipeline.now + s.gateway.patience) (hpatience : 0 < s.gateway.patience)
    (hasks : reportOf? s.gateway r = some call)
    (hfull : s.gateway.pipeline.queue.put call = .error .full) :
    ∃ more : List RequestMove, (more.foldl RequestRun.step s).gateway = (dispatch s.gateway r).2 ∧
      (more.foldl RequestRun.step s).answer? i = some (dispatch s.gateway r).1 := by
  obtain ⟨more, hgateway, htasks⟩ := exists_steps_settle s
  generalize hs' : more.foldl RequestRun.step s = s' at hgateway htasks
  have htask' : s'.tasks[i]? = some ⟨r, due, none⟩ := by rw [htasks, htask]
  have hasks' : reportOf? s'.gateway r = some call := by
    refine (reportOf?_of_plan ?_ r).trans hasks
    rw [hgateway]
    exact plan_settle s.gateway.pipeline
  have hnow : s'.gateway.pipeline.now = s.gateway.pipeline.now := by
    rw [hgateway]
    exact now_settle s.gateway.pipeline
  rw [dispatch_of_reportOf? hasks]
  by_cases hreply : s.gateway.settle.pipeline.queue.replyTo call = .full
  · -- the time passes, and after that no answer but that is left
    obtain ⟨rest, hrested, hresting⟩ := exists_steps_settle (s'.step (.wait s.gateway.patience))
    generalize hs'' : rest.foldl RequestRun.step (s'.step (.wait s.gateway.patience)) = s''
      at hrested hresting
    have htask'' : s''.tasks[i]? = some ⟨r, due, none⟩ := by
      rw [hresting]
      exact htask'
    have hover : due ≤ s''.gateway.pipeline.now := by
      have hlater : s''.gateway.pipeline.now = s'.gateway.pipeline.now + s.gateway.patience := by
        rw [hrested]
        exact now_settle _
      omega
    obtain ⟨hattended, hanswer⟩ := attendTo_of_open htask''
    refine ⟨more ++ .wait s.gateway.patience :: (rest ++ [.attend i]), ?_⟩
    rw [List.foldl_append, hs', List.foldl_cons, List.foldl_append, hs'', List.foldl_cons,
      List.foldl_nil, RequestRun.step, hattended, answer?_of_task hanswer, attend, if_pos hover,
      report_of_full hfull hreply, hrested]
    simp only [RequestRun.step, piped, hgateway]
    exact ⟨rfl, rfl⟩
  · have hinTime : ¬due ≤ s'.gateway.pipeline.now := by omega
    have hnotFull : replyTo? s'.gateway r ≠ some .full := by
      rw [replyTo?, hasks', Option.map_some, hgateway]
      exact fun h => hreply (Option.some.inj h)
    obtain ⟨hattended, hanswer⟩ := attendTo_of_open htask'
    refine ⟨more ++ [.attend i], ?_⟩
    rw [List.foldl_append, hs', List.foldl_cons, List.foldl_nil, RequestRun.step, hattended,
      answer?_of_task hanswer, attend, if_neg hinTime, if_neg hnotFull,
      dispatch_of_reportOf? hasks', report_of_settled hfull hreply, hgateway]
    exact ⟨rfl, rfl⟩

/-- A request that is served before anything else happens is answered by a run. -/
theorem exists_steps_serve (s : RequestRun) (hpatience : 0 < s.gateway.patience) (r : Request) :
    ∃ more : List RequestMove,
      (more.foldl RequestRun.step (s.step (.request r))).gateway = (serve s.gateway r).2.2 ∧
      ∃ a, (more.foldl RequestRun.step (s.step (.request r))).answer? s.tasks.length = some a ∧
        (serve s.gateway r).1 = if r.isHead then a.withoutContent else a := by
  have htask := task_arrive s r
  have hgateway : (serve s.gateway r).2.2 = (dispatch s.gateway r).2 := by
    simp only [serve, if_neg (Nat.ne_of_gt hpatience)]
  have hresponse : (serve s.gateway r).1 = if r.isHead then
      (dispatch s.gateway r).1.withoutContent else (dispatch s.gateway r).1 := by
    simp only [serve, if_neg (Nat.ne_of_gt hpatience)]
  have hinTime : ¬s.gateway.pipeline.now + s.gateway.patience ≤ s.gateway.pipeline.now := by omega
  have hattend : attend (s.arrive r).gateway (s.gateway.pipeline.now + s.gateway.patience) r =
      if replyTo? s.gateway r = some .full then (none, s.gateway)
      else (some (dispatch s.gateway r).1, (dispatch s.gateway r).2) := by
    rw [attend]
    exact if_neg hinTime
  obtain ⟨hattended, hanswer⟩ := attendTo_of_open htask
  rw [hgateway, hresponse]
  by_cases hfull : replyTo? s.gateway r = some .full
  · obtain ⟨call, hasks, hreply⟩ := Option.map_eq_some_iff.mp hfull
    have hput : s.gateway.pipeline.queue.put call = .error .full := by
      unfold ReportQueue.replyTo at hreply
      split at hreply
      · cases hreply
      · next h => exact h
      · cases hreply
    rw [hattend, if_pos hfull] at hattended hanswer
    have hwaits : (s.step (.request r)).gateway = s.gateway := hattended
    obtain ⟨more, hserved, hgiven⟩ := exists_steps_dispatch (s := s.step (.request r)) hanswer
      (by rw [hwaits]) (by rwa [hwaits]) (by rwa [hwaits]) (by rwa [hwaits])
    rw [hwaits] at hserved hgiven
    exact ⟨more, hserved, _, hgiven, rfl⟩
  · rw [hattend, if_neg hfull] at hattended hanswer
    exact ⟨[], hattended, _, answer?_of_task hanswer, rfl⟩

end RequestRun

end ServiceControl.Http
