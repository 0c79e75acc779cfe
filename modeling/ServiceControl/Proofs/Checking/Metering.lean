import ServiceControl.Proofs.Checking.Interleaving
import ServiceControl.Proofs.Gateway.Counters
import ServiceControl.Proofs.Reports.Steps

/-!
# Checks are counted as they are answered

A check counts in two of its steps: when it calls a builder, and when it is answered. In every order
of steps of all checks the counters agree with the answers that were given and with the calls of
builders that were made. A check that is under way counts for nothing but its calls of builders.
-/

namespace ServiceControl

/-- The call of a builder that the next step of a check makes, by the kind of the checker, and
whether a checker comes out of it. -/
def CheckTask.attempt? (task : CheckTask) (p : CheckerPool) : Option (String × Bool) :=
  match task.phase with
  | .building key b _ =>
    match p.kept? key with
    | some _ => none
    | none => some (key.kind, (b.build p.attempts key.params).isOk)
  | .called | .asking _ | .answered => none

/-- What a step of a check counts, by the answer and the call of a builder that come out of it. -/
inductive CheckTask.Counts (task : CheckTask) (p : CheckerPool) (next : CheckTask)
    (q : CheckerPool) : Prop where
  | answers (response : CheckResponse) (before : task.response? = none)
    (attempt : task.attempt? p = none) (after : next.response? = some response)
    (metrics : q.metrics = CheckerPool.countCheck p.metrics response.errors)
  | calls {kind : String} {ok : Bool} (attempt : task.attempt? p = some (kind, ok))
    (same : next.response? = task.response?)
    (metrics : q.metrics = p.metrics.count (.checkerBuilds kind ok))
  | nothing (attempt : task.attempt? p = none) (same : next.response? = task.response?)
    (metrics : q.metrics = p.metrics)

/-- A build counts if it calls the builder. -/
theorem CheckTask.counts_build {task : CheckTask} {key : CheckerKey} {b : CheckerBuilder}
    {rest : List Entry} (hphase : task.phase = .building key b rest) (p : CheckerPool)
    {next : CheckTask} (hnext : next.response? = task.response?) :
    task.Counts p next (p.build key b).2 := by
  rcases p.build_cases key b with ⟨i, hkept, he⟩ | ⟨c, hnone, hc, he⟩ | ⟨error, hnone, hc, he⟩
  · refine .nothing ?_ hnext (by rw [he])
    simp only [attempt?, hphase, hkept]
  · have hattempt : task.attempt? p = some (key.kind, true) := by
      simp only [attempt?, hphase, hnone, hc]
      rfl
    exact .calls hattempt hnext (by rw [he]; rfl)
  · have hattempt : task.attempt? p = some (key.kind, false) := by
      simp only [attempt?, hphase, hnone, hc]
      rfl
    exact .calls hattempt hnext (by rw [he]; rfl)

/-- Every step counts for what it does. -/
theorem CheckTask.counts_advance (task : CheckTask) (p : CheckerPool) :
    task.Counts p (task.advance p).1 (task.advance p).2.2 := by
  obtain ⟨request, errors, phase⟩ := task
  cases phase with
  | called => exact .nothing rfl rfl rfl
  | asking entries =>
    cases entries with
    | nil => exact .answers ⟨request.operation.id, errors⟩ rfl rfl rfl rfl
    | cons e rest =>
      cases hkey : e.checkerKey? with
      | none =>
        simp only [advance, hkey]
        exact .nothing rfl rfl rfl
      | some kb =>
        cases hkept : p.kept? kb.1 with
        | some i =>
          simp only [advance, hkey, hkept]
          exact .nothing rfl rfl rfl
        | none =>
          simp only [advance, hkey, hkept]
          exact .nothing rfl rfl rfl
  | building key b rest => exact counts_build rfl p rfl
  | answered => exact .nothing rfl rfl rfl

/-- The answers that were given. -/
def CheckRun.responses (r : CheckRun) : List CheckResponse := r.tasks.filterMap CheckTask.response?

/-- Checks and the calls of builders that they have made. -/
structure MeteredChecks where
  run : CheckRun
  /-- The kind of each checker that was to be built, and whether it was. -/
  attempts : List (String × Bool) := []

namespace MeteredChecks

/-- The call of a builder that a move makes. -/
def attempt? (r : MeteredChecks) : CheckMove → Option (String × Bool)
  | .advance t => r.run.tasks[t]?.bind (·.attempt? r.run.pool)
  | .call _ | .change _ => none

/-- The checks after one more move. -/
def step (r : MeteredChecks) (m : CheckMove) : MeteredChecks where
  run := r.run.step m
  attempts := r.attempts ++ (r.attempt? m).toList

/-- All checkers are given up. -/
def unload (r : MeteredChecks) : MeteredChecks :=
  { r with run := { r.run with pool := r.run.pool.unloadAll } }

/-- The counters of checks agree with the answers and with the calls of builders. -/
structure Accounted (r : MeteredChecks) : Prop where
  requests : r.run.pool.metrics.get .checkRequests = r.run.responses.length
  durations : r.run.pool.metrics.get .checkDurations = r.run.responses.length
  errors : ∀ code, r.run.pool.metrics.get (.checkErrors code) =
    (r.run.responses.flatMap (·.errors)).countP (·.code = code)
  builds : ∀ kind ok, r.run.pool.metrics.get (.checkerBuilds kind ok) = r.attempts.count (kind, ok)
  only : r.run.pool.metrics.Only (·.isOfChecks = true)

variable {r : MeteredChecks}

/-- What changes neither answers nor counters leaves the accounts as they are. -/
theorem Accounted.of_same (h : r.Accounted) {run : CheckRun}
    (hresponses : run.responses = r.run.responses)
    (hmetrics : run.pool.metrics = r.run.pool.metrics) :
    Accounted { r with run } := by
  obtain ⟨hrequests, hdurations, herrors, hbuilds, honly⟩ := h
  rw [← hresponses, ← hmetrics] at *
  exact ⟨hrequests, hdurations, herrors, hbuilds, honly⟩

/-- A call of a builder is counted by the kind and by what came out of it. -/
theorem Accounted.calls (h : r.Accounted) {run : CheckRun} {kind : String} {ok : Bool}
    (hresponses : run.responses = r.run.responses)
    (hmetrics : run.pool.metrics = r.run.pool.metrics.count (.checkerBuilds kind ok)) :
    Accounted { run, attempts := r.attempts ++ [(kind, ok)] } := by
  refine ⟨?_, ?_, ?_, ?_, ?_⟩
  · rw [hresponses, hmetrics, Metrics.get_count, if_neg nofun, h.requests]
  · rw [hresponses, hmetrics, Metrics.get_count, if_neg nofun, h.durations]
  · intro code
    rw [hresponses, hmetrics, Metrics.get_count, if_neg nofun, h.errors]
  · intro kind' ok'
    rw [hmetrics, Metrics.get_count, List.count_append, List.count_singleton, ← h.builds]
    by_cases hsame : kind = kind' ∧ ok = ok'
    · obtain ⟨rfl, rfl⟩ := hsame
      simp
    · simp [hsame]
  · rw [hmetrics]
    exact h.only.count rfl

/-- What is counted for an answer: the answer, its duration, and each of its errors by the code. -/
theorem get_countCheck (m : Metrics) (errors : List CheckError) :
    (CheckerPool.countCheck m errors).get .checkRequests = m.get .checkRequests + 1 ∧
    (CheckerPool.countCheck m errors).get .checkDurations = m.get .checkDurations + 1 ∧
    (∀ code, (CheckerPool.countCheck m errors).get (.checkErrors code) =
      m.get (.checkErrors code) + errors.countP (·.code = code)) ∧
    ∀ kind ok, (CheckerPool.countCheck m errors).get (.checkerBuilds kind ok) =
      m.get (.checkerBuilds kind ok) := by
  have hother (c : Counter) (hc : ∀ code, .checkErrors code ≠ c) :
      (errors.map fun e => Counter.checkErrors e.code).count c = 0 := by
    refine List.count_eq_zero.mpr fun hmem => ?_
    obtain ⟨e, -, he⟩ := List.mem_map.mp hmem
    exact hc e.code he
  refine ⟨?_, ?_, ?_, ?_⟩
  · rw [CheckerPool.countCheck, Metrics.get_countAll, hother .checkRequests nofun]
    simp [Metrics.get_count]
  · rw [CheckerPool.countCheck, Metrics.get_countAll, hother .checkDurations nofun]
    simp [Metrics.get_count]
  · intro code
    rw [CheckerPool.countCheck, Metrics.get_countAll, List.count_eq_countP, List.countP_map]
    simp [Metrics.get_count, Function.comp_def, beq_eq_decide]
  · intro kind ok
    rw [CheckerPool.countCheck, Metrics.get_countAll, hother (.checkerBuilds kind ok) nofun]
    simp [Metrics.get_count]

/-- An answer is counted once, whichever check it is given to. -/
theorem Accounted.answers (h : r.Accounted) {run : CheckRun} {response : CheckResponse}
    (hresponses : run.responses.Perm (response :: r.run.responses))
    (hmetrics : run.pool.metrics = CheckerPool.countCheck r.run.pool.metrics response.errors) :
    Accounted { r with run } := by
  obtain ⟨hrequests, hdurations, herrors, hbuilds⟩ :=
    get_countCheck r.run.pool.metrics response.errors
  refine ⟨?_, ?_, ?_, ?_, ?_⟩
  · rw [hmetrics, hrequests, h.requests, hresponses.length_eq, List.length_cons]
  · rw [hmetrics, hdurations, h.durations, hresponses.length_eq, List.length_cons]
  · intro code
    rw [hmetrics, herrors, h.errors, (hresponses.flatMap_right (·.errors)).countP_eq,
      List.flatMap_cons, List.countP_append, Nat.add_comm]
  · intro kind ok
    rw [hmetrics, hbuilds, h.builds]
  · rw [hmetrics, CheckerPool.countCheck]
    refine ((h.only.count rfl).count rfl).countAll fun c hc => ?_
    obtain ⟨e, -, rfl⟩ := List.mem_map.mp hc
    rfl

/-- Every move is accounted for. -/
theorem Accounted.step (h : r.Accounted) (m : CheckMove) : (r.step m).Accounted := by
  cases m with
  | call request =>
    have hnone : CheckTask.response? { request } = none := rfl
    rw [MeteredChecks.step, attempt?, Option.toList_none, List.append_nil]
    refine h.of_same ?_ rfl
    simp [CheckRun.step, CheckRun.responses, hnone]
  | change s =>
    rw [MeteredChecks.step, attempt?, Option.toList_none, List.append_nil]
    exact h.of_same rfl rfl
  | advance t =>
    cases ht : r.run.tasks[t]? with
    | none =>
      have hrun : r.run.step (.advance t) = r.run := by simp only [CheckRun.step, ht]
      rw [MeteredChecks.step, attempt?, ht, hrun, Option.bind_none, Option.toList_none,
        List.append_nil]
      exact h
    | some task =>
      obtain ⟨front, back, hgiven, hafter⟩ :=
        exists_filterMap_set_eq ht (task.advance r.run.pool).1 CheckTask.response?
      have hresponses : (r.run.step (.advance t)).responses =
          front ++ (task.advance r.run.pool).1.response?.toList ++ back := by
        rw [CheckRun.step_advance ht, CheckRun.responses, hafter]
      have hpool : (r.run.step (.advance t)).pool = (task.advance r.run.pool).2.2 := by
        rw [CheckRun.step_advance ht]
      rw [MeteredChecks.step, attempt?, ht, Option.bind_some]
      cases task.counts_advance r.run.pool with
      | answers _ hnone hattempt hresponse hmetrics =>
        rw [hattempt, Option.toList_none, List.append_nil]
        refine h.answers ?_ (hpool ▸ hmetrics)
        rw [hresponses, CheckRun.responses, hgiven, hnone, hresponse, Option.toList_none,
          Option.toList_some, List.append_nil, List.append_assoc]
        exact List.perm_middle
      | calls hattempt hsame hmetrics =>
        rw [hattempt]
        exact h.calls (by rw [hresponses, CheckRun.responses, hgiven, hsame]) (hpool ▸ hmetrics)
      | nothing hattempt hsame hmetrics =>
        rw [hattempt, Option.toList_none, List.append_nil]
        exact h.of_same (by rw [hresponses, CheckRun.responses, hgiven, hsame]) (hpool ▸ hmetrics)

theorem Accounted.unload (h : r.Accounted) : r.unload.Accounted := h.of_same rfl rfl

end MeteredChecks

end ServiceControl
