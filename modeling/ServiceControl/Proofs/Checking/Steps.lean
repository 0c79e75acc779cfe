import ServiceControl.Proofs.Checking.Keeping

/-!
# Checks that run at the same time

A check holds the pool only while it reads the configuration, while it looks for a kept checker, and
while it looks again and builds. Between these steps other checks take theirs and configurations
change. A run is any order of such steps, of any number of checks; its log says what each step did
for which check. A check whose steps nobody comes between is answered as the pool answers it.
-/

namespace ServiceControl

/-- How a key was settled for a check. -/
inductive Settlement where
  | shared (i : Instance)
  | built (i : Instance)
  | failed

namespace Settlement

/-- The checker that the check goes on with. -/
def obtained? : Settlement → Option Instance
  | shared i => some i
  | built i => some i
  | failed => none

/-- The checker that was built for the check. -/
def built? : Settlement → Option Instance
  | built i => some i
  | _ => none

/-- The errors that a settled key adds to the answer. -/
def denials (request : CheckRequest) (how : Settlement) : List CheckError :=
  (how.obtained?.map (·.checker.denials request)).getD []

/-- How a build settles a key, by what was kept before it and what came out. -/
def ofBuild : Option Instance → Option Instance → Settlement
  | some i, _ => shared i
  | none, some i => built i
  | none, none => failed

end Settlement

/-- Where a check stands between two of its steps. -/
inductive CheckPhase where
  | called
  /-- The next entry is to be looked up. -/
  | asking (rest : List Entry)
  /-- A look has found nothing, and the build is to come. -/
  | building (key : CheckerKey) (builder : CheckerBuilder) (rest : List Entry)
  | answered

/-- A check between two of its steps. -/
structure CheckTask where
  request : CheckRequest
  /-- The errors so far. -/
  errors : List CheckError := []
  phase : CheckPhase := .called

/-- What a step did. -/
inductive CheckEvent where
  | loaded (services : Services)
  | settled (key : CheckerKey) (how : Settlement)

namespace CheckEvent

/-- The key and the checker of a step that went on with one. -/
def obtained? : CheckEvent → Option (CheckerKey × Instance)
  | loaded _ => none
  | settled key how => how.obtained?.map fun i => (key, i)

/-- The key and the checker of a step that built one. -/
def built? : CheckEvent → Option (CheckerKey × Instance)
  | loaded _ => none
  | settled key how => how.built?.map fun i => (key, i)

end CheckEvent

/-- What entries are kept under, where they are active and name checkers. -/
def checkerKeys (entries : List Entry) : List CheckerKey :=
  entries.filterMap fun e => e.checkerKey?.map Prod.fst

/-- The keys that are still to be settled. -/
def CheckPhase.pending : CheckPhase → List CheckerKey
  | called => []
  | asking rest => checkerKeys rest
  | building key _ rest => key :: checkerKeys rest
  | answered => []

namespace CheckTask

/-- The answer of a check that is done. -/
def response? (task : CheckTask) : Option CheckResponse :=
  match task.phase with
  | .answered => some ⟨task.request.operation.id, task.errors⟩
  | _ => none

/-- The check once a key is settled. -/
def settle (task : CheckTask) (how : Settlement) (rest : List Entry) : CheckTask :=
  { task with errors := task.errors ++ how.denials task.request, phase := .asking rest }

/-- One step of a check: how it goes on, what it did and what it left of the pool. -/
def advance (task : CheckTask) (p : CheckerPool) : CheckTask × Option CheckEvent × CheckerPool :=
  match task.phase with
  | .called =>
    let entries := p.services.resolve (CheckerPool.keyOf task.request)
    ({ task with phase := .asking entries }, some (.loaded p.services), p)
  | .asking [] =>
    ({ task with phase := .answered }, none,
      { p with metrics := CheckerPool.countCheck p.metrics task.errors })
  | .asking (e :: rest) =>
    match e.checkerKey? with
    | none => ({ task with phase := .asking rest }, none, p)
    | some (key, b) =>
      match p.kept? key with
      | some i => (task.settle (.shared i) rest, some (.settled key (.shared i)), p)
      | none => ({ task with phase := .building key b rest }, none, p)
  | .building key b rest =>
    let (i, q) := p.build key b
    let how := Settlement.ofBuild (p.kept? key) i
    (task.settle how rest, some (.settled key how), q)
  | .answered => (task, none, p)

end CheckTask

/-- The pool, the checks that were called and what was done for them. -/
structure CheckRun where
  pool : CheckerPool
  tasks : List CheckTask := []
  /-- What each step did, with the place of the check that it was a step of. -/
  log : Table Nat CheckEvent := []

/-- What can happen next. -/
inductive CheckMove where
  | call (request : CheckRequest)
  | change (services : Services)
  | advance (place : Nat)

/-- The configuration in force after moves, by the moves alone. -/
def CheckMove.inForce (start : Services) (moves : List CheckMove) : Services :=
  moves.foldl (fun s m => match m with
    | .change t => t
    | _ => s) start

namespace CheckRun

/-- The run after one more move. -/
def step (r : CheckRun) : CheckMove → CheckRun
  | .call request => { r with tasks := r.tasks ++ [{ request }] }
  | .change services => { r with pool := r.pool.change services }
  | .advance t =>
    match r.tasks[t]? with
    | none => r
    | some task =>
      let (task, event, pool) := task.advance r.pool
      { pool, tasks := r.tasks.set t task, log := r.log ++ event.toList.map fun e => (t, e) }

/-- The run of moves from a pool that keeps nothing. -/
def after (start : Services) (moves : List CheckMove) : CheckRun :=
  moves.foldl step { pool := { services := start } }

/-- What was done for one check, in order. -/
def eventsOf (r : CheckRun) (t : Nat) : List CheckEvent := Table.valuesOf t r.log

/-- The checkers that were built, under their keys, in order. -/
def built (r : CheckRun) : List (CheckerKey × Instance) := r.log.filterMap (·.2.built?)

/-- The checkers that checks went on with, under their keys, in order. -/
def obtained (r : CheckRun) : List (CheckerKey × Instance) := r.log.filterMap (·.2.obtained?)

theorem after_snoc (start : Services) (moves : List CheckMove) (m : CheckMove) :
    after start (moves ++ [m]) = (after start moves).step m := by
  rw [after, after, List.foldl_concat]

/-- A step of a check that is there. -/
theorem step_advance {r : CheckRun} {t : Nat} {task : CheckTask} (ht : r.tasks[t]? = some task) :
    r.step (.advance t) =
      { pool := (task.advance r.pool).2.2
        tasks := r.tasks.set t (task.advance r.pool).1
        log := r.log ++ (task.advance r.pool).2.1.toList.map fun e => (t, e) } := by
  simp only [step, ht]

/-- One run leads to another by steps of one check only. -/
inductive Alone (t : Nat) : CheckRun → CheckRun → Prop where
  | refl (r : CheckRun) : Alone t r r
  | step {r s : CheckRun} : Alone t (r.step (.advance t)) s → Alone t r s

theorem Alone.trans {t : Nat} {r s u : CheckRun} (h : Alone t r s) (h' : Alone t s u) :
    Alone t r u := by
  induction h with
  | refl => exact h'
  | step _ ih => exact .step (ih h')

theorem Alone.exists_foldl {t : Nat} {r s : CheckRun} (h : Alone t r s) :
    ∃ count, (List.replicate count (CheckMove.advance t)).foldl CheckRun.step r = s := by
  induction h with
  | refl => exact ⟨0, rfl⟩
  | step _ ih =>
    obtain ⟨count, hcount⟩ := ih
    exact ⟨count + 1, hcount⟩

/-- A run that goes on by steps of one check only is a run of more moves. -/
theorem Alone.exists_after {start : Services} {moves : List CheckMove} {t : Nat} {s : CheckRun}
    (h : Alone t (after start moves) s) :
    ∃ count, after start (moves ++ List.replicate count (.advance t)) = s := by
  obtain ⟨count, hcount⟩ := h.exists_foldl
  refine ⟨count, ?_⟩
  rw [after, List.foldl_append]
  exact hcount

/-- One step or two settle an entry as the pool does. -/
theorem exists_alone_of_entry {r : CheckRun} {t : Nat} {task : CheckTask} {e : Entry}
    {rest : List Entry} (ht : r.tasks[t]? = some task) (hphase : task.phase = .asking (e :: rest)) :
    ∃ s, Alone t r s ∧
      s.tasks = r.tasks.set t { task with
        errors := task.errors ++
          ((r.pool.checkerFor e).1.map (·.checker.denials task.request)).getD []
        phase := .asking rest } ∧
      s.pool = (r.pool.checkerFor e).2 := by
  cases hkey : e.checkerKey? with
  | none =>
    refine ⟨r.step (.advance t), .step (.refl _), ?_, ?_⟩ <;>
      simp [step_advance ht, CheckTask.advance, hphase, hkey, CheckerPool.checkerFor]
  | some kb =>
    cases hkept : r.pool.kept? kb.1 with
    | some i =>
      refine ⟨r.step (.advance t), .step (.refl _), ?_, ?_⟩ <;>
        simp [step_advance ht, CheckTask.advance, hphase, hkey, hkept, CheckerPool.checkerFor,
          CheckerPool.obtain, CheckTask.settle, Settlement.denials, Settlement.obtained?]
    | none =>
      have hmiss : r.step (.advance t) = { r with
          tasks := r.tasks.set t { task with phase := .building kb.1 kb.2 rest } } := by
        simp [step_advance ht, CheckTask.advance, hphase, hkey, hkept]
      have hfound : (r.step (.advance t)).tasks[t]? =
          some { task with phase := .building kb.1 kb.2 rest } := by
        rw [hmiss]
        exact List.getElem?_set_self (List.getElem?_eq_some_iff.mp ht).1
      have hpool : (r.step (.advance t)).pool = r.pool := by rw [hmiss]
      refine ⟨(r.step (.advance t)).step (.advance t), .step (.step (.refl _)), ?_, ?_⟩
      · rw [step_advance hfound, hpool, hmiss]
        simp only [List.set_set, CheckTask.advance, CheckTask.settle, CheckerPool.checkerFor, hkey,
          CheckerPool.obtain, hkept]
        cases (r.pool.build kb.1 kb.2).1 <;> rfl
      · rw [step_advance hfound, hpool]
        simp only [CheckTask.advance, CheckerPool.checkerFor, hkey, CheckerPool.obtain, hkept]

/-- Until a check is answered, it adds to its errors what the pool adds for the other entries. -/
theorem exists_alone_of_asking {r : CheckRun} {t : Nat} {task : CheckTask} {entries : List Entry}
    (ht : r.tasks[t]? = some task) (hphase : task.phase = .asking entries) :
    ∃ s, Alone t r s ∧
      s.tasks = r.tasks.set t { task with
        errors := task.errors ++ (CheckerPool.ask task.request entries r.pool).1
        phase := .answered } ∧
      s.pool = { (CheckerPool.ask task.request entries r.pool).2 with
        metrics := CheckerPool.countCheck (CheckerPool.ask task.request entries r.pool).2.metrics
          (task.errors ++ (CheckerPool.ask task.request entries r.pool).1) } := by
  induction entries generalizing r task with
  | nil =>
    refine ⟨r.step (.advance t), .step (.refl _), ?_, ?_⟩ <;>
      simp only [step_advance ht, CheckTask.advance, hphase, CheckerPool.ask, List.append_nil]
  | cons e rest ih =>
    have hlt : t < r.tasks.length := (List.getElem?_eq_some_iff.mp ht).1
    obtain ⟨s, hfirst, htasks, hpool⟩ := exists_alone_of_entry ht hphase
    obtain ⟨u, hrest, htasks', hpool'⟩ :=
      ih (by rw [htasks]; exact List.getElem?_set_self hlt) rfl
    rw [CheckerPool.ask_cons]
    refine ⟨u, hfirst.trans hrest, ?_, ?_⟩
    · rw [htasks', htasks, hpool, List.set_set, List.append_assoc]
    · rw [hpool', hpool, List.append_assoc]

theorem exists_alone_response_of_asking {r : CheckRun} {t : Nat} {task : CheckTask}
    {entries : List Entry} (ht : r.tasks[t]? = some task) (hphase : task.phase = .asking entries) :
    ∃ s response, Alone t r s ∧ s.tasks[t]?.bind CheckTask.response? = some response := by
  obtain ⟨s, halone, htasks, -⟩ := exists_alone_of_asking ht hphase
  refine ⟨s, ⟨task.request.operation.id,
    task.errors ++ (CheckerPool.ask task.request entries r.pool).1⟩, halone, ?_⟩
  rw [htasks, List.getElem?_set_self (List.getElem?_eq_some_iff.mp ht).1]
  rfl

/-- The steps of a check lead to its answer from wherever it stands. -/
theorem exists_alone_response {r : CheckRun} {t : Nat} {task : CheckTask}
    (ht : r.tasks[t]? = some task) :
    ∃ s response, Alone t r s ∧ s.tasks[t]?.bind CheckTask.response? = some response := by
  have hnext : (r.step (.advance t)).tasks[t]? = some (task.advance r.pool).1 := by
    rw [step_advance ht]
    exact List.getElem?_set_self (List.getElem?_eq_some_iff.mp ht).1
  have hstep {entries : List Entry} (hphase : (task.advance r.pool).1.phase = .asking entries) :
      ∃ s response, Alone t r s ∧ s.tasks[t]?.bind CheckTask.response? = some response := by
    obtain ⟨s, response, halone, hs⟩ := exists_alone_response_of_asking hnext hphase
    exact ⟨s, response, .step halone, hs⟩
  cases hphase : task.phase with
  | called =>
    have hasking : (task.advance r.pool).1.phase =
        .asking (r.pool.services.resolve (CheckerPool.keyOf task.request)) := by
      simp only [CheckTask.advance, hphase]
    exact hstep hasking
  | asking entries => exact exists_alone_response_of_asking ht hphase
  | building key builder rest =>
    have hasking : (task.advance r.pool).1.phase = .asking rest := by
      simp only [CheckTask.advance, hphase, CheckTask.settle]
    exact hstep hasking
  | answered =>
    refine ⟨r, ⟨task.request.operation.id, task.errors⟩, .refl r, ?_⟩
    rw [ht, Option.bind_some, CheckTask.response?, hphase]

/-- A check whose steps nothing comes between is answered as the pool answers it. -/
theorem exists_alone_answered (r : CheckRun) (request : CheckRequest) :
    ∃ s, Alone r.tasks.length (r.step (.call request)) s ∧
      s.tasks[r.tasks.length]?.bind CheckTask.response? = some (r.pool.check request).1 ∧
      s.pool = (r.pool.check request).2 := by
  have hcalled : (r.step (.call request)).tasks[r.tasks.length]? = some { request } :=
    List.getElem?_concat_length
  have hloaded := step_advance hcalled
  have hsame : ((r.step (.call request)).step (.advance r.tasks.length)).pool = r.pool := by
    rw [hloaded]
    rfl
  have hasking : ((r.step (.call request)).step (.advance r.tasks.length)).tasks[r.tasks.length]? =
      some { request, phase := .asking (r.pool.services.resolve (CheckerPool.keyOf request)) } := by
    rw [hloaded]
    exact List.getElem?_set_self (by simp [step])
  obtain ⟨s, halone, htasks, hpool⟩ := exists_alone_of_asking hasking rfl
  rw [hsame] at htasks hpool
  refine ⟨s, .step halone, ?_, hpool⟩
  rw [htasks, hloaded, List.getElem?_set_self (by simp [step])]
  rfl

end CheckRun

end ServiceControl
