import Mathlib.Data.List.Induction
import ServiceControl.Proofs.Checking.Steps

/-!
# One build for each key in any order of steps

The gap between a look that finds nothing and the build after it is open to all other checks. What
closes it is that the build looks again. So the log of a run holds exactly the kept checkers as
built, each check that goes on with a checker goes on with the kept one, and nothing that is kept is
lost. A check on its own reads one configuration and settles the keys that this configuration gives
for its call, in their order, whatever is put in force meanwhile. It never waits for another check:
its own steps lead to its answer.
-/

namespace ServiceControl

/-- What settling a key leaves of the pool. -/
inductive Settlement.Leaves (p : CheckerPool) (key : CheckerKey) :
    Settlement → CheckerPool → Prop where
  | shared {i : Instance} (kept : p.kept? key = some i) : Leaves p key (.shared i) p
  | built (c : Checker) (free : p.kept? key = none) :
    Leaves p key (.built ⟨p.attempts, c⟩) (p.extended key c)
  | failed : Leaves p key .failed (p.disappointed key)

/-- All that a step of a check can do. -/
inductive CheckTask.Goes (task : CheckTask) (p : CheckerPool) :
    CheckTask × Option CheckEvent × CheckerPool → Prop where
  | loads (called : task.phase = .called) :
    Goes task p
      ({ task with phase := .asking (p.services.resolve (CheckerPool.keyOf task.request)) },
        some (.loaded p.services), p)
  | quietly (phase : CheckPhase) (metrics : Metrics) (loaded : task.phase ≠ .called)
    (pending : phase.pending = task.phase.pending) (goes : phase ≠ .called) :
    Goes task p ({ task with phase }, none, { p with metrics })
  | settles {key : CheckerKey} {how : Settlement} {rest : List Entry} {q : CheckerPool}
    (loaded : task.phase ≠ .called) (pending : task.phase.pending = key :: checkerKeys rest)
    (leaves : how.Leaves p key q) :
    Goes task p (task.settle how rest, some (.settled key how), q)

/-- A build settles its key in one of the three ways. -/
theorem Settlement.leaves_build (p : CheckerPool) (key : CheckerKey) (b : CheckerBuilder) :
    (ofBuild (p.kept? key) (p.build key b).1).Leaves p key (p.build key b).2 := by
  rcases p.build_cases key b with ⟨i, hi, hb⟩ | ⟨c, hnone, -, hb⟩ | ⟨e, hnone, -, hb⟩
  · rw [hb, hi]
    exact .shared hi
  · rw [hb, hnone]
    exact .built c hnone
  · rw [hb, hnone]
    exact .failed

/-- Every step of a check is one of these. -/
theorem CheckTask.goes_advance (task : CheckTask) (p : CheckerPool) :
    task.Goes p (task.advance p) := by
  have hasking (entries : List Entry) : CheckPhase.asking entries ≠ .called := nofun
  have hbuilding (key : CheckerKey) (b : CheckerBuilder) (rest : List Entry) :
      CheckPhase.building key b rest ≠ .called := nofun
  have hanswered : CheckPhase.answered ≠ .called := nofun
  obtain ⟨request, errors, phase⟩ := task
  cases phase with
  | called => exact .loads rfl
  | asking entries =>
    cases entries with
    | nil => exact .quietly .answered _ (hasking []) rfl hanswered
    | cons e rest =>
      cases hkey : e.checkerKey? with
      | none =>
        have hpending : checkerKeys rest = checkerKeys (e :: rest) := by simp [checkerKeys, hkey]
        simp only [advance, hkey]
        exact .quietly (.asking rest) p.metrics (hasking _) hpending (hasking rest)
      | some kb =>
        have hpending : checkerKeys (e :: rest) = kb.1 :: checkerKeys rest := by
          simp [checkerKeys, hkey]
        cases hkept : p.kept? kb.1 with
        | some i =>
          simp only [advance, hkey, hkept]
          exact .settles (hasking _) hpending (.shared hkept)
        | none =>
          simp only [advance, hkey, hkept]
          exact .quietly (.building kb.1 kb.2 rest) p.metrics (hasking _) hpending.symm
            (hbuilding kb.1 kb.2 rest)
  | building key b rest =>
    exact .settles (hbuilding key b rest) rfl (Settlement.leaves_build p key b)
  | answered => exact .quietly .answered p.metrics hanswered rfl hanswered

namespace CheckRun

/-- The pool of a run keeps what the log says was built, and checks went on with what is kept. -/
structure Consistent (r : CheckRun) : Prop where
  inOrder : r.pool.InOrder
  built : r.built = r.pool.kept
  obtained : ∀ x ∈ r.obtained, r.pool.kept? x.1 = some x.2

/-- The moves of other than checks, and of checks that are not there, leave pool and log alone. -/
theorem step_cases (r : CheckRun) (m : CheckMove) :
    (∃ request, m = .call request ∧ r.step m = { r with tasks := r.tasks ++ [{ request }] }) ∨
    (∃ s, m = .change s ∧ r.step m = { r with pool := r.pool.change s }) ∨
    (∃ t, m = .advance t ∧ r.tasks[t]? = none ∧ r.step m = r) ∨
    (∃ t task next, m = .advance t ∧ r.tasks[t]? = some task ∧ task.Goes r.pool next ∧
      r.step m = { pool := next.2.2, tasks := r.tasks.set t next.1,
                   log := r.log ++ next.2.1.toList.map fun e => (t, e) }) := by
  cases m with
  | call request => exact .inl ⟨request, rfl, rfl⟩
  | change s => exact .inr (.inl ⟨s, rfl, rfl⟩)
  | advance t =>
    refine .inr (.inr ?_)
    cases ht : r.tasks[t]? with
    | none => exact .inl ⟨t, rfl, ht, by simp only [step, ht]⟩
    | some task =>
      exact .inr ⟨t, task, task.advance r.pool, rfl, ht, task.goes_advance r.pool, step_advance ht⟩

/-- A settled key leaves the run consistent, because only free keys get a new checker. -/
theorem Consistent.settles {r : CheckRun} (h : r.Consistent) {key : CheckerKey} {how : Settlement}
    {q : CheckerPool} (hleaves : how.Leaves r.pool key q) (tasks : List CheckTask) (t : Nat) :
    Consistent { pool := q, tasks, log := r.log ++ [(t, .settled key how)] } := by
  obtain ⟨hinOrder, hbuilt, hobtained⟩ := h
  simp only [CheckRun.built, CheckRun.obtained] at hbuilt hobtained
  cases hleaves with
  | @shared i hkept =>
    refine ⟨hinOrder, ?_, ?_⟩
    · simpa [CheckRun.built, CheckEvent.built?, Settlement.built?] using hbuilt
    · intro x hx
      simp only [CheckRun.obtained, List.filterMap_append, List.mem_append] at hx
      rcases hx with hx | hx
      · exact hobtained x hx
      · obtain rfl : x = (key, i) := by
          simpa [CheckEvent.obtained?, Settlement.obtained?] using hx
        exact hkept
  | built c hfree =>
    refine ⟨hinOrder.extended c hfree, ?_, ?_⟩
    · simpa [CheckRun.built, CheckEvent.built?, Settlement.built?, CheckerPool.extended]
        using hbuilt
    · intro x hx
      simp only [CheckRun.obtained, List.filterMap_append, List.mem_append] at hx
      rcases hx with hx | hx
      · exact CheckerPool.kept?_extended_of_kept c hfree (hobtained x hx)
      · obtain rfl : x = (key, ⟨r.pool.attempts, c⟩) := by
          simpa [CheckEvent.obtained?, Settlement.obtained?] using hx
        exact (CheckerPool.kept?_extended c hfree key).trans (if_pos rfl)
  | failed =>
    refine ⟨hinOrder.disappointed key, ?_, ?_⟩
    · simpa [CheckRun.built, CheckEvent.built?, Settlement.built?, CheckerPool.disappointed]
        using hbuilt
    · intro x hx
      have hold : x ∈ r.log.filterMap (·.2.obtained?) := by
        simpa [CheckRun.obtained, CheckEvent.obtained?, Settlement.obtained?] using hx
      exact hobtained x hold

/-- Moves keep a run consistent. -/
theorem Consistent.step {r : CheckRun} (h : r.Consistent) (m : CheckMove) :
    (r.step m).Consistent := by
  rcases r.step_cases m with ⟨_, -, he⟩ | ⟨s, -, he⟩ | ⟨_, -, -, he⟩ |
    ⟨t, task, next, -, -, hgo, he⟩
  · rw [he]
    exact ⟨h.inOrder, h.built, h.obtained⟩
  · rw [he]
    exact ⟨⟨h.inOrder.keys, h.inOrder.serials, h.inOrder.bound⟩, h.built, h.obtained⟩
  · rw [he]
    exact h
  · rw [he]
    cases hgo with
    | loads =>
      refine ⟨h.inOrder, ?_, fun x hx => h.obtained x ?_⟩
      · simpa [CheckRun.built, CheckEvent.built?] using h.built
      · simpa [CheckRun.obtained, CheckEvent.obtained?] using hx
    | quietly phase metrics =>
      refine ⟨⟨h.inOrder.keys, h.inOrder.serials, h.inOrder.bound⟩, ?_, fun x hx => h.obtained x ?_⟩
      · simpa [CheckRun.built] using h.built
      · simpa [CheckRun.obtained] using hx
    | settles _ _ hleaves => exact h.settles hleaves _ t

/-- Runs from a pool that keeps nothing are consistent. -/
theorem consistent_after (start : Services) (moves : List CheckMove) :
    (after start moves).Consistent := by
  induction moves using List.reverseRecOn with
  | nil => exact ⟨.of_kept_nil rfl, rfl, nofun⟩
  | append_singleton moves m ih =>
    rw [after_snoc]
    exact ih.step m

/-- What is kept under a key is kept there after all further moves. -/
theorem kept?_step {r : CheckRun} {k : CheckerKey} {i : Instance} (h : r.pool.kept? k = some i)
    (m : CheckMove) : (r.step m).pool.kept? k = some i := by
  rcases r.step_cases m with ⟨_, -, he⟩ | ⟨_, -, he⟩ | ⟨_, -, -, he⟩ |
    ⟨t, task, next, -, -, hgo, he⟩ <;> rw [he]
  · exact h
  · exact h
  · exact h
  · cases hgo with
    | loads => exact h
    | quietly => exact h
    | settles _ _ hleaves =>
      cases hleaves with
      | shared => exact h
      | failed => exact h
      | built c hfree => exact CheckerPool.kept?_extended_of_kept c hfree h

/-- What is kept at some time is kept at all later times. -/
theorem kept?_after_append (start : Services) (before rest : List CheckMove) {k : CheckerKey}
    {i : Instance} (h : (after start before).pool.kept? k = some i) :
    (after start (before ++ rest)).pool.kept? k = some i := by
  induction rest using List.reverseRecOn with
  | nil => rwa [List.append_nil]
  | append_singleton rest m ih =>
    rw [← List.append_assoc, after_snoc]
    exact kept?_step ih m

/-- What a check has done since it read a configuration, up to where it stands. -/
structure Follows (r : CheckRun) (t : Nat) (task : CheckTask) (s : Services)
    (settled : List (CheckerKey × Settlement)) : Prop where
  /-- It read one configuration, and settled keys from then on. -/
  events : r.eventsOf t = .loaded s :: settled.map fun x => .settled x.1 x.2
  /-- The settled keys and those to come are the ones of this configuration, in order. -/
  keys : settled.map Prod.fst ++ task.phase.pending =
    checkerKeys (s.resolve (CheckerPool.keyOf task.request))
  /-- The errors are those of the settled keys, in order. -/
  errors : task.errors = settled.flatMap fun x => x.2.denials task.request

/-- A check that was only called so far, or one that follows the configuration that it read. -/
def Traced (start : Services) (moves : List CheckMove) (t : Nat) (task : CheckTask) : Prop :=
  (task = { request := task.request } ∧ (after start moves).eventsOf t = []) ∨
  (task.phase ≠ .called ∧ ∃ before rest settled, moves = before ++ .advance t :: rest ∧
    (after start before).tasks[t]? = some { request := task.request } ∧
    (after start moves).Follows t task (CheckMove.inForce start before) settled)

/-- Steps of one check are events of that check only. -/
theorem eventsOf_append (p : CheckerPool) (tasks : List CheckTask) (r : CheckRun) (u : Nat)
    (events : List CheckEvent) (t : Nat) :
    eventsOf { pool := p, tasks, log := r.log ++ events.map fun e => (u, e) } t =
      r.eventsOf t ++ if u = t then events else [] := by
  rw [eventsOf, Table.valuesOf_append, Table.valuesOf_map, eventsOf]

/-- A move that adds nothing to what a check did leaves it traced. -/
theorem Traced.mono {start : Services} {moves : List CheckMove} {t : Nat} {task : CheckTask}
    (h : Traced start moves t task) {m : CheckMove}
    (hevents : ((after start moves).step m).eventsOf t = (after start moves).eventsOf t) :
    Traced start (moves ++ [m]) t task := by
  rcases h with ⟨hnew, hnone⟩ | ⟨hphase, before, rest, settled, rfl, hcalled, hfollows⟩
  · refine .inl ⟨hnew, ?_⟩
    rw [after_snoc, hevents, hnone]
  · refine .inr ⟨hphase, before, rest ++ [m], settled, ?_, hcalled, ?_, hfollows.keys,
      hfollows.errors⟩
    · rw [List.append_assoc, List.cons_append]
    · rw [after_snoc, hevents, hfollows.events]

/-- The configuration in force is the one that was put in force last. -/
theorem services_after (start : Services) (moves : List CheckMove) :
    (after start moves).pool.services = CheckMove.inForce start moves := by
  induction moves using List.reverseRecOn with
  | nil => rfl
  | append_singleton moves m ih =>
    rw [after_snoc, CheckMove.inForce, List.foldl_concat, ← CheckMove.inForce]
    rcases (after start moves).step_cases m with ⟨_, rfl, he⟩ | ⟨_, rfl, he⟩ | ⟨_, rfl, -, he⟩ |
      ⟨t, task, next, rfl, -, hgo, he⟩ <;> rw [he]
    · exact ih
    · rfl
    · exact ih
    · cases hgo with
      | loads => exact ih
      | quietly => exact ih
      | settles _ _ hleaves => cases hleaves <;> exact ih

/-- Only checks that were called have done anything. -/
theorem lt_length_of_mem_log (start : Services) (moves : List CheckMove) :
    ∀ x ∈ (after start moves).log, x.1 < (after start moves).tasks.length := by
  induction moves using List.reverseRecOn with
  | nil => nofun
  | append_singleton moves m ih =>
    intro x hx
    rw [after_snoc] at hx ⊢
    rcases (after start moves).step_cases m with ⟨_, rfl, he⟩ | ⟨_, rfl, he⟩ | ⟨_, rfl, -, he⟩ |
      ⟨t, task, next, rfl, ht, -, he⟩ <;> rw [he] at hx ⊢
    · rw [List.length_append]
      exact Nat.lt_add_right _ (ih x hx)
    · exact ih x hx
    · exact ih x hx
    · rw [List.length_set]
      rcases List.mem_append.mp hx with hx | hx
      · exact ih x hx
      · obtain ⟨e, -, rfl⟩ := List.mem_map.mp hx
        exact (List.getElem?_eq_some_iff.mp ht).1

/-- A check that takes a step is still traced. -/
theorem Traced.advance {start : Services} {moves : List CheckMove} {t : Nat} {task : CheckTask}
    (h : Traced start moves t task) (ht : (after start moves).tasks[t]? = some task)
    {next : CheckTask × Option CheckEvent × CheckerPool}
    (hgo : task.Goes (after start moves).pool next)
    (hevents : (after start (moves ++ [.advance t])).eventsOf t =
      (after start moves).eventsOf t ++ next.2.1.toList) :
    Traced start (moves ++ [.advance t]) t next.1 := by
  rcases h with ⟨hnew, hnone⟩ | ⟨hphase, before, rest, settled, hmoves, hcalled, hfollows⟩
  · cases hgo with
    | loads =>
      refine .inr ⟨nofun, moves, [], [], rfl, ?_, ?_, ?_, ?_⟩
      · rw [ht, hnew]
      · rw [hevents, hnone, services_after]
        rfl
      · rw [services_after]
        rfl
      · rw [hnew]
        rfl
    | quietly _ _ hloaded => exact absurd (by rw [hnew]) hloaded
    | settles hloaded => exact absurd (by rw [hnew]) hloaded
  · have hsplit : moves ++ [.advance t] = before ++ .advance t :: (rest ++ [.advance t]) := by
      rw [hmoves, List.append_assoc, List.cons_append]
    have hkeys := hfollows.keys
    cases hgo with
    | loads hnot => exact absurd hnot hphase
    | quietly phase metrics _ hpending hgoes =>
      refine .inr ⟨hgoes, before, _, settled, hsplit, hcalled, ?_, ?_, hfollows.errors⟩
      · rw [hevents, hfollows.events]
        exact List.append_nil _
      · rw [← hpending] at hkeys
        exact hkeys
    | @settles key how entries _ _ hpending =>
      refine .inr ⟨nofun, before, _, settled ++ [(key, how)], hsplit, hcalled, ?_, ?_, ?_⟩
      · rw [hevents, hfollows.events, List.map_append]
        rfl
      · rw [List.map_append, List.append_assoc]
        rw [hpending] at hkeys
        exact hkeys
      · simp only [CheckTask.settle, List.flatMap_append, ← hfollows.errors, List.flatMap_singleton]

/-- In every run, each check that was called is traced. -/
theorem traced_after (start : Services) (moves : List CheckMove) {t : Nat} {task : CheckTask}
    (ht : (after start moves).tasks[t]? = some task) : Traced start moves t task := by
  induction moves using List.reverseRecOn generalizing t task with
  | nil => cases ht
  | append_singleton moves m ih =>
    rw [after_snoc] at ht
    rcases (after start moves).step_cases m with ⟨request, rfl, he⟩ | ⟨s, rfl, he⟩ |
      ⟨u, rfl, -, he⟩ | ⟨u, moved, next, rfl, hu, hgo, he⟩
    · have hevents : ((after start moves).step (.call request)).eventsOf t =
          (after start moves).eventsOf t := by
        rw [he]
        rfl
      rw [he] at ht
      rcases Nat.lt_or_ge t (after start moves).tasks.length with hlt | hge
      · rw [List.getElem?_append_left hlt] at ht
        exact (ih ht).mono hevents
      · have hnone : (after start moves).eventsOf t = [] := by
          refine Table.valuesOf_eq_nil fun x hx => ?_
          have hlt := lt_length_of_mem_log start moves x hx
          omega
        rw [List.getElem?_append_right hge] at ht
        obtain rfl := List.mem_singleton.mp (List.mem_of_getElem? ht)
        refine .inl ⟨rfl, ?_⟩
        rw [after_snoc, hevents, hnone]
    · rw [he] at ht
      exact (ih ht).mono (by rw [he]; rfl)
    · rw [he] at ht
      exact (ih ht).mono (by rw [he])
    · have hevents (v : Nat) : ((after start moves).step (.advance u)).eventsOf v =
          (after start moves).eventsOf v ++ if u = v then next.2.1.toList else [] := by
        rw [he, eventsOf_append]
      rw [he] at ht
      by_cases hut : u = t
      · subst hut
        rw [List.getElem?_set_self (List.getElem?_eq_some_iff.mp hu).1] at ht
        obtain rfl := Option.some.inj ht
        refine (ih hu).advance hu hgo ?_
        rw [after_snoc, hevents, if_pos rfl]
      · rw [List.getElem?_set_ne hut] at ht
        refine (ih ht).mono ?_
        rw [hevents, if_neg hut, List.append_nil]

/-- A check that is answered has settled all keys, and its answer has their errors. -/
theorem Follows.answered {r : CheckRun} {t : Nat} {task : CheckTask} {s : Services}
    {settled : List (CheckerKey × Settlement)} (h : r.Follows t task s settled)
    {response : CheckResponse} (hresponse : task.response? = some response) :
    settled.map Prod.fst = checkerKeys (s.resolve (CheckerPool.keyOf task.request)) ∧
      response = ⟨task.request.operation.id,
        settled.flatMap fun x => x.2.denials task.request⟩ := by
  have hkeys := h.keys
  unfold CheckTask.response? at hresponse
  split at hresponse
  · next hphase =>
    rw [hphase, CheckPhase.pending, List.append_nil] at hkeys
    rw [← Option.some.inj hresponse, h.errors]
    exact ⟨hkeys, rfl⟩
  · cases hresponse

/-- In every order of steps of checks and changes, each key is built at most once, all checks that
go on with a checker for a key go on with the one that was built, what is kept stays and has its own
number, and each check settles the keys of the one configuration that was in force when it read
it. The steps of a check lead to its answer from wherever it stands, and where nothing comes between
them it is answered as the pool answers it. -/
theorem one_build_and_one_snapshot (start : Services) (moves : List CheckMove) :
    let r := after start moves
    (r.built.map Prod.fst).Nodup ∧
    (∀ key i, (key, i) ∈ r.obtained →
      (key, i) ∈ r.built ∧ r.pool.kept? key = some i ∧ ∀ j, (key, j) ∈ r.obtained → j = i) ∧
    (∀ before rest, moves = before ++ rest → ∀ key i,
      (after start before).pool.kept? key = some i → r.pool.kept? key = some i) ∧
    (∀ key l i j, r.pool.kept? key = some i → r.pool.kept? l = some j → i.serial = j.serial →
      key = l) ∧
    (∀ t task, r.tasks[t]? = some task → task.phase ≠ .called →
      ∃ before rest settled, moves = before ++ .advance t :: rest ∧
        (after start before).tasks[t]? = some { request := task.request } ∧
        r.Follows t task (CheckMove.inForce start before) settled ∧
        ∀ response, task.response? = some response →
          settled.map Prod.fst = checkerKeys
            ((CheckMove.inForce start before).resolve (CheckerPool.keyOf task.request)) ∧
          response = ⟨task.request.operation.id,
            settled.flatMap fun x => x.2.denials task.request⟩) ∧
    (∀ t task, r.tasks[t]? = some task → ∃ count response,
      (after start (moves ++ List.replicate count (.advance t))).tasks[t]?.bind
        CheckTask.response? = some response) ∧
    ∀ request, ∃ count,
      let s := after start
        (moves ++ .call request :: List.replicate count (.advance r.tasks.length))
      s.tasks[r.tasks.length]?.bind CheckTask.response? = some (r.pool.check request).1 ∧
      s.pool = (r.pool.check request).2 := by
  intro r
  obtain ⟨hinOrder, hbuilt, hobtained⟩ : r.Consistent := consistent_after start moves
  refine ⟨?_, ?_, ?_, ?_, ?_, ?_, ?_⟩
  · rw [hbuilt]
    exact hinOrder.keys
  · intro key i hi
    have hkept := hobtained _ hi
    refine ⟨?_, hkept, fun j hj => ?_⟩
    · rw [hbuilt]
      exact Table.mem_of_find? hkept
    · exact Option.some.inj ((hobtained _ hj).symm.trans hkept)
  · rintro before rest hmoves key i hi
    have hkept := kept?_after_append start before rest hi
    rwa [← hmoves] at hkept
  · intro key l i j hi hj hserial
    exact hinOrder.key_eq hi hj hserial
  · intro t task ht hphase
    rcases traced_after start moves ht with ⟨hnew, -⟩ |
      ⟨-, before, rest, settled, hmoves, hcalled, hfollows⟩
    · exact absurd (by rw [hnew]) hphase
    · exact ⟨before, rest, settled, hmoves, hcalled, hfollows, fun _ => hfollows.answered⟩
  · intro t task ht
    obtain ⟨s, response, halone, hs⟩ := exists_alone_response ht
    obtain ⟨count, rfl⟩ := halone.exists_after
    exact ⟨count, response, hs⟩
  · intro request
    obtain ⟨s, halone, hresponse, hpool⟩ := r.exists_alone_answered request
    rw [← after_snoc] at halone
    obtain ⟨count, rfl⟩ := halone.exists_after
    refine ⟨count, ?_⟩
    rw [List.append_cons]
    exact ⟨hresponse, hpool⟩

end CheckRun

end ServiceControl
