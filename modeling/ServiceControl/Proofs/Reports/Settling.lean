import ServiceControl.Proofs.Reports.Steps

/-!
# The pipeline comes to rest

The work that is left of a pipeline is weighed so that every step takes some of it away: a waiting
report weighs as much as all that is done with it, from the take to the last batch that it is passed
on in. There is never more work than the number of steps that settling allows for, so settling ends
where no step is possible. What each step keeps is kept by settling.
-/

namespace ServiceControl

/-- A bound on entries gives one on their sum. -/
theorem sum_map_le {α : Type} {f g : α → Nat} {c : Nat} (h : ∀ a, f a ≤ 2 * g a + c) (l : List α) :
    (l.map f).sum ≤ 2 * (l.map g).sum + l.length * c := by
  induction l with
  | nil => exact Nat.zero_le _
  | cons a l ih =>
    have ha := h a
    simp only [List.map_cons, List.sum_cons, List.length_cons, Nat.succ_mul]
    omega

/-- The work that is left of a batcher: an item is gathered and then passed on. -/
def Batcher.weight {α : Type} (b : Batcher α) : Nat :=
  (if b.isRunning then 1 else 0) + 2 * b.incoming.length + b.batch.length

/-- Each step of a batcher takes some of its work away. -/
theorem Batcher.Goes.weight_lt {α : Type} {b : Batcher α} {now : Nat}
    {next : Option (List α) × Batcher α} (h : b.Goes now next) : next.2.weight < b.weight := by
  cases h with
  | breaks hrunning =>
    have hcrash : b.crash.weight = 0 := rfl
    rw [hcrash, weight, if_pos hrunning]
    omega
  | completes _ hrunning hin =>
    simp only [weight, hin, List.length_cons, List.length_nil]
    omega
  | gathers _ hrunning hin =>
    simp only [weight, hin, List.length_cons, List.length_append, List.length_nil]
    omega
  | ends hrunning hin =>
    simp only [weight, if_pos hrunning, hin, List.length_nil, Bool.false_eq_true, if_false]
    omega
  | flushes hrunning hin hstarted =>
    have hpos := List.length_pos_iff.mpr hstarted
    simp only [weight, List.length_nil]
    omega

/-- Items that are taken can be gathered and passed on. -/
theorem Batcher.weight_offer {α : Type} {b b' : Batcher α} {items : List α}
    (h : b.offer items = some b') : b'.weight ≤ b.weight + 2 * items.length := by
  obtain ⟨-, -, rfl⟩ := offer_eq_some h
  cases hr : b.isRunning with
  | false => simp [weight, hr]
  | true =>
    simp only [weight, hr, ↓reduceIte, List.length_append]
    omega

/-- The work that is left of an outlet is that of its batcher. -/
def Outlet.weight (o : Outlet) : Nat := (o.batcher.map Batcher.weight).getD 0

/-- The work that is left of a worker, if there are so many outlets: to hand its report to each of
them that is still to come, and to turn back. -/
def Worker.weight (outlets : Nat) : Worker → Nat
  | .waiting => 1
  | .delivering _ next => 2 + 3 * (outlets - next)
  | .finished => 0

namespace Pipeline

/-- The work that is left of a pipeline. -/
def weight (p : Pipeline) : Nat :=
  p.queue.waiting.length * (3 * p.outlets.length + 2) +
    (p.workers.map (Worker.weight p.outlets.length)).sum + (p.outlets.map Outlet.weight).sum

/-- There is no more work than steps are allowed for. -/
theorem weight_le_stepBound (p : Pipeline) : p.weight ≤ p.stepBound := by
  have hworker (w : Worker) :
      w.weight p.outlets.length ≤ 2 * 0 + (3 * p.outlets.length + 2) := by
    cases w <;> simp only [Worker.weight] <;> omega
  have hworkers := sum_map_le hworker p.workers
  rw [List.map_const', List.sum_replicate_nat] at hworkers
  have hqueue : p.queue.waiting.length * (3 * p.outlets.length + 2) +
      p.workers.length * (3 * p.outlets.length + 2) ≤
      (p.queue.waiting.length + p.workers.length + 1) * (4 * p.outlets.length + 4) := by
    rw [← Nat.add_mul]
    exact Nat.mul_le_mul (Nat.le_succ _) (by omega)
  have hbound (held : Outlet → Nat) (hheld : ∀ o, o.weight ≤ 2 * held o + 1) : p.weight ≤
      (p.queue.waiting.length + p.workers.length + 1) * (4 * p.outlets.length + 4) +
        2 * (p.outlets.map held).sum + 2 * p.workers.length + 4 * p.outlets.length := by
    have houtlets := sum_map_le hheld p.outlets
    unfold weight
    omega
  refine hbound _ fun o => ?_
  unfold Outlet.weight
  cases o.batcher with
  | none => exact Nat.zero_le _
  | some b =>
    simp only [Option.map_some, Option.getD_some, Batcher.weight]
    split <;> omega

/-- A report that is handed on is work for one batcher at most. -/
theorem weight_hand (p : Pipeline) {place : Nat} {o : Outlet} (ho : p.outlets[place]? = some o)
    (r : ReportRequest) :
    ((p.hand place o [r]).2.outlets.map Outlet.weight).sum ≤
      (p.outlets.map Outlet.weight).sum + 2 := by
  rcases p.hand_cases place o [r] with ⟨-, h⟩ | ⟨b, b', hb, hoffer, h⟩ | ⟨b, -, -, h⟩ <;> rw [h]
  · exact Nat.le_add_right _ _
  · have hsum := sum_map_set ho { o with batcher := some b' } Outlet.weight
    have hweight := Batcher.weight_offer hoffer
    have hold : o.weight = b.weight := by rw [Outlet.weight, hb]; rfl
    have hnew : Outlet.weight { o with batcher := some b' } = b'.weight := rfl
    rw [List.length_singleton] at hweight
    dsimp only
    omega
  · exact Nat.le_add_right _ _

/-- Each step of a worker takes some of the work away. -/
theorem WorkerStep.weight_lt {p q : Pipeline} {worker : Nat} (h : WorkerStep p worker q) :
    q.weight < p.weight := by
  have hlength := length_outlets_of_plan_eq h.plan_eq
  unfold weight
  rw [hlength]
  cases h with
  | @takes r queue hw hq =>
    have hsum := sum_map_set hw (.delivering r 0) (Worker.weight p.outlets.length)
    obtain ⟨hwaiting, -⟩ := ReportQueue.take?_eq_some hq
    simp only [hwaiting, List.length_cons, Nat.succ_mul]
    simp only [Worker.weight] at hsum
    omega
  | leaves hw =>
    have hsum := sum_map_set hw .finished (Worker.weight p.outlets.length)
    simp only [Worker.weight] at hsum
    dsimp only
    omega
  | @hands r place o metrics hw ho =>
    have hsum := sum_map_set hw (Worker.after r place (p.hand place o [r]).1)
      (Worker.weight p.outlets.length)
    have hhand := p.weight_hand ho r
    have hlt := (List.getElem?_eq_some_iff.mp ho).1
    have hafter : (Worker.after r place (p.hand place o [r]).1).weight p.outlets.length ≤
        2 + 3 * (p.outlets.length - (place + 1)) := by
      unfold Worker.after
      split <;> simp only [Worker.weight] <;> omega
    have hold : Worker.weight p.outlets.length (.delivering r place) =
        2 + 3 * (p.outlets.length - place) := rfl
    simp only [queue_hand]
    omega
  | turns hw =>
    have hsum := sum_map_set hw .waiting (Worker.weight p.outlets.length)
    simp only [Worker.weight] at hsum
    dsimp only
    omega

/-- Each step of a batcher takes some of the work away. -/
theorem BatcherStep.weight_lt {p q : Pipeline} {place : Nat} (h : BatcherStep p place q) :
    q.weight < p.weight := by
  have hlength := length_outlets_of_plan_eq h.plan_eq
  have hless {o : Outlet} {b b' : Batcher ReportRequest} (ho : p.outlets[place]? = some o)
      (hb : o.batcher = some b) (hlt : b'.weight < b.weight) :
      ((p.outlets.set place { o with batcher := some b' }).map Outlet.weight).sum <
        (p.outlets.map Outlet.weight).sum := by
    have hsum := sum_map_set ho { o with batcher := some b' } Outlet.weight
    have hold : o.weight = b.weight := by rw [Outlet.weight, hb]; rfl
    have hnew : Outlet.weight { o with batcher := some b' } = b'.weight := rfl
    omega
  unfold weight
  rw [hlength]
  cases h with
  | gathers ho hb hs =>
    exact Nat.add_lt_add_left (hless ho hb (Batcher.Goes.of_step hs).weight_lt) _
  | @passes o b b' batch ho hb hs =>
    have hlt : b'.weight < b.weight := (Batcher.Goes.of_step hs).weight_lt
    have hcrash : b'.crash.weight = 0 := rfl
    refine Nat.add_lt_add_left (hless ho hb ?_) _
    split <;> omega

/-- A step of the pipeline is one of a worker or of a batcher. -/
theorem step?_cases {p q : Pipeline} (h : p.step? = some q) :
    (∃ worker, p.stepWorker worker = some q) ∨ ∃ place, p.stepBatcher place = some q := by
  rcases Option.or_eq_some_iff.mp h with h | ⟨-, h⟩
  · obtain ⟨worker, -, hw⟩ := List.exists_of_findSome?_eq_some h
    exact .inl ⟨worker, hw⟩
  · obtain ⟨place, -, hb⟩ := List.exists_of_findSome?_eq_some h
    exact .inr ⟨place, hb⟩

/-- Each step takes some of the work away. -/
theorem weight_lt_of_step? {p q : Pipeline} (h : p.step? = some q) : q.weight < p.weight := by
  rcases step?_cases h with ⟨_, h⟩ | ⟨_, h⟩
  · exact (WorkerStep.of_stepWorker h).weight_lt
  · exact (BatcherStep.of_stepBatcher h).weight_lt

/-- So many steps as there is work lead to rest. -/
theorem step?_run {n : Nat} {p : Pipeline} (h : p.weight ≤ n) : (run n p).step? = none := by
  induction n generalizing p with
  | zero =>
    cases hs : p.step? with
    | none => exact hs
    | some q =>
      have hlt := weight_lt_of_step? hs
      omega
  | succ n ih =>
    unfold run
    cases hs : p.step? with
    | none => exact hs
    | some q =>
      have hlt := weight_lt_of_step? hs
      exact ih (by omega)

/-- Settling leads to rest. -/
theorem step?_settle (p : Pipeline) : p.settle.step? = none := step?_run p.weight_le_stepBound

/-- A pipeline at rest is not changed by settling. -/
theorem settle_of_step? {p : Pipeline} (h : p.step? = none) : p.settle = p := by
  unfold settle
  cases p.stepBound with
  | zero => rfl
  | succ n => simp only [run, h]

/-- What all steps keep is kept by settling. -/
theorem settle_induction {P : Pipeline → Prop}
    (hworker : ∀ p q worker, P p → p.stepWorker worker = some q → P q)
    (hbatcher : ∀ p q place, P p → p.stepBatcher place = some q → P q) {p : Pipeline} (h : P p) :
    P p.settle := by
  have hrun : ∀ n p, P p → P (run n p) := by
    intro n
    induction n with
    | zero => exact fun _ h => h
    | succ n ih =>
      intro p h
      unfold run
      split
      · next q hs =>
        rcases step?_cases hs with ⟨worker, hw⟩ | ⟨place, hb⟩
        · exact ih q (hworker p q worker h hw)
        · exact ih q (hbatcher p q place h hb)
      · exact h
  exact hrun _ p h

/-- At rest, no worker and no batcher has anything to do. -/
theorem steps_eq_none_of_step? {p : Pipeline} (h : p.step? = none) :
    (∀ worker, p.stepWorker worker = none) ∧ ∀ place, p.stepBatcher place = none := by
  obtain ⟨hworkers, hbatchers⟩ := Option.or_eq_none_iff.mp h
  rw [List.findSome?_eq_none_iff] at hworkers hbatchers
  refine ⟨fun worker => ?_, fun place => ?_⟩
  · rcases Nat.lt_or_ge worker p.workers.length with hlt | hge
    · exact hworkers worker (List.mem_range.mpr hlt)
    · simp only [stepWorker, List.getElem?_eq_none hge]
  · rcases Nat.lt_or_ge place p.outlets.length with hlt | hge
    · exact hbatchers place (List.mem_range.mpr hlt)
    · simp only [stepBatcher, List.getElem?_eq_none hge]

/-- A worker that can do nothing has left, or waits for a report while there are senders. -/
theorem eq_finished_of_stepWorker {p : Pipeline} {worker : Nat} {w : Worker}
    (hw : p.workers[worker]? = some w) (hsenders : p.queue.hasSenders = false)
    (h : p.stepWorker worker = none) : w = .finished := by
  unfold stepWorker at h
  rw [hw] at h
  cases w with
  | finished => rfl
  | delivering r place => cases ho : p.outlets[place]? <;> simp [ho] at h
  | waiting =>
    cases hq : p.queue.waiting <;> simp [ReportQueue.take?, ReportQueue.isDone, hq, hsenders] at h

/-- Once the senders are gone, all workers leave. -/
theorem eq_finished_of_settle {p : Pipeline} (h : p.queue.hasSenders = false) :
    ∀ w ∈ p.settle.workers, w = Worker.finished := by
  have hsenders : p.settle.queue.hasSenders = false := by
    refine settle_induction (P := fun q => q.queue.hasSenders = false) ?_ ?_ h
    · intro q q' worker hq hstep
      cases WorkerStep.of_stepWorker hstep with
      | takes _ ht =>
        rw [(ReportQueue.take?_eq_some ht).2]
        exact hq
      | leaves => exact hq
      | hands => rwa [queue_hand]
      | turns => exact hq
    · intro q q' place hq hstep
      cases BatcherStep.of_stepBatcher hstep <;> exact hq
  intro w hw
  obtain ⟨worker, hget⟩ := List.mem_iff_getElem?.mp hw
  exact eq_finished_of_stepWorker hget hsenders ((steps_eq_none_of_step? p.step?_settle).1 worker)

end Pipeline

end ServiceControl
