import ServiceControl.Reports.Pipeline

/-!
# What the pipeline does in one step

A worker takes a report, hands its report to the next outlet, turns back to the queue, or leaves. A
batcher gathers, or passes a batch on. The statements about whole runs look at these steps and not
at the definitions behind them. No step changes what the outlets are: their consumers, and which of
them take batches.
-/

namespace ServiceControl

/-- An entry of a list is exchanged, and what stands before it and behind it stays. -/
theorem exists_set_eq {α : Type} {l : List α} {i : Nat} {a : α} (h : l[i]? = some a) (b : α) :
    ∃ front back, l = front ++ [a] ++ back ∧ l.set i b = front ++ [b] ++ back := by
  obtain ⟨hlt, rfl⟩ := List.getElem?_eq_some_iff.mp h
  refine ⟨l.take i, l.drop (i + 1), ?_, ?_⟩
  · rw [List.append_assoc, List.singleton_append, List.getElem_cons_drop, List.take_append_drop]
  · rw [List.append_assoc, List.singleton_append, List.set_eq_take_append_cons_drop, if_pos hlt]

/-- A change that an observation does not see leaves the observed list as it is. -/
theorem map_set_of_eq {α β : Type} {l : List α} {i : Nat} {a b : α} {f : α → β}
    (h : l[i]? = some a) (hf : f b = f a) : (l.set i b).map f = l.map f := by
  obtain ⟨front, back, hold, hnew⟩ := exists_set_eq h b
  rw [hnew, hold]
  simp only [List.map_append, List.map_cons, hf]

/-- What is made of the entries of a list, before and after one of them is exchanged. -/
theorem exists_filterMap_set_eq {α β : Type} {l : List α} {i : Nat} {a : α} (h : l[i]? = some a)
    (b : α) (f : α → Option β) :
    ∃ front back, l.filterMap f = front ++ (f a).toList ++ back ∧
      (l.set i b).filterMap f = front ++ (f b).toList ++ back := by
  obtain ⟨front, back, hold, hnew⟩ := exists_set_eq h b
  have hone (c : α) : [c].filterMap f = (f c).toList := by
    rw [List.filterMap_cons]
    cases f c <;> rfl
  refine ⟨front.filterMap f, back.filterMap f, ?_, ?_⟩
  · rw [hold, List.filterMap_append, List.filterMap_append, hone]
  · rw [hnew, List.filterMap_append, List.filterMap_append, hone]

/-- An entry of a list is exchanged, and so is its part of a sum. -/
theorem sum_map_set {α : Type} {l : List α} {i : Nat} {a : α} (h : l[i]? = some a) (b : α)
    (f : α → Nat) : ((l.set i b).map f).sum + f a = (l.map f).sum + f b := by
  obtain ⟨front, back, hold, hnew⟩ := exists_set_eq h b
  rw [hnew, hold]
  simp only [List.map_append, List.sum_append, List.map_cons, List.map_nil, List.sum_cons,
    List.sum_nil]
  omega

/-- A consumer that never breaks off the task that calls it. -/
def Consumer.IsCalm (c : Consumer) : Prop := ∀ earlier rs, c.deliver earlier rs ≠ .crashed

namespace Batcher

variable {α : Type}

/-- The steps of a batcher, with the batch that goes out. -/
inductive Goes (b : Batcher α) (now : Nat) : Option (List α) × Batcher α → Prop where
  | breaks (running : b.isRunning = true) (large : largest < b.limit) : Goes b now (none, b.crash)
  | completes {item : α} {rest : List α} (due : Nat) (running : b.isRunning = true)
    (incoming : b.incoming = item :: rest) (full : b.limit ≤ b.batch.length + 1) :
    Goes b now (some (b.batch ++ [item]), { b with incoming := rest, batch := [], due })
  | gathers {item : α} {rest : List α} (due : Nat) (running : b.isRunning = true)
    (incoming : b.incoming = item :: rest) (room : b.batch.length + 1 < b.limit) :
    Goes b now (none, { b with incoming := rest, batch := b.batch ++ [item], due })
  | ends (running : b.isRunning = true) (incoming : b.incoming = []) (closed : b.isOpen = false) :
    Goes b now (if b.batch.isEmpty then none else some b.batch,
      { b with batch := [], isRunning := false })
  | flushes (running : b.isRunning = true) (incoming : b.incoming = []) (started : b.batch ≠ [])
    (elapsed : b.due ≤ now) : Goes b now (some b.batch, { b with batch := [] })

/-- A batcher does nothing else. -/
theorem Goes.of_step {b : Batcher α} {now : Nat} {next : Option (List α) × Batcher α}
    (h : b.step now = some next) : b.Goes now next := by
  unfold step at h
  split at h
  · cases h
  · next hr =>
    have hrunning : b.isRunning = true := by simpa using hr
    split at h
    · next hlarge =>
      obtain rfl := Option.some.inj h
      exact .breaks hrunning hlarge
    · split at h
      · next item rest hin =>
        obtain rfl := Option.some.inj h
        simp only [gather, List.length_append, List.length_singleton]
        split
        · next hfull => exact .completes _ hrunning hin hfull
        · next hroom => exact .gathers _ hrunning hin (Nat.lt_of_not_le hroom)
      · next hin =>
        split at h
        · next hclosed =>
          obtain rfl := Option.some.inj h
          exact .ends hrunning hin (by simpa using hclosed)
        · split at h
          · cases h
          · next hdue =>
            obtain rfl := Option.some.inj h
            simp only [Bool.or_eq_true, List.isEmpty_iff, decide_eq_true_eq, not_or,
              Nat.not_lt] at hdue
            exact .flushes hrunning hin hdue.1 hdue.2

/-- A batcher that takes items is open, and adds them to the others if it runs. -/
theorem offer_eq_some {b b' : Batcher α} {items : List α} (h : b.offer items = some b') :
    b.isOpen = true ∧ (b.isRunning = true ∨ items = []) ∧
      b' = { b with incoming := if b.isRunning then b.incoming ++ items else b.incoming } := by
  unfold offer at h
  split at h
  · cases h
  · next hopen =>
    split at h
    · cases h
    · next hrunning =>
      refine ⟨by simpa using hopen, ?_, (Option.some.inj h).symm⟩
      cases hr : b.isRunning with
      | true => exact .inl rfl
      | false => exact .inr (by simpa [hr] using hrunning)

end Batcher

/-- What is taken from the queue was the first of what waits. -/
theorem ReportQueue.take?_eq_some {q q' : ReportQueue} {r : ReportRequest}
    (h : q.take? = some (r, q')) :
    q.waiting = r :: q'.waiting ∧ q' = { q with waiting := q'.waiting } := by
  unfold take? at h
  split at h
  · next r' rest hq =>
    obtain ⟨rfl, rfl⟩ := Prod.mk.inj (Option.some.inj h)
    exact ⟨hq, rfl⟩
  · cases h

/-- What is put into the queue waits behind the rest, and there are senders and a receiver. -/
theorem ReportQueue.put_eq_ok {q q' : ReportQueue} {r : ReportRequest} (h : q.put r = .ok q') :
    q.hasSenders = true ∧ q.hasReceiver = true ∧
      q' = { q with waiting := q.waiting ++ [r] } := by
  unfold put at h
  split at h
  · cases h
  · next hopen =>
    split at h
    · obtain rfl := Except.ok.inj h
      simp only [Bool.or_eq_true, Bool.not_eq_true', not_or, Bool.not_eq_false] at hopen
      exact ⟨hopen.2, hopen.1, rfl⟩
    · cases h

namespace Pipeline

/-- The consumers in their places, and whether they take batches. -/
def plan (p : Pipeline) : List (Consumer × Bool) :=
  p.outlets.map fun o => (o.consumer, o.batcher.isSome)

theorem length_plan (p : Pipeline) : p.plan.length = p.outlets.length := List.length_map _

/-- What is in a place of the plan is the outlet there. -/
theorem getElem?_plan (p : Pipeline) (place : Nat) :
    p.plan[place]? = p.outlets[place]?.map fun o => (o.consumer, o.batcher.isSome) :=
  List.getElem?_map

/-- One more call is seen at its own place only. -/
theorem callsOf_append {p q : Pipeline} {place : Nat} {reports : List ReportRequest}
    (h : q.calls = p.calls ++ [⟨place, reports⟩]) (i : Nat) :
    q.callsOf i = p.callsOf i ++ if place = i then [reports] else [] := by
  simp only [callsOf, h, List.filter_append, List.map_append]
  by_cases hi : place = i <;> simp [hi]

/-- The calls at a place are found among all calls. -/
theorem callsOf_congr {p q : Pipeline} (h : q.calls = p.calls) (i : Nat) :
    q.callsOf i = p.callsOf i := by rw [callsOf, h, callsOf]

/-- Reports go to the consumer itself, or to its batcher, or nowhere if the batcher is closed. -/
theorem hand_cases (p : Pipeline) (place : Nat) (o : Outlet) (rs : List ReportRequest) :
    (o.batcher = none ∧ p.hand place o rs =
      (o.consumer.deliver (p.callsOf place) rs, { p with calls := p.calls ++ [⟨place, rs⟩] })) ∨
    (∃ b b', o.batcher = some b ∧ b.offer rs = some b' ∧ p.hand place o rs =
      (.taken, { p with outlets := p.outlets.set place { o with batcher := some b' } })) ∨
    (∃ b, o.batcher = some b ∧ b.offer rs = none ∧
      p.hand place o rs = (.refused (closedMessage o.consumer.name), p)) := by
  cases hb : o.batcher with
  | none => exact .inl ⟨rfl, by simp only [hand, hb, call]⟩
  | some b =>
    cases ho : b.offer rs with
    | some b' => exact .inr (.inl ⟨b, b', rfl, ho, by simp only [hand, hb, ho]⟩)
    | none => exact .inr (.inr ⟨b, rfl, ho, by simp only [hand, hb, ho]⟩)

@[simp] theorem queue_hand (p : Pipeline) (place : Nat) (o : Outlet) (rs : List ReportRequest) :
    (p.hand place o rs).2.queue = p.queue := by
  rcases p.hand_cases place o rs with ⟨-, h⟩ | ⟨b, b', -, -, h⟩ | ⟨b, -, -, h⟩ <;> rw [h]

@[simp] theorem workers_hand (p : Pipeline) (place : Nat) (o : Outlet) (rs : List ReportRequest) :
    (p.hand place o rs).2.workers = p.workers := by
  rcases p.hand_cases place o rs with ⟨-, h⟩ | ⟨b, b', -, -, h⟩ | ⟨b, -, -, h⟩ <;> rw [h]

/-- Handing reports on does not change what the outlets are. -/
theorem plan_hand {p : Pipeline} {place : Nat} {o : Outlet} (ho : p.outlets[place]? = some o)
    (rs : List ReportRequest) : (p.hand place o rs).2.plan = p.plan := by
  rcases p.hand_cases place o rs with ⟨-, h⟩ | ⟨b, b', hb, -, h⟩ | ⟨b, -, -, h⟩ <;> rw [h]
  · rfl
  · exact map_set_of_eq ho (by rw [hb]; rfl)

/-- Where the consumer is calm, the call does not break off. -/
theorem hand_ne_crashed (p : Pipeline) (place : Nat) {o : Outlet} (hc : o.consumer.IsCalm)
    (rs : List ReportRequest) : (p.hand place o rs).1 ≠ .crashed := by
  rcases p.hand_cases place o rs with ⟨-, h⟩ | ⟨b, b', -, -, h⟩ | ⟨b, -, -, h⟩ <;> rw [h]
  · exact hc _ _
  · exact nofun
  · exact nofun

/-- What a worker is after the outcome of a call. -/
def Worker.after (r : ReportRequest) (place : Nat) (d : Delivery) : Worker :=
  if d = .crashed then .finished else .delivering r (place + 1)

/-- All that the outcome of a call changes besides the metrics is the worker. -/
theorem proceed_eq (p : Pipeline) (worker : Nat) (o : Outlet) (r : ReportRequest) (place : Nat)
    (d : Delivery) :
    ∃ metrics, p.proceed worker o r place d =
      { p with workers := p.workers.set worker (Worker.after r place d), metrics } := by
  cases d <;> exact ⟨_, rfl⟩

/-- The steps of a worker. -/
inductive WorkerStep (p : Pipeline) (worker : Nat) : Pipeline → Prop where
  | takes {r : ReportRequest} {queue : ReportQueue} (waits : p.workers[worker]? = some .waiting)
    (next : p.queue.take? = some (r, queue)) :
    WorkerStep p worker { p with queue, workers := p.workers.set worker (.delivering r 0) }
  | leaves (waits : p.workers[worker]? = some .waiting) (done : p.queue.isDone = true) :
    WorkerStep p worker { p with workers := p.workers.set worker .finished }
  | hands {r : ReportRequest} {place : Nat} {o : Outlet} (metrics : Metrics)
    (delivers : p.workers[worker]? = some (.delivering r place))
    (outlet : p.outlets[place]? = some o) :
    WorkerStep p worker { (p.hand place o [r]).2 with
      workers := p.workers.set worker (Worker.after r place (p.hand place o [r]).1), metrics }
  | turns {r : ReportRequest} {place : Nat}
    (delivers : p.workers[worker]? = some (.delivering r place))
    (through : p.outlets[place]? = none) :
    WorkerStep p worker { p with workers := p.workers.set worker .waiting }

/-- A worker does nothing else. -/
theorem WorkerStep.of_stepWorker {p q : Pipeline} {worker : Nat}
    (h : p.stepWorker worker = some q) : WorkerStep p worker q := by
  unfold stepWorker at h
  split at h
  · next hw =>
    split at h
    · next r queue hq =>
      obtain rfl := Option.some.inj h
      exact .takes hw hq
    · split at h
      · next hdone =>
        obtain rfl := Option.some.inj h
        exact .leaves hw hdone
      · cases h
  · next r place hw =>
    split at h
    · next o ho =>
      obtain ⟨metrics, he⟩ :=
        (p.hand place o [r]).2.proceed_eq worker o r place (p.hand place o [r]).1
      have hq : (p.hand place o [r]).2.proceed worker o r place (p.hand place o [r]).1 = q :=
        Option.some.inj h
      rw [← hq, he, workers_hand]
      exact .hands metrics hw ho
    · next ho =>
      obtain rfl := Option.some.inj h
      exact .turns hw ho
  · cases h

/-- The steps of a batcher. -/
inductive BatcherStep (p : Pipeline) (place : Nat) : Pipeline → Prop where
  | gathers {o : Outlet} {b b' : Batcher ReportRequest} (outlet : p.outlets[place]? = some o)
    (batcher : o.batcher = some b) (step : b.step p.now = some (none, b')) :
    BatcherStep p place { p with outlets := p.outlets.set place { o with batcher := some b' } }
  | passes {o : Outlet} {b b' : Batcher ReportRequest} {batch : List ReportRequest}
    (outlet : p.outlets[place]? = some o) (batcher : o.batcher = some b)
    (step : b.step p.now = some (some batch, b')) :
    BatcherStep p place { p with
      calls := p.calls ++ [⟨place, batch⟩]
      outlets := p.outlets.set place { o with
        batcher := some
          (if o.consumer.deliver (p.callsOf place) batch = .crashed then b'.crash else b') } }

/-- A batcher does nothing else. -/
theorem BatcherStep.of_stepBatcher {p q : Pipeline} {place : Nat}
    (h : p.stepBatcher place = some q) : BatcherStep p place q := by
  unfold stepBatcher at h
  split at h
  · next o ho =>
    cases hb : o.batcher with
    | none =>
      rw [hb] at h
      cases h
    | some b =>
      rw [hb, Option.bind_some] at h
      split at h
      · next b' hs =>
        obtain rfl := Option.some.inj h
        exact .gathers ho hb hs
      · next batch b' hs =>
        obtain rfl := Option.some.inj h
        exact .passes ho hb hs
      · cases h
  · cases h

/-- Pipelines of one plan have equally many outlets. -/
theorem length_outlets_of_plan_eq {p q : Pipeline} (h : q.plan = p.plan) :
    q.outlets.length = p.outlets.length := by rw [← length_plan, h, length_plan]

/-- No step of a worker changes what the outlets are. -/
theorem WorkerStep.plan_eq {p q : Pipeline} {worker : Nat} (h : WorkerStep p worker q) :
    q.plan = p.plan := by
  cases h with
  | takes => rfl
  | leaves => rfl
  | hands _ _ ho => exact plan_hand ho _
  | turns => rfl

/-- No step of a batcher changes what the outlets are. -/
theorem BatcherStep.plan_eq {p q : Pipeline} {place : Nat} (h : BatcherStep p place q) :
    q.plan = p.plan := by
  cases h with
  | gathers ho hb => exact map_set_of_eq ho (by rw [hb]; rfl)
  | passes ho hb => exact map_set_of_eq ho (by rw [hb]; rfl)

/-- Steps of workers take no time. -/
theorem WorkerStep.now_eq {p q : Pipeline} {worker : Nat} (h : WorkerStep p worker q) :
    q.now = p.now := by
  cases h with
  | takes | leaves | turns => rfl
  | @hands r place o metrics =>
    rcases p.hand_cases place o [r] with ⟨-, hhand⟩ | ⟨b, b', -, -, hhand⟩ | ⟨b, -, -, hhand⟩ <;>
      rw [hhand]

/-- Neither do those of batchers. -/
theorem BatcherStep.now_eq {p q : Pipeline} {place : Nat} (h : BatcherStep p place q) :
    q.now = p.now := by
  cases h with
  | gathers | passes => rfl

end Pipeline

end ServiceControl
