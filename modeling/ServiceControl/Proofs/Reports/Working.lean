import ServiceControl.Proofs.Reports.Steps

/-!
# What workers do, step by step

Workers are run in any order, while reports are put into the queue and batchers do their part. The
log says which worker took which report and where it was handed. A report that was taken has either
been handed to an outlet, or the worker that has it still owes it to the outlet. Here stand the runs
and what single steps of workers keep.
-/

namespace ServiceControl

/-- What a worker did in a step. -/
inductive WorkerEvent where
  | took (r : ReportRequest)
  | handed (place : Nat) (r : ReportRequest)
  | left

namespace WorkerEvent

/-- The report that was taken. -/
def taken? : WorkerEvent → Option ReportRequest
  | took r => some r
  | _ => none

/-- The report that was handed to the outlet at a place. -/
def handedAt? (place : Nat) : WorkerEvent → Option ReportRequest
  | handed i r => if i = place then some r else none
  | _ => none

/-- A report is taken, and handed to so many outlets in order. -/
def turn (outlets : Nat) (r : ReportRequest) : List WorkerEvent :=
  took r :: (List.range outlets).map fun place => handed place r

end WorkerEvent

namespace Worker

/-- What a worker did, by what it was before and after. -/
def event? : Worker → Worker → Option WorkerEvent
  | .waiting, .delivering r _ => some (.took r)
  | .delivering r place, .delivering _ _ => some (.handed place r)
  | .waiting, .finished => some .left
  | _, _ => none

/-- The report that a worker has and that the outlet at a place has not got from it. -/
def owed? (place : Nat) : Worker → Option ReportRequest
  | .delivering r next => if next ≤ place then some r else none
  | _ => none

/-- What a worker has done so far: full turns, and the one that it is at, or its leaving. -/
def Fits (outlets : Nat) (events : List WorkerEvent) : Worker → Prop
  | .waiting => ∃ done : List ReportRequest, events = done.flatMap (WorkerEvent.turn outlets)
  | .delivering r next => next ≤ outlets ∧
    ∃ done : List ReportRequest,
      events = done.flatMap (WorkerEvent.turn outlets) ++ WorkerEvent.turn next r
  | .finished => ∃ done : List ReportRequest,
    events = done.flatMap (WorkerEvent.turn outlets) ++ [.left]

end Worker

/-- The pipeline, what was put into its queue and what its workers did. -/
structure WorkRun where
  pipeline : Pipeline
  /-- The reports that were put into the queue, in order. -/
  queued : List ReportRequest := []
  /-- What each step of a worker did, with the number of the worker. -/
  log : Table Nat WorkerEvent := []

/-- What can happen next. -/
inductive WorkMove where
  | put (r : ReportRequest)
  | dropSenders
  | work (worker : Nat)
  | gather (place : Nat)
  | wait (ms : Nat)

namespace WorkRun

/-- The run after a worker's step to a pipeline. -/
def worked (r : WorkRun) (worker : Nat) (p : Pipeline) : WorkRun :=
  let event : Option WorkerEvent := do
    let before ← r.pipeline.workers[worker]?
    let after ← p.workers[worker]?
    before.event? after
  { r with pipeline := p, log := r.log ++ event.toList.map fun e => (worker, e) }

/-- The run after one more move. -/
def step (r : WorkRun) : WorkMove → WorkRun
  | .put report =>
    match r.pipeline.queue.put report with
    | .ok queue =>
      { r with pipeline := { r.pipeline with queue }, queued := r.queued ++ [report] }
    | .error _ => r
  | .dropSenders =>
    { r with pipeline := { r.pipeline with queue := r.pipeline.queue.dropSenders } }
  | .work worker =>
    match r.pipeline.stepWorker worker with
    | some p => r.worked worker p
    | none => r
  | .gather place => { r with pipeline := (r.pipeline.stepBatcher place).getD r.pipeline }
  | .wait ms => { r with pipeline := { r.pipeline with now := r.pipeline.now + ms } }

/-- The run of moves once workers were started on an empty queue. -/
def after (outlets : List Outlet) (capacity workers : Nat) (moves : List WorkMove) : WorkRun :=
  moves.foldl step { pipeline :=
    ({ queue := .ofCapacity capacity, outlets } : Pipeline).start workers }

/-- The reports that were taken, in order. -/
def taken (r : WorkRun) : List ReportRequest := r.log.filterMap (·.2.taken?)

/-- The reports that were handed to the outlet at a place, in order. -/
def handedAt (r : WorkRun) (place : Nat) : List ReportRequest :=
  r.log.filterMap (·.2.handedAt? place)

/-- What one worker did, in order. -/
def eventsOf (r : WorkRun) (worker : Nat) : List WorkerEvent := Table.valuesOf worker r.log

theorem after_snoc (outlets : List Outlet) (capacity workers : Nat) (moves : List WorkMove)
    (m : WorkMove) : after outlets capacity workers (moves ++ [m]) =
      (after outlets capacity workers moves).step m := by
  rw [after, List.foldl_append]
  rfl

/-- The steps of a worker among calm consumers, with what they add to the log. -/
inductive Goes (r : WorkRun) (worker : Nat) : WorkRun → Prop where
  | takes {report : ReportRequest} {queue : ReportQueue}
    (waits : r.pipeline.workers[worker]? = some .waiting)
    (next : r.pipeline.queue.take? = some (report, queue)) :
    Goes r worker { r with
      pipeline := { r.pipeline with
        queue, workers := r.pipeline.workers.set worker (.delivering report 0) }
      log := r.log ++ [(worker, .took report)] }
  | leaves (waits : r.pipeline.workers[worker]? = some .waiting)
    (done : r.pipeline.queue.isDone = true) :
    Goes r worker { r with
      pipeline := { r.pipeline with workers := r.pipeline.workers.set worker .finished }
      log := r.log ++ [(worker, .left)] }
  | hands {report : ReportRequest} {place : Nat} {o : Outlet} (metrics : Metrics)
    (delivers : r.pipeline.workers[worker]? = some (.delivering report place))
    (outlet : r.pipeline.outlets[place]? = some o) :
    Goes r worker { r with
      pipeline := { (r.pipeline.hand place o [report]).2 with
        workers := r.pipeline.workers.set worker (.delivering report (place + 1)), metrics }
      log := r.log ++ [(worker, .handed place report)] }
  | turns {report : ReportRequest} {place : Nat}
    (delivers : r.pipeline.workers[worker]? = some (.delivering report place))
    (through : r.pipeline.outlets[place]? = none) :
    Goes r worker { r with
      pipeline := { r.pipeline with workers := r.pipeline.workers.set worker .waiting } }

/-- All consumers of a plan are calm. -/
def AllCalm (plan : List (Consumer × Bool)) : Prop := ∀ x ∈ plan, x.1.IsCalm

/-- A worker does nothing else, unless the consumer that it calls breaks it off, and then it does
not hand its report on. -/
theorem goes_or_breaks {r : WorkRun} {worker : Nat} {p : Pipeline}
    (h : r.pipeline.stepWorker worker = some p) :
    r.Goes worker (r.worked worker p) ∨
      ∃ report place o metrics, r.pipeline.workers[worker]? = some (.delivering report place) ∧
        r.pipeline.outlets[place]? = some o ∧
        (r.pipeline.hand place o [report]).1 = .crashed ∧
        r.worked worker p = { r with pipeline := { (r.pipeline.hand place o [report]).2 with
          workers := r.pipeline.workers.set worker .finished, metrics } } := by
  have hset {w x : Worker} (hw : r.pipeline.workers[worker]? = some w) :
      (r.pipeline.workers.set worker x)[worker]? = some x :=
    List.getElem?_set_self (List.getElem?_eq_some_iff.mp hw).1
  cases Pipeline.WorkerStep.of_stepWorker h with
  | takes hw hq =>
    simp only [worked, hw, hset hw, bind, Option.bind_some, Worker.event?]
    exact .inl (.takes hw hq)
  | leaves hw hdone =>
    simp only [worked, hw, hset hw, bind, Option.bind_some, Worker.event?]
    exact .inl (.leaves hw hdone)
  | @hands report place o metrics hw ho =>
    by_cases hcrash : (r.pipeline.hand place o [report]).1 = .crashed
    · refine .inr ⟨report, place, o, metrics, hw, ho, hcrash, ?_⟩
      simp only [worked, Pipeline.Worker.after, hcrash, if_true, hw, hset hw, bind,
        Option.bind_some, Worker.event?, Option.toList_none, List.map_nil, List.append_nil]
    · simp only [worked, Pipeline.Worker.after, hcrash, if_false, hw, hset hw, bind,
        Option.bind_some, Worker.event?]
      exact .inl (.hands metrics hw ho)
  | turns hw ho =>
    simp only [worked, hw, hset hw, bind, Option.bind_some, Worker.event?, Option.toList_none,
      List.map_nil, List.append_nil]
    exact .inl (.turns hw ho)

/-- Among calm consumers, no worker is broken off. -/
theorem Goes.of_stepWorker {r : WorkRun} (hcalm : AllCalm r.pipeline.plan) {worker : Nat}
    {p : Pipeline} (h : r.pipeline.stepWorker worker = some p) :
    r.Goes worker (r.worked worker p) := by
  refine (goes_or_breaks h).resolve_right ?_
  rintro ⟨report, place, o, -, -, ho, hcrash, -⟩
  have hc : o.consumer.IsCalm := by
    refine hcalm (o.consumer, o.batcher.isSome) (List.mem_of_getElem? (i := place) ?_)
    rw [Pipeline.getElem?_plan, ho]
    rfl
  exact r.pipeline.hand_ne_crashed place hc [report] hcrash

/-- The reports that workers have and that the outlet at a place has not got from them. -/
def owedAt (r : WorkRun) (place : Nat) : List ReportRequest :=
  r.pipeline.workers.filterMap (Worker.owed? place)

/-- What was taken has been handed to the outlet at a place, or is owed to it. -/
structure Shares (place : Nat) (r : WorkRun) : Prop where
  all : (r.handedAt place ++ r.owedAt place).Perm r.taken
  alone : r.pipeline.workers.length = 1 → r.handedAt place ++ r.owedAt place = r.taken

variable {r r' : WorkRun} {worker place : Nat}

/-- What a step adds to the log is seen behind the rest. -/
theorem handedAt_append {r r' : WorkRun} {entries : Table Nat WorkerEvent}
    (h : r'.log = r.log ++ entries) (place : Nat) :
    r'.handedAt place = r.handedAt place ++ entries.filterMap (·.2.handedAt? place) := by
  rw [handedAt, h, List.filterMap_append, handedAt]

theorem taken_append {r r' : WorkRun} {entries : Table Nat WorkerEvent}
    (h : r'.log = r.log ++ entries) : r'.taken = r.taken ++ entries.filterMap (·.2.taken?) := by
  rw [taken, h, List.filterMap_append, taken]

/-- One worker changes, and what it owed and took is what it handed and owes. -/
theorem Shares.of_set (hr : r.Shares place) {before next : Worker}
    (hw : r.pipeline.workers[worker]? = some before)
    (hworkers : r'.pipeline.workers = r.pipeline.workers.set worker next)
    {handed took : List ReportRequest} (hhanded : r'.handedAt place = r.handedAt place ++ handed)
    (htaken : r'.taken = r.taken ++ took)
    (h : handed ++ [next].filterMap (Worker.owed? place) =
      [before].filterMap (Worker.owed? place) ++ took) : r'.Shares place := by
  obtain ⟨hall, halone⟩ := hr
  obtain ⟨front, back, hold, hnew⟩ := exists_set_eq hw next
  rw [owedAt, hold, List.filterMap_append, List.filterMap_append] at hall halone
  refine ⟨?_, fun hone => ?_⟩
  · rw [hhanded, htaken, owedAt, hworkers, hnew, List.filterMap_append, List.filterMap_append]
    classical
    refine List.perm_iff_count.mpr fun report => ?_
    have hcount := hall.count_eq report
    have hmoved := congrArg (List.count report) h
    simp only [List.count_append] at hcount hmoved ⊢
    omega
  · rw [hworkers, List.length_set] at hone
    have hthere := halone (hold ▸ hone)
    have hlength := congrArg List.length hold
    simp only [List.length_append, List.length_singleton] at hlength
    obtain rfl : front = [] := List.length_eq_zero_iff.mp (by omega)
    obtain rfl : back = [] := List.length_eq_zero_iff.mp (by omega)
    simp only [List.filterMap_nil, List.nil_append, List.append_nil] at hthere hnew
    rw [hhanded, htaken, owedAt, hworkers, hnew, ← hthere, List.append_assoc, h,
      List.append_assoc]

/-- A worker that takes a report owes it to all outlets; one that hands it to an outlet does not owe
it there any more, and owes nothing once it is through. -/
theorem Goes.shares (h : r.Goes worker r') (hlt : place < r.pipeline.outlets.length)
    (hr : r.Shares place) : r'.Shares place := by
  cases h with
  | takes hw => exact hr.of_set hw rfl (handedAt_append rfl place) (taken_append rfl) rfl
  | leaves hw => exact hr.of_set hw rfl (handedAt_append rfl place) (taken_append rfl) rfl
  | @hands report i o metrics hw ho =>
    refine hr.of_set hw rfl (handedAt_append rfl place) (taken_append rfl) ?_
    rcases Nat.lt_trichotomy i place with hi | rfl | hi
    · have hne : i ≠ place := Nat.ne_of_lt hi
      have hnext : i + 1 ≤ place := hi
      have hthis : i ≤ place := Nat.le_of_lt hi
      simp [WorkerEvent.handedAt?, WorkerEvent.taken?, Worker.owed?, hne, hnext, hthis]
    · have hnext : ¬i + 1 ≤ i := Nat.not_succ_le_self i
      simp [WorkerEvent.handedAt?, WorkerEvent.taken?, Worker.owed?, hnext]
    · have hne : i ≠ place := Nat.ne_of_gt hi
      have hnext : ¬i + 1 ≤ place := by omega
      have hthis : ¬i ≤ place := Nat.not_le.mpr hi
      simp [WorkerEvent.handedAt?, WorkerEvent.taken?, Worker.owed?, hne, hnext, hthis]
  | @turns report i hw ho =>
    have hthrough := List.getElem?_eq_none_iff.mp ho
    have hnot : ¬i ≤ place := by omega
    refine hr.of_set hw rfl (List.append_nil _).symm (List.append_nil _).symm ?_
    simp [Worker.owed?, hnot]

/-- All workers have done what they are at. -/
def AllFit (outlets : Nat) (r : WorkRun) : Prop :=
  ∀ (v : Nat) (w : Worker), r.pipeline.workers[v]? = some w → w.Fits outlets (r.eventsOf v)

/-- One worker changes, and fits with the new events. -/
theorem AllFit.of_set {outlets : Nat} (hr : r.AllFit outlets) {next : Worker}
    (hworkers : r'.pipeline.workers = r.pipeline.workers.set worker next)
    (events : List WorkerEvent) (hlog : r'.log = r.log ++ events.map fun e => (worker, e))
    (h : next.Fits outlets (r.eventsOf worker ++ events)) : r'.AllFit outlets := by
  intro v w hw
  rw [eventsOf, hlog, Table.valuesOf_append, Table.valuesOf_map, ← eventsOf]
  rw [hworkers] at hw
  by_cases hv : worker = v
  · subst hv
    have hlt : worker < r.pipeline.workers.length := by
      have hlt := (List.getElem?_eq_some_iff.mp hw).1
      rwa [List.length_set] at hlt
    rw [List.getElem?_set_self hlt] at hw
    obtain rfl := Option.some.inj hw
    rw [if_pos rfl]
    exact h
  · rw [List.getElem?_set_ne hv] at hw
    rw [if_neg hv, List.append_nil]
    exact hr v w hw

/-- Each step of a worker is the next one of its turn, or begins or ends one. -/
theorem Goes.allFit (h : r.Goes worker r') (hr : r.AllFit r.pipeline.outlets.length) :
    r'.AllFit r.pipeline.outlets.length := by
  cases h with
  | @takes report queue hwaits =>
    obtain ⟨done, hdone⟩ := hr worker _ hwaits
    refine hr.of_set rfl [.took report] rfl ⟨Nat.zero_le _, done, ?_⟩
    rw [hdone]
    rfl
  | leaves hwaits =>
    obtain ⟨done, hdone⟩ := hr worker _ hwaits
    refine hr.of_set rfl [.left] rfl ⟨done, ?_⟩
    rw [hdone]
  | @hands report i o metrics hdelivers ho =>
    obtain ⟨-, done, hdone⟩ := hr worker _ hdelivers
    have hlt : i < r.pipeline.outlets.length := (List.getElem?_eq_some_iff.mp ho).1
    refine hr.of_set rfl [.handed i report] rfl ⟨hlt, done, ?_⟩
    rw [hdone, List.append_assoc, WorkerEvent.turn, WorkerEvent.turn, List.range_succ,
      List.map_append]
    rfl
  | @turns report i hdelivers ho =>
    obtain ⟨hle, done, hdone⟩ := hr worker _ hdelivers
    have hthrough := List.getElem?_eq_none_iff.mp ho
    obtain rfl : i = r.pipeline.outlets.length := Nat.le_antisymm hle hthrough
    refine hr.of_set rfl [] (List.append_nil _).symm ⟨done ++ [report], ?_⟩
    rw [hdone, List.flatMap_append, List.flatMap_singleton, List.append_nil]

/-- A consumer without a batcher was called with what was handed to it, one report at a time. -/
def AllCalled (r : WorkRun) : Prop :=
  ∀ (place : Nat) (c : Consumer), r.pipeline.plan[place]? = some (c, false) →
    r.pipeline.callsOf place = (r.handedAt place).map fun report => [report]

/-- In a place of a batcher there is no consumer without one. -/
theorem ne_of_plan {p : Pipeline} {i place : Nat} {o : Outlet} {b : Batcher ReportRequest}
    {c : Consumer} (ho : p.outlets[i]? = some o) (hb : o.batcher = some b)
    (hplan : p.plan[place]? = some (c, false)) : i ≠ place := by
  rintro rfl
  rw [Pipeline.getElem?_plan, ho, Option.map_some, hb] at hplan
  cases hplan

/-- A report is handed to a consumer by a call with this report. -/
theorem Goes.callsOf_eq (h : r.Goes worker r') {c : Consumer}
    (hplan : r'.pipeline.plan[place]? = some (c, false))
    (hr : r.pipeline.callsOf place = (r.handedAt place).map fun report => [report]) :
    r'.pipeline.callsOf place = (r'.handedAt place).map fun report => [report] := by
  cases h with
  | takes =>
    rw [handedAt_append rfl]
    exact hr.trans (by simp [WorkerEvent.handedAt?])
  | leaves =>
    rw [handedAt_append rfl]
    exact hr.trans (by simp [WorkerEvent.handedAt?])
  | @hands report i o metrics hw ho =>
    have hplan' : r.pipeline.plan[place]? = some (c, false) := by
      rwa [← Pipeline.plan_hand ho [report]]
    rw [handedAt_append rfl, List.map_append, ← hr]
    rcases r.pipeline.hand_cases i o [report] with ⟨-, h⟩ | ⟨b, b', hb, -, h⟩ | ⟨b, hb, -, h⟩
    · have hcalls : (r.pipeline.hand i o [report]).2.calls =
          r.pipeline.calls ++ [⟨i, [report]⟩] := by rw [h]
      refine (Pipeline.callsOf_append hcalls place).trans ?_
      by_cases hi : i = place <;> simp [WorkerEvent.handedAt?, hi]
    · have hi := ne_of_plan ho hb hplan'
      have hcalls : (r.pipeline.hand i o [report]).2.calls = r.pipeline.calls := by rw [h]
      refine (Pipeline.callsOf_congr hcalls place).trans ?_
      simp [WorkerEvent.handedAt?, hi]
    · have hi := ne_of_plan ho hb hplan'
      have hcalls : (r.pipeline.hand i o [report]).2.calls = r.pipeline.calls := by rw [h]
      refine (Pipeline.callsOf_congr hcalls place).trans ?_
      simp [WorkerEvent.handedAt?, hi]
  | turns => exact hr

/-- Nobody leaves before all senders are gone and nothing waits. -/
def NoneEarly (p : Pipeline) : Prop :=
  ∀ worker : Nat, p.workers[worker]? = some .finished →
    p.queue.waiting = [] ∧ p.queue.hasSenders = false

/-- A worker that changes and does not leave is not among those that have left. -/
theorem NoneEarly.of_set {p q : Pipeline} (hp : NoneEarly p) {next : Worker}
    (hworkers : q.workers = p.workers.set worker next) (hnext : next ≠ .finished)
    (hqueue : p.queue.waiting = [] ∧ p.queue.hasSenders = false →
      q.queue.waiting = [] ∧ q.queue.hasSenders = false) : NoneEarly q := by
  intro v hv
  rw [hworkers] at hv
  by_cases hw : worker = v
  · subst hw
    rw [List.getElem?_set] at hv
    split at hv
    · split at hv
      · exact absurd (Option.some.inj hv) hnext
      · cases hv
    · exact hqueue (hp worker hv)
  · rw [List.getElem?_set_ne hw] at hv
    exact hqueue (hp v hv)

/-- A worker leaves when the queue is done, and takes a report only while it is not. -/
theorem Goes.noneEarly (h : r.Goes worker r') (hr : NoneEarly r.pipeline) :
    NoneEarly r'.pipeline := by
  cases h with
  | takes _ hq =>
    refine hr.of_set rfl nofun fun hdone => ?_
    rw [(ReportQueue.take?_eq_some hq).1] at hdone
    cases hdone.1
  | leaves _ hdone =>
    intro v _
    simpa [ReportQueue.isDone] using hdone
  | hands =>
    refine hr.of_set rfl nofun fun hdone => ?_
    simpa using hdone
  | turns => exact hr.of_set rfl nofun id

/-- What was taken and what waits is what was put into the queue, in order. -/
def Flows (r : WorkRun) : Prop := r.taken ++ r.pipeline.queue.waiting = r.queued

/-- What is taken does not wait any more. -/
theorem Goes.flows (h : r.Goes worker r') (hr : r.Flows) : r'.Flows := by
  unfold Flows at hr ⊢
  cases h with
  | takes _ hq =>
    rw [taken_append rfl, ← hr, (ReportQueue.take?_eq_some hq).1, List.append_assoc]
    rfl
  | leaves =>
    rw [taken_append rfl, ← hr]
    simp [WorkerEvent.taken?]
  | hands =>
    rw [taken_append rfl, ← hr]
    simp [WorkerEvent.taken?]
  | turns => exact hr

/-- No step of a worker changes what the outlets are. -/
theorem Goes.plan_eq (h : r.Goes worker r') : r'.pipeline.plan = r.pipeline.plan := by
  cases h with
  | takes => rfl
  | leaves => rfl
  | hands _ _ ho => exact Pipeline.plan_hand ho _
  | turns => rfl

/-- Consumers without batchers are called with what is handed to them. -/
theorem Goes.allCalled (h : r.Goes worker r') (hr : r.AllCalled) : r'.AllCalled :=
  fun place c hplan => h.callsOf_eq hplan (hr place c (h.plan_eq ▸ hplan))

/-- No step of a worker changes how many there are, and only they are in the log. -/
theorem Goes.known (h : r.Goes worker r') {workers : Nat}
    (hlength : r.pipeline.workers.length = workers) (hr : ∀ x ∈ r.log, x.1 < workers) :
    r'.pipeline.workers.length = workers ∧ ∀ x ∈ r'.log, x.1 < workers := by
  have hmore {w : Worker} (hw : r.pipeline.workers[worker]? = some w) (e : WorkerEvent) :
      ∀ x ∈ r.log ++ [(worker, e)], x.1 < workers := by
    intro x hx
    rcases List.mem_append.mp hx with hx | hx
    · exact hr x hx
    · rw [List.mem_singleton.mp hx, ← hlength]
      exact (List.getElem?_eq_some_iff.mp hw).1
  cases h with
  | takes hw => exact ⟨List.length_set.trans hlength, hmore hw _⟩
  | leaves hw => exact ⟨List.length_set.trans hlength, hmore hw _⟩
  | hands _ hw => exact ⟨List.length_set.trans hlength, hmore hw _⟩
  | turns => exact ⟨List.length_set.trans hlength, hr⟩

end WorkRun

end ServiceControl
