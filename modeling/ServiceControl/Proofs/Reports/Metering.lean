import ServiceControl.Gateway.Basic
import ServiceControl.Proofs.Gateway.Counters
import ServiceControl.Proofs.Reports.Holding

/-!
# Reports are counted as they go through

A report counts when its sender is answered, and for every outlet that a worker hands it to. In
every order of steps of senders, workers and batchers, and whenever batchers are closed, the
counters agree with the answers to senders and with the outcomes of these calls. A report that went
through has been handed to each outlet, so the calls for a name are as many as the outlets of that
name, for each report; a report that a worker still has was handed to the first of them.
-/

namespace ServiceControl

/-- A call in which a worker hands a report to an outlet. -/
structure ConsumeCall where
  place : Nat
  /-- The outlet as the call found it. -/
  outlet : Outlet
  /-- The calls of its consumer before. -/
  earlier : List (List ReportRequest)
  report : ReportRequest
  outcome : Delivery

namespace ConsumeCall

/-- What a call is counted under: the name of the consumer, and whether the report was taken. -/
def label (c : ConsumeCall) : String × Bool := (c.outlet.consumer.name, c.outcome == .taken)

/-- The outcome of a call is what the consumer says to the report, or that its batcher takes it;
only one that was closed does not. -/
structure IsTrue (outlets : List Outlet) (c : ConsumeCall) : Prop where
  place : (outlets[c.place]?.map fun o => (o.consumer, o.batcher.isSome)) =
    some (c.outlet.consumer, c.outlet.batcher.isSome)
  unbatched : c.outlet.batcher = none →
    c.outcome = c.outlet.consumer.deliver c.earlier [c.report]
  batched : ∀ b, c.outlet.batcher = some b → c.outcome =
    if b.isOpen then .taken else .refused (Pipeline.closedMessage c.outlet.consumer.name)
  calm : c.outcome ≠ .crashed

end ConsumeCall

/-- What happens to a report. -/
inductive ReportEvent where
  /-- It is in the queue, and its sender was told so. -/
  | accepted (r : ReportRequest)
  | took (r : ReportRequest)
  | consumed (c : ConsumeCall)
  /-- It was handed to all outlets. -/
  | delivered (r : ReportRequest)

namespace ReportEvent

/-- The report whose sender was answered. -/
def accepted? : ReportEvent → Option ReportRequest
  | accepted r => some r
  | took _ | consumed _ | delivered _ => none

/-- The report that was taken from the queue. -/
def took? : ReportEvent → Option ReportRequest
  | took r => some r
  | accepted _ | consumed _ | delivered _ => none

/-- The call that was made. -/
def consumed? : ReportEvent → Option ConsumeCall
  | consumed c => some c
  | accepted _ | took _ | delivered _ => none

/-- The report that went through. -/
def delivered? : ReportEvent → Option ReportRequest
  | delivered r => some r
  | accepted _ | took _ | consumed _ => none

end ReportEvent

namespace Worker

/-- The report that a worker has. -/
def inHand? : Worker → Option ReportRequest
  | .delivering r _ => some r
  | .waiting | .finished => none

/-- To how many outlets of a name a worker has handed the report that it has. -/
def handed (names : List String) (name : String) : Worker → Nat
  | .delivering _ next => (names.take next).count name
  | .waiting | .finished => 0

end Worker

namespace Pipeline

/-- The call that hands a report to the outlet at a place. -/
def consumeCall (p : Pipeline) (place : Nat) (o : Outlet) (r : ReportRequest) : ConsumeCall where
  place
  outlet := o
  earlier := p.callsOf place
  report := r
  outcome := (p.hand place o [r]).1

/-- What the next step of a worker is for a report. -/
def event? (p : Pipeline) (worker : Nat) : Option ReportEvent :=
  match p.workers[worker]? with
  | some .waiting => p.queue.take?.map fun x => .took x.1
  | some (.delivering r place) =>
    match p.outlets[place]? with
    | some o => some (.consumed (p.consumeCall place o r))
    | none => some (.delivered r)
  | some .finished | none => none

/-- The steps of a worker among calm consumers, with what they are for a report
and what they count. -/
inductive Serves (p : Pipeline) (worker : Nat) : Option ReportEvent → Pipeline → Prop where
  | takes {r : ReportRequest} {queue : ReportQueue} (waits : p.workers[worker]? = some .waiting)
    (next : p.queue.take? = some (r, queue)) :
    Serves p worker (some (.took r))
      { p with queue, workers := p.workers.set worker (.delivering r 0) }
  | leaves (waits : p.workers[worker]? = some .waiting) :
    Serves p worker none { p with workers := p.workers.set worker .finished }
  | hands {r : ReportRequest} {place : Nat} {o : Outlet}
    (delivers : p.workers[worker]? = some (.delivering r place))
    (outlet : p.outlets[place]? = some o) (calm : (p.hand place o [r]).1 ≠ .crashed) :
    Serves p worker (some (.consumed (p.consumeCall place o r)))
      { (p.hand place o [r]).2 with
        workers := p.workers.set worker (.delivering r (place + 1))
        metrics := p.metrics.count
          (.reportsConsumed o.consumer.name ((p.hand place o [r]).1 == .taken)) }
  | turns {r : ReportRequest} {place : Nat}
    (delivers : p.workers[worker]? = some (.delivering r place))
    (through : p.outlets[place]? = none) :
    Serves p worker (some (.delivered r)) { p with workers := p.workers.set worker .waiting }

@[simp] theorem metrics_hand (p : Pipeline) (place : Nat) (o : Outlet) (rs : List ReportRequest) :
    (p.hand place o rs).2.metrics = p.metrics := by
  rcases p.hand_cases place o rs with ⟨-, h⟩ | ⟨b, b', -, -, h⟩ | ⟨b, -, -, h⟩ <;> rw [h]

/-- A worker that was not broken off goes on to the next outlet, and the call is counted. -/
theorem proceed_of_ne_crashed (p : Pipeline) (worker : Nat) (o : Outlet) (r : ReportRequest)
    (place : Nat) {d : Delivery} (h : d ≠ .crashed) : p.proceed worker o r place d =
      { p with
        workers := p.workers.set worker (.delivering r (place + 1))
        metrics := p.metrics.count (.reportsConsumed o.consumer.name (d == .taken)) } := by
  cases d with
  | taken | refused _ => rfl
  | crashed => exact absurd rfl h

/-- A worker does nothing else. -/
theorem serves_of_stepWorker {p q : Pipeline} {worker : Nat} (hcalm : WorkRun.AllCalm p.plan)
    (h : p.stepWorker worker = some q) : p.Serves worker (p.event? worker) q := by
  unfold stepWorker at h
  unfold event?
  split at h
  · next hw =>
    rw [hw]
    split at h
    · next r queue hq =>
      obtain rfl := Option.some.inj h
      simp only [hq, Option.map_some]
      exact .takes hw hq
    · next hq =>
      split at h
      · obtain rfl := Option.some.inj h
        simp only [hq, Option.map_none]
        exact .leaves hw
      · cases h
  · next r place hw =>
    rw [hw]
    split at h
    · next o ho =>
      have hne := p.hand_ne_crashed place (isCalm_of_outlet hcalm ho) [r]
      simp only [proceed_of_ne_crashed _ _ _ _ _ hne, workers_hand, metrics_hand] at h
      obtain rfl := Option.some.inj h
      simp only [ho]
      exact .hands hw ho hne
    · next ho =>
      obtain rfl := Option.some.inj h
      simp only [ho]
      exact .turns hw ho
  · cases h

end Pipeline

/-- Reports under way, and what has happened to them. -/
structure MeteredReports where
  pipeline : Pipeline
  /-- Reports that are in the queue or beyond, but whose senders were not told so yet. -/
  sent : List ReportRequest := []
  log : List ReportEvent := []

/-- What can happen next. -/
inductive ReportMove where
  /-- A report is put into the queue, if there is room and the queue is not closed. -/
  | send (r : ReportRequest)
  /-- A sender whose report is in the queue is told so. -/
  | answer (i : Nat)
  | work (worker : Nat)
  | gather (place : Nat)
  /-- The time of a batch is over although more reports wait. -/
  | expire (place : Nat)
  | close (place : Nat)
  | dropSenders
  | wait (ms : Nat)

namespace MeteredReports

/-- The reports after one more move. -/
def step (t : MeteredReports) : ReportMove → MeteredReports
  | .send r =>
    match t.pipeline.queue.put r with
    | .ok queue => { t with pipeline := { t.pipeline with queue }, sent := t.sent ++ [r] }
    | .error _ => t
  | .answer i =>
    match t.sent[i]? with
    | some r =>
      { pipeline := { t.pipeline with metrics := Gateway.countReport t.pipeline.metrics .sent }
        sent := t.sent.eraseIdx i
        log := t.log ++ [.accepted r] }
    | none => t
  | .work worker =>
    match t.pipeline.stepWorker worker with
    | some p => { t with pipeline := p, log := t.log ++ (t.pipeline.event? worker).toList }
    | none => t
  | .gather place => { t with pipeline := (t.pipeline.stepBatcher place).getD t.pipeline }
  | .expire place => { t with pipeline := (t.pipeline.expireBatcher place).getD t.pipeline }
  | .close place => { t with pipeline := t.pipeline.closeAt place }
  | .dropSenders =>
    { t with pipeline := { t.pipeline with queue := t.pipeline.queue.dropSenders } }
  | .wait ms => { t with pipeline := { t.pipeline with now := t.pipeline.now + ms } }

/-- The reports whose senders were told that they are in the queue. -/
def accepted (t : MeteredReports) : List ReportRequest := t.log.filterMap ReportEvent.accepted?

/-- The reports that were taken from the queue. -/
def taken (t : MeteredReports) : List ReportRequest := t.log.filterMap ReportEvent.took?

/-- The calls that handed reports to outlets. -/
def consumed (t : MeteredReports) : List ConsumeCall := t.log.filterMap ReportEvent.consumed?

/-- The reports that were handed to all outlets. -/
def delivered (t : MeteredReports) : List ReportRequest := t.log.filterMap ReportEvent.delivered?

/-- The reports that workers have taken and not handed to all outlets. -/
def inHand (t : MeteredReports) : List ReportRequest := t.pipeline.workers.filterMap Worker.inHand?

/-- To how many outlets of a name workers have handed the reports that they have. -/
def handed (t : MeteredReports) (names : List String) (name : String) : Nat :=
  (t.pipeline.workers.map (Worker.handed names name)).sum

/-- The counters of reports agree with what has happened to them. -/
structure Accounted (outlets : List Outlet) (t : MeteredReports) : Prop where
  plan : t.pipeline.plan = outlets.map fun o => (o.consumer, o.batcher.isSome)
  batchers : t.pipeline.AllSound
  enqueued : t.pipeline.metrics.get .reportsEnqueued = t.accepted.length
  outcomes : ∀ name ok, t.pipeline.metrics.get (.reportsConsumed name ok) =
    (t.consumed.map ConsumeCall.label).count (name, ok)
  calls : ∀ c ∈ t.consumed, c.IsTrue outlets
  shares : ∀ name, (t.consumed.map (·.label.1)).count name =
    t.delivered.length * (outlets.map (·.consumer.name)).count name +
      t.handed (outlets.map (·.consumer.name)) name
  flow : t.taken.Perm (t.delivered ++ t.inHand)
  only : t.pipeline.metrics.Only fun c => ¬c.isOfChecks = true

variable {outlets : List Outlet} {t : MeteredReports}

/-- What workers, counters and events do not show leaves the accounts as they are. -/
theorem Accounted.quietly (h : t.Accounted outlets) {p : Pipeline} {sent : List ReportRequest}
    (hplan : p.plan = t.pipeline.plan) (hworkers : p.workers = t.pipeline.workers)
    (hmetrics : p.metrics = t.pipeline.metrics)
    (hbatchers : p.AllSound) :
    Accounted outlets { t with pipeline := p, sent } := by
  refine ⟨hplan.trans h.plan, hbatchers, ?_, ?_, h.calls, ?_, ?_, ?_⟩
  · rw [hmetrics]
    exact h.enqueued
  · intro name ok
    rw [hmetrics]
    exact h.outcomes name ok
  · intro name
    rw [handed, hworkers]
    exact h.shares name
  · rw [inHand, hworkers]
    exact h.flow
  · rw [hmetrics]
    exact h.only

/-- What a step of one worker has to bring about for the accounts to agree afterwards: its events
make up for the difference between what it was and what it is. -/
structure Balances (outlets : List Outlet) (t : MeteredReports) (w w' : Worker)
    (events : List ReportEvent) (metrics : Metrics) : Prop where
  enqueued : metrics.get .reportsEnqueued = t.pipeline.metrics.get .reportsEnqueued
  none : events.filterMap ReportEvent.accepted? = []
  outcomes : ∀ name ok, metrics.get (.reportsConsumed name ok) =
    t.pipeline.metrics.get (.reportsConsumed name ok) +
      ((events.filterMap ReportEvent.consumed?).map ConsumeCall.label).count (name, ok)
  calls : ∀ c ∈ events.filterMap ReportEvent.consumed?, c.IsTrue outlets
  shares : ∀ name, ((events.filterMap ReportEvent.consumed?).map (·.label.1)).count name +
      w.handed (outlets.map (·.consumer.name)) name =
    (events.filterMap ReportEvent.delivered?).length *
        (outlets.map (·.consumer.name)).count name +
      w'.handed (outlets.map (·.consumer.name)) name
  flow : (events.filterMap ReportEvent.took? ++ w.inHand?.toList).Perm
    (events.filterMap ReportEvent.delivered? ++ w'.inHand?.toList)
  only : metrics.Only fun c => ¬c.isOfChecks = true

/-- A step that balances leaves accounts that agree. -/
theorem Accounted.balance (h : t.Accounted outlets) {worker : Nat} {w w' : Worker}
    (hw : t.pipeline.workers[worker]? = some w) {p : Pipeline}
    (hworkers : p.workers = t.pipeline.workers.set worker w') (hplan : p.plan = t.pipeline.plan)
    (hsound : p.AllSound) {events : List ReportEvent}
    (hbalances : t.Balances outlets w w' events p.metrics) :
    Accounted outlets { t with pipeline := p, log := t.log ++ events } := by
  refine ⟨hplan.trans h.plan, hsound, ?_, ?_, ?_, ?_, ?_, hbalances.only⟩
  · rw [hbalances.enqueued, h.enqueued, accepted, accepted, List.filterMap_append, hbalances.none,
      List.append_nil]
  · intro name ok
    rw [hbalances.outcomes, h.outcomes, consumed, consumed, List.filterMap_append, List.map_append,
      List.count_append]
  · intro c hc
    rw [consumed, List.filterMap_append] at hc
    rcases List.mem_append.mp hc with hc | hc
    · exact h.calls c hc
    · exact hbalances.calls c hc
  · intro name
    have hshares := h.shares name
    have hstep := hbalances.shares name
    have hsum := sum_map_set hw w' (Worker.handed (outlets.map (·.consumer.name)) name)
    rw [handed] at hshares
    rw [handed, hworkers, consumed, delivered, List.filterMap_append, List.filterMap_append,
      List.map_append, List.count_append, List.length_append, Nat.add_mul]
    rw [consumed, delivered] at hshares
    omega
  · obtain ⟨front, back, hold, hnew⟩ := exists_filterMap_set_eq hw w' Worker.inHand?
    have hflow := h.flow
    rw [taken, delivered, inHand, hold] at hflow
    rw [taken, delivered, inHand, hworkers, hnew, List.filterMap_append, List.filterMap_append]
    classical
    refine List.perm_iff_count.mpr fun report => ?_
    have hcount := hflow.count_eq report
    have hstep := hbalances.flow.count_eq report
    simp only [List.count_append] at hcount hstep ⊢
    omega

/-- An outlet has the name that it had at the start. -/
theorem Accounted.name_eq (h : t.Accounted outlets) {place : Nat} {o : Outlet}
    (ho : t.pipeline.outlets[place]? = some o) :
    (outlets.map (·.consumer.name))[place]? = some o.consumer.name := by
  have hnames : t.pipeline.outlets.map (·.consumer.name) = outlets.map (·.consumer.name) := by
    simpa [Pipeline.plan, Function.comp_def] using congrArg (List.map (·.1.name)) h.plan
  rw [← hnames, List.getElem?_map, ho, Option.map_some]

/-- The outlet that a worker comes to next is one more of its name. -/
theorem handed_succ {names : List String} {place : Nat} {own : String}
    (h : names[place]? = some own) (r : ReportRequest) (name : String) :
    (Worker.delivering r (place + 1)).handed names name =
      (Worker.delivering r place).handed names name + [own].count name := by
  rw [Worker.handed, Worker.handed, List.take_add_one, h, Option.toList_some, List.count_append]

/-- The call that hands a report to an outlet has the outcome that the consumer or its batcher gives
to it. -/
theorem Accounted.isTrue_consumeCall (h : t.Accounted outlets) {place : Nat} {o : Outlet}
    (ho : t.pipeline.outlets[place]? = some o) {r : ReportRequest}
    (hcalm : (t.pipeline.hand place o [r]).1 ≠ .crashed) :
    (t.pipeline.consumeCall place o r).IsTrue outlets := by
  refine ⟨?_, ?_, ?_, hcalm⟩
  · have hplace := congrArg (·[place]?) h.plan
    rw [Pipeline.getElem?_plan, ho, List.getElem?_map] at hplace
    exact hplace.symm
  · intro hnone
    rcases t.pipeline.hand_cases place o [r] with ⟨-, hh⟩ | ⟨b, b', hb, -, -⟩ | ⟨b, hb, -, -⟩
    · exact congrArg Prod.fst hh
    · cases hnone.symm.trans hb
    · cases hnone.symm.trans hb
  · intro b hb
    obtain ⟨hsound, -⟩ := h.batchers place b ((Pipeline.batcherAt_of_outlet ho).trans hb)
    rcases t.pipeline.hand_cases place o [r] with
      ⟨hnone, -⟩ | ⟨c, c', hc, hoffer, hh⟩ | ⟨c, hc, hoffer, hh⟩
    · cases hnone.symm.trans hb
    · obtain rfl := Option.some.inj (hc.symm.trans hb)
      rw [if_pos (Batcher.offer_eq_some hoffer).1]
      exact congrArg Prod.fst hh
    · obtain rfl := Option.some.inj (hc.symm.trans hb)
      rw [if_neg fun hopen => hsound.offer_ne_none hopen [r] hoffer]
      exact congrArg Prod.fst hh

/-- A worker that takes a report has it, and has handed it to nobody. -/
theorem Accounted.balances_takes (h : t.Accounted outlets) (r : ReportRequest) :
    t.Balances outlets .waiting (.delivering r 0) [.took r] t.pipeline.metrics where
  enqueued := rfl
  none := rfl
  outcomes _ _ := rfl
  calls := nofun
  shares name := by
    simp [List.filterMap_cons, ReportEvent.consumed?, ReportEvent.delivered?, Worker.handed]
  flow := .refl _
  only := h.only

/-- A worker that leaves has nothing. -/
theorem Accounted.balances_leaves (h : t.Accounted outlets) :
    t.Balances outlets .waiting .finished [] t.pipeline.metrics where
  enqueued := rfl
  none := rfl
  outcomes _ _ := rfl
  calls := nofun
  shares name := by simp [Worker.handed]
  flow := .refl _
  only := h.only

/-- A call is counted by the name of its outlet and by its outcome. -/
theorem Accounted.balances_hands (h : t.Accounted outlets) {place : Nat} {o : Outlet}
    (ho : t.pipeline.outlets[place]? = some o) {r : ReportRequest}
    (hcalm : (t.pipeline.hand place o [r]).1 ≠ .crashed) :
    t.Balances outlets (.delivering r place) (.delivering r (place + 1))
      [.consumed (t.pipeline.consumeCall place o r)]
      (t.pipeline.metrics.count
        (.reportsConsumed o.consumer.name ((t.pipeline.hand place o [r]).1 == .taken))) where
  enqueued := Metrics.get_count_of_ne _ nofun
  none := rfl
  outcomes name ok := by
    have hlabel : (t.pipeline.consumeCall place o r).label =
        (o.consumer.name, (t.pipeline.hand place o [r]).1 == .taken) := rfl
    have hevents : [ReportEvent.consumed (t.pipeline.consumeCall place o r)].filterMap
        ReportEvent.consumed? = [t.pipeline.consumeCall place o r] := rfl
    rw [Metrics.get_count, hevents, List.map_singleton, hlabel, List.count_singleton]
    by_cases hsame : o.consumer.name = name ∧ ((t.pipeline.hand place o [r]).1 == .taken) = ok
    · obtain ⟨rfl, rfl⟩ := hsame
      simp
    · simp only [Counter.reportsConsumed.injEq, Prod.mk.injEq, beq_iff_eq, hsame, if_false,
        Nat.add_zero]
  calls c hc := List.mem_singleton.mp hc ▸ h.isTrue_consumeCall ho hcalm
  shares name := by
    have hevents : ([ReportEvent.consumed (t.pipeline.consumeCall place o r)].filterMap
        ReportEvent.consumed?).map (·.label.1) = [o.consumer.name] := rfl
    have hnone : [ReportEvent.consumed (t.pipeline.consumeCall place o r)].filterMap
        ReportEvent.delivered? = [] := rfl
    rw [handed_succ (h.name_eq ho), hevents, hnone, List.length_nil, Nat.zero_mul, Nat.zero_add,
      Nat.add_comm]
  flow := .refl _
  only := h.only.count nofun

/-- A worker that is through has handed its report to all outlets. -/
theorem Accounted.balances_turns (h : t.Accounted outlets) {place : Nat}
    (hthrough : outlets.length ≤ place) (r : ReportRequest) :
    t.Balances outlets (.delivering r place) .waiting [.delivered r] t.pipeline.metrics where
  enqueued := rfl
  none := rfl
  outcomes _ _ := rfl
  calls := nofun
  shares name := by
    have hall : (outlets.map (·.consumer.name)).take place = outlets.map (·.consumer.name) :=
      List.take_of_length_le (by rwa [List.length_map])
    simp [List.filterMap_cons, ReportEvent.consumed?, ReportEvent.delivered?, Worker.handed, hall]
  flow := .refl _
  only := h.only

/-- Every step of a worker is accounted for. -/
theorem Accounted.serves (h : t.Accounted outlets) {worker : Nat} {event : Option ReportEvent}
    {p : Pipeline} (hserves : t.pipeline.Serves worker event p) :
    Accounted outlets { t with pipeline := p, log := t.log ++ event.toList } := by
  cases hserves with
  | @takes r queue hw =>
    refine h.balance hw ?_ ?_ ?_ (h.balances_takes r)
    · rfl
    · rfl
    · exact h.batchers.of_outlets rfl
  | leaves hw =>
    refine h.balance hw ?_ ?_ ?_ h.balances_leaves
    · rfl
    · rfl
    · exact h.batchers.of_outlets rfl
  | @hands r place o hw ho hcalm =>
    refine h.balance hw ?_ ?_ ?_ (h.balances_hands ho hcalm)
    · rfl
    · exact Pipeline.plan_hand ho [r]
    · exact (h.batchers.hand ho [r]).of_outlets rfl
  | @turns r place hw hthrough =>
    have hlength : t.pipeline.outlets.length = outlets.length := by
      rw [← Pipeline.length_plan, h.plan, List.length_map]
    have hle : outlets.length ≤ place := hlength ▸ List.getElem?_eq_none_iff.mp hthrough
    refine h.balance hw ?_ ?_ ?_ (h.balances_turns hle r)
    · rfl
    · rfl
    · exact h.batchers.of_outlets rfl

/-- What a batcher passes on is no event of a report, and is not counted. -/
theorem Accounted.passes (h : t.Accounted outlets) {place : Nat} {p : Pipeline}
    (hpass : t.pipeline.PassesAt place p) : Accounted outlets { t with pipeline := p } := by
  have hsound := h.batchers.passes hpass
  obtain @⟨o, b, x, ho, hb, -⟩ := hpass
  exact h.quietly (map_set_of_eq ho (by rw [hb]; rfl)) rfl rfl hsound

/-- A sender that is told that its report is in the queue is counted. -/
theorem Accounted.answers (h : t.Accounted outlets) (sent : List ReportRequest)
    (r : ReportRequest) : Accounted outlets
      { pipeline := { t.pipeline with metrics := Gateway.countReport t.pipeline.metrics .sent }
        sent, log := t.log ++ [.accepted r] } := by
  have hother (name : String) (ok : Bool) :
      (t.pipeline.metrics.count .reportsEnqueued).get (.reportsConsumed name ok) =
        t.pipeline.metrics.get (.reportsConsumed name ok) := Metrics.get_count_of_ne _ nofun
  have hconsumed : (t.log ++ [ReportEvent.accepted r]).filterMap ReportEvent.consumed? =
      t.consumed := by
    rw [List.filterMap_append]
    exact List.append_nil _
  have hdelivered : (t.log ++ [ReportEvent.accepted r]).filterMap ReportEvent.delivered? =
      t.delivered := by
    rw [List.filterMap_append]
    exact List.append_nil _
  have htaken : (t.log ++ [ReportEvent.accepted r]).filterMap ReportEvent.took? = t.taken := by
    rw [List.filterMap_append]
    exact List.append_nil _
  refine ⟨h.plan, h.batchers.of_outlets rfl, ?_, ?_, ?_, ?_, ?_, h.only.count nofun⟩
  · rw [accepted, List.filterMap_append, List.length_append, ← accepted, ← h.enqueued]
    exact Metrics.get_count_self _ _
  · intro name ok
    rw [consumed, hconsumed]
    exact (hother name ok).trans (h.outcomes name ok)
  · rw [consumed, hconsumed]
    exact h.calls
  · intro name
    rw [consumed, hconsumed, delivered, hdelivered]
    exact h.shares name
  · rw [taken, htaken, delivered, hdelivered]
    exact h.flow

/-- Every move is accounted for. -/
theorem Accounted.step (h : t.Accounted outlets) (hcalm : ∀ o ∈ outlets, o.consumer.IsCalm)
    (m : ReportMove) : (t.step m).Accounted outlets := by
  have hall := WorkRun.allCalm_of_plan h.plan hcalm
  cases m with
  | send r =>
    simp only [MeteredReports.step]
    split
    · exact h.quietly rfl rfl rfl (h.batchers.of_outlets rfl)
    · exact h
  | answer i =>
    simp only [MeteredReports.step]
    split
    · exact h.answers _ _
    · exact h
  | work worker =>
    simp only [MeteredReports.step]
    split
    · next p hstep => exact h.serves (Pipeline.serves_of_stepWorker hall hstep)
    · exact h
  | gather place =>
    simp only [MeteredReports.step]
    cases hstep : t.pipeline.stepBatcher place with
    | none => exact h
    | some p => exact h.passes (h.batchers.passesAt_of_stepBatcher hall hstep)
  | expire place =>
    simp only [MeteredReports.step]
    cases hstep : t.pipeline.expireBatcher place with
    | none => exact h
    | some p => exact h.passes (h.batchers.passesAt_of_expireBatcher hall hstep)
  | close place =>
    exact h.quietly (Pipeline.plan_closeAt t.pipeline place) rfl rfl (h.batchers.closeAt place)
  | dropSenders => exact h.quietly rfl rfl rfl (h.batchers.of_outlets rfl)
  | wait ms => exact h.quietly rfl rfl rfl (h.batchers.of_outlets rfl)

/-- At first nothing has happened, and nothing was counted. -/
theorem accounted_start (hcalm : ∀ o ∈ outlets, o.consumer.IsCalm)
    (hfresh : ∀ o ∈ outlets, ∀ b, o.batcher = some b → b.IsFresh) (capacity workers : Nat) :
    Accounted outlets
      { pipeline := ({ queue := .ofCapacity capacity, outlets } : Pipeline).start workers } where
  plan := rfl
  batchers := (WorkRun.holds_start hcalm hfresh capacity).allSound
  enqueued := rfl
  outcomes _ _ := rfl
  calls := nofun
  shares name := by simp [consumed, delivered, handed, Pipeline.start, Worker.handed]
  flow := by simp [taken, delivered, inHand, Pipeline.start, Worker.inHand?]
  only := Metrics.only_nil _

end MeteredReports

end ServiceControl
