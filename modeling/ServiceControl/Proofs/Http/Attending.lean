import ServiceControl.Proofs.Http.Demands
import ServiceControl.Proofs.Reports.Settling

/-!
# Requests that are under way

A request is attended to when it comes. Only a report can find the queue full, and then it waits and
is attended to again and again, until the queue has room for it, or is closed, or its time is over.
Between that, other requests are attended to, workers and batchers take their steps, the
configuration changes and time passes, in any order.
-/

namespace ServiceControl

/-- What a queue says to a report that is to be put in. -/
inductive QueueReply where
  | room
  | full
  | closed
  deriving DecidableEq, Repr

/-- What a queue says to a report. -/
def ReportQueue.replyTo (q : ReportQueue) (r : ReportRequest) : QueueReply :=
  match q.put r with
  | .ok _ => .room
  | .error .full => .full
  | .error .closed => .closed

namespace Http

/-! ## What a path leads to -/

/-- The routes are known from the consumers in their places. -/
theorem routes_of_plan {p q : Pipeline} (h : q.plan = p.plan) : routes q = routes p := by
  have hconsumers : q.outlets.map Outlet.consumer = p.outlets.map Outlet.consumer := by
    have hfst := congrArg (List.map Prod.fst) h
    rw [Pipeline.plan, Pipeline.plan, List.map_map, List.map_map] at hfst
    exact hfst
  let route : Consumer × Nat → Option (Route × Option Nat) := fun (c, place) => do
    return (← Route.parse? (← c.endpoint), some place)
  have hroutes (p : Pipeline) : routes p = (Route.parse? healthPath).toList.map (·, none) ++
      ((p.outlets.map Outlet.consumer).zipIdx.filterMap route) := by
    rw [List.zipIdx_map, List.filterMap_map]
    rfl
  rw [hroutes, hroutes, hconsumers]

/-- So a path leads to the same as long as the consumers stay in their places. -/
theorem resourceAt_of_plan {p q : Pipeline} (h : q.plan = p.plan) (path : String) :
    resourceAt q path = resourceAt p path := by
  unfold resourceAt
  rw [routes_of_plan h]
  split
  · rfl
  · rfl
  · next place _ =>
    have hplace := congrArg (fun plan : List (Consumer × Bool) => plan[place]?) h
    simp only [Pipeline.getElem?_plan] at hplace
    cases hp : p.outlets[place]? <;> cases hq : q.outlets[place]? <;>
      simp only [hp, hq, Option.map_none, Option.map_some, reduceCtorEq, Option.some.injEq,
        Prod.mk.injEq] at hplace
    · rfl
    · simp only [hplace.1]

/-! ## What a request comes to -/

variable {g g' : Gateway} {r : Request} {call : ReportRequest} {due : Nat} {out : Option Response}

/-- The report that a request is to put into the queue. -/
def reportOf? (g : Gateway) (r : Request) : Option ReportRequest :=
  match resourceAt g.pipeline r.target.path, r.demand with
  | .call, .report call => if r.body.size ≤ maxBody then some call else none
  | _, _ => none

/-- A report that is asked for is demanded. -/
theorem demand_of_reportOf? (h : reportOf? g r = some call) : r.demand = .report call := by
  unfold reportOf? at h
  split at h
  · next hdemand =>
    split at h
    · rw [hdemand, Option.some.inj h]
    · cases h
  · cases h

/-- A report of a call that is not too large is asked for. -/
theorem reportOf?_of_demand (hpath : resourceAt g.pipeline r.target.path = .call)
    (hsize : r.body.size ≤ maxBody) (h : r.demand = .report call) : reportOf? g r = some call := by
  simp only [reportOf?, hpath, h, if_pos hsize]

/-- What the queue says to the report of a request. -/
def replyTo? (g : Gateway) (r : Request) : Option QueueReply :=
  (reportOf? g r).map g.pipeline.queue.replyTo

/-- Attends to a request that has time until a moment. Once that has come there is no other answer;
a report for which there is no room has none yet. -/
def attend (g : Gateway) (due : Nat) (r : Request) : Option Response × Gateway :=
  if due ≤ g.pipeline.now then (some (.bare 408), g)
  else if replyTo? g r = some .full then (none, g)
  else (some (dispatch g r).1, (dispatch g r).2)

/-- What comes of attending to a request. -/
inductive Attends (g : Gateway) (due : Nat) (r : Request) : Option Response × Gateway → Prop where
  | late (past : due ≤ g.pipeline.now) : Attends g due r (some (.bare 408), g)
  | waits {call : ReportRequest} (inTime : g.pipeline.now < due) (asks : reportOf? g r = some call)
    (full : g.pipeline.queue.put call = .error .full) : Attends g due r (none, g)
  | sent {call : ReportRequest} {queue : ReportQueue} (inTime : g.pipeline.now < due)
    (asks : reportOf? g r = some call) (room : g.pipeline.queue.put call = .ok queue) :
    Attends g due r (some (answerOf .sent), { g with
      pipeline := { g.pipeline with
        queue, metrics := g.pipeline.metrics.count .reportsEnqueued } })
  | closed {call : ReportRequest} (inTime : g.pipeline.now < due)
    (asks : reportOf? g r = some call) (closed : g.pipeline.queue.put call = .error .closed) :
    Attends g due r (some (answerOf .closed), g)
  | checks {call : CheckRequest} (inTime : g.pipeline.now < due) (asks : reportOf? g r = none)
    (demand : r.demand = .check call) :
    Attends g due r (some (.json (g.check call).1.toJson), (g.check call).2)
  | refuses {status : Nat} {why : String} (inTime : g.pipeline.now < due)
    (asks : reportOf? g r = none) (demand : r.demand = .refused status why) :
    Attends g due r (some (.text status why), g)
  | shows {answer : Response} {scrapes : List (Nat × Nat)} (inTime : g.pipeline.now < due)
    (asks : reportOf? g r = none)
    (other : resourceAt g.pipeline r.target.path = .call → maxBody < r.body.size) :
    Attends g due r (some answer, { g with pipeline := { g.pipeline with scrapes } })

/-- Requests to health and to pages, and those that are too large, put nothing into the queue and
check nothing. -/
theorem dispatch_of_other (g : Gateway) (r : Request)
    (hother : resourceAt g.pipeline r.target.path = .call → maxBody < r.body.size) :
    ∃ scrapes, (dispatch g r).2 = { g with pipeline := { g.pipeline with scrapes } } := by
  unfold dispatch
  cases hpath : resourceAt g.pipeline r.target.path with
  | call =>
    refine ⟨g.pipeline.scrapes, ?_⟩
    simp only [answerCall, if_pos (hother hpath)]
  | health => exact ⟨g.pipeline.scrapes, rfl⟩
  | page place consumer =>
    dsimp only
    split
    · exact ⟨_, rfl⟩
    · exact ⟨g.pipeline.scrapes, rfl⟩

/-- Where there is room, a report is sent. -/
theorem report_of_room {g : Gateway} {call : ReportRequest} {queue : ReportQueue}
    (h : g.pipeline.queue.put call = .ok queue) : g.report call = (.sent, { g with
      pipeline := { g.pipeline with
        queue, metrics := g.pipeline.metrics.count .reportsEnqueued } }) := by
  simp only [Gateway.report, Pipeline.send, h, Gateway.countReport]

/-- Where the queue is closed, nothing happens. -/
theorem report_of_closed {g : Gateway} {call : ReportRequest}
    (h : g.pipeline.queue.put call = .error .closed) : g.report call = (.closed, g) := by
  simp only [Gateway.report, Pipeline.send, h, Gateway.countReport]

/-- Attending to a request comes to nothing else. -/
theorem attends_attend (g : Gateway) (due : Nat) (r : Request) :
    Attends g due r (attend g due r) := by
  unfold attend
  split
  · next hover => exact .late hover
  · next hover =>
    have hintime : g.pipeline.now < due := Nat.lt_of_not_le hover
    -- a body that is too large is not read, so what it demands does not matter
    by_cases hother : resourceAt g.pipeline r.target.path = .call → maxBody < r.body.size
    · have hasks : reportOf? g r = none := by
        unfold reportOf?
        split
        · next hpath _ => rw [if_neg (Nat.not_le.mpr (hother hpath))]
        · rfl
      obtain ⟨scrapes, hscrapes⟩ := dispatch_of_other g r hother
      rw [replyTo?, hasks, Option.map_none, if_neg nofun, hscrapes]
      exact .shows hintime hasks hother
    · obtain ⟨hpath, hlarge⟩ := Classical.not_imp.mp hother
      have hsize : r.body.size ≤ maxBody := Nat.le_of_not_lt hlarge
      have hdispatch : dispatch g r = answerCall g r := by
        unfold dispatch
        rw [hpath]
      rw [hdispatch, answerCall_eq g hsize]
      cases hdemand : r.demand with
      | refused status why =>
        have hasks : reportOf? g r = none := by simp only [reportOf?, hpath, hdemand]
        rw [replyTo?, hasks, Option.map_none, if_neg nofun]
        exact .refuses hintime hasks hdemand
      | check call =>
        have hasks : reportOf? g r = none := by simp only [reportOf?, hpath, hdemand]
        rw [replyTo?, hasks, Option.map_none, if_neg nofun]
        exact .checks hintime hasks hdemand
      | report call =>
        have hasks : reportOf? g r = some call := by
          simp only [reportOf?, hpath, hdemand, if_pos hsize]
        rw [replyTo?, hasks, Option.map_some, ReportQueue.replyTo]
        cases hput : g.pipeline.queue.put call with
        | ok queue =>
          simp only [report_of_room hput, Option.some.injEq, reduceCtorEq, if_false]
          exact .sent hintime hasks hput
        | error e =>
          cases e with
          | full => exact .waits hintime hasks hput
          | closed =>
            simp only [report_of_closed hput, Option.some.injEq, reduceCtorEq, if_false]
            exact .closed hintime hasks hput

/-- A request asks for the same report as long as the consumers stay in their places. -/
theorem reportOf?_of_plan (h : g'.pipeline.plan = g.pipeline.plan) (r : Request) :
    reportOf? g' r = reportOf? g r := by
  unfold reportOf?
  rw [resourceAt_of_plan h]

/-- Attending to requests takes no time and leaves the consumers in their places. -/
theorem Attends.keeps (h : Attends g due r (out, g')) :
    g'.pipeline.plan = g.pipeline.plan ∧ g'.patience = g.patience ∧
      g'.pipeline.now = g.pipeline.now := by
  cases h with
  | late | waits | sent | closed | checks | refuses | shows => exact ⟨rfl, rfl, rfl⟩

/-- Reports come into the queue behind the others, and only if there is a receiver. -/
theorem Attends.exists_added (h : Attends g due r (out, g')) :
    ∃ added : List ReportRequest, g'.pipeline.queue =
        { g.pipeline.queue with waiting := g.pipeline.queue.waiting ++ added } ∧
      (added = [] ∨ g.pipeline.queue.hasReceiver = true) := by
  have hsame : g.pipeline.queue =
      { g.pipeline.queue with waiting := g.pipeline.queue.waiting ++ [] } := by
    rw [List.append_nil]
  cases h with
  | late | waits | closed | checks | refuses | shows => exact ⟨[], hsame, .inl rfl⟩
  | @sent call queue inTime asks room =>
    obtain ⟨-, hreceiver, rfl⟩ := ReportQueue.put_eq_ok room
    exact ⟨[call], rfl, .inr hreceiver⟩

/-! ## Runs -/

/-- A request, the moment until which it has time, and its answer once there is one. -/
structure RequestTask where
  request : Request
  due : Nat
  answer? : Option Response := none

/-- A gateway and the requests to it, by their numbers. -/
structure RequestRun where
  gateway : Gateway
  tasks : List RequestTask := []
  /-- What came to the end of the queue while a request was attended to, with its number. -/
  entered : Table Nat ReportRequest := []
  /-- What the queue said to reports that still had time, with the numbers of their requests. -/
  replies : Table Nat QueueReply := []
  /-- What workers took from the front of the queue. -/
  taken : List ReportRequest := []

/-- What can happen next. -/
inductive RequestMove where
  | request (r : Request)
  | attend (task : Nat)
  | work (worker : Nat)
  | gather (place : Nat)
  | wait (ms : Nat)
  | reload (fetched : Except FetchError ByteArray)
  | dropSenders
  | dropReceiver

namespace RequestRun

/-- What waits in the queue. -/
def waiting (s : RequestRun) : List ReportRequest := s.gateway.pipeline.queue.waiting

/-- The run with another pipeline. -/
def piped (s : RequestRun) (pipeline : Pipeline) : RequestRun :=
  { s with gateway := { s.gateway with pipeline } }

/-- A request comes. -/
def arrive (s : RequestRun) (r : Request) : RequestRun :=
  { s with tasks := s.tasks ++ [⟨r, s.gateway.pipeline.now + s.gateway.patience, none⟩] }

/-- A request that has no answer yet is attended to. -/
def attendTo (s : RequestRun) (i : Nat) : RequestRun :=
  match s.tasks[i]? with
  | some ⟨r, due, none⟩ =>
    let (answer?, gateway) := attend s.gateway due r
    let reply? := if due ≤ s.gateway.pipeline.now then none else replyTo? s.gateway r
    { s with
      gateway
      tasks := s.tasks.set i ⟨r, due, answer?⟩
      entered := s.entered ++
        (gateway.pipeline.queue.waiting.drop s.waiting.length).map fun report => (i, report)
      replies := s.replies ++ reply?.toList.map fun reply => (i, reply) }
  | _ => s

/-- The run after one more move. -/
def step (s : RequestRun) : RequestMove → RequestRun
  | .request r => (s.arrive r).attendTo s.tasks.length
  | .attend i => s.attendTo i
  | .work worker =>
    match s.gateway.pipeline.stepWorker worker with
    | some p => { s.piped p with
        taken := s.taken ++ s.waiting.take (s.waiting.length - p.queue.waiting.length) }
    | none => s
  | .gather place => s.piped ((s.gateway.pipeline.stepBatcher place).getD s.gateway.pipeline)
  | .wait ms => s.piped { s.gateway.pipeline with now := s.gateway.pipeline.now + ms }
  | .reload fetched => { s with gateway := (s.gateway.reload fetched).2 }
  | .dropSenders => s.piped
    { s.gateway.pipeline with queue := s.gateway.pipeline.queue.dropSenders }
  | .dropReceiver => s.piped
    { s.gateway.pipeline with queue := s.gateway.pipeline.queue.dropReceiver }

/-- The run of moves of a gateway to which no request has come. -/
def after (g : Gateway) (moves : List RequestMove) : RequestRun := moves.foldl step { gateway := g }

/-- The answer to a request, if it has one. -/
def answer? (s : RequestRun) (i : Nat) : Option Response := s.tasks[i]?.bind (·.answer?)

/-- What came into the queue while a request was attended to. -/
def entriesOf (s : RequestRun) (i : Nat) : List ReportRequest := Table.valuesOf i s.entered

/-- What the queue said to the report of a request while it had time. -/
def repliesOf (s : RequestRun) (i : Nat) : List QueueReply := Table.valuesOf i s.replies

/-! ## What a move changes -/

variable {s : RequestRun} {i : Nat}

/-- A request that has an answer is not attended to any more, and one that has none is told what
comes of it. -/
theorem attendTo_cases (s : RequestRun) (i : Nat) :
    (s.attendTo i = s ∧ ∀ task, s.tasks[i]? = some task → task.answer? ≠ none) ∨
      ∃ r due out g', s.tasks[i]? = some ⟨r, due, none⟩ ∧ Attends s.gateway due r (out, g') ∧
        s.attendTo i = { s with
          gateway := g'
          tasks := s.tasks.set i ⟨r, due, out⟩
          entered := s.entered ++
            (g'.pipeline.queue.waiting.drop s.waiting.length).map fun report => (i, report)
          replies := s.replies ++
            ((if due ≤ s.gateway.pipeline.now then none
              else replyTo? s.gateway r).toList.map fun reply => (i, reply)) } := by
  unfold attendTo
  cases htask : s.tasks[i]? with
  | none => exact .inl ⟨rfl, nofun⟩
  | some task =>
    obtain ⟨r, due, out⟩ := task
    cases out with
    | none => exact .inr ⟨r, due, _, _, rfl, attends_attend s.gateway due r, rfl⟩
    | some a =>
      refine .inl ⟨rfl, fun task h => ?_⟩
      rw [← Option.some.inj h]
      exact nofun

/-- A request that has just come has a place of its own, and nothing is told of it. -/
theorem task_arrive (s : RequestRun) (r : Request) : (s.arrive r).tasks[s.tasks.length]? =
    some ⟨r, s.gateway.pipeline.now + s.gateway.patience, none⟩ := by
  rw [arrive, List.getElem?_append_right (Nat.le_refl _), Nat.sub_self]
  rfl

/-- What is seen of a request is the same in two states. -/
structure SameAt (i : Nat) (s s' : RequestRun) : Prop where
  task : s'.tasks[i]? = s.tasks[i]?
  entries : s'.entriesOf i = s.entriesOf i
  replies : s'.repliesOf i = s.repliesOf i

/-- Attending to a request is not seen at another one. -/
theorem sameAt_attendTo {j : Nat} (hne : j ≠ i) : SameAt i s (s.attendTo j) := by
  rcases s.attendTo_cases j with ⟨hsame, -⟩ | ⟨r, due, out, g', -, -, hattend⟩
  · rw [hsame]
    exact ⟨rfl, rfl, rfl⟩
  · rw [hattend]
    refine ⟨List.getElem?_set_ne hne, ?_, ?_⟩
    · simp only [entriesOf, Table.valuesOf_append, Table.valuesOf_map, if_neg hne, List.append_nil]
    · simp only [repliesOf, Table.valuesOf_append, Table.valuesOf_map, if_neg hne, List.append_nil]

/-- A request that comes is not seen at those before it. -/
theorem sameAt_arrive (hlt : i < s.tasks.length) (r : Request) : SameAt i s (s.arrive r) :=
  ⟨List.getElem?_append_left hlt, rfl, rfl⟩

/-- A request that has come stays as it is until it is attended to. -/
theorem sameAt_step (hlt : i < s.tasks.length) {m : RequestMove} (hm : m ≠ .attend i) :
    SameAt i s (s.step m) := by
  cases m with
  | request r =>
    have harrive := sameAt_arrive hlt r
    have hattend : SameAt i (s.arrive r) ((s.arrive r).attendTo s.tasks.length) :=
      sameAt_attendTo (Nat.ne_of_gt hlt)
    exact ⟨hattend.task.trans harrive.task, hattend.entries.trans harrive.entries,
      hattend.replies.trans harrive.replies⟩
  | attend j => exact sameAt_attendTo fun h => hm (h ▸ rfl)
  | work worker =>
    simp only [step]
    cases s.gateway.pipeline.stepWorker worker <;> exact ⟨rfl, rfl, rfl⟩
  | gather | wait | reload | dropSenders | dropReceiver => exact ⟨rfl, rfl, rfl⟩

/-- No time is lost, and neither consumers nor the patience change. -/
structure Later (s s' : RequestRun) : Prop where
  plan : s'.gateway.pipeline.plan = s.gateway.pipeline.plan
  patience : s'.gateway.patience = s.gateway.patience
  now : s.gateway.pipeline.now ≤ s'.gateway.pipeline.now
  tasks : s.tasks.length ≤ s'.tasks.length

theorem Later.refl (s : RequestRun) : Later s s := ⟨rfl, rfl, Nat.le_refl _, Nat.le_refl _⟩

theorem Later.trans {s' s'' : RequestRun} (h : Later s s') (h' : Later s' s'') : Later s s'' :=
  ⟨h'.plan.trans h.plan, h'.patience.trans h.patience, Nat.le_trans h.now h'.now,
    Nat.le_trans h.tasks h'.tasks⟩

theorem later_attendTo (s : RequestRun) (i : Nat) : Later s (s.attendTo i) := by
  rcases s.attendTo_cases i with ⟨hsame, -⟩ | ⟨r, due, out, g', -, hout, hattend⟩
  · rw [hsame]
    exact .refl s
  · rw [hattend]
    obtain ⟨hplan, hpatience, hnow⟩ := hout.keeps
    exact ⟨hplan, hpatience, Nat.le_of_eq hnow.symm, Nat.le_of_eq List.length_set.symm⟩

theorem later_step (s : RequestRun) (m : RequestMove) : Later s (s.step m) := by
  cases m with
  | request r =>
    have harrive : Later s (s.arrive r) := by
      refine ⟨rfl, rfl, Nat.le_refl _, ?_⟩
      rw [arrive, List.length_append]
      exact Nat.le_add_right _ _
    exact harrive.trans (later_attendTo _ _)
  | attend j => exact later_attendTo s j
  | work worker =>
    simp only [step]
    cases hstep : s.gateway.pipeline.stepWorker worker with
    | none => exact .refl s
    | some p =>
      have hgo := Pipeline.WorkerStep.of_stepWorker hstep
      exact ⟨hgo.plan_eq, rfl, Nat.le_of_eq hgo.now_eq.symm, Nat.le_refl _⟩
  | gather place =>
    simp only [step]
    cases hstep : s.gateway.pipeline.stepBatcher place with
    | none => exact .refl s
    | some p =>
      have hgo := Pipeline.BatcherStep.of_stepBatcher hstep
      exact ⟨hgo.plan_eq, rfl, Nat.le_of_eq hgo.now_eq.symm, Nat.le_refl _⟩
  | wait ms => exact ⟨rfl, rfl, Nat.le_add_right _ _, Nat.le_refl _⟩
  | reload fetched =>
    have hsame : (s.gateway.reload fetched).2.pipeline = s.gateway.pipeline ∧
        (s.gateway.reload fetched).2.patience = s.gateway.patience := by
      unfold Gateway.reload
      cases s.gateway.reloader <;> exact ⟨rfl, rfl⟩
    obtain ⟨hpipeline, hpatience⟩ := hsame
    simp only [step]
    refine ⟨?_, hpatience, ?_, Nat.le_refl _⟩
    · rw [hpipeline]
    · exact Nat.le_of_eq (by rw [hpipeline])
  | dropSenders | dropReceiver => exact ⟨rfl, rfl, Nat.le_refl _, Nat.le_refl _⟩

end RequestRun

end Http

end ServiceControl
