import ServiceControl.Proofs.Gateway.Calls
import ServiceControl.Proofs.Http.Serving
import ServiceControl.Proofs.Http.Waiting
import ServiceControl.Proofs.Settings.Rules

/-!
# Statuses tell what happened

The refusals of a call are known from the request alone, and come before anything is asked of the
gateway. A check is answered at once. A report is answered once the queue has told that it has room
or is closed, or when its time is over; only in the first case it comes into the queue, once. No
request that is answered with another status than that of success changes the gateway.
-/

namespace ServiceControl.Http.RequestRun

variable {g : Gateway} {r : Request} {call : ReportRequest} {due : Nat} {i : Nat} {s : RequestRun}
  {start : List ReportRequest}

/-! ## What a request changes -/

/-- What a request changes at the gateway when it is answered with success: a check changes the kept
checkers and the counters of checks, and a report comes to the end of the queue and is counted. -/
inductive Effect (r : Request) (g : Gateway) : Gateway → Prop where
  | check {call : CheckRequest} (demand : r.demand = .check call) :
    Effect r g { g with pool := (g.pool.check call).2 }
  | report {call : ReportRequest} (demand : r.demand = .report call) : Effect r g { g with
      pipeline := { g.pipeline with
        queue := { g.pipeline.queue with waiting := g.pipeline.queue.waiting ++ [call] }
        metrics := g.pipeline.metrics.count .reportsEnqueued } }

/-- Attending to a call changes the gateway only with an answer of success, and leaves it without an
answer only if its report finds the queue full. -/
theorem effect_of_attends {out : Option Response} {g' : Gateway}
    (h : Attends g due r (out, g')) (hpath : resourceAt g.pipeline r.target.path = .call)
    (hsize : r.body.size ≤ maxBody) :
    (g' = g ∨ ∃ a, out = some a ∧ a.status = 200 ∧ Effect r g g') ∧
      (out = none → g.pipeline.now < due ∧
        ∃ call, r.demand = .report call ∧ g.pipeline.queue.put call = .error .full) := by
  cases h with
  | late => exact ⟨.inl rfl, nofun⟩
  | waits hinTime hasks hput =>
    exact ⟨.inl rfl, fun _ => ⟨hinTime, _, demand_of_reportOf? hasks, hput⟩⟩
  | sent _ hasks hput =>
    obtain ⟨-, -, rfl⟩ := ReportQueue.put_eq_ok hput
    exact ⟨.inr ⟨_, rfl, rfl, .report (demand_of_reportOf? hasks)⟩, nofun⟩
  | closed => exact ⟨.inl rfl, nofun⟩
  | checks _ _ hdemand => exact ⟨.inr ⟨_, rfl, rfl, .check hdemand⟩, nofun⟩
  | refuses => exact ⟨.inl rfl, nofun⟩
  | shows _ _ hother => exact absurd (hother hpath) (Nat.not_lt.mpr hsize)

/-- So it is with every request to a call, each time it is attended to. -/
theorem effect_of_attendTo {out : Option Response} (htask : s.tasks[i]? = some ⟨r, due, out⟩)
    (hpath : resourceAt s.gateway.pipeline r.target.path = .call) (hsize : r.body.size ≤ maxBody) :
    ((s.attendTo i).gateway = s.gateway ∨ ∃ a, (s.attendTo i).answer? i = some a ∧
      a.status = 200 ∧ Effect r s.gateway (s.attendTo i).gateway) ∧
    ((s.attendTo i).answer? i = none → s.gateway.pipeline.now < due ∧
      ∃ call, r.demand = .report call ∧ s.gateway.pipeline.queue.put call = .error .full) := by
  rcases s.attendTo_cases i with ⟨hsame, hanswered⟩ | ⟨r', due', out', g', htask', hout, hattend⟩
  · rw [hsame]
    refine ⟨.inl rfl, fun hnone => absurd ?_ (hanswered _ htask)⟩
    rw [answer?, htask, Option.bind_some] at hnone
    exact hnone
  · obtain ⟨rfl, rfl, rfl⟩ := RequestTask.mk.inj (Option.some.inj (htask.symm.trans htask'))
    have hlt := (List.getElem?_eq_some_iff.mp htask).1
    have hanswer : (s.attendTo i).answer? i = out' := by
      rw [hattend, answer?, List.getElem?_set_self hlt, Option.bind_some]
    rw [hanswer, hattend]
    exact effect_of_attends hout hpath hsize

/-- A call that is not a report is answered at once, as long as it has any time. -/
theorem settled_of_request (h : s.Sound start) (hpatience : 0 < s.gateway.patience)
    (hpath : resourceAt s.gateway.pipeline r.target.path = .call) (hsize : r.body.size ≤ maxBody)
    (hdemand : ∀ call, r.demand ≠ .report call) :
    ∃ a, (s.step (.request r)).Settled r (s.gateway.pipeline.now + s.gateway.patience) a
        s.tasks.length ∧
      ((∃ status why, r.demand = .refused status why ∧ a = .text status why) ∨
        ∃ call, r.demand = .check call ∧ a = .json (s.gateway.check call).1.toJson) := by
  have htask := task_arrive s r
  have hlt := (List.getElem?_eq_some_iff.mp htask).1
  rcases (s.arrive r).attendTo_cases s.tasks.length with
    ⟨-, hanswered⟩ | ⟨r', due', out, g', htask', hout, hattend⟩
  · exact absurd rfl (hanswered _ htask)
  · obtain ⟨rfl, rfl, -⟩ := RequestTask.mk.inj (Option.some.inj (htask.symm.trans htask'))
    have hanswer : ((s.arrive r).attendTo s.tasks.length).tasks[s.tasks.length]? =
        some ⟨r, s.gateway.pipeline.now + s.gateway.patience, out⟩ := by
      rw [hattend]
      exact List.getElem?_set_self hlt
    have hentries (hwaiting : g'.pipeline.queue.waiting = s.waiting) :
        ((s.arrive r).attendTo s.tasks.length).entriesOf s.tasks.length = [] := by
      have hnone : g'.pipeline.queue.waiting.drop (s.arrive r).waiting.length = [] := by
        rw [hwaiting]
        exact List.drop_length
      rw [hattend, hnone, List.map_nil, List.append_nil]
      exact h.fresh.1
    cases hout with
    | late hover => exact absurd hover (Nat.not_le.mpr (Nat.lt_add_of_pos_right hpatience))
    | waits _ hasks | sent _ hasks | closed _ hasks =>
      exact absurd (demand_of_reportOf? hasks) (hdemand _)
    | checks _ _ hcheck => exact ⟨_, ⟨hanswer, hentries rfl⟩, .inr ⟨_, hcheck, rfl⟩⟩
    | refuses _ _ hrefused => exact ⟨_, ⟨hanswer, hentries rfl⟩, .inl ⟨_, _, hrefused, rfl⟩⟩
    | shows _ _ hother => exact absurd (hother hpath) (Nat.not_lt.mpr hsize)

/-- A report is under way from the moment when it comes. -/
theorem stands_of_request (h : s.Sound start)
    (hpath : resourceAt s.gateway.pipeline r.target.path = .call) (hsize : r.body.size ≤ maxBody)
    (hdemand : r.demand = .report call) : (s.step (.request r)).Stands r call
      (s.gateway.pipeline.now + s.gateway.patience) s.tasks.length := by
  have harrived : (s.arrive r).Stands r call (s.gateway.pipeline.now + s.gateway.patience)
      s.tasks.length := by
    refine ⟨reportOf?_of_demand hpath hsize hdemand, none, task_arrive s r, ?_⟩
    have hreplies : (s.arrive r).repliesOf s.tasks.length = [] := h.fresh.2
    have hentries : (s.arrive r).entriesOf s.tasks.length = [] := h.fresh.1
    rw [hreplies, hentries]
    exact .waits 0
  exact harrived.attendTo

/-! ## What an answer tells -/

/-- What the status of an answer tells, for a request that came to one state of a run and was
answered before another one. -/
structure Tells (before : RequestRun) (r : Request) (later : RequestRun) (a : Response) : Prop where
  notFound : a.status = 404 ↔
    ∀ (m : Method) (rest : String), r.target.path ≠ rest ++ callEnd m
  notPost : a.status = 405 ↔
    (∃ (m : Method) (rest : String), r.target.path = rest ++ callEnd m) ∧ r.method ≠ "POST"
  malformed : a.status = 400 ↔ r.method = "POST" ∧ ∃ (m : Method) (rest : String),
    r.target.path = rest ++ callEnd m ∧ isReadable m r.body = false
  checked : ∀ named call, Names .check r.target.path named → r.method = "POST" →
    (Json.parse? r.body).bind CheckRequest.ofJson? = some call →
      a = .json (before.gateway.check
        { call with service := nameOr call.service named }).1.toJson ∧
      later.entriesOf before.tasks.length = []
  reported : ∀ named call, Names .report r.target.path named → r.method = "POST" →
    (Json.parse? r.body).bind ReportRequest.ofJson? = some call →
      (a.status = 200 ∧ later.entriesOf before.tasks.length =
          [{ call with service := nameOr call.service named }] ∨
        (a.status = 503 ∨ a.status = 408) ∧ later.entriesOf before.tasks.length = []) ∧
      (a.status = 200 ↔ .room ∈ later.repliesOf before.tasks.length) ∧
      (a.status = 503 ↔ .closed ∈ later.repliesOf before.tasks.length) ∧
      (a.status = 408 ↔ ∀ reply ∈ later.repliesOf before.tasks.length, reply = .full) ∧
      (a.status = 408 →
        before.gateway.pipeline.now + before.gateway.patience ≤ later.gateway.pipeline.now)
  refused : a.status ≠ 200 → later.entriesOf before.tasks.length = []

/-- The refusals are told from the request. -/
theorem statuses_of_demand {a : Response}
    (h : ∀ status, status = 404 ∨ status = 405 ∨ status = 400 →
      (a.status = status ↔ r.demand.refusal? = some status)) :
    (a.status = 404 ↔ ∀ (m : Method) (rest : String), r.target.path ≠ rest ++ callEnd m) ∧
    (a.status = 405 ↔ (∃ (m : Method) (rest : String), r.target.path = rest ++ callEnd m) ∧
      r.method ≠ "POST") ∧
    (a.status = 400 ↔ r.method = "POST" ∧ ∃ (m : Method) (rest : String),
      r.target.path = rest ++ callEnd m ∧ isReadable m r.body = false) := by
  have hnotFound := h 404 (.inl rfl)
  have hnotPost := h 405 (.inr (.inl rfl))
  have hmalformed := h 400 (.inr (.inr rfl))
  exact ⟨hnotFound.trans Request.refusal_notFound_iff, hnotPost.trans Request.refusal_notPost_iff,
    hmalformed.trans Request.refusal_malformed_iff⟩

/-- A refusal tells why. -/
theorem tells_of_refused {later : RequestRun} {status : Nat} {why : String}
    (hdemand : r.demand = .refused status why) (hentries : later.entriesOf s.tasks.length = []) :
    Tells s r later (.text status why) := by
  have hstatuses := statuses_of_demand (r := r) (a := .text status why) fun n _ => by
    rw [hdemand]
    simp [Demand.refusal?, Response.text]
  obtain ⟨hnotFound, hnotPost, hmalformed⟩ := hstatuses
  refine ⟨hnotFound, hnotPost, hmalformed, ?_, ?_, fun _ => hentries⟩
  · intro named call hpath hpost hbody
    rw [Request.demand_of_check hpath hpost hbody] at hdemand
    cases hdemand
  · intro named call hpath hpost hbody
    rw [Request.demand_of_report hpath hpost hbody] at hdemand
    cases hdemand

/-- The answer to a check is that of the gateway. -/
theorem tells_of_check {later : RequestRun} {call : CheckRequest} (hdemand : r.demand = .check call)
    (hentries : later.entriesOf s.tasks.length = []) :
    Tells s r later (.json (s.gateway.check call).1.toJson) := by
  have hstatuses := statuses_of_demand (r := r) (a := .json (s.gateway.check call).1.toJson)
    fun n hn => by
      have hne : 200 ≠ n := by omega
      rw [hdemand]
      simp [Demand.refusal?, Response.json, hne]
  obtain ⟨hnotFound, hnotPost, hmalformed⟩ := hstatuses
  refine ⟨hnotFound, hnotPost, hmalformed, ?_, ?_, fun _ => hentries⟩
  · intro named call' hpath hpost hbody
    rw [Request.demand_of_check hpath hpost hbody] at hdemand
    cases hdemand
    exact ⟨rfl, hentries⟩
  · intro named call' hpath hpost hbody
    rw [Request.demand_of_report hpath hpost hbody] at hdemand
    cases hdemand

/-- The answer to a report tells what the queue said. -/
theorem Stands.tells {later : RequestRun} {a : Response} (hdemand : r.demand = .report call)
    (h : later.Stands r call (s.gateway.pipeline.now + s.gateway.patience) s.tasks.length)
    (hanswer : later.answer? s.tasks.length = some a) : Tells s r later a := by
  obtain ⟨out, htask, hstage⟩ := h.stage
  rw [answer?, htask, Option.bind_some] at hanswer
  subst hanswer
  have hfull (tries : Nat) : ∀ reply ∈ List.replicate tries QueueReply.full, reply = .full :=
    fun reply hreply => List.eq_of_mem_replicate hreply
  have hstatus : a.status = 200 ∨ a.status = 503 ∨ a.status = 408 := by
    generalize later.repliesOf s.tasks.length = replies at hstage
    generalize later.entriesOf s.tasks.length = entries at hstage
    cases hstage with
    | sent => exact .inl rfl
    | closed => exact .inr (.inl rfl)
    | late => exact .inr (.inr rfl)
  have hstatuses := statuses_of_demand (r := r) (a := a) fun n hn => by
    have hne : a.status ≠ n := by omega
    rw [hdemand]
    simp [Demand.refusal?, hne]
  obtain ⟨hnotFound, hnotPost, hmalformed⟩ := hstatuses
  refine ⟨hnotFound, hnotPost, hmalformed, ?_, ?_, ?_⟩
  · intro named call' hpath hpost hbody
    rw [Request.demand_of_check hpath hpost hbody] at hdemand
    cases hdemand
  · intro named call' hpath hpost hbody
    rw [Request.demand_of_report hpath hpost hbody] at hdemand
    cases hdemand
    generalize later.repliesOf s.tasks.length = replies at hstage ⊢
    generalize later.entriesOf s.tasks.length = entries at hstage ⊢
    cases hstage with
    | sent tries => simp [answerOf, Response.json]
    | closed tries => simp [answerOf, Response.text]
    | late tries past => simpa [answerOf, Response.bare] using past
  · intro hne
    generalize later.repliesOf s.tasks.length = replies at hstage ⊢
    generalize later.entriesOf s.tasks.length = entries at hstage ⊢
    cases hstage with
    | sent => exact absurd rfl hne
    | closed | late => rfl

/-- At any time after a call has come, its answer tells what happened. -/
theorem Sound.exists_task (h : s.Sound start) (hpatience : 0 < s.gateway.patience)
    (hpath : resourceAt s.gateway.pipeline r.target.path = .call) (hsize : r.body.size ≤ maxBody)
    (more : List RequestMove) :
    let later := more.foldl RequestRun.step (s.step (.request r))
    ∃ out, later.tasks[s.tasks.length]? =
        some ⟨r, s.gateway.pipeline.now + s.gateway.patience, out⟩ ∧
      ∀ a, later.answer? s.tasks.length = some a → Tells s r later a := by
  intro later
  by_cases hdemand : ∃ call, r.demand = .report call
  · obtain ⟨call, hcall⟩ := hdemand
    have hstands := (stands_of_request h hpath hsize hcall).steps more
    obtain ⟨out, htask, -⟩ := hstands.stage
    exact ⟨out, htask, fun a ha => hstands.tells hcall ha⟩
  · have hother : ∀ call, r.demand ≠ .report call := fun call hcall => hdemand ⟨call, hcall⟩
    obtain ⟨a, hasked, ha⟩ := settled_of_request h hpatience hpath hsize hother
    have hsettled := hasked.steps more
    refine ⟨some a, hsettled.task, fun a' ha' => ?_⟩
    rw [answer?, hsettled.task] at ha'
    obtain rfl := Option.some.inj ha'
    rcases ha with ⟨status, why, hrefused, rfl⟩ | ⟨call, hcheck, rfl⟩
    · exact tells_of_refused hrefused hsettled.entries
    · exact tells_of_check hcheck hsettled.entries

/-! ## Every run -/

/-- In every run of a gateway, a request to the path of a call with a body that is not too large is
answered with a status that tells what happened: which refusal came first, what the gateway answers
to the check, or what the queue said to the report while there was time. A call is answered at once
unless it is a report that finds the queue full, and that is answered as soon as it is attended to
when there is room, or the queue is closed, or its time is over. Only an answer of success goes with
a change of the gateway, and that is the one that the call demands. What is taken from the queue and
what waits there came into it in this order, and no report that was refused is among it. A request
that is served before anything else happens is answered by such a run. -/
theorem status_tells (g : Gateway) (hpatience : 0 < g.patience) (moves : List RequestMove)
    (r : Request) :
    let before := after g moves
    let asked := before.step (.request r)
    let i := before.tasks.length
    (resourceAt before.gateway.pipeline r.target.path = .call → r.body.size ≤ maxBody →
      ((asked.gateway = before.gateway ∨ ∃ a, asked.answer? i = some a ∧ a.status = 200 ∧
          Effect r before.gateway asked.gateway) ∧
        (asked.answer? i = none → ∃ call, r.demand = .report call ∧
          before.gateway.pipeline.queue.put call = .error .full)) ∧
      ∀ more : List RequestMove,
        let later := more.foldl step asked
        let attended := later.step (.attend i)
        (∀ a, later.answer? i = some a → Tells before r later a) ∧
        (attended.gateway = later.gateway ∨ ∃ a, attended.answer? i = some a ∧ a.status = 200 ∧
          Effect r later.gateway attended.gateway) ∧
        (attended.answer? i = none → ∃ call, r.demand = .report call ∧
          later.gateway.pipeline.queue.put call = .error .full ∧
          later.gateway.pipeline.now <
            before.gateway.pipeline.now + before.gateway.patience) ∧
        (later.taken ++ later.waiting <+:
            g.pipeline.queue.waiting ++ later.entered.map Prod.snd) ∧
        (later.gateway.pipeline.queue.hasReceiver = true → later.taken ++ later.waiting =
          g.pipeline.queue.waiting ++ later.entered.map Prod.snd)) ∧
    ∃ more : List RequestMove,
      (more.foldl step asked).gateway = (serve before.gateway r).2.2 ∧
      ∃ a, (more.foldl step asked).answer? i = some a ∧
        (serve before.gateway r).1 = if r.isHead then a.withoutContent else a := by
  intro before asked i
  have hsound : before.Sound g.pipeline.queue.waiting := sound_after g moves
  have hpatient : 0 < before.gateway.patience := by
    have hlater : Later { gateway := g } before := later_steps { gateway := g } moves
    rw [hlater.patience]
    exact hpatience
  refine ⟨fun hpath hsize => ⟨?_, fun more => ?_⟩, exists_steps_serve before hpatient r⟩
  · obtain ⟨heffect, hnone⟩ := effect_of_attendTo (task_arrive before r) hpath hsize
    exact ⟨heffect, fun h => (hnone h).2⟩
  · intro later attended
    have hlater : Later before later := (later_step before (.request r)).trans (later_steps _ _)
    have hpath' : resourceAt later.gateway.pipeline r.target.path = .call :=
      (resourceAt_of_plan hlater.plan _).trans hpath
    have hsound' : later.Sound g.pipeline.queue.waiting := (hsound.step _).steps more
    obtain ⟨out, htask, htells⟩ := hsound.exists_task hpatient hpath hsize more
    obtain ⟨heffect, hnone⟩ := effect_of_attendTo htask hpath' hsize
    refine ⟨htells, heffect, fun h => ?_, hsound'.flows, hsound'.complete⟩
    obtain ⟨hinTime, call, hdemand, hfull⟩ := hnone h
    exact ⟨call, hdemand, hfull, hinTime⟩

/-- Settings that are accepted give every request time. -/
theorem patience_pos_of_accepted (registries : Registries) {settings : Settings}
    (h : settings.violations = []) : 0 < (Gateway.ofSettings registries settings).patience := by
  have htimeout : 0 < settings.listener.requestTimeout :=
    Settings.violations_eq_nil_iff.mp h .requestTimeout
  exact Nat.mul_pos (by decide) htimeout

/-- Settings with room for one report and without consumers. -/
def narrowSettings : Settings where
  reports := { workers := 1, queueCapacity := 1, consumers := [] }

/-- A report without contents. -/
def emptyReport : Request where
  method := "POST"
  target := .origin "/v1/services/books:report" none
  body := ⟨#[123, 125]⟩

/-- The second of two reports finds the queue full until its time is over, and
never comes into it. -/
theorem status_tells_late : 0 < (Gateway.ofSettings {} narrowSettings).patience ∧
    let later := after (Gateway.ofSettings {} narrowSettings)
      [.request emptyReport, .request emptyReport, .attend 1, .wait 30000, .attend 1]
    (later.answer? 1).map (·.status) = some 408 ∧ later.entriesOf 1 = [] := by
  have hpatience : 0 < (Gateway.ofSettings {} narrowSettings).patience :=
    patience_pos_of_accepted {} (by decide +kernel)
  refine ⟨hpatience, ?_⟩
  intro later
  have hstatus : (later.answer? 1).map (·.status) = some 408 := by decide +kernel
  obtain ⟨a, hanswer, hlate⟩ := Option.map_eq_some_iff.mp hstatus
  obtain ⟨hcall, -⟩ := status_tells (Gateway.ofSettings {} narrowSettings) hpatience
    [.request emptyReport] emptyReport
  have hroute : Route.find? (routes (after (Gateway.ofSettings {} narrowSettings)
      [.request emptyReport]).gateway.pipeline) emptyReport.target.path = none := by decide +kernel
  obtain ⟨-, hrun⟩ := hcall (by rw [resourceAt, hroute]) (by decide)
  have htells := (hrun [.attend 1, .wait 30000, .attend 1]).1 a hanswer
  refine ⟨hstatus, htells.refused ?_⟩
  rw [hlate]
  decide

end ServiceControl.Http.RequestRun
