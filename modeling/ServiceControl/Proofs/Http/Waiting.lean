import ServiceControl.Proofs.Http.Attending

/-!
# Reports that wait

A report that finds the queue full is told so each time it is attended to, until the queue tells
something else or its time is over. Its answer tells how that came out, and does not change any
more. What came into the queue, was taken and waits is known of every run.
-/

namespace ServiceControl.Http

/-! ## Reports that are under way -/

/-- What a report has come to, by what the queue said to it while it had time and by what came into
the queue meanwhile. -/
inductive ReportStage (call : ReportRequest) (due now : Nat) :
    Option Response → List QueueReply → List ReportRequest → Prop where
  | waits (tries : Nat) : ReportStage call due now none (List.replicate tries .full) []
  | sent (tries : Nat) : ReportStage call due now (some (answerOf .sent))
    (List.replicate tries .full ++ [.room]) [call]
  | closed (tries : Nat) : ReportStage call due now (some (answerOf .closed))
    (List.replicate tries .full ++ [.closed]) []
  | late (tries : Nat) (past : due ≤ now) : ReportStage call due now (some (answerOf .lost))
    (List.replicate tries .full) []

variable {g : Gateway} {r : Request} {call : ReportRequest} {due : Nat} {i : Nat}

/-- Time that passes takes nothing back. -/
theorem ReportStage.later {now now' : Nat} {out : Option Response} {replies : List QueueReply}
    {entries : List ReportRequest} (h : ReportStage call due now out replies entries)
    (hnow : now ≤ now') : ReportStage call due now' out replies entries := by
  cases h with
  | waits tries => exact .waits tries
  | sent tries => exact .sent tries
  | closed tries => exact .closed tries
  | late tries past => exact .late tries (Nat.le_trans past hnow)

/-- Attending to a report that waits adds one reply of the queue, and the report itself if that says
that there is room. -/
theorem ReportStage.attend {out : Option Response} {g' : Gateway} {replies : List QueueReply}
    {entries : List ReportRequest}
    (h : ReportStage call due g.pipeline.now none replies entries)
    (hasks : reportOf? g r = some call) (hout : Attends g due r (out, g')) :
    ReportStage call due g'.pipeline.now out
      (replies ++ (if due ≤ g.pipeline.now then none else replyTo? g r).toList)
      (entries ++ g'.pipeline.queue.waiting.drop g.pipeline.queue.waiting.length) := by
  obtain ⟨-, -, hnow⟩ := hout.keeps
  rw [hnow]
  have hreply (reply : QueueReply) (hinTime : g.pipeline.now < due)
      (h : g.pipeline.queue.replyTo call = reply) :
      (if due ≤ g.pipeline.now then none else replyTo? g r).toList = [reply] := by
    rw [if_neg (Nat.not_le.mpr hinTime), replyTo?, hasks, Option.map_some, h]
    rfl
  cases h with
  | waits tries =>
    cases hout with
    | late past =>
      rw [if_pos past, Option.toList_none, List.append_nil, List.drop_length, List.append_nil]
      exact .late tries past
    | waits hinTime hcall hput =>
      obtain rfl := Option.some.inj (hcall.symm.trans hasks)
      rw [hreply .full hinTime (by rw [ReportQueue.replyTo, hput]), List.drop_length,
        List.append_nil, ← List.replicate_succ']
      exact .waits (tries + 1)
    | sent hinTime hcall hput =>
      obtain rfl := Option.some.inj (hcall.symm.trans hasks)
      rw [hreply .room hinTime (by rw [ReportQueue.replyTo, hput])]
      obtain ⟨-, -, rfl⟩ := ReportQueue.put_eq_ok hput
      rw [List.drop_left, List.nil_append]
      exact .sent tries
    | closed hinTime hcall hput =>
      obtain rfl := Option.some.inj (hcall.symm.trans hasks)
      rw [hreply .closed hinTime (by rw [ReportQueue.replyTo, hput]), List.drop_length,
        List.append_nil]
      exact .closed tries
    | checks _ hnone | refuses _ hnone | shows _ hnone =>
      rw [hnone] at hasks
      cases hasks

namespace RequestRun

variable {s : RequestRun}

/-- A request with a report is under way. -/
structure Stands (r : Request) (call : ReportRequest) (due i : Nat) (s : RequestRun) : Prop where
  asks : reportOf? s.gateway r = some call
  stage : ∃ out, s.tasks[i]? = some ⟨r, due, out⟩ ∧
    ReportStage call due s.gateway.pipeline.now out (s.repliesOf i) (s.entriesOf i)

/-- Attending to it leads to its next stage, if it has no answer yet. -/
theorem Stands.attendTo (h : s.Stands r call due i) : (s.attendTo i).Stands r call due i := by
  obtain ⟨out, htask, hstage⟩ := h.stage
  rcases s.attendTo_cases i with ⟨hsame, -⟩ | ⟨r', due', out', g', htask', hout, hattend⟩
  · rw [hsame]
    exact h
  · obtain ⟨rfl, rfl, rfl⟩ := RequestTask.mk.inj (Option.some.inj (htask.symm.trans htask'))
    obtain ⟨hplan, -, -⟩ := hout.keeps
    have hnext := hstage.attend h.asks hout
    have hlt := (List.getElem?_eq_some_iff.mp htask).1
    rw [hattend]
    refine ⟨(reportOf?_of_plan hplan r).trans h.asks, out', List.getElem?_set_self hlt, ?_⟩
    simp only [repliesOf, entriesOf, Table.valuesOf_append, Table.valuesOf_map, if_true]
    exact hnext

/-- Every move keeps it under way. -/
theorem Stands.step (h : s.Stands r call due i) (m : RequestMove) :
    (s.step m).Stands r call due i := by
  obtain ⟨out, htask, hstage⟩ := h.stage
  by_cases hm : m = .attend i
  · subst hm
    exact h.attendTo
  · have hlt := (List.getElem?_eq_some_iff.mp htask).1
    have hsame := sameAt_step hlt hm
    have hlater := later_step s m
    refine ⟨(reportOf?_of_plan hlater.plan r).trans h.asks, out, hsame.task.trans htask, ?_⟩
    rw [hsame.entries, hsame.replies]
    exact hstage.later hlater.now

theorem Stands.steps (h : s.Stands r call due i) (more : List RequestMove) :
    (more.foldl RequestRun.step s).Stands r call due i :=
  List.foldlRecOn more RequestRun.step h fun _ hs m _ => hs.step m

/-- A request was answered, and put nothing into the queue. -/
structure Settled (r : Request) (due : Nat) (a : Response) (i : Nat) (s : RequestRun) : Prop where
  task : s.tasks[i]? = some ⟨r, due, some a⟩
  entries : s.entriesOf i = []

/-- Nothing changes an answer. -/
theorem Settled.step {a : Response} (h : s.Settled r due a i) (m : RequestMove) :
    (s.step m).Settled r due a i := by
  by_cases hm : m = .attend i
  · subst hm
    rcases s.attendTo_cases i with ⟨hsame, -⟩ | ⟨r', due', out', g', htask', -, -⟩
    · rw [RequestRun.step, hsame]
      exact h
    · cases h.task.symm.trans htask'
  · have hlt := (List.getElem?_eq_some_iff.mp h.task).1
    have hsame := sameAt_step hlt hm
    exact ⟨hsame.task.trans h.task, hsame.entries.trans h.entries⟩

theorem Settled.steps {a : Response} (h : s.Settled r due a i) (more : List RequestMove) :
    (more.foldl RequestRun.step s).Settled r due a i :=
  List.foldlRecOn more RequestRun.step h fun _ hs m _ => hs.step m

/-! ## What is known of every run -/

/-- What is known of a run of a gateway with so many reports in its queue: only requests that have
come are told of, and what was taken and what waits has come into the queue in this order. Without a
receiver, what waited may be lost. -/
structure Sound (start : List ReportRequest) (s : RequestRun) : Prop where
  entered : ∀ x ∈ s.entered, x.1 < s.tasks.length
  replies : ∀ x ∈ s.replies, x.1 < s.tasks.length
  flows : s.taken ++ s.waiting <+: start ++ s.entered.map Prod.snd
  complete : s.gateway.pipeline.queue.hasReceiver = true →
    s.taken ++ s.waiting = start ++ s.entered.map Prod.snd

variable {start : List ReportRequest}

/-- Nothing is told of a request that has not come. -/
theorem Sound.fresh (h : s.Sound start) :
    s.entriesOf s.tasks.length = [] ∧ s.repliesOf s.tasks.length = [] := by
  refine ⟨Table.valuesOf_eq_nil fun x hx => ?_, Table.valuesOf_eq_nil fun x hx => ?_⟩
  · exact Nat.ne_of_lt (h.entered x hx)
  · exact Nat.ne_of_lt (h.replies x hx)

/-- A move that leaves the queue as it is. -/
theorem Sound.quietly {s' : RequestRun} (h : s.Sound start)
    (htasks : s.tasks.length ≤ s'.tasks.length)
    (hentered : s'.entered = s.entered) (hreplies : s'.replies = s.replies)
    (htaken : s'.taken = s.taken) (hwaiting : s'.waiting = s.waiting)
    (hreceiver : s'.gateway.pipeline.queue.hasReceiver = true →
      s.gateway.pipeline.queue.hasReceiver = true) : s'.Sound start := by
  refine ⟨fun x hx => ?_, fun x hx => ?_, ?_, fun hopen => ?_⟩
  · exact Nat.lt_of_lt_of_le (h.entered x (hentered ▸ hx)) htasks
  · exact Nat.lt_of_lt_of_le (h.replies x (hreplies ▸ hx)) htasks
  · rw [htaken, hwaiting, hentered]
    exact h.flows
  · rw [htaken, hwaiting, hentered]
    exact h.complete (hreceiver hopen)

/-- What comes into the queue is told of, with the number of the request. -/
theorem Sound.attendTo (h : s.Sound start) (i : Nat) : (s.attendTo i).Sound start := by
  rcases s.attendTo_cases i with ⟨hsame, -⟩ | ⟨r, due, out, g', htask, hout, hattend⟩
  · rw [hsame]
    exact h
  · have hlt := (List.getElem?_eq_some_iff.mp htask).1
    have hknown {α : Type} {t : Table Nat α} (ht : ∀ x ∈ t, x.1 < s.tasks.length)
        (values : List α) :
        ∀ x ∈ t ++ values.map fun a => (i, a),
          x.1 < (s.tasks.set i ⟨r, due, out⟩).length := by
      intro x hx
      rw [List.length_set]
      rcases List.mem_append.mp hx with hx | hx
      · exact ht x hx
      · obtain ⟨a, -, rfl⟩ := List.mem_map.mp hx
        exact hlt
    obtain ⟨added, hqueue, hadded⟩ := hout.exists_added
    have hwaiting : g'.pipeline.queue.waiting = s.waiting ++ added := by
      rw [hqueue]
      rfl
    have hentered : (s.entered ++ (g'.pipeline.queue.waiting.drop s.waiting.length).map
        fun report => (i, report)).map Prod.snd = s.entered.map Prod.snd ++ added := by
      rw [hwaiting, List.drop_left, List.map_append, List.map_map]
      simp only [Function.comp_def, List.map_id']
    have hmore (hopen : s.gateway.pipeline.queue.hasReceiver = true) :
        s.taken ++ (s.waiting ++ added) = start ++ (s.entered.map Prod.snd ++ added) := by
      rw [← List.append_assoc, h.complete hopen, List.append_assoc]
    rw [hattend]
    refine ⟨hknown h.entered _, hknown h.replies _, ?_, fun hopen => ?_⟩
    · change s.taken ++ g'.pipeline.queue.waiting <+: start ++ List.map Prod.snd (s.entered ++ _)
      rw [hentered, hwaiting]
      rcases hadded with rfl | hopen
      · rw [List.append_nil, List.append_nil]
        exact h.flows
      · exact hmore hopen ▸ List.prefix_rfl
    · change s.taken ++ g'.pipeline.queue.waiting = start ++ List.map Prod.snd (s.entered ++ _)
      rw [hentered, hwaiting]
      refine hmore ?_
      simp only [hqueue] at hopen
      exact hopen

theorem Sound.step (h : s.Sound start) (m : RequestMove) : (s.step m).Sound start := by
  cases m with
  | request r =>
    have harrive : (s.arrive r).Sound start :=
      h.quietly (by rw [arrive, List.length_append]; omega) rfl rfl rfl rfl id
    exact harrive.attendTo _
  | attend i => exact h.attendTo i
  | work worker =>
    simp only [RequestRun.step]
    cases hstep : s.gateway.pipeline.stepWorker worker with
    | none => exact h
    | some p =>
      have hqueue : (p.queue.hasReceiver = s.gateway.pipeline.queue.hasReceiver) ∧
          s.waiting.take (s.waiting.length - p.queue.waiting.length) ++ p.queue.waiting =
            s.waiting := by
        cases Pipeline.WorkerStep.of_stepWorker hstep with
        | takes _ htake =>
          obtain ⟨hwaiting, hqueue⟩ := ReportQueue.take?_eq_some htake
          refine ⟨by rw [hqueue], ?_⟩
          simp [waiting, hwaiting]
        | leaves | turns => exact ⟨rfl, by simp [waiting]⟩
        | hands => exact ⟨by simp, by simp [waiting]⟩
      obtain ⟨hreceiver, hwaiting⟩ := hqueue
      refine ⟨h.entered, h.replies, ?_, fun hopen => ?_⟩ <;>
        simp only [waiting, piped, List.append_assoc] at hwaiting ⊢ <;> rw [hwaiting]
      · exact h.flows
      · exact h.complete (hreceiver ▸ hopen)
  | gather place =>
    simp only [RequestRun.step]
    cases hstep : s.gateway.pipeline.stepBatcher place with
    | none => exact h
    | some p =>
      have hqueue : p.queue = s.gateway.pipeline.queue := by
        cases Pipeline.BatcherStep.of_stepBatcher hstep <;> rfl
      refine h.quietly (Nat.le_refl _) rfl rfl rfl ?_ fun hopen => hqueue ▸ hopen
      exact congrArg ReportQueue.waiting hqueue
  | wait ms => exact h.quietly (Nat.le_refl _) rfl rfl rfl rfl id
  | reload fetched =>
    have hpipeline : (s.gateway.reload fetched).2.pipeline = s.gateway.pipeline := by
      unfold Gateway.reload
      cases s.gateway.reloader <;> rfl
    refine h.quietly (Nat.le_refl _) rfl rfl rfl ?_ ?_ <;>
      simp only [RequestRun.step, waiting, hpipeline]
    exact id
  | dropSenders => exact h.quietly (Nat.le_refl _) rfl rfl rfl rfl id
  | dropReceiver =>
    refine ⟨h.entered, h.replies, ?_, fun hopen => ?_⟩
    · have hprefix : s.taken <+: s.taken ++ s.waiting := List.prefix_append _ _
      simp only [RequestRun.step, piped, waiting, ReportQueue.dropReceiver, List.append_nil]
      exact hprefix.trans h.flows
    · cases hopen

theorem Sound.steps (h : s.Sound start) (more : List RequestMove) :
    (more.foldl RequestRun.step s).Sound start :=
  List.foldlRecOn more RequestRun.step h fun _ hs m _ => hs.step m

/-- At its start a run has taken nothing, and nothing has come. -/
theorem sound_after (g : Gateway) (moves : List RequestMove) :
    (after g moves).Sound g.pipeline.queue.waiting := by
  have hstart : ({ gateway := g } : RequestRun).Sound g.pipeline.queue.waiting :=
    ⟨nofun, nofun, List.prefix_append _ _, fun _ => (List.append_nil _).symm⟩
  exact hstart.steps moves

theorem later_steps (s : RequestRun) (more : List RequestMove) :
    Later s (more.foldl RequestRun.step s) :=
  List.foldlRecOn more RequestRun.step (.refl s) fun s' hs m _ => hs.trans (later_step s' m)

end RequestRun

end ServiceControl.Http
