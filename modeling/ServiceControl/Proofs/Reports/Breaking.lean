import ServiceControl.Proofs.Reports.Fanout
import ServiceControl.Proofs.Reports.Settling

/-!
# Consumers that break off the workers that call them

A consumer that refuses a report keeps it from nobody. A consumer without a batcher that breaks off
the worker that calls it keeps the report from the outlets behind it, and the worker takes no more
reports; when no worker is left, what waits in the queue stays there. Such a worker has the report
that it was at for ever, so a run with broken workers is told like one in which these workers have
not got any further.
-/

namespace ServiceControl

/-- A worker was broken off while the outlet at a place was given its report. -/
structure Breakage where
  worker : Nat
  place : Nat
  report : ReportRequest

/-- What the worker would be if it had not got any further. -/
def Breakage.worked (b : Breakage) : Worker := .delivering b.report b.place

/-- The report if an outlet never gets it from the worker: the one at which the worker was broken
off, or one behind it. -/
def Breakage.missedAt? (place : Nat) (b : Breakage) : Option ReportRequest :=
  if b.place ≤ place then some b.report else none

/-- What is handed to an outlet has nothing to do with the workers. -/
theorem Pipeline.hand_workers (p : Pipeline) (ws : List Worker) (place : Nat) (o : Outlet)
    (rs : List ReportRequest) :
    ({ p with workers := ws } : Pipeline).hand place o rs =
      ((p.hand place o rs).1, { (p.hand place o rs).2 with workers := ws }) := by
  unfold hand
  cases o.batcher with
  | none => rfl
  | some b => cases h : b.offer rs <;> simp only [h]

/-- Only a consumer without a batcher breaks off the worker that hands reports to its outlet. -/
theorem Pipeline.hand_of_crashed {p : Pipeline} {place : Nat} {o : Outlet}
    {rs : List ReportRequest} (h : (p.hand place o rs).1 = .crashed) :
    o.batcher = none ∧ o.consumer.deliver (p.callsOf place) rs = .crashed ∧
      (p.hand place o rs).2 = { p with calls := p.calls ++ [⟨place, rs⟩] } := by
  rcases p.hand_cases place o rs with ⟨hb, hh⟩ | ⟨b, b', -, -, hh⟩ | ⟨b, -, -, hh⟩ <;> rw [hh] at h
  · exact ⟨hb, h, congrArg Prod.snd hh⟩
  · cases h
  · cases h

namespace WorkRun

variable {outlets : List Outlet} {workers worker place : Nat} {broken : List Breakage}
  {r r' : WorkRun}

/-! ## Workers that have not got any further -/

/-- Workers of whom the broken ones have not got any further. -/
def stuck (broken : List Breakage) (ws : List Worker) : List Worker :=
  broken.foldr (fun b ws => ws.set b.worker b.worked) ws

theorem length_stuck (broken : List Breakage) (ws : List Worker) :
    (stuck broken ws).length = ws.length := by
  induction broken with
  | nil => rfl
  | cons b rest ih => exact List.length_set.trans ih

/-- The others are what they are. -/
theorem getElem?_stuck_of_notMem {ws : List Worker} {v : Nat}
    (hv : v ∉ broken.map Breakage.worker) : (stuck broken ws)[v]? = ws[v]? := by
  induction broken with
  | nil => rfl
  | cons b rest ih =>
    rw [List.map_cons, List.mem_cons, not_or] at hv
    exact (List.getElem?_set_ne (Ne.symm hv.1)).trans (ih hv.2)

/-- A broken worker still has its report. -/
theorem getElem?_stuck_of_mem {ws : List Worker} (hnodup : (broken.map Breakage.worker).Nodup)
    {b : Breakage} (hb : b ∈ broken) (hlt : b.worker < ws.length) :
    (stuck broken ws)[b.worker]? = some b.worked := by
  induction broken with
  | nil => cases hb
  | cons first rest ih =>
    obtain ⟨hfirst, hrest⟩ := List.nodup_cons.mp hnodup
    rcases List.mem_cons.mp hb with rfl | hb
    · exact List.getElem?_set_self (Nat.lt_of_lt_of_eq hlt (length_stuck rest ws).symm)
    · have hne : first.worker ≠ b.worker := fun h => hfirst (h ▸ List.mem_map_of_mem hb)
      exact (List.getElem?_set_ne hne).trans (ih hrest hb)

/-- What one of the others does, it does among workers that have not got any further. -/
theorem stuck_set_of_notMem (ws : List Worker) {v : Nat} (w : Worker)
    (hv : v ∉ broken.map Breakage.worker) :
    stuck broken (ws.set v w) = (stuck broken ws).set v w := by
  induction broken with
  | nil => rfl
  | cons b rest ih =>
    rw [List.map_cons, List.mem_cons, not_or] at hv
    simp only [stuck, List.foldr_cons] at ih ⊢
    rw [ih hv.2, List.set_comm _ _ hv.1]

/-- A worker that is broken off has not got any further, so it is what it was. -/
theorem stuck_cons {ws : List Worker} {b : Breakage} (hb : b.worker ∉ broken.map Breakage.worker)
    (hw : ws[b.worker]? = some b.worked) :
    stuck (b :: broken) (ws.set b.worker .finished) = stuck broken ws := by
  have hsame : (stuck broken ws)[b.worker]? = some b.worked :=
    (getElem?_stuck_of_notMem hb).trans hw
  obtain ⟨hlt, heq⟩ := List.getElem?_eq_some_iff.mp hsame
  have hset := stuck_set_of_notMem ws .finished hb
  simp only [stuck, List.foldr_cons] at hset heq ⊢
  rw [hset, List.set_set, ← heq, List.set_getElem_self]

/-- The run as it would be if the broken workers had not got any further. -/
def shadow (r : WorkRun) (broken : List Breakage) : WorkRun :=
  { r with pipeline := { r.pipeline with workers := stuck broken r.pipeline.workers } }

/-- What one of the others does, it does in the same way if the broken workers had not got any
further. -/
theorem Goes.shadow (h : r.Goes worker r') (hv : worker ∉ broken.map Breakage.worker) :
    (r.shadow broken).Goes worker (r'.shadow broken) := by
  have hget {w : Worker} (hw : r.pipeline.workers[worker]? = some w) :
      (r.shadow broken).pipeline.workers[worker]? = some w :=
    (getElem?_stuck_of_notMem hv).trans hw
  cases h with
  | takes hw hq =>
    have hgo := Goes.takes (hget hw) hq
    simp only [WorkRun.shadow, stuck_set_of_notMem _ _ hv] at hgo ⊢
    exact hgo
  | leaves hw hdone =>
    have hgo := Goes.leaves (hget hw) hdone
    simp only [WorkRun.shadow, stuck_set_of_notMem _ _ hv] at hgo ⊢
    exact hgo
  | hands metrics hw ho =>
    have hgo := Goes.hands metrics (hget hw) ho
    simp only [WorkRun.shadow, stuck_set_of_notMem _ _ hv, Pipeline.hand_workers] at hgo ⊢
    exact hgo
  | turns hw ho =>
    have hgo := Goes.turns (hget hw) ho
    simp only [WorkRun.shadow, stuck_set_of_notMem _ _ hv] at hgo ⊢
    exact hgo

/-! ## What is known of a run -/

/-- A worker was broken off by a consumer without a batcher. -/
structure Broke (outlets : List Outlet) (r : WorkRun) (b : Breakage) : Prop where
  finished : r.pipeline.workers[b.worker]? = some .finished
  crashed : ∃ o, outlets[b.place]? = some o ∧ o.batcher = none ∧
    ∃ earlier, o.consumer.deliver earlier [b.report] = .crashed

/-- What is known of a run in which some workers were broken off: it is told like one in which these
have not got any further, and calm consumers are called with what is handed to them. -/
structure Breaks (outlets : List Outlet) (workers : Nat) (broken : List Breakage) (r : WorkRun) :
    Prop where
  told : (r.shadow broken).Told outlets workers
  nodup : (broken.map Breakage.worker).Nodup
  broke : ∀ b ∈ broken, r.Broke outlets b
  called : ∀ place o, outlets[place]? = some o → o.batcher = none → o.consumer.IsCalm →
    r.pipeline.callsOf place = (r.handedAt place).map fun report => [report]

/-- A worker that is not finished was not broken off. -/
theorem Breaks.notMem (h : r.Breaks outlets workers broken) {w : Worker}
    (hw : r.pipeline.workers[worker]? = some w) (hne : w ≠ .finished) :
    worker ∉ broken.map Breakage.worker := by
  intro hmem
  obtain ⟨b, hb, rfl⟩ := List.mem_map.mp hmem
  exact hne (Option.some.inj (hw.symm.trans (h.broke b hb).finished))

/-- The consumer at a place is the one that was there at the start, and has a batcher if that one
had. -/
theorem Breaks.exists_outlet (h : r.Breaks outlets workers broken) {o : Outlet}
    (ho : r.pipeline.outlets[place]? = some o) :
    ∃ o', outlets[place]? = some o' ∧ o'.consumer = o.consumer ∧
      o'.batcher.isSome = o.batcher.isSome := by
  have hplan := r.pipeline.getElem?_plan place
  rw [show r.pipeline.plan = _ from h.told.plan, List.getElem?_map, ho, Option.map_some] at hplan
  obtain ⟨o', ho', heq⟩ := Option.map_eq_some_iff.mp hplan
  obtain ⟨hconsumer, hbatcher⟩ := Prod.mk.inj heq
  exact ⟨o', ho', hconsumer, hbatcher⟩

/-- Consumers without a batcher are so in every state. -/
theorem Breaks.plan_eq (h : r.Breaks outlets workers broken) {o : Outlet}
    (ho : outlets[place]? = some o) (hb : o.batcher = none) :
    r.pipeline.plan[place]? = some (o.consumer, false) := by
  rw [show r.pipeline.plan = _ from h.told.plan, List.getElem?_map, ho, Option.map_some, hb]
  rfl

/-- A step of a worker is one of its own. -/
theorem Goes.exists_set (h : r.Goes worker r') :
    ∃ w next, r.pipeline.workers[worker]? = some w ∧ w ≠ .finished ∧
      r'.pipeline.workers = r.pipeline.workers.set worker next := by
  cases h with
  | takes hw | leaves hw => exact ⟨_, _, hw, nofun, rfl⟩
  | hands _ hw | turns hw => exact ⟨_, _, hw, nofun, rfl⟩

/-- Steps in which nobody is broken off keep what is known. -/
theorem Breaks.goes (h : r.Breaks outlets workers broken) (hgo : r.Goes worker r') :
    r'.Breaks outlets workers broken := by
  obtain ⟨w, next, hw, hne, hworkers⟩ := hgo.exists_set
  have hmem := h.notMem hw hne
  refine ⟨(hgo.shadow hmem).told h.told, h.nodup, fun b hb => ?_, fun place o ho hb hcalm => ?_⟩
  · have hother : worker ≠ b.worker := fun heq => hmem (heq ▸ List.mem_map_of_mem hb)
    obtain ⟨hfinished, hcrashed⟩ := h.broke b hb
    refine ⟨?_, hcrashed⟩
    rw [hworkers, List.getElem?_set_ne hother]
    exact hfinished
  · refine hgo.callsOf_eq (c := o.consumer) ?_ (h.called place o ho hb hcalm)
    rw [hgo.plan_eq]
    exact h.plan_eq ho hb

/-- A worker that is broken off is one more of those that have not got any further. -/
theorem Breaks.breaks (h : r.Breaks outlets workers broken) {report : ReportRequest} {o : Outlet}
    (hw : r.pipeline.workers[worker]? = some (.delivering report place))
    (ho : r.pipeline.outlets[place]? = some o)
    (hcrash : (r.pipeline.hand place o [report]).1 = .crashed) (metrics : Metrics) :
    Breaks outlets workers (⟨worker, place, report⟩ :: broken)
      { r with pipeline := { (r.pipeline.hand place o [report]).2 with
        workers := r.pipeline.workers.set worker .finished, metrics } } := by
  have hmem := h.notMem hw nofun
  obtain ⟨hb, hdeliver, hhand⟩ := Pipeline.hand_of_crashed hcrash
  obtain ⟨o', ho', hconsumer, hbatcher⟩ := h.exists_outlet ho
  have hb' : o'.batcher = none := by
    rw [hb, Option.isSome_none, Option.isSome_eq_false_iff, Option.isNone_iff_eq_none] at hbatcher
    exact hbatcher
  have hstuck := stuck_cons (b := ⟨worker, place, report⟩) hmem hw
  rw [hhand]
  constructor
  case told =>
    refine h.told.quietly rfl hstuck rfl h.told.flows fun v hv => ?_
    change (stuck (⟨worker, place, report⟩ :: broken) (r.pipeline.workers.set worker .finished))[v]?
      = some .finished at hv
    rw [hstuck] at hv
    exact h.told.noneEarly v hv
  case nodup => exact List.nodup_cons.mpr ⟨hmem, h.nodup⟩
  case broke =>
    intro b hb
    rcases List.mem_cons.mp hb with rfl | hb
    · refine ⟨List.getElem?_set_self (List.getElem?_eq_some_iff.mp hw).1, o', ho', hb', ?_⟩
      exact ⟨_, hconsumer ▸ hdeliver⟩
    · obtain ⟨hfinished, hcrashed⟩ := h.broke b hb
      have hother : worker ≠ b.worker := fun heq => hmem (heq ▸ List.mem_map_of_mem hb)
      exact ⟨(List.getElem?_set_ne hother).trans hfinished, hcrashed⟩
  case called =>
    intro i c hi hnone hcalm
    have hne : place ≠ i := by
      rintro rfl
      obtain rfl := Option.some.inj (ho'.symm.trans hi)
      exact hcalm _ _ (hconsumer ▸ hdeliver)
    refine (Pipeline.callsOf_append rfl i).trans ?_
    rw [if_neg hne, List.append_nil]
    exact h.called i c hi hnone hcalm

/-- Steps of batchers touch neither the queue nor the workers, and a consumer whose batcher is
broken off breaks off nobody else. -/
theorem Breaks.gather (h : r.Breaks outlets workers broken) {p : Pipeline}
    (hgo : Pipeline.BatcherStep r.pipeline place p) :
    Breaks outlets workers broken { r with pipeline := p } := by
  have hplan := hgo.plan_eq
  have hcalls {i : Nat} {o : Outlet} (ho : outlets[i]? = some o) (hb : o.batcher = none) :
      p.callsOf i = r.pipeline.callsOf i := callsOf_of_batcherStep hgo (h.plan_eq ho hb)
  have hcalled : ∀ i o, outlets[i]? = some o → o.batcher = none → o.consumer.IsCalm →
      p.callsOf i = (r.handedAt i).map fun report => [report] :=
    fun i o ho hb hcalm => (hcalls ho hb).trans (h.called i o ho hb hcalm)
  cases hgo with
  | gathers | passes =>
    refine ⟨?_, h.nodup, fun b hb => ⟨(h.broke b hb).finished, (h.broke b hb).crashed⟩, hcalled⟩
    exact h.told.quietly rfl rfl hplan h.told.flows h.told.noneEarly

/-- What touches neither outlets nor calls nor workers breaks off nobody. -/
theorem Breaks.quietly (h : r.Breaks outlets workers broken)
    (htold : (r'.shadow broken).Told outlets workers) (hlog : r'.log = r.log)
    (hworkers : r'.pipeline.workers = r.pipeline.workers)
    (hcalls : r'.pipeline.calls = r.pipeline.calls) : r'.Breaks outlets workers broken := by
  refine ⟨htold, h.nodup, fun b hb => ?_, fun place o ho hb hcalm => ?_⟩
  · obtain ⟨hfinished, hcrashed⟩ := h.broke b hb
    exact ⟨hworkers ▸ hfinished, hcrashed⟩
  · rw [Pipeline.callsOf_congr hcalls, handedAt, hlog]
    exact h.called place o ho hb hcalm

/-- After every move, the same is known, perhaps with one more worker that was broken off. -/
theorem Breaks.exists_step (h : r.Breaks outlets workers broken) (m : WorkMove) :
    ∃ broken', (r.step m).Breaks outlets workers broken' := by
  cases m with
  | put report =>
    cases hput : r.pipeline.queue.put report with
    | error _ =>
      simp only [WorkRun.step, hput]
      exact ⟨broken, h⟩
    | ok queue =>
      simp only [WorkRun.step, hput]
      exact ⟨broken, h.quietly (h.told.put hput) rfl rfl rfl⟩
  | dropSenders =>
    refine ⟨broken, h.quietly (h.told.quietly rfl rfl rfl h.told.flows fun v hv => ?_) rfl rfl rfl⟩
    exact ⟨(h.told.noneEarly v hv).1, rfl⟩
  | wait ms =>
    exact ⟨broken, h.quietly (h.told.quietly rfl rfl rfl h.told.flows h.told.noneEarly) rfl rfl rfl⟩
  | work worker =>
    cases hstep : r.pipeline.stepWorker worker with
    | none =>
      simp only [WorkRun.step, hstep]
      exact ⟨broken, h⟩
    | some p =>
      simp only [WorkRun.step, hstep]
      rcases goes_or_breaks hstep with hgo | ⟨report, place, o, metrics, hw, ho, hcrash, hbreak⟩
      · exact ⟨broken, h.goes hgo⟩
      · exact ⟨_, hbreak ▸ h.breaks hw ho hcrash metrics⟩
  | gather place =>
    cases hstep : r.pipeline.stepBatcher place with
    | none =>
      simp only [WorkRun.step, hstep]
      exact ⟨broken, h⟩
    | some p =>
      simp only [WorkRun.step, hstep]
      exact ⟨broken, h.gather (Pipeline.BatcherStep.of_stepBatcher hstep)⟩

/-- In every run the broken workers can be named. -/
theorem exists_breaks_after (outlets : List Outlet) (capacity workers : Nat)
    (moves : List WorkMove) :
    ∃ broken, (after outlets capacity workers moves).Breaks outlets workers broken := by
  induction moves using List.reverseRecOn with
  | nil =>
    exact ⟨[], told_start outlets capacity workers, List.nodup_nil, nofun, fun _ _ _ _ _ => rfl⟩
  | append_singleton moves m ih =>
    obtain ⟨broken, h⟩ := ih
    rw [after_snoc]
    exact h.exists_step m

/-! ## What is missed -/

/-- Reports that broken workers have for ever are owed by nobody, and missed. -/
theorem filterMap_stuck_perm {ws : List Worker} (hnodup : (broken.map Breakage.worker).Nodup)
    (hfinished : ∀ b ∈ broken, ws[b.worker]? = some .finished) :
    ((stuck broken ws).filterMap (Worker.owed? place)).Perm
      (broken.filterMap (Breakage.missedAt? place) ++ ws.filterMap (Worker.owed? place)) := by
  induction broken with
  | nil => exact .refl _
  | cons b rest ih =>
    obtain ⟨hb, hrest⟩ := List.nodup_cons.mp hnodup
    have hothers := ih hrest fun c hc => hfinished c (List.mem_cons_of_mem _ hc)
    have hget : (stuck rest ws)[b.worker]? = some .finished :=
      (getElem?_stuck_of_notMem hb).trans (hfinished b List.mem_cons_self)
    obtain ⟨front, back, hold, hnew⟩ := exists_set_eq hget b.worked
    have howed : [b.worked].filterMap (Worker.owed? place) =
        [b].filterMap (Breakage.missedAt? place) := rfl
    have hnone : [Worker.finished].filterMap (Worker.owed? place) = [] := rfl
    have hset : stuck (b :: rest) ws = (stuck rest ws).set b.worker b.worked := rfl
    rw [hold, List.filterMap_append, List.filterMap_append, hnone, List.append_nil] at hothers
    rw [hset, hnew, ← List.singleton_append (l := rest), List.filterMap_append,
      List.filterMap_append, List.filterMap_append, howed, List.append_assoc, List.append_assoc]
    exact (List.perm_append_comm_assoc _ _ _).trans (hothers.append_left _)

/-- What was taken has been handed to an outlet, or some worker still owes it, or it is missed. -/
theorem Breaks.perm_taken (h : r.Breaks outlets workers broken) (hlt : place < outlets.length) :
    (r.handedAt place ++ r.owedAt place ++ broken.filterMap (Breakage.missedAt? place)).Perm
      r.taken := by
  have hshares : (r.handedAt place ++ (r.shadow broken).owedAt place).Perm r.taken :=
    (h.told.shares place hlt).all
  have howed : ((r.shadow broken).owedAt place).Perm
      (broken.filterMap (Breakage.missedAt? place) ++ r.owedAt place) :=
    filterMap_stuck_perm h.nodup fun b hb => (h.broke b hb).finished
  rw [List.append_assoc]
  exact ((List.perm_append_comm.trans howed.symm).append_left _).trans hshares

/-- A worker that was broken off has made full turns and begun the one that it is at. -/
theorem Breaks.eventsOf_eq (h : r.Breaks outlets workers broken) {b : Breakage} (hb : b ∈ broken) :
    ∃ done : List ReportRequest, r.eventsOf b.worker =
      done.flatMap (WorkerEvent.turn outlets.length) ++ WorkerEvent.turn b.place b.report := by
  have hlt := (List.getElem?_eq_some_iff.mp (h.broke b hb).finished).1
  exact (h.told.allFit b.worker b.worked (getElem?_stuck_of_mem h.nodup hb hlt)).2

/-- A worker leaves in no other way before the senders are gone and the queue is empty. -/
theorem Breaks.mem_or_done (h : r.Breaks outlets workers broken)
    (hw : r.pipeline.workers[worker]? = some .finished) : worker ∈ broken.map Breakage.worker ∨
      r.pipeline.queue.waiting = [] ∧ r.pipeline.queue.hasSenders = false := by
  by_cases hmem : worker ∈ broken.map Breakage.worker
  · exact .inl hmem
  · exact .inr (h.told.noneEarly worker ((getElem?_stuck_of_notMem hmem).trans hw))

/-- Only consumers without a batcher can break workers off. -/
theorem Breaks.eq_nil (h : r.Breaks outlets workers broken)
    (hcalm : ∀ o ∈ outlets, o.batcher = none → o.consumer.IsCalm) : broken = [] := by
  refine List.eq_nil_iff_forall_not_mem.mpr fun b hb => ?_
  obtain ⟨o, ho, hnone, earlier, hcrash⟩ := (h.broke b hb).crashed
  exact hcalm o (List.mem_of_getElem? ho) hnone earlier _ hcrash

/-- The workers are as many as they were. -/
theorem Breaks.length_workers (h : r.Breaks outlets workers broken) :
    r.pipeline.workers.length = workers :=
  (length_stuck broken r.pipeline.workers).symm.trans h.told.length

/-- When all workers are done or broken off, an outlet has got all reports just if it has missed
none and none waits. -/
theorem Breaks.handedAt_perm_iff (h : r.Breaks outlets workers broken)
    (hcount : r.pipeline.finishedWorkers = workers) (hlt : place < outlets.length) :
    (r.handedAt place).Perm r.queued ↔
      broken.filterMap (Breakage.missedAt? place) = [] ∧ r.pipeline.queue.waiting = [] := by
  have hall := eq_finished_of_finishedWorkers h.length_workers hcount
  have hnone : r.owedAt place = [] := by
    rw [owedAt, List.filterMap_eq_nil_iff]
    intro w hw
    rw [hall w hw]
    rfl
  have hflows : r.taken ++ r.pipeline.queue.waiting = r.queued := h.told.flows
  have htaken := h.perm_taken hlt
  rw [hnone, List.append_nil] at htaken
  constructor
  · intro hperm
    have hlength := hperm.length_eq
    have hlengthTaken := htaken.length_eq
    rw [← hflows, List.length_append, ← hlengthTaken, List.length_append] at hlength
    exact ⟨List.length_eq_zero_iff.mp (by omega), List.length_eq_zero_iff.mp (by omega)⟩
  · rintro ⟨hmissed, hwaiting⟩
    rw [hmissed, List.append_nil] at htaken
    rw [← hflows, hwaiting, List.append_nil]
    exact htaken

/-- Settling is a run of steps of workers and batchers. -/
theorem exists_moves_settle (r : WorkRun) :
    ∃ more : List WorkMove, (more.foldl step r).pipeline = r.pipeline.settle := by
  refine Pipeline.settle_induction
    (P := fun p => ∃ more : List WorkMove, (more.foldl step r).pipeline = p) ?_ ?_ ⟨[], rfl⟩
  · rintro p q worker ⟨more, rfl⟩ hstep
    refine ⟨more ++ [.work worker], ?_⟩
    rw [List.foldl_append, List.foldl_cons, List.foldl_nil]
    simp only [step, hstep]
    rfl
  · rintro p q place ⟨more, rfl⟩ hstep
    refine ⟨more ++ [.gather place], ?_⟩
    rw [List.foldl_append, List.foldl_cons, List.foldl_nil]
    simp only [step, hstep, Option.getD_some]

/-- Once the senders are gone, a run can be continued until no worker is left. -/
theorem exists_finished_after (outlets : List Outlet) (capacity workers : Nat)
    (moves : List WorkMove)
    (hsenders : (after outlets capacity workers moves).pipeline.queue.hasSenders = false) :
    ∃ more, (after outlets capacity workers (moves ++ more)).pipeline.finishedWorkers =
      workers := by
  obtain ⟨more, hmore⟩ := exists_moves_settle (after outlets capacity workers moves)
  refine ⟨more, ?_⟩
  obtain ⟨broken, h⟩ := exists_breaks_after outlets capacity workers (moves ++ more)
  have hsettled : (after outlets capacity workers (moves ++ more)).pipeline =
      (after outlets capacity workers moves).pipeline.settle := by
    rw [← hmore, after, after, List.foldl_append]
  refine (List.countP_eq_length.mpr fun w hw => ?_).trans h.length_workers
  rw [hsettled] at hw
  rw [Pipeline.eq_finished_of_settle hsenders w hw]
  rfl

/-- In every run of any consumers, the reports are taken in the order of the queue, and what was
taken has been handed to an outlet, or is owed to it, or is missed by it for ever: it is the report
of a worker that the consumer of this outlet or of one before it has broken off. A worker is done in
no other way before the senders are gone and the queue is empty, and without consumers that break
off their worker there are no such workers. Calm consumers without a batcher are called with what is
handed to them. When all workers are done, an outlet has got every report just if it has missed none
and none waits, and reports wait there only if all workers were broken off. -/
theorem handedAt_after_breaks (outlets : List Outlet) (capacity workers : Nat)
    (moves : List WorkMove) :
    let r := after outlets capacity workers moves
    ∃ broken : List Breakage,
      ((broken.map Breakage.worker).Nodup ∧ ∀ b ∈ broken, r.Broke outlets b ∧
        ∃ done : List ReportRequest, r.eventsOf b.worker =
          done.flatMap (WorkerEvent.turn outlets.length) ++ WorkerEvent.turn b.place b.report) ∧
      r.taken ++ r.pipeline.queue.waiting = r.queued ∧
      (∀ place o, outlets[place]? = some o →
        (r.handedAt place ++ r.owedAt place ++
          broken.filterMap (Breakage.missedAt? place)).Perm r.taken ∧
        (o.batcher = none → o.consumer.IsCalm →
          r.pipeline.callsOf place = (r.handedAt place).map fun report => [report])) ∧
      (∀ worker, r.pipeline.workers[worker]? = some .finished →
        worker ∈ broken.map Breakage.worker ∨
          r.pipeline.queue.waiting = [] ∧ r.pipeline.queue.hasSenders = false) ∧
      ((∀ o ∈ outlets, o.batcher = none → o.consumer.IsCalm) → broken = []) ∧
      (r.pipeline.queue.hasSenders = false → ∃ more,
        (after outlets capacity workers (moves ++ more)).pipeline.finishedWorkers = workers) ∧
      (r.pipeline.finishedWorkers = workers →
        (r.pipeline.queue.waiting ≠ [] → ∀ worker < workers,
          worker ∈ broken.map Breakage.worker) ∧
        ∀ place o, outlets[place]? = some o → ((r.handedAt place).Perm r.queued ↔
          broken.filterMap (Breakage.missedAt? place) = [] ∧ r.pipeline.queue.waiting = [])) := by
  intro r
  obtain ⟨broken, h⟩ : ∃ broken, r.Breaks outlets workers broken :=
    exists_breaks_after outlets capacity workers moves
  have hlt {place : Nat} {o : Outlet} (ho : outlets[place]? = some o) : place < outlets.length :=
    (List.getElem?_eq_some_iff.mp ho).1
  refine ⟨broken, ⟨h.nodup, fun b hb => ⟨h.broke b hb, h.eventsOf_eq hb⟩⟩, h.told.flows,
    fun place o ho => ⟨h.perm_taken (hlt ho), h.called place o ho⟩, fun _ => h.mem_or_done,
    h.eq_nil, exists_finished_after outlets capacity workers moves, fun hcount => ⟨?_, ?_⟩⟩
  · intro hwaiting worker hworker
    have hw : worker < r.pipeline.workers.length := h.length_workers.symm ▸ hworker
    have hall := eq_finished_of_finishedWorkers h.length_workers hcount
    have hfinished : r.pipeline.workers[worker]? = some .finished := by
      rw [List.getElem?_eq_getElem hw, hall _ (List.getElem_mem hw)]
    exact (h.mem_or_done hfinished).resolve_right fun hdone => hwaiting hdone.1
  · exact fun place o ho => h.handedAt_perm_iff hcount (hlt ho)

/-- A consumer that breaks off its worker at every report, between two calm ones. -/
def crashingOutlets : List Outlet :=
  [{ consumer := { name := "first" } },
    { consumer := { name := "crashing", deliver := fun _ _ => .crashed } },
    { consumer := { name := "last" } }]

/-- Two reports are put into the queue, and then the senders are gone. -/
def crashingMoves : List WorkMove :=
  [.put { service := "a" }, .put { service := "b" }, .dropSenders, .work 0, .work 0, .work 0]

/-- It is not so that every calm consumer gets every report: the only worker is broken off at the
first one, so the last consumer gets neither and the first one does not get the second. -/
theorem not_forall_handedAt_perm :
    ¬∀ (outlets : List Outlet) (capacity workers : Nat) (moves : List WorkMove), 1 ≤ workers →
      let r := after outlets capacity workers moves
      r.pipeline.queue.hasSenders = false → r.pipeline.finishedWorkers = workers →
        ∀ place o, outlets[place]? = some o → o.consumer.IsCalm →
          (r.handedAt place).Perm r.queued := by
  intro h
  have hleft : (after crashingOutlets 4 1 crashingMoves).pipeline.finishedWorkers = 1 := by
    decide +kernel
  have hall := h crashingOutlets 4 1 crashingMoves (Nat.le_refl 1) (by decide +kernel) hleft 2
    { consumer := { name := "last" } } rfl fun _ _ => nofun
  have hlength := hall.length_eq
  revert hlength
  decide +kernel

end WorkRun

end ServiceControl
