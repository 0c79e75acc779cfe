import ServiceControl.Proofs.Reports.Fanout
import ServiceControl.Proofs.Reports.Places

/-!
# Nothing is lost on the way

Whatever was handed to an outlet with a batcher has gone out of the batcher or is in it, in order. A
batcher refuses reports once it is closed, so this holds as long as batchers are closed only after
all workers have left. When the workers have left and the batchers have come to their ends, every
consumer has got every report of the queue once.
-/

namespace ServiceControl

/-- A batcher as it is started, with room for its batches. -/
structure Batcher.IsFresh {α : Type} (b : Batcher α) : Prop where
  batch : b.batch = []
  incoming : b.incoming = []
  isOpen : b.isOpen = true
  isRunning : b.isRunning = true
  fits : b.limit ≤ Batcher.largest

/-- A batcher that was just started has nothing to do. -/
theorem Batcher.IsFresh.step_eq_none {α : Type} {b : Batcher α} (h : b.IsFresh) (now : Nat) :
    b.step now = none := by
  obtain ⟨hbatch, hincoming, hopen, hrunning, hfits⟩ := h
  simp [Batcher.step, hbatch, hincoming, hopen, hrunning, Nat.not_lt.mpr hfits]

/-- A sound batcher that is open takes what it is offered. -/
theorem Batcher.IsSound.offer_ne_none {α : Type} {b : Batcher α} (h : b.IsSound)
    (hopen : b.isOpen = true) (items : List α) : b.offer items ≠ none := by
  have hrunning : b.isRunning = true := by
    cases hr : b.isRunning with
    | true => rfl
    | false => exact absurd ((h.ended hr).1.symm.trans hopen) (by decide)
  simp [Batcher.offer, hopen, hrunning]

namespace WorkRun

variable {outlets : List Outlet} {workers worker place : Nat} {r r' : WorkRun}

/-- What is known of the batcher at a place: nothing that was handed to it is lost. -/
structure BatcherHolds (r : WorkRun) (place : Nat) (b : Batcher ReportRequest) : Prop where
  sound : b.IsSound
  fits : b.limit ≤ Batcher.largest
  flow : (r.pipeline.callsOf place).flatten ++ (b.batch ++ b.incoming) = r.handedAt place

/-- A batcher that is handed nothing and passes nothing on loses nothing. -/
theorem BatcherHolds.congr {b : Batcher ReportRequest} (h : r.BatcherHolds place b)
    (hcalls : r'.pipeline.callsOf place = r.pipeline.callsOf place)
    (hhanded : r'.handedAt place = r.handedAt place) : r'.BatcherHolds place b := by
  refine ⟨h.sound, h.fits, ?_⟩
  rw [hcalls, hhanded, h.flow]

/-- What is known of a run whose batchers are closed after all workers have left. -/
structure Holds (outlets : List Outlet) (workers : Nat) (r : WorkRun) : Prop where
  sound : r.Sound outlets workers
  batchers : ∀ place b, r.pipeline.batcherAt place = some b → r.BatcherHolds place b
  open_or_left : r.pipeline.AllLeft ∨
    ∀ place b, r.pipeline.batcherAt place = some b → b.isOpen = true

/-- All consumers of a plan are calm if those of its outlets are. -/
theorem allCalm_of_plan {plan : List (Consumer × Bool)}
    (hplan : plan = outlets.map fun o => (o.consumer, o.batcher.isSome))
    (hcalm : ∀ o ∈ outlets, o.consumer.IsCalm) : AllCalm plan := by
  rw [hplan]
  intro x hx
  obtain ⟨o, ho, rfl⟩ := List.mem_map.mp hx
  exact hcalm o ho

theorem Sound.allCalm (h : r.Sound outlets workers) (hcalm : ∀ o ∈ outlets, o.consumer.IsCalm) :
    AllCalm r.pipeline.plan :=
  allCalm_of_plan h.plan hcalm

theorem Holds.allSound (h : r.Holds outlets workers) : r.pipeline.AllSound :=
  fun place b hb => ⟨(h.batchers place b hb).sound, (h.batchers place b hb).fits⟩

/-- What touches neither outlets nor calls leaves the batchers alone. -/
theorem Holds.quietly (h : r.Holds outlets workers) (hsound : r'.Sound outlets workers)
    (houtlets : r'.pipeline.outlets = r.pipeline.outlets)
    (hcalls : r'.pipeline.calls = r.pipeline.calls)
    (hhanded : ∀ place, r'.handedAt place = r.handedAt place)
    (hleft : r.pipeline.AllLeft → r'.pipeline.AllLeft) : r'.Holds outlets workers := by
  have hat (place : Nat) : r'.pipeline.batcherAt place = r.pipeline.batcherAt place := by
    rw [Pipeline.batcherAt, houtlets, Pipeline.batcherAt]
  refine ⟨hsound, fun place b hb => ?_, ?_⟩
  · exact (h.batchers place b (hat place ▸ hb)).congr (Pipeline.callsOf_congr hcalls place)
      (hhanded place)
  · exact h.open_or_left.imp hleft fun hopen place b hb => hopen place b (hat place ▸ hb)

/-- While a worker has not left, all batchers are open. -/
theorem Holds.isOpen (h : r.Holds outlets workers) {w : Worker}
    (hw : r.pipeline.workers[worker]? = some w) (hne : w ≠ .finished) :
    ∀ place b, r.pipeline.batcherAt place = some b → b.isOpen = true :=
  h.open_or_left.resolve_left (Pipeline.not_allLeft hw hne)

/-- A worker hands its report to a batcher that takes it. -/
theorem Holds.hand (h : r.Holds outlets workers) {report : ReportRequest} {o : Outlet}
    (hw : r.pipeline.workers[worker]? = some (.delivering report place))
    (ho : r.pipeline.outlets[place]? = some o) (hr' : r'.Sound outlets workers)
    (houtlets : r'.pipeline.outlets = (r.pipeline.hand place o [report]).2.outlets)
    (hcalls : r'.pipeline.calls = (r.pipeline.hand place o [report]).2.calls)
    (hhanded : ∀ i, r'.handedAt i = r.handedAt i ++ if place = i then [report] else []) :
    r'.Holds outlets workers := by
  have hopen := h.isOpen hw nofun
  rcases r.pipeline.hand_cases place o [report] with
    ⟨hb, hhand⟩ | ⟨b, b', hb, hoffer, hhand⟩ | ⟨b, hb, hoffer, hhand⟩
  · -- the report goes to the consumer itself, and no batcher is at this place
    have hat (i : Nat) : r'.pipeline.batcherAt i = r.pipeline.batcherAt i := by
      rw [Pipeline.batcherAt, houtlets, hhand, Pipeline.batcherAt]
    refine ⟨hr', fun i b hi => ?_, Or.inr fun i b hi => hopen i b (hat i ▸ hi)⟩
    rw [hat] at hi
    have hne : place ≠ i := by
      rintro rfl
      rw [Pipeline.batcherAt_of_outlet ho, hb] at hi
      cases hi
    refine (h.batchers i b hi).congr ?_ ?_
    · rw [hhand] at hcalls
      rw [Pipeline.callsOf_append hcalls, if_neg hne, List.append_nil]
    · rw [hhanded, if_neg hne, List.append_nil]
  · have hcallsOf (i : Nat) : r'.pipeline.callsOf i = r.pipeline.callsOf i :=
      Pipeline.callsOf_congr (by rw [hcalls, hhand]) i
    rw [hhand] at houtlets
    have hat := (Pipeline.batcherAt_of_outlet ho).trans hb
    obtain ⟨hsound, hfits, hflow⟩ := h.batchers place b hat
    obtain ⟨rfl, hsound'⟩ := hsound.offer hoffer
    refine ⟨hr', Pipeline.forall_batcherAt_of_set ho houtlets ⟨hsound', hfits, ?_⟩ ?_,
      Or.inr (Pipeline.forall_batcherAt_of_set ho houtlets ?_ ?_)⟩
    · rw [hcallsOf, hhanded, if_pos rfl, ← hflow]
      simp only [List.append_assoc]
    · intro i c hne hc
      refine (h.batchers i c hc).congr (hcallsOf i) ?_
      rw [hhanded, if_neg hne, List.append_nil]
    · exact hopen place b hat
    · exact fun i c _ hc => hopen i c hc
  · -- an open batcher that has not come to its end refuses nothing
    have hb := (Pipeline.batcherAt_of_outlet ho).trans hb
    exact absurd hoffer ((h.batchers place b hb).sound.offer_ne_none (hopen place b hb) _)

/-- A step of a worker loses nothing. -/
theorem Goes.holds (hgo : r.Goes worker r') (h : r.Holds outlets workers) :
    r'.Holds outlets workers := by
  have hsound := hgo.sound h.sound
  have hbusy {w : Worker} (hw : r.pipeline.workers[worker]? = some w) (hne : w ≠ .finished)
      (hleft : r.pipeline.AllLeft) : r'.pipeline.AllLeft :=
    absurd hleft (Pipeline.not_allLeft hw hne)
  cases hgo with
  | takes hw =>
    exact h.quietly hsound rfl rfl (fun i => (handedAt_append rfl i).trans (List.append_nil _))
      (hbusy hw nofun)
  | leaves hw =>
    exact h.quietly hsound rfl rfl (fun i => (handedAt_append rfl i).trans (List.append_nil _))
      (hbusy hw nofun)
  | turns hw => exact h.quietly hsound rfl rfl (fun _ => rfl) (hbusy hw nofun)
  | @hands report place o metrics hw ho =>
    refine h.hand hw ho hsound rfl rfl fun i => (handedAt_append rfl i).trans ?_
    by_cases hi : place = i <;> simp [WorkerEvent.handedAt?, hi]

/-- What goes out of a batcher is missing in it only. -/
theorem Holds.passes (h : r.Holds outlets workers) {p : Pipeline}
    (hpass : r.pipeline.PassesAt place p) : Holds outlets workers { r with pipeline := p } := by
  obtain @⟨o, b, x, ho, hb, hp⟩ := hpass
  have hplan : (r.pipeline.passedAt place o x).plan = r.pipeline.plan :=
    map_set_of_eq ho (by rw [hb]; rfl)
  have hat := (Pipeline.batcherAt_of_outlet ho).trans hb
  have hcallsOf := r.pipeline.callsOf_passedAt place o x
  refine ⟨?_, Pipeline.forall_batcherAt_of_set ho rfl ?_ ?_, ?_⟩
  · refine h.sound.quietly rfl rfl hplan h.sound.flows (fun i c hi => ?_) h.sound.noneEarly
    have hold : r.pipeline.plan[i]? = some (c, false) := hplan ▸ hi
    rw [hcallsOf, if_neg (ne_of_plan ho hb hold), List.append_nil]
    exact h.sound.allCalled i c hold
  · obtain ⟨-, hfits, hflow⟩ := h.batchers place b hat
    refine ⟨hp.sound, hp.limit ▸ hfits, ?_⟩
    rw [hcallsOf, if_pos rfl, List.flatten_append, List.append_assoc, hp.flow]
    exact hflow
  · intro i c hne hc
    refine (h.batchers i c hc).congr ?_ rfl
    rw [hcallsOf, if_neg hne, List.append_nil]
  · refine h.open_or_left.imp_right fun hopen => Pipeline.forall_batcherAt_of_set ho rfl ?_ ?_
    · exact hp.isOpen.trans (hopen place b hat)
    · exact fun i c _ hc => hopen i c hc

/-- Once all workers have left, any batchers may be closed. -/
theorem Holds.close (h : r.Holds outlets workers)
    (hleft : r.pipeline.AllLeft) {p : Pipeline}
    (hat : ∀ i, p.batcherAt i = r.pipeline.batcherAt i ∨
      p.batcherAt i = (r.pipeline.batcherAt i).map (·.close))
    (hplan : p.plan = r.pipeline.plan) (hcalls : p.calls = r.pipeline.calls)
    (hworkers : p.workers = r.pipeline.workers) (hqueue : p.queue = r.pipeline.queue) :
    Holds outlets workers { r with pipeline := p } := by
  refine ⟨?_, fun i b hi => ?_, Or.inl fun w hw => hleft w (hworkers ▸ hw)⟩
  · refine h.sound.quietly rfl hworkers hplan ?_ (fun i c hi => ?_) ?_
    · rw [Flows, hqueue]
      exact h.sound.flows
    · rw [Pipeline.callsOf_congr hcalls]
      exact h.sound.allCalled i c (hplan ▸ hi)
    · intro v hv
      rw [hqueue]
      exact h.sound.noneEarly v (hworkers ▸ hv)
  · have hcallsOf : p.callsOf i = r.pipeline.callsOf i := Pipeline.callsOf_congr hcalls i
    rcases hat i with hsame | hclosed
    · exact (h.batchers i b (hsame ▸ hi)).congr hcallsOf rfl
    · obtain ⟨b₀, hb₀, rfl⟩ := Option.map_eq_some_iff.mp (hclosed.symm.trans hi)
      have hb₀ : BatcherHolds { r with pipeline := p } i b₀ :=
        (h.batchers i b₀ hb₀).congr hcallsOf rfl
      exact ⟨hb₀.sound.close, hb₀.fits, hb₀.flow⟩

/-- A step of a batcher loses nothing. -/
theorem Holds.passesAt_of_stepBatcher (h : r.Holds outlets workers)
    (hcalm : ∀ o ∈ outlets, o.consumer.IsCalm) {p : Pipeline}
    (hstep : r.pipeline.stepBatcher place = some p) : r.pipeline.PassesAt place p :=
  h.allSound.passesAt_of_stepBatcher (h.sound.allCalm hcalm) hstep

/-- A batch whose time is over is not lost. -/
theorem Holds.passesAt_of_expireBatcher (h : r.Holds outlets workers)
    (hcalm : ∀ o ∈ outlets, o.consumer.IsCalm) {p : Pipeline}
    (hstep : r.pipeline.expireBatcher place = some p) : r.pipeline.PassesAt place p :=
  h.allSound.passesAt_of_expireBatcher (h.sound.allCalm hcalm) hstep

/-- Every move keeps what is known of a run. -/
theorem Holds.step (h : r.Holds outlets workers) (hcalm : ∀ o ∈ outlets, o.consumer.IsCalm)
    (m : WorkMove) : (r.step m).Holds outlets workers := by
  have hsound := h.sound.step hcalm m
  cases m with
  | put report =>
    simp only [WorkRun.step] at hsound ⊢
    split at hsound
    · exact h.quietly hsound rfl rfl (fun _ => rfl) id
    · exact h
  | dropSenders => exact h.quietly hsound rfl rfl (fun _ => rfl) id
  | wait ms => exact h.quietly hsound rfl rfl (fun _ => rfl) id
  | work worker =>
    simp only [WorkRun.step]
    split
    · next p hstep => exact (Goes.of_stepWorker (h.sound.allCalm hcalm) hstep).holds h
    · exact h
  | gather place =>
    simp only [WorkRun.step]
    cases hstep : r.pipeline.stepBatcher place with
    | none => exact h
    | some p => exact h.passes (h.passesAt_of_stepBatcher hcalm hstep)

/-- No move brings anything back. -/
theorem Holds.later (h : r.Holds outlets workers) (hcalm : ∀ o ∈ outlets, o.consumer.IsCalm)
    (m : WorkMove) : r.pipeline.Later (r.step m).pipeline := by
  cases m with
  | put report =>
    simp only [WorkRun.step]
    cases hput : r.pipeline.queue.put report with
    | error _ => exact .refl _
    | ok queue =>
      obtain ⟨hsenders, -, rfl⟩ := ReportQueue.put_eq_ok hput
      exact .of_outlets rfl id id
  | dropSenders => exact .of_outlets rfl (fun _ => rfl) id
  | wait ms => exact .of_outlets rfl id id
  | work worker =>
    simp only [WorkRun.step]
    cases hstep : r.pipeline.stepWorker worker with
    | none => exact .refl _
    | some p => exact Pipeline.later_of_stepWorker hstep
  | gather place =>
    simp only [WorkRun.step]
    cases hstep : r.pipeline.stepBatcher place with
    | none => exact .refl _
    | some p => exact (h.passesAt_of_stepBatcher hcalm hstep).later

/-- Runs start with nothing handed to anybody. -/
theorem holds_start (hcalm : ∀ o ∈ outlets, o.consumer.IsCalm)
    (hfresh : ∀ o ∈ outlets, ∀ b, o.batcher = some b → b.IsFresh) (capacity : Nat) :
    (after outlets capacity workers []).Holds outlets workers := by
  refine ⟨sound_after hcalm capacity [], fun place b hb => ?_, Or.inr fun place b hb => ?_⟩
  · obtain ⟨o, ho, hob⟩ := Option.bind_eq_some_iff.mp hb
    obtain ⟨hbatch, hincoming, hopen, hrunning, hfits⟩ := hfresh o (List.mem_of_getElem? ho) b hob
    refine ⟨⟨?_, fun hend => ?_⟩, hfits, ?_⟩
    · rw [hbatch]
      exact Nat.le_max_right _ _
    · exact absurd (hend.symm.trans hrunning) (by decide)
    · rw [hbatch, hincoming]
      rfl
  · obtain ⟨o, ho, hob⟩ := Option.bind_eq_some_iff.mp hb
    exact (hfresh o (List.mem_of_getElem? ho) b hob).isOpen

/-- Settling loses nothing, and brings nothing back. -/
theorem Holds.settle (h : r.Holds outlets workers) (hcalm : ∀ o ∈ outlets, o.consumer.IsCalm) :
    ∃ r' : WorkRun, r'.pipeline = r.pipeline.settle ∧ r'.queued = r.queued ∧
      r'.Holds outlets workers ∧ r.pipeline.Later r'.pipeline := by
  -- with each step of the pipeline, the run takes the same step
  refine Pipeline.settle_induction (P := fun p => ∃ r' : WorkRun, r'.pipeline = p ∧
    r'.queued = r.queued ∧ r'.Holds outlets workers ∧ r.pipeline.Later r'.pipeline)
    ?_ ?_ ⟨r, rfl, rfl, h, .refl _⟩
  · rintro _ q worker ⟨r', rfl, hqueued, h', hlater⟩ hstep
    exact ⟨r'.worked worker q, rfl, hqueued,
      (Goes.of_stepWorker (h'.sound.allCalm hcalm) hstep).holds h',
      hlater.trans (Pipeline.later_of_stepWorker hstep)⟩
  · rintro _ q place ⟨r', rfl, hqueued, h', hlater⟩ hstep
    have hpass := h'.passesAt_of_stepBatcher hcalm hstep
    exact ⟨{ r' with pipeline := q }, rfl, hqueued, h'.passes hpass, hlater.trans hpass.later⟩

end WorkRun

/-- Every consumer got every report once, and nothing is left in any batcher. -/
structure Pipeline.Drained (outlets : List Outlet) (queued : List ReportRequest) (p : Pipeline) :
    Prop where
  consumers : p.outlets.map (·.consumer) = outlets.map (·.consumer)
  delivered : ∀ place < p.outlets.length, (p.callsOf place).flatten.Perm queued
  emptied : ∀ place b, p.batcherAt place = some b →
    b.isRunning = false ∧ b.batch = [] ∧ b.incoming = []

/-- When all workers have left and all batchers have come to their ends, the pipeline is drained. -/
theorem WorkRun.Holds.drained {outlets : List Outlet} {workers : Nat} {r : WorkRun}
    (h : r.Holds outlets workers) (hworkers : 1 ≤ workers)
    (hleft : r.pipeline.AllLeft) (hended : ∀ place, r.pipeline.EndedAt place) :
    r.pipeline.Drained outlets r.queued := by
  have hemptied : ∀ place b, r.pipeline.batcherAt place = some b →
      b.isRunning = false ∧ b.batch = [] ∧ b.incoming = [] := fun place b hb =>
    ⟨hended place b hb, ((h.batchers place b hb).sound.ended (hended place b hb)).2⟩
  refine ⟨?_, fun place hlt => ?_, hemptied⟩
  · have hplan := congrArg (List.map Prod.fst) h.sound.plan
    simpa [Pipeline.plan, Function.comp_def] using hplan
  · have hshares := ((h.sound.shares place (h.sound.length_outlets ▸ hlt)).of_finished hleft).1
    rw [h.sound.taken_eq hworkers hleft] at hshares
    have hflatten : (r.pipeline.callsOf place).flatten = r.handedAt place := by
      cases hb : r.pipeline.batcherAt place with
      | some b =>
        obtain ⟨-, hbatch, hincoming⟩ := hemptied place b hb
        rw [← (h.batchers place b hb).flow, hbatch, hincoming, List.append_nil, List.append_nil]
      | none =>
        have ho := List.getElem?_eq_getElem hlt
        rw [Pipeline.batcherAt_of_outlet ho] at hb
        have hplan : r.pipeline.plan[place]? =
            some (r.pipeline.outlets[place].consumer, false) := by
          rw [Pipeline.getElem?_plan, ho, Option.map_some, hb]
          rfl
        rw [h.sound.allCalled place _ hplan, ← List.flatMap_def, List.flatMap_singleton']
    rw [hflatten]
    exact hshares

end ServiceControl
