import ServiceControl.Proofs.Reports.Holding

/-!
# A pipeline is drained

What a pipeline carries is what was put into its queue and has not been lost, in whatever order its
workers and batchers took their steps. Sending, settling and sleeping are runs of such steps. When
the senders are given up, the pipeline settles, and the batchers are closed, everything that it
carried has come to every consumer.
-/

namespace ServiceControl

namespace Pipeline

/-- Nothing was lost of the reports that were put into the queue. -/
def Carries (outlets : List Outlet) (workers : Nat) (queued : List ReportRequest) (p : Pipeline) :
    Prop :=
  ∃ r : WorkRun, r.pipeline = p ∧ r.queued = queued ∧ r.Holds outlets workers

variable {outlets : List Outlet} {workers : Nat} {queued : List ReportRequest} {p : Pipeline}

/-- Time and metrics make no difference. -/
theorem Carries.of_clock (h : p.Carries outlets workers queued) (now : Nat) (metrics : Metrics) :
    Carries outlets workers queued { p with now, metrics } := by
  obtain ⟨r, rfl, rfl, hr⟩ := h
  have hsound := hr.sound
  refine ⟨{ r with pipeline := { r.pipeline with now, metrics } }, rfl, rfl, ?_⟩
  refine hr.quietly ?_ rfl rfl (fun _ => rfl) id
  exact hsound.quietly rfl rfl rfl hsound.flows hsound.allCalled hsound.noneEarly

/-- A report that is put into the queue is carried with the others. -/
theorem Carries.put (h : p.Carries outlets workers queued)
    (hcalm : ∀ o ∈ outlets, o.consumer.IsCalm) {report : ReportRequest} {queue : ReportQueue}
    (hput : p.queue.put report = .ok queue) :
    Carries outlets workers (queued ++ [report]) { p with queue } := by
  obtain ⟨r, rfl, rfl, hr⟩ := h
  have hstep := hr.step hcalm (.put report)
  simp only [WorkRun.step, hput] at hstep
  exact ⟨_, rfl, rfl, hstep⟩

/-- Settling loses nothing. -/
theorem Carries.settle (h : p.Carries outlets workers queued)
    (hcalm : ∀ o ∈ outlets, o.consumer.IsCalm) : p.settle.Carries outlets workers queued := by
  obtain ⟨r, rfl, rfl, hr⟩ := h
  obtain ⟨r', hsettled, hqueued, hr', -⟩ := hr.settle hcalm
  exact ⟨r', hsettled, hqueued, hr'⟩

theorem Carries.sleep (h : p.Carries outlets workers queued)
    (hcalm : ∀ o ∈ outlets, o.consumer.IsCalm) (ms : Nat) :
    (p.sleep ms).Carries outlets workers queued :=
  (h.of_clock (p.now + ms) p.metrics).settle hcalm

/-- A report that is sent is carried, and one that is not makes no difference. -/
theorem Carries.send (h : p.Carries outlets workers queued)
    (hcalm : ∀ o ∈ outlets, o.consumer.IsCalm) (patience : Nat) (report : ReportRequest) :
    (p.send patience report).2.Carries outlets workers
      (queued ++ if (p.send patience report).1 = .sent then [report] else []) := by
  unfold Pipeline.send
  cases hput : p.queue.put report with
  | ok queue => exact h.put hcalm hput
  | error e =>
    cases e with
    | closed => simpa using h
    | full =>
      -- the sender waits until there is room, or until its patience is over
      have hsettled := h.settle hcalm
      cases hagain : p.settle.queue.put report with
      | ok queue => simpa [hagain] using hsettled.put hcalm hagain
      | error e =>
        cases e with
        | closed => simpa [hagain] using hsettled
        | full => simpa [hagain] using hsettled.sleep hcalm patience

/-- Without senders, all reports come through the workers and then out of the batchers. -/
theorem Carries.closeBatchers (h : p.Carries outlets workers queued)
    (hcalm : ∀ o ∈ outlets, o.consumer.IsCalm) (hworkers : 1 ≤ workers) :
    ({ p with queue := p.queue.dropSenders } : Pipeline).settle.closeBatchers.Drained
      outlets queued := by
  obtain ⟨r, rfl, rfl, hr⟩ := h
  obtain ⟨r₁, hsettled, hqueued, hr₁, -⟩ := (hr.step hcalm .dropSenders).settle hcalm
  have hleft : r₁.pipeline.AllLeft := by
    rw [hsettled]
    exact eq_finished_of_settle rfl
  have hclosing : WorkRun.Holds outlets workers { r₁ with pipeline := r₁.pipeline.closing } :=
    hr₁.close hleft (fun i => Or.inr (batcherAt_closing _ i)) (plan_closing _) rfl rfl rfl
  obtain ⟨r₂, hend, hqueued₂, hr₂, hlater⟩ := hclosing.settle hcalm
  have hended : ∀ place, r₂.pipeline.EndedAt place := by
    intro place b hb
    have hrest : r₂.pipeline.stepBatcher place = none := by
      rw [hend]
      exact (steps_eq_none_of_step? (step?_settle _)).2 place
    have hclosed : r₂.pipeline.ClosedAt place := by
      refine hlater.closedAt fun b hb => ?_
      obtain ⟨b₀, -, rfl⟩ := Option.map_eq_some_iff.mp ((batcherAt_closing _ _).symm.trans hb)
      rfl
    -- of the closed batchers, only those that have come to their ends have nothing to do
    exact Batcher.isRunning_of_step (hclosed b hb) (hr₂.batchers place b hb).fits
      (step_eq_none_of_stepBatcher hb hrest)
  have hdrained := hr₂.drained hworkers (hlater.left hleft) hended
  rw [hend, hqueued₂.trans hqueued] at hdrained
  have hdropped : r₁.pipeline =
      ({ r.pipeline with queue := r.pipeline.queue.dropSenders } : Pipeline).settle := hsettled
  rw [closeBatchers_eq, ← hdropped]
  exact hdrained

end Pipeline

end ServiceControl
