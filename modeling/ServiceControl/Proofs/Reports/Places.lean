import ServiceControl.Proofs.Reports.Working
import ServiceControl.Proofs.Reports.Passing

/-!
# Batchers in their places

What a batcher passes on is a call of the consumer at its place and changes nothing elsewhere.
Workers that have left do not come back, a batcher that was closed is not opened again, and one that
has come to its end stays there, whatever else happens in the pipeline. A batcher of which nothing
is missing stays so.
-/

namespace ServiceControl

/-- The outlet with its batcher closed. -/
def Outlet.close (o : Outlet) : Outlet := { o with batcher := o.batcher.map (·.close) }

namespace Pipeline

/-- The batcher at a place, if there is one. -/
def batcherAt (p : Pipeline) (place : Nat) : Option (Batcher ReportRequest) :=
  p.outlets[place]?.bind (·.batcher)

/-- The pipeline after something may have gone out of the batcher at a place. -/
def passedAt (p : Pipeline) (place : Nat) (o : Outlet)
    (x : Option (List ReportRequest) × Batcher ReportRequest) : Pipeline :=
  { p with
    calls := p.calls ++ x.1.toList.map (DeliveredCall.mk place)
    outlets := p.outlets.set place { o with batcher := some x.2 } }

/-- Something may have gone out of the batcher at a place, and nothing was lost. -/
inductive PassesAt (p : Pipeline) (place : Nat) : Pipeline → Prop where
  | intro {o : Outlet} {b : Batcher ReportRequest}
    {x : Option (List ReportRequest) × Batcher ReportRequest} (outlet : p.outlets[place]? = some o)
    (batcher : o.batcher = some b) (passes : b.Passes x.1 x.2) :
    PassesAt p place (p.passedAt place o x)

/-- The batcher at one place is told that nothing more will come. -/
def closeAt (p : Pipeline) (place : Nat) : Pipeline :=
  { p with outlets := p.outlets.modify place Outlet.close }

variable {p q : Pipeline} {place worker : Nat} {o : Outlet}

theorem batcherAt_of_outlet (ho : p.outlets[place]? = some o) : p.batcherAt place = o.batcher := by
  rw [batcherAt, ho, Option.bind_some]

/-- A batcher that is exchanged is seen at its own place only. -/
theorem batcherAt_set (ho : p.outlets[place]? = some o) {x : Option (Batcher ReportRequest)}
    (houtlets : q.outlets = p.outlets.set place { o with batcher := x }) (i : Nat) :
    q.batcherAt i = if place = i then x else p.batcherAt i := by
  rw [batcherAt, houtlets]
  by_cases hi : place = i
  · subst hi
    rw [List.getElem?_set_self (List.getElem?_eq_some_iff.mp ho).1, if_pos rfl, Option.bind_some]
  · rw [List.getElem?_set_ne hi, if_neg hi, batcherAt]

/-- What holds of an exchanged batcher and of those at other places holds of all batchers. -/
theorem forall_batcherAt_of_set {P : Nat → Batcher ReportRequest → Prop}
    (ho : p.outlets[place]? = some o) {b : Batcher ReportRequest}
    (houtlets : q.outlets = p.outlets.set place { o with batcher := some b }) (hplace : P place b)
    (hother : ∀ i c, place ≠ i → p.batcherAt i = some c → P i c) :
    ∀ i c, q.batcherAt i = some c → P i c := by
  intro i c hc
  rw [batcherAt_set ho houtlets] at hc
  split at hc
  · next hi =>
    subst hi
    exact Option.some.inj hc ▸ hplace
  · next hi => exact hother i c hi hc

/-- What goes out at a place is one more call there. -/
theorem callsOf_passedAt (p : Pipeline) (place : Nat) (o : Outlet)
    (x : Option (List ReportRequest) × Batcher ReportRequest) (i : Nat) :
    (p.passedAt place o x).callsOf i = p.callsOf i ++ if place = i then x.1.toList else [] := by
  obtain ⟨out, b⟩ := x
  cases out with
  | none => simp [passedAt, callsOf]
  | some batch => exact callsOf_append rfl i

theorem batcherAt_closeAt (p : Pipeline) (place i : Nat) :
    (p.closeAt place).batcherAt i =
      if place = i then (p.batcherAt i).map (·.close) else p.batcherAt i := by
  simp only [batcherAt, closeAt, List.getElem?_modify]
  by_cases hi : place = i
  · cases p.outlets[i]? <;> simp [hi, Outlet.close]
  · cases p.outlets[i]? <;> simp [hi]

theorem batcherAt_closing (p : Pipeline) (i : Nat) :
    p.closing.batcherAt i = (p.batcherAt i).map (·.close) := by
  simp only [batcherAt, closing, List.getElem?_map]
  cases p.outlets[i]? <;> rfl

/-- Closing does not change what the outlets are. -/
theorem plan_closeAt (p : Pipeline) (place : Nat) : (p.closeAt place).plan = p.plan := by
  refine List.ext_getElem? fun i => ?_
  simp only [getElem?_plan, closeAt, List.getElem?_modify]
  cases p.outlets[i]? with
  | none => rfl
  | some o => by_cases hi : place = i <;> simp [hi, Outlet.close]

theorem plan_closing (p : Pipeline) : p.closing.plan = p.plan := by
  simp [plan, closing, Function.comp_def]

/-- Closing a batcher makes no work and takes none away. -/
theorem weight_closeAt (p : Pipeline) (place : Nat) : (p.closeAt place).weight = p.weight := by
  have hweights : (p.outlets.modify place Outlet.close).map Outlet.weight =
      p.outlets.map Outlet.weight := by
    refine List.ext_getElem? fun i => ?_
    simp only [List.getElem?_map, List.getElem?_modify]
    cases p.outlets[i]? with
    | none => rfl
    | some o =>
      by_cases hi : place = i
      · cases hb : o.batcher <;> simp [hi, Outlet.close, Outlet.weight, hb, Batcher.weight,
          Batcher.close]
      · simp [hi]
  simp only [weight, closeAt, List.length_modify, hweights]

/-- A place of a plan has a calm consumer if all consumers are calm. -/
theorem isCalm_of_outlet (hcalm : WorkRun.AllCalm p.plan) (ho : p.outlets[place]? = some o) :
    o.consumer.IsCalm := by
  refine hcalm (o.consumer, o.batcher.isSome) (List.mem_of_getElem? (i := place) ?_)
  rw [getElem?_plan, ho]
  rfl

/-- What a batcher does is all that its step changes, whatever calm consumers say. -/
theorem eq_passedAt_of_stepBatcher (hcalm : WorkRun.AllCalm p.plan)
    (h : p.stepBatcher place = some q) :
    ∃ o b x, p.outlets[place]? = some o ∧ o.batcher = some b ∧ b.step p.now = some x ∧
      q = p.passedAt place o x := by
  cases BatcherStep.of_stepBatcher h with
  | gathers ho hb hs =>
    refine ⟨_, _, _, ho, hb, hs, ?_⟩
    simp only [passedAt, Option.toList_none, List.map_nil, List.append_nil]
  | passes ho hb hs =>
    refine ⟨_, _, _, ho, hb, hs, ?_⟩
    rw [if_neg (isCalm_of_outlet hcalm ho _ _)]
    rfl

/-- So it is when the time of a batch is over. -/
theorem eq_passedAt_of_expireBatcher (hcalm : WorkRun.AllCalm p.plan)
    (h : p.expireBatcher place = some q) :
    ∃ o b x, p.outlets[place]? = some o ∧ o.batcher = some b ∧ b.expire p.now = some x ∧
      q = p.passedAt place o (some x.1, x.2) := by
  unfold expireBatcher at h
  split at h
  · next o ho =>
    split at h
    · next batch b hs =>
      obtain ⟨b₀, hb, he⟩ := Option.bind_eq_some_iff.mp hs
      refine ⟨o, b₀, _, ho, hb, he, ?_⟩
      have hne : o.consumer.deliver (p.callsOf place) batch ≠ .crashed :=
        isCalm_of_outlet hcalm ho _ _
      obtain rfl := Option.some.inj h
      simp only [if_neg hne]
      rfl
    · cases h
  · cases h

/-- A batcher that has nothing to do makes no step. -/
theorem step_eq_none_of_stepBatcher {b : Batcher ReportRequest} (hb : p.batcherAt place = some b)
    (h : p.stepBatcher place = none) : b.step p.now = none := by
  obtain ⟨o, ho, hob⟩ := Option.bind_eq_some_iff.mp hb
  unfold stepBatcher at h
  rw [ho] at h
  simp only [hob, Option.bind_some] at h
  split at h
  · cases h
  · cases h
  · next hs => exact hs

/-- All workers have left. -/
def AllLeft (p : Pipeline) : Prop := ∀ w ∈ p.workers, w = Worker.finished

/-- As long as a worker is at work, not all have left. -/
theorem not_allLeft {w : Worker} (hw : p.workers[worker]? = some w) (hne : w ≠ .finished) :
    ¬ p.AllLeft := fun hleft =>
  hne (hleft w (List.mem_of_getElem? hw))

/-- The batcher at a place, if there is one, has come to its end. -/
def EndedAt (p : Pipeline) (place : Nat) : Prop :=
  ∀ b, p.batcherAt place = some b → b.isRunning = false

/-- The batcher at a place, if there is one, was closed. -/
def ClosedAt (p : Pipeline) (place : Nat) : Prop :=
  ∀ b, p.batcherAt place = some b → b.isOpen = false

/-- Nothing that was given up comes back. -/
structure Later (p q : Pipeline) : Prop where
  length : q.outlets.length = p.outlets.length
  senders : p.queue.hasSenders = false → q.queue.hasSenders = false
  left : p.AllLeft → q.AllLeft
  batchers : ∀ place b', q.batcherAt place = some b' →
    ∃ b, p.batcherAt place = some b ∧ b.Later b'

theorem Later.refl (p : Pipeline) : p.Later p :=
  ⟨rfl, id, id, fun _ b hb => ⟨b, hb, .refl b⟩⟩

theorem Later.trans {p' : Pipeline} (h : p.Later p') (h' : p'.Later q) : p.Later q := by
  refine ⟨h'.length.trans h.length, h'.senders ∘ h.senders, h'.left ∘ h.left, fun i c hc => ?_⟩
  obtain ⟨b', hb', hlater'⟩ := h'.batchers i c hc
  obtain ⟨b, hb, hlater⟩ := h.batchers i b' hb'
  exact ⟨b, hb, hlater.trans hlater'⟩

theorem Later.endedAt (h : p.Later q) (hp : p.EndedAt place) : q.EndedAt place := by
  intro b' hb'
  obtain ⟨b, hb, hlater⟩ := h.batchers place b' hb'
  exact hlater.ended (hp b hb)

theorem Later.closedAt (h : p.Later q) (hp : p.ClosedAt place) : q.ClosedAt place := by
  intro b' hb'
  obtain ⟨b, hb, hlater⟩ := h.batchers place b' hb'
  exact hlater.isOpen.trans (hp b hb)

/-- What does not touch outlets brings no batcher back. -/
theorem Later.of_outlets (houtlets : q.outlets = p.outlets)
    (hsenders : p.queue.hasSenders = false → q.queue.hasSenders = false)
    (hleft : p.AllLeft → q.AllLeft) : p.Later q := by
  refine ⟨by rw [houtlets], hsenders, hleft, fun place b' hb' => ⟨b', ?_, .refl b'⟩⟩
  rwa [batcherAt, houtlets] at hb'

/-- One batcher is exchanged for a later one. -/
theorem Later.of_set {o : Outlet} (ho : p.outlets[place]? = some o) {b b' : Batcher ReportRequest}
    (hb : o.batcher = some b) (hlater : b.Later b')
    (houtlets : q.outlets = p.outlets.set place { o with batcher := some b' })
    (hsenders : p.queue.hasSenders = false → q.queue.hasSenders = false)
    (hleft : p.AllLeft → q.AllLeft) : p.Later q := by
  have hat := (batcherAt_of_outlet ho).trans hb
  refine ⟨?_, hsenders, hleft, forall_batcherAt_of_set ho houtlets ⟨b, hat, hlater⟩ ?_⟩
  · rw [houtlets, List.length_set]
  · exact fun i c _ hc => ⟨c, hc, .refl c⟩

/-- A step of a worker brings nothing back. -/
theorem later_of_stepWorker (h : p.stepWorker worker = some q) : p.Later q := by
  -- whoever takes a step has not left
  have hbusy {w : Worker} (hw : p.workers[worker]? = some w) (hne : w ≠ .finished)
      (hleft : p.AllLeft) : q.AllLeft := absurd hleft (not_allLeft hw hne)
  cases WorkerStep.of_stepWorker h with
  | takes hw hq =>
    refine .of_outlets rfl (fun hs => ?_) (hbusy hw nofun)
    rw [(ReportQueue.take?_eq_some hq).2]
    exact hs
  | leaves hw => exact .of_outlets rfl id (hbusy hw nofun)
  | turns hw => exact .of_outlets rfl id (hbusy hw nofun)
  | @hands r place o metrics hw ho =>
    have hsenders : p.queue.hasSenders = false →
        (p.hand place o [r]).2.queue.hasSenders = false := by
      rw [queue_hand]
      exact id
    rcases p.hand_cases place o [r] with ⟨-, hh⟩ | ⟨b, b', hb, hoffer, hh⟩ | ⟨b, -, -, hh⟩
    · exact .of_outlets (by rw [hh]) hsenders (hbusy hw nofun)
    · refine .of_set ho hb ?_ (by rw [hh]) hsenders (hbusy hw nofun)
      obtain ⟨-, -, rfl⟩ := Batcher.offer_eq_some hoffer
      exact ⟨rfl, id⟩
    · exact .of_outlets (by rw [hh]) hsenders (hbusy hw nofun)

/-- What goes out of a batcher brings nothing back. -/
theorem PassesAt.later (h : p.PassesAt place q) : p.Later q := by
  cases h with
  | intro ho hb hp => exact .of_set ho hb hp.later rfl id id

/-! ## Sound batchers -/

/-- Nothing is missing of any batcher, and there is room for its batches. -/
def AllSound (p : Pipeline) : Prop :=
  ∀ place b, p.batcherAt place = some b → b.IsSound ∧ b.limit ≤ Batcher.largest

theorem AllSound.of_outlets (h : p.AllSound) (houtlets : q.outlets = p.outlets) : q.AllSound := by
  intro i b hb
  rw [batcherAt, houtlets] at hb
  exact h i b hb

/-- A batcher that is handed a report is sound with it. -/
theorem AllSound.hand (h : p.AllSound) {o : Outlet} (ho : p.outlets[place]? = some o)
    (rs : List ReportRequest) : (p.hand place o rs).2.AllSound := by
  rcases p.hand_cases place o rs with ⟨-, hhand⟩ | ⟨b, b', hb, hoffer, hhand⟩ | ⟨b, -, -, hhand⟩
  · rw [hhand]
    exact h.of_outlets rfl
  · obtain ⟨hsound, hfits⟩ := h place b ((batcherAt_of_outlet ho).trans hb)
    obtain ⟨he, hsound'⟩ := hsound.offer hoffer
    rw [hhand]
    refine forall_batcherAt_of_set ho rfl ⟨hsound', ?_⟩ fun i c _ hc => h i c hc
    rw [he]
    exact hfits
  · rw [hhand]
    exact h

/-- So is a batcher that passes something on. -/
theorem AllSound.passes (h : p.AllSound) (hpass : p.PassesAt place q) : q.AllSound := by
  obtain @⟨o, b, x, ho, hb, hp⟩ := hpass
  obtain ⟨-, hfits⟩ := h place b ((batcherAt_of_outlet ho).trans hb)
  exact forall_batcherAt_of_set ho rfl ⟨hp.sound, hp.limit ▸ hfits⟩ fun i c _ hc => h i c hc

/-- So is a batcher that is closed. -/
theorem AllSound.closeAt (h : p.AllSound) (place : Nat) : (p.closeAt place).AllSound := by
  intro i b hb
  rw [batcherAt_closeAt] at hb
  split at hb
  · obtain ⟨b₀, hb₀, rfl⟩ := Option.map_eq_some_iff.mp hb
    exact ⟨(h i b₀ hb₀).1.close, (h i b₀ hb₀).2⟩
  · exact h i b hb

/-- What a batcher does among calm consumers is to pass on. -/
theorem AllSound.passesAt_of_stepBatcher (h : p.AllSound) (hcalm : WorkRun.AllCalm p.plan)
    (hstep : p.stepBatcher place = some q) : p.PassesAt place q := by
  obtain ⟨o, b, x, ho, hb, hs, rfl⟩ := eq_passedAt_of_stepBatcher hcalm hstep
  obtain ⟨hsound, hfits⟩ := h place b ((batcherAt_of_outlet ho).trans hb)
  exact .intro ho hb ((Batcher.Goes.of_step hs).passes hsound hfits)

/-- So it is when the time of a batch is over. -/
theorem AllSound.passesAt_of_expireBatcher (h : p.AllSound) (hcalm : WorkRun.AllCalm p.plan)
    (hstep : p.expireBatcher place = some q) : p.PassesAt place q := by
  obtain ⟨o, b, x, ho, hb, hs, rfl⟩ := eq_passedAt_of_expireBatcher hcalm hstep
  obtain ⟨hsound, -⟩ := h place b ((batcherAt_of_outlet ho).trans hb)
  exact .intro ho hb (Batcher.passes_expire hs hsound)

end Pipeline

end ServiceControl
