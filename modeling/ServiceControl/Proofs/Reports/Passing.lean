import ServiceControl.Proofs.Reports.Settling

/-!
# What a batcher passes on

What goes out of a batcher, what is gathered and what waits, in this order, is what was taken. The
batch that is gathered is never complete, so no batch is too large, and the end comes only after
closing, when nothing is left. A pipeline of one consumer with a batcher does what the batcher does,
whatever a calm consumer says.
-/

namespace ServiceControl

namespace Batcher

variable {α : Type}

/-- The batch goes out when its time is over, whether or not more items wait. -/
def expire (b : Batcher α) (now : Nat) : Option (List α × Batcher α) :=
  if b.isRunning && !b.batch.isEmpty && b.due ≤ now then some (b.batch, { b with batch := [] })
  else none

/-- Where nothing waits and more may come, it is all that a batcher does. -/
theorem step_eq_expire {b : Batcher α} (hin : b.incoming = []) (hopen : b.isOpen = true)
    (hlarge : b.limit ≤ largest) (now : Nat) :
    b.step now = (b.expire now).map fun x => (some x.1, x.2) := by
  unfold step expire
  rw [hin, hopen, if_neg (Nat.not_lt.mpr hlarge)]
  by_cases hdue : now < b.due
  · have hnot : ¬b.due ≤ now := Nat.not_le.mpr hdue
    cases b.isRunning <;> simp [hdue, hnot]
  · have hover : b.due ≤ now := Nat.le_of_not_lt hdue
    cases b.isRunning <;> cases b.batch.isEmpty <;> simp [hdue, hover]

/-- A batcher of which nothing is missing. -/
structure IsSound (b : Batcher α) : Prop where
  /-- The batch is not complete. -/
  room : b.batch.length < b.limit
  /-- The end comes after closing, and when nothing is left. -/
  ended : b.isRunning = false → b.isOpen = false ∧ b.batch = [] ∧ b.incoming = []

/-- Items went out of a batcher, and the others are still there, in order. -/
structure Passes (b : Batcher α) (out : Option (List α)) (b' : Batcher α) : Prop where
  running : b.isRunning = true
  sound : b'.IsSound
  limit : b'.limit = b.limit
  isOpen : b'.isOpen = b.isOpen
  flow : out.toList.flatten ++ (b'.batch ++ b'.incoming) = b.batch ++ b.incoming
  /-- What goes out is no empty batch and none that is too large. -/
  size : ∀ batch, out = some batch → batch ≠ [] ∧ batch.length ≤ b.limit

/-- A batcher is not opened again, and one that has come to its end does not start again. -/
structure Later (b b' : Batcher α) : Prop where
  isOpen : b'.isOpen = b.isOpen
  ended : b.isRunning = false → b'.isRunning = false

theorem Later.refl (b : Batcher α) : b.Later b := ⟨rfl, id⟩

theorem Later.trans {a b c : Batcher α} (h : a.Later b) (h' : b.Later c) : a.Later c :=
  ⟨h'.isOpen.trans h.isOpen, fun hr => h'.ended (h.ended hr)⟩

/-- Only a batcher that has not come to its end passes anything on. -/
theorem Passes.later {b b' : Batcher α} {out : Option (List α)} (h : b.Passes out b') :
    b.Later b' :=
  ⟨h.isOpen, fun hr => absurd (hr.symm.trans h.running) (by decide)⟩

/-- With room for its batches, a batcher passes on in every step. -/
theorem Goes.passes {b b' : Batcher α} {now : Nat} {out : Option (List α)}
    (h : b.Goes now (out, b')) (hb : b.IsSound) (hlarge : b.limit ≤ largest) :
    b.Passes out b' := by
  have hroom := hb.room
  have hpos : 1 ≤ b.limit := Nat.le_max_right _ _
  cases h with
  | breaks _ hlarger => exact absurd hlarger (Nat.not_lt.mpr hlarge)
  | completes due hrunning hin hfull =>
    refine ⟨hrunning, ⟨hpos, fun hend => ?_⟩, rfl, rfl, ?_, ?_⟩
    · exact absurd (hend.symm.trans hrunning) (by decide)
    · simp [hin]
    · rintro _ ⟨⟩
      refine ⟨by simp, ?_⟩
      rw [List.length_append, List.length_singleton]
      exact hroom
  | gathers due hrunning hin hmore =>
    refine ⟨hrunning, ⟨?_, fun hend => ?_⟩, rfl, rfl, ?_, nofun⟩
    · rw [List.length_append, List.length_singleton]
      exact hmore
    · exact absurd (hend.symm.trans hrunning) (by decide)
    · simp [hin]
  | ends hrunning hin hclosed =>
    refine ⟨hrunning, ⟨hpos, fun _ => ⟨hclosed, rfl, hin⟩⟩, rfl, rfl, ?_, ?_⟩
    · cases hbatch : b.batch <;> simp [hin]
    · intro batch hout
      cases hbatch : b.batch with
      | nil => simp [hbatch] at hout
      | cons item rest =>
        rw [hbatch] at hout hroom
        obtain rfl := Option.some.inj hout
        exact ⟨List.cons_ne_nil _ _, Nat.le_of_lt hroom⟩
  | flushes hrunning hin hstarted =>
    refine ⟨hrunning, ⟨hpos, fun hend => ?_⟩, rfl, rfl, ?_, ?_⟩
    · exact absurd (hend.symm.trans hrunning) (by decide)
    · simp
    · rintro _ ⟨⟩
      exact ⟨hstarted, Nat.le_of_lt hroom⟩

/-- A batch whose time is over is passed on. -/
theorem passes_expire {b b' : Batcher α} {now : Nat} {batch : List α}
    (h : b.expire now = some (batch, b')) (hb : b.IsSound) : b.Passes (some batch) b' := by
  unfold expire at h
  split at h
  · next hdue =>
    obtain ⟨rfl, rfl⟩ := Prod.mk.inj (Option.some.inj h)
    simp only [Bool.and_eq_true, Bool.not_eq_true', List.isEmpty_eq_false_iff] at hdue
    refine ⟨hdue.1.1, ⟨Nat.le_max_right _ _, fun hend => ?_⟩, rfl, rfl, ?_, ?_⟩
    · exact absurd (hend.symm.trans hdue.1.1) (by decide)
    · simp
    · rintro _ ⟨⟩
      exact ⟨hdue.1.2, Nat.le_of_lt hb.room⟩
  · cases h

/-- A sound batcher that takes items runs, and is sound with them. -/
theorem IsSound.offer {b b' : Batcher α} {items : List α} (h : b.IsSound)
    (ho : b.offer items = some b') :
    b' = { b with incoming := b.incoming ++ items } ∧ b'.IsSound := by
  obtain ⟨hopen, -, hb'⟩ := offer_eq_some ho
  have hrunning : b.isRunning = true := by
    cases hr : b.isRunning with
    | true => rfl
    | false => exact absurd ((h.ended hr).1.symm.trans hopen) (by decide)
  rw [if_pos hrunning] at hb'
  refine ⟨hb', ?_⟩
  rw [hb']
  exact ⟨h.room, fun hend => absurd (hend.symm.trans hrunning) (by decide)⟩

/-- A sound batcher that is closed is sound. -/
theorem IsSound.close {b : Batcher α} (h : b.IsSound) : b.close.IsSound :=
  ⟨h.room, fun hend => ⟨rfl, (h.ended hend).2⟩⟩

/-- A closed batcher with nothing to do has come to its end. -/
theorem isRunning_of_step {b : Batcher α} {now : Nat} (hclosed : b.isOpen = false)
    (hlarge : b.limit ≤ largest) (h : b.step now = none) : b.isRunning = false := by
  cases hr : b.isRunning with
  | false => rfl
  | true =>
    unfold step at h
    rw [hr, hclosed, if_neg (Nat.not_lt.mpr hlarge)] at h
    cases hin : b.incoming <;> simp [hin] at h

end Batcher

namespace Pipeline

/-- The time of the batch at a place is over although more items wait; nothing if it is not. -/
def expireBatcher (p : Pipeline) (place : Nat) : Option Pipeline :=
  match p.outlets[place]? with
  | some o =>
    match o.batcher.bind (·.expire p.now) with
    | some (batch, b) =>
      let (d, p) := p.call place o.consumer batch
      let b := if d = .crashed then b.crash else b
      some { p with outlets := p.outlets.set place { o with batcher := some b } }
    | none => none
  | none => none

/-- All batchers are told that nothing more will come. -/
def closing (p : Pipeline) : Pipeline :=
  { p with outlets := p.outlets.map fun o => { o with batcher := o.batcher.map (·.close) } }

/-- To close is to tell the batchers, and to wait for the rest to go out. -/
theorem closeBatchers_eq (p : Pipeline) : p.closeBatchers = p.closing.settle := rfl

/-- A consumer that takes batches, and nothing else. -/
structure IsSingle (c : Consumer) (b : Batcher ReportRequest) (p : Pipeline) : Prop where
  outlets : p.outlets = [⟨c, some b⟩]
  workers : p.workers = []

/-- The pipeline after something may have gone out of its batcher. -/
def passed (p : Pipeline) (c : Consumer)
    (x : Option (List ReportRequest) × Batcher ReportRequest) : Pipeline :=
  { p with calls := p.calls ++ x.1.toList.map (DeliveredCall.mk 0), outlets := [⟨c, some x.2⟩] }

variable {c : Consumer} {b : Batcher ReportRequest} {p : Pipeline}

theorem IsSingle.outlet (h : p.IsSingle c b) : p.outlets[0]? = some ⟨c, some b⟩ := by
  rw [h.outlets]
  rfl

/-- What the batcher does is all that its step changes, whatever a calm consumer says. -/
theorem IsSingle.stepBatcher (h : p.IsSingle c b) (hc : c.IsCalm) :
    p.stepBatcher 0 = (b.step p.now).map (p.passed c) := by
  unfold Pipeline.stepBatcher
  simp only [h.outlet, Option.bind_some]
  rcases b.step p.now with _ | ⟨_ | batch, b'⟩
  · rfl
  · simp [passed, h.outlets]
  · have hcalm := hc (p.callsOf 0) batch
    simp [passed, call, hcalm, h.outlets]

/-- The steps of the one batcher are all that the pipeline does. -/
theorem IsSingle.step? (h : p.IsSingle c b) (hc : c.IsCalm) :
    p.step? = (b.step p.now).map (p.passed c) := by
  rw [← h.stepBatcher hc]
  simp [Pipeline.step?, h.workers, h.outlets]

/-- So it is when the time of the batch is over. -/
theorem IsSingle.expireBatcher (h : p.IsSingle c b) (hc : c.IsCalm) :
    p.expireBatcher 0 = (b.expire p.now).map fun x => p.passed c (some x.1, x.2) := by
  unfold Pipeline.expireBatcher
  simp only [h.outlet, Option.bind_some]
  rcases b.expire p.now with _ | ⟨batch, b'⟩
  · rfl
  · have hcalm := hc (p.callsOf 0) batch
    simp [passed, call, hcalm, h.outlets]

theorem IsSingle.closing (h : p.IsSingle c b) :
    p.closing = { p with outlets := [⟨c, some b.close⟩] } := by
  simp [Pipeline.closing, h.outlets]

/-- Reports wait for the batcher, or are refused. -/
theorem IsSingle.handAt (h : p.IsSingle c b) (rs : List ReportRequest) :
    p.handAt 0 rs = match b.offer rs with
      | some b => (.taken, { p with outlets := [⟨c, some b⟩] })
      | none => (.refused (closedMessage c.name), p) := by
  simp only [Pipeline.handAt, h.outlet, hand]
  cases b.offer rs <;> simp [h.outlets]

/-- What was taken has gone out in batches, or is still in the batcher, in order. -/
structure Keeps (c : Consumer) (maxCount : Nat) (accepted : List ReportRequest)
    (b : Batcher ReportRequest) (p : Pipeline) : Prop where
  single : p.IsSingle c b
  sound : b.IsSound
  limit : b.limit = max 1 maxCount
  flow : (p.callsOf 0).flatten ++ (b.batch ++ b.incoming) = accepted
  sizes : ∀ reports ∈ p.callsOf 0, reports ≠ [] ∧ reports.length ≤ max 1 maxCount

variable {maxCount : Nat} {accepted : List ReportRequest}

/-- What goes out is one more call. -/
theorem callsOf_passed (p : Pipeline) (c : Consumer) (out : Option (List ReportRequest))
    (b' : Batcher ReportRequest) :
    (p.passed c (out, b')).callsOf 0 = p.callsOf 0 ++ out.toList := by
  cases out <;> simp [passed, callsOf]

/-- What goes out is missing in the batcher only. -/
theorem Keeps.passed (h : Keeps c maxCount accepted b p) {out : Option (List ReportRequest)}
    {b' : Batcher ReportRequest} (hp : b.Passes out b') :
    Keeps c maxCount accepted b' (p.passed c (out, b')) := by
  refine ⟨⟨rfl, h.single.workers⟩, hp.sound, hp.limit.trans h.limit, ?_, ?_⟩
  · rw [callsOf_passed, List.flatten_append, List.append_assoc, hp.flow, h.flow]
  · intro reports hreports
    rw [callsOf_passed] at hreports
    rcases List.mem_append.mp hreports with hreports | hreports
    · exact h.sizes reports hreports
    · rw [← h.limit]
      exact hp.size reports (Option.mem_toList.mp hreports)

/-- Whether something goes out or not, nothing is lost. -/
theorem Keeps.getD_passed (h : Keeps c maxCount accepted b p) {q : Option Pipeline}
    {next : Option (Option (List ReportRequest) × Batcher ReportRequest)}
    (hq : q = next.map (p.passed c))
    (hnext : ∀ out b', next = some (out, b') → b.Passes out b') :
    ∃ b', Keeps c maxCount accepted b' (q.getD p) ∧ b.Later b' := by
  rw [hq]
  rcases next with _ | ⟨out, b'⟩
  · exact ⟨b, h, .refl b⟩
  · have hp := hnext out b' rfl
    exact ⟨b', h.passed hp, hp.later⟩

/-- A step of the batcher loses nothing. -/
theorem Keeps.stepBatcher (h : Keeps c maxCount accepted b p) (hc : c.IsCalm)
    (hlarge : max 1 maxCount ≤ Batcher.largest) :
    ∃ b', Keeps c maxCount accepted b' ((p.stepBatcher 0).getD p) ∧ b.Later b' :=
  h.getD_passed (h.single.stepBatcher hc) fun _ _ hs =>
    (Batcher.Goes.of_step hs).passes h.sound (h.limit ▸ hlarge)

/-- A batch whose time is over takes nothing away. -/
theorem Keeps.expireBatcher (h : Keeps c maxCount accepted b p) (hc : c.IsCalm) :
    ∃ b', Keeps c maxCount accepted b' ((p.expireBatcher 0).getD p) ∧ b.Later b' := by
  have hexpire : p.expireBatcher 0 =
      ((b.expire p.now).map fun x => (some x.1, x.2)).map (p.passed c) := by
    rw [h.single.expireBatcher hc, Option.map_map]
    rfl
  refine h.getD_passed hexpire fun out b' hs => ?_
  obtain ⟨x, hx, he⟩ := Option.map_eq_some_iff.mp hs
  obtain ⟨rfl, rfl⟩ := Prod.mk.inj he
  exact Batcher.passes_expire hx h.sound

/-- Settling loses nothing. -/
theorem Keeps.settle (h : Keeps c maxCount accepted b p) (hc : c.IsCalm)
    (hlarge : max 1 maxCount ≤ Batcher.largest) :
    ∃ b', Keeps c maxCount accepted b' p.settle ∧ b.Later b' := by
  refine settle_induction (P := fun q => ∃ b', Keeps c maxCount accepted b' q ∧ b.Later b')
    ?_ ?_ ⟨b, h, .refl b⟩
  · rintro p q worker ⟨b', h', -⟩ hstep
    simp [stepWorker, h'.single.workers] at hstep
  · rintro p q place ⟨b', h', hlater⟩ hstep
    cases place with
    | zero =>
      obtain ⟨b'', h'', hlater'⟩ := h'.stepBatcher hc hlarge
      rw [hstep, Option.getD_some] at h''
      exact ⟨b'', h'', hlater.trans hlater'⟩
    | succ place => simp [Pipeline.stepBatcher, h'.single.outlets] at hstep

/-- A batcher that is told that nothing more will come has lost nothing. -/
theorem Keeps.closing (h : Keeps c maxCount accepted b p) :
    Keeps c maxCount accepted b.close p.closing := by
  rw [h.single.closing]
  exact ⟨⟨rfl, h.single.workers⟩, h.sound.close, h.limit, h.flow, h.sizes⟩

/-- To close loses nothing, and leads to the end. -/
theorem Keeps.closeBatchers (h : Keeps c maxCount accepted b p) (hc : c.IsCalm)
    (hlarge : max 1 maxCount ≤ Batcher.largest) :
    ∃ b', Keeps c maxCount accepted b' p.closeBatchers ∧ b'.isOpen = false ∧
      b'.isRunning = false := by
  obtain ⟨b', h', hlater⟩ := h.closing.settle hc hlarge
  have hrest : b'.step p.closing.settle.now = none := by
    have hnone := step?_settle p.closing
    rwa [h'.single.step? hc, Option.map_eq_none_iff] at hnone
  refine ⟨b', h', hlater.isOpen, ?_⟩
  exact Batcher.isRunning_of_step hlater.isOpen (h'.limit ▸ hlarge) hrest

/-- The pipeline with one consumer in all places. -/
def recast (c : Consumer) (p : Pipeline) : Pipeline :=
  { p with outlets := p.outlets.map fun o => { o with consumer := c } }

theorem IsSingle.recast (h : p.IsSingle c b) (c' : Consumer) : (p.recast c').IsSingle c' b := by
  refine ⟨?_, h.workers⟩
  simp only [Pipeline.recast, h.outlets, List.map_cons, List.map_nil]

variable {c' : Consumer}

/-- What calm consumers say makes no difference to a step. -/
theorem IsSingle.step?_recast (h : p.IsSingle c b) (hc : c.IsCalm) (hc' : c'.IsCalm) :
    (p.recast c').step? = p.step?.map (Pipeline.recast c') := by
  rw [h.step? hc, (h.recast c').step? hc', Option.map_map]
  rfl

/-- A step of the one batcher leaves one batcher. -/
theorem IsSingle.of_step? (h : p.IsSingle c b) (hc : c.IsCalm) {q : Pipeline}
    (hq : p.step? = some q) : ∃ b', q.IsSingle c b' := by
  rw [h.step? hc] at hq
  obtain ⟨x, -, rfl⟩ := Option.map_eq_some_iff.mp hq
  exact ⟨x.2, rfl, h.workers⟩

/-- It makes none to any number of steps. -/
theorem IsSingle.run_recast (h : p.IsSingle c b) (hc : c.IsCalm) (hc' : c'.IsCalm) (n : Nat) :
    run n (p.recast c') = (run n p).recast c' := by
  induction n generalizing p b with
  | zero => rfl
  | succ n ih =>
    simp only [run, h.step?_recast hc hc']
    cases hs : p.step? with
    | none => rfl
    | some q =>
      obtain ⟨b', h'⟩ := h.of_step? hc hs
      exact ih h'

/-- It makes none to settling. -/
theorem IsSingle.settle_recast (h : p.IsSingle c b) (hc : c.IsCalm) (hc' : c'.IsCalm) :
    (p.recast c').settle = p.settle.recast c' := by
  have hbound : (p.recast c').stepBound = p.stepBound := by
    simp only [stepBound, Pipeline.recast, h.outlets, List.map_cons, List.map_nil,
      List.length_cons]
  rw [settle, hbound, h.run_recast hc hc', settle]

end Pipeline

end ServiceControl
