import ServiceControl.Proofs.Reports.Batches
import ServiceControl.Proofs.Reports.Punctuality

/-!
# When batches go out

A consumer that takes batches is run with a clock, and the instants are noted at which it takes
reports, gets batches and is closed. What the batcher does takes no time: the clock goes on only
where there is nothing to do, and it stops where the time of a batch is over. In every such run all
batches go out on time, and the clock can always go on.
-/

namespace ServiceControl

namespace BatcherRun

/-- When the time of the batch is over that has been begun. -/
def deadline? (r : BatcherRun) : Option Nat :=
  (r.pipeline.outlets.head?.bind (·.batcher)).bind fun b =>
    if b.batch.isEmpty then none else some b.due

/-- Whether a move takes no time, or time in which there is nothing to do. -/
def allows (r : BatcherRun) : BatcherMove → Bool
  | .wait ms => (r.pipeline.stepBatcher 0).isNone && r.deadline?.all (r.pipeline.now + ms ≤ ·)
  | .hand _ | .gather | .expire | .beginClose | .close => true

/-- Whether all moves are allowed, one after another. -/
def isTimely (r : BatcherRun) : List BatcherMove → Bool
  | [] => true
  | m :: rest => r.allows m && (r.step m).isTimely rest

end BatcherRun

namespace BatcherRun.Keeps

variable {c : Consumer} {maxCount : Nat} {r : BatcherRun} {b : Batcher ReportRequest}

/-- For one batcher, it is the end of its batch. -/
theorem deadline?_eq (h : r.Keeps c maxCount b) :
    r.deadline? = if b.batch.isEmpty then none else some b.due := by
  simp [BatcherRun.deadline?, h.single.outlets]

/-- While reports are handed on, no batch goes out and no time passes. -/
theorem hand_same (h : r.Keeps c maxCount b) (rs : List ReportRequest) :
    (r.step (.hand rs)).passedOn = r.passedOn ∧
      (r.step (.hand rs)).pipeline.now = r.pipeline.now := by
  simp only [BatcherRun.step, BatcherRun.passedOn, h.single.handAt]
  cases b.offer rs <;> exact ⟨rfl, rfl⟩

/-- Reports are taken all together, if the batcher takes them. -/
theorem accepted_hand (h : r.Keeps c maxCount b) (rs : List ReportRequest) :
    (r.step (.hand rs)).accepted =
      r.accepted ++ if (b.offer rs).isSome then rs else [] := by
  simp only [BatcherRun.step, BatcherRun.accepted, h.single.handAt]
  cases b.offer rs <;> simp

end BatcherRun.Keeps

/-- Whether a batcher is told that nothing more will come. -/
def BatcherMove.closes : BatcherMove → Bool
  | .beginClose | .close => true
  | .hand _ | .gather | .expire | .wait _ => false

/-- A consumer that takes batches, with the instants at which it took reports and got batches, and
that at which it was closed first. -/
structure TimedRun where
  run : BatcherRun
  arrivals : List (Nat × ReportRequest) := []
  flushes : List (Nat × List ReportRequest) := []
  closedAt? : Option Nat := none

namespace TimedRun

/-- The instant that it is. -/
def now (t : TimedRun) : Nat := t.run.pipeline.now

/-- What a list has more than before, with an instant. -/
def noted {α : Type} (instant : Nat) (before after : List α) : List (Nat × α) :=
  (after.drop before.length).map fun x => (instant, x)

/-- The run after one more move. What is new is noted. -/
def step (t : TimedRun) (m : BatcherMove) : TimedRun :=
  let run := t.run.step m
  { run
    arrivals := t.arrivals ++ noted run.pipeline.now t.run.accepted run.accepted
    flushes := t.flushes ++ noted run.pipeline.now t.run.passedOn run.passedOn
    closedAt? := if m.closes then t.closedAt?.or (some run.pipeline.now) else t.closedAt? }

/-- The run of moves of a new batcher before a consumer. -/
def after (c : Consumer) (maxCount timeout : Nat) (moves : List BatcherMove) : TimedRun :=
  moves.foldl step { run := .after c maxCount timeout [] }

/-- Nothing is noted of a list that stays as it is. -/
@[simp] theorem noted_self {α : Type} (instant : Nat) (l : List α) : noted instant l l = [] := by
  simp [noted]

/-- What is put behind a list is noted. -/
@[simp] theorem noted_append {α : Type} (instant : Nat) (l more : List α) :
    noted instant l (l ++ more) = more.map fun x => (instant, x) := by
  simp [noted]

/-- The same reports, and more batches that went out at the instant that it is. -/
structure Flushes (t t' : TimedRun) : Prop where
  now : t'.now = t.now
  accepted : t'.run.accepted = t.run.accepted
  arrivals : t'.arrivals = t.arrivals
  closedAt? : t'.closedAt? = t.closedAt?
  more : ∃ batches, t'.run.passedOn = t.run.passedOn ++ batches ∧
    t'.flushes = t.flushes ++ batches.map fun batch => (t.now, batch)

variable {c : Consumer} {maxCount timeout : Nat} {t t' : TimedRun} {b b' : Batcher ReportRequest}

theorem Flushes.refl (t : TimedRun) : t.Flushes t := ⟨rfl, rfl, rfl, rfl, [], by simp, by simp⟩

/-- The run after something may have gone out of its batcher. -/
def passed (t : TimedRun) (c : Consumer)
    (x : Option (List ReportRequest) × Batcher ReportRequest) : TimedRun :=
  { t with
    run := { t.run with pipeline := t.run.pipeline.passed c x }
    flushes := t.flushes ++ x.1.toList.map fun batch => (t.now, batch) }

/-- What goes out is noted. -/
theorem Flushes.passed (h : t.Flushes t') (c : Consumer)
    (x : Option (List ReportRequest) × Batcher ReportRequest) : t.Flushes (t'.passed c x) := by
  obtain ⟨batches, hpassed, hflushes⟩ := h.more
  refine ⟨h.now, h.accepted, h.arrivals, h.closedAt?, batches ++ x.1.toList, ?_, ?_⟩
  · rw [BatcherRun.passedOn, TimedRun.passed, Pipeline.callsOf_passed, ← BatcherRun.passedOn,
      hpassed, List.append_assoc]
  · rw [TimedRun.passed, hflushes, h.now, List.map_append, List.append_assoc]

/-- The run with the closing noted, if the move is one. -/
def marked (t : TimedRun) (m : BatcherMove) : TimedRun :=
  { t with closedAt? := if m.closes then t.closedAt?.or (some t.now) else t.closedAt? }

/-- A move by which batches go out now, and no reports come, is noted as such. -/
theorem Flushes.step_eq {m : BatcherMove} (h : (t.marked m).Flushes t')
    (hrun : t.run.step m = t'.run) : t.step m = t' := by
  obtain ⟨batches, hpassed, hflushes⟩ := h.more
  obtain ⟨run, arrivals, flushes, closedAt?⟩ := t'
  obtain rfl : t.run.step m = run := hrun
  obtain rfl : arrivals = t.arrivals := h.arrivals
  obtain rfl : closedAt? = (t.marked m).closedAt? := h.closedAt?
  obtain rfl : flushes = t.flushes ++ batches.map fun batch => (t.now, batch) := hflushes
  have haccepted : (t.run.step m).accepted = t.run.accepted := h.accepted
  have hnow : (t.run.step m).pipeline.now = t.now := h.now
  have hpassedOn : (t.run.step m).passedOn = t.run.passedOn ++ batches := hpassed
  simp only [step, haccepted, hpassedOn, hnow, noted_self, noted_append, List.append_nil, marked]

/-- A move by which something may go out of the batcher, and nothing else happens. -/
theorem step_of_next {m : BatcherMove} (hm : m.closes = false)
    {next : Option (Option (List ReportRequest) × Batcher ReportRequest)}
    (hrun : t.run.step m =
      { t.run with pipeline := (next.map (t.run.pipeline.passed c)).getD t.run.pipeline }) :
    t.step m = (next.map (t.passed c)).getD t := by
  have hmarked : t.marked m = t := by rw [marked, hm, if_neg Bool.false_ne_true]
  cases next with
  | none => exact Flushes.step_eq (hmarked.symm ▸ .refl t) hrun
  | some x => exact Flushes.step_eq (hmarked.symm ▸ (Flushes.refl t).passed c x) hrun

/-- What is known of a run with a clock, for its batcher. -/
structure Keeps (c : Consumer) (maxCount timeout : Nat) (b : Batcher ReportRequest)
    (t : TimedRun) : Prop where
  run : t.run.Keeps c maxCount b
  timeout : b.timeout = timeout
  onTime : b.OnTime t.now t.closedAt? t.arrivals t.flushes
  arrivals : t.arrivals.map Prod.snd = t.run.accepted
  flushes : t.flushes.map Prod.snd = t.run.passedOn

/-- What goes out on time is noted. -/
theorem Keeps.passed (h : t.Keeps c maxCount timeout b) {out : Option (List ReportRequest)}
    (hp : b.Passes out b') (htimeout : b'.timeout = b.timeout)
    (honTime : b'.OnTime t.now t.closedAt? t.arrivals
      (t.flushes ++ out.toList.map fun batch => (t.now, batch))) :
    (t.passed c (out, b')).Keeps c maxCount timeout b' where
  run := Pipeline.Keeps.passed h.run hp
  timeout := htimeout.trans h.timeout
  onTime := honTime
  arrivals := h.arrivals
  flushes := by
    rw [TimedRun.passed, List.map_append, h.flushes, BatcherRun.passedOn, BatcherRun.passedOn,
      Pipeline.callsOf_passed, List.map_map]
    exact congrArg _ (List.map_id' _)

/-- A step of the batcher is on time. -/
theorem Keeps.next (h : t.Keeps c maxCount timeout b) (hlarge : max 1 maxCount ≤ Batcher.largest)
    {out : Option (List ReportRequest)} (hs : b.step t.now = some (out, b')) :
    (t.passed c (out, b')).Keeps c maxCount timeout b' := by
  have hlimit : b.limit ≤ Batcher.largest := h.run.limit ▸ hlarge
  have hgoes := Batcher.Goes.of_step hs
  have htimeout : b'.timeout = b.timeout := by cases hgoes <;> rfl
  exact h.passed (hgoes.passes h.run.sound hlimit) htimeout (h.onTime.step h.run.sound hlimit hs)

/-- The batcher takes the step that it can take. -/
theorem Keeps.step_gather (h : t.Keeps c maxCount timeout b) (hc : c.IsCalm) :
    t.step .gather = ((b.step t.now).map (t.passed c)).getD t :=
  step_of_next rfl (by rw [BatcherRun.step, h.run.single.stepBatcher hc]; rfl)

theorem Keeps.gather (h : t.Keeps c maxCount timeout b) (hc : c.IsCalm)
    (hlarge : max 1 maxCount ≤ Batcher.largest) :
    ∃ b', (t.step .gather).Keeps c maxCount timeout b' := by
  rw [h.step_gather hc]
  cases hs : b.step t.now with
  | none => exact ⟨b, h⟩
  | some next => exact ⟨next.2, h.next hlarge hs⟩

/-- The batch whose time is over goes out, if there is one. -/
theorem Keeps.step_expire (h : t.Keeps c maxCount timeout b) (hc : c.IsCalm) :
    t.step .expire = (((b.expire t.now).map fun x => (some x.1, x.2)).map (t.passed c)).getD t := by
  refine step_of_next rfl ?_
  rw [BatcherRun.step, h.run.single.expireBatcher hc, Option.map_map]
  rfl

theorem Keeps.expire (h : t.Keeps c maxCount timeout b) (hc : c.IsCalm) :
    ∃ b', (t.step .expire).Keeps c maxCount timeout b' := by
  rw [h.step_expire hc]
  cases hs : b.expire t.now with
  | none => exact ⟨b, h⟩
  | some next =>
    have htimeout : next.2.timeout = b.timeout := by
      unfold Batcher.expire at hs
      split at hs <;> cases hs
      rfl
    exact ⟨next.2, h.passed (Batcher.passes_expire hs h.run.sound) htimeout
      (h.onTime.expire h.run.sound hs)⟩

/-- All that goes out in settling goes out now, and on time. -/
theorem Keeps.settle (h : t.Keeps c maxCount timeout b) (hc : c.IsCalm)
    (hlarge : max 1 maxCount ≤ Batcher.largest) :
    ∃ t' b', t.Flushes t' ∧ t'.Keeps c maxCount timeout b' ∧
      t'.run = { t.run with pipeline := t.run.pipeline.settle } := by
  refine Pipeline.settle_induction (P := fun q => ∃ t' b', t.Flushes t' ∧
    t'.Keeps c maxCount timeout b' ∧ t'.run = { t.run with pipeline := q }) ?_ ?_
    ⟨t, b, .refl t, h, rfl⟩
  · rintro p q worker ⟨t', b', -, h', hrun⟩ hstep
    have hsingle : p.IsSingle c b' := by simpa only [hrun] using h'.run.single
    simp [Pipeline.stepWorker, hsingle.workers] at hstep
  · rintro p q place ⟨t', b', hflushes, h', hrun⟩ hstep
    have hsingle : p.IsSingle c b' := by simpa only [hrun] using h'.run.single
    have hnow : t'.now = p.now := by rw [TimedRun.now, hrun]
    cases place with
    | zero =>
      rw [hsingle.stepBatcher hc, ← hnow, Option.map_eq_some_iff] at hstep
      obtain ⟨⟨out, b''⟩, hs, rfl⟩ := hstep
      refine ⟨t'.passed c (out, b''), b'', hflushes.passed c _, h'.next hlarge hs, ?_⟩
      rw [TimedRun.passed, hrun]
    | succ place => simp [Pipeline.stepBatcher, hsingle.outlets] at hstep

/-- The batcher is told that nothing more will come. -/
theorem step_beginClose (t : TimedRun) : t.step .beginClose =
    { t.marked .beginClose with run := { t.run with pipeline := t.run.pipeline.closing } } :=
  Flushes.step_eq (t := t) ⟨rfl, rfl, rfl, rfl, [], (List.append_nil _).symm,
    (List.append_nil _).symm⟩ rfl

theorem Keeps.beginClose (h : t.Keeps c maxCount timeout b) :
    (t.step .beginClose).Keeps c maxCount timeout b.close := by
  rw [step_beginClose]
  exact ⟨Pipeline.Keeps.closing h.run, h.timeout, h.onTime.close, h.arrivals, h.flushes⟩

/-- What is begun and what waits goes out at the instant of closing. -/
theorem Keeps.close (h : t.Keeps c maxCount timeout b) (hc : c.IsCalm)
    (hlarge : max 1 maxCount ≤ Batcher.largest) :
    ∃ b', (t.step .close).Keeps c maxCount timeout b' := by
  obtain ⟨t', b', hflushes, h', hrun⟩ := h.beginClose.settle hc hlarge
  rw [step_beginClose] at hflushes hrun
  have hstep : t.step .close = t' := by
    refine Flushes.step_eq (m := .close) ⟨hflushes.now, hflushes.accepted, hflushes.arrivals,
      hflushes.closedAt?, hflushes.more⟩ ?_
    rw [BatcherRun.step, Pipeline.closeBatchers_eq, hrun]
  exact ⟨b', hstep.symm ▸ h'⟩

/-- While time passes, nothing comes and nothing goes out. -/
theorem step_wait (t : TimedRun) (ms : Nat) : t.step (.wait ms) =
    { t with run := { t.run with
      pipeline := { t.run.pipeline with now := t.run.pipeline.now + ms } } } := by
  have haccepted : (t.run.step (.wait ms)).accepted = t.run.accepted := rfl
  have hpassedOn : (t.run.step (.wait ms)).passedOn = t.run.passedOn := rfl
  simp only [step, haccepted, hpassedOn, noted_self, List.append_nil]
  rfl

/-- The clock goes on while there is nothing to do. -/
theorem Keeps.wait (h : t.Keeps c maxCount timeout b) (hc : c.IsCalm)
    (hlarge : max 1 maxCount ≤ Batcher.largest) {ms : Nat}
    (hm : t.run.allows (.wait ms) = true) : (t.step (.wait ms)).Keeps c maxCount timeout b := by
  simp only [BatcherRun.allows, h.run.deadline?_eq, h.run.single.stepBatcher hc,
    Option.isNone_map, Bool.and_eq_true, Option.isNone_iff_eq_none] at hm
  obtain ⟨hidle, hdeadline⟩ := hm
  have hdue : b.batch ≠ [] → t.run.pipeline.now + ms ≤ b.due := by
    intro hstarted
    simpa [hstarted] using hdeadline
  have hlimit : b.limit ≤ Batcher.largest := h.run.limit ▸ hlarge
  rw [step_wait]
  exact ⟨⟨⟨h.run.single.outlets, h.run.single.workers⟩, h.run.sound, h.run.limit, h.run.flow,
    h.run.sizes⟩, h.timeout, h.onTime.wait h.run.sound hlimit hidle hdue, h.arrivals, h.flushes⟩

/-- Reports that are taken come now. -/
theorem Keeps.of_hand (h : t.Keeps c maxCount timeout b) {rs taken : List ReportRequest}
    (h' : (t.run.step (.hand rs)).Keeps c maxCount b') (htimeout : b'.timeout = b.timeout)
    (haccepted : (t.run.step (.hand rs)).accepted = t.run.accepted ++ taken)
    (honTime : b'.OnTime t.now t.closedAt? (t.arrivals ++ taken.map fun report => (t.now, report))
      t.flushes) : (t.step (.hand rs)).Keeps c maxCount timeout b' := by
  obtain ⟨hpassedOn, hnow⟩ := h.run.hand_same rs
  have hstep : t.step (.hand rs) = { t with
      run := t.run.step (.hand rs)
      arrivals := t.arrivals ++ taken.map fun report => (t.now, report) } := by
    simp only [TimedRun.step, haccepted, hpassedOn, hnow, noted_self, noted_append, List.append_nil]
    rfl
  rw [hstep]
  refine ⟨h', htimeout.trans h.timeout, ?_, ?_, h.flushes.trans hpassedOn.symm⟩
  · rw [TimedRun.now, hnow]
    exact honTime
  · rw [List.map_append, h.arrivals, haccepted, List.map_map]
    exact congrArg _ (List.map_id' taken)

/-- Reports are taken, or leave no trace. -/
theorem Keeps.hand (h : t.Keeps c maxCount timeout b) (rs : List ReportRequest) :
    ∃ b', (t.step (.hand rs)).Keeps c maxCount timeout b' := by
  have haccepted := h.run.accepted_hand rs
  rcases h.run.step_hand rs with ⟨b', ho, h'⟩ | ⟨ho, h', -⟩
  · obtain ⟨rfl, -⟩ := h.run.sound.offer ho
    rw [ho] at haccepted
    exact ⟨_, h.of_hand h' rfl haccepted h.onTime.offer⟩
  · rw [ho] at haccepted
    have honTime : b.OnTime t.now t.closedAt? (t.arrivals ++ []) t.flushes := by
      rw [List.append_nil]
      exact h.onTime
    exact ⟨b, h.of_hand h' rfl haccepted honTime⟩

/-- Every allowed move is on time. -/
theorem Keeps.step (h : t.Keeps c maxCount timeout b) (hc : c.IsCalm)
    (hlarge : max 1 maxCount ≤ Batcher.largest) {m : BatcherMove} (hm : t.run.allows m = true) :
    ∃ b', (t.step m).Keeps c maxCount timeout b' := by
  cases m with
  | hand rs => exact h.hand rs
  | gather => exact h.gather hc hlarge
  | expire => exact h.expire hc
  | wait ms => exact ⟨b, h.wait hc hlarge hm⟩
  | beginClose => exact ⟨b.close, h.beginClose⟩
  | close => exact h.close hc hlarge

/-- A new run. -/
theorem keeps_start (c : Consumer) (maxCount timeout : Nat) :
    Keeps c maxCount timeout { maxCount, timeout } (after c maxCount timeout []) := by
  have hsound : ({ maxCount, timeout } : Batcher ReportRequest).IsSound :=
    ⟨Nat.le_max_right _ _, nofun⟩
  refine ⟨⟨⟨rfl, rfl⟩, hsound, Nat.max_comm _ _, rfl, nofun⟩, rfl, ?_, rfl, rfl⟩
  exact ⟨[], [], ⟨rfl, rfl, nofun, nofun, nofun, fun _ => rfl, nofun⟩, .nil, nofun⟩

/-- In every timely run all is on time. -/
theorem Keeps.steps (h : t.Keeps c maxCount timeout b) (hc : c.IsCalm)
    (hlarge : max 1 maxCount ≤ Batcher.largest) {moves : List BatcherMove}
    (hmoves : t.run.isTimely moves = true) :
    ∃ b', (moves.foldl TimedRun.step t).Keeps c maxCount timeout b' := by
  induction moves generalizing t b with
  | nil => exact ⟨b, h⟩
  | cons m rest ih =>
    obtain ⟨hm, hrest⟩ := (Bool.and_eq_true _ _).mp hmoves
    obtain ⟨b', h'⟩ := h.step hc hlarge hm
    exact ih h' hrest

/-- A run with a clock is a run. -/
theorem run_foldl (t : TimedRun) (moves : List BatcherMove) :
    (moves.foldl step t).run = moves.foldl BatcherRun.step t.run := by
  induction moves generalizing t with
  | nil => rfl
  | cons m rest ih => exact ih (t.step m)

/-- Moves are timely if they are part by part. -/
theorem isTimely_append (r : BatcherRun) (moves more : List BatcherMove) :
    r.isTimely (moves ++ more) =
      (r.isTimely moves && (moves.foldl BatcherRun.step r).isTimely more) := by
  induction moves generalizing r with
  | nil => rfl
  | cons m rest ih => simp only [List.cons_append, BatcherRun.isTimely, ih, Bool.and_assoc,
      List.foldl_cons]

/-- A run goes on by itself: its batcher takes steps, and time passes. -/
def GoesOn (t t' : TimedRun) : Prop :=
  ∃ moves, (∀ m ∈ moves, m = .gather ∨ ∃ ms, m = .wait ms) ∧ t.run.isTimely moves = true ∧
    moves.foldl TimedRun.step t = t'

theorem GoesOn.trans {t'' : TimedRun} (h : t.GoesOn t') (h' : t'.GoesOn t'') : t.GoesOn t'' := by
  obtain ⟨moves, hmoves, htimely, rfl⟩ := h
  obtain ⟨more, hmore, htimely', rfl⟩ := h'
  refine ⟨moves ++ more, ?_, ?_, List.foldl_append⟩
  · exact fun m hm => (List.mem_append.mp hm).elim (hmoves m) (hmore m)
  · rw [isTimely_append, htimely, ← run_foldl, htimely']
    rfl

theorem goesOn_gather (t : TimedRun) : t.GoesOn (t.step .gather) :=
  ⟨[.gather], by simp, rfl, rfl⟩

theorem goesOn_wait {ms : Nat} (h : t.run.allows (.wait ms) = true) :
    t.GoesOn (t.step (.wait ms)) :=
  ⟨[.wait ms], by simp, by simp [BatcherRun.isTimely, h], rfl⟩

/-- Where there is nothing to do, time may pass up to the end of the batch. -/
theorem Keeps.allows_wait (h : t.Keeps c maxCount timeout b) (hc : c.IsCalm)
    (hidle : b.step t.now = none) {ms : Nat} (hdue : b.batch ≠ [] → t.now + ms ≤ b.due) :
    t.run.allows (.wait ms) = true := by
  have hnone : b.step t.run.pipeline.now = none := hidle
  simp only [BatcherRun.allows, h.run.deadline?_eq, h.run.single.stepBatcher hc, hnone,
    Option.map_none, Option.isNone_none, Bool.true_and]
  cases hbatch : b.batch with
  | nil => rfl
  | cons first rest => exact decide_eq_true (hdue (hbatch ▸ List.cons_ne_nil first rest))

theorem now_step_wait (t : TimedRun) (ms : Nat) : (t.step (.wait ms)).now = t.now + ms := by
  rw [step_wait]
  rfl

/-- The clock can always go on, beyond the end of a batch as well: the batcher takes its steps, each
of which leaves it less to do, and where it has none time passes until it has one. -/
theorem Keeps.exists_later (h : t.Keeps c maxCount timeout b) (hc : c.IsCalm)
    (hlarge : max 1 maxCount ≤ Batcher.largest) (ms : Nat) :
    ∃ t', t.GoesOn t' ∧ t'.now = t.now + ms := by
  have hlimit : b.limit ≤ Batcher.largest := h.run.limit ▸ hlarge
  -- by the work that is left: waiting leaves it as it is, but then ends at a step or at the instant
  induction hn : b.weight using Nat.strongRecOn generalizing t b ms with
  | _ n ih =>
    have hgather : ∀ {t : TimedRun} ms, t.Keeps c maxCount timeout b →
        ∀ next, b.step t.now = some next → ∃ t', t.GoesOn t' ∧ t'.now = t.now + ms := by
      intro t ms h ⟨out, b'⟩ hs
      have hnext := h.next hlarge hs
      have hlt : b'.weight < n := hn ▸ (Batcher.Goes.of_step hs).weight_lt
      obtain ⟨t', hgoes, hnow⟩ := ih _ hlt hnext ms (hnext.run.limit ▸ hlarge) rfl
      refine ⟨t', .trans ?_ hgoes, hnow⟩
      have hstep : t.step .gather = t.passed c (out, b') := by
        rw [h.step_gather hc, hs]
        rfl
      exact hstep ▸ goesOn_gather t
    cases hs : b.step t.now with
    | some next => exact hgather ms h next hs
    | none =>
      by_cases hdue : b.batch ≠ [] → t.now + ms ≤ b.due
      · exact ⟨_, goesOn_wait (h.allows_wait hc hs hdue), now_step_wait t ms⟩
      · obtain ⟨hstarted, hover⟩ := Classical.not_imp.mp hdue
        have hlt : t.now < b.due := Batcher.lt_due_of_step h.run.sound hlimit hs hstarted
        have hallows : t.run.allows (.wait (b.due - t.now)) = true :=
          h.allows_wait hc hs fun _ => by omega
        have hend := now_step_wait t (b.due - t.now)
        have h' := h.wait hc hlarge hallows
        cases hs' : b.step (t.step (.wait (b.due - t.now))).now with
        | none =>
          have hlt' := Batcher.lt_due_of_step h.run.sound hlimit hs' hstarted
          omega
        | some next =>
          obtain ⟨t', hgoes, hnow⟩ := hgather (t.now + ms - b.due) h' next hs'
          exact ⟨t', (goesOn_wait hallows).trans hgoes, by omega⟩

/-- After closing, the batcher has nothing more. -/
theorem Keeps.eq_nil_of_close (h : t.Keeps c maxCount timeout b) (hc : c.IsCalm)
    (hlarge : max 1 maxCount ≤ Batcher.largest) {moves : List BatcherMove}
    (hrun : t.run = BatcherRun.after c maxCount timeout moves) (hclose : .close ∈ moves) :
    b.batch = [] ∧ b.incoming = [] := by
  obtain ⟨b', h', -, hended⟩ := BatcherRun.exists_keeps_after hc hlarge timeout moves
  have houtlets := h.run.single.outlets
  rw [hrun, h'.single.outlets] at houtlets
  obtain rfl : b' = b := by simpa using houtlets
  exact (h'.sound.ended (hended hclose)).2

/-- For all limits and times, and for all that may happen as long as time passes only where there is
nothing to do, and not beyond the end of a batch: what was taken goes out in batches one after
another, each of them at the first of the instants that end a batch which begins with its first
report. What is pending has not missed any of them, and no report has been pending for longer than
the timeout. After closing nothing is pending. The clock can always go on. -/
theorem flushed_after (c : Consumer) (hc : c.IsCalm) (maxCount timeout : Nat)
    (hlarge : max 1 maxCount ≤ Batcher.largest) (moves : List BatcherMove)
    (htimely : (BatcherRun.after c maxCount timeout []).isTimely moves = true) :
    let t := after c maxCount timeout moves
    let limit := max 1 maxCount
    t.run = BatcherRun.after c maxCount timeout moves ∧
    t.arrivals.map Prod.snd = t.run.accepted ∧ t.flushes.map Prod.snd = t.run.passedOn ∧
    (∃ pending, Flushed limit timeout t.closedAt? pending t.arrivals t.flushes ∧
      (∀ ending ∈ endings limit timeout t.closedAt? pending, t.now ≤ ending) ∧
      (∀ x ∈ pending, x.1 ≤ t.now ∧ t.now ≤ x.1 + timeout) ∧
      (.close ∈ moves → pending = [])) ∧
    (∀ ms, ∃ more, (∀ m ∈ more, m = .gather ∨ ∃ ms, m = .wait ms) ∧
      (BatcherRun.after c maxCount timeout []).isTimely (moves ++ more) = true ∧
      (after c maxCount timeout (moves ++ more)).now = t.now + ms) := by
  intro t limit
  have hrun : t.run = BatcherRun.after c maxCount timeout moves := run_foldl _ moves
  obtain ⟨b, h⟩ : ∃ b, t.Keeps c maxCount timeout b :=
    (keeps_start c maxCount timeout).steps hc hlarge htimely
  refine ⟨hrun, h.arrivals, h.flushes, ?_, fun ms => ?_⟩
  · obtain ⟨pending, hflushed, hitems, hendings, hwaited⟩ := h.onTime.exists_pending h.run.sound
    rw [h.run.limit, h.timeout] at hflushed hendings
    rw [h.timeout] at hwaited
    refine ⟨pending, hflushed, hendings, hwaited, fun hclose => ?_⟩
    obtain ⟨hbatch, hincoming⟩ := h.eq_nil_of_close hc hlarge hrun hclose
    rw [hbatch, hincoming] at hitems
    exact List.map_eq_nil_iff.mp hitems
  · obtain ⟨t', ⟨more, hmore, htimely', rfl⟩, hnow⟩ := h.exists_later hc hlarge ms
    refine ⟨more, hmore, ?_, ?_⟩
    · rw [isTimely_append, htimely, Bool.true_and]
      rw [hrun] at htimely'
      exact htimely'
    · rw [after, List.foldl_append]
      exact hnow

/-- Two batches that are complete, one of them of reports of two instants, one whose time is over,
and one that is closed early. -/
def burstMoves : List BatcherMove :=
  [.hand [{ service := "a" }, { service := "b" }, { service := "c" }], .gather, .gather, .gather,
    .wait 4, .hand [{ service := "d" }], .gather, .wait 6, .hand [{ service := "e" }], .gather,
    .wait 10, .gather, .wait 3, .hand [{ service := "f" }], .gather, .wait 2, .close]

theorem flushed_after_burst :
    BatcherRun.alternating.IsCalm ∧ max 1 2 ≤ Batcher.largest ∧
    (BatcherRun.after BatcherRun.alternating 2 10 []).isTimely burstMoves = true ∧
    let t := after BatcherRun.alternating 2 10 burstMoves
    Flushed 2 10 t.closedAt? [] t.arrivals t.flushes ∧
    t.flushes.map (fun x => (x.1, x.2.map (·.service))) =
      [(0, ["a", "b"]), (4, ["c", "d"]), (20, ["e"]), (25, ["f"])] := by
  have hcalm : BatcherRun.alternating.IsCalm := by
    intro earlier rs hcrashed
    simp only [BatcherRun.alternating] at hcrashed
    split at hcrashed <;> cases hcrashed
  have hlarge : max 1 2 ≤ Batcher.largest := by decide
  have htimely : (BatcherRun.after BatcherRun.alternating 2 10 []).isTimely burstMoves = true := by
    decide +kernel
  obtain ⟨-, -, -, ⟨pending, hflushed, -, -, hclosed⟩, -⟩ :=
    flushed_after BatcherRun.alternating hcalm 2 10 hlarge burstMoves htimely
  obtain rfl := hclosed (by simp [burstMoves])
  exact ⟨hcalm, hlarge, htimely, hflushed, by decide +kernel⟩

end TimedRun

end ServiceControl
