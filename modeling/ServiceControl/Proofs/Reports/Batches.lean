import Mathlib.Data.List.Induction
import ServiceControl.Proofs.Reports.Passing

/-!
# Batches lose, double and exchange nothing

A consumer that takes batches is run by any moves: reports are handed to it, time passes, its
batcher takes a step, the time of a batch is over although more items wait, and it is closed. In
every run the batches that went out are neither empty nor too large, and together they begin what
was taken. After closing they are all of it. What the consumer says to a batch makes no difference
to the next ones.
-/

namespace ServiceControl

/-- What can happen to a consumer that takes batches. -/
inductive BatcherMove where
  /-- Reports are handed to it. Reports that it takes one after another, with other moves in
  between, are handed one after another. -/
  | hand (reports : List ReportRequest)
  /-- Its batcher takes a step. -/
  | gather
  /-- The time of its batch is found to be over although more items wait. -/
  | expire
  | wait (ms : Nat)
  /-- It is told that nothing more will come. -/
  | beginClose
  /-- It is told so, and what it has goes out. -/
  | close

/-- A consumer that takes batches, and what it said. -/
structure BatcherRun where
  pipeline : Pipeline
  /-- The reports that were handed to it, with what came of them, in order. -/
  answers : List (List ReportRequest × Delivery) := []

namespace BatcherRun

/-- The reports that were taken, in order. -/
def accepted (r : BatcherRun) : List ReportRequest :=
  (r.answers.filter fun x => x.2 = .taken).flatMap Prod.fst

/-- The batches that went out, in order. -/
def passedOn (r : BatcherRun) : List (List ReportRequest) := r.pipeline.callsOf 0

/-- Whether no batches are gathered any more. -/
def hasEnded (r : BatcherRun) : Bool :=
  r.pipeline.outlets.all fun o => !o.batcher.any (·.isRunning)

/-- The run after one more move. -/
def step (r : BatcherRun) : BatcherMove → BatcherRun
  | .hand reports =>
    let (d, p) := r.pipeline.handAt 0 reports
    { pipeline := p, answers := r.answers ++ [(reports, d)] }
  | .gather => { r with pipeline := (r.pipeline.stepBatcher 0).getD r.pipeline }
  | .expire => { r with pipeline := (r.pipeline.expireBatcher 0).getD r.pipeline }
  | .wait ms => { r with pipeline := { r.pipeline with now := r.pipeline.now + ms } }
  | .beginClose => { r with pipeline := r.pipeline.closing }
  | .close => { r with pipeline := r.pipeline.closeBatchers }

/-- The run of moves of a new batcher before a consumer. -/
def after (c : Consumer) (maxCount timeout : Nat) (moves : List BatcherMove) : BatcherRun :=
  moves.foldl step { pipeline := {
    queue := .ofCapacity 1
    outlets := [{ consumer := c, batcher := some { maxCount, timeout } }] } }

theorem after_snoc (c : Consumer) (maxCount timeout : Nat) (moves : List BatcherMove)
    (m : BatcherMove) :
    after c maxCount timeout (moves ++ [m]) = (after c maxCount timeout moves).step m := by
  rw [after, List.foldl_append]
  rfl

variable {c : Consumer} {maxCount : Nat} {r : BatcherRun} {b : Batcher ReportRequest}

/-- What is known of a run, for its batcher. -/
def Keeps (c : Consumer) (maxCount : Nat) (b : Batcher ReportRequest) (r : BatcherRun) : Prop :=
  r.pipeline.Keeps c maxCount r.accepted b

/-- What is handed to a batcher that takes it waits; else nothing changes. -/
theorem Keeps.step_hand (h : r.Keeps c maxCount b) (rs : List ReportRequest) :
    (∃ b', b.offer rs = some b' ∧ (r.step (.hand rs)).Keeps c maxCount b') ∨
    (b.offer rs = none ∧ (r.step (.hand rs)).Keeps c maxCount b ∧ r.step (.hand rs) =
      { r with answers := r.answers ++ [(rs, .refused (Pipeline.closedMessage c.name))] }) := by
  have hand := Pipeline.IsSingle.handAt h.single rs
  cases ho : b.offer rs with
  | some b' =>
    rw [ho] at hand
    obtain ⟨rfl, hsound⟩ := h.sound.offer ho
    refine .inl ⟨_, rfl, ?_⟩
    simp only [step, hand]
    refine ⟨⟨rfl, h.single.workers⟩, hsound, h.limit, ?_, h.sizes⟩
    rw [accepted, List.filter_append, List.flatMap_append, ← accepted, ← h.flow]
    simp [Pipeline.callsOf]
  | none =>
    rw [ho] at hand
    refine .inr ⟨rfl, ?_, ?_⟩
    · simp only [step, hand]
      refine ⟨h.single, h.sound, h.limit, ?_, h.sizes⟩
      rw [accepted, List.filter_append, List.flatMap_append, ← accepted, ← h.flow]
      simp
    · simp only [step, hand]

/-- A batcher after a move, by the batcher before it: what was closed stays closed, what has come to
its end stays there, and closing does the one or both. -/
structure Leads (m : BatcherMove) (b b' : Batcher ReportRequest) : Prop where
  closed : b.isOpen = false → b'.isOpen = false
  ended : b.isRunning = false → b'.isRunning = false
  closes : m = .beginClose ∨ m = .close → b'.isOpen = false
  ends : m = .close → b'.isRunning = false

/-- Moves that do not close need only lead to a later batcher. -/
theorem Leads.of_later {m : BatcherMove} {b' : Batcher ReportRequest} (h : b.Later b')
    (hm : ¬(m = .beginClose ∨ m = .close)) : Leads m b b' :=
  ⟨h.isOpen.trans, h.ended, fun hcloses => absurd hcloses hm,
    fun hcloses => absurd (.inr hcloses) hm⟩

/-- Every move keeps what is known of a run. -/
theorem Keeps.step (h : r.Keeps c maxCount b) (hc : c.IsCalm)
    (hlarge : max 1 maxCount ≤ Batcher.largest) (m : BatcherMove) :
    ∃ b', (r.step m).Keeps c maxCount b' ∧ Leads m b b' := by
  cases m with
  | hand rs =>
    rcases h.step_hand rs with ⟨b', ho, h'⟩ | ⟨-, h', -⟩
    · obtain ⟨rfl, -⟩ := h.sound.offer ho
      exact ⟨_, h', .of_later ⟨rfl, id⟩ nofun⟩
    · exact ⟨b, h', .of_later (.refl b) nofun⟩
  | gather =>
    obtain ⟨b', h', hlater⟩ := Pipeline.Keeps.stepBatcher h hc hlarge
    exact ⟨b', h', .of_later hlater nofun⟩
  | expire =>
    obtain ⟨b', h', hlater⟩ := Pipeline.Keeps.expireBatcher h hc
    exact ⟨b', h', .of_later hlater nofun⟩
  | wait ms =>
    refine ⟨b, ⟨⟨h.single.outlets, h.single.workers⟩, h.sound, h.limit, h.flow, h.sizes⟩, ?_⟩
    exact .of_later (.refl b) nofun
  | beginClose =>
    exact ⟨b.close, Pipeline.Keeps.closing h, ⟨fun _ => rfl, id, fun _ => rfl, nofun⟩⟩
  | close =>
    obtain ⟨b', h', hopen, hrunning⟩ := Pipeline.Keeps.closeBatchers h hc hlarge
    exact ⟨b', h', ⟨fun _ => hopen, fun _ => hrunning, fun _ => hopen, fun _ => hrunning⟩⟩

/-- In every run nothing is lost; after closing nothing more is taken, and after waiting for the
rest nothing is gathered any more. -/
theorem exists_keeps_after (hc : c.IsCalm) (hlarge : max 1 maxCount ≤ Batcher.largest)
    (timeout : Nat) (moves : List BatcherMove) :
    ∃ b, (after c maxCount timeout moves).Keeps c maxCount b ∧
      (.beginClose ∈ moves ∨ .close ∈ moves → b.isOpen = false) ∧
      (.close ∈ moves → b.isRunning = false) := by
  induction moves using List.reverseRecOn with
  | nil =>
    have hnew : ({ maxCount, timeout } : Batcher ReportRequest).IsSound :=
      ⟨Nat.le_max_right _ _, nofun⟩
    exact ⟨_, ⟨⟨rfl, rfl⟩, hnew, Nat.max_comm _ _, rfl, nofun⟩, by simp, nofun⟩
  | append_singleton moves m ih =>
    obtain ⟨b, h, hclosed, hended⟩ := ih
    obtain ⟨b', h', hleads⟩ := h.step hc hlarge m
    rw [after_snoc]
    refine ⟨b', h', ?_, ?_⟩
    · intro hmem
      simp only [List.mem_append, List.mem_singleton] at hmem
      rcases hmem with (hmem | hmem) | (hmem | hmem)
      · exact hleads.closed (hclosed (.inl hmem))
      · exact hleads.closes (.inl hmem.symm)
      · exact hleads.closed (hclosed (.inr hmem))
      · exact hleads.closes (.inr hmem.symm)
    · intro hmem
      simp only [List.mem_append, List.mem_singleton] at hmem
      rcases hmem with hmem | hmem
      · exact hleads.ended (hended hmem)
      · exact hleads.ends hmem.symm

/-- What calm consumers say makes no difference to a move. -/
theorem pipeline_step_recast {r' : BatcherRun} {c' : Consumer} (hc : c.IsCalm) (hc' : c'.IsCalm)
    (h : r.pipeline.IsSingle c b) (hr : r'.pipeline = r.pipeline.recast c') (m : BatcherMove) :
    (r'.step m).pipeline = (r.step m).pipeline.recast c' := by
  have h' := h.recast c'
  cases m with
  | hand rs =>
    simp only [step, hr, h.handAt, h'.handAt]
    cases b.offer rs <;> rfl
  | gather =>
    simp only [step, hr, h.stepBatcher hc, h'.stepBatcher hc']
    rw [show (r.pipeline.recast c').now = r.pipeline.now from rfl]
    cases b.step r.pipeline.now <;> rfl
  | expire =>
    simp only [step, hr, h.expireBatcher hc, h'.expireBatcher hc']
    rw [show (r.pipeline.recast c').now = r.pipeline.now from rfl]
    cases b.expire r.pipeline.now <;> rfl
  | wait ms => simp only [step, hr]; rfl
  | beginClose =>
    simp only [step, hr, h.closing, h'.closing]
    rfl
  | close =>
    have hclosing : (r.pipeline.recast c').closing = r.pipeline.closing.recast c' := by
      rw [h.closing, h'.closing]
      rfl
    have hsingle : r.pipeline.closing.IsSingle c b.close := by
      rw [h.closing]
      exact ⟨rfl, h.workers⟩
    simp only [step, hr, Pipeline.closeBatchers_eq, hclosing]
    exact hsingle.settle_recast hc hc'

/-- The batches do not depend on what calm consumers say. -/
theorem pipeline_after_recast {c' : Consumer} (hc : c.IsCalm) (hc' : c'.IsCalm)
    (hlarge : max 1 maxCount ≤ Batcher.largest) (timeout : Nat) (moves : List BatcherMove) :
    (after c' maxCount timeout moves).pipeline =
      (after c maxCount timeout moves).pipeline.recast c' := by
  induction moves using List.reverseRecOn with
  | nil => rfl
  | append_singleton moves m ih =>
    obtain ⟨b, h, -⟩ := exists_keeps_after hc hlarge timeout moves
    rw [after_snoc, after_snoc]
    exact pipeline_step_recast hc hc' h.single ih m

/-- For one batcher, the end of all batchers is its own. -/
theorem Keeps.hasEnded_eq (h : r.Keeps c maxCount b) : r.hasEnded = !b.isRunning := by
  simp [hasEnded, h.single.outlets]

/-- A closed batcher has no more to be told. -/
theorem Keeps.closing_eq (h : r.Keeps c maxCount b) (hclosed : b.isOpen = false) :
    r.pipeline.closing = r.pipeline := by
  have hclose : b.close = b := by rw [Batcher.close, ← hclosed]
  rw [h.single.closing, hclose, ← h.single.outlets]

/-- After the end, closing changes nothing. -/
theorem Keeps.closeBatchers_eq (h : r.Keeps c maxCount b) (hc : c.IsCalm)
    (hclosed : b.isOpen = false) (hended : b.isRunning = false) :
    r.pipeline.closeBatchers = r.pipeline := by
  have hnone : b.step r.pipeline.now = none := by simp [Batcher.step, hended]
  rw [Pipeline.closeBatchers_eq, h.closing_eq hclosed]
  exact Pipeline.settle_of_step? (by rw [h.single.step? hc, hnone, Option.map_none])

/-- For all limits and times, and all that may happen, the batches that a calm consumer gets are
neither empty nor too large, and together they begin what was taken, in order. A batcher that was
closed has come to its end, and one that has come to its end has passed on all that was taken. What
the consumer says to a batch makes no difference to the batches. After closing, nothing is taken or
passed on any more, and closing again changes nothing. -/
theorem passedOn_after (c : Consumer) (hc : c.IsCalm) (maxCount timeout : Nat)
    (hlarge : max 1 maxCount ≤ Batcher.largest) (moves : List BatcherMove) :
    let r := after c maxCount timeout moves
    (∀ reports ∈ r.passedOn, reports ≠ [] ∧ reports.length ≤ max 1 maxCount) ∧
    r.passedOn.flatten <+: r.accepted ∧
    (.close ∈ moves → r.hasEnded = true) ∧
    (r.hasEnded = true → r.passedOn.flatten = r.accepted) ∧
    (∀ c' : Consumer, c'.IsCalm → (after c' maxCount timeout moves).passedOn = r.passedOn) ∧
    (.beginClose ∈ moves ∨ .close ∈ moves → r.step .beginClose = r ∧
      ∀ reports, r.step (.hand reports) =
        { r with answers :=
            r.answers ++ [(reports, .refused (Pipeline.closedMessage c.name))] }) ∧
    (.close ∈ moves → r.step .close = r) := by
  intro r
  obtain ⟨b, h, hclosed, hended⟩ : ∃ b, r.Keeps c maxCount b ∧
      (.beginClose ∈ moves ∨ .close ∈ moves → b.isOpen = false) ∧
      (.close ∈ moves → b.isRunning = false) := exists_keeps_after hc hlarge timeout moves
  refine ⟨h.sizes, ⟨_, h.flow⟩, ?_, ?_, ?_, ?_, ?_⟩
  · intro hclose
    rw [h.hasEnded_eq, hended hclose]
    rfl
  · intro hend
    rw [h.hasEnded_eq, Bool.not_eq_true'] at hend
    obtain ⟨-, hbatch, hincoming⟩ := h.sound.ended hend
    have hflow := h.flow
    rw [hbatch, hincoming, List.append_nil, List.append_nil] at hflow
    exact hflow
  · intro c' hc'
    rw [passedOn, pipeline_after_recast hc hc' hlarge]
    rfl
  · intro hclose
    refine ⟨?_, fun reports => ?_⟩
    · simp only [step, h.closing_eq (hclosed hclose)]
    · rcases h.step_hand reports with ⟨b', ho, -⟩ | ⟨-, -, hstep⟩
      · have hopen := (Batcher.offer_eq_some ho).1
        exact absurd ((hclosed hclose).symm.trans hopen) (by decide)
      · exact hstep
  · intro hclose
    simp only [step, h.closeBatchers_eq hc (hclosed (.inr hclose)) (hended hclose)]

/-- A consumer that refuses every other batch. -/
def alternating : Consumer where
  name := "alternating"
  deliver earlier _ := if earlier.length % 2 = 0 then .refused "busy" else .taken

/-- A full batch, one whose time is over and one that is closed half full, with an attempt to add to
it. -/
def alternatingMoves : List BatcherMove :=
  [.hand [{ service := "a" }, { service := "b" }, { service := "c" }], .gather, .gather, .gather,
    .wait 20, .hand [{ service := "d" }], .expire, .hand [{ service := "e" }], .beginClose,
    .hand [{ service := "f" }], .close]

/-- What was taken before closing went out, although two of the batches were refused. -/
theorem passedOn_after_alternating :
    alternating.IsCalm ∧ max 1 2 ≤ Batcher.largest ∧
    (after alternating 2 10 alternatingMoves).passedOn.flatten.map (·.service) =
      ["a", "b", "c", "d", "e"] := by
  have hcalm : alternating.IsCalm := by
    intro earlier rs
    simp only [alternating]
    split <;> nofun
  have hlarge : max 1 2 ≤ Batcher.largest := by decide
  obtain ⟨-, -, hends, hflow, -⟩ := passedOn_after alternating hcalm 2 10 hlarge alternatingMoves
  refine ⟨hcalm, hlarge, ?_⟩
  rw [hflow (hends (by simp [alternatingMoves]))]
  decide +kernel

end BatcherRun

end ServiceControl
