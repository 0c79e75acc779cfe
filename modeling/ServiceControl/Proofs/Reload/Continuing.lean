import ServiceControl.Proofs.Reload.Fairness
import ServiceControl.Proofs.Reload.Operating

/-!
# The reload loop goes on

What is known of every run of the loop, and what comes to happen in every fair run without an end: a
loop that is not stopped takes all triggers that were sent, and one tick after another, and takes
notice when no triggers will come any more; and a loop that is told to stop does so.
-/

namespace ServiceControl

namespace LoopRun

open Filter

variable {r r' : LoopRun} {listens : Bool} {moves : ℕ → LoopMove}

/-! ## Every run -/

/-- What is known of every run of a loop that listens to triggers, or does not. -/
structure Keeps (listens : Bool) (r : LoopRun) : Prop where
  /-- Each tick and each trigger that is taken is followed by one fetch of the loop and its end
  before anything else is taken, and after the order to stop comes nothing. -/
  turns : r.loop.phase.Fits r.own
  /-- The first tick is due from the start. -/
  fresh : r.Fresh
  /-- The loop and calls from outside fetch one at a time. -/
  fetches : r.Fetches
  /-- No trigger is lost while the loop listens to them. -/
  triggers : r.Triggers listens
  /-- Each reload of the loop is counted. -/
  counted : counted r.loop.metrics = r.log.countP LoopEvent.isEnd

theorem Keeps.step (h : r.Keeps listens) (m : LoopMove) : (r.step m).Keeps listens := by
  have hgo := r.goes_step m
  exact ⟨hgo.fits h.turns, hgo.fresh h.fresh, hgo.fetches h.fetches, hgo.triggers h.triggers,
    hgo.counted h.counted⟩

theorem Keeps.steps (h : r.Keeps listens) (moves : List LoopMove) :
    (moves.foldl LoopRun.step r).Keeps listens :=
  List.foldlRecOn moves LoopRun.step h fun _ hs m _ => hs.step m

/-- At its start nothing was sent, taken or fetched. -/
theorem keeps_begun (reloader : Reloader) (interval : Nat) (answers : List TimedAnswer)
    (listens : Bool) : Keeps listens ⟨.begun reloader interval answers listens, []⟩ := by
  refine ⟨⟨[], rfl⟩, fun _ => ⟨rfl, Nat.le_refl _⟩, ⟨rfl, nofun⟩, ?_, rfl⟩
  refine ⟨fun log hlog => ?_, fun n hn => ?_, fun hnone => ?_, Nat.zero_le _, nofun⟩
  · rw [List.prefix_nil.mp hlog]
    exact Nat.le_refl _
  · cases listens with
    | true =>
      obtain rfl := Option.some.inj hn
      exact ⟨rfl, nofun⟩
    | false => cases hn
  · cases listens with
    | true => cases hnone
    | false => exact .inl rfl

/-- A loop was told to stop and took notice of it just if it has stopped. -/
theorem Keeps.stopped_iff (h : r.Keeps listens) :
    r.loop.phase = .stopped ↔ .took .stop ∈ r.log := by
  have hown : .took .stop ∈ r.log ↔ .took .stop ∈ r.own := by
    simp [own, LoopEvent.isOwn]
  have hturns (turns : List LoopTurn) : .took .stop ∉ turns.flatMap LoopTurn.events := by
    intro hmem
    obtain ⟨turn, -, hturn⟩ := List.mem_flatMap.mp hmem
    cases turn <;> simp [LoopTurn.events] at hturn
  have hfits := h.turns
  rw [hown]
  cases hphase : r.loop.phase with
  | listening =>
    rw [hphase] at hfits
    obtain ⟨turns, hfits⟩ := hfits
    refine ⟨fun hstopped => ?_, fun hmem => absurd (hfits ▸ hmem) (hturns turns)⟩
    cases hstopped
  | reloading task =>
    rw [hphase] at hfits
    refine ⟨fun hstopped => ?_, fun hmem => ?_⟩
    · cases hstopped
    · cases task with
      | queued | fetching =>
        obtain ⟨turns, b, hb, hfits⟩ := hfits
        rw [hfits] at hmem
        rcases hb with rfl | rfl <;> simp [hturns turns] at hmem
  | stopped =>
    rw [hphase] at hfits
    obtain ⟨turns, hfits⟩ := hfits
    exact ⟨fun _ => hfits ▸ List.mem_append_right _ (List.mem_singleton.mpr rfl), fun _ => rfl⟩

/-- While a loop that listens to triggers runs, those that were sent and not taken wait, or it knows
that no more will come and has taken all. -/
theorem Keeps.triggers_of_running (h : r.Keeps true) (hrun : r.loop.phase ≠ .stopped) :
    (∃ n, r.loop.triggers = some n ∧ r.log.count (.took .trigger) + n = r.log.count .sent) ∨
      .took .closing ∈ r.log ∧ r.log.count (.took .trigger) = r.log.count .sent := by
  cases htriggers : r.loop.triggers with
  | some n => exact .inl ⟨n, rfl, (h.triggers.kept n htriggers).1⟩
  | none =>
    rcases h.triggers.gone htriggers with hlistens | hclosing | hstop
    · cases hlistens
    · exact .inr ⟨hclosing, (h.triggers.closed hclosing).2.2⟩
    · exact absurd (h.stopped_iff.mpr hstop) hrun

/-! ## Fair runs -/

theorem Keeps.stage (h : r.Keeps listens) (moves : ℕ → LoopMove) (n : ℕ) :
    (r.stage moves n).Keeps listens := h.steps _

/-- The next tick is due at the same time until it is taken. -/
theorem Goes.tick_eq (h : r.Goes r')
    (hsame : r'.log.count (.took .tick) = r.log.count (.took .tick)) :
    r'.loop.tick = r.loop.tick := by
  cases h with
  | takes _ htakes =>
    cases htakes with
    | tick => simp [goOn] at hsame
    | trigger | closing | stop => rfl
  | reloads _ hreloads => cases hreloads <;> rfl
  | outside hreloads => cases hreloads <;> rfl
  | calls | sends | idles => rfl

/-- Once no triggers will come, none is sent. -/
theorem Goes.sent_eq (h : r.Goes r') (hclosed : r.loop.hasTriggers = false) :
    r'.loop.hasTriggers = false ∧ r'.log.count .sent = r.log.count .sent := by
  cases h with
  | takes _ htakes => cases htakes <;> exact ⟨hclosed, by simp [goOn]⟩
  | reloads _ hreloads => cases hreloads <;> exact ⟨hclosed, by simp [goOn, reloadEvent]⟩
  | outside hreloads =>
    have hcount : (r.log ++ outsideEvents r.loop.outside).count .sent = r.log.count .sent := by
      unfold outsideEvents
      split <;> simp
    cases hreloads <;> exact ⟨hclosed, hcount⟩
  | sends _ hsender => cases hclosed.symm.trans hsender
  | calls => exact ⟨hclosed, rfl⟩
  | idles _ hstays => exact ⟨hstays hclosed, rfl⟩

/-- The order to stop is not taken back. -/
theorem Goes.stopSent (h : r.Goes r') (htold : r.loop.stopSent = true) :
    r'.loop.stopSent = true := by
  cases h with
  | takes _ htakes => cases htakes <;> exact htold
  | reloads _ hreloads => cases hreloads <;> exact htold
  | outside hreloads => cases hreloads <;> exact htold
  | calls | sends => exact htold
  | idles _ _ hstays => exact hstays htold

/-- One tick after another is taken. -/
theorem IsFair.exists_ticks_taken (h : r.IsFair moves)
    (hrun : ∀ n, (r.stage moves n).loop.phase ≠ .stopped) (n : ℕ) :
    ∃ k, n ≤ (r.stage moves k).log.count (.took .tick) := by
  induction n with
  | zero => exact ⟨0, Nat.zero_le _⟩
  | succ n ih =>
    obtain ⟨k, hk⟩ := ih
    obtain ⟨k', -, hmore⟩ := h.exists_taken (b := .tick) hrun k fun hsame => by
      have htick (j : ℕ) (hj : k ≤ j) :
          (r.stage moves j).loop.tick = (r.stage moves k).loop.tick := by
        induction j, hj using Nat.le_induction with
        | base => rfl
        | succ j hj ih =>
          have hnone := (hsame (j + 1) (Nat.le_succ_of_le hj)).trans (hsame j hj).symm
          exact ((goes_stage r moves j).tick_eq hnone).trans ih
      filter_upwards [h.eventually_le_now (r.stage moves k).loop.tick, eventually_ge_atTop k]
        with j hdue hj _
      exact ⟨_, .tick (Nat.le_trans (Nat.le_of_eq (htick j hj)) hdue)⟩
    exact ⟨k', Nat.lt_of_le_of_lt hk hmore⟩

/-- All triggers that were sent are taken, and then the loop listens. -/
theorem IsFair.exists_triggers_taken (h : r.IsFair moves) (hr : r.Keeps true)
    (hrun : ∀ n, (r.stage moves n).loop.phase ≠ .stopped) :
    ∃ k, (r.stage moves k).loop.phase = .listening ∧
      r.log.count .sent ≤ (r.stage moves k).log.count (.took .trigger) := by
  have hsome (n : ℕ) (hn : n ≤ r.log.count .sent) :
      ∃ k, n ≤ (r.stage moves k).log.count (.took .trigger) := by
    induction n with
    | zero => exact ⟨0, Nat.zero_le _⟩
    | succ n ih =>
      obtain ⟨k, hk⟩ := ih (Nat.le_of_succ_le hn)
      by_cases hmore : n + 1 ≤ (r.stage moves k).log.count (.took .trigger)
      · exact ⟨k, hmore⟩
      · obtain ⟨k', -, hmore⟩ := h.exists_taken (b := .trigger) hrun k fun hsame => by
          filter_upwards [eventually_ge_atTop k] with j hj _
          have hleft := hsame j hj
          have hsent : r.log.count .sent ≤ (r.stage moves j).log.count .sent :=
            count_stage_le (Nat.zero_le j) .sent
          rcases (hr.stage moves j).triggers_of_running (hrun j) with
            ⟨waiting, htriggers, hcount⟩ | ⟨-, hcount⟩
          · obtain ⟨rest, rfl⟩ : ∃ rest, waiting = rest + 1 := ⟨waiting - 1, by omega⟩
            exact ⟨_, .trigger htriggers⟩
          · omega
        exact ⟨k', Nat.lt_of_le_of_lt hk hmore⟩
  obtain ⟨k, hk⟩ := hsome _ (Nat.le_refl _)
  obtain ⟨k', hk', hlistens⟩ := frequently_atTop.mp (h.frequently_listening hrun) k
  exact ⟨k', hlistens, Nat.le_trans hk (count_stage_le hk' _)⟩

/-- That no more triggers will come is noticed. -/
theorem IsFair.exists_closing_taken (h : r.IsFair moves) (hr : r.Keeps true)
    (hrun : ∀ n, (r.stage moves n).loop.phase ≠ .stopped)
    (hclosed : r.loop.hasTriggers = false) : ∃ k, .took .closing ∈ (r.stage moves k).log := by
  by_contra hnever
  obtain ⟨k, -, hk⟩ := h.exists_triggers_taken hr hrun
  have hsent (j : ℕ) : (r.stage moves j).loop.hasTriggers = false ∧
      (r.stage moves j).log.count .sent = r.log.count .sent := by
    refine stage_induction (P := fun s => s.loop.hasTriggers = false ∧
      s.log.count .sent = r.log.count .sent) ?_ ⟨hclosed, rfl⟩ j
    rintro s s' hgo ⟨hnone, hcount⟩
    exact ⟨(hgo.sent_eq hnone).1, (hgo.sent_eq hnone).2.trans hcount⟩
  obtain ⟨k', -, hmore⟩ := h.exists_taken (b := .closing) hrun k fun _ => by
    filter_upwards [eventually_ge_atTop k] with j hj _
    rcases (hr.stage moves j).triggers_of_running (hrun j) with
      ⟨waiting, htriggers, hcount⟩ | ⟨hclosing, -⟩
    · have htook : (r.stage moves k).log.count (.took .trigger) ≤
          (r.stage moves j).log.count (.took .trigger) := count_stage_le hj _
      have hall := (hsent j).2
      obtain rfl : waiting = 0 := by omega
      exact ⟨_, .closing htriggers (hsent j).1⟩
    · exact absurd ⟨j, hclosing⟩ hnever
  exact hnever ⟨k', List.count_pos_iff.mp (Nat.zero_lt_of_lt hmore)⟩

/-- A loop that is told to stop does so. -/
theorem IsFair.exists_stopped (h : r.IsFair moves) (hr : r.Keeps listens)
    (htold : r.loop.stopSent = true) : ∃ k, (r.stage moves k).loop.phase = .stopped := by
  by_contra hnever
  have hrun (k : ℕ) : (r.stage moves k).loop.phase ≠ .stopped := fun hk => hnever ⟨k, hk⟩
  obtain ⟨k, -, hmore⟩ := h.exists_taken (b := .stop) hrun 0 fun _ => by
    filter_upwards with j _
    exact ⟨_, .stop (stage_induction (P := fun s => s.loop.stopSent = true)
      (fun _ _ hgo => hgo.stopSent) htold j)⟩
  have hstop : .took .stop ∈ (r.stage moves k).log :=
    List.count_pos_iff.mp (Nat.zero_lt_of_lt hmore)
  exact hrun k ((hr.stage moves k).stopped_iff.mpr hstop)

/-- In every order of ticks, triggers, the end of the triggers, the order to stop, reloads from
outside and the ends of fetches: each tick and each trigger that the loop takes is followed by one
fetch of the loop and its end, and the loop fetches for nothing else; the first tick is due from the
start; one fetch runs at a time; no trigger is lost while the loop listens to them, and none is
taken before it was sent; that no more will come is noticed once at most; after the order to stop is
taken nothing follows; and each reload of the loop is counted. Every run can be continued to a fair
one. In all of these a loop that is told to stop does so, and one that does not stop takes all
triggers that were sent and comes to the end of the last of their reloads, takes notice that no more
will come, and takes one tick after another. What the operations of the loop do is a run. -/
theorem no_trigger_lost (reloader : Reloader) (interval : Nat) (answers : List TimedAnswer)
    (listens : Bool) (moves : List LoopMove) :
    let r := after (.begun reloader interval answers listens) moves
    r.Keeps listens ∧
    (r.loop.phase = .stopped ↔ .took .stop ∈ r.log) ∧
    (∃ more, r.IsFair more) ∧
    (∀ more, r.IsFair more →
      (r.loop.stopSent = true → ∃ k, (r.stage more k).loop.phase = .stopped) ∧
      ((∀ k, (r.stage more k).loop.phase ≠ .stopped) →
        (listens = true →
          (∃ k, (r.stage more k).loop.phase = .listening ∧
            r.log.count .sent ≤ (r.stage more k).log.count (.took .trigger)) ∧
          (r.loop.hasTriggers = false → ∃ k, .took .closing ∈ (r.stage more k).log)) ∧
        ∀ n, ∃ k, n ≤ (r.stage more k).log.count (.took .tick))) ∧
    ∀ l, r.loop.Operates l → ∃ more,
      (after (.begun reloader interval answers listens) (moves ++ more)).loop = l := by
  intro r
  have h : r.Keeps listens := (keeps_begun reloader interval answers listens).steps moves
  refine ⟨h, h.stopped_iff, ⟨r.inTurn, isFair_inTurn r⟩,
    fun more hfair => ⟨?_, fun hrun => ⟨?_, ?_⟩⟩, fun l hl => ?_⟩
  · exact hfair.exists_stopped h
  · rintro rfl
    exact ⟨hfair.exists_triggers_taken h hrun, hfair.exists_closing_taken h hrun⟩
  · exact hfair.exists_ticks_taken hrun
  · obtain ⟨more, log, hreached⟩ := hl.reaches r.log
    refine ⟨more, ?_⟩
    rw [after, List.foldl_append]
    exact congrArg LoopRun.loop hreached

end LoopRun

end ServiceControl
