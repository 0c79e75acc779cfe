import Mathlib.Order.Filter.AtTopBot.Basic
import ServiceControl.Proofs.Reload.Looping

/-!
# Runs of the reload loop without an end

A run that goes on for ever is fair if time goes on, and if no move of the loop or of a reload from
outside that can be made again and again is put off for ever. Every run can be continued to a fair
one: the moves wait in a row, the first one that can be made is made, and takes its place at the
end. In a fair run a loop that does not stop listens again and again, and takes what is there
whenever it listens.
-/

namespace ServiceControl.LoopRun

open Filter

variable {r r' : LoopRun} {moves : ℕ → LoopMove}

/-- Whether the loop or a reload from outside can make a move. -/
def can (r : LoopRun) : LoopMove → Bool
  | .take b => (r.loop.take? b).isSome
  | .reload => match r.loop.phase with
    | .reloading _ => r.loop.stepLoop.isSome
    | .listening | .stopped => false
  | .outside => r.loop.stepOutside.isSome
  | .call | .send | .dropTriggers | .stop | .wait _ => false

/-- The run after so many more moves. -/
def stage (r : LoopRun) (moves : ℕ → LoopMove) (n : ℕ) : LoopRun :=
  ((List.range n).map moves).foldl step r

theorem stage_succ (r : LoopRun) (moves : ℕ → LoopMove) (n : ℕ) :
    r.stage moves (n + 1) = (r.stage moves n).step (moves n) := by
  rw [stage, List.range_succ, List.map_append, List.foldl_append]
  rfl

/-- Time goes on, and what can be done again and again is done again and again. -/
structure IsFair (r : LoopRun) (moves : ℕ → LoopMove) : Prop where
  time : ∀ t, ∃ n, t ≤ (r.stage moves n).loop.now
  made : ∀ m, (∃ᶠ n in atTop, (r.stage moves n).can m = true) →
    ∃ᶠ n in atTop, moves n = m ∧ (r.stage moves n).can m = true

/-! ## What does not go back -/

theorem Goes.now_le (h : r.Goes r') : r.loop.now ≤ r'.loop.now := by
  cases h with
  | takes _ htakes => cases htakes <;> exact Nat.le_refl _
  | reloads _ hreloads => cases hreloads <;> exact Nat.le_refl _
  | outside hreloads => cases hreloads <;> exact Nat.le_refl _
  | calls | sends => exact Nat.le_refl _
  | idles hlater => exact hlater

theorem Goes.prefix_log (h : r.Goes r') : r.log <+: r'.log := by
  cases h with
  | takes | reloads | outside | sends => exact List.prefix_append _ _
  | calls | idles => exact List.prefix_rfl

theorem goes_stage (r : LoopRun) (moves : ℕ → LoopMove) (n : ℕ) :
    (r.stage moves n).Goes (r.stage moves (n + 1)) := by
  rw [stage_succ]
  exact goes_step _ _

/-- What every move keeps is so at every stage. -/
theorem stage_induction {P : LoopRun → Prop} (hstep : ∀ r r', r.Goes r' → P r → P r') (h : P r)
    (n : ℕ) : P (r.stage moves n) := by
  induction n with
  | zero => exact h
  | succ n ih => exact hstep _ _ (goes_stage r moves n) ih

theorem now_stage_le {n k : ℕ} (h : n ≤ k) :
    (r.stage moves n).loop.now ≤ (r.stage moves k).loop.now :=
  monotone_nat_of_le_succ (fun n => (goes_stage r moves n).now_le) h

theorem prefix_log_stage {n k : ℕ} (h : n ≤ k) :
    (r.stage moves n).log <+: (r.stage moves k).log := by
  induction k, h using Nat.le_induction with
  | base => exact List.prefix_rfl
  | succ k _ ih => exact ih.trans (goes_stage r moves k).prefix_log

theorem count_stage_le {n k : ℕ} (h : n ≤ k) (e : LoopEvent) :
    (r.stage moves n).log.count e ≤ (r.stage moves k).log.count e :=
  (prefix_log_stage h).sublist.count_le e

theorem IsFair.eventually_le_now (h : r.IsFair moves) (t : ℕ) :
    ∀ᶠ n in atTop, t ≤ (r.stage moves n).loop.now := by
  obtain ⟨n, hn⟩ := h.time t
  exact eventually_atTop.mpr ⟨n, fun k hk => Nat.le_trans hn (now_stage_le hk)⟩

/-! ## A fair continuation -/

/-- The moves of the loop and of a reload from outside, and time that passes. -/
def ownMoves : List LoopMove :=
  [.take .tick, .take .trigger, .take .closing, .take .stop, .reload, .outside, .wait 1]

/-- Time can always pass. -/
def isReady (r : LoopRun) (m : LoopMove) : Bool := m == .wait 1 || r.can m

/-- The first move of a row that can be made. -/
def next (r : LoopRun) (row : List LoopMove) : LoopMove := (row.find? r.isReady).getD (.wait 1)

/-- The run and the row after so many moves; the one that is made goes to the end of the row. -/
def turns (r : LoopRun) : ℕ → LoopRun × List LoopMove
  | 0 => (r, ownMoves)
  | n + 1 =>
    let (r', row) := r.turns n
    (r'.step (r'.next row), row.erase (r'.next row) ++ [r'.next row])

/-- The moves that are made in turn. -/
def inTurn (r : LoopRun) (n : ℕ) : LoopMove := (r.turns n).1.next (r.turns n).2

theorem stage_inTurn (r : LoopRun) (n : ℕ) : r.stage r.inTurn n = (r.turns n).1 := by
  induction n with
  | zero => rfl
  | succ n ih =>
    rw [stage_succ, ih]
    rfl

/-- Only what can be made is made. -/
theorem isReady_next (r : LoopRun) (row : List LoopMove) : r.isReady (r.next row) = true := by
  unfold next
  cases h : row.find? r.isReady with
  | none => rfl
  | some m => exact List.find?_some h

/-- A move stands in a row, and so many others at most stand before it. -/
def Behind (m : LoopMove) (d : ℕ) (row : List LoopMove) : Prop :=
  ∃ before after, row = before ++ m :: after ∧ before.length ≤ d

variable {m : LoopMove} {row : List LoopMove} {d : ℕ}

/-- No other move that is made puts one further back. -/
theorem Behind.erase (h : Behind m d row) {made : LoopMove} (hne : made ≠ m) :
    Behind m d (row.erase made ++ [made]) := by
  obtain ⟨before, after, rfl, hlength⟩ := h
  by_cases hmem : made ∈ before
  · refine ⟨before.erase made, after ++ [made], ?_, ?_⟩
    · rw [List.erase_append_left _ hmem, List.append_assoc, List.cons_append]
    · exact Nat.le_trans List.length_erase_le hlength
  · refine ⟨before, after.erase made ++ [made], ?_, hlength⟩
    rw [List.erase_append_right _ hmem, List.erase_cons_tail (by simpa using hne.symm),
      List.append_assoc, List.cons_append]

/-- If it can be made and another one is made, that one stood before it, and it comes forward. -/
theorem Behind.forward (h : Behind m d row) (hready : r.isReady m = true) (hne : r.next row ≠ m) :
    ∃ d' < d, Behind m d' (row.erase (r.next row) ++ [r.next row]) := by
  obtain ⟨before, after, rfl, hlength⟩ := h
  have hmem : r.next (before ++ m :: after) ∈ before := by
    unfold next at hne ⊢
    rw [List.find?_append] at hne ⊢
    cases hfind : before.find? r.isReady with
    | none =>
      rw [hfind, Option.none_or, List.find?_cons_of_pos hready] at hne
      exact absurd rfl hne
    | some first => exact List.mem_of_find?_eq_some hfind
  have hpos : 0 < before.length := List.length_pos_of_mem hmem
  refine ⟨d - 1, by omega, before.erase (r.next (before ++ m :: after)),
    after ++ [r.next (before ++ m :: after)], ?_, ?_⟩
  · rw [List.erase_append_left _ hmem, List.append_assoc, List.cons_append]
  · rw [List.length_erase_of_mem hmem]
    omega

/-- A move that can be made again and again does not wait for ever, because each time that another
one is made instead it comes forward. -/
theorem frequently_inTurn (hm : m ∈ ownMoves)
    (hready : ∃ᶠ n in atTop, (r.turns n).1.isReady m = true) : ∃ᶠ n in atTop, r.inTurn n = m := by
  by_contra hnever
  obtain ⟨start, hstart⟩ := eventually_atTop.mp (not_frequently.mp hnever)
  have hkeeps {d n k : ℕ} (hn : start ≤ n) (hnk : n ≤ k) (h : Behind m d (r.turns n).2) :
      Behind m d (r.turns k).2 := by
    induction k, hnk using Nat.le_induction with
    | base => exact h
    | succ k hnk ih => exact ih.erase (hstart k (Nat.le_trans hn hnk))
  -- each time that it could be made, fewer moves stand before it than the last time
  have hnone (d : ℕ) : ∀ n, start ≤ n → ¬Behind m d (r.turns n).2 := by
    induction d using Nat.strong_induction_on with
    | _ d ih =>
      intro n hn h
      obtain ⟨k, hnk, hk⟩ := frequently_atTop.mp hready n
      have hlate := Nat.le_trans hn hnk
      obtain ⟨d', hd, hforward⟩ := (hkeeps hn hnk h).forward hk (hstart k hlate)
      exact ih d' hd (k + 1) (Nat.le_succ_of_le hlate) hforward
  have hrow (n : ℕ) : m ∈ (r.turns n).2 := by
    induction n with
    | zero => exact hm
    | succ n ih =>
      by_cases h : m = (r.turns n).1.next (r.turns n).2
      · exact List.mem_append_right _ (List.mem_singleton.mpr h)
      · exact List.mem_append_left _ ((List.mem_erase_of_ne h).mpr ih)
  obtain ⟨before, after, hsplit⟩ := List.append_of_mem (hrow start)
  exact hnone before.length start (Nat.le_refl _) ⟨before, after, hsplit, Nat.le_refl _⟩

/-- Every run can be continued to a fair one. -/
theorem isFair_inTurn (r : LoopRun) : r.IsFair r.inTurn := by
  have hmade {m : LoopMove} (hm : m ∈ ownMoves)
      (hready : ∃ᶠ n in atTop, (r.stage r.inTurn n).isReady m = true) :
      ∃ᶠ n in atTop, r.inTurn n = m := by
    simp only [stage_inTurn] at hready
    exact frequently_inTurn hm hready
  refine ⟨fun t => ?_, fun m hcan => ?_⟩
  · induction t with
    | zero => exact ⟨0, Nat.zero_le _⟩
    | succ t ih =>
      obtain ⟨n, hn⟩ := ih
      have hwait : ∃ᶠ n in atTop, r.inTurn n = .wait 1 :=
        hmade (by decide) (Eventually.frequently (Eventually.of_forall fun _ => rfl))
      obtain ⟨k, hnk, hk⟩ := frequently_atTop.mp hwait n
      refine ⟨k + 1, ?_⟩
      rw [stage_succ, hk]
      exact Nat.succ_le_succ (Nat.le_trans hn (now_stage_le hnk))
  · have hm : m ∈ ownMoves := by
      obtain ⟨n, hn⟩ := hcan.exists
      cases m with
      | take b => cases b <;> decide
      | reload | outside => decide
      | call | send | dropTriggers | stop | wait => cases hn
    have hready := hcan.mono fun n hn => (show (r.stage r.inTurn n).isReady m = true by
      rw [isReady, hn, Bool.or_true])
    have hne : m ≠ .wait 1 := by
      rintro rfl
      obtain ⟨n, hn⟩ := hcan.exists
      cases hn
    refine (hmade hm hready).mono fun n hn => ⟨hn, ?_⟩
    have hnext : (r.turns n).1.isReady (r.inTurn n) = true := isReady_next _ _
    rw [hn, isReady, beq_false_of_ne hne, Bool.false_or] at hnext
    rw [stage_inTurn]
    exact hnext

/-! ## Listening again and again -/

variable {answer : Except FetchError ByteArray} {finish : ℕ} {task : ReloadTask} {b : LoopBranch}

/-- A fetch of the loop goes on, or the loop listens. -/
theorem Goes.of_fetching (h : r.Goes r')
    (hphase : r.loop.phase = .reloading (.fetching answer finish)) :
    r'.loop.phase = .reloading (.fetching answer finish) ∨ r'.loop.phase = .listening := by
  cases h with
  | takes hlistens => cases hlistens.symm.trans hphase
  | reloads hreloading hreloads =>
    cases hreloads with
    | starts => cases hreloading.symm.trans hphase
    | ends => exact .inr rfl
  | outside hreloads => cases hreloads <;> exact .inl hphase
  | calls | sends | idles => exact .inl hphase

/-- A fetch from outside goes on, or nothing is called for from outside. -/
theorem Goes.of_fetching_outside (h : r.Goes r')
    (houtside : r.loop.outside = some (.fetching answer finish)) :
    r'.loop.outside = some (.fetching answer finish) ∨ r'.loop.outside = none := by
  cases h with
  | takes _ htakes => cases htakes <;> exact .inl houtside
  | reloads _ hreloads => cases hreloads <;> exact .inl houtside
  | outside hreloads =>
    cases hreloads with
    | starts hqueued => cases hqueued.symm.trans houtside
    | ends => exact .inr rfl
  | calls _ hfree => cases hfree.symm.trans houtside
  | sends | idles => exact .inl houtside

/-- A reload of the loop that can go on does so. -/
theorem reloads_step (hphase : r.loop.phase = .reloading task) (hcan : r.can .reload = true) :
    r.loop.Reloads task (r.step .reload).loop := by
  simp only [can, hphase] at hcan
  obtain ⟨l, hl⟩ := Option.isSome_iff_exists.mp hcan
  have hstep : (r.step .reload).loop = l := by
    simp only [step, hphase, hl]
    rfl
  exact hstep ▸ ReloadLoop.reloads_of_stepLoop hphase hl

/-- So does one from outside. -/
theorem reloadsOutside_step (hcan : r.can .outside = true) :
    r.loop.ReloadsOutside (r.step .outside).loop := by
  obtain ⟨l, hl⟩ := Option.isSome_iff_exists.mp hcan
  have hstep : (r.step .outside).loop = l := by
    simp only [step, hl]
    rfl
  exact hstep ▸ ReloadLoop.reloadsOutside_of_stepOutside hl

/-- What can be taken is taken. -/
theorem log_step_take (hcan : r.can (.take b) = true) :
    (r.step (.take b)).log = r.log ++ [.took b] := by
  obtain ⟨l, hl⟩ := Option.isSome_iff_exists.mp hcan
  simp only [step, hl]
  rfl

/-- A fetch of the loop does not go on for ever. -/
theorem IsFair.not_eventually_fetching (h : r.IsFair moves) : ¬∀ᶠ n in atTop,
    (r.stage moves n).loop.phase = .reloading (.fetching answer finish) := by
  intro hfetching
  have hcan : ∀ᶠ n in atTop, (r.stage moves n).can .reload = true := by
    filter_upwards [hfetching, h.eventually_le_now finish] with n hphase hover
    simp only [can, hphase, ReloadLoop.stepLoop, if_neg (Nat.not_lt.mpr hover), Option.isSome_some]
  obtain ⟨start, hstart⟩ := eventually_atTop.mp hfetching
  obtain ⟨k, hk, hmade, hcan⟩ := frequently_atTop.mp (h.made .reload hcan.frequently) start
  have hends := reloads_step (hstart k hk) hcan
  have hgoesOn := hstart (k + 1) (Nat.le_succ_of_le hk)
  rw [stage_succ, hmade] at hgoesOn
  generalize ((r.stage moves k).step .reload).loop = l at hends hgoesOn
  cases hends
  cases hgoesOn

/-- Nor does one from outside. -/
theorem IsFair.not_eventually_fetching_outside (h : r.IsFair moves) : ¬∀ᶠ n in atTop,
    (r.stage moves n).loop.outside = some (.fetching answer finish) := by
  intro hfetching
  have hcan : ∀ᶠ n in atTop, (r.stage moves n).can .outside = true := by
    filter_upwards [hfetching, h.eventually_le_now finish] with n houtside hover
    simp only [can, houtside, ReloadLoop.stepOutside, if_neg (Nat.not_lt.mpr hover),
      Option.isSome_some]
  obtain ⟨start, hstart⟩ := eventually_atTop.mp hfetching
  obtain ⟨k, hk, hmade, hcan⟩ := frequently_atTop.mp (h.made .outside hcan.frequently) start
  have hends := reloadsOutside_step hcan
  have hgoesOn := hstart (k + 1) (Nat.le_succ_of_le hk)
  rw [stage_succ, hmade] at hgoesOn
  have hfetches := hstart k hk
  generalize ((r.stage moves k).step .outside).loop = l at hends hgoesOn
  cases hends with
  | starts hqueued => cases hqueued.symm.trans hfetches
  | ends => cases hgoesOn

/-- A reload of the loop that does not start waits for a fetch from outside. -/
theorem exists_fetching_outside {l : ReloadLoop} (hphase : l.phase = .reloading .queued)
    (hbusy : l.isBusy ≠ false) : ∃ answer finish, l.outside = some (.fetching answer finish) := by
  rw [ReloadLoop.isBusy, hphase] at hbusy
  cases houtside : l.outside with
  | none =>
    rw [houtside] at hbusy
    exact absurd rfl hbusy
  | some task =>
    rw [houtside] at hbusy
    cases task with
    | queued => exact absurd rfl hbusy
    | fetching answer finish => exact ⟨answer, finish, rfl⟩

/-- A loop that does not stop listens again and again. -/
theorem IsFair.frequently_listening (h : r.IsFair moves)
    (hrun : ∀ n, (r.stage moves n).loop.phase ≠ .stopped) :
    ∃ᶠ n in atTop, (r.stage moves n).loop.phase = .listening := by
  by_contra hnever
  obtain ⟨start, hstart⟩ := eventually_atTop.mp (not_frequently.mp hnever)
  -- a fetch comes to its end, so the loop would have to wait for ever to start one
  have hqueued (n : ℕ) (hn : start ≤ n) :
      (r.stage moves n).loop.phase = .reloading .queued := by
    cases hphase : (r.stage moves n).loop.phase with
    | listening => exact absurd hphase (hstart n hn)
    | stopped => exact absurd hphase (hrun n)
    | reloading task =>
      cases task with
      | queued => rfl
      | fetching answer finish =>
        have hfetching (k : ℕ) (hk : n ≤ k) :
            (r.stage moves k).loop.phase = .reloading (.fetching answer finish) := by
          induction k, hk using Nat.le_induction with
          | base => exact hphase
          | succ k hk ih =>
            exact ((goes_stage r moves k).of_fetching ih).resolve_right (hstart (k + 1) (by omega))
        exact absurd (eventually_atTop.mpr ⟨n, hfetching⟩) h.not_eventually_fetching
  -- but what it waits for is a fetch from outside, which comes to its end as well
  have hfree : ∃ᶠ n in atTop, (r.stage moves n).loop.isBusy = false := by
    by_contra hbusy
    obtain ⟨start', hstart'⟩ := eventually_atTop.mp (not_frequently.mp hbusy)
    have hsome (n : ℕ) (hn : max start start' ≤ n) :=
      exists_fetching_outside (hqueued n (by omega)) (hstart' n (by omega))
    obtain ⟨answer, finish, houtside⟩ := hsome _ (Nat.le_refl _)
    have hfetching (k : ℕ) (hk : max start start' ≤ k) :
        (r.stage moves k).loop.outside = some (.fetching answer finish) := by
      induction k, hk using Nat.le_induction with
      | base => exact houtside
      | succ k hk ih =>
        refine ((goes_stage r moves k).of_fetching_outside ih).resolve_right fun hnone => ?_
        obtain ⟨_, _, houtside'⟩ := hsome (k + 1) (Nat.le_succ_of_le hk)
        cases hnone.symm.trans houtside'
    exact h.not_eventually_fetching_outside (eventually_atTop.mpr ⟨_, hfetching⟩)
  have hcan : ∃ᶠ n in atTop, (r.stage moves n).can .reload = true := by
    refine (hfree.and_eventually (eventually_atTop.mpr ⟨start, hqueued⟩)).mono ?_
    rintro n ⟨hfree, hphase⟩
    simp only [can, hphase, ReloadLoop.stepLoop, hfree, Bool.false_eq_true, if_false,
      Option.isSome_some]
  obtain ⟨k, hk, hmade, hcan⟩ := frequently_atTop.mp (h.made .reload hcan) start
  have hstarts := reloads_step (hqueued k hk) hcan
  have hstays := hqueued (k + 1) (Nat.le_succ_of_le hk)
  rw [stage_succ, hmade] at hstays
  generalize ((r.stage moves k).step .reload).loop = l at hstarts hstays
  cases hstarts
  cases hstays

/-- What is there whenever the loop listens, as long as it does not take it, is taken. -/
theorem IsFair.exists_taken (h : r.IsFair moves)
    (hrun : ∀ n, (r.stage moves n).loop.phase ≠ .stopped) (n : ℕ)
    (hthere : (∀ k, n ≤ k → (r.stage moves k).log.count (.took b) =
        (r.stage moves n).log.count (.took b)) →
      ∀ᶠ k in atTop, (r.stage moves k).loop.phase = .listening →
        ∃ l, (r.stage moves k).loop.Takes b l) :
    ∃ k, n ≤ k ∧
      (r.stage moves n).log.count (.took b) < (r.stage moves k).log.count (.took b) := by
  by_contra hnever
  have hsame (k : ℕ) (hk : n ≤ k) : (r.stage moves k).log.count (.took b) =
      (r.stage moves n).log.count (.took b) :=
    Nat.le_antisymm (Nat.le_of_not_lt fun hlt => hnever ⟨k, hk, hlt⟩) (count_stage_le hk _)
  have hcan : ∃ᶠ k in atTop, (r.stage moves k).can (.take b) = true := by
    refine ((h.frequently_listening hrun).and_eventually (hthere hsame)).mono ?_
    rintro k ⟨hlistens, htakes⟩
    obtain ⟨l, hl⟩ := htakes hlistens
    rw [can, ReloadLoop.take?_eq_some_iff.mpr ⟨hlistens, hl⟩, Option.isSome_some]
  obtain ⟨k, hk, hmade, hcan⟩ := frequently_atTop.mp (h.made (.take b) hcan) n
  have htaken := hsame (k + 1) (Nat.le_succ_of_le hk)
  rw [stage_succ, hmade, log_step_take hcan, List.count_append, hsame k hk] at htaken
  simp at htaken

end ServiceControl.LoopRun
