import ServiceControl.Proofs.Reload.Looping

/-!
# The operations of the reload loop as runs

The operations of the loop, which let everything happen in one order, are runs of single events.
-/

namespace ServiceControl

namespace ReloadLoop

/-- A loop can become another one by single events. -/
def Reaches (l l' : ReloadLoop) : Prop :=
  ∀ log, ∃ (more : List LoopMove) (log' : List LoopEvent),
    more.foldl LoopRun.step ⟨l, log⟩ = ⟨l', log'⟩

variable {l l' l'' : ReloadLoop}

theorem Reaches.refl (l : ReloadLoop) : Reaches l l := fun log => ⟨[], log, rfl⟩

theorem Reaches.trans (h : Reaches l l') (h' : Reaches l' l'') : Reaches l l'' := by
  intro log
  obtain ⟨more, log', hmore⟩ := h log
  obtain ⟨more', log'', hmore'⟩ := h' log'
  refine ⟨more ++ more', log'', ?_⟩
  rw [List.foldl_append, hmore, hmore']

/-- Time passes. -/
theorem reaches_wait {now : Nat} (h : l.now ≤ now) : Reaches l { l with now } := by
  intro log
  refine ⟨[.wait (now - l.now)], log, ?_⟩
  have hnow : l.now + (now - l.now) = now := by omega
  simp only [List.foldl_cons, List.foldl_nil, LoopRun.step, hnow]

/-- A loop that listens does what it does by taking what is there. -/
theorem exists_take?_of_stepLoop (hphase : l.phase = .listening) (h : l.stepLoop = some l') :
    ∃ b, l.take? b = some l' := by
  unfold stepLoop at h
  rw [hphase] at h
  dsimp only at h
  split at h
  · next hstop =>
    obtain rfl := Option.some.inj h
    exact ⟨.stop, take?_eq_some_iff.mpr ⟨hphase, .stop hstop⟩⟩
  · split at h
    · next hdue =>
      obtain rfl := Option.some.inj h
      exact ⟨.tick, take?_eq_some_iff.mpr ⟨hphase, .tick (of_decide_eq_true hdue)⟩⟩
    · split at h
      · cases h
      · next n hn =>
        obtain rfl := Option.some.inj h
        exact ⟨.trigger, take?_eq_some_iff.mpr ⟨hphase, .trigger hn⟩⟩
      · next hnone =>
        split at h
        · cases h
        · next hclosed =>
          obtain rfl := Option.some.inj h
          have hclosed' : l.hasTriggers = false := Bool.eq_false_iff.mpr hclosed
          exact ⟨.closing, take?_eq_some_iff.mpr ⟨hphase, .closing hnone hclosed'⟩⟩

theorem reaches_stepLoop (h : l.stepLoop = some l') : Reaches l l' := by
  intro log
  cases hphase : l.phase with
  | stopped =>
    unfold stepLoop at h
    rw [hphase] at h
    cases h
  | listening =>
    obtain ⟨b, hb⟩ := exists_take?_of_stepLoop hphase h
    refine ⟨[.take b], log ++ [.took b], ?_⟩
    simp only [List.foldl_cons, List.foldl_nil, LoopRun.step, hb, LoopRun.goOn]
  | reloading task =>
    refine ⟨[.reload], log ++ [LoopRun.reloadEvent l task], ?_⟩
    simp only [List.foldl_cons, List.foldl_nil, LoopRun.step, hphase, h, LoopRun.goOn]

theorem reaches_stepOutside (h : l.stepOutside = some l') : Reaches l l' := by
  intro log
  refine ⟨[.outside], log ++ LoopRun.outsideEvents l.outside, ?_⟩
  simp only [List.foldl_cons, List.foldl_nil, LoopRun.step, h, LoopRun.goOn]

/-- Neither takes any time. -/
theorem now_of_step (h : l.stepLoop.or l.stepOutside = some l') : l'.now = l.now := by
  rcases Option.or_eq_some_iff.mp h with hloop | ⟨-, houtside⟩
  · cases hphase : l.phase with
    | stopped =>
      unfold stepLoop at hloop
      rw [hphase] at hloop
      cases hloop
    | listening =>
      obtain ⟨b, hb⟩ := exists_take?_of_stepLoop hphase hloop
      cases (take?_eq_some_iff.mp hb).2 <;> rfl
    | reloading task => cases reloads_of_stepLoop hphase hloop <;> rfl
  · cases reloadsOutside_of_stepOutside houtside <;> rfl

/-- Letting everything happen that happens now is a run, and takes no time. -/
theorem reaches_settle (n : Nat) (l : ReloadLoop) :
    Reaches l (settle n l) ∧ (settle n l).now = l.now := by
  induction n generalizing l with
  | zero => exact ⟨.refl l, rfl⟩
  | succ n ih =>
    unfold settle
    split
    · next l' hstep =>
      obtain ⟨hreaches, hnow⟩ := ih l'
      refine ⟨.trans ?_ hreaches, hnow.trans (now_of_step hstep)⟩
      rcases Option.or_eq_some_iff.mp hstep with hloop | ⟨-, houtside⟩
      · exact reaches_stepLoop hloop
      · exact reaches_stepOutside houtside
    · exact ⟨.refl l, rfl⟩

theorem reaches_catchUp (l : ReloadLoop) : Reaches l l.catchUp := (reaches_settle _ l).1

theorem now_catchUp (l : ReloadLoop) : l.catchUp.now = l.now := (reaches_settle _ l).2

/-- So is letting time pass from one event to the next. -/
theorem reaches_runUntil {target : Nat} (n : Nat) (h : l.now ≤ target) :
    Reaches l (runUntil target n l) := by
  induction n generalizing l with
  | zero => exact reaches_wait h
  | succ n ih =>
    unfold runUntil
    split
    · next t ht =>
      split
      · next hle =>
        have hnow : max t l.now ≤ target := Nat.max_le.mpr ⟨hle, h⟩
        have hwait : Reaches l { l with now := max t l.now } := reaches_wait (Nat.le_max_right _ _)
        refine (hwait.trans (reaches_catchUp _)).trans (ih ?_)
        rw [now_catchUp]
        exact hnow
      · exact reaches_wait h
    · exact reaches_wait h

theorem reaches_runOutside (n : Nat) (l : ReloadLoop) : Reaches l (runOutside n l) := by
  induction n generalizing l with
  | zero => exact .refl l
  | succ n ih =>
    unfold runOutside
    split
    · exact .refl l
    · split
      · next t ht =>
        have hwait : Reaches l { l with now := max t l.now } := reaches_wait (Nat.le_max_right _ _)
        exact (hwait.trans (reaches_catchUp _)).trans (ih _)
      · exact .refl l

/-- The operations of a loop, and what it is after them. -/
inductive Operates (l : ReloadLoop) : ReloadLoop → Prop where
  | start (interval : l.interval ≠ 0) : Operates l l.start
  | sleep (ms : Nat) : Operates l (l.sleep ms)
  | trigger (sender : l.hasTriggers = true) : Operates l l.trigger.2
  | dropTriggers : Operates l l.dropTriggers
  | stop : Operates l l.stop
  | reloadNow (free : l.outside = none) : Operates l l.reloadNow.2

/-- Each operation is a run of single events. -/
theorem Operates.reaches (h : l.Operates l') : Reaches l l' := by
  cases h with
  | start hinterval =>
    rw [ReloadLoop.start, if_neg hinterval]
    exact reaches_catchUp l
  | sleep ms => exact (reaches_runUntil _ (Nat.le_add_right _ _)).trans (reaches_catchUp _)
  | trigger hsender =>
    unfold ReloadLoop.trigger
    split
    · next n hn =>
      have hsend : Reaches l { l with triggers := some (n + 1) } := fun log =>
        ⟨[.send], log ++ [.sent], by
          simp only [List.foldl_cons, List.foldl_nil, LoopRun.step, hn, hsender, LoopRun.goOn,
            if_true]⟩
      exact hsend.trans (reaches_catchUp _)
    · exact .refl l
  | dropTriggers =>
    have hdrop : Reaches l { l with hasTriggers := false } := fun log => ⟨[.dropTriggers], log, rfl⟩
    exact hdrop.trans (reaches_catchUp _)
  | stop =>
    have hstop : Reaches l { l with stopSent := true } := fun log => ⟨[.stop], log, rfl⟩
    exact hstop.trans (reaches_catchUp _)
  | reloadNow hfree =>
    have hcall : Reaches l { l with outside := some .queued, outcome := none } := fun log =>
      ⟨[.call], log, by
        simp only [List.foldl_cons, List.foldl_nil, LoopRun.step, hfree, Option.isNone_none,
          if_true]⟩
    exact (hcall.trans (reaches_catchUp _)).trans (reaches_runOutside _ _)

end ReloadLoop

end ServiceControl
