import ServiceControl.Proofs.Checking.Interleaving

/-!
# What was built is given up once

The history of a pool names each checker by its kind and its number, when it is built and when it is
given up. As long as nothing was given up, exactly the checkers that were built are kept, in
whatever order checks took their steps. So giving up all that is kept gives up each checker once.
-/

namespace ServiceControl

namespace PoolEvent

/-- The kind and the number of a checker that was built. -/
def built? : PoolEvent → Option (String × Nat)
  | built kind serial => some (kind, serial)
  | failed _ | unloaded _ _ => none

/-- The kind and the number of a checker that was given up. -/
def unloaded? : PoolEvent → Option (String × Nat)
  | unloaded kind serial => some (kind, serial)
  | built _ _ | failed _ => none

end PoolEvent

namespace CheckerPool

/-- The checkers that were built, in order. -/
def builtCheckers (p : CheckerPool) : List (String × Nat) := p.history.filterMap PoolEvent.built?

/-- The checkers that were given up, in order. -/
def unloadedCheckers (p : CheckerPool) : List (String × Nat) :=
  p.history.filterMap PoolEvent.unloaded?

/-- The checkers that are kept, as the history names them. -/
def keptCheckers (p : CheckerPool) : List (String × Nat) :=
  p.kept.map fun x => (x.1.kind, x.2.serial)

/-- What was built is kept, and nothing was given up. -/
structure HasAll (p : CheckerPool) : Prop where
  inOrder : p.InOrder
  built : p.builtCheckers = p.kept.map fun x => (x.1.kind, x.2.serial)
  unloaded : p.unloadedCheckers = []

/-- Nothing is kept, and each checker that was built was given up once. -/
structure Emptied (p : CheckerPool) : Prop where
  kept : p.kept = []
  unloaded : p.unloadedCheckers = p.builtCheckers
  once : (p.builtCheckers.map Prod.snd).Nodup

variable {p q : CheckerPool}

/-- A pool starts without checkers. -/
theorem HasAll.of_start (s : Services) : HasAll { services := s } :=
  ⟨.of_kept_nil rfl, rfl, rfl⟩

/-- What neither builds nor gives up changes nothing about checkers. -/
theorem HasAll.of_same (h : p.HasAll) (hkept : q.kept = p.kept) (hhistory : q.history = p.history)
    (hattempts : q.attempts = p.attempts) : q.HasAll := by
  obtain ⟨⟨hkeys, hserials, hbound⟩, hbuilt, hunloaded⟩ := h
  refine ⟨⟨hkept ▸ hkeys, hkept ▸ hserials, ?_⟩, ?_, ?_⟩
  · rw [hkept, hattempts]
    exact hbound
  · rw [builtCheckers, hhistory, hkept]
    exact hbuilt
  · rw [unloadedCheckers, hhistory]
    exact hunloaded

/-- A settled key adds the checker that was built for it, if one was. -/
theorem HasAll.leaves (h : p.HasAll) {key : CheckerKey} {how : Settlement}
    (hleaves : how.Leaves p key q) : q.HasAll := by
  obtain ⟨hinOrder, hbuilt, hunloaded⟩ := h
  cases hleaves with
  | shared => exact ⟨hinOrder, hbuilt, hunloaded⟩
  | built c hfree =>
    refine ⟨hinOrder.extended c hfree, ?_, ?_⟩
    · simp only [builtCheckers, extended, List.filterMap_append, List.map_append] at hbuilt ⊢
      rw [hbuilt]
      rfl
    · simp only [unloadedCheckers, extended, List.filterMap_append] at hunloaded ⊢
      rw [hunloaded]
      rfl
  | failed =>
    refine ⟨hinOrder.disappointed key, ?_, ?_⟩
    · simp only [builtCheckers, disappointed, List.filterMap_append] at hbuilt ⊢
      rw [hbuilt]
      exact List.append_nil _
    · simp only [unloadedCheckers, disappointed, List.filterMap_append] at hunloaded ⊢
      rw [hunloaded]
      rfl

theorem HasAll.checkerFor (h : p.HasAll) (e : Entry) : (p.checkerFor e).2.HasAll := by
  unfold CheckerPool.checkerFor
  split
  · next key b _ =>
    rw [obtain_eq_build]
    exact h.leaves (Settlement.leaves_build p key b)
  · exact h

theorem HasAll.ask (h : p.HasAll) (request : CheckRequest) (entries : List Entry) :
    (ask request entries p).2.HasAll := by
  induction entries generalizing p with
  | nil => exact h
  | cons e rest ih =>
    rw [ask_cons]
    exact ih (h.checkerFor e)

/-- A check keeps all checkers that it builds. -/
theorem HasAll.check (h : p.HasAll) (request : CheckRequest) : (p.check request).2.HasAll :=
  (h.ask request (p.services.resolve (keyOf request))).of_same rfl rfl rfl

/-- What was kept is given up, and all that was given up before stays so. -/
theorem unloadedCheckers_unloadAll (p : CheckerPool) :
    p.unloadAll.unloadedCheckers = p.unloadedCheckers ++ p.keptCheckers := by
  rw [unloadedCheckers, unloadAll, List.filterMap_append, List.filterMap_map]
  exact congrArg (p.unloadedCheckers ++ ·) (congrFun List.filterMap_eq_map p.kept)

/-- To give up checkers is not to build any. -/
theorem builtCheckers_unloadAll (p : CheckerPool) :
    p.unloadAll.builtCheckers = p.builtCheckers := by
  have hnone : (p.kept.map fun x => PoolEvent.unloaded x.1.kind x.2.serial).filterMap
      PoolEvent.built? = [] := by simp [PoolEvent.built?]
  rw [builtCheckers, unloadAll, List.filterMap_append, hnone, List.append_nil, builtCheckers]

/-- To give up all that is kept is to give up all that was built, each checker once. -/
theorem HasAll.unloadAll (h : p.HasAll) : p.unloadAll.Emptied := by
  obtain ⟨hinOrder, hbuilt, hunloaded⟩ := h
  refine ⟨rfl, ?_, ?_⟩
  · rw [unloadedCheckers_unloadAll, builtCheckers_unloadAll, hunloaded, hbuilt]
    exact List.nil_append p.keptCheckers
  · rw [builtCheckers_unloadAll, hbuilt, List.map_map]
    exact hinOrder.serials

end CheckerPool

/-- Steps of checks keep all checkers that they build. -/
theorem CheckRun.hasAll_step {r : CheckRun} (h : r.pool.HasAll) (m : CheckMove) :
    (r.step m).pool.HasAll := by
  rcases r.step_cases m with ⟨_, -, he⟩ | ⟨s, -, he⟩ | ⟨_, -, -, he⟩ |
    ⟨t, task, next, -, -, hgo, he⟩
  · rw [he]
    exact h
  · rw [he]
    exact h.of_same rfl rfl rfl
  · rw [he]
    exact h
  · rw [he]
    cases hgo with
    | loads => exact h
    | quietly => exact h.of_same rfl rfl rfl
    | settles _ _ hleaves => exact h.leaves hleaves

end ServiceControl
