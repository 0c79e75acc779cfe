import Mathlib.Data.List.Nodup
import ServiceControl.Checking.Pool

/-!
# What a build does to the pool

A build either finds a checker under its key, or adds one at the end, or leaves everything kept as
it is. All that later modules know about builds is this distinction. From it follows what every pool
looks like that started empty: no key is kept twice, and each checker has a number of its own, so
that it stands under one key only.
-/

namespace ServiceControl

namespace CheckerPool

/-- The pool once a checker was built and kept under a key. -/
def extended (p : CheckerPool) (key : CheckerKey) (c : Checker) : CheckerPool :=
  { p with
    kept := p.kept ++ [(key, ⟨p.attempts, c⟩)]
    attempts := p.attempts + 1
    history := p.history ++ [.built key.kind p.attempts]
    metrics := p.metrics.count (.checkerBuilds key.kind true) }

/-- The pool once a build has failed. -/
def disappointed (p : CheckerPool) (key : CheckerKey) : CheckerPool :=
  { p with
    attempts := p.attempts + 1
    history := p.history ++ [.failed key.kind]
    metrics := p.metrics.count (.checkerBuilds key.kind false) }

/-- The three ways in which a build ends. -/
theorem build_cases (p : CheckerPool) (key : CheckerKey) (b : CheckerBuilder) :
    (∃ i, p.kept? key = some i ∧ p.build key b = (some i, p)) ∨
    (∃ c, p.kept? key = none ∧ b.build p.attempts key.params = .ok c ∧
      p.build key b = (some ⟨p.attempts, c⟩, p.extended key c)) ∨
    (∃ e, p.kept? key = none ∧ b.build p.attempts key.params = .error e ∧
      p.build key b = (none, p.disappointed key)) := by
  cases hk : p.kept? key with
  | some i => exact Or.inl ⟨i, rfl, by simp only [build, hk]⟩
  | none =>
    cases hb : b.build p.attempts key.params with
    | ok c => exact Or.inr (Or.inl ⟨c, rfl, rfl, by simp only [build, hk, hb, extended]⟩)
    | error e => exact Or.inr (Or.inr ⟨e, rfl, rfl, by simp only [build, hk, hb, disappointed]⟩)

/-- With nothing in between, the second look finds what the first one did. -/
theorem obtain_eq_build (p : CheckerPool) (key : CheckerKey) (b : CheckerBuilder) :
    p.obtain key b = p.build key b := by
  cases hk : p.kept? key with
  | some i => simp only [obtain, build, hk]
  | none => simp only [obtain, hk]

/-- The first entry adds what its checker denies, and the others are asked after it. -/
theorem ask_cons (request : CheckRequest) (e : Entry) (rest : List Entry) (p : CheckerPool) :
    ask request (e :: rest) p =
      (((p.checkerFor e).1.map (·.checker.denials request)).getD [] ++
        (ask request rest (p.checkerFor e).2).1, (ask request rest (p.checkerFor e).2).2) := by
  rcases hc : p.checkerFor e with ⟨_ | i, q⟩ <;> simp only [ask, hc] <;> rfl

/-- A new checker is found under its key, and all others as before. -/
theorem kept?_extended {p : CheckerPool} {key : CheckerKey} (c : Checker) (hk : p.kept? key = none)
    (k : CheckerKey) :
    (p.extended key c).kept? k = if key = k then some ⟨p.attempts, c⟩ else p.kept? k := by
  simp only [kept?, extended, Table.find?_append, Table.find?]
  split
  · next h =>
    subst h
    rw [show Table.find? key p.kept = none from hk]
    rfl
  · exact Option.or_none

/-- A new checker does not replace one that is kept. -/
theorem kept?_extended_of_kept {p : CheckerPool} {key k : CheckerKey} {i : Instance} (c : Checker)
    (hnone : p.kept? key = none) (h : p.kept? k = some i) :
    (p.extended key c).kept? k = some i := by
  rw [kept?_extended c hnone, if_neg, h]
  rintro rfl
  cases hnone.symm.trans h

/-- No build changes the configuration in force. -/
@[simp] theorem services_build (p : CheckerPool) (key : CheckerKey) (b : CheckerBuilder) :
    (p.build key b).2.services = p.services := by
  rcases p.build_cases key b with ⟨i, -, h⟩ | ⟨c, -, -, h⟩ | ⟨e, -, -, h⟩ <;> rw [h] <;> rfl

@[simp] theorem services_checkerFor (p : CheckerPool) (e : Entry) :
    (p.checkerFor e).2.services = p.services := by
  unfold checkerFor
  split
  · rw [obtain_eq_build, services_build]
  · rfl

@[simp] theorem services_ask (request : CheckRequest) (entries : List Entry) (p : CheckerPool) :
    (ask request entries p).2.services = p.services := by
  induction entries generalizing p with
  | nil => rfl
  | cons e rest ih => rw [ask_cons, ih, services_checkerFor]

/-- A check leaves the configuration in force as it is. -/
@[simp] theorem services_check (p : CheckerPool) (request : CheckRequest) :
    (p.check request).2.services = p.services :=
  services_ask request _ p

/-- Every key is kept once, and every checker has a number of its own. -/
structure InOrder (p : CheckerPool) : Prop where
  /-- No key is kept twice. -/
  keys : (p.kept.map Prod.fst).Nodup
  /-- No number is given out twice. -/
  serials : (p.kept.map (·.2.serial)).Nodup
  /-- The number that the next build gets is still free, and so are all later ones. -/
  bound : ∀ e ∈ p.kept, e.2.serial < p.attempts

/-- A pool that keeps nothing is in order. -/
theorem InOrder.of_kept_nil {p : CheckerPool} (h : p.kept = []) : p.InOrder := by
  refine ⟨?_, ?_, ?_⟩ <;> simp [h]

/-- A new checker gets a free number, so the pool stays in order if its key was free as well. -/
theorem InOrder.extended {p : CheckerPool} (h : p.InOrder) {key : CheckerKey} (c : Checker)
    (hnone : p.kept? key = none) : (p.extended key c).InOrder := by
  refine ⟨?_, ?_, ?_⟩
  · have hnew : key ∉ p.kept.map Prod.fst := Table.find?_eq_none_iff.mp hnone
    simp only [CheckerPool.extended, List.map_append, List.map_cons, List.map_nil]
    refine List.nodup_append.mpr ⟨h.keys, List.nodup_singleton _, ?_⟩
    intro a ha x hx he
    rw [List.mem_singleton.mp hx] at he
    exact hnew (he ▸ ha)
  · simp only [CheckerPool.extended, List.map_append, List.map_cons, List.map_nil]
    refine List.nodup_append.mpr ⟨h.serials, List.nodup_singleton _, ?_⟩
    intro a ha x hx
    rw [List.mem_singleton.mp hx]
    obtain ⟨e, he, rfl⟩ := List.mem_map.mp ha
    exact Nat.ne_of_lt (h.bound e he)
  · intro e he
    rcases List.mem_append.mp he with he | he
    · exact Nat.lt_succ_of_lt (h.bound e he)
    · rw [List.mem_singleton.mp he]
      exact Nat.lt_succ_self _

/-- A number that no checker got is not given out again. -/
theorem InOrder.disappointed {p : CheckerPool} (h : p.InOrder) (key : CheckerKey) :
    (p.disappointed key).InOrder :=
  ⟨h.keys, h.serials, fun e he => Nat.lt_succ_of_lt (h.bound e he)⟩

/-- Checkers with one number stand under one key. -/
theorem InOrder.key_eq {p : CheckerPool} (h : p.InOrder) {k l : CheckerKey} {i j : Instance}
    (hk : p.kept? k = some i) (hl : p.kept? l = some j) (hs : i.serial = j.serial) : k = l :=
  congrArg Prod.fst (List.inj_on_of_nodup_map h.serials (Table.mem_of_find? hk)
    (Table.mem_of_find? hl) hs)

end CheckerPool

end ServiceControl
