import ServiceControl.Proofs.Checking.Unloading
import ServiceControl.Proofs.Checking.Vetting

/-!
# Every checker is accounted for

A checker that was built is kept until all checkers are given up, and is given up then and not
again. What is kept follows from the turns of entries since checkers were last given up: each turn
either shares what an earlier one made under its key, or calls the builder, and keeps what the call
makes. So a key for which a builder failed is met by a call again at the next entry that has it, be
it in the same check.
-/

namespace ServiceControl

namespace BuildCall

/-- What the checker of a call is kept under. -/
def key (c : BuildCall) : CheckerKey := ⟨c.entry.kind, c.entry.id, c.params⟩

/-- The checker that a call makes, with its key and its number. -/
def made? (c : BuildCall) : Option (CheckerKey × Instance) :=
  c.result.toOption.map fun checker => (c.key, ⟨c.attempt, checker⟩)

end BuildCall

namespace Turn

/-- The checker that is made in a turn. -/
def made? (turn : Turn) : Option (CheckerKey × Instance) := turn.call?.bind BuildCall.made?

/-- The turn of an entry after others, told by the checkers that these have made: one that was made
under the key of the entry is shared, and without one the builder is called. -/
def Follows (made : Table CheckerKey Instance) (e : Entry) (turn : Turn) : Prop :=
  match e.checkerKey? with
  | none => turn = skipped
  | some (key, b) =>
    match Table.find? key made with
    | some i => turn = shared i
    | none => ∃ attempt, turn = called ⟨e, b, attempt, key.params⟩

end Turn

namespace CheckerPool

/-- The turns since checkers were last given up, once an operation was made after others. -/
def turnsAfter (p : CheckerPool) (before : List (Entry × Turn)) :
    PoolOperation → List (Entry × Turn)
  | .check request => before ++ p.turns request
  | .change _ => before
  | .unloadAll => []

/-- The turns since checkers were last given up, once operations were made one after another. -/
def turnsSince : CheckerPool → List (Entry × Turn) → List PoolOperation → List (Entry × Turn)
  | _, turns, [] => turns
  | p, turns, o :: rest => turnsSince (p.apply o) (p.turnsAfter turns o) rest

/-- What was built is kept or was given up, and no number stands for two checkers. -/
structure Balanced (p : CheckerPool) : Prop where
  inOrder : p.InOrder
  /-- Each checker that was built is among those that are kept or were given up. -/
  balance : p.builtCheckers.Perm (p.keptCheckers ++ p.unloadedCheckers)
  /-- No number was given out twice, be it that its checker was given up. -/
  serials : (p.builtCheckers.map Prod.snd).Nodup
  /-- The number that the next build gets was not given out, nor was any later one. -/
  bound : ∀ x ∈ p.builtCheckers, x.2 < p.attempts

/-- The kept checkers are those that were made in turns, and each turn follows from those before. -/
structure Follows (p : CheckerPool) (turns : List (Entry × Turn)) : Prop where
  kept : p.kept = turns.filterMap (·.2.made?)
  inTurn : ∀ before e turn after, turns = before ++ (e, turn) :: after →
    turn.Follows (before.filterMap (·.2.made?)) e

variable {p : CheckerPool} {turns : List (Entry × Turn)}

/-- A pool starts without checkers. -/
theorem Balanced.of_start (s : Services) : Balanced { services := s } :=
  ⟨.of_kept_nil rfl, .refl _, List.nodup_nil, nofun⟩

/-- A new checker is kept, with a number that no checker had. -/
theorem Balanced.extended (h : p.Balanced) {key : CheckerKey} (c : Checker)
    (hnone : p.kept? key = none) : (p.extended key c).Balanced := by
  have hbuilt : (p.extended key c).builtCheckers = p.builtCheckers ++ [(key.kind, p.attempts)] := by
    simp [builtCheckers, CheckerPool.extended, PoolEvent.built?]
  have hunloaded : (p.extended key c).unloadedCheckers = p.unloadedCheckers := by
    simp [unloadedCheckers, CheckerPool.extended, PoolEvent.unloaded?]
  have hkept : (p.extended key c).keptCheckers = p.keptCheckers ++ [(key.kind, p.attempts)] := by
    simp [keptCheckers, CheckerPool.extended]
  refine ⟨h.inOrder.extended c hnone, ?_, ?_, ?_⟩
  · rw [hbuilt, hunloaded, hkept, List.append_assoc]
    refine (h.balance.append_right _).trans ?_
    rw [List.append_assoc]
    exact List.perm_append_comm.append_left _
  · rw [hbuilt, List.map_append]
    refine h.serials.append (List.nodup_singleton p.attempts) (List.disjoint_singleton.mpr ?_)
    intro hmem
    obtain ⟨x, hx, he⟩ := List.mem_map.mp hmem
    exact Nat.ne_of_lt (h.bound x hx) he
  · intro x hx
    rw [hbuilt] at hx
    rcases List.mem_append.mp hx with hx | hx
    · exact Nat.lt_succ_of_lt (h.bound x hx)
    · rw [List.mem_singleton.mp hx]
      exact Nat.lt_succ_self p.attempts

/-- A failure leaves the kept checkers as they are, and uses up a number. -/
theorem Balanced.disappointed (h : p.Balanced) (key : CheckerKey) :
    (p.disappointed key).Balanced := by
  have hbuilt : (p.disappointed key).builtCheckers = p.builtCheckers := by
    simp [builtCheckers, CheckerPool.disappointed, PoolEvent.built?]
  have hunloaded : (p.disappointed key).unloadedCheckers = p.unloadedCheckers := by
    simp [unloadedCheckers, CheckerPool.disappointed, PoolEvent.unloaded?]
  refine ⟨h.inOrder.disappointed key, ?_, hbuilt ▸ h.serials, ?_⟩
  · rw [hbuilt, hunloaded]
    exact h.balance
  · intro x hx
    exact Nat.lt_succ_of_lt (h.bound x (hbuilt ▸ hx))

theorem Balanced.checkerFor (h : p.Balanced) (e : Entry) : (p.checkerFor e).2.Balanced := by
  unfold CheckerPool.checkerFor
  split
  · next key b _ =>
    rw [obtain_eq_build]
    rcases p.build_cases key b with ⟨i, -, he⟩ | ⟨c, hnone, -, he⟩ | ⟨error, -, -, he⟩
    · rw [he]
      exact h
    · rw [he]
      exact h.extended c hnone
    · rw [he]
      exact h.disappointed key
  · exact h

theorem Balanced.ask (h : p.Balanced) (request : CheckRequest) (entries : List Entry) :
    (ask request entries p).2.Balanced := by
  induction entries generalizing p with
  | nil => exact h
  | cons e rest ih =>
    rw [ask_cons]
    exact ih (h.checkerFor e)

/-- Operations keep the balance. -/
theorem Balanced.apply (h : p.Balanced) (o : PoolOperation) : (p.apply o).Balanced := by
  cases o with
  | check request =>
    obtain ⟨hinOrder, hbalance, hserials, hbound⟩ :=
      h.ask request (p.services.resolve (keyOf request))
    exact ⟨⟨hinOrder.keys, hinOrder.serials, hinOrder.bound⟩, hbalance, hserials, hbound⟩
  | change s => exact ⟨⟨h.inOrder.keys, h.inOrder.serials, h.inOrder.bound⟩, h.balance, h.serials,
      h.bound⟩
  | unloadAll =>
    have hbuilt := builtCheckers_unloadAll p
    refine ⟨.of_kept_nil rfl, ?_, ?_, ?_⟩
    · rw [CheckerPool.apply, hbuilt, unloadedCheckers_unloadAll]
      exact h.balance.trans List.perm_append_comm
    · rw [CheckerPool.apply, hbuilt]
      exact h.serials
    · intro x hx
      exact h.bound x (hbuilt ▸ hx)

/-- What is kept after the turn of an entry is what was kept before and what was made in it. -/
theorem kept_checkerFor (p : CheckerPool) (e : Entry) :
    (p.checkerFor e).2.kept = p.kept ++ (p.turnOf e).made?.toList := by
  cases hkey : e.checkerKey? with
  | none => simp [checkerFor, turnOf, hkey, Turn.made?, Turn.call?]
  | some kb =>
    obtain ⟨key, b⟩ := kb
    obtain ⟨_, -, -, -, hkind, hid⟩ := checkerKey?_eq_some hkey
    simp only [checkerFor, hkey, obtain_eq_build]
    rcases p.build_cases key b with ⟨i, hi, he⟩ | ⟨c, hnone, hc, he⟩ | ⟨error, hnone, hc, he⟩
    · simp [he, turnOf, hkey, hi, Turn.made?, Turn.call?]
    · simp [he, turnOf, hkey, hnone, Turn.made?, Turn.call?, BuildCall.made?, BuildCall.result, hc,
        BuildCall.key, ← hkind, ← hid, extended, Except.toOption]
    · simp [he, turnOf, hkey, hnone, Turn.made?, Turn.call?, BuildCall.made?, BuildCall.result, hc,
        disappointed, Except.toOption]

/-- No turn gives up a checker. -/
theorem unloadedCheckers_checkerFor (p : CheckerPool) (e : Entry) :
    (p.checkerFor e).2.unloadedCheckers = p.unloadedCheckers := by
  unfold checkerFor
  split
  · next key b _ =>
    rw [obtain_eq_build]
    rcases p.build_cases key b with ⟨i, -, he⟩ | ⟨c, -, -, he⟩ | ⟨error, -, -, he⟩ <;>
      simp [he, unloadedCheckers, extended, disappointed, PoolEvent.unloaded?]
  · rfl

/-- The turns of a check add what is made in them, and give up nothing. -/
theorem kept_ask (request : CheckRequest) (entries : List Entry) (p : CheckerPool) :
    (ask request entries p).2.kept =
        p.kept ++ (turnsOf entries p).filterMap (·.2.made?) ∧
      (ask request entries p).2.unloadedCheckers = p.unloadedCheckers := by
  induction entries generalizing p with
  | nil => exact ⟨(List.append_nil _).symm, rfl⟩
  | cons e rest ih =>
    obtain ⟨hkept, hunloaded⟩ := ih (p.checkerFor e).2
    rw [ask_cons, turnsOf]
    refine ⟨?_, hunloaded.trans (unloadedCheckers_checkerFor p e)⟩
    rw [hkept, kept_checkerFor, List.append_assoc, List.filterMap_cons]
    cases (p.turnOf e).made? <;> rfl

/-- The turn of an entry follows from what is kept. -/
theorem follows_turnOf (p : CheckerPool) (e : Entry) : (p.turnOf e).Follows p.kept e := by
  unfold Turn.Follows
  split
  · next hkey => rw [turnOf, hkey]
  · next key b hkey =>
    split
    · next i hkept => simp only [turnOf, hkey, kept?, hkept]
    · next hkept => exact ⟨p.attempts, by simp only [turnOf, hkey, kept?, hkept]⟩

/-- Before any turn nothing is kept. -/
theorem Follows.of_start (s : Services) : Follows { services := s } [] := by
  refine ⟨rfl, ?_⟩
  intro before e turn after hsplit
  exact absurd hsplit.symm (List.append_ne_nil_of_right_ne_nil before (List.cons_ne_nil _ after))

/-- The next entry has its turn after those before. -/
theorem Follows.checkerFor (h : p.Follows turns) (e : Entry) :
    (p.checkerFor e).2.Follows (turns ++ [(e, p.turnOf e)]) := by
  refine ⟨?_, ?_⟩
  · rw [kept_checkerFor, h.kept, List.filterMap_append, List.filterMap_cons]
    cases (p.turnOf e).made? <;> rfl
  · intro before e' turn after hsplit
    rcases List.eq_nil_or_concat after with rfl | ⟨after, last, rfl⟩
    · obtain ⟨rfl, hlast⟩ := List.append_inj' hsplit rfl
      obtain ⟨rfl, rfl⟩ := Prod.mk.inj (List.cons.inj hlast).1
      exact h.kept ▸ follows_turnOf p e
    · rw [List.concat_eq_append, ← List.cons_append, ← List.append_assoc] at hsplit
      exact h.inTurn before e' turn after (List.append_inj' hsplit rfl).1

theorem Follows.ask (h : p.Follows turns) (request : CheckRequest) (entries : List Entry) :
    (ask request entries p).2.Follows (turns ++ turnsOf entries p) := by
  induction entries generalizing p turns with
  | nil => exact (List.append_nil turns).symm ▸ h
  | cons e rest ih =>
    rw [ask_cons, turnsOf, List.append_cons]
    exact ih (h.checkerFor e)

/-- Operations add the turns of their checks, or start anew. -/
theorem Follows.apply (h : p.Follows turns) (o : PoolOperation) :
    (p.apply o).Follows (p.turnsAfter turns o) := by
  cases o with
  | check request =>
    obtain ⟨hkept, hinTurn⟩ := h.ask request (p.services.resolve (keyOf request))
    exact ⟨hkept, hinTurn⟩
  | change s => exact ⟨h.kept, h.inTurn⟩
  | unloadAll => exact ⟨rfl, (Follows.of_start .empty).inTurn⟩

/-- The balance holds after all operations, and the kept checkers are those that were made since
checkers were last given up. -/
theorem balanced_applyAll (hbalanced : p.Balanced) (hfollows : p.Follows turns)
    (history : List PoolOperation) :
    (p.applyAll history).Balanced ∧ (p.applyAll history).Follows (p.turnsSince turns history) := by
  induction history generalizing p turns with
  | nil => exact ⟨hbalanced, hfollows⟩
  | cons o rest ih => exact ih (hbalanced.apply o) (hfollows.apply o)

/-- The checkers that were built are those that were made in calls. -/
theorem builtCheckers_eq_of_builds {calls : List BuildCall}
    (h : p.builds = calls.map BuildCall.event) :
    p.builtCheckers = (calls.filterMap BuildCall.made?).map fun x => (x.1.kind, x.2.serial) := by
  have hbuilt : p.builtCheckers = p.builds.filterMap PoolEvent.built? := by
    rw [builtCheckers, builds, List.filterMap_filter]
    congr 1
    funext event
    cases event <;> rfl
  rw [hbuilt, h, List.filterMap_map, List.map_filterMap]
  congr 1
  funext c
  cases hresult : c.result <;>
    simp [BuildCall.event, BuildCall.made?, hresult, PoolEvent.built?, BuildCall.key,
      Except.toOption]

/-- Whatever checks, changes and unloads were made of a pool that started empty, and however
its builders fail: the checkers that were made are those that are kept and those that were
given up, each of them once. The kept ones are those made since checkers were last given up,
one for each key, and a turn calls the builder of its entry exactly if no turn before has made
a checker under the key. A check adds to the kept checkers what its turns make, a change leaves
everything but the configuration as it is, and only an unload gives up checkers, and it gives
up those that are kept. -/
theorem checkers_accounted (start : Services) (history : List PoolOperation) :
    let fresh : CheckerPool := { services := start }
    let p := fresh.applyAll history
    let turns := fresh.turnsSince [] history
    -- The calls of builders, and what became of the checkers that they have made.
    (p.builds = (fresh.callsInAll history).map BuildCall.event ∧
      ((fresh.callsInAll history).filterMap BuildCall.made?).length =
        p.kept.length + p.unloadedCheckers.length ∧
      p.builtCheckers.Perm (p.keptCheckers ++ p.unloadedCheckers) ∧
      ((p.keptCheckers ++ p.unloadedCheckers).map Prod.snd).Nodup) ∧
    -- What is kept.
    (p.kept = turns.filterMap (·.2.made?) ∧ (p.kept.map Prod.fst).Nodup ∧
      ∀ before e turn after, turns = before ++ (e, turn) :: after →
        turn.Follows (before.filterMap (·.2.made?)) e) ∧
    -- What the next operation does.
    (∀ request, (p.turns request).map Prod.fst = p.services.resolve (keyOf request) ∧
      (p.apply (.check request)).kept = p.kept ++ (p.turns request).filterMap (·.2.made?) ∧
      (p.apply (.check request)).unloadedCheckers = p.unloadedCheckers) ∧
    (∀ s, p.apply (.change s) = { p with services := s }) ∧
    ((p.apply .unloadAll).kept = [] ∧ (p.apply .unloadAll).builtCheckers = p.builtCheckers ∧
      (p.apply .unloadAll).unloadedCheckers = p.unloadedCheckers ++ p.keptCheckers) := by
  intro fresh p turns
  obtain ⟨hbalanced, hfollows⟩ :=
    balanced_applyAll (Balanced.of_start start) (Follows.of_start start) history
  have hbuilds : p.builds = (fresh.callsInAll history).map BuildCall.event :=
    builds_applyAll fresh history
  have hlength : ((fresh.callsInAll history).filterMap BuildCall.made?).length =
      p.kept.length + p.unloadedCheckers.length := by
    have hbuilt := congrArg List.length (builtCheckers_eq_of_builds hbuilds)
    rw [List.length_map] at hbuilt
    rw [← hbuilt, hbalanced.balance.length_eq, List.length_append, keptCheckers, List.length_map]
  have hserials : ((p.keptCheckers ++ p.unloadedCheckers).map Prod.snd).Nodup :=
    (hbalanced.balance.map Prod.snd).nodup_iff.mp hbalanced.serials
  refine ⟨⟨hbuilds, hlength, hbalanced.balance, hserials⟩,
    ⟨hfollows.kept, hbalanced.inOrder.keys, hfollows.inTurn⟩, ?_, fun s => rfl,
    rfl, builtCheckers_unloadAll p, unloadedCheckers_unloadAll p⟩
  intro request
  obtain ⟨hkept, hunloaded⟩ := kept_ask request (p.services.resolve (keyOf request)) p
  exact ⟨map_fst_turnsOf _ p, hkept, hunloaded⟩

/-- A builder that fails once is called again for the next entry of the same check, whose checker is
shared until it is given up. -/
example :
    let slow : CheckerBuilder := {
      token := 0
      schema := []
      build attempt _ :=
        if attempt = 0 then .error (.build "unreachable")
        else .ok { name := "slow", check := fun _ => .ok none } }
    let registries : Registries := {
      checkers := { space := "checker", builders := .ofList [("slow", slow)] } }
    let services : Services := .ofList
      [("books", { ingress := { checkers := [{ kind := "slow" }] } }),
        (everyService, { egress := { checkers := [{ kind := "slow" }] } })]
    let request : CheckRequest := { service := "books" }
    (({ services := (services.convert registries).value } : CheckerPool).applyAll
      [.check request, .check request, .unloadAll, .check request]).history =
      [.failed "slow", .built "slow" 1, .unloaded "slow" 1, .built "slow" 2] := by
  decide +kernel

end CheckerPool

end ServiceControl
