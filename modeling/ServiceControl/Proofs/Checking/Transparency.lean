import ServiceControl.Proofs.Checking.Keeping
import ServiceControl.Proofs.Services.Bindings

/-!
# Keeping checkers cannot be told from building them

The reference answers a check by building the checker of every entry anew, from the entry alone. A
pool gives the same answers, whatever happened to it before, as long as what a builder makes depends
on the params only. The invariant is that each kept checker is what the registered builder of its
kind makes of the params in its key; it does not mention the configuration, so a change keeps it,
and giving up checkers makes it hold of fewer of them.
-/

namespace ServiceControl

/-- What a builder makes of params, and whether it makes anything, does not depend on earlier
builds. -/
def CheckerBuilder.IsSteady (b : CheckerBuilder) : Prop :=
  ∀ m n params,
    (b.build m params).toOption.map (·.check) = (b.build n params).toOption.map (·.check)

/-- All builders of checkers are steady. -/
def Registries.AreSteady (r : Registries) : Prop :=
  ∀ kind b, r.checkers.get? kind = some b → b.IsSteady

/-- The verdict of a checker that is built from an entry for one request, if it can be built. -/
def Entry.freshVerdict? (e : Entry) (request : CheckRequest) : Option Verdict := do
  let binding ← e.binding
  let params ← binding.params?
  let builder ← binding.builder.checker?
  let checker ← (builder.build 0 params).toOption
  return checker.check request

/-- The error that a verdict adds to an answer: the denial, or the text of what kept it from
deciding. -/
def CheckError.ofVerdict? : Verdict → Option CheckError
  | .ok none => none
  | .ok (some denial) => some denial
  | .error e => some ⟨.permissionDenied, e.message⟩

/-- The answer to a check when nothing is kept. -/
def Services.freshAnswer (s : Services) (request : CheckRequest) : CheckResponse where
  operation := request.operation.id
  errors := (s.resolve ⟨request.operation.consumer, request.service, .check⟩).filterMap fun e =>
    (e.freshVerdict? request).bind CheckError.ofVerdict?

/-- What is done to a pool. -/
inductive PoolOperation where
  | check (request : CheckRequest)
  | change (services : Services)
  | unloadAll

/-- The configuration in force after operations, by the operations alone. -/
def PoolOperation.inForce : Services → List PoolOperation → Services
  | start, [] => start
  | _, .change s :: rest => inForce s rest
  | start, .check _ :: rest => inForce start rest
  | start, .unloadAll :: rest => inForce start rest

namespace CheckerPool

/-- The pool after one operation. -/
def apply (p : CheckerPool) : PoolOperation → CheckerPool
  | .check request => (p.check request).2
  | .change s => p.change s
  | .unloadAll => p.unloadAll

/-- The pool after operations in order. -/
def applyAll (p : CheckerPool) (operations : List PoolOperation) : CheckerPool :=
  operations.foldl apply p

/-- Every kept checker is what the registered builder of its kind makes of the params in its key. -/
def Faithful (r : Registries) (p : CheckerPool) : Prop :=
  ∀ key i, p.kept? key = some i →
    ∃ b n, r.checkers.get? key.kind = some b ∧ b.build n key.params = .ok i.checker

/-- A pool that keeps nothing is faithful. -/
theorem Faithful.of_kept_nil {r : Registries} {p : CheckerPool} (h : p.kept = []) :
    Faithful r p := by
  intro key i hi
  rw [kept?, h] at hi
  cases hi

/-- Builds by the registered builder keep a pool faithful. -/
theorem Faithful.build {r : Registries} {p : CheckerPool} (h : Faithful r p) {key : CheckerKey}
    {b : CheckerBuilder} (hb : r.checkers.get? key.kind = some b) :
    Faithful r (p.build key b).2 := by
  rcases p.build_cases key b with ⟨i, -, he⟩ | ⟨c, hnone, hc, he⟩ | ⟨e, -, -, he⟩
  · rw [he]
    exact h
  · rw [he]
    intro k i hi
    rw [kept?_extended c hnone] at hi
    split at hi
    · next hk =>
      obtain rfl := Option.some.inj hi
      exact ⟨b, p.attempts, hk ▸ hb, hk ▸ hc⟩
    · exact h k i hi
  · rw [he]
    exact h

/-- What comes out of a build, kept or new, decides as a checker that is built anew. -/
theorem Faithful.build_fresh {r : Registries} {p : CheckerPool} (h : Faithful r p)
    {key : CheckerKey} {b : CheckerBuilder} (hb : r.checkers.get? key.kind = some b)
    (hsteady : b.IsSteady) :
    (p.build key b).1.map (·.checker.check) = (b.build 0 key.params).toOption.map (·.check) := by
  rcases p.build_cases key b with ⟨i, hi, he⟩ | ⟨c, -, hc, he⟩ | ⟨e, -, hc, he⟩
  · obtain ⟨b', n, hb', hn⟩ := h key i hi
    obtain rfl := Option.some.inj (hb'.symm.trans hb)
    rw [he, hsteady 0 n, hn]
    rfl
  · rw [he, hsteady 0 p.attempts, hc]
    rfl
  · rw [he, hsteady 0 p.attempts, hc]
    rfl

/-- The errors that a checker adds are those of its verdict. -/
theorem denials_eq (c : Checker) (request : CheckRequest) :
    c.denials request = (CheckError.ofVerdict? (c.check request)).toList := by
  unfold Checker.denials
  split <;> next h => rw [h]; rfl

/-- An active entry of checkers is kept under its kind, its id and its params. -/
theorem checkerKey?_eq_some {e : Entry} {key : CheckerKey} {b : CheckerBuilder}
    (h : e.checkerKey? = some (key, b)) :
    ∃ binding, e.binding = some binding ∧ binding.params? = some key.params ∧
      binding.builder.checker? = some b ∧ key.kind = e.kind ∧ key.id = e.id := by
  simp only [Entry.checkerKey?, bind, Option.bind_eq_some_iff, pure, Option.some.injEq,
    Prod.mk.injEq] at h
  obtain ⟨binding, hbinding, params, hparams, builder, hbuilder, rfl, rfl⟩ := h
  exact ⟨binding, hbinding, hparams, hbuilder, rfl, rfl⟩

/-- The builder of a bound entry of checkers is the registered one. -/
theorem registered_of_checkerKey? {r : Registries} {e : Entry} {key : CheckerKey}
    {b : CheckerBuilder} (hbound : e.BoundBy r .check) (h : e.checkerKey? = some (key, b)) :
    r.checkers.get? key.kind = some b := by
  obtain ⟨binding, hbinding, -, hbuilder, hkind, -⟩ := checkerKey?_eq_some h
  obtain ⟨builder, hget, he⟩ := Option.map_eq_some_iff.mp (hbound binding hbinding).1
  rw [← he] at hbuilder
  rw [hkind, hget, ← Option.some.inj hbuilder]

/-- The fresh verdict on an entry is that of a checker built for its key. -/
theorem freshVerdict?_eq (e : Entry) (request : CheckRequest) :
    e.freshVerdict? request = e.checkerKey?.bind fun kb =>
      ((kb.2.build 0 kb.1.params).toOption.map (·.check)).map fun check => check request := by
  simp only [Entry.freshVerdict?, Entry.checkerKey?, bind, pure, Option.bind_assoc,
    Option.bind_some, Option.map_map]
  simp only [Option.map_eq_bind]
  rfl

/-- An entry adds the error of its fresh verdict, and leaves the pool faithful. -/
theorem Faithful.checkerFor {r : Registries} (hr : r.AreSteady) {p : CheckerPool} (h : Faithful r p)
    {e : Entry} (hbound : e.BoundBy r .check) (request : CheckRequest) :
    ((p.checkerFor e).1.map (·.checker.denials request)).getD [] =
        ((e.freshVerdict? request).bind CheckError.ofVerdict?).toList ∧
      Faithful r (p.checkerFor e).2 ∧ (p.checkerFor e).2.services = p.services := by
  rw [freshVerdict?_eq]
  cases hkey : e.checkerKey? with
  | none =>
    have hnone : p.checkerFor e = (none, p) := by simp only [CheckerPool.checkerFor, hkey]
    rw [hnone]
    exact ⟨rfl, h, rfl⟩
  | some kb =>
    have hb := registered_of_checkerKey? hbound hkey
    simp only [CheckerPool.checkerFor, hkey, obtain_eq_build]
    refine ⟨?_, h.build hb, services_build p kb.1 kb.2⟩
    rw [Option.bind_some, ← h.build_fresh hb (hr _ _ hb)]
    cases (p.build kb.1 kb.2).1 with
    | none => rfl
    | some i => exact denials_eq i.checker request

/-- Asking entries one after another gives the errors of their fresh verdicts in order. -/
theorem Faithful.ask {r : Registries} (hr : r.AreSteady) (request : CheckRequest)
    {entries : List Entry} (hbound : ∀ e ∈ entries, e.BoundBy r .check) {p : CheckerPool}
    (h : Faithful r p) :
    (ask request entries p).1 =
        entries.filterMap (fun e => (e.freshVerdict? request).bind CheckError.ofVerdict?) ∧
      Faithful r (ask request entries p).2 ∧
      (ask request entries p).2.services = p.services := by
  induction entries generalizing p with
  | nil => exact ⟨rfl, h, rfl⟩
  | cons e rest ih =>
    obtain ⟨hfirst, hfaithful, hservices⟩ :=
      h.checkerFor hr (hbound e List.mem_cons_self) request
    obtain ⟨hmore, hdone, hsame⟩ := ih (fun x hx => hbound x (List.mem_cons_of_mem _ hx)) hfaithful
    rw [ask_cons]
    refine ⟨?_, hdone, hsame.trans hservices⟩
    rw [hfirst, hmore, List.filterMap_cons]
    cases (e.freshVerdict? request).bind CheckError.ofVerdict? <;> rfl

/-- A faithful pool answers a check as if nothing were kept. -/
theorem Faithful.check {r : Registries} (hr : r.AreSteady) {p : CheckerPool} (h : Faithful r p)
    (hs : p.services.Snapshot r) (request : CheckRequest) :
    (p.check request).1 = p.services.freshAnswer request ∧ Faithful r (p.check request).2 ∧
      (p.check request).2.services = p.services := by
  have hbound : ∀ e ∈ p.services.resolve (keyOf request), e.BoundBy r .check :=
    fun e he => (hs.boundBy.of_mem_resolve he).1
  obtain ⟨herrors, hfaithful, hservices⟩ := h.ask hr request hbound
  refine ⟨?_, hfaithful, hservices⟩
  simp only [CheckerPool.check, herrors]
  rfl

/-- What a pool is like after operations from its beginning. -/
structure Reached (r : Registries) (s : Services) (p : CheckerPool) : Prop where
  /-- The configuration in force is the expected one. -/
  services : p.services = s
  /-- It is a snapshot. -/
  snapshot : s.Snapshot r
  /-- Nothing that is kept can be told from what is built. -/
  faithful : Faithful r p

/-- Each operation leads from the configuration in force to the next one. -/
theorem Reached.apply {r : Registries} (hr : r.AreSteady) {s : Services} {p : CheckerPool}
    (h : Reached r s p) {o : PoolOperation} (ho : ∀ t, o = .change t → t.Snapshot r) :
    Reached r (PoolOperation.inForce s [o]) (p.apply o) := by
  obtain ⟨rfl, hs, hf⟩ := h
  cases o with
  | check request =>
    obtain ⟨-, hfaithful, hservices⟩ := hf.check hr hs request
    exact ⟨hservices, hs, hfaithful⟩
  | change t => exact ⟨rfl, ho t rfl, hf⟩
  | unloadAll => exact ⟨rfl, hs, Faithful.of_kept_nil rfl⟩

/-- The configuration in force after operations is found one operation at a time. -/
theorem inForce_cons (s : Services) (o : PoolOperation) (rest : List PoolOperation) :
    PoolOperation.inForce s (o :: rest) =
      PoolOperation.inForce (PoolOperation.inForce s [o]) rest := by
  cases o <;> rfl

/-- Whatever was done to a pool, it has the configuration that was put in force last, and is
faithful. -/
theorem Reached.applyAll {r : Registries} (hr : r.AreSteady) {operations : List PoolOperation}
    (ho : ∀ t, .change t ∈ operations → t.Snapshot r) {s : Services} {p : CheckerPool}
    (h : Reached r s p) :
    Reached r (PoolOperation.inForce s operations) (p.applyAll operations) := by
  induction operations generalizing s p with
  | nil => exact h
  | cons o rest ih =>
    rw [inForce_cons]
    refine ih (fun t ht => ho t (List.mem_cons_of_mem _ ht)) (h.apply hr fun t ht => ho t ?_)
    exact ht ▸ List.mem_cons_self

/-- A pool that starts empty answers every check as if nothing were kept, after all operations on
snapshots. So two histories that end with the same configuration cannot be told apart. -/
theorem check_applyAll (r : Registries) (hr : r.AreSteady) (start : Services)
    (hstart : start.Snapshot r) (history : List PoolOperation)
    (hhistory : ∀ s, .change s ∈ history → s.Snapshot r) :
    (∀ request, ((({ services := start } : CheckerPool).applyAll history).check request).1 =
      (PoolOperation.inForce start history).freshAnswer request) ∧
    ∀ start' history', start'.Snapshot r → (∀ s, .change s ∈ history' → s.Snapshot r) →
      PoolOperation.inForce start' history' = PoolOperation.inForce start history →
      ∀ request, ((({ services := start' } : CheckerPool).applyAll history').check request).1 =
        ((({ services := start } : CheckerPool).applyAll history).check request).1 := by
  have hanswer : ∀ begin, begin.Snapshot r → ∀ operations,
      (∀ s, PoolOperation.change s ∈ operations → s.Snapshot r) → ∀ request,
      ((({ services := begin } : CheckerPool).applyAll operations).check request).1 =
        (PoolOperation.inForce begin operations).freshAnswer request := by
    intro begin hbegin operations ho request
    have hreached : Reached r begin { services := begin } :=
      ⟨rfl, hbegin, Faithful.of_kept_nil rfl⟩
    obtain ⟨hservices, hsnapshot, hfaithful⟩ := hreached.applyAll hr ho
    rw [← hservices] at hsnapshot ⊢
    exact (hfaithful.check hr hsnapshot request).1
  refine ⟨hanswer start hstart history hhistory, ?_⟩
  intro start' history' hstart' hhistory' hsame request
  rw [hanswer start' hstart' history' hhistory', hanswer start hstart history hhistory, hsame]

/-- A builder whose checkers give one verdict, or that builds none. -/
def plainBuilder (token : Nat) (result : Except AdapterError Verdict) : CheckerBuilder where
  token := token
  schema := []
  build _ _ := result.map fun verdict => { name := "plain", check := fun _ => verdict }

/-- Checkers that deny, checkers that cannot tell, and checkers that cannot be built. -/
def plainRegistries : Registries where
  checkers := {
    space := "checker"
    builders := .ofList [
      ("closed", plainBuilder 0 (.ok (.ok (some ⟨.clientAppBlocked, "closed"⟩)))),
      ("mute", plainBuilder 1 (.ok (.error (.check "no answer")))),
      ("lost", plainBuilder 2 (.error (.build "unreachable")))] }

/-- Services whose calls meet one checker twice, one that fails and one that is not there. -/
def plainServices : Services := .ofList
  [("books", { ingress := {
      checkers := [{ kind := "mute" }, { kind := "lost" }, { kind := "closed" }] } }),
    (everyService, { egress := { checkers := [{ kind := "closed" }] } })]

theorem areSteady_plainRegistries : plainRegistries.AreSteady := by
  intro kind b hb m n params
  have hmem : (kind, b) ∈ plainRegistries.checkers.builders.entries :=
    SortedMap.mem_entries_of_find? hb
  rcases SortedMap.mem_entries_insertAll hmem with hmem | hmem
  · cases hmem
  · simp only [List.mem_cons, Prod.mk.injEq, List.not_mem_nil, or_false] at hmem
    rcases hmem with ⟨-, rfl⟩ | ⟨-, rfl⟩ | ⟨-, rfl⟩ <;> rfl

/-- The same errors come up before all checkers are given up and after. -/
theorem check_applyAll_plain :
    plainRegistries.AreSteady ∧ Services.Snapshot plainRegistries .empty ∧
    (plainServices.convert plainRegistries).value.Snapshot plainRegistries ∧
    ((({} : CheckerPool).applyAll
      [.check { service := "books" }, .change (plainServices.convert plainRegistries).value,
        .check { service := "books" }, .unloadAll, .check { service := "books" }]).check
          { service := "books", operation := { id := "op-1" } }).1 =
      ⟨"op-1", [⟨.clientAppBlocked, "closed"⟩, ⟨.permissionDenied, "no answer"⟩,
        ⟨.clientAppBlocked, "closed"⟩]⟩ := by
  have hempty : Services.Snapshot plainRegistries .empty := .raw (by decide)
  have hconverted : (plainServices.convert plainRegistries).value.Snapshot plainRegistries :=
    .converted (.raw (by decide))
  refine ⟨areSteady_plainRegistries, hempty, hconverted, ?_⟩
  rw [(check_applyAll plainRegistries areSteady_plainRegistries .empty hempty _ ?_).1]
  · decide +kernel
  · intro s hs
    simp only [List.mem_cons, PoolOperation.change.injEq, reduceCtorEq, List.not_mem_nil, or_false,
      false_or] at hs
    exact hs ▸ hconverted

end CheckerPool

end ServiceControl
