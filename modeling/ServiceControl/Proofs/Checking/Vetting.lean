import ServiceControl.Proofs.Checking.Transparency
import ServiceControl.Proofs.Services.Reading

/-!
# Builders see vetted params only

A document is read, converted and put in force before any builder is called for it. Reading leaves
every entry unbound, conversion binds an entry to the registered builder of its kind and keeps the
params that this builder has vetted, and resolution passes on none but the entries whose params were
accepted. So the ways in which an entry could go without a checker are closed before a check starts,
except that its builder fails.
-/

namespace ServiceControl

/-- A call of a builder for an entry. -/
structure BuildCall where
  entry : Entry
  builder : CheckerBuilder
  /-- The number of builds attempted before. -/
  attempt : Nat
  params : Params

namespace BuildCall

/-- What comes of a call. -/
def result (c : BuildCall) : Except AdapterError Checker := c.builder.build c.attempt c.params

/-- What a pool records of a call. -/
def event (c : BuildCall) : PoolEvent :=
  match c.result with
  | .ok _ => .built c.entry.kind c.attempt
  | .error _ => .failed c.entry.kind

/-- A call of the builder that is registered for the kind of the entry, with params that come from
those of the entry by the builder's schema, and that the builder has accepted. -/
structure IsVetted (r : Registries) (c : BuildCall) : Prop where
  registered : r.checkers.get? c.entry.kind = some c.builder
  decoded : decode c.builder.schema c.entry.params = .ok c.params
  accepted : c.builder.validate c.params = .ok ()

end BuildCall

/-- How an entry gets a checker in a check, if it gets one. -/
inductive Turn where
  /-- Nothing was vetted for the entry, or no builder of checkers. -/
  | skipped
  | shared (i : Instance)
  | called (c : BuildCall)

namespace Turn

/-- The call that is made in a turn. -/
def call? : Turn → Option BuildCall
  | called c => some c
  | skipped | shared _ => none

/-- The checker that comes out of a turn. -/
def checker? : Turn → Option Checker
  | skipped => none
  | shared i => some i.checker
  | called c => c.result.toOption

/-- The verdict that a turn contributes. -/
def verdict? (request : CheckRequest) (turn : Turn) : Option Verdict :=
  turn.checker?.map (·.check request)

end Turn

/-- Whether an event comes from a call of a builder. -/
def PoolEvent.isBuild : PoolEvent → Bool
  | built _ _ | failed _ => true
  | unloaded _ _ => false

/-- An entry has typed params and a builder of checkers. -/
def Entry.IsReady (e : Entry) : Prop :=
  ∃ binding params builder, e.binding = some binding ∧ binding.params? = some params ∧
    binding.builder.checker? = some builder

namespace CheckerPool

/-- The turn of an entry. -/
def turnOf (p : CheckerPool) (e : Entry) : Turn :=
  match e.checkerKey? with
  | none => .skipped
  | some (key, b) =>
    match p.kept? key with
    | some i => .shared i
    | none => .called ⟨e, b, p.attempts, key.params⟩

/-- The turns of entries one after another. -/
def turnsOf : List Entry → CheckerPool → List (Entry × Turn)
  | [], _ => []
  | e :: rest, p => (e, p.turnOf e) :: turnsOf rest (p.checkerFor e).2

/-- The turns of a check. -/
def turns (p : CheckerPool) (request : CheckRequest) : List (Entry × Turn) :=
  turnsOf (p.services.resolve (keyOf request)) p

/-- The calls of builders in an operation. -/
def callsIn (p : CheckerPool) : PoolOperation → List BuildCall
  | .check request => (p.turns request).filterMap (·.2.call?)
  | .change _ | .unloadAll => []

/-- The calls of builders in operations one after another. -/
def callsInAll : CheckerPool → List PoolOperation → List BuildCall
  | _, [] => []
  | p, o :: rest => p.callsIn o ++ callsInAll (p.apply o) rest

/-- What the history of a pool tells about calls of builders. -/
def builds (p : CheckerPool) : List PoolEvent := p.history.filter PoolEvent.isBuild

variable {r : Registries} {p : CheckerPool} {e : Entry}

/-- An entry gets the checker of its turn, and the pool records the call of the turn. -/
theorem checkerFor_turnOf (p : CheckerPool) (e : Entry) :
    (p.checkerFor e).1.map (·.checker) = (p.turnOf e).checker? ∧
      (p.checkerFor e).2.builds = p.builds ++ (p.turnOf e).call?.toList.map BuildCall.event := by
  cases hkey : e.checkerKey? with
  | none => simp [checkerFor, turnOf, hkey, Turn.checker?, Turn.call?]
  | some kb =>
    obtain ⟨key, b⟩ := kb
    have hkind : key.kind = e.kind := by
      obtain ⟨_, -, -, -, hkind, -⟩ := checkerKey?_eq_some hkey
      exact hkind
    have hturn : p.checkerFor e = p.build key b := by
      simp only [checkerFor, hkey, obtain_eq_build]
    rw [hturn]
    rcases p.build_cases key b with ⟨i, hi, he⟩ | ⟨c, hnone, hc, he⟩ | ⟨error, hnone, hc, he⟩
    · simp [he, turnOf, hkey, hi, Turn.checker?, Turn.call?]
    · simp [he, turnOf, hkey, hnone, Turn.checker?, Turn.call?, BuildCall.event, BuildCall.result,
        hc, builds, extended, PoolEvent.isBuild, hkind, Except.toOption]
    · simp [he, turnOf, hkey, hnone, Turn.checker?, Turn.call?, BuildCall.event, BuildCall.result,
        hc, builds, disappointed, PoolEvent.isBuild, hkind, Except.toOption]

/-- Entries are asked in their turns: each adds the error of its verdict, and the pool records the
calls. -/
theorem ask_turnsOf (request : CheckRequest) (entries : List Entry) (p : CheckerPool) :
    (ask request entries p).1 = (turnsOf entries p).filterMap (fun x =>
        (x.2.verdict? request).bind CheckError.ofVerdict?) ∧
      (ask request entries p).2.builds =
        p.builds ++ ((turnsOf entries p).filterMap (·.2.call?)).map BuildCall.event := by
  induction entries generalizing p with
  | nil => exact ⟨rfl, (List.append_nil _).symm⟩
  | cons e rest ih =>
    obtain ⟨hchecker, hbuilds⟩ := checkerFor_turnOf p e
    obtain ⟨herrors, hmore⟩ := ih (p.checkerFor e).2
    have hdenials : ((p.checkerFor e).1.map (·.checker.denials request)).getD [] =
        (((p.turnOf e).verdict? request).bind CheckError.ofVerdict?).toList := by
      rw [Turn.verdict?, ← hchecker]
      cases (p.checkerFor e).1 with
      | none => rfl
      | some i => exact denials_eq i.checker request
    rw [ask_cons]
    simp only [turnsOf, List.filterMap_cons]
    constructor
    · rw [hdenials, herrors]
      cases ((p.turnOf e).verdict? request).bind CheckError.ofVerdict? <;> rfl
    · rw [hmore, hbuilds, List.append_assoc, ← List.map_append]
      cases (p.turnOf e).call? <;> rfl

/-- Each entry has one turn, in order. -/
theorem map_fst_turnsOf (entries : List Entry) (p : CheckerPool) :
    (turnsOf entries p).map Prod.fst = entries := by
  induction entries generalizing p with
  | nil => rfl
  | cons e rest ih => simp only [turnsOf, List.map_cons, ih]

/-- Every turn is that of its entry, at some time. -/
theorem exists_of_mem_turnsOf {entries : List Entry} {turn : Turn}
    (h : (e, turn) ∈ turnsOf entries p) : e ∈ entries ∧ ∃ q : CheckerPool, turn = q.turnOf e := by
  induction entries generalizing p with
  | nil => cases h
  | cons first rest ih =>
    rcases List.mem_cons.mp h with hfirst | h
    · obtain ⟨rfl, rfl⟩ := Prod.mk.inj hfirst
      exact ⟨List.mem_cons_self, p, rfl⟩
    · obtain ⟨hmem, hturn⟩ := ih h
      exact ⟨List.mem_cons_of_mem _ hmem, hturn⟩

/-- The turn of an entry with a key is a kept checker or a call with the params of the key. -/
theorem turnOf_cases {key : CheckerKey} {b : CheckerBuilder} (h : e.checkerKey? = some (key, b))
    (p : CheckerPool) :
    (∃ i, p.turnOf e = .shared i) ∨ p.turnOf e = .called ⟨e, b, p.attempts, key.params⟩ := by
  cases hkept : p.kept? key with
  | some i => exact Or.inl ⟨i, by simp only [turnOf, h, hkept]⟩
  | none => exact Or.inr (by simp only [turnOf, h, hkept])

/-- Params that a builder gives to an entry come from the entry, and the builder
has accepted them. -/
theorem vetted_of_resolve {b : Builder} {params : Params} (h : e.resolve b = .ok params) :
    decode b.schema e.params = .ok params ∧ b.validate params = .ok () := by
  unfold Entry.resolve at h
  cases hdecode : decode b.schema e.params with
  | error f =>
    rw [hdecode] at h
    cases h
  | ok decoded =>
    cases hvalidate : b.validate decoded with
    | error f =>
      simp only [hdecode, hvalidate, reduceCtorEq] at h
    | ok _ =>
      simp only [hdecode, hvalidate, Except.ok.injEq] at h
      exact ⟨congrArg _ h, h ▸ hvalidate⟩

/-- An active entry of checkers that is bound by registries has vetted params under its key. -/
theorem exists_checkerKey? (hbound : e.BoundBy r .check) (hactive : e.isActive = true) :
    ∃ b params, e.checkerKey? = some (⟨e.kind, e.id, params⟩, b) ∧
      ∀ attempt, BuildCall.IsVetted r ⟨e, b, attempt, params⟩ := by
  obtain ⟨binding, hbinding⟩ : ∃ binding, e.binding = some binding := by
    cases hb : e.binding with
    | none => simp [Entry.isActive, hb] at hactive
    | some binding => exact ⟨binding, rfl⟩
  obtain ⟨params, hparams⟩ : ∃ params, binding.result = .ok params := by
    cases hresult : binding.result with
    | error f => simp [Entry.isActive, hbinding, Binding.params?, hresult] at hactive
    | ok params => exact ⟨params, rfl⟩
  obtain ⟨hbuilder, hresult⟩ := hbound binding hbinding
  obtain ⟨b, hget, hb⟩ := Option.map_eq_some_iff.mp hbuilder
  have hresolve : e.resolve (.checker b) = .ok params := by rw [hb, ← hresult, hparams]
  obtain ⟨hdecoded, haccepted⟩ := vetted_of_resolve hresolve
  refine ⟨b, params, ?_, fun attempt => ⟨hget, hdecoded, haccepted⟩⟩
  simp [Entry.checkerKey?, hbinding, Binding.params?, hparams, ← hb, Builder.checker?]

/-- An entry that has a checker key is ready. -/
theorem isReady_of_checkerKey? {kb : CheckerKey × CheckerBuilder} (h : e.checkerKey? = some kb) :
    e.IsReady := by
  obtain ⟨binding, hbinding, hparams, hbuilder, -, -⟩ := checkerKey?_eq_some h
  exact ⟨binding, kb.1.params, kb.2, hbinding, hparams, hbuilder⟩

/-- With a snapshot in force, every call that a check makes is vetted, and an entry that gets no
checker has none because its builder failed. -/
theorem turns_of_snapshot (hs : p.services.Snapshot r) {request : CheckRequest} {e : Entry}
    {turn : Turn} (h : (e, turn) ∈ p.turns request) :
    e.IsReady ∧ (∀ c, turn.call? = some c → c.IsVetted r) ∧
      (turn.verdict? request = none →
        ∃ c error, turn = .called c ∧ c.entry = e ∧ c.result = .error error) := by
  obtain ⟨hmem, q, rfl⟩ := exists_of_mem_turnsOf h
  obtain ⟨hbound, hactive⟩ := hs.boundBy.of_mem_resolve hmem
  obtain ⟨b, params, hkey, hvetted⟩ := exists_checkerKey? hbound hactive
  refine ⟨isReady_of_checkerKey? hkey, ?_⟩
  rcases turnOf_cases hkey q with ⟨i, hturn⟩ | hturn
  · rw [hturn]
    exact ⟨nofun, nofun⟩
  · rw [hturn]
    refine ⟨?_, ?_⟩
    · intro c hc
      exact Option.some.inj hc ▸ hvetted q.attempts
    · intro hnone
      rw [Turn.verdict?, Turn.checker?, Option.map_eq_none_iff] at hnone
      cases hresult : BuildCall.result ⟨e, b, q.attempts, params⟩ with
      | ok c =>
        rw [hresult] at hnone
        cases hnone
      | error error => exact ⟨_, error, rfl, rfl, hresult⟩

/-- The configuration in force depends on the operations alone. -/
theorem services_applyAll (p : CheckerPool) (operations : List PoolOperation) :
    (p.applyAll operations).services = PoolOperation.inForce p.services operations := by
  induction operations generalizing p with
  | nil => rfl
  | cons o rest ih =>
    rw [inForce_cons, applyAll, List.foldl_cons, ← applyAll, ih]
    cases o with
    | check request => rw [apply, services_check]; rfl
    | change s => rfl
    | unloadAll => rfl

/-- Changes to snapshots leave a snapshot in force. -/
theorem snapshot_inForce {s : Services} (hs : s.Snapshot r) {operations : List PoolOperation}
    (ho : ∀ t, .change t ∈ operations → t.Snapshot r) :
    (PoolOperation.inForce s operations).Snapshot r := by
  induction operations generalizing s with
  | nil => exact hs
  | cons o rest ih =>
    have hrest : ∀ t, .change t ∈ rest → t.Snapshot r := fun t ht =>
      ho t (List.mem_cons_of_mem _ ht)
    cases o with
    | check _ | unloadAll => exact ih hs hrest
    | change t => exact ih (ho t List.mem_cons_self) hrest

/-- The pool records the calls of an operation, and no others. -/
theorem builds_apply (p : CheckerPool) (o : PoolOperation) :
    (p.apply o).builds = p.builds ++ (p.callsIn o).map BuildCall.event := by
  cases o with
  | check request => exact (ask_turnsOf request (p.services.resolve (keyOf request)) p).2
  | change s => exact (List.append_nil _).symm
  | unloadAll =>
    have hnone : (p.kept.map fun x => PoolEvent.unloaded x.1.kind x.2.serial).filter
        PoolEvent.isBuild = [] := by
      refine List.filter_eq_nil_iff.mpr fun event hevent => ?_
      obtain ⟨x, -, rfl⟩ := List.mem_map.mp hevent
      exact Bool.false_ne_true
    simp only [apply, unloadAll, builds, callsIn, List.filter_append, hnone, List.map_nil]

theorem builds_applyAll (p : CheckerPool) (operations : List PoolOperation) :
    (p.applyAll operations).builds = p.builds ++ (p.callsInAll operations).map BuildCall.event := by
  induction operations generalizing p with
  | nil => exact (List.append_nil _).symm
  | cons o rest ih =>
    rw [applyAll, List.foldl_cons, ← applyAll, ih, builds_apply, callsInAll, List.map_append,
      List.append_assoc]

/-- As long as only snapshots come into force, all calls are vetted. -/
theorem isVetted_of_mem_callsInAll (hs : p.services.Snapshot r) {operations : List PoolOperation}
    (ho : ∀ t, .change t ∈ operations → t.Snapshot r) {c : BuildCall}
    (hc : c ∈ p.callsInAll operations) : c.IsVetted r := by
  induction operations generalizing p with
  | nil => cases hc
  | cons o rest ih =>
    rcases List.mem_append.mp hc with hc | hc
    · cases o with
      | check request =>
        obtain ⟨x, hx, hcall⟩ := List.mem_filterMap.mp hc
        exact (turns_of_snapshot hs hx).2.1 c hcall
      | change _ | unloadAll => cases hc
    · have hnext : (p.apply o).services.Snapshot r := by
        rw [show p.apply o = p.applyAll [o] from rfl, services_applyAll]
        refine snapshot_inForce hs fun t ht => ho t ?_
        exact List.mem_singleton.mp ht ▸ List.mem_cons_self
      exact ih hnext (fun t ht => ho t (List.mem_cons_of_mem _ ht)) hc

end CheckerPool

/-- What is done to a pool whose configurations come from documents. -/
inductive DocumentOperation where
  | load (document : ByteArray)
  | check (request : CheckRequest)
  | unloadAll

/-- What an operation does to the pool. A document that cannot be read does nothing. -/
def DocumentOperation.operation? (r : Registries) : DocumentOperation → Option PoolOperation
  | load document => (Services.parse? document).map fun s => .change (s.convert r).value
  | check request => some (.check request)
  | unloadAll => some .unloadAll

/-- Documents put nothing but snapshots in force. -/
theorem DocumentOperation.snapshot_of_mem {r : Registries} {history : List DocumentOperation}
    {t : Services} (h : .change t ∈ history.filterMap (operation? r)) : t.Snapshot r := by
  obtain ⟨o, -, ho⟩ := List.mem_filterMap.mp h
  cases o with
  | load document =>
    obtain ⟨s, hs, hchange⟩ := Option.map_eq_some_iff.mp ho
    rw [← PoolOperation.change.inj hchange]
    exact .converted (.raw (Services.isRaw_of_parse? hs))
  | check _ | unloadAll => cases ho

namespace CheckerPool

/-- Whatever documents are loaded, checks are made and checkers are given up: the calls that the
pool records are those of the turns, all of them vetted, and in every check each entry that applies
is ready, has its turn, and adds the error of the verdict that comes out of it; only a builder that
fails leaves an entry without one. -/
theorem builders_see_vetted (r : Registries) (history : List DocumentOperation) :
    let operations := history.filterMap (DocumentOperation.operation? r)
    let p := ({} : CheckerPool).applyAll operations
    p.builds = (callsInAll {} operations).map BuildCall.event ∧
    (∀ c ∈ callsInAll {} operations, c.IsVetted r) ∧
    ∀ request,
      (p.turns request).map Prod.fst = p.services.resolve (keyOf request) ∧
      (p.check request).1.errors = (p.turns request).filterMap (fun x =>
        (x.2.verdict? request).bind CheckError.ofVerdict?) ∧
      ∀ e turn, (e, turn) ∈ p.turns request →
        e.IsReady ∧ (turn.verdict? request = none →
          ∃ c error, turn = .called c ∧ c.entry = e ∧ c.result = .error error) := by
  intro operations p
  have hchanges : ∀ t, .change t ∈ operations → t.Snapshot r := fun t ht =>
    DocumentOperation.snapshot_of_mem ht
  have hempty : Services.Snapshot r .empty := .raw nofun
  have hforce : p.services.Snapshot r := by
    rw [services_applyAll]
    exact snapshot_inForce hempty hchanges
  refine ⟨builds_applyAll {} operations, ?_, ?_⟩
  · intro c hc
    exact isVetted_of_mem_callsInAll hempty hchanges hc
  · intro request
    refine ⟨map_fst_turnsOf _ p, (ask_turnsOf request _ p).1, ?_⟩
    intro e turn hturn
    obtain ⟨hready, -, hfailed⟩ := turns_of_snapshot hforce hturn
    exact ⟨hready, hfailed⟩

/-- A checker is built once, a builder that fails is called again, and an
unknown kind is not met. -/
example :
    let document := "books:\n  ingress:\n    checkers: [kind: closed, kind: lost, kind: gone]\n"
    let operations := [.load document.toUTF8, .check { service := "books" },
      .check { service := "books" }].filterMap (DocumentOperation.operation? plainRegistries)
    (callsInAll {} operations).map (fun c => (c.entry.kind, c.attempt)) =
      [("closed", 0), ("lost", 1), ("lost", 2)] := by
  decide +kernel

end CheckerPool

end ServiceControl
