import Mathlib.Algebra.Order.Group.Nat
import Mathlib.Data.List.Count
import ServiceControl.Proofs.Checking.Vetting
import ServiceControl.Proofs.Services.Paths
import ServiceControl.Proofs.Services.Resolution

/-!
# How often a rule applies

A call consults six scopes by name, and two of the names may stand for one scope: a caller may call
itself by the name that is reserved for every service, or call that name, and then meets scopes that
every call meets anyway. An entry applies as often as the call consults its scope. That is twice for
what the reserved name has for calls from it, if it is the source, and for what it has for calls to
it, if it is the destination, and never more than once for any other entry. Each time that an entry
of checkers applies, at most one checker runs and adds at most one error.
-/

namespace ServiceControl

/-- Where an entry stands. -/
structure Address where
  service : String
  scope : Scope
  method : Method
  /-- How many entries stand before it in its list. -/
  index : Nat
  deriving DecidableEq, Repr

/-- Where an entry in its place stands. -/
def Placed.address (x : Placed) : Address := ⟨x.service, x.scope, x.method, x.index⟩

/-! ### The scopes that a call consults -/

namespace CallKey

/-- A scope that the call consults by two of its names. -/
def ConsultsTwice (k : CallKey) (place : String × Scope) : Prop :=
  (k.source = everyService ∧ place = (everyService, .egress)) ∨
    (k.destination = everyService ∧ place = (everyService, .ingress))

instance (k : CallKey) (place : String × Scope) : Decidable (k.ConsultsTwice place) := by
  unfold ConsultsTwice
  infer_instance

/-- How often a call consults a scope. -/
def consultations (k : CallKey) (place : String × Scope) : Nat :=
  if k.ConsultsTwice place then 2 else if place ∈ k.places then 1 else 0

/-- A scope comes up among those of a call as often as the call consults it. -/
theorem count_places (k : CallKey) (place : String × Scope) :
    k.places.count place = k.consultations place := by
  obtain ⟨name, scope⟩ := place
  -- a scope for all calls is looked up for every service, and for one side of the call
  have hside (side : String) :
      ((if side = name then 1 else 0) + if everyService = name then 1 else 0) =
        if side = everyService ∧ name = everyService then 2
        else if name = everyService ∨ name = side then 1 else 0 := by
    grind
  unfold consultations ConsultsTwice places
  cases scope with
  | ingress => simpa [List.count_cons] using hside k.destination
  | egress => simpa [List.count_cons] using hside k.source
  | own => simp [List.count_cons, @eq_comm _ name]
  | consumer peer => simp [List.count_cons, @eq_comm _ name, @eq_comm _ peer]
  | producer peer => simp

/-- Only under the reserved name does a call consult a scope twice. -/
theorem consultations_le_one {k : CallKey} (hsource : k.source ≠ everyService)
    (hdestination : k.destination ≠ everyService) (place : String × Scope) :
    k.consultations place ≤ 1 := by
  simp only [consultations, ConsultsTwice, hsource, hdestination, false_and, or_self, if_false]
  split <;> decide

end CallKey

/-! ### The entries that apply -/

namespace Services

/-- The entry at an address. -/
def entryAt? (s : Services) (a : Address) : Option Entry :=
  (s.listAt a.service a.scope a.method)[a.index]?

/-- The entries that apply to a call in their places, in order. -/
def applied (s : Services) (k : CallKey) : List Placed :=
  k.places.flatMap fun place =>
    (s.placedAt place.1 place.2 k.method).filter fun x => x.entry.hasNoError

/-- The entries of a list, each in its place. -/
theorem map_entry_placedAt (s : Services) (name : String) (scope : Scope) (m : Method) :
    (s.placedAt name scope m).map Placed.entry = s.listAt name scope m := by
  rw [placedAt, List.map_map]
  exact List.zipIdx_map_fst 0 _

/-- The entries that apply are those that resolution finds. -/
theorem map_entry_applied (s : Services) (k : CallKey) :
    (s.applied k).map Placed.entry = s.resolve k := by
  rw [resolve_eq_flatMap, applied, List.map_flatMap]
  refine List.flatMap_congr fun place _ => ?_
  rw [← map_entry_placedAt, List.filter_map]
  rfl

/-- The places of a list are those of its entries. -/
theorem mem_placedAt_iff {s : Services} {name : String} {scope : Scope} {m : Method} {x : Placed} :
    x ∈ s.placedAt name scope m ↔
      x.service = name ∧ x.scope = scope ∧ x.method = m ∧ s.entryAt? x.address = some x.entry := by
  constructor
  · exact eq_of_mem_placedAt
  · rintro ⟨rfl, rfl, rfl, hentry⟩
    exact List.mem_map.mpr ⟨(x.entry, x.index), List.mk_mem_zipIdx_iff_getElem?.mpr hentry, rfl⟩

/-- A list adds each of its entries at most once to those that apply. -/
theorem count_address_placedAt (s : Services) (place : String × Scope) (m : Method) (a : Address) :
    (((s.placedAt place.1 place.2 m).filter fun x =>
        x.entry.hasNoError).map Placed.address).count a =
      if place = (a.service, a.scope) ∧ m = a.method ∧ (s.entryAt? a).any Entry.hasNoError
      then 1 else 0 := by
  have hnodup : (((s.placedAt place.1 place.2 m).filter fun x =>
      x.entry.hasNoError).map Placed.address).Nodup := by
    refine ((s.nodup_placedAt place.1 place.2 m).filter _).map_on fun x hx y hy heq => ?_
    have hentry {z : Placed} (hz : z ∈ (s.placedAt place.1 place.2 m).filter fun x =>
        x.entry.hasNoError) : s.entryAt? z.address = some z.entry :=
      (mem_placedAt_iff.mp (List.mem_filter.mp hz).1).2.2.2
    exact eq_of_getElem? (hentry hx) (hentry hy) (Address.mk.inj heq)
  rw [hnodup.count]
  refine if_congr ?_ rfl rfl
  simp only [List.mem_map, List.mem_filter, mem_placedAt_iff]
  constructor
  · rintro ⟨x, ⟨⟨hservice, hscope, hmethod, hentry⟩, hsound⟩, rfl⟩
    rw [hentry]
    exact ⟨Prod.ext hservice.symm hscope.symm, hmethod.symm, hsound⟩
  · rintro ⟨rfl, rfl, hany⟩
    obtain ⟨e, he, hsound⟩ := (Option.any_eq_true _ _).mp hany
    exact ⟨⟨a.service, a.scope, a.method, a.index, e⟩, ⟨⟨rfl, rfl, rfl, he⟩, hsound⟩, rfl⟩

/-- An entry applies as often as the call consults its scope, if it is one for the method and
conversion found no error in it. -/
theorem count_address_applied (s : Services) (k : CallKey) (a : Address) :
    ((s.applied k).map Placed.address).count a =
      if k.method = a.method ∧ (s.entryAt? a).any Entry.hasNoError
      then k.consultations (a.service, a.scope) else 0 := by
  rw [← k.count_places, applied]
  induction k.places with
  | nil => simp
  | cons place rest ih =>
    rw [List.flatMap_cons, List.map_append, List.count_append, ih, count_address_placedAt,
      List.count_cons]
    by_cases happlies : k.method = a.method ∧ (s.entryAt? a).any Entry.hasNoError
    · simp [happlies, Nat.add_comm]
    · simp [happlies]

end Services

/-! ### The checkers that run -/

namespace CheckerPool

/-- The turns of a check, each with the entry that it is for in its place. -/
def runs (p : CheckerPool) (request : CheckRequest) : List (Placed × Turn) :=
  (p.services.applied (keyOf request)).zip ((p.turns request).map Prod.snd)

/-- What a run adds to the errors of a check. -/
def errorOf? (request : CheckRequest) (run : Placed × Turn) : Option CheckError :=
  (run.2.verdict? request).bind CheckError.ofVerdict?

/-- The entries that apply and the turns of a check come in the same order. -/
theorem map_entry_applied_eq (p : CheckerPool) (request : CheckRequest) :
    (p.services.applied (keyOf request)).map Placed.entry = (p.turns request).map Prod.fst := by
  rw [Services.map_entry_applied, turns, map_fst_turnsOf]

/-- Each entry that applies has one run, as often as it applies. -/
theorem map_fst_runs (p : CheckerPool) (request : CheckRequest) :
    (p.runs request).map Prod.fst = p.services.applied (keyOf request) := by
  have hlength := congrArg List.length (p.map_entry_applied_eq request)
  rw [runs, List.map_fst_zip]
  simpa using hlength.le

/-- The runs are the turns of the check. -/
theorem map_entry_runs (p : CheckerPool) (request : CheckRequest) :
    (p.runs request).map (Prod.map Placed.entry id) = p.turns request := by
  rw [runs, ← List.zip_map, p.map_entry_applied_eq, List.map_id]
  exact (List.zip_of_prod rfl rfl).symm

/-- The errors of a check are those of its runs. -/
theorem errors_eq_filterMap_runs (p : CheckerPool) (request : CheckRequest) :
    (p.check request).1.errors = (p.runs request).filterMap (errorOf? request) := by
  calc (p.check request).1.errors
      = (p.turns request).filterMap fun x =>
          (x.2.verdict? request).bind CheckError.ofVerdict? := (ask_turnsOf request _ p).1
    _ = (p.runs request).filterMap (errorOf? request) := by
        rw [← map_entry_runs, List.filterMap_map]
        rfl

end CheckerPool

namespace Services

/-- The entries that apply to a call are those that resolution finds, in their places, and an
entry applies as often as the call consults its scope. So it applies once, unless the call comes
from the reserved name and the entry is one that this name has for calls from it, or the call
goes to the reserved name and the entry is one that it has for calls to it: then it applies
twice. In a check each entry that applies has one run for each time that it applies, and no run
adds more than one error. -/
theorem applies_as_often_as_consulted (s : Services) (k : CallKey) :
    (s.applied k).map Placed.entry = s.resolve k ∧
    (∀ x ∈ s.applied k, s.entryAt? x.address = some x.entry) ∧
    (∀ a : Address, ((s.applied k).map Placed.address).count a =
      if k.method = a.method ∧ (s.entryAt? a).any Entry.hasNoError
      then k.consultations (a.service, a.scope) else 0) ∧
    (k.source ≠ everyService → k.destination ≠ everyService →
      ((s.applied k).map Placed.address).Nodup) ∧
    ∀ (p : CheckerPool) (request : CheckRequest),
      p.services = s → CheckerPool.keyOf request = k →
      (p.runs request).map Prod.fst = s.applied k ∧
      (p.runs request).map (Prod.map Placed.entry id) = p.turns request ∧
      (p.check request).1.errors = (p.runs request).filterMap (CheckerPool.errorOf? request) := by
  refine ⟨s.map_entry_applied k, ?_, s.count_address_applied k, ?_, ?_⟩
  · intro x hx
    obtain ⟨place, -, hx⟩ := List.mem_flatMap.mp hx
    exact (mem_placedAt_iff.mp (List.mem_filter.mp hx).1).2.2.2
  · intro hsource hdestination
    refine List.nodup_iff_count_le_one.mpr fun a => ?_
    rw [count_address_applied]
    split
    · exact CallKey.consultations_le_one hsource hdestination _
    · exact Nat.zero_le 1
  · rintro p request rfl rfl
    exact ⟨p.map_fst_runs request, p.map_entry_runs request, p.errors_eq_filterMap_runs request⟩

/-- A document with one entry, for calls from every service. -/
def loneDocument : String :=
  "_EVERY_SERVICE_:\n  egress:\n    checkers: [kind: closed]\n"

/-- What is in force once the document is loaded. -/
def loneServices : Services :=
  (((parse? loneDocument.toUTF8).getD .empty).convert CheckerPool.plainRegistries).value

/-- A call that a service makes to itself meets its rules once. -/
theorem applies_as_often_as_consulted_own :
    ("books" : String) ≠ everyService ∧
    ((loneServices.applied ⟨"books", "books", .check⟩).map Placed.address).Nodup ∧
    ((({} : CheckerPool).change loneServices).check
      { service := "books", operation := { consumer := "books" } }).1.errors.length = 1 := by
  have hname : ("books" : String) ≠ everyService := by decide
  obtain ⟨-, -, -, hnodup, hruns⟩ :=
    applies_as_often_as_consulted loneServices ⟨"books", "books", .check⟩
  obtain ⟨-, -, herrors⟩ := hruns (({} : CheckerPool).change loneServices)
    { service := "books", operation := { consumer := "books" } } rfl rfl
  refine ⟨hname, hnodup hname hname, ?_⟩
  rw [herrors]
  decide +kernel

/-- A caller under the reserved name meets a rule twice, and the one checker that is configured adds
two errors. -/
theorem not_forall_applies_once :
    (¬ ∀ (r : Registries) (document : ByteArray) (s : Services) (k : CallKey),
      parse? document = some s → (((s.convert r).value.applied k).map Placed.address).Nodup) ∧
    ¬ ∀ (r : Registries) (document : ByteArray) (s : Services) (request : CheckRequest),
      parse? document = some s →
      ((({} : CheckerPool).change (s.convert r).value).check request).1.errors.length ≤
        (s.convert r).value.placed.length := by
  have hread : (parse? loneDocument.toUTF8).isSome := by decide +kernel
  have hparse := (Option.getD_of_ne_none (Option.isSome_iff_ne_none.mp hread) .empty).symm
  refine ⟨fun h => ?_, fun h => ?_⟩
  · exact absurd (h CheckerPool.plainRegistries _ _ ⟨everyService, "books", .check⟩ hparse)
      (by decide +kernel)
  · exact absurd (h CheckerPool.plainRegistries _ _
      { service := "books", operation := { consumer := everyService } } hparse) (by decide +kernel)

end Services

end ServiceControl
