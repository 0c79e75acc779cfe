import Mathlib.Data.List.Basic
import ServiceControl.Proofs.Services.Scopes

/-!
# What applies to a call

A call consults six lists, and takes the entries of each in which conversion found no error. Nothing
else of a configuration counts: two configurations that agree on those six lists give the call the
same entries, whatever they say about other services, other peers, calls to peers, or the other
method.
-/

namespace ServiceControl

/-- Whether an entry was converted and no error was found in it. -/
def Entry.hasNoError (e : Entry) : Bool := e.binding.any fun b => b.error?.isNone

/-- A binding has typed params exactly if it has no error. -/
theorem Binding.isSome_params? (b : Binding) : b.params?.isSome = b.error?.isNone := by
  unfold params? error?
  cases b.result <;> rfl

/-- Active entries are those without an error. -/
theorem Entry.isActive_eq (e : Entry) : e.isActive = e.hasNoError := by
  unfold isActive hasNoError
  cases e.binding with
  | none => rfl
  | some b => exact b.isSome_params?

namespace CallKey

/-- The scopes that a call consults, in order. -/
def places (k : CallKey) : List (String × Scope) :=
  [(everyService, .ingress), (everyService, .egress), (everyService, .own), (k.source, .egress),
    (k.destination, .ingress), (k.destination, .consumer k.source)]

/-- The lists that are no concern of a call. A scope of the source or of the destination is one of
them if the call does not consult it in another part, as it does when both are the same service, or
when one of them is the service whose rules apply to every call. -/
inductive Ignores (k : CallKey) : String → Scope → Method → Prop where
  /-- A list for the other method. -/
  | method {name scope m} : m ≠ k.method → Ignores k name scope m
  /-- A list of a service that has no part in the call. -/
  | service {name scope m} : name ≠ everyService → name ≠ k.source → name ≠ k.destination →
      Ignores k name scope m
  /-- What a service has for calls to a peer. -/
  | producer {name peer m} : Ignores k name (.producer peer) m
  /-- What a service has for a peer, unless it is what the destination has for the source. -/
  | peer {name peer m} : (name, peer) ≠ (k.destination, k.source) →
      Ignores k name (.consumer peer) m
  /-- Another scope of the source. -/
  | source {scope m} : (k.source, scope) ∉ k.places → Ignores k k.source scope m
  /-- Another scope of the destination. -/
  | destination {scope m} : (k.destination, scope) ∉ k.places → Ignores k k.destination scope m

/-- A call ignores exactly the lists that it does not consult. -/
theorem ignores_iff {k : CallKey} {name : String} {scope : Scope} {m : Method} :
    k.Ignores name scope m ↔ m ≠ k.method ∨ (name, scope) ∉ k.places := by
  constructor
  · intro h
    cases h with
    | method h => exact Or.inl h
    | service hevery hsource hdestination =>
      exact Or.inr (by simp [places, hevery, hsource, hdestination])
    | producer => exact Or.inr (by simp [places])
    | peer h => exact Or.inr (by simpa [places] using h)
    | source h | destination h => exact Or.inr h
  · rintro (h | h)
    · exact Ignores.method h
    by_cases hsource : name = k.source
    · exact hsource ▸ Ignores.source (hsource ▸ h)
    by_cases hdestination : name = k.destination
    · exact hdestination ▸ Ignores.destination (hdestination ▸ h)
    by_cases hevery : name = everyService
    · -- all other scopes of the service whose rules apply to every call are for its peers
      cases scope with
      | consumer peer => exact Ignores.peer fun he => hdestination (congrArg Prod.fst he)
      | producer peer => exact Ignores.producer
      | ingress | egress | own => simp [places, hevery] at h
    · exact Ignores.service hevery hsource hdestination

end CallKey

namespace Services

/-- The adapters that apply to a call are those of the six scopes that are configured. -/
theorem scopes_eq (s : Services) (k : CallKey) :
    s.scopes k = k.places.filterMap fun x => s.at? x.1 x.2 := by
  simp only [scopes, CallKey.places, at?, Service.at?, List.filterMap_cons, List.filterMap_nil]
  cases s.find? everyService <;> cases s.find? k.source <;> cases s.find? k.destination with
  | none => rfl
  | some destination =>
    simp only [Option.bind_some, Option.bind_none, List.nil_append, List.cons_append]
    cases destination.consumers.find? k.source <;> rfl

/-- A list that is not configured has no entries, so only configured adapters contribute any. -/
theorem flatMap_active (s : Services) (places : List (String × Scope)) (m : Method) :
    (places.filterMap fun x => s.at? x.1 x.2).flatMap (·.active m) =
      places.flatMap fun x => (s.listAt x.1 x.2 m).filter Entry.hasNoError := by
  have hactive : Entry.isActive = Entry.hasNoError := funext Entry.isActive_eq
  induction places with
  | nil => rfl
  | cons x rest ih =>
    rw [List.flatMap_cons, ← ih]
    simp only [listAt, List.filterMap_cons]
    cases s.at? x.1 x.2 with
    | none => rfl
    | some a => rw [List.flatMap_cons, Adapters.active, hactive]

/-- A call gets the entries without an error of the six lists, in order. -/
theorem resolve_eq_flatMap (s : Services) (k : CallKey) :
    s.resolve k = k.places.flatMap fun x =>
      (s.listAt x.1 x.2 k.method).filter Entry.hasNoError := by
  rw [resolve, scopes_eq, flatMap_active]

/-- Configurations that agree on the six lists give a call the same entries. -/
theorem resolve_congr {s t : Services} {k : CallKey}
    (h : ∀ x ∈ k.places, t.listAt x.1 x.2 k.method = s.listAt x.1 x.2 k.method) :
    t.resolve k = s.resolve k := by
  rw [resolve_eq_flatMap, resolve_eq_flatMap]
  exact List.flatMap_congr fun x hx => by rw [h x hx]

/-- A call gets the entries without an error of the six lists, in order, and whatever a
configuration says in lists that the call ignores makes no difference to it. -/
theorem resolve_eq_lists (s : Services) (k : CallKey) :
    s.resolve k =
        (k.places.flatMap fun x => (s.listAt x.1 x.2 k.method).filter Entry.hasNoError) ∧
      ∀ t : Services,
        (∀ name scope m, t.listAt name scope m ≠ s.listAt name scope m →
          k.Ignores name scope m) →
        t.resolve k = s.resolve k := by
  refine ⟨s.resolve_eq_flatMap k, fun t ht => resolve_congr fun x hx => ?_⟩
  by_contra hne
  rcases CallKey.ignores_iff.mp (ht x.1 x.2 k.method hne) with h | h
  · exact h rfl
  · exact h hx

/-- Adapters of one reporter without params. -/
def plainReporter : Adapters where
  reporters := [{ id := "1", binding := some ⟨"", .consumer { token := 0 }, .ok .empty⟩ }]

/-- A service with a reporter for all its callers. -/
def plainCallee : Services := .ofList [("b", { ingress := plainReporter })]

/-- The same, with a checker beside the reporter, a reporter for one caller, and another service. -/
def plainCalleeAmongOthers : Services :=
  .ofList [
    ("b", {
      ingress := { plainReporter with checkers := plainReporter.reporters }
      consumers := .ofList [("c", { adapters := plainReporter })] }),
    ("c", { ingress := plainReporter })]

/-- A report to the service from elsewhere finds its reporter, and nothing that was added. -/
theorem resolve_eq_lists_plain :
    plainCalleeAmongOthers.resolve ⟨"a", "b", .report⟩ =
        plainCallee.resolve ⟨"a", "b", .report⟩ ∧
      (plainCallee.resolve ⟨"a", "b", .report⟩).map (·.id) = ["1"] := by
  refine ⟨(resolve_eq_lists _ _).2 _ fun name scope m hne => CallKey.ignores_iff.mpr ?_, rfl⟩
  by_contra h
  obtain ⟨rfl, hplace⟩ := (not_or.mp h).imp not_not.mp not_not.mp
  simp only [CallKey.places, List.mem_cons, Prod.mk.injEq, List.not_mem_nil, or_false] at hplace
  -- each of the six lists is the same in both configurations
  rcases hplace with ⟨rfl, rfl⟩ | ⟨rfl, rfl⟩ | ⟨rfl, rfl⟩ | ⟨rfl, rfl⟩ | ⟨rfl, rfl⟩ | ⟨rfl, rfl⟩ <;>
    exact hne rfl

end Services

end ServiceControl
