import ServiceControl.Proofs.Services.Conversion
import ServiceControl.Proofs.Services.Resolution

/-!
# Scopes that are described and not consulted

A service says what applies to the calls that it issues, to calls from it and to it, and to calls
from and to its peers. Resolution consults a part of these scopes. An entry in another one is read,
converted and kept, and never applies to a call: it is a dead rule. There are dead rules exactly in
what a service has for calls to a peer, and in what it has for its own calls unless it is the
service whose rules apply to every call.
-/

namespace ServiceControl

/-- The scopes that are described as applying to a call: for calls from the source, for the calls
that it issues itself, for its calls to the destination, for calls to the destination, and for calls
from the source to it. -/
def CallKey.described (k : CallKey) : List (String × Scope) :=
  [(k.source, .egress), (k.source, .own), (k.source, .producer k.destination),
    (k.destination, .ingress), (k.destination, .consumer k.source)]

/-- Of the scopes that are described, the one for calls to a peer is not consulted, and the one for
own calls only if it is that of the service whose rules apply to every call. -/
theorem CallKey.mem_places_iff {k : CallKey} {x : String × Scope} (hx : x ∈ k.described) :
    x ∈ k.places ↔
      x.2 ≠ .producer k.destination ∧ (x.2 = .own → k.source = everyService) := by
  simp only [described, List.mem_cons, List.not_mem_nil, or_false] at hx
  rcases hx with rfl | rfl | rfl | rfl | rfl <;> simp [places]

/-- A service that has one scope only. -/
def Service.ofScope (a : Adapters) : Scope → Service
  | .ingress => { ingress := a }
  | .egress => { egress := a }
  | .own => { own := a }
  | .consumer peer => { consumers := .ofList [(peer, { adapters := a })] }
  | .producer peer => { producers := .ofList [(peer, { adapters := a })] }

namespace Services

/-- The entries without an error in a scope apply to a call, so none of them is a dead rule. -/
def Applies (s : Services) (k : CallKey) (x : String × Scope) : Prop :=
  ∀ e ∈ s.listAt x.1 x.2 k.method, e.hasNoError = true → e ∈ s.resolve k

/-- A scope that a call consults has no dead rules for it. -/
theorem applies_of_mem_places (s : Services) {k : CallKey} {x : String × Scope}
    (hx : x ∈ k.places) : s.Applies k x := by
  intro e he herror
  rw [resolve_eq_flatMap]
  exact List.mem_flatMap.mpr ⟨x, hx, List.mem_filter.mpr ⟨he, herror⟩⟩

/-- A list that is converted depends on the list that was written, and on no other one. -/
theorem listAt_convert_congr {s t : Services} (r : Registries) {name : String} {scope : Scope}
    {m : Method} (h : t.listAt name scope m = s.listAt name scope m) :
    (t.convert r).value.listAt name scope m = (s.convert r).value.listAt name scope m := by
  rw [listAt_convert, listAt_convert, placedAt, placedAt, h]

/-! ## A configuration with one scope -/

/-- A configuration of one service with one scope. -/
def ofScope (x : String × Scope) (a : Adapters) : Services := .ofList [(x.1, .ofScope a x.2)]

/-- Nothing stands in any other scope. -/
theorem listAt_ofScope (x y : String × Scope) (a : Adapters) (m : Method) :
    (ofScope x a).listAt y.1 y.2 m = if x = y then a.of m else [] := by
  obtain ⟨name, scope⟩ := x
  obtain ⟨other, place⟩ := y
  have hfind : (ofScope (name, scope) a).find? other =
      if name = other then some (.ofScope a scope) else none := rfl
  by_cases hname : name = other
  · subst hname
    have hpeer (p q : String) : (SortedMap.ofList [(p, ({ adapters := a } : Peer))]).find? q =
        if p = q then some { adapters := a } else none := rfl
    have hnone (p : String) : (SortedMap.empty : SortedMap Peer).find? p = none := rfl
    have hempty : ({} : Adapters).of m = [] := by cases m <;> rfl
    simp only [listAt, at?, hfind, if_true, Option.bind_some, Prod.mk.injEq, true_and]
    cases scope <;> cases place <;>
      simp only [Service.ofScope, Service.at?, hnone, hpeer, hempty, Option.map_none, reduceCtorEq,
        if_true, if_false, Scope.consumer.injEq, Scope.producer.injEq]
    -- what is left are two peers
    case consumer.consumer p q | producer.producer p q =>
      by_cases hpeers : p = q <;>
        simp only [hpeers, if_true, if_false, Option.map_some, Option.map_none]
  · have hne : (name, scope) ≠ (other, place) := fun h => hname (congrArg Prod.fst h)
    simp only [listAt, at?, hfind, if_neg hname, Option.bind_none, if_neg hne]

/-- An entry that any kind of adapter may have, for either method. -/
def plainRule : Adapters := ⟨[{ kind := "plain" }], [{ kind := "plain" }]⟩

/-- A checker and a consumer of this kind, without params. -/
def ruleRegistries : Registries where
  checkers := {
    space := "checker"
    builders := .ofList [
      ("plain",
        { token := 0, schema := [], build := fun _ _ => .ok ⟨"plain", fun _ => .ok none⟩ })] }
  consumers := { space := "report consumer", builders := .ofList [("plain", { token := 0 })] }

/-- The entry is converted without an error, wherever it stands. -/
theorem exists_mem_listAt_plainRule (x : String × Scope) (m : Method) :
    ∃ e ∈ ((ofScope x plainRule).convert ruleRegistries).value.listAt x.1 x.2 m,
      e.hasNoError = true := by
  have hlist : (ofScope x plainRule).listAt x.1 x.2 m = [{ kind := "plain" }] := by
    rw [listAt_ofScope, if_pos rfl]
    cases m <;> rfl
  rw [listAt_convert, placedAt, hlist]
  cases m <;> exact ⟨_, List.mem_singleton.mpr rfl, rfl⟩

/-- In a scope that a call does not consult, an entry without an error can be a dead rule. -/
theorem not_applies_plainRule {k : CallKey} {x : String × Scope} (hx : x ∉ k.places) :
    ¬ ((ofScope x plainRule).convert ruleRegistries).value.Applies k x := by
  intro happlies
  obtain ⟨e, he, herror⟩ := exists_mem_listAt_plainRule x k.method
  have hresolve := happlies e he herror
  rw [resolve_eq_flatMap] at hresolve
  obtain ⟨y, hy, hmem⟩ := List.mem_flatMap.mp hresolve
  have hne : x ≠ y := fun h => hx (h ▸ hy)
  have hlist : (ofScope x plainRule).listAt y.1 y.2 k.method = [] := by
    rw [listAt_ofScope, if_neg hne]
  rw [listAt_convert, placedAt, hlist] at hmem
  cases hmem

/-! ## Dead rules -/

/-- A scope has no dead rules for a call, whatever is written there and elsewhere, exactly if the
call consults it. Of the scopes that are described as applying to the call, it does not consult the
one of the source for calls to the destination, nor the one for the source's own calls unless the
source is the service whose rules apply to every call. What stands in a scope that the call does not
consult makes no difference to it. -/
theorem applies_convert_iff (k : CallKey) (x : String × Scope) :
    ((∀ r s, (convert r s).value.Applies k x) ↔ x ∈ k.places) ∧
      (x ∈ k.described →
        (x ∈ k.places ↔ x.2 ≠ .producer k.destination ∧ (x.2 = .own → k.source = everyService))) ∧
      (x ∉ k.places → ∀ (r : Registries) (s t : Services),
        (∀ name scope m, t.listAt name scope m ≠ s.listAt name scope m → (name, scope) = x) →
        (t.convert r).value.resolve k = (s.convert r).value.resolve k) := by
  refine ⟨⟨fun happlies => ?_, fun hx r s => applies_of_mem_places _ hx⟩,
    CallKey.mem_places_iff, ?_⟩
  · by_contra hx
    exact not_applies_plainRule hx (happlies ruleRegistries _)
  · intro hx r s t hother
    refine resolve_congr fun y hy => listAt_convert_congr r ?_
    by_contra hne
    exact hx (hother y.1 y.2 k.method hne ▸ hy)

/-- What the source of a call has for all its calls applies, and what it has for its own calls and
for its calls to the destination may be anything. -/
theorem applies_convert_iff_egress :
    (∀ r s, (convert r s).value.Applies ⟨"a", "b", .check⟩ ("a", .egress)) ∧
      ((ofScope ("a", .own) plainRule).convert ruleRegistries).value.resolve ⟨"a", "b", .check⟩ =
        (convert ruleRegistries .empty).value.resolve ⟨"a", "b", .check⟩ := by
  have hegress := applies_convert_iff ⟨"a", "b", .check⟩ ("a", .egress)
  have hown := applies_convert_iff ⟨"a", "b", .check⟩ ("a", .own)
  refine ⟨hegress.1.mpr ((hegress.2.1 (by decide)).mpr (by decide)), ?_⟩
  refine hown.2.2 (by decide) ruleRegistries .empty _ fun name scope m hne => ?_
  by_contra hx
  have hlist := listAt_ofScope ("a", .own) (name, scope) plainRule m
  rw [if_neg (Ne.symm hx)] at hlist
  exact hne hlist

/-- Not every scope that is described as applying to a call applies to it: the source can have
entries for its calls to the destination, and for its own calls, that are converted without an error
and are dead rules. -/
theorem not_applies_of_described :
    ¬ (∀ r s k, ∀ x ∈ CallKey.described k, (convert r s).value.Applies k x) ∧
      ¬ ((ofScope ("a", .producer "b") plainRule).convert ruleRegistries).value.Applies
          ⟨"a", "b", .check⟩ ("a", .producer "b") ∧
      ¬ ((ofScope ("a", .own) plainRule).convert ruleRegistries).value.Applies
          ⟨"a", "b", .check⟩ ("a", .own) := by
  have hproducer : ¬ ((ofScope ("a", .producer "b") plainRule).convert ruleRegistries).value.Applies
      ⟨"a", "b", .check⟩ ("a", .producer "b") := not_applies_plainRule (by decide)
  refine ⟨fun hall => hproducer (hall _ _ _ _ (by decide)), hproducer, ?_⟩
  exact not_applies_plainRule (by decide)

end Services

end ServiceControl
