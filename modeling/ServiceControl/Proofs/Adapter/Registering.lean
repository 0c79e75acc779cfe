import Mathlib.Data.List.Dedup
import ServiceControl.Bundled.Kinds
import ServiceControl.Collection.Table

/-!
# The first builder of a kind stays

What is registered is told by the calls that were made: a kind has the builder of the first call for
it, whatever came after. The main statement says this for one registry and for both of them under
registrations of single builders and of the bundled ones in any order. Each registry follows from
the calls for its own sort of adapters, and the bundled adapters are registered exactly where none
of their kinds is taken.
-/

namespace ServiceControl

namespace Registry

variable {β : Type} [Identified β] {r : Registry β} {kind : String} {b : β}

/-- The registry after calls one after another; calls that collide are passed over. -/
def after (r : Registry β) (calls : List (String × β)) : Registry β :=
  calls.foldl (fun r c => r.offer c.1 c.2) r

/-- A call registers the builder of a new kind. -/
theorem register_of_none (h : r.get? kind = none) (b : β) :
    r.register kind b = .ok { r with builders := r.builders.insert kind b } := by
  rw [get?] at h
  simp only [register, h]

/-- A call for a kind that is taken changes nothing, and tells so if the builder is another one. -/
theorem register_of_some {first : β} (h : r.get? kind = some first) (b : β) :
    r.register kind b =
      if Identified.token first = Identified.token b then .ok r else .error ⟨r.space, kind⟩ := by
  rw [get?] at h
  simp only [register, h]

/-- A new kind is registered, and one that is taken stays as it is. -/
theorem offer_eq (r : Registry β) (kind : String) (b : β) :
    r.offer kind b =
      if (r.get? kind).isSome then r else { r with builders := r.builders.insert kind b } := by
  cases h : r.get? kind with
  | none =>
    rw [offer, register_of_none h]
    rfl
  | some first =>
    rw [offer, register_of_some h, Option.isSome_some, if_pos rfl]
    split
    · next heq =>
      split at heq
      · exact (Except.ok.inj heq).symm
      · cases heq
    · rfl

/-- A registration that succeeds leaves what an offer leaves. -/
theorem offer_of_ok {r' : Registry β} (h : r.register kind b = .ok r') : r.offer kind b = r' := by
  rw [offer, h]

@[simp] theorem space_offer (r : Registry β) (kind : String) (b : β) :
    (r.offer kind b).space = r.space := by
  rw [offer_eq]
  split <;> rfl

/-- A call is seen under its own kind, and only if the kind was new. -/
theorem get?_offer (r : Registry β) (kind k : String) (b : β) :
    (r.offer kind b).get? k = (r.get? k).or (if kind = k then some b else none) := by
  rw [offer_eq]
  by_cases hk : kind = k
  · subst hk
    cases h : r.get? kind with
    | none => simp only [get?, Option.isSome_none, Bool.false_eq_true, if_false,
        SortedMap.find?_insert, if_true, Option.none_or]
    | some first => simp only [Option.isSome_some, if_true, h, Option.some_or]
  · rw [if_neg hk, Option.or_none]
    split
    · rfl
    · rw [get?, SortedMap.find?_insert, if_neg hk, get?]

@[simp] theorem space_after (r : Registry β) (calls : List (String × β)) :
    (r.after calls).space = r.space := by
  induction calls generalizing r with
  | nil => rfl
  | cons c rest ih => exact (ih (r.offer c.1 c.2)).trans (space_offer r c.1 c.2)

theorem after_append (r : Registry β) (calls more : List (String × β)) :
    r.after (calls ++ more) = (r.after calls).after more :=
  List.foldl_append

/-- Later calls are seen under the kinds that were not taken before. -/
theorem get?_after (r : Registry β) (calls : List (String × β)) (k : String) :
    (r.after calls).get? k = (r.get? k).or (Table.find? k calls) := by
  induction calls generalizing r with
  | nil => exact (Option.or_none).symm
  | cons c rest ih =>
    obtain ⟨kind, b⟩ := c
    have hrest : (r.after ((kind, b) :: rest)).get? k =
        ((r.offer kind b).get? k).or (Table.find? k rest) := ih (r.offer kind b)
    rw [hrest, get?_offer, Option.or_assoc, Table.find?]
    by_cases hk : kind = k
    · rw [if_pos hk, if_pos hk, Option.some_or]
    · rw [if_neg hk, if_neg hk, Option.none_or]

/-- What a registry holds is told by calls: the first one for a kind counts. -/
structure Follows (r : Registry β) (calls : List (String × β)) : Prop where
  get? : ∀ kind, r.get? kind = Table.find? kind calls
  contains : ∀ kind, r.contains kind = true ↔ kind ∈ calls.map Prod.fst
  size : r.size = (calls.map Prod.fst).dedup.length
  isEmpty : r.isEmpty = true ↔ calls = []
  /-- The kinds are listed in increasing order, each one once. -/
  sorted : r.kinds.Pairwise (· < ·)
  mem_kinds : ∀ kind, kind ∈ r.kinds ↔ kind ∈ calls.map Prod.fst

omit [Identified β] in
/-- The kinds that are listed are those that have a builder. -/
theorem mem_kinds_iff : kind ∈ r.kinds ↔ ∃ first, r.get? kind = some first := by
  constructor
  · intro h
    obtain ⟨⟨k, first⟩, hmem, rfl⟩ := List.mem_map.mp h
    exact ⟨first, SortedMap.find?_of_mem hmem⟩
  · rintro ⟨first, h⟩
    exact List.mem_map_of_mem (SortedMap.mem_entries_of_find? h)

omit [Identified β] in
/-- A registry with the look-ups of calls follows from them in everything else. -/
theorem Follows.of_get? {calls : List (String × β)}
    (h : ∀ kind, r.get? kind = Table.find? kind calls) : r.Follows calls := by
  have hsome : ∀ kind, (∃ first, r.get? kind = some first) ↔ kind ∈ calls.map Prod.fst := by
    intro kind
    rw [h kind, ← Option.isSome_iff_exists, ← not_iff_not, Option.not_isSome_iff_eq_none]
    exact Table.find?_eq_none_iff
  have hmem : ∀ kind, kind ∈ r.kinds ↔ kind ∈ calls.map Prod.fst := fun kind =>
    mem_kinds_iff.trans (hsome kind)
  have hsorted : r.kinds.Pairwise (· < ·) := List.pairwise_map.mpr r.builders.sorted
  have hnodup : r.kinds.Nodup := by
    refine List.Pairwise.imp (fun {k k'} hlt heq => ?_) hsorted
    exact String.lt_irrefl k' (heq ▸ hlt)
  have hlength : r.kinds.length = (calls.map Prod.fst).dedup.length := by
    refine List.Perm.length_eq ((List.perm_ext_iff_of_nodup hnodup (List.nodup_dedup _)).mpr ?_)
    intro kind
    rw [hmem kind, List.mem_dedup]
  refine ⟨h, fun kind => ?_, ?_, ?_, hsorted, hmem⟩
  · exact Option.isSome_iff_exists.trans (hsome kind)
  · exact (List.length_map (f := Prod.fst)).symm.trans hlength
  · have hempty : r.isEmpty = true ↔ r.kinds = [] :=
      List.isEmpty_iff.trans List.map_eq_nil_iff.symm
    rw [hempty, ← List.length_eq_zero_iff, hlength, List.length_eq_zero_iff, List.dedup_eq_nil,
      List.map_eq_nil_iff]

/-- A registry that started empty is told by the calls since then. -/
theorem follows_after (space : String) (calls : List (String × β)) :
    (({ space } : Registry β).after calls).Follows calls := by
  refine .of_get? fun kind => ?_
  rw [get?_after]
  exact Option.none_or

/-- What a call is answered after others: it succeeds for a new kind and for the first builder of
its kind, and any other call is a collision, which changes nothing and comes up again each time. -/
structure Answers (r : Registry β) (space : String) (calls : List (String × β)) (kind : String)
    (b : β) : Prop where
  ok_iff : (∃ r', r.register kind b = .ok r') ↔
    kind ∉ calls.map Prod.fst ∨
      ∃ first, Table.find? kind calls = some first ∧ Identified.token first = Identified.token b
  ok_eq : ∀ r', r.register kind b = .ok r' → r' = r.after [(kind, b)]
  collides : (¬ ∃ r', r.register kind b = .ok r') →
    r.offer kind b = r ∧ ∀ later, (r.after later).register kind b = .error ⟨space, kind⟩

/-- A builder of another one's kind collides now and after any more calls. -/
theorem register_after_of_ne {first : β} (h : r.get? kind = some first)
    (hne : Identified.token first ≠ Identified.token b) (later : List (String × β)) :
    (r.after later).register kind b = .error ⟨r.space, kind⟩ := by
  have hfirst : (r.after later).get? kind = some first := by
    rw [get?_after, h, Option.some_or]
  rw [register_of_some hfirst, if_neg hne, space_after]

/-- Calls are answered by the first builder of their kind. -/
theorem Follows.answers {calls : List (String × β)} {space : String} (h : r.Follows calls)
    (hspace : r.space = space) (kind : String) (b : β) : r.Answers space calls kind b := by
  have hnew : kind ∉ calls.map Prod.fst ↔ r.get? kind = none := by
    rw [h.get?, Table.find?_eq_none_iff]
  have hiff : (∃ r', r.register kind b = .ok r') ↔ kind ∉ calls.map Prod.fst ∨
      ∃ first, Table.find? kind calls = some first ∧
        Identified.token first = Identified.token b := by
    rw [hnew, ← h.get?]
    cases hfirst : r.get? kind with
    | none => exact iff_of_true ⟨_, register_of_none hfirst b⟩ (.inl rfl)
    | some first =>
      rw [register_of_some hfirst]
      by_cases heq : Identified.token first = Identified.token b <;> simp [heq]
  refine ⟨hiff, fun r' hok => (offer_of_ok hok).symm, fun hbad => ?_⟩
  cases hfirst : r.get? kind with
  | none => exact absurd (hiff.mpr (.inl (hnew.mpr hfirst))) hbad
  | some first =>
    have hne : Identified.token first ≠ Identified.token b := fun heq =>
      hbad (hiff.mpr (.inr ⟨first, (h.get? kind).symm.trans hfirst, heq⟩))
    refine ⟨?_, hspace ▸ register_after_of_ne hfirst hne⟩
    rw [offer_eq, hfirst, Option.isSome_some, if_pos rfl]

end Registry

/-! ## Both registries -/

/-- A call that registers one builder. -/
inductive RegistryCall where
  | checker (kind : String) (builder : CheckerBuilder)
  | consumer (kind : String) (builder : ConsumerBuilder)

namespace RegistryCall

/-- The kind and the builder of a checker. -/
def checker? : RegistryCall → Option (String × CheckerBuilder)
  | checker kind b => some (kind, b)
  | consumer .. => none

/-- The kind and the builder of a consumer. -/
def consumer? : RegistryCall → Option (String × ConsumerBuilder)
  | checker .. => none
  | consumer kind b => some (kind, b)

/-- What tells the builder of a call from others. -/
def token : RegistryCall → Nat
  | checker _ b => b.token
  | consumer _ b => b.token

/-- The kind of a call, on the side of its registry. -/
def place : RegistryCall → String ⊕ String
  | checker kind _ => .inl kind
  | consumer kind _ => .inr kind

/-- The calls that register the bundled adapters. -/
def bundled (token : Nat) (scheduler : Bool) : List RegistryCall :=
  (bundledCheckers token scheduler).map (fun e => checker e.1 e.2) ++
    (bundledConsumers token scheduler).map fun e => consumer e.1 e.2

end RegistryCall

namespace Registries

/-- Registers one builder. -/
def register (r : Registries) : RegistryCall → Except Collision Registries
  | .checker kind b => (r.checkers.register kind b).map fun checkers => { r with checkers }
  | .consumer kind b => (r.consumers.register kind b).map fun consumers => { r with consumers }

/-- What tells the builder of a kind from others, if the kind is taken. -/
def tokenAt? (r : Registries) : String ⊕ String → Option Nat
  | .inl kind => (r.checkers.get? kind).map (·.token)
  | .inr kind => (r.consumers.get? kind).map (·.token)

end Registries

/-- Registries and the calls that were made to them. -/
structure RegistryRun where
  registries : Registries := {}
  calls : List RegistryCall := []

/-- Registers one builder, or the bundled ones. -/
inductive RegistryMove where
  | one (c : RegistryCall)
  | bundled (scheduler : Bool)

namespace RegistryRun

/-- Makes calls up to the first one that collides. -/
def attempt (s : RegistryRun) : List RegistryCall → Except Collision Unit × RegistryRun
  | [] => (.ok (), s)
  | c :: rest =>
    match s.registries.register c with
    | .ok r => attempt ⟨r, s.calls ++ [c]⟩ rest
    | .error e => (.error e, ⟨s.registries, s.calls ++ [c]⟩)

/-- A token that no builder had so far, and none above it. -/
def freshToken (s : RegistryRun) : Nat := s.calls.foldr (fun c n => max (c.token + 1) n) 0

/-- Makes the calls of a move. The bundled builders are new ones each time. -/
def step (s : RegistryRun) : RegistryMove → Except Collision Unit × RegistryRun
  | .one c => s.attempt [c]
  | .bundled scheduler => s.attempt (RegistryCall.bundled s.freshToken scheduler)

/-- The run after moves, from empty registries. -/
def after (moves : List RegistryMove) : RegistryRun := moves.foldl (fun s m => (s.step m).2) {}

/-- Each registry is what the calls for its own sort of adapters make of an empty one. -/
structure Holds (s : RegistryRun) : Prop where
  checkers : s.registries.checkers =
    ({ space := "checker" } : Registry CheckerBuilder).after
      (s.calls.filterMap RegistryCall.checker?)
  consumers : s.registries.consumers =
    ({ space := "report consumer" } : Registry ConsumerBuilder).after
      (s.calls.filterMap RegistryCall.consumer?)

end RegistryRun

section

variable {r r' : Registries} {s : RegistryRun} {c : RegistryCall} {calls : List RegistryCall}

/-- The registries once a call was made, be it that it collides. -/
def Registries.offer (r : Registries) : RegistryCall → Registries
  | .checker kind b => { r with checkers := r.checkers.offer kind b }
  | .consumer kind b => { r with consumers := r.consumers.offer kind b }

/-- A call registers a builder as its registry does, and collides as it does. -/
theorem Registries.register_cases (r : Registries) (c : RegistryCall) :
    (r.register c = .ok (r.offer c) ∧
      (r.tokenAt? c.place = none ∨ r.tokenAt? c.place = some c.token)) ∨
    (∃ e, r.register c = .error e) ∧ r.offer c = r ∧
      ∃ t, r.tokenAt? c.place = some t ∧ t ≠ c.token := by
  -- both registries answer in the same way
  have hregistry : ∀ {β : Type} [Identified β] (q : Registry β) (kind : String) (b : β),
      (q.register kind b = .ok (q.offer kind b) ∧
        ((q.get? kind).map Identified.token = none ∨
          (q.get? kind).map Identified.token = some (Identified.token b))) ∨
      (∃ e, q.register kind b = .error e) ∧ q.offer kind b = q ∧
        ∃ t, (q.get? kind).map Identified.token = some t ∧ t ≠ Identified.token b := by
    intro β _ q kind b
    cases hfirst : q.get? kind with
    | none =>
      have hok := Registry.register_of_none hfirst b
      exact .inl ⟨hok.trans (congrArg _ (Registry.offer_of_ok hok).symm), .inl rfl⟩
    | some first =>
      have hoffer : q.offer kind b = q := by
        rw [Registry.offer_eq, hfirst, Option.isSome_some, if_pos rfl]
      rw [hoffer, Registry.register_of_some hfirst]
      by_cases heq : Identified.token first = Identified.token b
      · exact .inl ⟨if_pos heq, .inr (congrArg some heq)⟩
      · exact .inr ⟨⟨_, if_neg heq⟩, rfl, _, rfl, heq⟩
  cases c with
  | checker kind b =>
    rcases hregistry r.checkers kind b with ⟨hok, htoken⟩ | ⟨⟨e, he⟩, hoffer, ht⟩
    · exact .inl ⟨by rw [register, hok, offer, Except.map], htoken⟩
    · exact .inr ⟨⟨e, by rw [register, he, Except.map]⟩, by rw [offer, hoffer], ht⟩
  | consumer kind b =>
    rcases hregistry r.consumers kind b with ⟨hok, htoken⟩ | ⟨⟨e, he⟩, hoffer, ht⟩
    · exact .inl ⟨by rw [register, hok, offer, Except.map], htoken⟩
    · exact .inr ⟨⟨e, by rw [register, he, Except.map]⟩, by rw [offer, hoffer], ht⟩

/-- A call leaves all other kinds as they are. -/
theorem Registries.tokenAt?_offer {p : String ⊕ String} (hp : p ≠ c.place) :
    (r.offer c).tokenAt? p = r.tokenAt? p := by
  have hkind : ∀ {β : Type} [Identified β] (q : Registry β) {kind k : String} (b : β), k ≠ kind →
      (q.offer kind b).get? k = q.get? k := by
    intro β _ q kind k b hne
    rw [Registry.get?_offer, if_neg (Ne.symm hne), Option.or_none]
  cases c with
  | checker kind b =>
    cases p with
    | inl k => rw [offer, tokenAt?, tokenAt?, hkind _ b fun h => hp (congrArg Sum.inl h)]
    | inr k => rfl
  | consumer kind b =>
    cases p with
    | inl k => rfl
    | inr k => rw [offer, tokenAt?, tokenAt?, hkind _ b fun h => hp (congrArg Sum.inr h)]

namespace RegistryRun

/-- Each call is made, and whether it collides is the last thing that it tells. -/
theorem attempt_cons (s : RegistryRun) (c : RegistryCall) (rest : List RegistryCall) :
    (s.registries.register c = .ok (s.registries.offer c) ∧
      s.attempt (c :: rest) = attempt ⟨s.registries.offer c, s.calls ++ [c]⟩ rest) ∨
    ∃ e, s.registries.register c = .error e ∧
      s.attempt (c :: rest) = (.error e, ⟨s.registries.offer c, s.calls ++ [c]⟩) := by
  rcases s.registries.register_cases c with ⟨hok, -⟩ | ⟨⟨e, he⟩, hoffer, -⟩
  · exact .inl ⟨hok, by simp only [attempt, hok]⟩
  · exact .inr ⟨e, he, by simp only [attempt, he, hoffer]⟩

/-- One call keeps each registry what its own calls make of it. -/
theorem Holds.offer (h : s.Holds) (c : RegistryCall) :
    (⟨s.registries.offer c, s.calls ++ [c]⟩ : RegistryRun).Holds := by
  cases c with
  | checker kind b =>
    refine ⟨?_, ?_⟩
    · rw [List.filterMap_append, Registry.after_append, ← h.checkers]
      rfl
    · rw [List.filterMap_append, Registry.after_append, ← h.consumers]
      rfl
  | consumer kind b =>
    refine ⟨?_, ?_⟩
    · rw [List.filterMap_append, Registry.after_append, ← h.checkers]
      rfl
    · rw [List.filterMap_append, Registry.after_append, ← h.consumers]
      rfl

theorem Holds.attempt (h : s.Holds) (calls : List RegistryCall) : (s.attempt calls).2.Holds := by
  induction calls generalizing s with
  | nil => exact h
  | cons c rest ih =>
    rcases s.attempt_cons c rest with ⟨-, heq⟩ | ⟨e, -, heq⟩
    · exact heq ▸ ih (h.offer c)
    · exact heq ▸ h.offer c

theorem Holds.step (h : s.Holds) (m : RegistryMove) : (s.step m).2.Holds := by
  cases m with
  | one c => exact h.attempt [c]
  | bundled scheduler => exact h.attempt _

/-- Registries follow from the calls for them after any moves. -/
theorem holds_after (moves : List RegistryMove) : (after moves).Holds := by
  have hrun : ∀ (moves : List RegistryMove) {s : RegistryRun}, s.Holds →
      (moves.foldl (fun s m => (s.step m).2) s).Holds := by
    intro moves
    induction moves with
    | nil => exact id
    | cons m rest ih => exact fun h => ih (h.step m)
  exact hrun moves ⟨rfl, rfl⟩

/-- Calls that were made stay made. -/
theorem subset_attempt (s : RegistryRun) (calls : List RegistryCall) :
    s.calls ⊆ (s.attempt calls).2.calls := by
  induction calls generalizing s with
  | nil => exact List.Subset.refl _
  | cons c rest ih =>
    have hhead : s.calls ⊆ s.calls ++ [c] := List.subset_append_left _ _
    rcases s.attempt_cons c rest with ⟨-, heq⟩ | ⟨e, -, heq⟩
    · exact heq ▸ List.Subset.trans hhead (ih ⟨s.registries.offer c, s.calls ++ [c]⟩)
    · exact heq ▸ hhead

/-- The first of some calls is made in any case. -/
theorem mem_attempt_cons (s : RegistryRun) (c : RegistryCall) (rest : List RegistryCall) :
    c ∈ (s.attempt (c :: rest)).2.calls := by
  have hhead : c ∈ s.calls ++ [c] := List.mem_append_right _ List.mem_cons_self
  rcases s.attempt_cons c rest with ⟨-, heq⟩ | ⟨e, -, heq⟩
  · exact heq ▸ subset_attempt ⟨s.registries.offer c, s.calls ++ [c]⟩ rest hhead
  · exact heq ▸ hhead

/-- New builders for different kinds are registered exactly if no kind is taken. -/
theorem attempt_ok_iff (hplaces : (calls.map RegistryCall.place).Nodup)
    (hnew : ∀ c ∈ calls, s.registries.tokenAt? c.place ≠ some c.token) :
    (s.attempt calls).1 = .ok () ↔ ∀ c ∈ calls, s.registries.tokenAt? c.place = none := by
  induction calls generalizing s with
  | nil => exact iff_of_true rfl nofun
  | cons c rest ih =>
    obtain ⟨hc, hrest⟩ := List.nodup_cons.mp hplaces
    rcases s.registries.register_cases c with ⟨hok, htoken⟩ | ⟨⟨e, he⟩, -, t, ht, -⟩
    · have hnone : s.registries.tokenAt? c.place = none :=
        htoken.resolve_right (hnew c List.mem_cons_self)
      have hother : ∀ d ∈ rest, (s.registries.offer c).tokenAt? d.place =
          s.registries.tokenAt? d.place := fun d hd =>
        Registries.tokenAt?_offer fun heq => hc (heq ▸ List.mem_map_of_mem hd)
      have hnext := ih (s := ⟨s.registries.offer c, s.calls ++ [c]⟩) hrest fun d hd =>
        (hother d hd).symm ▸ hnew d (List.mem_cons_of_mem _ hd)
      simp only [RegistryRun.attempt, hok, hnext, List.forall_mem_cons, hnone, true_and]
      exact forall₂_congr fun d hd => by rw [hother d hd]
    · simp only [RegistryRun.attempt, he, List.forall_mem_cons, ht, reduceCtorEq, false_and]

theorem token_lt_freshToken (h : c ∈ s.calls) : c.token < s.freshToken := by
  rw [freshToken]
  generalize s.calls = calls at h
  induction calls with
  | nil => cases h
  | cons d rest ih =>
    rcases List.mem_cons.mp h with rfl | h
    · exact Nat.le_max_left _ _
    · exact Nat.lt_of_lt_of_le (ih h) (Nat.le_max_right _ _)

/-- The builders that are registered came with calls, so a new token is none of theirs. -/
theorem Holds.lt_freshToken (h : s.Holds) {p : String ⊕ String} {t : Nat}
    (ht : s.registries.tokenAt? p = some t) : t < s.freshToken := by
  cases p with
  | inl kind =>
    obtain ⟨first, hfirst, rfl⟩ := Option.map_eq_some_iff.mp ht
    rw [h.checkers, (Registry.follows_after _ _).get?] at hfirst
    obtain ⟨c, hc, hcall⟩ := List.mem_filterMap.mp (Table.mem_of_find? hfirst)
    cases c with
    | checker k b =>
      obtain ⟨rfl, rfl⟩ := Prod.mk.inj (Option.some.inj hcall)
      exact token_lt_freshToken hc
    | consumer k b => cases hcall
  | inr kind =>
    obtain ⟨first, hfirst, rfl⟩ := Option.map_eq_some_iff.mp ht
    rw [h.consumers, (Registry.follows_after _ _).get?] at hfirst
    obtain ⟨c, hc, hcall⟩ := List.mem_filterMap.mp (Table.mem_of_find? hfirst)
    cases c with
    | checker k b => cases hcall
    | consumer k b =>
      obtain ⟨rfl, rfl⟩ := Prod.mk.inj (Option.some.inj hcall)
      exact token_lt_freshToken hc

/-- What calls leave if none of them collides. -/
def result (t : Except Collision Unit × RegistryRun) : Except Collision Registries :=
  t.1.map fun _ => t.2.registries

/-- Registering builders one after another in one registry is making the calls for them. -/
theorem result_attempt_map {β : Type} [Identified β] (make : String × β → RegistryCall)
    (put : Registry β → Registries)
    (hput : ∀ q e, (put q).register (make e) = (q.register e.1 e.2).map put)
    (q : Registry β) (calls rest : List RegistryCall) (entries : List (String × β)) :
    result (attempt ⟨put q, calls⟩ (entries.map make ++ rest)) =
      (q.registerAll entries).bind fun q' =>
        result (attempt ⟨put q', calls ++ entries.map make⟩ rest) := by
  induction entries generalizing q calls with
  | nil => rw [List.map_nil, List.append_nil]; rfl
  | cons e entries ih =>
    cases hregister : q.register e.1 e.2 with
    | ok q' =>
      have hcall : (put q).register (make e) = .ok (put q') := by
        rw [hput, hregister]
        rfl
      have hnext := ih q' (calls ++ [make e])
      simp only [List.map_cons, List.cons_append, attempt, hcall, hnext, List.append_assoc,
        List.nil_append, Registry.registerAll, hregister, bind, Except.bind]
    | error e' =>
      have hcall : (put q).register (make e) = .error e' := by
        rw [hput, hregister]
        rfl
      simp only [List.map_cons, List.cons_append, attempt, hcall, Registry.registerAll, hregister,
        bind, Except.bind, result, Except.map]

/-- The bundled adapters are registered by the calls for them. -/
theorem registerBundled_eq_result (s : RegistryRun) (token : Nat) (scheduler : Bool) :
    s.registries.registerBundled token scheduler =
      result (s.attempt (RegistryCall.bundled token scheduler)) := by
  obtain ⟨⟨checkers, consumers⟩, calls⟩ := s
  rw [RegistryCall.bundled, result_attempt_map _ (fun q => ⟨q, consumers⟩) (fun _ _ => rfl)]
  refine bind_congr fun q => ?_
  have hconsumers := result_attempt_map (fun e => .consumer e.1 e.2) (fun p => ⟨q, p⟩)
    (fun _ _ => rfl) consumers
    (calls ++ (bundledCheckers token scheduler).map fun e => .checker e.1 e.2) []
    (bundledConsumers token scheduler)
  rw [List.append_nil] at hconsumers
  rw [hconsumers]
  rfl

end RegistryRun

/-- The bundled builders are new ones. -/
theorem RegistryCall.le_token_of_mem_bundled {token : Nat} {scheduler : Bool}
    (h : c ∈ bundled token scheduler) : token ≤ c.token := by
  simp only [bundled, bundledCheckers, bundledConsumers, List.map_cons, List.map_nil,
    List.cons_append, List.nil_append, List.mem_cons, List.not_mem_nil, or_false] at h
  rcases h with rfl | rfl | rfl | rfl | rfl
  · exact Nat.le_refl token
  · exact Nat.le_add_right token 1
  · exact Nat.le_refl token
  · exact Nat.le_add_right token 1
  · exact Nat.le_add_right token 2

namespace RegistryRun

/-- The bundled adapters are registered exactly if none of their kinds is taken. -/
theorem Holds.bundled_ok_iff (h : s.Holds) (scheduler : Bool) :
    (s.step (.bundled scheduler)).1 = .ok () ↔
      (∀ kind ∈ [Whitelist.kind, Block.kind], s.registries.checkers.contains kind = false) ∧
        ∀ kind ∈ [Prometheus.kind, Statsd.kind, Log.kind],
          s.registries.consumers.contains kind = false := by
  have hplaces : (RegistryCall.bundled s.freshToken scheduler).map RegistryCall.place =
      [.inl Whitelist.kind, .inl Block.kind, .inr Prometheus.kind, .inr Statsd.kind,
        .inr Log.kind] := rfl
  have hnew : ∀ c ∈ RegistryCall.bundled s.freshToken scheduler,
      s.registries.tokenAt? c.place ≠ some c.token := fun c hc ht =>
    absurd (h.lt_freshToken ht) (Nat.not_lt.mpr (RegistryCall.le_token_of_mem_bundled hc))
  have hnodup : ((RegistryCall.bundled s.freshToken scheduler).map RegistryCall.place).Nodup := by
    rw [hplaces]
    decide
  have htaken : ∀ {β : Type} (q : Registry β) (kind : String) (f : β → Nat),
      (q.get? kind).map f = none ↔ q.contains kind = false := by
    intro β q kind f
    rw [Option.map_eq_none_iff, Registry.contains, SortedMap.contains, ← Registry.get?,
      Option.isSome_eq_false_iff, Option.isNone_iff_eq_none]
  have hforall : (∀ c ∈ RegistryCall.bundled s.freshToken scheduler,
      s.registries.tokenAt? c.place = none) ↔
      ∀ p ∈ (RegistryCall.bundled s.freshToken scheduler).map RegistryCall.place,
        s.registries.tokenAt? p = none := by
    rw [List.forall_mem_map]
  refine (attempt_ok_iff hnodup hnew).trans ?_
  rw [hforall, hplaces]
  simp only [List.forall_mem_cons, List.not_mem_nil, false_implies, implies_true, and_true,
    Registries.tokenAt?, htaken, and_assoc]

/-- Once the bundled adapters were to be registered, one of their kinds is taken. -/
theorem contains_after_bundled (moves later : List RegistryMove) (scheduler : Bool) :
    (after (moves ++ .bundled scheduler :: later)).registries.checkers.contains
      Whitelist.kind = true := by
  have hmade : ∃ b, RegistryCall.checker Whitelist.kind b ∈
      (after (moves ++ [.bundled scheduler])).calls := by
    rw [after, List.foldl_append]
    exact ⟨_, mem_attempt_cons _ _ _⟩
  obtain ⟨b, hmade⟩ := hmade
  have hstays : ∀ (later : List RegistryMove) {s : RegistryRun},
      RegistryCall.checker Whitelist.kind b ∈ s.calls →
      RegistryCall.checker Whitelist.kind b ∈ (later.foldl (fun s m => (s.step m).2) s).calls := by
    intro later
    induction later with
    | nil => exact id
    | cons m rest ih =>
      intro s hs
      refine ih ?_
      cases m with
      | one c => exact subset_attempt s [c] hs
      | bundled scheduler => exact subset_attempt s _ hs
  have hcalls : RegistryCall.checker Whitelist.kind b ∈
      (after (moves ++ .bundled scheduler :: later)).calls := by
    rw [List.append_cons, after, List.foldl_append]
    exact hstays later hmade
  rw [(holds_after _).checkers]
  refine ((Registry.follows_after _ _).contains _).mpr ?_
  exact List.mem_map.mpr ⟨(Whitelist.kind, b), List.mem_filterMap.mpr ⟨_, hcalls, rfl⟩, rfl⟩

end RegistryRun

end

/-- A registry that started empty holds for each kind the builder of the first call for it, and
answers calls by that builder. In a run over both registries, each of them is what the calls for
its own sort of adapters make of it. The bundled adapters are registered by such calls up to the
first collision. They are all registered exactly if none of their kinds is taken in its registry,
so never a second time. -/
theorem first_builder_stays :
    (∀ (β : Type) [Identified β] (space : String) (calls : List (String × β)),
      let r := ({ space } : Registry β).after calls
      r.Follows calls ∧ ∀ kind b, r.Answers space calls kind b) ∧
    ∀ moves : List RegistryMove,
      let s := RegistryRun.after moves
      s.Holds ∧
      (∀ kind b,
        (s.step (.one (.checker kind b))).2.registries.consumers = s.registries.consumers) ∧
      (∀ kind b,
        (s.step (.one (.consumer kind b))).2.registries.checkers = s.registries.checkers) ∧
      ∀ scheduler,
        s.registries.registerBundled s.freshToken scheduler =
          RegistryRun.result (s.step (.bundled scheduler)) ∧
        ((s.step (.bundled scheduler)).1 = .ok () ↔
          (∀ kind ∈ [Whitelist.kind, Block.kind], s.registries.checkers.contains kind = false) ∧
            ∀ kind ∈ [Prometheus.kind, Statsd.kind, Log.kind],
              s.registries.consumers.contains kind = false) ∧
        ∀ later again, ((RegistryRun.after (moves ++ .bundled scheduler :: later)).step
          (.bundled again)).1 ≠ .ok () := by
  refine ⟨fun β _ space calls => ?_, fun moves => ?_⟩
  · have hfollows := Registry.follows_after space calls
    exact ⟨hfollows, hfollows.answers (Registry.space_after _ calls)⟩
  · intro s
    have holds : s.Holds := RegistryRun.holds_after moves
    refine ⟨holds, fun kind b => ?_, fun kind b => ?_, fun scheduler =>
      ⟨RegistryRun.registerBundled_eq_result s _ _, holds.bundled_ok_iff scheduler, ?_⟩⟩
    · rcases s.attempt_cons (.checker kind b) [] with ⟨-, heq⟩ | ⟨e, -, heq⟩ <;>
        rw [RegistryRun.step, heq] <;> rfl
    · rcases s.attempt_cons (.consumer kind b) [] with ⟨-, heq⟩ | ⟨e, -, heq⟩ <;>
        rw [RegistryRun.step, heq] <;> rfl
    · intro later again hok
      have hfree := (((RegistryRun.holds_after _).bundled_ok_iff again).mp hok).1 Whitelist.kind
        List.mem_cons_self
      rw [RegistryRun.contains_after_bundled] at hfree
      cases hfree

/-- The bundled adapters are registered the first time and not the second time. -/
theorem first_builder_stays_bundled :
    (({} : RegistryRun).step (.bundled true)).1 = .ok () ∧
      ((RegistryRun.after [.bundled true]).step (.bundled false)).1 ≠ .ok () := by
  obtain ⟨-, hok, hagain⟩ := (first_builder_stays.2 []).2.2.2 true
  refine ⟨hok.mpr ⟨?_, ?_⟩, hagain [] false⟩
  · exact fun kind _ => rfl
  · exact fun kind _ => rfl

end ServiceControl
