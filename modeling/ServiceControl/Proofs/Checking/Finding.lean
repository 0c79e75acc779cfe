import ServiceControl.Proofs.Checking.Accounting
import ServiceControl.Proofs.Params.Identity

/-!
# Finding the checker of a key

Checkers are kept in buckets, and the bucket of a key is told by a hash of the data that the
key feeds to a hasher. Whatever the hash function is, the buckets answer like the table of all
that was stored: equal keys feed the same data, so they lead to one bucket, and other keys of a
bucket are told apart there. So a checker is found under a key exactly if one was made under an
equal kind, id and params since checkers were last given up, in whatever order the fields of
the params were put in.
-/

namespace ServiceControl

/-- The data that a key feeds to a hasher. -/
def CheckerKey.hashParts (key : CheckerKey) : List HashPart :=
  .text key.kind :: .text key.id :: key.params.hashParts

/-- Keys are equal exactly if kind and id are and params compare equal. -/
theorem CheckerKey.eq_iff {k l : CheckerKey} :
    k = l ↔ k.kind = l.kind ∧ k.id = l.id ∧ k.params.cmp l.params = .eq := by
  obtain ⟨kind, id, params⟩ := k
  obtain ⟨kind', id', params'⟩ := l
  rw [CheckerKey.mk.injEq, Std.LawfulEqCmp.compare_eq_iff_eq]

/-- Keys feed the same data exactly if they are equal. -/
theorem CheckerKey.hashParts_eq_iff {k l : CheckerKey} : k.hashParts = l.hashParts ↔
    k.kind = l.kind ∧ k.id = l.id ∧ k.params.cmp l.params = .eq := by
  simp only [hashParts, List.cons.injEq, HashPart.text.injEq, Params.hashParts_eq_iff,
    Std.LawfulEqCmp.compare_eq_iff_eq]

/-- Checkers in buckets, each under its key. -/
abbrev Buckets := Nat → Table CheckerKey Instance

namespace Buckets

variable (hash : List HashPart → Nat)

/-- Stores a checker in the bucket of its key, in place of one that is there under an equal key. -/
def store (t : Buckets) (e : CheckerKey × Instance) : Buckets := fun bucket =>
  if bucket = hash e.1.hashParts then Table.alter e.1 (fun _ => e.2) (t bucket) else t bucket

/-- Stores checkers one after another. -/
def storeAll (stored : List (CheckerKey × Instance)) : Buckets :=
  stored.foldl (store hash) fun _ => []

/-- Looks for a key in its bucket. -/
def find? (t : Buckets) (key : CheckerKey) : Option Instance :=
  Table.find? key (t (hash key.hashParts))

/-- What is stored is found under its own key and makes no difference to others, even to those in
the same bucket. -/
theorem find?_store (t : Buckets) (e : CheckerKey × Instance) (key : CheckerKey) :
    (t.store hash e).find? hash key = if e.1 = key then some e.2 else t.find? hash key := by
  unfold find? store
  by_cases hbucket : hash key.hashParts = hash e.1.hashParts
  · rw [if_pos hbucket, Table.find?_alter]
  · have hne : e.1 ≠ key := by
      rintro rfl
      exact hbucket rfl
    rw [if_neg hbucket, if_neg hne]

/-- If nothing is stored twice under one key, buckets answer like the table of what was stored. -/
theorem find?_storeAll {stored : List (CheckerKey × Instance)}
    (h : (stored.map Prod.fst).Nodup) (key : CheckerKey) :
    (storeAll hash stored).find? hash key = Table.find? key stored := by
  suffices hfold : ∀ t : Buckets, (stored.foldl (store hash) t).find? hash key =
      (Table.find? key stored).or (t.find? hash key) by
    rw [storeAll, hfold]
    exact Option.or_none
  induction stored with
  | nil => exact fun _ => rfl
  | cons e rest ih =>
    obtain ⟨hnot, hrest⟩ := List.nodup_cons.mp h
    intro t
    rw [List.foldl_cons, ih hrest, find?_store, Table.find?]
    by_cases hkey : e.1 = key
    · have hnone : Table.find? key rest = none := Table.find?_eq_none_iff.mpr (hkey ▸ hnot)
      rw [if_pos hkey, if_pos hkey, hnone, Option.none_or, Option.some_or]
    · rw [if_neg hkey, if_neg hkey]

end Buckets

namespace CheckerPool

/-- A checker is found exactly under the keys that are equal to one under which it is listed. -/
theorem find?_eq_some_iff {stored : List (CheckerKey × Instance)} (h : (stored.map Prod.fst).Nodup)
    {key : CheckerKey} {i : Instance} : Table.find? key stored = some i ↔
      ∃ k, (k, i) ∈ stored ∧ k.kind = key.kind ∧ k.id = key.id ∧ k.params.cmp key.params = .eq := by
  constructor
  · intro hfind
    exact ⟨key, Table.mem_of_find? hfind, CheckerKey.eq_iff.mp rfl⟩
  · rintro ⟨k, hk, hequal⟩
    exact CheckerKey.eq_iff.mpr hequal ▸ Table.find?_of_mem h hk

/-- Typed params are told apart by their structure alone. Values of any nesting and params are
each in a total order, in which params are compared as sequences of names and values, and values
by variant and then by content. Params that were put together from fields, and records inside
from theirs, compare equal exactly if what was put in last is the same at every path of names,
and equal params are those that feed the same data to a hasher. So whatever was checked, changed
and given up before, and whatever the hash function is, buckets of the checkers that were made
since the last time answer like the pool, and find a checker exactly if it was made under an
equal kind, id and params. -/
theorem params_are_lawful_keys :
    (IsTotalOrder Param.cmp ∧ IsTotalOrder Params.cmp) ∧
    -- Params and records as sequences, values by variant and then by content.
    ((∀ a b : Params, a.cmp b = List.compareLex Param.compareField a.entries b.entries) ∧
      (∀ a b, (Param.record a).cmp (.record b) = List.compareLex Param.compareField a b) ∧
      (∀ a b : Param, a.variant < b.variant → a.cmp b = .lt) ∧
      (∀ a b, (Param.text a).cmp (.text b) = compare a b) ∧
      (∀ a b, (Param.int a).cmp (.int b) = compare a b) ∧
      (∀ a b, (Param.flag a).cmp (.flag b) = compare a b) ∧
      ∀ a b, (Param.texts a).cmp (.texts b) = List.compareLex compare a b) ∧
    -- However fields were put in, and what a hasher is fed.
    (∀ puts others : List (String × Assembly),
      (Assembly.params puts).cmp (Assembly.params others) = .eq ↔
        ∀ path, (Assembly.record puts).at? path = (Assembly.record others).at? path) ∧
    (∀ a b : Params, a.hashParts = b.hashParts ↔ a.cmp b = .eq) ∧
    (∀ k l : CheckerKey, k.hashParts = l.hashParts ↔
      k.kind = l.kind ∧ k.id = l.id ∧ k.params.cmp l.params = .eq) ∧
    -- What is found in a pool, and in buckets of the checkers that were made.
    ∀ (hash : List HashPart → Nat) (start : Services) (history : List PoolOperation),
      let fresh : CheckerPool := { services := start }
      let stored := (fresh.turnsSince [] history).filterMap (·.2.made?)
      ∀ key, (Buckets.storeAll hash stored).find? hash key = (fresh.applyAll history).kept? key ∧
        ∀ i, (fresh.applyAll history).kept? key = some i ↔
          ∃ k, (k, i) ∈ stored ∧ k.kind = key.kind ∧ k.id = key.id ∧
            k.params.cmp key.params = .eq := by
  refine ⟨⟨.of_lawful _, .of_lawful _⟩, ⟨fun a b => Param.cmpFields_eq _ _, Param.cmpFields_eq,
    fun a b => Param.cmp_of_variant_lt, fun _ _ => rfl, fun _ _ => rfl, ?_, Param.compareTexts_eq⟩,
    ?_, ?_, fun k l => CheckerKey.hashParts_eq_iff, ?_⟩
  · rintro (_ | _) (_ | _) <;> rfl
  · intro puts others
    rw [Std.LawfulEqCmp.compare_eq_iff_eq, Assembly.params_eq_iff]
  · intro a b
    rw [Std.LawfulEqCmp.compare_eq_iff_eq, Params.hashParts_eq_iff]
  · intro hash start history fresh stored key
    obtain ⟨hbalanced, hfollows⟩ :=
      balanced_applyAll (Balanced.of_start start) (Follows.of_start start) history
    have hkept : (fresh.applyAll history).kept = stored := hfollows.kept
    have hnodup : (stored.map Prod.fst).Nodup := hkept ▸ hbalanced.inOrder.keys
    have hfind : (fresh.applyAll history).kept? key = Table.find? key stored := by
      rw [kept?, hkept]
    exact ⟨(Buckets.find?_storeAll hash hnodup key).trans hfind.symm,
      fun i => by rw [hfind, find?_eq_some_iff hnodup]⟩

/-- Params with a record, put together in two ways: in another order, and with a field
that is put in again. -/
theorem params_are_lawful_keys_nested :
    let one := Assembly.params
      [("Flist", .record [("Wl", .text "a"), ("On", .flag true)]), ("Limit", .int 1)]
    let other := Assembly.params
      [("Limit", .int 7), ("Flist", .record [("On", .flag true), ("Wl", .text "a")]),
        ("Limit", .int 1)]
    one.cmp other = .eq ∧ one.hashParts = other.hashParts ∧
      (Param.text "b").variant < (Param.int 0).variant ∧ (Param.text "b").cmp (.int 0) = .lt := by
  intro one other
  obtain ⟨-, ⟨-, -, hvariant, -⟩, -, hhash, -⟩ := params_are_lawful_keys
  have hequal : one.cmp other = .eq := by decide +kernel
  exact ⟨hequal, (hhash one other).mpr hequal, by decide, hvariant _ _ (by decide)⟩

end CheckerPool

end ServiceControl
