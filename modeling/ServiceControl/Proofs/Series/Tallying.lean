import Mathlib.Data.List.Induction
import Mathlib.Data.List.Nodup
import ServiceControl.Proofs.Series.Recording

/-!
# Series depend on the reports alone

However reports are handed over, in whatever order and groups, and whenever the page is shown
between them, the state accounts for the same recordings: each counter has the sum of its
increments, and each histogram and summary counts its samples, whether a page has shown them or
they still wait for one. So two ways of handing over the same reports lead to the same series,
up to sums of samples.
-/

namespace ServiceControl

open scoped List

/-- Tables without repeated keys in which the same is found have the same entries. -/
theorem Table.perm_of_find? {κ : Type u} [DecidableEq κ] {α : Type v} {t u : Table κ α}
    (ht : (t.map Prod.fst).Nodup) (hu : (u.map Prod.fst).Nodup)
    (h : ∀ k, find? k t = find? k u) : t.Perm u := by
  refine (List.perm_ext_iff_of_nodup (.of_map _ ht) (.of_map _ hu)).mpr fun (k, a) => ?_
  constructor
  · intro hmem
    exact mem_of_find? ((h k).symm.trans (find?_of_mem ht hmem))
  · intro hmem
    exact mem_of_find? ((h k).trans (find?_of_mem hu hmem))

namespace Prometheus

namespace Tally

/-- A tally without its sum. -/
def withoutSum : Tally → Tally
  | histogram h => .histogram { h with sum := .zero }
  | summary s => .summary { s with sum := .zero }

/-- Whether what is shown of a series counts given samples; nothing is shown only
if there are none. -/
def Counts (layout : Option (ExponentialBuckets Binary64)) (samples : List Binary64) :
    Option Tally → Prop
  | none => samples = []
  | some t => t.withoutSum = ofSamples layout samples

variable {layout : Option (ExponentialBuckets Binary64)} {xs ys : List Binary64}

/-- A tally that takes in a block counts its samples as well. -/
theorem withoutSum_observe {t : Tally} (h : t.withoutSum = ofSamples layout xs) :
    (t.observe ys).withoutSum = ofSamples layout (xs ++ ys) := by
  cases t with
  | histogram t =>
    cases layout with
    | none => cases h
    | some l =>
      obtain ⟨bounds, atMost, count, sum⟩ := t
      simp only [withoutSum, ofSamples, histogram.injEq, Histogram.mk.injEq, and_true] at h
      obtain ⟨rfl, rfl, rfl⟩ := h
      simp [observe, Histogram.observe, withoutSum, ofSamples, List.zipWith_map_right]
  | summary t =>
    cases layout with
    | some l => cases h
    | none =>
      obtain ⟨count, sum⟩ := t
      simp only [withoutSum, ofSamples, summary.injEq, Summary.mk.injEq, and_true] at h
      subst h
      simp [observe, Summary.observe, withoutSum, ofSamples]

end Tally

namespace Pending

/-- The samples that wait for a page. -/
def samples (p : Pending) : List Binary64 := p.blocks.flatten

/-- A sample that is kept waits before the others. -/
theorem samples_push (p : Pending) (x : Binary64) : (p.push x).samples = x :: p.samples := by
  obtain ⟨layout, blocks⟩ := p
  cases blocks with
  | nil => rfl
  | cons b r =>
    simp only [push, samples]
    split <;> rfl

theorem foldl_push (xs : List Binary64) (p : Pending) :
    (xs.foldl push p).samples = xs.reverse ++ p.samples ∧
      (xs.foldl push p).layout = p.layout := by
  induction xs generalizing p with
  | nil => exact ⟨rfl, rfl⟩
  | cons x xs ih =>
    obtain ⟨hsamples, hlayout⟩ := ih (p.push x)
    refine ⟨?_, hlayout⟩
    rw [List.foldl_cons, hsamples, samples_push, List.reverse_cons, List.append_assoc]
    rfl

/-- A tally that samples are moved to counts them as well. -/
theorem counts_pour (p : Pending) {o : Option Tally} {xs : List Binary64}
    (h : Tally.Counts p.layout xs o) :
    Tally.Counts p.layout (xs ++ p.samples) (some (p.pour o)) := by
  have hstart : (o.getD (.empty p.layout)).withoutSum = .ofSamples p.layout xs := by
    cases o with
    | some t => exact h
    | none =>
      obtain rfl : xs = [] := h
      cases p.layout <;> rfl
  have hblocks : ∀ (blocks : List (List Binary64)) (t : Tally) (ys : List Binary64),
      t.withoutSum = .ofSamples p.layout ys →
      (blocks.foldl (fun t b => t.observe b.reverse) t).withoutSum =
        .ofSamples p.layout (ys ++ blocks.flatten) := by
    intro blocks
    induction blocks with
    | nil =>
      intro t ys ht
      rwa [List.flatten_nil, List.append_nil]
    | cons b rest ih =>
      intro t ys ht
      have hb : (t.observe b.reverse).withoutSum = .ofSamples p.layout (ys ++ b) :=
        (Tally.withoutSum_observe ht).trans
          (Tally.ofSamples_perm (b.reverse_perm.append_left ys) p.layout)
      rw [List.foldl_cons, ih _ _ hb, List.flatten_cons, List.append_assoc]
  exact hblocks p.blocks _ xs hstart

end Pending

/-- The samples that wait under series which are shown alike. -/
def pendingSamples (key : ShownSeries) (pending : Table Series Pending) : List Binary64 :=
  (pending.filter fun e => e.1.shown = key).flatMap fun e => e.2.samples

theorem pendingSamples_cons (key : ShownSeries) (e : Series × Pending)
    (pending : Table Series Pending) :
    pendingSamples key (e :: pending) =
      (if e.1.shown = key then e.2.samples else []) ++ pendingSamples key pending := by
  by_cases h : e.1.shown = key <;> simp [pendingSamples, h]

/-- Samples that are kept wait under their series as it is shown. -/
theorem pendingSamples_alter (key : ShownSeries) (s : Series)
    (layout : Option (ExponentialBuckets Binary64)) (xs : List Binary64)
    (pending : Table Series Pending) :
    (pendingSamples key
      (Table.alter s (fun p => xs.foldl Pending.push (p.getD { layout })) pending)).Perm
      ((if s.shown = key then xs else []) ++ pendingSamples key pending) := by
  induction pending with
  | nil =>
    rw [Table.alter, pendingSamples_cons, (Pending.foldl_push xs _).1]
    split
    · simp [pendingSamples, Pending.samples]
    · exact .refl _
  | cons e rest ih =>
    obtain ⟨k, p⟩ := e
    by_cases hk : k = s
    · subst hk
      rw [Table.alter, if_pos rfl, pendingSamples_cons, pendingSamples_cons,
        (Pending.foldl_push xs _).1]
      split
      · rw [← List.append_assoc]
        exact (xs.reverse_perm.append_right p.samples).append_right _
      · exact .refl _
    · rw [Table.alter, if_neg hk, pendingSamples_cons, pendingSamples_cons]
      exact (ih.append_left _).trans (List.perm_append_comm_assoc _ _ _)

/-- The tallies to which all waiting samples were moved. -/
def poured (pending : Table Series Pending) (tallies : Table ShownSeries Tally) :
    Table ShownSeries Tally :=
  pending.foldl (fun t e => Table.alter e.1.shown e.2.pour t) tallies

/-- A series is shown if it was before or if samples wait under it. -/
theorem mem_keys_poured {key : ShownSeries} {pending : Table Series Pending}
    {tallies : Table ShownSeries Tally} :
    key ∈ (poured pending tallies).map Prod.fst ↔
      key ∈ tallies.map Prod.fst ∨ ∃ k ∈ pending.map Prod.fst, k.shown = key := by
  induction pending generalizing tallies with
  | nil => simp [poured]
  | cons e rest ih =>
    rw [poured, List.foldl_cons, ← poured, ih, Table.mem_keys_alter, List.map_cons,
      List.exists_mem_cons_iff, or_assoc, or_left_comm, eq_comm]

/-- No series is shown twice. -/
theorem nodup_keys_poured {pending : Table Series Pending} {tallies : Table ShownSeries Tally}
    (h : (tallies.map Prod.fst).Nodup) : ((poured pending tallies).map Prod.fst).Nodup := by
  induction pending generalizing tallies with
  | nil => exact h
  | cons e rest ih => exact ih (Table.nodup_keys_alter h)

/-- What was counted is still counted, and what has waited is counted too. -/
theorem counts_poured {key : ShownSeries} {pending : Table Series Pending}
    {tallies : Table ShownSeries Tally} {xs : List Binary64}
    (hlayouts : ∀ e ∈ pending, e.2.layout = layoutOf e.1.name)
    (h : Tally.Counts (layoutOf key.name) xs (Table.find? key tallies)) :
    Tally.Counts (layoutOf key.name) (xs ++ pendingSamples key pending)
      (Table.find? key (poured pending tallies)) := by
  induction pending generalizing tallies xs with
  | nil => rwa [pendingSamples, List.filter_nil, List.flatMap_nil, List.append_nil]
  | cons e rest ih =>
    have hrest : ∀ e ∈ rest, e.2.layout = layoutOf e.1.name := fun e he =>
      hlayouts e (List.mem_cons_of_mem _ he)
    rw [poured, List.foldl_cons, ← poured, pendingSamples_cons]
    by_cases hkey : e.1.shown = key
    · have hlayout : e.2.layout = layoutOf key.name := by
        rw [← hkey]
        exact hlayouts e List.mem_cons_self
      have hpour : Tally.Counts (layoutOf key.name) (xs ++ e.2.samples)
          (Table.find? key (Table.alter e.1.shown e.2.pour tallies)) := by
        rw [Table.find?_alter, if_pos hkey, hkey, ← hlayout]
        exact e.2.counts_pour (hlayout ▸ h)
      rw [if_pos hkey, ← List.append_assoc]
      exact ih hrest hpour
    · rw [if_neg hkey, List.nil_append]
      refine ih hrest ?_
      rwa [Table.find?_alter, if_neg hkey]

/-- The increment of a recording comes on top of those before it. -/
theorem counterOf_snoc (key : Series) (rs : List Recording) (r : Recording) :
    counterOf key (rs ++ [r]) =
      match r.increment? key with
      | none => counterOf key rs
      | some n => some ((counterOf key rs).getD 0 + n) := by
  have hsplit : incrementsOf key (rs ++ [r]) =
      incrementsOf key rs ++ (r.increment? key).toList := by
    rw [incrementsOf, List.filterMap_append, ← incrementsOf, List.filterMap_cons]
    cases r.increment? key <;> rfl
  cases hr : r.increment? key with
  | none => rw [counterOf, hsplit, hr, Option.toList_none, List.append_nil, ← counterOf]
  | some n =>
    rw [counterOf, hsplit, hr]
    by_cases hempty : incrementsOf key rs = []
    · simp [counterOf, hempty]
    · simp [counterOf, hempty, UInt64.ofNat_add]

/-- The samples of a recording come behind those before it. -/
theorem observationsOf_snoc (key : ShownSeries) (rs : List Recording) (r : Recording) :
    observationsOf key (rs ++ [r]) = observationsOf key rs ++ (r.samples? key).toList := by
  rw [observationsOf, List.filterMap_append, ← observationsOf, List.filterMap_cons]
  cases r.samples? key <;> rfl

namespace State

/-- A state accounts for recordings: its counters have their sums, and its tallies and what waits
for them have their samples. -/
structure Accounts (rs : List Recording) (s : State) : Prop where
  distinctCounters : (s.counters.map Prod.fst).Nodup
  distinctTallies : (s.tallies.map Prod.fst).Nodup
  counters : ∀ key, Table.find? key s.counters = counterOf key rs
  layouts : ∀ e ∈ s.pending, e.2.layout = layoutOf e.1.name
  shown : ∀ key,
    (key ∈ s.tallies.map Prod.fst ∨ ∃ k ∈ s.pending.map Prod.fst, k.shown = key) ↔
      observationsOf key rs ≠ []
  samples : ∀ key, ∃ xs, Tally.Counts (layoutOf key.name) xs (Table.find? key s.tallies) ∧
    (xs ++ pendingSamples key s.pending).Perm (observationsOf key rs).flatten

variable {rs : List Recording} {s : State}

/-- At first there is nothing to account for. -/
theorem accounts_nil : Accounts [] {} where
  distinctCounters := List.nodup_nil
  distinctTallies := List.nodup_nil
  counters _ := rfl
  layouts := nofun
  shown _ := by simp [observationsOf]
  samples _ := ⟨[], rfl, .refl _⟩

/-- An increment is accounted for. -/
theorem Accounts.count (h : s.Accounts rs) (k : Series) (n : UInt64) :
    (s.record (.count k n)).Accounts (rs ++ [.count k n]) := by
  have hsame : ∀ key, observationsOf key (rs ++ [.count k n]) = observationsOf key rs :=
    fun key => (observationsOf_snoc key rs _).trans (List.append_nil _)
  refine ⟨Table.nodup_keys_alter h.distinctCounters, h.distinctTallies, ?_, h.layouts, ?_, ?_⟩
  · intro key
    rw [counterOf_snoc, State.record, Table.find?_alter, h.counters, h.counters,
      Recording.increment?]
    by_cases hkey : k = key
    · rw [if_pos hkey, if_pos hkey, hkey]
    · rw [if_neg hkey, if_neg hkey]
  · intro key
    rw [hsame]
    exact h.shown key
  · intro key
    rw [hsame]
    exact h.samples key

/-- So are samples with the layout of their name. -/
theorem Accounts.observe (h : s.Accounts rs) (k : Series) (xs : List Binary64) :
    (s.record (.observe k (layoutOf k.name) xs)).Accounts
      (rs ++ [.observe k (layoutOf k.name) xs]) := by
  have hsamples : ∀ key, observationsOf key (rs ++ [.observe k (layoutOf k.name) xs]) =
      observationsOf key rs ++ if k.shown = key then [xs] else [] := by
    intro key
    rw [observationsOf_snoc, Recording.samples?]
    split <;> rfl
  refine ⟨h.distinctCounters, h.distinctTallies, ?_, ?_, ?_, ?_⟩
  · intro key
    rw [counterOf_snoc]
    exact h.counters key
  · refine Table.forall_mem_alter h.layouts fun o ho => ?_
    rw [(Pending.foldl_push xs _).2]
    cases o with
    | none => rfl
    | some p => exact ho p rfl
  · intro key
    have hkeys : (∃ k' ∈ (s.record (.observe k (layoutOf k.name) xs)).pending.map Prod.fst,
        k'.shown = key) ↔ k.shown = key ∨ ∃ k' ∈ s.pending.map Prod.fst, k'.shown = key := by
      simp only [State.record, Table.mem_keys_alter, or_and_right, exists_or, exists_eq_left]
    have hbefore := h.shown key
    rw [hkeys, or_left_comm, hsamples]
    by_cases hkey : k.shown = key
    · simp [hkey]
    · rw [or_iff_right hkey, if_neg hkey, List.append_nil]
      exact hbefore
  · intro key
    obtain ⟨tallied, htallied, hperm⟩ := h.samples key
    refine ⟨tallied, htallied, ?_⟩
    have hnew : (if k.shown = key then [xs] else []).flatten =
        if k.shown = key then xs else [] := by
      split <;> simp
    rw [hsamples, List.flatten_append, hnew]
    calc tallied ++ pendingSamples key (s.record (.observe k (layoutOf k.name) xs)).pending
      _ ~ tallied ++ ((if k.shown = key then xs else []) ++ pendingSamples key s.pending) :=
        (pendingSamples_alter key k _ xs s.pending).append_left tallied
      _ ~ (tallied ++ pendingSamples key s.pending) ++ (if k.shown = key then xs else []) := by
        rw [List.append_assoc]
        exact List.perm_append_comm.append_left tallied
      _ ~ (observationsOf key rs).flatten ++ (if k.shown = key then xs else []) :=
        hperm.append_right _

/-- Every recording with the layout of its name is accounted for. -/
theorem Accounts.record (h : s.Accounts rs) {r : Recording} (hr : r.IsLaidOut) :
    (s.record r).Accounts (rs ++ [r]) := by
  cases r with
  | count k n => exact h.count k n
  | observe k l xs =>
    obtain rfl : l = layoutOf k.name := hr
    exact h.observe k xs

/-- Reports are accounted for. -/
theorem Accounts.consume (h : s.Accounts rs) (reports : List ReportRequest) :
    (s.consume reports).Accounts (rs ++ reports.flatMap recordings) := by
  have hall : ∀ (new : List Recording), (∀ r ∈ new, r.IsLaidOut) → ∀ (rs : List Recording)
      (s : State), s.Accounts rs → (new.foldl State.record s).Accounts (rs ++ new) := by
    intro new
    induction new with
    | nil =>
      intro _ rs s h
      rwa [List.append_nil]
    | cons r rest ih =>
      intro hnew rs s h
      have hrest := ih (fun x hx => hnew x (List.mem_cons_of_mem _ hx)) _ _
        (h.record (hnew r List.mem_cons_self))
      rwa [List.append_assoc] at hrest
  refine hall _ (fun r hr => ?_) rs s h
  obtain ⟨report, -, hr⟩ := List.mem_flatMap.mp hr
  exact isLaidOut_of_recordings hr

/-- So is what moves to the tallies. -/
theorem Accounts.settle (h : s.Accounts rs) : s.settle.Accounts rs where
  distinctCounters := h.distinctCounters
  distinctTallies := nodup_keys_poured h.distinctTallies
  counters := h.counters
  layouts := nofun
  shown key := by
    rw [← h.shown key]
    exact (or_iff_left nofun).trans mem_keys_poured
  samples key := by
    obtain ⟨xs, hxs, hperm⟩ := h.samples key
    refine ⟨xs ++ pendingSamples key s.pending, counts_poured h.layouts hxs, ?_⟩
    exact (List.append_nil _).symm ▸ hperm

/-- What a page shows of the tallies besides their sums. -/
def counts (s : State) : Table ShownSeries Tally :=
  s.settle.tallies.map fun e => (e.1, e.2.withoutSum)

/-- A page shows what was recorded. -/
theorem Accounts.find?_counts (h : s.Accounts rs) (key : ShownSeries) :
    Table.find? key s.counts = tallyOf key rs := by
  have hshown : key ∈ s.settle.tallies.map Prod.fst ↔ observationsOf key rs ≠ [] :=
    (or_iff_left nofun).symm.trans (h.settle.shown key)
  obtain ⟨xs, hxs, hperm⟩ := h.settle.samples key
  have hperm : xs.Perm (observationsOf key rs).flatten := (List.append_nil xs).symm ▸ hperm
  rw [counts, Table.find?_map]
  cases hfind : Table.find? key s.settle.tallies with
  | none =>
    have hnone : observationsOf key rs = [] :=
      not_not.mp (mt hshown.mpr (Table.find?_eq_none_iff.mp hfind))
    rw [tallyOf, hnone]
    rfl
  | some t =>
    have hmem : key ∈ s.settle.tallies.map Prod.fst :=
      List.mem_map_of_mem (f := Prod.fst) (Table.mem_of_find? hfind)
    have hsome : (observationsOf key rs).isEmpty = false := by
      rw [List.isEmpty_eq_false_iff]
      exact hshown.mp hmem
    rw [hfind] at hxs
    rw [tallyOf, hsome, Option.map_some]
    exact congrArg some (hxs.trans (Tally.ofSamples_perm hperm _))

/-- A page shows each series once. -/
theorem Accounts.nodup_counts (h : s.Accounts rs) : (s.counts.map Prod.fst).Nodup := by
  rw [counts, List.map_map]
  exact h.settle.distinctTallies

end State

/-- What is done to the consumer. -/
inductive Turn where
  /-- Reports are handed over. -/
  | consume (reports : List ReportRequest)
  /-- The page is shown. -/
  | render

/-- The reports of a turn. -/
def Turn.reports : Turn → List ReportRequest
  | consume reports => reports
  | render => []

namespace State

/-- The state after a turn. -/
def turn (s : State) : Turn → State
  | .consume reports => s.consume reports
  | .render => s.render.2

/-- The state after turns from the start. -/
def after (turns : List Turn) : State := turns.foldl turn {}

/-- Whatever the turns, the state accounts for the reports that were handed over. -/
theorem accounts_after (turns : List Turn) :
    (after turns).Accounts ((turns.flatMap Turn.reports).flatMap recordings) := by
  induction turns using List.reverseRecOn with
  | nil => exact accounts_nil
  | append_singleton turns t ih =>
    rw [after, List.foldl_append, List.flatMap_append, List.flatMap_append, List.flatMap_singleton]
    cases t with
    | consume reports => exact ih.consume reports
    | render =>
      rw [Turn.reports, List.flatMap_nil, List.append_nil]
      exact ih.settle

/-- In two runs that hand over the same reports, in any order and groups and with pages shown at any
time, all counters are the same, and so is what a page shows of all histograms and summaries besides
sums: the series that are there, how many samples are at most each bound, and how many there are. A
counter is there if a value is mapped to it, and has the sum of the counts of these values modulo
the size of a word, in which negative and missing counts are nothing. A histogram or summary is
there if samples were recorded for it, and counts all of them. -/
theorem same_series_of_perm (turns turns' : List Turn)
    (h : (turns.flatMap Turn.reports).Perm (turns'.flatMap Turn.reports)) :
    let s := after turns
    let reports := turns.flatMap Turn.reports
    s.counters.Perm (after turns').counters ∧ s.counts.Perm (after turns').counts ∧
    (∀ key, let values := reports.flatMap (countedValues key)
      Table.find? key s.counters = if values.isEmpty then none
        else some (UInt64.ofNat (values.map fun v => (v.int64.getD 0).toNatClampNeg).sum)) ∧
    ∀ key, Table.find? key s.counts = tallyOf key (reports.flatMap recordings) := by
  intro s reports
  have hperm : (reports.flatMap recordings).Perm
      ((turns'.flatMap Turn.reports).flatMap recordings) := h.flatMap_right _
  have hs : s.Accounts (reports.flatMap recordings) := accounts_after turns
  have ht := accounts_after turns'
  refine ⟨?_, ?_, ?_, hs.find?_counts⟩
  · refine Table.perm_of_find? hs.distinctCounters ht.distinctCounters fun key => ?_
    rw [hs.counters, ht.counters]
    exact counterOf_perm hperm key
  · refine Table.perm_of_find? hs.nodup_counts ht.nodup_counts fun key => ?_
    rw [hs.find?_counts, ht.find?_counts]
    exact tallyOf_perm hperm key
  · intro key
    rw [hs.counters]
    exact counterOf_recordings key reports

/-- A report that counts calls. -/
def callReport (count : Int64) : ReportRequest where
  service := "shelves"
  operations := [{ metrics := [⟨KnownMetric.requestCount.name, [{ int64 := some count }]⟩] }]

/-- Two reports at once, and the same ones in turn, the later one first and with a
page between them. -/
def atOnce : List Turn := [.consume [callReport 5, callReport 7]]

def inTurn : List Turn := [.consume [callReport 7], .render, .consume [], .consume [callReport 5]]

/-- Either way one counter has counted twelve calls. -/
theorem same_series_of_perm_inTurn :
    (atOnce.flatMap Turn.reports).Perm (inTurn.flatMap Turn.reports) ∧
    (after atOnce).counters.Perm (after inTurn).counters ∧
    (after atOnce).counts.Perm (after inTurn).counts ∧
    (after inTurn).counters.map Prod.snd = [12] := by
  have hperm : (atOnce.flatMap Turn.reports).Perm (inTurn.flatMap Turn.reports) := .swap ..
  obtain ⟨hcounters, hcounts, -, -⟩ := same_series_of_perm atOnce inTurn hperm
  exact ⟨hperm, hcounters, hcounts, by decide +kernel⟩

end State

end Prometheus

end ServiceControl
