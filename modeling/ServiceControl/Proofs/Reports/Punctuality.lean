import ServiceControl.Proofs.Reports.Passing

/-!
# Batches go out on time

Items are noted with the instants at which they came, and batches with those at which they went
out. Three things end a batch that begins with some item: its time is over, counted from when
that item came; the item came that makes it complete; or the batcher was closed. A batch is
punctual if it goes out at the first of these instants. Each step of a batcher keeps its batches
punctual, whichever items wait, as long as no time passes while there is something to do, and
none beyond the end of a batch.
-/

namespace ServiceControl

variable {α : Type} {limit timeout now instant : Nat} {closedAt? : Option Nat}
  {taken later more arrivals pending : List (Nat × α)} {flushes : List (Nat × List α)}

/-- The instants that end a batch which begins with the first of the arrivals. -/
def endings (limit timeout : Nat) (closedAt? : Option Nat) : List (Nat × α) → List Nat
  | [] => []
  | first :: rest =>
    (first.1 + timeout) :: ((first :: rest)[limit - 1]?.map Prod.fst).toList ++ closedAt?.toList

theorem mem_endings {first : Nat × α} {rest : List (Nat × α)} :
    instant ∈ endings limit timeout closedAt? (first :: rest) ↔
      instant = first.1 + timeout ∨
      (∃ last, (first :: rest)[limit - 1]? = some last ∧ last.1 = instant) ∨
      closedAt? = some instant := by
  simp [endings]

/-- What comes later does not end a batch that has ended. -/
theorem min?_endings_append (h : (endings limit timeout closedAt? arrivals).min? = some instant)
    (hmore : ∀ x ∈ more, instant ≤ x.1) :
    (endings limit timeout closedAt? (arrivals ++ more)).min? = some instant := by
  cases arrivals with
  | nil => cases h
  | cons first rest =>
    obtain ⟨hmem, hle⟩ := List.min?_eq_some_iff.mp h
    refine List.min?_eq_some_iff.mpr ⟨?_, ?_⟩
    · refine mem_endings.mpr ((mem_endings.mp hmem).imp_right (Or.imp_left ?_))
      rintro ⟨last, hlast, rfl⟩
      have hlt := (List.getElem?_eq_some_iff.mp hlast).1
      exact ⟨last, (List.getElem?_append_left hlt).trans hlast, rfl⟩
    · intro other hother
      rw [List.cons_append] at hother
      rcases mem_endings.mp hother with hother | ⟨last, hlast, rfl⟩ | hother
      · exact hle other (mem_endings.mpr (.inl hother))
      · rw [← List.cons_append, List.getElem?_append] at hlast
        split at hlast
        · exact hle last.1 (mem_endings.mpr (.inr (.inl ⟨last, hlast, rfl⟩)))
        · exact hmore last (List.mem_of_getElem? hlast)
      · exact hle other (mem_endings.mpr (.inr (.inr hother)))

/-- Nor does closing. -/
theorem min?_endings_close (h : (endings limit timeout none arrivals).min? = some instant)
    (hnow : instant ≤ now) :
    (endings limit timeout (some now) arrivals).min? = some instant := by
  cases arrivals with
  | nil => cases h
  | cons first rest =>
    obtain ⟨hmem, hle⟩ := List.min?_eq_some_iff.mp h
    refine List.min?_eq_some_iff.mpr ⟨?_, ?_⟩
    · exact mem_endings.mpr ((mem_endings.mp hmem).imp_right (Or.imp_right nofun))
    · intro other hother
      rcases mem_endings.mp hother with hother | hother | hother
      · exact hle other (mem_endings.mpr (.inl hother))
      · exact hle other (mem_endings.mpr (.inr (.inl hother)))
      · cases hother
        exact hnow

/-- A batch of the items `taken` has gone out on time, before the later ones. -/
structure IsPunctual (limit timeout : Nat) (closedAt? : Option Nat) (instant : Nat)
    (taken later : List (Nat × α)) : Prop where
  started : taken ≠ []
  size : taken.length ≤ limit
  ending : (endings limit timeout closedAt? (taken ++ later)).min? = some instant
  /-- No item came after it had gone out, or has waited for too long. -/
  waited : ∀ x ∈ taken, x.1 ≤ instant ∧ instant ≤ x.1 + timeout
  /-- A batch that is not complete has had all of its time, or was closed. -/
  short : taken.length < limit →
    (∀ first ∈ taken.head?, instant = first.1 + timeout) ∨ closedAt? = some instant

theorem IsPunctual.append (h : IsPunctual limit timeout closedAt? instant taken later)
    (hmore : ∀ x ∈ more, instant ≤ x.1) :
    IsPunctual limit timeout closedAt? instant taken (later ++ more) where
  started := h.started
  size := h.size
  ending := by
    rw [← List.append_assoc]
    exact min?_endings_append h.ending hmore
  waited := h.waited
  short := h.short

theorem IsPunctual.close (h : IsPunctual limit timeout none instant taken later)
    (hnow : instant ≤ now) : IsPunctual limit timeout (some now) instant taken later where
  started := h.started
  size := h.size
  ending := min?_endings_close h.ending hnow
  waited := h.waited
  short hlt := (h.short hlt).imp_right nofun

/-- The arrivals go out in batches, one after another and each on time; the last of them are still
pending. -/
inductive Flushed (limit timeout : Nat) (closedAt? : Option Nat) (pending : List (Nat × α)) :
    List (Nat × α) → List (Nat × List α) → Prop where
  | nil : Flushed limit timeout closedAt? pending pending []
  | cons {instant : Nat} {taken later : List (Nat × α)} {flushes : List (Nat × List α)} :
    IsPunctual limit timeout closedAt? instant taken later →
    Flushed limit timeout closedAt? pending later flushes →
    Flushed limit timeout closedAt? pending (taken ++ later)
      ((instant, taken.map Prod.snd) :: flushes)

namespace Flushed

/-- The first of what is pending goes out next. -/
theorem snoc (h : Flushed limit timeout closedAt? (taken ++ pending) arrivals flushes)
    (hnext : IsPunctual limit timeout closedAt? instant taken pending) :
    Flushed limit timeout closedAt? pending arrivals
      (flushes ++ [(instant, taken.map Prod.snd)]) := by
  induction h with
  | nil => exact .cons hnext .nil
  | cons hfirst _ ih => exact .cons hfirst ih

/-- What comes now is pending. -/
theorem append (h : Flushed limit timeout closedAt? pending arrivals flushes)
    (hpast : ∀ x ∈ flushes, x.1 ≤ now) (hmore : ∀ x ∈ more, x.1 = now) :
    Flushed limit timeout closedAt? (pending ++ more) (arrivals ++ more) flushes := by
  induction h with
  | nil => exact .nil
  | cons hfirst _ ih =>
    obtain ⟨hfirstpast, hrestpast⟩ := List.forall_mem_cons.mp hpast
    rw [List.append_assoc]
    exact .cons (hfirst.append fun x hx => hmore x hx ▸ hfirstpast) (ih hrestpast)

/-- Closing now does not change what has gone out. -/
theorem close (h : Flushed limit timeout none pending arrivals flushes)
    (hpast : ∀ x ∈ flushes, x.1 ≤ now) :
    Flushed limit timeout (some now) pending arrivals flushes := by
  induction h with
  | nil => exact .nil
  | cons hfirst _ ih =>
    obtain ⟨hfirstpast, hrestpast⟩ := List.forall_mem_cons.mp hpast
    exact .cons (hfirst.close hfirstpast) (ih hrestpast)

end Flushed

namespace Batcher

variable {b b' : Batcher α} {begun waiting : List (Nat × α)} {out : Option (List α)}

/-- When the items in a batcher came: those of the batch in order, and the
incoming ones just now. -/
structure Dates (b : Batcher α) (now : Nat) (closedAt? : Option Nat)
    (begun waiting : List (Nat × α)) : Prop where
  batch : begun.map Prod.snd = b.batch
  incoming : waiting.map Prod.snd = b.incoming
  /-- The time of the batch is counted from its first item, and not over yet. -/
  due : ∀ first ∈ begun.head?, b.due = first.1 + b.timeout ∧ now ≤ b.due ∧
    ∀ x ∈ begun, first.1 ≤ x.1
  past : ∀ x ∈ begun, x.1 ≤ now
  fresh : ∀ x ∈ waiting, x.1 = now
  opened : b.isOpen = true → closedAt? = none
  /-- Between closing and the end no time passes. -/
  closed : b.isOpen = false → b.isRunning = true → closedAt? = some now

/-- The batches that went out were on time, and it is known when the rest came. -/
def OnTime (b : Batcher α) (now : Nat) (closedAt? : Option Nat) (arrivals : List (Nat × α))
    (flushes : List (Nat × List α)) : Prop :=
  ∃ begun waiting, b.Dates now closedAt? begun waiting ∧
    Flushed b.limit b.timeout closedAt? (begun ++ waiting) arrivals flushes ∧
    ∀ x ∈ flushes, x.1 ≤ now

/-- A running batcher has not been closed before now. -/
theorem Dates.eq_now (h : b.Dates now closedAt? begun waiting) (hrunning : b.isRunning = true)
    (hclosed : closedAt? = some instant) : instant = now := by
  cases hopen : b.isOpen with
  | true => cases (h.opened hopen).symm.trans hclosed
  | false => exact Option.some.inj (hclosed.symm.trans (h.closed hopen hrunning))

/-- The batch of a sound batcher is not complete. -/
theorem Dates.length_lt (h : b.Dates now closedAt? begun waiting) (hsound : b.IsSound) :
    begun.length < b.limit := by
  rw [← List.length_map Prod.snd, h.batch]
  exact hsound.room

/-- What ends a batch that goes out now: it is complete with an item of just now, or its time is
over, or it is closed. -/
inductive Ends (limit timeout now : Nat) (closedAt? : Option Nat) (first : Nat × α)
    (rest : List (Nat × α)) : Prop where
  | full {front : List (Nat × α)} {last : Nat × α} : first :: rest = front ++ [last] →
    front.length + 1 = limit → last.1 = now → Ends limit timeout now closedAt? first rest
  | elapsed : (first :: rest).length < limit → now = first.1 + timeout →
    Ends limit timeout now closedAt? first rest
  | closed : (first :: rest).length < limit → closedAt? = some now →
    Ends limit timeout now closedAt? first rest

/-- A batch is punctual if it goes out now for one of these reasons, and has not been due before. -/
theorem Ends.isPunctual {first : Nat × α} {rest : List (Nat × α)}
    (h : Ends limit timeout now closedAt? first rest) (hdue : now ≤ first.1 + timeout)
    (hfirst : ∀ x ∈ first :: rest, first.1 ≤ x.1 ∧ x.1 ≤ now) (hlater : ∀ x ∈ later, x.1 = now)
    (hclosed : ∀ instant, closedAt? = some instant → instant = now) :
    IsPunctual limit timeout closedAt? now (first :: rest) later := by
  have hwaited : ∀ x ∈ first :: rest, x.1 ≤ now ∧ now ≤ x.1 + timeout := fun x hx =>
    ⟨(hfirst x hx).2, Nat.le_trans hdue (Nat.add_le_add_right (hfirst x hx).1 timeout)⟩
  -- the item that completes the batch came just now, whether or not it is in the batch
  have hlimit : ∀ last, (first :: (rest ++ later))[limit - 1]? = some last → last.1 = now := by
    intro last hlast
    rw [← List.cons_append, List.getElem?_append] at hlast
    split at hlast
    · next hlt =>
      cases h with
      | @full front item hsplit hlength hitem =>
        have hindex : limit - 1 = front.length := by omega
        rw [hsplit, hindex, List.getElem?_concat_length] at hlast
        cases hlast
        exact hitem
      | elapsed hshort | closed hshort => omega
    · exact hlater last (List.mem_of_getElem? hlast)
  have hle : ∀ other ∈ endings limit timeout closedAt? (first :: (rest ++ later)), now ≤ other := by
    intro other hother
    rcases mem_endings.mp hother with rfl | ⟨last, hlast, rfl⟩ | hother
    · exact hdue
    · exact Nat.le_of_eq (hlimit last hlast).symm
    · exact Nat.le_of_eq (hclosed other hother).symm
  have hmem : now ∈ endings limit timeout closedAt? (first :: (rest ++ later)) := by
    cases h with
    | @full front item hsplit hlength hitem =>
      refine mem_endings.mpr (.inr (.inl ⟨item, ?_, hitem⟩))
      have hindex : limit - 1 = front.length := by omega
      rw [← List.cons_append, hsplit, hindex, List.append_assoc,
        List.getElem?_append_right (Nat.le_refl _), Nat.sub_self]
      rfl
    | elapsed _ hover => exact mem_endings.mpr (.inl hover)
    | closed _ hnow => exact mem_endings.mpr (.inr (.inr hnow))
  refine ⟨List.cons_ne_nil _ _, ?_, List.min?_eq_some_iff.mpr ⟨hmem, hle⟩, hwaited,
    fun hshort => ?_⟩
  · cases h with
    | full hsplit hlength =>
      rw [hsplit, List.length_append, List.length_singleton]
      exact Nat.le_of_eq hlength
    | elapsed hshort | closed hshort => exact Nat.le_of_lt hshort
  · cases h with
    | full hsplit hlength =>
      rw [hsplit, List.length_append, List.length_singleton] at hshort
      exact absurd hlength (Nat.ne_of_lt hshort)
    | elapsed _ hover =>
      refine .inl fun x hx => ?_
      cases hx
      exact hover
    | closed _ hnow => exact .inr hnow

/-- The batch of a running batcher is punctual if it goes out now for one of these reasons. -/
theorem Dates.isPunctual {first : Nat × α} {rest : List (Nat × α)}
    (h : b.Dates now closedAt? (first :: rest) waiting) (hrunning : b.isRunning = true)
    (hends : Ends b.limit b.timeout now closedAt? first rest) :
    IsPunctual b.limit b.timeout closedAt? now (first :: rest) waiting := by
  obtain ⟨hdue, hnow, hfirst⟩ := h.due first rfl
  exact hends.isPunctual (hdue ▸ hnow) (fun x hx => ⟨hfirst x hx, h.past x hx⟩) h.fresh
    fun _ hclosed => h.eq_now hrunning hclosed

/-- The first incoming item is put into the batch, and begins it if it is the only one. -/
theorem Dates.gather {item : Nat × α} (h : b.Dates now closedAt? begun (item :: waiting)) :
    Dates { b with
      incoming := waiting.map Prod.snd
      batch := b.batch ++ [item.2]
      due := if b.batch.isEmpty then now + b.timeout else b.due }
      now closedAt? (begun ++ [item]) waiting := by
  obtain ⟨hitem, hfresh⟩ := List.forall_mem_cons.mp h.fresh
  refine ⟨?_, rfl, ?_, ?_, hfresh, h.opened, h.closed⟩
  · rw [List.map_append, h.batch]
    rfl
  · intro first hfirst
    cases begun with
    | nil =>
      cases hfirst
      have hempty : b.batch = [] := h.batch.symm
      simp [hempty, hitem]
    | cons head rest =>
      cases hfirst
      obtain ⟨hdue, hnow, hhead⟩ := h.due first rfl
      have hstarted : b.batch.isEmpty = false := by simp [← h.batch]
      simp only [hstarted]
      refine ⟨hdue, hnow, fun x hx => ?_⟩
      rcases List.mem_append.mp hx with hx | hx
      · exact hhead x hx
      · rw [List.mem_singleton.mp hx, hitem]
        exact h.past first List.mem_cons_self
  · intro x hx
    rcases List.mem_append.mp hx with hx | hx
    · exact h.past x hx
    · exact Nat.le_of_eq (List.mem_singleton.mp hx ▸ hitem)

/-- After the batch has gone out, only the incoming items are left. -/
theorem Dates.flush (h : b.Dates now closedAt? begun waiting) {running : Bool}
    (hrunning : running = true → b.isRunning = true) :
    Dates { b with batch := [], isRunning := running } now closedAt? [] waiting where
  batch := rfl
  incoming := h.incoming
  due := nofun
  past := nofun
  fresh := h.fresh
  opened := h.opened
  closed hclosed hb := h.closed hclosed (hrunning hb)

/-- The punctual batch of a batcher goes out. -/
theorem OnTime.flush (hdates : b.Dates now closedAt? [] waiting)
    (hflushed : Flushed b.limit b.timeout closedAt? (taken ++ waiting) arrivals flushes)
    (hpast : ∀ x ∈ flushes, x.1 ≤ now)
    (hpunctual : IsPunctual b.limit b.timeout closedAt? now taken waiting) :
    b.OnTime now closedAt? arrivals (flushes ++ [(now, taken.map Prod.snd)]) := by
  refine ⟨[], waiting, hdates, hflushed.snoc hpunctual, fun x hx => ?_⟩
  rcases List.mem_append.mp hx with hx | hx
  · exact hpast x hx
  · exact Nat.le_of_eq (congrArg Prod.fst (List.mem_singleton.mp hx))

/-- The item that a batcher takes next may complete its batch. -/
theorem OnTime.gather {item : α} {rest : List α} (h : b.OnTime now closedAt? arrivals flushes)
    (hsound : b.IsSound) (hrunning : b.isRunning = true) (hin : b.incoming = item :: rest)
    (hs : b.gather now item rest = (out, b')) :
    b'.OnTime now closedAt? arrivals (flushes ++ out.toList.map fun items => (now, items)) := by
  obtain ⟨begun, waiting, hdates, hflushed, hpast⟩ := h
  obtain ⟨first, others, rfl, rfl, rfl⟩ := List.map_eq_cons_iff.mp (hdates.incoming.trans hin)
  have hgathered := hdates.gather
  -- what is pending stays the same list; the item is only counted to the batch now
  rw [List.append_cons] at hflushed
  have hroom := hdates.length_lt hsound
  have hbatch : b.batch ++ [first.2] = (begun ++ [first]).map Prod.snd := by
    rw [List.map_append, hdates.batch]
    rfl
  simp only [Batcher.gather] at hs
  split at hs
  · next hfull =>
    obtain ⟨rfl, rfl⟩ := Prod.mk.inj hs
    have hlength : begun.length + 1 = b.limit := by
      rw [hbatch, List.length_map, List.length_append, List.length_singleton] at hfull
      omega
    have hpunctual : IsPunctual b.limit b.timeout closedAt? now (begun ++ [first]) others := by
      obtain ⟨head, tail, hsplit⟩ := List.exists_cons_of_ne_nil (l := begun ++ [first]) (by simp)
      rw [hsplit] at hgathered ⊢
      exact hgathered.isPunctual hrunning
        (.full hsplit.symm hlength (hdates.fresh first List.mem_cons_self))
    rw [hbatch]
    exact OnTime.flush (hgathered.flush id) hflushed hpast hpunctual
  · obtain ⟨rfl, rfl⟩ := Prod.mk.inj hs
    rw [Option.toList_none, List.map_nil, List.append_nil]
    exact ⟨begun ++ [first], others, hgathered, hflushed, hpast⟩

/-- A batch goes out when its time is over, or when it is closed and no more items wait. -/
theorem OnTime.pass (h : b.OnTime now closedAt? arrivals flushes) (hsound : b.IsSound)
    (hb : b.isRunning = true) (hstarted : b.batch ≠ []) (hcause : b.due ≤ now ∨ b.isOpen = false)
    {running : Bool} (hrunning : running = true → b.isRunning = true) :
    OnTime { b with batch := [], isRunning := running } now closedAt? arrivals
      (flushes ++ [(now, b.batch)]) := by
  obtain ⟨begun, waiting, hdates, hflushed, hpast⟩ := h
  have hroom := hdates.length_lt hsound
  have hpunctual : IsPunctual b.limit b.timeout closedAt? now begun waiting := by
    cases begun with
    | nil => exact absurd hdates.batch.symm hstarted
    | cons first rest =>
      refine hdates.isPunctual hb ?_
      rcases hcause with hover | hclosed
      · obtain ⟨hdue, hnow, -⟩ := hdates.due first rfl
        exact .elapsed hroom ((Nat.le_antisymm hnow hover).trans hdue)
      · exact .closed hroom (hdates.closed hclosed hb)
  rw [← hdates.batch]
  exact OnTime.flush (hdates.flush hrunning) hflushed hpast hpunctual

/-- A batcher without a batch comes to its end. -/
theorem OnTime.stop (h : b.OnTime now closedAt? arrivals flushes) (hempty : b.batch = []) :
    OnTime { b with batch := [], isRunning := false } now closedAt? arrivals flushes := by
  obtain ⟨begun, waiting, hdates, hflushed, hpast⟩ := h
  obtain rfl : begun = [] := List.map_eq_nil_iff.mp (hdates.batch.trans hempty)
  exact ⟨[], waiting, hdates.flush nofun, hflushed, hpast⟩

/-- A step of a batcher is punctual. -/
theorem OnTime.step (h : b.OnTime now closedAt? arrivals flushes) (hsound : b.IsSound)
    (hlarge : b.limit ≤ largest) (hs : b.step now = some (out, b')) :
    b'.OnTime now closedAt? arrivals (flushes ++ out.toList.map fun items => (now, items)) := by
  have hgoes := Goes.of_step hs
  cases hin : b.incoming with
  | cons item rest =>
    have hrunning : b.isRunning = true := (hgoes.passes hsound hlarge).running
    rw [Batcher.step, hrunning, if_neg (Nat.not_lt.mpr hlarge), hin] at hs
    exact h.gather hsound hrunning hin (Option.some.inj hs)
  | nil =>
    cases hgoes with
    | breaks _ hlarger => exact absurd hlarger (Nat.not_lt.mpr hlarge)
    | completes _ _ hitem | gathers _ _ hitem => cases hin.symm.trans hitem
    | ends hrunning _ hclosed =>
      cases hbatch : b.batch with
      | nil =>
        rw [List.isEmpty_nil, if_pos rfl, Option.toList_none, List.map_nil, List.append_nil]
        exact h.stop hbatch
      | cons first others =>
        have hstarted : b.batch ≠ [] := hbatch ▸ List.cons_ne_nil first others
        have hstop : false = true → b.isRunning = true := nofun
        have hpass := h.pass hsound hrunning hstarted (.inr hclosed) hstop
        rw [hbatch] at hpass
        exact hpass
    | flushes hrunning _ hstarted hover => exact h.pass hsound hrunning hstarted (.inl hover) id

/-- So is what a batcher does when the time of its batch is over. -/
theorem OnTime.expire {items : List α} (h : b.OnTime now closedAt? arrivals flushes)
    (hsound : b.IsSound) (hs : b.expire now = some (items, b')) :
    b'.OnTime now closedAt? arrivals (flushes ++ [(now, items)]) := by
  unfold Batcher.expire at hs
  split at hs
  · next hdue =>
    obtain ⟨rfl, rfl⟩ := Prod.mk.inj (Option.some.inj hs)
    simp only [Bool.and_eq_true, Bool.not_eq_true', List.isEmpty_eq_false_iff,
      decide_eq_true_eq] at hdue
    exact h.pass hsound hdue.1.1 hdue.1.2 (.inl hdue.2) id
  · cases hs

/-- Items that are taken come now. -/
theorem OnTime.offer {items : List α} (h : b.OnTime now closedAt? arrivals flushes) :
    OnTime { b with incoming := b.incoming ++ items } now closedAt?
      (arrivals ++ items.map fun item => (now, item)) flushes := by
  obtain ⟨begun, waiting, hdates, hflushed, hpast⟩ := h
  have hnew : ∀ x ∈ items.map fun item => (now, item), x.1 = now := by simp
  refine ⟨begun, waiting ++ items.map fun item => (now, item), ?_, ?_, hpast⟩
  · refine ⟨hdates.batch, ?_, hdates.due, hdates.past, ?_, hdates.opened, hdates.closed⟩
    · rw [List.map_append, hdates.incoming, List.map_map]
      exact congrArg _ (List.map_id' items)
    · exact fun x hx => (List.mem_append.mp hx).elim (hdates.fresh x) (hnew x)
  · rw [← List.append_assoc]
    exact hflushed.append hpast hnew

/-- Where there is nothing to do, no items wait. -/
theorem incoming_of_step (hsound : b.IsSound) (hlarge : b.limit ≤ largest)
    (hs : b.step now = none) : b.incoming = [] := by
  cases hr : b.isRunning with
  | false => exact (hsound.ended hr).2.2
  | true =>
    rw [Batcher.step, hr, if_neg (Nat.not_lt.mpr hlarge)] at hs
    cases hin : b.incoming with
    | nil => rfl
    | cons => simp [hin] at hs

/-- Where there is nothing to do, the time of the batch is not over. -/
theorem lt_due_of_step (hsound : b.IsSound) (hlarge : b.limit ≤ largest) (hs : b.step now = none)
    (hstarted : b.batch ≠ []) : now < b.due := by
  have hrunning : b.isRunning = true :=
    Bool.of_not_eq_false fun hend => hstarted (hsound.ended hend).2.1
  have hopen : b.isOpen = true := Bool.of_not_eq_false fun hclosed =>
    absurd ((isRunning_of_step hclosed hlarge hs).symm.trans hrunning) (by decide)
  rw [step_eq_expire (incoming_of_step hsound hlarge hs) hopen hlarge, Option.map_eq_none_iff] at hs
  refine Nat.lt_of_not_le fun hover => ?_
  simp [Batcher.expire, hrunning, hstarted, hover] at hs

/-- Time may pass when there is nothing to do, up to the end of the batch. -/
theorem OnTime.wait {ms : Nat} (h : b.OnTime now closedAt? arrivals flushes) (hsound : b.IsSound)
    (hlarge : b.limit ≤ largest) (hs : b.step now = none)
    (hdue : b.batch ≠ [] → now + ms ≤ b.due) : b.OnTime (now + ms) closedAt? arrivals flushes := by
  obtain ⟨begun, waiting, hdates, hflushed, hpast⟩ := h
  have hlater : ∀ {t}, t ≤ now → t ≤ now + ms := fun ht => Nat.le_add_right_of_le ht
  obtain rfl : waiting = [] :=
    List.map_eq_nil_iff.mp (hdates.incoming.trans (incoming_of_step hsound hlarge hs))
  refine ⟨begun, [], ?_, hflushed, fun x hx => hlater (hpast x hx)⟩
  refine ⟨hdates.batch, hdates.incoming, fun first hfirst => ?_,
    fun x hx => hlater (hdates.past x hx), nofun, hdates.opened, fun hclosed hrunning => ?_⟩
  · obtain ⟨hfirstdue, -, hordered⟩ := hdates.due first hfirst
    refine ⟨hfirstdue, hdue ?_, hordered⟩
    rw [← hdates.batch]
    intro hnil
    rw [List.map_eq_nil_iff.mp hnil] at hfirst
    cases hfirst
  · cases (isRunning_of_step hclosed hlarge hs).symm.trans hrunning

/-- Closing leaves what has gone out, and what is to go out has come. -/
theorem OnTime.close (h : b.OnTime now closedAt? arrivals flushes) :
    b.close.OnTime now (closedAt?.or (some now)) arrivals flushes := by
  obtain ⟨begun, waiting, hdates, hflushed, hpast⟩ := h
  cases closedAt? with
  | none =>
    refine ⟨begun, waiting, ?_, hflushed.close hpast, hpast⟩
    exact ⟨hdates.batch, hdates.incoming, hdates.due, hdates.past, hdates.fresh, nofun,
      fun _ _ => rfl⟩
  | some closedAt =>
    refine ⟨begun, waiting, ?_, hflushed, hpast⟩
    refine ⟨hdates.batch, hdates.incoming, hdates.due, hdates.past, hdates.fresh, nofun,
      fun _ hrunning => ?_⟩
    exact congrArg some (hdates.eq_now hrunning rfl)

/-- What is pending has not missed any of the instants that end it. -/
theorem OnTime.exists_pending (h : b.OnTime now closedAt? arrivals flushes) (hsound : b.IsSound) :
    ∃ pending, Flushed b.limit b.timeout closedAt? pending arrivals flushes ∧
      pending.map Prod.snd = b.batch ++ b.incoming ∧
      (∀ ending ∈ endings b.limit b.timeout closedAt? pending, now ≤ ending) ∧
      ∀ x ∈ pending, x.1 ≤ now ∧ now ≤ x.1 + b.timeout := by
  obtain ⟨begun, waiting, hdates, hflushed, hpast⟩ := h
  have hitems : (begun ++ waiting).map Prod.snd = b.batch ++ b.incoming := by
    rw [List.map_append, hdates.batch, hdates.incoming]
  have hwaited : ∀ x ∈ begun ++ waiting, x.1 ≤ now ∧ now ≤ x.1 + b.timeout := by
    intro x hx
    rcases List.mem_append.mp hx with hx | hx
    · cases begun with
      | nil => cases hx
      | cons first rest =>
        obtain ⟨hdue, hnow, hordered⟩ := hdates.due first rfl
        have hle := hordered x hx
        exact ⟨hdates.past x hx, by omega⟩
    · have hfresh := hdates.fresh x hx
      exact ⟨Nat.le_of_eq hfresh, Nat.le_add_right_of_le (Nat.le_of_eq hfresh.symm)⟩
  have hlimit : ∀ last, (begun ++ waiting)[b.limit - 1]? = some last → last.1 = now := by
    intro last hlast
    rw [List.getElem?_append_right (Nat.le_sub_one_of_lt (hdates.length_lt hsound))] at hlast
    exact hdates.fresh last (List.mem_of_getElem? hlast)
  refine ⟨begun ++ waiting, hflushed, hitems, ?_, hwaited⟩
  cases hall : begun ++ waiting with
  | nil => nofun
  | cons first rest =>
    rw [hall] at hitems hwaited hlimit
    have hrunning : b.isRunning = true := by
      refine Bool.of_not_eq_false fun hend => ?_
      obtain ⟨-, hbatch, hincoming⟩ := hsound.ended hend
      rw [hbatch, hincoming] at hitems
      cases hitems
    intro ending hending
    rcases mem_endings.mp hending with rfl | ⟨last, hlast, rfl⟩ | hclosed
    · exact (hwaited first List.mem_cons_self).2
    · exact Nat.le_of_eq (hlimit last hlast).symm
    · exact Nat.le_of_eq (hdates.eq_now hrunning hclosed).symm

end Batcher

end ServiceControl
