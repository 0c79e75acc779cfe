/-!
# Batches

A batcher takes items one by one and passes them on in batches. A batch is complete when it has
reached the maximum, when its time is over, or when the batcher is closed; its time starts with its
first item. No batch is empty. A batcher whose maximum is beyond what room can be kept for breaks
off as soon as it runs. Time is counted in milliseconds.
-/

namespace ServiceControl

/-- Gathers items into batches. -/
structure Batcher (α : Type) where
  maxCount : Nat
  /-- How long an item may wait. -/
  timeout : Nat
  /-- Items that were taken and are not in a batch yet. -/
  incoming : List α := []
  /-- The batch that is being gathered. -/
  batch : List α := []
  /-- When the time of the batch is over. -/
  due : Nat := 0
  /-- Whether items are still taken. -/
  isOpen : Bool := true
  /-- Whether batches are still gathered; not so after the end, or after a crash. -/
  isRunning : Bool := true
  deriving Repr, DecidableEq

namespace Batcher

variable {α : Type}

/-- The number of items that completes a batch. -/
def limit (b : Batcher α) : Nat := max b.maxCount 1

/-- The largest batch that room can be kept for: a machine word for each item. -/
def largest : Nat := 2 ^ 60 - 1

/-- Breaks off: everything that waits is lost. -/
def crash (b : Batcher α) : Batcher α := { b with incoming := [], batch := [], isRunning := false }

/-- Takes items. A closed batcher takes none, one that does not run no item. -/
def offer (b : Batcher α) (items : List α) : Option (Batcher α) :=
  if !b.isOpen then none
  else if !b.isRunning && !items.isEmpty then none
  else some { b with incoming := if b.isRunning then b.incoming ++ items else b.incoming }

/-- Puts the first of the incoming items into the batch, which may complete it. -/
def gather (b : Batcher α) (now : Nat) (item : α) (rest : List α) : Option (List α) × Batcher α :=
  let batch := b.batch ++ [item]
  let due := if b.batch.isEmpty then now + b.timeout else b.due
  if b.limit ≤ batch.length then (some batch, { b with incoming := rest, batch := [], due })
  else (none, { b with incoming := rest, batch, due })

/-- One step at an instant: the batch that is complete, if any, and what comes after; nothing if
there is nothing to do. -/
def step (b : Batcher α) (now : Nat) : Option (Option (List α) × Batcher α) :=
  if !b.isRunning then none
  else if largest < b.limit then some (none, b.crash)
  else match b.incoming with
    | item :: rest => some (b.gather now item rest)
    | [] =>
      if !b.isOpen then
        some (if b.batch.isEmpty then none else some b.batch,
          { b with batch := [], isRunning := false })
      else if b.batch.isEmpty || now < b.due then none
      else some (some b.batch, { b with batch := [] })

/-- Takes no more items; those that were taken go out. -/
def close (b : Batcher α) : Batcher α := { b with isOpen := false }

end Batcher

end ServiceControl
