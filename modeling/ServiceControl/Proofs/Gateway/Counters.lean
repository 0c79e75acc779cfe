import ServiceControl.SelfMetrics

/-!
# Reading counters

A counter is read as often as it was raised. What counts for checks and what counts for reports is
kept apart and shown as one, which can be read like either of the two because no counter is raised
in both.
-/

namespace ServiceControl

/-- Whether a counter is about checks. The others are about reports and reloads. -/
def Counter.isOfChecks : Counter → Bool
  | checkRequests | checkDurations | checkErrors _ | checkerBuilds _ _ => true
  | reportsEnqueued | reportsConsumed _ _ | configReloads _ => false

namespace Metrics

/-- Nothing but some counters was raised. -/
def Only (P : Counter → Prop) (m : Metrics) : Prop := ∀ c, ¬P c → Table.find? c m = none

variable {P : Counter → Prop} {m n : Metrics} {c d : Counter}

@[simp] theorem get_count_self (m : Metrics) (c : Counter) : (m.count c).get c = m.get c + 1 := by
  rw [get_count, if_pos rfl]

theorem get_count_of_ne (m : Metrics) (h : c ≠ d) : (m.count c).get d = m.get d := by
  rw [get_count, if_neg h]

/-- Raising counters one after another raises each as often as it is among them. -/
theorem get_countAll (m : Metrics) (cs : List Counter) (c : Counter) :
    (m.countAll cs).get c = m.get c + cs.count c := by
  induction cs generalizing m with
  | nil => rfl
  | cons first rest ih =>
    rw [countAll, List.foldl_cons, ← countAll, ih, get_count, List.count_cons]
    by_cases h : first = c
    · subst h
      simp only [if_true, beq_self_eq_true]
      omega
    · simp [h]

/-- At first nothing was raised. -/
theorem only_nil (P : Counter → Prop) : Only P [] := fun _ _ => rfl

theorem Only.count (h : m.Only P) (hc : P c) : (m.count c).Only P := by
  intro d hd
  rw [Metrics.count, Table.find?_alter, if_neg]
  · exact h d hd
  · rintro rfl
    exact hd hc

theorem Only.countAll (h : m.Only P) {cs : List Counter} (hcs : ∀ c ∈ cs, P c) :
    (m.countAll cs).Only P := by
  induction cs generalizing m with
  | nil => exact h
  | cons first rest ih =>
    exact ih (h.count (hcs first List.mem_cons_self)) fun c hc => hcs c (List.mem_cons_of_mem _ hc)

/-- A counter that is raised on the left only is read there. -/
theorem get_append_left (h : n.Only fun c => ¬P c) (hc : P c) : get (m ++ n) c = m.get c := by
  rw [get, Table.find?_append, h c (not_not_intro hc), Option.or_none, get]

/-- A counter that is raised on the right only is read there. -/
theorem get_append_right (h : m.Only P) (hc : ¬P c) : get (m ++ n) c = n.get c := by
  rw [get, Table.find?_append, h c hc, Option.none_or, get]

end Metrics

end ServiceControl
