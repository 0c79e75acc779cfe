import Mathlib.Data.List.Basic
import Mathlib.Data.List.Induction
import ServiceControl.Collection.Table
import ServiceControl.Reload.Reloader

/-!
# Reloads that are called for at the same time

A call for a reload waits for the lock, fetches, plans what to do with what came, records the
digest, tells one listener after another, and gives the lock back. Between any two of these steps
other calls take theirs, and a fetch may take any time and bring anything. Only the call with the
lock gets beyond its start, so all that happens, happens as if the calls were carried out one after
another in the order in which they acquired the lock.
-/

namespace ServiceControl

/-- What a fetch brings. -/
abbrev Fetched := Except FetchError ByteArray

/-- Where a call stands between two of its steps. -/
inductive ReloadPhase where
  /-- It waits for the lock. -/
  | waiting
  | fetching
  /-- The fetch has come back. -/
  | planning (fetched : Fetched)
  /-- The digest in force was looked at, and is to be replaced where the plan says so. -/
  | recording (plan : ReloadPlan)
  /-- So many listeners have been told. -/
  | telling (plan : ReloadPlan) (count : Nat)
  | ended (outcome : ReloadOutcome)

/-- Whether a call is between its fetch and the end of its notification. -/
def ReloadPhase.isRunning : ReloadPhase → Bool
  | waiting => false
  | ended _ => false
  | _ => true

/-- What a step of a call did. -/
inductive ReloadEvent where
  | acquired
  | fetched (f : Fetched)
  | told (listener : Nat) (services : Services)
  | ended (outcome : ReloadOutcome)

/-- The configuration that a plan puts in force. -/
def ReloadPlan.services? : ReloadPlan → Option Services
  | apply _ services _ => some services
  | _ => none

/-- What listeners are told when a plan is carried out, one after another. -/
def ReloadPlan.tellings (p : ReloadPlan) (listeners : Nat) : List ReloadEvent :=
  p.services?.toList.flatMap fun s => (List.range listeners).map fun i => .told i s

/-- The plan for what was fetched. -/
def Reloader.planFor (m : Reloader) (f : Fetched) : ReloadPlan := plan m.registries m.digest f

/-- A reloader, its listeners and its lock, the calls that were made and what their steps did. -/
structure ReloadCalls where
  reloader : Reloader
  /-- The number of listeners. -/
  listeners : Nat
  /-- Where each call stands. -/
  phases : List ReloadPhase := []
  /-- The call that has the lock. -/
  holder : Option Nat := none
  /-- What each step did, with the number of the call that it was a step of. -/
  log : Table Nat ReloadEvent := []

/-- What can happen next. -/
inductive ReloadMove where
  | call
  /-- The fetch of a call comes back. -/
  | answer (number : Nat) (f : Fetched)
  /-- A call takes any other of its steps. -/
  | advance (number : Nat)

namespace ReloadCalls

/-- A call goes on to a phase, and something may have happened on the way. -/
def goOn (r : ReloadCalls) (c : Nat) (phase : ReloadPhase) (event : Option ReloadEvent) :
    ReloadCalls :=
  { r with phases := r.phases.set c phase, log := r.log ++ event.toList.map fun e => (c, e) }

/-- The next step of a call, other than that its fetch comes back. A call whose step has to wait
stays where it is. -/
def advance (r : ReloadCalls) (c : Nat) : ReloadPhase → ReloadCalls
  | .waiting =>
    match r.holder with
    | none => { r.goOn c .fetching (some .acquired) with holder := some c }
    | some _ => r
  | .fetching => r
  | .planning f => r.goOn c (.recording (r.reloader.planFor f)) none
  | .recording p => { r.goOn c (.telling p 0) none with reloader := r.reloader.recordDigest p }
  | .telling p k =>
    match (p.tellings r.listeners)[k]? with
    | some e => r.goOn c (.telling p (k + 1)) (some e)
    | none =>
      { r.goOn c (.ended p.outcome) (some (.ended p.outcome)) with
        reloader := r.reloader.announce p
        holder := none }
  | .ended _ => r

/-- The run after one more move. -/
def step (r : ReloadCalls) : ReloadMove → ReloadCalls
  | .call => { r with phases := r.phases ++ [.waiting] }
  | .answer c f =>
    match r.phases[c]? with
    | some .fetching => r.goOn c (.planning f) (some (.fetched f))
    | _ => r
  | .advance c =>
    match r.phases[c]? with
    | some phase => r.advance c phase
    | none => r

/-- The run of moves, from a reloader that nobody has called yet. -/
def after (m : Reloader) (listeners : Nat) (moves : List ReloadMove) : ReloadCalls :=
  moves.foldl step { reloader := m, listeners }

theorem after_snoc (m : Reloader) (listeners : Nat) (moves : List ReloadMove) (mv : ReloadMove) :
    after m listeners (moves ++ [mv]) = (after m listeners moves).step mv := by
  rw [after, after, List.foldl_concat]

/-- Whether a call is between its fetch and the end of its notification. -/
def Runs (r : ReloadCalls) (c : Nat) : Prop :=
  ∃ phase, r.phases[c]? = some phase ∧ phase.isRunning = true

end ReloadCalls

/-! ## One call after another -/

namespace Reloader

/-- What happens in a call that nobody comes between. -/
def events (m : Reloader) (listeners : Nat) (f : Fetched) : List ReloadEvent :=
  .acquired :: .fetched f ::
    ((m.planFor f).tellings listeners ++ [.ended (m.planFor f).outcome])

/-- The reloader after calls that were carried out one after another, with what each fetched. -/
def receiveAll (m : Reloader) (calls : Table Nat Fetched) : Reloader :=
  calls.foldl (fun m x => (m.receive x.2).2) m

/-- What happens in calls that are carried out one after another. -/
def serialLog (m : Reloader) (listeners : Nat) : Table Nat Fetched → Table Nat ReloadEvent
  | [] => []
  | (c, f) :: rest =>
    (m.events listeners f).map (fun e => (c, e)) ++ (m.receive f).2.serialLog listeners rest

theorem receiveAll_concat (m : Reloader) (calls : Table Nat Fetched) (c : Nat) (f : Fetched) :
    m.receiveAll (calls ++ [(c, f)]) = ((m.receiveAll calls).receive f).2 := by
  rw [receiveAll, receiveAll, List.foldl_concat]

theorem serialLog_concat (m : Reloader) (listeners : Nat) (calls : Table Nat Fetched) (c : Nat)
    (f : Fetched) :
    m.serialLog listeners (calls ++ [(c, f)]) =
      m.serialLog listeners calls ++
        ((m.receiveAll calls).events listeners f).map fun e => (c, e) := by
  induction calls generalizing m with
  | nil => exact List.append_nil _
  | cons x rest ih =>
    have hothers := ih (m.receive x.2).2
    simp only [List.cons_append, serialLog, hothers, List.append_assoc]
    rfl

theorem ended_mem_events {m : Reloader} {listeners : Nat} {f : Fetched} {o : ReloadOutcome} :
    .ended o ∈ m.events listeners f ↔ o = (m.planFor f).outcome := by
  have htellings : .ended o ∉ (m.planFor f).tellings listeners := by
    simp [ReloadPlan.tellings]
  simp [events, htellings]

/-- A call that is carried out ends. -/
theorem exists_ended_mem_serialLog (m : Reloader) (listeners : Nat) {calls : Table Nat Fetched}
    {x : Nat × Fetched} (hx : x ∈ calls) : ∃ o, (x.1, .ended o) ∈ m.serialLog listeners calls := by
  induction calls generalizing m with
  | nil => cases hx
  | cons y rest ih =>
    rcases List.mem_cons.mp hx with rfl | hx
    · have hended : .ended (m.planFor x.2).outcome ∈ m.events listeners x.2 :=
        ended_mem_events.mpr rfl
      exact ⟨_, List.mem_append_left _ (List.mem_map_of_mem hended)⟩
    · obtain ⟨o, ho⟩ := ih (m.receive y.2).2 hx
      exact ⟨o, List.mem_append_right _ ho⟩

/-- One more call comes to one more end. -/
theorem ended_mem_serialLog_concat {m : Reloader} {listeners : Nat} {calls : Table Nat Fetched}
    {c d : Nat} {f : Fetched} {o : ReloadOutcome} :
    (d, .ended o) ∈ m.serialLog listeners (calls ++ [(c, f)]) ↔
      (d, .ended o) ∈ m.serialLog listeners calls ∨
        (d = c ∧ o = ((m.receiveAll calls).planFor f).outcome) := by
  rw [serialLog_concat, List.mem_append, List.mem_map]
  refine or_congr_right ⟨?_, ?_⟩
  · rintro ⟨e, he, heq⟩
    obtain ⟨rfl, rfl⟩ := Prod.mk.inj heq
    exact ⟨rfl, ended_mem_events.mp he⟩
  · rintro ⟨rfl, ho⟩
    exact ⟨_, ended_mem_events.mpr ho, rfl⟩

end Reloader

namespace ReloadCalls

variable {n : Nat} {start : Reloader} {done : Table Nat Fetched} {r : ReloadCalls}

/-! ## What is under way -/

/-- Where the call with the lock stands, what it has made of the reloader and what it has done so
far. -/
inductive InFlight (n : Nat) (m : Reloader) : ReloadPhase → Reloader → List ReloadEvent → Prop where
  | fetching : InFlight n m .fetching m [.acquired]
  | planning (f : Fetched) : InFlight n m (.planning f) m [.acquired, .fetched f]
  | recording (f : Fetched) : InFlight n m (.recording (m.planFor f)) m [.acquired, .fetched f]
  | telling (f : Fetched) {k : Nat} (hk : k ≤ ((m.planFor f).tellings n).length) :
      InFlight n m (.telling (m.planFor f) k) (m.recordDigest (m.planFor f))
        (.acquired :: .fetched f :: ((m.planFor f).tellings n).take k)

theorem InFlight.isRunning {m reloader : Reloader} {phase : ReloadPhase}
    {events : List ReloadEvent} (h : InFlight n m phase reloader events) :
    phase.isRunning = true := by
  cases h <;> rfl

theorem InFlight.ne_ended {m reloader : Reloader} {phase : ReloadPhase}
    {events : List ReloadEvent} (h : InFlight n m phase reloader events) (o : ReloadOutcome) :
    phase ≠ .ended o := by
  cases h <;> nofun

/-- What is known of the calls, whichever of them has the lock: no other one runs, and those that
have ended are the ones that were carried out, each once. -/
structure Others (n : Nat) (start : Reloader) (done : Table Nat Fetched) (holder : Option Nat)
    (phases : List ReloadPhase) : Prop where
  runs : ∀ (d : Nat) (phase : ReloadPhase), phases[d]? = some phase → phase.isRunning = true →
    holder = some d
  ended : ∀ (d : Nat) (o : ReloadOutcome), phases[d]? = some (.ended o) ↔
    (d, .ended o) ∈ start.serialLog n done
  nodup : (done.map Prod.fst).Nodup

namespace Others

variable {holder holder' : Option Nat} {phases : List ReloadPhase} {c : Nat}
  {phase phase' : ReloadPhase}

/-- A call that has not ended was not carried out. -/
theorem notMem (h : Others n start done holder phases) (hphase : phases[c]? = some phase)
    (hended : ∀ o, phase ≠ .ended o) : c ∉ done.map Prod.fst := by
  intro hc
  obtain ⟨⟨_, f⟩, hx, rfl⟩ := List.mem_map.mp hc
  obtain ⟨o, ho⟩ := Reloader.exists_ended_mem_serialLog start n hx
  have hother := (h.ended _ o).mpr ho
  exact hended o (Option.some.inj (hphase.symm.trans hother))

/-- A new call does not run. -/
theorem call (h : Others n start done holder phases) :
    Others n start done holder (phases ++ [.waiting]) := by
  have hget (d : Nat) (other : ReloadPhase) (hother : other ≠ .waiting) :
      (phases ++ [ReloadPhase.waiting])[d]? = some other ↔ phases[d]? = some other := by
    rw [List.getElem?_append]
    split
    · exact Iff.rfl
    · next hd =>
      have hnone : phases[d]? = none := List.getElem?_eq_none (Nat.le_of_not_lt hd)
      refine ⟨fun h => absurd (List.mem_singleton.mp (List.mem_of_getElem? h)) hother, ?_⟩
      rw [hnone]
      nofun
  refine ⟨fun d other hd hrunning => ?_, fun d o => ?_, h.nodup⟩
  · have hother : other ≠ .waiting := by
      rintro rfl
      cases hrunning
    exact h.runs d other ((hget d other hother).mp hd) hrunning
  · exact (hget d (.ended o) nofun).trans (h.ended d o)

/-- A call that has not ended goes on, while it has the lock or as it takes it. -/
theorem goOn (h : Others n start done holder phases) (hphase : phases[c]? = some phase)
    (hended : ∀ o, phase ≠ .ended o) (hended' : ∀ o, phase' ≠ .ended o)
    (hholder : ∀ d, holder = some d → d = c) :
    Others n start done (some c) (phases.set c phase') := by
  obtain ⟨hc, -⟩ := List.getElem?_eq_some_iff.mp hphase
  refine ⟨fun d other hd hrunning => ?_, fun d o => ?_, h.nodup⟩
  · by_cases hdc : c = d
    · rw [hdc]
    · rw [List.getElem?_set_ne hdc] at hd
      exact absurd (hholder d (h.runs d other hd hrunning)).symm hdc
  · by_cases hdc : c = d
    · subst hdc
      have hnot : (c, .ended o) ∉ start.serialLog n done := fun hmem =>
        hended o (Option.some.inj (hphase.symm.trans ((h.ended c o).mpr hmem)))
      rw [List.getElem?_set_self hc]
      exact ⟨fun heq => absurd (Option.some.inj heq) (hended' o), fun hmem => absurd hmem hnot⟩
    · rw [List.getElem?_set_ne hdc]
      exact h.ended d o

/-- The call with the lock ends and gives it back. -/
theorem finish {f : Fetched} {o : ReloadOutcome} (h : Others n start done (some c) phases)
    (hphase : phases[c]? = some phase) (hended : ∀ o, phase ≠ .ended o)
    (ho : o = ((start.receiveAll done).planFor f).outcome) :
    Others n start (done ++ [(c, f)]) none (phases.set c (.ended o)) := by
  obtain ⟨hc, -⟩ := List.getElem?_eq_some_iff.mp hphase
  have hnot : c ∉ done.map Prod.fst := h.notMem hphase hended
  refine ⟨fun d other hd hrunning => ?_, fun d o' => ?_, ?_⟩
  · by_cases hdc : c = d
    · subst hdc
      rw [List.getElem?_set_self hc] at hd
      obtain rfl := Option.some.inj hd
      cases hrunning
    · rw [List.getElem?_set_ne hdc] at hd
      exact absurd (Option.some.inj (h.runs d other hd hrunning)) hdc
  · rw [Reloader.ended_mem_serialLog_concat, ← ho, ← h.ended]
    by_cases hdc : c = d
    · subst hdc
      have hself : phases[c]? ≠ some (.ended o') := by
        rw [hphase]
        exact fun heq => hended o' (Option.some.inj heq)
      rw [List.getElem?_set_self hc, Option.some.injEq, ReloadPhase.ended.injEq]
      exact ⟨fun heq => Or.inr ⟨rfl, heq.symm⟩,
        fun hor => hor.elim (fun heq => absurd heq hself) fun heq => heq.2.symm⟩
    · rw [List.getElem?_set_ne hdc]
      exact ⟨Or.inl, fun hor => hor.elim id fun heq => absurd heq.1.symm hdc⟩
  · rw [List.map_append, List.nodup_append]
    refine ⟨h.nodup, by simp, fun d hd e he => ?_⟩
    obtain rfl := List.mem_singleton.mp he
    exact fun hde => hnot (hde ▸ hd)

end Others

/-- Some calls have been carried out one after another, and at most one more call is under way. -/
inductive Serial (n : Nat) (start : Reloader) (done : Table Nat Fetched) : ReloadCalls → Prop where
  | idle {phases : List ReloadPhase} (hothers : Others n start done none phases) :
      Serial n start done ⟨start.receiveAll done, n, phases, none, start.serialLog n done⟩
  | busy {phases : List ReloadPhase} {c : Nat} {phase : ReloadPhase} {reloader : Reloader}
      {events : List ReloadEvent} (hphase : phases[c]? = some phase)
      (hothers : Others n start done (some c) phases)
      (hflight : InFlight n (start.receiveAll done) phase reloader events) :
      Serial n start done
        ⟨reloader, n, phases, some c, start.serialLog n done ++ events.map fun e => (c, e)⟩

/-- The call with the lock goes on. -/
theorem Serial.goOn {phases : List ReloadPhase} {c : Nat} {phase phase' : ReloadPhase}
    {reloader reloader' : Reloader} {events : List ReloadEvent} {event : Option ReloadEvent}
    (hphase : phases[c]? = some phase) (hended : ∀ o, phase ≠ .ended o)
    (hothers : Others n start done (some c) phases)
    (hflight : InFlight n (start.receiveAll done) phase' reloader' (events ++ event.toList)) :
    Serial n start done
      { (ReloadCalls.mk reloader n phases (some c)
          (start.serialLog n done ++ events.map fun e => (c, e))).goOn c phase' event with
        reloader := reloader' } := by
  obtain ⟨hc, -⟩ := List.getElem?_eq_some_iff.mp hphase
  simp only [ReloadCalls.goOn, List.append_assoc, ← List.map_append]
  exact .busy (List.getElem?_set_self hc)
    (hothers.goOn hphase hended hflight.ne_ended fun d hd => (Option.some.inj hd).symm) hflight

/-- A call that has the lock and has told all listeners gives it back. -/
theorem Serial.finish {phases : List ReloadPhase} {c : Nat} {f : Fetched} {p : ReloadPlan}
    {phase : ReloadPhase} (hphase : phases[c]? = some phase) (hended : ∀ o, phase ≠ .ended o)
    (hothers : Others n start done (some c) phases) (hp : p = (start.receiveAll done).planFor f) :
    Serial n start (done ++ [(c, f)])
      { (ReloadCalls.mk ((start.receiveAll done).recordDigest p) n phases (some c)
          (start.serialLog n done ++
            (.acquired :: .fetched f :: p.tellings n).map fun e => (c, e))).goOn c
              (.ended p.outcome) (some (.ended p.outcome)) with
        reloader := ((start.receiveAll done).recordDigest p).announce p
        holder := none } := by
  have hreloader : start.receiveAll (done ++ [(c, f)]) =
      ((start.receiveAll done).recordDigest p).announce p := by
    rw [Reloader.receiveAll_concat, hp]
    rfl
  have hevents : (start.receiveAll done).events n f =
      (.acquired :: .fetched f :: p.tellings n) ++ [.ended p.outcome] := by
    rw [Reloader.events, ← hp]
    rfl
  have hlog : start.serialLog n (done ++ [(c, f)]) =
      (start.serialLog n done ++ (.acquired :: .fetched f :: p.tellings n).map fun e => (c, e)) ++
        [(c, .ended p.outcome)] := by
    rw [Reloader.serialLog_concat, hevents, List.map_append, List.append_assoc]
    rfl
  have hothers' : Others n start (done ++ [(c, f)]) none (phases.set c (.ended p.outcome)) :=
    hothers.finish hphase hended (congrArg _ hp)
  have hserial : Serial n start (done ++ [(c, f)]) _ := .idle hothers'
  rw [hreloader, hlog] at hserial
  exact hserial

/-- A call that tells its listeners tells the next one, or ends. -/
theorem Serial.tell {phases : List ReloadPhase} {c k : Nat} {f : Fetched} {p : ReloadPlan}
    (hp : p = (start.receiveAll done).planFor f) (hphase : phases[c]? = some (.telling p k))
    (hothers : Others n start done (some c) phases) (hk : k ≤ (p.tellings n).length) :
    ∃ done', Serial n start done'
      ((ReloadCalls.mk ((start.receiveAll done).recordDigest p) n phases (some c)
        (start.serialLog n done ++
          (.acquired :: .fetched f :: (p.tellings n).take k).map fun e => (c, e))).advance c
            (.telling p k)) := by
  simp only [advance]
  cases he : (p.tellings n)[k]? with
  | some e =>
    have htake : (p.tellings n).take (k + 1) = (p.tellings n).take k ++ [e] := by
      rw [List.take_add_one, he]
      rfl
    have hlt : k < (p.tellings n).length := (List.getElem?_eq_some_iff.mp he).1
    have hflight : InFlight n (start.receiveAll done) (.telling p (k + 1))
        ((start.receiveAll done).recordDigest p)
        (.acquired :: .fetched f :: (p.tellings n).take (k + 1)) := by
      subst hp
      exact .telling f hlt
    rw [htake] at hflight
    exact ⟨done, Serial.goOn hphase nofun hothers hflight⟩
  | none =>
    have hall : (p.tellings n).take k = p.tellings n :=
      List.take_of_length_le (List.getElem?_eq_none_iff.mp he)
    rw [hall]
    exact ⟨done ++ [(c, f)], Serial.finish hphase nofun hothers hp⟩

/-- A step of any call adds to the call that is under way, or begins or ends one. -/
theorem Serial.step (h : Serial n start done r) (mv : ReloadMove) :
    ∃ done', Serial n start done' (r.step mv) := by
  cases h with
  | @idle phases hothers =>
    cases mv with
    | call => exact ⟨done, .idle hothers.call⟩
    | answer c f =>
      simp only [ReloadCalls.step]
      split
      · next hc => cases hothers.runs c _ hc rfl
      · exact ⟨done, .idle hothers⟩
    | advance c =>
      simp only [ReloadCalls.step]
      cases hc : phases[c]? with
      | none => exact ⟨done, .idle hothers⟩
      | some phase =>
        cases phase with
        | waiting =>
          obtain ⟨hlt, -⟩ := List.getElem?_eq_some_iff.mp hc
          exact ⟨done,
            .busy (List.getElem?_set_self hlt) (hothers.goOn hc nofun nofun nofun) .fetching⟩
        | ended o => exact ⟨done, .idle hothers⟩
        | fetching | planning | recording | telling => cases hothers.runs c _ hc rfl
  | @busy phases c phase reloader events hphase hothers hflight =>
    cases mv with
    | call =>
      obtain ⟨hlt, -⟩ := List.getElem?_eq_some_iff.mp hphase
      exact ⟨done, .busy ((List.getElem?_append_left hlt).trans hphase) hothers.call hflight⟩
    | answer d f =>
      simp only [ReloadCalls.step]
      split
      · next hd =>
        obtain rfl := Option.some.inj (hothers.runs d _ hd rfl)
        obtain rfl := Option.some.inj (hd.symm.trans hphase)
        cases hflight
        exact ⟨done, Serial.goOn hphase nofun hothers (.planning f)⟩
      · exact ⟨done, .busy hphase hothers hflight⟩
    | advance d =>
      simp only [ReloadCalls.step]
      cases hd : phases[d]? with
      | none => exact ⟨done, .busy hphase hothers hflight⟩
      | some other =>
        by_cases hrunning : other.isRunning = true
        · obtain rfl := Option.some.inj (hothers.runs d _ hd hrunning)
          obtain rfl := Option.some.inj (hd.symm.trans hphase)
          cases hflight with
          | fetching => exact ⟨done, .busy hphase hothers .fetching⟩
          | planning f => exact ⟨done, Serial.goOn hphase nofun hothers (.recording f)⟩
          | recording f =>
            exact ⟨done, Serial.goOn hphase nofun hothers (.telling f (Nat.zero_le _))⟩
          | telling f hk => exact Serial.tell rfl hphase hothers hk
        · cases other with
          | waiting | ended => exact ⟨done, .busy hphase hothers hflight⟩
          | fetching | planning | recording | telling => exact absurd rfl hrunning

/-- At any time some calls have been carried out one after another, and at most one more call is
under way. -/
theorem exists_serial_after (start : Reloader) (n : Nat) (moves : List ReloadMove) :
    ∃ done, Serial n start done (after start n moves) := by
  induction moves using List.reverseRecOn with
  | nil =>
    have hothers : Others n start [] none [] :=
      ⟨nofun, by simp [Reloader.serialLog], List.nodup_nil⟩
    exact ⟨[], .idle hothers⟩
  | append_singleton moves mv ih =>
    obtain ⟨done, h⟩ := ih
    rw [after_snoc]
    exact h.step mv

end ReloadCalls

end ServiceControl
