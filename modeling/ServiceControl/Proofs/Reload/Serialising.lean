import Mathlib.Data.List.Infix
import ServiceControl.Proofs.Reload.Overlapping

/-!
# Overlapping reloads are serialised

Whatever calls for a reload overlap, and whatever their fetches bring, the run is one of calls that
are carried out one after another in the order in which they acquired the lock. Every listener is
told the configurations that come into force in this order, so one that was fetched earlier never
takes the place of one that was fetched later. No call is kept from its end by the others: the one
that has the lock can always go on and give it back, and then one that waits takes it.
-/

namespace ServiceControl

namespace ReloadEvent

/-- Whether a call acquired the lock. -/
def isAcquired : ReloadEvent → Bool
  | acquired => true
  | _ => false

/-- Whether a fetch came back. -/
def isFetched : ReloadEvent → Bool
  | fetched _ => true
  | _ => false

/-- What a listener was told. -/
def toldTo? (i : Nat) : ReloadEvent → Option Services
  | told j s => if j = i then some s else none
  | _ => none

end ReloadEvent

namespace ReloadCalls

/-- The calls that acquired the lock, in order. -/
def acquisitions (log : Table Nat ReloadEvent) : List Nat :=
  (log.filter (·.2.isAcquired)).map Prod.fst

/-- The calls whose fetches came back, in order. -/
def fetches (log : Table Nat ReloadEvent) : List Nat :=
  (log.filter (·.2.isFetched)).map Prod.fst

/-- What a listener was told and in which calls, in order. -/
def told (i : Nat) (log : Table Nat ReloadEvent) : Table Nat Services :=
  log.filterMap fun x => (x.2.toldTo? i).map fun s => (x.1, s)

variable {n i c : Nat} {start m : Reloader} {done : Table Nat Fetched} {r : ReloadCalls}
  {f : Fetched} {events : List ReloadEvent}

theorem acquisitions_append (log log' : Table Nat ReloadEvent) :
    acquisitions (log ++ log') = acquisitions log ++ acquisitions log' := by
  simp only [acquisitions, List.filter_append, List.map_append]

theorem fetches_append (log log' : Table Nat ReloadEvent) :
    fetches (log ++ log') = fetches log ++ fetches log' := by
  simp only [fetches, List.filter_append, List.map_append]

theorem told_append (i : Nat) (log log' : Table Nat ReloadEvent) :
    told i (log ++ log') = told i log ++ told i log' :=
  List.filterMap_append

/-! ## One call -/

theorem acquisitions_map (c : Nat) (events : List ReloadEvent) :
    acquisitions (events.map fun e => (c, e)) = (events.filter (·.isAcquired)).map fun _ => c := by
  simp only [acquisitions, List.filter_map, List.map_map, Function.comp_def]

theorem fetches_map (c : Nat) (events : List ReloadEvent) :
    fetches (events.map fun e => (c, e)) = (events.filter (·.isFetched)).map fun _ => c := by
  simp only [fetches, List.filter_map, List.map_map, Function.comp_def]

theorem told_map (i c : Nat) (events : List ReloadEvent) :
    told i (events.map fun e => (c, e)) =
      (events.filterMap (·.toldTo? i)).map fun s => (c, s) := by
  simp only [told, List.filterMap_map, List.map_filterMap, Function.comp_def]

/-- Nothing but listeners being told happens while they are told. -/
theorem exists_of_mem_tellings {p : ReloadPlan} {e : ReloadEvent} (h : e ∈ p.tellings n) :
    ∃ j s, e = .told j s := by
  obtain ⟨s, _, hs⟩ := List.mem_flatMap.mp h
  obtain ⟨j, _, rfl⟩ := List.mem_map.mp hs
  exact ⟨j, s, rfl⟩

/-- Each listener is told once. -/
theorem filterMap_tellings (p : ReloadPlan) (hi : i < n) :
    (p.tellings n).filterMap (·.toldTo? i) = p.services?.toList := by
  cases hs : p.services? with
  | none => simp [ReloadPlan.tellings, hs]
  | some s =>
    have honce : (List.range n).count i = 1 := by
      rw [List.nodup_range.count, if_pos (List.mem_range.mpr hi)]
    have htold : ((List.range n).map fun j => ReloadEvent.told j s).filterMap (·.toldTo? i) =
        (List.range n).filterMap fun j => if j = i then some s else none := List.filterMap_map
    simp only [ReloadPlan.tellings, hs, Option.toList_some, List.flatMap_singleton, htold,
      Table.filterMap_if_eq, honce, List.replicate_one]

/-- Besides telling its listeners, a call acquires the lock, fetches and ends. -/
theorem filter_events {p : ReloadEvent → Bool} (htold : ∀ j s, p (.told j s) = false)
    (hended : ∀ o, p (.ended o) = false) (m : Reloader) (n : Nat) (f : Fetched) :
    (m.events n f).filter p = [ReloadEvent.acquired, .fetched f].filter p := by
  have htellings : ((m.planFor f).tellings n).filter p = [] := by
    rw [List.filter_eq_nil_iff]
    intro e he
    obtain ⟨j, s, rfl⟩ := exists_of_mem_tellings he
    exact ne_true_of_eq_false (htold j s)
  have hend : [ReloadEvent.ended (m.planFor f).outcome].filter p = [] :=
    List.filter_cons_of_neg (ne_true_of_eq_false (hended _))
  have hevents : m.events n f = [.acquired, .fetched f] ++
      ((m.planFor f).tellings n ++ [.ended (m.planFor f).outcome]) := rfl
  rw [hevents, List.filter_append, List.filter_append, htellings, hend, List.append_nil,
    List.append_nil]

theorem acquisitions_events (m : Reloader) (n c : Nat) (f : Fetched) :
    acquisitions ((m.events n f).map fun e => (c, e)) = [c] := by
  rw [acquisitions_map, filter_events (fun _ _ => rfl) (fun _ => rfl)]
  rfl

theorem fetches_events (m : Reloader) (n c : Nat) (f : Fetched) :
    fetches ((m.events n f).map fun e => (c, e)) = [c] := by
  rw [fetches_map, filter_events (fun _ _ => rfl) (fun _ => rfl)]
  rfl

/-- In a call that is carried out, each listener is told what the call puts in force. -/
theorem told_events (m : Reloader) (hi : i < n) (c : Nat) (f : Fetched) :
    told i ((m.events n f).map fun e => (c, e)) =
      (m.planFor f).services?.toList.map fun s => (c, s) := by
  rw [told_map, Reloader.events, List.filterMap_cons_none rfl, List.filterMap_cons_none rfl,
    List.filterMap_append, filterMap_tellings _ hi]
  exact congrArg _ (List.append_nil _)

/-- What a call puts in force is behind what was in force before. -/
theorem snapshots_receive (m : Reloader) (f : Fetched) :
    (m.receive f).2.snapshots = m.snapshots ++ (m.planFor f).services?.toList := by
  change ((m.recordDigest (m.planFor f)).announce (m.planFor f)).snapshots = _
  cases m.planFor f with
  | apply digest s errors => rfl
  | failed | unchanged | unreadable => exact (List.append_nil _).symm

/-- The run once a call has taken the lock and stands at a phase, with what it has made of the
reloader and what it has done. -/
def standing (r : ReloadCalls) (c : Nat) (phase : ReloadPhase) (reloader : Reloader)
    (events : List ReloadEvent) : ReloadCalls :=
  { r with
    reloader
    phases := r.phases.set c phase
    holder := some c
    log := r.log ++ events.map fun e => (c, e) }

@[simp] theorem listeners_standing (r : ReloadCalls) (c : Nat) (phase : ReloadPhase)
    (reloader : Reloader) (events : List ReloadEvent) :
    (r.standing c phase reloader events).listeners = r.listeners := rfl

@[simp] theorem reloader_standing (r : ReloadCalls) (c : Nat) (phase : ReloadPhase)
    (reloader : Reloader) (events : List ReloadEvent) :
    (r.standing c phase reloader events).reloader = reloader := rfl

theorem getElem?_standing {phase : ReloadPhase} {reloader : Reloader} (hc : c < r.phases.length) :
    (r.standing c phase reloader events).phases[c]? = some phase :=
  List.getElem?_set_self hc

/-- A call that is at a phase already stands there. -/
theorem standing_of_getElem? {phase : ReloadPhase} (hc : r.phases[c]? = some phase)
    (reloader : Reloader) (events : List ReloadEvent) :
    r.standing c phase reloader events =
      { r with
        reloader
        holder := some c
        log := r.log ++ events.map fun e => (c, e) } := by
  obtain ⟨hlt, hget⟩ := List.getElem?_eq_some_iff.mp hc
  rw [standing, ← hget, List.set_getElem_self]

theorem goOn_standing (r : ReloadCalls) (c : Nat) (phase phase' : ReloadPhase)
    (reloader : Reloader) (events : List ReloadEvent) (event : Option ReloadEvent) :
    (r.standing c phase reloader events).goOn c phase' event =
      r.standing c phase' reloader (events ++ event.toList) := by
  simp only [standing, goOn, List.set_set, List.append_assoc, List.map_append]

/-! ## A call that goes on alone -/

/-- Some moves lead from one run to another. -/
def LeadsTo (r s : ReloadCalls) : Prop := ∃ moves : List ReloadMove, moves.foldl step r = s

namespace LeadsTo

variable {s t : ReloadCalls}

theorem refl (r : ReloadCalls) : LeadsTo r r := ⟨[], rfl⟩

theorem of_step (mv : ReloadMove) (h : LeadsTo (r.step mv) s) : LeadsTo r s := by
  obtain ⟨moves, hmoves⟩ := h
  exact ⟨mv :: moves, hmoves⟩

theorem trans (h : LeadsTo r s) (h' : LeadsTo s t) : LeadsTo r t := by
  obtain ⟨moves, hmoves⟩ := h
  obtain ⟨more, hmore⟩ := h'
  refine ⟨moves ++ more, ?_⟩
  rw [List.foldl_append, hmoves, hmore]

theorem exists_after {moves : List ReloadMove} (h : LeadsTo (after start n moves) s) :
    ∃ more, after start n (moves ++ more) = s := by
  obtain ⟨more, hmore⟩ := h
  refine ⟨more, ?_⟩
  rw [after, List.foldl_append]
  exact hmore

end LeadsTo

/-- A call goes on until all its listeners have been told. -/
theorem leadsTo_told (p : ReloadPlan) (k : Nat) (reloader : Reloader) (events : List ReloadEvent)
    (hc : c < r.phases.length) :
    LeadsTo (r.standing c (.telling p k) reloader events)
      { r.standing c (.ended p.outcome) (reloader.announce p)
          (events ++ (p.tellings r.listeners).drop k ++ [.ended p.outcome]) with
        holder := none } := by
  have hget : (r.standing c (.telling p k) reloader events).phases[c]? = some (.telling p k) :=
    getElem?_standing hc
  refine .of_step (.advance c) ?_
  -- on the number of listeners that have not been told yet
  induction hrest : (p.tellings r.listeners).length - k generalizing k events with
  | zero =>
    have hnone : (p.tellings r.listeners)[k]? = none :=
      List.getElem?_eq_none (Nat.le_of_sub_eq_zero hrest)
    have hdrop : (p.tellings r.listeners).drop k = [] :=
      List.drop_eq_nil_of_le (Nat.le_of_sub_eq_zero hrest)
    have hstep : (r.standing c (.telling p k) reloader events).step (.advance c) =
        { (r.standing c (.telling p k) reloader events).goOn c (.ended p.outcome)
            (some (.ended p.outcome)) with
          reloader := reloader.announce p
          holder := none } := by
      simp only [step, hget, advance, listeners_standing, hnone, reloader_standing]
    rw [hstep, goOn_standing, hdrop, List.append_nil]
    exact .refl _
  | succ rest ih =>
    have hk : k < (p.tellings r.listeners).length := by omega
    have hsome : (p.tellings r.listeners)[k]? = some (p.tellings r.listeners)[k] :=
      List.getElem?_eq_getElem hk
    have hdrop : (p.tellings r.listeners).drop k =
        (p.tellings r.listeners)[k] :: (p.tellings r.listeners).drop (k + 1) :=
      List.drop_eq_getElem_cons hk
    have hstep : (r.standing c (.telling p k) reloader events).step (.advance c) =
        r.standing c (.telling p (k + 1)) reloader (events ++ [(p.tellings r.listeners)[k]]) := by
      simp only [step, hget, advance, listeners_standing, hsome, goOn_standing,
        Option.toList_some]
    have hothers := ih (k + 1) (events ++ [(p.tellings r.listeners)[k]])
      (getElem?_standing hc)
      (show (p.tellings r.listeners).length - (k + 1) = rest by omega)
    rw [hstep, hdrop]
    rw [List.append_assoc events, List.singleton_append] at hothers
    exact .of_step (.advance c) hothers

/-- The run once a call has taken in what it fetched and given the lock back. -/
def received (r : ReloadCalls) (c : Nat) (f : Fetched) : ReloadCalls :=
  { r with
    reloader := (r.reloader.receive f).2
    phases := r.phases.set c (.ended (r.reloader.receive f).1)
    holder := none
    log := r.log ++ (r.reloader.events r.listeners f).map fun e => (c, e) }

theorem getElem?_received (f : Fetched) (hc : c < r.phases.length) :
    (r.received c f).phases[c]? = some (.ended (r.reloader.receive f).1) :=
  List.getElem?_set_self hc

theorem leadsTo_received_of_telling (f : Fetched) (k : Nat) (hc : c < r.phases.length) :
    LeadsTo
      (r.standing c (.telling (r.reloader.planFor f) k)
        (r.reloader.recordDigest (r.reloader.planFor f))
        (.acquired :: .fetched f :: ((r.reloader.planFor f).tellings r.listeners).take k))
      (r.received c f) := by
  have htold := leadsTo_told (r.reloader.planFor f) k
    (r.reloader.recordDigest (r.reloader.planFor f))
    (.acquired :: .fetched f :: ((r.reloader.planFor f).tellings r.listeners).take k) hc
  simp only [List.cons_append, List.take_append_drop] at htold
  exact htold

theorem leadsTo_received_of_recording (f : Fetched) (hc : c < r.phases.length) :
    LeadsTo (r.standing c (.recording (r.reloader.planFor f)) r.reloader [.acquired, .fetched f])
      (r.received c f) := by
  have hstep : (r.standing c (.recording (r.reloader.planFor f)) r.reloader
      [.acquired, .fetched f]).step (.advance c) =
        r.standing c (.telling (r.reloader.planFor f) 0)
          (r.reloader.recordDigest (r.reloader.planFor f)) [.acquired, .fetched f] := by
    simp only [step, getElem?_standing hc, advance, goOn_standing]
    rfl
  refine .of_step (.advance c) ?_
  rw [hstep]
  exact leadsTo_received_of_telling f 0 hc

theorem leadsTo_received_of_planning (f : Fetched) (hc : c < r.phases.length) :
    LeadsTo (r.standing c (.planning f) r.reloader [.acquired, .fetched f]) (r.received c f) := by
  have hstep : (r.standing c (.planning f) r.reloader [.acquired, .fetched f]).step (.advance c) =
      r.standing c (.recording (r.reloader.planFor f)) r.reloader [.acquired, .fetched f] := by
    simp only [step, getElem?_standing hc, advance, goOn_standing]
    rfl
  refine .of_step (.advance c) ?_
  rw [hstep]
  exact leadsTo_received_of_recording f hc

theorem leadsTo_received_of_fetching (f : Fetched) (hc : c < r.phases.length) :
    LeadsTo (r.standing c .fetching r.reloader [.acquired]) (r.received c f) := by
  have hstep : (r.standing c .fetching r.reloader [.acquired]).step (.answer c f) =
      r.standing c (.planning f) r.reloader [.acquired, .fetched f] := by
    simp only [step, getElem?_standing hc, goOn_standing]
    rfl
  refine .of_step (.answer c f) ?_
  rw [hstep]
  exact leadsTo_received_of_planning f hc

/-- A call that nobody comes between takes in what it has fetched. -/
theorem leadsTo_received (hfree : r.holder = none) (hc : r.phases[c]? = some .waiting)
    (f : Fetched) : LeadsTo r (r.received c f) := by
  obtain ⟨hlt, -⟩ := List.getElem?_eq_some_iff.mp hc
  have hacquire : r.step (.advance c) = r.standing c .fetching r.reloader [.acquired] := by
    simp only [step, hc, advance, hfree]
    rfl
  refine .of_step (.advance c) ?_
  rw [hacquire]
  exact leadsTo_received_of_fetching f hlt

/-! ## Calls one after another -/

/-- Calls that are carried out one after another acquire the lock in their order, and then their
fetches come back. -/
theorem acquisitions_serialLog (m : Reloader) (n : Nat) (done : Table Nat Fetched) :
    acquisitions (m.serialLog n done) = done.map Prod.fst := by
  induction done generalizing m with
  | nil => rfl
  | cons x rest ih =>
    rw [Reloader.serialLog, acquisitions_append, acquisitions_events, ih]
    rfl

theorem fetches_serialLog (m : Reloader) (n : Nat) (done : Table Nat Fetched) :
    fetches (m.serialLog n done) = done.map Prod.fst := by
  induction done generalizing m with
  | nil => rfl
  | cons x rest ih =>
    rw [Reloader.serialLog, fetches_append, fetches_events, ih]
    rfl

/-- Each listener is told all that comes into force, in order. -/
theorem snapshots_receiveAll (m : Reloader) (hi : i < n) (done : Table Nat Fetched) :
    (m.receiveAll done).snapshots =
      m.snapshots ++ (told i (m.serialLog n done)).map Prod.snd := by
  induction done generalizing m with
  | nil => exact (List.append_nil _).symm
  | cons x rest ih =>
    have hrest := ih (m.receive x.2).2
    rw [snapshots_receive, List.append_assoc] at hrest
    rw [Reloader.serialLog, told_append, told_events m hi, List.map_append, List.map_map]
    exact hrest.trans (by simp [Function.comp_def])

/-- Listeners are told in the order of the fetches. -/
theorem told_sublist_serialLog (m : Reloader) (hi : i < n) (done : Table Nat Fetched) :
    ((told i (m.serialLog n done)).map Prod.fst).Sublist (fetches (m.serialLog n done)) := by
  induction done generalizing m with
  | nil => exact List.Sublist.refl _
  | cons x rest ih =>
    rw [Reloader.serialLog, told_append, fetches_append, told_events m hi, fetches_events,
      List.map_append]
    refine List.Sublist.append ?_ (ih _)
    cases (m.planFor x.2).services? with
    | none => exact List.nil_sublist _
    | some s => exact List.Sublist.refl _

/-! ## The call that is under way -/

namespace InFlight

variable {phase : ReloadPhase} {reloader : Reloader}

theorem eq_cons (h : InFlight n m phase reloader events) : ∃ rest, events = .acquired :: rest := by
  cases h <;> exact ⟨_, rfl⟩

/-- What a call has done so far is how a call that nobody comes between begins. -/
theorem exists_events_le (h : InFlight n m phase reloader events) :
    ∃ f, events <+: m.events n f := by
  cases h with
  | fetching => exact ⟨.error (.invalidLocator ""), List.prefix_append [ReloadEvent.acquired] _⟩
  | planning f | recording f =>
    exact ⟨f, List.prefix_append [ReloadEvent.acquired, .fetched f] _⟩
  | @telling f k hk =>
    have htake : ((m.planFor f).tellings n).take k <+: (m.planFor f).tellings n :=
      List.take_prefix _ _
    have hall : (m.planFor f).tellings n <+:
        (m.planFor f).tellings n ++ [.ended (m.planFor f).outcome] := List.prefix_append _ _
    have hrest := (List.prefix_cons_inj (.fetched f)).mpr (htake.trans hall)
    exact ⟨f, (List.prefix_cons_inj .acquired).mpr hrest⟩

/-- A call that is under way has acquired the lock, once. -/
theorem acquisitions_eq (h : InFlight n m phase reloader events) (c : Nat) :
    acquisitions (events.map fun e => (c, e)) = [c] := by
  obtain ⟨rest, rfl⟩ := h.eq_cons
  obtain ⟨f, hevents⟩ := h.exists_events_le
  have hle : acquisitions ((ReloadEvent.acquired :: rest).map fun e => (c, e)) <+: [c] := by
    rw [← acquisitions_events m n c f]
    exact ((hevents.map _).filter _).map _
  have hcons : acquisitions ((ReloadEvent.acquired :: rest).map fun e => (c, e)) =
      c :: acquisitions (rest.map fun e => (c, e)) := rfl
  rw [hcons, List.prefix_cons_inj, List.prefix_nil] at hle
  rw [hcons, hle]

theorem fetches_le (h : InFlight n m phase reloader events) (c : Nat) :
    fetches (events.map fun e => (c, e)) <+: [c] := by
  obtain ⟨f, hevents⟩ := h.exists_events_le
  rw [← fetches_events m n c f]
  exact ((hevents.map _).filter _).map _

/-- A call tells its listeners what it has fetched. -/
theorem told_sublist (h : InFlight n m phase reloader events) (hi : i < n) (c : Nat) :
    ((told i (events.map fun e => (c, e))).map Prod.fst).Sublist
      (fetches (events.map fun e => (c, e))) := by
  have hfetches := h.fetches_le c
  obtain ⟨f', hevents⟩ := h.exists_events_le
  have htold : (told i (events.map fun e => (c, e))).map Prod.fst <+:
      (told i ((m.events n f').map fun e => (c, e))).map Prod.fst :=
    ((hevents.map _).filterMap _).map _
  rw [told_events m hi] at htold
  cases h with
  | fetching | planning | recording => exact List.nil_sublist _
  | @telling f k hk =>
    have hcons : fetches ((ReloadEvent.acquired :: .fetched f ::
        ((m.planFor f).tellings n).take k).map fun e => (c, e)) =
          c :: fetches ((((m.planFor f).tellings n).take k).map fun e => (c, e)) := rfl
    rw [hcons] at hfetches ⊢
    refine htold.sublist.trans ?_
    cases (m.planFor f').services? with
    | none => exact List.nil_sublist _
    | some s => exact (List.nil_sublist _).cons_cons c

end InFlight

/-- A run is one of calls that were carried out one after another, with at most one more
that is under way. -/
structure Carries (start : Reloader) (n : Nat) (done : Table Nat Fetched)
    (last : Option (Nat × Fetched)) (r : ReloadCalls) : Prop where
  /-- The calls are in the order in which they acquired the lock. -/
  order : acquisitions r.log = (done ++ last.toList).map Prod.fst
  /-- No other call is between its fetch and the end of its notification. -/
  running : ∀ c, r.Runs c ↔ last.map Prod.fst = some c
  /-- All that happened, happened as in calls one after another. -/
  log_le : r.log <+: start.serialLog n (done ++ last.toList)
  le_log : start.serialLog n done <+: r.log
  /-- The calls that were carried out are those that have ended, with the same outcomes. -/
  ended : ∀ c o, r.phases[c]? = some (.ended o) ↔ (c, .ended o) ∈ start.serialLog n done
  reloader : last = none → r.reloader = start.receiveAll done
  /-- Every listener is told what comes into force, in order. -/
  told_le : ∀ i < n, start.snapshots ++ (told i r.log).map Prod.snd <+:
    (start.receiveAll (done ++ last.toList)).snapshots
  le_told : ∀ i < n, (start.receiveAll done).snapshots <+:
    start.snapshots ++ (told i r.log).map Prod.snd
  /-- Every listener is told in the order in which the fetches came back, and they did so in the
  order of the acquisitions. -/
  told_sublist : ∀ i < n, ((told i r.log).map Prod.fst).Sublist (fetches r.log)
  fetches_le : fetches r.log <+: acquisitions r.log

/-- Listeners are told less than in more calls. -/
theorem told_le_of_le {log log' : Table Nat ReloadEvent} (h : log <+: log')
    (l : List Services) :
    l ++ (told i log).map Prod.snd <+: l ++ (told i log').map Prod.snd :=
  (List.prefix_append_right_inj l).mpr ((h.filterMap _).map _)

theorem Carries.of_idle {phases : List ReloadPhase} (hothers : Others n start done none phases) :
    Carries start n done none ⟨start.receiveAll done, n, phases, none, start.serialLog n done⟩ := by
  have hdone : done ++ (none : Option (Nat × Fetched)).toList = done := List.append_nil done
  constructor
  case order => rw [hdone, acquisitions_serialLog]
  case running =>
    refine fun c => ⟨fun ⟨phase, hphase, hrunning⟩ => ?_, nofun⟩
    cases hothers.runs c phase hphase hrunning
  case log_le => rw [hdone]
  case le_log => exact List.prefix_rfl
  case ended => exact hothers.ended
  case reloader => exact fun _ => rfl
  case told_le =>
    intro i hi
    rw [hdone, snapshots_receiveAll start hi]
  case le_told =>
    intro i hi
    rw [snapshots_receiveAll start hi]
  case told_sublist => exact fun i hi => told_sublist_serialLog start hi done
  case fetches_le => rw [fetches_serialLog, acquisitions_serialLog]

theorem Carries.of_busy {phases : List ReloadPhase} {phase : ReloadPhase} {reloader : Reloader}
    (hphase : phases[c]? = some phase) (hothers : Others n start done (some c) phases)
    (hflight : InFlight n (start.receiveAll done) phase reloader events)
    (hf : events <+: (start.receiveAll done).events n f) :
    Carries start n done (some (c, f))
      ⟨reloader, n, phases, some c, start.serialLog n done ++ events.map fun e => (c, e)⟩ := by
  have hlog : start.serialLog n done ++ events.map (fun e => (c, e)) <+:
      start.serialLog n (done ++ [(c, f)]) := by
    rw [Reloader.serialLog_concat, List.prefix_append_right_inj]
    exact hf.map _
  have hdone : start.serialLog n done <+:
      start.serialLog n done ++ events.map fun e => (c, e) := List.prefix_append _ _
  constructor
  case order =>
    rw [acquisitions_append, acquisitions_serialLog, hflight.acquisitions_eq, List.map_append]
    rfl
  case running =>
    intro d
    constructor
    · rintro ⟨other, hother, hrunning⟩
      exact hothers.runs d other hother hrunning
    · intro hd
      obtain rfl := Option.some.inj hd
      exact ⟨phase, hphase, hflight.isRunning⟩
  case log_le => exact hlog
  case le_log => exact hdone
  case ended => exact hothers.ended
  case reloader => exact nofun
  case told_le =>
    intro i hi
    rw [snapshots_receiveAll start hi]
    exact told_le_of_le hlog _
  case le_told =>
    intro i hi
    rw [snapshots_receiveAll start hi]
    exact told_le_of_le hdone _
  case told_sublist =>
    intro i hi
    rw [told_append, fetches_append, List.map_append]
    exact (told_sublist_serialLog start hi done).append (hflight.told_sublist hi c)
  case fetches_le =>
    rw [fetches_append, acquisitions_append, fetches_serialLog, acquisitions_serialLog,
      hflight.acquisitions_eq, List.prefix_append_right_inj]
    exact hflight.fetches_le c

theorem Serial.exists_carries (h : Serial n start done r) :
    (acquisitions r.log).Nodup ∧ ∃ last, Carries start n done last r := by
  cases h with
  | idle hothers =>
    refine ⟨?_, none, .of_idle hothers⟩
    rw [acquisitions_serialLog]
    exact hothers.nodup
  | @busy phases c phase reloader events hphase hothers hflight =>
    obtain ⟨f, hf⟩ := hflight.exists_events_le
    refine ⟨?_, some (c, f), .of_busy hphase hothers hflight hf⟩
    have hc : c ∉ done.map Prod.fst := hothers.notMem hphase hflight.ne_ended
    rw [acquisitions_append, acquisitions_serialLog, hflight.acquisitions_eq, List.nodup_append]
    refine ⟨hothers.nodup, by simp, fun d hd e he => ?_⟩
    obtain rfl := List.mem_singleton.mp he
    exact fun hde => hc (hde ▸ hd)

/-- A call that has the lock goes on from where it stands, with what it has fetched or will. -/
theorem InFlight.leadsTo_received {phase : ReloadPhase} {reloader : Reloader}
    (h : InFlight r.listeners r.reloader phase reloader events)
    (hf : events <+: r.reloader.events r.listeners f) (hc : c < r.phases.length) :
    LeadsTo (r.standing c phase reloader events) (r.received c f) := by
  have hsame {g : Fetched} {rest : List ReloadEvent}
      (hg : .acquired :: .fetched g :: rest <+: r.reloader.events r.listeners f) : g = f := by
    have hrest := (List.cons_prefix_cons.mp hg).2
    exact ReloadEvent.fetched.inj (List.cons_prefix_cons.mp hrest).1
  cases h with
  | fetching => exact leadsTo_received_of_fetching f hc
  | planning g =>
    obtain rfl := hsame hf
    exact leadsTo_received_of_planning g hc
  | recording g =>
    obtain rfl := hsame hf
    exact leadsTo_received_of_recording g hc
  | @telling g k hk =>
    obtain rfl := hsame hf
    exact leadsTo_received_of_telling g k hc

theorem exists_ended_of_waiting (hfree : r.holder = none) (hc : r.phases[c]? = some .waiting) :
    ∃ s o, LeadsTo r s ∧ s.phases[c]? = some (.ended o) :=
  ⟨_, _, leadsTo_received hfree hc (.error (.invalidLocator "")),
    getElem?_received _ (List.getElem?_eq_some_iff.mp hc).1⟩

/-- A call that was made can end, whichever call has the lock. -/
theorem Serial.exists_ended (h : Serial n start done r) (hc : c < r.phases.length) :
    ∃ s o, LeadsTo r s ∧ s.phases[c]? = some (.ended o) := by
  have hphase : r.phases[c]? = some r.phases[c] := List.getElem?_eq_getElem hc
  generalize r.phases[c] = phase at hphase
  cases h with
  | idle hothers =>
    cases phase with
    | waiting => exact exists_ended_of_waiting rfl hphase
    | ended o => exact ⟨_, o, .refl _, hphase⟩
    | fetching | planning | recording | telling => cases hothers.runs c _ hphase rfl
  | @busy phases d current reloader events hd hothers hflight =>
    -- the call that has the lock ends first
    obtain ⟨f, hf⟩ := hflight.exists_events_le
    obtain ⟨hlt, -⟩ := List.getElem?_eq_some_iff.mp hd
    let free : ReloadCalls := ⟨start.receiveAll done, n, phases, none, start.serialLog n done⟩
    have hfirst := hflight.leadsTo_received (r := free) hf hlt
    rw [standing_of_getElem? hd] at hfirst
    by_cases hdc : d = c
    · subst hdc
      exact ⟨_, _, hfirst, getElem?_received f hlt⟩
    · cases phase with
      | waiting =>
        have hwaits : (free.received d f).phases[c]? = some .waiting :=
          (List.getElem?_set_ne hdc).trans hphase
        obtain ⟨s, o, hs, hended⟩ := exists_ended_of_waiting rfl hwaits
        exact ⟨s, o, hfirst.trans hs, hended⟩
      | ended o => exact ⟨_, o, .refl _, hphase⟩
      | fetching | planning | recording | telling =>
        exact absurd (Option.some.inj (hothers.runs c _ hphase rfl)) hdc

/-- What can still become of a run, whatever has happened in it. -/
structure GoesOn (start : Reloader) (n : Nat) (moves : List ReloadMove) : Prop where
  /-- Every call that was made can end, whichever call has the lock. -/
  ends : ∀ c < (after start n moves).phases.length, ∃ more o,
    (after start n (moves ++ more)).phases[c]? = some (.ended o)
  /-- While no call has the lock, one that waits can take in whatever it fetches. -/
  waits : ∀ c f, (after start n moves).holder = none →
    (after start n moves).phases[c]? = some .waiting →
    ∃ more, after start n (moves ++ more) = (after start n moves).received c f
  /-- So can one that is made only then. -/
  calls : ∀ f, (after start n moves).holder = none →
    ∃ more, after start n (moves ++ .call :: more) =
      { after start n moves with
        reloader := ((after start n moves).reloader.receive f).2
        phases := (after start n moves).phases ++
          [.ended ((after start n moves).reloader.receive f).1]
        log := (after start n moves).log ++
          ((after start n moves).reloader.events (after start n moves).listeners f).map
            fun e => ((after start n moves).phases.length, e) }

theorem goesOn (start : Reloader) (n : Nat) (moves : List ReloadMove) : GoesOn start n moves := by
  constructor
  case ends =>
    intro c hc
    obtain ⟨done, h⟩ := exists_serial_after start n moves
    obtain ⟨s, o, hs, ho⟩ := h.exists_ended hc
    obtain ⟨more, rfl⟩ := hs.exists_after
    exact ⟨more, o, ho⟩
  case waits =>
    intro c f hfree hc
    exact (leadsTo_received hfree hc f).exists_after
  case calls =>
    intro f hfree
    have hfree' : (after start n (moves ++ [.call])).holder = none := by
      rw [after_snoc]
      exact hfree
    have hc : (after start n (moves ++ [.call])).phases[(after start n moves).phases.length]? =
        some .waiting := by
      rw [after_snoc]
      exact List.getElem?_concat_length
    obtain ⟨more, hmore⟩ := (leadsTo_received hfree' hc f).exists_after
    refine ⟨more, ?_⟩
    rw [List.append_cons, hmore, after_snoc, received, step, ← hfree]
    simp only [List.set_append_right _ _ (Nat.le_refl _), Nat.sub_self, List.set_cons_zero]

/-- Calls for reloads are serialised: no two of them are between their fetch and the end of their
notification at the same time, each acquires the lock once, and the run is one of calls that are
carried out one after another in the order in which they acquired it. No call is kept from its end
by the others, and one that nobody comes between takes in what it has fetched. -/
theorem serialised (start : Reloader) (n : Nat) (moves : List ReloadMove) :
    (∀ c d, (after start n moves).Runs c → (after start n moves).Runs d → c = d) ∧
      (acquisitions (after start n moves).log).Nodup ∧
      (∃ done last, Carries start n done last (after start n moves)) ∧
      GoesOn start n moves := by
  obtain ⟨done, h⟩ := exists_serial_after start n moves
  obtain ⟨hnodup, last, hcarries⟩ := h.exists_carries
  refine ⟨fun c d hc hd => ?_, hnodup, ⟨done, last, hcarries⟩, goesOn start n moves⟩
  have hlast := (hcarries.running c).mp hc
  exact Option.some.inj (hlast.symm.trans ((hcarries.running d).mp hd))

end ReloadCalls

end ServiceControl
