import ServiceControl.Reload.Loop

/-!
# The reload loop in any order of events

While the loop listens, it takes one of the things that are there: a tick that is due, a trigger
that waits, the news that no triggers will come, or the order to stop. Between that, triggers are
sent, reloads are called for from outside, fetches take their time and bring anything, and time
passes. The log says what was sent, what the loop took, and when fetches started and ended.
-/

namespace ServiceControl

/-- What the loop listens for. -/
inductive LoopBranch where
  | tick
  | trigger
  /-- No triggers will come. -/
  | closing
  | stop
  deriving DecidableEq, Repr

/-- What happens to a loop. -/
inductive LoopEvent where
  /-- A trigger was sent. -/
  | sent
  | took (b : LoopBranch)
  /-- The loop started to fetch. -/
  | started
  /-- A reload of the loop came to its end. -/
  | ended (outcome : ReloadOutcome)
  /-- A fetch that was called for from outside started. -/
  | startedOutside
  deriving DecidableEq, Repr

namespace LoopEvent

/-- Whether an event is one of the loop itself. -/
def isOwn : LoopEvent → Bool
  | sent | startedOutside => false
  | took _ | started | ended _ => true

/-- Whether an event is the end of a reload. -/
def isEnd : LoopEvent → Bool
  | ended _ => true
  | _ => false

end LoopEvent

/-- What the loop does between two times that it listens. -/
inductive LoopTurn where
  | tick (outcome : ReloadOutcome)
  | trigger (outcome : ReloadOutcome)
  | closing

/-- A tick and a trigger are followed by one fetch. -/
def LoopTurn.events : LoopTurn → List LoopEvent
  | tick outcome => [.took .tick, .started, .ended outcome]
  | trigger outcome => [.took .trigger, .started, .ended outcome]
  | closing => [.took .closing]

/-- What the loop has done so far: full turns, and the one that it is at, or its end. -/
def LoopPhase.Fits (own : List LoopEvent) : LoopPhase → Prop
  | .listening => ∃ turns : List LoopTurn, own = turns.flatMap LoopTurn.events
  | .reloading .queued => ∃ (turns : List LoopTurn) (b : LoopBranch), (b = .tick ∨ b = .trigger) ∧
    own = turns.flatMap LoopTurn.events ++ [.took b]
  | .reloading (.fetching _ _) => ∃ (turns : List LoopTurn) (b : LoopBranch),
    (b = .tick ∨ b = .trigger) ∧ own = turns.flatMap LoopTurn.events ++ [.took b, .started]
  | .stopped => ∃ turns : List LoopTurn, own = turns.flatMap LoopTurn.events ++ [.took .stop]

namespace ReloadLoop

/-- The loop once it took what it listened for; nothing if that is not there, or if it does not
listen. -/
def take? (l : ReloadLoop) : LoopBranch → Option ReloadLoop := fun b =>
  match l.phase, b with
  | .listening, .tick =>
    if l.tickDue then some { l with tick := l.nextTick, phase := .reloading .queued } else none
  | .listening, .trigger =>
    match l.triggers with
    | some (n + 1) => some { l with triggers := some n, phase := .reloading .queued }
    | _ => none
  | .listening, .closing =>
    if l.triggers = some 0 ∧ l.hasTriggers = false then some { l with triggers := none } else none
  | .listening, .stop =>
    if l.stopSent then some { l with phase := .stopped, triggers := none } else none
  | _, _ => none

/-- A loop that is about to begin. It listens to triggers, or it does not. -/
def begun (reloader : Reloader) (interval : Nat) (answers : List TimedAnswer) (listens : Bool) :
    ReloadLoop where
  reloader := reloader
  interval := interval
  answers := answers
  triggers := if listens then some 0 else none

end ReloadLoop

/-- A loop and what happened to it. -/
structure LoopRun where
  loop : ReloadLoop
  log : List LoopEvent := []

/-- What can happen next. -/
inductive LoopMove where
  | take (b : LoopBranch)
  /-- The reload of the loop goes on. -/
  | reload
  /-- A reload is called for from outside. -/
  | call
  /-- The reload from outside goes on. -/
  | outside
  | send
  | dropTriggers
  | stop
  | wait (ms : Nat)
  deriving DecidableEq

namespace LoopRun

/-- The run once the loop is another one and something happened. -/
def goOn (r : LoopRun) (loop : ReloadLoop) (events : List LoopEvent) : LoopRun :=
  ⟨loop, r.log ++ events⟩

/-- What happens when the reload of the loop goes on. -/
def reloadEvent (l : ReloadLoop) : ReloadTask → LoopEvent
  | .queued => .started
  | .fetching answer _ => .ended (l.reloader.receive answer).1

/-- What happens when the reload from outside goes on. -/
def outsideEvents : Option ReloadTask → List LoopEvent
  | some .queued => [.startedOutside]
  | _ => []

/-- The run after one more move. -/
def step (r : LoopRun) : LoopMove → LoopRun
  | .take b =>
    match r.loop.take? b with
    | some l => r.goOn l [.took b]
    | none => r
  | .reload =>
    match r.loop.phase, r.loop.stepLoop with
    | .reloading task, some l => r.goOn l [reloadEvent r.loop task]
    | _, _ => r
  | .call =>
    if r.loop.outside.isNone then { r with loop := { r.loop with
      outside := some .queued, outcome := none } } else r
  | .outside =>
    match r.loop.stepOutside with
    | some l => r.goOn l (outsideEvents r.loop.outside)
    | none => r
  | .send =>
    match r.loop.triggers with
    | some n =>
      if r.loop.hasTriggers then r.goOn { r.loop with triggers := some (n + 1) } [.sent] else r
    | none => r
  | .dropTriggers => { r with loop := { r.loop with hasTriggers := false } }
  | .stop => { r with loop := { r.loop with stopSent := true } }
  | .wait ms => { r with loop := { r.loop with now := r.loop.now + ms } }

/-- The run of moves of a loop. -/
def after (l : ReloadLoop) (moves : List LoopMove) : LoopRun := moves.foldl step ⟨l, []⟩

/-- What the loop itself did. -/
def own (r : LoopRun) : List LoopEvent := r.log.filter LoopEvent.isOwn

end LoopRun

/-! ## What the steps of a loop do -/

namespace ReloadLoop

/-- The steps of a reload of the loop. -/
inductive Reloads (l : ReloadLoop) : ReloadTask → ReloadLoop → Prop where
  | starts (free : l.isBusy = false) : Reloads l .queued { l with
      fetches := l.fetches + 1
      phase := .reloading (.fetching l.nextAnswer.answer (l.now + l.nextAnswer.delay)) }
  | ends {answer : Except FetchError ByteArray} {finish : Nat} (past : finish ≤ l.now) :
    Reloads l (.fetching answer finish) { l with
      reloader := (l.reloader.receive answer).2
      phase := .listening
      metrics := l.metrics.count (.configReloads (l.reloader.receive answer).1.label) }

/-- The reload of the loop does nothing else. -/
theorem reloads_of_stepLoop {l l' : ReloadLoop} {task : ReloadTask}
    (hphase : l.phase = .reloading task) (h : l.stepLoop = some l') : l.Reloads task l' := by
  unfold stepLoop at h
  rw [hphase] at h
  cases task with
  | queued =>
    dsimp only at h
    split at h
    · cases h
    · next hfree =>
      obtain rfl := Option.some.inj h
      exact .starts (Bool.eq_false_iff.mpr hfree)
  | fetching answer finish =>
    dsimp only at h
    split at h
    · cases h
    · next hover =>
      obtain rfl := Option.some.inj h
      exact .ends (Nat.le_of_not_lt hover)

/-- The steps of a reload from outside. -/
inductive ReloadsOutside (l : ReloadLoop) : ReloadLoop → Prop where
  | starts (queued : l.outside = some .queued) (free : l.isBusy = false) :
    ReloadsOutside l { l with
      fetches := l.fetches + 1
      outside := some (.fetching l.nextAnswer.answer (l.now + l.nextAnswer.delay)) }
  | ends {answer : Except FetchError ByteArray} {finish : Nat}
    (fetching : l.outside = some (.fetching answer finish)) (past : finish ≤ l.now) :
    ReloadsOutside l { l with
      reloader := (l.reloader.receive answer).2
      outside := none
      outcome := some (l.reloader.receive answer).1 }

/-- A reload from outside does nothing else. -/
theorem reloadsOutside_of_stepOutside {l l' : ReloadLoop} (h : l.stepOutside = some l') :
    l.ReloadsOutside l' := by
  unfold stepOutside at h
  cases houtside : l.outside with
  | none =>
    rw [houtside] at h
    cases h
  | some task =>
    rw [houtside] at h
    cases task with
    | queued =>
      dsimp only at h
      split at h
      · cases h
      · next hfree =>
        obtain rfl := Option.some.inj h
        exact .starts houtside (Bool.eq_false_iff.mpr hfree)
    | fetching answer finish =>
      dsimp only at h
      split at h
      · cases h
      · next hover =>
        obtain rfl := Option.some.inj h
        exact .ends houtside (Nat.le_of_not_lt hover)

/-- What a loop takes when it listens. -/
inductive Takes (l : ReloadLoop) : LoopBranch → ReloadLoop → Prop where
  | tick (due : l.tick ≤ l.now) :
    Takes l .tick { l with tick := l.nextTick, phase := .reloading .queued }
  | trigger {n : Nat} (waits : l.triggers = some (n + 1)) :
    Takes l .trigger { l with triggers := some n, phase := .reloading .queued }
  | closing (none : l.triggers = some 0) (closed : l.hasTriggers = false) :
    Takes l .closing { l with triggers := Option.none, phase := .listening }
  | stop (told : l.stopSent = true) :
    Takes l .stop { l with phase := .stopped, triggers := Option.none }

/-- A loop takes nothing else, and only when it listens. -/
theorem take?_eq_some_iff {l l' : ReloadLoop} {b : LoopBranch} :
    l.take? b = some l' ↔ l.phase = .listening ∧ l.Takes b l' := by
  unfold take?
  constructor
  · intro h
    cases hphase : l.phase with
    | reloading task =>
      rw [hphase] at h
      cases h
    | stopped =>
      rw [hphase] at h
      cases h
    | listening =>
      rw [hphase] at h
      refine ⟨rfl, ?_⟩
      cases b with
      | tick =>
        dsimp only at h
        split at h
        · next hdue =>
          obtain rfl := Option.some.inj h
          exact .tick (of_decide_eq_true hdue)
        · cases h
      | trigger =>
        dsimp only at h
        split at h
        · next n hn =>
          obtain rfl := Option.some.inj h
          exact .trigger hn
        · cases h
      | closing =>
        dsimp only at h
        split at h
        · next hclosed =>
          obtain rfl := Option.some.inj h
          exact .closing hclosed.1 hclosed.2
        · cases h
      | stop =>
        dsimp only at h
        split at h
        · next htold =>
          obtain rfl := Option.some.inj h
          exact .stop htold
        · cases h
  · rintro ⟨hphase, htakes⟩
    rw [hphase]
    cases htakes with
    | tick hdue => exact if_pos (decide_eq_true hdue)
    | trigger hwaits => simp only [hwaits]
    | closing hnone hclosed => simp only [hnone, hclosed, and_self, if_true]
    | stop htold => exact if_pos htold

end ReloadLoop

namespace LoopRun

/-- What a move does. -/
inductive Goes (r : LoopRun) : LoopRun → Prop where
  | takes {b : LoopBranch} {l : ReloadLoop} (listening : r.loop.phase = .listening)
    (takes : r.loop.Takes b l) : Goes r (r.goOn l [.took b])
  | reloads {task : ReloadTask} {l : ReloadLoop} (phase : r.loop.phase = .reloading task)
    (reloads : r.loop.Reloads task l) : Goes r (r.goOn l [reloadEvent r.loop task])
  | outside {l : ReloadLoop} (reloads : r.loop.ReloadsOutside l) :
    Goes r (r.goOn l (outsideEvents r.loop.outside))
  | calls (outcome : Option ReloadOutcome) (free : r.loop.outside = none) :
    Goes r { r with loop := { r.loop with outside := some .queued, outcome } }
  | sends {n : Nat} (triggers : r.loop.triggers = some n) (sender : r.loop.hasTriggers = true) :
    Goes r (r.goOn { r.loop with triggers := some (n + 1) } [.sent])
  | idles {now : Nat} {hasTriggers stopSent : Bool} (later : r.loop.now ≤ now)
    (closed : r.loop.hasTriggers = false → hasTriggers = false)
    (told : r.loop.stopSent = true → stopSent = true) :
    Goes r { r with loop := { r.loop with now, hasTriggers, stopSent } }

/-- A move does nothing else. -/
theorem goes_step (r : LoopRun) (m : LoopMove) : r.Goes (r.step m) := by
  have hstays : r.Goes r := .idles (Nat.le_refl _) id id
  cases m with
  | take b =>
    simp only [step]
    cases htake : r.loop.take? b with
    | none => exact hstays
    | some l =>
      obtain ⟨hphase, htakes⟩ := ReloadLoop.take?_eq_some_iff.mp htake
      exact .takes hphase htakes
  | reload =>
    simp only [step]
    split
    · next task l hphase hstep =>
      exact .reloads hphase (ReloadLoop.reloads_of_stepLoop hphase hstep)
    · exact hstays
  | call =>
    simp only [step]
    split
    · next hfree => exact .calls none (Option.isNone_iff_eq_none.mp hfree)
    · exact hstays
  | outside =>
    simp only [step]
    cases hstep : r.loop.stepOutside with
    | none => exact hstays
    | some l => exact .outside (ReloadLoop.reloadsOutside_of_stepOutside hstep)
  | send =>
    simp only [step]
    split
    · next n hn =>
      split
      · next hsender => exact .sends hn hsender
      · exact hstays
    · exact hstays
  | dropTriggers => exact .idles (Nat.le_refl _) (fun _ => rfl) id
  | stop => exact .idles (Nat.le_refl _) id fun _ => rfl
  | wait ms => exact .idles (Nat.le_add_right _ _) id id

variable {r r' : LoopRun} {events : List LoopEvent} {l : ReloadLoop}

theorem own_goOn (r : LoopRun) (l : ReloadLoop) (events : List LoopEvent) :
    (r.goOn l events).own = r.own ++ events.filter LoopEvent.isOwn := by
  rw [own, goOn, List.filter_append, own]

/-- What happens outside is none of the loop's own events. -/
theorem filter_outsideEvents (task : Option ReloadTask) :
    (outsideEvents task).filter LoopEvent.isOwn = [] := by
  unfold outsideEvents
  split <;> rfl

/-! ## Turns -/

/-- Each thing that the loop does is the next one of its turn, or begins or ends one. -/
theorem Goes.fits (h : r.Goes r') (hr : r.loop.phase.Fits r.own) : r'.loop.phase.Fits r'.own := by
  cases h with
  | takes hphase htakes =>
    rw [hphase] at hr
    obtain ⟨turns, hturns⟩ := hr
    rw [own_goOn, hturns]
    cases htakes with
    | tick => exact ⟨turns, .tick, .inl rfl, rfl⟩
    | trigger => exact ⟨turns, .trigger, .inr rfl, rfl⟩
    | stop => exact ⟨turns, rfl⟩
    | closing =>
      refine ⟨turns ++ [.closing], ?_⟩
      rw [List.flatMap_append]
      rfl
  | reloads hphase hreloads =>
    rw [hphase] at hr
    cases hreloads with
    | starts =>
      obtain ⟨turns, b, hb, hturns⟩ := hr
      rw [own_goOn, hturns, List.append_assoc]
      exact ⟨turns, b, hb, rfl⟩
    | @ends answer finish =>
      obtain ⟨turns, b, hb, hturns⟩ := hr
      rw [own_goOn, hturns, List.append_assoc]
      rcases hb with rfl | rfl
      · refine ⟨turns ++ [.tick (r.loop.reloader.receive answer).1], ?_⟩
        rw [List.flatMap_append]
        rfl
      · refine ⟨turns ++ [.trigger (r.loop.reloader.receive answer).1], ?_⟩
        rw [List.flatMap_append]
        rfl
  | outside hreloads =>
    rw [own_goOn, filter_outsideEvents, List.append_nil]
    cases hreloads <;> exact hr
  | sends =>
    rw [own_goOn]
    exact (List.append_nil r.own).symm ▸ hr
  | calls | idles => exact hr

/-- Until the loop has taken anything, its first tick is due. -/
def Fresh (r : LoopRun) : Prop :=
  r.own = [] → r.loop.phase = .listening ∧ r.loop.tick ≤ r.loop.now

theorem Goes.fresh (h : r.Goes r') (hr : r.Fresh) : r'.Fresh := by
  intro hnone
  cases h with
  | takes =>
    rw [own_goOn, List.append_eq_nil_iff] at hnone
    exact absurd hnone.2 nofun
  | @reloads task =>
    rw [own_goOn, List.append_eq_nil_iff] at hnone
    cases task <;> exact absurd hnone.2 nofun
  | outside hreloads =>
    rw [own_goOn, filter_outsideEvents, List.append_nil] at hnone
    cases hreloads <;> exact hr hnone
  | sends =>
    rw [own_goOn, List.append_eq_nil_iff] at hnone
    exact hr hnone.1
  | calls => exact hr hnone
  | idles hlater => exact ⟨(hr hnone).1, Nat.le_trans (hr hnone).2 hlater⟩

/-! ## Fetches -/

/-- Fetches are started by the loop and from outside only, and one at a time. -/
structure Fetches (r : LoopRun) : Prop where
  count : r.loop.fetches = r.log.count .started + r.log.count .startedOutside
  alone : ∀ answer finish, r.loop.phase = .reloading (.fetching answer finish) →
    r.loop.outside.any ReloadLoop.isFetching = false

/-- If nobody is busy, neither the loop nor a call from outside fetches. -/
theorem isBusy_eq_false (h : l.isBusy = false) :
    l.outside.any ReloadLoop.isFetching = false ∧
      ∀ answer finish, l.phase ≠ .reloading (.fetching answer finish) := by
  unfold ReloadLoop.isBusy at h
  obtain ⟨houtside, hphase⟩ := Bool.or_eq_false_iff.mp h
  refine ⟨houtside, fun answer finish hfetching => ?_⟩
  rw [hfetching] at hphase
  cases hphase

theorem Goes.fetches (h : r.Goes r') (hr : r.Fetches) : r'.Fetches := by
  obtain ⟨hcount, halone⟩ := hr
  cases h with
  | takes hphase htakes =>
    cases htakes with
    | tick | trigger | closing | stop =>
      refine ⟨by simp [goOn, hcount], fun _ _ hfetching => ?_⟩
      cases hfetching
  | reloads hphase hreloads =>
    cases hreloads with
    | starts hfree =>
      refine ⟨?_, fun _ _ _ => (isBusy_eq_false hfree).1⟩
      simp only [goOn, reloadEvent, hcount, List.count_append, List.count_singleton]
      simp only [beq_iff_eq, reduceCtorEq, if_true, if_false]
      omega
    | ends =>
      refine ⟨by simp [goOn, reloadEvent, hcount], fun _ _ hfetching => ?_⟩
      cases hfetching
  | outside hreloads =>
    cases hreloads with
    | starts hqueued hfree =>
      refine ⟨?_, fun answer finish hphase => ?_⟩
      · simp only [goOn, hqueued, outsideEvents, hcount, List.count_append, List.count_singleton]
        simp only [beq_iff_eq, reduceCtorEq, if_true, if_false]
        omega
      · exact absurd hphase ((isBusy_eq_false hfree).2 answer finish)
    | ends hfetching =>
      refine ⟨?_, fun _ _ _ => rfl⟩
      simp only [goOn, hfetching, outsideEvents, hcount, List.append_nil]
  | calls => exact ⟨hcount, fun _ _ _ => rfl⟩
  | sends => exact ⟨by simp [goOn, hcount], halone⟩
  | idles => exact ⟨hcount, halone⟩

/-! ## Triggers -/

/-- Triggers are taken after they were sent, and wait until then. That no more will come is noticed
once, after all of them were taken. -/
structure Triggers (listens : Bool) (r : LoopRun) : Prop where
  afterSent : ∀ log, log <+: r.log → log.count (.took .trigger) ≤ log.count .sent
  kept : ∀ n, r.loop.triggers = some n →
    r.log.count (.took .trigger) + n = r.log.count .sent ∧ .took .closing ∉ r.log
  gone : r.loop.triggers = none →
    listens = false ∨ .took .closing ∈ r.log ∨ .took .stop ∈ r.log
  closedOnce : r.log.count (.took .closing) ≤ 1
  closed : .took .closing ∈ r.log → r.loop.triggers = none ∧ r.loop.hasTriggers = false ∧
    r.log.count (.took .trigger) = r.log.count .sent

variable {listens : Bool}

/-- A log in which triggers are taken after they were sent, with one more event. -/
theorem afterSent_concat {log : List LoopEvent} {e : LoopEvent}
    (h : ∀ front, front <+: log → front.count (.took .trigger) ≤ front.count .sent)
    (he : (log ++ [e]).count (.took .trigger) ≤ (log ++ [e]).count .sent) :
    ∀ front, front <+: log ++ [e] → front.count (.took .trigger) ≤ front.count .sent := by
  intro front hfront
  rcases List.prefix_concat_iff.mp hfront with rfl | hfront
  · exact he
  · exact h front hfront

/-- What happens apart from triggers changes nothing about them, but that the loop gives them
up when it stops. -/
theorem Triggers.quietly (hr : r.Triggers listens) {e : LoopEvent}
    (htriggers : l.triggers = r.loop.triggers ∨ l.triggers = none ∧ e = .took .stop)
    (hclosed : r.loop.hasTriggers = false → l.hasTriggers = false)
    (hsent : e ≠ .sent) (htrigger : e ≠ .took .trigger) (hclosing : e ≠ .took .closing) :
    (r.goOn l [e]).Triggers listens := by
  obtain ⟨hafter, hkept, hgone, honce, hdone⟩ := hr
  have hsame {e' : LoopEvent} (hne : e ≠ e') : (r.log ++ [e]).count e' = r.log.count e' := by
    rw [List.count_append, List.count_singleton, if_neg (by simpa using hne), Nat.add_zero]
  have hmem {e' : LoopEvent} (hne : e ≠ e') : e' ∈ r.log ++ [e] ↔ e' ∈ r.log := by
    simp [Ne.symm hne]
  refine ⟨afterSent_concat hafter ?_, fun n hn => ?_, fun hnone => ?_, ?_, fun hclosing' => ?_⟩
  · rw [hsame htrigger, hsame hsent]
    exact hafter _ List.prefix_rfl
  · change (r.log ++ [e]).count _ + n = (r.log ++ [e]).count _ ∧ _ ∉ r.log ++ [e]
    rw [hsame htrigger, hsame hsent, hmem hclosing]
    rcases htriggers with htriggers | ⟨hnone, -⟩
    · exact hkept n (htriggers ▸ hn)
    · cases hnone.symm.trans hn
  · rcases htriggers with htriggers | ⟨-, rfl⟩
    · rcases hgone (htriggers ▸ hnone) with hlistens | hclosing | hstop
      · exact .inl hlistens
      · exact .inr (.inl (List.mem_append_left _ hclosing))
      · exact .inr (.inr (List.mem_append_left _ hstop))
    · exact .inr (.inr (List.mem_append_right _ (List.mem_singleton.mpr rfl)))
  · change (r.log ++ [e]).count _ ≤ 1
    rw [hsame hclosing]
    exact honce
  · obtain ⟨hnone, hsender, hall⟩ := hdone ((hmem hclosing).mp hclosing')
    refine ⟨htriggers.elim (fun h => h.trans hnone) And.left, hclosed hsender, ?_⟩
    change (r.log ++ [e]).count _ = (r.log ++ [e]).count _
    rw [hsame htrigger, hsame hsent]
    exact hall

theorem Goes.triggers (h : r.Goes r') (hr : r.Triggers listens) : r'.Triggers listens := by
  obtain ⟨hafter, hkept, hgone, honce, hdone⟩ := id hr
  cases h with
  | takes hphase htakes =>
    cases htakes with
    | tick => refine hr.quietly (.inl rfl) id ?_ ?_ ?_ <;> rintro ⟨⟩
    | stop => refine hr.quietly (.inr ⟨rfl, rfl⟩) id ?_ ?_ ?_ <;> rintro ⟨⟩
    | @trigger n hwaits =>
      obtain ⟨hcount, hopen⟩ := hkept (n + 1) hwaits
      refine ⟨afterSent_concat hafter ?_, fun m hm => ?_, fun hnone => ?_, ?_,
        fun hclosing => ?_⟩
      · simp only [List.count_append, List.count_singleton]
        simp only [beq_iff_eq, reduceCtorEq, if_true, if_false]
        omega
      · obtain rfl := Option.some.inj hm
        simp only [goOn, List.count_append, List.count_singleton, List.mem_append,
          List.mem_singleton]
        simp only [beq_iff_eq, reduceCtorEq, if_true, if_false, LoopEvent.took.injEq, or_false]
        exact ⟨by omega, hopen⟩
      · cases hnone
      · simpa [goOn] using honce
      · simp [goOn] at hclosing
        exact absurd hclosing hopen
    | closing hnone hclosed =>
      obtain ⟨hcount, hopen⟩ := hkept 0 hnone
      refine ⟨afterSent_concat hafter ?_, fun m hm => ?_, fun _ => ?_, ?_,
        fun _ => ⟨rfl, hclosed, ?_⟩⟩
      · simpa using hafter _ List.prefix_rfl
      · cases hm
      · exact .inr (.inl (List.mem_append_right _ (List.mem_singleton.mpr rfl)))
      · simp [goOn, List.count_eq_zero_of_not_mem hopen]
      · simpa [goOn] using hcount
  | reloads hphase hreloads =>
    cases hreloads with
    | starts | ends => refine hr.quietly (.inl rfl) id ?_ ?_ ?_ <;> rintro ⟨⟩
  | outside hreloads =>
    cases hreloads with
    | starts hqueued =>
      rw [hqueued]
      refine hr.quietly (.inl rfl) id ?_ ?_ ?_ <;> rintro ⟨⟩
    | ends hfetching =>
      have hnone : r.log ++ outsideEvents r.loop.outside = r.log := by
        rw [hfetching]
        exact List.append_nil _
      rw [goOn, hnone]
      exact ⟨hafter, hkept, hgone, honce, hdone⟩
  | @sends n htriggers hsender =>
    obtain ⟨hcount, hopen⟩ := hkept n htriggers
    refine ⟨afterSent_concat hafter ?_, fun m hm => ?_, fun hnone => ?_, ?_, fun hclosing => ?_⟩
    · have hle := hafter _ List.prefix_rfl
      simp only [List.count_append, List.count_singleton]
      simp only [beq_iff_eq, reduceCtorEq, if_true, if_false]
      omega
    · obtain rfl := Option.some.inj hm
      simp only [goOn, List.count_append, List.count_singleton, List.mem_append,
        List.mem_singleton]
      simp only [beq_iff_eq, reduceCtorEq, if_true, if_false, or_false]
      exact ⟨by omega, hopen⟩
    · cases hnone
    · simpa [goOn] using honce
    · simp [goOn] at hclosing
      exact absurd hclosing hopen
  | calls => exact ⟨hafter, hkept, hgone, honce, hdone⟩
  | idles hlater hclosed =>
    exact ⟨hafter, hkept, hgone, honce,
      fun h => ⟨(hdone h).1, hclosed (hdone h).2.1, (hdone h).2.2⟩⟩

/-! ## Counters -/

/-- How often reloads of the loop were counted, whatever came of them. -/
def counted (m : Metrics) : Nat :=
  m.get (.configReloads "applied") + m.get (.configReloads "unchanged") +
    m.get (.configReloads "error")

/-- Each outcome is counted under one of the three words. -/
theorem counted_count (m : Metrics) (outcome : ReloadOutcome) :
    counted (m.count (.configReloads outcome.label)) = counted m + 1 := by
  unfold counted
  simp only [Metrics.get_count, Counter.configReloads.injEq]
  cases outcome <;> simp [ReloadOutcome.label] <;> omega

/-- Every reload of the loop is counted when it comes to its end. -/
theorem Goes.counted (h : r.Goes r') (hr : counted r.loop.metrics = r.log.countP LoopEvent.isEnd) :
    counted r'.loop.metrics = r'.log.countP LoopEvent.isEnd := by
  cases h with
  | takes hphase htakes =>
    cases htakes with
    | tick | trigger | closing | stop => simpa [goOn, LoopEvent.isEnd] using hr
  | reloads hphase hreloads =>
    cases hreloads with
    | starts => simpa [goOn, reloadEvent, LoopEvent.isEnd] using hr
    | ends =>
      simp only [goOn, counted_count, hr, List.countP_append]
      rfl
  | outside hreloads =>
    cases hreloads with
    | starts hqueued => simpa [goOn, hqueued, outsideEvents, LoopEvent.isEnd] using hr
    | ends hfetching => simpa [goOn, hfetching, outsideEvents] using hr
  | sends => simpa [goOn, LoopEvent.isEnd] using hr
  | calls | idles => exact hr

end LoopRun

end ServiceControl
