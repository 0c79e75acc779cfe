import Mathlib.Data.List.Induction
import ServiceControl.Proofs.Checking.Keeping
import ServiceControl.Proofs.Gateway.Calls

/-!
# Rounds of reloading

A round takes in what a fetch brought. Over any rounds, the digest in force is that of the payload
that was applied last, and every listener has heard the configurations of the payloads that were
applied, in their order and nothing else. What was not applied leaves no trace, so a payload that
cannot be read is read again in the next round. Digests do not stand in the way of newer documents
unless two different payloads of the rounds have the same one.
-/

namespace ServiceControl

/-- The configuration that a payload comes to, if it can be read. -/
def Registries.converted? (r : Registries) (payload : ByteArray) : Option Services :=
  (Services.parse? payload).map fun s => (s.convert r).value

/-- All that a round can do to a reloader. -/
inductive Reloader.Round (m : Reloader) :
    Except FetchError ByteArray → ReloadOutcome → Reloader → Prop where
  | failed {e : FetchError} : Round m (.error e) (.failed e) m
  | unchanged {p : ByteArray} : m.digest = some (Sha1.hex p) → Round m (.ok p) .unchanged m
  | unreadable {p : ByteArray} : m.digest ≠ some (Sha1.hex p) → Services.parse? p = none →
      Round m (.ok p) .unreadable m
  | applied {p : ByteArray} {s : Services} : m.digest ≠ some (Sha1.hex p) →
      Services.parse? p = some s →
      Round m (.ok p) (.applied (s.convert m.registries).errors.length) { m with
        digest := some (Sha1.hex p)
        snapshots := m.snapshots ++ [(s.convert m.registries).value] }

theorem Reloader.round_receive (m : Reloader) (fetched : Except FetchError ByteArray) :
    m.Round fetched (m.receive fetched).1 (m.receive fetched).2 := by
  cases fetched with
  | error e => exact .failed
  | ok p =>
    by_cases hdigest : m.digest = some (Sha1.hex p)
    · have hplan : plan m.registries m.digest (.ok p) = .unchanged := by
        simp only [plan, hdigest, if_true]
      simp only [receive, hplan]
      exact .unchanged hdigest
    · cases hparse : Services.parse? p with
      | none =>
        have hplan : plan m.registries m.digest (.ok p) = .unreadable := by
          simp only [plan, if_neg hdigest, hparse]
        simp only [receive, hplan]
        exact .unreadable hdigest hparse
      | some s =>
        have hplan : plan m.registries m.digest (.ok p) =
            .apply (Sha1.hex p) (s.convert m.registries).value (s.convert m.registries).errors := by
          simp only [plan, if_neg hdigest, hparse]
        simp only [receive, hplan]
        exact .applied hdigest hparse

/-- What comes of a round is decided by what is fetched and by the digest in force. -/
theorem Reloader.Round.outcome_iff {m m' : Reloader} {fetched : Except FetchError ByteArray}
    {outcome : ReloadOutcome} (h : m.Round fetched outcome m') :
    (∀ e, outcome = .failed e ↔ fetched = .error e) ∧
      (outcome = .unchanged ↔ ∃ p, fetched = .ok p ∧ m.digest = some (Sha1.hex p)) ∧
      (outcome = .unreadable ↔ ∃ p, fetched = .ok p ∧ m.digest ≠ some (Sha1.hex p) ∧
        Services.parse? p = none) ∧
      (∀ n, outcome = .applied n ↔ ∃ p s, fetched = .ok p ∧ m.digest ≠ some (Sha1.hex p) ∧
        Services.parse? p = some s ∧ n = (s.convert m.registries).errors.length) := by
  cases h with
  | failed => simp [eq_comm]
  | unchanged hdigest => simp [hdigest]
  | unreadable hdigest hparse => simp [hdigest, hparse]
  | applied hdigest hparse => simp [hdigest, hparse, eq_comm]

/-- A round that applies nothing leaves the reloader as it was. -/
theorem Reloader.Round.eq_of_not_applied {m m' : Reloader} {fetched : Except FetchError ByteArray}
    {outcome : ReloadOutcome} (h : m.Round fetched outcome m') (hnot : ∀ n, outcome ≠ .applied n) :
    m' = m := by
  cases h with
  | failed | unchanged | unreadable => rfl
  | applied => exact absurd rfl (hnot _)

/-- A reloader with its listeners, and what happened in its rounds. -/
structure ReloadRun (σ : Type) where
  reloader : Reloader
  listeners : List σ
  /-- What was fetched in each round, and what came of it. -/
  rounds : List (Except FetchError ByteArray × ReloadOutcome) := []

namespace ReloadRun

variable {σ : Type}

/-- The payloads that were applied, in order. -/
def applied (r : ReloadRun σ) : List ByteArray :=
  r.rounds.filterMap fun
    | (.ok p, .applied _) => some p
    | _ => none

/-- One more round, with what a listener makes of a configuration. Each listener hears what came
into force in the round. -/
def step (hear : σ → Services → σ) (r : ReloadRun σ) (fetched : Except FetchError ByteArray) :
    ReloadRun σ :=
  let (outcome, reloader) := r.reloader.receive fetched
  { reloader
    listeners := r.listeners.map
      ((reloader.snapshots.drop r.reloader.snapshots.length).foldl hear)
    rounds := r.rounds ++ [(fetched, outcome)] }

/-- The run of what fetches brought, from the first one on. -/
def after (registries : Registries) (hear : σ → Services → σ) (listeners : List σ)
    (fetched : List (Except FetchError ByteArray)) : ReloadRun σ :=
  fetched.foldl (step hear) { reloader := { registries }, listeners }

theorem after_concat (registries : Registries) (hear : σ → Services → σ) (listeners : List σ)
    (fetched : List (Except FetchError ByteArray)) (next : Except FetchError ByteArray) :
    after registries hear listeners (fetched ++ [next]) =
      (after registries hear listeners fetched).step hear next := by
  rw [after, after, List.foldl_concat]

/-- All that a round can do to a run: it leaves everything but its record as it was, or it applies a
payload. -/
theorem step_cases (hear : σ → Services → σ) (r : ReloadRun σ)
    (fetched : Except FetchError ByteArray) :
    (∃ outcome, (∀ n, outcome ≠ .applied n) ∧
      r.step hear fetched = { r with rounds := r.rounds ++ [(fetched, outcome)] }) ∨
    ∃ p s, fetched = .ok p ∧ Services.parse? p = some s ∧
      r.step hear fetched = {
        reloader := { r.reloader with
          digest := some (Sha1.hex p)
          snapshots := r.reloader.snapshots ++ [(s.convert r.reloader.registries).value] }
        listeners := r.listeners.map (hear · (s.convert r.reloader.registries).value)
        rounds := r.rounds ++
          [(fetched, .applied (s.convert r.reloader.registries).errors.length)] } := by
  have hround := r.reloader.round_receive fetched
  simp only [step]
  generalize r.reloader.receive fetched = x at hround ⊢
  obtain ⟨outcome, m⟩ := x
  have hsilent : r.listeners.map
      ((r.reloader.snapshots.drop r.reloader.snapshots.length).foldl hear) = r.listeners := by
    simp only [List.drop_length, List.foldl_nil, List.map_id_fun', id]
  cases hround with
  | failed => exact Or.inl ⟨.failed _, nofun, by rw [hsilent]⟩
  | unchanged => exact Or.inl ⟨.unchanged, nofun, by rw [hsilent]⟩
  | unreadable => exact Or.inl ⟨.unreadable, nofun, by rw [hsilent]⟩
  | @applied p s _ hparse =>
    refine Or.inr ⟨p, s, rfl, hparse, ?_⟩
    simp only [List.drop_left, List.foldl_cons, List.foldl_nil]

theorem rounds_step (hear : σ → Services → σ) (r : ReloadRun σ)
    (fetched : Except FetchError ByteArray) :
    (r.step hear fetched).rounds = r.rounds ++ [(fetched, (r.reloader.receive fetched).1)] := rfl

/-- The digest and the listeners follow the payloads that were applied. -/
structure Follows (registries : Registries) (hear : σ → Services → σ) (listeners : List σ)
    (r : ReloadRun σ) : Prop where
  converted : r.applied.map registries.converted? = r.reloader.snapshots.map some
  digest : r.reloader.digest = r.applied.getLast?.map Sha1.hex
  heard : r.listeners = listeners.map (r.reloader.snapshots.foldl hear)
  sameRegistries : r.reloader.registries = registries

variable {registries : Registries} {hear : σ → Services → σ} {listeners : List σ}

theorem Follows.step {r : ReloadRun σ} (h : r.Follows registries hear listeners)
    (fetched : Except FetchError ByteArray) :
    (r.step hear fetched).Follows registries hear listeners := by
  obtain ⟨hconverted, hdigest, hheard, rfl⟩ := h
  rcases step_cases hear r fetched with ⟨outcome, houtcome, hstep⟩ | ⟨p, s, rfl, hparse, hstep⟩
  · have happlied : (r.step hear fetched).applied = r.applied := by
      rw [hstep]
      simp only [applied, List.filterMap_append, List.filterMap_cons, List.filterMap_nil]
      cases fetched <;> cases outcome <;> simp_all
    constructor
    · rw [happlied, hconverted, hstep]
    · rw [happlied, hstep, hdigest]
    · rw [hstep, hheard]
    · rw [hstep]
  · have happlied : (r.step hear (.ok p)).applied = r.applied ++ [p] := by
      rw [hstep]
      simp only [applied, List.filterMap_append, List.filterMap_cons, List.filterMap_nil]
    constructor
    · rw [happlied, List.map_append, hconverted, hstep]
      simp only [Registries.converted?, hparse, List.map_append, List.map_cons, List.map_nil,
        Option.map_some]
    · rw [happlied, List.getLast?_concat, hstep, Option.map_some]
    · rw [hstep, hheard]
      simp only [List.map_map, List.foldl_append, List.foldl_cons, List.foldl_nil]
      rfl
    · rw [hstep]

theorem follows_after (registries : Registries) (hear : σ → Services → σ) (listeners : List σ)
    (fetched : List (Except FetchError ByteArray)) :
    (after registries hear listeners fetched).Follows registries hear listeners := by
  induction fetched using List.reverseRecOn with
  | nil => exact ⟨rfl, rfl, (List.map_id' listeners).symm, rfl⟩
  | append_singleton rest next ih =>
    rw [after_concat]
    exact ih.step next

end ReloadRun

/-- No two different payloads have the same digest. -/
def NoCollision (payloads : List ByteArray) : Prop :=
  ∀ p ∈ payloads, ∀ q ∈ payloads, Sha1.hex p = Sha1.hex q → p = q

instance (payloads : List ByteArray) : Decidable (NoCollision payloads) :=
  inferInstanceAs (Decidable (∀ p ∈ payloads, ∀ q ∈ payloads, _))

/-- The configuration of the payload that was fetched last, of those that can be read. -/
def Registries.latest? (r : Registries) (payloads : List ByteArray) : Option Services :=
  (payloads.filterMap r.converted?).getLast?

theorem Registries.latest?_concat (r : Registries) (payloads : List ByteArray) (p : ByteArray) :
    r.latest? (payloads ++ [p]) = (r.converted? p).or (r.latest? payloads) := by
  simp only [latest?, List.filterMap_append, List.filterMap_cons, List.filterMap_nil]
  cases r.converted? p with
  | none => rw [List.append_nil, Option.none_or]
  | some s => rw [List.getLast?_concat, Option.some_or]

namespace Reloader

/-- The configuration in force is the latest, and the digest in force is that of a payload for
it. -/
structure IsCurrent (payloads : List ByteArray) (m : Reloader) : Prop where
  current : m.current? = m.registries.latest? payloads
  digest : ∀ d, m.digest = some d →
    ∃ p ∈ payloads, d = Sha1.hex p ∧ m.registries.converted? p = m.current?

/-- Without collisions, each round puts the latest configuration in force. -/
theorem IsCurrent.round {payloads : List ByteArray} {m m' : Reloader} (h : m.IsCurrent payloads)
    {fetched : Except FetchError ByteArray} {outcome : ReloadOutcome}
    (hround : m.Round fetched outcome m')
    (hdistinct : NoCollision (payloads ++ fetched.toOption.toList)) :
    m'.IsCurrent (payloads ++ fetched.toOption.toList) := by
  have hmore : ∀ (p : ByteArray) d, m.digest = some d →
      ∃ q ∈ payloads ++ [p], d = Sha1.hex q ∧ m.registries.converted? q = m.current? := by
    intro p d hd
    obtain ⟨q, hq, hsame⟩ := h.digest d hd
    exact ⟨q, List.mem_append_left _ hq, hsame⟩
  cases hround with
  | failed =>
    rw [show (Except.error _).toOption.toList = ([] : List ByteArray) from rfl, List.append_nil]
    exact h
  | @unchanged p hdigest =>
    -- the digest in force is that of an earlier payload, so this is that payload again
    obtain ⟨q, hq, hhex, hcurrent⟩ := h.digest _ hdigest
    obtain rfl : q = p :=
      hdistinct q (List.mem_append_left _ hq) p (List.mem_append_right _ List.mem_cons_self)
        hhex.symm
    refine ⟨?_, hmore q⟩
    calc m.current?
        = (m.registries.converted? q).or (m.registries.latest? payloads) := by
          rw [hcurrent, h.current, Option.or_self]
      _ = m.registries.latest? (payloads ++ [q]) := (m.registries.latest?_concat payloads q).symm
  | @unreadable p hdigest hparse =>
    refine ⟨?_, hmore p⟩
    calc m.current?
        = (m.registries.converted? p).or (m.registries.latest? payloads) := by
          rw [Registries.converted?, hparse, Option.map_none, Option.none_or, h.current]
      _ = m.registries.latest? (payloads ++ [p]) := (m.registries.latest?_concat payloads p).symm
  | @applied p s hdigest hparse =>
    have hsome : m.registries.converted? p = some (s.convert m.registries).value := by
      rw [Registries.converted?, hparse, Option.map_some]
    refine ⟨?_, fun d hd => ⟨p, List.mem_append_right _ List.mem_cons_self, ?_, ?_⟩⟩
    · calc (m.snapshots ++ [(s.convert m.registries).value]).getLast?
          = (m.registries.converted? p).or (m.registries.latest? payloads) := by
            rw [List.getLast?_concat, hsome, Option.some_or]
        _ = m.registries.latest? (payloads ++ [p]) := (m.registries.latest?_concat payloads p).symm
    · exact (Option.some.inj hd).symm
    · exact hsome.trans List.getLast?_concat.symm

end Reloader

namespace Gateway

/-- The reloader is current, and the pool has its configuration. -/
def IsCurrent (registries : Registries) (start : Services) (payloads : List ByteArray)
    (g : Gateway) : Prop :=
  ∃ m, g.reloader = some m ∧ m.registries = registries ∧ m.IsCurrent payloads ∧
    g.pool.services = m.current?.getD start

variable {registries : Registries} {start : Services} {payloads : List ByteArray} {g : Gateway}

/-- A reload gives the pool what it put in force. -/
theorem IsCurrent.reload (h : g.IsCurrent registries start payloads)
    (fetched : Except FetchError ByteArray)
    (hdistinct : NoCollision (payloads ++ fetched.toOption.toList)) :
    (g.reload fetched).2.IsCurrent registries start (payloads ++ fetched.toOption.toList) := by
  obtain ⟨m, hm, hregistries, hcurrent, hpool⟩ := h
  have hround := m.round_receive fetched
  have hnext := hcurrent.round hround hdistinct
  simp only [Gateway.reload, hm]
  generalize m.receive fetched = x at hround hnext ⊢
  obtain ⟨outcome, m'⟩ := x
  cases hround with
  | failed | unchanged | unreadable => exact ⟨_, rfl, hregistries, hnext, hpool⟩
  | applied =>
    refine ⟨_, rfl, hregistries, hnext, ?_⟩
    simp only [CheckerPool.change, Reloader.current?, List.getLast?_concat, Option.getD_some]

theorem IsCurrent.serve (h : g.IsCurrent registries start payloads) (call : GatewayCall)
    (hdistinct : NoCollision (payloads ++ call.payload?.toList)) :
    (g.serve call).IsCurrent registries start (payloads ++ call.payload?.toList) := by
  cases call with
  | check request =>
    obtain ⟨m, hm, hregistries, hcurrent, hpool⟩ := h
    rw [GatewayCall.payload?, Option.toList_none, List.append_nil]
    exact ⟨m, hm, hregistries, hcurrent, (g.pool.services_check request).trans hpool⟩
  | report _ | wait _ =>
    rw [GatewayCall.payload?, Option.toList_none, List.append_nil]
    exact h
  | reload fetched => exact h.reload fetched hdistinct

theorem IsCurrent.serveAll (h : g.IsCurrent registries start []) (calls : List GatewayCall)
    (hdistinct : NoCollision (calls.filterMap GatewayCall.payload?)) :
    (g.serveAll calls).IsCurrent registries start (calls.filterMap GatewayCall.payload?) := by
  induction calls using List.reverseRecOn with
  | nil => exact h
  | append_singleton rest call ih =>
    have hpayloads : (rest ++ [call]).filterMap GatewayCall.payload? =
        rest.filterMap GatewayCall.payload? ++ call.payload?.toList := by
      rw [List.filterMap_append, List.filterMap_cons, List.filterMap_nil]
      cases call.payload? <;> rfl
    rw [hpayloads] at hdistinct ⊢
    have hrest : NoCollision (rest.filterMap GatewayCall.payload?) := fun p hp q hq =>
      hdistinct p (List.mem_append_left _ hp) q (List.mem_append_left _ hq)
    rw [Gateway.serveAll, List.foldl_concat]
    exact (ih hrest).serve call hdistinct

end Gateway

namespace ReloadRun

/-- There is one round for each fetch. -/
theorem map_fst_rounds_after {σ : Type} (registries : Registries) (hear : σ → Services → σ)
    (listeners : List σ) (fetched : List (Except FetchError ByteArray)) :
    (after registries hear listeners fetched).rounds.map Prod.fst = fetched := by
  induction fetched using List.reverseRecOn with
  | nil => rfl
  | append_singleton rest next ih =>
    rw [after_concat, rounds_step, List.map_append, ih]
    rfl

/-- A round that applies nothing leaves the digest and the listeners as they were. -/
theorem step_of_not_applied {σ : Type} {hear : σ → Services → σ} {r : ReloadRun σ}
    {fetched : Except FetchError ByteArray}
    (hnot : ∀ n, (r.reloader.receive fetched).1 ≠ .applied n) :
    (r.step hear fetched).reloader = r.reloader ∧
      (r.step hear fetched).listeners = r.listeners := by
  have hsame := (r.reloader.round_receive fetched).eq_of_not_applied hnot
  refine ⟨hsame, ?_⟩
  simp only [step, hsame, List.drop_length, List.foldl_nil, List.map_id_fun', id]

/-- After any rounds, the digest in force is that of the payload that was applied last, and each
listener has heard the configurations of all applied payloads in order. The next round fails exactly
if its fetch does, changes nothing if the payload has the digest in force, and otherwise applies the
payload if it can be read; a round that applies nothing leaves no trace, so a payload that cannot be
read is not accepted the next time either. The pool of a gateway has the latest configuration unless
digests collide. -/
theorem follows_rounds {σ : Type} (registries : Registries) (hear : σ → Services → σ)
    (listeners : List σ) (fetched : List (Except FetchError ByteArray)) :
    let r := after registries hear listeners fetched
    r.rounds.map Prod.fst = fetched ∧
    r.reloader.digest = r.applied.getLast?.map Sha1.hex ∧
    (∃ snapshots, r.applied.map registries.converted? = snapshots.map some ∧
      r.reloader.snapshots = snapshots ∧ r.listeners = listeners.map (snapshots.foldl hear)) ∧
    (∀ next, ∃ outcome, (r.step hear next).rounds = r.rounds ++ [(next, outcome)] ∧
      (∀ e, outcome = .failed e ↔ next = .error e) ∧
      (outcome = .unchanged ↔ ∃ p, next = .ok p ∧ r.reloader.digest = some (Sha1.hex p)) ∧
      (outcome = .unreadable ↔ ∃ p, next = .ok p ∧ r.reloader.digest ≠ some (Sha1.hex p) ∧
        Services.parse? p = none) ∧
      (∀ n, outcome = .applied n ↔ ∃ p s, next = .ok p ∧
        r.reloader.digest ≠ some (Sha1.hex p) ∧ Services.parse? p = some s ∧
        n = (s.convert registries).errors.length) ∧
      ((∀ n, outcome ≠ .applied n) →
        (r.step hear next).reloader = r.reloader ∧ (r.step hear next).listeners = r.listeners) ∧
      (outcome = .unreadable →
        ((r.step hear next).step hear next).rounds =
          (r.step hear next).rounds ++ [(next, .unreadable)])) ∧
    ∀ (g : Gateway) (calls : List GatewayCall), g.reloader = some { registries } →
      NoCollision (calls.filterMap GatewayCall.payload?) →
      (g.serveAll calls).pool.services =
        (registries.latest? (calls.filterMap GatewayCall.payload?)).getD g.pool.services := by
  intro r
  have hfollows : r.Follows registries hear listeners :=
    follows_after registries hear listeners fetched
  refine ⟨?_, hfollows.digest, ⟨_, hfollows.converted, rfl, hfollows.heard⟩, ?_, ?_⟩
  · exact map_fst_rounds_after registries hear listeners fetched
  · intro next
    have hround := r.reloader.round_receive next
    obtain ⟨hfailed, hunchanged, hunreadable, happlied⟩ := hround.outcome_iff
    rw [hfollows.sameRegistries] at happlied
    refine ⟨_, rounds_step hear r next, hfailed, hunchanged, hunreadable, happlied,
      step_of_not_applied, fun h => ?_⟩
    have hnot : ∀ n, (r.reloader.receive next).1 ≠ .applied n := fun n hn => by
      cases h.symm.trans hn
    have hsame : (r.step hear next).reloader = r.reloader := (step_of_not_applied hnot).1
    rw [rounds_step, hsame, h]
  · intro g calls hg hdistinct
    have hstart : g.IsCurrent registries g.pool.services [] :=
      ⟨_, hg, rfl, ⟨rfl, nofun⟩, rfl⟩
    obtain ⟨m, -, hregistries, hcurrent, hservices⟩ := hstart.serveAll calls hdistinct
    rw [hservices, hcurrent.current, hregistries]

/-- What a gateway is asked while its document is written, broken, mended and broken again. -/
def edits : List GatewayCall :=
  [.reload (.ok "books: \x7b\x7d".toUTF8), .check { service := "books" },
    .reload (.ok "books: [".toUTF8), .reload (.ok "books: [".toUTF8),
    .reload (.ok "shelves: \x7b\x7d".toUTF8), .reload (.ok "shelves: [".toUTF8)]

/-- The last document that could be read stays in force. -/
theorem follows_rounds_edits :
    let g : Gateway :=
      { pipeline := { queue := .ofCapacity 1 }, reloader := some { registries := {} } }
    NoCollision (edits.filterMap GatewayCall.payload?) ∧
      (g.serveAll edits).pool.services.keys = ["shelves"] := by
  intro g
  have hdistinct : NoCollision (edits.filterMap GatewayCall.payload?) := by decide +kernel
  refine ⟨hdistinct, ?_⟩
  rw [(follows_rounds {} (fun s _ => s) ([] : List Unit) []).2.2.2.2 g edits rfl hdistinct]
  decide +kernel

end ReloadRun

end ServiceControl
