import ServiceControl.Proofs.Reload.Rounds
import ServiceControl.Proofs.Reload.Serialising

/-!
# What the digest in force says of the listeners

A call records the digest of what it has fetched before it tells the first listener. So at any time
the digest in force is of a document that was fetched, and of the listeners the first so many have
been told what it says since then, and the others nothing. All of them have been told whenever no
call is on its way. A call that is broken off while it tells them is not made good: as long as
nothing but the same document is fetched, no listener is told anything.
-/

namespace ServiceControl

/-! ## Plans that put nothing in force -/

theorem ReloadPlan.tellings_of_none {p : ReloadPlan} (h : p.services? = none) (n : Nat) :
    p.tellings n = [] := by
  rw [tellings, h]
  rfl

theorem ReloadPlan.tellings_of_some {p : ReloadPlan} {s : Services} (h : p.services? = some s)
    (n : Nat) : p.tellings n = (List.range n).map fun i => .told i s := by
  rw [tellings, h, Option.toList_some, List.flatMap_singleton]

/-- The first listeners are told as if there were no others. -/
theorem ReloadPlan.take_tellings {p : ReloadPlan} {s : Services} (h : p.services? = some s)
    {k n : Nat} (hk : k ≤ n) : (p.tellings n).take k = p.tellings k := by
  rw [tellings_of_some h, tellings_of_some h, ← List.map_take, List.take_range,
    Nat.min_eq_left hk]

/-- Whether what a move brings puts nothing in force. -/
def ReloadMove.BringsNothing (m : Reloader) : ReloadMove → Prop
  | answer _ f => (m.planFor f).services? = none
  | _ => True

/-- Whether what a call has fetched puts nothing in force. -/
def ReloadPhase.CarriesNothing (m : Reloader) : ReloadPhase → Prop
  | planning f => (m.planFor f).services? = none
  | recording p => p.services? = none
  | telling p _ => p.services? = none
  | _ => True

namespace Reloader

variable {m : Reloader} {p : ReloadPlan}

theorem recordDigest_of_none (h : p.services? = none) : m.recordDigest p = m := by
  cases p with
  | apply => cases h
  | failed | unchanged | unreadable => rfl

theorem announce_of_none (h : p.services? = none) : m.announce p = m := by
  cases p with
  | apply => cases h
  | failed | unchanged | unreadable => rfl

/-- A plan puts nothing in force, or a document that can be read. -/
theorem planFor_cases (m : Reloader) (f : Fetched) :
    (m.planFor f).services? = none ∨
      ∃ payload s errors, f = .ok payload ∧ m.registries.converted? payload = some s ∧
        m.planFor f = .apply (Sha1.hex payload) s errors := by
  cases f with
  | error e => exact .inl rfl
  | ok payload =>
    simp only [planFor, plan]
    split
    · exact .inl rfl
    · cases hparse : Services.parse? payload with
      | none => exact .inl rfl
      | some s =>
        have hconverted : m.registries.converted? payload =
            some (s.convert m.registries).value := by
          rw [Registries.converted?, hparse]
          rfl
        exact .inr ⟨payload, _, _, rfl, hconverted, rfl⟩

/-- The document in force puts nothing new in force. -/
theorem planFor_of_digest {payload : ByteArray} (h : m.digest = some (Sha1.hex payload)) :
    m.planFor (.ok payload) = .unchanged := by
  simp only [planFor, plan, if_pos h]

theorem Round.registries_eq {m m' : Reloader} {f : Fetched} {outcome : ReloadOutcome}
    (h : m.Round f outcome m') : m'.registries = m.registries := by
  cases h <;> rfl

theorem registries_receiveAll (m : Reloader) (calls : Table Nat Fetched) :
    (m.receiveAll calls).registries = m.registries := by
  induction calls generalizing m with
  | nil => rfl
  | cons x rest ih => exact (ih (m.receive x.2).2).trans (m.round_receive x.2).registries_eq

end Reloader

namespace ReloadCalls

variable {n i k c : Nat} {start m : Reloader} {done : Table Nat Fetched} {r : ReloadCalls}
  {f : Fetched} {log more : Table Nat ReloadEvent} {events : List ReloadEvent}

/-! ## What was told since the fetch -/

/-- What a digest in force says of the listeners, from what has happened so far: the document that
it is of was fetched in a call, and since then the first so many listeners were told what it says,
and the others nothing. -/
structure Recorded (registries : Registries) (n : Nat) (log : Table Nat ReloadEvent)
    (digest : String) (c : Nat) (payload : ByteArray) (s : Services) (k : Nat) : Prop where
  hex : Sha1.hex payload = digest
  converted : registries.converted? payload = some s
  le : k ≤ n
  told : ∃ before since, log = before ++ (c, .fetched (.ok payload)) :: since ∧
    ∀ i < n, told i since = if i < k then [(c, s)] else []

namespace Recorded

variable {registries : Registries} {digest : String} {payload : ByteArray} {s : Services}

/-- It stays as it is while nobody is told anything. -/
theorem append (h : Recorded registries n log digest c payload s k)
    (hmore : ∀ i < n, ReloadCalls.told i more = []) :
    Recorded registries n (log ++ more) digest c payload s k := by
  obtain ⟨before, since, rfl, htold⟩ := h.told
  refine ⟨h.hex, h.converted, h.le, before, since ++ more, List.append_assoc .., fun i hi => ?_⟩
  rw [told_append, hmore i hi, List.append_nil, htold i hi]

end Recorded

theorem told_tellings (p : ReloadPlan) {s : Services} (h : p.services? = some s) (i k c : Nat) :
    told i ((p.tellings k).map fun e => (c, e)) = if i < k then [(c, s)] else [] := by
  rw [told_map]
  split
  · next hi =>
    rw [filterMap_tellings p hi, h]
    rfl
  · next hi =>
    have hnone : (p.tellings k).filterMap (·.toldTo? i) = [] := by
      rw [p.tellings_of_some h, List.filterMap_eq_nil_iff]
      intro e he
      obtain ⟨j, hj, rfl⟩ := List.mem_map.mp he
      have hji : j ≠ i := fun hji => hi (hji ▸ List.mem_range.mp hj)
      exact if_neg hji
    rw [hnone]
    rfl

/-- A call that has fetched a document that comes into force, and has told so many listeners. -/
theorem recorded_of_apply {p : ReloadPlan} {payload : ByteArray} {s : Services}
    {registries : Registries} (hs : p.services? = some s)
    (hconverted : registries.converted? payload = some s) (hk : k ≤ n) :
    Recorded registries n
      (log ++ (.acquired :: .fetched (.ok payload) :: p.tellings k).map fun e => (c, e))
      (Sha1.hex payload) c payload s k :=
  ⟨rfl, hconverted, hk, log ++ [(c, .acquired)], (p.tellings k).map fun e => (c, e), by simp,
    fun i _ => told_tellings p hs i k c⟩

/-- Calls that are carried out one after another leave no listener behind the digest in force. -/
theorem exists_recorded_receiveAll (hfresh : start.digest = none) (n : Nat)
    (done : Table Nat Fetched) {digest : String}
    (h : (start.receiveAll done).digest = some digest) :
    ∃ c payload s, Recorded start.registries n (start.serialLog n done) digest c payload s n := by
  induction done using List.reverseRecOn generalizing digest with
  | nil => cases hfresh.symm.trans h
  | append_singleton done x ih =>
    obtain ⟨c, f⟩ := x
    rw [Reloader.receiveAll_concat] at h
    rw [Reloader.serialLog_concat]
    generalize hm : start.receiveAll done = m at h ih ⊢
    change ((m.recordDigest (m.planFor f)).announce (m.planFor f)).digest = some digest at h
    rcases m.planFor_cases f with hnone | ⟨payload, s, errors, rfl, hconverted, hplan⟩
    · rw [Reloader.recordDigest_of_none hnone, Reloader.announce_of_none hnone] at h
      obtain ⟨d, payload, s, hrecorded⟩ := ih h
      refine ⟨d, payload, s, hrecorded.append fun i hi => ?_⟩
      rw [told_events m hi, hnone]
      rfl
    · rw [hplan] at h
      obtain rfl := Option.some.inj h
      rw [← hm, start.registries_receiveAll] at hconverted
      refine ⟨c, payload, s, ?_⟩
      rw [Reloader.events, hplan, ← List.cons_append, ← List.cons_append, List.map_append,
        ← List.append_assoc]
      exact (recorded_of_apply rfl hconverted (Nat.le_refl n)).append fun i _ => rfl

/-- A call that is under way has changed nothing and told nobody, or it has recorded the digest of a
document and told the first so many listeners what it says. -/
theorem InFlight.quiet_or_telling {phase : ReloadPhase} {reloader : Reloader}
    (h : InFlight n m phase reloader events) (c : Nat) :
    (reloader = m ∧ ∀ i, told i (events.map fun e => (c, e)) = []) ∨
      ∃ payload s errors k, m.registries.converted? payload = some s ∧ k ≤ n ∧
        phase = .telling (.apply (Sha1.hex payload) s errors) k ∧
        reloader = { m with digest := some (Sha1.hex payload) } ∧
        events = .acquired :: .fetched (.ok payload) ::
          (ReloadPlan.apply (Sha1.hex payload) s errors).tellings k := by
  cases h with
  | fetching | planning | recording => exact .inl ⟨rfl, fun i => rfl⟩
  | @telling f k hk =>
    rcases m.planFor_cases f with hnone | ⟨payload, s, errors, rfl, hconverted, hplan⟩
    · refine .inl ⟨Reloader.recordDigest_of_none hnone, fun i => ?_⟩
      rw [ReloadPlan.tellings_of_none hnone, List.take_nil]
      rfl
    · have hs : (ReloadPlan.apply (Sha1.hex payload) s errors).services? = some s := rfl
      rw [hplan] at hk ⊢
      rw [ReloadPlan.tellings_of_some hs, List.length_map, List.length_range] at hk
      rw [ReloadPlan.take_tellings hs hk]
      exact .inr ⟨payload, s, errors, k, hconverted, hk, rfl, rfl, rfl⟩

theorem Serial.listeners_eq (h : Serial n start done r) : r.listeners = n := by
  cases h <;> rfl

/-- Only a call that has recorded the digest and is telling its listeners leaves some of them
behind. -/
theorem Serial.exists_recorded (hfresh : start.digest = none) (h : Serial n start done r)
    {digest : String} (hdigest : r.reloader.digest = some digest) :
    ∃ c payload s k, Recorded start.registries n r.log digest c payload s k ∧
      (k < n → r.holder = some c ∧
        ∃ errors, r.phases[c]? = some (.telling (.apply digest s errors) k)) := by
  cases h with
  | idle hothers =>
    obtain ⟨c, payload, s, hrecorded⟩ := exists_recorded_receiveAll hfresh n done hdigest
    exact ⟨c, payload, s, n, hrecorded, fun hn => absurd hn (Nat.lt_irrefl n)⟩
  | @busy phases c phase reloader events hphase hothers hflight =>
    rcases hflight.quiet_or_telling c with ⟨rfl, hquiet⟩ |
      ⟨payload, s, errors, k, hconverted, hk, rfl, rfl, rfl⟩
    · obtain ⟨d, payload, s, hrecorded⟩ := exists_recorded_receiveAll hfresh n done hdigest
      exact ⟨d, payload, s, n, hrecorded.append fun i _ => hquiet i,
        fun hn => absurd hn (Nat.lt_irrefl n)⟩
    · obtain rfl := Option.some.inj hdigest
      rw [start.registries_receiveAll] at hconverted
      exact ⟨c, payload, s, k, recorded_of_apply rfl hconverted hk, fun _ => ⟨rfl, errors, hphase⟩⟩

/-! ## Calls that bring nothing new -/

/-- A run of calls that bring nothing new: the reloader is as it was and nobody has been told
anything. -/
structure Stays (m : Reloader) (r : ReloadCalls) : Prop where
  reloader : r.reloader = m
  carries : ∀ phase ∈ r.phases, phase.CarriesNothing m
  told : ∀ i, told i r.log = []

namespace Stays

variable {phase : ReloadPhase} {event : Option ReloadEvent}

theorem goOn (h : Stays m r) (c : Nat) (holder : Option Nat) (phase : ReloadPhase)
    (hphase : phase.CarriesNothing m) (hevent : ∀ i, event.bind (·.toldTo? i) = none) :
    Stays m { r.goOn c phase event with holder } where
  reloader := h.reloader
  carries other hother := by
    rcases List.mem_or_eq_of_mem_set hother with hother | rfl
    · exact h.carries other hother
    · exact hphase
  told i := by
    have hnone : ReloadCalls.told i (event.toList.map fun e => (c, e)) = [] := by
      cases event with
      | none => rfl
      | some e => simp [ReloadCalls.told, show e.toldTo? i = none from hevent i]
    simp only [ReloadCalls.goOn, told_append, h.told i, hnone, List.append_nil]

theorem advance (h : Stays m r) (hphase : phase.CarriesNothing m) (c : Nat) :
    Stays m (r.advance c phase) := by
  cases phase with
  | waiting =>
    simp only [ReloadCalls.advance]
    split
    · exact h.goOn c (some c) .fetching trivial fun _ => rfl
    · exact h
  | fetching | ended => exact h
  | planning f =>
    refine h.goOn c r.holder (.recording (r.reloader.planFor f)) ?_ fun _ => rfl
    rw [h.reloader]
    exact hphase
  | recording p =>
    simp only [ReloadCalls.advance, Reloader.recordDigest_of_none hphase]
    exact h.goOn c r.holder (.telling p 0) hphase fun _ => rfl
  | telling p k =>
    simp only [ReloadCalls.advance, ReloadPlan.tellings_of_none hphase, List.getElem?_nil,
      Reloader.announce_of_none hphase]
    exact h.goOn c none (.ended p.outcome) trivial fun _ => rfl

theorem step (h : Stays m r) {mv : ReloadMove} (hmv : mv.BringsNothing m) :
    Stays m (r.step mv) := by
  cases mv with
  | call =>
    refine ⟨h.reloader, fun phase hphase => ?_, h.told⟩
    rcases List.mem_append.mp hphase with hphase | hphase
    · exact h.carries phase hphase
    · obtain rfl := List.mem_singleton.mp hphase
      trivial
  | answer c f =>
    simp only [ReloadCalls.step]
    split
    · exact h.goOn c r.holder (.planning f) hmv fun _ => rfl
    · exact h
  | advance c =>
    simp only [ReloadCalls.step]
    split
    · next phase hphase => exact h.advance (h.carries phase (List.mem_of_getElem? hphase)) c
    · exact h

end Stays

theorem stays_after (m : Reloader) (n : Nat) {moves : List ReloadMove}
    (h : ∀ mv ∈ moves, mv.BringsNothing m) : Stays m (after m n moves) := by
  induction moves using List.reverseRecOn with
  | nil => exact ⟨rfl, nofun, fun _ => rfl⟩
  | append_singleton moves mv ih =>
    rw [after_snoc]
    exact (ih fun other hother => h other (List.mem_append_left _ hother)).step
      (h mv (List.mem_append_right _ (List.mem_singleton_self mv)))

/-! ## The digest in force -/

/-- Whether every listener has been told what a document of a digest says, or something that was
fetched later: each has been told something since the fetch. -/
def Backed (r : ReloadCalls) (digest : String) : Prop :=
  ∃ before c payload since, r.log = before ++ (c, .fetched (.ok payload)) :: since ∧
    Sha1.hex payload = digest ∧ ∀ i < r.listeners, told i since ≠ []

theorem Recorded.backed {registries : Registries} {digest : String} {payload : ByteArray}
    {s : Services} (h : Recorded registries n r.log digest c payload s n) (hn : r.listeners = n) :
    r.Backed digest := by
  obtain ⟨before, since, hlog, htold⟩ := h.told
  refine ⟨before, c, payload, since, hlog, h.hex, fun i hi => ?_⟩
  rw [hn] at hi
  rw [htold i hi, if_pos hi]
  exact List.cons_ne_nil _ _

/-- At any time the digest in force is of a document that was fetched, and since then the first
so many listeners have been told what it says and the others nothing. There are others only
while the call that recorded the digest is telling its listeners, so that all have been told
while no call has the lock. Calls that begin when it is broken off there do not make up for it:
whatever of them overlap, as long as each fetches a document of that digest or fails to, no
listener is told anything. -/
theorem recorded_before_told (registries : Registries) (n : Nat) (moves : List ReloadMove) :
    let r := after { registries } n moves
    ∀ digest, r.reloader.digest = some digest →
      (r.holder = none → r.Backed digest) ∧
        ∃ c payload s k, Recorded registries n r.log digest c payload s k ∧
          (k < n → r.holder = some c ∧
            ∃ errors, r.phases[c]? = some (.telling (.apply digest s errors) k)) ∧
          ∀ later, (∀ d f, .answer d f ∈ later →
              (∃ same, f = .ok same ∧ Sha1.hex same = digest) ∨ ∃ e, f = .error e) →
            (after r.reloader n later).reloader = r.reloader ∧
              ∀ i, told i (after r.reloader n later).log = [] := by
  intro r digest hdigest
  obtain ⟨done, hserial⟩ := exists_serial_after { registries } n moves
  obtain ⟨c, payload, s, k, hrecorded, hleft⟩ := hserial.exists_recorded rfl hdigest
  refine ⟨fun hfree => ?_, c, payload, s, k, hrecorded, hleft, fun later hlater => ?_⟩
  · have hk : ¬k < n := fun hk => nomatch hfree.symm.trans (hleft hk).1
    obtain rfl : k = n := Nat.le_antisymm hrecorded.le (Nat.le_of_not_lt hk)
    exact hrecorded.backed hserial.listeners_eq
  · have hnothing : ∀ mv ∈ later, mv.BringsNothing r.reloader := by
      intro mv hmv
      cases mv with
      | call | advance => trivial
      | answer d f =>
        rcases hlater d f hmv with ⟨same, rfl, rfl⟩ | ⟨e, rfl⟩
        · change (r.reloader.planFor (.ok same)).services? = none
          rw [Reloader.planFor_of_digest hdigest]
          rfl
        · rfl
    have hstays := stays_after r.reloader n hnothing
    exact ⟨hstays.reloader, hstays.told⟩

/-- A call fetches an empty document and goes on until it has recorded its digest. -/
def recording : List ReloadMove :=
  [.call, .advance 0, .answer 0 (.ok ByteArray.empty), .advance 0, .advance 0]

/-- A listener has not been told of the empty document, whose digest is in force, and is not told
when the document is fetched again. -/
theorem recorded_before_told_empty :
    let r := after { registries := {} } 1 recording
    r.reloader.digest = some "da39a3ee5e6b4b0d3255bfef95601890afd80709" ∧
      told 0 (after r.reloader 1 recording).log = [] := by
  intro r
  have hdigest : r.reloader.digest = some "da39a3ee5e6b4b0d3255bfef95601890afd80709" := by
    decide +kernel
  have hempty : Sha1.hex ByteArray.empty = "da39a3ee5e6b4b0d3255bfef95601890afd80709" := by
    decide +kernel
  obtain ⟨-, c, payload, s, k, -, -, hlater⟩ := recorded_before_told {} 1 recording _ hdigest
  refine ⟨hdigest, (hlater recording fun d f hf => .inl ⟨ByteArray.empty, ?_, hempty⟩).2 0⟩
  have hf : d = 0 ∧ f = .ok ByteArray.empty := by simpa [recording] using hf
  exact hf.2

/-- It is not so that all listeners have been told of the document whose digest is in force: one
call is enough, between its recording of the digest and its first listener. -/
theorem not_forall_backed :
    ¬∀ (registries : Registries) (n : Nat) (moves : List ReloadMove),
      let r := after { registries } n moves
      ∀ digest, r.reloader.digest = some digest → r.Backed digest := by
  intro h
  have hdigest : (after { registries := {} } 1 recording).reloader.digest =
      some "da39a3ee5e6b4b0d3255bfef95601890afd80709" := by decide +kernel
  have huntold : (told 0 (after { registries := {} } 1 recording).log).isEmpty = true := by
    decide +kernel
  obtain ⟨before, c, payload, since, hlog, -, htold⟩ := h {} 1 recording _ hdigest
  rw [hlog, told_append, List.isEmpty_iff, List.append_eq_nil_iff] at huntold
  exact htold 0 Nat.one_pos huntold.2

end ReloadCalls

end ServiceControl
