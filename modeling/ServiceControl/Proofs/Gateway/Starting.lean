import ServiceControl.Bundled.Kinds
import ServiceControl.Proofs.Gateway.Stopping
import ServiceControl.Proofs.Settings.Rules

/-!
# Starting a gateway

Validation asks for positive numbers and for batches of enabled consumers. It asks for no upper
bounds and lets a consumer be enabled twice. With the bundled adapters a start from settings that
were accepted goes through exactly if there is room for the queue, for the workers and for each
batch, and no two consumers want to show a page at the same path.
-/

namespace ServiceControl

/-! ## What settling leaves as it is -/

namespace Batcher

variable {α : Type}

/-- A step does not change how many items complete a batch. -/
theorem maxCount_of_step {b b' : Batcher α} {now : Nat} {batch : Option (List α)}
    (h : b.step now = some (batch, b')) : b'.maxCount = b.maxCount := by
  cases Goes.of_step h <;> rfl

theorem maxCount_of_offer {b b' : Batcher α} {items : List α} (h : b.offer items = some b') :
    b'.maxCount = b.maxCount := by
  obtain ⟨-, -, rfl⟩ := offer_eq_some h
  rfl

/-- A batcher that runs and has nothing to do has room for its batches. -/
theorem limit_le_of_step {b : Batcher α} {now : Nat} (hstep : b.step now = none)
    (hrunning : b.isRunning = true) : b.limit ≤ largest := by
  by_cases hlarge : largest < b.limit
  · simp only [step, hrunning, hlarge, if_true] at hstep
    cases hstep
  · exact Nat.le_of_not_lt hlarge

end Batcher

namespace Pipeline

/-- The consumers in their places, and how many reports complete their batches. -/
def fixture (p : Pipeline) : List (Consumer × Option Nat) :=
  p.outlets.map fun o => (o.consumer, o.batcher.map (·.maxCount))

theorem fixture_hand {p : Pipeline} {place : Nat} {o : Outlet} (ho : p.outlets[place]? = some o)
    (rs : List ReportRequest) : (p.hand place o rs).2.fixture = p.fixture := by
  rcases p.hand_cases place o rs with ⟨-, h⟩ | ⟨b, b', hb, hoffer, h⟩ | ⟨b, -, -, h⟩ <;> rw [h]
  · rfl
  · refine map_set_of_eq ho ?_
    simp only [hb, Option.map_some, Batcher.maxCount_of_offer hoffer]

theorem WorkerStep.fixture_eq {p q : Pipeline} {worker : Nat} (h : WorkerStep p worker q) :
    q.fixture = p.fixture := by
  cases h with
  | takes => rfl
  | leaves => rfl
  | hands _ _ ho => exact fixture_hand ho _
  | turns => rfl

theorem BatcherStep.fixture_eq {p q : Pipeline} {place : Nat} (h : BatcherStep p place q) :
    q.fixture = p.fixture := by
  cases h with
  | gathers ho hb hstep =>
    refine map_set_of_eq ho ?_
    simp only [hb, Option.map_some, Batcher.maxCount_of_step hstep]
  | @passes o b b' batch ho hb hstep =>
    have hcount : (if o.consumer.deliver (p.callsOf place) batch = .crashed then b'.crash
        else b').maxCount = b'.maxCount := by
      split <;> rfl
    refine map_set_of_eq ho ?_
    simp only [hb, Option.map_some, hcount, Batcher.maxCount_of_step hstep]

/-- Settling changes neither the consumers nor how many reports complete their batches. -/
theorem fixture_settle (p : Pipeline) : p.settle.fixture = p.fixture :=
  settle_induction (P := fun q => q.fixture = p.fixture)
    (fun _ _ _ h hstep => (WorkerStep.of_stepWorker hstep).fixture_eq.trans h)
    (fun _ _ _ h hstep => (BatcherStep.of_stepBatcher hstep).fixture_eq.trans h) rfl

theorem endpoints_eq (p : Pipeline) : p.endpoints = p.fixture.filterMap (·.1.endpoint) := by
  simp only [endpoints, fixture, List.filterMap_map, Function.comp_def]

/-- The consumers of a pipeline for settings show their pages as those that were built. -/
theorem endpoints_ofSettings (r : Registries) (s : Settings) :
    (ofSettings r s).endpoints = (outletsOf r s).filterMap (·.consumer.endpoint) := by
  rw [endpoints_eq, ofSettings, fixture_settle, ← endpoints_eq]
  rfl

/-- All batchers of a pipeline for settings run exactly if there is room for their batches. -/
theorem batchers_run_iff (r : Registries) (s : Settings) :
    (∀ o ∈ (ofSettings r s).outlets, ∀ b, o.batcher = some b → b.isRunning = true) ↔
      ∀ o ∈ outletsOf r s, ∀ b, o.batcher = some b → b.limit ≤ Batcher.largest := by
  constructor
  · intro hrun o ho b hb
    -- the outlet is still there when everything has settled, and its batcher has nothing to do then
    have hmem : (o.consumer, some b.maxCount) ∈ (ofSettings r s).fixture := by
      rw [ofSettings, fixture_settle]
      refine List.mem_map.mpr ⟨o, ho, ?_⟩
      rw [hb, Option.map_some]
    obtain ⟨o', ho', heq⟩ := List.mem_map.mp hmem
    obtain ⟨b', hb', hcount⟩ := Option.map_eq_some_iff.mp (Prod.mk.inj heq).2
    obtain ⟨place, hplace⟩ := List.mem_iff_getElem?.mp ho'
    have hrest : (ofSettings r s).stepBatcher place = none :=
      (steps_eq_none_of_step? (step?_settle _)).2 place
    have hat : (ofSettings r s).batcherAt place = some b' :=
      Option.bind_eq_some_iff.mpr ⟨o', hplace, hb'⟩
    have hlimit : b'.limit ≤ Batcher.largest :=
      Batcher.limit_le_of_step (step_eq_none_of_stepBatcher hat hrest) (hrun o' ho' b' hb')
    rwa [Batcher.limit, ← hcount, ← Batcher.limit]
  · intro hfits o ho b hb
    have hfresh : ∀ o ∈ outletsOf r s, ∀ b, o.batcher = some b → b.IsFresh :=
      fun o ho b hb => isFresh_of_mem_outletsOf ho hb (hfits o ho b hb)
    rw [ofSettings, settle_start hfresh] at ho
    exact (hfresh o ho b hb).isRunning

end Pipeline

/-! ## The bundled adapters -/

/-- The registries of a gateway that has the bundled adapters only. -/
def Registries.bundled (token : Nat) (scheduler : Bool) : Registries :=
  (({} : Registries).registerBundled token scheduler).toOption.getD {}

/-- Nothing is in the way of the bundled adapters. -/
theorem Registries.registerBundled_eq (token : Nat) (scheduler : Bool) :
    ({} : Registries).registerBundled token scheduler = .ok (bundled token scheduler) := by
  rfl

/-- A consumer of a name is built from settings. -/
def Settings.Builds (r : Registries) (s : Settings) (name : String) : Prop :=
  ∃ b c, r.consumers.get? name = some b ∧ b.build s = .ok c

section

variable {token : Nat} {scheduler : Bool} {s : Settings} {name : String}

theorem Registries.get?_bundled :
    (bundled token scheduler).consumers.get? name =
      if Log.kind = name then
        some { token := token + 2, build := fun _ => .ok { name := Log.kind } }
      else if Prometheus.kind = name then
        some { token := token, build := fun _ => .ok Prometheus.consumer }
      else if Statsd.kind = name then some { token := token + 1, build := Statsd.build scheduler }
      else none := by
  rfl

/-- Only one of the bundled consumers shows a page. -/
theorem endpoint_of_bundled {b : ConsumerBuilder} {c : Consumer}
    (hb : (Registries.bundled token scheduler).consumers.get? name = some b)
    (hc : b.build s = .ok c) :
    c.endpoint = if name = Prometheus.kind then some Prometheus.endpoint else none := by
  rw [Registries.get?_bundled] at hb
  split at hb
  · next hname =>
    subst hname
    cases hb
    cases hc
    rfl
  · split at hb
    · next hname =>
      subst hname
      cases hb
      cases hc
      rfl
    · split at hb
      · next hname =>
        subst hname
        cases hb
        simp only [Statsd.build] at hc
        split at hc
        · cases hc
        · split at hc
          · cases hc
            rfl
          · cases hc
      · cases hb

/-- As many pages are to be shown as the consumer with a page is enabled. -/
theorem endpoints_bundled (s : Settings) :
    (Pipeline.ofSettings (Registries.bundled token scheduler) s).endpoints =
      List.replicate (s.reports.consumers.count Prometheus.kind) Prometheus.endpoint := by
  rw [Pipeline.endpoints_ofSettings, Pipeline.outletsOf, List.filterMap_filterMap,
    ← Table.filterMap_if_eq]
  refine List.filterMap_congr fun name _ => ?_
  by_cases hname : name = Prometheus.kind
  · subst hname
    rfl
  · cases hb : (Registries.bundled token scheduler).consumers.get? name with
    | none => simp only [hname, if_false, Option.bind_none]
    | some b =>
      cases hc : b.build s with
      | error e => simp only [hc, hname, if_false, Option.bind_none]
      | ok c =>
        simp only [hc, Option.bind_some]
        exact endpoint_of_bundled hb hc

/-- A page can stand beside the gateway's own path, but not beside itself. -/
theorem firstFault?_replicate (k : Nat) :
    Http.Route.firstFault? (Http.Route.parse? healthPath).toList
      (List.replicate k Prometheus.endpoint) = none ↔ k ≤ 1 := by
  obtain ⟨route, hroute, hhealth⟩ : ∃ route, Http.Route.parse? Prometheus.endpoint = some route ∧
      (Http.Route.parse? healthPath).toList.any (Http.Route.clash route) = false :=
    ⟨Prometheus.endpoint.toList.map .char, by rfl, by rfl⟩
  match k with
  | 0 => exact ⟨fun _ => Nat.zero_le 1, fun _ => rfl⟩
  | 1 =>
    refine ⟨fun _ => Nat.le_refl 1, fun _ => ?_⟩
    simp only [List.replicate, Http.Route.firstFault?, hroute, hhealth, Bool.false_eq_true,
      if_false]
  | k + 2 =>
    have hclash : ((Http.Route.parse? healthPath).toList ++ [route]).any
        (Http.Route.clash route) = true := by
      simp [Http.Route.clash_self]
    simp only [List.replicate, Http.Route.firstFault?, hroute, hhealth, Bool.false_eq_true,
      if_false, hclash, if_true]
    exact ⟨nofun, fun hk => by omega⟩

end

/-! ## Starts that go through -/

/-- A consumer whose reports are batched is enabled in settings that were accepted. -/
theorem Settings.mem_consumers_of_violations {s : Settings} (h : s.violations = [])
    {x : String × BatchSettings} (hx : x ∈ s.reports.batching.entries) :
    x.1 ∈ s.reports.consumers := by
  have hbatched : s.reports.batching.contains x.1 = true := by
    rw [SortedMap.contains, SortedMap.find?_of_mem hx]
    rfl
  exact violations_eq_nil_iff.mp h (.enabled x.1) hbatched

/-- Nothing breaks off when a gateway is started from settings and its pages are shown:
there is room for the queue and the workers, all batchers run, and each endpoint can stand
beside the others. -/
structure Settings.StartsWell (r : Registries) (s : Settings) : Prop where
  room : s.roomFault? = none
  batchers : ∀ o ∈ (Pipeline.ofSettings r s).outlets, ∀ b, o.batcher = some b → b.isRunning = true
  endpoints : (Pipeline.ofSettings r s).endpointFault? = none

/-- What validation does not ask for: there is room for what the settings reserve, and the consumer
with a page is enabled once at most. -/
structure Settings.HasRoom (r : Registries) (s : Settings) : Prop where
  queue : s.reports.queueCapacity ≤ ReportQueue.longest
  workers : s.reports.workers ≤ mostWorkers
  batches : ∀ x ∈ s.reports.batching.entries, s.Builds r x.1 → x.2.maxCount ≤ Batcher.largest
  pages : s.reports.consumers.count Prometheus.kind ≤ 1

namespace Settings

variable {r : Registries} {s : Settings}

theorem roomFault?_eq_none_iff :
    s.roomFault? = none ↔
      s.reports.queueCapacity ≤ ReportQueue.longest ∧ s.reports.workers ≤ mostWorkers := by
  unfold roomFault?
  split
  · next h => exact ⟨nofun, fun hle => absurd hle.1 (Nat.not_le_of_gt h)⟩
  · next h =>
    split
    · next h' => exact ⟨nofun, fun hle => absurd hle.2 (Nat.not_le_of_gt h')⟩
    · next h' => exact ⟨fun _ => ⟨Nat.le_of_not_lt h, Nat.le_of_not_lt h'⟩, fun _ => rfl⟩

/-- The outlets are made of the enabled consumers that are built. -/
theorem mem_outletsOf {o : Outlet} : o ∈ Pipeline.outletsOf r s ↔
    ∃ name ∈ s.reports.consumers, ∃ b c, r.consumers.get? name = some b ∧ b.build s = .ok c ∧
      o = Pipeline.outletOf s.reports.batching name c := by
  simp only [Pipeline.outletsOf, List.mem_filterMap]
  refine exists_congr fun name => and_congr_right fun _ => ?_
  cases hb : r.consumers.get? name with
  | none => exact ⟨nofun, fun ⟨_, _, hget, _⟩ => nomatch hget⟩
  | some b =>
    cases hc : b.build s with
    | error e =>
      simp only [hc]
      refine ⟨nofun, fun ⟨b', _, hget, hbuild, _⟩ => ?_⟩
      obtain rfl := Option.some.inj hget
      cases hc.symm.trans hbuild
    | ok c =>
      simp only [hc]
      refine ⟨fun h => ⟨b, c, rfl, hc, (Option.some.inj h).symm⟩,
        fun ⟨b', c', hget, hbuild, ho⟩ => ?_⟩
      obtain rfl := Option.some.inj hget
      obtain rfl := Except.ok.inj (hc.symm.trans hbuild)
      rw [ho]

/-- There is room for the batches of all outlets exactly if there is room for those of the consumers
that are built. -/
theorem limits_iff (hs : s.violations = []) :
    (∀ o ∈ Pipeline.outletsOf r s, ∀ b, o.batcher = some b → b.limit ≤ Batcher.largest) ↔
      ∀ x ∈ s.reports.batching.entries, s.Builds r x.1 → x.2.maxCount ≤ Batcher.largest := by
  have hlimit (settings : BatchSettings) :
      ({ maxCount := max settings.maxCount 1, timeout := settings.timeout } :
        Batcher ReportRequest).limit ≤ Batcher.largest ↔ settings.maxCount ≤ Batcher.largest := by
    simp only [Batcher.limit, Batcher.largest]
    omega
  constructor
  · rintro hall x hx ⟨b, c, hb, hc⟩
    have hname := mem_consumers_of_violations hs hx
    have ho := mem_outletsOf.mpr ⟨x.1, hname, b, c, hb, hc, rfl⟩
    refine (hlimit x.2).mp (hall _ ho _ ?_)
    simp only [Pipeline.outletOf, SortedMap.find?_of_mem hx, Option.map_some]
  · intro hall o ho b hb
    obtain ⟨name, -, b', c, hb', hc, rfl⟩ := mem_outletsOf.mp ho
    obtain ⟨settings, hfind, rfl⟩ := Option.map_eq_some_iff.mp hb
    have hmem := SortedMap.mem_entries_of_find? hfind
    exact (hlimit settings).mpr (hall (name, settings) hmem ⟨b', c, hb', hc⟩)

theorem endpointFault?_eq_none_iff (token : Nat) (scheduler : Bool) (s : Settings) :
    (Pipeline.ofSettings (.bundled token scheduler) s).endpointFault? = none ↔
      s.reports.consumers.count Prometheus.kind ≤ 1 := by
  rw [Pipeline.endpointFault?, Option.map_eq_none_iff, endpoints_bundled, firstFault?_replicate]

/-- A start breaks off only where there is no room, or where a page cannot be shown. -/
theorem StartsWell.start_ne_fault (h : s.StartsWell r) (f : Folder) (e : StartupFault) :
    Deployment.start s r f ≠ .error (.fault e) := by
  intro hstart
  simp only [Deployment.start, h.room, h.endpoints, bind, Except.bind, pure, Except.pure] at hstart
  split at hstart
  · next e' hsource =>
    obtain rfl := Except.error.inj hstart
    cases hlocator : Source.ofLocator s.services.source with
    | error e'' =>
      rw [hlocator] at hsource
      cases hsource
    | ok source =>
      rw [hlocator] at hsource
      cases hsource
  · split at hstart
    · next e' hwatch =>
      obtain rfl := Except.error.inj hstart
      unfold Deployment.watch at hwatch
      split at hwatch
      · split at hwatch <;> cases hwatch
      · cases hwatch
    · cases hstart

/-- From settings that were accepted, a gateway with the bundled adapters starts without breaking
off exactly if there is room for all that the settings reserve, and the consumer with a page is
enabled once at most. -/
theorem startsWell_iff (token : Nat) (scheduler : Bool) (s : Settings) (hs : s.violations = []) :
    (s.StartsWell (.bundled token scheduler) ↔ s.HasRoom (.bundled token scheduler)) ∧
      (s.HasRoom (.bundled token scheduler) →
        ∀ f e, Deployment.start s (.bundled token scheduler) f ≠ .error (.fault e)) := by
  have hiff : s.StartsWell (.bundled token scheduler) ↔ s.HasRoom (.bundled token scheduler) := by
    constructor
    · rintro ⟨hroom, hbatchers, hendpoints⟩
      obtain ⟨hqueue, hworkers⟩ := roomFault?_eq_none_iff.mp hroom
      have hlimits := (Pipeline.batchers_run_iff _ s).mp hbatchers
      exact ⟨hqueue, hworkers, (limits_iff hs).mp hlimits,
        (endpointFault?_eq_none_iff token scheduler s).mp hendpoints⟩
    · rintro ⟨hqueue, hworkers, hbatches, hpages⟩
      have hlimits := (limits_iff hs).mpr hbatches
      exact ⟨roomFault?_eq_none_iff.mpr ⟨hqueue, hworkers⟩,
        (Pipeline.batchers_run_iff _ s).mpr hlimits,
        (endpointFault?_eq_none_iff token scheduler s).mpr hpages⟩
  exact ⟨hiff, fun hroom => (hiff.mpr hroom).start_ne_fault⟩

/-- Settings that are the default ones but for the way of reports are accepted if its rules hold. -/
theorem violations_eq_nil {reports : ReportSettings} (hworkers : 0 < reports.workers)
    (hqueue : 0 < reports.queueCapacity)
    (hbatches : ∀ x ∈ reports.batching.entries, batchViolations reports.consumers x.1 x.2 = []) :
    ({ reports } : Settings).violations = [] := by
  have hlistener : (Net.Endpoint.parse? "0.0.0.0:9092").isSome = true := by decide +kernel
  have hmetrics : (Net.Endpoint.parse? "0.0.0.0:9090").isSome = true := by decide +kernel
  have hsource : (!decide (Text.Blank "services.yml")) = true := by decide
  have hflat : (reports.batching.entries.flatMap fun x =>
      batchViolations reports.consumers x.1 x.2) = [] := List.flatMap_eq_nil_iff.mpr hbatches
  simp only [violations, requireEndpoint, requirePositive, hlistener, hmetrics, hsource, hflat,
    hworkers, hqueue, require, decide_true, Nat.reduceLT, if_true, List.append_nil]

/-- The log takes its reports in batches. -/
def batchedLog (maxCount : Nat) : Settings where
  reports := { batching := .ofList [(Log.kind, { maxCount })] }

theorem startsWell_iff_batchedLog :
    (batchedLog 50).violations = [] ∧ (batchedLog 50).StartsWell (.bundled 0 true) := by
  have hs : (batchedLog 50).violations = [] :=
    violations_eq_nil (by decide) (by decide) (by decide)
  have hbatches : ∀ x ∈ (batchedLog 50).reports.batching.entries,
      x.2.maxCount ≤ Batcher.largest := by decide
  exact ⟨hs, (startsWell_iff 0 true _ hs).1.mpr
    ⟨by decide, by decide, fun x hx _ => hbatches x hx, by decide⟩⟩

/-- The consumer with a page is enabled twice. -/
def pageTwice : Settings where
  reports := { consumers := [Prometheus.kind, Prometheus.kind] }

/-- The queue has more places than there is room for. -/
def longQueue : Settings where
  reports := { queueCapacity := ReportQueue.longest + 1 }

/-- Settings are accepted with which a start does not go through: a page that is to be shown twice,
a queue that is too long, and batches that are too large. -/
theorem not_startsWell_of_accepted :
    (pageTwice.violations = [] ∧ ¬ pageTwice.StartsWell (.bundled 0 true)) ∧
    (longQueue.violations = [] ∧ ¬ longQueue.StartsWell (.bundled 0 true)) ∧
    (batchedLog (Batcher.largest + 1)).violations = [] ∧
      ¬ (batchedLog (Batcher.largest + 1)).StartsWell (.bundled 0 true) := by
  have hlarge : (batchedLog (Batcher.largest + 1)).violations = [] :=
    violations_eq_nil (by decide) (by decide) (by decide)
  refine ⟨⟨violations_eq_nil (by decide) (by decide) nofun, fun hpage => ?_⟩,
    ⟨violations_eq_nil (by decide) (by decide) nofun, fun hqueue => ?_⟩, hlarge, fun hbatch => ?_⟩
  · have hcount := (endpointFault?_eq_none_iff 0 true pageTwice).mp hpage.endpoints
    exact absurd hcount (by decide)
  · have hroom := (roomFault?_eq_none_iff.mp hqueue.room).1
    exact absurd hroom (by decide)
  · have hlimits := (limits_iff hlarge).mp ((Pipeline.batchers_run_iff _ _).mp hbatch.batchers)
    have hlog :=
      hlimits (Log.kind, { maxCount := Batcher.largest + 1 }) (by decide) ⟨_, _, rfl, rfl⟩
    exact absurd hlog (by decide)

end Settings

end ServiceControl
