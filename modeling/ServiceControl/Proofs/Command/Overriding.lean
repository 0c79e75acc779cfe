import ServiceControl.Command.Server
import ServiceControl.Proofs.Net.Ports

/-!
# Options over settings

What the command line names goes over the settings, and nothing else changes. A port goes behind the
last colon of the address to listen at, so an address that could be read before is read with the
same host and the new port, and validation tells what it would tell without the port.
-/

namespace ServiceControl.Command

namespace Given

/-- The options but for those of one name. -/
def without (g : Given) (name : String) : Given := g.filter fun o => o.1 ≠ name

theorem value?_without (g : Given) (name other : String) :
    (g.without name).value? other = if other = name then none else g.value? other := by
  induction g with
  | nil => simp [without, value?, Table.find?]
  | cons o rest ih =>
    simp only [without, value?, List.filter_cons, Table.find?] at ih ⊢
    by_cases ho : o.1 = name
    · simp only [ho, ne_eq, not_true_eq_false, decide_false, Bool.false_eq_true, if_false, ih]
      grind
    · simp only [ho, ne_eq, not_false_eq_true, decide_true, if_true, Table.find?, ih]
      grind

theorem values_without (g : Given) {name other : String} (h : other ≠ name) :
    (g.without name).values other = g.values other := by
  have hfilter (o : String × String) : (o.1 == other && decide (o.1 ≠ name)) = (o.1 == other) := by
    by_cases ho : o.1 = other <;> simp [ho, h]
  simp only [values, without, List.filter_filter, hfilter]

end Given

namespace Server

/-- What a command line leaves of settings: all that it does not name, and all
that has no option. -/
structure Leaves (g : Given) (s t : Settings) : Prop where
  bindAddress : g.value? "port" = none → t.listener.bindAddress = s.listener.bindAddress
  requestTimeout : t.listener.requestTimeout = s.listener.requestTimeout
  workers : g.value? "workers" = none → t.reports.workers = s.reports.workers
  queueCapacity : t.reports.queueCapacity = s.reports.queueCapacity
  consumers : g.values "report-consumers" = [] → t.reports.consumers = s.reports.consumers
  batching : t.reports.batching = s.reports.batching
  statsd : t.statsd = s.statsd
  source : g.value? "services" = none → t.services.source = s.services.source
  pollInterval : t.services.pollInterval = s.services.pollInterval
  fetchTimeout : t.services.fetchTimeout = s.services.fetchTimeout
  watch : t.services.watch = s.services.watch
  logLevel : g.value? "log-level" = none → t.observability.logLevel = s.observability.logLevel
  jsonLogs : t.observability.jsonLogs = s.observability.jsonLogs
  metricsEnabled : t.observability.metricsEnabled = s.observability.metricsEnabled
  metricsAddress : t.observability.metricsAddress = s.observability.metricsAddress

/-- Options change what they name. -/
theorem leaves_apply (g : Given) (s : Settings) : Leaves g s (apply g s) := by
  constructor <;> intros <;> simp [apply, *]

/-- The number of a port is one of 16 bits. -/
theorem lt_of_port? {text : String} {n : Nat} (h : port? text = some n) : n < 65536 := by
  unfold port? at h
  split at h
  · split at h
    · next hlt => exact Option.some.inj h ▸ hlt
    · cases h
  · cases h

/-- Every number of 16 bits is a port by its digits. -/
theorem port?_repr {n : Nat} (h : n < 65536) : port? n.repr = some n := by
  obtain ⟨c, digits, hdigits, hc⟩ := Text.exists_toDigits_eq_cons n
  have hsign {sign : Char} {rest : List Char} (hs : sign.isDigit = false) :
      Nat.toDigits 10 n ≠ sign :: rest := by
    intro heq
    rw [(List.cons.inj (hdigits.symm.trans heq)).1, hs] at hc
    cases hc
  have hint : Text.int? (Nat.toDigits 10 n) = some (.ofNat n) := by
    unfold Text.int?
    split
    · next heq => exact absurd heq (hsign (by decide))
    · unfold Text.nat?
      split
      · next heq => exact absurd heq (hsign (by decide))
      · rw [Text.natIn?_toDigits, Option.map_some]
  simp only [port?, Nat.toList_repr, hint, h, if_true]

/-- Every number of 16 bits may be given as the port. -/
theorem readAll_port {n : Nat} (h : n < 65536) :
    form.readAll ["--port", n.repr] = .ok [("port", n.repr)] := by
  have hname : form.readArgument "--port" =
      .awaiting { name := "port", accepts := fun s => (port? s).isSome } := by rfl
  have hvalue : Form.isValue n.repr = true := by
    obtain ⟨c, digits, hdigits, hc⟩ := Text.exists_toDigits_eq_cons n
    have hdash : '-' ≠ c := by
      rintro rfl
      exact absurd hc (by decide)
    have hstart : Text.startsWith n.repr "-" = false := by
      simp [Text.startsWith, Text.after?, Nat.toList_repr, hdigits, Text.afterList?, hdash]
    rw [Form.isValue, hstart, Bool.not_false, Bool.or_true]
  simp [Form.readAll, Form.read, hname, hvalue, Form.Front.settle, Form.add, port?_repr h]

/-- A port changes the address to listen at, and nothing else. -/
theorem apply_eq_without_port (g : Given) (s : Settings) :
    apply g s = { apply (g.without "port") s with
      listener := { s.listener with bindAddress := (apply g s).listener.bindAddress } } := by
  simp [apply, Given.value?_without, Given.values_without]

/-- Validation tells nothing of a port over an address that could be read before. -/
theorem violations_apply {g : Given} {s : Settings}
    (h : (Net.Endpoint.parse? (apply g s).listener.bindAddress).isSome)
    (hs : (Net.Endpoint.parse? s.listener.bindAddress).isSome) :
    (apply g s).violations = (apply (g.without "port") s).violations := by
  have haddress : (apply (g.without "port") s).listener.bindAddress = s.listener.bindAddress :=
    (leaves_apply _ s).bindAddress (g.value?_without "port" "port")
  rw [apply_eq_without_port g s]
  simp only [Settings.violations, Settings.requireEndpoint, haddress, hs, h]
  rfl

/-- A port over an address that can be read gives an address that is read with the same host and
scope and with that port. So the gateway can listen there exactly if it could before, and validation
tells what it would tell without the port, which is what it told of the settings if nothing else is
given. All settings that are not named stay. -/
theorem port_keeps_host {g : Given} {s : Settings} {e : Net.Endpoint} {n : Nat}
    (he : Net.Endpoint.parse? s.listener.bindAddress = some e)
    (hn : (g.value? "port").bind port? = some n) :
    Net.Endpoint.parse? (apply g s).listener.bindAddress = some { e with port := n } ∧
    Net.canListen (apply g s).listener.bindAddress = Net.canListen s.listener.bindAddress ∧
    (apply g s).violations = (apply (g.without "port") s).violations ∧
    (g.without "port" = [] → (apply g s).violations = s.violations) ∧
    Leaves g s (apply g s) := by
  obtain ⟨text, -, htext⟩ := Option.bind_eq_some_iff.mp hn
  have haddress : (apply g s).listener.bindAddress = Net.withPort s.listener.bindAddress n := by
    simp only [apply, hn]
  have hparse : Net.Endpoint.parse? (apply g s).listener.bindAddress =
      some { e with port := n } := by
    rw [haddress]
    exact Net.Endpoint.parse?_withPort he (lt_of_port? htext)
  have hviolations : (apply g s).violations = (apply (g.without "port") s).violations := by
    refine violations_apply ?_ ?_
    · rw [hparse, Option.isSome_some]
    · rw [he, Option.isSome_some]
  refine ⟨hparse, ?_, hviolations, ?_, leaves_apply g s⟩
  · rw [Net.canListen, Net.canListen, hparse, he, Option.any_some, Option.any_some]
  · intro hport
    rw [hviolations, hport]
    rfl

/-- An address with groups left out, a scope and a port with zeros in front gets a port. -/
theorem port_keeps_host_scoped :
    let s : Settings := { listener := { bindAddress := "[fe80::1:2%007]:00080" } }
    Net.Endpoint.parse? s.listener.bindAddress =
      some ⟨.v6 0xfe800000000000000000000000010002#128, 7, 80⟩ ∧
    form.readAll ["--port", "8080"] = .ok [("port", "8080")] ∧
    Net.Endpoint.parse? (apply [("port", "8080")] s).listener.bindAddress =
      some ⟨.v6 0xfe800000000000000000000000010002#128, 7, 8080⟩ ∧
    (apply [("port", "8080")] s).listener.bindAddress = "[fe80::1:2%007]:8080" ∧
    (apply [("port", "8080")] s).violations = s.violations := by
  intro s
  have he : Net.Endpoint.parse? s.listener.bindAddress =
      some ⟨.v6 0xfe800000000000000000000000010002#128, 7, 80⟩ := by decide +kernel
  have hn : (Given.value? [("port", "8080")] "port").bind port? = some 8080 := by decide +kernel
  obtain ⟨hparse, -, -, honly, -⟩ := port_keeps_host he hn
  exact ⟨he, readAll_port (n := 8080) (by decide), hparse, by decide +kernel, honly rfl⟩

end Server

end ServiceControl.Command
