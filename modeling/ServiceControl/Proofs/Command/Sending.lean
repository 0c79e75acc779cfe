import ServiceControl.Command.Client
import ServiceControl.Proofs.Call.RoundTrip
import ServiceControl.Proofs.Json.Writing

/-!
# What is sent is what is read

Calls with finite doubles read back from the values that they are written as. The calls of the
client have no doubles at all and do not nest deeply, so their bodies are exact, and the text of a
body is read as the call that the client made.
-/

namespace ServiceControl

namespace Command.Client.Order

open Json

/-- Labels are written as they are. -/
theorem isExact_ofMap (depth : Nat) (labels : Labels) :
    IsExact (depth + 1) (ofMap .str labels) := by
  refine fieldsExact_iff.mpr fun f hf => ?_
  obtain ⟨e, _, rfl⟩ := List.mem_map.mp hf
  trivial

/-- The values of the client's calls are written as they are. -/
theorem isExact_body (order : Order) : IsExact depthLimit order.body := by
  cases order with
  | check service source callerIp operation =>
    simp only [body, checkRequest, CheckRequest.toJson, Operation.toJson, IsExact, FieldsExact,
      AreExact, depthLimit, ofOptionalText, Option.map_none, Option.getD_none, List.map_nil,
      isExact_ofMap, and_self]
  | report service source metrics =>
    have hint (v : Int64) : -2 ^ 63 ≤ v.toInt ∧ v.toInt < 2 ^ 64 :=
      ⟨v.le_toInt, Int.lt_trans v.toInt_lt (by decide)⟩
    simp only [body, reportRequest, ReportRequest.toJson, Operation.toJson, IsExact, FieldsExact,
      AreExact, depthLimit, ofOptionalText, Option.map_none, Option.getD_none, List.map_nil,
      List.map_cons, isExact_ofMap, areExact_iff, and_self, and_true, true_and]
    intro j hj
    simp only [List.mem_map] at hj
    obtain ⟨_, ⟨⟨name, value⟩, _, rfl⟩, rfl⟩ := hj
    simp only [MetricValueSet.toJson, MetricValue.toJson, MetricValue.setField, IsExact,
      FieldsExact, AreExact, List.map_cons, List.map_nil, List.append_nil, isExact_ofMap, hint,
      and_self]

/-- The text of a body is read as its value. -/
theorem parse?_body (order : Order) : parse? order.body.compact.toUTF8 = some order.body :=
  parse?_compact order.isExact_body

/-- The body of a check is read as the call that the client made. -/
theorem read_body_check (service source : String) (callerIp : Option String) (operation : String) :
    (parse? (check service source callerIp operation).body.compact.toUTF8).bind
        CheckRequest.ofJson? = some (checkRequest service source callerIp operation) := by
  rw [parse?_body, Option.bind_some]
  exact CheckRequest.ofJson?_toJson_iff.mpr nofun

/-- The body of a report is read as the call that the client made. -/
theorem read_body_report (service source : String) (metrics : List (String × Int64)) :
    (parse? (report service source metrics).body.compact.toUTF8).bind ReportRequest.ofJson? =
      some (reportRequest service source metrics) := by
  rw [parse?_body, Option.bind_some]
  refine ReportRequest.ofJson?_toJson_iff.mpr fun o ho s hs v hv => ?_
  obtain rfl := List.mem_singleton.mp ho
  obtain ⟨⟨name, value⟩, _, rfl⟩ := List.mem_map.mp hs
  obtain rfl := List.mem_singleton.mp hv
  exact ⟨nofun, nofun⟩

end Command.Client.Order

open Command.Client in
/-- Checks and reports read back from the values that they are written as exactly if their
doubles are finite, and answers always do. What the client sends for an order is read as the
call of the order. -/
theorem calls_read_back :
    (∀ c : CheckRequest, CheckRequest.ofJson? c.toJson = some c ↔ c.IsFinite) ∧
    (∀ r : ReportRequest, ReportRequest.ofJson? r.toJson = some r ↔ r.IsFinite) ∧
    (∀ a : CheckResponse, CheckResponse.ofJson? a.toJson = some a) ∧
    (∀ service source callerIp operation,
      (Json.parse? (Order.check service source callerIp operation).body.compact.toUTF8).bind
          CheckRequest.ofJson? = some (Order.checkRequest service source callerIp operation)) ∧
    ∀ service source metrics,
      (Json.parse? (Order.report service source metrics).body.compact.toUTF8).bind
          ReportRequest.ofJson? = some (Order.reportRequest service source metrics) :=
  ⟨fun _ => CheckRequest.ofJson?_toJson_iff, fun _ => ReportRequest.ofJson?_toJson_iff,
    CheckResponse.ofJson?_toJson, Order.read_body_check, Order.read_body_report⟩

end ServiceControl
