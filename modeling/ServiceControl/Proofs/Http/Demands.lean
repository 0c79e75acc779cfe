import ServiceControl.Http.Service

/-!
# What requests demand

The path, the method and the body of a request say whether it is refused, and with which status, or
which check or report it demands, and of which service. The gateway has no part in that. What comes
of it afterwards depends on the demand and the gateway only.
-/

namespace ServiceControl

/-- The text before an end is the text without it. -/
theorem Text.before?_eq_some_iff {ending s rest : String} :
    before? ending s = some rest ↔ s = rest ++ ending := by
  unfold before?
  constructor
  · intro h
    obtain ⟨cs, hcs, rfl⟩ := Option.map_eq_some_iff.mp h
    have hrev : s.toList.reverse = ending.toList.reverse ++ cs := afterList?_eq_some_iff.mp hcs
    have hlist : s.toList = cs.reverse ++ ending.toList := by
      rw [← List.reverse_reverse s.toList, hrev, List.reverse_append, List.reverse_reverse]
    apply String.ext
    rw [hlist, String.toList_append, String.toList_ofList]
  · rintro rfl
    have hrev : (rest ++ ending).toList.reverse = ending.toList.reverse ++ rest.toList.reverse := by
      rw [String.toList_append, List.reverse_append]
    rw [afterList?_eq_some_iff.mpr hrev, Option.map_some, List.reverse_reverse,
      String.ofList_toList]

/-- The text after a beginning is the text without it. -/
theorem Text.after?_eq_some_iff {beginning s rest : String} :
    after? beginning s = some rest ↔ s = beginning ++ rest := by
  unfold after?
  constructor
  · intro h
    obtain ⟨cs, hcs, rfl⟩ := Option.map_eq_some_iff.mp h
    have hlist : s.toList = beginning.toList ++ cs := afterList?_eq_some_iff.mp hcs
    apply String.ext
    rw [hlist, String.toList_append, String.toList_ofList]
  · rintro rfl
    have hlist : (beginning ++ rest).toList = beginning.toList ++ rest.toList :=
      String.toList_append
    rw [afterList?_eq_some_iff.mpr hlist, Option.map_some, String.ofList_toList]

namespace Http

/-! ## Paths -/

/-- A path ends like that of a call, and names a service between the beginning of all such paths and
its end, or no service if it has another beginning. -/
inductive Names (m : Method) : String → String → Prop where
  | service (name : String) : Names m (servicesPath ++ name ++ callEnd m) name
  | nothing {rest : String} (other : ∀ name, rest ≠ servicesPath ++ name) :
    Names m (rest ++ callEnd m) ""

/-- What stands before the end of a path says which service it names. -/
theorem names_serviceOf (m : Method) (rest : String) :
    Names m (rest ++ callEnd m) (serviceOf rest) := by
  unfold serviceOf
  cases h : Text.after? servicesPath rest with
  | some name =>
    obtain rfl := Text.after?_eq_some_iff.mp h
    exact .service name
  | none =>
    refine .nothing fun name hname => ?_
    rw [Text.after?_eq_some_iff.mpr hname] at h
    cases h

/-- A path that names a service has the end of its call. -/
theorem Names.exists_eq {m : Method} {path name : String} (h : Names m path name) :
    ∃ rest, path = rest ++ callEnd m := by
  cases h with
  | service => exact ⟨_, rfl⟩
  | nothing => exact ⟨_, rfl⟩

/-- No path ends like that of a check and like that of a report. -/
theorem check_ne_report (rest rest' : String) :
    rest ++ callEnd .check ≠ rest' ++ callEnd .report := by
  intro h
  have hlast := congrArg (fun s : String => s.toList.getLast?) h
  have hcheck : (callEnd .check).toList.getLast? = some 'k' := by decide
  have hreport : (callEnd .report).toList.getLast? = some 't' := by decide
  simp only [String.toList_append, List.getLast?_append, hcheck, hreport, Option.some_or] at hlast
  exact absurd hlast (by decide)

/-- So the call is known from the path, and so is the service. -/
theorem callOf?_eq_of_eq (m : Method) (rest : String) :
    callOf? (rest ++ callEnd m) = some (m, serviceOf rest) := by
  unfold callOf?
  cases m with
  | check => rw [Text.before?_eq_some_iff.mpr rfl]
  | report =>
    have hcheck : Text.before? (callEnd .check) (rest ++ callEnd .report) = none := by
      rw [Option.eq_none_iff_forall_ne_some]
      intro rest' h
      exact check_ne_report rest' rest (Text.before?_eq_some_iff.mp h).symm
    rw [hcheck, Text.before?_eq_some_iff.mpr rfl]
    rfl

/-- A path that is not known has no such end. -/
theorem callOf?_eq_none_iff {path : String} :
    callOf? path = none ↔ ∀ (m : Method) (rest : String), path ≠ rest ++ callEnd m := by
  constructor
  · rintro h m rest rfl
    rw [callOf?_eq_of_eq] at h
    cases h
  · intro h
    have hnone (m : Method) : Text.before? (callEnd m) path = none := by
      rw [Option.eq_none_iff_forall_ne_some]
      exact fun rest hrest => h m rest (Text.before?_eq_some_iff.mp hrest)
    simp only [callOf?, hnone, Option.map_none]

/-- The call and the service of a path are those that it names. -/
theorem callOf?_eq_some_iff {path name : String} {m : Method} :
    callOf? path = some (m, name) ↔ Names m path name := by
  constructor
  · intro h
    have hsome : ¬∀ (m : Method) (rest : String), path ≠ rest ++ callEnd m := by
      rw [← callOf?_eq_none_iff, h]
      exact nofun
    obtain ⟨m', hm'⟩ := Classical.not_forall.mp hsome
    obtain ⟨rest, hrest⟩ := Classical.not_forall.mp hm'
    obtain rfl := Classical.not_not.mp hrest
    rw [callOf?_eq_of_eq] at h
    obtain ⟨rfl, rfl⟩ := Prod.mk.inj (Option.some.inj h)
    exact names_serviceOf m' rest
  · intro h
    cases h with
    | service =>
      rw [callOf?_eq_of_eq, serviceOf, Text.after?_eq_some_iff.mpr rfl]
      rfl
    | nothing other =>
      have hnone : Text.after? servicesPath _ = none :=
        Option.eq_none_iff_forall_ne_some.mpr fun name h =>
          other name (Text.after?_eq_some_iff.mp h)
      rw [callOf?_eq_of_eq, serviceOf, hnone]
      rfl

/-! ## Demands -/

/-- What a request to a call demands, or how it is refused. -/
inductive Demand where
  | refused (status : Nat) (why : String)
  | check (call : CheckRequest)
  | report (call : ReportRequest)

/-- What a request demands by its path, its method and its body. -/
def Request.demand (r : Request) : Demand :=
  match callOf? r.target.path with
  | none => .refused 404 "Not found"
  | some (m, service) =>
    if r.method ≠ "POST" then .refused 405 "Only POST is supported"
    else match m with
      | .check => match (Json.parse? r.body).bind CheckRequest.ofJson? with
        | none => .refused 400 malformed
        | some call => .check { call with service := nameOr call.service service }
      | .report => match (Json.parse? r.body).bind ReportRequest.ofJson? with
        | none => .refused 400 malformed
        | some call => .report { call with service := nameOr call.service service }

/-- The answer to a report, by what came of it. -/
def answerOf : Pipeline.Sending → Response
  | .sent => .json (.obj [])
  | .lost => .bare 408
  | .closed => .text 503 Gateway.queueClosedMessage

/-- A call is answered by its demand. -/
theorem answerCall_eq (g : Gateway) {r : Request} (hsize : r.body.size ≤ maxBody) :
    answerCall g r = match r.demand with
      | .refused status why => (.text status why, g)
      | .check call => (.json (g.check call).1.toJson, (g.check call).2)
      | .report call => (answerOf (g.report call).1, (g.report call).2) := by
  unfold answerCall Request.demand
  rw [if_neg (Nat.not_lt.mpr hsize)]
  cases callOf? r.target.path with
  | none => rfl
  | some x =>
    obtain ⟨m, service⟩ := x
    by_cases hpost : r.method = "POST"
    · simp only [hpost, bne_self_eq_false, Bool.false_eq_true, if_false, ne_eq, not_true]
      cases m with
      | check =>
        unfold answerCheck
        cases (Json.parse? r.body).bind CheckRequest.ofJson? <;> rfl
      | report =>
        unfold answerReport
        cases (Json.parse? r.body).bind ReportRequest.ofJson? with
        | none => rfl
        | some call =>
          simp only [Prod.mk.injEq, and_true]
          split <;> next h => rw [h]; rfl
    · have hbne : (r.method != "POST") = true := bne_iff_ne.mpr hpost
      simp only [hbne, if_true, ne_eq, hpost, not_false_eq_true]

/-- Whether a body is that of a call. -/
def isReadable (m : Method) (body : ByteArray) : Bool :=
  match m with
  | .check => ((Json.parse? body).bind CheckRequest.ofJson?).isSome
  | .report => ((Json.parse? body).bind ReportRequest.ofJson?).isSome

namespace Request

variable {r : Request} {named : String}

/-- A demand for nothing is found at no path of a call. -/
theorem demand_of_notFound (h : ∀ (m : Method) (rest : String), r.target.path ≠ rest ++ callEnd m) :
    r.demand = .refused 404 "Not found" := by
  rw [demand, callOf?_eq_none_iff.mpr h]

theorem demand_of_notPost {m : Method} (h : Names m r.target.path named)
    (hpost : r.method ≠ "POST") :
    r.demand = .refused 405 "Only POST is supported" := by
  simp only [demand, callOf?_eq_some_iff.mpr h, if_pos hpost]

theorem demand_of_malformed {m : Method} (h : Names m r.target.path named)
    (hpost : r.method = "POST") (hbody : isReadable m r.body = false) :
    r.demand = .refused 400 malformed := by
  simp only [demand, callOf?_eq_some_iff.mpr h, hpost, ne_eq, not_true, if_false]
  cases m with
  | check =>
    have hnone : (Json.parse? r.body).bind CheckRequest.ofJson? = none := by
      simpa [isReadable] using hbody
    simp only [hnone]
  | report =>
    have hnone : (Json.parse? r.body).bind ReportRequest.ofJson? = none := by
      simpa [isReadable] using hbody
    simp only [hnone]

theorem demand_of_check {call : CheckRequest} (h : Names .check r.target.path named)
    (hpost : r.method = "POST")
    (hbody : (Json.parse? r.body).bind CheckRequest.ofJson? = some call) :
    r.demand = .check { call with service := nameOr call.service named } := by
  simp only [demand, callOf?_eq_some_iff.mpr h, hpost, ne_eq, not_true, if_false, hbody]

theorem demand_of_report {call : ReportRequest} (h : Names .report r.target.path named)
    (hpost : r.method = "POST")
    (hbody : (Json.parse? r.body).bind ReportRequest.ofJson? = some call) :
    r.demand = .report { call with service := nameOr call.service named } := by
  simp only [demand, callOf?_eq_some_iff.mpr h, hpost, ne_eq, not_true, if_false, hbody]

/-- The demands of requests, and when they come up. -/
inductive Demands (r : Request) : Demand → Prop where
  | notFound (path : ∀ (m : Method) (rest : String), r.target.path ≠ rest ++ callEnd m) :
    Demands r (.refused 404 "Not found")
  | notPost {m : Method} {named : String} (path : Names m r.target.path named)
    (method : r.method ≠ "POST") : Demands r (.refused 405 "Only POST is supported")
  | malformed {m : Method} {named : String} (path : Names m r.target.path named)
    (method : r.method = "POST") (body : isReadable m r.body = false) :
    Demands r (.refused 400 malformed)
  | check {named : String} {call : CheckRequest} (path : Names .check r.target.path named)
    (method : r.method = "POST")
    (body : (Json.parse? r.body).bind CheckRequest.ofJson? = some call) :
    Demands r (.check { call with service := nameOr call.service named })
  | report {named : String} {call : ReportRequest} (path : Names .report r.target.path named)
    (method : r.method = "POST")
    (body : (Json.parse? r.body).bind ReportRequest.ofJson? = some call) :
    Demands r (.report { call with service := nameOr call.service named })

/-- There are no other ones. -/
theorem demands_demand (r : Request) : Demands r r.demand := by
  cases hcall : callOf? r.target.path with
  | none =>
    have hpath := callOf?_eq_none_iff.mp hcall
    rw [demand_of_notFound hpath]
    exact .notFound hpath
  | some x =>
    obtain ⟨m, named⟩ := x
    have hpath := callOf?_eq_some_iff.mp hcall
    by_cases hpost : r.method = "POST"
    · cases m with
      | check =>
        cases hbody : (Json.parse? r.body).bind CheckRequest.ofJson? with
        | none =>
          have hread : isReadable .check r.body = false := by simp [isReadable, hbody]
          rw [demand_of_malformed hpath hpost hread]
          exact .malformed hpath hpost hread
        | some call =>
          rw [demand_of_check hpath hpost hbody]
          exact .check hpath hpost hbody
      | report =>
        cases hbody : (Json.parse? r.body).bind ReportRequest.ofJson? with
        | none =>
          have hread : isReadable .report r.body = false := by simp [isReadable, hbody]
          rw [demand_of_malformed hpath hpost hread]
          exact .malformed hpath hpost hread
        | some call =>
          rw [demand_of_report hpath hpost hbody]
          exact .report hpath hpost hbody
    · rw [demand_of_notPost hpath hpost]
      exact .notPost hpath hpost

end Request

/-- The status with which a demand is refused. -/
def Demand.refusal? : Demand → Option Nat
  | .refused status _ => some status
  | .check _ | .report _ => none

namespace Request

variable {r : Request}

/-- The path is looked at first: no call is found at it. -/
theorem refusal_notFound_iff : r.demand.refusal? = some 404 ↔
    ∀ (m : Method) (rest : String), r.target.path ≠ rest ++ callEnd m := by
  constructor
  · intro h
    have hdemands := demands_demand r
    generalize r.demand = d at h hdemands
    cases hdemands with
    | notFound hpath => exact hpath
    | notPost | malformed | check | report => cases h
  · intro hpath
    rw [demand_of_notFound hpath]
    rfl

/-- The method is looked at next: it is not that of a call. -/
theorem refusal_notPost_iff : r.demand.refusal? = some 405 ↔
    (∃ (m : Method) (rest : String), r.target.path = rest ++ callEnd m) ∧ r.method ≠ "POST" := by
  constructor
  · intro h
    have hdemands := demands_demand r
    generalize r.demand = d at h hdemands
    cases hdemands with
    | notPost hpath hpost => exact ⟨⟨_, hpath.exists_eq⟩, hpost⟩
    | notFound | malformed | check | report => cases h
  · rintro ⟨⟨m, rest, hrest⟩, hpost⟩
    have hpath : Names m r.target.path (serviceOf rest) := hrest ▸ names_serviceOf m rest
    rw [demand_of_notPost hpath hpost]
    rfl

/-- The body is looked at last: it is not that of the call at the path. -/
theorem refusal_malformed_iff : r.demand.refusal? = some 400 ↔ r.method = "POST" ∧
    ∃ (m : Method) (rest : String), r.target.path = rest ++ callEnd m ∧
      isReadable m r.body = false := by
  constructor
  · intro h
    have hdemands := demands_demand r
    generalize r.demand = d at h hdemands
    cases hdemands with
    | malformed hpath hpost hbody =>
      obtain ⟨rest, hrest⟩ := hpath.exists_eq
      exact ⟨hpost, _, rest, hrest, hbody⟩
    | notFound | notPost | check | report => cases h
  · rintro ⟨hpost, m, rest, hrest, hbody⟩
    have hpath : Names m r.target.path (serviceOf rest) := hrest ▸ names_serviceOf m rest
    rw [demand_of_malformed hpath hpost hbody]
    rfl

end Request

end Http

end ServiceControl
