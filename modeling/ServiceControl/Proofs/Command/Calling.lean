import ServiceControl.Proofs.Command.Sending
import ServiceControl.Proofs.Http.Demands
import ServiceControl.Proofs.Net.Paths

/-!
# Where the client's calls arrive

The client puts the name of a service between the address of the gateway and the end of the call, as
it is. What of this stays in the path of the URL decides which call the gateway takes the request
for: all of it, unless the name has a question mark or a number sign, behind which the end of the
call is lost. The body names the service, so the rest of the path does not matter.
-/

namespace ServiceControl

namespace Command.Client

open Http Net

/-- The address of a gateway on the web, without anything behind its host but slashes. -/
structure Base where
  /-- The host as it is written, perhaps with a user and a port. -/
  site : String
  slashes : Nat := 0
  host : Option Host
  port : Option Nat
  plain : ∀ c ∈ site.toList, Url.endsAuthority .web c = false ∧ Url.isTrimmed c = false
  reads : Url.authority .web site.toList ['/'] = .ok (host, port)

namespace Base

variable (b : Base) (order : Order)

/-- The text of the address. -/
def text : String := "http://" ++ b.site ++ String.ofList (List.replicate b.slashes '/')

/-- An order for the gateway at the address. -/
def errand : Errand := ⟨b.text, order⟩

/-- What stands behind the slash after the host. -/
def tail : String := "v1/services/" ++ order.service ++ callEnd order.method

theorem site_ne_nil : b.site.toList ≠ [] := by
  intro hnil
  have hreads := b.reads
  rw [hnil] at hreads
  cases hreads

/-- Slashes at the end are dropped. -/
theorem dropWhile_slashes {front : List Char} {c : Char} (hc : c ≠ '/') (n : Nat) :
    ((front ++ [c] ++ List.replicate n '/').reverse.dropWhile (· == '/')).reverse =
      front ++ [c] := by
  have hslashes : ∀ d ∈ List.replicate n '/', (d == '/') = true := fun d hd =>
    beq_iff_eq.mpr (List.eq_of_mem_replicate hd)
  rw [List.reverse_append, List.reverse_replicate, List.dropWhile_append_of_pos hslashes,
    List.reverse_concat, List.dropWhile_cons_of_neg (by simp [hc]), ← List.reverse_concat,
    List.reverse_reverse]

theorem address_errand : (b.errand order).address = "http://" ++ b.site ++ "/" ++ tail order := by
  obtain ⟨front, c, hsite⟩ := (List.eq_nil_or_concat' b.site.toList).resolve_left b.site_ne_nil
  have hc : c ≠ '/' := by
    rintro rfl
    have hplain : Url.endsAuthority .web '/' = false := (b.plain '/' (by simp [hsite])).1
    exact absurd hplain (by decide)
  have htext : b.text.toList =
      "http://".toList ++ front ++ [c] ++ List.replicate b.slashes '/' := by
    simp only [text, String.toList_append, String.toList_ofList, hsite, List.append_assoc]
  have hbase : String.ofList ("http://".toList ++ front ++ [c]) = "http://" ++ b.site := by
    rw [← String.toList_inj, String.toList_ofList, String.toList_append, hsite, List.append_assoc]
  have hslash : servicesPath = "/" ++ "v1/services/" := by decide
  rw [Errand.address, errand, htext, dropWhile_slashes hc, hbase, tail, hslash]
  simp only [String.append_assoc]

/-- The URL of an order. -/
def url : Url :=
  let x := Url.readResource .web ((tail order).toList.filter (!Url.isLayout ·))
  { scheme := "http"
    host := b.host
    port := b.port
    path := x.path
    query := x.query
    fragment := x.fragment }

theorem parse_address : Url.parse (b.errand order).address = .ok (b.url order) := by
  have htail : ∀ c ∈ (tail order).toList.getLast?, Url.isTrimmed c = false := by
    have hend : ∀ m : Method, (callEnd m).toList ≠ [] ∧
        (callEnd m).toList.any Url.isTrimmed = false := by
      rintro (_ | _) <;> decide
    intro c hc
    rw [tail, String.toList_append,
      List.getLast?_append_of_ne_nil _ (hend order.method).1] at hc
    exact Bool.eq_false_iff.mpr
      (List.any_eq_false.mp (hend order.method).2 c (List.mem_of_getLast? hc))
  rw [address_errand, Url.parse_web b.site_ne_nil b.plain htail]
  exact Url.hosted_web (fun c hc => (b.plain c hc).1) b.reads

/-- A request is sent unless its URL is too long. -/
theorem url?_errand : (b.errand order).url? =
    if (b.url order).text.utf8ByteSize ≤ Target.maxLength then some (b.url order) else none := by
  rw [Errand.url?, parse_address]
  simp only [Except.toOption, Option.filter_some, decide_eq_true_eq]

end Base

/-! ### Ends of calls -/

theorem isPlainEnd_callEnd (m : Method) : Url.IsPlainEnd (callEnd m).toList := by
  cases m with
  | check => exact ⟨by decide, by decide⟩
  | report => exact ⟨by decide, by decide⟩

namespace Order

variable (order : Order)

/-- The name has no character that ends a path. -/
def IsWhole : Prop := ∀ c ∈ order.service.toList, c ≠ '?' ∧ c ≠ '#'

/-- What of a name stays in a path. -/
def kept : List Char := Url.pathChars (order.service.toList.filter (!Url.isLayout ·))

/-- What of a name and the end of its call stays in a path. -/
def pathEnd : List Char :=
  Url.pathChars ((order.service ++ callEnd order.method).toList.filter (!Url.isLayout ·))

/-- The path of the URL ends like that of a call. -/
def Reaches (m : Method) : Prop := (callEnd m).toList <:+ order.pathEnd

variable {order} {m m' : Method}

/-- No path ends like those of both calls. -/
theorem Reaches.unique (h : order.Reaches m) (h' : order.Reaches m') : m = m' := by
  have hends : ∀ m m' : Method, (callEnd m).toList <:+ (callEnd m').toList → m = m' := by
    rintro (_ | _) (_ | _) <;> decide
  rcases List.suffix_or_suffix_of_suffix h h' with h | h
  · exact hends m m' h
  · exact (hends m' m h).symm

theorem pathChars_of_isWhole (h : order.IsWhole) (cs : List Char) :
    Url.pathChars (order.service.toList.filter (!Url.isLayout ·) ++ cs) =
      order.service.toList.filter (!Url.isLayout ·) ++ Url.pathChars cs := by
  refine List.takeWhile_append_of_pos fun c hc => ?_
  obtain ⟨hquery, hfragment⟩ := h c (List.mem_filter.mp hc).1
  simp only [bne_iff_ne, ne_eq, Bool.and_eq_true]
  exact ⟨hquery, hfragment⟩

theorem pathEnd_eq : order.pathEnd = Url.pathChars
    (order.service.toList.filter (!Url.isLayout ·) ++ (callEnd order.method).toList) := by
  have hend : ∀ m : Method, (callEnd m).toList.filter (!Url.isLayout ·) = (callEnd m).toList := by
    rintro (_ | _) <;> decide
  rw [pathEnd, String.toList_append, List.filter_append, hend]

/-- The end of the call stays behind a name that is whole. -/
theorem pathEnd_of_isWhole (h : order.IsWhole) :
    order.pathEnd = order.kept ++ (callEnd order.method).toList := by
  have hkept : order.kept = order.service.toList.filter (!Url.isLayout ·) := by
    have hchars := pathChars_of_isWhole h []
    rw [List.append_nil] at hchars
    exact hchars.trans (List.append_nil _)
  have hend : ∀ m : Method, Url.pathChars (callEnd m).toList = (callEnd m).toList := by
    rintro (_ | _) <;> decide
  rw [pathEnd_eq, pathChars_of_isWhole h, hend, hkept]

/-- Nothing stays behind a name that is cut. -/
theorem pathEnd_of_not_isWhole (h : ¬order.IsWhole) : order.pathEnd = order.kept := by
  rw [pathEnd_eq, Url.pathChars, List.takeWhile_append, if_neg]
  · rfl
  · intro hlength
    have hall := (List.takeWhile_prefix _).eq_of_length hlength
    have hplain : ∀ c ∈ order.service.toList.filter (!Url.isLayout ·),
        (c != '?' && c != '#') = true := by
      intro c hc
      rw [← hall] at hc
      have hpass := List.mem_takeWhile_imp hc
      exact hpass
    refine h fun c hc => ⟨?_, ?_⟩
    · rintro rfl
      exact absurd (hplain '?' (List.mem_filter.mpr ⟨hc, by decide⟩)) (by decide)
    · rintro rfl
      exact absurd (hplain '#' (List.mem_filter.mpr ⟨hc, by decide⟩)) (by decide)

theorem reaches_method_iff : order.Reaches order.method ↔
    order.IsWhole ∨ (callEnd order.method).toList <:+ order.kept := by
  by_cases h : order.IsWhole
  · rw [Reaches, pathEnd_of_isWhole h]
    exact iff_of_true (List.suffix_append ..) (.inl h)
  · rw [Reaches, pathEnd_of_not_isWhole h, or_iff_right h]

theorem reaches_other_iff (hm : m ≠ order.method) : order.Reaches m ↔
    ¬order.IsWhole ∧ (callEnd m).toList <:+ order.kept := by
  by_cases h : order.IsWhole
  · refine iff_of_false (fun hreach => hm (hreach.unique (reaches_method_iff.mpr (.inl h)))) ?_
    exact fun hcut => hcut.1 h
  · rw [Reaches, pathEnd_of_not_isWhole h, and_iff_right h]

/-- The path of the URL ends as the name and the end of the call do. -/
theorem suffix_pathText_url_iff (b : Base) :
    (callEnd m).toList <:+ (b.url order).pathText.toList ↔ order.Reaches m := by
  have hend := isPlainEnd_callEnd m
  have hchars : ∀ c ∈ Url.pathChars ((Base.tail order).toList.filter (!Url.isLayout ·)),
      Url.isLayout c = false := by
    intro c hc
    have hmem := (List.takeWhile_prefix _).subset hc
    simpa using (List.mem_filter.mp hmem).2
  have htail : Url.pathChars ((Base.tail order).toList.filter (!Url.isLayout ·)) =
      "v1/services".toList ++ '/' :: order.pathEnd := by
    have hlayout : ("v1/services/".toList.all (!Url.isLayout ·)) = true := by decide
    have hstays : ("v1/services/".toList.all fun c => c != '?' && c != '#') = true := by decide
    have hslash : "v1/services/".toList = "v1/services".toList ++ ['/'] := by decide
    rw [Base.tail, String.append_assoc, String.toList_append, List.filter_append,
      List.filter_eq_self.mpr (List.all_eq_true.mp hlayout), Url.pathChars,
      List.takeWhile_append_of_pos (List.all_eq_true.mp hstays), hslash, List.append_assoc,
      List.singleton_append]
    rfl
  rw [Url.suffix_pathText_iff hend hchars (Url.path_readResource .web _), htail,
    Text.suffix_append_cons_iff hend.slash_notMem]
  rfl

end Order

/-! ### Demands -/

namespace Order

/-- The call that the client makes. -/
def demand : Order → Demand
  | check service source callerIp operation =>
    .check (checkRequest service source callerIp operation)
  | report service source metrics => .report (reportRequest service source metrics)

/-- What is left of an order that is taken for the other call: the name of the service. -/
def misread : Order → Demand
  | check service _ _ _ => .report { service }
  | report service _ _ => .check { service }

/-- The fields of a check but the service are unknown to reports. -/
theorem misread_body_check (service source : String) (callerIp : Option String)
    (operation : String) :
    (Json.parse? (check service source callerIp operation).body.compact.toUTF8).bind
        ReportRequest.ofJson? = some { service } := by
  rw [parse?_body, Option.bind_some]
  rfl

/-- The fields of a report but the service are unknown to checks. -/
theorem misread_body_report (service source : String) (metrics : List (String × Int64)) :
    (Json.parse? (report service source metrics).body.compact.toUTF8).bind CheckRequest.ofJson? =
      some { service } := by
  rw [parse?_body, Option.bind_some]
  rfl

end Order

namespace Base

variable {b : Base} {order : Order} {m : Method}

/-- The request that is sent for an order. -/
def request (b : Base) (order : Order) : Request := (b.errand order).requestTo (b.url order)

/-- Without a name the path is that of a call for no service. -/
theorem pathText_url_of_empty (h : order.service = "") :
    (b.url order).pathText = servicesPath ++ "" ++ callEnd order.method := by
  have hpath : ∀ m : Method, (Url.readResource .web
      (("v1/services/" ++ "" ++ callEnd m).toList.filter (!Url.isLayout ·))).path =
        ["v1", "services", callEnd m] := by
    rintro (_ | _) <;> decide
  have htext : ∀ m : Method, "/" ++ "/".intercalate ["v1", "services", callEnd m] =
      servicesPath ++ "" ++ callEnd m := by
    rintro (_ | _) <;> decide
  rw [Url.pathText, url, tail, h, hpath, htext]

/-- A path that ends like that of a call names a service for it, but the name of
the order counts. -/
theorem exists_names (h : order.Reaches m) : ∃ named,
    Names m (b.request order).target.path named ∧ nameOr order.service named = order.service := by
  by_cases hempty : order.service = ""
  · have hwhole : order.IsWhole := by
      intro c hc
      rw [hempty] at hc
      cases hc
    obtain rfl : m = order.method := h.unique (Order.reaches_method_iff.mpr (.inl hwhole))
    have hnames : Names order.method (servicesPath ++ "" ++ callEnd order.method) "" := .service ""
    rw [← pathText_url_of_empty (b := b) hempty] at hnames
    exact ⟨"", hnames, by rw [hempty]; rfl⟩
  · obtain ⟨front, hfront⟩ := (Order.suffix_pathText_url_iff b).mpr h
    have hpath : (b.url order).pathText = String.ofList front ++ callEnd m := by
      rw [← String.toList_inj, String.toList_append, String.toList_ofList, hfront]
    have hnames := names_serviceOf m (String.ofList front)
    rw [← hpath] at hnames
    exact ⟨_, hnames, if_neg hempty⟩

/-- An order that reaches its call is taken for what it is. -/
theorem demand_of_reaches (h : order.Reaches order.method) :
    (b.request order).demand = order.demand := by
  obtain ⟨named, hnames, hname⟩ := exists_names (b := b) h
  cases order with
  | check service source callerIp operation =>
    rw [Request.demand_of_check hnames rfl (Order.read_body_check ..)]
    exact congrArg (fun s => Demand.check
      { Order.checkRequest service source callerIp operation with service := s }) hname
  | report service source metrics =>
    rw [Request.demand_of_report hnames rfl (Order.read_body_report ..)]
    exact congrArg (fun s => Demand.report
      { Order.reportRequest service source metrics with service := s }) hname

/-- An order that reaches the other call is taken for that one. -/
theorem demand_of_reaches_other (hm : m ≠ order.method) (h : order.Reaches m) :
    (b.request order).demand = order.misread := by
  obtain ⟨named, hnames, hname⟩ := exists_names (b := b) h
  cases order with
  | check service source callerIp operation =>
    obtain rfl : m = .report := by
      cases m with
      | check => exact absurd rfl hm
      | report => rfl
    rw [Request.demand_of_report hnames rfl (Order.misread_body_check ..)]
    exact congrArg (fun s => Demand.report { service := s }) hname
  | report service source metrics =>
    obtain rfl : m = .check := by
      cases m with
      | check => rfl
      | report => exact absurd rfl hm
    rw [Request.demand_of_check hnames rfl (Order.misread_body_report ..)]
    exact congrArg (fun s => Demand.check { service := s }) hname

/-- An order that reaches neither call is refused. -/
theorem demand_of_not_reaches (h : ∀ m, ¬order.Reaches m) :
    (b.request order).demand = .refused 404 "Not found" := by
  refine Request.demand_of_notFound fun m rest hpath => h m ?_
  rw [← Order.suffix_pathText_url_iff b]
  have htext : (b.url order).pathText.toList = rest.toList ++ (callEnd m).toList := by
    rw [← String.toList_append]
    exact congrArg String.toList hpath
  rw [htext]
  exact List.suffix_append ..

end Base

namespace Order

variable {order : Order}

theorem misread_ne_demand : order.misread ≠ order.demand := by
  cases order <;> exact nofun

theorem refused_ne_demand {status : Nat} {why : String} : .refused status why ≠ order.demand := by
  cases order <;> exact nofun

theorem refused_ne_misread {status : Nat} {why : String} : .refused status why ≠ order.misread := by
  cases order <;> exact nofun

/-- What a gateway does with an order that it takes for what it is. -/
def answer (g : Gateway) : Order → Response × Gateway
  | check service source callerIp operation =>
    let (response, g) := g.check (checkRequest service source callerIp operation)
    (.json response.toJson, g)
  | report service source metrics =>
    let (sending, g) := g.report (reportRequest service source metrics)
    (answerOf sending, g)

end Order

namespace Base

variable (b : Base) (order : Order)

/-- An order reaches its call, the other one, or none. -/
theorem demand_cases :
    (order.Reaches order.method ∧ (b.request order).demand = order.demand) ∨
    ((∃ m ≠ order.method, order.Reaches m) ∧ (b.request order).demand = order.misread) ∨
    ((∀ m, ¬order.Reaches m) ∧ (b.request order).demand = .refused 404 "Not found") := by
  by_cases hown : order.Reaches order.method
  · exact .inl ⟨hown, demand_of_reaches hown⟩
  · by_cases hother : ∃ m ≠ order.method, order.Reaches m
    · obtain ⟨m, hm, hreach⟩ := hother
      exact .inr (.inl ⟨⟨m, hm, hreach⟩, demand_of_reaches_other hm hreach⟩)
    · have hnone : ∀ m, ¬order.Reaches m := by
        intro m hreach
        by_cases hm : m = order.method
        · exact hown (hm ▸ hreach)
        · exact hother ⟨m, hm, hreach⟩
      exact .inr (.inr ⟨hnone, demand_of_not_reaches hnone⟩)

theorem demand_eq_iff : (b.request order).demand = order.demand ↔ order.Reaches order.method := by
  refine ⟨fun h => ?_, demand_of_reaches⟩
  rcases demand_cases b order with ⟨hreach, -⟩ | ⟨-, hdemand⟩ | ⟨-, hdemand⟩
  · exact hreach
  · exact absurd (hdemand.symm.trans h) Order.misread_ne_demand
  · exact absurd (hdemand.symm.trans h) Order.refused_ne_demand

theorem demand_eq_misread_iff : (b.request order).demand = order.misread ↔
    ∃ m ≠ order.method, order.Reaches m := by
  refine ⟨fun h => ?_, fun ⟨m, hm, hreach⟩ => demand_of_reaches_other hm hreach⟩
  rcases demand_cases b order with ⟨-, hdemand⟩ | ⟨hother, -⟩ | ⟨-, hdemand⟩
  · exact absurd (h.symm.trans hdemand) Order.misread_ne_demand
  · exact hother
  · exact absurd (hdemand.symm.trans h) Order.refused_ne_misread

theorem demand_eq_refused_iff : (b.request order).demand = .refused 404 "Not found" ↔
    ∀ m, ¬order.Reaches m := by
  refine ⟨fun h => ?_, demand_of_not_reaches⟩
  rcases demand_cases b order with ⟨-, hdemand⟩ | ⟨-, hdemand⟩ | ⟨hnone, -⟩
  · exact absurd (h.symm.trans hdemand) Order.refused_ne_demand
  · exact absurd (h.symm.trans hdemand) Order.refused_ne_misread
  · exact hnone

/-- A gateway does what an order asks for if it takes it for what it is. -/
theorem answerCall_request (g : Gateway) (hsize : (b.request order).body.size ≤ maxBody)
    (h : (b.request order).demand = order.demand) :
    answerCall g (b.request order) = order.answer g := by
  rw [answerCall_eq g hsize, h]
  cases order <;> rfl

end Base

end Command.Client

open Command.Client Net in
/-- A gateway at an address of eight groups. -/
def localBase : Base where
  site := "[::1]:9092"
  host := some (.address (.v6 1))
  port := some 9092
  plain c hc := by
    have hall : ("[::1]:9092".toList.all fun c =>
        !Net.Url.endsAuthority .web c && !Net.Url.isTrimmed c) = true := by decide
    simpa using List.all_eq_true.mp hall c hc
  reads := by decide

open Command.Client Http in
/-- The request of an order is sent unless its URL is too long. The gateway takes it for the call
that the client makes exactly if the name of the service has no question mark and no number sign, or
what stands before the first of them ends as the path of this call does. If that ends as the path of
the other call does, the gateway takes the request for that call, and finds the name of the service
only. Otherwise it finds no call. A body of up to two mebibytes is then answered as the call is. -/
theorem order_arrives_iff (b : Base) (order : Order) :
    (b.errand order).url? =
      (if (b.url order).text.utf8ByteSize ≤ Target.maxLength then some (b.url order) else none) ∧
    ((b.request order).demand = order.demand ↔
      order.IsWhole ∨ (callEnd order.method).toList <:+ order.kept) ∧
    ((b.request order).demand = order.misread ↔
      ¬order.IsWhole ∧ ∃ m ≠ order.method, (callEnd m).toList <:+ order.kept) ∧
    ((b.request order).demand = .refused 404 "Not found" ↔
      ¬order.IsWhole ∧ ∀ m, ¬(callEnd m).toList <:+ order.kept) ∧
    ∀ g : Gateway, (b.request order).body.size ≤ maxBody →
      (b.request order).demand = order.demand →
      answerCall g (b.request order) = order.answer g := by
  refine ⟨b.url?_errand order, (b.demand_eq_iff order).trans Order.reaches_method_iff,
    (b.demand_eq_misread_iff order).trans ?_, (b.demand_eq_refused_iff order).trans ?_,
    b.answerCall_request order⟩
  · constructor
    · rintro ⟨m, hm, hreach⟩
      obtain ⟨hcut, hend⟩ := (Order.reaches_other_iff hm).mp hreach
      exact ⟨hcut, m, hm, hend⟩
    · rintro ⟨hcut, m, hm, hend⟩
      exact ⟨m, hm, (Order.reaches_other_iff hm).mpr ⟨hcut, hend⟩⟩
  · by_cases hwhole : order.IsWhole
    · refine iff_of_false (fun hnone => ?_) fun h => h.1 hwhole
      exact hnone order.method (Order.reaches_method_iff.mpr (.inl hwhole))
    · simp only [Order.Reaches, Order.pathEnd_of_not_isWhole hwhole, hwhole, not_false_eq_true,
        true_and]

open Command.Client Http in
/-- A check of a service with a plain name is sent, and done as it was asked for. -/
theorem order_arrives_iff_books :
    let order := Order.check "books" "web" (some "10.0.0.1") "op-1"
    (localBase.errand order).url? = some (localBase.url order) ∧
      (localBase.request order).demand = order.demand ∧
      ∀ g, answerCall g (localBase.request order) = order.answer g := by
  intro order
  obtain ⟨hsent, hdemand, -, -, hanswer⟩ := order_arrives_iff localBase order
  have hwhole : order.IsWhole := by
    have hall : ("books".toList.all fun c => c != '?' && c != '#') = true := by decide
    intro c hc
    simpa using List.all_eq_true.mp hall c hc
  have harrives := hdemand.mpr (.inl hwhole)
  refine ⟨hsent.trans (if_pos (by decide +kernel)), harrives, fun g => hanswer g ?_ harrives⟩
  decide +kernel

open Command.Client in
/-- Behind a question mark the end of the call is lost. -/
theorem not_forall_order_arrives : ¬∀ (e : Errand) (url : Net.Url), e.url? = some url →
    (e.requestTo url).demand = e.order.demand := by
  intro h
  have hsent : (localBase.errand (.check "a?b" "" none "cli-op")).url? =
      some (localBase.url (.check "a?b" "" none "cli-op")) := by
    rw [Base.url?_errand, if_pos]
    decide +kernel
  have hdemand := (Base.demand_eq_iff _ _).mp (h _ _ hsent)
  exact absurd hdemand (by unfold Order.Reaches; decide)

end ServiceControl
