import ServiceControl.Adapter.Registry

/-!
# Scripted adapters

Adapters for trials, whose params say what they do: whether they are valid, can be built, and can
answer, and what they answer.
-/

namespace ServiceControl.Scripted

/-- The fields that a script may use. -/
def schema : Schema :=
  [⟨"Message", .text, .required⟩, ⟨"Fail", .flag, .optional⟩, ⟨"Broken", .flag, .optional⟩,
    ⟨"Allow", .flag, .optional⟩, ⟨"Echo", .flag, .optional⟩, ⟨"Code", .text, .optional⟩,
    ⟨"Invalid", .text, .optional⟩]

/-- Whether a script sets a flag. -/
def isSet (p : Params) (name : String) : Bool := (p.flag? name).getD false

/-- The message of a script, with the call behind it if the script echoes. -/
def message (p : Params) (request : CheckRequest) : String :=
  let text := (p.text? "Message").getD ""
  if isSet p "Echo" then
    "|".intercalate
      [text, request.service, request.operation.consumer, request.callerIp.getD "-"]
  else text

/-- What a script answers. -/
def verdict (p : Params) (request : CheckRequest) : Verdict :=
  let text := message p request
  if isSet p "Fail" then .error (.check text)
  else if isSet p "Allow" then .ok none
  else
    let code := ((p.text? "Code").bind CheckCode.ofName?).getD .clientAppBlocked
    .ok (some ⟨code, text⟩)

/-- The builder of scripted checkers under a kind. -/
def builder (token : Nat) (kind : String) (schema : Schema) : CheckerBuilder where
  token := token
  schema := schema
  validate p := match p.text? "Invalid" with
    | some detail => .error (.invalidConfig detail)
    | none => .ok ()
  build _ p :=
    if isSet p "Broken" then .error (.build "broken")
    else .ok { name := kind, check := verdict p }

/-- What a scripted consumer does. -/
structure ConsumerScript where
  name : String
  /-- Every call is refused. -/
  fail : Bool := false
  /-- It cannot be built. -/
  broken : Bool := false
  /-- Every call breaks off its task. -/
  crash : Bool := false
  endpoint : Option String := none

/-- The consumer of a script. -/
def ConsumerScript.consumer (s : ConsumerScript) : Consumer where
  name := s.name
  endpoint := s.endpoint
  page _ := .text s!"scrape {s.name}"
  deliver _ _ := if s.crash then .crashed else if s.fail then .refused "scripted" else .taken

/-- The builder of the consumer of a script. -/
def ConsumerScript.builder (token : Nat) (s : ConsumerScript) : ConsumerBuilder where
  token := token
  build _ := if s.broken then .error "broken" else .ok s.consumer

end ServiceControl.Scripted

namespace ServiceControl

/-- Registers the consumers of scripts. Their builders take tokens from the given one on. -/
def Registries.withConsumers (r : Registries) (token : Nat)
    (scripts : List Scripted.ConsumerScript) : Except Collision Registries := do
  let consumers ← r.consumers.registerAll
    ((scripts.zipIdx token).map fun (s, t) => (s.name, s.builder t))
  return { r with consumers }

end ServiceControl
