import ServiceControl.Adapter.Page
import ServiceControl.Http.Target
import ServiceControl.Json.Writer
import ServiceControl.Text.Ascii
import ServiceControl.Text.Utf8

/-!
# Requests and responses

Methods are any tokens and differ by the case of their letters; names of headers do not. The value
of a header may hold bytes that are no text.
-/

namespace ServiceControl.Http

/-- Characters of methods and of names of headers. -/
def isTokenChar (c : Char) : Bool := c.isAlphanum || "!#$%&'*+-.^_`|~".toList.contains c

/-- Whether a text is a token. -/
def isToken (s : String) : Bool := s != "" && s.toList.all isTokenChar

/-- Bytes that may stand in the value of a header. -/
def isValueByte (b : UInt8) : Bool := b == 9 || (32 ≤ b && b != 127)

/-- Bytes of a value that is a text. -/
def isTextByte (b : UInt8) : Bool := b == 9 || (32 ≤ b && b < 127)

/-- A header; its name is in small letters. -/
structure Header where
  name : String
  value : List UInt8
  deriving DecidableEq, Repr

/-- A header, if its name and its value are well formed. -/
def Header.ofParts? (name : String) (value : List UInt8) : Option Header :=
  if isToken name && value.all isValueByte then some ⟨Text.lower name, value⟩ else none

/-- A request. -/
structure Request where
  method : String
  target : Target
  headers : List Header := []
  body : ByteArray := .empty

namespace Request

/-- A request, if all of its parts are well formed. -/
def ofParts? (method target : String) (headers : List (String × List UInt8)) (body : ByteArray) :
    Option Request := do
  let target ← Target.parse? target
  let headers ← headers.mapM fun (name, value) => Header.ofParts? name value
  if isToken method then return { method, target, headers, body } else none

/-- The text of the first header of a name. -/
def headerText? (r : Request) (name : String) : Option String :=
  match r.headers.find? (·.name == name) with
  | some h => if h.value.all isTextByte then some (Utf8.text h.value) else none
  | none => none

/-- Whether a request only asks for what stands in front of the contents. -/
def isHead (r : Request) : Bool := r.method == "HEAD"

/-- Whether a request only reads. -/
def isReading (r : Request) : Bool := r.method == "GET" || r.method == "HEAD"

end Request

/-- The contents of a response. -/
inductive Content where
  | empty
  | text (s : String)
  | json (j : Json)
  | page (e : Exposition)

/-- Contents as a text. -/
def Content.asText : Content → String
  | empty => ""
  | text s => s
  | json j => j.compact
  | page e => String.join (e.lines.map (· ++ "\n"))

/-- A response. -/
structure Response where
  status : Nat
  contentType : Option String
  content : Content

namespace Response

/-- The type of contents that are text. -/
def plainText : String := "text/plain; charset=utf-8"

/-- A response with a status only. -/
def bare (status : Nat) : Response := ⟨status, none, .empty⟩

/-- A response with a text. -/
def text (status : Nat) (s : String) : Response := ⟨status, some plainText, .text s⟩

/-- A response of success with JSON. -/
def json (j : Json) : Response := ⟨200, some "application/json", .json j⟩

/-- A response of success with a page. -/
def page : Page → Response
  | .text s => text 200 s
  | .exposition e => ⟨200, some plainText, .page e⟩

/-- The response without its contents. -/
def withoutContent (r : Response) : Response := { r with content := .empty }

/-- Whether a response tells success. -/
def isSuccess (r : Response) : Bool := 200 ≤ r.status && r.status < 300

/-- The words for a status. -/
def reason : Nat → String
  | 200 => "OK"
  | 400 => "Bad Request"
  | 404 => "Not Found"
  | 405 => "Method Not Allowed"
  | 408 => "Request Timeout"
  | 413 => "Payload Too Large"
  | 503 => "Service Unavailable"
  | _ => "Unknown"

end Response

end ServiceControl.Http
