import ServiceControl.Settings.Basic
import ServiceControl.Text.Ascii
import ServiceControl.Text.Blank
import ServiceControl.Text.Cut

/-!
# Filters of the process log

A filter is a list of directives with commas between them. A directive tells from which level on
events are shown, of all targets or of those that begin with a text. Of the directives that an event
meets, the most specific decides: that with the longest target, of those the one with the most
fields, and of those the one whose fields have the last names. What is no directive is left out, and
without any only errors are shown.
-/

namespace ServiceControl

/-- How much a log shows, or how much it takes for an event to be shown. -/
inductive LogLevel where
  | off
  | error
  | warn
  | info
  | debug
  | trace
  deriving DecidableEq, Repr

namespace LogLevel

/-- The levels in order; their places are their numbers. -/
def all : List (String × LogLevel) :=
  [("off", off), ("error", error), ("warn", warn), ("info", info), ("debug", debug),
    ("trace", trace)]

/-- The place of a level in the order. -/
def rank (l : LogLevel) : Nat := (all.map (·.2)).idxOf l

/-- Reads a level: its number, or its name in letters of either case. -/
def parse? (s : String) : Option LogLevel :=
  match (Text.nat? s.toList).bind (all[·]?) with
  | some (_, l) => some l
  | none => (all.find? fun e => Text.SameLetters e.1 s).map (·.2)

end LogLevel

/-- An event of the log, as far as a filter looks at it. -/
structure LogEvent where
  target : String
  fields : List String
  level : LogLevel

/-- A directive. -/
structure LogDirective where
  /-- What the target begins with. -/
  target : Option String := none
  /-- Fields that the event has. -/
  fields : List String := []
  /-- Whether it only concerns what happens inside of spans, or values of fields. -/
  isScoped : Bool := false
  level : LogLevel := .trace
  deriving DecidableEq, Repr

namespace LogDirective

/-- Reads the level behind an equals sign; nothing there means that everything is shown. -/
def levelOf? (cs : List Char) : Option LogLevel :=
  if cs.isEmpty then some .trace else LogLevel.parse? (String.ofList cs)

/-- Reads what stands behind the bracket of a span: a level or blanks. -/
def behindSpan? (d : LogDirective) (cs : List Char) : Option LogDirective :=
  match cs with
  | '=' :: level => (levelOf? level).map fun level => { d with level }
  | cs => if cs.all Text.isBlank then some d else none

/-- Reads a span: its name, and in braces the fields that it has. -/
def span? (target : Option String) (cs : List Char) : Option LogDirective :=
  let name := cs.takeWhile fun c => c != ']' && c != '\x7b'
  match cs.drop name.length with
  | ']' :: r => behindSpan? { target := target, isScoped := true } r
  | '\x7b' :: r =>
    let field := r.takeWhile (· != '\x7d')
    match r.drop field.length with
    | '\x7d' :: ']' :: r =>
      if field.isEmpty then none
      else
        let isScoped := !name.isEmpty || field.contains '='
        behindSpan? { target := target, fields := [String.ofList field], isScoped := isScoped } r
    | _ => none
  | _ => none

/-- Reads a directive. A level alone concerns all targets, and a target alone shows all levels. -/
def parse? (text : String) : Option LogDirective :=
  let cs := text.toList
  let isStart (c : Char) := c == '-' || c == ':' || c == '_' || c.isAlphanum || 0x80 ≤ c.toNat
  let front := cs.takeWhile fun c => c != '=' && c != '['
  match cs with
  | [] => some {}
  | '[' :: r => span? none r
  | c :: _ =>
    if Text.isBlank c || !isStart c then none
    else match cs.drop front.length with
      | '=' :: level =>
        (levelOf? level).map fun level => { target := some (String.ofList front), level }
      | '[' :: r => span? (some (String.ofList front)) r
      | _ => match LogLevel.parse? text with
        | some level => some { level }
        | none => some { target := some text }

/-- Whether an event meets a directive. -/
def meets (d : LogDirective) (e : LogEvent) : Bool :=
  !d.isScoped && d.target.all (Text.startsWith e.target) && d.fields.all e.fields.contains

/-- How specific a directive is: the size of its target, the number of its
fields, and their names. -/
def weight (d : LogDirective) : List Nat × String :=
  let size := match d.target with
    | some t => t.utf8ByteSize + 1
    | none => 0
  ([size, d.fields.length], ",".intercalate d.fields)

/-- Whether a directive gives way to another one that comes later. -/
def yields (d later : LogDirective) : Bool :=
  d.weight.1 < later.weight.1 || (d.weight.1 = later.weight.1 && d.weight.2 ≤ later.weight.2)

end LogDirective

/-- The directives of a filter in order. -/
abbrev LogFilter := List LogDirective

namespace LogFilter

/-- Reads a filter. -/
def parse (text : String) : LogFilter :=
  let directives := ((Text.split ',' text).filter (· != "")).filterMap LogDirective.parse?
  if directives.isEmpty then [{ level := .error }] else directives

/-- Whether an event is shown. -/
def shows (f : LogFilter) (e : LogEvent) : Bool :=
  let deciding := (f.filter (·.meets e)).foldl (fun best d => match best with
    | some b => if b.yields d then some d else some b
    | none => some d) none
  deciding.any fun d => e.level.rank ≤ d.level.rank

end LogFilter

namespace Settings

/-- The filter of the process log. -/
def logFilter (s : Settings) : LogFilter := .parse (logDirectives s.observability.logLevel)

/-- Whether the log shows that the server starts. -/
def showsStart (s : Settings) : Bool :=
  s.logFilter.shows ⟨"mixgate::http::server", ["message", "address"], .info⟩

/-- Whether the log shows that the run is over. -/
def showsEnd (s : Settings) : Bool := s.logFilter.shows ⟨"mixgate", ["message"], .info⟩

end Settings

end ServiceControl
