import ServiceControl.Collection.Table
import ServiceControl.Text.Cut

/-!
# Command lines

Options are written with two dashes and a name, or with one dash and a letter, and each takes a
value: behind an equals sign, as the next argument, or right behind the letter. What starts with a
dash is no value unless it is attached. Reading stops at the first argument that is no option; a
command that stands there is read before the option in front of it is checked.
-/

namespace ServiceControl.Command

/-- An option that takes a value. -/
structure OptionForm where
  name : String
  letter : Option Char := none
  /-- Whether it may be given more than once. -/
  isRepeatable : Bool := false
  /-- Whether a value is well formed. -/
  accepts : String → Bool := fun _ => true

/-- Why a command line is not carried out. -/
inductive Halt where
  /-- Help is asked for, and this is it. -/
  | help (page : String)
  /-- The version is asked for. -/
  | version
  /-- The arguments make no sense. -/
  | usage
  deriving DecidableEq, Repr

/-- The status that a process ends with. -/
def Halt.exitCode : Halt → Nat
  | help _ => 0
  | version => 0
  | usage => 2

/-- The options of a command. -/
structure Form where
  options : List OptionForm
  /-- What is shown to those who ask for help. -/
  page : String := ""
  hasVersion : Bool := false

/-- Options that were given, with their values. -/
abbrev Given := Table String String

namespace Form

/-- Adds an option with its value, if that is allowed. -/
def add (given : Given) (o : OptionForm) (value : String) : Except Halt Given :=
  if !o.accepts value then .error .usage
  else if !o.isRepeatable && given.any (·.1 == o.name) then .error .usage
  else .ok (given ++ [(o.name, value)])

/-- Whether an argument may stand for the value of the option before it. -/
def isValue (arg : String) : Bool := arg == "-" || !Text.startsWith arg "-"

/-- What an argument asks for. -/
inductive Reading where
  /-- It is an option with its value. -/
  | valued (o : OptionForm) (value : String)
  /-- It is an option whose value follows. -/
  | awaiting (o : OptionForm)
  | halt (h : Halt)
  /-- It is no option. -/
  | other

/-- Reads what follows two dashes. -/
def readLong (f : Form) (text : String) : Reading :=
  match Text.cut? "=" text with
  | some (name, value) =>
    match f.options.find? (·.name == name) with
    | some o => .valued o value
    | none => .halt .usage
  | none =>
    match f.options.find? (·.name == text) with
    | some o => .awaiting o
    | none =>
      if text = "help" then .halt (.help f.page)
      else if text = "version" && f.hasVersion then .halt .version
      else .halt .usage

/-- Reads what follows one dash. -/
def readShort (f : Form) (letter : Char) (rest : List Char) : Reading :=
  match f.options.find? (·.letter == some letter) with
  | some o =>
    match rest with
    | [] => .awaiting o
    | '=' :: value => .valued o (String.ofList value)
    | value => .valued o (String.ofList value)
  | none =>
    if letter = 'h' then .halt (.help f.page)
    else if letter = 'V' && f.hasVersion then .halt .version
    else .halt .usage

/-- Reads an argument. -/
def readArgument (f : Form) (arg : String) : Reading :=
  match arg.toList with
  | '-' :: '-' :: name => if name.isEmpty then .other else f.readLong (String.ofList name)
  | '-' :: letter :: rest => f.readShort letter rest
  | _ => .other

/-- A command line that was read up to its first argument that is no option. -/
structure Front where
  given : Given := []
  /-- The last option with its value, if the value stood in an argument of its own. It is added once
  more is known of the command line. -/
  pending : Option (OptionForm × String) := none
  rest : List String := []

/-- The options with the pending one added. -/
def Front.settle (front : Front) : Except Halt Given :=
  match front.pending with
  | some (o, value) => add front.given o value
  | none => .ok front.given

/-- Reads options up to the first argument that is none. An option settles the one before it. -/
def read (f : Form) (front : Front) : List String → Except Halt Front
  | [] => .ok front
  | arg :: rest =>
    match f.readArgument arg with
    | .other => .ok { front with rest := arg :: rest }
    | .halt h => front.settle.bind fun _ => .error h
    | .valued o value =>
      match front.settle.bind fun given => add given o value with
      | .error h => .error h
      | .ok given => f.read { given } rest
    | .awaiting o =>
      match front.settle, rest with
      | .error h, _ => .error h
      | .ok given, value :: rest =>
        if isValue value then f.read { given, pending := some (o, value) } rest else .error .usage
      | .ok _, [] => .error .usage

/-- Reads options and nothing else; two dashes may stand behind them. -/
def readAll (f : Form) (args : List String) : Except Halt Given :=
  match f.read {} args with
  | .error h => .error h
  | .ok front => if front.rest = [] ∨ front.rest = ["--"] then front.settle else .error .usage

end Form

namespace Given

/-- The value of an option that was given. -/
def value? (g : Given) (name : String) : Option String := Table.find? name g

/-- The values of an option that may be given more than once. -/
def values (g : Given) (name : String) : List String := (g.filter (·.1 == name)).map (·.2)

end Given

end ServiceControl.Command
