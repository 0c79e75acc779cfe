import ServiceControl.Text.Cut

/-!
# Routes

A route is the pattern of a path. A name in braces stands for any text without a slash, and with an
asterisk before it, at the end of a route, for any text at all; a brace that is written twice is a
brace. Where several routes fit a path, the one whose characters are its own for longer is taken.
Two routes clash when some path fits both and neither is preferred.
-/

namespace ServiceControl.Http

/-- A part of a route. -/
inductive RoutePart where
  | char (c : Char)
  /-- Any text without a slash. -/
  | parameter
  /-- Any text that is not empty. -/
  | remainder
  deriving DecidableEq, Repr

/-- A route by its parts. -/
abbrev Route := List RoutePart

namespace Route

/-- Where a reader of a route is. -/
inductive Place where
  | outside
  /-- Behind an opening brace. -/
  | opened
  /-- In a name, which may stand for a remainder, and behind its asterisk. -/
  | named (isRemainder behindStar : Bool)
  /-- Behind a name, where only a slash may follow. -/
  | closed
  deriving DecidableEq, Repr

/-- The characters of a pattern; those that were written twice are marked. -/
def unescape : List Char → List (Char × Bool)
  | '\x7b' :: '\x7b' :: r => ('\x7b', true) :: unescape r
  | '\x7d' :: '\x7d' :: r => ('\x7d', true) :: unescape r
  | c :: r => (c, false) :: unescape r
  | [] => []

/-- Reads the parts of a pattern. A name is not empty and holds no slash and no further asterisk;
after it comes a slash or nothing, and after that of a remainder nothing. -/
def readParts : Place → List (Char × Bool) → Option Route
  | .outside, [] => some []
  | .outside, ('\x7b', false) :: r => readParts .opened r
  | .outside, ('\x7d', false) :: _ => none
  | .outside, (c, _) :: r => (readParts .outside r).map (.char c :: ·)
  | .opened, [] => none
  | .opened, (c, _) :: r => if c = '\x7d' then none else readParts (.named (c == '*') (c == '*')) r
  | .named _ _, [] => none
  | .named isRemainder behindStar, ('\x7d', false) :: r =>
    if behindStar then none
    else if isRemainder then if r.isEmpty then some [.remainder] else none
    else (readParts .closed r).map (.parameter :: ·)
  | .named isRemainder _, (c, _) :: r =>
    if c = '*' || c = '/' then none else readParts (.named isRemainder false) r
  | .closed, [] => some []
  | .closed, (c, _) :: r => if c = '/' then (readParts .outside r).map (.char c :: ·) else none

/-- The most parameters of a route. -/
def mostParameters : Nat := 25

/-- Reads a route. It starts with a slash, and no segment of it with a colon or an asterisk. -/
def parse? (pattern : String) : Option Route :=
  let marked (segment : List Char) := segment.head?.any fun c => c == ':' || c == '*'
  if !Text.startsWith pattern "/" || (Text.splitList '/' pattern.toList).any marked then none
  else (readParts .outside (unescape pattern.toList)).filter
    fun route => route.count .parameter ≤ mostParameters

/-- Whether a path fits a route. At its end a parameter is not empty; before a slash it may be. -/
def fits : Route → List Char → Bool
  | [], cs => cs.isEmpty
  | .char c :: route, cs => match cs with
    | d :: cs => c == d && fits route cs
    | [] => false
  | .remainder :: _, cs => !cs.isEmpty
  | .parameter :: route, cs =>
    if route.isEmpty then !cs.isEmpty && !cs.contains '/'
    else cs.contains '/' && fits route (cs.dropWhile (· != '/'))

/-- Whether a route is preferred to another: where they part, it has a character. -/
def precedes : Route → Route → Bool
  | x :: r, y :: s => if x = y then precedes r s else x != .parameter && x != .remainder
  | _, _ => false

/-- Whether two routes cannot stand side by side. -/
def clash : Route → Route → Bool
  | [], [] => true
  | .char c :: r, .char d :: s => c == d && clash r s
  | .parameter :: r, .parameter :: s => clash r s
  | .parameter :: _, .remainder :: _ => true
  | .remainder :: _, .parameter :: _ => true
  | .remainder :: _, .remainder :: _ => true
  | _, _ => false

/-- No route can stand beside itself. -/
theorem clash_self (route : Route) : clash route route = true := by
  induction route with
  | nil => rfl
  | cons x r ih => cases x <;> simp [clash, ih]

/-- The value of the route that is taken for a path. -/
def find? (routes : List (Route × α)) (path : String) : Option α :=
  let fitting := routes.filter fun r => fits r.1 path.toList
  (fitting.foldl (fun best r => match best with
    | some b => if precedes r.1 b.1 then some r else some b
    | none => some r) none).map (·.2)

/-- The first of some patterns that is no route, or that clashes with one before it. -/
def firstFault? (taken : List Route) : List String → Option String
  | [] => none
  | p :: rest => match parse? p with
    | some route => if taken.any (clash route) then some p else firstFault? (taken ++ [route]) rest
    | none => some p

end Route

end ServiceControl.Http
