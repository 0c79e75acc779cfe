import ServiceControl.Json.Value
import ServiceControl.Toml.Token

/-!
# TOML documents

A document is a table. Lines put values under keys of the table that the last header opened. A table
may be written in pieces only as far as none of its keys is set twice and none of its headers stands
twice: tables that only came up as parents of others may still get a header, tables that came up in
a dotted key may be added to by dotted keys alone.

Documents are read as JSON data. Dates become objects with one private key, which no setting has.
-/

namespace ServiceControl.Toml

/-- What stands under a key while a document is read. -/
inductive Item where
  /-- A value; it cannot be added to. -/
  | value (j : Json)
  /-- A table; implied ones have no header, dotted ones came up in a dotted key. -/
  | table (implied dotted : Bool) (items : List (String × Item))
  /-- An array of tables with headers; the last one is open. -/
  | tables (elements : List (List (String × Item)))
  deriving Inhabited

/-- The keys of a table and what stands under them. -/
abbrev Items := List (String × Item)

mutual

/-- The data of an item. -/
def Item.toJson : Item → Json
  | .value j => j
  | .table _ _ items => .obj (itemsToJson items)
  | .tables elements => .arr (elementsToJson elements)

/-- The data of the items of a table. -/
def itemsToJson : List (String × Item) → List (String × Json)
  | [] => []
  | (k, i) :: r => (k, i.toJson) :: itemsToJson r

/-- The data of tables. -/
def elementsToJson : List (List (String × Item)) → List Json
  | [] => []
  | e :: r => .obj (itemsToJson e) :: elementsToJson r

end

/-- The item under a key. -/
def find? (key : String) (items : Items) : Option Item := (items.find? (·.1 == key)).map Prod.snd

/-- The items with one put under a key. -/
def put (key : String) (item : Item) : Items → Items
  | [] => [(key, item)]
  | (k, i) :: r => if k = key then (k, item) :: r else (k, i) :: put key item r

/-- The items without a key. -/
def drop (key : String) (items : Items) : Items := items.filter (·.1 != key)

/-- Changes the table at a path. The change is told whether a dotted key opened the table.
Tables on the way that do not exist come up implied; a dotted key may not lead through a
table with a header. -/
def alterAt (dotted : Bool) (change : Bool → Items → Option Items) (isDotted : Bool)
    (items : Items) : List String → Option Items
  | [] => change isDotted items
  | key :: path => do
    match find? key items with
    | none => return put key (.table true dotted (← alterAt dotted change dotted [] path)) items
    | some (.value _) => none
    | some (.table implied d inner) =>
      if dotted && !implied then none
      else return put key (.table implied d (← alterAt dotted change d inner path)) items
    | some (.tables elements) =>
      match elements.getLast? with
      | none => none
      | some last =>
        let last ← alterAt dotted change false last path
        return put key (.tables (elements.dropLast ++ [last])) items

/-- Sets a key that is not set yet. Dotted keys end in tables that dotted keys opened, others in a
table with a header. -/
def setKey (path : List String) (key : String) (j : Json) (items : Items) : Option Items :=
  alterAt true (fun isDotted items =>
    if isDotted = path.isEmpty then none
    else match find? key items with
      | some _ => none
      | none => some (put key (.value j) items)) false items path

/-- Splits a key of at least one part into its path and its last part. -/
def splitKey? (parts : List String) : Option (List String × String) :=
  parts.getLast?.map fun last => (parts.dropLast, last)

mutual

/-- Reads a value. -/
def value? : Nat → Nat → List Char → Option (Json × List Char)
  | 0, _, _ => none
  | fuel + 1, level, cs =>
    match cs with
    | '"' :: r => (string? '"' r).map fun (s, r) => (.str s, r)
    | '\'' :: r => (string? '\'' r).map fun (s, r) => (.str s, r)
    | 't' :: 'r' :: 'u' :: 'e' :: r => some (.bool true, r)
    | 'f' :: 'a' :: 'l' :: 's' :: 'e' :: r => some (.bool false, r)
    | '[' :: r =>
      if level = 0 then none
      else (items? fuel (level - 1) (skipSpace r.length r)).map fun (l, r) => (.arr l, r)
    | '\x7b' :: r =>
      if level = 0 then none
      else match skipBlanks r with
        | '\x7d' :: r => some (.obj [], r)
        | r => (entries? fuel (level - 1) [] r).map fun (l, r) => (.obj (itemsToJson l), r)
    | cs =>
      match moment? cs with
      | some r => some (.obj [("$__toml_private_datetime", .str "")], r)
      | none => (numeral? cs).map fun (n, r) => (match n with
        | .int i => .int i
        | .float x => .float x, r)

/-- Reads the items of an array behind its bracket or a comma. -/
def items? : Nat → Nat → List Char → Option (List Json × List Char)
  | 0, _, _ => none
  | fuel + 1, level, cs =>
    match cs with
    | ']' :: r => some ([], r)
    | cs => do
      let (j, r) ← value? fuel level cs
      match skipSpace r.length r with
      | ',' :: r => do
        let (l, r) ← items? fuel level (skipSpace r.length r)
        return (j :: l, r)
      | ']' :: r => return ([j], r)
      | _ => none

/-- Reads the entries of a table in braces, behind its brace or a comma. -/
def entries? : Nat → Nat → Items → List Char → Option (Items × List Char)
  | 0, _, _, _ => none
  | fuel + 1, level, done, cs => do
    let (parts, r) ← key? cs
    let (path, key) ← splitKey? parts
    let (j, r) ← value? fuel level (skipBlanks (← char? '=' r))
    let done ← setKey path key j done
    match skipBlanks r with
    | ',' :: r => entries? fuel level done r
    | '\x7d' :: r => return (done, r)
    | _ => none

end

/-- A document while it is read. -/
structure Draft where
  /-- What is complete. -/
  root : Items := []
  /-- The header of the open table; empty before the first header. -/
  path : List String := []
  /-- Whether the open table is one of an array. -/
  isElement : Bool := false
  /-- The open table. -/
  current : Items := []

namespace Draft

/-- Puts the open table in its place. -/
def close (d : Draft) : Option Items :=
  match splitKey? d.path with
  | none => some d.current
  | some (parents, key) =>
    alterAt false (fun _ items =>
      match find? key items with
      | none =>
        some (put key
          (if d.isElement then .tables [d.current] else .table false false d.current) items)
      | some (.tables elements) =>
        if d.isElement then some (put key (.tables (elements ++ [d.current])) items) else none
      | some _ => none) false d.root parents

/-- Opens the table of a header. Of a table that came up as a parent the items are taken over. -/
def openTable (d : Draft) (parts : List String) : Option Draft := do
  let root ← d.close
  let (parents, key) ← splitKey? parts
  let found (items : Items) : Option Items := match find? key items with
    | none => some []
    | some (.table true false inner) => some inner
    | some _ => none
  let root ← alterAt false (fun _ items => some items) false root parents
  let taken ← itemsAt root parents >>= found
  let root ← alterAt false (fun _ items => some (drop key items)) false root parents
  return { root, path := parts, current := taken }
where
  /-- The items at a path. -/
  itemsAt (items : Items) : List String → Option Items
    | [] => some items
    | key :: path =>
      match find? key items with
      | some (.table _ _ inner) => itemsAt inner path
      | some (.tables elements) => elements.getLast?.bind fun e => itemsAt e path
      | _ => none

/-- Opens a new table of an array. -/
def openElement (d : Draft) (parts : List String) : Option Draft := do
  let root ← d.close
  let (parents, key) ← splitKey? parts
  let root ← alterAt false (fun _ items =>
    match find? key items with
    | none => some (put key (.tables []) items)
    | some (.tables _) => some items
    | some _ => none) false root parents
  return { root, path := parts, isElement := true }

/-- Sets a key of the open table. -/
def set (d : Draft) (parts : List String) (j : Json) : Option Draft := do
  let (path, key) ← splitKey? parts
  return { d with current := ← setKey path key j d.current }

end Draft

/-- Reads the lines of a document. -/
def lines (d : Draft) : Nat → List Char → Option Draft
  | 0, _ => none
  | fuel + 1, cs => do
    match skipBlanks cs with
    | [] => return d
    | '#' :: r => lines d fuel (← finishLine? ('#' :: r))
    | '\n' :: r => lines d fuel r
    | '\r' :: r => lines d fuel (← char? '\n' r)
    | '[' :: '[' :: r =>
      let (parts, r) ← key? r
      let r ← char? ']' (← char? ']' r)
      lines (← d.openElement parts) fuel (← finishLine? r)
    | '[' :: r =>
      let (parts, r) ← key? r
      lines (← d.openTable parts) fuel (← finishLine? (← char? ']' r))
    | cs =>
      let (parts, r) ← key? cs
      let (j, r) ← value? (2 * r.length + 2) levelLimit (skipBlanks (← char? '=' r))
      lines (← d.set parts j) fuel (← finishLine? r)

/-- Reads a document; a byte order mark may stand before it. -/
def parse? (text : String) : Option Json := do
  let cs := match text.toList with
    | c :: r => if c.toNat = 0xFEFF then r else c :: r
    | [] => []
  let d ← lines {} (cs.length + 1) cs
  return .obj (itemsToJson (← d.close))

end ServiceControl.Toml
