import ServiceControl.Net.Url
import ServiceControl.Text.Cut
import ServiceControl.Collection.SortedMap

/-!
# Sources of services documents

A locator names a file by its path or by a `file` address, or a document on the web. A fetch brings
the bytes of the document or tells why it cannot.
-/

namespace ServiceControl

/-- Where a services document is fetched from. -/
inductive Source where
  | file (path : String)
  | web (url : String)
  deriving DecidableEq, Repr

/-- Why a file cannot be read. -/
inductive FileError where
  | missing
  | isDirectory
  | notDirectory
  | nameTooLong
  | holdsNul
  deriving DecidableEq, Repr

/-- The wording of a file error. -/
def FileError.message : FileError → String
  | missing => "No such file or directory (os error 2)"
  | isDirectory => "Is a directory (os error 21)"
  | notDirectory => "Not a directory (os error 20)"
  | nameTooLong => "File name too long (os error 36)"
  | holdsNul => "file name contained an unexpected NUL byte"

/-- Why there is no document. -/
inductive FetchError where
  | file (path : String) (e : FileError)
  /-- The web did not answer. -/
  | unreachable (url : String)
  | status (url : String) (status : Nat)
  | unsupportedScheme (scheme : String)
  | invalidLocator (locator : String)
  deriving DecidableEq, Repr

/-- The wording of a fetch error. -/
def FetchError.message : FetchError → String
  | file path e => s!"reading {path}: {e.message}"
  | unreachable url => s!"fetching {url}: no answer"
  | status url n => s!"fetching {url}: unexpected status {n}"
  | unsupportedScheme scheme => s!"unsupported config source scheme '{scheme}'"
  | invalidLocator locator => s!"invalid config source '{locator}'"

namespace Source

/-- The source of a locator; addresses on the web are not looked at before they are fetched. -/
def ofLocator (locator : String) : Except FetchError Source :=
  match Text.cut? "://" locator with
  | none => .ok (.file locator)
  | some (scheme, _) =>
    if scheme = "http" ∨ scheme = "https" then .ok (.web locator)
    else if scheme = "file" then
      match (Net.Url.parse locator).toOption.bind Net.Url.filePath? with
      | some path => .ok (.file path)
      | none => .error (.invalidLocator locator)
    else .error (.unsupportedScheme scheme)

/-- The place of a source. -/
def describe : Source → String
  | file path => path
  | web url => url

/-- The path of a file that can be watched. -/
def localPath? : Source → Option String
  | file path => some path
  | web _ => none

/-- What an answer from the web brings: a document, if the status is that of
success with contents. -/
def ofAnswer (url : String) (status : Nat) (body : ByteArray) : Except FetchError ByteArray :=
  if status = 200 then .ok body else .error (.status url status)

end Source

/-- Files by name in the working directory, which holds nothing else. -/
abbrev Folder := SortedMap ByteArray

namespace Folder

/-- The most bytes of one name. -/
def longestName : Nat := 255

/-- The most bytes of a path. -/
def longestPath : Nat := 4095

/-- Directories that every host has at its root. -/
def topDirectories : List String :=
  ["dev", "etc", "home", "mnt", "opt", "proc", "root", "sys", "tmp", "usr", "var"]

/-- Where a path leads to, as far as it is read. -/
inductive Place where
  | root
  /-- A directory at the root. -/
  | top (name : String)
  /-- The working directory. -/
  | here
  /-- A directory around the working directory. -/
  | around
  | file (bytes : ByteArray)

/-- What has a name in a place. At the root only directories are known, and of what is in them only
the device that holds nothing. -/
def inPlace? (f : Folder) (name : String) : Place → Option Place
  | .root => if topDirectories.contains name then some (.top name) else none
  | .top directory => if directory = "dev" ∧ name = "null" then some (.file .empty) else none
  | .here => (f.find? name).map .file
  | .around => none
  | .file _ => none

/-- The directory above a place. -/
def above : Place → Place
  | .root => .root
  | .top _ => .root
  | _ => .around

/-- Follows a part of a path. -/
def follow (f : Folder) (place : Place) (part : String) : Except FileError Place :=
  match place with
  | .file _ => .error .notDirectory
  | place =>
    if part = "" ∨ part = "." then .ok place
    else if part = ".." then .ok (above place)
    else if longestName < part.utf8ByteSize then .error .nameTooLong
    else match f.inPlace? part place with
      | some place => .ok place
      | none => .error .missing

/-- Reads a file by its path. -/
def read (f : Folder) (path : String) : Except FileError ByteArray :=
  if path.toList.contains '\x00' then .error .holdsNul
  else if path = "" then .error .missing
  else if longestPath < path.utf8ByteSize then .error .nameTooLong
  else
    let start := if Text.startsWith path "/" then Place.root else .here
    match (Text.split '/' path).foldlM f.follow start with
    | .ok (.file bytes) => .ok bytes
    | .ok _ => .error .isDirectory
    | .error e => .error e

/-- Fetches from a source when nothing on the web answers. -/
def fetch (f : Folder) : Source → Except FetchError ByteArray
  | .file path => match f.read path with
    | .ok bytes => .ok bytes
    | .error e => .error (.file path e)
  | .web url => .error (.unreachable url)

end Folder

end ServiceControl
