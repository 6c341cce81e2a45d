import Depository.Ini.Document

/-!
# The remotes of an rclone configuration

A configuration is cut at its headers first, since the names of remotes may contain dots; then each
section is a document of its own.  A section is a remote if it gives its `type` as a text that is
not empty.

* `Remotes.sections` — the sections of a configuration, each with its name and its lines;
* `Remotes.list` — the names of the remotes, in the order of the file.
-/

namespace Depository

namespace Remotes

/-- A section of a configuration. -/
structure Section where
  name : List Char
  lines : List (List Char)
  deriving DecidableEq, Repr

/-- The name in a line that is a header: blanks, a name in brackets, which is not empty, blanks. -/
def headerName? (line : List Char) : Option (List Char) :=
  match Ini.headerName? (line.dropWhile Text.isBlank) with
  | some (c :: cs) => some (Text.strip Text.isBlank (c :: cs))
  | _ => none

/-- The lines before the first header, and the sections after it. -/
def split : List (List Char) → List (List Char) × List Section
  | [] => ([], [])
  | line :: rest =>
    let (before, sections) := split rest
    match headerName? line with
    | some name => ([], ⟨name, before⟩ :: sections)
    | none => (line :: before, sections)

/-- The sections of a configuration.  What stands before the first header belongs to none. -/
def sections (content : String) : List Section := (split (Text.lines content.toList)).2

/-- The document of a section gives a type. -/
def hasType (entries : Members Ini.Entry) : Bool :=
  match Members.get? "type" entries with
  | some (.leaf (.string s)) => s != ""
  | _ => false

/-- The section is a remote. -/
def Section.isRemote (s : Section) : Except Ini.Fault Bool :=
  (Ini.parse (Text.unlines s.lines)).map hasType

/-- The names of the remotes among sections. -/
def remotes : List Section → Except Ini.Fault (List String)
  | [] => .ok []
  | s :: rest => do
    let here ← s.isRemote
    let more ← remotes rest
    return if here then String.ofList s.name :: more else more

/-- The names of the remotes of a configuration, in the order of the file. -/
def list (content : String) : Except Ini.Fault (List String) := remotes (sections content)

end Remotes

end Depository
