import Depository.Http.Percent

/-!
# Routes

A route is found by the method and the path of a request.  Letter case does not matter in the fixed
parts of a path, nor does one slash at its end.

* `Route` — the routes;
* `Route.find` — the route of a method and a path.
-/

namespace Depository

namespace Http

/-- A route. -/
inductive Route where
  | save
  | list
  | testSubmitted
  | read (id : String)
  | delete (id : String)
  | testStored (id : String)
  | transfer (id : String)
  deriving DecidableEq, Repr

namespace Route

/-- The parts of a path after the first slash, without the empty one after a slash at the end. -/
def parts (path : List Char) : List (List Char) :=
  match path with
  | '/' :: rest =>
    let ps := rest.splitOn '/'
    if ps.getLast? = some [] then ps.dropLast else ps
  | _ => []

/-- The part is a word, in any letter case. -/
def isWord (word : String) (part : List Char) : Bool := part.map Char.toLower == word.toList

/-- What a path leads to. -/
inductive Found where
  /-- The routes of a path, by their methods. -/
  | routes (byMethod : List (String × Route))
  /-- A part of the path cannot be decoded. -/
  | undecodable (part : List Char)

/-- The routes of a path under an id. -/
def withId (part : List Char) (routes : String → List (String × Route)) : Found :=
  match Percent.decode? part with
  | some id => .routes (routes id)
  | none => .undecodable part

/-- What a path leads to. -/
def lookup (path : List Char) : Found :=
  match parts path with
  | [top] => if isWord "storages" top then .routes [("POST", save), ("GET", list)] else .routes []
  | [top, part] =>
    if isWord "storages" top && part ≠ [] then
      withId part fun id =>
        (if isWord "direct-test" part then [("POST", testSubmitted)] else []) ++
          [("GET", read id), ("DELETE", delete id)]
    else .routes []
  | [top, part, action] =>
    if isWord "storages" top && part ≠ [] then
      if isWord "test" action then withId part fun id => [("POST", testStored id)]
      else if isWord "transfer" action then withId part fun id => [("POST", transfer id)]
      else .routes []
    else .routes []
  | _ => .routes []

end Route

end Http

end Depository
